import TemplateExpr.Number.Text
import TemplateExpr.Span

/-!
# Expression trees

The tree of an expression. Every node carries the span of the text it was read from; in parentheses
a node has the span of the parentheses. `height` and `nodeCount` measure a tree, `rootName?` is the
name at the bottom of a chain of accesses.
-/

namespace TemplateExpr

/-- A constant in an expression. -/
inductive Literal where
  | number (x : Float)
  | string (s : String)
  | bool (b : Bool)
  | null
  | undefined
deriving Repr

/-- Operators between two operands. -/
inductive BinaryOp where
  | add
  | subtract
  | multiply
  | divide
  | modulo
  | power
  | equal
  | notEqual
  | strictEqual
  | strictNotEqual
  | less
  | lessEqual
  | greater
  | greaterEqual
  | and
  | or
  | nullish
deriving Repr, DecidableEq

/-- Operators in front of an operand. -/
inductive UnaryOp where
  | not
  | negate
  | plus
  | typeOf
deriving Repr, DecidableEq

/-- An expression. -/
inductive Expr where
  | literal (span : Span) (value : Literal)
  | ident (span : Span) (name : String)
  | array (span : Span) (items : List Expr)
  | object (span : Span) (entries : List (String × Expr))
  | member (span : Span) (object : Expr) (property : String) (optional : Bool)
  | index (span : Span) (object key : Expr) (optional : Bool)
  | call (span : Span) (callee : Expr) (args : List Expr) (optional : Bool)
  | unary (span : Span) (op : UnaryOp) (operand : Expr)
  | binary (span : Span) (op : BinaryOp) (left right : Expr)
  | conditional (span : Span) (test consequent alternate : Expr)
  | lambda (span : Span) (params : List String) (body : Expr)
  | assign (span : Span) (target value : Expr)
deriving Inhabited

namespace Expr

/-- The range of the text that the expression was read from. -/
def span : Expr → Span
  | literal s .. | ident s .. | array s .. | object s .. | member s .. | index s .. | call s ..
  | unary s .. | binary s .. | conditional s .. | lambda s .. | assign s .. => s

/-- The same expression with another span. -/
def withSpan (s : Span) : Expr → Expr
  | literal _ v => literal s v
  | ident _ n => ident s n
  | array _ items => array s items
  | object _ entries => object s entries
  | member _ o p opt => member s o p opt
  | index _ o k opt => index s o k opt
  | call _ f args opt => call s f args opt
  | unary _ op e => unary s op e
  | binary _ op l r => binary s op l r
  | conditional _ t c a => conditional s t c a
  | lambda _ ps b => lambda s ps b
  | assign _ t v => assign s t v

/-- What kind of expression it is, as it is named in messages. -/
def label : Expr → String
  | literal .. => "literal"
  | ident .. => "identifier"
  | array .. => "array"
  | object .. => "object"
  | member .. => "member access"
  | index .. => "index access"
  | call .. => "call"
  | unary .. => "unary operation"
  | binary .. => "binary operation"
  | conditional .. => "conditional"
  | lambda .. => "arrow function"
  | assign .. => "assignment"

/-- The name at the bottom of a chain of member accesses, index accesses and calls. -/
def rootName? : Expr → Option String
  | ident _ name => some name
  | member _ recv _ _ => recv.rootName?
  | index _ recv _ _ => recv.rootName?
  | call _ callee _ _ => callee.rootName?
  | _ => none

/-- The text of a literal used as a key: strings as they are, numbers in their usual form. -/
def literalKey? : Expr → Option String
  | literal _ (.string s) => some s
  | literal _ (.number x) => some (Number.format x)
  | _ => none

/-- Whether the expression is the bare name `name`. -/
def isName (name : String) : Expr → Bool
  | ident _ n => n == name
  | _ => false

/-! ### Size -/

mutual

/-- The number of nodes on the longest path from the root to a leaf. -/
def height : Expr → Nat
  | literal .. | ident .. => 1
  | array _ items => heights items + 1
  | object _ entries => entryHeights entries + 1
  | member _ recv _ _ => recv.height + 1
  | index _ recv key _ => max recv.height key.height + 1
  | call _ callee args _ => max callee.height (heights args) + 1
  | unary _ _ operand => operand.height + 1
  | binary _ _ left right => max left.height right.height + 1
  | conditional _ test consequent alternate =>
    max test.height (max consequent.height alternate.height) + 1
  | lambda _ _ body => body.height + 1
  | assign _ target value => max target.height value.height + 1

/-- The greatest height in a list, zero for none. -/
def heights : List Expr → Nat
  | [] => 0
  | e :: es => max e.height (heights es)

/-- The greatest height among the values of entries, zero for none. -/
def entryHeights : List (String × Expr) → Nat
  | [] => 0
  | (_, e) :: es => max e.height (entryHeights es)

end

mutual

/-- The number of nodes. -/
def nodeCount : Expr → Nat
  | literal .. | ident .. => 1
  | array _ items => nodeCounts items + 1
  | object _ entries => entryNodeCounts entries + 1
  | member _ recv _ _ => recv.nodeCount + 1
  | index _ recv key _ => recv.nodeCount + key.nodeCount + 1
  | call _ callee args _ => callee.nodeCount + nodeCounts args + 1
  | unary _ _ operand => operand.nodeCount + 1
  | binary _ _ left right => left.nodeCount + right.nodeCount + 1
  | conditional _ test consequent alternate =>
    test.nodeCount + consequent.nodeCount + alternate.nodeCount + 1
  | lambda _ _ body => body.nodeCount + 1
  | assign _ target value => target.nodeCount + value.nodeCount + 1

/-- The number of nodes of a list of expressions. -/
def nodeCounts : List Expr → Nat
  | [] => 0
  | e :: es => e.nodeCount + nodeCounts es

/-- The number of nodes of the values of entries. -/
def entryNodeCounts : List (String × Expr) → Nat
  | [] => 0
  | (_, e) :: es => e.nodeCount + entryNodeCounts es

end

theorem nodeCount_pos (e : Expr) : 0 < e.nodeCount := by
  cases e <;> simp [nodeCount]

theorem height_pos (e : Expr) : 0 < e.height := by
  cases e <;> simp [height]

theorem span_withSpan (s : Span) (e : Expr) : (e.withSpan s).span = s := by
  cases e <;> rfl

end Expr

end TemplateExpr
