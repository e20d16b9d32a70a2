import TemplateExpr.Proofs.Expr.Parser

/-!
# Printing expressions

`Expr.print` writes an expression as tokens. A part is put in parentheses exactly if its level is
below the one that its place asks for.
-/

namespace TemplateExpr

open TemplateExpr.Text

/-! ### Operators and literals -/

/-- The symbol of a binary operator. -/
def BinaryOp.symbol : BinaryOp → Symbol
  | add => .plus
  | subtract => .minus
  | multiply => .star
  | divide => .slash
  | modulo => .percent
  | power => .doubleStar
  | equal => .equal
  | notEqual => .notEqual
  | strictEqual => .strictEqual
  | strictNotEqual => .strictNotEqual
  | less => .less
  | lessEqual => .lessEqual
  | greater => .greater
  | greaterEqual => .greaterEqual
  | and => .doubleAnd
  | or => .doubleBar
  | nullish => .doubleQuestion

/-- The level at which the left operand is printed: that of the operator, or one higher if it groups
to the right. -/
def BinaryOp.leftLevel (op : BinaryOp) : Level :=
  if op.groupsRight then op.level + 1 else op.level

theorem BinaryOp.nullish_le_level (op : BinaryOp) : Level.nullish ≤ op.level := by
  cases op <;> decide

theorem BinaryOp.level_le_exponent (op : BinaryOp) : op.level ≤ Level.exponent := by
  cases op <;> decide

theorem BinaryOp.level_le_leftLevel (op : BinaryOp) : op.level ≤ op.leftLevel := by
  cases op <;> decide

theorem BinaryOp.level_le_rightLevel (op : BinaryOp) : op.level ≤ op.rightLevel := by
  cases op <;> decide

/-- Behind a left operand that needs no parentheses an operator does not go on with the right
operand of that operand. -/
theorem BinaryOp.level_lt_rightLevel {op op' : BinaryOp} (h : op.leftLevel ≤ op'.level) :
    op.level < op'.rightLevel := by
  have hop : op.groupsRight = true ∨ op.level < Level.exponent := by cases op <;> decide
  have hop' : op'.groupsRight = false ∨ op'.level = Level.exponent := by cases op' <;> decide
  rcases hop with hop | hop
  · rw [leftLevel, if_pos hop] at h
    exact Nat.lt_of_lt_of_le h op'.level_le_rightLevel
  rcases hop' with hop' | hop'
  · rw [rightLevel, hop', if_neg Bool.false_ne_true]
    exact Nat.lt_succ_of_le (Nat.le_trans op.level_le_leftLevel h)
  · rw [← hop'] at hop
    exact Nat.lt_of_lt_of_le hop op'.level_le_rightLevel

@[simp] theorem BinaryOp.binaryOp?_symbol (op : BinaryOp) : op.symbol.binaryOp? = some op := by
  cases op <;> rfl

/-- The token of a unary operator. -/
def UnaryOp.token : UnaryOp → Token
  | not => .symbol .bang
  | negate => .symbol .minus
  | plus => .symbol .plus
  | typeOf => .name "typeof"

/-- The token of a literal. A NaN and infinity are names. -/
def Literal.token : Literal → Token
  | number x =>
    if x = Number.nan then .name "NaN"
    else if x = Number.infinity then .name "Infinity"
    else .number x
  | string s => .string s
  | bool true => .name "true"
  | bool false => .name "false"
  | null => .name "null"
  | undefined => .name "undefined"

theorem Literal.token_ne_symbol (l : Literal) (s : Symbol) : l.token ≠ .symbol s := by
  intro h
  cases l with
  | number x =>
    rw [token] at h
    split_ifs at h
  | bool b => cases b <;> cases h
  | string s => cases h
  | null => cases h
  | undefined => cases h

/-- The words that are no identifiers. -/
def reservedWords : List String :=
  ["typeof", "true", "false", "null", "undefined", "NaN", "Infinity"] ++ unsupportedKeywords

namespace Expr

/-! ### Printing -/

/-- How tightly the parts of an expression are bound at its top. -/
def level : Expr → Level
  | assign .. | lambda .. => Level.assignment
  | conditional .. => Level.conditional
  | binary _ op _ _ => op.level
  | unary .. => Level.unary
  | literal .. | ident .. | array .. | object .. | member .. | index .. | call .. => Level.access

/-- Puts tokens in parentheses if their level is below the one that is asked for. -/
def enclose (asked level : Level) (ts : List Token) : List Token :=
  if level < asked then .symbol .openParen :: ts ++ [.symbol .closeParen] else ts

/-- The level at which an expression goes on at its end. -/
def trailing : Expr → Level
  | binary _ op _ _ => op.rightLevel
  | conditional .. | lambda .. | assign .. => Level.assignment
  | unary .. | literal .. | ident .. | array .. | object .. | member .. | index .. | call .. =>
    Level.access

theorem assignment_le_level (e : Expr) : Level.assignment ≤ e.level := by
  cases e with
  | binary _ op => exact Nat.le_trans (by decide) op.nullish_le_level
  | _ => exact Nat.le_of_ble_eq_true rfl

theorem level_le_access (e : Expr) : e.level ≤ Level.access := by
  cases e with
  | binary _ op => exact Nat.le_trans op.level_le_exponent (by decide)
  | _ => exact Nat.le_of_ble_eq_true rfl

/-- No part is asked for at the level of conditionals, which go on at their ends as assignments do.
-/
theorem le_trailing {e : Expr} {asked : Level} (hasked : asked ≠ Level.conditional)
    (h : asked ≤ e.level) : asked ≤ e.trailing := by
  cases e with
  | binary _ op => exact Nat.le_trans h op.level_le_rightLevel
  | conditional => exact Nat.le_of_lt_succ (Nat.lt_of_le_of_ne h hasked)
  | unary => exact Nat.le_trans h (Nat.le_of_ble_eq_true rfl)
  | _ => exact h

/-- Behind a left operand that needs no parentheses an operator does not go on with its end. -/
theorem level_lt_trailing {op : BinaryOp} {e : Expr} (h : op.leftLevel ≤ e.level) :
    op.level < e.trailing := by
  have hloose : Level.nullish ≤ e.level :=
    Nat.le_trans (Nat.le_trans op.nullish_le_level op.level_le_leftLevel) h
  have htight : op.level < Level.access :=
    Nat.lt_of_le_of_lt op.level_le_exponent (by decide)
  cases e with
  | binary => exact BinaryOp.level_lt_rightLevel h
  | conditional => exact absurd hloose (by decide : ¬3 ≤ 2)
  | lambda => exact absurd hloose (by decide : ¬3 ≤ 1)
  | assign => exact absurd hloose (by decide : ¬3 ≤ 1)
  | _ => exact htight

theorem height_le_heights {e : Expr} {es : List Expr} (h : e ∈ es) : e.height ≤ heights es := by
  induction es with
  | nil => cases h
  | cons e' es ih =>
    rw [heights]
    cases h with
    | head => exact Nat.le_max_left _ _
    | tail _ h => exact Nat.le_trans (ih h) (Nat.le_max_right _ _)

theorem height_le_entryHeights {f : String × Expr} {entries : List (String × Expr)}
    (h : f ∈ entries) : f.2.height ≤ entryHeights entries := by
  induction entries with
  | nil => cases h
  | cons f' entries ih =>
    rw [entryHeights]
    cases h with
    | head => exact Nat.le_max_left _ _
    | tail _ h => exact Nat.le_trans (ih h) (Nat.le_max_right _ _)

theorem enclose_of_le {asked level : Level} (h : asked ≤ level) (ts : List Token) :
    enclose asked level ts = ts :=
  if_neg (Nat.not_lt.2 h)

theorem enclose_of_lt {asked level : Level} (h : level < asked) (ts : List Token) :
    enclose asked level ts = .symbol .openParen :: ts ++ [.symbol .closeParen] :=
  if_pos h

@[simp] theorem enclose_assignment (e : Expr) (ts : List Token) :
    enclose Level.assignment e.level ts = ts :=
  enclose_of_le e.assignment_le_level ts

/-- The mark of an optional access in front of a bracket. -/
def optionalMark (optional : Bool) : List Token :=
  if optional then [.symbol .questionDot] else []

/-- The parameters of a function with commas in between. -/
def printParams : List String → List Token
  | [] => []
  | [p] => [.name p]
  | p :: ps => .name p :: .symbol .comma :: printParams ps

mutual

/-- The tokens of an expression. -/
def print : Expr → List Token
  | literal _ l => [l.token]
  | ident _ name => [.name name]
  | array _ items => .symbol .openBracket :: printItems items ++ [.symbol .closeBracket]
  | object _ entries => .symbol .openBrace :: printEntries entries ++ [.symbol .closeBrace]
  | member _ recv name optional =>
    enclose Level.access recv.level recv.print ++
      [.symbol (if optional then .questionDot else .dot), .name name]
  | index _ recv key optional =>
    enclose Level.access recv.level recv.print ++ optionalMark optional ++
      .symbol .openBracket :: enclose Level.assignment key.level key.print ++
      [.symbol .closeBracket]
  | call _ callee args optional =>
    enclose Level.access callee.level callee.print ++ optionalMark optional ++
      .symbol .openParen :: printItems args ++ [.symbol .closeParen]
  | unary _ op e => op.token :: enclose Level.unary e.level e.print
  | binary _ op left right =>
    enclose op.leftLevel left.level left.print ++
      .symbol op.symbol :: enclose op.rightLevel right.level right.print
  | conditional _ test consequent alternate =>
    enclose Level.nullish test.level test.print ++
      .symbol .question :: enclose Level.assignment consequent.level consequent.print ++
      .symbol .colon :: enclose Level.assignment alternate.level alternate.print
  | lambda _ params body =>
    .symbol .openParen :: printParams params ++ .symbol .closeParen :: .symbol .arrow ::
      enclose Level.assignment body.level body.print
  | assign _ target value =>
    enclose Level.nullish target.level target.print ++
      .symbol .assign :: enclose Level.assignment value.level value.print

/-- The tokens of expressions with commas in between. -/
def printItems : List Expr → List Token
  | [] => []
  | [e] => enclose Level.assignment e.level e.print
  | e :: es => enclose Level.assignment e.level e.print ++ .symbol .comma :: printItems es

/-- The tokens of entries with commas in between. The keys are strings. -/
def printEntries : List (String × Expr) → List Token
  | [] => []
  | [(key, e)] => .string key :: .symbol .colon :: enclose Level.assignment e.level e.print
  | (key, e) :: entries =>
    .string key :: .symbol .colon :: enclose Level.assignment e.level e.print ++
      .symbol .comma :: printEntries entries

end

/-- Expressions whose identifiers are no reserved words. -/
inductive Printable : Expr → Prop
  | literal (span : Span) (l : Literal) : Printable (.literal span l)
  | ident (span : Span) {name : String} : name ∉ reservedWords → Printable (.ident span name)
  | array (span : Span) {items : List Expr} :
    (∀ e ∈ items, Printable e) → Printable (.array span items)
  | object (span : Span) {entries : List (String × Expr)} :
    (∀ f ∈ entries, Printable f.2) → Printable (.object span entries)
  | member (span : Span) {recv : Expr} (name : String) (optional : Bool) :
    Printable recv → Printable (.member span recv name optional)
  | index (span : Span) {recv key : Expr} (optional : Bool) :
    Printable recv → Printable key → Printable (.index span recv key optional)
  | call (span : Span) {callee : Expr} {args : List Expr} (optional : Bool) :
    Printable callee → (∀ e ∈ args, Printable e) → Printable (.call span callee args optional)
  | unary (span : Span) (op : UnaryOp) {e : Expr} : Printable e → Printable (.unary span op e)
  | binary (span : Span) (op : BinaryOp) {left right : Expr} :
    Printable left → Printable right → Printable (.binary span op left right)
  | conditional (span : Span) {test consequent alternate : Expr} :
    Printable test → Printable consequent → Printable alternate →
      Printable (.conditional span test consequent alternate)
  | lambda (span : Span) (params : List String) {body : Expr} :
    Printable body → Printable (.lambda span params body)
  | assign (span : Span) {target value : Expr} :
    Printable target → Printable value → Printable (.assign span target value)

end Expr

end TemplateExpr
