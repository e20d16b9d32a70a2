import TemplateExpr.Error.Basic
import TemplateExpr.Expr.ParseError
import TemplateExpr.Location

/-!
# Problems of templates

What can be found wrong with a template without evaluating it. A `Problem` is a cause: its layer,
how grave it is, its code, its wording and what is suggested instead are functions on it. An `Issue`
is a problem and its place.
-/

namespace TemplateExpr

open TemplateExpr.Text

/-- The stages of validation, in their order. -/
inductive Layer where
  /-- Delimiters and the grammar of expressions. -/
  | grammar
  /-- Names, methods and nodes. -/
  | semantic
  /-- Blocked patterns and assignments. -/
  | security
  /-- Length, depth and complexity. -/
  | performance
  /-- Habits of authors. -/
  | business
deriving Repr, DecidableEq

namespace Layer

/-- The name of a layer. -/
def name : Layer → String
  | grammar => "syntax"
  | semantic => "semantic"
  | security => "security"
  | performance => "performance"
  | business => "business"

/-- All layers in their order. -/
def all : List Layer := [grammar, semantic, security, performance, business]

end Layer

/-- Measures of an expression that have a limit. -/
inductive Measure where
  /-- The number of bytes of its text. -/
  | length
  /-- The height of its tree. -/
  | depth
  /-- The weighted number of its nodes. -/
  | complexity
deriving Repr, DecidableEq

/-- How a measure is named. -/
def Measure.title : Measure → String
  | length => "expression length"
  | depth => "nesting depth"
  | complexity => "complexity"

/-- What is wrong with a template. -/
inductive Problem where
  /-- The template cannot be cut into segments. -/
  | delimiter (error : ParseError)
  /-- An expression cannot be read. -/
  | unreadable (error : ParseError)
  /-- A name that may not be used; the suggestion is one that may. -/
  | undefinedName (name : String) (suggestion : Option String)
  | unknownMethod (name : String)
  /-- A node of which the context has no data. -/
  | unknownNode (name : String)
  /-- Text that matches a rule. -/
  | blocked (rule : String)
  | assignment
  | computedKey
  /-- A measure that is above its limit. -/
  | above (m : Measure) (actual limit : Nat)
  /-- A measure that is above three quarters of its limit. -/
  | near (m : Measure) (actual limit : Nat)
  | nestedIteration
  | emptyExpression
  /-- Access to a node through `$node`; the node is named if it is known. -/
  | oldNodeAccess (node : Option String)
  | tooManyExpressions (count limit : Nat)
deriving Repr

namespace Problem

/-- The layer that finds a problem. -/
def layer : Problem → Layer
  | delimiter _ | unreadable _ => .grammar
  | undefinedName .. | unknownMethod _ | unknownNode _ => .semantic
  | blocked _ | assignment | computedKey => .security
  | above .. | near .. | nestedIteration => .performance
  | emptyExpression | oldNodeAccess _ | tooManyExpressions .. => .business

/-- How grave a problem is. -/
def level : Problem → ErrorLevel
  | delimiter _ | unreadable _ | undefinedName .. | blocked _ | assignment | computedKey
  | above .. => .error
  | unknownMethod _ | unknownNode _ | near .. | nestedIteration | emptyExpression | oldNodeAccess _
  | tooManyExpressions .. => .warning

/-- The code of a problem. -/
def code : Problem → String
  | delimiter _ => "unbalanced_delimiter"
  | unreadable _ => "syntax_error"
  | undefinedName .. => "undefined_variable"
  | unknownMethod _ => "unknown_method"
  | unknownNode _ => "unknown_node"
  | blocked _ => "blocked_pattern"
  | assignment => "assignment"
  | computedKey => "computed_member_access"
  | above .length .. => "max_length_exceeded"
  | above .depth .. => "max_depth_exceeded"
  | above .complexity .. => "max_complexity_exceeded"
  | near .length .. => "expression_length"
  | near .depth .. => "nesting_depth"
  | near .complexity .. => "complexity"
  | nestedIteration => "nested_iteration"
  | emptyExpression => "empty_expression"
  | oldNodeAccess _ => "legacy_node_access"
  | tooManyExpressions .. => "too_many_expressions"

/-- The wording of a problem. -/
def message : Problem → String
  | delimiter e | unreadable e => e.message
  | undefinedName name _ => "'" ++ name ++ "' is not defined"
  | unknownMethod name => "'" ++ name ++ "' is not a known method"
  | unknownNode name => "node '" ++ name ++ "' has no data in this context"
  | blocked rule => "expression matches blocked pattern '" ++ rule ++ "'"
  | assignment => "assignments are not allowed in expressions"
  | computedKey => "computed member keys are rejected in strict mode"
  | above m actual limit =>
    m.title ++ " " ++ Digit.decimal actual ++ " exceeds the limit of " ++ Digit.decimal limit
  | near m actual limit =>
    m.title ++ " " ++ Digit.decimal actual ++ " is close to the limit of " ++ Digit.decimal limit
  | nestedIteration => "iteration callbacks nested inside other callbacks"
  | emptyExpression => "expression is empty and evaluates to undefined"
  | oldNodeAccess _ => "$node[...] is deprecated"
  | tooManyExpressions count limit =>
    "template has " ++ Digit.decimal count ++ " expressions, more than the recommended " ++
      Digit.decimal limit

/-- What is suggested instead. -/
def suggestion? : Problem → Option String
  | undefinedName _ suggestion => suggestion
  | nestedIteration => some "precompute the inner collection once"
  | oldNodeAccess node => some ("use $(\"" ++ node.getD "Node" ++ "\").item instead")
  | _ => none

end Problem

/-- A problem and where it is, if it is not one of the template as a whole. -/
structure Issue where
  problem : Problem
  location? : Option Location
deriving Repr

namespace Issue

/-- The problem of a range of `source`. -/
def ofSpan (source : String) (span : Span) (problem : Problem) : Issue :=
  ⟨problem, some (.ofSpan source span)⟩

/-- Whether a template with this issue is not valid. -/
def isError (i : Issue) : Bool := i.problem.level == .error

/-- An issue as JSON; what is missing is left out. -/
def toJson (i : Issue) : Json :=
  .object
    ([("layer", .string i.problem.layer.name), ("level", .string i.problem.level.name),
      ("code", .string i.problem.code), ("message", .string i.problem.message)] ++
     i.location?.toList.map (fun l => ("location", l.toJson)) ++
     i.problem.suggestion?.toList.map (fun s => ("suggestion", .string s)))

end Issue

end TemplateExpr
