import TemplateExpr.Expr.Analysis
import TemplateExpr.Json.Basic

/-!
# Trees and analyses as JSON

The form in which expression trees and their analyses are handed to other programs.
-/

namespace TemplateExpr

/-- A number as JSON: an integer below `2 ^ 53` without a fraction, `null` for the infinities and
NaN. -/
def Json.ofNumber (x : Float) : Json :=
  if !Number.isFinite x then .null
  else
    let n := Number.truncate x
    if Number.isIntegral x && n.natAbs < Nat.pow 2 53 then .int n else .float x

/-- A range as the fields of an object. -/
def Span.fields (s : Span) : List (String × Json) :=
  [("start", .ofNat s.start), ("end", .ofNat s.stop)]

/-- A value with its range. -/
def Json.spanned (value : Json) (s : Span) : Json := .object (("value", value) :: s.fields)

/-- The kind and the value of a literal. -/
def Literal.toJson : Literal → Json
  | .number x => .object [("type", .string "number"), ("value", .ofNumber x)]
  | .string s => .object [("type", .string "string"), ("value", .string s)]
  | .bool b => .object [("type", .string "boolean"), ("value", .bool b)]
  | .null => .object [("type", .string "null")]
  | .undefined => .object [("type", .string "undefined")]

/-- The name of a binary operator in a tree. -/
def BinaryOp.name : BinaryOp → String
  | .add => "Add"
  | .subtract => "Subtract"
  | .multiply => "Multiply"
  | .divide => "Divide"
  | .modulo => "Modulo"
  | .power => "Power"
  | .equal => "Equal"
  | .notEqual => "NotEqual"
  | .strictEqual => "StrictEqual"
  | .strictNotEqual => "StrictNotEqual"
  | .less => "LessThan"
  | .lessEqual => "LessThanOrEqual"
  | .greater => "GreaterThan"
  | .greaterEqual => "GreaterThanOrEqual"
  | .and => "And"
  | .or => "Or"
  | .nullish => "Nullish"

/-- The name of a unary operator in a tree. -/
def UnaryOp.name : UnaryOp → String
  | .not => "Not"
  | .negate => "Negate"
  | .plus => "Plus"
  | .typeOf => "TypeOf"

namespace Expr

/-- A node of the tree: its kind, its data and its range. -/
def nodeJson (kind : String) (data : Json) (s : Span) : Json :=
  .spanned (.object [("node", .string kind), ("data", data)]) s

mutual

/-- The tree as JSON. -/
def toJson : Expr → Json
  | literal s v => nodeJson "literal" v.toJson s
  | ident s name => nodeJson "identifier" (.string name) s
  | array s items => nodeJson "array" (.array (listJson items)) s
  | object s entries => nodeJson "object" (.array (entriesJson entries)) s
  | member s recv name opt =>
    nodeJson "member"
      (.object [("object", recv.toJson), ("property", .string name), ("optional", .bool opt)]) s
  | index s recv key opt =>
    nodeJson "index"
      (.object [("object", recv.toJson), ("index", key.toJson), ("optional", .bool opt)]) s
  | call s callee args opt =>
    nodeJson "call"
      (.object [("callee", callee.toJson), ("arguments", .array (listJson args)),
        ("optional", .bool opt)]) s
  | unary s op operand =>
    nodeJson "unary" (.object [("operator", .string op.name), ("operand", operand.toJson)]) s
  | binary s op left right =>
    nodeJson "binary"
      (.object [("operator", .string op.name), ("left", left.toJson), ("right", right.toJson)]) s
  | conditional s test consequent alternate =>
    nodeJson "conditional"
      (.object [("test", test.toJson), ("consequent", consequent.toJson),
        ("alternate", alternate.toJson)]) s
  | lambda s params body =>
    nodeJson "lambda" (.object [("params", .ofStrings params), ("body", body.toJson)]) s
  | assign s target value =>
    nodeJson "assign" (.object [("target", target.toJson), ("value", value.toJson)]) s

/-- The trees of a list. -/
def listJson : List Expr → List Json
  | [] => []
  | e :: es => e.toJson :: listJson es

/-- The keys and trees of entries. -/
def entriesJson : List (String × Expr) → List Json
  | [] => []
  | (key, e) :: es => .array [.string key, e.toJson] :: entriesJson es

end

end Expr

/-- A dependency as JSON. -/
def Dependency.toJson (d : Dependency) : Json :=
  .object [("root", .string d.root), ("key", .ofString? d.key)]

/-- The fields of an analysis. -/
def Analysis.fields (a : Analysis) : List (String × Json) :=
  let names (xs : List (Spanned String)) : Json :=
    .array (xs.map fun x => .spanned (.string x.value) x.span)
  let ranges (xs : List Span) : Json := .array (xs.map (.spanned .null))
  [("dependencies", .array (a.dependencies.map Dependency.toJson)),
   ("dependenciesComplete", .bool a.dependenciesComplete),
   ("volatile", .bool a.volatile),
   ("freeIdentifiers", names a.freeNames),
   ("methodCalls", names a.methodCalls),
   ("nodeReferences", names a.nodeReferences),
   ("legacyNodeAccess", .bool a.oldNodeAccess),
   ("computedKeys", ranges a.computedKeys),
   ("assignments", ranges a.assignments),
   ("nestedIterations", .ofNat a.nestedIterations),
   ("complexity", .ofNat a.complexity),
   ("depth", .ofNat a.depth),
   ("nodeCount", .ofNat a.nodeCount)]

/-- An analysis as JSON. -/
def Analysis.toJson (a : Analysis) : Json := .object a.fields

end TemplateExpr
