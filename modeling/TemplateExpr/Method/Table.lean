import TemplateExpr.Method.Array
import TemplateExpr.Method.Date
import TemplateExpr.Method.Number
import TemplateExpr.Method.Object
import TemplateExpr.Method.Text

/-!
# The tables of methods

Each kind of value has a table of methods. The tables serve calls (`invoke`) and documentation
(`methodsOf`).
-/

namespace TemplateExpr

/-! ### Documentation -/

/-- What is to be known about a method. -/
structure MethodInfo where
  name : String
  kind : Kind
  signature : String
  description : String
  usage : String
deriving Repr, DecidableEq

/-- What is to be known about the methods of a table. -/
def infoOf {ρ : Type} (kind : Kind) (table : List (Method ρ)) : List MethodInfo :=
  table.map fun m => ⟨m.name, kind, m.signature, m.description, m.usage⟩

/-- The methods of a kind. -/
def methodsOf : Kind → List MethodInfo
  | .string => infoOf .string TextMethod.table
  | .number => infoOf .number NumberMethod.table
  | .boolean => infoOf .boolean BooleanMethod.table
  | .array => infoOf .array ArrayMethod.table
  | .object => infoOf .object ObjectMethod.table
  | .date => infoOf .date DateMethod.table
  | .null | .undefined | .function => []

/-- The methods of all kinds; of several with one name, the first is listed. -/
def allMethods : List MethodInfo :=
  (Kind.withMethods.flatMap methodsOf).foldl
    (fun listed m => if listed.any (·.name == m.name) then listed else listed ++ [m]) []

/-- Whether a kind has a method. -/
def Kind.hasMethod (kind : Kind) (name : String) : Bool := (methodsOf kind).any (·.name == name)

/-- Whether any kind has a method. -/
def isMethod (name : String) : Bool := Kind.withMethods.any (·.hasMethod name)

/-! ### Calls -/

/-- Calls a method of a table. -/
def invokeFrom {ρ : Type} (table : List (Method ρ)) (kind : Kind) (call : Caller) (receiver : ρ)
    (name : String) (args : List Value) : Eval Value :=
  match table.find? (·.name == name) with
  | some m => m.run call receiver args
  | none => Eval.fail (.unknownMethod name kind)

/-- Calls a method of a value. -/
def invoke (call : Caller) (receiver : Value) (name : String) (args : List Value) : Eval Value :=
  match receiver with
  | .undefined | .null => Eval.fail (.nullReceiver name)
  | .string s => invokeFrom TextMethod.table .string call s name args
  | .number x => invokeFrom NumberMethod.table .number call x name args
  | .bool b => invokeFrom BooleanMethod.table .boolean call b name args
  | .array items => invokeFrom ArrayMethod.table .array call items name args
  | .object fields => invokeFrom ObjectMethod.table .object call fields name args
  | .date t => invokeFrom DateMethod.table .date call t name args
  | v@(.function ..) | v@(.host _) => Eval.fail (.unknownMethod name v.kind)

end TemplateExpr
