/-!
# Kinds and host values

The kinds by which values are told apart, and the values that stand for parts of the host: the
namespaces, the functions that are called by name, references to nodes, and the input of the current
node.
-/

namespace TemplateExpr

/-- What kind of value a value is. -/
inductive Kind where
  | string
  | number
  | boolean
  | array
  | object
  | date
  | null
  | undefined
  | function
deriving Repr, DecidableEq

namespace Kind

/-- The name of a kind. -/
def name : Kind → String
  | string => "string"
  | number => "number"
  | boolean => "boolean"
  | array => "array"
  | object => "object"
  | date => "date"
  | null => "null"
  | undefined => "undefined"
  | function => "function"

/-- The kinds whose values have methods. -/
def withMethods : List Kind := [string, number, boolean, array, object, date]

end Kind

/-! ### Namespaces -/

/-- Collections of functions and constants. -/
inductive Namespace where
  | math
  | json
  | object
  | array
  | number
  | dateTime
deriving Repr, DecidableEq

namespace Namespace

/-- The name by which a namespace is reached. -/
def name : Namespace → String
  | math => "Math"
  | json => "JSON"
  | object => "Object"
  | array => "Array"
  | number => "Number"
  | dateTime => "DateTime"

/-- All namespaces. -/
def all : List Namespace := [math, json, object, array, number, dateTime]

/-- The namespace with a name. -/
def ofName? (name : String) : Option Namespace := all.find? (·.name == name)

/-- The functions of a namespace. -/
def functions : Namespace → List String
  | math =>
    ["abs", "ceil", "floor", "round", "trunc", "sign", "sqrt", "cbrt", "exp", "log", "log10",
     "log2", "sin", "cos", "tan", "pow", "hypot", "min", "max"]
  | json => ["stringify", "parse"]
  | object => ["keys", "values", "entries", "assign", "fromEntries"]
  | array => ["isArray", "from", "of"]
  | number => ["isInteger", "isSafeInteger", "isFinite", "isNaN", "parseFloat", "parseInt"]
  | dateTime =>
    ["now", "local", "fromISO", "fromHTTP", "fromRFC2822", "fromSQL", "fromMillis", "fromSeconds",
     "isDateTime"]

/-- The constants of a namespace. -/
def constants : Namespace → List String
  | math => ["PI", "E", "LN2", "LN10", "SQRT2"]
  | number =>
    ["MAX_SAFE_INTEGER", "MIN_SAFE_INTEGER", "EPSILON", "MAX_VALUE", "MIN_VALUE",
     "POSITIVE_INFINITY", "NEGATIVE_INFINITY", "NaN"]
  | _ => []

end Namespace

/-! ### Functions that are called by name -/

/-- Functions that are called by name. -/
inductive Builtin where
  | parseInt
  | parseFloat
  | isNaN
  | isFinite
  | string
  | boolean
  /-- Names a node of the workflow. -/
  | nodeSelector
deriving Repr, DecidableEq

/-- The name of a function. -/
def Builtin.name : Builtin → String
  | parseInt => "parseInt"
  | parseFloat => "parseFloat"
  | isNaN => "isNaN"
  | isFinite => "isFinite"
  | string => "String"
  | boolean => "Boolean"
  | nodeSelector => "$"

/-! ### Host values -/

/-- Values that stand for parts of the host. -/
inductive Host where
  | space (ns : Namespace)
  | builtin (b : Builtin)
  | node (name : String)
  | input
deriving Repr, DecidableEq

namespace Host

/-- The kind of a host value. -/
def kind : Host → Kind
  | builtin _ => .function
  | _ => .object

/-- How a host value is shown. -/
def text : Host → String
  | space ns => "[object " ++ ns.name ++ "]"
  | builtin b => "[Function: " ++ b.name ++ "]"
  | node name => "[Node: " ++ name ++ "]"
  | input => "[Input]"

/-- The methods of a reference to a node. -/
def nodeMethods : List String := ["first", "last", "all", "itemMatching", "pairedItem"]

/-- The properties of a reference to a node. -/
def nodeProperties : List String := ["item", "json", "isExecuted"]

/-- The methods of the input. -/
def inputMethods : List String := ["first", "last", "all"]

/-- Whether some host value has a function called `name`. -/
def hasFunction (name : String) : Bool :=
  nodeMethods.contains name || Namespace.all.any (·.functions.contains name)

end Host

end TemplateExpr
