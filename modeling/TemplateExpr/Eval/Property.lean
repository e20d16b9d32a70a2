import TemplateExpr.Eval.Basic
import TemplateExpr.Number.Arithmetic

/-!
# Properties

What a value has under a name. Items of arrays and characters of texts are reached by numbers or by
the texts of numbers; everything that is not there is undefined.
-/

namespace TemplateExpr

namespace Value

/-- The item of a list at a number that is a position. -/
def itemAt {α : Type} (wrap : α → Value) (items : List α) (x : Float) : Value :=
  (((Number.asIndex? x).bind (items[·]?)).map wrap).getD .undefined

/-- What a list has under a name: its length, or the item at the number that the name is. -/
def listProperty {α : Type} (wrap : α → Value) (items : List α) (name : String) : Value :=
  if name == "length" then .ofNat items.length
  else ((Number.readDecimalOrWord? name.toList).map (itemAt wrap items)).getD .undefined

end Value

/-! ### Dates -/

/-- The parts of a date that are units of time. -/
def DateTime.parts : List (String × TimeUnit) :=
  [("year", .year), ("month", .month), ("day", .day), ("hour", .hour), ("minute", .minute),
   ("second", .second), ("millisecond", .millisecond), ("weekNumber", .week)]

/-- What a date has under a name. -/
def DateTime.property (t : DateTime) (name : String) : Value :=
  match parts.lookup name with
  | some u => .number (t.component u)
  | none =>
    if name == "weekday" then .ofNat (t.date.weekday + 1)
    else if name == "ordinal" then .ofNat t.date.dayOfYear
    else if name == "offset" then .number (Number.ofInt (t.offset.tdiv 60))
    else .undefined

/-! ### Hosts -/

/-- The constants of a namespace. -/
def Namespace.constant? (ns : Namespace) (name : String) : Option Float :=
  let table : List (String × Float) :=
    match ns with
    | .math =>
      [("PI", 3.141592653589793), ("E", 2.718281828459045), ("LN2", 0.6931471805599453),
       ("LN10", 2.302585092994046), ("SQRT2", 1.4142135623730951)]
    | .number =>
      [("MAX_SAFE_INTEGER", 9007199254740991), ("MIN_SAFE_INTEGER", -9007199254740991),
       ("EPSILON", 2.220446049250313e-16), ("MAX_VALUE", 1.7976931348623157e308),
       ("MIN_VALUE", 5e-324), ("POSITIVE_INFINITY", Number.infinity),
       ("NEGATIVE_INFINITY", -Number.infinity), ("NaN", Number.nan)]
    | _ => []
  table.lookup name

/-- An item of a node, or that there is none. -/
def Context.output (c : Context) (node : String) : Except EvalError Value :=
  match c.nodeOutput? node with
  | some item => .ok item
  | none => .error (.pairedItem (.noNodeExecutionData node))

/-- What a host value has under a name. -/
def Host.property (c : Context) (h : Host) (name : String) : Except EvalError Value :=
  match h with
  | .node n =>
    if name == "item" then (c.pairedItem n none).map Context.wrapItem
    else if name == "json" then c.output n
    else if name == "isExecuted" then .ok (.bool (c.nodeItems n).isOk)
    else .ok .undefined
  | .input => .ok (if name == "item" then Context.wrapItem c.currentInput else .undefined)
  | .space ns => .ok (((ns.constant? name).map Value.number).getD .undefined)
  | .builtin b => .ok (if name == "name" then .string b.name else .undefined)

/-! ### Values -/

namespace Value

/-- What a value has under a name, host values apart. -/
def property (v : Value) (name : String) : Value :=
  match v with
  | object fields => (Fields.get? fields name).getD undefined
  | array items => listProperty id items name
  | string s => listProperty ofChar s.toList name
  | date t => t.property name
  | _ => undefined

/-- Reads a property of a value. The nullish values have none: it is an error to read one, unless
the access is optional. -/
def read (c : Context) (v : Value) (name : String) (optional : Bool) : Except EvalError Value :=
  match v with
  | undefined | null =>
    if optional then .ok undefined else .error (.nullProperty name v.kind)
  | host h => h.property c name
  | v => .ok (v.property name)

/-- Reads a property of a value by a key: the number of an item or a character, or the text of any
value. -/
def readKey (c : Context) (v key : Value) (optional : Bool) : Except EvalError Value :=
  match v, key with
  | array items, number x => .ok (itemAt id items x)
  | string s, number x => .ok (itemAt ofChar s.toList x)
  | v, key => v.read c key.toText optional

end Value

end TemplateExpr
