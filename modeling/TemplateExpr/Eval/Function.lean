import TemplateExpr.Eval.Property
import TemplateExpr.Json.Parser
import TemplateExpr.Method.Basic
import TemplateExpr.Number.Arithmetic
import TemplateExpr.Number.Text
import TemplateExpr.Value.DateTime

/-!
# Functions of the host

The functions that are called by name, those of the namespaces, and the methods of references to
nodes and of the input.
-/

namespace TemplateExpr

open TemplateExpr.Text

/-! ### Functions that are called by name -/

/-- The integer at the start of the text of an argument, in the base of the second one. -/
def parseIntOf (args : List Value) : Value :=
  .number (Number.parseInt (Arguments.nth args 0).toChars (Arguments.number? args 1))

/-- The number at the start of the text of an argument. -/
def parseFloatOf (args : List Value) : Value :=
  .number (Number.parseFloat (Arguments.nth args 0).toChars)

/-- Calls a function by name. -/
def Builtin.call (b : Builtin) (args : List Value) : Except EvalError Value :=
  let v := Arguments.nth args 0
  match b with
  | parseInt => .ok (parseIntOf args)
  | parseFloat => .ok (parseFloatOf args)
  | isNaN => .ok (.bool (Number.isNaN v.toNumber))
  | isFinite => .ok (.bool (Number.isFinite v.toNumber))
  | string => .ok (.string (if args.isEmpty then "" else v.toText))
  | boolean => .ok (.bool v.truthy)
  | nodeSelector =>
    match v with
    | .string node => .ok (.host (.node node))
    | v => .error (.invalidArgument b.name (.notNodeName v.kind))

namespace Namespace

/-- A function of a namespace. -/
abbrev Run := Caller → List Value → Eval Value

/-! ### Math -/

/-- The first number of a list. -/
def firstNumber (xs : List Float) : Float := xs.headD Number.nan

/-- A function of one number. -/
def ofOne (f : Float → Float) (xs : List Float) : Float := f (firstNumber xs)

/-- The number that is left of a list when `f` chooses between two; a NaN if there is one among
them. -/
def chosen (f : Float → Float → Float) (start : Float) (xs : List Float) : Float :=
  if xs.any Number.isNaN then Number.nan else xs.foldl f start

/-- The functions on numbers. -/
def mathTable : List (String × (List Float → Float)) :=
  [("abs", ofOne Float.abs), ("ceil", ofOne Float.ceil), ("floor", ofOne Float.floor),
   ("round", ofOne Number.roundHalfUp), ("trunc", ofOne Number.trunc), ("sign", ofOne Number.sign),
   ("sqrt", ofOne Float.sqrt), ("cbrt", ofOne Number.cubeRoot), ("exp", ofOne Float.exp),
   ("log", ofOne Float.log), ("log10", ofOne Float.log10), ("log2", ofOne Float.log2),
   ("sin", ofOne Float.sin), ("cos", ofOne Float.cos), ("tan", ofOne Float.tan),
   ("pow", fun xs => Number.power (firstNumber xs) (firstNumber xs.tail)),
   ("hypot", fun xs => (Number.total (xs.map fun x => x * x)).sqrt),
   ("min", chosen Number.smaller Number.infinity),
   ("max", chosen Number.larger (-Number.infinity))]

/-- Calls a function on numbers. -/
def callMath (name : String) (args : List Value) : Eval Value :=
  match mathTable.lookup name with
  | some f => pure (.number (f (args.map Value.toNumber)))
  | none => Eval.fail (.unknownMethod name .object)

/-! ### JSON -/

/-- The JSON of a value, on several lines if the third argument is at least one. -/
def stringify (args : List Value) : Eval Value :=
  let v := Arguments.nth args 0
  if v.isOmitted then pure .undefined
  else do
    let out :=
      if 1 ≤ (args[2]?.map Value.toNumber).getD 0 then v.toJson.pretty else v.toJson.compact
    Eval.reserve out.utf8ByteSize
    pure (.string out)

/-- The value of JSON. -/
def parseJson (args : List Value) : Eval Value := do
  let s := (Arguments.nth args 0).toText
  Eval.reserve s.utf8ByteSize
  match Json.parseString s with
  | .ok j => pure (.ofJson j)
  | .error message => Eval.fail (.invalidArgument "JSON.parse" (.json message))

/-- Calls a function on JSON. -/
def callJson (name : String) (args : List Value) : Eval Value :=
  if name == "stringify" then stringify args
  else if name == "parse" then parseJson args
  else Eval.fail (.unknownMethod name .object)

/-! ### Object -/

/-- The fields of a value: those of an object, and the items of an array under their positions. -/
def fieldsOf : Value → List (String × Value)
  | .object fields => fields
  | .array items =>
    (List.range items.length).zip items |>.map fun (i, item) => (Digit.decimal i, item)
  | _ => []

/-- The fields of a value as an array. -/
def listFields (name : String) (take : String × Value → Value) (args : List Value) :
    Eval Value := do
  let v := Arguments.nth args 0
  if v.isNullish then Eval.fail (.invalidArgument ("Object." ++ name) .nullish)
  let fields := fieldsOf v
  Eval.reserveSlots fields.length
  pure (.array (fields.map take))

/-- The fields of several objects in one, behind those of `out`; later ones count. -/
def assign (out : Fields Value) : List Value → Eval Value
  | [] => pure (.object out)
  | .object fields :: more => do
    Eval.reserveSlots fields.length
    assign (out.extend fields) more
  | _ :: more => assign out more

/-- The field that a pair stands for. -/
def fieldOf? : Value → Option (String × Value)
  | .array pair => some ((pair.head?.map Value.toText).getD "", Arguments.nth pair 1)
  | _ => none

/-- The object of an array of pairs. -/
def fromEntries (args : List Value) : Eval Value :=
  match Arguments.nth args 0 with
  | .array entries => do
    Eval.reserveSlots entries.length
    pure (.object (Fields.ofPairs (entries.filterMap fieldOf?)))
  | _ => Eval.fail (.invalidArgument "Object.fromEntries" .notPairs)

/-- Calls a function on objects. -/
def callObject (name : String) (args : List Value) : Eval Value :=
  if name == "keys" then listFields name (fun f => .string f.1) args
  else if name == "values" then listFields name (fun f => f.2) args
  else if name == "entries" then listFields name (fun f => .array [.string f.1, f.2]) args
  else if name == "assign" then assign [] args
  else if name == "fromEntries" then fromEntries args
  else Eval.fail (.unknownMethod name .object)

/-! ### Array -/

/-- The length that a value claims to have. -/
def claimedLength? (fields : Fields Value) : Option Nat :=
  match (fields.get? "length").map Value.toNumber with
  | some x => if 0 ≤ x && Number.isFinite x then some (Number.toNat64 x) else none
  | none => none

/-- How many items an array that is made of a value has, and the items. -/
def itemsOf (v : Value) : Nat × (Unit → List Value) :=
  match v with
  | .array items => (items.length, fun _ => items)
  | .string s => (s.length, fun _ => s.toList.map Value.ofChar)
  | .object fields =>
    let n := (claimedLength? fields).getD 0
    (n, fun _ => List.replicate n .undefined)
  | _ => (0, fun _ => [])

/-- An array that is made of a value, with a function applied to the items if there is one. -/
def arrayFrom (call : Caller) (args : List Value) : Eval Value := do
  let (n, items) := itemsOf (Arguments.nth args 0)
  Eval.reserveSlots n
  let f := Arguments.nth args 1
  if f.isFunction then
    let out ← Eval.mapItems (fun i item => call f [item, .ofNat i]) (items ())
    pure (.array out)
  else pure (.array (items ()))

/-- Calls a function on arrays. -/
def callArray (call : Caller) (name : String) (args : List Value) : Eval Value :=
  if name == "isArray" then pure (.bool ((Arguments.nth args 0).kind = .array))
  else if name == "of" then do
    Eval.reserveSlots args.length
    pure (.array args)
  else if name == "from" then arrayFrom call args
  else Eval.fail (.unknownMethod name .object)

/-! ### Number -/

/-- A condition on a number; other values do not meet it. -/
def isNumberWith (p : Float → Bool) : Value → Bool
  | .number x => p x
  | _ => false

/-- Calls a function on numbers and their texts. -/
def callNumber (name : String) (args : List Value) : Eval Value :=
  let v := Arguments.nth args 0
  if name == "isInteger" then pure (.bool (isNumberWith Number.isIntegral v))
  else if name == "isSafeInteger" then
    pure (.bool (isNumberWith (fun x => Number.isIntegral x && x.abs ≤ Number.maxSafe) v))
  else if name == "isFinite" then pure (.bool (isNumberWith Number.isFinite v))
  else if name == "isNaN" then pure (.bool (isNumberWith Number.isNaN v))
  else if name == "parseFloat" then pure (parseFloatOf args)
  else if name == "parseInt" then pure (parseIntOf args)
  else Eval.fail (.unknownMethod name .object)

/-! ### DateTime -/

/-- The functions that read the text of a date. -/
def dateReaders : List String := ["fromISO", "fromHTTP", "fromRFC2822", "fromSQL"]

/-- Calls a function on dates. -/
def callDateTime (name : String) (args : List Value) : Eval Value := do
  let v := Arguments.nth args 0
  if name == "now" || name == "local" then pure (.date (← read).context.now)
  else if dateReaders.contains name then
    let t ← DateTime.ofText v.toText
    pure (.date t)
  else if name == "fromMillis" then
    let t ← DateTime.ofNumber v.toNumber
    pure (.date t)
  else if name == "fromSeconds" then
    let t ← DateTime.ofNumber (v.toNumber * 1000)
    pure (.date t)
  else if name == "isDateTime" then pure (.bool (v.kind = .date))
  else Eval.fail (.unknownMethod name .object)

/-! ### All namespaces -/

/-- Calls a function of a namespace. -/
def call (ns : Namespace) (caller : Caller) (name : String) (args : List Value) : Eval Value :=
  match ns with
  | math => callMath name args
  | json => callJson name args
  | object => callObject name args
  | array => callArray caller name args
  | number => callNumber name args
  | dateTime => callDateTime name args

end Namespace

/-! ### Items -/

/-- The first item as it is handed to expressions. -/
def firstItem (items : List Value) : Value := (items.head?.map Context.wrapItem).getD .undefined

/-- The last item as it is handed to expressions. -/
def lastItem (items : List Value) : Value := (items.getLast?.map Context.wrapItem).getD .undefined

/-- All items as they are handed to expressions. -/
def allItems (items : List Value) : Eval Value := do
  Eval.reserveSlots items.length
  pure (.array (items.map Context.wrapItem))

/-- The item of a node that belongs to the item of the input at an index. -/
def itemMatching (node : String) (args : List Value) : Eval Value := do
  let x := (args.head?.map Value.toNumber).getD Number.nan
  match Number.asIndex? x with
  | none => Eval.fail (.invalidArgument "itemMatching" .itemIndex)
  | some i =>
    let item ← (← read).context.pairedItem node (some i)
    pure (Context.wrapItem item)

/-- Calls a method of a node. -/
def callNode (node name : String) (args : List Value) : Eval Value := do
  let c := (← read).context
  if name == "first" then pure (firstItem (← c.nodeItems node))
  else if name == "last" then pure (lastItem (← c.nodeItems node))
  else if name == "all" then allItems (← c.nodeItems node)
  else if name == "pairedItem" then pure (Context.wrapItem (← c.pairedItem node none))
  else if name == "itemMatching" then itemMatching node args
  else Eval.fail (.unknownMethod name .object)

/-- Calls a method of the input. -/
def callInput (name : String) : Eval Value := do
  let items := (← read).context.input
  if name == "first" then pure (firstItem items)
  else if name == "last" then pure (lastItem items)
  else if name == "all" then allItems items
  else Eval.fail (.unknownMethod name .object)

/-- Calls a method of a host value. -/
def Host.call (h : Host) (caller : Caller) (name : String) (args : List Value) : Eval Value :=
  match h with
  | space ns => ns.call caller name args
  | node n => callNode n name args
  | input => callInput name
  | builtin _ => Eval.fail (.unknownMethod name .function)

end TemplateExpr
