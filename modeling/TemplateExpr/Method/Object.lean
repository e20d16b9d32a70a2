import TemplateExpr.Method.Basic
import TemplateExpr.Text.Encoding

/-!
# Methods of objects
-/

namespace TemplateExpr.ObjectMethod

open TemplateExpr.Text

/-- What a method does to fields with arguments. -/
abbrev Run := Caller → Fields Value → List Value → Eval Value

/-- A value that depends on the fields alone. -/
def convert (f : Fields Value → Value) : Run := fun _ fields _ => pure (f fields)

/-- A field as a pair of its key and its value. -/
def entry (field : String × Value) : Value := .array [.string field.1, field.2]

/-- The fields as pairs. -/
def entries : Run := fun _ fields _ => do
  Eval.reserveSlots (2 * fields.length)
  pure (.array (fields.map entry))

/-- Whether there is a field. -/
def hasField : Run := fun _ fields args => do
  let name ← Arguments.text "hasField" args 0
  pure (.bool (fields.has name))

/-- The fields without one. -/
def removeField : Run := fun _ fields args => do
  let name ← Arguments.text "removeField" args 0
  pure (.object (fields.erase name))

/-- The fields with those of another object that are missing. -/
def merge : Run := fun _ fields args => do
  match Arguments.nth args 0 with
  | .object more =>
    let out := more.foldl (fun out f => out.insertNew f.1 f.2) fields
    Eval.reserveSlots (2 * out.length)
    pure (.object out)
  | _ => Eval.fail (.invalidArgument "merge" .notObject)

/-- Whether a field is kept by `compact`. -/
def isPresent : String × Value → Bool
  | (_, .undefined) | (_, .null) => false
  | (_, .string s) => !s.isEmpty
  | _ => true

/-- The query string of the fields that have a value. -/
def urlEncode (fields : Fields Value) : Value :=
  .ofChars (PercentCode.formEncodePairs
    ((fields.filter fun f => !f.2.isNullish).map fun f => (f.1.toList, f.2.toChars)))

/-- The fields as JSON. -/
def toJsonString : Run := fun _ fields _ => do
  let out := (Value.object fields).jsonText
  Eval.reserve out.utf8ByteSize
  pure (.string out)

/-- The methods of objects. -/
def table : List (Method (Fields Value)) :=
  [⟨"keys", "keys()", "Field names in order", "\x7ba: 1\x7d.keys()",
    convert fun fields => .array (fields.keys.map .string)⟩,
   ⟨"values", "values()", "Field values in order", "\x7ba: 1\x7d.values()",
    convert fun fields => .array fields.values⟩,
   ⟨"entries", "entries()", "[name, value] pairs", "\x7ba: 1\x7d.entries()", entries⟩,
   ⟨"isEmpty", "isEmpty()", "Whether there are no fields", "\x7b\x7d.isEmpty()",
    convert fun fields => .bool fields.isEmpty⟩,
   ⟨"isNotEmpty", "isNotEmpty()", "Whether there are fields", "\x7ba: 1\x7d.isNotEmpty()",
    convert fun fields => .bool !fields.isEmpty⟩,
   ⟨"hasField", "hasField(name)", "Whether a field exists", "\x7ba: 1\x7d.hasField('a')", hasField⟩,
   ⟨"removeField", "removeField(name)", "Copy without the field",
    "\x7ba: 1, b: 2\x7d.removeField('a')", removeField⟩,
   ⟨"merge", "merge(other)", "Copy with fields of other added where missing",
    "\x7ba: 1\x7d.merge(\x7bb: 2\x7d)", merge⟩,
   ⟨"compact", "compact()", "Drop null, undefined and empty fields",
    "\x7ba: null, b: 1\x7d.compact()", convert fun fields => .object (fields.filter isPresent)⟩,
   ⟨"urlEncode", "urlEncode()", "Encode as a query string", "\x7bq: 'a b'\x7d.urlEncode()",
    convert urlEncode⟩,
   ⟨"toJsonString", "toJsonString()", "Serialize as JSON", "\x7ba: 1\x7d.toJsonString()",
    toJsonString⟩,
   ⟨"toString", "toString()", "'[object Object]'", "\x7b\x7d.toString()",
    convert fun fields => .string (Value.object fields).toText⟩]

end TemplateExpr.ObjectMethod
