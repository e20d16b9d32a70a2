import TemplateExpr.Expr.Json
import TemplateExpr.Json.Printer
import TemplateExpr.Value.Basic

/-!
# Values and JSON

`Value.toJson` is what a value looks like to other programs: dates are texts, what JSON has no text
for is `null`, and fields without a value are left out. `Value.ofJson` reads data in.
-/

namespace TemplateExpr.Value

/-- Whether a field with this value is left out. -/
def isOmitted : Value → Bool
  | undefined | function .. => true
  | _ => false

mutual

/-- A value as JSON. -/
def toJson : Value → Json
  | undefined | null | function .. | host _ => .null
  | bool b => .bool b
  | number x => .ofNumber x
  | string s => .string s
  | array items => .array (itemsJson [] items)
  | object fields => .object (fieldsJson [] fields)
  | date t => .string t.iso

/-- The items of an array as JSON behind those in `acc`, which are in reverse. -/
def itemsJson (acc : List Json) : List Value → List Json
  | [] => acc.reverse
  | item :: items => itemsJson (item.toJson :: acc) items

/-- The fields of an object as JSON behind those in `acc`, which are in reverse. -/
def fieldsJson (acc : List (String × Json)) : List (String × Value) → List (String × Json)
  | [] => acc.reverse
  | (key, value) :: fields =>
    fieldsJson (if value.isOmitted then acc else (key, value.toJson) :: acc) fields

end

mutual

/-- The value of JSON data. -/
def ofJson : Json → Value
  | .null => null
  | .bool b => bool b
  | .int n => number (Number.ofInt n)
  | .float x => number x
  | .string s => string s
  | .array items => array (itemsOfJson [] items)
  | .object fields => object (fieldsOfJson [] fields)

/-- The items of an array behind those in `acc`, which are in reverse. -/
def itemsOfJson (acc : List Value) : List Json → List Value
  | [] => acc.reverse
  | item :: items => itemsOfJson (ofJson item :: acc) items

/-- The fields of an object behind those in `acc`, which are in reverse. -/
def fieldsOfJson (acc : List (String × Value)) : List (String × Json) → List (String × Value)
  | [] => acc.reverse
  | (key, value) :: fields => fieldsOfJson ((key, ofJson value) :: acc) fields

end

/-- The JSON text of a value. -/
def jsonText (v : Value) : String := v.toJson.compact

/-- The text of a value within the text of a template: nothing for the nullish values, JSON for
arrays and objects. -/
def templateText (v : Value) : String :=
  match v with
  | undefined | null => ""
  | array _ | object _ => v.jsonText
  | v => v.toText

end TemplateExpr.Value
