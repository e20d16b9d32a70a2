import TemplateExpr.Fields

/-!
# JSON values

Numbers written as integers stay integers; all others are doubles. Objects keep the order of their
fields.
-/

namespace TemplateExpr

/-- A JSON value. -/
inductive Json where
  | null
  | bool (b : Bool)
  | int (n : Int)
  | float (x : Float)
  | string (s : String)
  | array (items : List Json)
  | object (fields : List (String × Json))
deriving Inhabited

namespace Json

/-- The field `key` of an object. -/
def get? (j : Json) (key : String) : Option Json :=
  match j with
  | .object fields => Fields.get? fields key
  | _ => none

/-- The integer of a natural number. -/
def ofNat (n : Nat) : Json := .int n

/-- A text or `null`. -/
def ofString? : Option String → Json
  | some s => .string s
  | none => .null

/-- An array of texts. -/
def ofStrings (ss : List String) : Json := .array (ss.map .string)

end Json

end TemplateExpr

/-!
## Reading typed data from JSON

Readers that accept exactly the JSON values of a type. A record may be written as an object, in
which unknown fields are ignored, or as an array of the values of its first fields.
-/

namespace TemplateExpr.Json

/-- A natural number of at most 64 bits. -/
def nat? : Json → Option Nat
  | .int n => if 0 ≤ n ∧ n < UInt64.size then some n.toNat else none
  | _ => none

/-- A truth value. -/
def bool? : Json → Option Bool
  | .bool b => some b
  | _ => none

/-- A text. -/
def string? : Json → Option String
  | .string s => some s
  | _ => none

/-- The items of an array. -/
def array? : Json → Option (List Json)
  | .array items => some items
  | _ => none

/-- The fields of an object. -/
def object? : Json → Option (Fields Json)
  | .object fields => some fields
  | _ => none

/-- A list of values. -/
def list? {α : Type} (item : Json → Option α) (j : Json) : Option (List α) :=
  j.array?.bind fun items => items.mapM item

/-- A list of texts. -/
def strings? : Json → Option (List String) := list? string?

/-- An object whose fields have values of one type. -/
def table? {α : Type} (value : Json → Option α) (j : Json) : Option (Fields α) :=
  j.object?.bind fun fields => fields.mapM fun f => (value f.2).map (f.1, ·)

/-- `null` or a value. -/
def optional? {α : Type} (value : Json → Option α) : Json → Option (Option α)
  | .null => some none
  | j => (value j).map some

/-- One of several words. -/
def word? {α : Type} (words : List (String × α)) : Json → Option α
  | .string s => words.lookup s
  | .object [(s, .null)] => words.lookup s
  | _ => none

/-! ### Records -/

/-- A record that is being read: the value of each field that is there. -/
abbrev Record := String → Option Json

/-- The record with the fields `keys`, in this order. -/
def record? (keys : List String) : Json → Option Record
  | .object fields => some fun key => Fields.get? fields key
  | .array items =>
    if items.length ≤ keys.length then some fun key => (keys.zip items).lookup key else none
  | _ => none

/-- A field that must be there. -/
def Record.required? {α : Type} (r : Record) (key : String) (value : Json → Option α) : Option α :=
  (r key).bind value

/-- A field that is `missing` if it is not there. -/
def Record.field? {α : Type} (r : Record) (key : String) (value : Json → Option α) (missing : α) :
    Option α :=
  match r key with
  | some j => value j
  | none => some missing

end TemplateExpr.Json
