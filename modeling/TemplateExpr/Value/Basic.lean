import TemplateExpr.Expr.Basic
import TemplateExpr.Fields
import TemplateExpr.Text.Utf8
import TemplateExpr.Time.Format
import TemplateExpr.Value.Host

/-!
# Values

What an expression evaluates to, and how a value is read as a truth value, a number or a text.
-/

namespace TemplateExpr

open TemplateExpr.Text

/-- A value. -/
inductive Value where
  | undefined
  | null
  | bool (b : Bool)
  | number (x : Float)
  | string (s : String)
  | array (items : List Value)
  | object (fields : List (String × Value))
  | date (t : DateTime)
  /-- An arrow function and the names that were bound where it was written. -/
  | function (params : List String) (body : Expr) (captured : List (String × Value))
  | host (h : Host)
deriving Inhabited

namespace Value

/-- A natural number as a value. -/
def ofNat (n : Nat) : Value := .number (Number.ofNat n)

/-- A character as a value. -/
def ofChar (c : Char) : Value := .string c.toString

/-- A list of characters as a value. -/
def ofChars (cs : List Char) : Value := .string (String.ofList cs)

/-! ### Kinds -/

/-- The kind of a value. -/
def kind : Value → Kind
  | undefined => .undefined
  | null => .null
  | bool _ => .boolean
  | number _ => .number
  | string _ => .string
  | array _ => .array
  | object _ => .object
  | date _ => .date
  | function .. => .function
  | host h => h.kind

/-- The name of the kind of a value. -/
def kindName (v : Value) : String := v.kind.name

/-- Whether the value is `null` or `undefined`. -/
def isNullish : Value → Bool
  | undefined | null => true
  | _ => false

/-- Whether the value is `undefined`. -/
def isUndefined : Value → Bool
  | undefined => true
  | _ => false

/-- Whether the value is an arrow function. -/
def isFunction : Value → Bool
  | function .. => true
  | _ => false

/-- The fields of an object. -/
def fields? : Value → Option (Fields Value)
  | object fields => some fields
  | _ => none

/-- Whether the value counts as true: all but the nullish ones, `false`, zero, NaN and the empty
text. -/
def truthy : Value → Bool
  | undefined | null => false
  | bool b => b
  | number x => x != 0 && !Number.isNaN x
  | string s => !s.isEmpty
  | _ => true

/-! ### Numbers and texts -/

/-- The number that a value stands for. -/
def toNumber : Value → Float
  | undefined => Number.nan
  | null => 0
  | bool b => if b then 1 else 0
  | number x => x
  | string s => Number.parse s.toList
  | array [] => 0
  | array [item] => item.toNumber
  | array _ => Number.nan
  | date t => Number.ofInt t.toMillis
  | object _ | function .. | host _ => Number.nan

mutual

/-- The text of a value. -/
def toText : Value → String
  | undefined => "undefined"
  | null => "null"
  | bool true => "true"
  | bool false => "false"
  | number x => Number.format x
  | string s => s
  | array items => ",".intercalate (itemTexts [] items)
  | object _ => "[object Object]"
  | date t => t.iso
  | function .. => "[Function]"
  | host h => h.text

/-- The texts of the items of an array behind those in `acc`, which are in reverse; nullish items
have the empty text. -/
def itemTexts (acc : List String) : List Value → List String
  | [] => acc.reverse
  | item :: items => itemTexts ((if item.isNullish then "" else item.toText) :: acc) items

end

/-- The characters of the text of a value. -/
def toChars (v : Value) : List Char := v.toText.toList

/-! ### Size -/

/-- The size that is charged for one value. -/
def slot : Nat := 16

mutual

/-- The size of a value: a slot for each value in it, and the bytes of its texts and keys. -/
def size : Value → Nat
  | string s => slot + s.utf8ByteSize
  | array items => sizes slot items
  | object fields => fieldSizes slot fields
  | _ => slot

/-- `n` and the size of the items of an array. -/
def sizes (n : Nat) : List Value → Nat
  | [] => n
  | item :: items => sizes (n + item.size) items

/-- `n` and the size of the fields of an object. -/
def fieldSizes (n : Nat) : List (String × Value) → Nat
  | [] => n
  | (key, value) :: fields => fieldSizes (n + key.utf8ByteSize + value.size) fields

end

/-! ### Equality -/

/-- Whether two arrow functions are the same: they stand at the same place of the same expression.
-/
def sameFunction (params : List String) (body : Expr) (params' : List String) (body' : Expr) :
    Bool :=
  params == params' && body.span == body'.span

mutual

/-- Equality without conversion. Arrays are compared item by item, objects field by field in any
order, dates by their instants. -/
def strictEquals : Value → Value → Bool
  | undefined, undefined => true
  | null, null => true
  | bool a, bool b => a == b
  | number x, number y => x == y
  | string s, string t => s == t
  | array as, array bs => as.length == bs.length && itemsEqual as bs
  | object fs, object gs => fs.length == gs.length && fieldsEqual fs gs
  | date t, date u => t.sameInstant u
  | function ps b _, function ps' b' _ => sameFunction ps b ps' b'
  | host h, host h' => h == h'
  | _, _ => false

/-- Whether the items of two lists are equal, as far as both go. -/
def itemsEqual : List Value → List Value → Bool
  | a :: as, b :: bs => strictEquals a b && itemsEqual as bs
  | _, _ => true

/-- Whether every field of the first object has an equal one in the second. -/
def fieldsEqual : List (String × Value) → List (String × Value) → Bool
  | [], _ => true
  | (key, v) :: fs, gs =>
    (match Fields.get? gs key with
     | some w => strictEquals v w
     | none => false) && fieldsEqual fs gs

end

/-- Whether equality compares the two values as numbers: a number with a text, and a truth value
with anything. -/
def comparesAsNumbers : Value → Value → Bool
  | number _, string _ | string _, number _ => true
  | bool _, _ | _, bool _ => true
  | _, _ => false

/-- Equality with conversion: the nullish values are equal to each other and to nothing else. -/
def looseEquals (a b : Value) : Bool :=
  if a.isNullish || b.isNullish then a.isNullish && b.isNullish
  else if comparesAsNumbers a b then a.toNumber == b.toNumber
  else strictEquals a b

/-- Strict equality in which NaN is equal to itself. -/
def sameValue (a b : Value) : Bool :=
  match a, b with
  | number x, number y => (Number.isNaN x && Number.isNaN y) || x == y
  | a, b => strictEquals a b

end Value

end TemplateExpr
