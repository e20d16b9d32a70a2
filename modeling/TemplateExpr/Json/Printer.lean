import TemplateExpr.Json.Basic
import TemplateExpr.Number.Text

/-!
# Text of a JSON value

`Json.compact` writes a value without any blanks, `Json.pretty` with one field or item a line and
two blanks for each level. Both write from left to right behind an accumulator that holds the text
so far in reverse.
-/

namespace TemplateExpr

open TemplateExpr.Text

/-! ### Numbers -/

/-- The text of a decimal in JSON: positional for exponents from −5 to 15, with `.0` behind an
integer, and scientific with a signed exponent otherwise. -/
def Number.Decimal.scientificOrPlain (d : Number.Decimal) : List Char :=
  let ds := Digit.write 10 d.digits
  let exp : Int := d.exp + ds.length - 1
  if -5 ≤ exp ∧ exp ≤ 15 then
    if 0 ≤ d.exp then d.plain ++ ['.', '0'] else d.plain
  else
    let mantissa := match ds with
      | first :: second :: more => first :: '.' :: second :: more
      | ds => ds
    let sign := if exp < 0 then '-' else '+'
    mantissa ++ 'e' :: sign :: Digit.write 10 exp.natAbs

/-- The JSON text of a double, with an even last digit where two decimals are equally near. JSON has
no text for the infinities and NaN, which become `null`. -/
def Number.jsonText (x : Float) : List Char :=
  if !Number.isFinite x then "null".toList
  else
    let body := (Number.shortestOf .even x).scientificOrPlain
    if Number.isNegative x then '-' :: body else body

namespace Json

/-! ### Strings -/

/-- How a character is written inside quotes. -/
def escapeChar (c : Char) : List Char :=
  if c = '"' then ['\\', '"']
  else if c = '\\' then ['\\', '\\']
  else if c = '\x08' then ['\\', 'b']
  else if c = '\x0c' then ['\\', 'f']
  else if c = '\n' then ['\\', 'n']
  else if c = '\r' then ['\\', 'r']
  else if c = '\t' then ['\\', 't']
  else if c.toNat < 0x20 then '\\' :: 'u' :: Digit.writePadded 16 4 c.toNat
  else [c]

/-- A string with its quotes. -/
def quoted (s : String) : List Char := '"' :: (s.toList.flatMap escapeChar ++ ['"'])

/-! ### Values -/

/-- How a value is laid out: on one line, or on many, at a level of indentation. -/
inductive Layout where
  | compact
  | pretty (level : Nat)

/-- The layout of the items of a value. -/
def Layout.inner : Layout → Layout
  | .compact => .compact
  | .pretty level => .pretty (level + 1)

/-- What is written in front of an item, and in front of the closing bracket. -/
def Layout.lineBreak : Layout → List Char
  | .compact => []
  | .pretty level => '\n' :: List.replicate (2 * level) ' '

/-- What is written between a key and its value. -/
def Layout.colon : Layout → List Char
  | .compact => [':']
  | .pretty _ => [':', ' ']

/-- `text` written behind `acc`, which is in reverse. -/
def push (acc text : List Char) : List Char := text.reverse ++ acc

mutual

/-- The text of a value behind `acc`. -/
def write (l : Layout) (acc : List Char) : Json → List Char
  | .null => push acc "null".toList
  | .bool true => push acc "true".toList
  | .bool false => push acc "false".toList
  | .int n => push acc (Digit.decimalInt n).toList
  | .float x => push acc (Number.jsonText x)
  | .string s => push acc (quoted s)
  | .array [] => push acc ['[', ']']
  | .array (item :: items) =>
    let first := write l.inner (push ('[' :: acc) l.inner.lineBreak) item
    ']' :: push (writeItems l.inner first items) l.lineBreak
  | .object [] => push acc ['\x7b', '\x7d']
  | .object ((key, value) :: fields) =>
    let head := push (push (push ('\x7b' :: acc) l.inner.lineBreak) (quoted key)) l.inner.colon
    '\x7d' :: push (writeFields l.inner (write l.inner head value) fields) l.lineBreak

/-- The items of an array behind its first ones. -/
def writeItems (l : Layout) (acc : List Char) : List Json → List Char
  | [] => acc
  | item :: items => writeItems l (write l (push (',' :: acc) l.lineBreak) item) items

/-- The fields of an object behind its first ones. -/
def writeFields (l : Layout) (acc : List Char) : List (String × Json) → List Char
  | [] => acc
  | (key, value) :: fields =>
    let head := push (push (push (',' :: acc) l.lineBreak) (quoted key)) l.colon
    writeFields l (write l head value) fields

end

/-- The text of a value without blanks. -/
def compact (j : Json) : String := String.ofList (write .compact [] j).reverse

/-- The text of a value on many lines. -/
def pretty (j : Json) : String := String.ofList (write (.pretty 0) [] j).reverse

end Json

end TemplateExpr
