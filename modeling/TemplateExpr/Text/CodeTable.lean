import TemplateExpr.Text.Digit

/-!
# Tables of code points

A `CodeTable` holds sorted, disjoint `CodeRange`s. A range may take every second code point only,
and may carry a shift that leads from each of its members to another code point, so one shape
serves for sets and for mappings. Tables are written as text: `first`, `first~last` or
`first~last/step`, with `+n` or `-n` for the shift, all numbers hexadecimal.
-/

namespace TemplateExpr.Text

/-- The code points `first`, `first + step`, … up to `last`, and where a mapping takes them. -/
structure CodeRange where
  first : Nat
  last : Nat
  step : Nat
  shift : Int
deriving Repr, DecidableEq

namespace CodeRange

/-- Whether `n` is one of the code points of the range. -/
def contains (r : CodeRange) (n : Nat) : Bool :=
  r.first ≤ n && n ≤ r.last && (n - r.first) % r.step == 0

/-- The hexadecimal number that follows the first `mark` in `cs`. -/
def numberAfter? (mark : Char) (cs : List Char) : Option Nat :=
  match cs.dropWhile (· != mark) with
  | [] => none
  | _ :: rest => Digit.read? 16 (rest.takeWhile Digit.isHex)

/-- Reads one range. -/
def ofText (text : String) : CodeRange :=
  let cs := text.toList
  let first := (Digit.read? 16 (cs.takeWhile Digit.isHex)).getD 0
  let shift : Int :=
    match numberAfter? '+' cs, numberAfter? '-' cs with
    | some n, _ => n
    | none, some n => -n
    | none, none => 0
  { first
    last := (numberAfter? '~' cs).getD first
    step := (numberAfter? '/' cs).getD 1
    shift }

end CodeRange

/-- The words of a text, that is its longest pieces without a space or a line break. -/
def words (text : String) : List String :=
  let (last, done) := text.toList.foldl
    (fun (word, done) c =>
      if c = ' ' ∨ c = '\n' then ([], if word.isEmpty then done else word :: done)
      else (c :: word, done))
    (([], []) : List Char × List (List Char))
  ((if last.isEmpty then done else last :: done).map fun w => String.ofList w.reverse).reverse

/-- Sorted, disjoint ranges of code points. -/
abbrev CodeTable := Array CodeRange

namespace CodeTable

/-- Reads a table from its text. -/
def ofText (text : String) : CodeTable := ((words text).map CodeRange.ofText).toArray

/-- The table of the ranges with the given first and last code points. -/
def ofBounds (bounds : List (Nat × Nat)) : CodeTable :=
  (bounds.map fun (first, last) => ⟨first, last, 1, 0⟩).toArray

/-- The range of `t` that contains `n`, looked for among the positions from `lo` up to `hi`. -/
def search (t : CodeTable) (n lo hi : Nat) : Option CodeRange :=
  if lo < hi then
    let mid := (lo + hi) / 2
    match t[mid]? with
    | none => none
    | some r =>
      if r.contains n then some r
      else if r.first ≤ n then search t n (mid + 1) hi
      else search t n lo mid
  else none
termination_by hi - lo

/-- The range of `t` that contains `n`. -/
def find? (t : CodeTable) (n : Nat) : Option CodeRange := t.search n 0 t.size

/-- Whether `c` is in the table. -/
def contains (t : CodeTable) (c : Char) : Bool := (t.find? c.toNat).isSome

/-- Where the table, read as a mapping, takes `c`. -/
def map? (t : CodeTable) (c : Char) : Option Char :=
  (t.find? c.toNat).map fun r => Char.ofNat ((c.toNat : Int) + r.shift).toNat

end CodeTable

/-- Characters together with the texts that they are mapped to. -/
abbrev ExpansionTable := List (Char × List Char)

namespace ExpansionTable

/-- Reads a table whose entries have the form `code=code.code`, all numbers hexadecimal. -/
def ofText (text : String) : ExpansionTable :=
  (words text).map fun w =>
    let cs := w.toList
    let code (ds : List Char) : Char := Char.ofNat ((Digit.read? 16 ds).getD 0)
    let image := (cs.dropWhile (· != '=')).drop 1
    (code (cs.takeWhile (· != '=')), (image.splitOn '.').map code)

end ExpansionTable

end TemplateExpr.Text
