import TemplateExpr.Text.Class

/-!
# Searching, cutting and replacing in texts

Texts are lists of characters and every position counts characters. Occurrences are taken from
left to right and do not overlap: `splitOn` cuts at them, `replaceAll` fills them with another
text, `countOf` counts them.
-/

namespace TemplateExpr.Text

/-! ### Stripping -/

/-- `cs` without the blanks at its start. -/
def trimStart (cs : List Char) : List Char := cs.dropWhile isBlank

/-- `cs` without the blanks at its end. -/
def trimEnd (cs : List Char) : List Char := (cs.reverse.dropWhile isBlank).reverse

/-- `cs` without the blanks at both ends. -/
def trim (cs : List Char) : List Char := trimEnd (trimStart cs)

/-- A string without the blanks at both ends. -/
def trimString (s : String) : String := String.ofList (trim s.toList)

/-- What follows `start` in `cs`, if `cs` starts with it. -/
def stripStart? (start cs : List Char) : Option (List Char) :=
  if start.isPrefixOf cs then some (cs.drop start.length) else none

/-- What precedes `ending` in `cs`, if `cs` ends with it. -/
def stripEnd? (ending cs : List Char) : Option (List Char) :=
  if ending.isSuffixOf cs then some (cs.take (cs.length - ending.length)) else none

/-! ### Positions -/

/-- The position of the first occurrence of `needle` in the text, which starts at `i`. -/
def indexFrom? (needle : List Char) (i : Nat) : List Char → Option Nat
  | [] => if needle.isEmpty then some i else none
  | c :: cs => if needle.isPrefixOf (c :: cs) then some i else indexFrom? needle (i + 1) cs

/-- The position of the first occurrence of `needle` in `cs`. -/
def indexOf? (needle cs : List Char) : Option Nat := indexFrom? needle 0 cs

/-- The position of the last occurrence of `needle` in the text, which starts at `i`, or `found`
if there is none. -/
def lastIndexFrom? (needle : List Char) (i : Nat) (found : Option Nat) : List Char → Option Nat
  | [] => if needle.isEmpty then some i else found
  | c :: cs =>
    lastIndexFrom? needle (i + 1) (if needle.isPrefixOf (c :: cs) then some i else found) cs

/-- The position of the last occurrence of `needle` in `cs`. -/
def lastIndexOf? (needle cs : List Char) : Option Nat := lastIndexFrom? needle 0 none cs

/-- Whether `needle` occurs in `cs`. -/
def contains (needle cs : List Char) : Bool := (indexOf? needle cs).isSome

/-- The texts before and after the first occurrence of `needle`. -/
def cutAt? (needle cs : List Char) : Option (List Char × List Char) :=
  (indexOf? needle cs).map fun i => (cs.take i, cs.drop (i + needle.length))

/-- The characters of `cs` from position `start` up to position `stop`. -/
def between (cs : List Char) (start stop : Nat) : List Char :=
  (cs.drop start).take (stop - start)

/-! ### Occurrences -/

/-- Cuts the text at the occurrences of `sep`. `skip` characters of an occurrence are still to be
passed over; `piece` and `done` hold, in reverse, the piece being read and the finished ones. -/
def splitLoop (sep : List Char) (skip : Nat) (piece : List Char) (done : List (List Char)) :
    List Char → List (List Char)
  | [] => (piece.reverse :: done).reverse
  | c :: cs =>
    match skip with
    | k + 1 => splitLoop sep k piece done cs
    | 0 =>
      if sep.isPrefixOf (c :: cs) then splitLoop sep (sep.length - 1) [] (piece.reverse :: done) cs
      else splitLoop sep 0 (c :: piece) done cs

/-- The pieces of `cs` between the occurrences of the non-empty text `sep`. -/
def splitOn (sep cs : List Char) : List (List Char) := splitLoop sep 0 [] [] cs

/-- The number of occurrences of the non-empty text `needle`; see `splitLoop` for `skip`. -/
def countLoop (needle : List Char) (skip count : Nat) : List Char → Nat
  | [] => count
  | c :: cs =>
    match skip with
    | k + 1 => countLoop needle k count cs
    | 0 =>
      if needle.isPrefixOf (c :: cs) then countLoop needle (needle.length - 1) (count + 1) cs
      else countLoop needle 0 count cs

/-- The number of occurrences of the non-empty text `needle` in `cs`. -/
def countOf (needle cs : List Char) : Nat := countLoop needle 0 0 cs

/-- Puts `new` where `old` occurs; `acc` holds the text written so far, in reverse, and `skip` is
as in `splitLoop`. -/
def replaceLoop (old new : List Char) (skip : Nat) (acc : List Char) : List Char → List Char
  | [] => acc.reverse
  | c :: cs =>
    match skip with
    | k + 1 => replaceLoop old new k acc cs
    | 0 =>
      if old.isPrefixOf (c :: cs) then replaceLoop old new (old.length - 1) (new.reverse ++ acc) cs
      else replaceLoop old new 0 (c :: acc) cs

/-- `cs` with every occurrence of `old` replaced by `new`. The empty text occurs before each
character and at the end. -/
def replaceAll (old new cs : List Char) : List Char :=
  if old.isEmpty then cs.foldr (fun c rest => new ++ c :: rest) new
  else replaceLoop old new 0 [] cs

/-- `cs` with the first occurrence of `old` replaced by `new`. -/
def replaceFirst (old new cs : List Char) : List Char :=
  match cutAt? old cs with
  | none => cs
  | some (before, after) => before ++ new ++ after

/-! ### Joining -/

/-- The texts of `parts` with `sep` between neighbours. -/
def joinWith (sep : List Char) (parts : List (List Char)) : List Char :=
  sep.intercalate parts

end TemplateExpr.Text
