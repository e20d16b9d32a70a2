import TemplateExpr.Text.Search
import TemplateExpr.Time.DateTime

/-!
# Texts of moments

`DateTime.full` and `DateTime.iso` are the internet forms of a moment, with as many decimals as it
needs and with milliseconds. `DateTime.format` follows a pattern in which runs of letters stand for
parts of the moment and text in single quotes for itself.
-/

namespace TemplateExpr.DateTime

open TemplateExpr.Text

/-! ### Parts -/

/-- A year with at least four digits, and with a sign outside of 0 to 9999. -/
def yearText (year : Int) : String :=
  if 0 ≤ year ∧ year ≤ 9999 then Digit.decimalPadded 4 year.natAbs
  else (if year < 0 then "-" else "+") ++ Digit.decimalPadded 4 year.natAbs

/-- The second of the minute as it is shown; 60 in a leap second. -/
def shownSecond (t : DateTime) : Nat := t.second + t.nanos / nanosPerSecond

/-- The nanoseconds of the second that is shown. -/
def fraction (t : DateTime) : Nat := t.nanos % nanosPerSecond

/-- An offset as hours and minutes with `sep` in between. -/
def offsetText (sep : String) (offset : Int) : String :=
  let minutes := (offset.natAbs + 30) / 60
  (if offset < 0 then "-" else "+") ++ Digit.decimalPadded 2 (minutes / 60) ++ sep ++
    Digit.decimalPadded 2 (minutes % 60)

/-- The date as year, month and day. -/
def dateText (t : DateTime) : String :=
  let d := t.date
  yearText d.year ++ "-" ++ Digit.decimalPadded 2 d.month ++ "-" ++ Digit.decimalPadded 2 d.day

/-- The time as hour, minute and second. -/
def clockText (t : DateTime) : String :=
  Digit.decimalPadded 2 t.hour ++ ":" ++ Digit.decimalPadded 2 t.minute ++ ":" ++
    Digit.decimalPadded 2 t.shownSecond

/-- A point and as many groups of three decimals as a fraction needs; nothing for zero. -/
def fractionText (nanos : Nat) : String :=
  if nanos = 0 then ""
  else if nanos % 1000000 = 0 then "." ++ Digit.decimalPadded 3 (nanos / 1000000)
  else if nanos % 1000 = 0 then "." ++ Digit.decimalPadded 6 (nanos / 1000)
  else "." ++ Digit.decimalPadded 9 nanos

/-! ### Internet forms -/

/-- Date, time, the fraction that is needed, and offset. -/
def full (t : DateTime) : String :=
  t.dateText ++ "T" ++ t.clockText ++ fractionText t.fraction ++ offsetText ":" t.offset

/-- Date, time, milliseconds, and offset; `Z` for the offset zero. -/
def iso (t : DateTime) : String :=
  t.dateText ++ "T" ++ t.clockText ++ "." ++ Digit.decimalPadded 3 (t.fraction / nanosPerMilli) ++
    (if t.offset = 0 then "Z" else offsetText ":" t.offset)

/-! ### Patterns -/

/-- The hour on a clock of twelve hours. -/
def hourOfTwelve (hour : Nat) : Nat := if hour % 12 = 0 then 12 else hour % 12

/-- The part of a moment that a run of `n` letters `c` stands for. -/
def part? (t : DateTime) (c : Char) (n : Nat) : Option String :=
  let d := t.date
  let name (names : List String) (i : Nat) : String := names.getD i ""
  let digits (k : Nat) : String := if n = 1 then Digit.decimal k else Digit.decimalPadded 2 k
  match c with
  | 'y' => some (if n = 2 then Digit.decimalPadded 2 (d.year % 100).toNat else yearText d.year)
  | 'M' | 'L' =>
    let month := name Date.monthNames (d.month - 1)
    some (if n ≤ 2 then digits d.month else if n = 3 then Date.shortName month else month)
  | 'd' => some (digits d.day)
  | 'E' =>
    let day := name Date.weekdayNames d.weekday
    some
      (if n = 1 then Digit.decimal (d.weekday + 1)
       else if n = 3 then Date.shortName day else day)
  | 'H' => some (digits t.hour)
  | 'h' => some (digits (hourOfTwelve t.hour))
  | 'm' => some (digits t.minute)
  | 's' => some (digits t.shownSecond)
  | 'S' => some (Digit.decimalPadded 3 (t.fraction / nanosPerMilli))
  | 'a' => some (if t.hour < 12 then "AM" else "PM")
  | 'Z' => some (offsetText (if n ≤ 2 then ":" else "") t.offset)
  | 'o' => some (Digit.decimalPadded 3 d.dayOfYear)
  | _ => none

/-- A piece of a pattern. -/
inductive Piece where
  /-- The text between quotes; the second quote may be missing. -/
  | quoted (text : List Char)
  /-- `n` times the character `c`. -/
  | run (c : Char) (n : Nat)
deriving Repr, DecidableEq

/-- Adds a character to the pieces that follow it. -/
def Piece.cons (c : Char) : List Piece → List Piece
  | .run d n :: ps => if c = d then .run d (n + 1) :: ps else .run c 1 :: .run d n :: ps
  | ps => .run c 1 :: ps

/-- The pieces of a pattern; `open_` holds the quoted text so far, in reverse, within quotes. -/
def pieces (open_ : Option (List Char)) : List Char → List Piece
  | [] =>
    match open_ with
    | some text => [.quoted text.reverse]
    | none => []
  | c :: cs =>
    match open_ with
    | some text =>
      if c = '\'' then .quoted text.reverse :: pieces none cs else pieces (some (c :: text)) cs
    | none => if c = '\'' then pieces (some []) cs else Piece.cons c (pieces none cs)

/-- What a piece stands for. -/
def pieceText (t : DateTime) : Piece → String
  | .quoted text => String.ofList text
  | .run c n => (t.part? c n).getD (String.ofList (List.replicate n c))

/-- The text of a moment that a pattern describes. -/
def format (t : DateTime) (pattern : String) : String :=
  String.join ((pieces none pattern.toList).map t.pieceText)

end TemplateExpr.DateTime
