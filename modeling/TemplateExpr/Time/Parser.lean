import TemplateExpr.Number.Text
import TemplateExpr.Text.Taken
import TemplateExpr.Time.DateTime

/-!
# Reading moments

A layout is a list of parts that follow each other in a text. `DateTime.parse?` tries the layouts in
a fixed order: the internet form with an offset, its forms without one, the form of mail and web
headers, the form of databases; what is left are milliseconds since the start of 1970. Without an
offset a text is read at offset zero.
-/

namespace TemplateExpr.DateTime

open TemplateExpr.Text TemplateExpr.Number

/-! ### Layouts -/

/-- The parts of a moment that are written as numbers. -/
inductive Slot where
  | year
  | month
  | day
  | hour
  | minute
  | second
deriving Repr, DecidableEq

/-- A part of a layout. -/
inductive Item where
  /-- A character as it is. -/
  | mark (c : Char)
  /-- One of several characters. -/
  | oneOf (cs : List Char)
  /-- Any number of blanks. -/
  | blanks
  /-- At least one blank. -/
  | someBlanks
  /-- A number of at least `least` and at most `most` digits. -/
  | number (slot : Slot) (least most : Nat)
  /-- A year of up to four digits, or of any number of digits behind a sign. -/
  | signedYear
  /-- A year of which two or three digits may be given, counted from 1950 or from 1900. -/
  | shortYear
  /-- Nothing, or a point and at least one digit, of which nine count. -/
  | fraction
  /-- The first three letters of the name of a month. -/
  | monthName
  /-- The first three letters of the name of a day. -/
  | weekdayName
  /-- An offset with a colon, or `Z`. -/
  | offset
  /-- An offset without a colon, or the name of a zone. -/
  | zone
  /-- Any number of comments in parentheses. -/
  | comments
deriving Repr

/-- What has been read. -/
structure Reading where
  year : Int
  month : Nat
  day : Nat
  hour : Nat
  minute : Nat
  second : Nat
  nanos : Nat
  weekday : Option Nat
  offset : Int
deriving Repr

namespace Reading

/-- What holds of a text that says nothing. -/
def blank : Reading := ⟨0, 1, 1, 0, 0, 0, 0, none, 0⟩

/-- Fills a slot. -/
def set (r : Reading) (slot : Slot) (n : Nat) : Reading :=
  match slot with
  | .year => { r with year := n }
  | .month => { r with month := n }
  | .day => { r with day := n }
  | .hour => { r with hour := n }
  | .minute => { r with minute := n }
  | .second => { r with second := n }

/-- The moment that was read, if date and time exist and the day of the week is right. The second 60
is a leap second. -/
def toDateTime? (r : Reading) : Option DateTime :=
  let date : Date := ⟨r.year, r.month, r.day⟩
  if date.isValid && r.hour < 24 && r.minute < 60 && r.second ≤ 60 &&
      r.weekday.all (· == date.weekday) && r.offset.natAbs < 86400 then
    let leap := r.second = 60
    let second := r.hour * 3600 + r.minute * 60 + (if leap then 59 else r.second)
    ofLocal? date.dayNumber second (if leap then nanosPerSecond + r.nanos else r.nanos) r.offset
  else none

end Reading

/-! ### Reading an item -/

/-- The number of `least` to `most` digits at the start of a text, and how many digits it has. -/
def takeNumber? (least most : Nat) (cs : List Char) : Option (Nat × Nat × List Char) :=
  let ds := (cs.take most).takeWhile isAsciiDigit
  if ds.length < least then none else some (digitsValue ds, ds.length, cs.drop ds.length)

/-- Which of the names starts with the same three letters as the text. -/
def takeName? (names : List String) (cs : List Char) : Option (Nat × List Char) :=
  let start := (cs.take 3).map Char.toLower
  (names.findIdx? fun name => (name.toList.take 3).map Char.toLower = start).map (·, cs.drop 3)

/-- The sign in front of an offset: `true` for a minus. -/
def takeSign? (cs : List Char) : Option (Bool × List Char) :=
  match cs with
  | '+' :: cs => some (false, cs)
  | '-' :: cs => some (true, cs)
  | _ => none

/-- Two digits of hours, `colon`, two digits of minutes. -/
def takeHoursMinutes? (colon : List Char) (negative : Bool) (cs : List Char) :
    Option (Int × List Char) := do
  let (hours, _, cs) ← takeNumber? 2 2 cs
  let cs ← stripStart? colon cs
  let (minutes, _, cs) ← takeNumber? 2 2 cs
  if 60 ≤ minutes then none
  let n : Int := hours * 3600 + minutes * 60
  pure (if negative then -n else n, cs)

/-- The zones that have names, with their hours. -/
def zones : List (String × Int) :=
  [("gmt", 0), ("ut", 0), ("z", 0), ("edt", -4), ("est", -5), ("cdt", -5), ("cst", -6),
   ("mdt", -6), ("mst", -7), ("pdt", -7), ("pst", -8)]

/-- The offset of a zone; every single letter but `j` is at offset zero. -/
def zoneOffset? (name : List Char) : Option Int :=
  match lowerAscii name with
  | ['j'] => none
  | [_] => some 0
  | lower => (zones.lookup (String.ofList lower)).map (· * 3600)

/-- What follows a comment, `depth` parentheses of which are open. A backslash hides the next
character. -/
def skipComment? (depth : Nat) : List Char → Option (List Char)
  | [] => none
  | '\\' :: _ :: cs => skipComment? depth cs
  | '(' :: cs => skipComment? (depth + 1) cs
  | ')' :: cs => if depth ≤ 1 then some cs else skipComment? (depth - 1) cs
  | _ :: cs => skipComment? depth cs

theorem length_of_skipComment? {depth : Nat} {cs rest : List Char}
    (h : skipComment? depth cs = some rest) : rest.length < cs.length := by
  fun_induction skipComment? depth cs with
  | case1 => simp at h
  | case2 _ _ _ ih => have := ih h; simp only [List.length_cons]; omega
  | case3 _ _ ih => have := ih h; simp only [List.length_cons]; omega
  | case4 => simp only [Option.some.injEq] at h; subst h; simp
  | case5 _ _ _ ih => have := ih h; simp only [List.length_cons]; omega
  | case6 _ _ _ _ _ _ ih => have := ih h; simp only [List.length_cons]; omega

/-- What follows the comments at the start of a text, or the text if there are none. -/
def skipComments (cs : List Char) : List Char :=
  match _h : trimStart cs with
  | '(' :: inner =>
    match _hc : skipComment? 1 inner with
    | some rest => skipComments rest
    | none => cs
  | _ => cs
termination_by cs.length
decreasing_by
  have h1 := length_of_skipComment? _hc
  have h2 : (trimStart cs).length ≤ cs.length := length_dropWhile_le isBlank cs
  rw [_h, List.length_cons] at h2
  omega

/-- Reads one item. -/
def readItem (item : Item) (r : Reading) (cs : List Char) : Option (Reading × List Char) :=
  match item with
  | .mark c => (stripStart? [c] cs).map (r, ·)
  | .oneOf options =>
    match cs with
    | c :: cs => if options.contains c then some (r, cs) else none
    | [] => none
  | .blanks => some (r, trimStart cs)
  | .someBlanks =>
    match cs with
    | c :: _ => if isBlank c then some (r, trimStart cs) else none
    | [] => none
  | .number slot least most =>
    (takeNumber? least most cs).map fun (n, _, rest) => (r.set slot n, rest)
  | .signedYear =>
    match cs with
    | '-' :: cs =>
      (takeNumber? 1 cs.length cs).map fun (n, _, rest) => ({ r with year := -(n : Int) }, rest)
    | '+' :: cs => (takeNumber? 1 cs.length cs).map fun (n, _, rest) => ({ r with year := n }, rest)
    | cs => (takeNumber? 1 4 cs).map fun (n, _, rest) => ({ r with year := n }, rest)
  | .shortYear =>
    (takeNumber? 2 cs.length cs).map fun (n, size, rest) =>
      let century :=
        if size = 2 then (if n < 50 then 2000 else 1900) else if size = 3 then 1900 else 0
      ({ r with year := (century + n : Nat) }, rest)
  | .fraction =>
    match cs with
    | '.' :: cs =>
      (takeNumber? 1 9 cs).map fun (n, size, rest) =>
        ({ r with nanos := n * Nat.pow 10 (9 - size) }, rest.dropWhile isAsciiDigit)
    | cs => some (r, cs)
  | .monthName =>
    (takeName? Date.monthNames cs).map fun (i, rest) => ({ r with month := i + 1 }, rest)
  | .weekdayName =>
    (takeName? Date.weekdayNames cs).map fun (i, rest) => ({ r with weekday := some i }, rest)
  | .offset =>
    match cs with
    | 'Z' :: rest | 'z' :: rest => some (r, rest)
    | '−' :: rest =>
      (takeHoursMinutes? [':'] true rest).map fun (o, rest) => ({ r with offset := o }, rest)
    | cs => do
      let (negative, rest) ← takeSign? cs
      let (o, rest) ← takeHoursMinutes? [':'] negative rest
      pure ({ r with offset := o }, rest)
  | .zone =>
    match cs.span isAsciiLetter with
    | ([], cs) => do
      let (negative, rest) ← takeSign? cs
      let (o, rest) ← takeHoursMinutes? [] negative rest
      pure ({ r with offset := o }, rest)
    | (name, rest) => (zoneOffset? name).map fun o => ({ r with offset := o }, rest)
  | .comments => some (r, skipComments cs)

/-- Reads a whole text by a layout. -/
def readLayout : List Item → Reading → List Char → Option Reading
  | [], r, cs => if cs.isEmpty then some r else none
  | item :: items, r, cs =>
    match readItem item r cs with
    | some (r, rest) => readLayout items r rest
    | none => none

/-! ### The layouts -/

/-- Blanks and a number of up to two digits. -/
def padded (slot : Slot) : List Item := [.blanks, .number slot 1 2]

/-- Year, month and day with hyphens. -/
def hyphenDate : List Item :=
  [Item.blanks, .signedYear, .mark '-'] ++ padded .month ++ [Item.mark '-'] ++ padded .day

/-- Hour and minute with a colon. -/
def hourMinute : List Item := padded .hour ++ [Item.mark ':'] ++ padded .minute

/-- Hour, minute and second with colons. -/
def hourMinuteSecond : List Item := hourMinute ++ [Item.mark ':'] ++ padded .second

/-- Date, time and offset with all their digits. -/
def internetLayout : List Item :=
  [.number .year 4 4, .mark '-', .number .month 2 2, .mark '-', .number .day 2 2,
   .oneOf ['t', 'T', ' '], .number .hour 2 2, .mark ':', .number .minute 2 2, .mark ':',
   .number .second 2 2, .fraction, .offset]

/-- Date and time without an offset. -/
def isoLayouts : List (List Item) :=
  [hyphenDate ++ [Item.mark 'T'] ++ hourMinuteSecond ++ [Item.fraction],
   hyphenDate ++ [Item.mark 'T'] ++ hourMinute,
   [Item.blanks, .signedYear] ++ padded .month ++ padded .day ++ [Item.mark 'T'] ++ padded .hour ++
     padded .minute ++ padded .second,
   hyphenDate]

/-- The form of web headers. -/
def webLayout : List Item :=
  [Item.weekdayName, .mark ',', .blanks] ++ padded .day ++ [Item.blanks, .monthName, .blanks,
    .blanks, .signedYear, .blanks] ++ hourMinuteSecond ++
    [Item.mark ' ', .mark 'G', .mark 'M', .mark 'T']

/-- The form of mail headers behind the day of the week, with or without seconds. -/
def mailLayout (seconds : List Item) : List Item :=
  [Item.blanks, .number .day 1 2, .someBlanks, .monthName, .someBlanks, .shortYear, .someBlanks,
   .number .hour 2 2, .blanks, .mark ':', .blanks, .number .minute 2 2] ++ seconds ++
    [Item.someBlanks, .zone, .comments]

/-- The forms of mail headers. -/
def mailLayouts : List (List Item) :=
  let seconds := [Item.blanks, .mark ':', .number .second 2 2]
  let weekday := [Item.blanks, .weekdayName, .mark ',']
  [weekday ++ mailLayout seconds, weekday ++ mailLayout [], mailLayout seconds, mailLayout []]

/-- The forms of databases. -/
def databaseLayouts : List (List Item) :=
  [hyphenDate ++ [Item.blanks] ++ hourMinuteSecond ++ [Item.fraction],
   hyphenDate ++ [Item.blanks] ++ hourMinute]

/-- All layouts in the order in which they are tried. -/
def layouts : List (List Item) :=
  internetLayout :: isoLayouts ++ webLayout :: mailLayouts ++ databaseLayouts

/-! ### Reading a text -/

/-- The moment of a text that follows a layout. -/
def readBy? (cs : List Char) (layout : List Item) : Option DateTime :=
  (readLayout layout Reading.blank cs).bind Reading.toDateTime?

/-- The moment of a text of digits that counts milliseconds. -/
def ofMillisText? (cs : List Char) : Option DateTime :=
  let ds := (stripStart? ['-'] cs).getD cs
  if ds.isEmpty || !ds.all isAsciiDigit then none else (readDecimal? cs).bind ofNumber?

/-- The moment that a text denotes; blanks at its ends are ignored. -/
def parse? (text : String) : Option DateTime :=
  let cs := trim text.toList
  match layouts.findSome? (readBy? cs) with
  | some t => some t
  | none => ofMillisText? cs

/-- The moment of a text in the internet form. -/
def ofInternetForm? (text : String) : Option DateTime := readBy? text.toList internetLayout

end TemplateExpr.DateTime
