import TemplateExpr.Json.Basic
import TemplateExpr.Number.Text
import TemplateExpr.Text.Taken
import TemplateExpr.Text.Utf8

/-!
# Reading JSON text

`Json.parse` reads a whole text. Values may be nested in at most 127 arrays and objects. A fault has
a cause and a place; its wording names the line and the column, both counted from one and columns in
bytes. Numbers are read with the first nineteen or twenty digits that fit a word of 64 bits, which
is then multiplied or divided by a power of ten, so the last bit of a long decimal may differ from
the nearest double.
-/

namespace TemplateExpr.Json

open TemplateExpr.Text

/-! ### Faults -/

/-- What is wrong with a text. -/
inductive Cause where
  | endInList
  | endInObject
  | endInString
  | endInValue
  | expectedColon
  | expectedListComma
  | expectedObjectComma
  | expectedWord
  | expectedValue
  | invalidEscape
  | invalidNumber
  | numberOutOfRange
  | controlCharacter
  | keyNotString
  | loneSurrogate
  | trailingComma
  | trailingCharacters
  | endOfHexEscape
  | tooDeep
deriving Repr, DecidableEq

/-- The wording of a cause. -/
def Cause.message : Cause → String
  | .endInList => "EOF while parsing a list"
  | .endInObject => "EOF while parsing an object"
  | .endInString => "EOF while parsing a string"
  | .endInValue => "EOF while parsing a value"
  | .expectedColon => "expected \x60:\x60"
  | .expectedListComma => "expected \x60,\x60 or \x60]\x60"
  | .expectedObjectComma => "expected \x60,\x60 or \x60\x7d\x60"
  | .expectedWord => "expected ident"
  | .expectedValue => "expected value"
  | .invalidEscape => "invalid escape"
  | .invalidNumber => "invalid number"
  | .numberOutOfRange => "number out of range"
  | .controlCharacter =>
    "control character (\\u0000-\\u001F) found while parsing a string"
  | .keyNotString => "key must be a string"
  | .loneSurrogate => "lone leading surrogate in hex escape"
  | .trailingComma => "trailing comma"
  | .trailingCharacters => "trailing characters"
  | .endOfHexEscape => "unexpected end of hex escape"
  | .tooDeep => "recursion limit exceeded"

/-- A cause and the text that was still unread; the place of the fault is `extra` bytes behind the
start of the unread text, and at most the end of the text. -/
structure Fault where
  cause : Cause
  unread : List Char
  extra : Nat

/-- A fault just behind what has been read. -/
def faultAt {α : Type} (cause : Cause) (unread : List Char) : Except Fault α :=
  .error ⟨cause, unread, 0⟩

/-- A fault at the next byte. A character that does not belong where it stands is noticed at its
first byte. -/
def faultAhead {α : Type} (cause : Cause) (unread : List Char) : Except Fault α :=
  .error ⟨cause, unread, 1⟩

/-- The line and the column of byte `offset`: the line breaks before it, and the bytes behind the
last of them. -/
def lineAndColumn (offset line column : Nat) : List Char → Nat × Nat
  | [] => (line, column)
  | c :: cs =>
    if offset < c.utf8Size then (line, column + offset)
    else if c = '\n' then lineAndColumn (offset - 1) (line + 1) 0 cs
    else lineAndColumn (offset - c.utf8Size) line (column + c.utf8Size) cs

/-- The wording of a fault in `text`. -/
def Fault.message (text : List Char) (fault : Fault) : String :=
  let total := byteLength text
  let offset := min total (total - byteLength fault.unread + fault.extra)
  let (line, column) := lineAndColumn offset 1 0 text
  fault.cause.message ++ " at line " ++ Digit.decimal line ++ " column " ++ Digit.decimal column

/-! ### Blanks and words -/

/-- The blanks of JSON. -/
def isSpace (c : Char) : Bool := c = ' ' || c = '\n' || c = '\t' || c = '\r'

/-- A text without the blanks at its start. -/
def skipSpace (cs : List Char) : List Char := cs.dropWhile isSpace

theorem length_le_of_skipSpace {cs rest : List Char} (h : skipSpace cs = rest) :
    rest.length ≤ cs.length :=
  h ▸ length_dropWhile_le isSpace cs

theorem length_lt_of_skipSpace {cs rest : List Char} {c : Char} (h : skipSpace cs = c :: rest) :
    rest.length < cs.length :=
  length_le_of_skipSpace h

/-- What follows the characters `word` in `cs`. -/
def expectWord (word cs : List Char) : Except Fault (Left Unit cs) :=
  match word, cs with
  | [], _ => .ok (.all ())
  | _ :: _, [] => faultAt .endInValue []
  | w :: ws, c :: cs =>
    if c = w then
      match expectWord ws cs with
      | .error e => .error e
      | .ok l => .ok (l.cons c)
    else faultAhead .expectedWord (c :: cs)

/-! ### Numbers -/

/-- The largest number that significant digits are collected up to. -/
def maxSignificand : Nat := UInt64.size - 1

/-- Collects the digits `ds` behind `n` as long as the number stays within `bound`; the number and
the digits that no longer fit. -/
def absorb (bound n : Nat) : List Char → Nat × List Char
  | [] => (n, [])
  | d :: ds =>
    let next := 10 * n + (d.toNat - 48)
    if next ≤ bound then absorb bound next ds else (n, d :: ds)

/-- `n · 10 ^ exp`, computed with one multiplication or division by a power of ten at a time; `none`
if it is too large. -/
def scaled? (x : Float) (exp : Int) : Option Float :=
  let bounded (y : Float) : Option Float := if Number.isInfinite y then none else some y
  if 0 ≤ exp then
    if exp ≤ 308 then bounded (x * Number.ofNat (Nat.pow 10 exp.toNat))
    else if x == 0 then some 0
    else none
  else
    let k := (-exp).toNat
    if k ≤ 308 then some (x / Number.ofNat (Nat.pow 10 k))
    else
      let x := x / Number.ofNat (Nat.pow 10 308)
      if k ≤ 616 then some (x / Number.ofNat (Nat.pow 10 (k - 308)))
      else some 0

/-- The number with the digits `whole`, the digits `fraction` behind a point, and the exponent. -/
def numberOf (negative : Bool) (whole : List Char) (fraction : Option (List Char))
    (exp : Option Int) : Option Json :=
  let (n, dropped) := absorb maxSignificand 0 whole
  if dropped.isEmpty && fraction.isNone && exp.isNone &&
      (!negative || (1 ≤ n && n ≤ UInt64.size / 2)) then
    some (.int (if negative then -n else n))
  else
    let digits := fraction.getD []
    let (n, cut) := absorb maxSignificand n digits
    let shift : Int := (dropped.length : Int) - (digits.length - cut.length : Nat) + exp.getD 0
    (scaled? (Number.ofNat n) shift).map fun x => .float (Number.withSign negative x)

/-- The largest exponent that is collected digit by digit. -/
def maxExponent : Nat := UInt32.size / 2 - 1

/-- Whether all digits are zero. -/
def allZero (ds : List Char) : Bool := ds.all (· == '0')

/-- Finishes the number whose digits have been read with the digits of an exponent; `down` says that
a minus sign stood in front of them. -/
def readExponentDigits (negative : Bool) (whole : List Char) (fraction : Option (List Char))
    (down : Bool) (cs : List Char) : Except Fault (Left Json cs) :=
  match cs with
  | [] => faultAt .endInValue []
  | c :: more =>
    if !isAsciiDigit c then faultAhead .invalidNumber (c :: more)
    else
      let ds := Left.span isAsciiDigit (c :: more)
      match absorb maxExponent 0 ds.value with
      | (e, []) =>
        match numberOf negative whole fraction (some (if down then -e else e)) with
        | some j => .ok (ds.map fun _ => j)
        | none => faultAt .numberOutOfRange ds.rest
      | (_, _ :: cut) =>
        if !(allZero whole && allZero (fraction.getD [])) && !down then
          faultAt .numberOutOfRange (cut ++ ds.rest)
        else .ok (ds.map fun _ => .float (Number.withSign negative 0))

/-- Reads what follows the letter of an exponent. -/
def readExponent (negative : Bool) (whole : List Char) (fraction : Option (List Char))
    (tail : List Char) : Except Fault (Left Json tail) :=
  match tail with
  | '+' :: more => (readExponentDigits negative whole fraction false more).map (·.cons '+')
  | '-' :: more => (readExponentDigits negative whole fraction true more).map (·.cons '-')
  | tail => readExponentDigits negative whole fraction false tail

/-- Reads what follows the digits of a number: an exponent, or nothing. -/
def readScale (negative : Bool) (whole : List Char) (fraction : Option (List Char))
    (tail : List Char) : Except Fault (Left Json tail) :=
  match tail with
  | 'e' :: more => (readExponent negative whole fraction more).map (·.cons 'e')
  | 'E' :: more => (readExponent negative whole fraction more).map (·.cons 'E')
  | tail =>
    match numberOf negative whole fraction none with
    | some j => .ok (.all j)
    | none => faultAt .numberOutOfRange tail

/-- Reads what follows the digits before the point. -/
def readFraction (negative : Bool) (whole tail : List Char) : Except Fault (Left Json tail) :=
  match tail with
  | '.' :: more =>
    let ds := Left.span isAsciiDigit more
    if ds.value.isEmpty then
      faultAhead (if more.isEmpty then .endInValue else .invalidNumber) more
    else
      (readScale negative whole (some ds.value) ds.rest).map fun l => (ds.andLeft l).cons '.'
  | tail => readScale negative whole none tail

/-- Reads a number without its sign. -/
def readNumber (negative : Bool) (cs : List Char) : Except Fault (Taken Json cs) :=
  match cs with
  | [] => faultAt .endInValue []
  | '0' :: more =>
    match more with
    | [] =>
      (readFraction negative ['0'] []).map (·.behind '0')
    | d :: rest =>
      if isAsciiDigit d then faultAhead .invalidNumber (d :: rest)
      else (readFraction negative ['0'] (d :: rest)).map (·.behind '0')
  | c :: more =>
    if isAsciiDigit c then
      let ds := Left.span isAsciiDigit more
      (readFraction negative (c :: ds.value) ds.rest).map fun l => (ds.andLeft l).behind c
    else faultAhead .invalidNumber (c :: more)

/-! ### Strings -/

/-- The number of four hexadecimal digits at the start of `cs`. -/
def readHex4 (cs : List Char) : Except Fault (Left Nat cs) :=
  match cs with
  | a :: b :: c :: d :: _ =>
    match Digit.value? 16 a, Digit.value? 16 b, Digit.value? 16 c, Digit.value? 16 d with
    | some w, some x, some y, some z =>
      .ok (.drop 4 (w * 0x1000 + x * 0x100 + y * 0x10 + z))
    | _, _, _, _ => .error ⟨.invalidEscape, cs, 4⟩
  | cs =>
    if 4 ≤ byteLength cs then .error ⟨.invalidEscape, cs, 4⟩ else faultAt .endInString []

/-- The character of a `\u` escape whose digits start `cs`; two escapes may be needed for one
character. -/
def readUnicode (cs : List Char) : Except Fault (Left Char cs) :=
  match readHex4 cs with
  | .error e => .error e
  | .ok ⟨n, rest, h⟩ =>
    if 0xDC00 ≤ n ∧ n ≤ 0xDFFF then faultAt .loneSurrogate rest
    else if n < 0xD800 ∨ 0xDBFF < n then .ok ⟨Char.ofNat n, rest, h⟩
    else match rest with
      | [] => faultAt .endInString []
      | '\\' :: more =>
        match more with
        | [] => faultAt .endInString []
        | 'u' :: ds =>
          match readHex4 ds with
          | .error e => .error e
          | .ok l =>
            if l.value < 0xDC00 ∨ 0xDFFF < l.value then faultAt .loneSurrogate l.rest
            else
              let c := Char.ofNat ((n - 0xD800) * 0x400 + (l.value - 0xDC00) + 0x10000)
              .ok ((((l.map fun _ => c).cons 'u').cons '\\').ofLe h)
        | more => faultAhead .endOfHexEscape more
      | rest => faultAhead .endOfHexEscape rest

/-- The character that the escape `\c` of one letter stands for. -/
def simpleEscape? (c : Char) : Option Char :=
  match c with
  | '"' => some '"'
  | '\\' => some '\\'
  | '/' => some '/'
  | 'b' => some '\x08'
  | 'f' => some '\x0c'
  | 'n' => some '\n'
  | 'r' => some '\r'
  | 't' => some '\t'
  | _ => none

/-- Reads a string whose opening quote has been read; `acc` holds its characters in reverse. -/
def readString (acc : List Char) (cs : List Char) : Except Fault (Taken String cs) :=
  match cs with
  | [] => faultAt .endInString []
  | '"' :: _ => .ok (.first (String.ofList acc.reverse))
  | '\\' :: more =>
    match more with
    | [] => faultAt .endInString []
    | 'u' :: ds =>
      match readUnicode ds with
      | .error e => .error e
      | .ok ⟨c, rest, h⟩ =>
        match readString (c :: acc) rest with
        | .error e => .error e
        | .ok t => .ok (t.ofLe h).cons.cons
    | c :: rest =>
      match simpleEscape? c with
      | none => faultAhead .invalidEscape (c :: rest)
      | some e =>
        match readString (e :: acc) rest with
        | .error e => .error e
        | .ok t => .ok t.cons.cons
  | c :: rest =>
    if c.toNat < 0x20 then faultAt .controlCharacter rest
    else match readString (c :: acc) rest with
      | .error e => .error e
      | .ok t => .ok t.cons
termination_by cs.length

/-! ### Values -/

/-- A reader of one value. -/
abbrev Reader := (cs : List Char) → Except Fault (Taken Json cs)

/-- Reads the items of an array behind a `[` or behind an item; `acc` holds the items so far in
reverse. -/
def readItems (value : Reader) (acc : List Json) (cs : List Char) :
    Except Fault (Taken Json cs) :=
  match h : skipSpace cs with
  | [] => faultAhead .endInList []
  | c :: rest =>
    have hs := length_le_of_skipSpace h
    if c = ']' then .ok ((Taken.first (.array acc.reverse)).ofLe hs)
    else if acc.isEmpty then
      match value (c :: rest) with
      | .error e => .error e
      | .ok item =>
        match readItems value (item.value :: acc) item.rest with
        | .error e => .error e
        | .ok t => .ok ((item.andThen t).ofLe hs)
    else if c = ',' then
      match h' : skipSpace rest with
      | [] => faultAhead .endInValue []
      | d :: more =>
        have hs' := length_le_of_skipSpace h'
        if d = ']' then faultAhead .trailingComma (d :: more)
        else match value (d :: more) with
          | .error e => .error e
          | .ok item =>
            match readItems value (item.value :: acc) item.rest with
            | .error e => .error e
            | .ok t => .ok (((item.andThen t).ofLe hs').cons.ofLe hs)
    else faultAhead .expectedListComma (c :: rest)
termination_by cs.length
decreasing_by
  all_goals
    have := item.rest_lt
    simp only [List.length_cons] at *
    omega

/-- Reads a colon and the value of a field. -/
def readFieldValue (value : Reader) (cs : List Char) : Except Fault (Taken Json cs) :=
  match h : skipSpace cs with
  | [] => faultAhead .endInObject []
  | ':' :: rest => (value rest).map fun t => t.cons.ofLe (length_le_of_skipSpace h)
  | rest => faultAhead .expectedColon rest

/-- Reads the fields of an object behind a `\x7b` or behind a field; `first` says that there is no
field yet. -/
def readFields (value : Reader) (first : Bool) (acc : Fields Json) (cs : List Char) :
    Except Fault (Taken Json cs) :=
  match h : skipSpace cs with
  | [] => faultAhead .endInObject []
  | c :: rest =>
    have hs := length_lt_of_skipSpace h
    let field (keyText : List Char) (hk : keyText.length < cs.length) :
        Except Fault (Taken Json cs) :=
      match readString [] keyText with
      | .error e => .error e
      | .ok key =>
        match readFieldValue value key.rest with
        | .error e => .error e
        | .ok field =>
          match readFields value false (acc.insert key.value field.value) field.rest with
          | .error e => .error e
          | .ok t => .ok ((key.andThen (field.andThen t)).ofLt hk)
    if c = '\x7d' then .ok (Taken.ofLe (.first (.object acc)) (length_le_of_skipSpace h))
    else if first then
      if c = '"' then field rest hs else faultAhead .keyNotString (c :: rest)
    else if c = ',' then
      match h' : skipSpace rest with
      | [] => faultAhead .endInValue []
      | d :: more =>
        if d = '"' then field more (Nat.lt_trans (length_lt_of_skipSpace h') hs)
        else if d = '\x7d' then faultAhead .trailingComma (d :: more)
        else faultAhead .keyNotString (d :: more)
    else faultAhead .expectedObjectComma (c :: rest)
termination_by cs.length
decreasing_by
  have := key.rest_lt
  have := field.rest_lt
  omega

/-- A word that stands for a value, its first letter having been read. -/
def readWord (word : String) (j : Json) (c : Char) (rest : List Char) :
    Except Fault (Taken Json (c :: rest)) :=
  (expectWord word.toList rest).map fun l => (l.behind c).map fun _ => j

/-- Reads a value that starts with `c` and may contain arrays and objects `levels` deep; `inner`
reads what these contain. -/
def readValueAt (levels : Nat) (inner : Reader) (c : Char) (rest : List Char) :
    Except Fault (Taken Json (c :: rest)) :=
  match c with
  | 'n' => readWord "ull" .null 'n' rest
  | 't' => readWord "rue" (.bool true) 't' rest
  | 'f' => readWord "alse" (.bool false) 'f' rest
  | '-' => (readNumber true rest).map Taken.cons
  | '"' => (readString [] rest).map fun t => (t.map .string).cons
  | '[' =>
    if levels = 0 then faultAhead .tooDeep ('[' :: rest)
    else (readItems inner [] rest).map Taken.cons
  | '\x7b' =>
    if levels = 0 then faultAhead .tooDeep ('\x7b' :: rest)
    else (readFields inner true [] rest).map Taken.cons
  | c =>
    if isAsciiDigit c then readNumber false (c :: rest)
    else faultAhead .expectedValue (c :: rest)

/-- Reads a value behind blanks; arrays and objects may be nested `levels` deep. -/
def readValue (levels : Nat) (cs : List Char) : Except Fault (Taken Json cs) :=
  match h : skipSpace cs with
  | [] => faultAhead .endInValue []
  | c :: rest =>
    let inner : Reader := match levels with
      | 0 => fun cs => faultAhead .tooDeep cs
      | n + 1 => readValue n
    (readValueAt levels inner c rest).map fun t => t.ofLe (length_le_of_skipSpace h)

/-- The number of arrays and objects that a value may be nested in. -/
def maxNesting : Nat := 127

/-- Reads a text that is one value. -/
def parse (cs : List Char) : Except Fault Json :=
  match readValue maxNesting cs with
  | .error e => .error e
  | .ok t =>
    match skipSpace t.rest with
    | [] => .ok t.value
    | rest => faultAhead .trailingCharacters rest

/-- Reads a string that is one value; a fault is given by its wording. -/
def parseString (s : String) : Except String Json :=
  (parse s.toList).mapError (Fault.message s.toList)

end TemplateExpr.Json
