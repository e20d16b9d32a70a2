import TemplateExpr.Chunks
import TemplateExpr.Number.Shortest
import TemplateExpr.Text.Search

/-!
# Texts of numbers

Writing: `plain` is the shortest positional decimal, `format` the text of a number as a value,
`fixed` the text with a given number of decimals, `inRadix` an integer in another base.
Reading: `scanDecimal?` reads the longest decimal at the start of a text, and `parse` converts a
whole text to a number, with the empty text as zero and anything unreadable as NaN.
-/

namespace TemplateExpr.Number

open TemplateExpr.Text

/-! ### Writing -/

/-- The digits of `d` written positionally: no exponent, and no point for an integer. -/
def Decimal.plain (d : Decimal) : List Char :=
  let ds := Digit.write 10 d.digits
  if 0 ≤ d.exp then ds ++ List.replicate d.exp.toNat '0'
  else
    let k := (-d.exp).toNat
    if k < ds.length then ds.take (ds.length - k) ++ '.' :: ds.drop (ds.length - k)
    else '0' :: '.' :: (List.replicate (k - ds.length) '0' ++ ds)

/-- `text` behind a minus sign if `negative`. -/
def signed (negative : Bool) (text : String) : String := if negative then "-" ++ text else text

/-- The shortest positional text of a double, the greater of two equally near ones; `inf` and `NaN`
for the others. -/
def plain (x : Float) : String :=
  if isNaN x then "NaN"
  else signed (isNegative x)
    (if isInfinite x then "inf" else String.ofList (shortestOf .up x).plain)

/-- The text of a number as a value: integers below `10 ^ 21` with all their digits, other finite
numbers as their shortest positional decimal, and zero without a sign. -/
def format (x : Float) : String :=
  if isNaN x then "NaN"
  else if isInfinite x then signed (isNegative x) "Infinity"
  else if x == 0 then "0"
  else if isIntegral x && (truncate x).natAbs < Nat.pow 10 21 then Digit.decimalInt (truncate x)
  else plain x

/-- `num / den` with `places` decimals, a tie going to the even last digit. -/
def fixedRatio (places num den : Nat) : String :=
  let n := roundEven (num * Nat.pow 10 places) den
  if places = 0 then Digit.decimal n
  else Digit.decimal (n / Nat.pow 10 places) ++ "." ++
      Digit.decimalPadded places (n % Nat.pow 10 places)

/-- A finite double with `places` decimals; the sign is kept even if only zeros are left. -/
def fixed (places : Nat) (x : Float) : String :=
  let q := exponent x
  signed (isNegative x)
    (fixedRatio places (scaleUp (significand x) q) (scaleUp 1 (-q)))

/-- An integer in base `radix`, with a minus sign in front of a negative one. -/
def inRadix (radix : Nat) (n : Int) : String :=
  let ds := String.ofList (Digit.write radix n.natAbs)
  if n < 0 then "-" ++ ds else ds

/-! ### Reading -/

/-- The digits at the start of a text and what follows them. -/
def spanDigits (cs : List Char) : List Char × List Char := cs.span isAsciiDigit

/-- The number that a list of digits denotes, zero for none. -/
def digitsValue (ds : List Char) : Nat := (Digit.fold 10 0 ds).getD 0

/-- The exponent `e`, sign, digits at the start of a text; the sign may be missing. -/
def scanExponent? : List Char → Option (Int × List Char)
  | [] => none
  | c :: cs =>
    if c = 'e' ∨ c = 'E' then
      let (negative, cs) := match cs with
        | '-' :: cs => (true, cs)
        | '+' :: cs => (false, cs)
        | cs => (false, cs)
      match spanDigits cs with
      | ([], _) => none
      | (ds, rest) =>
        let n : Int := digitsValue ds
        some (if negative then -n else n, rest)
    else none

/-- The decimal whose digits are `whole` before the point and `fraction` behind it, times
`10 ^ exp`. -/
def Decimal.ofDigits (whole fraction : List Char) (exp : Int) : Decimal :=
  ⟨digitsValue (whole ++ fraction), exp - fraction.length⟩

/-- The longest unsigned decimal at the start of a text: digits with an optional point anywhere, at
least one digit, and an optional exponent. -/
def scanDecimal? (cs : List Char) : Option (Decimal × List Char) :=
  let (whole, rest) := spanDigits cs
  let (fraction, rest) := match rest with
    | '.' :: more => spanDigits more
    | rest => ([], rest)
  if whole.isEmpty && fraction.isEmpty then none
  else match scanExponent? rest with
    | some (exp, rest) => some (Decimal.ofDigits whole fraction exp, rest)
    | none => some (Decimal.ofDigits whole fraction 0, rest)

/-- The sign at the start of a text and what follows it. -/
def spanSign : List Char → Bool × List Char
  | '-' :: cs => (true, cs)
  | '+' :: cs => (false, cs)
  | cs => (false, cs)

/-- The double nearest to a decimal. -/
def Decimal.toFloat (d : Decimal) : Float := ofDecimal d.digits d.exp

/-- The number of a text that is a signed decimal and nothing else. -/
def readDecimal? (cs : List Char) : Option Float :=
  let (negative, cs) := spanSign cs
  match scanDecimal? cs with
  | some (d, []) => some (withSign negative d.toFloat)
  | _ => none

/-- The number of a text that is a signed decimal or, in either case of letters, one of the words
`inf`, `infinity` and `nan` behind an optional sign. -/
def readDecimalOrWord? (cs : List Char) : Option Float :=
  let (negative, body) := spanSign cs
  let word := String.ofList (body.map Char.toLower)
  if word = "inf" ∨ word = "infinity" then some (withSign negative infinity)
  else if word = "nan" then some nan
  else readDecimal? cs

/-- The integer of a numeral in base `base` with an optional sign. -/
def readInt? (base : Nat) (cs : List Char) : Option Int :=
  let (negative, ds) := spanSign cs
  (Digit.read? base ds).map fun n => if negative then -(n : Int) else n

/-- Whether an integer fits a signed word of 64 bits. -/
def fitsInt64 (n : Int) : Bool := minWord ≤ n && n ≤ maxWord

/-- The number that a text is converted to. Blanks at the ends are ignored; the empty text is zero;
`0x` starts a hexadecimal integer of at most 64 bits; `Infinity` may carry a sign. -/
def parse (cs : List Char) : Float :=
  let cs := trim cs
  match cs with
  | [] => 0
  | '0' :: 'x' :: ds | '0' :: 'X' :: ds =>
    match readInt? 16 ds with
    | some n => if fitsInt64 n then ofInt n else nan
    | none => nan
  | cs =>
    let s := String.ofList cs
    if s = "Infinity" ∨ s = "+Infinity" then infinity
    else if s = "-Infinity" then -infinity
    else (readDecimal? cs).getD nan

end TemplateExpr.Number

/-!
## Grouped thousands

A number with at most three decimals and a comma between groups of three digits.
-/

namespace TemplateExpr.Number

open TemplateExpr.Text

/-- `cs` with a comma in front of every group of three, counted from the end, that has characters
before it. -/
def groupByThree (cs : List Char) : List Char :=
  let start := cs.length % 3
  let whole := chunks 3 (cs.drop start)
  joinWith [','] (if start = 0 then whole else cs.take start :: whole)

/-- A number rounded to three decimals, with groups of thousands. -/
def grouped (x : Float) : String :=
  if !isFinite x then format x
  else
    let rounded := roundHalfUp (x.abs * 1000) / 1000
    let (whole, fraction) := (format rounded).toList.span (· != '.')
    signed (x < 0 && rounded != 0) (String.ofList (groupByThree whole ++ fraction))

end TemplateExpr.Number

/-!
## Numbers at the start of a text

`parseInt` and `parseFloat` read the longest number that a text starts with and ignore what follows
it. Blanks in front are skipped, and a text that does not start with a number is NaN.
-/

namespace TemplateExpr.Number

open TemplateExpr.Text

/-! ### Integers -/

/-- The base that is asked for: zero and NaN ask for none. -/
def askedRadix (radix : Option Float) : Option Float :=
  (radix.map trunc).filter fun r => !isNaN r && r != 0

/-- `x` with the digits at the start of a text put behind its own. Every digit rounds. -/
def appendDigits (radix : Nat) (x : Float) : List Char → Float
  | [] => x
  | c :: cs =>
    match Digit.value? radix c with
    | some d => appendDigits radix (x * ofNat radix + ofNat d) cs
    | none => x

/-- The number that the digits at the start of a text denote, if there are any. -/
def leadingDigits? (radix : Nat) (cs : List Char) : Option Float :=
  if (cs.head?.bind (Digit.value? radix)).isSome then some (appendDigits radix 0 cs) else none

/-- What follows `0x`, if a hexadecimal number is possible. -/
def stripHexMark? : List Char → Option (List Char)
  | '0' :: 'x' :: cs | '0' :: 'X' :: cs => some cs
  | _ => none

/-- The integer at the start of a text, in base ten unless a base is asked for; `0x` starts a
hexadecimal one if the base allows it. -/
def parseInt (cs : List Char) (radix : Option Float) : Float :=
  let (negative, digits) := spanSign (trimStart cs)
  let read (base : Nat) (ds : List Char) : Float :=
    ((leadingDigits? base ds).map (withSign negative)).getD nan
  match askedRadix radix with
  | none =>
    match stripHexMark? digits with
    | some hex => read 16 hex
    | none => read 10 digits
  | some r =>
    if 2 ≤ r && r ≤ 36 then
      let base := toNat64 r
      read base (if base = 16 then (stripHexMark? digits).getD digits else digits)
    else nan

/-! ### Decimals -/

/-- The exponent at the start of a text: nothing unless there are digits behind `e` and a sign. -/
def leadingExponent : List Char → List Char
  | [] => []
  | c :: cs =>
    if c = 'e' ∨ c = 'E' then
      let sign := cs.take (if cs.head? = some '-' ∨ cs.head? = some '+' then 1 else 0)
      match (cs.drop sign.length).takeWhile isDecimalDigit with
      | [] => []
      | ds => c :: (sign ++ ds)
    else []

/-- The point and the digits behind it at the start of a text. -/
def leadingFraction : List Char → List Char
  | '.' :: cs =>
    match cs.takeWhile isDecimalDigit with
    | [] => []
    | ds => '.' :: ds
  | _ => []

/-- The unsigned decimal at the start of a text: digits, a fraction, or both, and an exponent. -/
def leadingDecimal (cs : List Char) : List Char :=
  let whole := cs.takeWhile isDecimalDigit
  let fraction := leadingFraction (cs.drop whole.length)
  match whole ++ fraction with
  | [] => []
  | digits => digits ++ leadingExponent (cs.drop digits.length)

/-- The word for infinity. -/
def infinityWord : List Char := "Infinity".toList

/-- The decimal at the start of a text. A digit that is not one of `0` to `9` makes it a NaN. -/
def parseFloat (cs : List Char) : Float :=
  let (negative, body) := spanSign (trimStart cs)
  if infinityWord.isPrefixOf body then withSign negative infinity
  else
    match scanDecimal? (leadingDecimal body) with
    | some (d, []) => withSign negative d.toFloat
    | _ => nan

end TemplateExpr.Number
