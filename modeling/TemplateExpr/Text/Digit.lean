/-!
# Digits in any base up to 36

`Digit.value? base c` reads one digit and `Digit.char d` writes one. Numerals are lists of
characters, most significant digit first; `Digit.value?_char` says that a written digit reads back.
-/

namespace TemplateExpr.Text.Digit

/-- The value of `c` as a digit in base `base`; letters of either case stand for ten and above. -/
def value? (base : Nat) (c : Char) : Option Nat :=
  let n := c.toNat
  let v? : Option Nat :=
    if 48 ≤ n ∧ n ≤ 57 then some (n - 48)
    else if 97 ≤ n ∧ n ≤ 122 then some (n - 87)
    else if 65 ≤ n ∧ n ≤ 90 then some (n - 55)
    else none
  v?.filter (· < base)

/-- The lower-case digit of value `d < 36`. -/
def char (d : Nat) : Char :=
  if d < 10 then Char.ofNat (48 + d) else Char.ofNat (87 + d)

/-- Whether `c` is one of `0-9`, `a-f`, `A-F`. -/
def isHex (c : Char) : Bool := (value? 16 c).isSome

theorem value?_char : ∀ d < 36, value? 36 (char d) = some d := by decide

/-- The number that the digits `cs` denote, `acc` being the value of the digits before them. -/
def fold (base : Nat) (acc : Nat) : List Char → Option Nat
  | [] => some acc
  | c :: cs => (value? base c).bind fun d => fold base (base * acc + d) cs

/-- The number that a non-empty numeral denotes. -/
def read? (base : Nat) (cs : List Char) : Option Nat :=
  if cs.isEmpty then none else fold base 0 cs

/-- The digits of `n` in base `base`, put in front of `tail`. -/
def writeOnto (base : Nat) (n : Nat) (tail : List Char) : List Char :=
  if _h : 2 ≤ base ∧ base ≤ n then
    writeOnto base (n / base) (char (n % base) :: tail)
  else
    char n :: tail
termination_by n
decreasing_by exact Nat.div_lt_self (by omega) (by omega)

/-- The numeral of `n` in base `base`, without leading zeros. -/
def write (base : Nat) (n : Nat) : List Char := writeOnto base n []

/-- The numeral of `n`, filled up with zeros on the left to at least `width` digits. -/
def writePadded (base width : Nat) (n : Nat) : List Char :=
  let ds := write base n
  List.replicate (width - ds.length) '0' ++ ds

/-- Decimal text of a natural number. -/
def decimal (n : Nat) : String := String.ofList (write 10 n)

/-- Decimal text of an integer. -/
def decimalInt (n : Int) : String :=
  if n < 0 then "-" ++ decimal n.natAbs else decimal n.natAbs

/-- Decimal text of `n`, filled up with zeros on the left to at least `width` digits. -/
def decimalPadded (width n : Nat) : String := String.ofList (writePadded 10 width n)

end TemplateExpr.Text.Digit
