/-!
# Doubles as exact numbers

A finite double is `± m · 2 ^ q` with natural `m` and integer `q`. `significand` and `exponent` read
that form off the bits; `ofRatio` goes the other way and rounds a quotient of naturals to the
nearest double, a tie to the even one. Conversions that must be exact (integers, remainders, digits)
work on this form and never on the double itself.
-/

namespace TemplateExpr.Number

/-! ### Reading the bits -/

/-- Whether the sign bit is set; true of negative zero too. -/
def isNegative (x : Float) : Bool := x.toBits.toNat / Nat.pow 2 63 == 1

/-- The eleven bits of the exponent field. -/
def exponentField (x : Float) : Nat := x.toBits.toNat / Nat.pow 2 52 % Nat.pow 2 11

/-- The fifty-two bits of the fraction field. -/
def fractionField (x : Float) : Nat := x.toBits.toNat % Nat.pow 2 52

/-- Neither infinite nor a NaN. -/
def isFinite (x : Float) : Bool := exponentField x != 2047

/-- Not a number. -/
def isNaN (x : Float) : Bool := exponentField x == 2047 && fractionField x != 0

/-- One of the two infinities. -/
def isInfinite (x : Float) : Bool := exponentField x == 2047 && fractionField x == 0

/-- The `m` of a finite double `± m · 2 ^ q`. -/
def significand (x : Float) : Nat :=
  if exponentField x = 0 then fractionField x else Nat.pow 2 52 + fractionField x

/-- The `q` of a finite double `± m · 2 ^ q`. -/
def exponent (x : Float) : Int :=
  if exponentField x = 0 then -1074 else (exponentField x : Int) - 1075

/-- Positive infinity. -/
def infinity : Float := Float.ofBits 0x7FF0000000000000

/-- The canonical NaN. -/
def nan : Float := Float.ofBits 0x7FF8000000000000

/-! ### Rounding to a double -/

/-- `num / den` rounded to the nearest natural, a tie to the even one. -/
def roundEven (num den : Nat) : Nat :=
  let q := num / den
  let twice := 2 * (num % den)
  if twice < den then q
  else if den < twice then q + 1
  else if q % 2 = 0 then q else q + 1

/-- `n · 2 ^ k` for a natural `k`, and `n` for a negative one. -/
def scaleUp (n : Nat) (k : Int) : Nat := n * Nat.pow 2 k.toNat

/-- The double nearest to `num / den`, a tie going to the one with even significand; infinity if the
quotient is too large. The quotient must not have the denominator zero. -/
def ofRatio (num den : Nat) : Float :=
  if num = 0 then 0
  else
    let e : Int := (num.log2 : Int) - (den.log2 : Int)
    -- `2 ^ e ≤ num / den < 2 ^ (e + 1)` after this correction by at most one
    let e := if scaleUp num (-e) < scaleUp den e then e - 1 else e
    let q : Int := max (e - 52) (-1074)
    let m := roundEven (scaleUp num (-q)) (scaleUp den q)
    let bits := (q + 1074).toNat * Nat.pow 2 52 + m
    if 2047 * Nat.pow 2 52 ≤ bits then infinity else Float.ofBits (UInt64.ofNat bits)

/-- The double nearest to a natural number. -/
def ofNat (n : Nat) : Float := ofRatio n 1

/-- The double nearest to an integer. -/
def ofInt (n : Int) : Float := if n < 0 then -(ofNat n.natAbs) else ofNat n.natAbs

/-- The double nearest to `digits · 10 ^ exp`. Exponents that are out of reach for every double are
answered without computing the power. -/
def ofDecimal (digits : Nat) (exp : Int) : Float :=
  if digits = 0 then 0
  else
    let magnitude : Int := (digits.log2 : Int) * 30103 / 100000 + exp
    if 400 < magnitude then infinity
    else if magnitude < -400 then 0
    else if 0 ≤ exp then ofRatio (digits * Nat.pow 10 exp.toNat) 1
    else ofRatio digits (Nat.pow 10 (-exp).toNat)

/-- The double nearest to the magnitude `num / den`, with a sign. -/
def withSign (negative : Bool) (x : Float) : Float := if negative then -x else x

/-! ### Integers -/

/-- The integer part of a finite double, rounded toward zero; zero for the others. -/
def truncate (x : Float) : Int :=
  if isFinite x then
    let q := exponent x
    let n := scaleUp (significand x) q / scaleUp 1 (-q)
    if isNegative x then -(n : Int) else n
  else 0

/-- Whether `x` is finite and has no fraction. -/
def isIntegral (x : Float) : Bool :=
  isFinite x && scaleUp (significand x) (exponent x) % scaleUp 1 (-exponent x) == 0

/-- The integer part of `x`, kept within `lo` and `hi`; a NaN gives zero. -/
def clampInt (lo hi : Int) (x : Float) : Int :=
  if isNaN x then 0
  else if isInfinite x then (if isNegative x then lo else hi)
  else max lo (min hi (truncate x))

/-- The least signed word of 64 bits. -/
def minWord : Int := -(UInt64.size / 2 : Nat)

/-- The greatest signed word of 64 bits. -/
def maxWord : Int := (UInt64.size / 2 - 1 : Nat)

/-- The integer part of `x` as a signed word of 64 bits, the nearest one if it does not fit. -/
def toInt64 (x : Float) : Int := clampInt minWord maxWord x

/-- The integer part of `x` as an unsigned word of 64 bits, the nearest one if it does not fit. -/
def toNat64 (x : Float) : Nat := (clampInt 0 (UInt64.size - 1 : Nat) x).toNat

/-! ### Arithmetic that the hardware operations do not give -/

/-- `x` without its fraction. Only doubles with a negative exponent can have one, and their integer
part is exact as a double. -/
def trunc (x : Float) : Float :=
  if isFinite x && exponent x < 0 then withSign (isNegative x) (ofNat (truncate x).natAbs) else x

/-- The remainder of `x / y`, with the sign of `x`; exact. -/
def remainder (x y : Float) : Float :=
  if !isFinite x || isNaN y || y == 0 then nan
  else if isInfinite y then x
  else
    let q := min (exponent x) (exponent y)
    let a := scaleUp (significand x) (exponent x - q)
    let b := scaleUp (significand y) (exponent y - q)
    let r := a % b
    withSign (isNegative x)
      (ofRatio (scaleUp r q) (scaleUp 1 (-q)))

/-- `x` rounded to the nearest integer, a half toward positive infinity. -/
def roundHalfUp (x : Float) : Float := if isFinite x then (x + 0.5).floor else x

/-- `x` rounded to the nearest integer, a half away from zero. -/
def roundHalfAway (x : Float) : Float :=
  let t := trunc x
  if (x - t).abs < 0.5 || !isFinite x then t else if isNegative x then t - 1 else t + 1

/-! ### Small laws -/

theorem roundEven_one (n : Nat) : roundEven n 1 = n := by
  simp [roundEven, Nat.mod_one]

end TemplateExpr.Number
