import TemplateExpr.Number.Dyadic

/-!
# Arithmetic of values

Powers, extremes, sums and rounding to decimals, as far as they differ from the operations on
doubles.
-/

namespace TemplateExpr.Number

/-- `base` to the power of `exp`; a NaN if the exponent is one, or if it is infinite and the base is
one or minus one. -/
def power (base exp : Float) : Float :=
  if isNaN exp || (base.abs == 1 && isInfinite exp) then nan else base.pow exp

/-- The smaller of two numbers, the first of equal ones. -/
def smaller (x y : Float) : Float := if y < x then y else x

/-- The larger of two numbers, the first of equal ones. -/
def larger (x y : Float) : Float := if x < y then y else x

/-- The sum of numbers, added from left to right; negative zero for none. -/
def total (xs : List Float) : Float := xs.foldl (· + ·) (-0.0)

/-- The sign of a number: one, minus one, or the number itself if it is zero or a NaN. -/
def sign (x : Float) : Float := if isNaN x || x == 0 then x else withSign (isNegative x) 1

/-- The largest number of decimals, or of zeros before the point, that is rounded to. -/
def maxPlaces : Nat := 20

/-- `x` rounded to a number of decimals, a half toward positive infinity. -/
def roundTo (places : Float) (x : Float) : Float :=
  let factor := ofDecimal 1 (clampInt (-maxPlaces) maxPlaces places)
  roundHalfUp (x * factor) / factor

/-- Whether `x` is an even integer. -/
def isEven (x : Float) : Bool := isIntegral x && remainder x 2 == 0

/-- Whether `x` is an odd integer. -/
def isOdd (x : Float) : Bool := isIntegral x && remainder x.abs 2 == 1

/-- The largest integer up to which all integers are doubles. -/
def maxSafe : Float := 9007199254740991

end TemplateExpr.Number

/-!
## Cube roots

The cube root of a double, rounded to the nearest double. `rootFloor` takes the integer cube root
bit by bit; of a number with three times as many bits as are needed it gives the digits of the root,
and one more bit tells whether anything follows them.
-/

namespace TemplateExpr.Number

/-- The largest `r` below `root + 2 ^ bits` with `r ^ 3 ≤ n`, if `root` is not too large and the
bits below `2 ^ bits` in it are zero. -/
def rootFloor (n root : Nat) : Nat → Nat
  | 0 => root
  | bits + 1 =>
    let next := root + Nat.pow 2 bits
    rootFloor n (if next * next * next ≤ n then next else root) bits

/-- The number of bits to which a root is taken, more than a double has. -/
def rootBits : Nat := 64

/-- The double nearest to the cube root of `m · 2 ^ q`. The significand is moved up to an exponent
that is a multiple of three. -/
def cubeRootOf (m : Nat) (q : Int) : Float :=
  let up := 3 * rootBits - 3 - m.log2 + ((q - (3 * rootBits - 3 - m.log2 : Nat)) % 3).toNat
  let n := m * Nat.pow 2 up
  let r := rootFloor n 0 rootBits
  let digits := 2 * r + if r * r * r = n then 0 else 1
  let exp : Int := (q - up) / 3 - 1
  ofRatio (scaleUp digits exp) (scaleUp 1 (-exp))

/-- The cube root of a number; of the infinities, NaN and the zeros it is the number itself. -/
def cubeRoot (x : Float) : Float :=
  if !isFinite x || significand x = 0 then x
  else withSign (isNegative x) (cubeRootOf (significand x) (exponent x))

end TemplateExpr.Number

/-!
## Numbers as positions

How a number names a place in a list of `len` items: exactly (`asIndex?`), kept within the list
(`clampIndex`), or counted from the end if it is negative (`relativeIndex`). Fractions are dropped
where they are allowed, and a NaN is the first place.
-/

namespace TemplateExpr.Number

/-- A number that is not negative and has no fraction, as a position. -/
def asIndex? (x : Float) : Option Nat :=
  if 0 ≤ x && isIntegral x then some (toNat64 x) else none

/-- A position between zero and `len`. -/
def clampIndex (x : Float) (len : Nat) : Nat := (clampInt 0 len x).toNat

/-- A position between zero and `len`; negative numbers count from the end. -/
def relativeIndex (x : Float) (len : Nat) : Nat :=
  let i := clampInt (-len) len x
  (if i < 0 then len + i else i).toNat

/-- The position of an item; negative numbers count from the end. -/
def itemIndex? (x : Float) (len : Nat) : Option Nat :=
  if isNaN x then some 0
  else
    let i := clampInt (-len - 1) len x
    let position := if i < 0 then len + i else i
    if 0 ≤ position ∧ position < len then some position.toNat else none

theorem clampInt_le {lo hi : Int} (h : lo ≤ hi) (x : Float) (h0 : 0 ≤ hi) :
    clampInt lo hi x ≤ hi := by
  unfold clampInt
  split
  · exact h0
  · split
    · split <;> omega
    · omega

theorem relativeIndex_le (x : Float) (len : Nat) : relativeIndex x len ≤ len := by
  have h : clampInt (-len) len x ≤ len := clampInt_le (by omega) x (by omega)
  simp only [relativeIndex]
  split <;> omega

end TemplateExpr.Number
