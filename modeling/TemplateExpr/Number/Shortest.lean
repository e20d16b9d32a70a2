import TemplateExpr.Number.Dyadic

/-!
# The shortest decimal of a double

`shortest tie m q` is the decimal with the fewest digits that rounds to the double `m · 2 ^ q`, and
of those the one nearest to it; `tie` chooses between two equally near ones. The reals that round to
the double form an interval, whose ends belong to it when `m` is even. For one digit, two digits,
and so on, the two neighbours of the value on the decimal grid are tried against the interval; if a
point of a grid lies in the interval, one of these two does, so no shorter decimal is passed over.
-/

namespace TemplateExpr.Number

/-- The decimal `digits · 10 ^ exp`. -/
structure Decimal where
  digits : Nat
  exp : Int
deriving Repr, DecidableEq

/-- Which of two equally near decimals is taken. -/
inductive Tie where
  /-- The one with the even last digit. -/
  | even
  /-- The greater one. -/
  | up
deriving Repr, DecidableEq

namespace Decimal

/-- Moves zeros at the end of the digits into the exponent; `fuel` bounds their number. -/
def stripZeros (fuel : Nat) (d : Decimal) : Decimal :=
  match fuel with
  | 0 => d
  | fuel + 1 =>
    if d.digits ≠ 0 ∧ d.digits % 10 = 0 then stripZeros fuel ⟨d.digits / 10, d.exp + 1⟩ else d

end Decimal

/-- The reals that round to a double, as the positive fractions between `low / den` and
`high / den`; `value / den` is the double itself. -/
structure Interval where
  low : Nat
  value : Nat
  high : Nat
  den : Nat
  closed : Bool
deriving Repr

/-- The interval of the double `m · 2 ^ q`. Below a power of two the neighbour is half as far. -/
def Interval.ofDyadic (m : Nat) (q : Int) : Interval :=
  let below := if m = Nat.pow 2 52 ∧ -1074 < q then 1 else 2
  let up := scaleUp 1 (q - 2)
  { low := (4 * m - below) * up
    value := 4 * m * up
    high := (4 * m + 2) * up
    den := scaleUp 1 (2 - q)
    closed := m % 2 = 0 }

/-- Whether the decimal `d` lies in the interval. -/
def Interval.contains (i : Interval) (d : Decimal) : Bool :=
  let num := d.digits * Nat.pow 10 d.exp.toNat * i.den
  let scale := Nat.pow 10 (-d.exp).toNat
  if i.closed then i.low * scale ≤ num && num ≤ i.high * scale
  else i.low * scale < num && num < i.high * scale

/-- The largest `k` with `10 ^ k ≤ num / den`, found from the lengths in bits. -/
def magnitude (num den : Nat) : Int :=
  let atLeast (k : Int) : Bool := den * Nat.pow 10 k.toNat ≤ num * Nat.pow 10 (-k).toNat
  let guess : Int := ((num.log2 : Int) - (den.log2 : Int)) * 30103 / 100000
  if atLeast (guess + 1) then guess + 1
  else if atLeast guess then guess
  else guess - 1

/-- The neighbour of the interval's value on the grid of the multiples of `10 ^ exp` that lies in
the interval; of two the nearer one, and of two equally near ones the one that `tie` takes. -/
def Interval.onGrid? (tie : Tie) (i : Interval) (exp : Int) : Option Decimal :=
  let num := i.value * Nat.pow 10 (-exp).toNat
  let den := i.den * Nat.pow 10 exp.toNat
  let down : Decimal := ⟨num / den, exp⟩
  let up : Decimal := ⟨num / den + 1, exp⟩
  match i.contains down && down.digits != 0, i.contains up with
  | true, true =>
    let twice := 2 * (num % den)
    if twice < den then some down
    else if den < twice then some up
    else if tie = .even ∧ down.digits % 2 = 0 then some down else some up
  | true, false => some down
  | false, true => some up
  | false, false => none

/-- The first grid from `10 ^ exp` downwards with a point in the interval; `fuel` grids are tried.
-/
def Interval.firstHit (tie : Tie) (i : Interval) (fuel : Nat) (exp : Int) : Decimal :=
  match fuel with
  | 0 => ⟨i.value / i.den, 0⟩
  | fuel + 1 =>
    match i.onGrid? tie exp with
    | some d => d
    | none => i.firstHit tie fuel (exp - 1)

/-- The shortest decimal that rounds to the positive double `m · 2 ^ q`. Seventeen digits tell all
doubles apart, so the search is over after seventeen grids. -/
def shortest (tie : Tie) (m : Nat) (q : Int) : Decimal :=
  let i := Interval.ofDyadic m q
  (i.firstHit tie 18 (magnitude i.value i.den)).stripZeros 25

/-- The shortest decimal of the magnitude of a finite double. -/
def shortestOf (tie : Tie) (x : Float) : Decimal :=
  if significand x = 0 then ⟨0, 0⟩ else shortest tie (significand x) (exponent x)

end TemplateExpr.Number
