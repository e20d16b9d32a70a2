import TemplateExpr.Proofs.Number.Shortest

/-!
# Rounding to doubles

`ofRatio` rounds to the nearest double: a quotient in the interval of a double is rounded to that
double (`ofRatio_eq`). The exponent is found from the lengths in bits (`zpow_ratioExponent_le`,
`lt_zpow_ratioExponent`), and the significand by rounding to the nearest natural number
(`roundEven_eq`). A quotient just below a power of two is rounded on the finer grid, and what is
carried over there is the next exponent (`ofRatio_eq_of_lt`). With that a decimal in the interval of
a double is read as that double (`toFloat_eq`).
-/

namespace TemplateExpr.Number

/-! ### Rounding to a natural number -/

theorem roundEven_eq_of_le {num den m : Nat} (hden : den ≠ 0)
    (hlow : 2 * m * den ≤ 2 * num + den) (hhigh : 2 * num ≤ 2 * m * den + den)
    (hodd : m % 2 = 1 → 2 * m * den < 2 * num + den ∧ 2 * num < 2 * m * den + den) :
    roundEven num den = m := by
  have hdiv : den * (num / den) + num % den = num := Nat.div_add_mod num den
  have hmod : num % den < den := Nat.mod_lt _ (Nat.pos_of_ne_zero hden)
  rw [roundEven]
  generalize num / den = k at *
  generalize num % den = r at *
  have hle : k ≤ m := by
    by_contra hlt
    have := Nat.mul_le_mul_left den (Nat.lt_of_not_le hlt)
    rw [Nat.mul_succ, Nat.mul_comm den m] at this
    have hm : 2 * m * den = 2 * (m * den) := Nat.mul_assoc _ _ _
    omega
  have hle' : m ≤ k + 1 := by
    by_contra hlt
    have := Nat.mul_le_mul_left den (Nat.lt_of_not_le hlt)
    rw [Nat.mul_succ, Nat.mul_succ, Nat.mul_comm den m] at this
    have hm : 2 * m * den = 2 * (m * den) := Nat.mul_assoc _ _ _
    omega
  obtain rfl | rfl : m = k ∨ m = k + 1 := by omega
  · have hm : 2 * m * den = 2 * (den * m) := by rw [Nat.mul_assoc, Nat.mul_comm m]
    split
    · rfl
    · split
      · omega
      · split
        · rfl
        · have := hodd (by omega)
          omega
  · have hm : 2 * (k + 1) * den = 2 * (den * k) + 2 * den := by
      rw [Nat.mul_assoc, Nat.add_mul, Nat.one_mul, Nat.mul_add, Nat.mul_comm k]
    split
    · omega
    · split
      · rfl
      · split
        · have := hodd (by omega)
          omega
        · rfl

/-- A quotient within a half of a natural number is rounded to it, a half apart if it is even. -/
theorem roundEven_eq {num den m : Nat} (hden : den ≠ 0) (hlow : (m : ℚ) - 1 / 2 ≤ num / den)
    (hhigh : (num : ℚ) / den ≤ m + 1 / 2)
    (hodd : m % 2 = 1 → (m : ℚ) - 1 / 2 < num / den ∧ (num : ℚ) / den < m + 1 / 2) :
    roundEven num den = m := by
  have hpos : (0 : ℚ) < den := by exact_mod_cast Nat.pos_of_ne_zero hden
  -- the bounds on twice the numerator, without fractions
  refine roundEven_eq_of_le hden ?_ ?_ fun hm => ?_
  · rw [le_div_iff₀ hpos] at hlow
    have : (2 * m * den : ℚ) ≤ 2 * num + den := by linarith
    exact_mod_cast this
  · rw [div_le_iff₀ hpos] at hhigh
    have : (2 * num : ℚ) ≤ 2 * m * den + den := by linarith
    exact_mod_cast this
  · obtain ⟨h1, h2⟩ := hodd hm
    rw [lt_div_iff₀ hpos] at h1
    rw [div_lt_iff₀ hpos] at h2
    have h1' : (2 * m * den : ℚ) < 2 * num + den := by linarith
    have h2' : (2 * num : ℚ) < 2 * m * den + den := by linarith
    exact ⟨by exact_mod_cast h1', by exact_mod_cast h2'⟩

/-! ### The exponent of a quotient -/

/-- The exponent of the power of two that a quotient is compared with. -/
def ratioExponent (num den : Nat) : Int :=
  let e : Int := (num.log2 : Int) - (den.log2 : Int)
  if scaleUp num (-e) < scaleUp den e then e - 1 else e

theorem ofRatio_of_ne_zero {num : Nat} (hnum : num ≠ 0) (den : Nat) :
    ofRatio num den =
      let q : Int := max (ratioExponent num den - 52) (-1074)
      let bits := (q + 1074).toNat * 2 ^ 52 + roundEven (scaleUp num (-q)) (scaleUp den q)
      if 2047 * 2 ^ 52 ≤ bits then infinity else Float.ofBits (UInt64.ofNat bits) := by
  rw [ofRatio, if_neg hnum]
  rfl

/-- A quotient on a grid of powers of two. -/
theorem scaleUp_div_scaleUp (num den : Nat) (q : Int) :
    (scaleUp num (-q) : ℚ) / scaleUp den q = num / den / 2 ^ q := by
  have hq := zpow_eq_div (b := 2) (by norm_num) q
  have h1 : (0 : ℚ) < ((2 ^ q.toNat : Nat) : ℚ) := by positivity
  have h2 : (0 : ℚ) < ((2 ^ (-q).toNat : Nat) : ℚ) := by positivity
  have hup (n : Nat) (k : Int) : (scaleUp n k : ℚ) = n * ((2 ^ k.toNat : Nat) : ℚ) :=
    Nat.cast_mul n _
  rw [Nat.cast_ofNat] at hq
  rw [hq, hup, hup]
  field_simp

section

variable {num den : Nat} (hden : den ≠ 0)

include hden

/-- Whether a quotient is below a power of two is decided without fractions. -/
theorem scaleUp_lt_scaleUp_iff (e : Int) :
    scaleUp num (-e) < scaleUp den e ↔ (num : ℚ) / den < 2 ^ e := by
  have hpos : (0 : ℚ) < scaleUp den e := by
    exact_mod_cast Nat.mul_pos (Nat.pos_of_ne_zero hden) (Nat.two_pow_pos _)
  have hpow : (0 : ℚ) < 2 ^ e := by positivity
  rw [← div_lt_one hpow, ← scaleUp_div_scaleUp, div_lt_one hpos, Nat.cast_lt]

theorem lt_zpow_ratioExponent : (num : ℚ) / den < 2 ^ (ratioExponent num den + 1) := by
  have hpos : (0 : ℚ) < den := by exact_mod_cast Nat.pos_of_ne_zero hden
  rw [ratioExponent]
  split
  · next h =>
    rw [sub_add_cancel]
    exact (scaleUp_lt_scaleUp_iff hden _).1 h
  · have h1 : (num : ℚ) < 2 ^ (num.log2 + 1) := by exact_mod_cast Nat.lt_log2_self
    have h2 : (2 : ℚ) ^ den.log2 ≤ den := by exact_mod_cast Nat.log2_self_le hden
    rw [div_lt_iff₀ hpos]
    calc (num : ℚ) < 2 ^ (num.log2 + 1) := h1
      _ = 2 ^ ((num.log2 : Int) - den.log2 + 1) * 2 ^ den.log2 := by
          rw [← zpow_natCast, ← zpow_natCast, ← zpow_add₀ (by norm_num)]
          congr 1
          push_cast
          ring
      _ ≤ 2 ^ ((num.log2 : Int) - den.log2 + 1) * den :=
          mul_le_mul_of_nonneg_left h2 (by positivity)

variable (hnum : num ≠ 0)

include hnum

theorem zpow_ratioExponent_le : (2 : ℚ) ^ ratioExponent num den ≤ num / den := by
  rw [ratioExponent]
  split
  · exact zpow_log2_sub_le hnum hden
  · next h => exact not_lt.1 (mt (scaleUp_lt_scaleUp_iff hden _).2 h)

/-- The exponent is the only one with its power of two next below the quotient. -/
theorem ratioExponent_eq {e : Int} (hlow : (2 : ℚ) ^ e ≤ num / den)
    (hhigh : (num : ℚ) / den < 2 ^ (e + 1)) : ratioExponent num den = e := by
  have h1 := (zpow_ratioExponent_le hden hnum).trans_lt hhigh
  have h2 := hlow.trans_lt (lt_zpow_ratioExponent hden)
  rw [zpow_lt_zpow_iff_right₀ (by norm_num)] at h1 h2
  omega

end

/-! ### The nearest double -/

/-- The double `m · 2 ^ q` is the one that a number is rounded to: the number lies between the
middles to the neighbours, and on one of them if `m` is even. -/
structure RoundsTo (r : ℚ) (m : Nat) (q : Int) : Prop where
  low : ((4 * m - Interval.below m q : Nat) : ℚ) * 2 ^ (q - 2) ≤ r
  high : r ≤ ((4 * m + 2 : Nat) : ℚ) * 2 ^ (q - 2)
  odd : m % 2 = 1 → ((4 * m - Interval.below m q : Nat) : ℚ) * 2 ^ (q - 2) < r ∧
    r < ((4 * m + 2 : Nat) : ℚ) * 2 ^ (q - 2)

theorem roundsTo_of_contains {m : Nat} {q : Int} {d : Decimal}
    (h : (Interval.ofDyadic m q).contains d = true) : RoundsTo d.toRat m q := by
  obtain ⟨hlow, hhigh, hodd⟩ := Interval.bounds_of_contains h
  exact ⟨hlow, hhigh, hodd⟩

/-- The bits of the double `m · 2 ^ q`. A significand of 54 bits stands for the next exponent. -/
def wordOf (m : Nat) (q : Int) : Nat := (q + 1074).toNat * 2 ^ 52 + m

theorem Interval.below_le (m : Nat) (q : Int) : below m q ≤ 2 := by
  rw [below]
  split <;> omega

/-- A number that is rounded to `m · 2 ^ q`, in units of `2 ^ q`. -/
theorem RoundsTo.units {r : ℚ} {m : Nat} {q : Int} (h : RoundsTo r m q) (hr : 0 < r) :
    (m : ℚ) - (Interval.below m q : ℚ) / 4 ≤ r / 2 ^ q ∧ r / 2 ^ q ≤ m + 1 / 2 ∧
      (m % 2 = 1 → (m : ℚ) - (Interval.below m q : ℚ) / 4 < r / 2 ^ q ∧ r / 2 ^ q < m + 1 / 2) := by
  obtain ⟨hlow, hhigh, hodd⟩ := h
  have hplace : (0 : ℚ) < 2 ^ q := by positivity
  have hbelow := Interval.below_le m q
  have hquarter (x : ℚ) : x * 2 ^ (q - 2) = x / 4 * 2 ^ q := by
    rw [zpow_sub₀ (by norm_num)]
    ring
  rw [hquarter, ← le_div_iff₀ hplace] at hlow
  rw [hquarter, ← div_le_iff₀ hplace] at hhigh
  rw [hquarter, hquarter, ← lt_div_iff₀ hplace, ← div_lt_iff₀ hplace] at hodd
  have htop : ((4 * m + 2 : Nat) : ℚ) / 4 = m + 1 / 2 := by
    push_cast
    ring
  rw [htop] at hhigh hodd
  rcases Nat.eq_zero_or_pos m with rfl | hm
  · refine ⟨?_, hhigh, fun h => absurd h (by decide)⟩
    have h1 : (0 : ℚ) < r / 2 ^ q := div_pos hr hplace
    have h2 : (0 : ℚ) ≤ (Interval.below 0 q : ℚ) := Nat.cast_nonneg _
    rw [Nat.cast_zero]
    linarith
  · have hbottom : ((4 * m - Interval.below m q : Nat) : ℚ) / 4 =
        m - (Interval.below m q : ℚ) / 4 := by
      rw [Nat.cast_sub (by omega)]
      push_cast
      ring
    rw [hbottom] at hlow hodd
    exact ⟨hlow, hhigh, hodd⟩

/-- A number that is rounded to a double is below the next power of two. -/
theorem RoundsTo.lt_two_zpow_succ {r : ℚ} {m : Nat} {q : Int} (h : RoundsTo r m q) (hr : 0 < r)
    (hlt : m < 2 ^ 53) : r < 2 ^ (52 + q + 1) := by
  have hplace : (0 : ℚ) < 2 ^ q := by positivity
  obtain ⟨-, hhigh, -⟩ := h.units hr
  have hsignificand : (m : ℚ) ≤ 2 ^ 53 - 1 := by
    have : ((m + 1 : Nat) : ℚ) ≤ ((2 ^ 53 : Nat) : ℚ) := by exact_mod_cast hlt
    push_cast at this
    linarith
  have hcarry : (2 : ℚ) ^ (52 + q + 1) = 2 ^ 53 * 2 ^ q := by
    rw [← zpow_natCast, ← zpow_add₀ (by norm_num)]
    congr 1
    push_cast
    ring
  rw [hcarry, ← div_lt_iff₀ hplace]
  linarith

/-- Only a power of two is what a smaller number of the exponent below is rounded to. -/
theorem RoundsTo.eq_two_pow {r : ℚ} {m : Nat} {q : Int} (h : RoundsTo r m q) (hr : 0 < r)
    (hcanonical : IsCanonical m q) (hlt : r < 2 ^ (52 + q)) (hq : q ≠ -1074) : m = 2 ^ 52 := by
  obtain ⟨hlow, -, -⟩ := h.units hr
  have hge := hcanonical.le_exponent
  have hm := hcanonical.normal (by omega)
  have hbelow : (Interval.below m q : ℚ) ≤ 2 := by exact_mod_cast Interval.below_le m q
  have hunits : r / 2 ^ q < 2 ^ 52 := by
    rw [div_lt_iff₀ (by positivity), ← zpow_natCast, ← zpow_add₀ (by norm_num)]
    exact_mod_cast hlt
  have hsucc : (m : ℚ) < ((2 ^ 52 + 1 : Nat) : ℚ) := by
    push_cast
    linarith
  have : m < 2 ^ 52 + 1 := by exact_mod_cast hsucc
  omega

section

variable {num den : Nat} (hden : den ≠ 0)

include hden

theorem scaleUp_ne_zero (k : Int) : scaleUp den k ≠ 0 :=
  (Nat.mul_pos (Nat.pos_of_ne_zero hden) (Nat.two_pow_pos _)).ne'

variable (hnum : num ≠ 0)

include hnum

theorem ratio_pos : (0 : ℚ) < (num : ℚ) / den :=
  div_pos (by exact_mod_cast Nat.pos_of_ne_zero hnum) (by exact_mod_cast Nat.pos_of_ne_zero hden)

/-- On the grid of the double that it is rounded to, a quotient is rounded to the significand. -/
theorem RoundsTo.roundEven_scaleUp {m : Nat} {q : Int} (h : RoundsTo ((num : ℚ) / den) m q) :
    roundEven (scaleUp num (-q)) (scaleUp den q) = m := by
  obtain ⟨hlow, hhigh, hodd⟩ := h.units (ratio_pos hden hnum)
  have hbelow : (Interval.below m q : ℚ) ≤ 2 := by exact_mod_cast Interval.below_le m q
  refine roundEven_eq (scaleUp_ne_zero hden q) ?_ ?_ fun hm => ?_
  · rw [scaleUp_div_scaleUp]
    linarith
  · rwa [scaleUp_div_scaleUp]
  · rw [scaleUp_div_scaleUp]
    obtain ⟨h1, h2⟩ := hodd hm
    exact ⟨by linarith, h2⟩

/-- A quotient below the power of two that it is rounded to is rounded on the grid that is twice as
fine, and what is carried over there is the power of two. -/
theorem ofRatio_eq_of_lt {q : Int} (hcanonical : IsCanonical (2 ^ 52) q)
    (h : RoundsTo ((num : ℚ) / den) (2 ^ 52) q) (hlt : (num : ℚ) / den < 2 ^ (52 + q))
    (hq : q ≠ -1074) : ofRatio num den = Float.ofBits (UInt64.ofNat (wordOf (2 ^ 52) q)) := by
  have hge := hcanonical.le_exponent
  have hle := hcanonical.exponent_le
  have hplace : (0 : ℚ) < 2 ^ q := by positivity
  obtain ⟨hlow, -, -⟩ := h.units (ratio_pos hden hnum)
  have hquarter : Interval.below (2 ^ 52) q = 1 := if_pos ⟨rfl, by omega⟩
  rw [hquarter] at hlow
  push_cast at hlow
  have hunits : (num : ℚ) / den / 2 ^ q < 2 ^ 52 := by
    rw [div_lt_iff₀ hplace, ← zpow_natCast, ← zpow_add₀ (by norm_num)]
    exact_mod_cast hlt
  have hfine : (num : ℚ) / den / 2 ^ (q - 1) = 2 * (num / den / 2 ^ q) := by
    have hcoarse : (2 : ℚ) ^ q = 2 * 2 ^ (q - 1) := by
      rw [← zpow_one_add₀ (by norm_num)]
      congr 1
      ring
    rw [hcoarse]
    field_simp
  have hexp : ratioExponent num den = 51 + q := by
    refine ratioExponent_eq hden hnum ?_ ?_
    · have hhalf : (2 : ℚ) ^ (51 + q) = 2 ^ 51 * 2 ^ q := by
        rw [← zpow_natCast, ← zpow_add₀ (by norm_num)]
        rfl
      rw [hhalf, ← le_div_iff₀ hplace]
      linarith
    · have hsucc : 51 + q + 1 = 52 + q := by ring
      rwa [hsucc]
  have hgrid : max (ratioExponent num den - 52) (-1074) = q - 1 := by
    rw [hexp]
    omega
  have hround : roundEven (scaleUp num (-(q - 1))) (scaleUp den (q - 1)) = 2 ^ 53 := by
    refine roundEven_eq (scaleUp_ne_zero hden _) ?_ ?_ fun hm => absurd hm (by decide)
    · rw [scaleUp_div_scaleUp, hfine]
      push_cast
      linarith
    · rw [scaleUp_div_scaleUp, hfine]
      push_cast
      linarith
  have hword : (q - 1 + 1074).toNat * 2 ^ 52 + 2 ^ 53 = wordOf (2 ^ 52) q := by
    rw [wordOf]
    omega
  rw [ofRatio_of_ne_zero hnum]
  dsimp only
  rw [hgrid, hround, hword, if_neg (by rw [wordOf]; omega)]

/-- A quotient that is rounded to a double is turned into it. -/
theorem ofRatio_eq {m : Nat} {q : Int} (hcanonical : IsCanonical m q)
    (h : RoundsTo ((num : ℚ) / den) m q) :
    ofRatio num den = Float.ofBits (UInt64.ofNat (wordOf m q)) := by
  have hpos := ratio_pos hden hnum
  have hlt := hcanonical.lt_significand
  have hge := hcanonical.le_exponent
  have hle := hcanonical.exponent_le
  have htop := h.lt_two_zpow_succ hpos hlt
  by_cases hgrid : (2 : ℚ) ^ (52 + q) ≤ num / den ∨ q = -1074
  · -- the grid is that of the double
    have hq : max (ratioExponent num den - 52) (-1074) = q := by
      rcases hgrid with hbottom | rfl
      · rw [ratioExponent_eq hden hnum hbottom htop]
        omega
      · have hexp := (zpow_ratioExponent_le hden hnum).trans_lt htop
        rw [zpow_lt_zpow_iff_right₀ (by norm_num)] at hexp
        omega
    rw [ofRatio_of_ne_zero hnum]
    dsimp only
    rw [hq, h.roundEven_scaleUp hden hnum, if_neg (by omega)]
    rfl
  · obtain ⟨hbottom, hnormal⟩ := not_or.1 hgrid
    rw [not_le] at hbottom
    obtain rfl := h.eq_two_pow hpos hcanonical hbottom hnormal
    exact ofRatio_eq_of_lt hden hnum hcanonical h hbottom hnormal

end

/-! ### Decimals -/

theorem RoundsTo.lt_two_zpow {r : ℚ} {m : Nat} {q : Int} (h : RoundsTo r m q)
    (hcanonical : IsCanonical m q) : r < 2 ^ (1025 : Int) := by
  have hlt := hcanonical.lt_significand
  have hplace : (2 : ℚ) ^ (q - 2) ≤ 2 ^ (969 : Int) :=
    zpow_le_zpow_right₀ (by norm_num) (by have := hcanonical.exponent_le; omega)
  have hunits : ((4 * m + 2 : Nat) : ℚ) ≤ 2 ^ 55 := by exact_mod_cast (by omega : 4 * m + 2 ≤ 2 ^ 55)
  calc r ≤ ((4 * m + 2 : Nat) : ℚ) * 2 ^ (q - 2) := h.high
    _ ≤ 2 ^ 55 * 2 ^ (969 : Int) := mul_le_mul hunits hplace (by positivity) (by positivity)
    _ = 2 ^ (1024 : Int) := by
        rw [← zpow_natCast, ← zpow_add₀ (by norm_num)]
        rfl
    _ < 2 ^ (1025 : Int) := zpow_lt_zpow_right₀ (by norm_num) (by norm_num)

theorem RoundsTo.two_zpow_le {r : ℚ} {m : Nat} {q : Int} (h : RoundsTo r m q)
    (hcanonical : IsCanonical m q) (hm : 0 < m) : 2 ^ (-1076 : Int) ≤ r := by
  have hbelow := Interval.below_le m q
  have hplace : (2 : ℚ) ^ (-1076 : Int) ≤ 2 ^ (q - 2) :=
    zpow_le_zpow_right₀ (by norm_num) (by have := hcanonical.le_exponent; omega)
  have hunits : (1 : ℚ) ≤ ((4 * m - Interval.below m q : Nat) : ℚ) := by
    exact_mod_cast (by omega : 1 ≤ 4 * m - Interval.below m q)
  calc (2 : ℚ) ^ (-1076 : Int) = 1 * 2 ^ (-1076 : Int) := (one_mul _).symm
    _ ≤ ((4 * m - Interval.below m q : Nat) : ℚ) * 2 ^ (q - 2) :=
        mul_le_mul hunits hplace (by positivity) (by positivity)
    _ ≤ r := h.low

theorem two_zpow_le_ten_zpow {a b : Int} (hlow : 59 * b ≤ 196 * a) (hhigh : 28 * b ≤ 93 * a) :
    (2 : ℚ) ^ b ≤ 10 ^ a := by
  have h : (10 : ℚ) ^ (-a) ≤ 2 ^ (-b) := ten_zpow_le_two_zpow (by omega) (by omega)
  rw [zpow_neg, zpow_neg] at h
  exact (inv_le_inv₀ (by positivity) (by positivity)).1 h

/-- The estimate of its length does not put a decimal out of reach that a double is near to. -/
theorem estimate_bounds {d : Decimal} (hdigits : d.digits ≠ 0) (hexp : -2000 ≤ d.exp)
    (hexp' : d.exp ≤ 2000) (hlow : 2 ^ (-1076 : Int) ≤ d.toRat) (hhigh : d.toRat < 2 ^ (1025 : Int)) :
    -400 ≤ (d.digits.log2 : Int) * 30103 / 100000 + d.exp ∧
      (d.digits.log2 : Int) * 30103 / 100000 + d.exp ≤ 400 := by
  have hpow : (0 : ℚ) < 10 ^ d.exp := by positivity
  constructor
  · by_contra hlt
    have hlog : (d.digits : ℚ) ≤ 2 ^ ((d.digits.log2 : Int) + 1) := by
      exact_mod_cast (Nat.lt_log2_self (n := d.digits)).le
    have hup : (2 : ℚ) ^ ((d.digits.log2 : Int) + 1) ≤ 10 ^ (-350 - d.exp) :=
      two_zpow_le_ten_zpow (by omega) (by omega)
    have hsmall : d.toRat < d.toRat :=
      calc d.toRat = d.digits * 10 ^ d.exp := rfl
        _ ≤ 10 ^ (-350 - d.exp) * 10 ^ d.exp := mul_le_mul_of_nonneg_right (hlog.trans hup) hpow.le
        _ = 10 ^ (-350 : Int) := by rw [← zpow_add₀ (by norm_num), sub_add_cancel]
        _ ≤ 2 ^ (-1077 : Int) := ten_zpow_le_two_zpow (by norm_num) (by norm_num)
        _ < 2 ^ (-1076 : Int) := zpow_lt_zpow_right₀ (by norm_num) (by norm_num)
        _ ≤ d.toRat := hlow
    exact lt_irrefl _ hsmall
  · by_contra hlt
    have hlog : (2 : ℚ) ^ (d.digits.log2 : Int) ≤ d.digits := by
      rw [zpow_natCast]
      exact_mod_cast Nat.log2_self_le hdigits
    have hup : (10 : ℚ) ^ (310 - d.exp) ≤ 2 ^ (d.digits.log2 : Int) :=
      ten_zpow_le_two_zpow (by omega) (by omega)
    have hlarge : d.toRat < d.toRat :=
      calc d.toRat < 2 ^ (1025 : Int) := hhigh
        _ ≤ 10 ^ (310 : Int) := two_zpow_le_ten_zpow (by norm_num) (by norm_num)
        _ = 10 ^ (310 - d.exp) * 10 ^ d.exp := by rw [← zpow_add₀ (by norm_num), sub_add_cancel]
        _ ≤ d.digits * 10 ^ d.exp := mul_le_mul_of_nonneg_right (hup.trans hlog) hpow.le
        _ = d.toRat := rfl
    exact lt_irrefl _ hlarge

/-- A decimal that is rounded to a double is read as it. -/
theorem toFloat_eq {d : Decimal} {m : Nat} {q : Int} (hexp : -2000 ≤ d.exp) (hexp' : d.exp ≤ 2000)
    (h : IsCanonical m q) (hm : 0 < m) (hd : RoundsTo d.toRat m q) :
    d.toFloat = Float.ofBits (UInt64.ofNat (wordOf m q)) := by
  have hlow := hd.two_zpow_le h hm
  have hdigits : d.digits ≠ 0 := by
    intro hzero
    rw [Decimal.toRat, hzero, Nat.cast_zero, zero_mul] at hlow
    have : (0 : ℚ) < 2 ^ (-1076 : Int) := by positivity
    linarith
  obtain ⟨hmin, hmax⟩ := estimate_bounds hdigits hexp hexp' hlow (hd.lt_two_zpow h)
  rw [Decimal.toFloat, ofDecimal, if_neg hdigits]
  dsimp only
  rw [if_neg (by omega), if_neg (by omega)]
  have hten := zpow_eq_div (b := 10) (by norm_num) d.exp
  rw [Nat.cast_ofNat] at hten
  split
  · next hpos =>
    have hzero : (-d.exp).toNat = 0 := by omega
    rw [hzero, Nat.pow_zero, Nat.cast_one, div_one] at hten
    refine ofRatio_eq one_ne_zero (Nat.mul_ne_zero hdigits (Nat.pow_pos (by norm_num)).ne') h ?_
    rw [Nat.cast_one, div_one, Nat.cast_mul]
    rwa [Decimal.toRat, hten] at hd
  · next hneg =>
    have hzero : d.exp.toNat = 0 := by omega
    rw [hzero, Nat.pow_zero, Nat.cast_one, one_div] at hten
    refine ofRatio_eq (Nat.pow_pos (by norm_num)).ne' hdigits h ?_
    rwa [Decimal.toRat, hten] at hd

end TemplateExpr.Number
