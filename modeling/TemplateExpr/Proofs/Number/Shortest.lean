import Mathlib.Tactic.NormNum
import TemplateExpr.Proofs.Number.Decimal
import TemplateExpr.Proofs.Number.Dyadic

/-!
# The interval of a double

The shortest decimal of a double lies in the interval of the reals that round to it, and the
intervals of two doubles have no point in common. So the decimal tells the double
(`shortestOf_inj`).
-/

namespace TemplateExpr.Number

/-! ### Powers -/

/-- A power with an integer exponent as a quotient of naturals. -/
theorem zpow_eq_div {b : Nat} (hb : b ≠ 0) (e : Int) :
    (b : ℚ) ^ e = ((b ^ e.toNat : Nat) : ℚ) / ((b ^ (-e).toNat : Nat) : ℚ) := by
  have hb' : (b : ℚ) ≠ 0 := Nat.cast_ne_zero.2 hb
  rw [Nat.cast_pow, Nat.cast_pow, ← zpow_natCast, ← zpow_natCast, ← zpow_sub₀ hb']
  congr 1
  omega

/-- Naturals scaled by integer powers of two bases, compared without fractions. -/
theorem mul_zpow_le_mul_zpow {b c : Nat} (hb : b ≠ 0) (hc : c ≠ 0) (e f : Int) (x y : Nat) :
    (x : ℚ) * (b : ℚ) ^ e ≤ y * (c : ℚ) ^ f ↔
      x * b ^ e.toNat * c ^ (-f).toNat ≤ y * c ^ f.toNat * b ^ (-e).toNat := by
  have hbpos : (0 : ℚ) < ((b ^ (-e).toNat : Nat) : ℚ) := by
    exact_mod_cast Nat.pow_pos (Nat.pos_of_ne_zero hb)
  have hcpos : (0 : ℚ) < ((c ^ (-f).toNat : Nat) : ℚ) := by
    exact_mod_cast Nat.pow_pos (Nat.pos_of_ne_zero hc)
  rw [zpow_eq_div hb, zpow_eq_div hc, ← mul_div_assoc, ← mul_div_assoc,
    div_le_div_iff₀ hbpos hcpos]
  exact_mod_cast Iff.rfl

/-- A power of ten below a power of two; `59 / 196` and `28 / 93` are close to the logarithm of two
on both sides. -/
theorem ten_zpow_le_two_zpow {a b : Int} (hlow : 196 * a ≤ 59 * b) (hhigh : 93 * a ≤ 28 * b) :
    (10 : ℚ) ^ a ≤ 2 ^ b := by
  rcases le_or_gt 0 b with hb | hb
  · rcases le_or_gt 0 a with ha | ha
    · obtain ⟨n, rfl⟩ := Int.eq_ofNat_of_zero_le ha
      obtain ⟨k, rfl⟩ := Int.eq_ofNat_of_zero_le hb
      rw [zpow_natCast, zpow_natCast]
      have hpow : (10 ^ n) ^ 59 ≤ (2 ^ k) ^ 59 :=
        calc (10 ^ n) ^ 59 = (10 ^ 59) ^ n := Nat.pow_right_comm _ _ _
          _ ≤ (2 ^ 196) ^ n := Nat.pow_le_pow_left (by norm_num) _
          _ = 2 ^ (196 * n) := (Nat.pow_mul _ _ _).symm
          _ ≤ 2 ^ (k * 59) := Nat.pow_le_pow_right (by norm_num) (by omega)
          _ = (2 ^ k) ^ 59 := Nat.pow_mul _ _ _
      exact_mod_cast (Nat.pow_le_pow_iff_left (by norm_num)).1 hpow
    · calc (10 : ℚ) ^ a ≤ 10 ^ (0 : Int) := zpow_le_zpow_right₀ (by norm_num) ha.le
        _ = 2 ^ (0 : Int) := by rw [zpow_zero, zpow_zero]
        _ ≤ 2 ^ b := zpow_le_zpow_right₀ (by norm_num) hb
  · obtain ⟨n, hn⟩ : ∃ n : Nat, a = -n := ⟨(-a).toNat, by omega⟩
    obtain ⟨k, hk⟩ : ∃ k : Nat, b = -k := ⟨(-b).toNat, by omega⟩
    have hpow : (2 ^ k) ^ 28 ≤ (10 ^ n) ^ 28 :=
      calc (2 ^ k) ^ 28 = 2 ^ (k * 28) := (Nat.pow_mul _ _ _).symm
        _ ≤ 2 ^ (93 * n) := Nat.pow_le_pow_right (by norm_num) (by omega)
        _ = (2 ^ 93) ^ n := Nat.pow_mul _ _ _
        _ ≤ (10 ^ 28) ^ n := Nat.pow_le_pow_left (by norm_num) _
        _ = (10 ^ n) ^ 28 := Nat.pow_right_comm _ _ _
    have hle := (Nat.pow_le_pow_iff_left (by norm_num)).1 hpow
    rw [hn, hk, zpow_neg, zpow_neg, zpow_natCast, zpow_natCast]
    exact inv_anti₀ (by positivity) (by exact_mod_cast hle)

/-! ### Magnitude -/

/-- The lengths in bits alone bound a quotient from below. -/
theorem zpow_log2_sub_le {num den : Nat} (hnum : num ≠ 0) (hden : den ≠ 0) :
    (2 : ℚ) ^ ((num.log2 : Int) - den.log2 - 1) ≤ num / den := by
  have hpos : (0 : ℚ) < den := by exact_mod_cast Nat.pos_of_ne_zero hden
  have h1 : (2 : ℚ) ^ num.log2 ≤ num := by exact_mod_cast Nat.log2_self_le hnum
  have h2 : (den : ℚ) ≤ 2 ^ (den.log2 + 1) := by exact_mod_cast Nat.lt_log2_self.le
  rw [le_div_iff₀ hpos]
  calc (2 : ℚ) ^ ((num.log2 : Int) - den.log2 - 1) * den
      ≤ 2 ^ ((num.log2 : Int) - den.log2 - 1) * 2 ^ (den.log2 + 1) :=
        mul_le_mul_of_nonneg_left h2 (by positivity)
    _ = 2 ^ num.log2 := by
        rw [← zpow_natCast, ← zpow_natCast, ← zpow_add₀ (by norm_num)]
        congr 1
        push_cast
        ring
    _ ≤ num := h1

/-- The power of ten that `magnitude` finds is not above the number. -/
theorem zpow_magnitude_le {num den : Nat} (hnum : num ≠ 0) (hden : den ≠ 0)
    (hnum' : num.log2 < 5000) (hden' : den.log2 < 5000) :
    (10 : ℚ) ^ magnitude num den ≤ num / den := by
  have hpos : (0 : ℚ) < den := by exact_mod_cast Nat.pos_of_ne_zero hden
  have hchecked {k : Int} (h : den * 10 ^ k.toNat ≤ num * 10 ^ (-k).toNat) :
      (10 : ℚ) ^ k ≤ num / den := by
    have hten : (10 : ℚ) = ((10 : Nat) : ℚ) := by norm_num
    have hpow : (0 : ℚ) < ((10 ^ (-k).toNat : Nat) : ℚ) := by positivity
    rw [hten, zpow_eq_div (by norm_num), div_le_div_iff₀ hpow hpos, mul_comm]
    exact_mod_cast h
  rw [magnitude]
  dsimp only
  split
  · next h => exact hchecked (of_decide_eq_true h)
  split
  · next h => exact hchecked (of_decide_eq_true h)
  exact (ten_zpow_le_two_zpow (by omega) (by omega)).trans (zpow_log2_sub_le hnum hden)

/-! ### Points of an interval -/

namespace Interval

/-- How far the interval of a double reaches downwards, in quarters of the last place. -/
def below (m : Nat) (q : Int) : Nat := if m = 2 ^ 52 ∧ -1074 < q then 1 else 2

theorem ofDyadic_eq (m : Nat) (q : Int) :
    ofDyadic m q =
      { low := (4 * m - below m q) * scaleUp 1 (q - 2)
        value := 4 * m * scaleUp 1 (q - 2)
        high := (4 * m + 2) * scaleUp 1 (q - 2)
        den := scaleUp 1 (2 - q)
        closed := m % 2 = 0 } := rfl

theorem value_ofDyadic (m : Nat) (q : Int) :
    (ofDyadic m q).value = 4 * m * 2 ^ (q - 2).toNat :=
  congrArg (4 * m * ·) (Nat.one_mul _)

theorem den_ofDyadic (m : Nat) (q : Int) : (ofDyadic m q).den = 2 ^ (2 - q).toNat := Nat.one_mul _

theorem den_ne_zero (m : Nat) (q : Int) : (ofDyadic m q).den ≠ 0 := by
  rw [den_ofDyadic]
  exact (Nat.two_pow_pos _).ne'

/-- The number of the interval's double. -/
theorem value_div_den (m : Nat) (q : Int) :
    ((ofDyadic m q).value : ℚ) / (ofDyadic m q).den = 4 * m * 2 ^ (q - 2) := by
  have htwo : (2 : ℚ) = ((2 : Nat) : ℚ) := by norm_num
  rw [value_ofDyadic, den_ofDyadic, htwo, zpow_eq_div (by norm_num), neg_sub, ← mul_div_assoc]
  push_cast
  rfl

/-- An end of the interval, `x` quarters, is below a decimal. -/
theorem end_le_toRat (x : Nat) (q : Int) (d : Decimal) :
    x * scaleUp 1 (q - 2) * 10 ^ (-d.exp).toNat ≤ d.digits * 10 ^ d.exp.toNat * scaleUp 1 (2 - q) ↔
      (x : ℚ) * 2 ^ (q - 2) ≤ d.toRat := by
  have h := mul_zpow_le_mul_zpow (b := 2) (c := 10) (by norm_num) (by norm_num) (q - 2) d.exp x
    d.digits
  rw [Nat.cast_ofNat, Nat.cast_ofNat, neg_sub] at h
  rw [scaleUp, scaleUp, Nat.one_mul, Nat.one_mul, Decimal.toRat, h]
  rfl

/-- A decimal is below an end of the interval, `x` quarters. -/
theorem toRat_le_end (x : Nat) (q : Int) (d : Decimal) :
    d.digits * 10 ^ d.exp.toNat * scaleUp 1 (2 - q) ≤ x * scaleUp 1 (q - 2) * 10 ^ (-d.exp).toNat ↔
      d.toRat ≤ (x : ℚ) * 2 ^ (q - 2) := by
  have h := mul_zpow_le_mul_zpow (b := 10) (c := 2) (by norm_num) (by norm_num) d.exp (q - 2)
    d.digits x
  rw [Nat.cast_ofNat, Nat.cast_ofNat, neg_sub] at h
  rw [scaleUp, scaleUp, Nat.one_mul, Nat.one_mul, Decimal.toRat, h]
  rfl

/-- The decimals in the interval of a double; the ends belong to it if the significand is even. -/
theorem contains_ofDyadic (m : Nat) (q : Int) (d : Decimal) :
    (ofDyadic m q).contains d = true ↔
      if m % 2 = 0 then
        ((4 * m - below m q : Nat) : ℚ) * 2 ^ (q - 2) ≤ d.toRat ∧
          d.toRat ≤ ((4 * m + 2 : Nat) : ℚ) * 2 ^ (q - 2)
      else
        ((4 * m - below m q : Nat) : ℚ) * 2 ^ (q - 2) < d.toRat ∧
          d.toRat < ((4 * m + 2 : Nat) : ℚ) * 2 ^ (q - 2) := by
  rw [ofDyadic_eq, contains]
  dsimp only
  by_cases hm : m % 2 = 0
  · rw [if_pos (decide_eq_true hm), if_pos hm, Bool.and_eq_true, decide_eq_true_eq,
      decide_eq_true_eq]
    exact and_congr (end_le_toRat _ _ _) (toRat_le_end _ _ _)
  · rw [if_neg (by simp [hm]), if_neg hm, Bool.and_eq_true, decide_eq_true_eq, decide_eq_true_eq,
      ← not_le, ← not_le, ← not_le, ← not_le]
    exact and_congr (not_congr (toRat_le_end _ _ _)) (not_congr (end_le_toRat _ _ _))

/-- A decimal strictly between the ends lies in the interval. -/
theorem contains_of_lt {m : Nat} {q : Int} {d : Decimal}
    (hlow : ((4 * m - below m q : Nat) : ℚ) * 2 ^ (q - 2) < d.toRat)
    (hhigh : d.toRat < ((4 * m + 2 : Nat) : ℚ) * 2 ^ (q - 2)) :
    (ofDyadic m q).contains d = true := by
  rw [contains_ofDyadic]
  split
  · exact ⟨hlow.le, hhigh.le⟩
  · exact ⟨hlow, hhigh⟩

/-- Whether a decimal lies in the interval depends on its number only. -/
theorem contains_congr {m : Nat} {q : Int} {d d' : Decimal} (h : d.toRat = d'.toRat) :
    (ofDyadic m q).contains d = (ofDyadic m q).contains d' := by
  rw [Bool.eq_iff_iff, contains_ofDyadic, contains_ofDyadic, h]

/-! ### The search -/

/-- What is found on a grid lies in the interval. -/
theorem contains_of_onGrid? {tie : Tie} {i : Interval} {exp : Int} {d : Decimal}
    (h : i.onGrid? tie exp = some d) : i.contains d = true := by
  rw [onGrid?] at h
  dsimp only at h
  split at h
  · next hdown hup =>
    have hdown := (Bool.and_eq_true _ _ ▸ hdown).1
    split at h
    · exact Option.some.inj h ▸ hdown
    split at h
    · exact Option.some.inj h ▸ hup
    split at h
    · exact Option.some.inj h ▸ hdown
    · exact Option.some.inj h ▸ hup
  · next hdown _ => exact Option.some.inj h ▸ (Bool.and_eq_true _ _ ▸ hdown).1
  · next hup => exact Option.some.inj h ▸ hup
  · exact nomatch h

/-- If one of the grids has a point in the interval, such a point is found. -/
theorem contains_firstHit {tie : Tie} {i : Interval} {fuel k : Nat} {exp : Int} (hk : k < fuel)
    (h : (i.onGrid? tie (exp - k)).isSome) : i.contains (i.firstHit tie fuel exp) = true := by
  induction fuel generalizing k exp with
  | zero => omega
  | succ fuel ih =>
    rw [firstHit]
    split
    · next d hd => exact contains_of_onGrid? hd
    · next hnone =>
      cases k with
      | zero =>
        rw [Nat.cast_zero, sub_zero, hnone] at h
        exact nomatch h
      | succ k =>
        refine ih (Nat.lt_of_succ_lt_succ hk) ?_
        have hexp : exp - 1 - (k : Int) = exp - (k + 1 : Nat) := by
          push_cast
          ring
        rwa [hexp]


/-- A grid that is finer than half of the last place has a point in the interval. -/
theorem isSome_onGrid? (tie : Tie) {m : Nat} {q exp : Int}
    (hexp : (10 : ℚ) ^ exp < 2 * 2 ^ (q - 2)) : ((ofDyadic m q).onGrid? tie exp).isSome := by
  have hcontains : (ofDyadic m q).contains
      ⟨(ofDyadic m q).value * 10 ^ (-exp).toNat / ((ofDyadic m q).den * 10 ^ exp.toNat) + 1, exp⟩ =
        true := by
    have hvalue := value_div_den m q
    have hden : (0 : ℚ) < (ofDyadic m q).den := by
      exact_mod_cast Nat.pos_of_ne_zero (den_ne_zero m q)
    have hdenpos : 0 < (ofDyadic m q).den * 10 ^ exp.toNat :=
      Nat.mul_pos (Nat.pos_of_ne_zero (den_ne_zero m q)) (Nat.pow_pos (by norm_num))
    generalize (ofDyadic m q).value = value at *
    generalize (ofDyadic m q).den = den at *
    have hgrid : (10 : ℚ) ^ exp = ((10 ^ exp.toNat : Nat) : ℚ) / ((10 ^ (-exp).toNat : Nat) : ℚ) := by
      exact_mod_cast zpow_eq_div (b := 10) (by norm_num) exp
    have hscale : (0 : ℚ) < ((10 ^ (-exp).toNat : Nat) : ℚ) := by positivity
    -- the point below the value, and the one above it
    have hdown : ((value * 10 ^ (-exp).toNat / (den * 10 ^ exp.toNat) : Nat) : ℚ) * 10 ^ exp ≤
        value / den := by
      rw [hgrid, ← mul_div_assoc, div_le_div_iff₀ hscale hden, mul_assoc, mul_comm _ (den : ℚ)]
      exact_mod_cast Nat.div_mul_le_self _ _
    have hup : (value : ℚ) / den <
        ((value * 10 ^ (-exp).toNat / (den * 10 ^ exp.toNat) + 1 : Nat) : ℚ) * 10 ^ exp := by
      rw [hgrid, ← mul_div_assoc, div_lt_div_iff₀ hden hscale, mul_assoc, mul_comm _ (den : ℚ)]
      exact_mod_cast Nat.lt_mul_of_div_lt (Nat.lt_succ_self _) hdenpos
    generalize value * 10 ^ (-exp).toNat / (den * 10 ^ exp.toNat) = k at *
    have hplace : (0 : ℚ) < 2 ^ (q - 2) := by positivity
    rw [hvalue] at hdown hup
    have hlow : ((4 * m - below m q : Nat) : ℚ) ≤ 4 * m := by
      exact_mod_cast Nat.sub_le (4 * m) (below m q)
    refine contains_of_lt ?_ ?_
    · exact lt_of_le_of_lt (mul_le_mul_of_nonneg_right hlow hplace.le) hup
    · calc ((k + 1 : Nat) : ℚ) * 10 ^ exp = k * 10 ^ exp + 10 ^ exp := by
            push_cast
            ring
        _ < 4 * m * 2 ^ (q - 2) + 2 * 2 ^ (q - 2) := add_lt_add_of_le_of_lt hdown hexp
        _ = ((4 * m + 2 : Nat) : ℚ) * 2 ^ (q - 2) := by
            push_cast
            ring
  rw [onGrid?]
  dsimp only
  split
  · split
    · rfl
    split
    · rfl
    split <;> rfl
  · rfl
  · rfl
  · next hup => exact absurd (hcontains.symm.trans hup) (by decide)

end Interval

/-! ### The shortest decimal -/

/-- The shortest decimal of a double rounds to the double. -/
theorem contains_shortest (tie : Tie) {m : Nat} {q : Int} (h : IsCanonical m q) (hm : 0 < m) :
    (Interval.ofDyadic m q).contains (shortest tie m q) = true := by
  rw [shortest, Interval.contains_congr (Decimal.toRat_stripZeros 25 _)]
  refine Interval.contains_firstHit (k := 17) (by norm_num) (Interval.isSome_onGrid? tie ?_)
  have hvalue : (Interval.ofDyadic m q).value ≠ 0 := by
    rw [Interval.value_ofDyadic]
    exact (Nat.mul_pos (by omega) (Nat.two_pow_pos _)).ne'
  have hvalue' : (Interval.ofDyadic m q).value.log2 < 55 + (q - 2).toNat := by
    have hlt := h.lt_significand
    rw [Nat.log2_lt hvalue, Interval.value_ofDyadic, Nat.pow_add]
    exact Nat.mul_lt_mul_of_pos_right (by omega) (Nat.two_pow_pos _)
  have hden' : (Interval.ofDyadic m q).den.log2 = (2 - q).toNat := by
    rw [Interval.den_ofDyadic, Nat.log2_two_pow]
  have hle := h.le_exponent
  have hge := h.exponent_le
  have hmagnitude := zpow_magnitude_le hvalue (Interval.den_ne_zero m q) (by omega) (by omega)
  rw [Interval.value_div_den] at hmagnitude
  generalize magnitude (Interval.ofDyadic m q).value (Interval.ofDyadic m q).den = mag at *
  have hplace : (0 : ℚ) < 2 ^ (q - 2) := by positivity
  have hsignificand : (m : ℚ) < 2 ^ 53 := by exact_mod_cast h.lt_significand
  have hsmall : (4 * m : ℚ) * (10 ^ 17)⁻¹ < 2 := by
    rw [← div_eq_mul_inv, div_lt_iff₀ (by positivity)]
    linarith
  calc (10 : ℚ) ^ (mag - (17 : Nat)) = 10 ^ mag * (10 ^ 17)⁻¹ := by
        rw [zpow_sub₀ (by norm_num), zpow_natCast, div_eq_mul_inv]
    _ ≤ 4 * m * 2 ^ (q - 2) * (10 ^ 17)⁻¹ :=
        mul_le_mul_of_nonneg_right hmagnitude (by positivity)
    _ = 4 * m * (10 ^ 17)⁻¹ * 2 ^ (q - 2) := by ring
    _ < 2 * 2 ^ (q - 2) := mul_lt_mul_of_pos_right hsmall hplace

/-! ### Different doubles -/

/-- The bounds of a decimal in the interval; an odd significand excludes both. -/
theorem Interval.bounds_of_contains {m : Nat} {q : Int} {d : Decimal}
    (h : (ofDyadic m q).contains d = true) :
    ((4 * m - below m q : Nat) : ℚ) * 2 ^ (q - 2) ≤ d.toRat ∧
      d.toRat ≤ ((4 * m + 2 : Nat) : ℚ) * 2 ^ (q - 2) ∧
      (m % 2 = 1 → ((4 * m - below m q : Nat) : ℚ) * 2 ^ (q - 2) < d.toRat ∧
        d.toRat < ((4 * m + 2 : Nat) : ℚ) * 2 ^ (q - 2)) := by
  rw [contains_ofDyadic] at h
  split at h
  · exact ⟨h.1, h.2, by omega⟩
  · exact ⟨h.1.le, h.2.le, fun _ => h⟩

/-- A decimal in the interval of a double is not in the interval of a greater one. -/
theorem Interval.not_contains_of_lt {m m' : Nat} {q q' : Int} {d : Decimal} (h : IsCanonical m q)
    (h' : IsCanonical m' q') (hlt : q < q' ∨ q = q' ∧ m < m')
    (hd : (ofDyadic m q).contains d = true) : (ofDyadic m' q').contains d = false := by
  by_contra hd'
  rw [Bool.not_eq_false] at hd'
  obtain ⟨-, hhigh, hodd⟩ := bounds_of_contains hd
  obtain ⟨hlow', -, hodd'⟩ := bounds_of_contains hd'
  obtain ⟨k, hk⟩ : ∃ k : Nat, q' - 2 = k + (q - 2) := ⟨(q' - q).toNat, by omega⟩
  have hplace : (0 : ℚ) < 2 ^ (q - 2) := by positivity
  have hscale (x : Nat) : (x : ℚ) * 2 ^ (q' - 2) = ((x * 2 ^ k : Nat) : ℚ) * 2 ^ (q - 2) := by
    rw [hk, zpow_add₀ (by norm_num), zpow_natCast]
    push_cast
    ring
  rw [hscale] at hlow' hodd'
  have hle : (4 * m' - below m' q') * 2 ^ k ≤ 4 * m + 2 := by
    exact_mod_cast le_of_mul_le_mul_right (hlow'.trans hhigh) hplace
  have hstrict (hm : m % 2 = 1 ∨ m' % 2 = 1) : (4 * m' - below m' q') * 2 ^ k < 4 * m + 2 := by
    have hlt : (((4 * m' - below m' q') * 2 ^ k : Nat) : ℚ) * 2 ^ (q - 2) <
        ((4 * m + 2 : Nat) : ℚ) * 2 ^ (q - 2) := by
      rcases hm with hm | hm
      · exact hlow'.trans_lt (hodd hm).2
      · exact (hodd' hm).1.trans_le hhigh
    exact_mod_cast lt_of_mul_lt_mul_right hlt hplace.le
  have hsignificand := h.lt_significand
  have hbelow : below m' q' ≤ 2 := by
    rw [below]
    split <;> omega
  rcases hlt with hq | ⟨rfl, hm⟩
  · have hnormal := h'.normal (by have := h.le_exponent; omega)
    have htwo : 2 ^ 1 ≤ 2 ^ k := Nat.pow_le_pow_right (by norm_num) (by omega)
    have hdouble := Nat.mul_le_mul_left (4 * m' - below m' q') htwo
    have hpower : m' = 2 ^ 52 → below m' q' = 1 := fun hm =>
      if_pos ⟨hm, by have := h.le_exponent; omega⟩
    omega
  · obtain rfl : k = 0 := by omega
    omega

/-- The intervals of different doubles have no point in common. -/
theorem Interval.eq_of_contains {m m' : Nat} {q q' : Int} {d : Decimal} (h : IsCanonical m q)
    (h' : IsCanonical m' q') (hd : (ofDyadic m q).contains d = true)
    (hd' : (ofDyadic m' q').contains d = true) : m = m' ∧ q = q' := by
  have hnot : ¬ (q < q' ∨ q = q' ∧ m < m') := fun hlt =>
    absurd (not_contains_of_lt h h' hlt hd) (by rw [hd']; decide)
  have hnot' : ¬ (q' < q ∨ q' = q ∧ m' < m) := fun hlt =>
    absurd (not_contains_of_lt h' h hlt hd') (by rw [hd]; decide)
  omega

/-! ### The decimal tells the double -/

theorem exponent_of_significand_eq_zero {x : Float} (h : significand x = 0) :
    exponent x = -1074 := by
  rw [significand] at h
  split at h
  · next hfield => rw [exponent, if_pos hfield]
  · have hpow : Nat.pow 2 52 = 2 ^ 52 := rfl
    omega

/-- The number of the shortest decimal is zero for the two zeros only. -/
theorem toRat_shortestOf_pos (tie : Tie) {x : Float} (hx : isFinite x = true)
    (h : significand x ≠ 0) : 0 < (shortestOf tie x).toRat := by
  rw [shortestOf, if_neg h]
  obtain ⟨hlow, -, -⟩ := Interval.bounds_of_contains
    (contains_shortest tie (isCanonical_of_isFinite hx) (Nat.pos_of_ne_zero h))
  have hbelow : Interval.below (significand x) (exponent x) ≤ 2 := by
    rw [Interval.below]
    split <;> omega
  have hpos : (0 : ℚ) < ((4 * significand x - Interval.below (significand x) (exponent x) : Nat) : ℚ) := by
    exact_mod_cast (by omega : 0 < 4 * significand x - Interval.below (significand x) (exponent x))
  exact lt_of_lt_of_le (mul_pos hpos (by positivity)) hlow

/-- The shortest decimal tells the magnitude of the double. -/
theorem shortestOf_inj {tie : Tie} {x y : Float} (hx : isFinite x = true) (hy : isFinite y = true)
    (h : (shortestOf tie x).toRat = (shortestOf tie y).toRat) :
    significand x = significand y ∧ exponent x = exponent y := by
  have hzero {z : Float} (hz : significand z = 0) : (shortestOf tie z).toRat = 0 := by
    rw [shortestOf, if_pos hz, Decimal.toRat, Nat.cast_zero, zero_mul]
  by_cases hx0 : significand x = 0
  · by_cases hy0 : significand y = 0
    · rw [exponent_of_significand_eq_zero hx0, exponent_of_significand_eq_zero hy0, hx0, hy0]
      exact ⟨rfl, rfl⟩
    · have hpos := toRat_shortestOf_pos tie hy hy0
      rw [← h, hzero hx0] at hpos
      exact absurd hpos (lt_irrefl 0)
  · by_cases hy0 : significand y = 0
    · have hpos := toRat_shortestOf_pos tie hx hx0
      rw [h, hzero hy0] at hpos
      exact absurd hpos (lt_irrefl 0)
    · rw [shortestOf, if_neg hx0, shortestOf, if_neg hy0] at h
      have hcx := contains_shortest tie (isCanonical_of_isFinite hx) (Nat.pos_of_ne_zero hx0)
      have hcy := contains_shortest tie (isCanonical_of_isFinite hy) (Nat.pos_of_ne_zero hy0)
      rw [← Interval.contains_congr h] at hcy
      exact Interval.eq_of_contains (isCanonical_of_isFinite hx) (isCanonical_of_isFinite hy) hcx hcy

end TemplateExpr.Number
