import Mathlib
import TemplateExpr.Number.Dyadic

/-!
# Doubles and their parts

A finite double is told by its sign, its significand and its exponent (`eq_of_fields`). The double
of a natural number up to `2 ^ 53` is exact, so it tells the number (`ofNat_inj`).
-/

namespace TemplateExpr.Number

/-! ### Canonical forms -/

/-- The numbers `m` and `q` of a finite double `m · 2 ^ q`. -/
structure IsCanonical (m : Nat) (q : Int) : Prop where
  lt_significand : m < 2 ^ 53
  le_exponent : -1074 ≤ q
  exponent_le : q ≤ 971
  /-- Only the smallest exponent has significands with less than 53 bits. -/
  normal : -1074 < q → 2 ^ 52 ≤ m

theorem isCanonical_of_isFinite {x : Float} (hx : isFinite x = true) :
    IsCanonical (significand x) (exponent x) := by
  have hfield : exponentField x < 2 ^ 11 := Nat.mod_lt _ (by norm_num)
  have hfraction : fractionField x < 2 ^ 52 := Nat.mod_lt _ (by norm_num)
  have hfinite : exponentField x ≠ 2047 := by simpa [isFinite] using hx
  have hpow : Nat.pow 2 52 = 2 ^ 52 := rfl
  constructor
  · rw [significand]
    split <;> omega
  · rw [exponent]
    split <;> omega
  · rw [exponent]
    split <;> omega
  · intro hexp
    rw [exponent] at hexp
    rw [significand]
    split at hexp <;> split <;> omega

/-- A finite double is told by its sign, its significand and its exponent. -/
theorem eq_of_fields {x y : Float} (hsign : isNegative x = isNegative y)
    (hsignificand : significand x = significand y) (hexponent : exponent x = exponent y) :
    x = y := by
  apply Float.toBits_inj.1
  have hx : x.toBits.toNat < 2 ^ 64 := x.toBits.toNat_lt
  have hy : y.toBits.toNat < 2 ^ 64 := y.toBits.toNat_lt
  have hfractionX : fractionField x < 2 ^ 52 := Nat.mod_lt _ (by norm_num)
  have hfractionY : fractionField y < 2 ^ 52 := Nat.mod_lt _ (by norm_num)
  have hpow : Nat.pow 2 52 = 2 ^ 52 := rfl
  have hfields : exponentField x = exponentField y ∧ fractionField x = fractionField y := by
    rw [significand, significand] at hsignificand
    rw [exponent, exponent] at hexponent
    split at hsignificand <;> split at hexponent <;> split at hsignificand <;>
      split at hexponent <;> omega
  have hnegative : (x.toBits.toNat / 2 ^ 63 = 1 ↔ y.toBits.toNat / 2 ^ 63 = 1) := by
    rw [isNegative, isNegative, Bool.eq_iff_iff, beq_iff_eq, beq_iff_eq] at hsign
    exact hsign
  obtain ⟨hfield, hfraction⟩ := hfields
  rw [exponentField, exponentField] at hfield
  rw [fractionField, fractionField] at hfraction
  have hpow11 : Nat.pow 2 11 = 2 ^ 11 := rfl
  rw [hpow, hpow11] at hfield
  rw [hpow] at hfraction
  apply UInt64.toNat_inj.1
  omega

/-! ### Words -/

section Words

open Float.Model Float.Model.UnpackedFloat

/-- A finite double has the bits that it is made from. -/
theorem toBits_ofBits {w : UInt64} (hfinite : w.toNat / 2 ^ 52 % 2 ^ 11 ≠ 2047) :
    (Float.ofBits w).toBits = w := by
  have hexp : (@unpackExponent Format.binary64 w.toBitVec).toNat =
      w.toNat / 2 ^ 52 % 2 ^ 11 := by
    simp [unpackExponent, Nat.shiftRight_eq_div_pow]
  have hnumber : ¬@isNaNBits Format.binary64 w.toBitVec = true := by
    intro h
    obtain ⟨hones, -⟩ := of_decide_eq_true h
    rw [hones] at hexp
    exact hfinite hexp.symm
  have hbits := @pack_unpack Format.binary64 w.toBitVec (by decide)
  rw [if_neg hnumber] at hbits
  exact congrArg UInt64.ofBitVec hbits

end Words

/-! ### Natural numbers -/

/-- The bits of a natural number that a double holds without rounding. -/
theorem toBits_ofNat {n : Nat} (hn : n ≠ 0) (hle : n ≤ 2 ^ 53) :
    ∃ m : Nat, (ofNat n).toBits.toNat = (n.log2 + 1022) * 2 ^ 52 + m ∧ 2 ^ 52 ≤ m ∧ m < 2 ^ 53 ∧
      m * 2 ^ n.log2 = n * 2 ^ 52 := by
  have hlow : 2 ^ n.log2 ≤ n := Nat.log2_self_le hn
  have hhigh : n < 2 ^ (n.log2 + 1) := Nat.lt_log2_self
  have hlog : n.log2 < 54 := (Nat.log2_lt hn).2 (by omega)
  -- the significand, exact also for `2 ^ 53`
  obtain ⟨m, hm, hround⟩ : ∃ m : Nat, m * 2 ^ n.log2 = n * 2 ^ 52 ∧
      roundEven (scaleUp n (-((n.log2 : Int) - 52))) (scaleUp 1 ((n.log2 : Int) - 52)) = m := by
    rcases Nat.lt_or_ge 52 n.log2 with h | h
    · have h53 : n.log2 = 53 := by omega
      rw [h53] at hlow
      obtain rfl : n = 2 ^ 53 := by omega
      exact ⟨2 ^ 52, by rw [h53]; norm_num, by rw [h53]; rfl⟩
    · obtain ⟨k, hk⟩ : ∃ k, 52 = n.log2 + k := ⟨52 - n.log2, by omega⟩
      refine ⟨n * 2 ^ k, ?_, ?_⟩
      · rw [hk, Nat.pow_add, Nat.mul_assoc, Nat.mul_comm (2 ^ k)]
      · have hdown : (-((n.log2 : Int) - 52)).toNat = k := by omega
        have hup : ((n.log2 : Int) - 52).toNat = 0 := by omega
        rw [scaleUp, scaleUp, hdown, hup]
        exact roundEven_one _
  have hpos : 0 < 2 ^ n.log2 := Nat.two_pow_pos _
  have hm52 : 2 ^ 52 ≤ m := by
    refine Nat.le_of_mul_le_mul_right ?_ hpos
    rw [hm, Nat.mul_comm]
    exact Nat.mul_le_mul_right _ hlow
  have hm53 : m < 2 ^ 53 := by
    refine Nat.lt_of_mul_lt_mul_right (a := 2 ^ n.log2) ?_
    rw [hm]
    omega
  refine ⟨m, ?_, hm52, hm53, hm⟩
  have hexact : ofNat n = Float.ofBits (UInt64.ofNat ((n.log2 + 1022) * 2 ^ 52 + m)) := by
    have hlogOne : (1 : Nat).log2 = 0 := by decide
    have hscale : ¬ scaleUp n (-((n.log2 : Int) - ((0 : Nat) : Int))) <
        scaleUp 1 ((n.log2 : Int) - ((0 : Nat) : Int)) := by
      have hdown : (-((n.log2 : Int) - ((0 : Nat) : Int))).toNat = 0 := by omega
      have hup : ((n.log2 : Int) - ((0 : Nat) : Int)).toNat = n.log2 := by omega
      have hpow : Nat.pow 2 n.log2 = 2 ^ n.log2 := rfl
      have hone : Nat.pow 2 0 = 1 := rfl
      rw [scaleUp, scaleUp, hdown, hup, hpow, hone]
      omega
    have hmax : max ((n.log2 : Int) - ((0 : Nat) : Int) - 52) (-1074) = (n.log2 : Int) - 52 := by
      omega
    have hfield : ((n.log2 : Int) - 52 + 1074).toNat = n.log2 + 1022 := by omega
    have hpow : Nat.pow 2 52 = 2 ^ 52 := rfl
    rw [ofNat, ofRatio, if_neg hn, hlogOne]
    dsimp only
    rw [if_neg hscale, hmax, hround, hfield, hpow, if_neg (by omega)]
  have hword : (UInt64.ofNat ((n.log2 + 1022) * 2 ^ 52 + m)).toNat =
      (n.log2 + 1022) * 2 ^ 52 + m := by
    rw [UInt64.toNat_ofNat']
    exact Nat.mod_eq_of_lt (by omega)
  rw [hexact, toBits_ofBits, hword]
  rw [hword]
  omega

/-- The double of a natural number tells the number, up to `2 ^ 53`. -/
theorem ofNat_inj {m n : Nat} (hm : m ≤ 2 ^ 53) (hn : n ≤ 2 ^ 53)
    (h : (ofNat m).toBits = (ofNat n).toBits) : m = n := by
  have hzero : (ofNat 0).toBits.toNat = 0 := by decide +kernel
  by_cases hm0 : m = 0
  · by_cases hn0 : n = 0
    · rw [hm0, hn0]
    · obtain ⟨k, hk, -⟩ := toBits_ofNat hn0 hn
      rw [hm0] at h
      rw [← h, hzero] at hk
      omega
  · obtain ⟨j, hj, hj52, hj53, hjm⟩ := toBits_ofNat hm0 hm
    by_cases hn0 : n = 0
    · rw [hn0] at h
      rw [h, hzero] at hj
      omega
    · obtain ⟨k, hk, hk52, hk53, hkn⟩ := toBits_ofNat hn0 hn
      rw [h, hk] at hj
      have hlog : m.log2 = n.log2 := by omega
      have hjk : j = k := by omega
      rw [hlog, hjk, hkn] at hjm
      omega

end TemplateExpr.Number
