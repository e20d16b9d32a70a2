import TemplateExpr.Proofs.Number.Reading

/-!
# Doubles that are integers

A finite double stands for the number `toRat`. It has no fraction exactly if that is an integer, and
then its integer part is this integer (`toRat_eq_iff`). An integer up to `2 ^ 53` is what its double
stands for (`toRat_ofInt`), so no conversion between the two loses anything (`toInt64_ofInt`).

The sum of two doubles is rounded, but it is exact where a double stands for it
(`add_eq_of_toRat`). So natural numbers up to `2 ^ 53` are added without loss (`ofNat_add`).
Doubles are added as integer multiples of a common power of two. Their sum is rounded to the
exponent that belongs to its magnitude, and of a sum that has this exponent nothing is rounded off.
-/

namespace TemplateExpr.Number

variable {x : Float} {n : Int}

/-- The number that a finite double stands for. -/
def toRat (x : Float) : ℚ := (if isNegative x then -1 else 1) * (significand x * 2 ^ exponent x)

theorem toRat_eq_truncate (hx : isIntegral x = true) : toRat x = truncate x := by
  obtain ⟨hvalue, hsign⟩ := truncate_of_isIntegral hx
  rw [toRat, ← hvalue, hsign]
  split
  · rw [neg_one_mul, Int.natAbs_neg, Int.natAbs_natCast, Int.cast_neg, Int.cast_natCast]
  · rw [one_mul, Int.natAbs_natCast, Int.cast_natCast]

theorem isIntegral_of_toRat (hx : isFinite x = true) (h : toRat x = n) : isIntegral x = true := by
  have hmagnitude : (significand x : ℚ) * 2 ^ exponent x = n.natAbs := by
    have habs := congrArg abs h
    have hpos : (0 : ℚ) ≤ significand x * 2 ^ exponent x := by positivity
    rw [toRat, abs_mul, abs_of_nonneg hpos, ← Int.cast_abs, Int.abs_eq_natAbs,
      Int.cast_natCast] at habs
    rw [← habs]
    split <;> norm_num
  -- the quotient of naturals whose remainder decides it
  have hvalue := scaleUp_div_scaleUp (significand x) 1 (-exponent x)
  have hden : scaleUp 1 (-exponent x) ≠ 0 := scaleUp_ne_zero one_ne_zero _
  rw [neg_neg, Nat.cast_one, div_one, zpow_neg, div_inv_eq_mul, hmagnitude,
    div_eq_iff (by exact_mod_cast hden)] at hvalue
  have hexact : scaleUp (significand x) (exponent x) = n.natAbs * scaleUp 1 (-exponent x) := by
    exact_mod_cast hvalue
  rw [isIntegral, hx, hexact, Nat.mul_mod_left]
  rfl

/-- A finite double stands for an integer exactly if it has no fraction and this integer part. -/
theorem toRat_eq_iff (hx : isFinite x = true) :
    toRat x = n ↔ isIntegral x = true ∧ truncate x = n := by
  constructor
  · intro h
    have hintegral := isIntegral_of_toRat hx h
    refine ⟨hintegral, ?_⟩
    rw [toRat_eq_truncate hintegral] at h
    exact_mod_cast h
  · rintro ⟨hintegral, rfl⟩
    exact toRat_eq_truncate hintegral

/-! ### Doubles of integers -/

theorem toRat_neg (hx : isFinite x = true) : toRat (-x) = -toRat x := by
  obtain ⟨hsign, hfield, hfraction⟩ := fields_neg hx
  have hsignificand : significand (-x) = significand x := by
    rw [significand, significand, hfield, hfraction]
  have hexponent : exponent (-x) = exponent x := by rw [exponent, exponent, hfield]
  rw [toRat, toRat, hsign, hsignificand, hexponent]
  cases isNegative x <;> simp

/-- The double of a natural number up to `2 ^ 53` stands for the number. -/
theorem toRat_ofNat {n : Nat} (hn : n ≤ 2 ^ 53) :
    isFinite (ofNat n) = true ∧ toRat (ofNat n) = n := by
  rcases Nat.eq_zero_or_pos n with rfl | hpos
  · have hsignificand : significand (ofNat 0) = 0 := by decide +kernel
    refine ⟨by decide +kernel, ?_⟩
    rw [toRat, hsignificand, Nat.cast_zero, zero_mul, mul_zero]
  · obtain ⟨m, hbits, hlow, hhigh, hvalue⟩ := toBits_ofNat hpos.ne' hn
    have hlog : n.log2 < 54 := (Nat.log2_lt hpos.ne').2 (by omega)
    have h63 : Nat.pow 2 63 = 2 ^ 63 := rfl
    have h52 : Nat.pow 2 52 = 2 ^ 52 := rfl
    have h11 : Nat.pow 2 11 = 2 ^ 11 := rfl
    have hfield : exponentField (ofNat n) = n.log2 + 1023 := by
      rw [exponentField, hbits, h52, h11]
      omega
    have hfraction : fractionField (ofNat n) = m - 2 ^ 52 := by
      rw [fractionField, hbits, h52]
      omega
    have hsign : isNegative (ofNat n) = false := by
      rw [isNegative, hbits, h63, beq_eq_false_iff_ne]
      omega
    refine ⟨by rw [isFinite, hfield, bne_iff_ne]; omega, ?_⟩
    have hsignificand : significand (ofNat n) = m := by
      rw [significand, hfield, if_neg (by omega), hfraction, h52]
      omega
    have hexponent : exponent (ofNat n) = (n.log2 : Int) - (52 : Nat) := by
      rw [exponent, hfield, if_neg (by omega)]
      omega
    have hvalue' : (m : ℚ) * 2 ^ n.log2 = n * 2 ^ 52 := by exact_mod_cast hvalue
    rw [toRat, hsign, if_neg Bool.false_ne_true, one_mul, hsignificand, hexponent,
      zpow_sub₀ (by norm_num), zpow_natCast, zpow_natCast, ← mul_div_assoc, hvalue',
      mul_div_assoc, div_self (by norm_num), mul_one]

/-- The double of an integer up to `2 ^ 53` stands for the integer. -/
theorem toRat_ofInt (hn : n.natAbs ≤ 2 ^ 53) : isFinite (ofInt n) = true ∧ toRat (ofInt n) = n := by
  obtain ⟨hfinite, hvalue⟩ := toRat_ofNat hn
  rw [ofInt]
  split
  · next hneg =>
    refine ⟨?_, ?_⟩
    · rw [isFinite, (fields_neg hfinite).2.1]
      exact hfinite
    · rw [toRat_neg hfinite, hvalue, ← Int.cast_natCast, Int.ofNat_natAbs_of_nonpos hneg.le,
        Int.cast_neg, neg_neg]
  · next hpos =>
    refine ⟨hfinite, ?_⟩
    rw [hvalue, ← Int.cast_natCast, Int.natAbs_of_nonneg (not_lt.1 hpos)]

theorem isIntegral_ofInt (hn : n.natAbs ≤ 2 ^ 53) :
    isIntegral (ofInt n) = true ∧ truncate (ofInt n) = n := by
  obtain ⟨hfinite, hvalue⟩ := toRat_ofInt hn
  exact (toRat_eq_iff hfinite).1 hvalue

/-! ### Words -/

theorem clampInt_of_isFinite (hx : isFinite x = true) (lo hi : Int) :
    clampInt lo hi x = max lo (min hi (truncate x)) := by
  have hfield : (exponentField x == 2047) = false := by
    rw [isFinite, bne, Bool.not_eq_true'] at hx
    exact hx
  rw [clampInt, isNaN, isInfinite, hfield, Bool.false_and, Bool.false_and,
    if_neg Bool.false_ne_true, if_neg Bool.false_ne_true]

/-- The word of the double of an integer is the integer. -/
theorem toInt64_ofInt (hn : n.natAbs ≤ 2 ^ 53) : toInt64 (ofInt n) = n := by
  have hmin : minWord = -2 ^ 63 := by decide
  have hmax : maxWord = 2 ^ 63 - 1 := by decide
  rw [toInt64, clampInt_of_isFinite (toRat_ofInt hn).1, (isIntegral_ofInt hn).2]
  omega

/-! ### Unpacking -/

section

open Float.Model.UnpackedFloat
open Float.Model (Format UnpackedFloat totalExponent)

variable {y z : Float} {m : Nat} {q : Int}

theorem ofBitVec_unpackSign (x : Float) :
    Sign.ofBitVec (@unpackSign Format.binary64 x.toBits.toBitVec) =
      if isNegative x then .negative else .positive := by
  have hbit := toNat_unpackSign x
  have hlt := x.toBits.toNat_lt
  have h63 : Nat.pow 2 63 = 2 ^ 63 := rfl
  have hzero : @unpackSign Format.binary64 x.toBits.toBitVec = 0#1 ↔ isNegative x = false := by
    rw [← BitVec.toNat_inj, hbit, isNegative, beq_eq_false_iff_ne, h63, BitVec.toNat_ofNat]
    omega
  rw [Sign.ofBitVec]
  cases hsign : isNegative x with
  | false => exact if_pos (hzero.2 hsign)
  | true => exact if_neg fun h => by rw [hzero.1 h] at hsign; cases hsign

/-- A double that is not zero is unpacked to its sign, its significand and its exponent. -/
theorem unpack_of_isFinite (hx : isFinite x = true) (hne : significand x ≠ 0) :
    unpack Format.binary64 x.toBits.toBitVec =
      .finite (if isNegative x then .negative else .positive) (significand x) (exponent x)
        (Nat.pos_of_ne_zero hne) := by
  have hfield := toNat_unpackExponent x
  have hfraction := toNat_unpackMantissa x
  have hones : @unpackExponent Format.binary64 x.toBits.toBitVec ≠ -1#_ := by
    intro h
    rw [h] at hfield
    rw [isFinite, ← hfield] at hx
    cases hx
  rw [unpack, if_neg hones, ofBitVec_unpackSign]
  by_cases hzero : exponentField x = 0
  · have hvec : @unpackExponent Format.binary64 x.toBits.toBitVec = 0#_ :=
      BitVec.eq_of_toNat_eq (hfield.trans hzero)
    have hmantissa : @unpackMantissa Format.binary64 x.toBits.toBitVec ≠ 0#_ := by
      intro h
      rw [h] at hfraction
      rw [significand, if_pos hzero] at hne
      exact hne hfraction.symm
    rw [if_pos hvec, dif_neg hmantissa]
    simp only [significand, exponent, hfraction, hfield, hzero]
    rfl
  · have hvec : @unpackExponent Format.binary64 x.toBits.toBitVec ≠ 0#_ := by
      intro h
      rw [h] at hfield
      exact hzero hfield.symm
    have hmantissa : (1#1 ++ @unpackMantissa Format.binary64 x.toBits.toBitVec).toNat =
        significand x := by
      have hlt : fractionField x < 2 ^ 52 := Nat.mod_lt _ (by norm_num)
      rw [BitVec.toNat_append, hfraction, significand, if_neg hzero,
        ← Nat.shiftLeft_add_eq_or_of_lt hlt]
      rfl
    rw [if_neg hvec]
    simp only [hmantissa, hfield, exponent, if_neg hzero]
    rfl

theorem toBitVec_add (x y : Float) :
    (x + y).toBits.toBitVec =
      pack Format.binary64 (add Format.binary64 (unpack Format.binary64 x.toBits.toBitVec)
        (unpack Format.binary64 y.toBits.toBitVec)) := by
  simp only [HAdd.hAdd, Add.add, Float.add, Float.toBits, Float.Model.add, Float.Model.pack,
    Float.Model.unpack]

/-! ### Rounding -/

theorem log2_mul_two_pow (hm : m ≠ 0) (k : Nat) : (m * 2 ^ k).log2 = m.log2 + k := by
  have hpos : 0 < 2 ^ k := Nat.two_pow_pos k
  rw [Nat.log2_eq_iff (Nat.mul_ne_zero hm hpos.ne')]
  constructor
  · rw [Nat.pow_add]
    exact Nat.mul_le_mul_right _ (Nat.log2_self_le hm)
  · rw [Nat.add_right_comm, Nat.pow_add]
    exact Nat.mul_lt_mul_of_pos_right Nat.lt_log2_self hpos

/-- The exponent of a canonical form is the one that belongs to its magnitude, however many of its
last digits are zeros. -/
theorem IsCanonical.targetExponent_eq (h : IsCanonical m q) (hm : m ≠ 0) (k : Nat) :
    Format.binary64.targetExponent (totalExponent (m * 2 ^ k) (q - k)) = q := by
  have hmin : Format.binary64.minExponent = -1074 := by decide
  have hbits : Format.binary64.mantissaBits = 53 := by decide
  have hlt : m.log2 < 53 := (Nat.log2_lt hm).2 h.lt_significand
  have hle := h.le_exponent
  rw [Format.targetExponent, totalExponent, hmin, hbits, log2_mul_two_pow hm]
  by_cases hq : -1074 < q
  · have h52 : 52 ≤ m.log2 := (Nat.le_log2 hm).2 (h.normal hq)
    omega
  · omega

/-- Zeros are shifted out of a significand without a trace. -/
theorem shiftRight_mul_two_pow (m k : Nat) :
    (⟨m * 2 ^ k, false, false⟩ : ExtendedMantissa) >>> k = ⟨m, false, false⟩ := by
  show Nat.repeat ExtendedMantissa.shiftRightOne k _ = _
  induction k generalizing m with
  | zero => rw [Nat.pow_zero, Nat.mul_one]; rfl
  | succ k ih =>
    rw [Nat.pow_succ', ← Nat.mul_assoc, Nat.repeat, ih, ExtendedMantissa.shiftRightOne]
    simp

/-- A multiple of a power of two is rounded to the double that stands for it. -/
theorem IsCanonical.round_eq (h : IsCanonical m q) (hm : m ≠ 0) (k : Nat) (s : Sign) :
    UnpackedFloat.round Format.binary64 s (m * 2 ^ k) (q - k) =
      .finite s m q (Nat.pos_of_ne_zero hm) := by
  have hshift (k : Nat) : shiftToTargetExponent Format.binary64 (m * 2 ^ k) (q - k) .exact =
      (⟨m, false, false⟩, q) := by
    have hk : (q - (q - k)).toNat = k := by omega
    rw [shiftToTargetExponent, h.targetExponent_eq hm, shiftToExponent, hk]
    dsimp only [ExtendedMantissa.ofMantissaAndAccuracy]
    rw [shiftRight_mul_two_pow, Int.sub_add_cancel]
  have hself := hshift 0
  rw [Nat.pow_zero, Nat.mul_one, Int.natCast_zero, Int.sub_zero] at hself
  have hdown : (q - k - q).toNat = 0 := by omega
  rw [UnpackedFloat.round, h.targetExponent_eq hm, decreaseExponent, hdown]
  dsimp only
  rw [Nat.shiftLeft_zero, Int.natCast_zero, Int.sub_zero, roundWithAccuracy, hshift]
  dsimp only [ExtendedMantissa.roundedMantissa, ExtendedMantissa.accuracy,
    Accuracy.roundToNearestEven]
  rw [hself]
  exact dif_neg hm

/-! ### Adding -/

theorem parts_of_pos (hx : 0 < toRat x) : isNegative x = false ∧ significand x ≠ 0 := by
  have hmagnitude : (0 : ℚ) ≤ significand x * 2 ^ exponent x := by positivity
  rw [toRat] at hx
  constructor
  · cases hsign : isNegative x with
    | false => rfl
    | true =>
      rw [hsign, if_pos rfl] at hx
      linarith
  · intro hzero
    rw [hzero] at hx
    simp at hx

/-- What is moved to a smaller exponent stands for the same number. -/
theorem cast_shiftLeft_mul (m : Nat) {q e : Int} (he : e ≤ q) :
    ((m <<< (q - e).toNat : Nat) : ℚ) * 2 ^ e = m * 2 ^ q := by
  obtain ⟨k, rfl⟩ : ∃ k : Nat, q = e + k := ⟨(q - e).toNat, by omega⟩
  rw [add_sub_cancel_left, Int.toNat_natCast, Nat.shiftLeft_eq, zpow_add₀ (by norm_num),
    zpow_natCast]
  push_cast
  ring

/-- The sum of two positive doubles is exact if a double stands for it. -/
theorem add_eq_of_toRat (hx : isFinite x = true) (hy : isFinite y = true) (hz : isFinite z = true)
    (hxpos : 0 < toRat x) (hypos : 0 < toRat y) (h : toRat z = toRat x + toRat y) : x + y = z := by
  obtain ⟨hxsign, hxne⟩ := parts_of_pos hxpos
  obtain ⟨hysign, hyne⟩ := parts_of_pos hypos
  obtain ⟨hzsign, hzne⟩ := parts_of_pos (h ▸ add_pos hxpos hypos)
  have hxform := isCanonical_of_isFinite hx
  have hyform := isCanonical_of_isFinite hy
  have hzform := isCanonical_of_isFinite hz
  -- both summands as multiples of one power of two
  obtain ⟨e, he⟩ : ∃ e, e = min (exponent x) (exponent y) := ⟨_, rfl⟩
  obtain ⟨a, ha⟩ : ∃ a, a = significand x <<< (exponent x - e).toNat := ⟨_, rfl⟩
  obtain ⟨b, hb⟩ : ∃ b, b = significand y <<< (exponent y - e).toNat := ⟨_, rfl⟩
  have hvalue : ((a + b : Nat) : ℚ) * 2 ^ e = significand z * 2 ^ exponent z := by
    rw [toRat, toRat, toRat, hxsign, hysign, hzsign, if_neg Bool.false_ne_true, one_mul, one_mul,
      one_mul] at h
    rw [h, Nat.cast_add, add_mul, ha, hb, cast_shiftLeft_mul _ (he ▸ min_le_left _ _),
      cast_shiftLeft_mul _ (he ▸ min_le_right _ _)]
  -- the sum is not smaller than the summands, so neither is its exponent
  have hle : e ≤ exponent z := by
    by_contra hlt
    obtain ⟨k, hk⟩ : ∃ k : Nat, e = exponent z + (k + 1 : Nat) :=
      ⟨(e - exponent z - 1).toNat, by omega⟩
    have hsum : (a + b) * 2 ^ (k + 1) = significand z := by
      rw [hk, zpow_add₀ (by norm_num), zpow_natCast, mul_comm (2 ^ exponent z), ← mul_assoc,
        mul_left_inj' (by positivity)] at hvalue
      exact_mod_cast hvalue
    have hnormal : 2 ^ 52 ≤ a + b := by
      have hlow := hzform.le_exponent
      rcases min_choice (exponent x) (exponent y) with hmin | hmin
      · have hself : (exponent x - e).toNat = 0 := by omega
        rw [ha, hself, Nat.shiftLeft_zero]
        have hx52 := hxform.normal (by omega)
        omega
      · have hself : (exponent y - e).toNat = 0 := by omega
        rw [hb, hself, Nat.shiftLeft_zero]
        have hy52 := hyform.normal (by omega)
        omega
    have hhigh := hzform.lt_significand
    rw [Nat.pow_succ] at hsum
    have hpos : 0 < 2 ^ k := Nat.two_pow_pos k
    nlinarith
  obtain ⟨k, hk⟩ : ∃ k : Nat, e = exponent z - k := ⟨(exponent z - e).toNat, by omega⟩
  have hsum : a + b = significand z * 2 ^ k := by
    have hz : exponent z = e + k := by omega
    rw [hz, zpow_add₀ (by norm_num), zpow_natCast, mul_comm (2 ^ e), ← mul_assoc,
      mul_left_inj' (by positivity)] at hvalue
    exact_mod_cast hvalue
  apply Float.toBits_inj.1
  apply UInt64.toBitVec_inj.1
  rw [toBitVec_add, unpack_of_isFinite hx hxne, unpack_of_isFinite hy hyne, hxsign, hysign, add]
  dsimp only [decreaseExponent]
  rw [← he, ← ha, ← hb]
  have hpos : compare ((a : Int) + b) 0 = .gt := by
    have hne : a + b ≠ 0 := hsum ▸ Nat.mul_ne_zero hzne (Nat.two_pow_pos k).ne'
    exact compare_gt_iff_gt.2 (by omega)
  have hnormalized : normalize Format.binary64 ((a : Int) + b) e .positive =
      unpack Format.binary64 z.toBits.toBitVec := by
    rw [UnpackedFloat.normalize, hpos]
    dsimp only
    rw [← Nat.cast_add, Int.toNat_natCast, hsum, hk, hzform.round_eq hzne,
      unpack_of_isFinite hz hzne, hzsign]
    rfl
  exact (congrArg (pack Format.binary64) hnormalized).trans (pack_unpack_of_valid z.toModel.valid)

/-! ### Sums of natural numbers -/

theorem ofNat_zero_add (hx : isFinite x = true) (hne : significand x ≠ 0) :
    ofNat 0 + x = x ∧ x + ofNat 0 = x := by
  have hzero : unpack Format.binary64 (ofNat 0).toBits.toBitVec = .zero .positive := rfl
  have hself : pack Format.binary64 (unpack Format.binary64 x.toBits.toBitVec) =
      x.toBits.toBitVec := pack_unpack_of_valid x.toModel.valid
  rw [unpack_of_isFinite hx hne] at hself
  constructor <;>
    exact Float.toBits_inj.1 (UInt64.toBitVec_inj.1 (by
      rw [toBitVec_add, hzero, unpack_of_isFinite hx hne]; exact hself))

/-- Natural numbers whose sum is at most `2 ^ 53` are added without loss. -/
theorem ofNat_add {m n : Nat} (h : m + n ≤ 2 ^ 53) : ofNat m + ofNat n = ofNat (m + n) := by
  have hpos {k : Nat} (hk : k ≠ 0) (hle : k ≤ 2 ^ 53) :
      isFinite (ofNat k) = true ∧ 0 < toRat (ofNat k) := by
    obtain ⟨hfinite, hvalue⟩ := toRat_ofNat hle
    rw [hvalue]
    exact ⟨hfinite, by exact_mod_cast Nat.pos_of_ne_zero hk⟩
  by_cases hm : m = 0
  · subst hm
    by_cases hn : n = 0
    · subst hn
      decide +kernel
    · obtain ⟨hfinite, hvalue⟩ := hpos hn (by omega)
      rw [(ofNat_zero_add hfinite (parts_of_pos hvalue).2).1, Nat.zero_add]
  · obtain ⟨hmfinite, hmpos⟩ := hpos hm (by omega)
    by_cases hn : n = 0
    · subst hn
      rw [(ofNat_zero_add hmfinite (parts_of_pos hmpos).2).2, Nat.add_zero]
    · obtain ⟨hnfinite, hnpos⟩ := hpos hn (by omega)
      refine add_eq_of_toRat hmfinite hnfinite (toRat_ofNat h).1 hmpos hnpos ?_
      rw [(toRat_ofNat h).2, (toRat_ofNat (by omega)).2, (toRat_ofNat (by omega)).2, Nat.cast_add]

end

end TemplateExpr.Number
