import TemplateExpr.Proofs.Number.Rounding

/-!
# Reading the texts of numbers

The text of a number is read as the number again, up to the sign of zero
(`readDecimalOrWord?_format`). Its digits stand for a decimal in the interval of the number, which
is rounded to the number's magnitude (`toFloat_eq`), and a minus sign in front of them sets the sign
bit and nothing else (`fields_neg`).
-/

namespace TemplateExpr.Number

open TemplateExpr.Text

/-! ### Signs -/

section

open Float.Model.UnpackedFloat
open Float.Model (Format UnpackedFloat)

/-- A number and its negative are packed alike, but for the sign. -/
theorem pack_neg (spec : Format) {u : UnpackedFloat} (hu : u ≠ notANumber) :
    ∃ s e m, pack spec u = packComponents spec s e m ∧
      pack spec u.neg = packComponents spec (-s) e m := by
  cases u with
  | notANumber => exact absurd rfl hu
  | infinity s => exact ⟨s, _, _, rfl, rfl⟩
  | zero s => exact ⟨s, _, _, rfl, rfl⟩
  | finite s m e h =>
    refine ⟨s, ?_⟩
    simp only [UnpackedFloat.neg, pack]
    split
    · exact ⟨_, _, rfl, rfl⟩
    · split
      · exact ⟨_, _, rfl, rfl⟩
      · exact ⟨_, _, rfl, rfl⟩

theorem toNat_unpackExponent (x : Float) :
    (@unpackExponent Format.binary64 x.toBits.toBitVec).toNat = exponentField x := by
  simp [unpackExponent, exponentField, Nat.shiftRight_eq_div_pow]

theorem toNat_unpackMantissa (x : Float) :
    (@unpackMantissa Format.binary64 x.toBits.toBitVec).toNat = fractionField x := by
  simp [unpackMantissa, fractionField]

theorem toNat_unpackSign (x : Float) :
    (@unpackSign Format.binary64 x.toBits.toBitVec).toNat = x.toBits.toNat / 2 ^ 63 := by
  have hlt := x.toBits.toNat_lt
  simp [unpackSign, Nat.shiftRight_eq_div_pow]
  omega

theorem toBitVec_neg (x : Float) :
    (-x).toBits.toBitVec =
      pack Format.binary64 (unpack Format.binary64 x.toBits.toBitVec).neg := by
  simp only [Neg.neg, Float.neg, Float.toBits, Float.Model.neg, Float.Model.pack,
    Float.Model.unpack]

theorem unpack_ne_notANumber {x : Float} (hx : isFinite x = true) :
    unpack Format.binary64 x.toBits.toBitVec ≠ notANumber := by
  intro hnan
  have hbits := (unpack_eq_notANumber_iff_of_valid x.toModel.valid).1 hnan
  have hones : @unpackExponent Format.binary64 x.toBits.toBitVec = -1#_ := by
    have h := @isNaNBits_packedNaN Format.binary64
    rw [← hbits, isNaNBits, decide_eq_true_eq] at h
    exact h.1
  have hfield : exponentField x = 2047 := by
    rw [← toNat_unpackExponent, hones]
    rfl
  rw [isFinite, hfield] at hx
  cases hx

/-- Taking the negative changes the sign and nothing else. -/
theorem fields_neg {x : Float} (hx : isFinite x = true) :
    isNegative (-x) = !isNegative x ∧ exponentField (-x) = exponentField x ∧
      fractionField (-x) = fractionField x := by
  obtain ⟨s, e, m, hpos, hneg⟩ := pack_neg Format.binary64 (unpack_ne_notANumber hx)
  rw [← toBitVec_neg] at hneg
  have hself : x.toBits.toBitVec = packComponents Format.binary64 s e m :=
    (pack_unpack_of_valid x.toModel.valid).symm.trans hpos
  refine ⟨?_, ?_, ?_⟩
  · have h1 := toNat_unpackSign x
    have h2 := toNat_unpackSign (-x)
    rw [hself, unpackSign_packComponents] at h1
    rw [hneg, unpackSign_packComponents] at h2
    have hpow : Nat.pow 2 63 = 2 ^ 63 := rfl
    rw [isNegative, isNegative, hpow, ← h1, ← h2]
    cases s <;> rfl
  · rw [← toNat_unpackExponent, ← toNat_unpackExponent, hself, hneg, unpackExponent_packComponents,
      unpackExponent_packComponents]
  · rw [← toNat_unpackMantissa, ← toNat_unpackMantissa, hself, hneg, unpackMantissa_packComponents,
      unpackMantissa_packComponents]

end

/-! ### Words -/

/-- A double from its fields. -/
theorem toNat_toBits (x : Float) :
    x.toBits.toNat =
      (if isNegative x then 2 ^ 63 else 0) + exponentField x * 2 ^ 52 + fractionField x := by
  have hlt := x.toBits.toNat_lt
  have h63 : Nat.pow 2 63 = 2 ^ 63 := rfl
  have h52 : Nat.pow 2 52 = 2 ^ 52 := rfl
  have h11 : Nat.pow 2 11 = 2 ^ 11 := rfl
  rw [isNegative, exponentField, fractionField, h63, h52, h11]
  split
  · next h =>
    rw [beq_iff_eq] at h
    omega
  · next h =>
    rw [beq_iff_eq] at h
    omega

/-- The word that is made from the magnitude of a double. -/
theorem wordOf_eq (x : Float) :
    wordOf (significand x) (exponent x) = exponentField x * 2 ^ 52 + fractionField x := by
  have hpow : Nat.pow 2 52 = 2 ^ 52 := rfl
  rw [wordOf, significand, exponent, hpow]
  split
  · next h =>
    rw [h]
    rfl
  · omega

theorem withSign_ofBits {x : Float} (hx : isFinite x = true) :
    withSign (isNegative x)
      (Float.ofBits (UInt64.ofNat (wordOf (significand x) (exponent x)))) = x := by
  have hpos {y : Float} (hy : isNegative y = false) :
      Float.ofBits (UInt64.ofNat (wordOf (significand y) (exponent y))) = y := by
    have hword := toNat_toBits y
    rw [hy, if_neg (by decide), Nat.zero_add, ← wordOf_eq] at hword
    rw [← hword, UInt64.ofNat_toNat, Float.ofBits_toBits]
  cases hsign : isNegative x with
  | false => exact hpos hsign
  | true =>
    -- the magnitude is that of the negative, whose sign is positive
    obtain ⟨hneg, hfield, hfraction⟩ := fields_neg hx
    rw [hsign] at hneg
    have hsame : wordOf (significand x) (exponent x) = wordOf (significand (-x)) (exponent (-x)) := by
      rw [wordOf_eq, wordOf_eq, hfield, hfraction]
    have hfinite : isFinite (-x) = true := by rwa [isFinite, hfield]
    obtain ⟨hneg', hfield', hfraction'⟩ := fields_neg hfinite
    rw [hsame, hpos hneg, withSign, if_pos rfl]
    apply eq_of_fields
    · rw [hneg', hneg, hsign]
      rfl
    · rw [significand, significand, hfield', hfraction', hfield, hfraction]
    · rw [exponent, exponent, hfield', hfield]

/-! ### Texts -/

/-- A digit is no sign and starts no word. -/
theorem ne_of_isAsciiDigit {c : Char} (h : isAsciiDigit c = true) :
    c ≠ '-' ∧ c ≠ '+' ∧ c.toLower ≠ 'i' ∧ c.toLower ≠ 'n' := by
  have hc : c = Char.ofNat c.toNat := c.ofNat_toNat.symm
  have hle : 48 ≤ c.toNat ∧ c.toNat ≤ 57 := by
    rw [isAsciiDigit, Char.isDigit, Bool.and_eq_true, decide_eq_true_eq, decide_eq_true_eq] at h
    exact ⟨h.1, h.2⟩
  have hall : ∀ n, 48 ≤ n → n ≤ 57 → Char.ofNat n ≠ '-' ∧ Char.ofNat n ≠ '+' ∧
      (Char.ofNat n).toLower ≠ 'i' ∧ (Char.ofNat n).toLower ≠ 'n' := by
    intro n h1 h2
    interval_cases n <;> decide
  rw [hc]
  exact hall _ hle.1 hle.2

/-- A decimal with a sign in front of it is read, and no word is seen in it. -/
theorem readDecimalOrWord?_signed {cs : List Char} {d : Decimal} (negative : Bool)
    (hc : ∀ c ∈ cs.head?, isAsciiDigit c = true) (hscan : scanDecimal? cs = some (d, [])) :
    readDecimalOrWord? (if negative then '-' :: cs else cs) =
      some (withSign negative d.toFloat) := by
  cases cs with
  | nil => cases hscan
  | cons c cs =>
    obtain ⟨hminus, hplus, hi, hn⟩ := ne_of_isAsciiDigit (hc c rfl)
    have hsign : spanSign (if negative then '-' :: c :: cs else c :: cs) = (negative, c :: cs) := by
      cases negative with
      | true => rfl
      | false =>
        rw [if_neg (by decide), spanSign]
        · intro _ h
          exact hminus (List.cons.inj h).1
        · intro _ h
          exact hplus (List.cons.inj h).1
    have hword {w : Char} {ws : List Char} (hw : c.toLower ≠ w) :
        String.ofList ((c :: cs).map Char.toLower) ≠ String.ofList (w :: ws) := by
      intro h
      rw [String.ofList_inj, List.map_cons] at h
      exact hw (List.cons.inj h).1
    have hinf : ¬(String.ofList ((c :: cs).map Char.toLower) = "inf" ∨
        String.ofList ((c :: cs).map Char.toLower) = "infinity") := not_or.2 ⟨hword hi, hword hi⟩
    have hnan : String.ofList ((c :: cs).map Char.toLower) ≠ "nan" := hword hn
    rw [readDecimalOrWord?, hsign]
    dsimp only
    rw [if_neg hinf, if_neg hnan, readDecimal?, hsign]
    dsimp only
    rw [hscan]

theorem toList_signed (negative : Bool) (cs : List Char) :
    (signed negative (String.ofList cs)).toList = if negative then '-' :: cs else cs := by
  rw [signed]
  split
  · simp only [String.toList_append, String.toList_ofList]
    rfl
  · rw [String.toList_ofList]

/-! ### Digits without a point -/

/-- The digits of a natural number, with zeros behind them. -/
theorem scanDecimal?_integer (n k : Nat) :
    scanDecimal? (Digit.write 10 n ++ List.replicate k '0') = some (⟨n * 10 ^ k, 0⟩, []) := by
  have hdigits : ∀ c ∈ Digit.write 10 n ++ List.replicate k '0', isAsciiDigit c = true :=
    fun c hc => (List.mem_append.1 hc).elim Digit.isAsciiDigit_of_mem_write
      Decimal.isAsciiDigit_of_mem_replicate
  have hspan := spanDigits_append _ [] hdigits fun c hc => nomatch hc
  have hfold : Digit.fold 10 0 (Digit.write 10 n ++ List.replicate k '0') = some (n * 10 ^ k) := by
    rw [Digit.fold_append, Digit.fold_write, Option.bind_some, Digit.fold_replicate_zero]
  have hne : (Digit.write 10 n ++ List.replicate k '0').isEmpty = false := by
    simp [Digit.write_ne_nil]
  rw [List.append_nil] at hspan
  rw [scanDecimal?, hspan]
  simp only [hne, Bool.false_and, Bool.false_eq_true, if_false, scanExponent?, Decimal.ofDigits,
    List.append_nil, digitsValue, hfold, Option.getD_some, List.length_nil, Nat.cast_zero, sub_zero]

/-- A positional text starts with a digit. -/
theorem isAsciiDigit_of_head_plain (d : Decimal) : ∀ c ∈ d.plain.head?, isAsciiDigit c = true := by
  have hdigits : ∀ c ∈ Digit.write 10 d.digits, isAsciiDigit c = true :=
    fun c hc => Digit.isAsciiDigit_of_mem_write hc
  have hne := Digit.write_ne_nil d.digits
  intro c hc
  rw [Decimal.plain] at hc
  dsimp only at hc
  generalize Digit.write 10 d.digits = ds at *
  split at hc
  · rw [List.head?_append_of_ne_nil _ hne] at hc
    exact hdigits c (List.mem_of_mem_head? hc)
  · split at hc
    · next hlt =>
      have htake : ds.take (ds.length - (-d.exp).toNat) ≠ [] := by
        intro h
        have := congrArg List.length h
        rw [List.length_take, List.length_nil] at this
        omega
      rw [List.head?_append_of_ne_nil _ htake] at hc
      exact hdigits c (List.mem_of_mem_take (List.mem_of_mem_head? hc))
    · rw [← Option.some.inj hc]
      decide

/-! ### Places of the shortest decimal -/

theorem neg_le_magnitude {num den : Nat} (hden : den.log2 < 5000) : -1600 ≤ magnitude num den := by
  rw [magnitude]
  dsimp only
  split
  · omega
  · split <;> omega

theorem exp_of_onGrid? {tie : Tie} {i : Interval} {exp : Int} {d : Decimal}
    (h : i.onGrid? tie exp = some d) : d.exp = exp := by
  rw [Interval.onGrid?] at h
  dsimp only at h
  split at h
  · split at h
    · exact Option.some.inj h ▸ rfl
    split at h
    · exact Option.some.inj h ▸ rfl
    split at h
    · exact Option.some.inj h ▸ rfl
    · exact Option.some.inj h ▸ rfl
  · exact Option.some.inj h ▸ rfl
  · exact Option.some.inj h ▸ rfl
  · cases h

theorem le_exp_firstHit (tie : Tie) (i : Interval) (fuel : Nat) (exp : Int) :
    min 0 (exp - fuel) ≤ (i.firstHit tie fuel exp).exp := by
  induction fuel generalizing exp with
  | zero => exact min_le_left _ _
  | succ fuel ih =>
    rw [Interval.firstHit]
    split
    · next d hd =>
      rw [exp_of_onGrid? hd]
      omega
    · have h := ih (exp - 1)
      omega

theorem le_exp_stripZeros (fuel : Nat) (d : Decimal) : d.exp ≤ (d.stripZeros fuel).exp := by
  induction fuel generalizing d with
  | zero => exact le_rfl
  | succ fuel ih =>
    rw [Decimal.stripZeros]
    split
    · have h := ih ⟨d.digits / 10, d.exp + 1⟩
      dsimp only at h
      omega
    · exact le_rfl

/-- The shortest decimal of a double does not have many places. -/
theorem le_exp_shortest (tie : Tie) {m : Nat} {q : Int} (h : IsCanonical m q) :
    -2000 ≤ (shortest tie m q).exp := by
  have hexp := h.le_exponent
  have hden : (Interval.ofDyadic m q).den.log2 < 5000 := by
    rw [Interval.den_ofDyadic, Nat.log2_two_pow]
    omega
  have hmagnitude : -1600 ≤ magnitude (Interval.ofDyadic m q).value (Interval.ofDyadic m q).den :=
    neg_le_magnitude hden
  have hhit := le_exp_firstHit tie (Interval.ofDyadic m q) 18
    (magnitude (Interval.ofDyadic m q).value (Interval.ofDyadic m q).den)
  have hstrip := le_exp_stripZeros 25 ((Interval.ofDyadic m q).firstHit tie 18
    (magnitude (Interval.ofDyadic m q).value (Interval.ofDyadic m q).den))
  rw [shortest]
  omega

/-! ### Finite numbers -/

theorem roundsTo_self {m : Nat} (q : Int) (hm : 0 < m) : RoundsTo ((m : ℚ) * 2 ^ q) m q := by
  have hbelow := Interval.below_le m q
  have hpos : 0 < Interval.below m q := by
    rw [Interval.below]
    split <;> omega
  have hplace : (0 : ℚ) < 2 ^ (q - 2) := by positivity
  have hunits : (m : ℚ) * 2 ^ q = ((4 * m : Nat) : ℚ) * 2 ^ (q - 2) := by
    rw [zpow_sub₀ (by norm_num)]
    push_cast
    ring
  have hlow : ((4 * m - Interval.below m q : Nat) : ℚ) < ((4 * m : Nat) : ℚ) := by
    exact_mod_cast (by omega : 4 * m - Interval.below m q < 4 * m)
  have hhigh : ((4 * m : Nat) : ℚ) < ((4 * m + 2 : Nat) : ℚ) := by
    exact_mod_cast (by omega : 4 * m < 4 * m + 2)
  have h1 := mul_lt_mul_of_pos_right hlow hplace
  have h2 := mul_lt_mul_of_pos_right hhigh hplace
  rw [hunits]
  exact ⟨h1.le, h2.le, fun _ => ⟨h1, h2⟩⟩

/-- The integer part of a number without a fraction is its magnitude, with its sign. -/
theorem truncate_of_isIntegral {x : Float} (hx : isIntegral x = true) :
    ((truncate x).natAbs : ℚ) = significand x * 2 ^ exponent x ∧
      truncate x = if isNegative x then -((truncate x).natAbs : Int) else (truncate x).natAbs := by
  rw [isIntegral, Bool.and_eq_true, beq_iff_eq] at hx
  obtain ⟨hfinite, hfraction⟩ := hx
  rw [truncate, if_pos hfinite]
  dsimp only
  have hvalue := scaleUp_div_scaleUp (significand x) 1 (-exponent x)
  rw [neg_neg, Nat.cast_one, div_one, zpow_neg, div_inv_eq_mul] at hvalue
  have hexact := Nat.cast_div (K := ℚ) (Nat.dvd_of_mod_eq_zero hfraction) (by
    exact_mod_cast (Nat.mul_pos Nat.one_pos (Nat.two_pow_pos (-exponent x).toNat)).ne')
  rw [hvalue] at hexact
  cases isNegative x with
  | true =>
    rw [if_pos rfl, if_pos rfl, Int.natAbs_neg, Int.natAbs_natCast]
    exact ⟨hexact, rfl⟩
  | false =>
    rw [if_neg (by decide), if_neg (by decide), Int.natAbs_natCast]
    exact ⟨hexact, rfl⟩

section

variable {x : Float} (hx : isFinite x = true) (hzero : significand x ≠ 0)

include hx hzero

/-- A text of digits that stands for a decimal next to a number is read as the number, if its sign
stands in front. -/
theorem readDecimalOrWord?_near {cs : List Char} {d : Decimal}
    (hc : ∀ c ∈ cs.head?, isAsciiDigit c = true) (hscan : scanDecimal? cs = some (d, []))
    (hexp : -2000 ≤ d.exp) (hexp' : d.exp ≤ 2000)
    (hd : RoundsTo d.toRat (significand x) (exponent x)) :
    readDecimalOrWord? (if isNegative x then '-' :: cs else cs) = some x := by
  rw [readDecimalOrWord?_signed _ hc hscan,
    toFloat_eq hexp hexp' (isCanonical_of_isFinite hx) (Nat.pos_of_ne_zero hzero) hd,
    withSign_ofBits hx]

theorem readDecimalOrWord?_decimalInt (hintegral : isIntegral x = true) :
    readDecimalOrWord? (Digit.decimalInt (truncate x)).toList = some x := by
  obtain ⟨hvalue, hsign⟩ := truncate_of_isIntegral hintegral
  have hne : (truncate x).natAbs ≠ 0 := by
    intro h
    rw [h, Nat.cast_zero] at hvalue
    have : (significand x : ℚ) * 2 ^ exponent x ≠ 0 :=
      mul_ne_zero (by exact_mod_cast hzero) (by positivity)
    exact this hvalue.symm
  have hnegative : (truncate x < 0) ↔ isNegative x = true := by
    rw [hsign]
    split
    · next h => exact ⟨fun _ => h, fun _ => by omega⟩
    · next h => exact ⟨fun hlt => by omega, fun hneg => absurd hneg h⟩
  have hscan := scanDecimal?_integer (truncate x).natAbs 0
  rw [List.replicate_zero, List.append_nil, Nat.pow_zero, Nat.mul_one] at hscan
  rw [Digit.toList_decimalInt, if_congr hnegative rfl rfl]
  refine readDecimalOrWord?_near hx hzero (fun c hc => ?_) hscan (by norm_num) (by norm_num) ?_
  · exact Digit.isAsciiDigit_of_mem_write (List.mem_of_mem_head? hc)
  · rw [Decimal.toRat, zpow_zero, mul_one, hvalue]
    exact roundsTo_self _ (Nat.pos_of_ne_zero hzero)

theorem readDecimalOrWord?_plain : readDecimalOrWord? (plain x).toList = some x := by
  have hcanonical := isCanonical_of_isFinite hx
  have hpos := Nat.pos_of_ne_zero hzero
  have hcontains := contains_shortest .up hcanonical hpos
  have hplaces := le_exp_shortest .up hcanonical
  have hround := roundsTo_of_contains hcontains
  have hfield : (exponentField x == 2047) = false := by
    rwa [isFinite, bne, Bool.not_eq_true'] at hx
  have htext : (plain x).toList =
      if isNegative x then '-' :: (shortest .up (significand x) (exponent x)).plain
      else (shortest .up (significand x) (exponent x)).plain := by
    rw [plain, isNaN, hfield, Bool.false_and, if_neg (by decide), isInfinite, hfield, Bool.false_and,
      if_neg (by decide), toList_signed, shortestOf, if_neg hzero]
  rw [htext]
  generalize shortest .up (significand x) (exponent x) = d at *
  have hhead := isAsciiDigit_of_head_plain d
  by_cases hexp : d.exp < 0
  · obtain ⟨d', hscan, hnumber, hsame⟩ := Decimal.scanDecimal?_plain d hexp
    rw [← hnumber] at hround
    exact readDecimalOrWord?_near hx hzero hhead hscan (by omega) (by omega) hround
  · obtain ⟨k, hk⟩ := Int.eq_ofNat_of_zero_le (not_lt.1 hexp)
    have hscan := scanDecimal?_integer d.digits k
    have hinteger : d.plain = Digit.write 10 d.digits ++ List.replicate k '0' := by
      rw [Decimal.plain, if_pos (not_lt.1 hexp), hk, Int.toNat_natCast]
    rw [← hinteger] at hscan
    refine readDecimalOrWord?_near hx hzero hhead hscan (by norm_num) (by norm_num) ?_
    rw [Decimal.toRat, hk, zpow_natCast] at hround
    rw [Decimal.toRat, zpow_zero, mul_one]
    exact_mod_cast hround

end

/-! ### All numbers -/

/-- A number is told by its fields. -/
theorem eq_ofBits {x : Float} {w : UInt64} (h : x.toBits.toNat = w.toNat) : x = Float.ofBits w := by
  rw [← UInt64.toNat_inj.1 h, Float.ofBits_toBits]

/-- There is one NaN only. -/
theorem eq_nan_of_isNaN {x : Float} (hx : isNaN x = true) : x = nan := by
  rw [isNaN, Bool.and_eq_true, beq_iff_eq, bne_iff_ne] at hx
  obtain ⟨hfield, hfraction⟩ := hx
  have hbits : x.toBits.toBitVec = Float.Model.UnpackedFloat.packedNaN .binary64 := by
    refine x.toModel.valid.eq_packedNaN (BitVec.toNat_inj.1 ?_) fun h => hfraction ?_
    · exact (toNat_unpackExponent x).trans hfield
    · have h := congrArg BitVec.toNat h
      exact (toNat_unpackMantissa x).symm.trans h
  refine eq_ofBits ?_
  have h := congrArg BitVec.toNat hbits
  exact h.trans (by decide +kernel)

theorem eq_infinity_of_isInfinite {x : Float} (hx : isInfinite x = true) :
    x = withSign (isNegative x) infinity := by
  rw [isInfinite, Bool.and_eq_true, beq_iff_eq, beq_iff_eq] at hx
  obtain ⟨hfield, hfraction⟩ := hx
  have hword := toNat_toBits x
  rw [hfield, hfraction] at hword
  cases hsign : isNegative x with
  | true =>
    rw [hsign, if_pos rfl] at hword
    have hneg : withSign true infinity = Float.ofBits 0xFFF0000000000000 := by decide +kernel
    rw [hneg]
    exact eq_ofBits hword
  | false =>
    rw [hsign, if_neg (by decide)] at hword
    exact eq_ofBits hword

/-- A number without digits is one of the zeros. -/
theorem beq_zero_of_significand {x : Float} (h : significand x = 0) : (x == 0) = true := by
  have hfraction : fractionField x < 2 ^ 52 := Nat.mod_lt _ (by norm_num)
  have hpow : Nat.pow 2 52 = 2 ^ 52 := rfl
  have hword := toNat_toBits x
  rw [significand, hpow] at h
  have hfields : exponentField x = 0 ∧ fractionField x = 0 := by
    split at h <;> omega
  rw [hfields.1, hfields.2] at hword
  split at hword
  · rw [eq_ofBits (w := 0x8000000000000000) hword]
    decide +kernel
  · rw [eq_ofBits (w := 0) hword]
    decide +kernel

/-- The text of a number is read as the number; that of the negative zero as zero. -/
theorem readDecimalOrWord?_format (x : Float) :
    ∃ y, readDecimalOrWord? (format x).toList = some y ∧ (y = x ∨ (x == 0) = true ∧ y = 0) := by
  rw [format]
  split
  · next hnan =>
    refine ⟨nan, by decide +kernel, .inl (eq_nan_of_isNaN hnan).symm⟩
  · split
    · next hinfinite =>
      refine ⟨x, ?_, .inl rfl⟩
      have h := eq_infinity_of_isInfinite hinfinite
      cases hsign : isNegative x with
      | true =>
        rw [hsign] at h
        rw [h]
        decide +kernel
      | false =>
        rw [hsign] at h
        rw [h]
        decide +kernel
    · split
      · next hzero => exact ⟨0, by decide +kernel, .inr ⟨hzero, rfl⟩⟩
      · next hnan hinfinite hzero =>
        have hfinite : isFinite x = true := by
          rw [isNaN] at hnan
          rw [isInfinite] at hinfinite
          rw [isFinite]
          cases hfield : exponentField x == 2047 with
          | false => rw [bne, hfield]; rfl
          | true =>
            rw [hfield, Bool.true_and] at hnan hinfinite
            rw [bne, Bool.not_eq_true, Bool.not_eq_false'] at hnan
            exact absurd hnan hinfinite
        have hsignificand : significand x ≠ 0 := fun h =>
          hzero (beq_zero_of_significand h)
        split
        · next hintegral =>
          refine ⟨x, readDecimalOrWord?_decimalInt hfinite hsignificand ?_, .inl rfl⟩
          exact ((Bool.and_eq_true _ _).mp hintegral).1
        · exact ⟨x, readDecimalOrWord?_plain hfinite hsignificand, .inl rfl⟩

end TemplateExpr.Number
