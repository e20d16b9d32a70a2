import Mathlib.Algebra.Order.Field.Power
import Mathlib.Data.Rat.Cast.Order
import Mathlib.Tactic.Linarith
import Mathlib.Tactic.Positivity
import Mathlib.Tactic.Ring
import TemplateExpr.Json.Printer
import TemplateExpr.Proofs.Text.Digit

/-!
# Decimals and their texts

`Decimal.toRat` is the number that a decimal stands for. What JSON writes for a decimal is read back
as a decimal that stands for the same number (`scanDecimal?_scientificOrPlain`).
-/

namespace TemplateExpr.Number

open TemplateExpr.Text

/-! ### Digits -/

theorem spanDigits_append (ds rest : List Char) (hds : ∀ c ∈ ds, isAsciiDigit c = true)
    (hrest : ∀ c ∈ rest.head?, isAsciiDigit c = false) : spanDigits (ds ++ rest) = (ds, rest) := by
  rw [spanDigits, List.span_eq_takeWhile_dropWhile, List.takeWhile_append_of_pos hds,
    List.dropWhile_append_of_pos hds]
  cases rest with
  | nil => simp
  | cons c rest =>
    have hc := hrest c rfl
    rw [List.takeWhile_cons, List.dropWhile_cons, hc]
    simp

theorem digitsValue_write (n : Nat) : digitsValue (Digit.write 10 n) = n := by
  rw [digitsValue, Digit.fold_write, Option.getD_some]

namespace Decimal

/-- The number that a decimal stands for. -/
def toRat (d : Decimal) : ℚ := d.digits * 10 ^ d.exp

/-- Moving zeros into the exponent does not change the number. -/
theorem toRat_stripZeros (fuel : Nat) (d : Decimal) : (d.stripZeros fuel).toRat = d.toRat := by
  induction fuel generalizing d with
  | zero => rfl
  | succ fuel ih =>
    rw [stripZeros]
    split
    · next h =>
      rw [ih, toRat, toRat]
      have hdigits : (d.digits : ℚ) = 10 * (d.digits / 10 : Nat) := by
        exact_mod_cast (Nat.mul_div_cancel' (Nat.dvd_of_mod_eq_zero h.2)).symm
      rw [hdigits, zpow_add_one₀ (by norm_num)]
      ring
    · rfl

/-! ### Texts -/

/-- An exponent as it is written. -/
def exponentText (exp : Int) : List Char :=
  'e' :: (if exp < 0 then '-' else '+') :: Digit.write 10 exp.natAbs

/-- An exponent as it may be written; it may be missing. -/
inductive ExponentText : List Char → Int → Prop
  | none : ExponentText [] 0
  | plain {e : Char} {ds : List Char} : e = 'e' ∨ e = 'E' → ds ≠ [] →
    (∀ d ∈ ds, isAsciiDigit d = true) → ExponentText (e :: ds) (digitsValue ds)
  | plus {e : Char} {ds : List Char} : e = 'e' ∨ e = 'E' → ds ≠ [] →
    (∀ d ∈ ds, isAsciiDigit d = true) → ExponentText (e :: '+' :: ds) (digitsValue ds)
  | minus {e : Char} {ds : List Char} : e = 'e' ∨ e = 'E' → ds ≠ [] →
    (∀ d ∈ ds, isAsciiDigit d = true) → ExponentText (e :: '-' :: ds) (-digitsValue ds)

theorem exponentText_spec (exp : Int) : ExponentText (exponentText exp) exp := by
  have hdigits : ∀ d ∈ Digit.write 10 exp.natAbs, isAsciiDigit d = true :=
    fun d hd => Digit.isAsciiDigit_of_mem_write hd
  have hne := Digit.write_ne_nil exp.natAbs
  have hvalue := digitsValue_write exp.natAbs
  rw [exponentText]
  by_cases hexp : exp < 0
  · have htext := ExponentText.minus (.inl rfl) hne hdigits
    rw [hvalue] at htext
    rw [if_pos hexp]
    convert htext using 1
    omega
  · have htext := ExponentText.plus (.inl rfl) hne hdigits
    rw [hvalue] at htext
    rw [if_neg hexp]
    convert htext using 1
    omega

/-- An exponent is read, if it is there. -/
theorem ExponentText.scanExponent? {cs : List Char} {exp : Int} (h : ExponentText cs exp) :
    cs = [] ∧ exp = 0 ∨ Number.scanExponent? cs = some (exp, []) := by
  have hspan {ds : List Char} (hds : ∀ d ∈ ds, isAsciiDigit d = true) :
      spanDigits ds = (ds, []) := by
    have happend := spanDigits_append ds [] hds nofun
    rwa [List.append_nil] at happend
  cases h with
  | none => exact .inl ⟨rfl, rfl⟩
  | @plain e ds he hne hds =>
    refine .inr ?_
    obtain ⟨d, ds, rfl⟩ := List.exists_cons_of_ne_nil hne
    have hd := hds d List.mem_cons_self
    have hminus : d ≠ '-' := by rintro rfl; cases hd
    have hplus : d ≠ '+' := by rintro rfl; cases hd
    simp [Number.scanExponent?, he, hspan hds, hminus, hplus]
  | @plus e ds he hne hds =>
    refine .inr ?_
    obtain ⟨d, ds, rfl⟩ := List.exists_cons_of_ne_nil hne
    simp [Number.scanExponent?, he, hspan hds]
  | @minus e ds he hne hds =>
    refine .inr ?_
    obtain ⟨d, ds, rfl⟩ := List.exists_cons_of_ne_nil hne
    simp [Number.scanExponent?, he, hspan hds]

/-- What may stand behind the digits of a decimal is no digit and no point. -/
theorem ExponentText.ne_of_mem_head? {cs : List Char} {exp : Int} (h : ExponentText cs exp)
    {c : Char} (hc : c ∈ cs.head?) : isAsciiDigit c = false ∧ c ≠ '.' := by
  have he {e : Char} (he : e = 'e' ∨ e = 'E') : isAsciiDigit e = false ∧ e ≠ '.' := by
    rcases he with rfl | rfl <;> decide
  cases h with
  | none => cases hc
  | plain hexp => cases hc; exact he hexp
  | plus hexp => cases hc; exact he hexp
  | minus hexp => cases hc; exact he hexp

/-- Reading whole digits, a fraction and an exponent. -/
theorem scanDecimal?_point (whole fraction : List Char) {rest : List Char} {exp : Int}
    (hwhole : ∀ c ∈ whole, isAsciiDigit c = true)
    (hfraction : ∀ c ∈ fraction, isAsciiDigit c = true) (hne : whole ≠ [] ∨ fraction ≠ [])
    (hrest : ExponentText rest exp) :
    scanDecimal? (whole ++ '.' :: (fraction ++ rest)) =
      some (ofDigits whole fraction exp, []) := by
  have hpoint := spanDigits_append whole ('.' :: (fraction ++ rest)) hwhole
    (fun c hc => by rw [← Option.some.inj hc]; decide)
  have hdigits := spanDigits_append fraction rest hfraction
    (fun c hc => (hrest.ne_of_mem_head? hc).1)
  have hempty : (whole.isEmpty && fraction.isEmpty) = false := by
    simpa [← not_and_or] using hne
  simp only [scanDecimal?, hpoint, hdigits, hempty, Bool.false_eq_true, if_false]
  rcases hrest.scanExponent? with ⟨rfl, rfl⟩ | hscan
  · rw [Number.scanExponent?]
  · rw [hscan]

/-- Reading whole digits and an exponent. -/
theorem scanDecimal?_whole {whole rest : List Char} {exp : Int}
    (hwhole : ∀ c ∈ whole, isAsciiDigit c = true) (hne : whole ≠ [])
    (hrest : ExponentText rest exp) :
    scanDecimal? (whole ++ rest) = some (ofDigits whole [] exp, []) := by
  have hdigits := spanDigits_append whole rest hwhole fun c hc => (hrest.ne_of_mem_head? hc).1
  have hempty : whole.isEmpty = false := by simpa using hne
  have hnopoint (more : List Char) (hmore : rest = '.' :: more) : False := by
    subst hmore
    exact (hrest.ne_of_mem_head? rfl).2 rfl
  simp only [scanDecimal?, hdigits, hempty, Bool.false_and, Bool.false_eq_true, if_false]
  rcases hrest.scanExponent? with ⟨rfl, rfl⟩ | hscan
  · rw [Number.scanExponent?]
  · rw [hscan]

/-- The number of a decimal whose digits are known. -/
theorem toRat_ofDigits {whole fraction : List Char} {n : Nat} (exp : Int)
    (h : Digit.fold 10 0 (whole ++ fraction) = some n) :
    (ofDigits whole fraction exp).toRat = n * 10 ^ (exp - fraction.length) := by
  rw [toRat, ofDigits, digitsValue, h, Option.getD_some]

/-- Zeros in front of a numeral. -/
theorem fold_zeros_append (k : Nat) (ds : List Char) :
    Digit.fold 10 0 (List.replicate k '0' ++ ds) = Digit.fold 10 0 ds := by
  rw [Digit.fold_append, Digit.fold_replicate_zero, Nat.zero_mul, Option.bind_some]

theorem isAsciiDigit_of_mem_replicate {k : Nat} {c : Char} (hc : c ∈ List.replicate k '0') :
    isAsciiDigit c = true := by
  rw [List.eq_of_mem_replicate hc]
  decide

/-- A positional text with a fraction is read back, with as many places behind the point. -/
theorem scanDecimal?_plain (d : Decimal) (hexp : d.exp < 0) :
    ∃ d', scanDecimal? d.plain = some (d', []) ∧ d'.toRat = d.toRat ∧ d'.exp = d.exp := by
  obtain ⟨k, hk⟩ : ∃ k : Nat, d.exp = -k := ⟨(-d.exp).toNat, by omega⟩
  have hdigits : ∀ c ∈ Digit.write 10 d.digits, isAsciiDigit c = true :=
    fun c hc => Digit.isAsciiDigit_of_mem_write hc
  have hfold := Digit.fold_write d.digits
  rw [plain, if_neg (by omega)]
  dsimp only
  rw [hk, neg_neg, Int.toNat_natCast]
  generalize Digit.write 10 d.digits = ds at *
  split
  · next hlt =>
    have hne : ds.take (ds.length - k) ≠ [] := by
      intro hnil
      have := congrArg List.length hnil
      simp at this
      omega
    have hscan := scanDecimal?_point (ds.take (ds.length - k)) (ds.drop (ds.length - k))
      (fun c hc => hdigits c (List.mem_of_mem_take hc))
      (fun c hc => hdigits c (List.mem_of_mem_drop hc)) (.inl hne) .none
    rw [List.append_nil] at hscan
    have hplaces : (0 : Int) - (ds.drop (ds.length - k)).length = -k := by
      rw [List.length_drop]
      omega
    refine ⟨_, hscan, ?_, hplaces⟩
    rw [toRat_ofDigits 0 (by rw [List.take_append_drop]; exact hfold), toRat, hk, hplaces]
  · next hge =>
    have hscan := scanDecimal?_point ['0'] (List.replicate (k - ds.length) '0' ++ ds)
      (fun c hc => isAsciiDigit_of_mem_replicate (k := 1) hc)
      (fun c hc => (List.mem_append.1 hc).elim isAsciiDigit_of_mem_replicate (hdigits c))
      (.inl (List.cons_ne_nil _ _)) .none
    rw [List.append_nil] at hscan
    have hplaces : (0 : Int) - (List.replicate (k - ds.length) '0' ++ ds).length = -k := by
      rw [List.length_append, List.length_replicate]
      omega
    refine ⟨_, hscan, ?_, hplaces⟩
    have hfold' : Digit.fold 10 0 (['0'] ++ (List.replicate (k - ds.length) '0' ++ ds)) =
        some d.digits := by
      rw [← hfold, ← List.append_assoc]
      exact fold_zeros_append (k - ds.length + 1) ds
    rw [toRat_ofDigits 0 hfold', toRat, hk, hplaces]

/-- What JSON writes for a decimal is read back as a decimal that stands for the same number. -/
theorem scanDecimal?_scientificOrPlain (d : Decimal) :
    ∃ d', scanDecimal? d.scientificOrPlain = some (d', []) ∧ d'.toRat = d.toRat := by
  have hdigits : ∀ c ∈ Digit.write 10 d.digits, isAsciiDigit c = true :=
    fun c hc => Digit.isAsciiDigit_of_mem_write hc
  have hfold := Digit.fold_write d.digits
  have hne := Digit.write_ne_nil d.digits
  rw [scientificOrPlain]
  dsimp only
  by_cases hsmall : -5 ≤ d.exp + (Digit.write 10 d.digits).length - 1 ∧
      d.exp + (Digit.write 10 d.digits).length - 1 ≤ 15
  · rw [if_pos hsmall]
    by_cases hexp : 0 ≤ d.exp
    · rw [if_pos hexp, plain, if_pos hexp]
      obtain ⟨k, hk⟩ := Int.eq_ofNat_of_zero_le hexp
      rw [hk, Int.toNat_natCast]
      have hscan := scanDecimal?_point (Digit.write 10 d.digits ++ List.replicate k '0') ['0']
        (fun c hc => (List.mem_append.1 hc).elim (hdigits c) isAsciiDigit_of_mem_replicate)
        (fun c hc => isAsciiDigit_of_mem_replicate (k := 1) hc)
        (.inl (List.append_ne_nil_of_left_ne_nil hne (List.replicate k '0'))) .none
      refine ⟨_, hscan, ?_⟩
      have hfold' : Digit.fold 10 0 (Digit.write 10 d.digits ++ List.replicate k '0' ++ ['0']) =
          some (d.digits * 10 ^ (k + 1)) := by
        rw [List.append_assoc, ← List.replicate_succ', Digit.fold_append, hfold, Option.bind_some,
          Digit.fold_replicate_zero]
      rw [toRat_ofDigits 0 hfold', toRat, hk, Nat.cast_mul, Nat.cast_pow, mul_assoc]
      congr 1
      have hten : (((10 : Nat) : ℚ)) = 10 := by norm_num
      rw [hten, ← zpow_natCast, ← zpow_add₀ (by norm_num)]
      congr 1
      push_cast
      simp
    · rw [if_neg hexp]
      obtain ⟨d', hscan, hnumber, -⟩ := scanDecimal?_plain d (by omega)
      exact ⟨d', hscan, hnumber⟩
  · rw [if_neg hsmall]
    generalize Digit.write 10 d.digits = ds at *
    match ds, hne with
    | [first], _ =>
      refine ⟨_, scanDecimal?_whole hdigits (List.cons_ne_nil _ _) (exponentText_spec _), ?_⟩
      rw [toRat_ofDigits _ (by rw [List.append_nil]; exact hfold), toRat]
      congr 2
      simp
    | first :: second :: more, _ =>
      have hscan := scanDecimal?_point [first] (second :: more)
        (fun c hc => hdigits c (by simp at hc; simp [hc]))
        (fun c hc => hdigits c (List.mem_cons_of_mem _ hc)) (.inl (List.cons_ne_nil _ _))
        (exponentText_spec (d.exp + (first :: second :: more).length - 1))
      refine ⟨_, hscan, ?_⟩
      rw [toRat_ofDigits _ (by exact hfold), toRat]
      congr 2
      simp
      omega

end Decimal

end TemplateExpr.Number
