import Mathlib.Algebra.Group.Nat.Defs
import TemplateExpr.Text.Class
import TemplateExpr.Text.Digit

/-!
# Numerals read back

The numeral of a natural number denotes the number (`fold_write_base`), in any base that has digits.
The decimal one consists of the digits from zero to nine.
-/

namespace TemplateExpr.Text.Digit

/-- The digits of a base are those of base 36 that are small enough. -/
theorem value?_char_of_lt {base d : Nat} (hbase : base ≤ 36) (hd : d < base) :
    value? base (char d) = some d := by
  have hwide := value?_char d (by omega)
  obtain ⟨hvalue, -⟩ := Option.filter_eq_some_iff.1 hwide
  exact Option.filter_eq_some_iff.2 ⟨hvalue, decide_eq_true hd⟩

theorem isAsciiDigit_char : ∀ d < 10, isAsciiDigit (char d) = true := by decide

/-! ### Reading -/

theorem fold_append (base acc : Nat) (ds es : List Char) :
    fold base acc (ds ++ es) = (fold base acc ds).bind fun n => fold base n es := by
  induction ds generalizing acc with
  | nil => rfl
  | cons d ds ih =>
    rw [List.cons_append, fold, fold]
    cases value? base d with
    | none => rfl
    | some v => exact ih _

/-- Zeros behind a number. -/
theorem fold_replicate_zero (n k : Nat) :
    fold 10 n (List.replicate k '0') = some (n * 10 ^ k) := by
  induction k generalizing n with
  | zero => simp [fold]
  | succ k ih =>
    have hzero : value? 10 '0' = some 0 := by decide
    rw [List.replicate_succ, fold, hzero, Option.bind_some, ih, Nat.add_zero, Nat.pow_succ']
    congr 1
    rw [Nat.mul_comm 10 n, Nat.mul_assoc]

/-! ### Writing -/

theorem writeOnto_eq (base n : Nat) (tail : List Char) :
    writeOnto base n tail = write base n ++ tail := by
  induction n using Nat.strongRecOn generalizing tail with
  | ind n ih =>
    rw [write, writeOnto.eq_def base n tail, writeOnto.eq_def base n []]
    split
    · next h =>
      have hlt : n / base < n := Nat.div_lt_self (by omega) (by omega)
      rw [ih _ hlt, ih _ hlt [char (n % base)], List.append_assoc]
      rfl
    · rfl

/-- A numeral ends with its last digit. -/
theorem write_base {base : Nat} (hbase : 2 ≤ base) (n : Nat) :
    write base n =
      if base ≤ n then write base (n / base) ++ [char (n % base)] else [char n] := by
  rw [write, writeOnto.eq_def]
  by_cases h : base ≤ n
  · rw [dif_pos ⟨hbase, h⟩, if_pos h, writeOnto_eq]
  · rw [dif_neg (fun hn => h hn.2), if_neg h]

theorem write_ten (n : Nat) :
    write 10 n = if 10 ≤ n then write 10 (n / 10) ++ [char (n % 10)] else [char n] :=
  write_base (by decide) n

theorem write_ne_nil (n : Nat) : write 10 n ≠ [] := by
  rw [write_ten]
  split <;> simp

theorem isAsciiDigit_of_mem_write {n : Nat} {c : Char} (hc : c ∈ write 10 n) :
    isAsciiDigit c = true := by
  induction n using Nat.strongRecOn with
  | ind n ih =>
    rw [write_ten] at hc
    split at hc
    · rcases List.mem_append.1 hc with hc | hc
      · exact ih (n / 10) (by omega) hc
      · rw [List.mem_singleton.1 hc]
        exact isAsciiDigit_char _ (Nat.mod_lt _ (by decide))
    · rw [List.mem_singleton.1 hc]
      exact isAsciiDigit_char _ (by omega)

/-- The numeral of a number denotes the number. -/
theorem fold_write_base {base : Nat} (hbase : 2 ≤ base) (hdigits : base ≤ 36) (n : Nat) :
    fold base 0 (write base n) = some n := by
  induction n using Nat.strongRecOn with
  | ind n ih =>
    rw [write_base hbase]
    split
    · have hlt : n / base < n := Nat.div_lt_self (by omega) (by omega)
      have hmod : n % base < base := Nat.mod_lt _ (by omega)
      rw [fold_append, ih _ hlt, Option.bind_some, fold, value?_char_of_lt hdigits hmod,
        Option.bind_some, fold, Nat.div_add_mod]
    · next hsmall =>
      rw [fold, value?_char_of_lt hdigits (by omega), Option.bind_some, fold, Nat.mul_zero,
        Nat.zero_add]

theorem fold_write (n : Nat) : fold 10 0 (write 10 n) = some n :=
  fold_write_base (by decide) (by decide) n

theorem write_inj {m n : Nat} (h : write 10 m = write 10 n) : m = n := by
  have hfold := congrArg (fold 10 0) h
  rw [fold_write, fold_write] at hfold
  exact Option.some.inj hfold

/-! ### Integers -/

theorem toList_decimalInt (n : Int) :
    (decimalInt n).toList = if n < 0 then '-' :: write 10 n.natAbs else write 10 n.natAbs := by
  rw [decimalInt]
  split
  · simp only [String.toList_append, decimal, String.toList_ofList]
    rfl
  · rw [decimal, String.toList_ofList]

/-- No two integers have the same text. -/
theorem decimalInt_inj {m n : Int} (h : (decimalInt m).toList = (decimalInt n).toList) : m = n := by
  have hminus {k : Nat} {cs : List Char} : write 10 k ≠ '-' :: cs := by
    intro hk
    have hdigit : isAsciiDigit '-' = true :=
      isAsciiDigit_of_mem_write (n := k) (hk ▸ List.mem_cons_self)
    exact absurd hdigit (by decide)
  rw [toList_decimalInt, toList_decimalInt] at h
  split at h <;> split at h
  · have habs := write_inj (List.cons.inj h).2
    omega
  · exact absurd h.symm hminus
  · exact absurd h hminus
  · have habs := write_inj h
    omega

/-- The characters of an integer. -/
theorem mem_decimalInt {n : Int} {c : Char} (hc : c ∈ (decimalInt n).toList) :
    c = '-' ∨ isAsciiDigit c = true := by
  rw [toList_decimalInt] at hc
  split at hc
  · exact (List.mem_cons.1 hc).imp_right isAsciiDigit_of_mem_write
  · exact .inr (isAsciiDigit_of_mem_write hc)

end TemplateExpr.Text.Digit
