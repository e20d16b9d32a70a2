import TemplateExpr.Method.Table
import TemplateExpr.Proofs.Number.Integer
import TemplateExpr.Proofs.Text.Digit

/-!
# Integers in other bases

`toString` with a base writes an integer with the digits of the base, a minus sign in front of them
if it is negative. What is written is the signed word of 64 bits that is nearest to the number, so
the text denotes the number exactly if it fits such a word (`invoke_toString_denotes_iff`).
-/

namespace TemplateExpr

open TemplateExpr.Text

/-! ### What texts denote -/

/-- A text of digits in base `radix`, with a minus sign in front of them or without, denotes an
integer. -/
def Number.Denotes (radix : Nat) (text : List Char) (n : Int) : Prop :=
  ∃ ds m, Digit.read? radix ds = some m ∧
    (text = ds ∧ n = m ∨ text = '-' :: ds ∧ n = -(m : Int))

namespace Number

variable {radix : Nat} {text ds : List Char} {m : Nat} {n n' : Int}

/-- A minus sign is no digit in any base. -/
theorem read?_minus (radix : Nat) (ds : List Char) : Digit.read? radix ('-' :: ds) = none := by
  have hminus : Digit.value? radix '-' = none := rfl
  rw [Digit.read?, List.isEmpty_cons, if_neg Bool.false_ne_true, Digit.fold, hminus,
    Option.bind_none]

/-- A text denotes one integer at most. -/
theorem Denotes.unique (h : Denotes radix text n) (h' : Denotes radix text n') : n = n' := by
  obtain ⟨ds, m, hread, ⟨rfl, rfl⟩ | ⟨rfl, rfl⟩⟩ := h <;>
    obtain ⟨ds', m', hread', ⟨htext, rfl⟩ | ⟨htext, rfl⟩⟩ := h'
  · rw [htext, hread'] at hread
    rw [Option.some.inj hread]
  · rw [htext, read?_minus] at hread
    cases hread
  · rw [← htext, read?_minus] at hread'
    cases hread'
  · rw [(List.cons.inj htext).2, hread'] at hread
    rw [Option.some.inj hread]

/-- An integer that is written in a base is denoted by its text. -/
theorem denotes_inRadix (hradix : 2 ≤ radix) (hdigits : radix ≤ 36) (n : Int) :
    Denotes radix (inRadix radix n).toList n := by
  have hread : Digit.read? radix (Digit.write radix n.natAbs) = some n.natAbs := by
    have hne : (Digit.write radix n.natAbs).isEmpty = false := by
      rw [Digit.write_base hradix]
      split <;> simp
    rw [Digit.read?, hne, if_neg Bool.false_ne_true, Digit.fold_write_base hradix hdigits]
  refine ⟨_, _, hread, ?_⟩
  rw [inRadix]
  split
  · next hneg =>
    refine .inr ⟨?_, by omega⟩
    simp only [String.toList_append, String.toList_ofList]
    rfl
  · next hpos =>
    rw [String.toList_ofList]
    exact .inl ⟨rfl, by omega⟩

end Number

/-! ### The method -/

namespace NumberMethod

open TemplateExpr.Number

variable {x : Float} {n : Int} {radix : Nat}

/-- Bases as numbers: all of them are accepted, ten is a case of its own. -/
theorem accepted_radix : ∀ radix < 37, 2 ≤ radix →
    (2 ≤ ofNat radix && ofNat radix ≤ 36 && isIntegral (ofNat radix)) = true ∧
      (ofNat radix == 10) = (radix == 10) ∧ toNat64 (ofNat radix) = radix := by
  decide +kernel

/-- A number without a fraction is written as a word of 64 bits in the base. -/
theorem toString_of_isIntegral (call : Caller) (hx : isIntegral x = true) (hradix : 2 ≤ radix)
    (hdigits : radix ≤ 36) (hten : radix ≠ 10) :
    invoke call (.number x) "toString" [.number (ofNat radix)] =
      pure (.string (inRadix radix (toInt64 x))) := by
  obtain ⟨haccepted, hbase, hword⟩ := accepted_radix radix (by omega) hradix
  have hten' : (radix == 10) = false := beq_false_of_ne hten
  have hargument : (Arguments.number? [.number (ofNat radix)] 0).getD 10 = ofNat radix := rfl
  show toString call x [.number (ofNat radix)] = _
  simp only [toString, hargument, hbase, hten', haccepted, hword, hx, Bool.not_true,
    Bool.false_eq_true, if_false, if_true]

/-- An integer is written in another base than ten as the nearest one that fits a signed word of 64
bits. So its text denotes it exactly if it fits. -/
theorem invoke_toString_denotes_iff (call : Caller) (hx : isFinite x = true) (hn : toRat x = n)
    (hradix : 2 ≤ radix) (hdigits : radix ≤ 36) (hten : radix ≠ 10) :
    ∃ text, invoke call (.number x) "toString" [.number (ofNat radix)] = pure (.string text) ∧
      Denotes radix text.toList (max minWord (min maxWord n)) ∧
      (Denotes radix text.toList n ↔ minWord ≤ n ∧ n ≤ maxWord) := by
  obtain ⟨hintegral, rfl⟩ := (toRat_eq_iff hx).1 hn
  have hword : toInt64 x = max minWord (min maxWord (truncate x)) := clampInt_of_isFinite hx _ _
  have hdenotes := denotes_inRadix hradix hdigits (toInt64 x)
  refine ⟨_, toString_of_isIntegral call hintegral hradix hdigits hten, hword ▸ hdenotes, ?_⟩
  have hbounds : minWord ≤ maxWord := by decide
  constructor
  · intro h
    have hfits := hdenotes.unique h
    omega
  · rintro ⟨hlow, hhigh⟩
    have hfits : toInt64 x = truncate x := by omega
    rw [hfits] at hdenotes ⊢
    exact hdenotes

/-- The least word in the base with the most digits. -/
theorem invoke_toString_denotes_iff_minWord :
    isFinite (ofInt minWord) = true ∧ toRat (ofInt minWord) = minWord ∧
      ∃ text, invoke (fun _ _ => pure .undefined) (.number (ofInt minWord)) "toString"
          [.number (ofNat 36)] = pure (.string text) ∧ Denotes 36 text.toList minWord := by
  have hfinite : isFinite (ofInt minWord) = true := by decide +kernel
  have hvalue : toRat (ofInt minWord) = minWord :=
    (toRat_eq_iff hfinite).2 ⟨by decide +kernel, by decide +kernel⟩
  obtain ⟨text, htext, -, hdenotes⟩ := invoke_toString_denotes_iff (fun _ _ => pure .undefined)
    hfinite hvalue (by decide : 2 ≤ 36) (by decide) (by decide)
  exact ⟨hfinite, hvalue, text, htext, hdenotes.2 (by decide)⟩

/-- The integer behind the greatest word is written as the greatest word. -/
theorem toString_behindMaxWord :
    isFinite (ofNat (2 ^ 63)) = true ∧ toRat (ofNat (2 ^ 63)) = (2 ^ 63 : Int) ∧
      invoke (fun _ _ => pure .undefined) (.number (ofNat (2 ^ 63))) "toString"
          [.number (ofNat 16)] = pure (.string "7fffffffffffffff") ∧
      ¬Denotes 16 "7fffffffffffffff".toList (2 ^ 63) := by
  have hfinite : isFinite (ofNat (2 ^ 63)) = true := by decide +kernel
  have hintegral : isIntegral (ofNat (2 ^ 63)) = true := by decide +kernel
  have hword : toInt64 (ofNat (2 ^ 63)) = 2 ^ 63 - 1 := by decide +kernel
  have htext : inRadix 16 (2 ^ 63 - 1) = "7fffffffffffffff" := by decide +kernel
  have hdenotes := denotes_inRadix (by decide : 2 ≤ 16) (by decide) (2 ^ 63 - 1)
  refine ⟨hfinite, (toRat_eq_iff hfinite).2 ⟨hintegral, by decide +kernel⟩, ?_, fun h => ?_⟩
  · rw [toString_of_isIntegral _ hintegral (by decide) (by decide) (by decide), hword, htext]
  · rw [htext] at hdenotes
    exact absurd (hdenotes.unique h) (by decide)

end NumberMethod

end TemplateExpr
