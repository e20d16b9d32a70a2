import Mathlib.Data.String.Basic
import TemplateExpr.Span
import TemplateExpr.Text.Utf8

/-!
# Byte offsets

`byteLength` is the length of the UTF-8 form of a text. Cutting a text at the byte offset where one
of its parts ends gives that part. The offsets where characters start, and where the text ends, are
its boundaries; a span is a range of the text (`Span.IsRange`) if both ends are boundaries.
-/

namespace TemplateExpr.Text

theorem byteLength_eq_utf8Len (cs : List Char) : byteLength cs = String.utf8Len cs := by
  have hshift (n : Nat) : cs.foldl (fun n c => n + c.utf8Size) n = n + String.utf8Len cs := by
    induction cs generalizing n with
    | nil => rfl
    | cons c cs ih =>
      rw [List.foldl_cons, ih, String.utf8Len_cons]
      omega
  rw [byteLength, hshift, Nat.zero_add]

theorem byteLength_toList (s : String) : byteLength s.toList = s.utf8ByteSize := by
  rw [byteLength_eq_utf8Len, ← String.utf8ByteSize_ofList, String.ofList_toList]

@[simp] theorem byteLength_nil : byteLength [] = 0 := rfl

theorem byteLength_cons (c : Char) (cs : List Char) :
    byteLength (c :: cs) = c.utf8Size + byteLength cs := by
  rw [byteLength_eq_utf8Len, byteLength_eq_utf8Len, String.utf8Len_cons, Nat.add_comm]

theorem byteLength_append (xs ys : List Char) :
    byteLength (xs ++ ys) = byteLength xs + byteLength ys := by
  simp only [byteLength_eq_utf8Len, String.utf8Len_append]

theorem byteLength_pos {cs : List Char} (h : cs ≠ []) : 0 < byteLength cs := by
  obtain ⟨c, cs, rfl⟩ := List.exists_cons_of_ne_nil h
  rw [byteLength_cons]
  exact Nat.add_pos_left c.utf8Size_pos _

/-- Characters that are left out of a text make it no longer. -/
theorem byteLength_le_of_sublist {xs ys : List Char} (h : xs.Sublist ys) :
    byteLength xs ≤ byteLength ys := by
  induction h with
  | slnil => exact Nat.le_refl 0
  | cons c _ ih =>
    rw [byteLength_cons]
    omega
  | cons_cons c _ ih =>
    rw [byteLength_cons, byteLength_cons]
    omega

theorem byteLength_reverse (cs : List Char) : byteLength cs.reverse = byteLength cs := by
  induction cs with
  | nil => rfl
  | cons c cs ih =>
    rw [List.reverse_cons, byteLength_append, ih, byteLength_cons, byteLength_cons, byteLength_nil]
    omega

theorem byteLength_le_mul_length (cs : List Char) : byteLength cs ≤ 4 * cs.length := by
  induction cs with
  | nil => exact Nat.le_refl 0
  | cons c cs ih =>
    have hc := c.utf8Size_le_four
    rw [byteLength_cons, List.length_cons]
    omega

theorem length_le_byteLength (cs : List Char) : cs.length ≤ byteLength cs := by
  induction cs with
  | nil => exact Nat.le_refl 0
  | cons c cs ih =>
    have hc := c.utf8Size_pos
    rw [byteLength_cons, List.length_cons]
    omega

theorem utf8ByteSize_ofList (cs : List Char) : (String.ofList cs).utf8ByteSize = byteLength cs := by
  rw [String.utf8ByteSize_ofList, byteLength_eq_utf8Len]

theorem dropBytes_append (xs ys : List Char) : dropBytes (byteLength xs) (xs ++ ys) = ys := by
  induction xs with
  | nil => cases ys <;> rfl
  | cons c xs ih =>
    have hpos : byteLength (c :: xs) ≠ 0 := Nat.ne_of_gt (byteLength_pos (List.cons_ne_nil c xs))
    rw [List.cons_append, dropBytes, if_neg hpos, byteLength_cons, Nat.add_sub_cancel_left, ih]

theorem takeBytes_append (xs ys : List Char) : takeBytes (byteLength xs) (xs ++ ys) = xs := by
  induction xs with
  | nil => cases ys <;> rfl
  | cons c xs ih =>
    have hpos : byteLength (c :: xs) ≠ 0 := Nat.ne_of_gt (byteLength_pos (List.cons_ne_nil c xs))
    rw [List.cons_append, takeBytes, if_neg hpos, byteLength_cons, Nat.add_sub_cancel_left, ih]

/-- The part of a text between what stands before it and what stands behind it. -/
theorem betweenBytes_append (before text after : List Char) :
    betweenBytes (before ++ (text ++ after)) (byteLength before)
      (byteLength before + byteLength text) = text := by
  rw [betweenBytes, dropBytes_append, Nat.add_sub_cancel_left, takeBytes_append]

/-- Of two beginnings of a text, the shorter one starts the longer one. -/
theorem exists_of_append_eq {xs ys us vs : List Char} (h : xs ++ ys = us ++ vs)
    (hle : byteLength xs ≤ byteLength us) : ∃ ws, us = xs ++ ws ∧ ys = ws ++ vs := by
  rcases List.append_eq_append_iff.1 h with ⟨ws, rfl, rfl⟩ | ⟨ws, rfl, rfl⟩
  · exact ⟨ws, rfl, rfl⟩
  · obtain rfl : ws = [] := by
      by_contra hne
      have hpos := byteLength_pos hne
      rw [byteLength_append] at hle
      omega
    exact ⟨[], by simp, rfl⟩

/-! ### Boundaries -/

/-- The boundaries of a text are the lengths of its beginnings. -/
theorem isBoundary_iff {n : Nat} {cs : List Char} :
    isBoundary n cs = true ↔ ∃ before after, cs = before ++ after ∧ n = byteLength before := by
  induction cs generalizing n with
  | nil =>
    rw [isBoundary, beq_iff_eq]
    constructor
    · rintro rfl
      exact ⟨[], [], rfl, rfl⟩
    · rintro ⟨before, after, hnil, rfl⟩
      rw [(List.append_eq_nil_iff.1 hnil.symm).1, byteLength_nil]
  | cons c cs ih =>
    rw [isBoundary, Bool.or_eq_true, Bool.and_eq_true, beq_iff_eq, decide_eq_true_eq, ih]
    constructor
    · rintro (rfl | ⟨hle, before, after, rfl, hn⟩)
      · exact ⟨[], c :: cs, rfl, rfl⟩
      · refine ⟨c :: before, after, rfl, ?_⟩
        rw [byteLength_cons]
        omega
    · rintro ⟨before, after, hsplit, rfl⟩
      cases before with
      | nil => exact .inl rfl
      | cons d before =>
        obtain ⟨rfl, rfl⟩ := List.cons.inj hsplit
        rw [byteLength_cons]
        exact .inr ⟨Nat.le_add_right _ _, before, after, rfl, Nat.add_sub_cancel_left _ _⟩

theorem isBoundary_zero (cs : List Char) : isBoundary 0 cs = true :=
  isBoundary_iff.2 ⟨[], cs, rfl, rfl⟩

theorem isBoundary_byteLength (cs : List Char) : isBoundary (byteLength cs) cs = true :=
  isBoundary_iff.2 ⟨cs, [], (List.append_nil cs).symm, rfl⟩

theorem le_of_isBoundary {n : Nat} {cs : List Char} (h : isBoundary n cs = true) :
    n ≤ byteLength cs := by
  obtain ⟨before, after, rfl, rfl⟩ := isBoundary_iff.1 h
  rw [byteLength_append]
  exact Nat.le_add_right _ _

/-- A boundary of a part of a text is one of the text. -/
theorem isBoundary_shift {n : Nat} {cs : List Char} (h : isBoundary n cs = true)
    (before after : List Char) :
    isBoundary (n + byteLength before) (before ++ cs ++ after) = true := by
  obtain ⟨start, stop, rfl, rfl⟩ := isBoundary_iff.1 h
  refine isBoundary_iff.2 ⟨before ++ start, stop ++ after, ?_, ?_⟩
  · simp only [List.append_assoc]
  · rw [byteLength_append, Nat.add_comm]

end TemplateExpr.Text

/-! ### Ranges -/

namespace TemplateExpr

open TemplateExpr.Text

namespace Span

/-- The span is a range of the text: it does not stop in front of its start, and both are places
where characters start, or where the text ends. -/
structure IsRange (text : List Char) (s : Span) : Prop where
  start_le_stop : s.start ≤ s.stop
  start : isBoundary s.start text = true
  stop : isBoundary s.stop text = true

instance (text : List Char) (s : Span) : Decidable (s.IsRange text) :=
  decidable_of_iff
    (s.start ≤ s.stop ∧ isBoundary s.start text = true ∧ isBoundary s.stop text = true)
    ⟨fun h => ⟨h.1, h.2.1, h.2.2⟩, fun h => ⟨h.start_le_stop, h.start, h.stop⟩⟩

variable {s : Span} {cs : List Char}

theorem isRange_append (before text after : List Char) :
    IsRange (before ++ text ++ after)
      ⟨byteLength before, byteLength before + byteLength text⟩ where
  start_le_stop := Nat.le_add_right _ _
  start := isBoundary_iff.2 ⟨before, text ++ after, List.append_assoc .., rfl⟩
  stop := isBoundary_iff.2 ⟨before ++ text, after, rfl, (byteLength_append ..).symm⟩

/-- A range of a text has a part of the text in it. -/
theorem IsRange.exists_part (h : s.IsRange cs) :
    ∃ before text after, cs = before ++ text ++ after ∧ byteLength before = s.start ∧
      byteLength before + byteLength text = s.stop := by
  obtain ⟨before, rest, hstart, hbefore⟩ := isBoundary_iff.1 h.start
  obtain ⟨upTo, after, hstop, hupTo⟩ := isBoundary_iff.1 h.stop
  rcases List.prefix_or_prefix_of_prefix ⟨rest, hstart.symm⟩ ⟨after, hstop.symm⟩ with
    ⟨text, rfl⟩ | ⟨more, rfl⟩
  · exact ⟨before, text, after, hstop, hbefore.symm, by rw [hupTo, byteLength_append]⟩
  · -- the start lies behind the stop only if nothing is between them
    have hle := h.start_le_stop
    rw [hbefore, hupTo, byteLength_append] at hle
    have hmore : byteLength more = 0 := by omega
    refine ⟨upTo ++ more, [], rest, by rw [List.append_nil, hstart], hbefore.symm, ?_⟩
    rw [hupTo, byteLength_append, hmore]
    rfl

/-- A range of a part of a text is one of the text. -/
theorem IsRange.shift (h : s.IsRange cs) (before after : List Char) :
    (s.shift (byteLength before)).IsRange (before ++ cs ++ after) where
  start_le_stop := Nat.add_le_add_right h.start_le_stop _
  start := isBoundary_shift h.start before after
  stop := isBoundary_shift h.stop before after

end Span

end TemplateExpr
