import Mathlib.Order.Bounds.Basic
import TemplateExpr.Text.Search

/-!
# Stripping, searching, cutting and replacing

What is stripped off a text are the blanks at its ends.

`OccursAt needle cs i` says that `needle` stands at position `i` of `cs`. The search from the left
finds the least of these positions (`indexOf?_eq_some_iff`), the search from the right the greatest
one (`lastIndexOf?_eq_some_iff`).

Cutting and replacing pass over the same occurrences, from left to right and without overlap. So a
text is replaced by joining the pieces between its occurrences with the new one
(`replaceAll_eq_joinWith`), and joining them with the old one gives the text back
(`joinWith_splitOn`).
-/

namespace TemplateExpr.Text

variable {needle cs : List Char} {c d : Char} {i k : Nat}

/-! ### Stripping -/

@[simp] theorem trimEnd_nil : trimEnd [] = [] := rfl

theorem trimEnd_cons (c : Char) (cs : List Char) :
    trimEnd (c :: cs) = if isBlank c = true ∧ trimEnd cs = [] then [] else c :: trimEnd cs := by
  unfold trimEnd
  rw [List.reverse_cons, List.dropWhile_append]
  cases hrest : cs.reverse.dropWhile isBlank with
  | nil => cases hc : isBlank c <;> simp [List.dropWhile, hc]
  | cons d ds => simp

theorem trimEnd_cons_of_not_blank (h : isBlank c = false) :
    trimEnd (c :: cs) = c :: trimEnd cs := by
  rw [trimEnd_cons, if_neg (by simp [h])]

theorem trimEnd_cons_of_ne_nil (h : trimEnd cs ≠ []) : trimEnd (c :: cs) = c :: trimEnd cs := by
  rw [trimEnd_cons, if_neg (fun h' => h h'.2)]

/-- What is stripped off stood at the end. -/
theorem exists_eq_trimEnd_append (cs : List Char) : ∃ bs, cs = trimEnd cs ++ bs := by
  induction cs with
  | nil => exact ⟨[], rfl⟩
  | cons c cs ih =>
    obtain ⟨bs, hbs⟩ := ih
    rw [trimEnd_cons]
    split
    · exact ⟨c :: cs, rfl⟩
    · exact ⟨bs, congrArg (c :: ·) hbs⟩

theorem mem_of_trimEnd_eq_nil {c : Char} (h : trimEnd cs = []) (hc : c ∈ cs) :
    isBlank c = true := by
  induction cs with
  | nil => cases hc
  | cons d cs ih =>
    rw [trimEnd_cons] at h
    split at h
    next hd =>
      rcases List.mem_cons.1 hc with rfl | hc
      · exact hd.1
      · exact ih hd.2 hc
    next => cases h

theorem trimStart_cons_of_not_blank (h : isBlank c = false) : trimStart (c :: cs) = c :: cs := by
  simp [trimStart, List.dropWhile, h]

theorem trimStart_cons_of_blank (h : isBlank c = true) :
    trimStart (c :: cs) = trimStart cs := by
  simp [trimStart, List.dropWhile, h]

/-- A text without blanks at its start is empty or starts with another character. -/
theorem trimStart_cases (cs : List Char) :
    trimStart cs = [] ∨ ∃ c rest, trimStart cs = c :: rest ∧ isBlank c = false := by
  induction cs with
  | nil => exact Or.inl rfl
  | cons c cs ih =>
    cases hc : isBlank c with
    | false => exact Or.inr ⟨c, cs, trimStart_cons_of_not_blank hc, hc⟩
    | true => rwa [trimStart_cons_of_blank hc]

theorem trimStart_eq_nil_iff (cs : List Char) : trimStart cs = [] ↔ trimEnd cs = [] := by
  induction cs with
  | nil => exact ⟨fun _ => rfl, fun _ => rfl⟩
  | cons c cs ih =>
    cases hc : isBlank c with
    | false =>
      rw [trimStart_cons_of_not_blank hc, trimEnd_cons_of_not_blank hc]
      exact ⟨fun h => (by cases h), fun h => (by cases h)⟩
    | true =>
      rw [trimStart_cons_of_blank hc, ih, trimEnd_cons]
      constructor
      · intro h
        rw [if_pos ⟨hc, h⟩]
      · intro h
        split at h
        next hempty => exact hempty.2
        next => cases h

theorem trimStart_trimEnd (cs : List Char) : trimStart (trimEnd cs) = trimEnd (trimStart cs) := by
  induction cs with
  | nil => rfl
  | cons c cs ih =>
    cases hc : isBlank c with
    | false =>
      rw [trimEnd_cons_of_not_blank hc, trimStart_cons_of_not_blank hc,
        trimStart_cons_of_not_blank hc, trimEnd_cons_of_not_blank hc]
    | true =>
      rw [trimStart_cons_of_blank hc, ← ih, trimEnd_cons]
      split
      next h => rw [h.2]
      next => rw [trimStart_cons_of_blank hc]

/-- A text with other characters at both ends. -/
theorem trim_between (hc : isBlank c = false) (hd : isBlank d = false) :
    trim (c :: (cs ++ [d])) = c :: (cs ++ [d]) := by
  rw [trim, trimStart_cons_of_not_blank hc, trimEnd_cons_of_not_blank hc, trimEnd]
  simp [hd]

theorem mem_of_mem_trim (hc : c ∈ trim cs) : c ∈ cs := by
  obtain ⟨bs, hbs⟩ := exists_eq_trimEnd_append (trimStart cs)
  have hstart : c ∈ trimStart cs := by
    rw [hbs]
    exact List.mem_append_left bs hc
  exact (List.dropWhile_sublist isBlank).subset hstart

/-! ### Occurrences -/

/-- `needle` is the part of `cs` from position `i` on that is as long as `needle`. -/
def OccursAt (needle cs : List Char) (i : Nat) : Prop :=
  i ≤ cs.length ∧ between cs i (i + needle.length) = needle

instance : Decidable (OccursAt needle cs i) :=
  inferInstanceAs (Decidable (_ ∧ _))

theorem occursAt_iff : OccursAt needle cs i ↔ i ≤ cs.length ∧ needle <+: cs.drop i := by
  rw [OccursAt, between, Nat.add_sub_cancel_left, List.prefix_iff_eq_take, eq_comm]

theorem occursAt_zero : OccursAt needle cs 0 ↔ needle <+: cs := by
  rw [occursAt_iff, List.drop_zero]
  exact ⟨fun h => h.2, fun h => ⟨Nat.zero_le _, h⟩⟩

theorem occursAt_succ : OccursAt needle (c :: cs) (i + 1) ↔ OccursAt needle cs i := by
  rw [occursAt_iff, occursAt_iff, List.drop_succ_cons, List.length_cons, Nat.add_le_add_iff_right]

theorem OccursAt.add_length_le (h : OccursAt needle cs i) : i + needle.length ≤ cs.length := by
  obtain ⟨hi, hprefix⟩ := occursAt_iff.1 h
  have hle := hprefix.length_le
  rw [List.length_drop] at hle
  omega

/-- A text occurs where it stands between two others. -/
theorem occursAt_append (front needle rest : List Char) :
    OccursAt needle (front ++ needle ++ rest) front.length := by
  rw [occursAt_iff, List.append_assoc, List.drop_left, List.length_append]
  exact ⟨Nat.le_add_right _ _, List.prefix_append needle rest⟩

theorem OccursAt.exists_append (h : OccursAt needle cs i) :
    cs = cs.take i ++ needle ++ cs.drop (i + needle.length) := by
  obtain ⟨rest, hrest⟩ := (occursAt_iff.1 h).2
  have hdrop : cs.drop (i + needle.length) = rest := by
    rw [← List.drop_drop, ← hrest, List.drop_left]
  rw [hdrop, List.append_assoc, hrest, List.take_append_drop]

/-- A text that is a part of another occurs somewhere in it. -/
theorem exists_occursAt_iff : (∃ i, OccursAt needle cs i) ↔ needle <:+: cs := by
  constructor
  · rintro ⟨i, h⟩
    exact ⟨_, _, h.exists_append.symm⟩
  · rintro ⟨front, rest, rfl⟩
    exact ⟨_, occursAt_append front needle rest⟩

/-- The positions behind the first one are those of the rest. -/
theorem forall_occursAt_cons {p : Nat → Prop} :
    (∀ k, OccursAt needle (c :: cs) k → p k) ↔
      (needle <+: c :: cs → p 0) ∧ ∀ k, OccursAt needle cs k → p (k + 1) := by
  constructor
  · exact fun h => ⟨fun h0 => h 0 (occursAt_zero.2 h0), fun k hk => h (k + 1) (occursAt_succ.2 hk)⟩
  · rintro ⟨hzero, hsucc⟩ (_ | k) hk
    · exact hzero (occursAt_zero.1 hk)
    · exact hsucc k (occursAt_succ.1 hk)

theorem forall_occursAt_nil {p : Nat → Prop} :
    (∀ k, OccursAt needle [] k → p k) ↔ (needle = [] → p 0) := by
  constructor
  · rintro h rfl
    exact h 0 (occursAt_zero.2 (List.prefix_refl []))
  · intro h k hk
    obtain rfl : k = 0 := Nat.le_zero.1 hk.1
    exact h (List.prefix_nil.1 (occursAt_zero.1 hk))

/-! ### Searching -/

/-- The search from position `n` on gives the least position, or nothing if there is none. -/
theorem indexFrom?_spec (needle : List Char) (n : Nat) (cs : List Char) :
    (∃ i, IsLeast {k | OccursAt needle cs k} i ∧ indexFrom? needle n cs = some (n + i)) ∨
      (∀ k, ¬OccursAt needle cs k) ∧ indexFrom? needle n cs = none := by
  induction cs generalizing n with
  | nil =>
    rw [indexFrom?]
    split
    · next h =>
      obtain rfl := List.isEmpty_iff.1 h
      exact .inl ⟨0, ⟨occursAt_zero.2 (List.prefix_refl []), fun k _ => Nat.zero_le k⟩, rfl⟩
    · next h => exact .inr ⟨forall_occursAt_nil.2 fun hnil => h (List.isEmpty_iff.2 hnil), rfl⟩
  | cons c cs ih =>
    rw [indexFrom?]
    split
    · next h =>
      exact .inl ⟨0, ⟨occursAt_zero.2 (List.isPrefixOf_iff_prefix.1 h), fun k _ => Nat.zero_le k⟩,
        rfl⟩
    · next h =>
      have hzero : ¬needle <+: c :: cs := fun h0 => h (List.isPrefixOf_iff_prefix.2 h0)
      obtain ⟨i, ⟨hi, hleast⟩, hfound⟩ | ⟨hnone, hfound⟩ := ih (n + 1)
      · refine .inl ⟨i + 1, ⟨occursAt_succ.2 hi, forall_occursAt_cons.2 ⟨fun h0 => absurd h0 hzero,
          fun k hk => Nat.succ_le_succ (hleast hk)⟩⟩, ?_⟩
        rw [hfound, Nat.add_assoc, Nat.add_comm 1]
      · exact .inr ⟨forall_occursAt_cons.2 ⟨hzero, hnone⟩, hfound⟩

/-- The search for the last position gives the greatest one, or what has been found before. -/
theorem lastIndexFrom?_spec (needle : List Char) (n : Nat) (found : Option Nat) (cs : List Char) :
    (∃ j, IsGreatest {k | OccursAt needle cs k} j ∧
        lastIndexFrom? needle n found cs = some (n + j)) ∨
      (∀ k, ¬OccursAt needle cs k) ∧ lastIndexFrom? needle n found cs = found := by
  induction cs generalizing n found with
  | nil =>
    rw [lastIndexFrom?]
    split
    · next h =>
      obtain rfl := List.isEmpty_iff.1 h
      exact .inl ⟨0, ⟨occursAt_zero.2 (List.prefix_refl []), fun k hk => hk.1⟩, rfl⟩
    · next h => exact .inr ⟨forall_occursAt_nil.2 fun hnil => h (List.isEmpty_iff.2 hnil), rfl⟩
  | cons c cs ih =>
    rw [lastIndexFrom?]
    obtain ⟨j, ⟨hj, hgreatest⟩, hfound⟩ | ⟨hnone, hfound⟩ :=
      ih (n + 1) (if needle.isPrefixOf (c :: cs) then some n else found)
    · refine .inl ⟨j + 1, ⟨occursAt_succ.2 hj, forall_occursAt_cons.2 ⟨fun _ => Nat.zero_le _,
        fun k hk => Nat.succ_le_succ (hgreatest hk)⟩⟩, ?_⟩
      rw [hfound, Nat.add_assoc, Nat.add_comm 1]
    · -- only the text as a whole can start with `needle`
      rw [hfound]
      split
      · next h =>
        exact .inl ⟨0, ⟨occursAt_zero.2 (List.isPrefixOf_iff_prefix.1 h),
          forall_occursAt_cons.2 ⟨fun _ => Nat.le_refl 0, fun k hk => absurd hk (hnone k)⟩⟩, rfl⟩
      · next h =>
        exact .inr ⟨forall_occursAt_cons.2
          ⟨fun h0 => h (List.isPrefixOf_iff_prefix.2 h0), hnone⟩, rfl⟩

/-- The search from the left finds the least position. -/
theorem indexOf?_eq_some_iff :
    indexOf? needle cs = some i ↔ IsLeast {k | OccursAt needle cs k} i := by
  obtain ⟨i', hleast, hfound⟩ | ⟨hnone, hfound⟩ := indexFrom?_spec needle 0 cs
  · rw [indexOf?, hfound, Nat.zero_add, Option.some_inj]
    exact ⟨fun h => h ▸ hleast, fun h => hleast.unique h⟩
  · rw [indexOf?, hfound]
    exact ⟨fun h => (nomatch h), fun h => absurd h.1 (hnone i)⟩

theorem indexOf?_eq_none_iff : indexOf? needle cs = none ↔ ∀ k, ¬OccursAt needle cs k := by
  obtain ⟨i, hleast, hfound⟩ | ⟨hnone, hfound⟩ := indexFrom?_spec needle 0 cs
  · rw [indexOf?, hfound]
    exact ⟨fun h => (nomatch h), fun h => absurd hleast.1 (h i)⟩
  · exact ⟨fun _ => hnone, fun _ => hfound⟩

/-- The search from the right finds the greatest position. -/
theorem lastIndexOf?_eq_some_iff :
    lastIndexOf? needle cs = some i ↔ IsGreatest {k | OccursAt needle cs k} i := by
  obtain ⟨j, hgreatest, hfound⟩ | ⟨hnone, hfound⟩ := lastIndexFrom?_spec needle 0 none cs
  · rw [lastIndexOf?, hfound, Nat.zero_add, Option.some_inj]
    exact ⟨fun h => h ▸ hgreatest, fun h => hgreatest.unique h⟩
  · rw [lastIndexOf?, hfound]
    exact ⟨fun h => (nomatch h), fun h => absurd h.1 (hnone i)⟩

theorem lastIndexOf?_eq_none_iff : lastIndexOf? needle cs = none ↔ ∀ k, ¬OccursAt needle cs k := by
  obtain ⟨j, hgreatest, hfound⟩ | ⟨hnone, hfound⟩ := lastIndexFrom?_spec needle 0 none cs
  · rw [lastIndexOf?, hfound]
    exact ⟨fun h => (nomatch h), fun h => absurd hgreatest.1 (h j)⟩
  · exact ⟨fun _ => hnone, fun _ => hfound⟩

theorem contains_iff : contains needle cs = true ↔ needle <:+: cs := by
  rw [contains, Option.isSome_iff_ne_none, ne_eq, indexOf?_eq_none_iff, not_forall_not,
    exists_occursAt_iff]

/-! ### Joining -/

variable {sep old new p q : List Char} {parts : List (List Char)}

/-- What is put behind the last part is put behind the text. -/
theorem joinWith_append_last (sep : List Char) (parts : List (List Char)) (p q : List Char) :
    joinWith sep (parts ++ [p ++ q]) = joinWith sep (parts ++ [p]) ++ q := by
  induction parts with
  | nil => simp [joinWith]
  | cons r parts ih =>
    rw [joinWith, joinWith] at ih ⊢
    rw [List.cons_append, List.cons_append, List.intercalate_cons_of_ne_nil (by simp),
      List.intercalate_cons_of_ne_nil (by simp), ih]
    simp only [List.append_assoc]

/-- An empty part behind the others puts a separator behind the text. -/
theorem joinWith_append_nil (sep : List Char) (parts : List (List Char)) (p : List Char) :
    joinWith sep (parts ++ [p, []]) = joinWith sep (parts ++ [p]) ++ sep := by
  induction parts with
  | nil => simp [joinWith, List.intercalate, List.intersperse]
  | cons r parts ih =>
    rw [joinWith, joinWith] at ih ⊢
    rw [List.cons_append, List.cons_append, List.intercalate_cons_of_ne_nil (by simp),
      List.intercalate_cons_of_ne_nil (by simp), ih]
    simp only [List.append_assoc]

/-! ### Cutting and replacing -/

/-- While a text is replaced, what has been written are the pieces cut so far, joined with the new
text. -/
theorem replaceLoop_eq_joinWith (old new : List Char) (skip : Nat) (piece : List Char)
    (done : List (List Char)) (cs : List Char) :
    replaceLoop old new skip (joinWith new (done.reverse ++ [piece.reverse])).reverse cs =
      joinWith new (splitLoop old skip piece done cs) := by
  induction cs generalizing skip piece done with
  | nil => rw [replaceLoop, splitLoop, List.reverse_reverse, List.reverse_cons]
  | cons c cs ih =>
    cases skip with
    | succ skip => exact ih skip piece done
    | zero =>
      rw [replaceLoop, splitLoop]
      split
      · rw [← ih, List.reverse_cons, List.append_assoc, List.reverse_nil, List.singleton_append,
          joinWith_append_nil, List.reverse_append]
      · rw [← ih, List.reverse_cons, joinWith_append_last, List.reverse_append]
        rfl

/-- A text is replaced by joining the pieces between its occurrences with the new one. -/
theorem replaceAll_eq_joinWith (hold : old ≠ []) (new cs : List Char) :
    replaceAll old new cs = joinWith new (splitOn old cs) := by
  rw [replaceAll, if_neg (by rwa [List.isEmpty_iff]), splitOn, ← replaceLoop_eq_joinWith]
  rfl

/-- A text that is replaced by itself stays as it is. -/
theorem replaceLoop_self (hold : old ≠ []) (skip : Nat) (acc cs : List Char) :
    replaceLoop old old skip acc cs = acc.reverse ++ cs.drop skip := by
  induction cs generalizing skip acc with
  | nil => rw [replaceLoop, List.drop_nil, List.append_nil]
  | cons c cs ih =>
    cases skip with
    | succ skip => exact ih skip acc
    | zero =>
      rw [replaceLoop]
      split
      · next h =>
        obtain ⟨rest, hrest⟩ := List.isPrefixOf_iff_prefix.1 h
        obtain ⟨d, more, rfl⟩ := List.exists_cons_of_ne_nil hold
        rw [List.cons_append] at hrest
        obtain ⟨rfl, rfl⟩ := List.cons.inj hrest
        rw [ih, List.length_cons, Nat.add_sub_cancel, List.drop_left, List.reverse_append,
          List.reverse_reverse, List.append_assoc]
        rfl
      · rw [ih, List.reverse_cons, List.append_assoc]
        rfl

/-- The pieces between the occurrences of a text, joined with it, are the text that was cut. -/
theorem joinWith_splitOn (hsep : sep ≠ []) (cs : List Char) :
    joinWith sep (splitOn sep cs) = cs := by
  rw [← replaceAll_eq_joinWith hsep, replaceAll, if_neg (by rwa [List.isEmpty_iff]),
    replaceLoop_self hsep]
  rfl

end TemplateExpr.Text
