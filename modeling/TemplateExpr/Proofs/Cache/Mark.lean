import Mathlib.Data.List.DropRight
import TemplateExpr.Proofs.Cache.Key

/-!
# Loose blanks

A blank is loose if it stands outside the quoted texts of its text: a normal form keeps one space of
a run of loose blanks and everything else. `marks` writes down which characters are loose blanks,
and `squeeze` does to a marked text what the normal form does to the text.
-/

namespace TemplateExpr.Cache

open TemplateExpr.Text

/-- A character and whether it is a loose blank. -/
abbrev Mark := Char × Bool

/-- The characters of a text, and which of them are loose blanks. -/
def marks (cs : List Char) : List Mark :=
  match cs with
  | [] => []
  | c :: cs =>
    if isQuote c then
      have := length_spanQuoted c cs
      (c, false) :: ((spanQuoted c cs).1.map (·, false) ++ marks (spanQuoted c cs).2)
    else (c, isBlank c) :: marks cs
termination_by cs.length
decreasing_by all_goals simp only [List.length_cons]; omega

/-- A marked text with a single space in the place of each run of loose blanks. -/
def squeeze : List Mark → List Mark
  | [] => []
  | m :: ms =>
    if m.2 then if ms.head?.any Prod.snd then squeeze ms else (' ', true) :: squeeze ms
    else m :: squeeze ms

/-- Only blanks are marked as loose. -/
def MarksBlanks (ms : List Mark) : Prop := ∀ m ∈ ms, m.2 = true → isBlank m.1 = true

variable {c q : Char} {t cs x y : List Char} {m : Mark} {ms ms' : List Mark}

/-! ### Marked texts -/

theorem map_fst_marks (cs : List Char) : (marks cs).map Prod.fst = cs := by
  fun_induction marks cs with
  | case1 => rfl
  | case2 c cs _ _ ih =>
    have hfst : (Prod.fst ∘ fun c : Char => (c, false)) = id := rfl
    rw [List.map_cons, List.map_append, List.map_map, hfst, List.map_id, ih, spanQuoted_append_eq]
  | case3 c cs _ ih => rw [List.map_cons, ih]

theorem marksBlanks_marks (cs : List Char) : MarksBlanks (marks cs) := by
  fun_induction marks cs with
  | case1 => exact fun m hm => by cases hm
  | case2 c cs _ _ ih =>
    intro m hm hloose
    rcases List.mem_cons.1 hm with rfl | hm
    · cases hloose
    · rcases List.mem_append.1 hm with hm | hm
      · obtain ⟨d, -, rfl⟩ := List.mem_map.1 hm
        cases hloose
      · exact ih m hm hloose
  | case3 c cs _ ih =>
    intro m hm hloose
    rcases List.mem_cons.1 hm with rfl | hm
    · exact hloose
    · exact ih m hm hloose

theorem marks_quote (hq : isQuote q = true) (cs : List Char) :
    marks (q :: cs) =
      (q, false) :: ((spanQuoted q cs).1.map (·, false) ++ marks (spanQuoted q cs).2) := by
  rw [marks, if_pos hq]

theorem marks_other (hq : isQuote c = false) (cs : List Char) :
    marks (c :: cs) = (c, isBlank c) :: marks cs := by
  rw [marks, if_neg (by simp [hq])]

/-! ### Squeezing -/

theorem squeeze_keep (h : m.2 = false) (ms : List Mark) : squeeze (m :: ms) = m :: squeeze ms := by
  rw [squeeze, if_neg (by simp [h])]

theorem squeeze_loose (h : m.2 = true) (ms : List Mark) :
    squeeze (m :: ms) =
      if ms.head?.any Prod.snd then squeeze ms else (' ', true) :: squeeze ms := by
  rw [squeeze, if_pos h]

theorem squeeze_kept_append {ks : List Mark} (h : ∀ m ∈ ks, m.2 = false) (ms : List Mark) :
    squeeze (ks ++ ms) = ks ++ squeeze ms := by
  induction ks with
  | nil => rfl
  | cons k ks ih =>
    rw [List.cons_append, squeeze_keep (h k List.mem_cons_self),
      ih fun m hm => h m (List.mem_cons_of_mem _ hm)]
    rfl

theorem squeeze_of_kept (h : ∀ m ∈ ms, m.2 = false) : squeeze ms = ms := by
  have hsame := squeeze_kept_append h []
  rwa [List.append_nil, squeeze, List.append_nil] at hsame

theorem exists_squeeze_loose (h : m.2 = true) (ms : List Mark) :
    ∃ ks, squeeze (m :: ms) = (' ', true) :: ks := by
  induction ms generalizing m with
  | nil => exact ⟨[], squeeze_loose h []⟩
  | cons l ms ih =>
    rw [squeeze_loose h]
    split
    next hl => exact ih hl
    next => exact ⟨_, rfl⟩

theorem squeeze_eq_nil (h : squeeze ms = []) : ms = [] := by
  induction ms with
  | nil => rfl
  | cons m ms ih =>
    cases hm : m.2 with
    | false => rw [squeeze_keep hm] at h; cases h
    | true =>
      rw [squeeze_loose hm] at h
      split at h
      next hhead => rw [ih h] at hhead; cases hhead
      next => cases h

/-- A run of loose blanks is squeezed to the space in front of what follows it. -/
theorem squeeze_blank (hc : isBlank c = true) {d : Char} {ds : List Char}
    (h : trimStart cs = d :: ds) :
    squeeze (marks (c :: cs)) = (' ', true) :: squeeze (marks (d :: ds)) := by
  have hquote {c : Char} (hc : isBlank c = true) : isQuote c = false := by
    cases hq : isQuote c with
    | false => rfl
    | true => rw [isBlank_of_isQuote hq] at hc; cases hc
  induction cs generalizing c with
  | nil => cases h
  | cons b cs ih =>
    rw [marks_other (hquote hc), squeeze_loose hc]
    cases hb : isBlank b with
    | true =>
      rw [trimStart_cons_of_blank hb] at h
      have hhead : (marks (b :: cs)).head?.any Prod.snd = true := by
        rw [marks_other (hquote hb)]; exact hb
      rw [if_pos hhead, ih hb h]
    | false =>
      rw [trimStart_cons_of_not_blank hb] at h
      obtain ⟨rfl, rfl⟩ := List.cons.inj h
      have hhead : (marks (b :: cs)).head?.any Prod.snd = false := by
        cases hq : isQuote b with
        | true => rw [marks_quote hq]; rfl
        | false => rw [marks_other hq]; exact hb
      rw [if_neg (by simp [hhead])]

theorem trimEnd_append_eq {a b : List Char} (h : trimEnd (a ++ b) = a ++ b) : trimEnd b = b := by
  induction a with
  | nil => exact h
  | cons c a ih =>
    rw [List.cons_append, trimEnd_cons] at h
    split at h
    · cases h
    · exact ih (List.cons.inj h).2

/-- The marks of a normal form are the squeezed marks of the text. -/
theorem marks_collapse (h : trimEnd cs = cs) : marks (collapse cs) = squeeze (marks cs) := by
  induction hn : cs.length using Nat.strongRecOn generalizing cs with
  | ind n ih =>
    subst hn
    cases cs with
    | nil => rw [collapse_nil, marks]; rfl
    | cons c cs =>
      have hcs : trimEnd cs = cs := trimEnd_append_eq (a := [c]) h
      have hlength : (trimStart cs).length ≤ cs.length :=
        (List.dropWhile_sublist _).length_le
      cases hb : isBlank c with
      | true =>
        rw [collapse_blank hb]
        split
        next hnil =>
          rw [trimEnd_cons, if_pos ⟨hb, (trimStart_eq_nil_iff cs).1 hnil⟩] at h
          cases h
        next hne =>
          obtain ⟨d, ds, hds⟩ := List.exists_cons_of_ne_nil hne
          have hend : trimEnd (d :: ds) = d :: ds := by
            rw [← hds, ← trimStart_trimEnd, hcs]
          rw [hds] at hlength ⊢
          rw [squeeze_blank hb hds, marks_other rfl,
            ih _ (Nat.lt_succ_of_le hlength) hend rfl]
          rfl
      | false =>
        cases hq : isQuote c with
        | true =>
          have hspan := spanQuoted_append_eq c cs
          have hend : trimEnd (spanQuoted c cs).2 = (spanQuoted c cs).2 := by
            rw [← hspan] at hcs
            exact trimEnd_append_eq hcs
          have hrest : (spanQuoted c cs).2.length < (c :: cs).length :=
            Nat.lt_succ_of_le (length_spanQuoted c cs)
          rw [collapse_quote hq, marks_quote hq, marks_quote hq, squeeze_keep rfl,
            squeeze_kept_append, spanQuoted_collapse hq, ih _ hrest hend rfl]
          intro m hm
          obtain ⟨d, -, rfl⟩ := List.mem_map.1 hm
          rfl
        | false =>
          rw [collapse_plain hb hq, marks_other hq, marks_other hq, squeeze_keep hb,
            ih _ (Nat.lt_succ_self _) hcs rfl]

/-- Texts with the same normal form have the same marks up to the length of loose runs. -/
theorem squeeze_marks_eq (h : normalize x = normalize y) :
    squeeze (marks (trim x)) = squeeze (marks (trim y)) := by
  have hend (cs : List Char) : trimEnd (trim cs) = trim cs := List.rdropWhile_idempotent _ _
  rw [← marks_collapse (hend x), ← marks_collapse (hend y)]
  exact congrArg marks h

/-! ### Cutting marked texts -/

variable {p : Mark → Bool}

theorem head?_takeWhile_loose (hp : ∀ m ∈ ms, m.2 = true → p m = true) :
    (ms.takeWhile p).head?.any Prod.snd = ms.head?.any Prod.snd := by
  cases ms with
  | nil => rfl
  | cons m ms =>
    cases hm : p m with
    | true => rw [List.takeWhile_cons_of_pos hm]; rfl
    | false =>
      rw [List.takeWhile_cons_of_neg (by simp [hm])]
      cases hloose : m.2 with
      | false => exact hloose.symm
      | true => rw [hp m List.mem_cons_self hloose] at hm; cases hm

/-- A class with all loose blanks is cut off at the same place of a squeezed text. -/
theorem takeWhile_squeeze (hspace : p (' ', true) = true)
    (hp : ∀ m ∈ ms, m.2 = true → p m = true) :
    (squeeze ms).takeWhile p = squeeze (ms.takeWhile p) := by
  induction ms with
  | nil => rfl
  | cons m ms ih =>
    have hp' : ∀ m ∈ ms, m.2 = true → p m = true := fun m hm => hp m (List.mem_cons_of_mem _ hm)
    cases hloose : m.2 with
    | true =>
      rw [List.takeWhile_cons_of_pos (hp m List.mem_cons_self hloose), squeeze_loose hloose,
        squeeze_loose hloose, head?_takeWhile_loose hp']
      split
      · exact ih hp'
      · rw [List.takeWhile_cons_of_pos hspace, ih hp']
    | false =>
      rw [squeeze_keep hloose]
      cases hm : p m with
      | true =>
        rw [List.takeWhile_cons_of_pos hm, List.takeWhile_cons_of_pos hm, squeeze_keep hloose,
          ih hp']
      | false =>
        rw [List.takeWhile_cons_of_neg (by simp [hm]), List.takeWhile_cons_of_neg (by simp [hm])]
        rfl

theorem dropWhile_squeeze (hspace : p (' ', true) = true)
    (hp : ∀ m ∈ ms, m.2 = true → p m = true) :
    (squeeze ms).dropWhile p = squeeze (ms.dropWhile p) := by
  induction ms with
  | nil => rfl
  | cons m ms ih =>
    have hp' : ∀ m ∈ ms, m.2 = true → p m = true := fun m hm => hp m (List.mem_cons_of_mem _ hm)
    cases hloose : m.2 with
    | true =>
      rw [List.dropWhile_cons_of_pos (hp m List.mem_cons_self hloose), squeeze_loose hloose]
      split
      · exact ih hp'
      · rw [List.dropWhile_cons_of_pos hspace, ih hp']
    | false =>
      rw [squeeze_keep hloose]
      cases hm : p m with
      | true => rw [List.dropWhile_cons_of_pos hm, List.dropWhile_cons_of_pos hm, ih hp']
      | false =>
        rw [List.dropWhile_cons_of_neg (by simp [hm]), List.dropWhile_cons_of_neg (by simp [hm]),
          squeeze_keep hloose]

theorem squeeze_append_keep (h : m.2 = false) (ms : List Mark) :
    squeeze (ms ++ [m]) = squeeze ms ++ [m] := by
  induction ms with
  | nil => exact squeeze_keep h []
  | cons k ms ih =>
    cases hk : k.2 with
    | false =>
      rw [List.cons_append, squeeze_keep hk, squeeze_keep hk, ih]
      rfl
    | true =>
      have hhead : (ms ++ [m]).head?.any Prod.snd = ms.head?.any Prod.snd := by
        cases ms with
        | nil => exact h
        | cons k ms => rfl
      rw [List.cons_append, squeeze_loose hk, squeeze_loose hk, hhead, ih]
      split <;> rfl

theorem squeeze_append_loose (h : m.2 = true) (ms : List Mark) :
    squeeze (ms ++ [m]) = squeeze ms ∨ squeeze (ms ++ [m]) = squeeze ms ++ [(' ', true)] := by
  induction ms with
  | nil => exact Or.inr (squeeze_loose h [])
  | cons k ms ih =>
    cases hk : k.2 with
    | false =>
      rw [List.cons_append, squeeze_keep hk, squeeze_keep hk]
      rcases ih with ih | ih <;> rw [ih]
      · exact Or.inl rfl
      · exact Or.inr rfl
    | true =>
      cases ms with
      | nil => exact Or.inl (by simp [squeeze, hk, h])
      | cons l ms =>
        have hhead : (l :: ms ++ [m]).head?.any Prod.snd = (l :: ms).head?.any Prod.snd := rfl
        rw [List.cons_append, squeeze_loose hk, squeeze_loose hk, hhead]
        rcases ih with ih | ih
        · rw [ih]
          exact Or.inl rfl
        · rw [ih]
          right
          split <;> rfl

theorem rdropWhile_squeeze (hspace : p (' ', true) = true)
    (hp : ∀ m ∈ ms, m.2 = true → p m = true) :
    (squeeze ms).rdropWhile p = squeeze (ms.rdropWhile p) := by
  induction ms using List.reverseRecOn with
  | nil => rfl
  | append_singleton ms m ih =>
    have hp' : ∀ m ∈ ms, m.2 = true → p m = true := fun m hm => hp m (List.mem_append_left _ hm)
    cases hloose : m.2 with
    | false =>
      rw [squeeze_append_keep hloose]
      cases hm : p m with
      | true =>
        rw [List.rdropWhile_concat_pos _ _ _ hm, List.rdropWhile_concat_pos _ _ _ hm, ih hp']
      | false =>
        rw [List.rdropWhile_concat_neg _ _ _ (by simp [hm]),
          List.rdropWhile_concat_neg _ _ _ (by simp [hm]), squeeze_append_keep hloose]
    | true =>
      rw [List.rdropWhile_concat_pos _ _ _ (hp m (by simp) hloose), ← ih hp']
      rcases squeeze_append_loose hloose ms with h | h <;> rw [h]
      rw [List.rdropWhile_concat_pos _ _ _ hspace]

end TemplateExpr.Cache
