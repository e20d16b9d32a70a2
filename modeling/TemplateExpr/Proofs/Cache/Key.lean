import TemplateExpr.Cache.Key
import TemplateExpr.Proofs.Text.Search

/-!
# Normal forms of texts

`settle cs` is the normal form of a text that stands behind other text. It is read from left to
right as a scanner reads it: `eq_cons_of_settle` and `settle_quote_cases` say how two texts with the
same normal form go on, with a character between quotes and blanks or with quoted text.
-/

namespace TemplateExpr.Cache

open TemplateExpr.Text

variable {c q : Char} {t cs x y : List Char}

/-! ### Quoted text -/

/-- The text within quotes, up to and including the closing mark. -/
inductive Closed (mark : Char) : List Char → Prop
  | mark : Closed mark [mark]
  | escape (d : Char) {cs : List Char} : Closed mark cs → Closed mark ('\\' :: d :: cs)
  | cons {c : Char} {cs : List Char} :
    c ≠ mark → c ≠ '\\' → Closed mark cs → Closed mark (c :: cs)

/-- The closing mark of a quoted text is missing. -/
def IsOpen (mark : Char) (cs : List Char) : Prop :=
  ∀ t rest, Closed mark t → cs ≠ t ++ rest

theorem isQuote_ne_backslash (h : isQuote q = true) : q ≠ '\\' := by
  rintro rfl
  cases h

theorem isBlank_of_isQuote (h : isQuote q = true) : isBlank q = false := by
  simp only [isQuote, Bool.or_eq_true, beq_iff_eq] at h
  obtain (rfl | rfl) | rfl := h <;> rfl

theorem spanQuoted_append_eq (q : Char) (cs : List Char) :
    (spanQuoted q cs).1 ++ (spanQuoted q cs).2 = cs := by
  fun_induction spanQuoted q cs with
  | case1 => rfl
  | case2 d cs text rest h ih => rw [h] at ih; rw [← ih]; rfl
  | case3 => rfl
  | case4 c cs _ _ text rest h ih => rw [h] at ih; rw [← ih]; rfl

theorem Closed.ne_nil (h : Closed q t) : t ≠ [] := by
  cases h <;> simp

theorem Closed.getLast? (h : Closed q t) : t.getLast? = some q := by
  induction h with
  | mark => rfl
  | escape d ht ih => rw [List.getLast?_cons_cons, List.getLast?_cons, ih]; rfl
  | cons _ _ ht ih => rw [List.getLast?_cons, ih]; rfl

/-- The mark that closes a quoted text is the first that no backslash hides. -/
theorem spanQuoted_append (hq : q ≠ '\\') (h : Closed q t) (rest : List Char) :
    spanQuoted q (t ++ rest) = (t, rest) := by
  induction h with
  | mark =>
    rw [List.singleton_append, spanQuoted.eq_3 _ _ _ (fun d cs h => absurd h hq), if_pos rfl]
  | escape d _ ih => rw [List.cons_append, List.cons_append, spanQuoted, ih]
  | cons hc hb _ ih =>
    rw [List.cons_append, spanQuoted.eq_3 _ _ _ (fun d cs h => absurd h hb), if_neg hc, ih]

/-- A text either starts with a quoted text that is closed or is one that is open. -/
theorem spanQuoted_cases (q : Char) (cs : List Char) :
    (∃ t rest, Closed q t ∧ cs = t ++ rest) ∨ IsOpen q cs ∧ spanQuoted q cs = (cs, []) := by
  by_cases h : ∃ t rest, Closed q t ∧ cs = t ++ rest
  · exact Or.inl h
  have hopen : IsOpen q cs := fun t rest ht hcs => h ⟨t, rest, ht, hcs⟩
  refine Or.inr ⟨hopen, ?_⟩
  clear h
  fun_induction spanQuoted q cs with
  | case1 => rfl
  | case2 d cs text rest hspan ih =>
    rw [hspan] at ih
    have hcs := ih fun t rest ht hcs => hopen ('\\' :: d :: t) rest (.escape d ht) (by rw [hcs]; rfl)
    cases hcs
    rfl
  | case3 cs => exact absurd rfl (hopen [q] cs .mark)
  | case4 c cs hne hc text rest hspan ih =>
    rw [hspan] at ih
    have hcs : (text, rest) = (cs, []) := by
      refine ih fun t rest ht hcs => ?_
      by_cases hb : c = '\\'
      · -- a backslash at this place is the last character
        have hcs' : cs ≠ [] := by
          rw [hcs]
          exact fun h => ht.ne_nil (List.append_eq_nil_iff.1 h).1
        obtain ⟨d, ds, hds⟩ := List.exists_cons_of_ne_nil hcs'
        exact hne d ds hb hds
      · exact hopen (c :: t) rest (.cons hc hb ht) (by rw [hcs]; rfl)
    cases hcs
    rfl

/-- A closed text is the whole quoted text, whatever follows it. -/
theorem eq_of_closed_append (hq : q ≠ '\\') {t t' r r' : List Char} (ht : Closed q t)
    (ht' : Closed q t') (h : t ++ r = t' ++ r') : t = t' ∧ r = r' := by
  have hspan := spanQuoted_append hq ht r
  rw [h, spanQuoted_append hq ht' r'] at hspan
  cases hspan
  exact ⟨rfl, rfl⟩

theorem IsOpen.trimEnd (h : IsOpen q cs) : IsOpen q (trimEnd cs) := by
  intro t rest ht hcs
  obtain ⟨bs, hbs⟩ := exists_eq_trimEnd_append cs
  exact h t (rest ++ bs) ht (by rw [hbs, hcs, List.append_assoc])

theorem Closed.trimEnd_append (hq : isBlank q = false) (h : Closed q t) (rest : List Char) :
    trimEnd (t ++ rest) = t ++ trimEnd rest := by
  induction h with
  | mark => rw [List.singleton_append, trimEnd_cons_of_not_blank hq]; rfl
  | @escape d cs ht ih =>
    have hne : Text.trimEnd (cs ++ rest) ≠ [] := by
      rw [ih]; exact fun h => ht.ne_nil (List.append_eq_nil_iff.1 h).1
    rw [List.cons_append, List.cons_append, trimEnd_cons_of_not_blank rfl,
      trimEnd_cons_of_ne_nil hne, ih]
    rfl
  | @cons c cs _ _ ht ih =>
    have hne : Text.trimEnd (cs ++ rest) ≠ [] := by
      rw [ih]; exact fun h => ht.ne_nil (List.append_eq_nil_iff.1 h).1
    rw [List.cons_append, trimEnd_cons_of_ne_nil hne, ih]
    rfl

/-! ### Normal forms behind other text -/

/-- The normal form of a text that stands behind other text and ends the whole. -/
def settle (cs : List Char) : List Char := collapse (trimEnd cs)

theorem normalize_eq_settle (cs : List Char) : normalize cs = settle (trimStart cs) := rfl

theorem collapse_nil : collapse [] = [] := by
  rw [collapse.eq_def]

theorem collapse_cons (c : Char) (cs : List Char) :
    collapse (c :: cs) =
      if isBlank c then if trimStart cs = [] then [] else ' ' :: collapse (trimStart cs)
      else if isQuote c then c :: ((spanQuoted c cs).1 ++ collapse (spanQuoted c cs).2)
      else c :: collapse cs := by
  rw [collapse.eq_def]
  dsimp only
  congr 1
  split
  next h => rw [if_pos h]
  next h => rw [if_neg (by simp [h]), h]

theorem collapse_plain (hb : isBlank c = false) (hq : isQuote c = false) (cs : List Char) :
    collapse (c :: cs) = c :: collapse cs := by
  rw [collapse_cons, if_neg (by simp [hb]), if_neg (by simp [hq])]

theorem collapse_quote (hq : isQuote q = true) (cs : List Char) :
    collapse (q :: cs) = q :: ((spanQuoted q cs).1 ++ collapse (spanQuoted q cs).2) := by
  rw [collapse_cons, if_neg (by simp [isBlank_of_isQuote hq]), if_pos hq]

theorem collapse_blank (hb : isBlank c = true) (cs : List Char) :
    collapse (c :: cs) = if trimStart cs = [] then [] else ' ' :: collapse (trimStart cs) := by
  rw [collapse_cons, if_pos hb]

@[simp] theorem settle_nil : settle [] = [] := by
  rw [settle, trimEnd_nil, collapse_nil]

theorem settle_plain (hb : isBlank c = false) (hq : isQuote c = false) (cs : List Char) :
    settle (c :: cs) = c :: settle cs := by
  rw [settle, trimEnd_cons_of_not_blank hb, collapse_plain hb hq, settle]

theorem settle_blank (hb : isBlank c = true) (cs : List Char) :
    settle (c :: cs) = if trim cs = [] then [] else ' ' :: normalize cs := by
  rw [settle, trimEnd_cons]
  split
  next h => rw [if_pos (by rw [trim, ← trimStart_trimEnd, h.2]; rfl), collapse_nil]
  next => rw [collapse_blank hb, trimStart_trimEnd]; rfl

theorem settle_closed (hq : isQuote q = true) (ht : Closed q t) (cs : List Char) :
    settle (q :: (t ++ cs)) = q :: (t ++ settle cs) := by
  have hb := isBlank_of_isQuote hq
  rw [settle, trimEnd_cons_of_not_blank hb, ht.trimEnd_append hb, collapse_quote hq,
    spanQuoted_append (isQuote_ne_backslash hq) ht, settle]

theorem settle_open (hq : isQuote q = true) (h : IsOpen q cs) :
    settle (q :: cs) = q :: trimEnd cs := by
  rw [settle, trimEnd_cons_of_not_blank (isBlank_of_isQuote hq), collapse_quote hq]
  rcases spanQuoted_cases q (trimEnd cs) with ⟨t, rest, ht, hcs⟩ | ⟨_, hcs⟩
  · exact absurd hcs (h.trimEnd t rest ht)
  · rw [hcs, collapse_nil, List.append_nil]

/-- A normal form starts with the first character of the text, unless that is a blank. -/
theorem exists_settle_eq_cons (hb : isBlank c = false) (cs : List Char) :
    ∃ s, settle (c :: cs) = c :: s := by
  cases hq : isQuote c with
  | false => exact ⟨_, settle_plain hb hq cs⟩
  | true =>
    rw [settle, trimEnd_cons_of_not_blank hb, collapse_quote hq]
    exact ⟨_, rfl⟩

/-- Without the blank at its start the normal form behind other text is that of the text alone. -/
theorem trimStart_settle (cs : List Char) : trimStart (settle cs) = normalize cs := by
  have hnormal (cs : List Char) : trimStart (normalize cs) = normalize cs := by
    rw [normalize_eq_settle]
    rcases trimStart_cases cs with h | ⟨c, rest, h, hc⟩
    · rw [h, settle_nil]; rfl
    · obtain ⟨s, hs⟩ := exists_settle_eq_cons hc rest
      rw [h, hs, trimStart_cons_of_not_blank hc]
  cases cs with
  | nil => rw [normalize_eq_settle, show trimStart [] = [] from rfl, settle_nil]; rfl
  | cons c cs =>
    cases hc : isBlank c with
    | false =>
      have h := hnormal (c :: cs)
      rwa [normalize_eq_settle, trimStart_cons_of_not_blank hc] at h ⊢
    | true =>
      have hcs : normalize (c :: cs) = normalize cs := by
        rw [normalize_eq_settle, trimStart_cons_of_blank hc, normalize_eq_settle]
      rw [settle_blank hc, hcs]
      split
      next h => rw [normalize, h, collapse_nil]; rfl
      next => rw [trimStart_cons_of_blank rfl, hnormal]

theorem normalize_eq_of_settle (h : settle x = settle y) : normalize x = normalize y := by
  rw [← trimStart_settle, h, trimStart_settle]

/-- A normal form has the same quoted text. -/
theorem spanQuoted_collapse (hq : isQuote q = true) (cs : List Char) :
    spanQuoted q ((spanQuoted q cs).1 ++ collapse (spanQuoted q cs).2) =
      ((spanQuoted q cs).1, collapse (spanQuoted q cs).2) := by
  rcases spanQuoted_cases q cs with ⟨t, rest, ht, rfl⟩ | ⟨-, hcs⟩
  · rw [spanQuoted_append (isQuote_ne_backslash hq) ht,
      spanQuoted_append (isQuote_ne_backslash hq) ht]
  · rw [hcs, collapse_nil, List.append_nil, hcs]

/-! ### Texts with the same normal form -/

theorem eq_nil_or_blank_of_settle (h : settle x = []) :
    x = [] ∨ ∃ c cs, x = c :: cs ∧ isBlank c = true := by
  cases x with
  | nil => exact Or.inl rfl
  | cons c cs =>
    cases hc : isBlank c with
    | true => exact Or.inr ⟨c, cs, rfl, hc⟩
    | false =>
      obtain ⟨s, hs⟩ := exists_settle_eq_cons hc cs
      rw [hs] at h
      cases h

theorem exists_cons_of_settle (hb : isBlank c = false) (h : settle x = settle (c :: y)) :
    ∃ x', x = c :: x' := by
  obtain ⟨s, hs⟩ := exists_settle_eq_cons hb y
  rw [hs] at h
  cases x with
  | nil => rw [settle_nil] at h; cases h
  | cons d x =>
    cases hd : isBlank d with
    | false =>
      obtain ⟨s', hs'⟩ := exists_settle_eq_cons hd x
      rw [hs'] at h
      cases h
      exact ⟨x, rfl⟩
    | true =>
      rw [settle_blank hd] at h
      split at h
      · cases h
      · cases h
        cases hb

/-- If one of two texts with the same normal form starts with a character between quotes and blanks,
the other starts with the same one. -/
theorem eq_cons_of_settle (hb : isBlank c = false) (hq : isQuote c = false)
    (h : settle x = settle (c :: y)) : ∃ x', x = c :: x' ∧ settle x' = settle y := by
  obtain ⟨x', rfl⟩ := exists_cons_of_settle hb h
  rw [settle_plain hb hq, settle_plain hb hq] at h
  exact ⟨x', rfl, (List.cons.inj h).2⟩

/-- Two texts with the same normal form go on behind a quotation mark with the same quoted text, or
the quoted text is closed in neither. -/
theorem settle_quote_cases (hq : isQuote q = true) (h : settle (q :: x) = settle (q :: y)) :
    (∃ t x' y', Closed q t ∧ x = t ++ x' ∧ y = t ++ y' ∧ settle x' = settle y') ∨
      IsOpen q x ∧ IsOpen q y := by
  have hq' := isQuote_ne_backslash hq
  rcases spanQuoted_cases q x with ⟨t, x', ht, rfl⟩ | ⟨hx, -⟩ <;>
    rcases spanQuoted_cases q y with ⟨u, y', hu, rfl⟩ | ⟨hy, -⟩
  · rw [settle_closed hq ht, settle_closed hq hu] at h
    obtain ⟨rfl, hxy⟩ := eq_of_closed_append hq' ht hu (List.cons.inj h).2
    exact Or.inl ⟨t, x', y', ht, rfl, rfl, hxy⟩
  · rw [settle_closed hq ht, settle_open hq hy] at h
    exact absurd (List.cons.inj h).2.symm (hy.trimEnd t _ ht)
  · rw [settle_open hq hx, settle_closed hq hu] at h
    exact absurd (List.cons.inj h).2 (hx.trimEnd u _ hu)
  · exact Or.inr ⟨hx, hy⟩

end TemplateExpr.Cache
