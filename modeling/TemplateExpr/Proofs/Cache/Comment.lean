import TemplateExpr.Proofs.Cache.Key
import TemplateExpr.Proofs.Token.Trivia

/-!
# Comments and normal forms

A normal form knows nothing of comments: the line break that ends a line comment becomes a space,
and a quotation mark within a comment starts a quoted text. `isQuiet` says that the comments of a
text do no harm. Texts with the same normal form and quiet comments are `Alike`: between two tokens
they are cut at the same places.
-/

namespace TemplateExpr.Cache

open TemplateExpr.Text TemplateExpr.Lexer

variable {c q : Char} {t cs x y : List Char}

/-! ### Quiet comments -/

/-- What follows a block comment, if every quoted text within it ends within it; `cs` follows the
opening of the comment. -/
def behindBlock? (cs : List Char) : Option (List Char) :=
  match cs with
  | [] => some []
  | '*' :: '/' :: rest => some rest
  | c :: rest =>
    if isQuote c then
      have := length_spanQuoted c rest
      if (afterBlock? (spanQuoted c rest).1).isSome then none
      else behindBlock? (spanQuoted c rest).2
    else behindBlock? rest
termination_by cs.length
decreasing_by all_goals simp only [List.length_cons]; omega

theorem length_behindBlock? {rest : List Char} (h : behindBlock? cs = some rest) :
    rest.length ≤ cs.length := by
  fun_induction behindBlock? cs with
  | case1 => cases h; exact Nat.le_refl _
  | case2 => cases h; simp only [List.length_cons]; omega
  | case3 => cases h
  | case4 c cs _ _ hlength _ ih =>
    have := ih h
    simp only [List.length_cons]
    omega
  | case5 c cs _ _ ih =>
    have := ih h
    simp only [List.length_cons]
    omega

/-- Whether the comments of a text do no harm to its normal form: a line comment is the last thing
in the text, and every quoted text within a block comment ends within it. -/
def isQuiet (cs : List Char) : Bool :=
  match cs with
  | [] => true
  | '/' :: '/' :: rest => !(trimEnd rest).contains '\n'
  | '/' :: '*' :: rest =>
    match h : behindBlock? rest with
    | none => false
    | some rest' =>
      have := length_behindBlock? h
      isQuiet rest'
  | c :: rest =>
    if isQuote c then
      have := length_spanQuoted c rest
      isQuiet (spanQuoted c rest).2
    else isQuiet rest
termination_by cs.length
decreasing_by all_goals simp only [List.length_cons]; omega

theorem isQuiet_plain (hq : isQuote c = false) (hc : startsComment (c :: cs) = false) :
    isQuiet (c :: cs) = isQuiet cs := by
  rw [isQuiet.eq_4]
  · rw [if_neg (by simp [hq])]
  · rintro rest rfl rfl; cases hc
  · rintro rest rfl rfl; cases hc

theorem isQuiet_closed (hq : isQuote q = true) (ht : Closed q t) (cs : List Char) :
    isQuiet (q :: (t ++ cs)) = isQuiet cs := by
  rw [isQuiet.eq_4]
  · rw [if_pos hq, spanQuoted_append (isQuote_ne_backslash hq) ht]
  · rintro rest rfl _; cases hq
  · rintro rest rfl _; cases hq

theorem isQuiet_block (h : isQuiet ('/' :: '*' :: cs) = true) :
    ∃ rest, behindBlock? cs = some rest ∧ isQuiet rest = true := by
  rw [isQuiet] at h
  split at h
  next => cases h
  next rest hrest => exact ⟨rest, hrest, h⟩

theorem isQuote_of_isBlank (h : isBlank c = true) : isQuote c = false := by
  cases hq : isQuote c with
  | false => rfl
  | true => rw [isBlank_of_isQuote hq] at h; cases h

theorem startsComment_of_ne (h : c ≠ '/') (cs : List Char) : startsComment (c :: cs) = false := by
  unfold startsComment
  split
  next heq => exact absurd (List.cons.inj heq).1 h
  next heq => exact absurd (List.cons.inj heq).1 h
  next => rfl

theorem isQuiet_trimStart (cs : List Char) : isQuiet (trimStart cs) = isQuiet cs := by
  induction cs with
  | nil => rfl
  | cons c cs ih =>
    cases h : isBlank c with
    | false => rw [trimStart_cons_of_not_blank h]
    | true =>
      have hc : c ≠ '/' := by rintro rfl; cases h
      rw [trimStart_cons_of_blank h, ih, isQuiet_plain (isQuote_of_isBlank h)
        (startsComment_of_ne hc cs)]

/-! ### Block comments -/

theorem afterBlock?_trimStart (cs : List Char) : afterBlock? (trimStart cs) = afterBlock? cs := by
  induction cs with
  | nil => rfl
  | cons c cs ih =>
    cases h : isBlank c with
    | false => rw [trimStart_cons_of_not_blank h]
    | true =>
      rw [trimStart_cons_of_blank h, ih, afterBlock?_cons]
      rintro ⟨rfl, _⟩
      cases h

theorem behindBlock?_cons (hq : isQuote c = false) (h : ¬(c = '*' ∧ cs.head? = some '/')) :
    behindBlock? (c :: cs) = behindBlock? cs := by
  rw [behindBlock?.eq_3, if_neg (by simp [hq])]
  rintro rest rfl rfl
  exact h ⟨rfl, rfl⟩

theorem behindBlock?_trimStart (cs : List Char) :
    behindBlock? (trimStart cs) = behindBlock? cs := by
  induction cs with
  | nil => rfl
  | cons c cs ih =>
    cases h : isBlank c with
    | false => rw [trimStart_cons_of_not_blank h]
    | true =>
      rw [trimStart_cons_of_blank h, ih, behindBlock?_cons (isQuote_of_isBlank h)]
      rintro ⟨rfl, _⟩
      cases h

/-- A comment that does not end within `t` goes on behind it. -/
theorem afterBlock?_append (hlast : t.getLast? ≠ some '*') (h : afterBlock? t = none)
    (cs : List Char) : afterBlock? (t ++ cs) = afterBlock? cs := by
  induction t with
  | nil => rfl
  | cons d t ih =>
    by_cases hd : d = '*' ∧ t.head? = some '/'
    · obtain ⟨rfl, hhead⟩ := hd
      obtain ⟨t', rfl⟩ := List.head?_eq_some_iff.1 hhead
      cases h
    · rw [afterBlock?_cons hd] at h
      cases t with
      | nil => exact afterBlock?_cons fun h' => hlast (by rw [h'.1]; rfl)
      | cons e t =>
        rw [List.getLast?_cons_cons] at hlast
        rw [List.cons_append, afterBlock?_cons (by exact hd)]
        exact ih hlast h

theorem behindBlock?_closed (hq : isQuote q = true) (ht : Closed q t) (cs : List Char) :
    behindBlock? (q :: (t ++ cs)) = if (afterBlock? t).isSome then none else behindBlock? cs := by
  rw [behindBlock?.eq_3, if_pos hq, spanQuoted_append (isQuote_ne_backslash hq) ht]
  rintro rest rfl _
  cases hq

theorem behindBlock?_open (hq : isQuote q = true) (h : spanQuoted q cs = (cs, [])) :
    behindBlock? (q :: cs) = if (afterBlock? cs).isSome then none else some [] := by
  rw [behindBlock?.eq_3, if_pos hq, h, behindBlock?]
  rintro rest rfl _
  cases hq

/-- A quiet block comment ends at the same place in two texts with the same normal form. -/
theorem afterBlock?_of_settle {x y r s : List Char} (h : settle x = settle y)
    (hx : behindBlock? x = some r) (hy : behindBlock? y = some s) :
    afterBlock? x = none ∧ afterBlock? y = none ∨
      afterBlock? x = some r ∧ afterBlock? y = some s ∧ settle r = settle s := by
  -- blanks in front play no part
  have hnormal := normalize_eq_of_settle h
  rw [normalize_eq_settle, normalize_eq_settle] at hnormal
  rw [← behindBlock?_trimStart] at hx hy
  rw [← afterBlock?_trimStart x, ← afterBlock?_trimStart y]
  have hlength : (trimStart x).length ≤ x.length := length_dropWhile_le _ _
  rcases trimStart_cases x with hx0 | ⟨c, x', hx0, hc⟩
  · rw [hx0, settle_nil] at hnormal
    rcases trimStart_cases y with hy0 | ⟨d, y', hy0, hd⟩
    · rw [hx0, hy0]
      exact Or.inl ⟨rfl, rfl⟩
    · obtain ⟨s, hs⟩ := exists_settle_eq_cons hd y'
      rw [hy0, hs] at hnormal
      cases hnormal
  rw [hx0] at hnormal hx hlength ⊢
  obtain ⟨y', hy0⟩ := exists_cons_of_settle hc hnormal.symm
  rw [hy0] at hnormal hy ⊢
  rw [List.length_cons] at hlength
  by_cases hq : isQuote c = true
  · have hstar : c ≠ '*' := by rintro rfl; cases hq
    rw [afterBlock?_cons (fun h => hstar h.1), afterBlock?_cons (fun h => hstar h.1)]
    rcases settle_quote_cases hq hnormal with ⟨t, x', y', ht, rfl, rfl, hxy⟩ | ⟨hx', hy'⟩
    · have hnone : afterBlock? t = none := by
        cases hafter : afterBlock? t with
        | none => rfl
        | some _ => rw [behindBlock?_closed hq ht, hafter] at hx; cases hx
      have hlast : t.getLast? ≠ some '*' := by rw [ht.getLast?]; simpa using hstar
      rw [behindBlock?_closed hq ht, hnone, if_neg (by simp)] at hx hy
      rw [afterBlock?_append hlast hnone, afterBlock?_append hlast hnone]
      have : x'.length < x.length := by rw [List.length_append] at hlength; omega
      exact afterBlock?_of_settle hxy hx hy
    · have hnone {z : List Char} {r : List Char} (hz : IsOpen c z)
          (h : behindBlock? (c :: z) = some r) : afterBlock? z = none := by
        rcases spanQuoted_cases c z with ⟨t, rest, ht, hz'⟩ | ⟨-, hz'⟩
        · exact absurd hz' (hz t rest ht)
        · rw [behindBlock?_open hq hz'] at h
          cases hafter : afterBlock? z with
          | none => rfl
          | some _ => rw [hafter] at h; cases h
      exact Or.inl ⟨hnone hx' hx, hnone hy' hy⟩
  · have hq : isQuote c = false := by simpa using hq
    obtain ⟨y'', hy'', hxy⟩ := eq_cons_of_settle hc hq hnormal.symm
    obtain rfl := (List.cons.inj hy'').2
    by_cases hend : c = '*' ∧ x'.head? = some '/'
    · obtain ⟨rfl, hhead⟩ := hend
      obtain ⟨x'', rfl⟩ := List.head?_eq_some_iff.1 hhead
      obtain ⟨y'', rfl, hxy'⟩ := eq_cons_of_settle rfl rfl hxy
      rw [behindBlock?] at hx hy
      cases hx
      cases hy
      exact Or.inr ⟨rfl, rfl, hxy'.symm⟩
    · have hend' : ¬(c = '*' ∧ y'.head? = some '/') := by
        rintro ⟨rfl, hhead⟩
        obtain ⟨y'', rfl⟩ := List.head?_eq_some_iff.1 hhead
        obtain ⟨x'', rfl, _⟩ := eq_cons_of_settle rfl rfl hxy.symm
        exact hend ⟨rfl, rfl⟩
      rw [behindBlock?_cons hq hend] at hx
      rw [behindBlock?_cons hq hend'] at hy
      rw [afterBlock?_cons hend, afterBlock?_cons hend']
      have : x'.length < x.length := by omega
      exact afterBlock?_of_settle hxy.symm hx hy
termination_by x.length

/-! ### Line comments -/

/-- Nothing but blanks follows a line comment that is the last thing in the text. -/
theorem isBlank_of_mem_afterLine (h : '\n' ∉ trimEnd cs) (hc : c ∈ afterLine cs) :
    isBlank c = true := by
  induction cs with
  | nil => cases hc
  | cons d cs ih =>
    rw [trimEnd_cons] at h
    by_cases hd : d = '\n'
    · subst hd
      split at h
      next hblank => exact mem_of_trimEnd_eq_nil hblank.2 hc
      next => exact absurd List.mem_cons_self h
    · have hc' : c ∈ afterLine cs := by
        rwa [afterLine, List.dropWhile_cons_of_pos (by simpa using hd)] at hc
      refine ih (fun hmem => ?_) hc'
      split at h
      next hblank => rw [hblank.2] at hmem; cases hmem
      next => exact h (List.mem_cons_of_mem d hmem)

theorem afterTrivia?_blanks (h : ∀ c ∈ cs, isBlank c = true) : afterTrivia? cs = some [] := by
  induction cs with
  | nil => rw [afterTrivia?_nil]
  | cons c cs ih =>
    rw [afterTrivia?_blank (h c List.mem_cons_self)]
    exact ih fun d hd => h d (List.mem_cons_of_mem c hd)

theorem afterTrivia?_lastLine (h : isQuiet ('/' :: '/' :: cs) = true) :
    afterTrivia? ('/' :: '/' :: cs) = some [] := by
  rw [isQuiet] at h
  rw [afterTrivia?_line]
  refine afterTrivia?_blanks fun c hc => isBlank_of_mem_afterLine ?_ hc
  simpa using h

/-! ### Texts that are read alike -/

/-- Two texts have the same normal form behind other text, and their comments are quiet. -/
structure Alike (x y : List Char) : Prop where
  settle : settle x = settle y
  left : isQuiet x = true
  right : isQuiet y = true

theorem startsComment_cases (h : startsComment cs = true) :
    (∃ rest, cs = '/' :: '/' :: rest) ∨ ∃ rest, cs = '/' :: '*' :: rest := by
  unfold startsComment at h
  split at h
  next rest => exact Or.inl ⟨rest, rfl⟩
  next rest => exact Or.inr ⟨rest, rfl⟩
  next => cases h

theorem startsComment_of_settle (h : settle x = settle y) (hy : startsComment y = true) :
    startsComment x = true := by
  rcases startsComment_cases hy with ⟨rest, rfl⟩ | ⟨rest, rfl⟩
  all_goals
    obtain ⟨x', rfl, h'⟩ := eq_cons_of_settle rfl rfl h
    obtain ⟨x'', rfl, _⟩ := eq_cons_of_settle rfl rfl h'
    rfl

namespace Alike

theorem symm (h : Alike x y) : Alike y x := ⟨h.settle.symm, h.right, h.left⟩

/-- No comment starts with either text or with both of them. -/
theorem startsComment_eq (h : Alike x y) : startsComment x = startsComment y :=
  Bool.eq_iff_iff.2
    ⟨startsComment_of_settle h.settle.symm, startsComment_of_settle h.settle⟩

theorem exists_cons (hb : isBlank c = false) (h : Alike x (c :: y)) : ∃ x', x = c :: x' :=
  exists_cons_of_settle hb h.settle

/-- Behind a character between quotes, blanks and comments, texts go on alike. -/
theorem tail (hb : isBlank c = false) (hq : isQuote c = false)
    (hc : startsComment (c :: y) = false) (h : Alike x (c :: y)) :
    ∃ x', x = c :: x' ∧ Alike x' y := by
  have hc' := h.startsComment_eq.trans hc
  obtain ⟨x', rfl, hxy⟩ := eq_cons_of_settle hb hq h.settle
  exact ⟨x', rfl, hxy, (isQuiet_plain hq hc').symm.trans h.left,
    (isQuiet_plain hq hc).symm.trans h.right⟩

/-- Behind a quotation mark, texts go on alike with the same quoted text, or it is closed in
neither. -/
theorem quote_cases (hq : isQuote q = true) (h : Alike (q :: x) (q :: y)) :
    (∃ t x' y', Closed q t ∧ x = t ++ x' ∧ y = t ++ y' ∧ Alike x' y') ∨ IsOpen q x ∧ IsOpen q y := by
  rcases settle_quote_cases hq h.settle with ⟨t, x', y', ht, rfl, rfl, hxy⟩ | hopen
  · exact Or.inl ⟨t, x', y', ht, rfl, rfl, hxy, (isQuiet_closed hq ht x').symm.trans h.left,
      (isQuiet_closed hq ht y').symm.trans h.right⟩
  · exact Or.inr hopen

theorem normalize_eq (h : Alike x y) : normalize x = normalize y := normalize_eq_of_settle h.settle

theorem of_normalize (h : normalize x = normalize y) (hx : isQuiet x = true)
    (hy : isQuiet y = true) : Alike (trimStart x) (trimStart y) := by
  refine ⟨?_, ?_, ?_⟩
  · rwa [normalize_eq_settle, normalize_eq_settle] at h
  · rwa [isQuiet_trimStart]
  · rwa [isQuiet_trimStart]

end Alike

/-- In front of a token, texts with the same normal form and quiet comments are alike. -/
theorem afterTrivia?_alike {x y : List Char} (h : normalize x = normalize y)
    (hx : isQuiet x = true) (hy : isQuiet y = true) :
    afterTrivia? x = none ∧ afterTrivia? y = none ∨
      ∃ r s, afterTrivia? x = some r ∧ afterTrivia? y = some s ∧ Alike r s := by
  have halike := Alike.of_normalize h hx hy
  rw [← afterTrivia?_trimStart x, ← afterTrivia?_trimStart y]
  have hlength : (trimStart x).length ≤ x.length := length_dropWhile_le _ _
  have hquiet : isQuiet [] = true := by rw [isQuiet]
  rcases trimStart_cases x with hx0 | ⟨c, x', hx0, hc⟩
  · rw [hx0] at halike ⊢
    have hy0 : trimStart y = [] := by
      rcases trimStart_cases y with hy0 | ⟨d, y', hy0, hd⟩
      · exact hy0
      · rw [hy0] at halike
        obtain ⟨x', hx'⟩ := halike.exists_cons hd
        cases hx'
    rw [hy0]
    exact Or.inr ⟨[], [], afterTrivia?_nil, afterTrivia?_nil, rfl, hquiet, hquiet⟩
  rw [hx0] at halike hlength ⊢
  obtain ⟨y', hy0⟩ := halike.symm.exists_cons hc
  rw [hy0] at halike ⊢
  cases hcomment : startsComment (c :: x') with
  | false =>
    rw [afterTrivia?_token hc hcomment,
      afterTrivia?_token hc (halike.startsComment_eq.symm.trans hcomment)]
    exact Or.inr ⟨_, _, rfl, rfl, halike⟩
  | true =>
    rcases startsComment_cases hcomment with ⟨rest, hrest⟩ | ⟨rest, hrest⟩
    · -- both texts end with this comment
      rw [hrest] at halike ⊢
      obtain ⟨y₁, hy₁, hslash⟩ := eq_cons_of_settle rfl rfl halike.settle.symm
      obtain ⟨y₂, rfl, -⟩ := eq_cons_of_settle rfl rfl hslash
      rw [hy₁] at halike ⊢
      rw [afterTrivia?_lastLine halike.left, afterTrivia?_lastLine halike.right]
      exact Or.inr ⟨[], [], rfl, rfl, rfl, hquiet, hquiet⟩
    · rw [hrest] at halike hlength ⊢
      obtain ⟨y₁, hy₁, hstar⟩ := eq_cons_of_settle rfl rfl halike.settle.symm
      obtain ⟨y₂, rfl, hxy⟩ := eq_cons_of_settle rfl rfl hstar
      rw [hy₁] at halike ⊢
      obtain ⟨r, hr, hrquiet⟩ := isQuiet_block halike.left
      obtain ⟨s, hs, hsquiet⟩ := isQuiet_block halike.right
      rw [afterTrivia?_block, afterTrivia?_block]
      rcases afterBlock?_of_settle hxy hs hr with ⟨hy', hx'⟩ | ⟨hy', hx', hsr⟩
      · rw [hx', hy']
        exact Or.inl ⟨rfl, rfl⟩
      · have hr' := length_afterBlock? hx'
        rw [hx', hy', Option.bind_some, Option.bind_some]
        have : r.length < x.length := by simp only [List.length_cons] at hlength; omega
        exact afterTrivia?_alike (normalize_eq_of_settle hsr.symm) hrquiet hsquiet
termination_by x.length

end TemplateExpr.Cache
