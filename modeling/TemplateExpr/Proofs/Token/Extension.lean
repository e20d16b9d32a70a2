import TemplateExpr.Proofs.Token.Slice

/-!
# Putting a text behind a token

No word and no symbol goes on over a blank or a quotation mark. So what is read off a text is read
off it as well when something that starts with one of them is put behind the text
(`outcome_scanToken_append`). Together with `Reads.cut` this replaces what stands behind a token.
-/

namespace TemplateExpr.Lexer

open TemplateExpr.Text TemplateExpr.Cache

variable {c : Char} {w x y r : List Char} {p : Char → Bool} {token : Token} {pos pos' : Nat}

/-! ### Runs of characters -/

theorem head?_any_append (hr : r.head?.any p = false) (x : List Char) :
    (x ++ r).head?.any p = x.head?.any p := by
  cases x with
  | nil => exact hr
  | cons d x => rfl

theorem takeWhile_append_of_head (hr : r.head?.any p = false) (x : List Char) :
    (x ++ r).takeWhile p = x.takeWhile p := by
  induction x with
  | nil =>
    cases r with
    | nil => rfl
    | cons d r => exact List.takeWhile_cons_of_neg (Bool.not_eq_true _ ▸ hr)
  | cons d x ih => rw [List.cons_append, List.takeWhile_cons, List.takeWhile_cons, ih]

theorem dropWhile_append_of_head (hr : r.head?.any p = false) (x : List Char) :
    (x ++ r).dropWhile p = x.dropWhile p ++ r := by
  induction x with
  | nil =>
    cases r with
    | nil => rfl
    | cons d r => exact List.dropWhile_cons_of_neg (Bool.not_eq_true _ ▸ hr)
  | cons d x ih =>
    rw [List.cons_append, List.dropWhile_cons, List.dropWhile_cons, ih]
    split <;> rfl

/-- A word does not go on over a blank or a quotation mark. -/
theorem IsWordClass.head?_any (hp : IsWordClass p) (hr : r.head?.any isSolid = false) :
    r.head?.any p = false := by
  cases r with
  | nil => rfl
  | cons d r =>
    refine Bool.eq_false_iff.2 fun hd => ?_
    obtain ⟨hblank, hquote, -⟩ := hp d hd
    exact absurd (isSolid_iff.2 ⟨hblank, hquote⟩) (Bool.eq_false_iff.1 hr)

theorem head?_ne_of_solid (hr : r.head?.any isSolid = false) (hc : isSolid c = true) :
    r.head? ≠ some c := by
  intro h
  rw [h, Option.any_some, hc] at hr
  cases hr

section

variable (hr : r.head?.any isSolid = false)

include hr

theorem head?_append_eq_iff (hc : isSolid c = true) (x : List Char) :
    (x ++ r).head? = some c ↔ x.head? = some c := by
  cases x with
  | nil => exact iff_of_false (head?_ne_of_solid hr hc) nofun
  | cons d x => rfl

/-! ### Numbers -/

theorem scanFraction_append (x : List Char) :
    (scanFraction (x ++ r)).value = (scanFraction x).value ∧
      (scanFraction (x ++ r)).rest = (scanFraction x).rest ++ r := by
  have hdigit := isWordClass_isAsciiDigit.head?_any hr
  by_cases hpoint : x.head? = some '.'
  · obtain ⟨x, rfl⟩ := List.head?_eq_some_iff.1 hpoint
    obtain ⟨hvalue, hrest⟩ := scanFraction_point x
    obtain ⟨hvalue', hrest'⟩ := scanFraction_point (x ++ r)
    rw [List.cons_append, hvalue, hrest, hvalue', hrest', head?_any_append hdigit,
      takeWhile_append_of_head hdigit, dropWhile_append_of_head hdigit]
    split
    · exact ⟨rfl, rfl⟩
    · exact ⟨rfl, rfl⟩
  · obtain ⟨hvalue, hrest⟩ := scanFraction_other hpoint
    obtain ⟨hvalue', hrest'⟩ :=
      scanFraction_other fun h => hpoint ((head?_append_eq_iff hr (c := '.') rfl x).1 h)
    rw [hvalue, hrest, hvalue', hrest']
    exact ⟨rfl, rfl⟩

theorem signWidth_append (x : List Char) : signWidth (x ++ r) = signWidth x := by
  simp only [signWidth, head?_append_eq_iff hr (c := '+') rfl x,
    head?_append_eq_iff hr (c := '-') rfl x]

omit hr in
theorem signWidth_le_length (x : List Char) : signWidth x ≤ x.length := by
  cases x with
  | nil => exact Nat.le_refl 0
  | cons d x => exact Nat.le_trans (signWidth_le_one _) (Nat.succ_le_succ (Nat.zero_le _))

theorem exponentDigits_append (x : List Char) : exponentDigits (x ++ r) = exponentDigits x := by
  rw [exponentDigits, exponentDigits, signWidth_append hr,
    List.drop_append_of_le_length (signWidth_le_length x),
    takeWhile_append_of_head (isWordClass_isAsciiDigit.head?_any hr)]

omit hr in
theorem length_exponentDigits_le (x : List Char) :
    signWidth x + (exponentDigits x).length ≤ x.length := by
  have hsign := signWidth_le_length x
  have hdigits := (List.takeWhile_sublist (l := x.drop (signWidth x)) isAsciiDigit).length_le
  rw [List.length_drop] at hdigits
  rw [exponentDigits]
  omega

theorem scanExponent_append (x : List Char) :
    (scanExponent (x ++ r)).value = (scanExponent x).value ∧
      (scanExponent (x ++ r)).rest = (scanExponent x).rest ++ r := by
  cases x with
  | nil =>
    cases r with
    | nil => exact ⟨rfl, rfl⟩
    | cons d r =>
      have hd : ¬(d = 'e' ∨ d = 'E') := by
        rintro (rfl | rfl) <;> cases hr
      rw [List.nil_append, scanExponent_cons, if_neg fun h => hd h.1]
      exact ⟨rfl, rfl⟩
  | cons d x =>
    have hsign : (x ++ r).head? = some '-' ↔ x.head? = some '-' :=
      head?_append_eq_iff hr rfl x
    rw [List.cons_append, scanExponent_cons, scanExponent_cons, exponentDigits_append hr,
      signWidth_append hr]
    simp only [hsign]
    split
    · exact ⟨rfl, List.drop_append_of_le_length (length_exponentDigits_le x)⟩
    · exact ⟨rfl, rfl⟩

theorem numeral_scanDecimal_append (start start' : Nat) (whole fraction x : List Char) :
    numeral (scanDecimal start' whole fraction (x ++ r)) =
      (numeral (scanDecimal start whole fraction x)).map fun q => (q.1, q.2 ++ r) := by
  obtain ⟨hvalue, hrest⟩ := scanExponent_append hr x
  rw [numeral_scanDecimal, numeral_scanDecimal, hvalue, hrest,
    head?_any_append (isWordClass_isNameStart.head?_any hr)]
  split
  · rfl
  · rfl

theorem numeral_scanHex_append (start start' : Nat) (x : List Char) :
    numeral (scanHex start' (x ++ r)) =
      (numeral (scanHex start x)).map fun q => (q.1, q.2 ++ r) := by
  have hhex := isWordClass_isHex.head?_any hr
  rw [numeral_scanHex, numeral_scanHex, takeWhile_append_of_head hhex,
    dropWhile_append_of_head hhex, Option.map_bind]
  refine congrArg (Option.bind _) (funext fun n => ?_)
  simp only [Function.comp_apply]
  split
  · rfl
  · rfl

omit hr in
/-- The token that is made of a number and the text that is left. -/
theorem map_number_append (q : Option (Float × List Char)) :
    ((q.map fun q => (q.1, q.2 ++ r)).map fun q => (Token.number q.1, q.2)) =
      (q.map fun q => (Token.number q.1, q.2)).map fun t => (t.1, t.2 ++ r) := by
  rw [Option.map_map, Option.map_map]
  rfl

theorem outcome_scanWholeNumber_append (pos pos' : Nat) (c : Char) (x : List Char) :
    outcome (scanWholeNumber pos' c (x ++ r)) =
      (outcome (scanWholeNumber pos c x)).map fun t => (t.1, t.2 ++ r) := by
  have hdigit := isWordClass_isAsciiDigit.head?_any hr
  obtain ⟨hvalue, hrest⟩ := scanFraction_append hr (x.dropWhile isAsciiDigit)
  rw [outcome_scanWholeNumber, outcome_scanWholeNumber, takeWhile_append_of_head hdigit,
    dropWhile_append_of_head hdigit, hvalue, hrest, numeral_scanDecimal_append hr pos,
    map_number_append]

theorem outcome_scanPointNumber_append (pos pos' : Nat) (c : Char) (x : List Char) :
    outcome (scanPointNumber pos' c (x ++ r)) =
      (outcome (scanPointNumber pos c x)).map fun t => (t.1, t.2 ++ r) := by
  have hdigit := isWordClass_isAsciiDigit.head?_any hr
  rw [outcome_scanPointNumber, outcome_scanPointNumber, takeWhile_append_of_head hdigit,
    dropWhile_append_of_head hdigit, numeral_scanDecimal_append hr pos, map_number_append]

theorem outcome_scanNumber_append (pos pos' : Nat) (c : Char) (x : List Char) :
    outcome (scanNumber pos' c (x ++ r)) =
      (outcome (scanNumber pos c x)).map fun t => (t.1, t.2 ++ r) := by
  by_cases hhex : c = '0' ∧ (x.head? = some 'x' ∨ x.head? = some 'X')
  · obtain ⟨rfl, hhead⟩ := hhex
    obtain ⟨d, x, hd, rfl⟩ := exists_hexMark hhead
    rw [List.cons_append, outcome_scanNumber_hex pos' hd, outcome_scanNumber_hex pos hd,
      numeral_scanHex_append hr pos, map_number_append]
  · have hhex' : ¬(c = '0' ∧ ((x ++ r).head? = some 'x' ∨ (x ++ r).head? = some 'X')) := by
      rwa [head?_append_eq_iff hr rfl, head?_append_eq_iff hr rfl]
    rw [scanNumber_whole pos hhex, scanNumber_whole pos' hhex', outcome_scanWholeNumber_append hr]

/-! ### Tokens -/

theorem outcome_scanName_append (pos pos' : Nat) (c : Char) (x : List Char) :
    outcome (.ok (scanName pos' c (x ++ r))) =
      (outcome (.ok (scanName pos c x))).map fun t => (t.1, t.2 ++ r) := by
  have hname := isWordClass_isNameContinue.head?_any hr
  change some (Token.name (String.ofList (c :: (x ++ r).takeWhile isNameContinue)),
      (x ++ r).dropWhile isNameContinue) =
    some (Token.name (String.ofList (c :: x.takeWhile isNameContinue)),
      x.dropWhile isNameContinue ++ r)
  rw [takeWhile_append_of_head hname, dropWhile_append_of_head hname]

omit hr in
/-- A string ends with its quotation mark, so anything may stand behind it. -/
theorem outcome_scanString_append {q : Char} (hq : isQuote q = true) {start start' : Nat}
    (h : outcome (scanString q start [] pos x) = some (token, y)) (r : List Char) :
    outcome (scanString q start' [] pos' (x ++ r)) = some (token, y ++ r) := by
  obtain ⟨t, -, rfl, hread⟩ := readsQuoted_of_outcome hq h
  rw [List.append_assoc]
  exact hread start' pos' (y ++ r)

theorem outcome_scanToken_append (h : outcome (scanToken pos c x) = some (token, y)) :
    outcome (scanToken pos' c (x ++ r)) = some (token, y ++ r) := by
  have hmap {o : Option (Token × List Char)} (ho : o = some (token, y)) :
      o.map (fun t => (t.1, t.2 ++ r)) = some (token, y ++ r) := by
    rw [ho, Option.map_some]
  unfold scanToken at h ⊢
  rw [head?_any_append (isWordClass_isAsciiDigit.head?_any hr)]
  split at h
  · next hdigit =>
    rw [if_pos hdigit, outcome_scanNumber_append hr pos]
    exact hmap h
  next hdigit =>
  rw [if_neg hdigit]
  split at h
  · next hnumber =>
    rw [if_pos hnumber, outcome_scanPointNumber_append hr pos]
    exact hmap h
  next hnumber =>
  rw [if_neg hnumber]
  split at h
  · next hq =>
    have hquote : isQuote c = true := by simpa [isQuote, or_assoc] using hq
    rw [if_pos hq, outcome_map_cons]
    rw [outcome_map_cons] at h
    exact outcome_scanString_append hquote h r
  next hq =>
  rw [if_neg hq]
  split at h
  · next hname =>
    rw [if_pos hname, outcome_scanName_append hr pos]
    exact hmap h
  next hname =>
  rw [if_neg hname]
  rw [outcome_scanSymbol_eq] at h ⊢
  rw [← List.cons_append, scanSymbol?_append hr, Option.map_map]
  obtain ⟨⟨s, rest⟩, hs, hq⟩ := Option.map_eq_some_iff.1 h
  obtain ⟨rfl, rfl⟩ := Prod.mk.inj hq
  rw [hs]
  rfl

/-! ### Tokens in a text -/

theorem startsComment_append (x : List Char) (h : startsComment (c :: x) = false) :
    startsComment (c :: (x ++ r)) = false := by
  refine Bool.eq_false_iff.2 fun hcomment => ?_
  obtain ⟨d, rest, hd, heq⟩ : ∃ d rest, (d = '/' ∨ d = '*') ∧ c :: (x ++ r) = '/' :: d :: rest := by
    rcases startsComment_cases hcomment with ⟨rest, heq⟩ | ⟨rest, heq⟩
    · exact ⟨'/', rest, .inl rfl, heq⟩
    · exact ⟨'*', rest, .inr rfl, heq⟩
  obtain ⟨rfl, htail⟩ := List.cons.inj heq
  cases x with
  | nil =>
    -- the second character of what starts a comment is no place where a word or a symbol ends
    rw [List.nil_append] at htail
    rw [htail] at hr
    rcases hd with rfl | rfl <;> cases hr
  | cons d' x =>
    obtain ⟨rfl, -⟩ := List.cons.inj htail
    rcases hd with rfl | rfl <;> cases h

/-- The same token is read with a text behind what has stood behind it. -/
theorem Reads.append (h : Reads c w token y) : Reads c w token (y ++ r) where
  atToken := by
    have hnot := not_blank_of_atToken h.atToken
    rw [← List.append_assoc]
    exact ⟨trimStart_cons_of_not_blank hnot, startsComment_append hr (w ++ y) h.atToken.2⟩
  outcome pos := by
    rw [← List.append_assoc]
    exact outcome_scanToken_append hr (h.outcome pos)

end

/-! ### Texts behind a token -/

variable {behind cs : List Char}

/-- The texts start with the same tokens, up to where the second one ends or goes on with something
that neither a word nor a symbol goes on over. A point at the end is a token of its own in both. -/
def Agrees (behind cs : List Char) : Prop :=
  ∃ m r r', behind = m ++ r' ∧ cs = m ++ r ∧ r.head?.any isSolid = false ∧
    (m = ['.'] → r'.head?.any isAsciiDigit = false)

theorem agrees_of_head (behind : List Char) (hcs : cs.head?.any isSolid = false) :
    Agrees behind cs := ⟨[], cs, behind, rfl, rfl, hcs, nofun⟩

theorem Reads.replace (h : Reads c w token behind) (hagrees : Agrees behind cs) :
    Reads c w token cs := by
  obtain ⟨m, r, r', rfl, rfl, hr, hpoint⟩ := hagrees
  exact (h.cut hpoint).append hr

/-- The same token in front. -/
theorem Reads.agrees (h : Reads c w token behind) (hagrees : Agrees behind cs) :
    Agrees (c :: (w ++ behind)) (c :: (w ++ cs)) := by
  obtain ⟨m, r, r', rfl, rfl, hr, -⟩ := hagrees
  refine ⟨c :: (w ++ m), r, r', by simp, by simp, hr, fun hdot => ?_⟩
  obtain ⟨rfl, hnil⟩ := List.cons.inj hdot
  obtain ⟨rfl, rfl⟩ := List.append_eq_nil_iff.1 hnil
  exact h.point

end TemplateExpr.Lexer
