import TemplateExpr.Proofs.Token.Extent

/-!
# Cutting a text behind a token

A scanner looks at the characters behind a token only to find out where the token ends. So the same
token is read off a text that has been cut short anywhere behind it (`outcome_scanToken_cut`), with
one exception: a question mark and a point in front of a digit are two tokens, and the cut must not
take the digit away from the point.
-/

namespace TemplateExpr.Lexer

open TemplateExpr.Text TemplateExpr.Cache

variable {c : Char} {x y z : List Char} {p : Char → Bool}

/-! ### Runs of characters -/

theorem eq_nil_of_append_suffix {w : List Char} (h : w ++ (y ++ z) = z) : w = [] ∧ y = [] := by
  have hlength := congrArg List.length h
  rw [List.length_append, List.length_append] at hlength
  exact ⟨List.length_eq_zero_iff.1 (by omega), List.length_eq_zero_iff.1 (by omega)⟩

/-- A run of characters that has ended within a text does not depend on what is behind. -/
theorem span_cut (h : (x ++ z).dropWhile p = y ++ z) :
    (x ++ z).takeWhile p = x.takeWhile p ∧ x.dropWhile p = y := by
  induction x with
  | nil =>
    have hsplit := List.takeWhile_append_dropWhile (p := p) (l := z)
    rw [List.nil_append] at h
    rw [h] at hsplit
    obtain ⟨htake, rfl⟩ := eq_nil_of_append_suffix hsplit
    exact ⟨htake, rfl⟩
  | cons c x ih =>
    rw [List.cons_append] at h ⊢
    cases hc : p c with
    | true =>
      rw [List.dropWhile_cons_of_pos hc] at h
      obtain ⟨htake, hdrop⟩ := ih h
      rw [List.takeWhile_cons_of_pos hc, List.takeWhile_cons_of_pos hc,
        List.dropWhile_cons_of_pos hc, htake]
      exact ⟨rfl, hdrop⟩
    | false =>
      have hneg : ¬p c = true := by simp [hc]
      rw [List.dropWhile_cons_of_neg hneg, ← List.cons_append] at h
      rw [List.takeWhile_cons_of_neg hneg, List.takeWhile_cons_of_neg hneg,
        List.dropWhile_cons_of_neg hneg]
      exact ⟨rfl, List.append_cancel_right h⟩

theorem head?_any_of_append (h : (y ++ z).head?.any p = false) : y.head?.any p = false := by
  cases y with
  | nil => rfl
  | cons d y => exact h

/-! ### Numbers -/

theorem scanFraction_cut (h : (scanFraction (x ++ z)).rest = y ++ z) :
    (scanFraction (x ++ z)).value = (scanFraction x).value ∧ (scanFraction x).rest = y := by
  cases x with
  | nil =>
    obtain ⟨w, hw, -, hlength⟩ := exists_scanFraction z
    rw [List.nil_append] at h ⊢
    rw [h] at hw
    obtain ⟨rfl, rfl⟩ := eq_nil_of_append_suffix hw.symm
    have hvalue : (scanFraction z).value.length = 0 := by
      rw [List.length_nil] at hlength
      omega
    exact ⟨List.length_eq_zero_iff.1 hvalue, rfl⟩
  | cons c x =>
    by_cases hpoint : c = '.'
    · subst hpoint
      rw [List.cons_append] at h ⊢
      obtain ⟨hvalue, hrest⟩ := scanFraction_point (x ++ z)
      obtain ⟨hvalue', hrest'⟩ := scanFraction_point x
      rw [hrest] at h
      rw [hvalue, hvalue', hrest']
      by_cases hdigit : (x ++ z).head?.any isAsciiDigit = true
      · rw [if_pos hdigit] at h ⊢
        obtain ⟨htake, hdrop⟩ := span_cut h
        have hx : x.head?.any isAsciiDigit = true := by
          cases x with
          | nil =>
            -- the digits in front of the cut are those of the whole run
            cases z with
            | nil => cases hdigit
            | cons d z =>
              have hd : isAsciiDigit d = true := hdigit
              rw [List.nil_append, List.takeWhile_cons_of_pos hd] at htake
              cases htake
          | cons d x => exact hdigit
        rw [if_pos hx, if_pos hx]
        exact ⟨htake, hdrop⟩
      · rw [if_neg hdigit] at h ⊢
        have hx := head?_any_of_append (Bool.not_eq_true _ ▸ hdigit)
        rw [if_neg (by simp [hx]), if_neg (by simp [hx])]
        exact ⟨rfl, List.append_cancel_right h⟩
    · have hother (cs : List Char) : (c :: cs).head? ≠ some '.' :=
        fun heq => hpoint (Option.some.inj heq)
      rw [List.cons_append] at h ⊢
      obtain ⟨hvalue, hrest⟩ := scanFraction_other (hother (x ++ z))
      obtain ⟨hvalue', hrest'⟩ := scanFraction_other (hother x)
      rw [hrest] at h
      rw [hvalue, hvalue', hrest']
      exact ⟨rfl, List.append_cancel_right h⟩

theorem signWidth_le_one (cs : List Char) : signWidth cs ≤ 1 := by
  rw [signWidth]
  split
  · exact Nat.le_refl 1
  · exact Nat.zero_le 1

/-- The digits of an exponent that has ended within a text do not depend on what is behind. -/
theorem exponentDigits_cut
    (h : (c :: x ++ z).drop (signWidth (c :: x ++ z) + (exponentDigits (c :: x ++ z)).length) =
      y ++ z) :
    exponentDigits (c :: x ++ z) = exponentDigits (c :: x) ∧
      (c :: x).drop (signWidth (c :: x) + (exponentDigits (c :: x)).length) = y := by
  have hsign : signWidth (c :: x ++ z) = signWidth (c :: x) := rfl
  have hdrop : (c :: x ++ z).drop (signWidth (c :: x)) = (c :: x).drop (signWidth (c :: x)) ++ z :=
    List.drop_append_of_le_length
      (Nat.le_trans (signWidth_le_one _) (Nat.succ_le_succ (Nat.zero_le _)))
  rw [← List.drop_drop, exponentDigits, drop_length_takeWhile, hsign, hdrop] at h
  rw [← List.drop_drop, exponentDigits, exponentDigits, drop_length_takeWhile, hsign, hdrop]
  exact span_cut h

theorem scanExponent_cut (h : (scanExponent (x ++ z)).rest = y ++ z)
    (hname : (y ++ z).head?.any isNameStart = false) :
    (scanExponent (x ++ z)).value = (scanExponent x).value ∧ (scanExponent x).rest = y := by
  cases x with
  | nil =>
    cases z with
    | nil =>
      rw [List.append_nil, List.append_nil] at h
      exact ⟨rfl, h⟩
    | cons c z =>
      rw [List.nil_append, scanExponent_cons] at h ⊢
      split at h
      · -- an exponent would have left less than there is behind the cut
        have hlength := congrArg List.length h
        change (z.drop _).length = _ at hlength
        rw [List.length_drop, List.length_append, List.length_cons] at hlength
        omega
      · next hnone =>
        rw [if_neg hnone]
        exact ⟨rfl, (List.append_left_eq_self.1 h.symm).symm⟩
  | cons c x =>
    rw [List.cons_append, scanExponent_cons] at h ⊢
    rw [scanExponent_cons]
    split at h
    · next hexponent =>
      change (x ++ z).drop _ = y ++ z at h
      cases x with
      | nil =>
        rw [List.nil_append] at h hexponent
        have hne : z ≠ [] := by
          rintro rfl
          simp [exponentDigits] at hexponent
        have hdigits : (exponentDigits z).length ≠ 0 := by
          intro hzero
          simp [List.length_eq_zero_iff.1 hzero] at hexponent
        have hlength := congrArg List.length h
        have hz := List.length_pos_iff.2 hne
        rw [List.length_drop, List.length_append] at hlength
        omega
      | cons d x =>
        obtain ⟨hdigits, hdrop⟩ := exponentDigits_cut h
        rw [if_pos hexponent]
        rw [hdigits] at hexponent ⊢
        rw [if_pos hexponent]
        exact ⟨rfl, hdrop⟩
    · next hnone =>
      obtain rfl : y = c :: x := List.append_cancel_right h.symm
      have hstart : ¬(c = 'e' ∨ c = 'E') := by
        have hc : isNameStart c = false := hname
        rintro (rfl | rfl) <;> cases hc
      rw [if_neg hnone, if_neg fun hexponent => hstart hexponent.1]
      exact ⟨rfl, rfl⟩

/-- The number that is read and the text that is left, without offsets. -/
def numeral {cs : List Char} (r : Except ParseError (Left (Float × Nat) cs)) :
    Option (Float × List Char) :=
  r.toOption.map fun l => (l.value.1, l.rest)

theorem numeral_scanDecimal (start : Nat) (whole fraction cs : List Char) :
    numeral (scanDecimal start whole fraction cs) =
      if (scanExponent cs).rest.head?.any isNameStart then none
      else some ((Number.Decimal.ofDigits whole fraction (scanExponent cs).value.1).toFloat,
        (scanExponent cs).rest) := by
  unfold scanDecimal
  dsimp only
  split <;> rfl

theorem outcome_numberToken {cs : List Char} (r : Except ParseError (Left (Float × Nat) cs))
    (f : Left (Float × Nat) cs → Left (Float × Nat) x)
    (hf : ∀ l, (f l).value = l.value ∧ (f l).rest = l.rest) :
    outcome (r.map fun l => numberToken c (f l)) =
      (numeral r).map fun q => (.number q.1, q.2) := by
  cases r with
  | error e => rfl
  | ok l =>
    obtain ⟨hvalue, hrest⟩ := hf l
    change some (Token.number (f l).value.1, (f l).rest) = some (Token.number l.value.1, l.rest)
    rw [hvalue, hrest]

/-- What is left of a decimal literal ends what the literal has been read off. -/
theorem numeral_scanDecimal_cut {start : Nat} {whole fraction : List Char} {v : Float}
    (h : numeral (scanDecimal start whole fraction (x ++ z)) = some (v, y ++ z)) (start' : Nat) :
    numeral (scanDecimal start' whole fraction x) = some (v, y) := by
  rw [numeral_scanDecimal] at h ⊢
  split at h
  · cases h
  · next hname =>
    obtain ⟨rfl, hrest⟩ := Prod.mk.inj (Option.some.inj h)
    rw [hrest, Bool.not_eq_true] at hname
    obtain ⟨hvalue, hrest'⟩ := scanExponent_cut hrest hname
    rw [hrest', head?_any_of_append hname, hvalue]
    rfl

theorem exists_of_numeral_scanDecimal {start : Nat} {whole fraction cs rest : List Char} {v : Float}
    (h : numeral (scanDecimal start whole fraction cs) = some (v, rest)) :
    ∃ w, cs = w ++ rest := by
  rw [numeral_scanDecimal] at h
  split at h
  · cases h
  · obtain ⟨-, rfl⟩ := Prod.mk.inj (Option.some.inj h)
    obtain ⟨w, hw, -⟩ := exists_scanExponent cs
    exact ⟨w, hw⟩

theorem outcome_scanPointNumber (start : Nat) (c : Char) (cs : List Char) :
    outcome (scanPointNumber start c cs) =
      (numeral (scanDecimal start [] (cs.takeWhile isAsciiDigit) (cs.dropWhile isAsciiDigit))).map
        fun q => (.number q.1, q.2) :=
  outcome_numberToken _ _ fun _ => ⟨rfl, rfl⟩

theorem outcome_scanWholeNumber (start : Nat) (c : Char) (cs : List Char) :
    outcome (scanWholeNumber start c cs) =
      (numeral (scanDecimal start (c :: cs.takeWhile isAsciiDigit)
        (scanFraction (cs.dropWhile isAsciiDigit)).value
        (scanFraction (cs.dropWhile isAsciiDigit)).rest)).map fun q => (.number q.1, q.2) :=
  outcome_numberToken _ _ fun _ => ⟨rfl, rfl⟩

variable {token : Token} {pos pos' : Nat}

theorem outcome_scanPointNumber_cut
    (h : outcome (scanPointNumber pos c (x ++ z)) = some (token, y ++ z)) :
    outcome (scanPointNumber pos' c x) = some (token, y) := by
  rw [outcome_scanPointNumber] at h ⊢
  obtain ⟨⟨v, rest⟩, hv, hq⟩ := Option.map_eq_some_iff.1 h
  obtain ⟨rfl, rfl⟩ := Prod.mk.inj hq
  obtain ⟨w, hw⟩ := exists_of_numeral_scanDecimal hv
  rw [← List.append_assoc] at hw
  obtain ⟨htake, hdrop⟩ := span_cut hw
  rw [htake, hw] at hv
  rw [hdrop, numeral_scanDecimal_cut hv]
  rfl

theorem outcome_scanWholeNumber_cut
    (h : outcome (scanWholeNumber pos c (x ++ z)) = some (token, y ++ z)) :
    outcome (scanWholeNumber pos' c x) = some (token, y) := by
  rw [outcome_scanWholeNumber] at h ⊢
  obtain ⟨⟨v, rest⟩, hv, hq⟩ := Option.map_eq_some_iff.1 h
  obtain ⟨rfl, rfl⟩ := Prod.mk.inj hq
  -- behind the digits stands the fraction, behind that the exponent
  obtain ⟨w, hw⟩ := exists_of_numeral_scanDecimal hv
  obtain ⟨w', hw', -⟩ := exists_scanFraction ((x ++ z).dropWhile isAsciiDigit)
  rw [hw] at hw'
  rw [← List.append_assoc] at hw hw'
  rw [← List.append_assoc] at hw'
  obtain ⟨htake, hdrop⟩ := span_cut hw'
  rw [hw'] at hw hv
  obtain ⟨hvalue, hrest⟩ := scanFraction_cut hw
  rw [htake, hvalue, hw] at hv
  rw [hdrop, hrest, numeral_scanDecimal_cut hv]
  rfl

theorem numeral_scanHex (start : Nat) (cs : List Char) :
    numeral (scanHex start cs) =
      (Digit.read? 16 (cs.takeWhile Digit.isHex)).bind fun n =>
        if n ≤ maxHexLiteral then some (Number.ofNat n, cs.dropWhile Digit.isHex) else none := by
  unfold scanHex
  dsimp only [Left.span]
  cases Digit.read? 16 (cs.takeWhile Digit.isHex) with
  | none => rfl
  | some n =>
    dsimp only [Option.bind_some]
    split <;> rfl

theorem numeral_scanHex_cut {v : Float} (h : numeral (scanHex pos (x ++ z)) = some (v, y ++ z)) :
    numeral (scanHex pos' x) = some (v, y) := by
  rw [numeral_scanHex] at h ⊢
  obtain ⟨n, hn, h⟩ := Option.bind_eq_some_iff.1 h
  split at h
  · next hmax =>
    obtain ⟨rfl, hrest⟩ := Prod.mk.inj (Option.some.inj h)
    obtain ⟨htake, hdrop⟩ := span_cut hrest
    rw [← htake, hn, Option.bind_some, if_pos hmax, hdrop]
  · cases h

theorem length_of_numeral_scanHex {cs rest : List Char} {v : Float}
    (h : numeral (scanHex pos cs) = some (v, rest)) : rest.length ≤ cs.length := by
  rw [numeral_scanHex] at h
  obtain ⟨n, -, h⟩ := Option.bind_eq_some_iff.1 h
  split at h
  · obtain ⟨-, rfl⟩ := Prod.mk.inj (Option.some.inj h)
    exact length_dropWhile_le _ _
  · cases h

theorem outcome_scanNumber_hex (start : Nat) (hc : c = 'x' ∨ c = 'X') (cs : List Char) :
    outcome (scanNumber start '0' (c :: cs)) =
      (numeral (scanHex start cs)).map fun q => (.number q.1, q.2) := by
  rw [scanNumber_hex start hc]
  exact outcome_numberToken _ _ fun _ => ⟨rfl, rfl⟩

theorem outcome_scanNumber_cut (h : outcome (scanNumber pos c (x ++ z)) = some (token, y ++ z)) :
    outcome (scanNumber pos' c x) = some (token, y) := by
  by_cases hhex : c = '0' ∧ ((x ++ z).head? = some 'x' ∨ (x ++ z).head? = some 'X')
  · obtain ⟨rfl, hhead⟩ := hhex
    obtain ⟨d, ds, hd, hds⟩ := exists_hexMark hhead
    cases x with
    | nil =>
      obtain rfl : z = d :: ds := hds
      rw [List.nil_append, outcome_scanNumber_hex pos hd] at h
      obtain ⟨⟨v, rest⟩, hv, hq⟩ := Option.map_eq_some_iff.1 h
      obtain ⟨-, rfl⟩ := Prod.mk.inj hq
      have hlength := length_of_numeral_scanHex hv
      rw [List.length_append, List.length_cons] at hlength
      omega
    | cons d' x =>
      obtain ⟨rfl, -⟩ := List.cons.inj hds
      rw [List.cons_append, outcome_scanNumber_hex pos hd] at h
      obtain ⟨⟨v, rest⟩, hv, hq⟩ := Option.map_eq_some_iff.1 h
      obtain ⟨rfl, rfl⟩ := Prod.mk.inj hq
      rw [outcome_scanNumber_hex pos' hd, numeral_scanHex_cut hv]
      rfl
  · have hx : ¬(c = '0' ∧ (x.head? = some 'x' ∨ x.head? = some 'X')) := by
      cases x with
      | nil => simp
      | cons d x => exact hhex
    rw [scanNumber_whole pos hhex] at h
    rw [scanNumber_whole pos' hx]
    exact outcome_scanWholeNumber_cut h

/-! ### Names and strings -/

theorem outcome_scanName_cut
    (h : outcome (.ok (scanName pos c (x ++ z))) = some (token, y ++ z)) :
    outcome (.ok (scanName pos' c x)) = some (token, y) := by
  obtain ⟨rfl, hrest⟩ := Prod.mk.inj (Option.some.inj h)
  obtain ⟨htake, hdrop⟩ := span_cut (p := isNameContinue) hrest
  change some (Token.name (String.ofList (c :: x.takeWhile isNameContinue)),
      x.dropWhile isNameContinue) =
    some (Token.name (String.ofList (c :: (x ++ z).takeWhile isNameContinue)), y)
  rw [htake, hdrop]

theorem outcome_scanString_cut {q : Char} (hq : isQuote q = true) {start start' : Nat}
    (h : outcome (scanString q start [] pos (x ++ z)) = some (token, y ++ z)) :
    outcome (scanString q start' [] pos' x) = some (token, y) := by
  obtain ⟨w, -, hsplit, hread⟩ := readsQuoted_of_outcome hq h
  rw [← List.append_assoc] at hsplit
  rw [List.append_cancel_right hsplit]
  exact hread start' pos' y

theorem outcome_map_cons {cs : List Char} (r : Scan Token cs) :
    outcome (r.map fun t => t.cons (b := c)) = outcome r := by
  cases r <;> rfl

/-! ### Symbols -/

/-- An equals sign behind one of these characters belongs to the symbol. -/
theorem scanSymbol?_equals_ne {s : Symbol} (hc : c = '=' ∨ c = '!') (t : List Char) :
    scanSymbol? (c :: '=' :: t) ≠ some (s, '=' :: t) := by
  intro h
  have hlength := congrArg (Option.map fun q => q.2.length) h
  cases t with
  | nil => rcases hc with rfl | rfl <;> cases h
  | cons e t =>
    by_cases he : e = '='
    · subst he
      rcases hc with rfl | rfl <;>
        · have hlength : t.length = t.length + 2 := Option.some.inj hlength
          omega
    · have hnext (cs : List Char) (heq : e :: t = '=' :: cs) : False := he (List.cons.inj heq).1
      rcases hc with rfl | rfl
      · have hread : scanSymbol? ('=' :: '=' :: e :: t) = some (.equal, e :: t) := by
          rw [scanSymbol?]
          exact hnext
        rw [hread] at hlength
        simp at hlength
      · have hread : scanSymbol? ('!' :: '=' :: e :: t) = some (.notEqual, e :: t) := by
          rw [scanSymbol?]
          exact hnext
        rw [hread] at hlength
        simp at hlength

/-- The symbols that other symbols start with are told apart by what follows them. -/
theorem scanSymbol?_cut {s : Symbol} (h : scanSymbol? (s.text.toList ++ (y ++ z)) = some (s, y ++ z))
    (hpoint : y = ['.'] → z.head?.any isAsciiDigit = false) :
    scanSymbol? (s.text.toList ++ y) = some (s, y) := by
  cases y with
  | nil => cases s <;> rfl
  | cons d y =>
    have hnext {a : Char} (hd : d ≠ a) (cs : List Char) (heq : d :: y = a :: cs) : False :=
      hd (List.cons.inj heq).1
    cases s
    case star =>
      have hd : d ≠ '*' := by rintro rfl; cases h
      change scanSymbol? ('*' :: d :: y) = _
      rw [scanSymbol?]
      exact hnext hd
    case assign =>
      have hd : d ≠ '=' := by rintro rfl; exact scanSymbol?_equals_ne (.inl rfl) _ h
      have hd' : d ≠ '>' := by rintro rfl; cases h
      change scanSymbol? ('=' :: d :: y) = _
      rw [scanSymbol?]
      · exact fun cs heq => hd (List.cons.inj heq).1
      · exact hnext hd
      · exact hnext hd'
    case bang =>
      have hd : d ≠ '=' := by rintro rfl; exact scanSymbol?_equals_ne (.inr rfl) _ h
      change scanSymbol? ('!' :: d :: y) = _
      rw [scanSymbol?]
      · exact fun cs heq => hd (List.cons.inj heq).1
      · exact hnext hd
    case equal =>
      have hd : d ≠ '=' := by rintro rfl; cases h
      change scanSymbol? ('=' :: '=' :: d :: y) = _
      rw [scanSymbol?]
      exact hnext hd
    case notEqual =>
      have hd : d ≠ '=' := by rintro rfl; cases h
      change scanSymbol? ('!' :: '=' :: d :: y) = _
      rw [scanSymbol?]
      exact hnext hd
    case less =>
      have hd : d ≠ '=' := by rintro rfl; cases h
      change scanSymbol? ('<' :: d :: y) = _
      rw [scanSymbol?]
      exact hnext hd
    case greater =>
      have hd : d ≠ '=' := by rintro rfl; cases h
      change scanSymbol? ('>' :: d :: y) = _
      rw [scanSymbol?]
      exact hnext hd
    case question =>
      have hd : d ≠ '?' := by rintro rfl; cases h
      by_cases hdot : d = '.'
      · -- a digit follows the point, and it is in front of the cut
        subst hdot
        change (if (y ++ z).head?.any isAsciiDigit then _ else _) = _ at h
        change (if y.head?.any isAsciiDigit then _ else _) = _
        split at h
        · next hdigit =>
          cases y with
          | nil => exact absurd hdigit (by rw [List.nil_append, hpoint rfl]; decide)
          | cons d y => exact if_pos hdigit
        · cases h
      · change scanSymbol? ('?' :: d :: y) = _
        rw [scanSymbol?]
        · exact hnext hd
        · exact hnext hdot
    case questionDot =>
      change (if isAsciiDigit d then _ else _) = _ at h
      change (if isAsciiDigit d then _ else _) = _
      split at h
      · cases h
      · next hdigit => exact if_neg hdigit
    all_goals rfl

theorem outcome_scanSymbol_eq (pos : Nat) (c : Char) (cs : List Char) :
    outcome (scanSymbol pos c cs) = (scanSymbol? (c :: cs)).map fun q => (.symbol q.1, q.2) := by
  cases hs : scanSymbol? (c :: cs) with
  | none =>
    unfold scanSymbol
    split
    · next hsome =>
      rw [hs] at hsome
      cases hsome
    · split <;> rfl
  | some q =>
    obtain ⟨t, ht, htoken, hrest⟩ := scanSymbol_ok pos hs
    rw [ht]
    change some (t.value.1, t.rest) = some (Token.symbol q.1, q.2)
    rw [htoken, hrest]

theorem outcome_scanSymbol_cut (hpoint : y = ['.'] → z.head?.any isAsciiDigit = false)
    (h : outcome (scanSymbol pos c (x ++ z)) = some (token, y ++ z)) :
    outcome (scanSymbol pos' c x) = some (token, y) := by
  rw [outcome_scanSymbol_eq] at h ⊢
  obtain ⟨⟨s, rest⟩, hs, hq⟩ := Option.map_eq_some_iff.1 h
  obtain ⟨rfl, rfl⟩ := Prod.mk.inj hq
  have htext := eq_append_of_scanSymbol? hs
  rw [htext] at hs
  rw [← List.cons_append, ← List.append_assoc] at htext
  rw [List.append_cancel_right htext, scanSymbol?_cut hs hpoint]
  rfl

/-! ### Tokens -/

/-- A point in front of a digit is not a token of its own. -/
theorem length_of_outcome_scanPointNumber {cs rest : List Char}
    (hdigit : cs.head?.any isAsciiDigit = true)
    (h : outcome (scanPointNumber pos c cs) = some (token, rest)) : rest.length < cs.length := by
  rw [outcome_scanPointNumber] at h
  obtain ⟨⟨v, rest'⟩, hv, hq⟩ := Option.map_eq_some_iff.1 h
  obtain ⟨-, rfl⟩ := Prod.mk.inj hq
  obtain ⟨w, hw⟩ := exists_of_numeral_scanDecimal hv
  cases cs with
  | nil => cases hdigit
  | cons d cs =>
    have hd : isAsciiDigit d = true := hdigit
    rw [List.dropWhile_cons_of_pos hd] at hw
    have hlength := length_dropWhile_le isAsciiDigit cs
    rw [hw, List.length_append] at hlength
    exact Nat.lt_succ_of_le (Nat.le_of_add_left_le hlength)

theorem outcome_scanToken_cut (hpoint : y = ['.'] → z.head?.any isAsciiDigit = false)
    (h : outcome (scanToken pos c (x ++ z)) = some (token, y ++ z)) :
    outcome (scanToken pos' c x) = some (token, y) := by
  unfold scanToken at h ⊢
  split at h
  · next hdigit =>
    rw [if_pos hdigit]
    exact outcome_scanNumber_cut h
  next hdigit =>
  rw [if_neg hdigit]
  split at h
  · next hnumber =>
    obtain ⟨hc, hhead⟩ := hnumber
    have hx : x.head?.any isAsciiDigit = true := by
      cases x with
      | nil =>
        have hlength := length_of_outcome_scanPointNumber hhead h
        rw [List.nil_append, List.length_append] at hlength
        omega
      | cons d x => exact hhead
    rw [if_pos ⟨hc, hx⟩]
    exact outcome_scanPointNumber_cut h
  next hnumber =>
  have hx : ¬(c = '.' ∧ x.head?.any isAsciiDigit = true) := by
    rintro ⟨hc, hx⟩
    refine hnumber ⟨hc, ?_⟩
    cases x with
    | nil => cases hx
    | cons d x => exact hx
  rw [if_neg hx]
  split at h
  · next hq =>
    have hquote : isQuote c = true := by simpa [isQuote, or_assoc] using hq
    rw [if_pos hq, outcome_map_cons]
    rw [outcome_map_cons] at h
    exact outcome_scanString_cut hquote h
  next hq =>
  rw [if_neg hq]
  split at h
  · next hname =>
    rw [if_pos hname]
    exact outcome_scanName_cut h
  next hname =>
  rw [if_neg hname]
  exact outcome_scanSymbol_cut hpoint h

theorem exists_number_of_scanPointNumber {cs rest : List Char}
    (h : outcome (scanPointNumber pos c cs) = some (token, rest)) : ∃ v, token = .number v := by
  rw [outcome_scanPointNumber] at h
  obtain ⟨q, -, hq⟩ := Option.map_eq_some_iff.1 h
  exact ⟨q.1, (Prod.mk.inj hq).1.symm⟩

theorem exists_number_of_scanNumber {cs rest : List Char}
    (h : outcome (scanNumber pos c cs) = some (token, rest)) : ∃ v, token = .number v := by
  have hnumber {o : Option (Float × List Char)}
      (ho : o.map (fun q => (Token.number q.1, q.2)) = some (token, rest)) :
      ∃ v, token = .number v := by
    obtain ⟨q, -, hq⟩ := Option.map_eq_some_iff.1 ho
    exact ⟨q.1, (Prod.mk.inj hq).1.symm⟩
  by_cases hhex : c = '0' ∧ (cs.head? = some 'x' ∨ cs.head? = some 'X')
  · obtain ⟨rfl, hhead⟩ := hhex
    obtain ⟨d, ds, hd, rfl⟩ := exists_hexMark hhead
    rw [outcome_scanNumber_hex pos hd] at h
    exact hnumber h
  · rw [scanNumber_whole pos hhex, outcome_scanWholeNumber] at h
    exact hnumber h

/-- The first character tells what a token is. -/
theorem outcome_scanToken_cases {cs rest : List Char}
    (h : outcome (scanToken pos c cs) = some (token, rest)) :
    (isAsciiDigit c = true ∧ outcome (scanNumber pos c cs) = some (token, rest)) ∨
      (c = '.' ∧ cs.head?.any isAsciiDigit = true ∧
        outcome (scanPointNumber pos c cs) = some (token, rest)) ∨
      (isQuote c = true ∧ outcome (scanString c pos [] (pos + 1) cs) = some (token, rest)) ∨
      (∃ s, token = .name s) ∨ ∃ s, token = .symbol s := by
  unfold scanToken at h
  split at h
  · next hdigit => exact .inl ⟨hdigit, h⟩
  split at h
  · next hpoint => exact .inr (.inl ⟨hpoint.1, hpoint.2, h⟩)
  split at h
  · next hq =>
    rw [outcome_map_cons] at h
    exact .inr (.inr (.inl ⟨by simpa [isQuote, or_assoc] using hq, h⟩))
  split at h
  · obtain ⟨hname, -⟩ := Prod.mk.inj (Option.some.inj h)
    exact .inr (.inr (.inr (.inl ⟨_, hname.symm⟩)))
  · rw [outcome_scanSymbol_eq] at h
    obtain ⟨q, -, hq⟩ := Option.map_eq_some_iff.1 h
    exact .inr (.inr (.inr (.inr ⟨q.1, (Prod.mk.inj hq).1.symm⟩)))

end TemplateExpr.Lexer
