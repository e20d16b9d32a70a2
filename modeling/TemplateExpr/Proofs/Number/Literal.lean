import Mathlib.Data.List.TakeWhile
import TemplateExpr.Proofs.Number.Decimal
import TemplateExpr.Proofs.Token.Spacing

/-!
# Literals of numbers and texts of numbers

A text that is a single number token is a decimal or a hexadecimal integer
(`IsNumber.literalText`). The same text is converted to the same number (`LiteralText.parse_eq`),
unless it is a hexadecimal integer that does not fit a signed word (`parse_hex`). `LiteralText`
stands between the two readers, which share nothing but the conversion of a decimal: the lexer takes
a literal apart from left to right, while a text is first tried as a hexadecimal integer and as a
word.
-/

namespace TemplateExpr

open TemplateExpr.Text

/-! ### Grammar -/

namespace Number

variable {cs rest : List Char} {d : Decimal} {x : Float} {c : Char}

/-- A decimal as it is written in a literal. -/
inductive DecimalText : List Char → Decimal → Prop
  | whole {whole rest : List Char} {exp : Int} : (∀ c ∈ whole, isAsciiDigit c = true) →
    whole ≠ [] → Decimal.ExponentText rest exp →
    DecimalText (whole ++ rest) (.ofDigits whole [] exp)
  | point {whole fraction rest : List Char} {exp : Int} : (∀ c ∈ whole, isAsciiDigit c = true) →
    (∀ c ∈ fraction, isAsciiDigit c = true) → fraction ≠ [] → Decimal.ExponentText rest exp →
    DecimalText (whole ++ '.' :: (fraction ++ rest)) (.ofDigits whole fraction exp)

/-- The literal of a number. -/
inductive LiteralText : List Char → Float → Prop
  | hex {mark : Char} {ds : List Char} {n : Nat} : mark = 'x' ∨ mark = 'X' →
    Digit.read? 16 ds = some n → n ≤ Lexer.maxHexLiteral →
    LiteralText ('0' :: mark :: ds) (ofNat n)
  | decimal {cs : List Char} {d : Decimal} : DecimalText cs d → LiteralText cs d.toFloat

/-! ### Characters -/

/-- The characters of decimals. -/
def isDecimalChar (c : Char) : Bool := isAsciiDigit c || ['.', 'e', 'E', '+', '-'].contains c

theorem isDecimalChar_of_isAsciiDigit (h : isAsciiDigit c = true) : isDecimalChar c = true := by
  rw [isDecimalChar, h, Bool.true_or]

theorem isDecimalChar_of_exponentText {exp : Int} (h : Decimal.ExponentText cs exp) (hc : c ∈ cs) :
    isDecimalChar c = true := by
  have hmark {e : Char} (he : e = 'e' ∨ e = 'E') : isDecimalChar e = true := by
    rcases he with rfl | rfl <;> decide
  cases h with
  | none => cases hc
  | plain he _ hds =>
    rcases List.mem_cons.1 hc with rfl | hc
    · exact hmark he
    · exact isDecimalChar_of_isAsciiDigit (hds c hc)
  | plus he _ hds | minus he _ hds =>
    rcases List.mem_cons.1 hc with rfl | hc
    · exact hmark he
    rcases List.mem_cons.1 hc with rfl | hc
    · decide
    · exact isDecimalChar_of_isAsciiDigit (hds c hc)

theorem DecimalText.isDecimalChar (h : DecimalText cs d) (hc : c ∈ cs) :
    isDecimalChar c = true := by
  cases h with
  | whole hwhole _ hrest =>
    rcases List.mem_append.1 hc with hc | hc
    · exact isDecimalChar_of_isAsciiDigit (hwhole c hc)
    · exact isDecimalChar_of_exponentText hrest hc
  | point hwhole hfraction _ hrest =>
    simp only [List.mem_append, List.mem_cons] at hc
    rcases hc with hc | rfl | hc | hc
    · exact isDecimalChar_of_isAsciiDigit (hwhole c hc)
    · decide
    · exact isDecimalChar_of_isAsciiDigit (hfraction c hc)
    · exact isDecimalChar_of_exponentText hrest hc

/-- A decimal starts with a digit or with the point, and not with a sign. -/
theorem DecimalText.exists_cons (h : DecimalText cs d) :
    ∃ c rest, cs = c :: rest ∧ (isAsciiDigit c = true ∨ c = '.') := by
  cases h with
  | @whole whole rest _ hwhole hne _ =>
    obtain ⟨c, whole, rfl⟩ := List.exists_cons_of_ne_nil hne
    exact ⟨c, whole ++ rest, rfl, .inl (hwhole c List.mem_cons_self)⟩
  | @point whole fraction rest _ hwhole _ _ _ =>
    cases whole with
    | nil => exact ⟨'.', fraction ++ rest, rfl, .inr rfl⟩
    | cons c whole => exact ⟨c, _, rfl, .inl (hwhole c List.mem_cons_self)⟩

/-- There are no blanks in a literal. -/
theorem LiteralText.not_blank (h : LiteralText cs x) (hc : c ∈ cs) : isBlank c = false := by
  have hdecimal : Lexer.IsWordClass isDecimalChar :=
    Lexer.isWordClass_of_all (by decide) (by decide)
  cases h with
  | hex hmark hds _ =>
    simp only [List.mem_cons] at hc
    rcases hc with rfl | rfl | hc
    · decide
    · rcases hmark with rfl | rfl <;> decide
    · exact (Lexer.isWordClass_isHex c (Lexer.isHex_of_read? hds hc)).1
  | decimal htext => exact (hdecimal c (htext.isDecimalChar hc)).1

theorem trim_eq_self (h : ∀ c ∈ cs, isBlank c = false) : trim cs = cs := by
  have hdrop {cs : List Char} (h : ∀ c ∈ cs, isBlank c = false) : cs.dropWhile isBlank = cs := by
    cases cs with
    | nil => rfl
    | cons c cs => exact List.dropWhile_cons_of_neg (by simp [h c])
  have hreverse : ∀ c ∈ cs.reverse, isBlank c = false := fun c hc => h c (List.mem_reverse.1 hc)
  rw [trim, trimStart, hdrop h, trimEnd, hdrop hreverse, List.reverse_reverse]

/-! ### Conversion -/

theorem spanSign_eq_self (h : ∀ c ∈ cs.head?, c ≠ '-' ∧ c ≠ '+') : spanSign cs = (false, cs) := by
  have hminus (rest : List Char) (heq : cs = '-' :: rest) : False := by
    subst heq
    exact (h '-' rfl).1 rfl
  have hplus (rest : List Char) (heq : cs = '+' :: rest) : False := by
    subst heq
    exact (h '+' rfl).2 rfl
  simp only [spanSign]

theorem DecimalText.scanDecimal?_eq (h : DecimalText cs d) : scanDecimal? cs = some (d, []) := by
  cases h with
  | whole hwhole hne hrest => exact Decimal.scanDecimal?_whole hwhole hne hrest
  | point hwhole hfraction hne hrest =>
    exact Decimal.scanDecimal?_point _ _ hwhole hfraction (.inr hne) hrest

theorem DecimalText.readDecimal?_eq (h : DecimalText cs d) : readDecimal? cs = some d.toFloat := by
  have hsign : spanSign cs = (false, cs) := by
    obtain ⟨c, rest, rfl, hc⟩ := h.exists_cons
    refine spanSign_eq_self ?_
    rintro d ⟨⟩
    constructor
    · rintro rfl
      rcases hc with hc | hc <;> cases hc
    · rintro rfl
      rcases hc with hc | hc <;> cases hc
  rw [readDecimal?, hsign]
  simp only [h.scanDecimal?_eq, withSign, Bool.false_eq_true, if_false]

/-- A decimal is neither empty nor hexadecimal nor a word. -/
theorem DecimalText.parse_eq (h : DecimalText cs d) : parse cs = d.toFloat := by
  have hother {c : Char} (hc : c ∈ cs) : c ≠ 'x' ∧ c ≠ 'X' ∧ c ≠ 'I' := by
    have hclass := h.isDecimalChar hc
    refine ⟨?_, ?_, ?_⟩ <;> (rintro rfl; revert hclass; decide)
  have htrim : trim cs = cs := trim_eq_self fun c hc => (LiteralText.decimal h).not_blank hc
  have hword {s : String} (hs : 'I' ∈ s.toList) : String.ofList cs ≠ s := by
    rintro rfl
    rw [String.toList_ofList] at hs
    exact (hother hs).2.2 rfl
  unfold parse
  rw [htrim]
  dsimp only
  split
  · obtain ⟨_, _, hcons, -⟩ := h.exists_cons
    cases hcons
  · exact absurd rfl (hother (by simp)).1
  · exact absurd rfl (hother (by simp)).2.1
  · rw [if_neg (not_or.2 ⟨hword (by decide), hword (by decide)⟩), if_neg (hword (by decide)),
      h.readDecimal?_eq, Option.getD_some]

/-- A hexadecimal integer is converted if it fits a signed word. -/
theorem parse_hex {mark : Char} {ds : List Char} {n : Nat} (hmark : mark = 'x' ∨ mark = 'X')
    (hds : Digit.read? 16 ds = some n) (htrim : trim ('0' :: mark :: ds) = '0' :: mark :: ds) :
    parse ('0' :: mark :: ds) = if (n : Int) ≤ maxWord then ofNat n else nan := by
  -- a sign behind the mark would be no digit
  have hsign : spanSign ds = (false, ds) := by
    refine spanSign_eq_self fun c hc => ?_
    have hhex : Digit.isHex c = true := Lexer.isHex_of_read? hds (List.mem_of_mem_head? hc)
    constructor
    · rintro rfl
      cases hhex
    · rintro rfl
      cases hhex
  have hint : readInt? 16 ds = some (n : Int) := by
    rw [readInt?, hsign]
    dsimp only
    rw [hds]
    rfl
  have hword : fitsInt64 n = decide ((n : Int) ≤ maxWord) := by
    have hmin : minWord ≤ (n : Int) := Int.le_trans (by decide) (Int.natCast_nonneg n)
    rw [fitsInt64, decide_eq_true hmin, Bool.true_and]
  have hvalue : ofInt n = ofNat n := by
    rw [ofInt, if_neg (by omega), Int.natAbs_natCast]
  unfold parse
  rw [htrim]
  rcases hmark with rfl | rfl <;> simp only [hint, hword, decide_eq_true_eq, hvalue]

/-- If the text is hexadecimal, its number fits a signed word. -/
def FitsWord (cs : List Char) : Prop :=
  ∀ ds n, stripHexMark? cs = some ds → Digit.read? 16 ds = some n → n ≤ maxWord

/-- A literal is converted to the number that it stands for. -/
theorem LiteralText.parse_eq (h : LiteralText cs x) (hfits : FitsWord cs) : parse cs = x := by
  have htrim : trim cs = cs := trim_eq_self fun c hc => h.not_blank hc
  cases h with
  | decimal htext => exact htext.parse_eq
  | @hex mark ds n hmark hds _ =>
    have hword : (n : Int) ≤ maxWord := by
      rcases hmark with rfl | rfl <;> exact hfits ds n rfl hds
    rw [parse_hex hmark hds htrim, if_pos hword]

end Number

/-! ### Tokens -/

namespace Lexer

open TemplateExpr.Number

variable {cs : List Char} {c : Char} {x : Float} {pos : Nat}

theorem exponentText_of_digits {e : Char} (he : e = 'e' ∨ e = 'E')
    (hne : cs.drop (signWidth cs) ≠ [])
    (hall : ∀ d ∈ cs.drop (signWidth cs), isAsciiDigit d = true) :
    Decimal.ExponentText (e :: cs) (if cs.head? = some '-'
      then -(digitsValue (cs.drop (signWidth cs)) : Int)
      else digitsValue (cs.drop (signWidth cs))) := by
  by_cases hminus : cs.head? = some '-'
  · obtain ⟨ds, rfl⟩ := List.head?_eq_some_iff.1 hminus
    rw [if_pos hminus]
    exact .minus he hne hall
  rw [if_neg hminus]
  by_cases hplus : cs.head? = some '+'
  · obtain ⟨ds, rfl⟩ := List.head?_eq_some_iff.1 hplus
    exact .plus he hne hall
  · have hwidth : signWidth cs = 0 := if_neg (not_or.2 ⟨hplus, hminus⟩)
    rw [hwidth] at hne hall ⊢
    exact .plain he hne hall

/-- If the exponent takes up all of the text, the text is written as one. -/
theorem exponentText_of_scanExponent (h : (scanExponent cs).rest = []) :
    Decimal.ExponentText cs (scanExponent cs).value.1 := by
  cases cs with
  | nil => exact .none
  | cons e cs =>
    rw [scanExponent_cons] at h ⊢
    split at h
    · next hexponent =>
      obtain ⟨he, hne⟩ := hexponent
      -- the digits go on to the end of the text
      have hdrop : cs.drop (signWidth cs + (exponentDigits cs).length) = [] := h
      rw [← List.drop_drop, exponentDigits, drop_length_takeWhile] at hdrop
      have hall : ∀ d ∈ cs.drop (signWidth cs), isAsciiDigit d = true :=
        List.dropWhile_eq_nil_iff.1 hdrop
      have hdigits : exponentDigits cs = cs.drop (signWidth cs) :=
        List.takeWhile_eq_self_iff.2 hall
      have hne : cs.drop (signWidth cs) ≠ [] := by
        rw [← hdigits]
        simpa using hne
      rw [if_pos ⟨he, by simpa [hdigits] using hne⟩]
      show Decimal.ExponentText (e :: cs) (if cs.head? = some '-'
        then -(digitsValue (exponentDigits cs) : Int) else digitsValue (exponentDigits cs))
      rw [hdigits]
      exact exponentText_of_digits he hne hall
    · -- without an exponent the character `e` would be left
      cases h

/-- If a decimal takes up all of the text, its exponent takes up all that stands behind its digits.
-/
theorem of_numeral_scanDecimal {whole fraction : List Char}
    (h : (numeral (scanDecimal pos whole fraction cs)).map (fun q => (Token.number q.1, q.2)) =
      some (.number x, [])) :
    (scanExponent cs).rest = [] ∧
      x = (Decimal.ofDigits whole fraction (scanExponent cs).value.1).toFloat := by
  obtain ⟨⟨v, rest⟩, hv, hq⟩ := Option.map_eq_some_iff.1 h
  obtain ⟨hx, rfl⟩ := Prod.mk.inj hq
  obtain rfl := Token.number.inj hx
  rw [numeral_scanDecimal] at hv
  split at hv
  · cases hv
  · obtain ⟨hx, hrest⟩ := Prod.mk.inj (Option.some.inj hv)
    exact ⟨hrest, hx.symm⟩

/-- The digits behind a point. -/
theorem takeWhile_ne_nil (hdigit : cs.head?.any isAsciiDigit = true) :
    cs.takeWhile isAsciiDigit ≠ [] := by
  cases cs with
  | nil => cases hdigit
  | cons d cs =>
    have hd : isAsciiDigit d = true := hdigit
    rw [List.takeWhile_cons_of_pos hd]
    exact List.cons_ne_nil _ _

theorem decimalText_of_scanWholeNumber (hc : isAsciiDigit c = true)
    (h : outcome (scanWholeNumber pos c cs) = some (.number x, [])) :
    ∃ d, DecimalText (c :: cs) d ∧ x = d.toFloat := by
  rw [outcome_scanWholeNumber] at h
  obtain ⟨hrest, hx⟩ := of_numeral_scanDecimal h
  have hsplit := List.takeWhile_append_dropWhile (p := isAsciiDigit) (l := cs)
  have hwhole : ∀ d ∈ c :: cs.takeWhile isAsciiDigit, isAsciiDigit d = true :=
    List.forall_mem_cons.2 ⟨hc, fun d hd => of_mem_takeWhile hd⟩
  -- from here on it only counts what the two parts of the text are made of
  generalize cs.takeWhile isAsciiDigit = whole at hsplit hwhole hx
  generalize cs.dropWhile isAsciiDigit = rest at hsplit hrest hx
  have hexponent := exponentText_of_scanExponent hrest
  subst hsplit
  by_cases hpoint : rest.head? = some '.'
  · obtain ⟨more, rfl⟩ := List.head?_eq_some_iff.1 hpoint
    obtain ⟨hvalue, hrest'⟩ := scanFraction_point more
    by_cases hdigit : more.head?.any isAsciiDigit = true
    · rw [if_pos hdigit] at hvalue hrest'
      rw [hrest'] at hexponent
      rw [hvalue, hrest'] at hx
      have htext := DecimalText.point hwhole (fun d hd => of_mem_takeWhile hd)
        (takeWhile_ne_nil hdigit) hexponent
      rw [List.takeWhile_append_dropWhile] at htext
      exact ⟨_, htext, hx⟩
    · -- a point without digits behind it would be left
      rw [if_neg hdigit] at hrest'
      rw [hrest'] at hexponent
      exact absurd rfl (hexponent.ne_of_mem_head? rfl).2
  · obtain ⟨hvalue, hrest'⟩ := scanFraction_other hpoint
    rw [hrest'] at hexponent
    rw [hvalue, hrest'] at hx
    exact ⟨_, .whole hwhole (List.cons_ne_nil _ _) hexponent, hx⟩

theorem decimalText_of_scanPointNumber (hdigit : cs.head?.any isAsciiDigit = true)
    (h : outcome (scanPointNumber pos c cs) = some (.number x, [])) :
    ∃ d, DecimalText ('.' :: cs) d ∧ x = d.toFloat := by
  rw [outcome_scanPointNumber] at h
  obtain ⟨hrest, hx⟩ := of_numeral_scanDecimal h
  have hpoint : DecimalText
      ([] ++ '.' :: (cs.takeWhile isAsciiDigit ++ cs.dropWhile isAsciiDigit)) _ :=
    .point nofun (fun d hd => of_mem_takeWhile hd) (takeWhile_ne_nil hdigit)
      (exponentText_of_scanExponent hrest)
  rw [List.takeWhile_append_dropWhile, List.nil_append] at hpoint
  exact ⟨_, hpoint, hx⟩

theorem literalText_of_scanHex {mark : Char} (hmark : mark = 'x' ∨ mark = 'X')
    (h : outcome (scanNumber pos '0' (mark :: cs)) = some (.number x, [])) :
    LiteralText ('0' :: mark :: cs) x := by
  rw [outcome_scanNumber_hex pos hmark, numeral_scanHex] at h
  obtain ⟨⟨v, rest⟩, hv, hq⟩ := Option.map_eq_some_iff.1 h
  obtain ⟨hvalue, rfl⟩ := Prod.mk.inj hq
  obtain rfl : v = x := Token.number.inj hvalue
  obtain ⟨n, hn, hv⟩ := Option.bind_eq_some_iff.1 hv
  split at hv
  · next hmax =>
    obtain ⟨rfl, hdrop⟩ := Prod.mk.inj (Option.some.inj hv)
    -- nothing but digits stands behind the mark
    have htake : cs.takeWhile Digit.isHex = cs :=
      List.takeWhile_eq_self_iff.2 (List.dropWhile_eq_nil_iff.1 hdrop)
    rw [htake] at hn
    exact .hex hmark hn hmax
  · cases hv

/-- A number that takes up all of a text is written as a literal. -/
theorem literalText_of_outcome (h : outcome (scanToken pos c cs) = some (.number x, [])) :
    LiteralText (c :: cs) x := by
  rcases outcome_scanToken_cases h with
    ⟨hc, h⟩ | ⟨rfl, hdigit, h⟩ | ⟨hq, h⟩ | ⟨_, hname⟩ | ⟨_, hsymbol⟩
  · by_cases hhex : c = '0' ∧ (cs.head? = some 'x' ∨ cs.head? = some 'X')
    · obtain ⟨rfl, hhead⟩ := hhex
      obtain ⟨mark, ds, hmark, rfl⟩ := exists_hexMark hhead
      exact literalText_of_scanHex hmark h
    · rw [scanNumber_whole pos hhex] at h
      obtain ⟨d, hd, rfl⟩ := decimalText_of_scanWholeNumber hc h
      exact .decimal hd
  · obtain ⟨d, hd, rfl⟩ := decimalText_of_scanPointNumber hdigit h
    exact .decimal hd
  · obtain ⟨_, _, -, -, hstring⟩ := spelling_of_outcome (Cache.isQuote_ne_backslash hq) h
    cases hstring
  · cases hname
  · cases hsymbol

end Lexer

/-- The text is a single number token. -/
def IsNumber (text : List Char) (x : Float) : Prop :=
  tokenize text = .ok [⟨.number x, ⟨0, byteLength text⟩⟩]

/-- A hexadecimal integer of at most 64 bits is a number token. -/
theorem isNumber_of_read? {mark : Char} {ds : List Char} {n : Nat} (hmark : mark = 'x' ∨ mark = 'X')
    (hds : Digit.read? 16 ds = some n) (hmax : n ≤ Lexer.maxHexLiteral) :
    IsNumber ('0' :: mark :: ds) (Number.ofNat n) := by
  have hhex : ∀ d ∈ ds, Digit.isHex d = true := fun _ hd => Lexer.isHex_of_read? hds hd
  have htake : ds.takeWhile Digit.isHex = ds := List.takeWhile_eq_self_iff.2 hhex
  have hdrop : ds.dropWhile Digit.isHex = [] := List.dropWhile_eq_nil_iff.2 hhex
  refine Lexer.Reads.tokenize_eq ⟨⟨rfl, rfl⟩, fun pos => ?_⟩
  rw [List.append_nil]
  show Lexer.outcome (Lexer.scanNumber pos '0' (mark :: ds)) = _
  rw [Lexer.outcome_scanNumber_hex pos hmark, Lexer.numeral_scanHex, htake, hds, Option.bind_some,
    if_pos hmax, hdrop]
  rfl

theorem IsNumber.literalText {text : List Char} {x : Float} (h : IsNumber text x) :
    Number.LiteralText text x := by
  have hlexes := lexes_tokenize h
  generalize hts : [(⟨.number x, ⟨0, byteLength text⟩⟩ : Spanned Token)] = ts at hlexes
  cases hlexes with
  | nil => cases hts
  | @cons _ gap c w behind token ts _ hread hbehind =>
    obtain ⟨ht, rfl⟩ := List.cons.inj hts
    obtain ⟨rfl, hspan⟩ := Spanned.mk.inj ht
    obtain ⟨hstart, hfinish⟩ := Span.mk.inj hspan
    -- the token reaches from one end of the text to the other
    obtain rfl : gap = [] := Lexer.eq_nil_of_start hstart.symm
    obtain rfl : behind = [] := by
      rw [List.nil_append, ← List.cons_append, byteLength_append, Nat.zero_add] at hfinish
      exact Lexer.eq_nil_of_start hfinish
    have hscan := hread.outcome 0
    rw [List.append_nil] at hscan ⊢
    exact Lexer.literalText_of_outcome hscan

end TemplateExpr
