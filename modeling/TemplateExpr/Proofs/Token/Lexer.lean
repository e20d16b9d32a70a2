import Mathlib.Tactic.IntervalCases
import TemplateExpr.Proofs.Cache.Comment
import TemplateExpr.Proofs.Partial

/-!
# Tokens of texts with the same normal form

Every scanner reads the same value off two texts that are alike, and leaves texts that are alike;
or it fails on both. So texts with the same normal form and quiet comments have the same tokens
(`tokenize_alike`), though not at the same offsets.
-/

namespace TemplateExpr.Lexer

open TemplateExpr.Text TemplateExpr.Cache

variable {c : Char} {x y : List Char} {p : Char → Bool}

/-! ### Classes of characters -/

/-- The blanks. -/
def blanks : List Char :=
  ([9, 10, 11, 12, 13, 0x20, 0x85, 0xA0, 0x1680, 0x2000, 0x2001, 0x2002, 0x2003, 0x2004, 0x2005,
    0x2006, 0x2007, 0x2008, 0x2009, 0x200A, 0x2028, 0x2029, 0x202F, 0x205F, 0x3000] : List Nat).map
    Char.ofNat

theorem mem_blanks (h : isBlank c = true) : c ∈ blanks := by
  rw [blanks, List.mem_map]
  refine ⟨c.toNat, ?_, Char.ofNat_toNat c⟩
  simp only [isBlank, Bool.or_eq_true, Bool.and_eq_true, decide_eq_true_eq, beq_iff_eq] at h
  generalize c.toNat = n at h
  rcases h with (((((((((⟨hl, hu⟩ | h) | h) | h) | h) | ⟨hl, hu⟩) | h) | h) | h) | h) | h
  all_goals first
    | (rw [h]; decide)
    | (interval_cases n <;> decide)

/-- No blank and no quotation mark belongs to the class. -/
def IsWordClass (p : Char → Bool) : Prop :=
  ∀ c, p c = true → isBlank c = false ∧ isQuote c = false ∧ c ≠ '/'

theorem isWordClass_of_all (hblank : (blanks.all fun c => !p c) = true)
    (hmark : (['\'', '"', '\x60', '/'].all fun c => !p c) = true) : IsWordClass p := by
  intro c hc
  have hnot {cs : List Char} (hcs : (cs.all fun c => !p c) = true) : c ∉ cs := by
    intro hmem
    have hfalse := List.all_eq_true.1 hcs c hmem
    rw [hc] at hfalse
    cases hfalse
  have hmarks := hnot hmark
  simp only [List.mem_cons, List.not_mem_nil, or_false, not_or] at hmarks
  refine ⟨?_, ?_, hmarks.2.2.2⟩
  · cases h : isBlank c with
    | false => rfl
    | true => exact absurd (mem_blanks h) (hnot hblank)
  · simp [isQuote, hmarks]

theorem isWordClass_isAsciiDigit : IsWordClass isAsciiDigit :=
  isWordClass_of_all (by decide) (by decide)

theorem isWordClass_isHex : IsWordClass Digit.isHex :=
  isWordClass_of_all (by decide) (by decide)

/-- Names do not go on over a blank or a quotation mark. -/
theorem isWordClass_name : IsWordClass fun c => isNameStart c || isNameContinue c :=
  isWordClass_of_all (by decide +kernel) (by decide +kernel)

theorem isWordClass_isNameContinue : IsWordClass isNameContinue :=
  fun c hc => isWordClass_name c (Bool.or_eq_true_iff.2 (.inr hc))

theorem isWordClass_isNameStart : IsWordClass isNameStart :=
  fun c hc => isWordClass_name c (Bool.or_eq_true_iff.2 (.inl hc))

/-! ### Runs of characters -/

theorem head?_any_eq (hp : ∀ c, p c = true → isBlank c = false) (h : Alike x y) :
    x.head?.any p = y.head?.any p := by
  have hle {x y : List Char} (h : Alike x y) (hx : x.head?.any p = true) :
      y.head?.any p = true := by
    cases x with
    | nil => cases hx
    | cons c x =>
      obtain ⟨y, rfl⟩ := h.symm.exists_cons (hp c hx)
      exact hx
  exact Bool.eq_iff_iff.2 ⟨hle h, hle h.symm⟩

/-- Behind a character of a word, texts go on alike. -/
theorem IsWordClass.tail (hp : IsWordClass p) (hc : p c = true) (h : Alike x (c :: y)) :
    ∃ x', x = c :: x' ∧ Alike x' y := by
  obtain ⟨hb, hq, hne⟩ := hp c hc
  exact h.tail hb hq (startsComment_of_ne hne y)

/-- The characters of a class at the start of both texts are the same. -/
theorem IsWordClass.span (hp : IsWordClass p) (h : Alike x y) :
    x.takeWhile p = y.takeWhile p ∧ Alike (x.dropWhile p) (y.dropWhile p) := by
  induction x generalizing y with
  | nil =>
    have hy := head?_any_eq (fun c hc => (hp c hc).1) h.symm
    cases y with
    | nil => exact ⟨rfl, h⟩
    | cons d y =>
      have hd : p d = false := hy
      rw [List.takeWhile_cons_of_neg (by simp [hd]), List.dropWhile_cons_of_neg (by simp [hd])]
      exact ⟨rfl, h⟩
  | cons c x ih =>
    cases hc : p c with
    | true =>
      obtain ⟨y, rfl, hxy⟩ := hp.tail hc h.symm
      obtain ⟨htake, hdrop⟩ := ih hxy.symm
      rw [List.takeWhile_cons_of_pos hc, List.takeWhile_cons_of_pos hc,
        List.dropWhile_cons_of_pos hc, List.dropWhile_cons_of_pos hc, htake]
      exact ⟨rfl, hdrop⟩
    | false =>
      have hy := head?_any_eq (fun c hc => (hp c hc).1) h.symm
      rw [List.takeWhile_cons_of_neg (by simp [hc]), List.dropWhile_cons_of_neg (by simp [hc])]
      cases y with
      | nil => exact ⟨rfl, h⟩
      | cons d y =>
        have hd : p d = false := hy.trans hc
        rw [List.takeWhile_cons_of_neg (by simp [hd]), List.dropWhile_cons_of_neg (by simp [hd])]
        exact ⟨rfl, h⟩

/-! ### Numbers -/

variable {α β γ : Type}

/-- The same value with texts left that are alike. -/
def SameLeft (l : Left α x) (u : Left α y) : Prop := l.value = u.value ∧ Alike l.rest u.rest

/-- The same value, apart from the offset behind it, with texts left that are alike. -/
def SameUpTo (l : Left (α × Nat) x) (u : Left (α × Nat) y) : Prop :=
  l.value.1 = u.value.1 ∧ Alike l.rest u.rest

theorem isBlank_of_digit (h : isAsciiDigit c = true) : isBlank c = false :=
  (isWordClass_isAsciiDigit c h).1

theorem scanDigits_alike (h : Alike x y) : SameLeft (scanDigits x) (scanDigits y) :=
  IsWordClass.span isWordClass_isAsciiDigit h

theorem scanFraction_point (cs : List Char) :
    (scanFraction ('.' :: cs)).value = (if cs.head?.any isAsciiDigit then
      cs.takeWhile isAsciiDigit else []) ∧
    (scanFraction ('.' :: cs)).rest = (if cs.head?.any isAsciiDigit then
      cs.dropWhile isAsciiDigit else '.' :: cs) := by
  cases cs with
  | nil => exact ⟨rfl, rfl⟩
  | cons d cs =>
    rw [scanFraction]
    cases h : isAsciiDigit d with
    | true => simp [h, scanDigits, Left.span, Left.cons]
    | false => simp [h, Left.all]

theorem scanFraction_other (h : x.head? ≠ some '.') :
    (scanFraction x).value = [] ∧ (scanFraction x).rest = x := by
  rw [scanFraction.eq_2]
  · exact ⟨rfl, rfl⟩
  · rintro d rest rfl
    exact h rfl

theorem scanFraction_alike (h : Alike x y) : SameLeft (scanFraction x) (scanFraction y) := by
  by_cases hx : x.head? = some '.'
  · obtain ⟨x', rfl⟩ := List.head?_eq_some_iff.1 hx
    obtain ⟨y', rfl, hxy⟩ := h.symm.tail rfl rfl (startsComment_of_ne (by decide) x')
    obtain ⟨hvalue, hrest⟩ := scanFraction_point x'
    obtain ⟨hvalue', hrest'⟩ := scanFraction_point y'
    obtain ⟨htake, hdrop⟩ := IsWordClass.span isWordClass_isAsciiDigit hxy.symm
    rw [SameLeft, hvalue, hvalue', hrest, hrest',
      head?_any_eq (fun c => isBlank_of_digit) hxy.symm, htake]
    split
    · exact ⟨rfl, hdrop⟩
    · exact ⟨rfl, h⟩
  · have hy : y.head? ≠ some '.' := by
      intro hy
      obtain ⟨y', rfl⟩ := List.head?_eq_some_iff.1 hy
      obtain ⟨x', rfl⟩ := h.exists_cons rfl
      exact hx rfl
    obtain ⟨hvalue, hrest⟩ := scanFraction_other hx
    obtain ⟨hvalue', hrest'⟩ := scanFraction_other hy
    rw [SameLeft, hvalue, hvalue', hrest, hrest']
    exact ⟨rfl, h⟩

theorem head?_eq_iff (hb : isBlank c = false) (h : Alike x y) :
    x.head? = some c ↔ y.head? = some c := by
  have himp {x y : List Char} (h : Alike x y) (hx : x.head? = some c) : y.head? = some c := by
    obtain ⟨x', rfl⟩ := List.head?_eq_some_iff.1 hx
    obtain ⟨y', rfl⟩ := h.symm.exists_cons hb
    rfl
  exact ⟨himp h, himp h.symm⟩

/-- The number of characters of the sign in front of an exponent. -/
def signWidth (cs : List Char) : Nat :=
  if cs.head? = some '+' ∨ cs.head? = some '-' then 1 else 0

theorem signWidth_alike (h : Alike x y) :
    signWidth x = signWidth y ∧ Alike (x.drop (signWidth x)) (y.drop (signWidth x)) := by
  have hsame : signWidth x = signWidth y := by
    simp only [signWidth, head?_eq_iff (c := '+') rfl h, head?_eq_iff (c := '-') rfl h]
  refine ⟨hsame, ?_⟩
  rw [signWidth]
  split
  next hsign =>
    rcases hsign with hsign | hsign <;>
      · obtain ⟨x', rfl⟩ := List.head?_eq_some_iff.1 hsign
        obtain ⟨y', rfl, hxy⟩ := h.symm.tail rfl rfl (startsComment_of_ne (by decide) x')
        exact hxy.symm
  next => exact h

/-- The digits of the exponent that may follow the letter in front of `cs`. -/
def exponentDigits (cs : List Char) : List Char :=
  (cs.drop (signWidth cs)).takeWhile isAsciiDigit

theorem scanExponent_cons (c : Char) (cs : List Char) :
    scanExponent (c :: cs) =
      if (c = 'e' ∨ c = 'E') ∧ !(exponentDigits cs).isEmpty then
        (Left.drop (signWidth cs + (exponentDigits cs).length)
          (if cs.head? = some '-' then -(Number.digitsValue (exponentDigits cs) : Int)
            else Number.digitsValue (exponentDigits cs),
            1 + signWidth cs + (exponentDigits cs).length)).cons c
      else .all (0, 0) := by
  by_cases hsign : cs.head? = some '+' ∨ cs.head? = some '-'
  · rcases hsign with h | h <;> obtain ⟨rest, rfl⟩ := List.head?_eq_some_iff.1 h <;> rfl
  · have hwidth : signWidth cs = 0 := if_neg hsign
    rw [scanExponent]
    · simp only [exponentDigits, hwidth]
    · rintro rest rfl
      exact hsign (Or.inl rfl)
    · rintro rest rfl
      exact hsign (Or.inr rfl)

theorem drop_length_takeWhile (p : Char → Bool) (cs : List Char) :
    cs.drop (cs.takeWhile p).length = cs.dropWhile p := by
  have h := congrArg (List.drop (cs.takeWhile p).length)
    (List.takeWhile_append_dropWhile (p := p) (l := cs))
  rw [List.drop_left] at h
  exact h.symm

theorem exponentDigits_alike (h : Alike x y) :
    exponentDigits x = exponentDigits y ∧
      Alike (x.drop (signWidth x + (exponentDigits x).length))
        (y.drop (signWidth y + (exponentDigits y).length)) := by
  obtain ⟨hsign, hdrop⟩ := signWidth_alike h
  obtain ⟨htake, hrest⟩ := IsWordClass.span isWordClass_isAsciiDigit hdrop
  rw [hsign] at htake hrest hdrop
  rw [← List.drop_drop, ← List.drop_drop, exponentDigits, exponentDigits, drop_length_takeWhile,
    drop_length_takeWhile, hsign]
  exact ⟨htake, hrest⟩

theorem scanExponent_alike (h : Alike x y) : SameLeft (scanExponent x) (scanExponent y) := by
  have hother {z : List Char} (hz : ¬(z.head? = some 'e' ∨ z.head? = some 'E')) :
      (scanExponent z).value = (0, 0) ∧ (scanExponent z).rest = z := by
    cases z with
    | nil => exact ⟨rfl, rfl⟩
    | cons d z =>
      rw [scanExponent_cons, if_neg (fun h' => hz (by simpa using h'.1))]
      exact ⟨rfl, rfl⟩
  by_cases hx : x.head? = some 'e' ∨ x.head? = some 'E'
  · obtain ⟨c, hc, hcx⟩ : ∃ c, (c = 'e' ∨ c = 'E') ∧ x.head? = some c := by
      rcases hx with hx | hx
      · exact ⟨'e', Or.inl rfl, hx⟩
      · exact ⟨'E', Or.inr rfl, hx⟩
    obtain ⟨x', rfl⟩ := List.head?_eq_some_iff.1 hcx
    have hstart : isNameStart c = true := by rcases hc with rfl | rfl <;> rfl
    obtain ⟨y', rfl, hxy⟩ := IsWordClass.tail isWordClass_isNameStart hstart h.symm
    obtain ⟨hds, hrest⟩ := exponentDigits_alike hxy.symm
    obtain ⟨hsign, -⟩ := signWidth_alike hxy.symm
    rw [SameLeft, scanExponent_cons, scanExponent_cons, hds, hsign]
    rw [hds, hsign] at hrest
    simp only [head?_eq_iff (c := '-') rfl hxy]
    split
    · exact ⟨rfl, hrest⟩
    · exact ⟨rfl, h⟩
  · have hy : ¬(y.head? = some 'e' ∨ y.head? = some 'E') := by
      rwa [← head?_eq_iff rfl h, ← head?_eq_iff rfl h]
    obtain ⟨hvalue, hrest⟩ := hother hx
    obtain ⟨hvalue', hrest'⟩ := hother hy
    rw [SameLeft, hvalue, hvalue', hrest, hrest']
    exact ⟨rfl, h⟩

/-- The same token, apart from the offset behind it, with texts left that are alike. -/
def SameToken (t : Taken (Token × Nat) x) (u : Taken (Token × Nat) y) : Prop :=
  t.value.1 = u.value.1 ∧ Alike t.rest u.rest

theorem scanDecimal_alike (start start' : Nat) (whole fraction : List Char) (h : Alike x y) :
    FailTogether SameUpTo (scanDecimal start whole fraction x)
      (scanDecimal start' whole fraction y) := by
  obtain ⟨hvalue, hrest⟩ := scanExponent_alike h
  rw [scanDecimal, scanDecimal, head?_any_eq (fun c hc => (isWordClass_isNameStart c hc).1) hrest]
  split
  · trivial
  · rw [hvalue]
    exact ⟨rfl, hrest⟩

theorem scanHex_alike (start start' : Nat) (h : Alike x y) :
    FailTogether SameUpTo (scanHex start x) (scanHex start' y) := by
  obtain ⟨hvalue, hrest⟩ := IsWordClass.span isWordClass_isHex h
  simp only [scanHex, Left.span, hvalue]
  split
  · split
    · exact ⟨rfl, hrest⟩
    · trivial
  · trivial

theorem scanWholeNumber_alike (start start' : Nat) (c : Char) (h : Alike x y) :
    FailTogether SameToken (scanWholeNumber start c x) (scanWholeNumber start' c y) := by
  obtain ⟨hwhole, hmore⟩ := scanDigits_alike h
  obtain ⟨hfraction, hrest⟩ := scanFraction_alike hmore
  have hdecimal := scanDecimal_alike start start' (c :: (scanDigits x).value)
    (scanFraction (scanDigits x).rest).value hrest
  rw [scanWholeNumber, scanWholeNumber, ← hwhole, ← hfraction]
  exact hdecimal.map fun l u hlu => ⟨congrArg Token.number hlu.1, hlu.2⟩

theorem scanPointNumber_alike (start start' : Nat) (c : Char) (h : Alike x y) :
    FailTogether SameToken (scanPointNumber start c x) (scanPointNumber start' c y) := by
  obtain ⟨hdigits, hrest⟩ := scanDigits_alike h
  have hdecimal := scanDecimal_alike start start' [] (scanDigits x).value hrest
  rw [scanPointNumber, scanPointNumber, ← hdigits]
  exact hdecimal.map fun l u hlu => ⟨congrArg Token.number hlu.1, hlu.2⟩

theorem scanNumber_hex (start : Nat) (hc : c = 'x' ∨ c = 'X') (cs : List Char) :
    scanNumber start '0' (c :: cs) =
      (scanHex start cs).map fun l => numberToken '0' (l.cons c) := by
  rw [scanNumber, if_pos ⟨rfl, hc⟩]

theorem scanNumber_whole (start : Nat) {d : Char} {cs : List Char}
    (h : ¬(d = '0' ∧ (cs.head? = some 'x' ∨ cs.head? = some 'X'))) :
    scanNumber start d cs = scanWholeNumber start d cs := by
  cases cs with
  | nil => rw [scanNumber]
  | cons c cs => rw [scanNumber, if_neg (by simpa using h)]

theorem exists_hexMark {cs : List Char} (h : cs.head? = some 'x' ∨ cs.head? = some 'X') :
    ∃ d ds, (d = 'x' ∨ d = 'X') ∧ cs = d :: ds := by
  rcases h with h | h
  · obtain ⟨ds, rfl⟩ := List.head?_eq_some_iff.1 h
    exact ⟨'x', ds, .inl rfl, rfl⟩
  · obtain ⟨ds, rfl⟩ := List.head?_eq_some_iff.1 h
    exact ⟨'X', ds, .inr rfl, rfl⟩

theorem scanNumber_alike (start start' : Nat) (c : Char) (h : Alike x y) :
    FailTogether SameToken (scanNumber start c x) (scanNumber start' c y) := by
  by_cases hx : c = '0' ∧ (x.head? = some 'x' ∨ x.head? = some 'X')
  · obtain ⟨rfl, hx⟩ := hx
    obtain ⟨d, x', hd, rfl⟩ := exists_hexMark hx
    have hstart : isNameStart d = true := by rcases hd with rfl | rfl <;> rfl
    obtain ⟨y', rfl, hxy⟩ := IsWordClass.tail isWordClass_isNameStart hstart h.symm
    rw [scanNumber_hex start hd, scanNumber_hex start' hd]
    exact (scanHex_alike start start' hxy.symm).map fun l u hlu =>
      ⟨congrArg Token.number hlu.1, hlu.2⟩
  · have hy : ¬(c = '0' ∧ (y.head? = some 'x' ∨ y.head? = some 'X')) := by
      rwa [← head?_eq_iff rfl h, ← head?_eq_iff rfl h]
    rw [scanNumber_whole start hx, scanNumber_whole start' hy]
    exact scanWholeNumber_alike start start' c h

/-! ### Names -/

theorem scanName_alike (pos pos' : Nat) (c : Char) (h : Alike x y) :
    SameToken (scanName pos c x) (scanName pos' c y) := by
  obtain ⟨hname, hrest⟩ := IsWordClass.span isWordClass_isNameContinue h
  refine ⟨?_, hrest⟩
  simp only [scanName, Taken.map, Left.behind, Left.span, hname]

/-! ### Strings -/

variable {q : Char} {cs : List Char}

/-- The token that is read and the text that is left, without offsets. -/
def outcome (r : Scan Token cs) : Option (Token × List Char) :=
  r.toOption.map fun t => (t.value.1, t.rest)

theorem outcome_string_nil (q : Char) (start pos : Nat) (acc : List Char) :
    outcome (scanString q start acc pos []) = none := by
  rw [scanString.eq_def]
  rfl

theorem outcome_string_mark (q : Char) (start pos : Nat) (acc cs : List Char) :
    outcome (scanString q start acc pos (q :: cs)) =
      some (.string (String.ofList acc.reverse), cs) := by
  rw [scanString.eq_def]
  simp only [if_pos]
  rfl

theorem outcome_string_char (start pos : Nat) (acc cs : List Char) (hc : c ≠ q) (hb : c ≠ '\\') :
    outcome (scanString q start acc pos (c :: cs)) =
      outcome (scanString q start (c :: acc) (pos + c.utf8Size) cs) := by
  rw [scanString.eq_def]
  simp only [if_neg hc, if_pos hb]
  cases scanString q start (c :: acc) (pos + c.utf8Size) cs <;> rfl

theorem outcome_string_backslash (start pos : Nat) (acc : List Char) (hq : q ≠ '\\') :
    outcome (scanString q start acc pos ['\\']) = none := by
  rw [scanString.eq_def]
  simp only [if_neg (Ne.symm hq), ne_eq, not_true_eq_false, if_false]
  rfl

theorem outcome_string_two (start pos : Nat) (acc cs : List Char) (hq : q ≠ '\\') :
    outcome (scanString q start acc pos ('\\' :: 'x' :: cs)) =
      (codePoint? (cs.take 2)).bind fun e =>
        outcome (scanString q start (e :: acc) (pos + 2 + byteLength (cs.take 2)) (cs.drop 2)) := by
  rw [scanString.eq_def]
  simp only [if_neg (Ne.symm hq), ne_eq, not_true_eq_false, if_false]
  simp only [scanFixedEscape]
  cases codePoint? (cs.take 2) with
  | none => rfl
  | some e =>
    simp only [Left.drop, Option.bind_some]
    cases scanString q start (e :: acc) (pos + 2 + byteLength (cs.take 2)) (cs.drop 2) <;> rfl

theorem outcome_string_four (start pos : Nat) (acc : List Char) (hq : q ≠ '\\')
    (hcs : cs.head? ≠ some '\x7b') :
    outcome (scanString q start acc pos ('\\' :: 'u' :: cs)) =
      (codePoint? (cs.take 4)).bind fun e =>
        outcome (scanString q start (e :: acc) (pos + 2 + byteLength (cs.take 4)) (cs.drop 4)) := by
  rw [scanString, if_neg (Ne.symm hq), if_neg (by simp)]
  · simp only [scanFixedEscape]
    cases codePoint? (cs.take 4) with
    | none => rfl
    | some e =>
      simp only [Left.drop, Option.bind_some]
      cases scanString q start (e :: acc) (pos + 2 + byteLength (cs.take 4)) (cs.drop 4) <;> rfl

  · rintro rest rfl
    exact hcs rfl

theorem outcome_string_braced (start pos : Nat) (acc cs : List Char) (hq : q ≠ '\\') :
    ∃ pos', outcome (scanString q start acc pos ('\\' :: 'u' :: '\x7b' :: cs)) =
      match cs.dropWhile (· != '\x7d') with
      | [] => none
      | _ :: rest => (codePoint? (cs.takeWhile (· != '\x7d'))).bind fun e =>
        outcome (scanString q start (e :: acc) pos' rest) := by
  refine ⟨pos + 3 + byteLength (cs.takeWhile (· != '\x7d')) + 1, ?_⟩
  rw [scanString.eq_def]
  simp only [if_neg (Ne.symm hq), ne_eq, not_true_eq_false, if_false]
  simp only [scanBracedEscape]
  split
  next e he =>
    split at he
    next hdrop => rw [hdrop]; rfl
    next hdrop =>
      rw [hdrop]
      split at he
      next => cases he
      next hnone => rw [hnone]; rfl
  next e pos' rest h he =>
    split at he
    next => cases he
    next hdrop =>
      rw [hdrop]
      split at he
      next hsome =>
        cases he
        rw [hsome]
        simp only [Option.bind_some]
        cases scanString q start (e :: acc)
          (pos + 3 + byteLength (cs.takeWhile (· != '\x7d')) + 1) rest <;> rfl
      next => cases he

/-- The characters so far behind the escape of a character. -/
def escapeOnto (e : Char) (acc : List Char) : List Char :=
  match plainEscape e with
  | some e => e :: acc
  | none => acc

theorem outcome_string_plain (start pos : Nat) (acc cs : List Char) (hq : q ≠ '\\')
    (hx : c ≠ 'x') (hu : c ≠ 'u') :
    outcome (scanString q start acc pos ('\\' :: c :: cs)) =
      outcome (scanString q start (escapeOnto c acc) (pos + 1 + c.utf8Size) cs) := by
  rw [scanString, if_neg (Ne.symm hq), if_neg (by simp)]
  · show outcome (Except.map _
      (scanString q start (escapeOnto c acc) (pos + 1 + c.utf8Size) cs)) = _
    cases scanString q start (escapeOnto c acc) (pos + 1 + c.utf8Size) cs <;> rfl
  · exact fun h => hx h
  · exact fun _ h => absurd h hu
  · exact fun h => hu h

/-! ### What strings are written like -/

/-- The digits of the escape of a character, with the text that stands behind its backslash. -/
inductive NumericEscape (ds : List Char) : List Char → Prop
  | two : ds.length = 2 → NumericEscape ds ('x' :: ds)
  | four : ds.length = 4 → NumericEscape ds ('u' :: ds)
  | braced : NumericEscape ds ('u' :: '\x7b' :: (ds ++ ['\x7d']))

/-- `w` is written for the characters `s` between marks `q`; `Denotes` tells what the digits of an
escape stand for. -/
inductive Spelling (Denotes : List Char → Char → Prop) (q : Char) : List Char → List Char → Prop
  | nil : Spelling Denotes q [] []
  | char {c : Char} {w s : List Char} :
    c ≠ q → c ≠ '\\' → Spelling Denotes q w s → Spelling Denotes q (c :: w) (c :: s)
  | plain {c : Char} {w s : List Char} : c ≠ 'x' → c ≠ 'u' → Spelling Denotes q w s →
    Spelling Denotes q ('\\' :: c :: w) ((plainEscape c).toList ++ s)
  | numeric {ds e w s : List Char} {c : Char} :
    NumericEscape ds e → Denotes ds c → Spelling Denotes q w s →
    Spelling Denotes q ('\\' :: (e ++ w)) (c :: s)

/-- What is read as the digits of a character: a hexadecimal numeral, behind a plus sign or not. -/
def DenotesCode (ds : List Char) (c : Char) : Prop := codePoint? ds = some c

instance (ds : List Char) (c : Char) : Decidable (DenotesCode ds c) :=
  inferInstanceAs (Decidable (_ = _))

theorem isHex_of_fold {base acc n : Nat} {ds : List Char} (hbase : base = 16)
    (h : Digit.fold base acc ds = some n) {d : Char} (hd : d ∈ ds) : Digit.isHex d = true := by
  induction ds generalizing acc with
  | nil => cases hd
  | cons c ds ih =>
    subst hbase
    obtain ⟨v, hv, h⟩ := Option.bind_eq_some_iff.1 h
    rcases List.mem_cons.1 hd with rfl | hd
    · rw [Digit.isHex, hv]; rfl
    · exact ih h hd

theorem isHex_of_read? {n : Nat} {ds : List Char} (h : Digit.read? 16 ds = some n) {d : Char}
    (hd : d ∈ ds) : Digit.isHex d = true := by
  rw [Digit.read?] at h
  split at h
  · cases h
  · exact isHex_of_fold rfl h hd

theorem read?_ne_sign {n : Nat} {ds : List Char} : Digit.read? 16 ('+' :: ds) ≠ some n :=
  fun h => absurd (isHex_of_read? h List.mem_cons_self) (by decide)

theorem codePoint?_eq_some_iff {ds : List Char} : codePoint? ds = some c ↔
    Digit.read? 16 ds = some c.toNat ∨
      ∃ ds', ds = '+' :: ds' ∧ Digit.read? 16 ds' = some c.toNat := by
  have hvalid (n : Nat) : (if n.isValidChar then some (Char.ofNat n) else none) = some c ↔
      some n = some c.toNat := by
    rw [Option.ite_none_right_eq_some, Option.some.injEq, Option.some.injEq]
    constructor
    · rintro ⟨hn, rfl⟩
      rw [Char.ofNat, dif_pos hn]
      rfl
    · rintro rfl
      exact ⟨c.valid, Char.ofNat_toNat c⟩
  have hnone : (none : Option Char) = some c ↔ (none : Option Nat) = some c.toNat :=
    iff_of_false nofun nofun
  unfold codePoint?
  split <;> dsimp only
  · next ds =>
    refine Iff.trans (b := Digit.read? 16 ds = some c.toNat) ?_ ?_
    · cases Digit.read? 16 ds with
      | none => exact hnone
      | some n => exact hvalid n
    constructor
    · exact fun h => .inr ⟨ds, rfl, h⟩
    · rintro (h | ⟨ds', hds, h⟩)
      · exact absurd h read?_ne_sign
      · obtain ⟨-, rfl⟩ := List.cons.inj hds
        exact h
  · next hsign =>
    refine Iff.trans (b := Digit.read? 16 ds = some c.toNat) ?_ ?_
    · cases Digit.read? 16 ds with
      | none => exact hnone
      | some n => exact hvalid n
    constructor
    · exact .inl
    · rintro (h | ⟨ds', rfl, -⟩)
      · exact h
      · exact absurd rfl (hsign ds')

/-- The digits of an escape hold neither a quotation mark nor a backslash nor a brace. -/
theorem ne_of_mem_codePoint? {ds : List Char} {d : Char} (h : codePoint? ds = some c)
    (hd : d ∈ ds) : isQuote d = false ∧ d ≠ '\\' ∧ d ≠ '\x7b' ∧ d ≠ '\x7d' := by
  have hhex {n : Nat} {ds : List Char} (h : Digit.read? 16 ds = some n) (hd : d ∈ ds) :
      isQuote d = false ∧ d ≠ '\\' ∧ d ≠ '\x7b' ∧ d ≠ '\x7d' := by
    have hd := isHex_of_read? h hd
    refine ⟨(isWordClass_isHex d hd).2.1, ?_, ?_, ?_⟩ <;> (rintro rfl; cases hd)
  rcases codePoint?_eq_some_iff.1 h with hds | ⟨ds', rfl, hds⟩
  · exact hhex hds hd
  · rcases List.mem_cons.1 hd with rfl | hd
    · decide
    · exact hhex hds hd

theorem ne_of_isQuote (hq : isQuote q = true) (h : isQuote c = false) : c ≠ q := by
  rintro rfl
  rw [hq] at h
  cases h

namespace Spelling

variable {w s ds e : List Char}

theorem mono {P P' : List Char → Char → Prop} (hP : ∀ ds c, P ds c → P' ds c)
    (h : Spelling P q w s) : Spelling P' q w s := by
  induction h with
  | nil => exact .nil
  | char hq hb _ ih => exact .char hq hb ih
  | plain hx hu _ ih => exact .plain hx hu ih
  | numeric he hc _ ih => exact .numeric he (hP _ _ hc) ih

theorem closed_append {t : List Char} (hds : ∀ d ∈ ds, d ≠ q ∧ d ≠ '\\') (ht : Closed q t) :
    Closed q (ds ++ t) := by
  induction ds with
  | nil => exact ht
  | cons d ds ih =>
    obtain ⟨hd, hb⟩ := hds d List.mem_cons_self
    exact .cons hd hb (ih fun d hd => hds d (List.mem_cons_of_mem _ hd))

/-- The mark behind what is written for a string is the first one that closes it. -/
theorem closed (hq : isQuote q = true) (h : Spelling DenotesCode q w s) : Closed q (w ++ [q]) := by
  induction h with
  | nil => exact .mark
  | char hc hb _ ih => exact .cons hc hb ih
  | plain _ _ _ ih => exact .escape _ ih
  | @numeric ds e w s c he hcode _ ih =>
    have hds : ∀ d ∈ ds, d ≠ q ∧ d ≠ '\\' := by
      intro d hd
      obtain ⟨hquote, hb, -⟩ := ne_of_mem_codePoint? hcode hd
      exact ⟨ne_of_isQuote hq hquote, hb⟩
    cases he with
    | two =>
      have hclosed := closed_append hds ih
      rw [← List.append_assoc] at hclosed
      exact .escape 'x' hclosed
    | four =>
      have hclosed := closed_append hds ih
      rw [← List.append_assoc] at hclosed
      exact .escape 'u' hclosed
    | braced =>
      have hopening : '\x7b' ≠ q := ne_of_isQuote hq rfl
      have hclosing : '\x7d' ≠ q := ne_of_isQuote hq rfl
      have hclosed := closed_append hds (.cons hclosing (by decide) ih)
      simpa using Closed.escape 'u' (.cons hopening (by decide) hclosed)

theorem reverse_plain (c : Char) (s acc : List Char) :
    ((plainEscape c).toList ++ s).reverse ++ acc = s.reverse ++ escapeOnto c acc := by
  rw [escapeOnto]
  cases plainEscape c with
  | none => rfl
  | some d => simp

/-- The digits of an escape are read, and reading goes on behind them. -/
theorem outcome_numeric (hq : isQuote q = true) (he : NumericEscape ds e)
    (hc : codePoint? ds = some c) (start pos : Nat) (acc r : List Char) : ∃ pos',
      outcome (scanString q start acc pos ('\\' :: (e ++ r))) =
        outcome (scanString q start (c :: acc) pos' r) := by
  have hq' := isQuote_ne_backslash hq
  cases he with
  | two hlength =>
    refine ⟨pos + 2 + byteLength ds, ?_⟩
    rw [List.cons_append, outcome_string_two start pos acc _ hq', List.take_left' hlength,
      List.drop_left' hlength, hc, Option.bind_some]
  | four hlength =>
    have hbrace : (ds ++ r).head? ≠ some '\x7b' := by
      cases ds with
      | nil => cases hlength
      | cons d ds =>
        intro hd
        obtain rfl := Option.some.inj hd
        exact (ne_of_mem_codePoint? hc List.mem_cons_self).2.2.1 rfl
    refine ⟨pos + 2 + byteLength ds, ?_⟩
    rw [List.cons_append, outcome_string_four start pos acc hq' hbrace, List.take_left' hlength,
      List.drop_left' hlength, hc, Option.bind_some]
  | braced =>
    have hdigits : ∀ d ∈ ds, (d != '\x7d') = true :=
      fun d hd => bne_iff_ne.2 (ne_of_mem_codePoint? hc hd).2.2.2
    obtain ⟨pos', hpos'⟩ := outcome_string_braced start pos acc (ds ++ '\x7d' :: r) hq'
    rw [List.dropWhile_append_of_pos hdigits, List.takeWhile_append_of_pos hdigits,
      List.dropWhile_cons_of_neg (by decide), List.takeWhile_cons_of_neg (by decide),
      List.append_nil, hc] at hpos'
    refine ⟨pos', ?_⟩
    rw [List.cons_append, List.cons_append, List.append_assoc, List.singleton_append, hpos']
    rfl

/-- What is written for a string is read, and reading goes on behind it. -/
theorem outcome_append (hq : isQuote q = true) (h : Spelling DenotesCode q w s)
    (start pos : Nat) (acc r : List Char) : ∃ pos',
      outcome (scanString q start acc pos (w ++ r)) =
        outcome (scanString q start (s.reverse ++ acc) pos' r) := by
  have hq' := isQuote_ne_backslash hq
  induction h generalizing pos acc with
  | nil => exact ⟨pos, rfl⟩
  | @char c w s hc hb _ ih =>
    obtain ⟨pos', ih⟩ := ih (pos + c.utf8Size) (c :: acc)
    refine ⟨pos', ?_⟩
    rw [List.cons_append, outcome_string_char start pos acc _ hc hb, ih, List.reverse_cons,
      List.append_assoc, List.singleton_append]
  | @plain c w s hx hu _ ih =>
    obtain ⟨pos', ih⟩ := ih (pos + 1 + c.utf8Size) (escapeOnto c acc)
    refine ⟨pos', ?_⟩
    rw [List.cons_append, List.cons_append, outcome_string_plain start pos acc _ hq' hx hu, ih,
      reverse_plain]
  | @numeric ds e w s c he hc _ ih =>
    obtain ⟨mid, hmid⟩ := outcome_numeric hq he hc start pos acc (w ++ r)
    obtain ⟨pos', ih⟩ := ih mid (c :: acc)
    refine ⟨pos', ?_⟩
    rw [List.cons_append, List.append_assoc, hmid, ih, List.reverse_cons, List.append_assoc,
      List.singleton_append]

/-- What is written for a string is read as the string. -/
theorem outcome_mark (hq : isQuote q = true) (h : Spelling DenotesCode q w s) (start pos : Nat)
    (acc rest : List Char) : outcome (scanString q start acc pos (w ++ q :: rest)) =
      some (.string (String.ofList (acc.reverse ++ s)), rest) := by
  obtain ⟨pos', hpos'⟩ := h.outcome_append hq start pos acc (q :: rest)
  rw [hpos', outcome_string_mark, List.reverse_append, List.reverse_reverse]

end Spelling

/-- What is read as a string is written for it. -/
theorem spelling_of_outcome {start pos : Nat} {acc cs rest : List Char} {token : Token}
    (hq : q ≠ '\\') (h : outcome (scanString q start acc pos cs) = some (token, rest)) :
    ∃ w s, Spelling DenotesCode q w s ∧ cs = w ++ q :: rest ∧
      token = .string (String.ofList (acc.reverse ++ s)) := by
  have htaken {n : Nat} {cs w : List Char} (hdrop : cs.drop n = w ++ q :: rest) :
      (cs.take n).length = n := by
    have hlength := congrArg List.length hdrop
    rw [List.length_drop, List.length_append, List.length_cons] at hlength
    rw [List.length_take]
    omega
  induction hn : cs.length using Nat.strongRecOn generalizing start pos acc cs with
  | ind n ih =>
    subst hn
    cases cs with
    | nil => rw [outcome_string_nil] at h; cases h
    | cons c cs =>
      by_cases hc : c = q
      · subst hc
        rw [outcome_string_mark] at h
        cases h
        exact ⟨[], [], .nil, rfl, by rw [List.append_nil]⟩
      by_cases hb : c = '\\'
      · subst hb
        cases cs with
        | nil => rw [outcome_string_backslash start pos acc hq] at h; cases h
        | cons c cs =>
          by_cases hx : c = 'x'
          · subst hx
            rw [outcome_string_two start pos acc cs hq] at h
            obtain ⟨e, he, h⟩ := Option.bind_eq_some_iff.1 h
            obtain ⟨w, s, hspell, hdrop, rfl⟩ := ih _ (by simp; omega) h rfl
            refine ⟨_, _, .numeric (.two (htaken hdrop)) he hspell, ?_, by simp⟩
            rw [List.cons_append, List.cons_append, List.cons_append, List.append_assoc, ← hdrop,
              List.take_append_drop]
          by_cases hu : c = 'u'
          · subst hu
            by_cases hbrace : cs.head? = some '\x7b'
            · obtain ⟨cs, rfl⟩ := List.head?_eq_some_iff.1 hbrace
              obtain ⟨pos', hpos'⟩ := outcome_string_braced start pos acc cs hq
              rw [hpos'] at h
              have hsplit := List.takeWhile_append_dropWhile (p := (· != '\x7d')) (l := cs)
              have hlength := length_dropWhile_le (· != '\x7d') cs
              have hd := List.head?_dropWhile_not (· != '\x7d') cs
              split at h
              next => cases h
              next d after hdrop =>
                rw [hdrop] at hsplit hlength hd
                obtain rfl : d = '\x7d' := by simpa using hd
                obtain ⟨e, he, h⟩ := Option.bind_eq_some_iff.1 h
                obtain ⟨w, s, hspell, rfl, rfl⟩ := ih _ (by simp at hlength ⊢; omega) h rfl
                generalize cs.takeWhile (· != '\x7d') = ds at hsplit he
                refine ⟨_, _, .numeric .braced he hspell, ?_, by simp⟩
                simp [← hsplit]
            · rw [outcome_string_four start pos acc hq hbrace] at h
              obtain ⟨e, he, h⟩ := Option.bind_eq_some_iff.1 h
              obtain ⟨w, s, hspell, hdrop, rfl⟩ := ih _ (by simp; omega) h rfl
              refine ⟨_, _, .numeric (.four (htaken hdrop)) he hspell, ?_, by simp⟩
              rw [List.cons_append, List.cons_append, List.cons_append, List.append_assoc, ← hdrop,
                List.take_append_drop]
          · rw [outcome_string_plain start pos acc cs hq hx hu] at h
            have hlength : cs.length < ('\\' :: c :: cs).length := by
              simp only [List.length_cons]
              omega
            obtain ⟨w, s, hspell, rfl, rfl⟩ := ih _ hlength h rfl
            refine ⟨_, _, .plain hx hu hspell, rfl, ?_⟩
            rw [← List.reverse_reverse s, ← List.reverse_append, ← Spelling.reverse_plain]
            simp
      · rw [outcome_string_char start pos acc cs hc hb] at h
        obtain ⟨w, s, hspell, rfl, rfl⟩ := ih _ (by simp) h rfl
        exact ⟨_, _, .char hc hb hspell, rfl, by simp⟩

/-- A string that is read is a quoted text, and is read off that text whatever follows it. -/
theorem readsQuoted_of_outcome {start pos : Nat} {acc cs rest : List Char} {token : Token}
    (hq : isQuote q = true) (h : outcome (scanString q start acc pos cs) = some (token, rest)) :
    ∃ t, Closed q t ∧ cs = t ++ rest ∧ ∀ start pos rest,
      outcome (scanString q start acc pos (t ++ rest)) = some (token, rest) := by
  obtain ⟨w, s, hspell, rfl, rfl⟩ := spelling_of_outcome (isQuote_ne_backslash hq) h
  refine ⟨w ++ [q], hspell.closed hq, by simp, fun start pos rest => ?_⟩
  rw [List.append_assoc, List.singleton_append]
  exact hspell.outcome_mark hq start pos acc rest


theorem exists_of_outcome {r : Scan Token cs} {token : Token} {rest : List Char}
    (h : outcome r = some (token, rest)) : ∃ t, r = .ok t ∧ t.value.1 = token ∧ t.rest = rest := by
  cases r with
  | error e => cases h
  | ok t =>
    obtain ⟨rfl, rfl⟩ := Prod.mk.inj (Option.some.inj h)
    exact ⟨t, rfl, rfl, rfl⟩

theorem scanString_alike (start pos start' pos' : Nat) (acc : List Char) (hq : isQuote q = true)
    (h : Alike (q :: x) (q :: y)) :
    FailTogether SameToken (scanString q start acc pos x) (scanString q start' acc pos' y) := by
  have hother {x y : List Char} (h : Alike (q :: x) (q :: y)) (start pos start' pos' : Nat)
      (t : Taken (Token × Nat) x) (ht : scanString q start acc pos x = .ok t) :
      ∃ u, scanString q start' acc pos' y = .ok u ∧ SameToken t u := by
    have houtcome : outcome (scanString q start acc pos x) = some (t.value.1, t.rest) := by
      rw [ht]; rfl
    obtain ⟨text, htext, hx, hread⟩ := readsQuoted_of_outcome hq houtcome
    rcases h.quote_cases hq with ⟨text', x', y', htext', hx', rfl, hxy⟩ | ⟨hopen, -⟩
    · obtain ⟨rfl, hrest⟩ :=
        eq_of_closed_append (isQuote_ne_backslash hq) htext htext' (hx.symm.trans hx')
      obtain ⟨u, hu, htoken, hurest⟩ := exists_of_outcome (hread start' pos' y')
      refine ⟨u, hu, htoken.symm, ?_⟩
      rwa [hrest, hurest]
    · exact absurd hx (hopen text _ htext)
  refine .of_ok (hother h start pos start' pos') fun u hu => ?_
  obtain ⟨t, ht, -⟩ := hother h.symm start' pos' start pos u hu
  exact ⟨t, ht⟩

/-! ### Symbols -/

/-- Characters that are neither blanks nor quotation marks. -/
def isSolid (c : Char) : Bool := !isBlank c && !isQuote c

theorem isSolid_iff : isSolid c = true ↔ isBlank c = false ∧ isQuote c = false := by
  simp [isSolid]

theorem head_ne_of_append {w r : List Char} (hr : r.head?.any isSolid = false)
    (hc : isSolid c = true) (h : ∀ t, w = c :: t → False) (t : List Char) (ht : w ++ r = c :: t) :
    False := by
  cases w with
  | nil =>
    rw [List.nil_append] at ht
    rw [ht] at hr
    exact absurd (hc.symm.trans hr) (by decide)
  | cons b w =>
    obtain ⟨rfl, -⟩ := List.cons.inj ht
    exact h w rfl

theorem heads_ne_of_append {w r : List Char} {d : Char} (hr : r.head?.any isSolid = false)
    (hc : isSolid c = true) (hd : isSolid d = true) (h : ∀ t, w = c :: d :: t → False)
    (t : List Char) (ht : w ++ r = c :: d :: t) : False := by
  cases w with
  | nil =>
    rw [List.nil_append] at ht
    rw [ht] at hr
    exact absurd (hc.symm.trans hr) (by decide)
  | cons b w =>
    obtain ⟨rfl, hrest⟩ := List.cons.inj ht
    exact head_ne_of_append hr hd (fun t ht => h t (by rw [ht])) t hrest

/-- A symbol reaches no further than the next blank or quotation mark, and what is read there does
not depend on what follows. -/
theorem scanSymbol?_append {r : List Char} (hr : r.head?.any isSolid = false) (w : List Char) :
    scanSymbol? (w ++ r) = (scanSymbol? w).map fun p => (p.1, p.2 ++ r) := by
  fun_cases scanSymbol? w
  case case34 =>
    rw [scanSymbol?]
    · rfl
    all_goals first
      | exact head_ne_of_append hr rfl (by assumption)
      | exact heads_ne_of_append hr rfl rfl (by assumption)
      | exact fun t => head_ne_of_append hr rfl (by assumption) (_ :: _ :: t)
  case case31 cs hd =>
    rw [List.cons_append, List.cons_append, scanSymbol?, if_pos]
    · rfl
    · cases cs with
      | nil => cases hd
      | cons d cs => exact hd
  case case32 cs hd =>
    rw [List.cons_append, List.cons_append, scanSymbol?, if_neg]
    · rfl
    · cases cs with
      | cons d cs => exact hd
      | nil =>
        cases r with
        | nil => exact hd
        | cons d r =>
          intro hdigit
          obtain ⟨hb, hq, -⟩ := isWordClass_isAsciiDigit d hdigit
          exact absurd ((isSolid_iff.2 ⟨hb, hq⟩).symm.trans hr) (by decide)
  all_goals first
    | rfl
    | rw [List.cons_append, scanSymbol?]
      · rfl
      all_goals first
        | exact head_ne_of_append hr rfl (by assumption)
        | exact heads_ne_of_append hr rfl rfl (by assumption)
    | rw [List.cons_append, List.cons_append, scanSymbol?]
      · rfl
      · exact head_ne_of_append hr rfl (by assumption)

theorem eq_append_of_scanSymbol? {w rest : List Char} {s : Symbol}
    (h : scanSymbol? w = some (s, rest)) : w = s.text.toList ++ rest := by
  unfold scanSymbol? at h
  split at h
  case h_31 => split at h <;> (cases h; rfl)
  all_goals cases h
  all_goals rfl

theorem takeWhile_isSolid_of_settle (h : settle x = settle y) :
    x.takeWhile isSolid = y.takeWhile isSolid := by
  induction x generalizing y with
  | nil =>
    rcases eq_nil_or_blank_of_settle (h.symm.trans settle_nil) with rfl | ⟨b, y', rfl, hb⟩
    · rfl
    · rw [List.takeWhile_cons_of_neg (by simp [isSolid, hb])]
      rfl
  | cons c x ih =>
    cases hc : isSolid c with
    | true =>
      obtain ⟨hb, hq⟩ := isSolid_iff.1 hc
      obtain ⟨y, rfl, hxy⟩ := eq_cons_of_settle hb hq h.symm
      rw [List.takeWhile_cons_of_pos hc, List.takeWhile_cons_of_pos hc, ih hxy.symm]
    | false =>
      rw [List.takeWhile_cons_of_neg (by simp [hc])]
      cases y with
      | nil => rfl
      | cons d y =>
        cases hd : isSolid d with
        | false => rw [List.takeWhile_cons_of_neg (by simp [hd])]
        | true =>
          obtain ⟨hb, hq⟩ := isSolid_iff.1 hd
          obtain ⟨x', hx', -⟩ := eq_cons_of_settle hb hq h
          obtain ⟨rfl, -⟩ := List.cons.inj hx'
          rw [hc] at hd
          cases hd

/-- Behind the characters of a word, texts go on alike. -/
theorem alike_of_append {u : List Char} (hu : ∀ c ∈ u, isSolid c = true ∧ c ≠ '/')
    (h : Alike (u ++ x) (u ++ y)) : Alike x y := by
  induction u with
  | nil => exact h
  | cons c u ih =>
    obtain ⟨hsolid, hne⟩ := hu c List.mem_cons_self
    obtain ⟨hb, hq⟩ := isSolid_iff.1 hsolid
    obtain ⟨x', hx', hxy⟩ := h.tail hb hq (startsComment_of_ne hne _)
    obtain ⟨-, rfl⟩ := List.cons.inj hx'
    exact ih (fun c hc => hu c (List.mem_cons_of_mem _ hc)) hxy

theorem ne_slash_of_mem_text {s : Symbol} (hs : s ≠ .slash) (hc : c ∈ s.text.toList) :
    isSolid c = true ∧ c ≠ '/' := by
  have hall : s.text.toList.all (fun c => isSolid c && c != '/') = true := by
    cases s <;> first | rfl | exact absurd rfl hs
  simpa using List.all_eq_true.1 hall c hc

theorem any_isSolid_dropWhile (cs : List Char) :
    (cs.dropWhile isSolid).head?.any isSolid = false := by
  have h := List.head?_dropWhile_not isSolid cs
  cases hhead : (cs.dropWhile isSolid).head? with
  | none => rfl
  | some d => rw [hhead] at h; simpa using h

theorem scanSymbol?_alike {s : Symbol} {rest : List Char} (h : Alike x y)
    (hc : startsComment x = false) (hs : scanSymbol? x = some (s, rest)) :
    ∃ rest', scanSymbol? y = some (s, rest') ∧ Alike rest rest' := by
  have hx := List.takeWhile_append_dropWhile (p := isSolid) (l := x)
  have hy := List.takeWhile_append_dropWhile (p := isSolid) (l := y)
  rw [← takeWhile_isSolid_of_settle h.settle] at hy
  rw [← hx, scanSymbol?_append (any_isSolid_dropWhile x)] at hs
  obtain ⟨⟨s', tail⟩, hw, hp⟩ := Option.map_eq_some_iff.1 hs
  obtain ⟨rfl, rfl⟩ := Prod.mk.inj hp
  have htext := eq_append_of_scanSymbol? hw
  have hsy := scanSymbol?_append (any_isSolid_dropWhile y) (x.takeWhile isSolid)
  rw [hy, hw, Option.map_some] at hsy
  refine ⟨_, hsy, ?_⟩
  rw [htext, List.append_assoc] at hx hy
  rw [← hx, ← hy] at h
  by_cases hslash : s' = .slash
  · subst hslash
    rw [← hx] at hc
    obtain ⟨y', hy', halike⟩ := h.symm.tail rfl rfl hc
    obtain ⟨-, rfl⟩ := List.cons.inj hy'
    exact halike.symm
  · exact alike_of_append (fun c hc => ne_slash_of_mem_text hslash hc) h

theorem scanSymbol_ok (pos : Nat) {s : Symbol} {rest : List Char}
    (hs : scanSymbol? (c :: cs) = some (s, rest)) :
    ∃ t, scanSymbol pos c cs = .ok t ∧ t.value.1 = .symbol s ∧ t.rest = rest := by
  unfold scanSymbol
  split
  next s' rest' hs' =>
    obtain ⟨rfl, rfl⟩ := Prod.mk.inj (Option.some.inj (hs.symm.trans hs'))
    exact ⟨_, rfl, rfl, rfl⟩
  next hnone => rw [hs] at hnone; cases hnone

theorem exists_of_scanSymbol {pos : Nat} {t : Taken (Token × Nat) (c :: cs)}
    (h : scanSymbol pos c cs = .ok t) :
    ∃ s, scanSymbol? (c :: cs) = some (s, t.rest) ∧ t.value.1 = .symbol s := by
  unfold scanSymbol at h
  split at h
  next s rest hs =>
    obtain rfl := Except.ok.inj h
    exact ⟨s, hs, rfl⟩
  next => split at h <;> cases h

theorem scanSymbol_alike (pos pos' : Nat) (h : Alike (c :: x) (c :: y))
    (hc : startsComment (c :: x) = false) :
    FailTogether SameToken (scanSymbol pos c x) (scanSymbol pos' c y) := by
  have hother {x y : List Char} (h : Alike (c :: x) (c :: y))
      (hc : startsComment (c :: x) = false) (pos pos' : Nat) (t : Taken (Token × Nat) (c :: x))
      (ht : scanSymbol pos c x = .ok t) :
      ∃ u, scanSymbol pos' c y = .ok u ∧ SameToken t u := by
    obtain ⟨s, hs, htoken⟩ := exists_of_scanSymbol ht
    obtain ⟨rest', hs', halike⟩ := scanSymbol?_alike h hc hs
    obtain ⟨u, hu, hutoken, hurest⟩ := scanSymbol_ok pos' hs'
    refine ⟨u, hu, htoken.trans hutoken.symm, ?_⟩
    rwa [hurest]
  refine .of_ok (hother h hc pos pos') fun u hu => ?_
  obtain ⟨t, ht, -⟩ := hother h.symm (h.startsComment_eq.symm.trans hc) pos' pos u hu
  exact ⟨t, ht⟩

/-! ### Tokens -/

theorem scanToken_alike (pos pos' : Nat) (h : Alike (c :: x) (c :: y))
    (hb : isBlank c = false) (hc : startsComment (c :: x) = false) :
    FailTogether SameToken (scanToken pos c x) (scanToken pos' c y) := by
  unfold scanToken
  by_cases hq : c = '\x27' ∨ c = '"' ∨ c = '\x60'
  · have hquote : isQuote c = true := by simpa [isQuote, or_assoc] using hq
    have hdigit : isAsciiDigit c = false := by rcases hq with rfl | rfl | rfl <;> rfl
    have hpoint : c ≠ '.' := by rintro rfl; cases hquote
    simp only [hdigit, hpoint, hq, false_and, if_false, if_true, Bool.false_eq_true]
    exact (scanString_alike pos (pos + 1) pos' (pos' + 1) [] hquote h).map fun _ _ hsame => hsame
  · have hquote : isQuote c = false := by simpa [isQuote, and_assoc] using hq
    have hxy : Alike x y := by
      obtain ⟨x', hx', halike⟩ := h.symm.tail hb hquote hc
      obtain ⟨-, rfl⟩ := List.cons.inj hx'
      exact halike.symm
    rw [head?_any_eq (fun c => isBlank_of_digit) hxy, if_neg hq, if_neg hq]
    split
    · exact scanNumber_alike pos pos' c hxy
    · split
      · exact scanPointNumber_alike pos pos' c hxy
      · split
        · exact scanName_alike pos pos' c hxy
        · exact scanSymbol_alike pos pos' h hc

/-- The tokens without their places. -/
def SameTokens (ts us : List (Spanned Token)) : Prop :=
  ts.map Spanned.value = us.map Spanned.value

theorem exists_of_skipTrivia {pos : Nat} {r : List Char} (h : afterTrivia? cs = some r) :
    ∃ l, skipTrivia pos cs = .ok l ∧ l.rest = r := by
  rw [← rest_skipTrivia pos] at h
  cases hskip : skipTrivia pos cs with
  | error e => rw [hskip] at h; cases h
  | ok l => rw [hskip] at h; exact ⟨l, rfl, Option.some.inj h⟩

theorem exists_error_of_skipTrivia {pos : Nat} (h : afterTrivia? cs = none) :
    ∃ e, skipTrivia pos cs = .error e := by
  rw [← rest_skipTrivia pos] at h
  cases hskip : skipTrivia pos cs with
  | error e => exact ⟨e, rfl⟩
  | ok l => rw [hskip] at h; cases h

theorem tokensFrom_alike {x y : List Char} (h : normalize x = normalize y)
    (hx : isQuiet x = true) (hy : isQuiet y = true) (pos pos' : Nat)
    {acc acc' : List (Spanned Token)} (hacc : SameTokens acc acc') :
    FailTogether SameTokens (tokensFrom acc pos x) (tokensFrom acc' pos' y) := by
  induction hn : x.length using Nat.strongRecOn generalizing x y pos pos' acc acc' with
  | ind n ih =>
    subst hn
    rw [tokensFrom, tokensFrom]
    rcases afterTrivia?_alike h hx hy with ⟨hxs, hys⟩ | ⟨r, s, hxs, hys, hrs⟩
    · obtain ⟨e, he⟩ := exists_error_of_skipTrivia hxs
      obtain ⟨e', he'⟩ := exists_error_of_skipTrivia hys
      rw [he, he']
      trivial
    have hr := atToken_afterTrivia? hxs
    have hs := atToken_afterTrivia? hys
    obtain ⟨⟨start, rest, hrest⟩, hskip, rfl⟩ := exists_of_skipTrivia hxs
    obtain ⟨⟨start', rest', hrest'⟩, hskip', rfl⟩ := exists_of_skipTrivia hys
    rw [hskip, hskip']
    rcases trimStart_cases rest with hnil | ⟨c, tail, hcons, hc⟩
    · obtain rfl : rest = [] := hr.1.symm.trans hnil
      obtain rfl : rest' = [] := by
        rcases trimStart_cases rest' with hnil' | ⟨c, tail, hcons, hc⟩
        · exact hs.1.symm.trans hnil'
        · rw [hs.1.symm.trans hcons] at hrs
          obtain ⟨_, h⟩ := hrs.exists_cons hc
          cases h
      show List.map _ acc.reverse = List.map _ acc'.reverse
      rw [List.map_reverse, List.map_reverse, hacc]
    · obtain rfl : rest = c :: tail := hr.1.symm.trans hcons
      obtain ⟨tail', rfl⟩ := hrs.symm.exists_cons hc
      have hscan := scanToken_alike start start' hrs hc hr.2
      simp only
      rcases hscan.cases with ⟨e, e', ht, hu⟩ | ⟨t, u, ht, hu, htoken, halike⟩
      · rw [ht, hu]
        trivial
      · rw [ht, hu]
        refine ih _ (Nat.lt_of_lt_of_le t.rest_lt hrest) halike.normalize_eq halike.left
          halike.right _ _ ?_ rfl
        show t.value.1 :: acc.map _ = u.value.1 :: acc'.map _
        rw [htoken, hacc]

/-- Texts with the same normal form and quiet comments have the same tokens, or neither can be cut
into tokens. -/
theorem tokenize_alike {x y : List Char} (h : normalize x = normalize y)
    (hx : isQuiet x = true) (hy : isQuiet y = true) :
    FailTogether SameTokens (tokenize x) (tokenize y) :=
  tokensFrom_alike h hx hy 0 0 rfl

end TemplateExpr.Lexer
