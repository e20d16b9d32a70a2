import TemplateExpr.Proofs.Text.Utf8
import TemplateExpr.Proofs.Token.Lexer

/-!
# The text of tokens

Every token stands in the text from the byte where it starts to the byte where it stops
(`endsIn_scanToken`), so both are boundaries of the text, and so is the place of every error
(`endsIn_tokenize`). `Writes` says what a token can be written like: quotation marks and braces only
stand around strings and where a token is one. A string is no longer than what it is written like.
-/

namespace TemplateExpr

open TemplateExpr.Text TemplateExpr.Cache

/-! ### How tokens are written -/

/-- Quotation marks and braces. -/
def marksOfText : List Char := ['\'', '"', '\x60', '\x7b', '\x7d']

/-- Characters that are neither quotation marks nor braces. -/
def IsMild (c : Char) : Prop := c ∉ marksOfText

instance (c : Char) : Decidable (IsMild c) := inferInstanceAs (Decidable (c ∉ marksOfText))

theorem isMild_of_all {p : Char → Bool} (hp : (marksOfText.all fun c => !p c) = true) {c : Char}
    (hc : p c = true) : IsMild c := by
  intro hmem
  have hnot := List.all_eq_true.1 hp c hmem
  rw [hc] at hnot
  cases hnot

theorem isMild_of_mem {w : List Char} (hw : (marksOfText.all fun c => !w.contains c) = true)
    {c : Char} (hc : c ∈ w) : IsMild c :=
  isMild_of_all hw (List.contains_iff_mem.2 hc)

theorem isMild_of_isBlank {c : Char} (h : isBlank c = true) : IsMild c :=
  isMild_of_all (by decide) h

/-- The token can be written as `w`. -/
inductive Token.Writes : Token → List Char → Prop
  | openBrace : Writes (.symbol .openBrace) ['\x7b']
  | closeBrace : Writes (.symbol .closeBrace) ['\x7d']
  /-- A string stands between quotation marks. -/
  | quoted (s : String) {q : Char} {w : List Char} :
    isQuote q = true → Closed q w → Writes (.string s) (q :: w)
  | mild {t : Token} {w : List Char} :
    t ≠ .symbol .openBrace → t ≠ .symbol .closeBrace → (∀ c ∈ w, IsMild c) → Writes t w

/-- A string is no longer than `w`. -/
def Token.FitsIn (t : Token) (w : List Char) : Prop :=
  ∀ s, t = .string s → s.utf8ByteSize ≤ byteLength w

namespace Lexer

variable {w w' cs cs' rest text : List Char} {c q : Char} {pos mid stop n : Nat}

/-! ### Places in a text -/

/-- `w` stands at the start of `cs`, from byte `pos` to byte `stop`, and `rest` behind it. -/
structure Spells (w : List Char) (pos : Nat) (cs : List Char) (stop : Nat) (rest : List Char) :
    Prop where
  text : cs = w ++ rest
  stop : stop = pos + byteLength w

theorem Spells.append (h : Spells w pos cs mid cs') (h' : Spells w' mid cs' stop rest) :
    Spells (w ++ w') pos cs stop rest where
  text := by rw [h.text, h'.text, List.append_assoc]
  stop := by rw [h'.stop, h.stop, byteLength_append, Nat.add_assoc]

theorem Spells.cons (c : Char) (h : Spells w (pos + c.utf8Size) cs stop rest) :
    Spells (c :: w) pos (c :: cs) stop rest where
  text := by rw [h.text, List.cons_append]
  stop := by rw [h.stop, byteLength_cons, Nat.add_assoc]

theorem spells_nil (pos : Nat) (cs : List Char) : Spells [] pos cs pos cs :=
  ⟨rfl, rfl⟩

/-- Byte `n` is the start of a character of `cs`, which starts at byte `pos`, or its end. -/
def Reaches (pos : Nat) (cs : List Char) (n : Nat) : Prop := ∃ w rest, Spells w pos cs n rest

theorem reaches_start (pos : Nat) (cs : List Char) : Reaches pos cs pos := ⟨[], cs, spells_nil _ _⟩

theorem Spells.reaches (h : Spells w pos cs stop rest) : Reaches pos cs stop := ⟨w, rest, h⟩

theorem Spells.reaches_of (h : Spells w pos cs mid cs') (h' : Reaches mid cs' n) :
    Reaches pos cs n := by
  obtain ⟨w', rest, hw'⟩ := h'
  exact ⟨w ++ w', rest, h.append hw'⟩

theorem reaches_zero_iff : Reaches 0 cs n ↔ isBoundary n cs = true := by
  rw [isBoundary_iff]
  constructor
  · rintro ⟨w, rest, h⟩
    exact ⟨w, rest, h.text, by rw [h.stop, Nat.zero_add]⟩
  · rintro ⟨w, rest, htext, hn⟩
    exact ⟨w, rest, htext, by rw [hn, Nat.zero_add]⟩

/-! ### Trivia -/

theorem spells_blockCommentEnd? {l : Left Nat cs} (h : blockCommentEnd? pos cs = some l) :
    ∃ w, Spells w pos cs l.value l.rest := by
  fun_induction blockCommentEnd? pos cs with
  | case1 => cases h
  | case2 pos rest =>
    obtain rfl := Option.some.inj h
    exact ⟨['*', '/'], rfl, rfl⟩
  | case3 pos c rest _ ih =>
    obtain ⟨l', hl', rfl⟩ := Option.map_eq_some_iff.1 h
    obtain ⟨w, hw⟩ := ih hl'
    exact ⟨c :: w, hw.cons c⟩

theorem spells_lineCommentEnd (pos : Nat) (cs : List Char) :
    ∃ w, Spells w pos cs (lineCommentEnd pos cs).value (lineCommentEnd pos cs).rest := by
  induction cs generalizing pos with
  | nil => exact ⟨[], rfl, rfl⟩
  | cons c cs ih =>
    rw [lineCommentEnd]
    split
    · next hc =>
      subst hc
      exact ⟨['\n'], rfl, rfl⟩
    · obtain ⟨w, hw⟩ := ih (pos + c.utf8Size)
      exact ⟨c :: w, hw.cons c⟩

/-- Trivia is skipped up to a token, or up to a comment without end. -/
theorem endsIn_skipTrivia (pos : Nat) (cs : List Char) :
    EndsIn (fun e => Reaches pos cs e.offset) (fun l => ∃ w, Spells w pos cs l.value l.rest)
      (skipTrivia pos cs) := by
  fun_induction skipTrivia pos cs with
  | case1 pos => exact ⟨[], spells_nil pos []⟩
  | case2 pos rest pos' rest' hle hline ih =>
    have hend := spells_lineCommentEnd (pos + 2) rest
    rw [hline] at hend
    obtain ⟨w, hw⟩ := hend
    have hcomment : Spells ('/' :: '/' :: w) pos ('/' :: '/' :: rest) pos' rest' :=
      Spells.cons '/' (Spells.cons '/' hw)
    refine (ih.mono (fun _ he => hcomment.reaches_of he) fun _ hl => hl).map fun l hl => ?_
    obtain ⟨w', hw'⟩ := hl
    exact ⟨_, hcomment.append hw'⟩
  | case3 pos => exact reaches_start pos _
  | case4 pos rest pos' rest' hle hblock ih =>
    obtain ⟨w, hw⟩ := spells_blockCommentEnd? hblock
    have hcomment : Spells ('/' :: '*' :: w) pos ('/' :: '*' :: rest) pos' rest' :=
      Spells.cons '/' (Spells.cons '*' hw)
    refine (ih.mono (fun _ he => hcomment.reaches_of he) fun _ hl => hl).map fun l hl => ?_
    obtain ⟨w', hw'⟩ := hl
    exact ⟨_, hcomment.append hw'⟩
  | case5 pos c rest _ _ hc ih =>
    have hblank : Spells [c] pos (c :: rest) (pos + c.utf8Size) rest :=
      Spells.cons c (spells_nil _ _)
    refine (ih.mono (fun _ he => hblank.reaches_of he) fun _ hl => hl).map fun l hl => ?_
    obtain ⟨w, hw⟩ := hl
    exact ⟨_, hblank.append hw⟩
  | case6 pos c rest => exact ⟨[], spells_nil pos _⟩

/-! ### Numbers -/

/-- Characters of one byte each that are neither quotation marks nor braces. -/
def IsNumeral (w : List Char) : Prop := ∀ c ∈ w, c.utf8Size = 1 ∧ IsMild c

theorem IsNumeral.byteLength_eq (h : IsNumeral w) : byteLength w = w.length := by
  induction w with
  | nil => rfl
  | cons c w ih =>
    obtain ⟨hc, hw⟩ := List.forall_mem_cons.1 h
    rw [byteLength_cons, hc.1, ih hw, List.length_cons, Nat.add_comm]

theorem IsNumeral.append (h : IsNumeral w) (h' : IsNumeral w') : IsNumeral (w ++ w') :=
  List.forall_mem_append.2 ⟨h, h'⟩

theorem isNumeral_nil : IsNumeral [] := fun _ hc => absurd hc List.not_mem_nil

theorem IsNumeral.cons (hc : c.utf8Size = 1 ∧ IsMild c) (h : IsNumeral w) : IsNumeral (c :: w) :=
  List.forall_mem_cons.2 ⟨hc, h⟩

theorem numeral_of_digit (h : isAsciiDigit c = true) : c.utf8Size = 1 ∧ IsMild c := by
  refine ⟨Char.utf8Size_eq_one_iff.2 ?_, isMild_of_all (by decide) h⟩
  simp only [isAsciiDigit, Char.isDigit, Bool.and_eq_true, decide_eq_true_eq] at h
  exact UInt32.le_trans h.2 (by decide)

theorem numeral_of_hex (h : Digit.isHex c = true) : c.utf8Size = 1 ∧ IsMild c := by
  refine ⟨Char.utf8Size_eq_one_iff.2 ?_, isMild_of_all (by decide) h⟩
  have hle : c.toNat ≤ 127 := by
    by_contra hlt
    have hnone : Digit.value? 16 c = none := by
      unfold Digit.value?
      dsimp only
      rw [if_neg (by omega), if_neg (by omega), if_neg (by omega)]
      rfl
    rw [Digit.isHex, hnone] at h
    cases h
  exact hle

theorem of_mem_takeWhile {p : Char → Bool} (h : c ∈ cs.takeWhile p) : p c = true :=
  List.all_eq_true.1 List.all_takeWhile c h

theorem isNumeral_takeWhile (cs : List Char) : IsNumeral (cs.takeWhile isAsciiDigit) :=
  fun _ hc => numeral_of_digit (of_mem_takeWhile hc)

theorem append_scanDigits (cs : List Char) :
    cs = (scanDigits cs).value ++ (scanDigits cs).rest :=
  List.takeWhile_append_dropWhile.symm

/-- The fraction of a number is empty or stands behind a point. -/
theorem exists_scanFraction (cs : List Char) : ∃ w, cs = w ++ (scanFraction cs).rest ∧ IsNumeral w ∧
    w.length = (if (scanFraction cs).value.isEmpty then 0 else 1) +
      (scanFraction cs).value.length := by
  by_cases hpoint : cs.head? = some '.'
  · obtain ⟨cs, rfl⟩ := List.head?_eq_some_iff.1 hpoint
    obtain ⟨hvalue, hrest⟩ := scanFraction_point cs
    rw [hvalue, hrest]
    by_cases hdigit : cs.head?.any isAsciiDigit = true
    · rw [if_pos hdigit, if_pos hdigit]
      refine ⟨'.' :: cs.takeWhile isAsciiDigit, ?_, ?_, ?_⟩
      · rw [List.cons_append, List.takeWhile_append_dropWhile]
      · exact (isNumeral_takeWhile cs).cons (by decide)
      · cases cs with
        | nil => cases hdigit
        | cons d cs =>
          have hd : isAsciiDigit d = true := hdigit
          rw [List.takeWhile_cons_of_pos hd]
          exact Nat.add_comm _ _
    · rw [if_neg hdigit, if_neg hdigit]
      exact ⟨[], rfl, isNumeral_nil, rfl⟩
  · obtain ⟨hvalue, hrest⟩ := scanFraction_other hpoint
    rw [hvalue, hrest]
    exact ⟨[], rfl, isNumeral_nil, rfl⟩

theorem isNumeral_take_signWidth (cs : List Char) : IsNumeral (cs.take (signWidth cs)) := by
  unfold signWidth
  split
  · next hsign =>
    rcases hsign with hsign | hsign <;>
      · obtain ⟨rest, rfl⟩ := List.head?_eq_some_iff.1 hsign
        exact isNumeral_nil.cons (by decide)
  · exact isNumeral_nil

/-- The exponent of a number has the width that is counted for it. -/
theorem exists_scanExponent (cs : List Char) :
    ∃ w, cs = w ++ (scanExponent cs).rest ∧ IsNumeral w ∧ w.length = (scanExponent cs).value.2 := by
  cases cs with
  | nil => exact ⟨[], rfl, isNumeral_nil, rfl⟩
  | cons e cs =>
    rw [scanExponent_cons]
    split
    · next hexponent =>
      have hsign : (cs.take (signWidth cs)).length = signWidth cs := by
        rw [List.length_take]
        unfold signWidth
        split
        · next h =>
          rcases h with h | h <;>
            · obtain ⟨rest, rfl⟩ := List.head?_eq_some_iff.1 h
              simp
        · simp
      have hsplit : cs = cs.take (signWidth cs) ++ (exponentDigits cs ++
          cs.drop (signWidth cs + (exponentDigits cs).length)) := by
        rw [← List.drop_drop, exponentDigits, drop_length_takeWhile,
          List.takeWhile_append_dropWhile, List.take_append_drop]
      refine ⟨e :: (cs.take (signWidth cs) ++ exponentDigits cs), ?_, ?_, ?_⟩
      · change e :: cs = e :: _ ++ cs.drop (signWidth cs + (exponentDigits cs).length)
        rw [List.cons_append, List.append_assoc, ← hsplit]
      · refine ((isNumeral_take_signWidth cs).append (isNumeral_takeWhile _)).cons ?_
        rcases hexponent.1 with rfl | rfl <;> decide
      · rw [List.length_cons, List.length_append, hsign]
        change _ = 1 + signWidth cs + (exponentDigits cs).length
        omega
    · exact ⟨[], rfl, isNumeral_nil, rfl⟩

/-- A number behind the characters whose width is `width`. -/
def EndsNumber (start width : Nat) (cs : List Char) (l : Left (Float × Nat) cs) : Prop :=
  ∃ w, cs = w ++ l.rest ∧ IsNumeral w ∧ l.value.2 = start + width + w.length

theorem endsIn_scanDecimal (start : Nat) (whole fraction cs : List Char) :
    EndsIn (fun e => e.offset = start)
      (EndsNumber start
        (whole.length + (if fraction.isEmpty then 0 else 1) + fraction.length) cs)
      (scanDecimal start whole fraction cs) := by
  obtain ⟨w, hcs, hw, hlength⟩ := exists_scanExponent cs
  unfold scanDecimal
  cases hname : (scanExponent cs).rest.head?.any isNameStart with
  | true =>
    simp only [hname, if_true]
    exact rfl
  | false =>
    simp only [hname, Bool.false_eq_true, if_false]
    refine ⟨w, hcs, hw, ?_⟩
    simp only [Left.map, ← hlength]
    omega

theorem endsIn_scanHex (start : Nat) (cs : List Char) :
    EndsIn (fun e => e.offset = start) (EndsNumber start 2 cs) (scanHex start cs) := by
  unfold scanHex
  dsimp only
  split
  · split
    · refine ⟨cs.takeWhile Digit.isHex, List.takeWhile_append_dropWhile.symm, ?_, rfl⟩
      exact fun _ hc => numeral_of_hex (of_mem_takeWhile hc)
    · exact rfl
  · exact rfl

/-- The token that is read off the start of `cs` stands there. -/
def ReadsToken (pos : Nat) (cs : List Char) (t : Taken (Token × Nat) cs) : Prop :=
  ∃ w, Spells w pos cs t.value.2 t.rest ∧ t.value.1.Writes w ∧ t.value.1.FitsIn w

/-- A number whose first character is `c` and whose other characters are those of `w` and those that
have been read last. -/
theorem readsToken_number (hc : c.utf8Size = 1 ∧ IsMild c) {l : Left (Float × Nat) cs}
    {w : List Char} (hcs : cs = w ++ l.rest) (hw : IsNumeral w)
    (hstop : l.value.2 = pos + 1 + w.length) : ReadsToken pos (c :: cs) (numberToken c l) := by
  have hnumeral : IsNumeral (c :: w) := hw.cons hc
  refine ⟨c :: w, ⟨?_, ?_⟩, ?_, fun s hs => Token.noConfusion hs⟩
  · exact congrArg (c :: ·) hcs
  · change l.value.2 = _
    rw [hnumeral.byteLength_eq, hstop, List.length_cons]
    omega
  · refine .mild ?_ ?_ fun c hc => (hnumeral c hc).2 <;> exact fun h => Token.noConfusion h

theorem endsIn_scanWholeNumber (start : Nat) (hc : isAsciiDigit c = true) (cs : List Char) :
    EndsIn (fun e => e.offset = start) (ReadsToken start (c :: cs))
      (scanWholeNumber start c cs) := by
  obtain ⟨w, hfraction, hw, hlength⟩ := exists_scanFraction (scanDigits cs).rest
  unfold scanWholeNumber
  dsimp only
  refine (endsIn_scanDecimal start _ _ _).map fun l hl => ?_
  obtain ⟨w', hrest, hw', hstop⟩ := hl
  refine readsToken_number (numeral_of_digit hc) (w := (scanDigits cs).value ++ (w ++ w')) ?_ ?_ ?_
  · rw [List.append_assoc, List.append_assoc]
    exact (append_scanDigits cs).trans (congrArg _ (hfraction.trans (congrArg _ hrest)))
  · exact (isNumeral_takeWhile cs).append (hw.append hw')
  · change l.value.2 = _
    rw [hstop, List.length_append, List.length_append, hlength, List.length_cons]
    omega

theorem endsIn_scanNumber (start : Nat) (hc : isAsciiDigit c = true) (cs : List Char) :
    EndsIn (fun e => e.offset = start) (ReadsToken start (c :: cs)) (scanNumber start c cs) := by
  cases cs with
  | nil => exact endsIn_scanWholeNumber start hc []
  | cons x cs =>
    rw [scanNumber]
    split
    · next hx =>
      refine (endsIn_scanHex start cs).map fun l hl => ?_
      obtain ⟨w, hrest, hw, hstop⟩ := hl
      refine readsToken_number (numeral_of_digit hc) (w := x :: w) (congrArg (x :: ·) hrest) ?_ ?_
      · refine hw.cons ?_
        rcases hx.2 with rfl | rfl <;> decide
      · change l.value.2 = _
        rw [hstop, List.length_cons]
        omega
    · exact endsIn_scanWholeNumber start hc (x :: cs)

theorem endsIn_scanPointNumber (start : Nat) (cs : List Char)
    (hdigit : cs.head?.any isAsciiDigit = true) :
    EndsIn (fun e => e.offset = start) (ReadsToken start ('.' :: cs))
      (scanPointNumber start '.' cs) := by
  unfold scanPointNumber
  dsimp only
  refine (endsIn_scanDecimal start _ _ _).map fun l hl => ?_
  obtain ⟨w, hrest, hw, hstop⟩ := hl
  refine readsToken_number (by decide) (w := (scanDigits cs).value ++ w) ?_ ?_ ?_
  · rw [List.append_assoc]
    exact (append_scanDigits cs).trans (congrArg _ hrest)
  · exact (isNumeral_takeWhile cs).append hw
  · change l.value.2 = _
    have hne : (scanDigits cs).value.isEmpty = false := by
      cases cs with
      | nil => cases hdigit
      | cons d cs =>
        have hd : isAsciiDigit d = true := hdigit
        rw [scanDigits, Left.span]
        dsimp only
        rw [List.takeWhile_cons_of_pos hd]
        rfl
    rw [hstop, hne, List.length_append, List.length_nil]
    simp only [Bool.false_eq_true, if_false]
    omega

/-! ### Strings -/

/-- An escape of `n` digits takes all of them, unless the text ends before. -/
theorem endsIn_scanFixedEscape (start pos n : Nat) (cs : List Char) :
    EndsIn (fun e => e.offset = start)
      (fun l => ∃ w, Spells w pos cs l.value.2 l.rest ∧ (l.rest ≠ [] → n ≤ byteLength w))
      (scanFixedEscape start pos n cs) := by
  unfold scanFixedEscape
  dsimp only
  split
  · refine ⟨cs.take n, ⟨(List.take_append_drop n cs).symm, rfl⟩, fun hrest => ?_⟩
    have hlong : ¬cs.length ≤ n := fun h => hrest (List.drop_eq_nil_of_le h)
    calc n = (cs.take n).length := by rw [List.length_take]; omega
      _ ≤ byteLength (cs.take n) := length_le_byteLength _
  · exact rfl

/-- An escape of a code point ends with a brace. -/
theorem endsIn_scanBracedEscape (start pos : Nat) (cs : List Char) :
    EndsIn (fun e => e.offset = start)
      (fun l => ∃ w, Spells w pos cs l.value.2 l.rest ∧ 1 ≤ byteLength w)
      (scanBracedEscape start pos cs) := by
  unfold scanBracedEscape
  dsimp only
  split
  · exact rfl
  · next d rest hdrop =>
    have hsplit := List.takeWhile_append_dropWhile (p := (· != '\x7d')) (l := cs)
    have hd : d = '\x7d' := by
      have hhead := List.head?_dropWhile_not (· != '\x7d') cs
      rw [hdrop] at hhead
      simpa using hhead
    split
    · refine ⟨cs.takeWhile (· != '\x7d') ++ [d], ⟨?_, ?_⟩, ?_⟩
      · rw [List.append_assoc, List.singleton_append, ← hdrop, hsplit]
      · subst hd
        rw [byteLength_append, ← Nat.add_assoc]
        rfl
      · rw [byteLength_append, byteLength_cons]
        have hpos := d.utf8Size_pos
        omega
    · exact rfl

/-- A string of the characters of `acc` and others stands in front of what is left, and is no longer
than they are together with what stands there. -/
def ReadsString (acc : List Char) (pos : Nat) (cs : List Char) (t : Taken (Token × Nat) cs) :
    Prop :=
  ∃ w s, Spells w pos cs t.value.2 t.rest ∧ t.value.1 = .string s ∧
    s.utf8ByteSize ≤ byteLength acc + byteLength w

/-- A character behind a backslash stands for one that is no longer. -/
theorem byteLength_plainEscape_le (acc : List Char) (e : Char) :
    byteLength (match plainEscape e with
      | some e => e :: acc
      | none => acc) ≤ byteLength acc + (e.utf8Size + 1) := by
  have hchar : ∀ e' ∈ plainEscape e, e'.utf8Size ≤ e.utf8Size + 1 := by
    intro e' he
    unfold plainEscape at he
    split at he <;> cases he <;> first | decide | exact Nat.le_succ _
  cases he : plainEscape e with
  | none => exact Nat.le_add_right _ _
  | some e' =>
    have hle := hchar e' he
    dsimp only
    rw [byteLength_cons]
    omega

/-- A string is read behind the beginning `w` of its text, for which no more characters have been
taken. -/
theorem endsIn_scanString_behind {q : Char} {start pos mid : Nat} {w cs cs' acc acc' : List Char}
    (hw : Spells w pos cs mid cs')
    (h : EndsIn (fun e => e.offset = start ∨ Reaches mid cs' e.offset) (ReadsString acc' mid cs')
      (scanString q start acc' mid cs'))
    (hacc : cs' ≠ [] → byteLength acc' ≤ byteLength acc + byteLength w)
    {f : Taken (Token × Nat) cs' → Taken (Token × Nat) cs}
    (hf : ∀ t, (f t).value = t.value ∧ (f t).rest = t.rest) :
    EndsIn (fun e => e.offset = start ∨ Reaches pos cs e.offset) (ReadsString acc pos cs)
      ((scanString q start acc' mid cs').map f) := by
  refine (h.mono (fun e he => he.imp_right hw.reaches_of) fun _ ht => ht).map fun t ht => ?_
  obtain ⟨w', s, hw', hs, hsize⟩ := ht
  obtain ⟨hvalue, hrest⟩ := hf t
  -- there is something left, since the string has been closed
  have hacc := hacc (List.length_pos_iff.1 (Nat.zero_lt_of_lt t.rest_lt))
  refine ⟨w ++ w', s, ?_, hvalue ▸ hs, ?_⟩
  · rw [hvalue, hrest]
    exact hw.append hw'
  · rw [byteLength_append]
    omega

/-- A string stops at a boundary; what cannot be read is the string as a whole, which starts at
`start`, or one of its escapes. -/
theorem endsIn_scanString (q : Char) (start : Nat) (acc : List Char) (pos : Nat) (cs : List Char) :
    EndsIn (fun e => e.offset = start ∨ Reaches pos cs e.offset) (ReadsString acc pos cs)
      (scanString q start acc pos cs) := by
  have hchar (e : Char) : e.utf8Size ≤ 4 := e.utf8Size_le_four
  fun_induction scanString q start acc pos cs with
  | case1 => exact .inl rfl
  | case2 acc pos rest =>
    refine ⟨[q], String.ofList acc.reverse, Spells.cons q (spells_nil _ rest), rfl, ?_⟩
    rw [utf8ByteSize_ofList, byteLength_reverse]
    exact Nat.le_add_right _ _
  | case3 acc pos c rest _ _ ih =>
    refine endsIn_scanString_behind (Spells.cons c (spells_nil _ _)) ih (fun _ => ?_)
      fun _ => ⟨rfl, rfl⟩
    rw [byteLength_cons, byteLength_cons, byteLength_nil]
    omega
  | case4 => exact .inl rfl
  | case5 acc pos c _ hc rest e he =>
    have hescape := endsIn_scanFixedEscape pos (pos + 2) 2 rest
    rw [he] at hescape
    exact .inr (hescape ▸ reaches_start pos _)
  | case6 acc pos c _ hc rest e pos' rest' hle he ih =>
    obtain rfl := not_not.1 hc
    have hescape := endsIn_scanFixedEscape pos (pos + 2) 2 rest
    rw [he] at hescape
    obtain ⟨w, hw, htaken⟩ := hescape
    refine endsIn_scanString_behind (Spells.cons '\\' (Spells.cons 'x' hw)) ih (fun hrest => ?_)
      fun _ => ⟨rfl, rfl⟩
    have htwo := htaken hrest
    have he := hchar e
    rw [byteLength_cons, byteLength_cons, byteLength_cons]
    change _ ≤ _ + (1 + (1 + byteLength w))
    omega
  | case7 acc pos c _ hc rest e he =>
    have hescape := endsIn_scanBracedEscape pos (pos + 3) rest
    rw [he] at hescape
    exact .inr (hescape ▸ reaches_start pos _)
  | case8 acc pos c _ hc rest e pos' rest' hle he ih =>
    obtain rfl := not_not.1 hc
    have hescape := endsIn_scanBracedEscape pos (pos + 3) rest
    rw [he] at hescape
    obtain ⟨w, hw, hbrace⟩ := hescape
    refine endsIn_scanString_behind (Spells.cons '\\' (Spells.cons 'u' (Spells.cons '\x7b' hw)))
      ih (fun _ => ?_) fun _ => ⟨rfl, rfl⟩
    have he := hchar e
    rw [byteLength_cons, byteLength_cons, byteLength_cons, byteLength_cons]
    change _ ≤ _ + (1 + (1 + (1 + byteLength w)))
    omega
  | case9 acc pos c _ hc rest _ e he =>
    have hescape := endsIn_scanFixedEscape pos (pos + 2) 4 rest
    rw [he] at hescape
    exact .inr (hescape ▸ reaches_start pos _)
  | case10 acc pos c _ hc rest _ e pos' rest' hle he ih =>
    obtain rfl := not_not.1 hc
    have hescape := endsIn_scanFixedEscape pos (pos + 2) 4 rest
    rw [he] at hescape
    obtain ⟨w, hw, htaken⟩ := hescape
    refine endsIn_scanString_behind (Spells.cons '\\' (Spells.cons 'u' hw)) ih (fun hrest => ?_)
      fun _ => ⟨rfl, rfl⟩
    have hfour := htaken hrest
    have he := hchar e
    rw [byteLength_cons, byteLength_cons, byteLength_cons]
    omega
  | case11 acc pos c _ hc e rest =>
    rename_i ih
    obtain rfl := not_not.1 hc
    refine endsIn_scanString_behind (Spells.cons '\\' (Spells.cons e (spells_nil _ _))) ih
      (fun _ => ?_) fun _ => ⟨rfl, rfl⟩
    refine Nat.le_trans (byteLength_plainEscape_le acc e) (Nat.add_le_add_left ?_ _)
    rw [byteLength_cons, byteLength_cons, byteLength_nil]
    change _ ≤ 1 + (e.utf8Size + 0)
    omega

/-- The string that stands behind the quotation mark `q`. -/
theorem endsIn_quoted (hq : isQuote q = true) (pos : Nat) (cs : List Char) :
    EndsIn (fun e => Reaches pos (q :: cs) e.offset) (ReadsToken pos (q :: cs))
      ((scanString q pos [] (pos + 1) cs).map Taken.cons) := by
  have hsize : q.utf8Size = 1 := by
    simp only [isQuote, Bool.or_eq_true, beq_iff_eq] at hq
    rcases hq with (rfl | rfl) | rfl <;> rfl
  have hmark : Spells [q] pos (q :: cs) (pos + 1) cs := by
    refine Spells.cons q ?_
    rw [hsize]
    exact spells_nil _ _
  have hends := endsIn_scanString q pos [] (pos + 1) cs
  cases hscan : scanString q pos [] (pos + 1) cs with
  | error e =>
    rw [hscan] at hends
    rcases hends with hstart | hinside
    · exact hstart ▸ reaches_start pos _
    · exact hmark.reaches_of hinside
  | ok t =>
    rw [hscan] at hends
    obtain ⟨w, s, hw, hs, hbound⟩ := hends
    have houtcome : outcome (scanString q pos [] (pos + 1) cs) = some (t.value.1, t.rest) := by
      rw [hscan]
      rfl
    -- the string ends with the first mark that no backslash hides
    obtain ⟨w', hclosed, hsplit, -⟩ := readsQuoted_of_outcome hq houtcome
    obtain rfl : w = w' := List.append_cancel_right (hw.text.symm.trans hsplit)
    have hfits : t.value.1.FitsIn (q :: w) := by
      intro s' hs'
      obtain rfl := Token.string.inj (hs.symm.trans hs')
      rw [byteLength_nil] at hbound
      rw [byteLength_cons]
      omega
    exact ⟨q :: w, hmark.append hw, hs ▸ .quoted s hq hclosed, hfits⟩

/-! ### Names and symbols -/

theorem readsToken_scanName (pos : Nat) (hc : isNameStart c = true) (cs : List Char) :
    ReadsToken pos (c :: cs) (scanName pos c cs) := by
  refine ⟨c :: cs.takeWhile isNameContinue, ⟨?_, rfl⟩, ?_, fun s hs => Token.noConfusion hs⟩
  · change c :: cs = c :: _ ++ cs.dropWhile isNameContinue
    rw [List.cons_append, List.takeWhile_append_dropWhile]
  · refine .mild (by simp [scanName, Taken.map]) (by simp [scanName, Taken.map])
      (List.forall_mem_cons.2 ⟨?_, fun d hd => ?_⟩)
    · exact isMild_of_all (by decide +kernel) hc
    · exact isMild_of_all (by decide +kernel) (of_mem_takeWhile hd)

/-- Symbols other than braces have none in their text. -/
theorem writes_symbol (s : Symbol) : (Token.symbol s).Writes s.text.toList := by
  cases s with
  | openBrace => exact .openBrace
  | closeBrace => exact .closeBrace
  | _ => exact .mild (by simp) (by simp) fun c => isMild_of_mem (by decide)

theorem endsIn_scanSymbol (pos : Nat) (c : Char) (cs : List Char) :
    EndsIn (fun e => e.offset = pos) (ReadsToken pos (c :: cs)) (scanSymbol pos c cs) := by
  unfold scanSymbol
  split
  · next s rest hs =>
    have hlength : byteLength s.text.toList = s.text.length := by
      cases s <;> rfl
    refine ⟨s.text.toList, ⟨eq_append_of_scanSymbol? hs, by rw [hlength]⟩, writes_symbol s, ?_⟩
    exact fun s hs => Token.noConfusion hs
  · split <;> exact rfl

/-! ### Tokens -/

/-- A token stands where it is read, and an error lies where a character starts. -/
theorem endsIn_scanToken (pos : Nat) (c : Char) (cs : List Char) :
    EndsIn (fun e => Reaches pos (c :: cs) e.offset) (ReadsToken pos (c :: cs))
      (scanToken pos c cs) := by
  have hstart {r : Scan Token (c :: cs)}
      (h : EndsIn (fun e => e.offset = pos) (ReadsToken pos (c :: cs)) r) :
      EndsIn (fun e => Reaches pos (c :: cs) e.offset) (ReadsToken pos (c :: cs)) r :=
    h.mono (fun _ he => he ▸ reaches_start pos _) fun _ ht => ht
  unfold scanToken
  split
  · next hdigit => exact hstart (endsIn_scanNumber pos hdigit cs)
  split
  · next hpoint =>
    obtain ⟨rfl, hdigit⟩ := hpoint
    exact hstart (endsIn_scanPointNumber pos cs hdigit)
  split
  · next hq =>
    have hquote : isQuote c = true := by simpa [isQuote, or_assoc] using hq
    exact endsIn_quoted hquote pos cs
  split
  · next hname => exact readsToken_scanName pos hname cs
  · exact hstart (endsIn_scanSymbol pos c cs)

end Lexer

/-! ### Texts -/

open Lexer in
theorem endsIn_tokensFrom {text w : List Char} {pos : Nat} {cs : List Char}
    (hw : Spells w 0 text pos cs) {acc : List (Spanned Token)}
    (hacc : ∀ t ∈ acc, t.span.IsRange text ∧ t.value.FitsIn text) :
    EndsIn (fun e => isBoundary e.offset text = true)
      (fun ts => ∀ t ∈ ts, t.span.IsRange text ∧ t.value.FitsIn text) (tokensFrom acc pos cs) := by
  fun_induction tokensFrom acc pos cs generalizing w with
  | case1 acc pos cs e hskip =>
    have htrivia := endsIn_skipTrivia pos cs
    rw [hskip] at htrivia
    exact reaches_zero_iff.1 (hw.reaches_of htrivia)
  | case2 acc => exact fun t ht => hacc t (List.mem_reverse.1 ht)
  | case3 acc pos cs start c rest hle hskip e hscan =>
    have htrivia := endsIn_skipTrivia pos cs
    rw [hskip] at htrivia
    obtain ⟨blanks, hblanks⟩ := htrivia
    have htoken := endsIn_scanToken start c rest
    rw [hscan] at htoken
    exact reaches_zero_iff.1 ((hw.append hblanks).reaches_of htoken)
  | case4 acc pos cs start c rest hle hskip token stop rest' hlt hscan ih =>
    have htrivia := endsIn_skipTrivia pos cs
    rw [hskip] at htrivia
    obtain ⟨blanks, hblanks⟩ := htrivia
    have htoken := endsIn_scanToken start c rest
    rw [hscan] at htoken
    obtain ⟨w', hw', -, hfits⟩ := htoken
    have hstart := hw.append hblanks
    have hstop := hstart.append hw'
    have hrange : Span.IsRange text ⟨start, stop⟩ := by
      refine ⟨?_, reaches_zero_iff.1 hstart.reaches, reaches_zero_iff.1 hstop.reaches⟩
      change start ≤ stop
      rw [show stop = start + byteLength w' from hw'.stop]
      exact Nat.le_add_right _ _
    have hinside : token.FitsIn text := by
      intro s hs
      have hlength := congrArg byteLength hstop.text
      rw [byteLength_append, byteLength_append] at hlength
      have hs := hfits s hs
      omega
    exact ih hstop (List.forall_mem_cons.2 ⟨⟨hrange, hinside⟩, hacc⟩)

/-- The tokens of a text are ranges of it, and strings are no longer than it; if it cannot be cut
into tokens, the error lies where a character starts or where the text ends. -/
theorem endsIn_tokenize (text : List Char) :
    EndsIn (fun e => isBoundary e.offset text = true)
      (fun ts => ∀ t ∈ ts, t.span.IsRange text ∧ t.value.FitsIn text) (tokenize text) :=
  endsIn_tokensFrom (Lexer.spells_nil 0 text) fun _ ht => absurd ht List.not_mem_nil

end TemplateExpr

/-!
## The order of tokens

Every token is at least one byte long and stops before the next one starts, so the places where the
tokens of a text start tell them apart, and so do those where they stop.
-/

namespace TemplateExpr

open TemplateExpr.Text

namespace Lexer

variable {c : Char} {cs : List Char} {pos : Nat}

theorem le_skipTrivia {l : Left Nat cs} (h : skipTrivia pos cs = .ok l) : pos ≤ l.value := by
  have htrivia := endsIn_skipTrivia pos cs
  rw [h] at htrivia
  obtain ⟨w, hw⟩ := htrivia
  rw [hw.stop]
  exact Nat.le_add_right _ _

/-- A token is at least one byte long. -/
theorem lt_scanToken {t : Taken (Token × Nat) (c :: cs)} (h : scanToken pos c cs = .ok t) :
    pos < t.value.2 := by
  have htoken := endsIn_scanToken pos c cs
  rw [h] at htoken
  obtain ⟨w, hw, -⟩ := htoken
  have hne : w ≠ [] := by
    rintro rfl
    have hlength : (c :: cs).length = t.rest.length := congrArg List.length hw.text
    exact Nat.ne_of_gt t.rest_lt hlength
  rw [hw.stop]
  exact Nat.lt_add_of_pos_right (byteLength_pos hne)

end Lexer

/-! ### Texts -/

/-- Tokens that follow one another, each at least one byte long. -/
def Token.InOrder (ts : List (Spanned Token)) : Prop :=
  ts.Pairwise (fun t u => t.span.start < u.span.start ∧ t.span.stop < u.span.stop)

open Lexer in
theorem inOrder_tokensFrom {acc ts : List (Spanned Token)} {pos : Nat} {cs : List Char}
    (hacc : acc.Pairwise fun t u => u.span.start < t.span.start ∧ u.span.stop < t.span.stop)
    (hpos : ∀ t ∈ acc, t.span.start < t.span.stop ∧ t.span.stop ≤ pos)
    (h : tokensFrom acc pos cs = .ok ts) : Token.InOrder ts := by
  fun_induction tokensFrom acc pos cs with
  | case1 => cases h
  | case2 acc =>
    obtain rfl := Except.ok.inj h
    exact List.pairwise_reverse.2 hacc
  | case3 => cases h
  | case4 acc pos cs start c rest _ hskip token stop rest' _ hscan ih =>
    have hstart : pos ≤ start := le_skipTrivia hskip
    have hstop : start < stop := lt_scanToken hscan
    refine ih (List.pairwise_cons.2 ⟨fun u hu => ?_, hacc⟩) (List.forall_mem_cons.2 ⟨?_, ?_⟩) h
    · have := hpos u hu
      dsimp only
      omega
    · exact ⟨hstop, Nat.le_refl _⟩
    · intro u hu
      have := hpos u hu
      omega

/-- The tokens of a text follow one another. -/
theorem inOrder_tokenize {text : List Char} {ts : List (Spanned Token)}
    (h : tokenize text = .ok ts) : Token.InOrder ts :=
  inOrder_tokensFrom .nil (fun _ ht => absurd ht List.not_mem_nil) h

end TemplateExpr
