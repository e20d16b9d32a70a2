import TemplateExpr.Proofs.Text.Digit
import TemplateExpr.Proofs.Token.Slice
import TemplateExpr.Proofs.Token.Spacing

/-!
# Strings and their escapes

Every text can be written as a string between marks of each kind (`isString_quoted`). A numeric
escape is read if hexadecimal digits of a character stand behind it: two of them, four of them, or
any number between braces. But for plus signs in front of the digits, which are skipped, everything
else is refused (`numericEscapes_wellFormed`).
-/

/-!
## Strings between quotation marks

The mark and the backslash stand behind a backslash, and any character may stand as its code point
between braces.
-/

namespace TemplateExpr

open TemplateExpr.Text TemplateExpr.Cache

variable {q c : Char} {s w behind : List Char}

/-! ### Reading -/

namespace Lexer

theorem scanToken_quote (hq : isQuote q = true) (pos : Nat) (cs : List Char) :
    scanToken pos q cs = (scanString q pos [] (pos + 1) cs).map Taken.cons := by
  have hmark : q = '\'' ∨ q = '"' ∨ q = '\x60' := by simpa [isQuote, or_assoc] using hq
  unfold scanToken
  rw [if_neg, if_neg, if_pos hmark]
  · rintro ⟨rfl, -⟩
    cases hq
  · rcases hmark with rfl | rfl | rfl <;> decide

theorem atToken_quote (hq : isQuote q = true) (cs : List Char) : AtToken (q :: cs) := by
  refine ⟨trimStart_cons_of_not_blank (isBlank_of_isQuote hq), startsComment_of_ne ?_ cs⟩
  rintro rfl
  cases hq

/-- What is written for a string is the string wherever it stands. -/
theorem Spelling.reads (hq : isQuote q = true) (h : Spelling DenotesCode q w s)
    (behind : List Char) : Reads q (w ++ [q]) (.string (String.ofList s)) behind where
  atToken := atToken_quote hq _
  outcome pos := by
    rw [scanToken_quote hq, outcome_map_cons, List.append_assoc, List.singleton_append]
    exact h.outcome_mark hq pos (pos + 1) [] behind

theorem Spelling.lexes (hq : isQuote q = true) (h : Spelling DenotesCode q w s) (pos : Nat) :
    Lexes pos (q :: (w ++ [q]))
      [⟨.string (String.ofList s), ⟨pos, pos + byteLength (q :: (w ++ [q]))⟩⟩] :=
  (h.reads hq []).lexes pos

end Lexer

/-- The text is a single string token of the characters `s`. -/
def IsString (text s : List Char) : Prop :=
  tokenize text = .ok [⟨.string (String.ofList s), ⟨0, byteLength text⟩⟩]

theorem Lexer.Spelling.isString (hq : isQuote q = true)
    (h : Lexer.Spelling Lexer.DenotesCode q w s) : IsString (q :: (w ++ [q])) s :=
  (h.reads hq []).tokenize_eq

/-! ### Writing -/

open Lexer

theorem fold_toDigits (n : Nat) : Digit.fold 16 0 (Nat.toDigits 16 n) = some n := by
  have hvalue : ∀ d < 16, Digit.value? 16 d.digitChar = some d := by decide
  induction n using Nat.strongRecOn with
  | ind n ih =>
    rw [Nat.toDigits_eq_if (by decide)]
    split
    · next hn =>
      rw [Digit.fold, hvalue n hn, Option.bind_some, Digit.fold, Nat.mul_zero, Nat.zero_add]
    · rw [Digit.fold_append, ih (n / 16) (by omega), Option.bind_some, Digit.fold,
        hvalue _ (Nat.mod_lt n (by decide)), Option.bind_some, Digit.fold, Nat.div_add_mod]

theorem read?_toDigits (n : Nat) : Digit.read? 16 (Nat.toDigits 16 n) = some n := by
  rw [Digit.read?, if_neg (by simp), fold_toDigits]

/-- A character between marks `q`: behind a backslash if it is the mark or a backslash. -/
def escapeChar (q c : Char) : List Char := if c = q ∨ c = '\\' then ['\\', c] else [c]

/-- The code point of a character between braces. -/
def codeEscape (c : Char) : List Char :=
  '\\' :: 'u' :: '\x7b' :: (Nat.toDigits 16 c.toNat ++ ['\x7d'])

/-- The characters `s` as they may be written between marks `q`: each on its own, or any hexadecimal
numeral of its code point between braces. -/
inductive WrittenAs (q : Char) : List Char → List Char → Prop
  | nil : WrittenAs q [] []
  | char (c : Char) {s w : List Char} : WrittenAs q s w → WrittenAs q (c :: s) (escapeChar q c ++ w)
  | code {c : Char} {ds s w : List Char} : Digit.read? 16 ds = some c.toNat → WrittenAs q s w →
    WrittenAs q (c :: s) ('\\' :: 'u' :: '\x7b' :: (ds ++ '\x7d' :: w))

namespace WrittenAs

theorem spelling (hq : isQuote q = true) (h : WrittenAs q s w) : Spelling DenotesCode q w s := by
  have hplain {c : Char} (hc : c = q ∨ c = '\\') :
      c ≠ 'x' ∧ c ≠ 'u' ∧ plainEscape c = some c := by
    have hmark : q = '\'' ∨ q = '"' ∨ q = '\x60' := by simpa [isQuote, or_assoc] using hq
    rcases hc with rfl | rfl
    · rcases hmark with rfl | rfl | rfl <;> decide
    · decide
  induction h with
  | nil => exact .nil
  | char c _ ih =>
    rw [escapeChar]
    split
    · next hc =>
      obtain ⟨hx, hu, hc⟩ := hplain hc
      have hspell := Spelling.plain hx hu ih
      rwa [hc] at hspell
    · next hc => exact .char (fun h => hc (.inl h)) (fun h => hc (.inr h)) ih
  | code hds _ ih =>
    have hspell := Spelling.numeric .braced (codePoint?_eq_some_iff.2 (.inl hds)) ih
    simpa using hspell

/-- A code point between braces for each character that is marked. -/
theorem of_chosen (q : Char) (cs : List (Char × Bool)) :
    WrittenAs q (cs.map Prod.fst)
      (cs.flatMap fun c => if c.2 then codeEscape c.1 else escapeChar q c.1) := by
  induction cs with
  | nil => exact .nil
  | cons c cs ih =>
    rw [List.map_cons, List.flatMap_cons]
    split
    · have hcode := WrittenAs.code (read?_toDigits c.1.toNat) ih
      simpa [codeEscape] using hcode
    · exact .char c.1 ih

/-- The characters each on their own. -/
theorem of_escapeChar (q : Char) (s : List Char) : WrittenAs q s (s.flatMap (escapeChar q)) := by
  induction s with
  | nil => exact .nil
  | cons c s ih => exact .char c ih

end WrittenAs

/-- Between marks of each kind, every text can be written with a backslash in front of the mark and
of the backslash, and with code points in place of any of its characters. -/
theorem isString_quoted (hq : isQuote q = true) (s : List Char) :
    IsString (q :: (s.flatMap (escapeChar q) ++ [q])) s ∧
      (∀ cs : List (Char × Bool), cs.map Prod.fst = s →
        IsString (q :: (cs.flatMap (fun c => if c.2 then codeEscape c.1 else escapeChar q c.1) ++
          [q])) s) ∧
      ∀ w, WrittenAs q s w → IsString (q :: (w ++ [q])) s := by
  have hwritten {w : List Char} (h : WrittenAs q s w) : IsString (q :: (w ++ [q])) s :=
    (h.spelling hq).isString hq
  refine ⟨hwritten (.of_escapeChar q s), ?_, fun w hw => hwritten hw⟩
  rintro cs rfl
  exact hwritten (.of_chosen q cs)

/-- Marks of two kinds, a backslash, a line break, and a character that is written as its code
point. -/
theorem isString_marks : isQuote '\x60' = true ∧
    IsString "\x60'\\\x60\\\\\n\\u\x7b1f600\x7d\x60".toList "'\x60\\\n😀".toList :=
  ⟨rfl, (isString_quoted rfl _).2.1
    [('\'', false), ('\x60', false), ('\\', false), ('\n', false), ('😀', true)] (by decide)⟩

end TemplateExpr

/-!
## Numeric escapes

Strings are refused at the first escape whose digits do not denote a character.
-/

namespace TemplateExpr

open TemplateExpr.Text TemplateExpr.Cache

/-! ### Numerals -/

namespace Lexer

variable {q : Char} {w s ds e r rest : List Char} {c : Char} {token : Token}

/-- The digits are a hexadecimal numeral of the code point of `c`. -/
def DenotesHex (ds : List Char) (c : Char) : Prop := Digit.read? 16 ds = some c.toNat

instance (ds : List Char) (c : Char) : Decidable (DenotesHex ds c) :=
  inferInstanceAs (Decidable (_ = _))

theorem denotesCode_iff :
    DenotesCode ds c ↔ DenotesHex ds c ∨ ∃ ds', ds = '+' :: ds' ∧ DenotesHex ds' c :=
  codePoint?_eq_some_iff

theorem DenotesHex.denotesCode (h : DenotesHex ds c) : DenotesCode ds c :=
  denotesCode_iff.2 (.inl h)

/-- Behind a backslash, a numeric escape with a sign in front of its digits. -/
def isSigned : List Char → Bool
  | 'x' :: '+' :: _ => true
  | 'u' :: '+' :: _ => true
  | 'u' :: '\x7b' :: '+' :: _ => true
  | _ => false

/-- Whether a numeric escape of a string has a sign in front of its digits. -/
def hasSignedEscape : List Char → Bool
  | '\\' :: c :: cs => isSigned (c :: cs) || hasSignedEscape cs
  | _ :: cs => hasSignedEscape cs
  | [] => false

theorem hasSignedEscape_cons (hc : c ≠ '\\') (cs : List Char) :
    hasSignedEscape (c :: cs) = hasSignedEscape cs := by
  rw [hasSignedEscape]
  rintro d cs rfl
  exact absurd rfl hc

theorem hasSignedEscape_append (hds : ∀ d ∈ ds, d ≠ '\\') (cs : List Char) :
    hasSignedEscape (ds ++ cs) = hasSignedEscape cs := by
  induction ds with
  | nil => rfl
  | cons d ds ih =>
    rw [List.cons_append, hasSignedEscape_cons (hds d List.mem_cons_self),
      ih fun d hd => hds d (List.mem_cons_of_mem _ hd)]

theorem hasSignedEscape_escape (d : Char) (cs : List Char) :
    hasSignedEscape ('\\' :: d :: cs) = (isSigned (d :: cs) || hasSignedEscape cs) := rfl

theorem NumericEscape.hasSignedEscape_append (he : NumericEscape ds e) (hds : ∀ d ∈ ds, d ≠ '\\')
    (r : List Char) :
    hasSignedEscape ('\\' :: (e ++ r)) = (isSigned (e ++ r) || hasSignedEscape r) := by
  cases he with
  | two => rw [List.cons_append, hasSignedEscape_escape, Lexer.hasSignedEscape_append hds]
  | four => rw [List.cons_append, hasSignedEscape_escape, Lexer.hasSignedEscape_append hds]
  | braced =>
    rw [List.cons_append, List.cons_append, hasSignedEscape_escape,
      hasSignedEscape_cons (by decide), List.append_assoc, Lexer.hasSignedEscape_append hds,
      List.singleton_append, hasSignedEscape_cons (by decide)]

/-- Without a sign, the digits that are read are a numeral. -/
theorem DenotesCode.hex (h : DenotesCode ds c) (he : NumericEscape ds e)
    (hsigned : isSigned (e ++ r) = false) : DenotesHex ds c := by
  rcases denotesCode_iff.1 h with hds | ⟨ds', rfl, -⟩
  · exact hds
  · cases he <;> cases hsigned

theorem Spelling.hex (h : Spelling DenotesCode q w s) (hsigned : hasSignedEscape (w ++ r) = false) :
    Spelling DenotesHex q w s := by
  induction h with
  | nil => exact .nil
  | char hc hb _ ih =>
    rw [List.cons_append, hasSignedEscape_cons hb] at hsigned
    exact .char hc hb (ih hsigned)
  | plain hx hu _ ih =>
    obtain ⟨-, hrest⟩ := Bool.or_eq_false_iff.1 hsigned
    exact .plain hx hu (ih hrest)
  | @numeric ds e w s c he hcode _ ih =>
    have hds : ∀ d ∈ ds, d ≠ '\\' := fun d hd => (ne_of_mem_codePoint? hcode hd).2.1
    rw [List.cons_append, List.append_assoc, he.hasSignedEscape_append hds,
      Bool.or_eq_false_iff] at hsigned
    exact .numeric he (DenotesCode.hex hcode he hsigned.1) (ih hsigned.2)

/-! ### Marks that open a string -/

variable {x y z cs behind : List Char} {pos : Nat} {t : Spanned Token}
  {ts after : List (Spanned Token)}

/-- What a word or a symbol in front of a mark is does not depend on what stands behind the mark. -/
theorem agrees_of_mark (hq : isQuote q = true) (x y z : List Char) :
    Agrees (x ++ q :: y) (x ++ q :: z) := by
  refine ⟨x, q :: z, q :: y, rfl, rfl, ?_, fun _ => ?_⟩
  · rw [List.head?_cons, Option.any_some, isSolid, hq]
    exact Bool.and_false _
  · refine Bool.eq_false_iff.2 fun hdigit => ?_
    rw [(isWordClass_isAsciiDigit q hdigit).2.1] at hq
    cases hq

/-- The tokens in front of a mark that opens a string are found whatever stands behind it. -/
theorem Lexes.resume (hq : isQuote q = true) (h : Lexes pos (x ++ q :: y) (ts ++ t :: after))
    (hstart : t.span.start = pos + byteLength x) (acc : List (Spanned Token)) (z : List Char) :
    tokensFrom acc pos (x ++ q :: z) =
      tokensFrom (ts.reverse ++ acc) (pos + byteLength x) (q :: z) := by
  -- along the tokens in front: each of them stands within `x`, so the mark is behind it
  generalize hcs : x ++ q :: y = cs at h
  induction ts generalizing pos x cs acc with
  | nil =>
    cases h with
    | @cons _ gap c w behind token _ hseparates _ _ =>
      -- the mark starts the token, so `x` is what is skipped in front of it
      have hsize : byteLength gap = byteLength x := Nat.add_left_cancel hstart
      obtain ⟨gap', rfl, hgap⟩ := exists_of_append_eq hcs.symm (Nat.le_of_eq hsize)
      rw [byteLength_append] at hsize
      obtain rfl := eq_nil_of_start hsize.symm
      rw [List.append_nil]
      exact tokensFrom_skip hseparates (atToken_quote hq z) acc pos
  | cons u ts ih =>
    cases h with
    | @cons _ gap c w behind token _ hseparates hread hbehind =>
      have hle : pos + byteLength (gap ++ c :: w) ≤ t.span.start := hbehind.apart.2 t (by simp)
      rw [hstart, Nat.add_le_add_iff_left] at hle
      rw [← List.cons_append, ← List.append_assoc] at hcs
      obtain ⟨x', rfl, rfl⟩ := exists_of_append_eq hcs.symm hle
      have hread' := hread.replace (agrees_of_mark hq x' y z)
      rw [byteLength_append, ← Nat.add_assoc] at hstart
      rw [List.append_assoc, List.append_assoc, List.cons_append,
        tokensFrom_cons hseparates hread', ih hstart _ _ rfl hbehind, List.reverse_cons,
        List.append_assoc, byteLength_append (gap ++ c :: w), Nat.add_assoc]
      rfl

/-! ### What is refused -/

/-- The error is that of a literal, or the text ends too early. -/
def RefusesLiteral (e : ParseError) : Prop := e.kind = .invalidLiteral ∨ e.kind = .unexpectedEnd

theorem refusesLiteral_scanFixedEscape {start n : Nat} {error : ParseError}
    (h : scanFixedEscape start pos n cs = .error error) : RefusesLiteral error := by
  unfold scanFixedEscape at h
  dsimp only at h
  split at h
  · cases h
  · obtain rfl := Except.error.inj h
    exact .inl rfl

theorem refusesLiteral_scanBracedEscape {start : Nat} {error : ParseError}
    (h : scanBracedEscape start pos cs = .error error) : RefusesLiteral error := by
  unfold scanBracedEscape at h
  dsimp only at h
  split at h
  · obtain rfl := Except.error.inj h
    exact .inl rfl
  · split at h
    · cases h
    · obtain rfl := Except.error.inj h
      exact .inl rfl

theorem refusesLiteral_scanString (q : Char) (start : Nat) (acc : List Char) (pos : Nat)
    (cs : List Char) :
    EndsIn RefusesLiteral (fun _ => True) (scanString q start acc pos cs) := by
  fun_induction scanString q start acc pos cs with
  | case1 => exact .inr rfl
  | case2 => trivial
  | case3 _ _ _ _ _ _ ih => exact ih.map fun _ _ => trivial
  | case4 => exact .inr rfl
  | case5 _ _ _ _ _ _ _ he => exact refusesLiteral_scanFixedEscape he
  | case6 _ _ _ _ _ _ _ _ _ _ _ ih => exact ih.map fun _ _ => trivial
  | case7 _ _ _ _ _ _ _ he => exact refusesLiteral_scanBracedEscape he
  | case8 _ _ _ _ _ _ _ _ _ _ _ ih => exact ih.map fun _ _ => trivial
  | case9 _ _ _ _ _ _ _ _ he => exact refusesLiteral_scanFixedEscape he
  | case10 _ _ _ _ _ _ _ _ _ _ _ _ ih => exact ih.map fun _ _ => trivial
  | case11 => rename_i ih; exact ih.map fun _ _ => trivial

/-- What stands behind a backslash starts with a numeric escape. -/
def StartsEscape (rest : List Char) : Prop :=
  ∃ ds e c behind, NumericEscape ds e ∧ DenotesHex ds c ∧ rest = e ++ behind

/-- A string cannot be read over an escape that is none. -/
theorem outcome_escape_eq_none (hq : isQuote q = true)
    (hnumeric : rest.head? = some 'x' ∨ rest.head? = some 'u') (hsigned : isSigned rest = false)
    (hnot : ¬StartsEscape rest) (start pos : Nat) (acc : List Char) :
    outcome (scanString q start acc pos ('\\' :: rest)) = none := by
  by_contra hsome
  obtain ⟨⟨token, behind⟩, hread⟩ := Option.ne_none_iff_exists'.1 hsome
  obtain ⟨w, s, hw, htext, -⟩ := spelling_of_outcome (isQuote_ne_backslash hq) hread
  -- of all rules, only that of a numeric escape starts with the backslash and its letter
  cases hw with
  | nil => exact isQuote_ne_backslash hq (List.cons.inj htext).1.symm
  | char _ hb _ => exact hb (List.cons.inj htext).1.symm
  | plain hx hu _ =>
    obtain ⟨-, rfl⟩ := List.cons.inj htext
    rcases hnumeric with h | h
    · exact hx (Option.some.inj h)
    · exact hu (Option.some.inj h)
  | numeric he hcode _ =>
    rw [List.cons_append, List.append_assoc] at htext
    obtain ⟨-, rfl⟩ := List.cons.inj htext
    exact hnot ⟨_, _, _, _, he, DenotesCode.hex hcode he hsigned, rfl⟩

end Lexer

/-! ### Texts -/

open Lexer

variable {text before : List Char} {q : Char} {w s rest : List Char} {ts : List (Spanned Token)}
  {t : Spanned Token}

/-- In some text, the mark `q` behind `before`, whose tokens are `ts`, opens a string. -/
def OpensString (before : List Char) (ts : List (Spanned Token)) (q : Char) : Prop :=
  isQuote q = true ∧ ∃ behind t after, tokenize (before ++ q :: behind) = .ok (ts ++ t :: after) ∧
    t.span.start = byteLength before

namespace OpensString

theorem of_mem {behind : List Char} (hq : isQuote q = true)
    (h : tokenize (before ++ q :: behind) = .ok ts) (ht : t ∈ ts)
    (hstart : t.span.start = byteLength before) : ∃ us, OpensString before us q := by
  obtain ⟨us, after, rfl⟩ := List.append_of_mem ht
  exact ⟨us, hq, behind, t, after, h, hstart⟩

/-- The tokens in front are found whatever stands behind the mark. -/
theorem tokenize_eq (h : OpensString before ts q) (cs : List Char) :
    tokenize (before ++ q :: cs) = tokensFrom ts.reverse (byteLength before) (q :: cs) := by
  obtain ⟨hq, behind, t, after, htokens, hstart⟩ := h
  have hresume := (lexes_tokenize htokens).resume hq (by rw [hstart, Nat.zero_add]) [] cs
  rwa [List.append_nil, Nat.zero_add] at hresume

/-- A string that is opened may be written with hexadecimal digits. -/
theorem accepts (h : OpensString before ts q) (hw : Spelling DenotesHex q w s) :
    tokenize (before ++ q :: (w ++ [q])) = .ok (ts ++ [⟨.string (String.ofList s),
      ⟨byteLength before, byteLength (before ++ q :: (w ++ [q]))⟩⟩]) := by
  have hlexes := (hw.mono fun _ _ => DenotesHex.denotesCode).lexes h.1 (byteLength before)
  rw [h.tokenize_eq, hlexes.tokensFrom_eq, List.reverse_reverse, byteLength_append]

/-- Behind what is written for a string, an escape that is none is refused. -/
theorem refuses (h : OpensString before ts q) (hw : Spelling DenotesHex q w s)
    (hnumeric : rest.head? = some 'x' ∨ rest.head? = some 'u') (hsigned : isSigned rest = false)
    (hnot : ¬StartsEscape rest) :
    ∃ e, tokenize (before ++ q :: (w ++ '\\' :: rest)) = .error e ∧ RefusesLiteral e := by
  have hq := h.1
  have hkind := refusesLiteral_scanString q (byteLength before) [] (byteLength before + 1)
    (w ++ '\\' :: rest)
  obtain ⟨pos', hpos'⟩ := (hw.mono fun _ _ => DenotesHex.denotesCode).outcome_append hq
    (byteLength before) (byteLength before + 1) [] ('\\' :: rest)
  rw [outcome_escape_eq_none hq hnumeric hsigned hnot] at hpos'
  obtain ⟨_, hskip⟩ := skipTrivia_of_atToken (atToken_quote hq (w ++ '\\' :: rest))
    (byteLength before)
  rw [h.tokenize_eq, tokensFrom, hskip]
  dsimp only
  rw [scanToken_quote hq]
  cases hscan : scanString q (byteLength before) [] (byteLength before + 1) (w ++ '\\' :: rest) with
  | error e =>
    rw [hscan] at hkind
    exact ⟨e, rfl, hkind⟩
  | ok t =>
    rw [hscan] at hpos'
    cases hpos'

end OpensString

/-- The string tokens of a text are written with hexadecimal digits, if no sign stands in front of
them. -/
theorem spelling_of_tokenize (h : tokenize text = .ok ts) (ht : t ∈ ts) {s : String}
    (hs : t.value = .string s) (hsigned : hasSignedEscape (t.slice text) = false) :
    ∃ q w, isQuote q = true ∧ t.slice text = q :: (w ++ [q]) ∧
      Spelling DenotesHex q w s.toList := by
  have htext : Lexes (byteLength []) text ts := lexes_tokenize h
  obtain ⟨c, w', behind, hslice, hread⟩ := htext.exists_reads ht
  have hscan := hread.outcome 0
  rw [hs] at hscan
  rw [List.nil_append] at hslice
  rw [hslice] at hsigned ⊢
  rcases outcome_scanToken_cases hscan with ⟨-, hnumber⟩ | ⟨-, -, hnumber⟩ | ⟨hq, hstring⟩ |
    ⟨_, hname⟩ | ⟨_, hsymbol⟩
  · obtain ⟨_, hnumber⟩ := exists_number_of_scanNumber hnumber
    cases hnumber
  · obtain ⟨_, hnumber⟩ := exists_number_of_scanPointNumber hnumber
    cases hnumber
  · obtain ⟨w, s', hspell, hw, hvalue⟩ := spelling_of_outcome (isQuote_ne_backslash hq) hstring
    obtain rfl : w' = w ++ [c] := by
      rw [← List.singleton_append, ← List.append_assoc] at hw
      exact List.append_cancel_right hw
    rw [hasSignedEscape_cons (isQuote_ne_backslash hq)] at hsigned
    refine ⟨c, w, hq, rfl, ?_⟩
    rw [Token.string.inj hvalue, String.toList_ofList]
    exact hspell.hex hsigned
  · cases hname
  · cases hsymbol

/-- As long as no sign stands in front of their digits, numeric escapes are read exactly if they are
well formed: each of those in a string token is, a string of well-formed ones is a token, and behind
the beginning of one, any other text behind the letter of an escape is refused. -/
theorem numericEscapes_wellFormed (text : List Char) :
    (∀ ts, tokenize text = .ok ts → ∀ t ∈ ts, ∀ s, t.value = .string s →
      hasSignedEscape (t.slice text) = false →
      ∃ q w, isQuote q = true ∧ t.slice text = q :: (w ++ [q]) ∧
        Spelling DenotesHex q w s.toList) ∧
      ∀ before ts q w s, OpensString before ts q → Spelling DenotesHex q w s →
        (text = before ++ q :: (w ++ [q]) →
          tokenize text = .ok (ts ++ [⟨.string (String.ofList s),
            ⟨byteLength before, byteLength text⟩⟩])) ∧
        ∀ rest, text = before ++ q :: (w ++ '\\' :: rest) →
          rest.head? = some 'x' ∨ rest.head? = some 'u' → isSigned rest = false →
          ¬StartsEscape rest → ∃ e, tokenize text = .error e ∧ RefusesLiteral e := by
  refine ⟨fun ts h t ht s hs hsigned => spelling_of_tokenize h ht hs hsigned,
    fun before ts q w s hopens hw => ⟨?_, ?_⟩⟩
  · rintro rfl
    exact hopens.accepts hw
  · rintro rest rfl hnumeric hsigned hnot
    exact hopens.refuses hw hnumeric hsigned hnot

/-- Two digits in a string of their own, and one digit behind an escape that is well formed. -/
theorem numericEscapes_missingDigit :
    (∃ ts t, tokenize "'\\x41'".toList = .ok ts ∧ t ∈ ts ∧ t.value = .string "A" ∧
      ∃ q w, isQuote q = true ∧ t.slice "'\\x41'".toList = q :: (w ++ [q]) ∧
        Spelling DenotesHex q w "A".toList) ∧
      ∃ ts, OpensString "a + /* ' */ ".toList ts '\'' ∧
        Spelling DenotesHex '\'' "\\u\x7b41\x7d".toList "A".toList ∧ ¬StartsEscape "x4'".toList ∧
        ∃ e, tokenize "a + /* ' */ '\\u\x7b41\x7d\\x4'".toList = .error e ∧ RefusesLiteral e := by
  constructor
  · have hdigits : NumericEscape ['4', '1'] "x41".toList := .two rfl
    have hspell : Spelling DenotesHex '\'' "\\x41".toList ['A'] :=
      .numeric hdigits (by decide) .nil
    have htokens : IsString "'\\x41'".toList ['A'] :=
      (hspell.mono fun _ _ => DenotesHex.denotesCode).isString rfl
    exact ⟨_, _, htokens, List.mem_cons_self, rfl,
      (numericEscapes_wellFormed _).1 _ htokens _ List.mem_cons_self _ rfl (by decide)⟩
  · have hdigits : NumericEscape ['4', '1'] "u\x7b41\x7d".toList := .braced
    have hspell : Spelling DenotesHex '\'' "\\u\x7b41\x7d".toList ['A'] :=
      .numeric hdigits (by decide) .nil
    have hnot : ¬StartsEscape "x4'".toList := by
      rintro ⟨ds, e, c, behind, he, hc, htext⟩
      cases he with
      | two hlength =>
        obtain ⟨a, b, rfl⟩ := List.length_eq_two.1 hlength
        cases htext
        cases hc
      | four => cases htext
      | braced => cases htext
    have hopens : ∃ ts, OpensString "a + /* ' */ ".toList ts '\'' := by
      have hmark : ((tokenize "a + /* ' */ ''".toList).toOption.any fun ts =>
          ts.any fun t => t.span.start == 12) = true := by
        decide +kernel
      cases hts : tokenize "a + /* ' */ ''".toList with
      | error e =>
        rw [hts] at hmark
        cases hmark
      | ok ts =>
        rw [hts] at hmark
        obtain ⟨t, ht, hstart⟩ := List.any_eq_true.1 (show ts.any _ = true from hmark)
        exact OpensString.of_mem rfl hts ht (eq_of_beq hstart)
    obtain ⟨ts, hts⟩ := hopens
    exact ⟨ts, hts, hspell, hnot, ((numericEscapes_wellFormed _).2 _ _ _ _ _ hts hspell).2 _ rfl
      (.inl rfl) rfl hnot⟩

/-- A sign is read as one of the two digits. -/
theorem spelling_sign : ∃ ts t, tokenize "'\\x+1'".toList = .ok ts ∧ t ∈ ts ∧
    t.value = .string "\x01" ∧ ¬∃ q w, isQuote q = true ∧
      t.slice "'\\x+1'".toList = q :: (w ++ [q]) ∧ Spelling DenotesHex q w "\x01".toList := by
  have hdigits : NumericEscape ['+', '1'] "x+1".toList := .two rfl
  have hspell : Spelling DenotesCode '\'' "\\x+1".toList ['\x01'] :=
    .numeric hdigits (by decide) .nil
  refine ⟨_, _, hspell.isString rfl, List.mem_cons_self, rfl, ?_⟩
  rintro ⟨q, w, -, hslice, hw⟩
  obtain ⟨rfl, hslice⟩ := List.cons.inj hslice
  obtain rfl : ['\\', 'x', '+', '1'] = w := List.append_cancel_right hslice
  generalize htext : ['\\', 'x', '+', '1'] = text at hw
  generalize "\x01".toList = s at hw
  cases hw with
  | nil => cases htext
  | char _ hb _ => exact hb (List.cons.inj htext).1.symm
  | plain hx _ _ => exact hx (List.cons.inj (List.cons.inj htext).2).1.symm
  | @numeric ds _ _ _ _ he hhex _ =>
    cases he with
    | two hlength =>
      obtain ⟨a, b, rfl⟩ := List.length_eq_two.1 hlength
      cases htext
      exact read?_ne_sign hhex
    | four => cases htext
    | braced => cases htext

end TemplateExpr
