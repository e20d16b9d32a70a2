import TemplateExpr.Proofs.Expr.Reading
import TemplateExpr.Proofs.Template.Segments
import TemplateExpr.Proofs.Token.Extent
import TemplateExpr.Proofs.Token.Trivia

/-!
# Where an expression ends

A template is cut by counting braces and passing over quoted text; an expression is read token by
token. The two agree on every expression without comments: between its tokens there are blanks,
each of its strings is passed over as quoted text (`Token.Writes`), and the braces that are left are
those of its tokens, which are balanced (`Parser.nest?_of_parseTokens`). So the text of an
expression is cut out of a template as a whole (`Template.parse_expression`).

Comments are no part of this: a quotation mark in a comment opens a quoted text of the template.
-/

namespace TemplateExpr

open TemplateExpr.Text TemplateExpr.Cache

/-- Whether the tokenizer meets a comment in `cs`, which starts at byte `pos`: in front of a token
or behind the last one. -/
def Lexer.meetsComment (pos : Nat) (cs : List Char) : Bool :=
  startsComment (trimStart cs) ||
    match skipTrivia pos cs with
    | .ok ⟨start, c :: rest, _⟩ =>
      match scanToken start c rest with
      | .ok ⟨(_, stop), rest', _⟩ => meetsComment stop rest'
      | .error _ => false
    | _ => false
termination_by cs.length

/-- Trivia without comments consists of blanks. -/
theorem Lexer.blank_skipTrivia {pos : Nat} {cs : List Char}
    (h : startsComment (trimStart cs) = false) {l : Left Nat cs} (hl : skipTrivia pos cs = .ok l) :
    ∃ w, cs = w ++ l.rest ∧ ∀ c ∈ w, isBlank c = true := by
  fun_induction skipTrivia pos cs with
  | case1 =>
    obtain rfl := Except.ok.inj hl
    exact ⟨[], rfl, fun _ hc => absurd hc List.not_mem_nil⟩
  | case2 => cases h
  | case3 => cases hl
  | case4 => cases h
  | case5 pos c rest _ _ hc ih =>
    obtain ⟨l', hl', rfl⟩ := exists_of_map_eq_ok hl
    rw [trimStart_cons_of_blank hc] at h
    obtain ⟨w, hw, hblank⟩ := ih h hl'
    exact ⟨c :: w, congrArg (c :: ·) hw, List.forall_mem_cons.2 ⟨hc, hblank⟩⟩
  | case6 =>
    obtain rfl := Except.ok.inj hl
    exact ⟨[], rfl, fun _ hc => absurd hc List.not_mem_nil⟩

namespace Template

variable {w w' cs : List Char} {c q : Char} {quote quote' quote'' : Option Char}
  {depth depth' depth'' : Nat}

/-! ### Passing over text -/

/-- Where `quote` is open and `depth` braces are, the text `w` closes no expression, and behind it
`quote'` is open and `depth'` braces are. -/
def Passes (quote : Option Char) (depth : Nat) (w : List Char) (quote' : Option Char)
    (depth' : Nat) : Prop :=
  ∀ cs, closing? quote depth (w ++ cs) =
    (closing? quote' depth' cs).map fun p => (w ++ p.1, p.2)

theorem passes_nil (quote : Option Char) (depth : Nat) : Passes quote depth [] quote depth := by
  intro cs
  rw [List.nil_append]
  exact Option.map_id'.symm

theorem Passes.append (h : Passes quote depth w quote' depth')
    (h' : Passes quote' depth' w' quote'' depth'') :
    Passes quote depth (w ++ w') quote'' depth'' := by
  intro cs
  rw [List.append_assoc, h, h', Option.map_map]
  simp only [Function.comp_def, List.append_assoc]

/-- A character that hides nothing and closes no expression is passed over. -/
theorem passes_char (hhidden : quote.isSome = true → c ≠ '\\')
    (hend : ¬(quote = none ∧ depth = 0 ∧ c = '\x7d')) :
    Passes quote depth [c] (behindChar quote depth c).1 (behindChar quote depth c).2 :=
  fun _ => closing?_char hhidden fun ⟨hquote, hdepth, hc, _⟩ => hend ⟨hquote, hdepth, hc⟩

theorem passes_mild (hc : IsMild c) (depth : Nat) : Passes none depth [c] none depth := by
  have hquote : ¬(c = '\'' ∨ c = '"' ∨ c = '\x60') := by
    rintro (rfl | rfl | rfl) <;> exact absurd hc (by decide)
  have hopen : c ≠ '\x7b' := by rintro rfl; exact absurd hc (by decide)
  have hclose : c ≠ '\x7d' := by rintro rfl; exact absurd hc (by decide)
  have hpass : Passes none depth [c] (behindChar none depth c).1 (behindChar none depth c).2 :=
    passes_char (fun h => nomatch h) fun hend => hclose hend.2.2
  rwa [behindChar, if_neg hquote, if_neg hopen, if_neg hclose] at hpass

theorem passes_mild_text (hw : ∀ c ∈ w, IsMild c) (depth : Nat) :
    Passes none depth w none depth := by
  induction w with
  | nil => exact passes_nil none depth
  | cons c w ih =>
    obtain ⟨hc, hw⟩ := List.forall_mem_cons.1 hw
    exact (passes_mild hc depth).append (ih hw)

theorem passes_openBrace (depth : Nat) : Passes none depth ['\x7b'] none (depth + 1) :=
  passes_char (fun h => nomatch h) fun hend => absurd hend.2.2 (by decide)

theorem passes_closeBrace (depth : Nat) : Passes none (depth + 1) ['\x7d'] none depth :=
  passes_char (fun h => nomatch h) fun hend => absurd hend.2.1 (Nat.succ_ne_zero depth)

/-- The rest of a quoted text is passed over up to its closing mark, whatever it hides. -/
theorem passes_closed (hq : isQuote q = true) (hw : Closed q w) (depth : Nat) :
    Passes (some q) depth w none depth := by
  have hquoted {c : Char} (hc : c ≠ '\\') : Passes (some q) depth [c]
      (behindChar (some q) depth c).1 (behindChar (some q) depth c).2 :=
    passes_char (fun _ => hc) fun hend => nomatch hend.1
  induction hw with
  | mark =>
    have hmark := hquoted (isQuote_ne_backslash hq)
    rwa [behindChar, if_pos rfl] at hmark
  | escape d _ ih =>
    intro cs
    rw [List.cons_append, List.cons_append, closing?_hidden, ih, Option.map_map, Option.map_map]
    rfl
  | cons hc hbackslash _ ih =>
    have hplain := hquoted hbackslash
    rw [behindChar, if_neg hc] at hplain
    exact hplain.append ih

theorem passes_quoted (hq : isQuote q = true) (hw : Closed q w) (depth : Nat) :
    Passes none depth (q :: w) none depth := by
  have hmark : q = '\'' ∨ q = '"' ∨ q = '\x60' := by simpa [isQuote, or_assoc] using hq
  have hopen : Passes none depth [q] (some q) depth := by
    have hpass : Passes none depth [q] (behindChar none depth q).1 (behindChar none depth q).2 := by
      refine passes_char (by rintro ⟨⟩) ?_
      rintro ⟨-, -, rfl⟩
      cases hq
    rwa [behindChar, if_pos hmark] at hpass
  exact hopen.append (passes_closed hq hw depth)

/-! ### Passing over tokens -/

/-- The text of a token is passed over, and the braces that are open behind it are those that are
counted among tokens. -/
theorem passes_token {t : Spanned Token} (h : t.value.Writes w) {ts : List (Spanned Token)}
    (hnest : Parser.nest? depth (t :: ts) = some depth'') :
    ∃ depth', Passes none depth w none depth' ∧ Parser.nest? depth' ts = some depth'' := by
  obtain ⟨value, sp⟩ := t
  cases h with
  | openBrace => exact ⟨depth + 1, passes_openBrace depth, hnest⟩
  | closeBrace =>
    rw [Parser.nest?] at hnest
    split at hnest
    · cases hnest
    · next hdepth =>
      obtain ⟨depth, rfl⟩ := Nat.exists_eq_succ_of_ne_zero hdepth
      exact ⟨depth, passes_closeBrace depth, hnest⟩
  | quoted s hq hw =>
    rw [Parser.nest?_braceless (t := ⟨.string s, sp⟩) ⟨by rintro ⟨⟩, by rintro ⟨⟩⟩] at hnest
    exact ⟨depth, passes_quoted hq hw depth, hnest⟩
  | mild hopen hclose hw =>
    rw [Parser.nest?_braceless (t := ⟨value, sp⟩) ⟨hopen, hclose⟩] at hnest
    exact ⟨depth, passes_mild_text hw depth, hnest⟩

open Lexer in
/-- The text of tokens without comments is passed over like the tokens. -/
theorem passes_tokensFrom {acc ts : List (Spanned Token)} {pos : Nat} {cs : List Char}
    (hcomment : meetsComment pos cs = false) (h : tokensFrom acc pos cs = .ok ts) :
    ∃ ts', ts = acc.reverse ++ ts' ∧ ∀ depth depth', Parser.nest? depth ts' = some depth' →
      Passes none depth cs none depth' := by
  fun_induction tokensFrom acc pos cs with
  | case1 => cases h
  | case2 acc pos cs pos' hle hskip =>
    obtain rfl := Except.ok.inj h
    rw [meetsComment, Bool.or_eq_false_iff] at hcomment
    obtain ⟨blanks, hcs, hblanks⟩ := blank_skipTrivia hcomment.1 hskip
    have hblank : cs = blanks := hcs.trans (List.append_nil blanks)
    refine ⟨[], (List.append_nil _).symm, fun depth depth' hnest => ?_⟩
    obtain rfl := Option.some.inj hnest
    rw [hblank]
    exact passes_mild_text (fun c hc => isMild_of_isBlank (hblanks c hc)) depth
  | case3 => cases h
  | case4 acc pos cs start c rest hle hskip token stop rest' hlt hscan ih =>
    rw [meetsComment, Bool.or_eq_false_iff, hskip] at hcomment
    obtain ⟨hblank, hcomment⟩ := hcomment
    dsimp only at hcomment
    rw [hscan] at hcomment
    obtain ⟨ts', rfl, hpasses⟩ := ih hcomment h
    obtain ⟨blanks, hcs, hblanks⟩ := blank_skipTrivia hblank hskip
    have hfront := passes_mild_text fun c hc => isMild_of_isBlank (hblanks c hc)
    have htoken := endsIn_scanToken start c rest
    rw [hscan] at htoken
    obtain ⟨w, hw, hwrites, -⟩ := htoken
    have htext : c :: rest = w ++ rest' := hw.text
    refine ⟨⟨token, ⟨start, stop⟩⟩ :: ts', ?_, fun depth depth' hnest => ?_⟩
    · rw [List.reverse_cons, List.append_assoc]
      rfl
    · obtain ⟨mid, hmid, hnest⟩ := passes_token hwrites hnest
      rw [show cs = blanks ++ (w ++ rest') from htext ▸ hcs]
      exact (hfront depth).append (hmid.append (hpasses mid depth' hnest))

/-- The text of an expression without comments closes no expression and leaves no brace open. -/
theorem passes_expression {text : List Char} {tree : Expr} (htree : Expr.parse text = .ok tree)
    (hcomment : Lexer.meetsComment 0 text = false) : Passes none 0 text none 0 := by
  obtain ⟨ts, hts, htree⟩ := exists_of_bind_eq_ok htree
  obtain ⟨b, hb, -⟩ := exists_of_bind_eq_ok htree
  obtain ⟨_, rfl, hpasses⟩ := passes_tokensFrom hcomment hts
  exact hpasses 0 0 (Parser.nest?_of_parseTokens hb)

/-! ### Cutting out an expression -/

/-- Literal text that does not end in a brace is cut off in front of an expression. -/
theorem spanLiteral_open {text : List Char} (h : IsPlain text) (hlast : text.getLast? ≠ some '\x7b')
    (rest : List Char) :
    (spanLiteral (text ++ '\x7b' :: '\x7b' :: rest)).value = text ∧
      (spanLiteral (text ++ '\x7b' :: '\x7b' :: rest)).rest = '\x7b' :: '\x7b' :: rest := by
  induction text with
  | nil =>
    rw [List.nil_append, spanLiteral]
    exact ⟨rfl, rfl⟩
  | cons c text ih =>
    have hnot : ¬atDelimiter (c :: (text ++ '\x7b' :: '\x7b' :: rest)) = true := by
      intro hc
      cases text with
      | nil =>
        -- a delimiter that starts with the last character would end within the next one
        rcases atDelimiter_cases hc with ⟨_, heq⟩ | ⟨_, heq⟩
        · cases heq
          exact hlast rfl
        · cases heq
      | cons d text =>
        rw [List.cons_append, atDelimiter_cons_cons c d _ text] at hc
        rcases atDelimiter_cases hc with ⟨inner, heq⟩ | ⟨inner, heq⟩
        · exact h.no_open ⟨[], inner, heq.symm⟩
        · exact h.no_close ⟨[], inner, heq.symm⟩
    have htail : text.getLast? ≠ some '\x7b' := by
      intro htext
      rw [List.getLast?_cons, htext] at hlast
      exact hlast rfl
    obtain ⟨hvalue, hrest⟩ := ih h.tail htail
    rw [List.cons_append, spanLiteral, if_neg hnot]
    exact ⟨congrArg (c :: ·) hvalue, hrest⟩

/-- A template of literal text, an expression that can be read and literal text is cut into these:
the expression ends where its text does. -/
theorem parse_expression {before expression after : String} {tree : Expr}
    (htree : Expr.parse expression.toList = .ok tree)
    (hcomment : Lexer.meetsComment 0 expression.toList = false)
    (hbefore : IsPlain before.toList) (hlast : before.toList.getLast? ≠ some '\x7b')
    (hafter : IsPlain after.toList) :
    let source := before ++ "\x7b\x7b" ++ expression ++ "\x7d\x7d" ++ after
    let start := before.utf8ByteSize
    let stop := start + expression.utf8ByteSize + 2 * delimiterSize
    parse source = .ok ⟨source, literalAt 0 before.toList ++
      .resolvable ⟨start, stop⟩ expression :: literalAt stop after.toList⟩ := by
  intro source start stop
  have hsource : source.toList = before.toList ++
      '\x7b' :: '\x7b' :: (expression.toList ++ '\x7d' :: '\x7d' :: after.toList) := by
    simp [source]
  have hclosing : closing? none 0 (expression.toList ++ '\x7d' :: '\x7d' :: after.toList) =
      some (expression.toList, after.toList) := by
    rw [passes_expression htree hcomment, closing?_end, Option.map_some, List.append_nil]
  obtain ⟨hvalue, hrest⟩ := spanLiteral_open hbefore hlast
    (expression.toList ++ '\x7d' :: '\x7d' :: after.toList)
  obtain ⟨hplain, hnil⟩ := spanLiteral_of_isPlain hafter
  have hsegments : segmentsFrom 0 source.toList = .ok (literalAt 0 before.toList ++
      .resolvable ⟨start, stop⟩ expression :: literalAt stop after.toList) := by
    rw [hsource, segmentsFrom_open hrest, hclosing]
    dsimp only
    rw [segmentsFrom_plain hnil, hvalue, hplain, byteLength_toList, byteLength_toList,
      String.ofList_toList, Nat.zero_add]
  rw [parse, hsegments]
  rfl

/-- An object that ends in a brace and has braces in a string, between literal texts with braces. -/
theorem parse_expression_object :
    parse ("\x7d: " ++ "\x7b\x7b" ++ "\x7bk: \x7ba: '\x7d\x7d'\x7d\x7d" ++ "\x7d\x7d" ++ "\x7d") =
      .ok ⟨"\x7d: \x7b\x7b\x7bk: \x7ba: '\x7d\x7d'\x7d\x7d\x7d\x7d\x7d",
        [.literal ⟨0, 3⟩ "\x7d: ", .resolvable ⟨3, 21⟩ "\x7bk: \x7ba: '\x7d\x7d'\x7d\x7d",
          .literal ⟨21, 22⟩ "\x7d"]⟩ := by
  have hparsed : (Expr.parse "\x7bk: \x7ba: '\x7d\x7d'\x7d\x7d".toList).toOption.isSome = true := by
    decide +kernel
  cases htree : Expr.parse "\x7bk: \x7ba: '\x7d\x7d'\x7d\x7d".toList with
  | error e =>
    rw [htree] at hparsed
    cases hparsed
  | ok tree =>
    exact parse_expression htree (by decide +kernel) (by decide) (by decide) (by decide)

end Template

end TemplateExpr
