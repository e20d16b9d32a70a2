import Mathlib.Data.List.Chain
import Mathlib.Data.List.Infix
import TemplateExpr.Proofs.Text.Utf8
import TemplateExpr.Template.Basic

/-!
# Cutting templates

Every source is cut into segments without loss, or it is cut up to the first delimiter that has no
partner (`Template.parse_lossless`). What is cut off in front of a delimiter does not depend on what
follows it, so the text in front of an unmatched delimiter is a template of its own.
-/

namespace TemplateExpr

open TemplateExpr.Text

/-- `text` stands in the source from the first byte of the span to the last. -/
def Span.Holds (span : Span) (source text : String) : Prop :=
  ∃ before after, source = before ++ text ++ after ∧ before.utf8ByteSize = span.start ∧
    before.utf8ByteSize + text.utf8ByteSize = span.stop

/-- The spans lie side by side and are not empty; they start at `start` and end at `stop`. -/
def Span.Tile (start stop : Nat) : List Span → Prop
  | [] => start = stop
  | s :: spans => s.start = start ∧ s.start < s.stop ∧ Tile s.stop stop spans

/-- What is held by a span is the slice of its offsets. -/
theorem Span.Holds.slice_eq {span : Span} {source text : String} (h : span.Holds source text) :
    slice source span.start span.stop = text := by
  obtain ⟨before, after, rfl, hstart, hstop⟩ := h
  rw [slice, ← hstart, ← hstop, ← byteLength_toList, ← byteLength_toList, String.toList_append,
    String.toList_append, List.append_assoc, betweenBytes_append, String.ofList_toList]

/-- The delimiter that is missing its partner. -/
def ParseError.Cause.delimiter? : ParseError.Cause → Option (List Char)
  | .unmatchedOpen => some ['\x7b', '\x7b']
  | .unmatchedClose => some ['\x7d', '\x7d']
  | _ => none

namespace Template

/-- A text without delimiters. -/
structure IsPlain (text : List Char) : Prop where
  no_open : ¬['\x7b', '\x7b'] <:+: text
  no_close : ¬['\x7d', '\x7d'] <:+: text

instance (text : List Char) : Decidable (IsPlain text) :=
  decidable_of_iff (¬['\x7b', '\x7b'] <:+: text ∧ ¬['\x7d', '\x7d'] <:+: text)
    ⟨fun h => ⟨h.1, h.2⟩, fun h => ⟨h.no_open, h.no_close⟩⟩

end Template

namespace Segment

/-- The text that a segment stands for in the source: an expression stands between delimiters. -/
def sourceText : Segment → String
  | literal _ text => text
  | resolvable _ expression =>
    String.ofList ('\x7b' :: '\x7b' :: (expression.toList ++ ['\x7d', '\x7d']))

end Segment

namespace Template

/-- Segments that cut the source without loss. -/
structure IsSegmentation (source : String) (segments : List Segment) : Prop where
  /-- They are not empty and lie side by side, from the start of the source to its end. -/
  tile : Span.Tile 0 source.utf8ByteSize (segments.map Segment.span)
  /-- Each has its text, or its expression between delimiters, where its span says. -/
  holds : ∀ s ∈ segments, s.span.Holds source s.sourceText
  /-- Literal texts do not follow each other. -/
  separated : segments.IsChain fun s t => s.isResolvable = true ∨ t.isResolvable = true
  /-- Literal texts have no delimiters. -/
  plain : ∀ span text, .literal span text ∈ segments → IsPlain text.toList
  /-- Expressions start behind their opening delimiter. -/
  offset : ∀ s ∈ segments, ∀ e offset, s.expression? = some (e, offset) →
    offset = s.span.start + 2
  /-- The slices make up the source. -/
  join : String.join (segments.map fun s => slice source s.span.start s.span.stop) = source

/-- A delimiter stands at the offset of the error, and the source in front of it is a template. -/
def IsUnmatched (source : String) (e : ParseError) : Prop :=
  ∃ delimiter before after, e.cause.delimiter? = some delimiter ∧
    source = before ++ String.ofList delimiter ++ after ∧ before.utf8ByteSize = e.offset ∧
    ∃ t, parse before = .ok t

variable {text cs rest : List Char} {pos : Nat}

/-! ### Literal text -/

theorem IsPlain.tail {c : Char} (h : IsPlain (c :: text)) : IsPlain text :=
  ⟨fun hopen => h.no_open (hopen.trans (List.infix_cons (List.infix_refl _))),
    fun hclose => h.no_close (hclose.trans (List.infix_cons (List.infix_refl _)))⟩

theorem isPlain_nil : IsPlain [] := by
  constructor <;> exact fun h => by cases List.infix_nil.1 h

/-- A delimiter starts at a character or behind it. -/
theorem isPlain_cons {c : Char} (hc : atDelimiter (c :: text) = false) (h : IsPlain text) :
    IsPlain (c :: text) := by
  constructor
  · intro hopen
    rcases List.infix_cons_iff.1 hopen with ⟨rest, hrest⟩ | hopen
    · rw [← hrest] at hc
      cases hc
    · exact h.no_open hopen
  · intro hclose
    rcases List.infix_cons_iff.1 hclose with ⟨rest, hrest⟩ | hclose
    · rw [← hrest] at hc
      cases hc
    · exact h.no_close hclose

theorem atDelimiter_cases (h : atDelimiter cs = true) :
    (∃ inner, cs = '\x7b' :: '\x7b' :: inner) ∨ ∃ inner, cs = '\x7d' :: '\x7d' :: inner := by
  unfold atDelimiter at h
  split at h
  · exact .inl ⟨_, rfl⟩
  · exact .inr ⟨_, rfl⟩
  · cases h

/-- Whether a delimiter starts is told by two characters. -/
theorem atDelimiter_cons_cons (c d : Char) (rest rest' : List Char) :
    atDelimiter (c :: d :: rest) = atDelimiter (c :: d :: rest') := by
  have hle {rest rest' : List Char} (h : atDelimiter (c :: d :: rest) = true) :
      atDelimiter (c :: d :: rest') = true := by
    rcases atDelimiter_cases h with ⟨_, heq⟩ | ⟨_, heq⟩ <;> (cases heq; rfl)
  exact Bool.eq_iff_iff.2 ⟨hle, hle⟩

theorem atDelimiter_append (c : Char) (text : List Char) (d : Char) (rest rest' : List Char) :
    atDelimiter (c :: (text ++ d :: rest)) = atDelimiter (c :: (text ++ d :: rest')) := by
  cases text <;> exact atDelimiter_cons_cons _ _ _ _

theorem atDelimiter_of_left {c : Char} (h : atDelimiter (c :: text) = true)
    (rest : List Char) : atDelimiter (c :: (text ++ rest)) = true := by
  rcases atDelimiter_cases h with ⟨_, heq⟩ | ⟨_, heq⟩ <;> (cases heq; rfl)

theorem spanLiteral_append_eq (cs : List Char) :
    (spanLiteral cs).value ++ (spanLiteral cs).rest = cs := by
  induction cs with
  | nil => rfl
  | cons c cs ih =>
    rw [spanLiteral]
    split
    · rfl
    · exact congrArg (c :: ·) ih

/-- Literal text ends where the source ends or a delimiter starts. -/
theorem rest_spanLiteral_cases (cs : List Char) :
    (spanLiteral cs).rest = [] ∨ atDelimiter (spanLiteral cs).rest = true := by
  induction cs with
  | nil => exact .inl rfl
  | cons c cs ih =>
    rw [spanLiteral]
    split
    next h => exact .inr h
    next => exact ih

theorem isPlain_spanLiteral (cs : List Char) : IsPlain (spanLiteral cs).value := by
  induction cs with
  | nil => exact isPlain_nil
  | cons c cs ih =>
    rw [spanLiteral]
    split
    · exact isPlain_nil
    next h =>
      refine isPlain_cons (Bool.eq_false_iff.2 fun hc => h ?_) ih
      rw [← spanLiteral_append_eq cs]
      exact atDelimiter_of_left hc _

/-- A text without delimiters is literal as a whole. -/
theorem spanLiteral_of_isPlain (h : IsPlain text) :
    (spanLiteral text).value = text ∧ (spanLiteral text).rest = [] := by
  induction text with
  | nil => exact ⟨rfl, rfl⟩
  | cons c text ih =>
    obtain ⟨hvalue, hrest⟩ := ih h.tail
    rw [spanLiteral, if_neg]
    · exact ⟨congrArg (c :: ·) hvalue, hrest⟩
    · intro hc
      rcases atDelimiter_cases hc with ⟨inner, heq⟩ | ⟨inner, heq⟩
      · exact h.no_open ⟨[], inner, heq.symm⟩
      · exact h.no_close ⟨[], inner, heq.symm⟩

/-- Literal text in front of a delimiter does not depend on what follows the delimiter. -/
theorem spanLiteral_append {c d : Char} (h : (spanLiteral cs).rest = c :: d :: rest)
    (rest' : List Char) :
    (spanLiteral ((spanLiteral cs).value ++ c :: d :: rest')).value = (spanLiteral cs).value ∧
      (spanLiteral ((spanLiteral cs).value ++ c :: d :: rest')).rest = c :: d :: rest' := by
  induction cs with
  | nil => cases h
  | cons b cs ih =>
    by_cases hb : atDelimiter (b :: cs) = true
    · rw [spanLiteral, if_pos hb] at h ⊢
      have hsource : b :: cs = c :: d :: rest := h
      rw [hsource, atDelimiter_cons_cons c d rest rest'] at hb
      rw [List.nil_append, spanLiteral, if_pos hb]
      exact ⟨rfl, rfl⟩
    · rw [spanLiteral, if_neg hb] at h ⊢
      obtain ⟨hvalue, hrest⟩ := ih h
      have hnot : ¬atDelimiter (b :: ((spanLiteral cs).value ++ c :: d :: rest')) = true := by
        have hsplit := spanLiteral_append_eq cs
        rw [show (spanLiteral cs).rest = c :: d :: rest from h] at hsplit
        rwa [atDelimiter_append b _ c (d :: rest') (d :: rest), hsplit]
      change (spanLiteral (b :: ((spanLiteral cs).value ++ c :: d :: rest'))).value = _ ∧
        (spanLiteral (b :: ((spanLiteral cs).value ++ c :: d :: rest'))).rest = _
      rw [spanLiteral, if_neg hnot]
      exact ⟨congrArg (b :: ·) hvalue, hrest⟩

/-! ### Expressions -/

/-- The text of an expression and what follows its closing delimiter. -/
def closing? (quote : Option Char) (depth : Nat) (cs : List Char) :
    Option (List Char × List Char) :=
  (spanExpression quote depth cs).map fun t => (t.value, t.rest)

/-- The quotation mark of the text being passed over and the number of open braces behind a
character that hides nothing and closes no expression. -/
def behindChar (quote : Option Char) (depth : Nat) (c : Char) : Option Char × Nat :=
  match quote with
  | some q => if c = q then (none, depth) else (some q, depth)
  | none =>
    if c = '\'' ∨ c = '"' ∨ c = '\x60' then (some c, depth)
    else if c = '\x7b' then (none, depth + 1)
    else if c = '\x7d' then (none, depth - 1)
    else (none, depth)

/-- A character in front of the text of an expression. -/
def inFront (c : Char) (p : List Char × List Char) : List Char × List Char := (c :: p.1, p.2)

theorem exists_of_map_inFront {c : Char} {x : Option (List Char × List Char)}
    (h : x.map (inFront c) = some (text, rest)) :
    ∃ text', x = some (text', rest) ∧ text = c :: text' := by
  obtain ⟨⟨text', rest'⟩, hx, heq⟩ := Option.map_eq_some_iff.1 h
  obtain ⟨htext, hrest⟩ := Prod.mk.inj heq
  exact ⟨text', hrest ▸ hx, htext.symm⟩

theorem closing?_hidden (q : Char) (depth : Nat) (c : Char) (cs : List Char) :
    closing? (some q) depth ('\\' :: c :: cs) =
      ((closing? (some q) depth cs).map (inFront c)).map (inFront '\\') := by
  rw [closing?, closing?, spanExpression]
  simp only [if_true, Option.map_map]
  rfl

theorem closing?_end (cs : List Char) :
    closing? none 0 ('\x7d' :: '\x7d' :: cs) = some ([], cs) := by
  rw [closing?, spanExpression]
  rfl

theorem closing?_char {quote : Option Char} {depth : Nat} {c : Char}
    (hhidden : quote.isSome = true → c ≠ '\\')
    (hend : ¬(quote = none ∧ depth = 0 ∧ c = '\x7d' ∧ cs.head? = some '\x7d')) :
    closing? quote depth (c :: cs) =
      (closing? (behindChar quote depth c).1 (behindChar quote depth c).2 cs).map (inFront c) := by
  have hnext (quote : Option Char) (depth : Nat) :
      ((spanExpression quote depth cs).map fun t : Taken (List Char) cs =>
        (⟨c :: t.value, t.rest, Nat.lt_succ_of_lt t.rest_lt⟩ : Taken (List Char) (c :: cs))).map
          (fun t => (t.value, t.rest)) = (closing? quote depth cs).map (inFront c) := by
    rw [closing?]
    cases spanExpression quote depth cs <;> rfl
  rw [closing?, spanExpression.eq_def]
  cases quote with
  | some q =>
    simp only [if_neg (hhidden rfl), behindChar]
    split_ifs <;> exact hnext _ _
  | none =>
    simp only [behindChar]
    split_ifs with hquote hopen hclose hstop
    · exact hnext _ _
    · exact hnext _ _
    · exact absurd ⟨rfl, hstop.1, hclose, hstop.2⟩ hend
    · exact hnext _ _
    · exact hnext _ _

/-- The text of an expression is followed by its closing delimiter, and does not depend on what
follows the delimiter. -/
theorem closing?_append {quote : Option Char} {depth : Nat} {cs text rest : List Char}
    (h : closing? quote depth cs = some (text, rest)) :
    cs = text ++ '\x7d' :: '\x7d' :: rest ∧ ∀ rest',
      closing? quote depth (text ++ '\x7d' :: '\x7d' :: rest') = some (text, rest') := by
  induction hn : cs.length using Nat.strongRecOn generalizing quote depth cs text with
  | ind n ih =>
    subst hn
    cases cs with
    | nil => cases h
    | cons c cs =>
      by_cases hhidden : quote.isSome = true ∧ c = '\\'
      · obtain ⟨hquote, rfl⟩ := hhidden
        obtain ⟨q, rfl⟩ := Option.isSome_iff_exists.1 hquote
        cases cs with
        | nil => cases h
        | cons c cs =>
          rw [closing?_hidden] at h
          obtain ⟨text', hinner, rfl⟩ := exists_of_map_inFront h
          obtain ⟨text', h', rfl⟩ := exists_of_map_inFront hinner
          obtain ⟨rfl, hsame⟩ := ih cs.length (by simp only [List.length_cons]; omega) h' rfl
          refine ⟨rfl, fun rest' => ?_⟩
          rw [List.cons_append, List.cons_append, closing?_hidden, hsame rest']
          rfl
      by_cases hend : quote = none ∧ depth = 0 ∧ c = '\x7d' ∧ cs.head? = some '\x7d'
      · obtain ⟨rfl, rfl, rfl, hhead⟩ := hend
        obtain ⟨cs, rfl⟩ := List.head?_eq_some_iff.1 hhead
        rw [closing?_end] at h
        cases h
        exact ⟨rfl, closing?_end⟩
      · have hplain : quote.isSome = true → c ≠ '\\' := fun hquote hc => hhidden ⟨hquote, hc⟩
        rw [closing?_char hplain hend] at h
        obtain ⟨text', h', rfl⟩ := exists_of_map_inFront h
        obtain ⟨rfl, hsame⟩ := ih cs.length (by simp only [List.length_cons]; omega) h' rfl
        refine ⟨rfl, fun rest' => ?_⟩
        -- whether the character ends the expression is told by the one behind it
        have hhead : (text' ++ '\x7d' :: '\x7d' :: rest').head? =
            (text' ++ '\x7d' :: '\x7d' :: rest).head? := by cases text' <;> rfl
        rw [List.cons_append, closing?_char hplain (by rwa [hhead]), hsame rest']
        rfl

/-! ### Segments -/

theorem byteLength_resolvable (text rest : List Char) :
    byteLength ('\x7b' :: '\x7b' :: (text ++ '\x7d' :: '\x7d' :: rest)) =
      byteLength text + 2 * delimiterSize + byteLength rest := by
  have hbraces : ('\x7b' : Char).utf8Size = 1 ∧ ('\x7d' : Char).utf8Size = 1 := by decide
  simp only [byteLength_cons, byteLength_append]
  rw [hbraces.1, hbraces.2, delimiterSize]
  omega

/-- The segment of a literal text, if there is any. -/
def literalAt (pos : Nat) (text : List Char) : List Segment :=
  if text.isEmpty then [] else [.literal ⟨pos, pos + byteLength text⟩ (String.ofList text)]

theorem segmentsFrom_plain (h : (spanLiteral cs).rest = []) :
    segmentsFrom pos cs = .ok (literalAt pos (spanLiteral cs).value) := by
  rw [segmentsFrom]
  split
  · rfl
  all_goals rename_i hrest; cases h.symm.trans hrest

theorem segmentsFrom_close (h : (spanLiteral cs).rest = '\x7d' :: '\x7d' :: rest) :
    segmentsFrom pos cs =
      .error ⟨.unmatchedClose, pos + byteLength (spanLiteral cs).value⟩ := by
  rw [segmentsFrom]
  split
  case h_3 => rfl
  all_goals rename_i hrest; cases h.symm.trans hrest

theorem segmentsFrom_open {inner : List Char}
    (h : (spanLiteral cs).rest = '\x7b' :: '\x7b' :: inner) :
    segmentsFrom pos cs =
      let start := pos + byteLength (spanLiteral cs).value
      match closing? none 0 inner with
      | none => .error ⟨.unmatchedOpen, start⟩
      | some (text, rest) =>
        let stop := start + byteLength text + 2 * delimiterSize
        match segmentsFrom stop rest with
        | .error e => .error e
        | .ok more => .ok (literalAt pos (spanLiteral cs).value ++
            .resolvable ⟨start, stop⟩ (String.ofList text) :: more) := by
  rw [segmentsFrom]
  split
  case h_2 inner' hrest =>
    cases h.symm.trans hrest
    rw [closing?]
    cases spanExpression none 0 inner <;> rfl
  case h_1 hrest => cases h.symm.trans hrest
  case h_3 hnot hrest =>
    cases h.symm.trans hrest
    exact (hnot inner rfl rfl).elim

/-- Segments that cut a text that starts at byte `pos`. -/
inductive Cuts : Nat → List Char → List Segment → Prop
  | nil (pos : Nat) : Cuts pos [] []
  | literal {pos : Nat} {text rest : List Char} {segments : List Segment} (hne : text ≠ [])
      (hplain : IsPlain text) (hnext : ∀ s ∈ segments.head?, s.isResolvable = true)
      (hrest : Cuts (pos + byteLength text) rest segments) :
      Cuts pos (text ++ rest)
        (.literal ⟨pos, pos + byteLength text⟩ (String.ofList text) :: segments)
  | resolvable {pos : Nat} {text rest : List Char} {segments : List Segment}
      (hrest : Cuts (pos + byteLength text + 2 * delimiterSize) rest segments) :
      Cuts pos ('\x7b' :: '\x7b' :: (text ++ '\x7d' :: '\x7d' :: rest))
        (.resolvable ⟨pos, pos + byteLength text + 2 * delimiterSize⟩ (String.ofList text) ::
          segments)

theorem Cuts.literalAt {segments : List Segment} (hplain : IsPlain text)
    (hnext : ∀ s ∈ segments.head?, s.isResolvable = true)
    (hrest : Cuts (pos + byteLength text) rest segments) :
    Cuts pos (text ++ rest) (literalAt pos text ++ segments) := by
  cases text with
  | nil => exact hrest
  | cons c text => exact .literal (List.cons_ne_nil c text) hplain hnext hrest

/-- A delimiter without partner in a text that starts at byte `pos`. -/
def Unmatched (pos : Nat) (cs : List Char) (e : ParseError) : Prop :=
  ∃ delimiter before after, e.cause.delimiter? = some delimiter ∧
    cs = before ++ (delimiter ++ after) ∧ e.offset = pos + byteLength before ∧
    ∃ segments, segmentsFrom pos before = .ok segments

/-- The literal text in front of a delimiter is a template of its own. -/
theorem unmatched_of_rest {cause : ParseError.Cause} {c d : Char}
    (hcause : cause.delimiter? = some [c, d]) (h : (spanLiteral cs).rest = c :: d :: rest) :
    Unmatched pos cs ⟨cause, pos + byteLength (spanLiteral cs).value⟩ := by
  refine ⟨[c, d], (spanLiteral cs).value, rest, hcause, ?_, rfl, ?_⟩
  · have hsplit := spanLiteral_append_eq cs
    rw [h] at hsplit
    exact hsplit.symm
  · exact ⟨_, segmentsFrom_plain (spanLiteral_of_isPlain (isPlain_spanLiteral cs)).2⟩

/-- Every text is cut as a whole, or up to a delimiter without partner. -/
theorem cuts_or_unmatched (pos : Nat) (cs : List Char) :
    match segmentsFrom pos cs with
    | .ok segments => Cuts pos cs segments
    | .error e => Unmatched pos cs e := by
  induction hn : cs.length using Nat.strongRecOn generalizing pos cs with
  | ind n ih =>
    subst hn
    have hsplit := spanLiteral_append_eq cs
    have hplain := isPlain_spanLiteral cs
    rcases rest_spanLiteral_cases cs with hnil | hdelimiter
    · rw [segmentsFrom_plain hnil]
      rw [hnil] at hsplit
      have hcuts : Cuts pos ((spanLiteral cs).value ++ [])
          (Template.literalAt pos (spanLiteral cs).value ++ []) :=
        .literalAt hplain (fun s hs => nomatch hs) (.nil _)
      rwa [hsplit, List.append_nil] at hcuts
    rcases atDelimiter_cases hdelimiter with ⟨inner, hopen⟩ | ⟨inner, hclose⟩
    · rw [segmentsFrom_open hopen]
      rw [hopen] at hsplit
      dsimp only
      cases hinner : closing? none 0 inner with
      | none => exact unmatched_of_rest rfl hopen
      | some t =>
        obtain ⟨text, rest⟩ := t
        obtain ⟨rfl, hsame⟩ := closing?_append hinner
        have hlength : rest.length < cs.length := by
          rw [← hsplit]
          simp only [List.length_append, List.length_cons]
          omega
        have hrest := ih rest.length hlength
          (pos + byteLength (spanLiteral cs).value + byteLength text + 2 * delimiterSize) rest rfl
        dsimp only
        cases hmore : segmentsFrom
            (pos + byteLength (spanLiteral cs).value + byteLength text + 2 * delimiterSize)
            rest with
        | ok more =>
          rw [hmore] at hrest
          have hcuts : Cuts pos ((spanLiteral cs).value ++ _) _ :=
            .literalAt hplain (fun s hs => by cases hs; rfl) (.resolvable hrest)
          rwa [hsplit] at hcuts
        | error e =>
          rw [hmore] at hrest
          -- the text in front of the delimiter is cut in the same way
          obtain ⟨delimiter, before, after, hd, rfl, hoffset, segments, hbefore⟩ := hrest
          obtain ⟨hvalue, hrest'⟩ :=
            spanLiteral_append hopen (text ++ '\x7d' :: '\x7d' :: before)
          refine ⟨delimiter, (spanLiteral cs).value ++
            '\x7b' :: '\x7b' :: (text ++ '\x7d' :: '\x7d' :: before), after, hd, ?_, ?_, ?_⟩
          · simp only [List.append_assoc, List.cons_append, hsplit]
          · rw [hoffset, byteLength_append, byteLength_resolvable]
            omega
          · rw [segmentsFrom_open hrest', hsame before, hvalue]
            dsimp only
            rw [hbefore]
            exact ⟨_, rfl⟩
    · rw [segmentsFrom_close hclose]
      exact unmatched_of_rest rfl hclose

/-! ### What is cut -/

namespace Cuts

variable {segments : List Segment}

theorem tile (h : Cuts pos cs segments) :
    Span.Tile pos (pos + byteLength cs) (segments.map Segment.span) := by
  induction h with
  | nil pos => exact rfl
  | literal hne _ _ _ ih =>
    rw [byteLength_append, ← Nat.add_assoc]
    exact ⟨rfl, Nat.lt_add_of_pos_right (byteLength_pos hne), ih⟩
  | resolvable _ ih =>
    rw [byteLength_resolvable, ← Nat.add_assoc, ← Nat.add_assoc]
    refine ⟨rfl, ?_, ih⟩
    simp only [Segment.span, delimiterSize]
    omega

theorem separated (h : Cuts pos cs segments) :
    segments.IsChain fun s t => s.isResolvable = true ∨ t.isResolvable = true := by
  induction h with
  | nil => exact .nil
  | literal _ _ hnext _ ih => exact List.isChain_cons.2 ⟨fun s hs => .inr (hnext s hs), ih⟩
  | resolvable _ ih => exact List.isChain_cons.2 ⟨fun _ _ => .inl rfl, ih⟩

theorem plain (h : Cuts pos cs segments) {span : Span} {text : String}
    (hmem : .literal span text ∈ segments) : IsPlain text.toList := by
  induction h with
  | nil => cases hmem
  | literal _ hplain _ _ ih =>
    rcases List.mem_cons.1 hmem with heq | hmem
    · cases heq
      rwa [String.toList_ofList]
    · exact ih hmem
  | resolvable _ ih =>
    rcases List.mem_cons.1 hmem with heq | hmem
    · cases heq
    · exact ih hmem

theorem join (h : Cuts pos cs segments) :
    String.join (segments.map Segment.sourceText) = String.ofList cs := by
  induction h with
  | nil => rfl
  | literal _ _ _ _ ih =>
    rw [List.map_cons, String.join_cons, ih, String.ofList_append]
    rfl
  | resolvable _ ih =>
    rw [List.map_cons, String.join_cons, ih, Segment.sourceText, ← String.ofList_append,
      String.toList_ofList]
    simp only [List.cons_append, List.append_assoc, List.nil_append]

theorem holds (h : Cuts pos cs segments) {before : List Char} (hbefore : byteLength before = pos)
    {s : Segment} (hs : s ∈ segments) :
    s.span.Holds (String.ofList (before ++ cs)) s.sourceText := by
  induction h generalizing before with
  | nil => cases hs
  | @literal pos text rest _ _ _ _ _ ih =>
    rcases List.mem_cons.1 hs with rfl | hs
    · refine ⟨String.ofList before, String.ofList rest, ?_, ?_, ?_⟩
      · simp only [Segment.sourceText, ← String.ofList_append, List.append_assoc]
      · rw [← byteLength_toList, String.toList_ofList, hbefore]
        rfl
      · rw [← byteLength_toList, ← byteLength_toList, String.toList_ofList, hbefore,
          Segment.sourceText, String.toList_ofList]
        rfl
    · rw [← List.append_assoc]
      exact ih (by rw [byteLength_append, hbefore]) hs
  | @resolvable pos text rest _ _ ih =>
    rcases List.mem_cons.1 hs with rfl | hs
    · refine ⟨String.ofList before, String.ofList rest, ?_, ?_, ?_⟩
      · simp only [Segment.sourceText, ← String.ofList_append, String.toList_ofList,
          List.append_assoc, List.cons_append, List.nil_append]
      · rw [← byteLength_toList, String.toList_ofList, hbefore]
        rfl
      · rw [← byteLength_toList, ← byteLength_toList, String.toList_ofList, hbefore,
          Segment.sourceText, String.toList_ofList, String.toList_ofList,
          byteLength_resolvable text []]
        rfl
    · have hpos : byteLength (before ++ '\x7b' :: '\x7b' :: (text ++ ['\x7d', '\x7d'])) =
          pos + byteLength text + 2 * delimiterSize := by
        rw [byteLength_append, byteLength_resolvable text [], hbefore, byteLength_nil]
        omega
      have hih := ih hpos hs
      simpa only [List.append_assoc, List.cons_append, List.nil_append] using hih

/-- Segments that cut a source do so without loss. -/
theorem isSegmentation {source : String} (h : Cuts 0 source.toList segments) :
    IsSegmentation source segments := by
  have hholds : ∀ s ∈ segments, s.span.Holds source s.sourceText := by
    intro s hs
    have hheld := h.holds byteLength_nil hs
    rwa [List.nil_append, String.ofList_toList] at hheld
  refine ⟨?_, hholds, h.separated, fun span text => h.plain, ?_, ?_⟩
  · have htile := h.tile
    rwa [Nat.zero_add, byteLength_toList] at htile
  · intro s _ e offset he
    cases s with
    | literal => cases he
    | resolvable =>
      cases he
      rfl
  · have hslices : segments.map (fun s => slice source s.span.start s.span.stop) =
        segments.map Segment.sourceText :=
      List.map_congr_left fun s hs => (hholds s hs).slice_eq
    rw [hslices, h.join, String.ofList_toList]

end Cuts

/-- A source is cut into segments without loss, or it is cut up to a delimiter without partner. -/
theorem parse_lossless (source : String) :
    match parse source with
    | .ok t => t.source = source ∧ IsSegmentation source t.segments ∧ t.reconstruct = source
    | .error e => IsUnmatched source e := by
  have hsource := cuts_or_unmatched 0 source.toList
  unfold parse
  cases hsegments : segmentsFrom 0 source.toList with
  | ok segments =>
    rw [hsegments] at hsource
    exact ⟨rfl, hsource.isSegmentation, hsource.isSegmentation.join⟩
  | error e =>
    rw [hsegments] at hsource
    obtain ⟨delimiter, before, after, hdelimiter, hsplit, hoffset, segments, hbefore⟩ := hsource
    refine ⟨delimiter, String.ofList before, String.ofList after, hdelimiter, ?_, ?_,
      ⟨String.ofList before, segments⟩, ?_⟩
    · rw [← String.ofList_append, ← String.ofList_append, List.append_assoc, ← hsplit,
        String.ofList_toList]
    · rw [← byteLength_toList, String.toList_ofList, hoffset, Nat.zero_add]
    · rw [parse, String.toList_ofList, hbefore]
      rfl

end Template

end TemplateExpr
