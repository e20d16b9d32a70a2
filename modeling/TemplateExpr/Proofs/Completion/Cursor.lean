import Mathlib
import TemplateExpr.Completion.Basic
import TemplateExpr.Proofs.Template.Segments
import TemplateExpr.Proofs.Text.Search

/-!
# The cursor and the segments of a template

The text that suggestions are made from is looked for in front of the cursor without cutting the
template. `Suggestion.complete_of_parse` compares it with the segments that the template is cut
into. Nothing is suggested on literal text. Within an expression the text found is what has been
typed of it, from the last `{{` on, unless a `}}` is in it. Such a `}}` need not be the end of the
expression, as it may close two nested objects or stand in quotes
(`Suggestion.complete_behind_nestedObjects`).
-/

namespace TemplateExpr

open TemplateExpr.Text

/-! ### Cutting at the cursor -/

/-- A place within a part of a text is behind a beginning of the part. -/
theorem Text.exists_prefix_of_append_eq {front part rest before after : List Char}
    (h : front ++ (part ++ rest) = before ++ after) (hstart : byteLength front ≤ byteLength before)
    (hstop : byteLength before ≤ byteLength front + byteLength part) :
    ∃ passed, before = front ++ passed ∧ passed <+: part := by
  obtain ⟨passed, rfl, hrest⟩ := exists_of_append_eq h hstart
  rw [byteLength_append] at hstop
  obtain ⟨more, hpart, -⟩ := exists_of_append_eq hrest.symm (by omega)
  exact ⟨passed, rfl, more, hpart.symm⟩

/-- What is held by a span, as characters. -/
theorem Span.Holds.exists_append {span : Span} {source text : String} (h : span.Holds source text) :
    ∃ before after, source.toList = before ++ (text.toList ++ after) ∧
      byteLength before = span.start ∧ byteLength (before ++ text.toList) = span.stop := by
  obtain ⟨before, after, rfl, hstart, hstop⟩ := h
  refine ⟨before.toList, after.toList, ?_, ?_, ?_⟩
  · rw [String.toList_append, String.toList_append, List.append_assoc]
  · rw [byteLength_toList, hstart]
  · rw [byteLength_append, byteLength_toList, byteLength_toList, hstop]

/-- The characters of an expression and its delimiters. -/
theorem Segment.toList_sourceText_resolvable (span : Span) (expression : String) :
    (resolvable span expression).sourceText.toList =
      ['\x7b', '\x7b'] ++ (expression.toList ++ ['\x7d', '\x7d']) := by
  rw [sourceText, String.toList_ofList]
  rfl

/-! ### Neighbouring segments -/

theorem Span.Tile.stop_eq_start {start stop : Nat} {front rest : List Span} {s t : Span}
    (h : Span.Tile start stop (front ++ s :: t :: rest)) : s.stop = t.start := by
  induction front generalizing start with
  | nil => exact h.2.2.1.symm
  | cons _ front ih => exact ih h.2.2

/-- In front of literal text stands nothing or a closing delimiter. -/
theorem Template.IsSegmentation.front_of_literal {source : String} {segments : List Segment}
    (h : IsSegmentation source segments) {span : Span} {text : String}
    (hmem : .literal span text ∈ segments) :
    takeBytes span.start source.toList = [] ∨
      ['\x7d', '\x7d'] <:+ takeBytes span.start source.toList := by
  obtain ⟨earlier, later, rfl⟩ := List.append_of_mem hmem
  have htile := h.tile
  rcases List.eq_nil_or_concat' earlier with rfl | ⟨earlier, previous, rfl⟩
  · left
    rw [show span.start = 0 from htile.1]
    exact takeBytes_append [] source.toList
  · right
    rw [List.append_assoc, List.singleton_append] at h htile
    have hseparated := (List.isChain_append.1 h.separated).2.1
    rw [List.map_append, List.map_cons, List.map_cons] at htile
    -- two literal texts do not follow each other, so an expression ends here
    cases previous with
    | literal => rcases (List.isChain_cons_cons.1 hseparated).1 with h | h <;> cases h
    | resolvable s expression =>
      obtain ⟨before, after, hsource, -, hstop⟩ :=
        (h.holds _ (List.mem_append_right _ (.head _))).exists_append
      rw [show span.start = _ from htile.stop_eq_start.symm, ← hstop, hsource, ← List.append_assoc,
        takeBytes_append, Segment.toList_sourceText_resolvable, ← List.append_assoc,
        ← List.append_assoc]
      exact List.suffix_append _ _

/-! ### The last opening delimiter -/

/-- `tail` is what stands behind the last opening delimiter of `text`. -/
def IsBehindOpening (tail text : List Char) : Prop :=
  ∃ front, text = front ++ '\x7b' :: '\x7b' :: tail ∧ ¬['\x7b', '\x7b'] <:+: '\x7b' :: tail

theorem isBehindOpening_of_lastIndexOf? {text : List Char} {i : Nat}
    (h : lastIndexOf? ['\x7b', '\x7b'] text = some i) :
    IsBehindOpening (text.drop (i + 2)) text := by
  obtain ⟨hoccurs, hgreatest⟩ := lastIndexOf?_eq_some_iff.1 h
  have hsplit : text = text.take i ++ '\x7b' :: '\x7b' :: text.drop (i + 2) := by
    conv_lhs => rw [hoccurs.exists_append]
    simp
  refine ⟨text.take i, hsplit, ?_⟩
  rintro ⟨front, rest, hlater⟩
  -- a later opening delimiter would have been found
  have hi : (text.take i).length = i := List.length_take_of_le hoccurs.1
  have hoccurs' := occursAt_append (text.take i ++ '\x7b' :: front) ['\x7b', '\x7b'] rest
  have htext : text.take i ++ '\x7b' :: front ++ ['\x7b', '\x7b'] ++ rest = text := by
    conv_rhs => rw [hsplit, ← hlater]
    simp only [List.append_assoc, List.cons_append, List.nil_append]
  rw [htext] at hoccurs'
  have hle := hgreatest hoccurs'
  rw [List.length_append, List.length_cons, hi] at hle
  omega

/-- The last opening delimiter is not in front of a given one. -/
theorem exists_lastIndexOf?_opening (front typed : List Char) :
    ∃ i, lastIndexOf? ['\x7b', '\x7b'] (front ++ ['\x7b', '\x7b'] ++ typed) = some i ∧
      (front ++ ['\x7b', '\x7b'] ++ typed).drop (i + 2) <:+ typed := by
  have hoccurs := occursAt_append front ['\x7b', '\x7b'] typed
  cases hlast : lastIndexOf? ['\x7b', '\x7b'] (front ++ ['\x7b', '\x7b'] ++ typed) with
  | none => exact absurd hoccurs (lastIndexOf?_eq_none_iff.1 hlast _)
  | some i =>
    -- the position of the given delimiter bounds that of the last one from below
    have hle : front.length ≤ i := (lastIndexOf?_eq_some_iff.1 hlast).2 hoccurs
    have hlength : (front ++ ['\x7b', '\x7b']).length ≤ i + 2 := by
      rw [List.length_append]
      exact Nat.add_le_add_right hle 2
    refine ⟨i, rfl, ?_⟩
    rw [List.drop_append, List.drop_of_length_le hlength, List.nil_append]
    exact List.drop_suffix _ _

/-- Behind an opening delimiter that is closed in front of a text without one, a closing delimiter
stands. -/
theorem closing_infix_of_append_eq {front tail before rest : List Char}
    (h : front ++ '\x7b' :: '\x7b' :: tail = before ++ ['\x7d', '\x7d'] ++ rest)
    (hrest : ¬['\x7b', '\x7b'] <:+: rest) : ['\x7d', '\x7d'] <:+: tail := by
  rw [List.append_assoc] at h
  rcases List.append_eq_append_iff.1 h with ⟨ws, -, hws⟩ | ⟨ws, -, hws⟩
  · -- the closing delimiter stands behind the opening one
    match ws, hws with
    | _ :: _ :: ws, hws =>
      refine ⟨ws, rest, ?_⟩
      simpa using (List.cons.inj (List.cons.inj hws).2).2.symm
  · -- the opening delimiter stands behind the closing one
    match ws, hws with
    | _ :: _ :: ws, hws =>
      refine absurd ⟨ws, tail, ?_⟩ hrest
      simpa using (List.cons.inj (List.cons.inj hws).2).2.symm

/-! ### The text in front of the cursor -/

section

variable {source : String} {before after : List Char}

theorem textBefore?_eq (h : source.toList = before ++ after) :
    textBefore? source (byteLength before) =
      (lastIndexOf? ['\x7b', '\x7b'] before).bind fun i =>
        if ['\x7d', '\x7d'] <:+: before.drop (i + 2) then none else some (before.drop (i + 2)) := by
  have hboundary : isBoundary (byteLength before) source.toList = true :=
    isBoundary_iff.2 ⟨before, after, h, rfl⟩
  have hle : byteLength before ≤ source.utf8ByteSize :=
    byteLength_toList source ▸ le_of_isBoundary hboundary
  have htake : takeBytes (byteLength before) source.toList = before := by
    rw [h, takeBytes_append]
  rw [textBefore?]
  simp only [Nat.min_eq_left hle, hboundary, htake, contains_iff]
  rfl

/-- If every opening delimiter is closed in front of the cursor, there is no such text. -/
theorem textBefore?_eq_none (h : source.toList = before ++ after)
    (hclosed : ∀ front tail, before = front ++ '\x7b' :: '\x7b' :: tail →
      ['\x7d', '\x7d'] <:+: tail) : textBefore? source (byteLength before) = none := by
  rw [textBefore?_eq h]
  cases hlast : lastIndexOf? ['\x7b', '\x7b'] before with
  | none => rfl
  | some i =>
    obtain ⟨front, hsplit, -⟩ := isBehindOpening_of_lastIndexOf? hlast
    exact if_pos (hclosed front _ hsplit)

/-- There is no such text on literal text. -/
theorem textBefore?_of_literal {segments : List Segment}
    (hsegments : Template.IsSegmentation source segments) {span : Span} {text : String}
    (hmem : .literal span text ∈ segments) (h : source.toList = before ++ after)
    (hstart : span.start ≤ byteLength before) (hstop : byteLength before ≤ span.stop) :
    textBefore? source (byteLength before) = none := by
  apply textBefore?_eq_none h
  have hfront := hsegments.front_of_literal hmem
  obtain ⟨b, a, hsource, hb, htext⟩ := (hsegments.holds _ hmem).exists_append
  rw [hsource] at h hfront
  rw [show span.start = _ from hb.symm, takeBytes_append] at hfront
  rw [show span.stop = _ from htext.symm, byteLength_append] at hstop
  -- the cursor has passed a beginning of the literal text, which opens nothing
  obtain ⟨passed, rfl, hpassed⟩ := exists_prefix_of_append_eq h (hb.trans_le hstart) hstop
  have hopen : ¬['\x7b', '\x7b'] <:+: passed := fun hin =>
    (hsegments.plain span text hmem).no_open (hin.trans hpassed.isInfix)
  intro front tail hsplit
  rcases hfront with rfl | ⟨closed, rfl⟩
  · exact absurd ⟨front, tail, by rw [← List.nil_append passed, hsplit, List.append_assoc]; rfl⟩
      hopen
  · exact closing_infix_of_append_eq hsplit.symm hopen

/-- Within an expression, what has been typed of it from the last opening delimiter on is the text
that suggestions are made from, if no closing delimiter is in it. -/
theorem textBefore?_of_resolvable {segments : List Segment}
    (hsegments : Template.IsSegmentation source segments) {span : Span} {expression : String}
    (hmem : .resolvable span expression ∈ segments) (h : source.toList = before ++ after)
    (hstart : span.start + delimiterSize ≤ byteLength before)
    (hstop : byteLength before + delimiterSize ≤ span.stop) :
    ∃ typed tail, typed <+: expression.toList ∧
      span.start + delimiterSize + byteLength typed = byteLength before ∧
      tail <:+ typed ∧ IsBehindOpening tail before ∧
      textBefore? source (byteLength before) =
        if ['\x7d', '\x7d'] <:+: tail then none else some tail := by
  obtain ⟨b, a, hsource, hb, hexpression⟩ := (hsegments.holds _ hmem).exists_append
  rw [Segment.toList_sourceText_resolvable] at hsource hexpression
  -- the text of the expression stands between the delimiters of its segment
  have hsplit : b ++ ['\x7b', '\x7b'] ++ (expression.toList ++ ('\x7d' :: '\x7d' :: a)) =
      before ++ after := by
    rw [← h, hsource]
    simp only [List.append_assoc, List.cons_append, List.nil_append]
  have hopening : byteLength (b ++ ['\x7b', '\x7b']) = span.start + delimiterSize := by
    rw [byteLength_append, hb]
    rfl
  have hclosing : byteLength (b ++ ['\x7b', '\x7b']) + byteLength expression.toList +
      delimiterSize = span.stop := by
    rw [show span.stop = _ from hexpression.symm, ← List.append_assoc, ← List.append_assoc,
      byteLength_append _ ['\x7d', '\x7d'], byteLength_append _ expression.toList]
    rfl
  obtain ⟨typed, rfl, htyped⟩ :=
    exists_prefix_of_append_eq hsplit (hopening.trans_le hstart) (by omega)
  -- the delimiter that is found may be one that is a part of what has been typed
  obtain ⟨i, hlast, htail⟩ := exists_lastIndexOf?_opening b typed
  rw [textBefore?_eq h, hlast]
  refine ⟨typed, _, htyped, ?_, htail, isBehindOpening_of_lastIndexOf? hlast, rfl⟩
  rw [byteLength_append _ typed, hopening]

end

/-! ### Completion -/

/-- Compared with the segments of a template, suggestions are made from the text of the expression
that the cursor is in, up to the cursor, and nothing is suggested on literal text. The text starts
behind the last opening delimiter in front of the cursor, which may be a part of the expression, and
is not found if a closing delimiter is in it. -/
theorem Suggestion.complete_of_parse {source : String} {t : Template}
    (ht : Template.parse source = .ok t) {cursor : Nat}
    (hcursor : isBoundary cursor source.toList = true) :
    (∀ span expression, .resolvable span expression ∈ t.segments →
      span.start + delimiterSize ≤ cursor → cursor + delimiterSize ≤ span.stop →
      ∃ typed tail, typed <+: expression.toList ∧
        span.start + delimiterSize + byteLength typed = cursor ∧
        tail <:+ typed ∧ IsBehindOpening tail (takeBytes cursor source.toList) ∧
        textBefore? source cursor = if ['\x7d', '\x7d'] <:+: tail then none else some tail) ∧
    ∀ span text, .literal span text ∈ t.segments → span.start ≤ cursor → cursor ≤ span.stop →
      ∀ globals context?, complete globals context? source cursor = [] := by
  have hlossless := Template.parse_lossless source
  rw [ht] at hlossless
  obtain ⟨before, after, hsource, rfl⟩ := isBoundary_iff.1 hcursor
  constructor
  · intro span expression hmem hstart hstop
    have hbefore : takeBytes (byteLength before) source.toList = before := by
      rw [hsource, takeBytes_append]
    rw [hbefore]
    exact textBefore?_of_resolvable hlossless.2.1 hmem hsource hstart hstop
  · intro span text hmem hstart hstop globals context?
    rw [complete, textBefore?_of_literal hlossless.2.1 hmem hsource hstart hstop]
    rfl

/-- A cursor within an expression, and one behind the literal text at the end. -/
theorem Suggestion.complete_of_parse_greeting :
    (∃ typed tail, typed <+: " $json.a ".toList ∧ 3 + delimiterSize + byteLength typed = 9 ∧
      tail <:+ typed ∧
      IsBehindOpening tail (takeBytes 9 "Hi \x7b\x7b $json.a \x7d\x7d!".toList) ∧
      textBefore? "Hi \x7b\x7b $json.a \x7d\x7d!" 9 =
        if ['\x7d', '\x7d'] <:+: tail then none else some tail) ∧
    complete [] none "Hi \x7b\x7b $json.a \x7d\x7d!" 17 = [] := by
  have ht : Template.parse "Hi \x7b\x7b $json.a \x7d\x7d!" =
      .ok ⟨"Hi \x7b\x7b $json.a \x7d\x7d!",
        [.literal ⟨0, 3⟩ "Hi ", .resolvable ⟨3, 16⟩ " $json.a ", .literal ⟨16, 17⟩ "!"]⟩ := by cbv
  exact ⟨(complete_of_parse ht (by decide)).1 ⟨3, 16⟩ _ (.tail _ (.head _)) (by decide) (by decide),
    (complete_of_parse ht (by decide)).2 ⟨16, 17⟩ _ (.tail _ (.tail _ (.head _))) (by decide)
      (by decide) _ _⟩

/-- Two nested objects end with a closing delimiter that does not close the expression, but takes
the suggestions away. -/
theorem Suggestion.complete_behind_nestedObjects :
    Template.parse "\x7b\x7b \x7ba: \x7bb: 1\x7d\x7d.a.b + undef \x7d\x7d" =
      .ok ⟨"\x7b\x7b \x7ba: \x7bb: 1\x7d\x7d.a.b + undef \x7d\x7d",
        [.resolvable ⟨0, 29⟩ " \x7ba: \x7bb: 1\x7d\x7d.a.b + undef "]⟩ ∧
    isBoundary 26 "\x7b\x7b \x7ba: \x7bb: 1\x7d\x7d.a.b + undef \x7d\x7d".toList = true ∧
    textBefore? "\x7b\x7b \x7ba: \x7bb: 1\x7d\x7d.a.b + undef \x7d\x7d" 26 = none ∧
    complete [] none "\x7b\x7b \x7ba: \x7bb: 1\x7d\x7d.a.b + undef \x7d\x7d" 26 = [] ∧
    complete [] none "\x7b\x7b undef \x7d\x7d" 8 = [⟨"undefined", .keyword, none⟩] := by
  refine ⟨by cbv, by decide, by decide, by decide, by decide +kernel⟩

end TemplateExpr
