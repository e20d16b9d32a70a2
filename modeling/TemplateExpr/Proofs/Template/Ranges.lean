import TemplateExpr.Proofs.Expr.Analysis
import TemplateExpr.Proofs.Expr.Reading
import TemplateExpr.Proofs.Template.Segments
import TemplateExpr.Template.Compiled

/-!
# Expressions within templates

A range of an expression, moved to where the expression stands, is a range of the template
(`ExpressionAt.isRange`), so what the analysis of a compiled expression points at lies in the
template (`Compiled.written_of_ofText`).

An error in a text that cannot be read is given the byte at its offset. That is a range if the
character there is a single byte (`ExpressionAt.isRange_error`); `Template.failsAtBytes` says so for
all expressions of a template. The two bytes of a delimiter without partner always are one
(`Template.isRange_unmatched`).
-/

namespace TemplateExpr

open TemplateExpr.Text

/-- The range is not changed by keeping it within the text. -/
theorem Span.IsRange.clip {source : String} {start stop : Nat}
    (h : Span.IsRange source.toList ⟨start, stop⟩) :
    max (min stop source.utf8ByteSize) start = stop := by
  have hstop : stop ≤ source.utf8ByteSize := byteLength_toList source ▸ le_of_isBoundary h.stop
  rw [Nat.min_eq_left hstop, Nat.max_eq_left h.start_le_stop]

/-- A range holds its slice of the text, and what is cut out of the text is kept within it. -/
theorem Span.IsRange.holds {source : String} {s : Span} (h : s.IsRange source.toList) :
    s.Holds source (slice source s.start (min s.stop source.utf8ByteSize)) := by
  have hstop : s.stop ≤ source.utf8ByteSize := byteLength_toList source ▸ le_of_isBoundary h.stop
  obtain ⟨before, text, after, hsplit, hbefore, htext⟩ := h.exists_part
  have hslice : slice source s.start (min s.stop source.utf8ByteSize) = String.ofList text := by
    rw [slice, Nat.min_eq_left hstop, hsplit, ← hbefore, ← htext, List.append_assoc,
      betweenBytes_append]
  rw [hslice]
  refine ⟨String.ofList before, String.ofList after, ?_, ?_, ?_⟩
  · rw [← String.ofList_append, ← String.ofList_append, ← hsplit, String.ofList_toList]
  · rw [← byteLength_toList, String.toList_ofList, hbefore]
  · rw [← byteLength_toList, ← byteLength_toList, String.toList_ofList, String.toList_ofList, htext]

/-- What is held by a span is a range. -/
theorem Span.Holds.isRange {span : Span} {source text : String} (h : span.Holds source text) :
    span.IsRange source.toList := by
  obtain ⟨before, after, rfl, hstart, hstop⟩ := h
  have hrange := Span.isRange_append before.toList text.toList after.toList
  simp only [byteLength_toList] at hrange
  rw [hstop, hstart] at hrange
  rwa [String.toList_append, String.toList_append]

/-! ### Where expressions stand -/

/-- In the text of a template, the expression `source` stands at byte `offset` within a segment, and
is not the end of the text. -/
structure ExpressionAt (template : String) (segment : Span) (source : String) (offset : Nat) :
    Prop where
  segment : segment.IsRange template.toList
  split : ∃ before c after, template.toList = before ++ source.toList ++ c :: after ∧
    byteLength before = offset

theorem Template.expressionAt {template : String} {t : Template} (ht : parse template = .ok t)
    {span : Span} {source : String} (h : .resolvable span source ∈ t.segments) :
    ExpressionAt template span source (span.start + delimiterSize) := by
  have hlossless := parse_lossless template
  rw [ht] at hlossless
  have hholds := hlossless.2.1.holds _ h
  refine ⟨hholds.isRange, ?_⟩
  obtain ⟨before, after, rfl, hstart, -⟩ := hholds
  refine ⟨before.toList ++ ['\x7b', '\x7b'], '\x7d', '\x7d' :: after.toList, ?_, ?_⟩
  · simp only [Segment.sourceText, String.toList_append, String.toList_ofList, List.append_assoc,
      List.cons_append, List.nil_append]
  · rw [byteLength_append, byteLength_toList, show before.utf8ByteSize = span.start from hstart]
    rfl

namespace ExpressionAt

variable {template source : String} {segment : Span} {offset : Nat}
  (h : ExpressionAt template segment source offset)

include h

/-- A range of the expression is one of the template. -/
theorem isRange {s : Span} (hs : s.IsRange source.toList) :
    (s.shift offset).IsRange template.toList := by
  obtain ⟨before, c, after, hsplit, rfl⟩ := h.split
  rw [hsplit]
  exact hs.shift before (c :: after)

/-- The byte at which an expression cannot be read, if the character there is a single byte. -/
theorem isRange_error {error : ParseError} (herror : Compiled.ofText source offset = .error error)
    (hbyte : (dropBytes error.offset template.toList).head?.all (·.utf8Size == 1) = true) :
    Span.IsRange template.toList ⟨error.offset, error.offset + 1⟩ := by
  obtain ⟨before, c, after, hsplit, rfl⟩ := h.split
  unfold Compiled.ofText at herror
  split at herror
  · cases herror
  · have hparse := Expr.endsIn_parse source.toList
    split at herror
    · next e he =>
      obtain rfl := Except.error.inj herror
      rw [he] at hparse
      obtain ⟨front, rest, hsource, hoffset⟩ := isBoundary_iff.1 hparse
      have hpos : (e.shift (byteLength before)).offset = byteLength (before ++ front) := by
        rw [ParseError.shift, byteLength_append, hoffset, Nat.add_comm]
      -- the expression is followed by a character, so there is one at the place of the error
      obtain ⟨d, behind, hd⟩ : ∃ d behind, rest ++ c :: after = d :: behind := by
        cases rest with
        | nil => exact ⟨c, after, rfl⟩
        | cons d rest => exact ⟨d, rest ++ c :: after, rfl⟩
      have htemplate : template.toList = before ++ front ++ d :: behind := by
        rw [hsplit, hsource, ← hd]
        simp only [List.append_assoc]
      rw [hpos, htemplate, dropBytes_append, List.head?_cons, Option.all_some, beq_iff_eq] at hbyte
      have hrange := Span.isRange_append (before ++ front) [d] behind
      rw [byteLength_cons, byteLength_nil, hbyte] at hrange
      rw [hpos, htemplate, List.append_cons]
      exact hrange
    · cases herror

end ExpressionAt

/-- What the analysis of an expression points at are ranges of it, and the strings in its tree are
no longer than it. -/
theorem Compiled.written_of_ofText {source : String} {offset : Nat} {compiled : Compiled}
    (h : Compiled.ofText source offset = .ok compiled) :
    compiled.analysis.Placed (Span.IsRange source.toList) ∧ compiled.offset = offset ∧
      ∀ tree, compiled.program = .expr tree →
        tree.Written (Span.IsRange source.toList) (·.utf8ByteSize ≤ source.utf8ByteSize) := by
  unfold ofText at h
  split at h
  · obtain rfl := Except.ok.inj h
    refine ⟨?_, rfl, fun _ htree => by cases htree⟩
    constructor <;> exact fun _ hmem => absurd hmem List.not_mem_nil
  · have hparse := Expr.endsIn_parse source.toList
    split at h
    · cases h
    · next tree htree =>
      obtain rfl := Except.ok.inj h
      rw [htree, byteLength_toList] at hparse
      exact ⟨hparse.placed.analyze, rfl, fun _ heq => Program.expr.inj heq ▸ hparse⟩

/-! ### Where templates cannot be read -/

/-- The delimiter without partner is a range of two bytes. -/
theorem Template.isRange_unmatched {source : String} {e : ParseError}
    (h : parse source = .error e) :
    Span.IsRange source.toList ⟨e.offset, e.offset + delimiterSize⟩ := by
  have hunmatched := parse_lossless source
  rw [h] at hunmatched
  obtain ⟨delimiter, before, after, hdelimiter, rfl, hoffset, -⟩ := hunmatched
  have hsize : byteLength delimiter = delimiterSize := by
    cases hcause : e.cause <;> rw [hcause] at hdelimiter <;> cases hdelimiter <;> rfl
  have hrange := Span.isRange_append before.toList delimiter after.toList
  rw [byteLength_toList, hoffset, hsize] at hrange
  rwa [String.toList_append, String.toList_append, String.toList_ofList]

/-- Why expressions of the template cannot be read. -/
def Template.parseErrors (t : Template) : List ParseError :=
  (t.segments.filterMap Compiled.ofSegment?).filterMap fun
    | .error error => some error
    | .ok _ => none

/-- Wherever an expression of the template cannot be read, the character there is a single byte. -/
def Template.failsAtBytes (source : String) : Bool :=
  match parse source with
  | .ok t => t.parseErrors.all fun error =>
    (dropBytes error.offset source.toList).head?.all (·.utf8Size == 1)
  | .error _ => true

theorem Template.mem_parseErrors {t : Template} {span : Span} {source : String}
    {error : ParseError} (h : .resolvable span source ∈ t.segments)
    (herror : Compiled.ofText source (span.start + delimiterSize) = .error error) :
    error ∈ t.parseErrors :=
  List.mem_filterMap.2 ⟨.error error, List.mem_filterMap.2 ⟨_, h, congrArg some herror⟩, rfl⟩

/-- The byte at which an expression of the template cannot be read. -/
theorem Template.isRange_parseError {source : String} (hbytes : failsAtBytes source = true)
    {t : Template} (ht : parse source = .ok t) {error : ParseError} (h : error ∈ t.parseErrors) :
    Span.IsRange source.toList ⟨error.offset, error.offset + 1⟩ := by
  have hbyte : (dropBytes error.offset source.toList).head?.all (·.utf8Size == 1) = true := by
    rw [failsAtBytes, ht] at hbytes
    exact List.all_eq_true.1 hbytes error h
  obtain ⟨r, hr, herror⟩ := List.mem_filterMap.1 h
  obtain ⟨segment, hsegment, hcompiled⟩ := List.mem_filterMap.1 hr
  cases segment with
  | literal => cases hcompiled
  | resolvable span text =>
    cases r with
    | ok compiled => cases herror
    | error e =>
      obtain rfl := Option.some.inj herror
      exact (expressionAt ht hsegment).isRange_error (Option.some.inj hcompiled) hbyte

end TemplateExpr
