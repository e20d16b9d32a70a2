import TemplateExpr.Expr.ParseError
import TemplateExpr.Text.Taken
import TemplateExpr.Text.Utf8

/-!
# Templates

A template is literal text with expressions between `{{` and `}}`. `Template.parse` cuts it into
segments. Inside an expression, quoted text and balanced braces are passed over, so that only a `}}`
outside of both ends it; outside, the first `}}` without a `{{` is an error.
-/

namespace TemplateExpr

open TemplateExpr.Text

/-- A part of a template. -/
inductive Segment where
  | literal (span : Span) (text : String)
  /-- The text between the delimiters; the span includes them. -/
  | resolvable (span : Span) (expression : String)
deriving Repr

/-- The length of a delimiter. -/
def delimiterSize : Nat := 2

namespace Segment

/-- The range of the segment in the template. -/
def span : Segment → Span
  | literal s _ | resolvable s _ => s

/-- Whether the segment is an expression. -/
def isResolvable : Segment → Bool
  | literal .. => false
  | resolvable .. => true

/-- The expression and where it starts. -/
def expression? : Segment → Option (String × Nat)
  | literal .. => none
  | resolvable s e => some (e, s.start + delimiterSize)

end Segment

/-- A template and its segments, which lie side by side and cover it. -/
structure Template where
  source : String
  segments : List Segment
deriving Repr

namespace Template

/-! ### Segments -/

/-- Whether a delimiter starts here. -/
def atDelimiter : List Char → Bool
  | '\x7b' :: '\x7b' :: _ => true
  | '\x7d' :: '\x7d' :: _ => true
  | _ => false

/-- The text in front of the next delimiter. -/
def spanLiteral : (cs : List Char) → Left (List Char) cs
  | [] => ⟨[], [], Nat.le_refl _⟩
  | c :: cs =>
    if atDelimiter (c :: cs) then ⟨[], c :: cs, Nat.le_refl _⟩
    else
      let l := (spanLiteral cs).cons c
      { l with value := c :: l.value }

/-- The text of an expression and what follows its closing delimiter. `quote` is the quotation mark
of the text being passed over, in which a backslash hides the next character, and `depth` the number
of open braces. -/
def spanExpression (quote : Option Char) (depth : Nat) :
    (cs : List Char) → Option (Taken (List Char) cs)
  | [] => none
  | c :: cs =>
    let next (quote : Option Char) (depth : Nat) : Option (Taken (List Char) (c :: cs)) :=
      (spanExpression quote depth cs).map fun t =>
        ⟨c :: t.value, t.rest, Nat.lt_succ_of_lt t.rest_lt⟩
    match quote with
    | some q =>
      if c = '\\' then
        match cs with
        | [] => none
        | d :: ds =>
          (spanExpression quote depth ds).map fun t =>
            ⟨c :: d :: t.value, t.rest, Nat.lt_succ_of_lt (Nat.lt_succ_of_lt t.rest_lt)⟩
      else if c = q then next none depth
      else next quote depth
    | none =>
      if c = '\'' ∨ c = '"' ∨ c = '\x60' then next (some c) depth
      else if c = '\x7b' then next none (depth + 1)
      else if c = '\x7d' then
        if depth = 0 ∧ cs.head? = some '\x7d' then
          some ⟨[], cs.tail, length_tail_lt c cs⟩
        else next none (depth - 1)
      else next none depth

/-- The segments of `cs`, which starts at byte `pos` of the template. -/
def segmentsFrom (pos : Nat) (cs : List Char) : Except ParseError (List Segment) :=
  let before := spanLiteral cs
  let open_ := pos + byteLength before.value
  let literal : List Segment :=
    if before.value.isEmpty then [] else [.literal ⟨pos, open_⟩ (String.ofList before.value)]
  match h : before.rest with
  | [] => .ok literal
  | '\x7b' :: '\x7b' :: inner =>
    match spanExpression none 0 inner with
    | none => .error ⟨.unmatchedOpen, open_⟩
    | some t =>
      let stop := open_ + byteLength t.value + 2 * delimiterSize
      have : t.rest.length < cs.length := by
        have h1 := before.rest_le
        have h2 := t.rest_lt
        rw [h] at h1
        simp only [List.length_cons] at h1
        omega
      match segmentsFrom stop t.rest with
      | .error e => .error e
      | .ok more => .ok (literal ++ .resolvable ⟨open_, stop⟩ (String.ofList t.value) :: more)
  | _ :: _ => .error ⟨.unmatchedClose, open_⟩
termination_by cs.length

/-- Cuts a template into segments. -/
def parse (source : String) : Except ParseError Template :=
  (segmentsFrom 0 source.toList).map fun segments => ⟨source, segments⟩

/-! ### Views -/

/-- The expressions of a template. -/
def resolvables (t : Template) : List Segment := t.segments.filter Segment.isResolvable

/-- The number of expressions. -/
def expressionCount (t : Template) : Nat := t.resolvables.length

/-- Whether a segment is text that consists of blanks. -/
def isBlankText : Segment → Bool
  | .literal _ text => text.toList.all isBlank
  | .resolvable .. => false

/-- The expression of a template that has one and otherwise only blanks. Such a template stands for
the value of the expression, any other for a text. -/
def singleExpression? (t : Template) : Option Segment :=
  match t.segments.filter (!isBlankText ·) with
  | [.resolvable s e] => some (.resolvable s e)
  | _ => none

/-- The slices of the source that the segments cover, one after the other. -/
def reconstruct (t : Template) : String :=
  String.join (t.segments.map fun s => slice t.source s.span.start s.span.stop)

end Template

end TemplateExpr
