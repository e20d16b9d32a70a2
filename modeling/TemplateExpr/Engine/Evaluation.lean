import TemplateExpr.Error.Basic
import TemplateExpr.Template.Compiled
import TemplateExpr.Value.Json

/-!
# Results of evaluations

What the evaluation of a template comes to: a value, or an error and where it arose in the template.
-/

namespace TemplateExpr

/-- Figures of the evaluation of one template. -/
structure Metadata where
  segmentCount : Nat
  expressionCount : Nat
  cacheHits : Nat
  steps : Nat
deriving Repr, DecidableEq

/-- The figures as JSON. -/
def Metadata.toJson (m : Metadata) : Json :=
  .object
    [("segmentCount", .ofNat m.segmentCount), ("expressionCount", .ofNat m.expressionCount),
     ("cacheHits", .ofNat m.cacheHits), ("steps", .ofNat m.steps)]

/-- What an evaluation comes to. -/
inductive Outcome where
  | value (v : Value)
  | failure (error : EvalError) (position? : Option Span)

/-- The result of an evaluation. -/
structure Evaluation where
  outcome : Outcome
  /-- Whether all expressions were found in the cache. -/
  cached : Bool
  metadata? : Option Metadata

namespace Evaluation

/-- A value without figures. -/
def ofValue (v : Value) : Evaluation := ⟨.value v, false, none⟩

/-- A failure without figures. -/
def ofFailure (error : EvalError) (position? : Option Span) : Evaluation :=
  ⟨.failure error position?, false, none⟩

/-- The value, if there is one. -/
def value? (e : Evaluation) : Option Value :=
  match e.outcome with
  | .value v => some v
  | .failure .. => none

/-- The kind of the value or the class of the error. -/
def typeName (e : Evaluation) : String :=
  match e.outcome with
  | .value v => v.kindName
  | .failure error _ => error.kind

/-- An error and its place as JSON. -/
def errorJson (error : EvalError) (position? : Option Span) : Json :=
  .object
    [("type", .string error.kind), ("message", .string error.message),
     ("description", .ofString? error.description?), ("level", .string error.level.name),
     ("node", .ofString? error.node?),
     ("position", (position?.map (Json.object ·.fields)).getD .null)]

/-- A result as JSON, with the milliseconds that it took; what is in the cache takes no time. -/
def toJson (e : Evaluation) (millis : Float) : Json :=
  let isValue := e.value?.isSome
  .object
    ([("success", .bool isValue), ("type", .string e.typeName),
      ("executionTime", .float (if e.cached then 0 else millis)), ("cached", .bool e.cached)] ++
     (match e.outcome with
      | .value v => [("value", v.toJson)]
      | .failure error position? => [("error", errorJson error position?)]) ++
     e.metadata?.toList.map fun m => ("metadata", m.toJson))

end Evaluation

/-! ### Trees of templates -/

/-- A segment as JSON. -/
def Segment.toJson (s : Segment) : Json :=
  let range : List (String × Json) := [("from", .ofNat s.span.start), ("to", .ofNat s.span.stop)]
  match s with
  | .literal _ text => .object ([("type", .string "literal")] ++ range ++ [("text", .string text)])
  | .resolvable span source =>
    .object ([("type", .string "resolvable")] ++ range ++
      [("expression", .string source),
       ("expressionOffset", .ofNat (span.start + delimiterSize))])

/-- The character at which an expression cannot be read. -/
def ParseError.position (e : ParseError) : Span := ⟨e.offset, e.offset + 1⟩

/-- The segments of a template and the trees of its expressions. -/
def Template.tree (t : Template) : Except ParseError Json := do
  let compiled ← (t.segments.filterMap Compiled.ofSegment?).mapM id
  pure (.object
    [("segments", .array (t.segments.map Segment.toJson)),
     ("expressions", .array (compiled.map Compiled.toJson))])

end TemplateExpr
