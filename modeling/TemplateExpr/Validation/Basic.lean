import TemplateExpr.Context.Basic
import TemplateExpr.Json.Basic
import TemplateExpr.Method.Table
import TemplateExpr.Security.Policy
import TemplateExpr.Template.Compiled
import TemplateExpr.Validation.Problem

/-!
# Validation

`Validation.ofText` checks a template layer by layer. It collects the issues in the order of the
layers and stops behind the layer in which the number of errors reaches its limit. A template is
valid if no error is reported.
-/

/-!
## Limits of validation

Which layers are run, how many errors are reported, and up to where measures are accepted.
-/

namespace TemplateExpr

/-- What is checked, and how strictly. -/
structure ValidationLimits where
  /-- The layers that are run. -/
  layers : List Layer
  /-- The number of errors after which no more are reported. -/
  maxErrors : Nat
  /-- The number of bytes of an expression. -/
  maxExpressionLength : Nat
  /-- The height of a tree. -/
  maxNestingDepth : Nat
  maxComplexity : Nat
  /-- The number of expressions in a template. -/
  maxExpressions : Nat
deriving Repr

namespace ValidationLimits

/-- The default limits; all layers are run. -/
def standard : ValidationLimits :=
  { layers := Layer.all
    maxErrors := 100
    maxExpressionLength := 5000
    maxNestingDepth := 20
    maxComplexity := 200
    maxExpressions := 50 }

/-- Whether a layer is run. -/
def runs (l : ValidationLimits) (layer : Layer) : Bool := l.layers.contains layer

/-- The limit of a measure. -/
def limitOf (l : ValidationLimits) : Measure → Nat
  | .length => l.maxExpressionLength
  | .depth => l.maxNestingDepth
  | .complexity => l.maxComplexity

/-- The layers that switches leave on; a layer without a switch is on. -/
def layersOfJson? (j : Json) : Option (List Layer) := do
  let r ← j.record? (Layer.all.map Layer.name)
  let switches ← Layer.all.mapM fun layer =>
    (r.field? layer.name Json.bool? true).map fun on => (layer, on)
  pure ((switches.filter (·.2)).map (·.1))

/-- A natural number of at most 32 bits. -/
def word? (j : Json) : Option Nat := j.nat?.filter (· < UInt32.size)

/-- The limits of JSON data; fields that are missing have their default. -/
def ofJson? (j : Json) : Option ValidationLimits := do
  let r ← j.record? ["layers", "maxErrors", "maxExpressionLength", "maxNestingDepth",
    "maxComplexity", "maxExpressions"]
  pure
    { layers := ← r.field? "layers" layersOfJson? standard.layers
      maxErrors := ← r.field? "maxErrors" Json.nat? standard.maxErrors
      maxExpressionLength :=
        ← r.field? "maxExpressionLength" Json.nat? standard.maxExpressionLength
      maxNestingDepth := ← r.field? "maxNestingDepth" Json.nat? standard.maxNestingDepth
      maxComplexity := ← r.field? "maxComplexity" word? standard.maxComplexity
      maxExpressions := ← r.field? "maxExpressions" Json.nat? standard.maxExpressions }

end ValidationLimits

end TemplateExpr

/-!
## Checks of the layers

For each layer, the issues that it finds in the expressions of a template. Nothing is evaluated.
-/

namespace TemplateExpr

open TemplateExpr.Text

/-- An expression of a template that is being checked. -/
structure CheckedExpression where
  /-- The segment, which includes the delimiters. -/
  span : Span
  source : String
  /-- Where the source starts in the template. -/
  offset : Nat
  /-- The compiled expression, or why it cannot be read; nothing if its text is too long to be
  read. -/
  compiled? : Option (Except ParseError Compiled)

/-- What the checks look at. -/
structure CheckInput where
  template : String
  expressions : List CheckedExpression
  /-- The context in which nodes are looked for. -/
  context? : Option Context
  limits : ValidationLimits
  policy : Policy

namespace CheckedExpression

/-- The expression of a segment. If the length of expressions is checked, one that is too long is
not read. -/
def ofSegment? (limits : ValidationLimits) (s : Segment) : Option CheckedExpression :=
  s.expression?.map fun (source, offset) =>
    let tooLong := limits.runs .performance && limits.maxExpressionLength < source.utf8ByteSize
    ⟨s.span, source, offset, if tooLong then none else some (Compiled.ofText source offset)⟩

/-- The analysis of an expression that can be read. -/
def analysis? (e : CheckedExpression) : Option Analysis :=
  match e.compiled? with
  | some (.ok compiled) => some compiled.analysis
  | _ => none

/-- Why the expression cannot be read. -/
def error? (e : CheckedExpression) : Option ParseError :=
  match e.compiled? with
  | some (.error error) => some error
  | _ => none

end CheckedExpression

namespace CheckInput

/-- A problem of a range of the template. -/
def issue (i : CheckInput) (span : Span) (problem : Problem) : Issue :=
  .ofSpan i.template span problem

/-- A problem of a range of an expression. -/
def issueIn (i : CheckInput) (e : CheckedExpression) (span : Span) (problem : Problem) : Issue :=
  i.issue (span.shift e.offset) problem

/-! ### Grammar -/

/-- The `size` bytes at which a text cannot be read, as far as the template goes. -/
def errorSpan (template : String) (size : Nat) (e : ParseError) : Span :=
  ⟨e.offset, max (min (e.offset + size) template.utf8ByteSize) e.offset⟩

/-- Expressions that cannot be read. -/
def grammarIssues (i : CheckInput) : List Issue :=
  (i.expressions.filterMap CheckedExpression.error?).map fun e =>
    i.issue (errorSpan i.template 1 e) (.unreadable e)

/-! ### Names -/

/-- The problem of a name that may not be used. Behind a dollar sign it might be meant. -/
def undefinedName (i : CheckInput) (name : String) : Problem :=
  let other := "$" ++ name
  .undefinedName name (if i.policy.allowsGlobal other then some other else none)

/-- Whether the context has data of a node. -/
def hasNode (c : Context) (name : String) : Bool :=
  (c.nodeOutput? name).isSome ||
    (c.lineage.bind (Context.LineageData.outputItems? · name)).isSome

/-- The names, methods and nodes that an expression may not use or that are not known. -/
def nameIssues (i : CheckInput) (e : CheckedExpression) (a : Analysis) : List Issue :=
  let names := a.freeNames.filter fun n => !i.policy.allowsGlobal n.value
  let methods := a.methodCalls.filter fun m => !(isMethod m.value || Host.hasFunction m.value)
  let nodes : List (Spanned String) := match i.context? with
    | some c => a.nodeReferences.filter fun n => !hasNode c n.value
    | none => []
  names.map (fun n => i.issueIn e n.span (i.undefinedName n.value)) ++
    methods.map (fun m => i.issueIn e m.span (.unknownMethod m.value)) ++
    nodes.map (fun n => i.issueIn e n.span (.unknownNode n.value))

/-- Names that are not known. Text that is blocked is left to the layer of security. -/
def semanticIssues (i : CheckInput) : List Issue :=
  i.expressions.flatMap fun e =>
    match e.analysis? with
    | some a => if (i.policy.findBlocked? e.source).isSome then [] else i.nameIssues e a
    | none => []

/-! ### Security -/

/-- Text that is blocked, or else the assignments and, if they are refused, the computed keys. -/
def securityIssues (i : CheckInput) : List Issue :=
  i.expressions.flatMap fun e =>
    match i.policy.findBlocked? e.source, e.analysis? with
    | some found, _ => [i.issueIn e found.span (.blocked found.rule)]
    | none, some a =>
      a.assignments.map (fun span => i.issueIn e span .assignment) ++
        if i.policy.config.strictGrammar then
          a.computedKeys.map fun span => i.issueIn e span .computedKey
        else []
    | none, none => []

/-! ### Performance -/

/-- The problem of a measure, if it is above its limit or above three quarters of it. -/
def measureProblem? (limits : ValidationLimits) (m : Measure) (actual : Nat) : Option Problem :=
  let limit := limits.limitOf m
  if limit < actual then some (.above m actual limit)
  else if 3 * limit < 4 * actual then some (.near m actual limit)
  else none

/-- Expressions that are too long, too deep or too complex, and iterations inside others. -/
def performanceIssues (i : CheckInput) : List Issue :=
  i.expressions.flatMap fun e =>
    let ofTree : List Problem := match e.analysis? with
      | some a =>
        (measureProblem? i.limits .depth a.depth).toList ++
          (measureProblem? i.limits .complexity a.complexity).toList ++
          (if 0 < a.nestedIterations then [.nestedIteration] else [])
      | none => []
    ((measureProblem? i.limits .length e.source.utf8ByteSize).toList ++ ofTree).map (i.issue e.span)

/-! ### Habits -/

/-- An expression that is empty or names nodes in the old way. -/
def habitProblem? (e : CheckedExpression) : Option Problem :=
  if (trim e.source.toList).isEmpty then some .emptyExpression
  else match e.analysis? with
    | some a =>
      if a.oldNodeAccess then some (.oldNodeAccess (a.nodeReferences.head?.map Spanned.value))
      else none
    | none => none

/-- Expressions that are empty or name nodes in the old way, and templates with too many of them. -/
def businessIssues (i : CheckInput) : List Issue :=
  let count := i.expressions.length
  (i.expressions.filterMap fun e => (habitProblem? e).map (i.issue e.span)) ++
    if i.limits.maxExpressions < count then
      [⟨.tooManyExpressions count i.limits.maxExpressions, none⟩]
    else []

/-- The issues that a layer finds. -/
def issuesOf (i : CheckInput) : Layer → List Issue
  | .grammar => i.grammarIssues
  | .semantic => i.semanticIssues
  | .security => i.securityIssues
  | .performance => i.performanceIssues
  | .business => i.businessIssues

end CheckInput

end TemplateExpr

/-!
## Results

The issues of all layers, sorted into errors and warnings.
-/

namespace TemplateExpr

/-- The issues of a template. -/
structure Validation where
  errors : List Issue
  warnings : List Issue

namespace Validation

/-- Issues, sorted into errors and warnings. -/
def ofIssues (issues : List Issue) : Validation :=
  ⟨issues.filter Issue.isError, issues.filter (!·.isError)⟩

/-- Whether no error is reported. -/
def isValid (v : Validation) : Bool := v.errors.isEmpty

/-- All issues, errors first. -/
def issues (v : Validation) : List Issue := v.errors ++ v.warnings

/-- The issues as JSON. -/
def toJson (v : Validation) : Json :=
  .object
    [("isValid", .bool v.isValid), ("errors", .array (v.errors.map Issue.toJson)),
     ("warnings", .array (v.warnings.map Issue.toJson))]

/-! ### Collecting -/

/-- The warnings and the first `room` errors, and the room that is left for errors. -/
def keepErrors (room : Nat) : List Issue → List Issue × Nat
  | [] => ([], room)
  | i :: issues =>
    if !i.isError then
      let (kept, left) := keepErrors room issues
      (i :: kept, left)
    else
      match room with
      | 0 => keepErrors 0 issues
      | room + 1 =>
        let (kept, left) := keepErrors room issues
        (i :: kept, left)

/-- The issues of layers in turn, until there is no room for errors. -/
def collect (check : Layer → List Issue) (room : Nat) : List Layer → List Issue
  | [] => []
  | layer :: layers =>
    let (kept, left) := keepErrors room (check layer)
    if left = 0 then kept else kept ++ collect check left layers

/-! ### Templates -/

/-- Validates a template that has been cut into segments. -/
def ofTemplate (policy : Policy) (limits : ValidationLimits) (context? : Option Context)
    (t : Template) : Validation :=
  let input : CheckInput :=
    { template := t.source
      expressions := t.segments.filterMap (CheckedExpression.ofSegment? limits)
      context? := context?
      limits := limits
      policy := policy }
  ofIssues (collect input.issuesOf limits.maxErrors (Layer.all.filter limits.runs))

/-- The issues of a template that cannot be cut into segments. -/
def ofDelimiterError (limits : ValidationLimits) (source : String) (e : ParseError) : Validation :=
  ofIssues
    (if limits.runs .grammar then
      [.ofSpan source (CheckInput.errorSpan source delimiterSize e) (.delimiter e)]
    else [])

/-- Validates the text of a template. -/
def ofText (policy : Policy) (limits : ValidationLimits) (context? : Option Context)
    (source : String) : Validation :=
  match Template.parse source with
  | .error e => ofDelimiterError limits source e
  | .ok t => ofTemplate policy limits context? t

end Validation

end TemplateExpr
