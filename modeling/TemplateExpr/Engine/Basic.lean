import TemplateExpr.Cache.Basic
import TemplateExpr.Config.Basic
import TemplateExpr.Context.Fingerprint
import TemplateExpr.Engine.Evaluation
import TemplateExpr.Eval.Interpreter
import TemplateExpr.Query.Basic

/-!
# The engine

An engine evaluates templates. It keeps the results of expressions in a cache, under the normal form
of the expression and a fingerprint of what it may read. `Engine.evaluate` gives the result and the
engine with the cache as the evaluation leaves it.
-/

namespace TemplateExpr

open TemplateExpr.Text

/-- The results that an engine keeps. -/
abbrev ResultCache := Cache (Cache.Key Fingerprint) Value

/-- An engine. -/
structure Engine where
  config : EngineConfig
  policy : Policy
  /-- Kept unless caching is off. -/
  cache? : Option ResultCache

/-- When an evaluation takes place, and whether it is to be stopped. -/
structure Occasion where
  /-- The time at which it starts, in milliseconds. -/
  start : Nat
  /-- The milliseconds that have passed after a number of steps. -/
  clock : Nat → Nat
  cancelled : Bool

/-- What the evaluation of a template has led to so far. -/
structure Progress where
  meter : Meter
  cache? : Option ResultCache
  hits : Nat

/-- An error and where it arose in the template. -/
structure Fault where
  error : EvalError
  position : Span

/-- The evaluation of the parts of a template: it may fail, and keeps its progress when it fails. -/
abbrev Evaluating := ExceptT Fault (StateM Progress)

namespace Engine

/-- The engine of a configuration. -/
def ofConfig (c : EngineConfig) : Except ConfigError Engine :=
  c.check.map fun policy =>
    ⟨c, policy, if c.cache.enabled then some (Cache.ofConfig c.cache) else none⟩

/-- The figures of the cache. -/
def cacheStats? (e : Engine) : Option CacheStats := e.cache?.map Cache.stats

/-- Drops all results. -/
def clearCache (e : Engine) : Engine := { e with cache? := e.cache?.map Cache.clear }

/-- What the expressions of a template may use. -/
def sandbox (e : Engine) (c : Context) (o : Occasion) : Sandbox :=
  { policy := e.policy
    context := c
    dates := e.config.libraryEnabled EngineConfig.dateTimeLibrary
    clock := o.clock
    cancelled := o.cancelled }

/-! ### Expressions -/

/-- Runs a computation within the progress of a template. A failure lies at the part of the
expression that failed, which starts at byte `offset` of the template, or else in the segment. -/
def runEval {α : Type} (s : Sandbox) (segment : Span) (offset : Nat) (x : Eval α) :
    Evaluating α := do
  let (result, meter) := x.run s (← get).meter
  modify ({ · with meter := meter })
  match result with
  | .ok a => pure a
  | .error f => throw ⟨f.error, (f.span?.map (·.shift offset)).getD segment⟩

/-- The key under which the result of an expression is kept, unless it can change by itself. -/
def cacheKey? (e : Engine) (c : Context) (compiled : Compiled) : Option (Cache.Key Fingerprint) :=
  if e.cache?.isNone || compiled.analysis.volatile then none
  else
    let mode := e.config.cache.fingerprint
    some (.ofExpression compiled.source (c.fingerprint mode compiled.analysis))

/-- Looks for the result of an expression. -/
def lookUp (o : Occasion) (key? : Option (Cache.Key Fingerprint)) : Evaluating (Option Value) := do
  let p ← get
  match key?, p.cache? with
  | some key, some cache =>
    let (found, cache) := cache.get o.start key
    set { p with cache? := some cache, hits := p.hits + if found.isSome then 1 else 0 }
    pure found
  | _, _ => pure none

/-- Keeps the result of an expression. -/
def keep (o : Occasion) (key? : Option (Cache.Key Fingerprint)) (v : Value) : Evaluating Unit :=
  modify fun p =>
    match key? with
    | some key => { p with cache? := p.cache?.map (·.insert o.start key v) }
    | none => p

/-- The value of a compiled expression: that of a query of the current item, or that of a tree. -/
def compute (e : Engine) (s : Sandbox) (segment : Span) (compiled : Compiled) : Evaluating Value :=
  match compiled.program with
  | .query =>
    if e.config.libraryEnabled EngineConfig.queryLibrary then
      match s.context.json.query (trimString compiled.source) with
      | .ok v => pure v
      | .error error => throw ⟨error, segment⟩
    else throw ⟨.unsupported .queries, segment⟩
  | .expr tree => runEval s segment compiled.offset tree.value

/-- The value of the expression `source` that starts at byte `offset` of the template. Text that is
blocked is refused before anything else; then the evaluation is given up if it has to stop. -/
def resolve (e : Engine) (o : Occasion) (s : Sandbox) (segment : Span) (source : String)
    (offset : Nat) : Evaluating Value := do
  match e.policy.findBlocked? source with
  | some found => throw ⟨.security (.pattern found.rule), found.span.shift offset⟩
  | none =>
    runEval s segment offset Eval.checkInterrupts
    match Compiled.ofText source offset with
    | .error error => throw ⟨.ofParseError error, error.position⟩
    | .ok compiled =>
      let key? := e.cacheKey? s.context compiled
      match ← lookUp o key? with
      | some v => pure v
      | none =>
        let v ← e.compute s segment compiled
        keep o key? v
        pure v

/-! ### Templates -/

/-- The text of the segments behind the texts `acc`, which are in reverse. For the text of a value
memory is reserved; if there is none left, the result carries no figures, which `none` says. -/
def textOf (e : Engine) (o : Occasion) (s : Sandbox) (acc : List String) :
    List Segment → Evaluating (Except Fault String)
  | [] => pure (.ok (String.join acc.reverse))
  | .literal _ text :: segments => textOf e o s (text :: acc) segments
  | .resolvable span source :: segments => do
    let v ← e.resolve o s span source (span.start + delimiterSize)
    let text := v.templateText
    match ← tryCatch (runEval s span 0 (Eval.reserve text.utf8ByteSize) *> pure none)
        (fun fault => pure (some fault)) with
    | some fault => pure (.error fault)
    | none => textOf e o s (text :: acc) segments

/-- The value of a template: that of its only expression, or else a text. -/
def valueOf (e : Engine) (o : Occasion) (s : Sandbox) (t : Template) :
    Evaluating (Except Fault Value) :=
  match t.singleExpression?.bind fun segment => segment.expression?.map (segment.span, ·) with
  | some (span, source, offset) => do
    let v ← e.resolve o s span source offset
    pure (.ok v)
  | none => do
    let text ← e.textOf o s [] t.segments
    pure (text.map .string)

/-- The figures of an evaluation, if they are asked for. -/
def metadata? (e : Engine) (t : Template) (p : Progress) : Option Metadata :=
  if e.config.output.includeMetadata then
    some ⟨t.segments.length, t.expressionCount, p.hits, p.meter.steps⟩
  else none

/-- Evaluates the segments of a template. -/
def evaluateTemplate (e : Engine) (t : Template) (c : Context) (o : Occasion) :
    Evaluation × Engine :=
  let (result, p) := (e.valueOf o (e.sandbox c o) t).run.run ⟨.zero, e.cache?, 0⟩
  let evaluation : Evaluation :=
    match result with
    | .ok (.ok v) =>
      ⟨.value v, 0 < t.expressionCount && p.hits = t.expressionCount, e.metadata? t p⟩
    | .ok (.error fault) => .ofFailure fault.error (some fault.position)
    | .error fault => ⟨.failure fault.error (some fault.position), false, e.metadata? t p⟩
  (evaluation, { e with cache? := p.cache? })

/-- The bytes of a template at which it cannot be cut into segments: those of the delimiter. -/
def delimiterPosition (source : String) (e : ParseError) : Span :=
  ⟨e.offset, max (min (e.offset + delimiterSize) source.utf8ByteSize) e.offset⟩

/-- The trees of a template as a value. -/
def showTree (t : Template) : Evaluation :=
  match t.tree with
  | .ok j => .ofValue (.ofJson j)
  | .error error => .ofFailure (.ofParseError error) (some error.position)

/-- Evaluates a template, or shows its trees if the configuration asks for them. -/
def evaluate (e : Engine) (source : String) (c : Context) (o : Occasion) : Evaluation × Engine :=
  match Template.parse source with
  | .error error =>
    (.ofFailure (.ofParseError error) (some (delimiterPosition source error)), e)
  | .ok t =>
    match e.config.output.format with
    | .tree => (showTree t, e)
    | .value => e.evaluateTemplate t c o

/-- The evaluation that is asked for when it has already been cancelled. -/
def cancelledBefore : Evaluation := .ofFailure .cancelled none

end Engine

end TemplateExpr
