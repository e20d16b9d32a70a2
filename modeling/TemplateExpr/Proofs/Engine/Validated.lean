import TemplateExpr.Proofs.Engine.Progress
import TemplateExpr.Proofs.Validation.Basic

/-!
# Evaluation of valid templates

The evaluation of a valid template may fail, but not for a reason that can be told from its text
(`Engine.isStatic_eq_false_of_isValid`). Whatever the evaluation of an expression comes across is
among the findings of the analysis, also where a function is called long after its scope has been
left, and a valid template has no finding that leads to such a failure.
-/

namespace TemplateExpr

open TemplateExpr.Eval

/-! ### Names -/

/-- If the library of dates is on, the names that are provided are those that are allowed by
default. -/
theorem Sandbox.isSome_global?_iff {s : Sandbox} (hdates : s.dates = true) {name : String} :
    (s.global? name).isSome = true ↔ name ∈ SecurityConfig.defaultGlobals := by
  constructor
  · intro h
    unfold global? at h
    dsimp only at h
    split_ifs at h
    case neg =>
      split at h
      · next hns => exact ofName?_eq_some hns ▸ by decide
      · next ns _ hns => exact ofName?_eq_some hns ▸ by cases ns <;> decide
      · rw [Option.isSome_map] at h
        obtain ⟨b, hb⟩ := Option.isSome_iff_exists.1 h
        have hname := List.find?_some (p := fun b : Builtin => b.name == name) hb
        exact eq_of_beq hname ▸ by cases b <;> decide
    all_goals
      rename_i hname
      exact eq_of_beq hname ▸ by decide
  · obtain ⟨policy, context, dates, clock, cancelled⟩ := s
    obtain rfl : dates = true := hdates
    suffices h : ∀ name ∈ SecurityConfig.defaultGlobals, (Sandbox.global?
        ⟨policy, context, true, clock, cancelled⟩ name).isSome = true from h name
    refine List.all_eq_true.1 ?_
    rfl

/-! ### Expressions -/

/-- The findings of an expression that no failure can be told from. -/
structure Policy.Permits (policy : Policy) (f : Finding) : Prop where
  name : ∀ name span, f = .freeName name span → policy.allowsGlobal name = true
  assignment : ∀ span, f ≠ .assignment span
  computedKey : policy.config.strictGrammar = true → ∀ span, f ≠ .computedKey span

/-- The findings of an expression that is accepted. -/
theorem Policy.Accepts.permits {policy : Policy} {source : String} {compiled : Compiled}
    (h : policy.Accepts source compiled) {tree : Expr} (htree : compiled.analysis = tree.analyze)
    {f : Finding} (hf : f ∈ tree.findings [] false) : policy.Permits f where
  name name span heq := h.names _ (htree ▸ Expr.mem_freeNames (heq ▸ hf))
  assignment span heq := by
    have hmem : span ∈ tree.analyze.assignments := Expr.mem_assignments (heq ▸ hf)
    rw [← htree, h.assignments] at hmem
    exact List.not_mem_nil hmem
  computedKey hstrict span heq := by
    have hmem : span ∈ tree.analyze.computedKeys := Expr.mem_computedKeys (heq ▸ hf)
    rw [← htree, h.computedKeys hstrict] at hmem
    exact List.not_mem_nil hmem

/-- An expression with permitted findings fails for no reason that can be told from its text. -/
theorem Expr.isStatic_of_run {s : Sandbox} (hdata : s.context.IsData) (hdates : s.dates = true)
    (hglobals : ∀ name ∈ s.policy.config.allowedGlobals, name ∈ SecurityConfig.defaultGlobals)
    {e : Expr} (he : ∀ f ∈ e.findings [] false, s.policy.Permits f) {m n : Meter} {f : Failure}
    (hrun : e.value.run s m = (.error f, n)) : f.error.isStatic = false := by
  let L := s.agreementAmong s.context s.context (fun _ => True) (·.error.isStatic = false)
    (fun _ => EvalError.isStatic_of_isRaised) fun _ _ _ h => h
  have hs : L.Shares (fun _ => True) s.policy.Permits := by
    refine Context.IsData.shares hdata rfl rfl rfl (fun _ => ⟨rfl, rfl⟩)
      (fun name span hok hundefined => ?_) (fun span hok hstrict => ?_) fun span hok => ?_
    · have hallowed : s.policy.allowsGlobal name = true := hok.name name span rfl
      have hsome := (Sandbox.isSome_global?_iff hdates).2
        (hglobals name (by simpa [Policy.allowsGlobal] using hallowed))
      rcases hundefined with hnot | hnone
      · exact absurd (hallowed.symm.trans hnot) Bool.true_eq_false.mp
      · exact absurd (hnone ▸ hsome) (by decide)
    · exact absurd rfl (hok.computedKey hstrict span)
    · exact absurd rfl (hok.assignment span)
  have hagree : Agrees s s (Failure.Among (·.error.isStatic = false)) _ e.value e.value :=
    rel_value hs (placed_true e) he
  exact hagree.failure hrun

/-! ### Templates -/

/-- A query fails for reasons of its own. -/
theorem Value.isStatic_of_query {v : Value} {path : String} {error : EvalError}
    (h : v.query path = .error error) : error.isStatic = false := by
  unfold query at h
  split at h
  · obtain rfl := Except.error.inj h
    rfl
  · cases h

namespace Engine

variable {e : Engine} {c : Context} {o : Occasion}

/-- The settings under which the names that are allowed are provided. -/
structure ProvidesGlobals (e : Engine) : Prop where
  globals : ∀ name ∈ e.policy.config.allowedGlobals, name ∈ SecurityConfig.defaultGlobals
  dates : e.config.libraryEnabled EngineConfig.dateTimeLibrary = true

section

variable (he : e.ProvidesGlobals) (hdata : c.IsData)

include he hdata

theorem isStatic_of_compute {source : String} {offset : Nat} {compiled : Compiled}
    (hcompiled : Compiled.ofText source offset = .ok compiled)
    (haccepts : e.policy.Accepts source compiled) {segment : Span} {p q : Progress} {fault : Fault}
    (hrun : (e.compute (e.sandbox c o) segment compiled).run.run p = (.error fault, q)) :
    fault.error.isStatic = false := by
  have hanalysis := Compiled.analysis_of_ofText hcompiled
  unfold compute at hrun
  split at hrun
  · split at hrun
    · split at hrun
      · cases hrun
      · next error herror =>
        obtain ⟨⟨⟩, -⟩ := Prod.mk.inj hrun
        exact Value.isStatic_of_query herror
    · obtain ⟨⟨⟩, -⟩ := Prod.mk.inj hrun
      rfl
  · next tree htree =>
    rw [htree] at hanalysis
    rw [run_runEval] at hrun
    split at hrun
    · cases hrun
    · next f m hvalue =>
      obtain ⟨⟨⟩, -⟩ := Prod.mk.inj hrun
      exact Expr.isStatic_of_run (s := e.sandbox c o) hdata he.dates he.globals
        (fun f hf => haccepts.permits hanalysis hf) hvalue

theorem isStatic_of_resolve {source : String} {offset : Nat} {compiled : Compiled}
    (hcompiled : Compiled.ofText source offset = .ok compiled)
    (haccepts : e.policy.Accepts source compiled) {segment : Span} :
    Blames (·.error.isStatic = false) (e.resolve o (e.sandbox c o) segment source offset) := by
  intro p q fault hrun
  have hcases := e.resolves o (e.sandbox c o) segment source offset p
  rw [hrun] at hcases
  cases hcases with
  | blocked hblocked => cases haccepts.unblocked.symm.trans hblocked
  | interrupted _ hinterrupted =>
    rw [run_checkInterrupts] at hinterrupted
    split_ifs at hinterrupted <;> obtain ⟨⟨⟩, -⟩ := Prod.mk.inj hinterrupted <;> rfl
  | rejected _ hrejected => cases hcompiled.symm.trans hrejected
  | failed hadmits hfailed =>
    obtain rfl := Except.ok.inj (hcompiled.symm.trans hadmits.compiles)
    exact isStatic_of_compute he hdata hcompiled haccepts hfailed

/-- All expressions of the segments are compiled, and accepted by the policy. -/
def AcceptsSegments (e : Engine) (segments : List Segment) : Prop :=
  ∀ segment ∈ segments, ∀ expression ∈ segment.expression?, ∃ compiled,
    Compiled.ofText expression.1 expression.2 = .ok compiled ∧
      e.policy.Accepts expression.1 compiled

omit he hdata in
/-- The tree of a template whose expressions are compiled. -/
theorem exists_tree {t : Template} (ht : e.AcceptsSegments t.segments) : ∃ j, t.tree = .ok j := by
  cases htree : t.tree with
  | ok j => exact ⟨j, rfl⟩
  | error error =>
    obtain ⟨segment, hsegment, herror⟩ := Template.error_of_tree htree
    obtain ⟨expression, hexpression, heq⟩ := Option.map_eq_some_iff.1 herror
    obtain ⟨compiled, hcompiled, -⟩ := ht segment hsegment expression hexpression
    cases hcompiled.symm.trans heq

end

end Engine

end TemplateExpr
