import TemplateExpr.Engine.Basic
import TemplateExpr.Proofs.Eval.Agreement
import TemplateExpr.Proofs.Expr.Analysis
import TemplateExpr.Proofs.Template.Compiled

/-!
# Computing a compiled expression for two contexts

A query reads the current item, and a tree is evaluated. Nothing else of the context matters to
what an engine computes.
-/

namespace TemplateExpr

/-- The analysis of what is evaluated. -/
def Program.analysis : Program → Analysis
  | .query => .ofQuery
  | .expr e => e.analyze

/-- What is compiled carries the analysis of its program. -/
theorem Compiled.analysis_of_ofText {source : String} {offset : Nat} {compiled : Compiled}
    (h : Compiled.ofText source offset = .ok compiled) :
    compiled.analysis = compiled.program.analysis := by
  unfold ofText at h
  split at h
  · obtain rfl := Except.ok.inj h
    rfl
  · split at h
    · cases h
    · obtain rfl := Except.ok.inj h
      rfl

/-- An expression of the language is compiled to its tree. -/
theorem Compiled.exists_tree {source : String} (h : Route.ofText source.toList = .evaluator)
    {offset : Nat} {compiled : Compiled} (hc : ofText source offset = .ok compiled) :
    compiled.source = source ∧
      ∃ tree, Expr.parse source.toList = .ok tree ∧ compiled.program = .expr tree := by
  unfold ofText at hc
  rw [h] at hc
  dsimp only at hc
  split at hc
  · cases hc
  · next tree htree =>
    obtain rfl := Except.ok.inj hc
    exact ⟨rfl, tree, htree, rfl⟩

namespace Engine

variable {α : Type}

/-- Computations that run alike lead to the same progress. -/
theorem runEval_congr {s s' : Sandbox} {x : Eval α} (h : ∀ m, x.run s m = x.run s' m)
    (segment : Span) (offset : Nat) : runEval s segment offset x = runEval s' segment offset x := by
  unfold runEval
  simp only [h]

/-- A computation within the progress of a template. -/
theorem run_runEval (s : Sandbox) (segment : Span) (offset : Nat) (x : Eval α) (p : Progress) :
    (runEval s segment offset x).run.run p =
      match x.run s p.meter with
      | (.ok a, m) => (.ok a, { p with meter := m })
      | (.error f, m) =>
        (.error ⟨f.error, (f.span?.map (·.shift offset)).getD segment⟩, { p with meter := m }) := by
  rcases h : x.run s p.meter with ⟨_ | a, m⟩ <;>
    simp [runEval, h, ExceptT.run, StateT.run, bind, ExceptT.bind, ExceptT.mk, ExceptT.bindCont,
      StateT.bind, get, getThe, MonadStateOf.get, liftM, monadLift, MonadLift.monadLift,
      ExceptT.lift, StateT.get, pure, ExceptT.pure, Functor.map, StateT.map, modify, modifyGet,
      MonadStateOf.modifyGet, StateT.modifyGet, throw, throwThe, MonadExceptOf.throw] <;>
    rfl

/-- An engine computes the same for two contexts if queries find the same item and trees have the
same value. -/
theorem compute_congr (e : Engine) (o : Occasion) {c c' : Context} {compiled : Compiled}
    (hquery : compiled.program = .query → c.json = c'.json)
    (hexpr : ∀ tree, compiled.program = .expr tree → ∀ m,
      tree.value.run (e.sandbox c o) m = tree.value.run (e.sandbox c' o) m) (segment : Span) :
    e.compute (e.sandbox c o) segment compiled = e.compute (e.sandbox c' o) segment compiled := by
  unfold compute
  cases hp : compiled.program with
  | query => simp only [sandbox, hquery hp]
  | expr tree => exact runEval_congr (hexpr tree hp) segment compiled.offset

/-! ### Single expressions -/

end Engine

/-- The context of an item at the start of 1970. -/
def Context.atEpoch (item : Value) : Context := .ofItem item ⟨0, 0, 0⟩

/-- An occasion on which no time passes. -/
def Occasion.atOnce : Occasion := ⟨0, fun _ => 0, false⟩

namespace Engine

/-- An engine with the standard settings that blocks no text and keeps no results. -/
def plain : Engine := ⟨.standard, ⟨.standard, []⟩, none⟩

/-- What the engine computes for a context when nothing has been used. -/
def firstResult (c : Context) (compiled : Compiled) : Except Fault Value :=
  ((plain.compute (plain.sandbox c ⟨0, fun _ => 0, false⟩) ⟨0, 0⟩ compiled).run.run
    ⟨.zero, none, 0⟩).1

/-- The text of what the engine computes. -/
def firstText? (c : Context) (compiled : Compiled) : Option String :=
  (firstResult c compiled).toOption.map Value.toText

end Engine

/-- The text that an evaluation gives. -/
def Evaluation.text? (e : Evaluation) : Option String :=
  match e.outcome with
  | .value (.string s) => some s
  | _ => none

theorem Evaluation.outcome_of_text? {e : Evaluation} {s : String} (h : e.text? = some s) :
    e.outcome = .value (.string s) := by
  unfold text? at h
  split at h
  · next hvalue => rw [hvalue, Option.some.inj h]
  · cases h

end TemplateExpr
