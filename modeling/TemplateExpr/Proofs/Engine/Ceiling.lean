import TemplateExpr.Proofs.Engine.Compute
import TemplateExpr.Proofs.Eval.Frugal
import TemplateExpr.Proofs.Template.Ranges

/-!
# The ceiling of memory

The value of a frugal expression keeps within the ceiling of memory and a share for each of its
nodes (`Engine.size_le_of_compute`). Expressions that are not frugal can build more than that.
-/

namespace TemplateExpr

open TemplateExpr.Eval Value

/-- Whether a frugal expression of the language is compiled. -/
def Compiled.isFrugal (c : Compiled) : Bool := c.program.expr?.any (·.isFrugal)

namespace Engine

/-- Whatever chain of methods a frugal expression calls, with whatever functions: its value is no
larger than the ceiling and the data of the context and the text of the expression for each of its
nodes. The ceiling has to lie below the largest amount of memory that is counted. -/
theorem size_le_of_compute {e : Engine} {o : Occasion} {c : Context} (hdata : c.IsData)
    (hceiling : e.policy.config.maxMemory < Meter.maxMemory) {source : String} {offset : Nat}
    {compiled : Compiled} (hcompiled : Compiled.ofText source offset = .ok compiled)
    (hfrugal : compiled.isFrugal = true) {segment : Span} {p q : Progress} {v : Value}
    (hrun : (e.compute (e.sandbox c o) segment compiled).run.run p = (.ok v, q)) :
    v.size ≤ e.policy.config.maxMemory +
      compiled.analysis.nodeCount * (c.size + source.utf8ByteSize) := by
  have hallots : (e.sandbox c o).Allots (c.size + source.utf8ByteSize)
      (·.utf8ByteSize ≤ source.utf8ByteSize) := by
    refine ⟨hceiling, hdata, Nat.le_add_right _ _, fun t ht => ?_⟩
    have hslots := c.slots_le_size
    rw [size_string]
    omega
  have hanalysis := Compiled.analysis_of_ofText hcompiled
  obtain ⟨-, -, hwritten⟩ := Compiled.written_of_ofText hcompiled
  unfold Compiled.isFrugal at hfrugal
  unfold compute at hrun
  cases hprogram : compiled.program with
  | query =>
    rw [hprogram] at hfrugal
    cases hfrugal
  | expr tree =>
    rw [hprogram] at hrun hfrugal hanalysis
    have hcharges := Expr.charges_value hallots hfrugal (hwritten tree hprogram)
    rw [run_runEval] at hrun
    split at hrun
    · next w m hvalue =>
      obtain ⟨⟨⟩, -⟩ := Prod.mk.inj hrun
      obtain ⟨hgrows, hcapped⟩ := hcharges _ _ _ hvalue
      have hnodes : compiled.analysis.nodeCount = tree.nodeCount := by rw [hanalysis]; rfl
      have hlimit : (e.sandbox c o).policy.config.maxMemory = e.policy.config.maxMemory := rfl
      rw [hnodes]
      omega
    · cases hrun

/-- The plain engine with another ceiling of memory. -/
def withCeiling (n : Nat) : Engine :=
  { plain with policy := ⟨{ SecurityConfig.standard with maxMemory := n }, []⟩ }

/-- Tags of the item that are joined, but for one of them. -/
theorem size_le_of_compute_tags :
    let e := withCeiling 600
    let c : Context := .atEpoch (.object [("tags", .array [.string "c"])])
    let source := "['a', 'b'].concat($json.tags).filter(t => t !== 'b').join('-')"
    ∃ compiled v q, Compiled.ofText source 0 = .ok compiled ∧
      (e.compute (e.sandbox c .atOnce) ⟨0, 0⟩ compiled).run.run ⟨.zero, none, 0⟩ = (.ok v, q) ∧
      v.size ≤ 600 + compiled.analysis.nodeCount * (c.size + source.utf8ByteSize) := by
  intro e c source
  have hdata : c.IsData := Context.isData_ofItem (by simp) _
  obtain ⟨compiled, hcompiled, hp⟩ := Compiled.exists_ofText source
    (p := fun compiled => compiled.isFrugal &&
      ((e.compute (e.sandbox c .atOnce) ⟨0, 0⟩ compiled).run.run ⟨.zero, none, 0⟩).1.isOk)
    (by decide +kernel)
  obtain ⟨hfrugal, hok⟩ := (Bool.and_eq_true _ _).mp hp
  cases hrun : (e.compute (e.sandbox c .atOnce) ⟨0, 0⟩ compiled).run.run ⟨.zero, none, 0⟩ with
  | mk r q =>
    cases r with
    | error fault =>
      rw [hrun] at hok
      cases hok
    | ok v =>
      exact ⟨compiled, v, q, hcompiled, hrun,
        size_le_of_compute hdata (by decide) hcompiled hfrugal hrun⟩

/-- The size of what is computed of an expression in a context when nothing has been used, the
ceiling of memory being `n`, and the size that the expression and the context make up for. -/
def sizes? (n : Nat) (c : Context) (source : String) : Option (Nat × Nat) :=
  match Compiled.ofText source 0 with
  | .error _ => none
  | .ok compiled =>
    let e := withCeiling n
    match ((e.compute (e.sandbox c .atOnce) ⟨0, 0⟩ compiled).run.run ⟨.zero, none, 0⟩).1 with
    | .error _ => none
    | .ok v => some (v.size, compiled.analysis.nodeCount * (c.size + source.utf8ByteSize))

end Engine

/-- A fold that doubles its result eight times: what has been bound to a parameter is copied twice
in every round, and only the two slots of the array are reserved. -/
theorem reduce_exceeds_ceiling :
    Engine.sizes? 600 (.atEpoch (.object [])) "[1,2,3,4,5,6,7,8].reduce((x, i) => [x, x], 's')" =
      some (8432, 2288) ∧ 600 + 2288 < 8432 := by
  decide +kernel

end TemplateExpr
