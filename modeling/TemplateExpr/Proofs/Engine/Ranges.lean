import TemplateExpr.Proofs.Engine.Progress
import TemplateExpr.Proofs.Pattern.Machine
import TemplateExpr.Proofs.Template.Ranges

/-!
# Where evaluations fail

An expression that is evaluated in a context of data fails at one of its nodes, and the place of
the failure is moved to where the expression stands (`Engine.isRange_of_resolve`). The place of a
failed evaluation is a range of the template if every expression that cannot be read fails at a
single byte (`Engine.isRange_of_evaluate`).
-/

namespace TemplateExpr

open TemplateExpr.Eval TemplateExpr.Text

/-- An expression fails where one of its nodes stands. -/
theorem Expr.place_of_run {s : Sandbox} (hdata : s.context.IsData) {P : Span → Prop} {e : Expr}
    (he : e.Placed P) {m n : Meter} {f : Failure} (hrun : e.value.run s m = (.error f, n)) :
    ∀ span ∈ f.span?, P span := by
  have hwithin (f : Failure) (span : Span) (hspan : P span) (hf : ∀ t ∈ f.span?, P t) :
      ∀ t ∈ (f.within span).span?, P t := by
    rintro t ⟨⟩
    cases hplace : f.span? with
    | none => exact hspan
    | some inner => exact hf inner hplace
  let L := s.agreementAmong s.context s.context P (fun f => ∀ span ∈ f.span?, P span)
    (fun _ _ _ hspan => by cases hspan) hwithin
  have hs : L.Shares (fun _ => True) fun _ => True :=
    Context.IsData.shares hdata rfl rfl rfl (fun _ => ⟨rfl, fun _ hspan => by cases hspan⟩)
      (fun _ _ _ _ => ⟨rfl, fun _ hspan => by cases hspan⟩)
      (fun _ _ _ => ⟨rfl, fun _ hspan => by cases hspan⟩)
      fun _ _ _ => ⟨rfl, fun _ hspan => by cases hspan⟩
  have hagree : Agrees s s (Failure.Among fun f => ∀ span ∈ f.span?, P span) _ e.value e.value :=
    rel_value hs he fun _ _ => trivial
  exact hagree.failure hrun

/-- What is blocked is a range of the text. -/
theorem Policy.isRange_findBlocked? {policy : Policy} {text : String} {found : BlockedMatch}
    (h : policy.findBlocked? text = some found) : found.span.IsRange text.toList := by
  obtain ⟨rule, -, hrule⟩ := List.exists_of_findSome?_eq_some h
  obtain ⟨⟨start, stop⟩, hmatch, rfl⟩ := Option.map_eq_some_iff.1 hrule
  exact rule.machine.isRange_find? hmatch

/-- Where an evaluation failed, if it did and has a place. -/
def Evaluation.position? (e : Evaluation) : Option Span :=
  match e.outcome with
  | .failure _ position? => position?
  | .value _ => none

theorem Evaluation.outcome_of_position? {e : Evaluation} {position : Span}
    (h : position ∈ e.position?) : ∃ error, e.outcome = .failure error (some position) := by
  unfold position? at h
  split at h
  · next error _ houtcome => exact ⟨error, houtcome.trans (congrArg _ h)⟩
  · cases h

namespace Engine

variable {e : Engine} {o : Occasion} {c : Context} {template : String}

/-- A failure lies at a node of the expression or, if it has no place of its own, in the segment. -/
theorem isRange_of_failure {segment : Span} {source : String} {offset : Nat}
    (h : ExpressionAt template segment source offset) {f : Failure}
    (hf : ∀ span ∈ f.span?, span.IsRange source.toList) :
    ((f.span?.map (·.shift offset)).getD segment).IsRange template.toList := by
  cases hspan : f.span? with
  | none => exact h.segment
  | some span => exact h.isRange (hf span hspan)

theorem isRange_of_compute (hdata : c.IsData) {segment : Span} {source : String} {offset : Nat}
    (h : ExpressionAt template segment source offset) {compiled : Compiled}
    (hcompiled : Compiled.ofText source offset = .ok compiled) :
    Blames (·.position.IsRange template.toList) (e.compute (e.sandbox c o) segment compiled) := by
  intro p q fault hrun
  obtain ⟨-, hoffset, hwritten⟩ := Compiled.written_of_ofText hcompiled
  unfold compute at hrun
  split at hrun
  · split at hrun
    · split at hrun
      · cases hrun
      · obtain ⟨⟨⟩, -⟩ := Prod.mk.inj hrun
        exact h.segment
    · obtain ⟨⟨⟩, -⟩ := Prod.mk.inj hrun
      exact h.segment
  · next tree htree =>
    rw [run_runEval] at hrun
    split at hrun
    · cases hrun
    · next f m hvalue =>
      obtain ⟨⟨⟩, -⟩ := Prod.mk.inj hrun
      rw [hoffset]
      exact isRange_of_failure h
        (Expr.place_of_run (s := e.sandbox c o) hdata (hwritten tree htree).placed hvalue)

/-- The place of a fault is that of what is blocked, of a node or of the whole segment, unless the
expression cannot be read. -/
theorem isRange_of_resolve (hdata : c.IsData) {segment : Span} {source : String} {offset : Nat}
    (h : ExpressionAt template segment source offset)
    (hrejected : ∀ error, Compiled.ofText source offset = .error error →
      error.position.IsRange template.toList) :
    Blames (·.position.IsRange template.toList)
      (e.resolve o (e.sandbox c o) segment source offset) := by
  intro p q fault hrun
  have hcases := e.resolves o (e.sandbox c o) segment source offset p
  rw [hrun] at hcases
  cases hcases with
  | blocked hblocked => exact h.isRange (Policy.isRange_findBlocked? hblocked)
  | interrupted _ hinterrupted =>
    refine isRange_of_failure h ?_
    rw [run_checkInterrupts] at hinterrupted
    split_ifs at hinterrupted <;> obtain ⟨⟨⟩, -⟩ := Prod.mk.inj hinterrupted <;>
      exact fun _ hspan => by cases hspan
  | rejected _ herror => exact hrejected _ herror
  | failed hadmits hfailed => exact isRange_of_compute hdata h hadmits.compiles hfailed

theorem isRange_of_evaluateTemplate (hdata : c.IsData)
    (hbytes : Template.failsAtBytes template = true) {t : Template}
    (ht : Template.parse template = .ok t) {error : EvalError} {position : Span}
    (hfails : (e.evaluateTemplate t c o).1.outcome = .failure error (some position)) :
    position.IsRange template.toList := by
  obtain ⟨fault, hfault, -, hposition⟩ :=
    fault_of_evaluateTemplate (Q := (·.position.IsRange template.toList))
      (fun span source hmem => by
        have hat := Template.expressionAt ht hmem
        refine ⟨isRange_of_resolve hdata hat fun error herror => ?_, hat.segment⟩
        exact Template.isRange_parseError hbytes ht (Template.mem_parseErrors hmem herror)) hfails
  exact Option.some.inj hposition ▸ hfault

/-- The place of a failed evaluation is a range of the template. -/
theorem isRange_of_evaluate (hdata : c.IsData) (hbytes : Template.failsAtBytes template = true) :
    ∀ position ∈ (e.evaluate template c o).1.position?, position.IsRange template.toList := by
  intro position hposition
  obtain ⟨error, hfails⟩ := Evaluation.outcome_of_position? hposition
  unfold evaluate at hfails
  split at hfails
  · next parseError hparse =>
    obtain ⟨-, hposition⟩ := Outcome.failure.inj hfails
    have hrange := Template.isRange_unmatched hparse
    obtain rfl := Option.some.inj hposition
    rwa [delimiterPosition, hrange.clip]
  · next t hparse =>
    split at hfails
    · unfold showTree at hfails
      split at hfails
      · cases hfails
      · next parseError htree =>
        obtain ⟨-, hposition⟩ := Outcome.failure.inj hfails
        obtain rfl := Option.some.inj hposition
        obtain ⟨segment, hsegment, herror⟩ := Template.error_of_tree htree
        exact Template.isRange_parseError hbytes hparse
          (List.mem_filterMap.2 ⟨_, List.mem_filterMap.2 ⟨segment, hsegment, herror⟩, rfl⟩)
    · exact isRange_of_evaluateTemplate hdata hbytes hparse hfails

end Engine

end TemplateExpr
