import TemplateExpr.Proofs.Eval.Agreement
import TemplateExpr.Proofs.Eval.Reflexive
import TemplateExpr.Proofs.Expr.Parser

/-!
# Evaluation with more left

An expression that has a value still has it when more is left of what it may use: when less memory
has been used before, when its limits are higher, or under a clock that does not run ahead.
`Sandbox.Eases.comparison` compares such evaluations: the second one succeeds if the first one does,
and does not use up its lead (`Sandbox.Leads`). The same tree may have been read at another place of
a text (`Expr.exists_value_of_thrift`), and if it has not, the value is the same
(`Expr.exists_value_of_eases`).
-/

namespace TemplateExpr

open TemplateExpr.Eval Value

/-! ### The clock -/

namespace Sandbox

/-- An evaluation that looks at the clock after `n` steps goes on. -/
structure GoesOn (s : Sandbox) (n : Nat) : Prop where
  cancelled : s.cancelled = false
  clock : s.clock n < s.policy.config.timeout

/-- Evaluations are never interrupted. -/
structure IsCalm (s : Sandbox) : Prop where
  cancelled : s.cancelled = false
  clock : ∀ n, s.clock n < s.policy.config.timeout

variable {s s' : Sandbox} {m m' : Meter}

theorem IsCalm.goesOn (h : s.IsCalm) (n : Nat) : s.GoesOn n := ⟨h.cancelled, h.clock n⟩

theorem GoesOn.run_checkInterrupts (h : s.GoesOn m.steps) :
    checkInterrupts.run s m = (.ok (), m) := by
  rw [Eval.run_checkInterrupts, h.cancelled, if_neg Bool.false_ne_true,
    if_neg (Nat.not_le.2 h.clock)]

theorem IsCalm.run_checkInterrupts (h : s.IsCalm) (m : Meter) :
    checkInterrupts.run s m = (.ok (), m) :=
  (h.goesOn m.steps).run_checkInterrupts

theorem goesOn_of_checkInterrupts {a : Unit} {n : Meter}
    (hrun : checkInterrupts.run s m = (.ok a, n)) : s.GoesOn m.steps ∧ n = m := by
  rw [Eval.run_checkInterrupts] at hrun
  split_ifs at hrun with hcancelled hlate
  · cases hrun
  · cases hrun
  · exact ⟨⟨Bool.eq_false_iff.2 hcancelled, Nat.not_le.1 hlate⟩, (Prod.mk.inj hrun).2.symm⟩

/-- The evaluation went on when it looked at the clock the last time. -/
def OnTime (s : Sandbox) (m : Meter) : Prop :=
  ∃ n, checkInterval * (m.steps / checkInterval) ≤ n ∧ s.GoesOn n

/-- An evaluation that looks at the clock is on time. -/
theorem GoesOn.onTime (h : s.GoesOn m.steps) : s.OnTime m :=
  ⟨m.steps, Nat.mul_div_le _ _, h⟩

/-- An evaluation stays on time if it does not have to look at the clock. -/
theorem OnTime.step (h : s.OnTime m) (hstep : m.step.steps % checkInterval ≠ 0) :
    s.OnTime m.step := by
  obtain ⟨n, hn, hgoes⟩ := h
  refine ⟨n, ?_, hgoes⟩
  simp only [Meter.step, checkInterval] at hstep hn ⊢
  omega

/-! ### Two evaluations -/

/-- An evaluation that goes on in `s` goes on in `s'` after no more steps. -/
def Paces (s s' : Sandbox) : Prop := ∀ n k, n ≤ k → s.GoesOn k → s'.GoesOn n

theorem IsCalm.paces (h : s'.IsCalm) : s.Paces s' := fun n _ _ _ => h.goesOn n

/-- No evaluation is later after fewer steps if time does not run backwards. -/
theorem paces_self (h : ∀ n k, n ≤ k → s.clock n ≤ s.clock k) : s.Paces s :=
  fun n k hn hgoes => ⟨hgoes.cancelled, Nat.lt_of_le_of_lt (h n k hn) hgoes.clock⟩

/-- Evaluations in `s'` see what they see in `s` and are held to no stricter limits. -/
structure Eases (s s' : Sandbox) : Prop where
  context : s.context = s'.context
  dates : s.dates = s'.dates
  allowsGlobal : s.policy.allowsGlobal = s'.policy.allowsGlobal
  allowsMethod : s.policy.allowsMethod = s'.policy.allowsMethod
  strictGrammar : s.policy.config.strictGrammar = s'.policy.config.strictGrammar
  memory : s.policy.config.maxMemory ≤ s'.policy.config.maxMemory
  frames : s.policy.config.maxCallStackSize ≤ s'.policy.config.maxCallStackSize
  pace : s.Paces s'

/-- The same evaluations under another clock that does not run out. -/
theorem IsCalm.eases {clock : Nat → Nat} {cancelled : Bool}
    (h : IsCalm { s with clock := clock, cancelled := cancelled }) :
    s.Eases { s with clock := clock, cancelled := cancelled } where
  context := rfl
  dates := rfl
  allowsGlobal := rfl
  allowsMethod := rfl
  strictGrammar := rfl
  memory := Nat.le_refl _
  frames := Nat.le_refl _
  pace := h.paces

/-- No more memory has been used at `m'` in `s'` than at `m` in `s`, and it is no later there: the
clock does not run out in `s'`, or no more steps have been made and the other evaluation is on time.
-/
structure Leads (s s' : Sandbox) (m m' : Meter) : Prop where
  memory : m'.used ≤ m.used
  time : s'.IsCalm ∨ m'.steps ≤ m.steps ∧ s.OnTime m

end Sandbox

namespace Eval

variable {α β γ δ : Type} {s s' : Sandbox} {R : α → β → Prop} {S : γ → δ → Prop}

/-- Wherever `x` succeeds, `y` does so with a related result, and keeps its lead if it has one. -/
def Thrifty (s s' : Sandbox) (R : α → β → Prop) (x : Eval α) (y : Eval β) : Prop :=
  ∀ m m' a n, s.Leads s' m m' → x.run s m = (.ok a, n) →
    m.used ≤ n.used ∧ ∃ b n', y.run s' m' = (.ok b, n') ∧ R a b ∧ s.Leads s' n n'

namespace Thrifty

theorem pure {a : α} {b : β} (h : R a b) : Thrifty s s' R (pure a) (pure b) := by
  rintro m m' _ _ hm ⟨⟩
  exact ⟨Nat.le_refl _, b, m', rfl, h, hm⟩

theorem fail {e e' : EvalError} : Thrifty s s' R (fail e) (fail e') := by
  rintro m m' _ _ _ ⟨⟩

theorem bind {x : Eval α} {y : Eval β} {f : α → Eval γ} {g : β → Eval δ}
    (hx : Thrifty s s' R x y) (hf : ∀ a b, R a b → Thrifty s s' S (f a) (g b)) :
    Thrifty s s' S (x >>= f) (y >>= g) := by
  intro m m' c n hm hrun
  obtain ⟨a, m₁, hxm, hfm⟩ := run_bind_eq_ok hrun
  obtain ⟨hgrows, b, m₁', hy, hab, hm₁⟩ := hx m m' a m₁ hm hxm
  obtain ⟨hgrows', d, n', hg, hcd, hn⟩ := hf a b hab m₁ m₁' c n hm₁ hfm
  rw [run_bind, hy]
  exact ⟨Nat.le_trans hgrows hgrows', d, n', hg, hcd, hn⟩

theorem locate {x : Eval α} {y : Eval β} (span span' : Span) (hx : Thrifty s s' R x y) :
    Thrifty s s' R (x.locate span) (y.locate span') := by
  intro m m' a n hm hrun
  obtain ⟨hgrows, b, n', hy, hab, hn⟩ := hx m m' a n hm (run_locate_eq_ok hrun)
  rw [run_locate, hy]
  exact ⟨hgrows, b, n', rfl, hab, hn⟩

theorem read {f : Sandbox → Eval α} {g : Sandbox → Eval β} (h : Thrifty s s' R (f s) (g s')) :
    Thrifty s s' R (read >>= f) (read >>= g) :=
  h

end Thrifty

/-! ### Limits -/

/-- What can be reserved can be reserved under a higher limit when less has been used before. -/
theorem run_reserve_of_le (hlimit : s.policy.config.maxMemory ≤ s'.policy.config.maxMemory)
    {m m' n : Meter} (hm : m'.used ≤ m.used) {bytes : Nat} {a : Unit}
    (hrun : (reserve bytes).run s m = (.ok a, n)) :
    n = m.charge bytes ∧ (reserve bytes).run s' m' = (.ok (), m'.charge bytes) ∧
      (m'.charge bytes).used ≤ n.used := by
  have hle := Meter.charge_memory_le hm bytes
  rw [run_reserve] at hrun ⊢
  split_ifs at hrun with hfull
  · cases hrun
  · obtain ⟨⟩ := hrun
    rw [if_neg (by omega)]
    exact ⟨rfl, rfl, Meter.used_le_used hle⟩

namespace Thrifty

variable (h : s.Eases s')

include h

theorem reserve (n : Nat) : Thrifty s s' (fun _ _ => True) (reserve n) (reserve n) := by
  intro m m' a m₁ hm hrun
  obtain ⟨rfl, hright, hused⟩ := run_reserve_of_le h.memory hm.memory hrun
  exact ⟨m.used_le_charge n, (), _, hright, trivial, hused, hm.time⟩

theorem enter {scope scope' : Scope} (hframes : scope.frames = scope'.frames) :
    Thrifty s s' (fun inner inner' => inner = { scope with frames := scope.frames + 1 } ∧
      inner' = { scope' with frames := scope'.frames + 1 }) scope.enter scope'.enter := by
  intro m m' a m₁ hm hrun
  have hlimits := h.frames
  rw [run_enter] at hrun ⊢
  split_ifs at hrun with hfull
  · cases hrun
  · obtain ⟨⟩ := hrun
    rw [if_neg (by omega)]
    exact ⟨Nat.le_refl _, _, _, rfl, ⟨rfl, rfl⟩, hm⟩

/-- After no more steps, an evaluation goes on where another one does. -/
theorem goesOn {m m' : Meter} {n n' : Nat} (hm : s.Leads s' m m')
    (hn : m'.steps ≤ m.steps → n' ≤ n) (hgoes : s.GoesOn n) : s'.GoesOn n' := by
  rcases hm.time with hcalm | ⟨hsteps, -⟩
  · exact hcalm.goesOn n'
  · exact h.pace _ _ (hn hsteps) hgoes

theorem checkInterrupts : Thrifty s s' (fun _ _ => True) checkInterrupts checkInterrupts := by
  intro m m' a m₁ hm hrun
  obtain ⟨hgoes, rfl⟩ := Sandbox.goesOn_of_checkInterrupts hrun
  have hright := goesOn h hm id hgoes
  exact ⟨Nat.le_refl _, (), m', hright.run_checkInterrupts, trivial, hm⟩

theorem tick : Thrifty s s' (fun _ _ => True) tick tick := by
  intro m m' a m₁ hm hrun
  rw [run_tick] at hrun
  -- the left run has made a step, and is on time if it was
  obtain ⟨rfl, honTime⟩ : m₁ = m.step ∧ (s.OnTime m → s.OnTime m.step) := by
    split_ifs at hrun with hstep
    · obtain ⟨hgoes, rfl⟩ := Sandbox.goesOn_of_checkInterrupts hrun
      exact ⟨rfl, fun _ => hgoes.onTime⟩
    · exact ⟨(Prod.mk.inj hrun).2.symm, fun htime => htime.step hstep⟩
  have hleads : s.Leads s' m.step m'.step := by
    refine ⟨hm.memory, hm.time.imp_right fun htime => ?_⟩
    exact ⟨Nat.succ_le_succ htime.1, honTime htime.2⟩
  -- the right one looks at the clock no later than the left one did the last time
  have hright : Eval.tick.run s' m' = (.ok (), m'.step) := by
    rw [run_tick]
    split_ifs with hstep
    · refine Sandbox.GoesOn.run_checkInterrupts ?_
      rcases hleads.time with hcalm | ⟨hsteps, n, hn, hgoes⟩
      · exact hcalm.goesOn _
      · refine h.pace _ n ?_ hgoes
        simp only [checkInterval] at hstep hn
        omega
    · rfl
  exact ⟨Nat.le_refl _, (), m'.step, hright, trivial, hleads⟩

/-- What follows on a call is compared if there is a frame left for it. -/
theorem enter_bind {f : Scope → Eval α} {g : Scope → Eval β} {scope : Scope}
    (hf : scope.frames < s.policy.config.maxCallStackSize →
      Thrifty s s' R (f { scope with frames := scope.frames + 1 })
        (g { scope with frames := scope.frames + 1 })) :
    Thrifty s s' R (scope.enter >>= f) (scope.enter >>= g) := by
  by_cases hfull : s.policy.config.maxCallStackSize ≤ scope.frames
  · intro m m' a n _ hrun
    obtain ⟨inner, m₁, henter, -⟩ := run_bind_eq_ok hrun
    rw [run_enter, if_pos hfull] at henter
    cases henter
  · refine bind (enter h rfl) ?_
    rintro _ _ ⟨rfl, rfl⟩
    exact hf (Nat.not_le.1 hfull)

end Thrifty

end Eval

/-! ### Expressions -/

/-- Evaluations in one sandbox and in one that eases it, at places of the texts that are told apart
alike. -/
def Sandbox.Eases.comparison {s s' : Sandbox} (h : s.Eases s') {P : Places} (hP : P.Exact) :
    Comparison where
  left := s
  right := s'
  fails _ _ := True
  places := P.spans
  rel := Thrifty s s'
  places_iff hs ht := hP.spans_iff hs ht
  fails_raised _ := trivial
  rel_pure := Thrifty.pure
  rel_error _ := Thrifty.fail
  rel_bind := Thrifty.bind
  rel_read := Thrifty.read
  rel_reserve := Thrifty.reserve h
  rel_tick := Thrifty.tick h
  rel_interrupts := Thrifty.checkInterrupts h
  rel_locate _ := Thrifty.locate _ _
  rel_enter hframes _ := Thrifty.enter h hframes
  allowsMethod := h.allowsMethod
  strictGrammar := h.strictGrammar

theorem Sandbox.Eases.isReflexive {s s' : Sandbox} (h : s.Eases s') :
    (h.comparison Places.exact_same).IsReflexive where
  context := h.context
  dates := h.dates
  allowsGlobal := h.allowsGlobal
  fails _ _ := trivial
  places _ := ⟨rfl, rfl⟩
  depth _ := trivial
  rel_enter_bind := Thrifty.enter_bind h

/-- An expression that has a value has the same one where it is held to no stricter limits and has a
lead. -/
theorem Expr.exists_value_of_eases {s s' : Sandbox} (h : s.Eases s') {e : Expr} {m m' n : Meter}
    (hm : s.Leads s' m m') {v : Value} (hv : e.value.run s m = (.ok v, n)) :
    ∃ n', e.value.run s' m' = (.ok v, n') ∧ s.Leads s' n n' := by
  have hself : Thrifty s s' (Paired (.ofBodies fun _ => True)) e.value e.value :=
    rel_eval_self h.isReflexive maxNesting .empty e
  obtain ⟨-, v', n', hrun, hpaired, hn⟩ := hself m m' v n hm hv
  obtain rfl := hpaired.eq_of_ofBodies
  exact ⟨n', hrun, hn⟩

/-- An expression that has a value has an equal one, up to places, wherever the same tree is read
from a text, and with less memory used before. -/
theorem Expr.exists_value_of_thrift {s : Sandbox} {clock : Nat → Nat} {cancelled : Bool}
    (hcalm : Sandbox.IsCalm { s with clock := clock, cancelled := cancelled })
    (hdata : s.context.IsData) {P : Places} (hP : P.Exact) {e e' : Expr}
    (hmatch : e.Matches P.spans e') {m m' n : Meter} (hm : m'.used ≤ m.used) {v : Value}
    (hv : e.value.run s m = (.ok v, n)) :
    m.used ≤ n.used ∧
      ∃ v' n', e'.value.run { s with clock := clock, cancelled := cancelled } m' = (.ok v', n') ∧
        v.unplaced = v'.unplaced ∧ n'.used ≤ n.used := by
  have hs : (hcalm.eases.comparison hP).Shares (fun _ => True) (fun _ => True) :=
    Context.IsData.shares hdata rfl rfl rfl (fun _ => trivial) (fun _ _ _ _ => trivial)
      (fun _ _ _ => trivial) (fun _ _ _ => trivial)
  have hrel : Thrifty s _ (Paired (.ofFindings (hcalm.eases.comparison hP) _ _)) e.value e'.value :=
    rel_value hs hmatch fun _ _ => trivial
  obtain ⟨hgrows, v', n', hrun, hpaired, hn⟩ := hrel m m' v n ⟨hm, .inl hcalm⟩ hv
  refine ⟨hgrows, v', n', hrun, ?_, hn.memory⟩
  refine hpaired.mapBodies_eq fun f f' hf => ?_
  obtain ⟨⟨hparams, hnames, hbody⟩, -⟩ := hf
  exact Code.ext hparams hbody.sameTree hnames

end TemplateExpr
