import Mathlib.Tactic.SplitIfs
import TemplateExpr.Eval.Basic

/-!
# Runs of computations

What the operations of `Eval` do to the meter, and when they fail. The memory that counts as used
(`Meter.used`) only grows, and where nothing has failed it keeps below the ceiling
(`Sandbox.Spends`).
-/

namespace TemplateExpr

/-! ### Memory -/

namespace Meter

/-- The memory that counts as used: the count stops at its maximum. -/
def used (m : Meter) : Nat := min m.memory maxMemory

theorem used_le_charge (m : Meter) (n : Nat) : m.used ≤ (m.charge n).used := by
  simp only [used, charge]
  omega

theorem charge_memory_le {m m' : Meter} (h : m'.used ≤ m.used) (n : Nat) :
    (m'.charge n).memory ≤ (m.charge n).memory := by
  simp only [used, charge] at *
  omega

theorem used_le_used {m m' : Meter} (h : m'.memory ≤ m.memory) : m'.used ≤ m.used := by
  simp only [used]
  omega

end Meter

/-- No less memory is used behind `m'` than before, and no more than the ceiling if that has been
kept before. -/
structure Sandbox.Spends (s : Sandbox) (m m' : Meter) : Prop where
  grows : m.used ≤ m'.used
  capped : m'.used ≤ max m.used s.policy.config.maxMemory

namespace Sandbox.Spends

variable {s : Sandbox} {m m' m'' : Meter}

theorem refl (s : Sandbox) (m : Meter) : s.Spends m m := ⟨Nat.le_refl _, Nat.le_max_left _ _⟩

theorem trans (h : s.Spends m m') (h' : s.Spends m' m'') : s.Spends m m'' where
  grows := Nat.le_trans h.grows h'.grows
  capped := by
    have hmid := h.capped
    have hend := h'.capped
    omega

theorem step (s : Sandbox) (m : Meter) : s.Spends m m.step :=
  ⟨Nat.le_refl m.used, Nat.le_max_left m.used _⟩

/-- What is charged within the ceiling. -/
theorem charge {n : Nat} (h : ¬s.policy.config.maxMemory < (m.charge n).memory) :
    s.Spends m (m.charge n) where
  grows := m.used_le_charge n
  capped := by
    rw [Meter.used]
    omega

end Sandbox.Spends

namespace Eval

/-! ### Operations -/

variable {α β : Type}

/-- The run of two steps. -/
theorem run_bind (x : Eval α) (f : α → Eval β) (s : Sandbox) (m : Meter) :
    (x >>= f).run s m =
      match x.run s m with
      | (.ok a, m') => (f a).run s m'
      | (.error e, m') => (.error e, m') := by
  change (bind (m := ExceptT Failure (StateM Meter)) (x s) fun a => f a s) m = _
  unfold run
  rcases h : x s m with ⟨_ | a, m'⟩
  · simp only [bind, ExceptT.bind, ExceptT.mk, StateT.bind, ExceptT.bindCont, h]
    rfl
  · simp only [bind, ExceptT.bind, ExceptT.mk, StateT.bind, ExceptT.bindCont, h]

/-- The run of a step whose failure is located. -/
theorem run_locate (x : Eval α) (span : Span) (s : Sandbox) (m : Meter) :
    (x.locate span).run s m =
      match x.run s m with
      | (.ok a, m') => (.ok a, m')
      | (.error e, m') => (.error (e.within span), m') := by
  change (tryCatch (m := ExceptT Failure (StateM Meter)) (x s) fun f => throw (f.within span)) m = _
  unfold run
  rcases h : x s m with ⟨_ | a, m'⟩ <;>
    simp only [tryCatch, tryCatchThe, MonadExceptOf.tryCatch, ExceptT.tryCatch, ExceptT.mk, bind,
      StateT.bind, h] <;>
    rfl

/-- Two steps that give something, one after the other. -/
theorem run_bind_eq_ok {x : Eval α} {f : α → Eval β} {s : Sandbox} {m m' : Meter} {b : β}
    (h : (x >>= f).run s m = (.ok b, m')) :
    ∃ a m₁, x.run s m = (.ok a, m₁) ∧ (f a).run s m₁ = (.ok b, m') := by
  rw [run_bind] at h
  rcases hx : x.run s m with ⟨_ | a, m₁⟩
  · rw [hx] at h
    cases h
  · rw [hx] at h
    exact ⟨a, m₁, rfl, h⟩

/-- Where nothing fails, nothing is located. -/
theorem run_locate_eq_ok {x : Eval α} {span : Span} {s : Sandbox} {m m' : Meter} {a : α}
    (h : (x.locate span).run s m = (.ok a, m')) : x.run s m = (.ok a, m') := by
  rw [run_locate] at h
  rcases hx : x.run s m with ⟨_ | b, m₁⟩
  · rw [hx] at h
    cases h
  · rw [hx] at h
    exact h

/-- A check in front of a step. -/
theorem run_check (c : Prop) [Decidable c] (e : EvalError) (x : PUnit → Eval α) (s : Sandbox)
    (m : Meter) :
    (if c then fail e >>= x else x ⟨⟩).run s m =
      if c then (.error ⟨e, none⟩, m) else (x ⟨⟩).run s m := by
  split_ifs
  · rw [run_bind]
    rfl
  · rfl

/-- Memory that is reserved is charged, also if it is not there. -/
theorem run_reserve (n : Nat) (s : Sandbox) (m : Meter) :
    (reserve n).run s m =
      if s.policy.config.maxMemory < (m.charge n).memory then
        (.error ⟨.resourceLimit .memory s.policy.config.maxMemory, none⟩, m.charge n)
      else (.ok (), m.charge n) := by
  change (if s.policy.config.maxMemory < (m.charge n).memory then fail _ else pure ()).run s _ = _
  split_ifs <;> rfl

theorem run_checkInterrupts (s : Sandbox) (m : Meter) :
    checkInterrupts.run s m =
      if s.cancelled then (.error ⟨.cancelled, none⟩, m)
      else if s.policy.config.timeout ≤ s.clock m.steps then
        (.error ⟨.timeout s.policy.config.timeout, none⟩, m)
      else (.ok (), m) := by
  refine (run_check (s.cancelled = true) .cancelled (fun _ => _) s m).trans ?_
  congr 1
  change (if s.policy.config.timeout ≤ s.clock m.steps then fail _ else pure ()).run s m = _
  split_ifs <;> rfl

theorem run_tick (s : Sandbox) (m : Meter) :
    tick.run s m =
      if m.step.steps % checkInterval = 0 then checkInterrupts.run s m.step
      else (.ok (), m.step) := by
  change (if m.step.steps % checkInterval = 0 then checkInterrupts else pure ()).run s m.step = _
  split_ifs <;> rfl

theorem run_enter (scope : Scope) (s : Sandbox) (m : Meter) :
    scope.enter.run s m =
      if s.policy.config.maxCallStackSize ≤ scope.frames then
        (.error ⟨.resourceLimit .callStack s.policy.config.maxCallStackSize, none⟩, m)
      else (.ok { scope with frames := scope.frames + 1 }, m) := by
  refine (run_check (s.policy.config.maxCallStackSize ≤ scope.frames) _ (fun _ => _) s m).trans ?_
  rfl

end Eval

end TemplateExpr
