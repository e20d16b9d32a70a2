import TemplateExpr.Proofs.Eval.Descent
import TemplateExpr.Proofs.Eval.Dialogue
import TemplateExpr.Proofs.Eval.Growth
import TemplateExpr.Proofs.Template.Compiled

/-!
# Evaluation with registers

An `Interpreter` evaluates expressions as `Expr.eval` does, but keeps the frames, the nesting and the
parameters that are bound in registers. It sets them before a part is evaluated and sets them back
when that part has ended, with a value or with a failure (`Exec.during`); no part is told the scope
in which it is evaluated.

Every step follows the evaluation in the scope that the registers hold (`Exec.Follows`), so that the
registers are what they have been when it has ended (`Expr.follows_exec`).
-/

/-!
## Steps and memory are used up

An evaluation may fail at any point, but what it has used until then stays used: no run has fewer
steps or less memory behind it than it began with (`Expr.advances_eval`).
-/

namespace TemplateExpr

open TemplateExpr.Eval

namespace Eval

variable {α β : Type} {s : Sandbox}

/-- However `x` ends, no steps and no memory are given back. -/
def Advances (s : Sandbox) (x : Eval α) : Prop :=
  ∀ m, m.steps ≤ (x.run s m).2.steps ∧ m.used ≤ (x.run s m).2.used

namespace Advances

theorem pure (a : α) : Advances s (pure a) := fun _ => ⟨Nat.le_refl _, Nat.le_refl _⟩

theorem fail (e : EvalError) : Advances s (fail e : Eval α) :=
  fun _ => ⟨Nat.le_refl _, Nat.le_refl _⟩

theorem bind {x : Eval α} {f : α → Eval β} (hx : Advances s x)
    (hf : ∀ a, Gives s x a → Advances s (f a)) : Advances s (x >>= f) := by
  intro m
  have hm := hx m
  rw [run_bind]
  rcases hrun : x.run s m with ⟨_ | a, m'⟩
  · rw [hrun] at hm
    exact hm
  · rw [hrun] at hm
    have hm' := hf a ⟨m, m', hrun⟩ m'
    exact ⟨Nat.le_trans hm.1 hm'.1, Nat.le_trans hm.2 hm'.2⟩

theorem locate {x : Eval α} (span : Span) (h : Advances s x) : Advances s (x.locate span) := by
  intro m
  have hm := h m
  rw [run_locate]
  generalize x.run s m = r at hm
  obtain ⟨_ | a, m'⟩ := r <;> exact hm

theorem reserve (s : Sandbox) (n : Nat) : Advances s (reserve n) := by
  intro m
  rw [run_reserve]
  split_ifs <;> exact ⟨Nat.le_refl _, m.used_le_charge n⟩

theorem checkInterrupts (s : Sandbox) : Advances s checkInterrupts := by
  intro m
  rw [run_checkInterrupts]
  split_ifs <;> exact ⟨Nat.le_refl _, Nat.le_refl _⟩

theorem tick (s : Sandbox) : Advances s tick := by
  intro m
  rw [run_tick, run_checkInterrupts]
  split_ifs <;> exact ⟨Nat.le_succ _, Nat.le_refl _⟩

theorem enter (s : Sandbox) (scope : Scope) : Advances s scope.enter := by
  intro m
  rw [run_enter]
  split_ifs <;> exact ⟨Nat.le_refl _, Nat.le_refl _⟩

end Advances

end Eval

/-- The runs in one sandbox agree, and use steps and memory up. -/
def Sandbox.advancing (s : Sandbox) : Comparison where
  __ := s.sameRun
  rel R x y := Agrees s s (Failure.Among fun _ => True) R x y ∧ Advances s x
  rel_pure h := ⟨.pure h, .pure _⟩
  rel_error h := ⟨.fail h, .fail _⟩
  rel_bind hx hf := by
    refine ⟨hx.1.bind fun a b hab => (hf a b hab).1, hx.2.bind fun a ha => ?_⟩
    obtain ⟨b, -, hab⟩ := hx.1.exists_gives ha
    exact (hf a b hab).2
  rel_read h := h
  rel_reserve n := ⟨s.sameRun.rel_reserve n, .reserve s n⟩
  rel_tick := ⟨s.sameRun.rel_tick, .tick s⟩
  rel_interrupts := ⟨s.sameRun.rel_interrupts, .checkInterrupts s⟩
  rel_locate := by
    rintro _ _ _ _ _ span _ ⟨rfl, hspan⟩ h
    exact ⟨s.sameRun.rel_locate ⟨rfl, hspan⟩ h.1, .locate span h.2⟩
  rel_enter h hdepth := ⟨s.sameRun.rel_enter h hdepth, .enter s _⟩

theorem Sandbox.isReflexive_advancing (s : Sandbox) : s.advancing.IsReflexive where
  context := rfl
  dates := rfl
  allowsGlobal := rfl
  fails _ _ := ⟨rfl, trivial⟩
  places _ := ⟨rfl, trivial⟩
  depth _ := ⟨rfl, trivial⟩
  rel_enter_bind := by
    intro α R f g scope h
    refine ⟨s.isReflexive_sameRun.rel_enter_bind fun hlimit => (h hlimit).1, ?_⟩
    intro m
    rw [run_bind, run_enter]
    by_cases hlimit : s.policy.config.maxCallStackSize ≤ scope.frames
    · rw [if_pos hlimit]
      exact ⟨Nat.le_refl _, Nat.le_refl _⟩
    · rw [if_neg hlimit]
      exact (h (Nat.not_le.1 hlimit)).2 m

/-- Evaluations use steps and memory up. -/
theorem Expr.advances_eval (s : Sandbox) (n : Nat) (scope : Scope) (e : Expr) :
    Advances s (e.eval n scope) :=
  (rel_eval_self s.isReflexive_advancing n scope e).2

end TemplateExpr

/-! ## Programs over registers -/

namespace TemplateExpr

open TemplateExpr.Eval

/-! ### Registers -/

/-- What an interpreter changes while it evaluates a part, and changes back. -/
structure Registers where
  /-- The number of calls that are going on. -/
  frames : Nat
  /-- The number of expressions that are being evaluated, one within another. -/
  nesting : Nat
  /-- The parameters that are bound, innermost first. -/
  locals : List (String × Value)

namespace Registers

/-- The scope that is kept in the registers. -/
def scope (q : Registers) : Scope := ⟨q.locals, q.frames⟩

/-- The limits of a sandbox are kept. -/
structure Fits (q : Registers) (s : Sandbox) : Prop where
  frames : q.frames ≤ s.policy.config.maxCallStackSize
  nesting : q.nesting ≤ maxNesting

end Registers

/-- The state of an interpreter. -/
structure Interpreter where
  meter : Meter
  registers : Registers
  /-- All that the registers have been set to, the latest first. -/
  trail : List Registers

/-- The registers set to something else. -/
def Interpreter.set (m : Interpreter) (f : Registers → Registers) : Interpreter :=
  { m with registers := f m.registers, trail := f m.registers :: m.trail }

/-- A computation of an interpreter, which keeps its state when it fails, and may stop without a
result. -/
abbrev Exec := ReaderT Sandbox (ExceptT Failure (StateT Interpreter Option))

namespace Exec

variable {α β : Type}

/-- Runs a computation. -/
def run (x : Exec α) (s : Sandbox) (m : Interpreter) : Option (Except Failure α × Interpreter) := x s m

/-- Stops without a result. -/
def stop : Exec α := fun _ _ => none

/-- A computation that leaves the registers alone. -/
def lift (x : Eval α) : Exec α := fun s m =>
  let out := x.run s m.meter
  some (out.1, { m with meter := out.2 })

/-- Fails at a place that is not known yet. -/
def fail (error : EvalError) : Exec α := throw ⟨error, none⟩

/-- Locates a failure in a part of the expression, unless it has been located within it. -/
def locate (span : Span) (x : Exec α) : Exec α := tryCatch x fun f => throw (f.within span)

/-- What the registers hold. -/
def registers : Exec Registers := do
  let m ← get
  pure m.registers

/-- Sets the registers. -/
def change (f : Registers → Registers) : Exec Unit := modify (·.set f)

/-- The result of a computation, a failure included. -/
def attempt (x : Exec α) : Exec (Except Failure α) := fun s m =>
  (x.run s m).map fun out => (.ok out.1, out.2)

/-- Goes on with a result. -/
def settle : Except Failure α → Exec α
  | .ok a => pure a
  | .error f => throw f

/-- Runs a computation with other registers, which are changed back whatever its result is. -/
def during (before after : Registers → Registers) (x : Exec α) : Exec α := do
  change before
  let result ← x.attempt
  change after
  settle result

/-- Runs a computation within one more call. -/
def inFrame (x : Exec α) : Exec α := do
  let limit := (← read).policy.config.maxCallStackSize
  if limit ≤ (← registers).frames then fail (.resourceLimit .callStack limit)
  during (fun q => { q with frames := q.frames + 1 }) (fun q => { q with frames := q.frames - 1 }) x

/-- Runs a computation within one more expression. -/
def nested (x : Exec α) : Exec α := do
  if maxNesting ≤ (← registers).nesting then fail (.resourceLimit .callStack maxNesting)
  during (fun q => { q with nesting := q.nesting + 1 })
    (fun q => { q with nesting := q.nesting - 1 }) x

/-- Runs a computation with other parameters. -/
def withLocals (locals : List (String × Value)) (x : Exec α) : Exec α := do
  let saved := (← registers).locals
  during (fun q => { q with locals := locals }) (fun q => { q with locals := saved }) x

/-- Calls an arrow function, whose body is evaluated by `run`. -/
def invokeLambda (run : Expr → Exec Value) (params : List String) (body : Expr)
    (captured : List (String × Value)) (args : List Value) : Exec Value := do
  lift checkInterrupts
  inFrame (withLocals (Scope.bindParams captured params args) (run body))

end Exec

/-- Carries on a dialogue: expressions are evaluated by `run`. -/
def Dialogue.exec (run : Expr → Exec Value) {scope : Scope} {α : Type} {F : Evaluator → Eval α} :
    Dialogue scope F → Exec α
  | .own x => .lift x
  | .part e => run e
  | .apply params body captured args => .invokeLambda run params body captured args
  | .enter d => .inFrame (d.exec run)
  | .bind d k => d.exec run >>= fun a => (k a).exec run

/-- Evaluates an expression in the scope that the registers hold, which is not evaluated deeper than
`fuel` levels. -/
def Expr.exec : Nat → Expr → Exec Value
  | 0, _ => .stop
  | fuel + 1, e => do
    Exec.lift tick
    let node : Exec Value := do
      let q ← Exec.registers
      (Dialogue.ofNode q.scope e).exec (Expr.exec fuel)
    (node.locate e.span).nested

/-! ### Following an evaluation -/

namespace Exec

variable {α β : Type} {s : Sandbox} {q : Registers}

/-- Run with the registers `q`, which are only set within the limits meanwhile, `x` gives and uses
what `y` does, and leaves them as they were. -/
def Follows (s : Sandbox) (q : Registers) (x : Exec α) (y : Eval α) : Prop :=
  ∀ meter trail, ∃ new, (∀ r ∈ new, r.Fits s) ∧
    x.run s ⟨meter, q, trail⟩ = some ((y.run s meter).1, ⟨(y.run s meter).2, q, new ++ trail⟩)

theorem run_bind (x : Exec α) (f : α → Exec β) (s : Sandbox) (m : Interpreter) :
    (x >>= f).run s m = (x.run s m).bind fun
      | (.ok a, m') => (f a).run s m'
      | (.error e, m') => some (.error e, m') := by
  change (bind (m := ExceptT Failure (StateT Interpreter Option)) (x s) fun a => f a s) m = _
  unfold run
  rcases h : x s m with _ | ⟨_ | a, m'⟩
  all_goals simp only [bind, ExceptT.bind, ExceptT.mk, StateT.bind, ExceptT.bindCont, h, Option.bind]
  all_goals rfl

theorem run_locate (x : Exec α) (span : Span) (s : Sandbox) (m : Interpreter) :
    (x.locate span).run s m = (x.run s m).map fun
      | (.ok a, m') => (.ok a, m')
      | (.error e, m') => (.error (e.within span), m') := by
  change (tryCatch (m := ExceptT Failure (StateT Interpreter Option)) (x s)
    fun f => throw (f.within span)) m = _
  unfold run
  rcases h : x s m with _ | ⟨_ | a, m'⟩
  all_goals simp only [tryCatch, tryCatchThe, MonadExceptOf.tryCatch, ExceptT.tryCatch, ExceptT.mk,
    bind, StateT.bind, h, Option.bind, Option.map]
  all_goals rfl

/-- The registers are changed back whether `x` gives something or fails. -/
theorem run_during (before after : Registers → Registers) (x : Exec α) (s : Sandbox)
    (m : Interpreter) :
    (x.during before after).run s m =
      (x.run s (m.set before)).map fun out => (out.1, out.2.set after) := by
  change (x.attempt >>= fun result => change after >>= fun _ => settle result).run s _ = _
  have hattempt : x.attempt.run s (m.set before) =
      (x.run s (m.set before)).map fun out => (.ok out.1, out.2) := rfl
  rw [run_bind, hattempt]
  rcases x.run s (m.set before) with _ | ⟨_ | a, m'⟩ <;> rfl

namespace Follows

theorem lift (x : Eval α) : Follows s q (lift x) x :=
  fun _ _ => ⟨[], List.forall_mem_nil _, rfl⟩

theorem fail (e : EvalError) : Follows s q (fail e : Exec α) (Eval.fail e) :=
  fun _ _ => ⟨[], List.forall_mem_nil _, rfl⟩

theorem bind {x : Exec α} {y : Eval α} {f : α → Exec β} {g : α → Eval β} (hx : Follows s q x y)
    (hf : ∀ a, Follows s q (f a) (g a)) : Follows s q (x >>= f) (y >>= g) := by
  intro meter trail
  obtain ⟨new, hnew, hrun⟩ := hx meter trail
  rw [run_bind, hrun, Eval.run_bind]
  rcases y.run s meter with ⟨_ | a, meter'⟩
  · exact ⟨new, hnew, rfl⟩
  · obtain ⟨new', hnew', hrun'⟩ := hf a meter' (new ++ trail)
    refine ⟨new' ++ new, List.forall_mem_append.2 ⟨hnew', hnew⟩, ?_⟩
    rw [List.append_assoc]
    exact hrun'

theorem locate {x : Exec α} {y : Eval α} (span : Span) (h : Follows s q x y) :
    Follows s q (x.locate span) (y.locate span) := by
  intro meter trail
  obtain ⟨new, hnew, hrun⟩ := h meter trail
  rw [run_locate, hrun, Eval.run_locate]
  refine ⟨new, hnew, ?_⟩
  rcases y.run s meter with ⟨_ | a, meter'⟩ <;> rfl

theorem congr {x : Exec α} {y y' : Eval α} (h : Follows s q x y)
    (hy : ∀ meter, y'.run s meter = y.run s meter) : Follows s q x y' := by
  intro meter trail
  rw [hy]
  exact h meter trail

/-- What is read of the registers is what they hold. -/
theorem registers {f : Registers → Exec α} {y : Eval α} (h : Follows s q (f q) y) :
    Follows s q (Exec.registers >>= f) y :=
  h

theorem read {f : Sandbox → Exec α} {y : Eval α} (h : Follows s q (f s) y) :
    Follows s q (read >>= f) y :=
  h

/-- Registers that are changed back are what they have been, whatever the result is. -/
theorem during {before after : Registers → Registers} {x : Exec α} {y : Eval α} (hq : q.Fits s)
    (hbefore : (before q).Fits s) (hafter : after (before q) = q) (h : Follows s (before q) x y) :
    Follows s q (x.during before after) y := by
  intro meter trail
  obtain ⟨new, hnew, hrun⟩ := h meter (before q :: trail)
  refine ⟨q :: (new ++ [before q]), ?_, ?_⟩
  · simp only [List.forall_mem_cons, List.forall_mem_append]
    exact ⟨hq, hnew, hbefore, List.forall_mem_nil _⟩
  · rw [run_during, Interpreter.set, hrun, Option.map_some, Interpreter.set, hafter,
      List.cons_append, List.append_assoc, List.singleton_append]

/-- A check in front of a computation. -/
theorem check {c : Prop} [Decidable c] {e : EvalError} {x : PUnit → Exec α} {y : Eval α}
    (hfail : c → Follows s q (Exec.fail e) y) (h : ¬c → Follows s q (x ⟨⟩) y) :
    Follows s q (if c then Exec.fail e >>= x else x ⟨⟩) y := by
  split
  · next hc => exact hfail hc
  · next hc => exact h hc

/-- A frame is given back, if there is one left. -/
theorem inFrame {x : Exec α} {y : Eval α} (hq : q.Fits s)
    (h : { q with frames := q.frames + 1 : Registers }.Fits s →
      Follows s { q with frames := q.frames + 1 } x y) :
    Follows s q x.inFrame (q.scope.enter >>= fun _ => y) := by
  refine read (registers (check (fun hlimit => ?_) fun hlimit => ?_))
  · refine (fail _).congr fun m => ?_
    rw [Eval.run_bind, run_enter, if_pos (show _ ≤ q.scope.frames from hlimit)]
    rfl
  · have hinner : { q with frames := q.frames + 1 : Registers }.Fits s :=
      ⟨Nat.not_le.1 hlimit, hq.nesting⟩
    refine (during hq hinner rfl (h hinner)).congr fun m => ?_
    rw [Eval.run_bind, run_enter, if_neg (show ¬_ ≤ q.scope.frames from hlimit)]

/-- The parameters that have been bound are bound again. -/
theorem withLocals {locals : List (String × Value)} {x : Exec α} {y : Eval α} (hq : q.Fits s)
    (h : Follows s { q with locals := locals } x y) : Follows s q (x.withLocals locals) y :=
  registers (during hq ⟨hq.frames, hq.nesting⟩ rfl h)

/-- The level of nesting is given back, if there is one left. -/
theorem nested {x : Exec α} {y : Eval α} (hq : q.Fits s)
    (hlast : maxNesting ≤ q.nesting →
      Follows s q (Exec.fail (.resourceLimit .callStack maxNesting)) y)
    (h : q.nesting < maxNesting → Follows s { q with nesting := q.nesting + 1 } x y) :
    Follows s q x.nested y := by
  refine registers (check hlast fun hlevel => ?_)
  exact during hq ⟨hq.frames, Nat.not_le.1 hlevel⟩ rfl (h (Nat.not_le.1 hlevel))

end Follows

end Exec

/-! ### Dialogues and expressions -/

section

variable {s : Sandbox} {run : Expr → Exec Value} {eval : Evaluator}

open Exec

/-- At `level`, wherever the limits are kept, `run` follows `eval`. -/
def RunsAt (s : Sandbox) (level : Nat) (run : Expr → Exec Value) (eval : Evaluator) : Prop :=
  ∀ q : Registers, q.Fits s → q.nesting = level → ∀ e, Follows s q (run e) (eval q.scope e)

theorem follows_invokeLambda {level : Nat} (h : RunsAt s level run eval) {q : Registers}
    (hq : q.Fits s) (hlevel : q.nesting = level) (params : List String) (body : Expr)
    (captured : List (String × Value)) (args : List Value) :
    Follows s q (invokeLambda run params body captured args)
      (callFunction eval q.scope params body captured args) := by
  refine (Follows.lift checkInterrupts).bind fun _ => ?_
  rw [← Dialogue.enter_bind]
  refine .inFrame hq fun hinner => .withLocals hinner ?_
  let q' : Registers := ⟨q.frames + 1, q.nesting, Scope.bindParams captured params args⟩
  exact h q' ⟨hinner.frames, hinner.nesting⟩ hlevel body

/-- Whatever the answers are, a dialogue ends with the registers that it began with. -/
theorem Dialogue.follows_exec {level : Nat} (h : RunsAt s level run eval) {scope : Scope} {α : Type}
    {F : Evaluator → Eval α} (d : Dialogue scope F) {q : Registers} (hq : q.Fits s)
    (hlevel : q.nesting = level) (hscope : q.scope = scope) :
    Follows s q (d.exec run) (F eval) := by
  induction d generalizing q with
  | own x => exact .lift x
  | part e =>
    subst hscope
    exact h q hq hlevel e
  | apply params body captured args =>
    subst hscope
    exact follows_invokeLambda h hq hlevel params body captured args
  | enter d ih =>
    subst hscope
    exact .inFrame hq fun hinner => ih hinner hlevel rfl
  | bind d k ihd ihk => exact (ihd hq hlevel hscope).bind fun a => ihk a hq hlevel hscope

/-- An expression is evaluated as deep as there are levels left. -/
theorem Expr.follows_exec {fuel : Nat} {q : Registers} (hq : q.Fits s)
    (hfuel : maxNesting - q.nesting < fuel) (e : Expr) :
    Follows s q (e.exec fuel) (e.eval (maxNesting - q.nesting) q.scope) := by
  induction fuel generalizing q e with
  | zero => omega
  | succ fuel ih =>
    have htick : Follows s q (Exec.lift tick) tick := .lift tick
    cases hlevel : maxNesting - q.nesting with
    | zero =>
      refine htick.bind fun _ => .nested hq (fun _ => .fail _) fun hlt => ?_
      omega
    | succ n =>
      refine htick.bind fun _ => .nested hq (fun hlast => ?_) fun hlt => .locate e.span ?_
      · omega
      · have hruns : RunsAt s (q.nesting + 1) (Expr.exec fuel) (Expr.eval n) := by
          intro q' hq' hlevel' e
          have hn : maxNesting - q'.nesting = n := by omega
          rw [← hn]
          exact ih hq' (by omega) e
        exact .registers ((Dialogue.ofNode q.scope e).follows_exec hruns ⟨hq.frames, hlt⟩ rfl rfl)

end

/-! ### State that is restored -/

/-- From registers within the limits, an interpreter gives what the evaluation in their scope gives,
a value or a failure. It leaves the registers as they were and has only set them within the limits;
no steps and no memory have been given back. -/
theorem Expr.exec_restores (s : Sandbox) (e : Expr) (m : Interpreter) (fuel : Nat)
    (hframes : m.registers.frames ≤ s.policy.config.maxCallStackSize)
    (hnesting : m.registers.nesting ≤ maxNesting) (hmemory : m.meter.memory ≤ Meter.maxMemory)
    (hfuel : maxNesting - m.registers.nesting < fuel) :
    ∃ result m' new,
      (e.exec fuel).run s m = some (result, m') ∧
      (e.eval (maxNesting - m.registers.nesting) m.registers.scope).run s m.meter =
        (result, m'.meter) ∧
      m'.registers = m.registers ∧
      m.meter.steps ≤ m'.meter.steps ∧ m.meter.memory ≤ m'.meter.memory ∧
      m'.trail = new ++ m.trail ∧
      ∀ q ∈ new, q.frames ≤ s.policy.config.maxCallStackSize ∧ q.nesting ≤ maxNesting := by
  obtain ⟨new, hnew, hrun⟩ :=
    e.follows_exec ⟨hframes, hnesting⟩ hfuel m.meter m.trail
  obtain ⟨hsteps, hused⟩ :=
    e.advances_eval s (maxNesting - m.registers.nesting) m.registers.scope m.meter
  refine ⟨_, _, new, hrun, rfl, rfl, hsteps, ?_, rfl, fun q hq => ?_⟩
  · show m.meter.memory ≤ _
    rw [Meter.used, Nat.min_eq_left hmemory] at hused
    exact Nat.le_trans hused (Nat.min_le_left _ _)
  · have hfits := hnew q hq
    exact ⟨hfits.frames, hfits.nesting⟩

/-- A comparison that fails in the middle of a sort. -/
theorem exec_restores_failingSort : ∃ e f m',
    Expr.parse "[2, 1].sort((a, b) => nope)".toList = .ok e ∧
      (e.exec 300).run ⟨⟨SecurityConfig.standard, []⟩, .ofItem .null ⟨0, 0, 0⟩, true, fun _ => 0,
        false⟩ ⟨⟨7, 100⟩, ⟨1, 3, [("x", .null)]⟩, []⟩ = some (.error f, m') ∧
      m'.registers = ⟨1, 3, [("x", .null)]⟩ := by
  obtain ⟨e, he, h⟩ := Expr.exists_parse "[2, 1].sort((a, b) => nope)"
    (p := fun e => !((e.eval 253 ⟨[("x", .null)], 1⟩).run ⟨⟨SecurityConfig.standard, []⟩,
      .ofItem .null ⟨0, 0, 0⟩, true, fun _ => 0, false⟩ ⟨7, 100⟩).1.toBool)
    (by decide +kernel)
  obtain ⟨result, m', new, hrun, heval, hregisters, -⟩ := Expr.exec_restores
    ⟨⟨SecurityConfig.standard, []⟩, .ofItem .null ⟨0, 0, 0⟩, true, fun _ => 0, false⟩ e
    ⟨⟨7, 100⟩, ⟨1, 3, [("x", .null)]⟩, []⟩ 300 (by decide) (by decide) (by decide) (by decide)
  cases result with
  | ok v =>
    have hvalue : ((e.eval 253 ⟨[("x", .null)], 1⟩).run _ _).1.toBool = true :=
      congrArg (fun out => out.1.toBool) heval
    rw [hvalue] at h
    cases h
  | error f => exact ⟨e, f, m', he, hrun, hregisters⟩

end TemplateExpr
