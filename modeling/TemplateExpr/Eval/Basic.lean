import TemplateExpr.Context.Basic
import TemplateExpr.Security.Policy

/-!
# Evaluation within limits

`Eval α` is a computation that reads a `Sandbox`, may fail, and runs up a `Meter`, which it keeps
when it fails. Steps are counted one by one, and every sixteenth step looks at the clock and at
whether the evaluation has been cancelled; the size of what is built is reserved before it is built.
-/

namespace TemplateExpr

/-- What an evaluation may use. -/
structure Sandbox where
  policy : Policy
  context : Context
  /-- Whether the library of dates is on. -/
  dates : Bool
  /-- The milliseconds that have passed after a number of steps. -/
  clock : Nat → Nat
  /-- Whether the evaluation has been cancelled. -/
  cancelled : Bool

/-- What an evaluation has used. -/
structure Meter where
  steps : Nat
  memory : Nat
deriving Repr, DecidableEq, Inhabited

namespace Meter

/-- Nothing has been used. -/
def zero : Meter := ⟨0, 0⟩

/-- The largest amount of memory that is counted. -/
def maxMemory : Nat := UInt64.size - 1

/-- One more step. -/
def step (m : Meter) : Meter := { m with steps := m.steps + 1 }

/-- `bytes` more memory; the count stays at its maximum. -/
def charge (m : Meter) (bytes : Nat) : Meter :=
  { m with memory := min (m.memory + bytes) maxMemory }

end Meter

/-- Why an evaluation failed, and the part of the expression that failed. -/
structure Failure where
  error : EvalError
  span? : Option Span

namespace Failure

/-- The failure with a part of the expression, unless a part within it is known. -/
def within (f : Failure) (span : Span) : Failure := ⟨f.error, some (f.span?.getD span)⟩

end Failure

/-- A computation within limits. -/
abbrev Eval := ReaderT Sandbox (ExceptT Failure (StateM Meter))

namespace Eval

variable {α : Type}

/-- Fails at a place that is not known yet. -/
def fail (error : EvalError) : Eval α := throw ⟨error, none⟩

/-- The result of a calculation that uses nothing. -/
def ofExcept : Except EvalError α → Eval α
  | .ok a => pure a
  | .error e => fail e

instance : MonadLift (Except EvalError) Eval := ⟨ofExcept⟩

/-- Runs a computation. -/
def run (x : Eval α) (s : Sandbox) (m : Meter) : Except Failure α × Meter := x s m

/-- Locates a failure in a part of the expression, unless it has been located within it. -/
def locate (span : Span) (x : Eval α) : Eval α := tryCatch x fun f => throw (f.within span)

/-! ### Limits -/

/-- Reserves memory. -/
def reserve (bytes : Nat) : Eval Unit := do
  modify (·.charge bytes)
  let limit := (← read).policy.config.maxMemory
  if limit < (← get).memory then fail (.resourceLimit .memory limit)

/-- Reserves memory for `n` values. -/
def reserveSlots (n : Nat) : Eval Unit := reserve (Value.slot * n)

/-- Fails if the evaluation has been cancelled or is out of time. -/
def checkInterrupts : Eval Unit := do
  let s ← read
  if s.cancelled then fail .cancelled
  let limit := s.policy.config.timeout
  if limit ≤ s.clock (← get).steps then fail (.timeout limit)

/-- The number of steps after which interrupts are checked. -/
def checkInterval : Nat := 16

/-- Counts a step. -/
def tick : Eval Unit := do
  modify Meter.step
  if (← get).steps % checkInterval = 0 then checkInterrupts

end Eval

/-! ### Scopes -/

/-- Where a part of an expression is evaluated. -/
structure Scope where
  /-- The parameters that are bound, innermost first. -/
  locals : List (String × Value)
  /-- The number of calls that it lies in. -/
  frames : Nat

namespace Scope

/-- Outside of all functions and calls. -/
def empty : Scope := ⟨[], 0⟩

/-- The value of a parameter. -/
def local? (s : Scope) (name : String) : Option Value := s.locals.lookup name

/-- Whether a name is a parameter. -/
def binds (s : Scope) (name : String) : Bool := s.locals.any (·.1 == name)

/-- The scope within one more call. -/
def enter (s : Scope) : Eval Scope := do
  let limit := (← read).policy.config.maxCallStackSize
  if limit ≤ s.frames then Eval.fail (.resourceLimit .callStack limit)
  pure { s with frames := s.frames + 1 }

/-- The parameters of a function bound to arguments, innermost first. Parameters without an argument
are undefined, and of two with one name the last counts. -/
def bindParams (captured : List (String × Value)) : List String → List Value → List (String × Value)
  | [], _ => captured
  | p :: ps, args => bindParams ((p, args.headD .undefined) :: captured) ps args.tail

end Scope

end TemplateExpr
