import Mathlib.Data.Prod.Lex
import TemplateExpr.Proofs.Eval.Agreement
import TemplateExpr.Proofs.Eval.Reflexive

/-!
# The descent of an evaluation

A call takes up a frame and so does the function that is called, and all other parts of an
expression are smaller than the whole. So an evaluation only depends on evaluations that are lower
in the lexicographic order of the frames that are left and of the size of the expression. No limit
on the nesting is needed for it to end, nor is the clock: there is exactly one evaluator without such a
limit, and it evaluates each expression as `Expr.eval n` does for all `n` that are large enough
(`Sandbox.existsUnique_unlimited`).
-/

namespace TemplateExpr

open TemplateExpr.Eval TemplateExpr.Eval.Comparison Value

/-! ### One sandbox -/

/-- The comparison of evaluations in one sandbox. -/
abbrev Sandbox.sameRun (s : Sandbox) : Comparison := s.sameRuns s.context s.context

theorem Sandbox.isReflexive_sameRun (s : Sandbox) : s.sameRun.IsReflexive where
  context := rfl
  dates := rfl
  allowsGlobal := rfl
  fails _ _ := ⟨rfl, trivial⟩
  places _ := ⟨rfl, trivial⟩
  depth _ := ⟨rfl, trivial⟩
  rel_enter_bind := by
    intro α R f g scope h m
    rw [run_bind, run_bind, run_enter]
    by_cases hlimit : s.policy.config.maxCallStackSize ≤ scope.frames
    · rw [if_pos hlimit]
      exact ⟨rfl, .error ⟨rfl, trivial⟩⟩
    · rw [if_neg hlimit]
      exact h (Nat.not_le.1 hlimit) m

/-! ### Lower evaluations -/

namespace Sandbox

variable (s : Sandbox)

/-- The frames that are left, and the size of the expression. -/
def rank (scope : Scope) (e : Expr) : Nat ×ₗ Nat :=
  toLex (s.policy.config.maxCallStackSize - scope.frames, e.nodeCount)

variable {s}

theorem rank_lt_of_nodeCount {scope : Scope} {e e' : Expr} (h : e'.nodeCount < e.nodeCount) :
    s.rank scope e' < s.rank scope e :=
  Prod.Lex.toLex_lt_toLex.2 (.inr ⟨rfl, h⟩)

theorem rank_lt_of_frames {scope inner : Scope} (h : scope.frames < inner.frames)
    (hlimit : inner.frames ≤ s.policy.config.maxCallStackSize) (e e' : Expr) :
    s.rank inner e' < s.rank scope e :=
  Prod.Lex.toLex_lt_toLex.2 (.inl (by omega))

/-- Computations that run alike in a sandbox go together, whatever functions they give. -/
theorem rel_of_run_eq {x y : Eval Value} (h : ∀ m, x.run s m = y.run s m) :
    s.sameRun.rel (Paired (.ofBodies fun _ => True)) x y := by
  intro m
  change (x.run s m).2 = (y.run s m).2 ∧ EndTogether _ _ (x.run s m).1 (y.run s m).1
  rw [h m]
  refine ⟨rfl, ?_⟩
  cases (y.run s m).1 with
  | error f => exact .error ⟨rfl, trivial⟩
  | ok v => exact .ok (.ofBodies fun _ _ => trivial)

theorem run_eq_of_rel {ok : Expr → Prop} {x y : Eval Value}
    (h : s.sameRun.rel (Paired (.ofBodies ok)) x y) (m : Meter) : x.run s m = y.run s m := by
  have hagrees : Agrees s s (Failure.Among fun _ => True) (Paired (.ofBodies ok)) x y := h
  exact hagrees.run_eq (fun _ _ hv => hv.eq_of_ofBodies) m

theorem rel_congr_right {α : Type} {R : α → α → Prop} {x y z : Eval α}
    (hx : s.sameRun.rel R x y) (h : ∀ m, y.run s m = z.run s m) : s.sameRun.rel R x z := by
  have hagrees : Agrees s s (Failure.Among fun _ => True) R x y := hx
  intro m
  have hm := hagrees m
  rw [h m] at hm
  exact hm

/-- What a node gives only depends on evaluations of a lower rank. -/
theorem run_evalNode_congr {eval eval' : Evaluator} {scope : Scope} {e : Expr}
    (h : ∀ scope' e', s.rank scope' e' < s.rank scope e →
      ∀ m, (eval scope' e').run s m = (eval' scope' e').run s m) (m : Meter) :
    (evalNode eval scope e).run s m = (evalNode eval' scope e).run s m := by
  have hbelow : AgreeBelow s.sameRun (fun _ => True) eval eval' scope e.nodeCount := by
    constructor
    · exact fun e' hlt _ => rel_of_run_eq (h scope e' (rank_lt_of_nodeCount hlt))
    · exact fun inner e' hlt hlimit _ _ =>
        rel_of_run_eq (h inner e' (rank_lt_of_frames hlt hlimit e e'))
  refine run_eq_of_rel (rel_evalNode_of_below s.isReflexive_sameRun ?_ (fun _ _ _ _ => trivial) ?_
    hbelow trivial) m
  · exact Context.isPaired_ofBodies fun _ _ => trivial
  · exact Paired.fields_ofBodies fun _ _ => trivial

/-! ### Enough levels -/

/-- The levels that an evaluation needs if no function that it comes across has a body of more nodes
than `size`, and neither has the expression. -/
def levels (s : Sandbox) (size : Nat) (scope : Scope) (e : Expr) : Nat :=
  (s.policy.config.maxCallStackSize - scope.frames) * (size + 1) + e.nodeCount

theorem levels_lt_of_frames {scope inner : Scope} (h : scope.frames < inner.frames)
    (hlimit : inner.frames ≤ s.policy.config.maxCallStackSize) {size : Nat} {e e' : Expr}
    (he' : e'.nodeCount ≤ size) : s.levels size inner e' < s.levels size scope e := by
  have hleft : s.policy.config.maxCallStackSize - inner.frames + 1 ≤
      s.policy.config.maxCallStackSize - scope.frames := by omega
  have hmul := Nat.mul_le_mul_right (size + 1) hleft
  have hpos := e.nodeCount_pos
  rw [Nat.add_mul, Nat.one_mul] at hmul
  simp only [levels]
  omega

section

variable {size : Nat} (hcontext : s.context.IsPaired (.ofBodies (·.nodeCount ≤ size)))

include hcontext

/-- With enough levels, more of them make no difference. -/
theorem rel_eval {n n' : Nat} (hn : n ≤ n') {scope : Scope}
    (hlocals : Fields.Related (Paired (.ofBodies (·.nodeCount ≤ size))) scope.locals scope.locals)
    {e : Expr} (he : e.nodeCount ≤ size) (hlevels : s.levels size scope e ≤ n) :
    s.sameRun.rel (Paired (.ofBodies (·.nodeCount ≤ size))) (e.eval n scope) (e.eval n' scope) := by
  induction n generalizing n' scope e with
  | zero =>
    have hpos := e.nodeCount_pos
    rw [levels] at hlevels
    omega
  | succ n ih =>
    obtain ⟨k, rfl⟩ : ∃ k, n' = k + 1 := ⟨n' - 1, by omega⟩
    have hnk : n ≤ k := Nat.le_of_succ_le_succ hn
    have hbelow : AgreeBelow s.sameRun (·.nodeCount ≤ size) (Expr.eval n) (Expr.eval k) scope
        e.nodeCount := by
      constructor
      · intro e' hlt he'
        refine ih hnk hlocals he' ?_
        rw [levels] at hlevels ⊢
        omega
      · intro inner e' hlt (hlimit : _ ≤ s.policy.config.maxCallStackSize) hlocals' he'
        have hlower := levels_lt_of_frames hlt hlimit he' (e := e)
        exact ih hnk hlocals' he' (by omega)
    refine s.sameRun.rel_bind s.sameRun.rel_tick fun _ _ _ => s.sameRun.rel_locate ⟨rfl, trivial⟩ ?_
    exact rel_evalNode_of_below s.isReflexive_sameRun hcontext
      (fun _ _ hlt h => Nat.le_trans (Nat.le_of_lt hlt) h) hlocals hbelow he

theorem run_eval_eq {n n' : Nat} {scope : Scope}
    (hlocals : Fields.Related (Paired (.ofBodies (·.nodeCount ≤ size))) scope.locals scope.locals)
    {e : Expr} (he : e.nodeCount ≤ size) (hn : s.levels size scope e ≤ n)
    (hn' : s.levels size scope e ≤ n') (m : Meter) :
    (e.eval n scope).run s m = (e.eval n' scope).run s m := by
  have h := run_eq_of_rel (rel_eval hcontext (Nat.le_max_left n n') hlocals he hn) m
  have h' := run_eq_of_rel (rel_eval hcontext (Nat.le_max_right n n') hlocals he hn') m
  exact h.trans h'.symm

end

/-! ### Evaluation without a limit of levels -/

/-- An evaluator that evaluates as `Expr.eval` does, but with no limit of levels. -/
def Unlimited (s : Sandbox) (eval : Evaluator) : Prop :=
  ∀ scope e m, (eval scope e).run s m =
    (tick >>= fun _ => (evalNode eval scope e).locate e.span).run s m

/-- A size that neither the expression exceeds nor a function that its evaluation comes across. -/
def sizeBound (s : Sandbox) (scope : Scope) (e : Expr) : Nat :=
  Expr.nodeCounts (e :: (bodiesFields scope.locals ++ s.context.bodies))

section

variable (scope : Scope) (e : Expr)

theorem nodeCount_le_sizeBound : e.nodeCount ≤ s.sizeBound scope e :=
  Expr.nodeCount_le_of_mem List.mem_cons_self

theorem related_sizeBound :
    Fields.Related (Paired (.ofBodies (·.nodeCount ≤ s.sizeBound scope e))) scope.locals
      scope.locals :=
  Paired.fields_ofBodies fun _ hb =>
    Expr.nodeCount_le_of_mem (List.mem_cons_of_mem _ (List.mem_append_left _ hb))

theorem isPaired_sizeBound :
    s.context.IsPaired (.ofBodies (·.nodeCount ≤ s.sizeBound scope e)) :=
  Context.isPaired_ofBodies fun _ hb =>
    Expr.nodeCount_le_of_mem (List.mem_cons_of_mem _ (List.mem_append_right _ hb))

end

/-- Evaluates with as many levels as are needed. -/
def evalFully (s : Sandbox) : Evaluator :=
  fun scope e => e.eval (s.levels (s.sizeBound scope e) scope e) scope

/-- Any number of levels gives the same if it is large enough. -/
theorem run_evalFully_eq {n : Nat} {scope : Scope} {e : Expr}
    (hn : s.levels (s.sizeBound scope e) scope e ≤ n) (m : Meter) :
    (s.evalFully scope e).run s m = (e.eval n scope).run s m :=
  run_eval_eq (isPaired_sizeBound scope e) (related_sizeBound scope e)
    (nodeCount_le_sizeBound scope e) (Nat.le_refl _) hn m

theorem unlimited_evalFully (s : Sandbox) : s.Unlimited s.evalFully := by
  intro scope e m
  have hcontext := isPaired_sizeBound (s := s) scope e
  have hlocals := related_sizeBound (s := s) scope e
  have he := nodeCount_le_sizeBound (s := s) scope e
  generalize hsize : s.sizeBound scope e = size at hcontext hlocals he
  rw [run_evalFully_eq (Nat.le_succ _), hsize]
  generalize hn : s.levels size scope e = n
  have hparts {inner : Scope} {e' : Expr} (hlt : s.levels size inner e' < n)
      (hinner : Fields.Related (Paired (.ofBodies (·.nodeCount ≤ size))) inner.locals inner.locals)
      (he' : e'.nodeCount ≤ size) :
      s.sameRun.rel (Paired (.ofBodies (·.nodeCount ≤ size))) (e'.eval n inner)
        (s.evalFully inner e') := by
    have hmore := rel_eval hcontext
      (Nat.le_max_left n (s.levels (s.sizeBound inner e') inner e')) hinner he' hlt.le
    exact rel_congr_right hmore fun m => (run_evalFully_eq (Nat.le_max_right _ _) m).symm
  have hbelow : AgreeBelow s.sameRun (·.nodeCount ≤ size) (Expr.eval n) s.evalFully scope
      e.nodeCount := by
    constructor
    · intro e' hlt he'
      refine hparts ?_ hlocals he'
      rw [← hn, levels, levels]
      omega
    · intro inner e' hlt hlimit hinner he'
      exact hparts (hn ▸ levels_lt_of_frames hlt hlimit he') hinner he'
  have hnode := rel_evalNode_of_below s.isReflexive_sameRun hcontext
    (fun _ _ hlt h => Nat.le_trans (Nat.le_of_lt hlt) h) hlocals hbelow he
  exact run_eq_of_rel
    (s.sameRun.rel_bind s.sameRun.rel_tick fun _ _ _ => s.sameRun.rel_locate ⟨rfl, trivial⟩ hnode) m

/-- Two evaluators without a limit of levels evaluate alike. -/
theorem Unlimited.run_eq {eval eval' : Evaluator} (h : s.Unlimited eval) (h' : s.Unlimited eval')
    (scope : Scope) (e : Expr) (m : Meter) :
    (eval scope e).run s m = (eval' scope e).run s m := by
  induction hrank : s.rank scope e using WellFoundedLT.induction generalizing scope e m with
  | ind rank ih =>
  subst hrank
  rw [h scope e m, h' scope e m, run_bind, run_bind]
  split
  · next m' htick =>
    rw [run_locate, run_locate]
    rw [run_evalNode_congr fun scope' e' hlt m => ih _ hlt scope' e' m rfl]
  · rfl

end Sandbox

end TemplateExpr
