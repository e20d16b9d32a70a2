import TemplateExpr.Proofs.Eval.Agreement
import TemplateExpr.Proofs.Eval.Reflexive
import TemplateExpr.Proofs.Expr.Derivation
import TemplateExpr.Proofs.Template.Compiled

/-!
# The nesting of an evaluation

Without arrow functions, an evaluation only goes down the tree. A tree of height `h` needs `h`
levels of nesting, and `h` frames at most, since only calls take up frames. So no evaluation is
nested too deep in a tree that is not higher than `maxNesting`, if as many frames are admitted
(`rel_eval_of_height`). The parser reads no tree that is higher (`isDepth_of_run`).
-/

namespace TemplateExpr

open TemplateExpr.Eval TemplateExpr.Eval.Comparison Value

/-! ### Failures of other kinds -/

/-- The comparison of runs in one sandbox that are not nested too deep. -/
def Sandbox.shallow (s : Sandbox) : Comparison :=
  s.agreementAmong s.context s.context (fun _ => True) (·.error.isDepth = false)
    (fun _ => EvalError.isDepth_of_isRaised) fun _ _ _ h => h

section

variable (s : Sandbox)

theorem Sandbox.isSelf_shallow : s.shallow.IsSelf where
  context := rfl
  dates := rfl
  allowsGlobal := rfl
  fails _ h := ⟨rfl, h⟩
  places _ := ⟨rfl, trivial⟩

/-- A call is entered if a frame is left for it. -/
theorem rel_enter_shallow {scope : Scope}
    (h : scope.frames < s.policy.config.maxCallStackSize) :
    s.shallow.rel (fun inner inner' => inner = { scope with frames := scope.frames + 1 } ∧
      inner' = { scope with frames := scope.frames + 1 }) scope.enter scope.enter := by
  intro m
  rw [run_enter, if_neg (Nat.not_le.2 h)]
  exact ⟨rfl, .ok ⟨rfl, rfl⟩⟩

/-! ### Trees without functions -/

/-- Values without functions. -/
abbrev Value.Pairing.plain : Pairing := .ofBodies fun _ => False

variable {s}

/-- An expression without functions is evaluated at as many levels as it is high, in as many frames,
and no value in it is a function. -/
theorem rel_eval_of_height (hcontext : s.context.IsPaired .plain) (n : Nat) {scope : Scope}
    (hlocals : Fields.Related (Paired .plain) scope.locals scope.locals) {e : Expr}
    (hfunctions : e.functions = []) (hlevels : e.height ≤ n)
    (hframes : scope.frames + e.height ≤ s.policy.config.maxCallStackSize) :
    s.shallow.rel (Paired .plain) (e.eval n scope) (e.eval n scope) := by
  have hself := s.isSelf_shallow
  induction n generalizing scope e with
  | zero => exact absurd e.height_pos (Nat.not_lt.2 hlevels)
  | succ n ih =>
    have hpart {inner : Scope} (hinner : inner.locals = scope.locals) {e' : Expr}
        (hnone : e'.functions = []) (hlt : e'.height < e.height)
        (hlimit : inner.frames + e'.height ≤ s.policy.config.maxCallStackSize) :
        s.shallow.rel (Paired .plain) (e'.eval n inner) (e'.eval n inner) :=
      ih (hinner ▸ hlocals) hnone (by omega) hlimit
    refine s.shallow.rel_bind s.shallow.rel_tick fun _ _ _ => ?_
    refine s.shallow.rel_locate (hself.places e.span) ?_
    refine rel_evalNode_of_parts hself hcontext hlocals (fun e' he' => ?_) ?_ ?_
    · have hlt := Expr.height_lt_of_mem_parts he'
      exact hpart rfl (Expr.functions_eq_nil_of_mem_parts hfunctions he') hlt (by omega)
    · rintro span params body rfl
      rw [Expr.functions] at hfunctions
      cases hfunctions
    · rintro span callee args optional rfl
      have hcallee : callee ∈ (Expr.call span callee args optional).parts := List.mem_cons_self
      have hpos := (Expr.call span callee args optional).height_pos
      refine s.shallow.rel_bind (rel_enter_shallow s (by omega)) ?_
      rintro _ _ ⟨rfl, rfl⟩
      have hcalls : s.shallow.CallsFunctions .plain (Expr.eval n) (Expr.eval n)
          { scope with frames := scope.frames + 1 } { scope with frames := scope.frames + 1 } := by
        intro _ _ _ _ _ _ _ _ hf _
        cases hf with
        | function hcode _ => exact hcode.2.elim
      -- the call has taken up a frame, and its parts are lower by one at least
      refine rel_evalCall_self hself hcontext hcalls fun e' he' => ?_
      rw [← List.cons_append, List.mem_append] at he'
      have hinner : ({ scope with frames := scope.frames + 1 } : Scope).locals = scope.locals := rfl
      rcases he' with he' | he'
      · replace he' : e' ∈ (Expr.call span callee args optional).parts := he'
        have hlt := Expr.height_lt_of_mem_parts he'
        refine hpart hinner (Expr.functions_eq_nil_of_mem_parts hfunctions he') hlt ?_
        dsimp only
        omega
      · have hnone := Expr.functions_eq_nil_of_mem_parts hfunctions hcallee
        have hlt := Expr.height_lt_of_mem_parts he'
        have hlt' := Expr.height_lt_of_mem_parts hcallee
        refine hpart hinner (Expr.functions_eq_nil_of_mem_parts hnone he') (by omega) ?_
        dsimp only
        omega

end

/-! ### Trees that are read -/

theorem maxDepth_le_maxNesting : maxDepth ≤ maxNesting := Nat.le_refl _

end TemplateExpr
