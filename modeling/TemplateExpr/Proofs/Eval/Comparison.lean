import Mathlib.Data.List.Forall2
import TemplateExpr.Method.Array
import TemplateExpr.Method.Basic
import TemplateExpr.Proofs.Partial

/-!
# Comparing evaluations

A `Comparison` says how a computation in one sandbox is compared with a computation in another one,
and how their results are related. Its laws are what the operations of `Eval` need: whatever is built
from compared parts is compared. The loops over lists and the sort are such programs.
-/

namespace TemplateExpr

/-- Errors that can be told from the text of an expression: the other ones depend on the values that
are come across. -/
def EvalError.isStatic : EvalError → Bool
  | parse _ | notDefined _ | readOnly _ | unsupported .assignment => true
  | security (.pattern _) | security .computedAccess => true
  | _ => false

/-- Errors of evaluations that are nested too deep. -/
def EvalError.isDepth : EvalError → Bool
  | resourceLimit .callStack _ => true
  | _ => false

/-- Errors that operations on values raise: how deep an evaluation is nested is watched by the
evaluation of expressions only. -/
def EvalError.isRaised (e : EvalError) : Bool := !e.isStatic && !e.isDepth

theorem EvalError.isStatic_of_isRaised {e : EvalError} (h : e.isRaised = true) :
    e.isStatic = false := by
  rw [isRaised, Bool.and_eq_true, Bool.not_eq_true'] at h
  exact h.1

theorem EvalError.isDepth_of_isRaised {e : EvalError} (h : e.isRaised = true) :
    e.isDepth = false := by
  rw [isRaised, Bool.and_eq_true, Bool.not_eq_true', Bool.not_eq_true'] at h
  exact h.2

namespace Eval

/-- A way to compare a computation in the sandbox `left` with one in the sandbox `right`.
`rel R x y` says that they go together and that their results are related by `R`. -/
structure Comparison where
  left : Sandbox
  right : Sandbox
  /-- Errors that go together. -/
  fails : EvalError → EvalError → Prop
  /-- Places of the expressions that go together. -/
  places : Span → Span → Prop
  rel : {α β : Type} → (α → β → Prop) → Eval α → Eval β → Prop
  /-- Places that go with the same place are the same. -/
  places_iff : ∀ {s s' t t' : Span}, places s s' → places t t' → (s = t ↔ s' = t')
  fails_raised : ∀ {e : EvalError}, e.isRaised = true → fails e e
  rel_pure : ∀ {α β : Type} {R : α → β → Prop} {a : α} {b : β}, R a b → rel R (pure a) (pure b)
  rel_error : ∀ {α β : Type} {R : α → β → Prop} {e e' : EvalError}, fails e e' →
    rel R (fail e) (fail e')
  rel_bind : ∀ {α β γ δ : Type} {R : α → β → Prop} {S : γ → δ → Prop} {x : Eval α} {y : Eval β}
    {f : α → Eval γ} {g : β → Eval δ},
    rel R x y → (∀ a b, R a b → rel S (f a) (g b)) → rel S (x >>= f) (y >>= g)
  rel_read : ∀ {α β : Type} {R : α → β → Prop} {f : Sandbox → Eval α} {g : Sandbox → Eval β},
    rel R (f left) (g right) → rel R (read >>= f) (read >>= g)
  rel_reserve : ∀ n, rel (fun _ _ => True) (reserve n) (reserve n)
  rel_tick : rel (fun _ _ => True) tick tick
  rel_interrupts : rel (fun _ _ => True) checkInterrupts checkInterrupts
  rel_locate : ∀ {α β : Type} {R : α → β → Prop} {x : Eval α} {y : Eval β} {s s' : Span},
    places s s' → rel R x y → rel R (x.locate s) (y.locate s')
  rel_enter : ∀ {scope scope' : Scope}, scope.frames = scope'.frames →
    (∀ n, fails (.resourceLimit .callStack n) (.resourceLimit .callStack n)) →
    rel (fun s s' => s = { scope with frames := scope.frames + 1 } ∧
      s' = { scope' with frames := scope'.frames + 1 }) scope.enter scope'.enter
  allowsMethod : left.policy.allowsMethod = right.policy.allowsMethod
  strictGrammar : left.policy.config.strictGrammar = right.policy.config.strictGrammar

namespace Comparison

variable (L : Comparison) {α β γ δ : Type} {R : α → β → Prop} {S : γ → δ → Prop}

/-! ### Small steps -/

/-- Errors that operations raise are the same on both sides. -/
theorem rel_fail {e : EvalError} (h : e.isRaised = true) :
    L.rel R (fail e : Eval α) (fail e : Eval β) :=
  L.rel_error (L.fails_raised h)

/-- Calculations that use nothing and end together. -/
abbrev Ends (R : α → β → Prop) : Except EvalError α → Except EvalError β → Prop :=
  EndTogether L.fails R

theorem ends_fail {e : EvalError} (h : e.isRaised = true) :
    L.Ends R (.error e) (.error e) :=
  .error (L.fails_raised h)

theorem rel_ofExcept {x : Except EvalError α} {y : Except EvalError β} (h : L.Ends R x y) :
    L.rel R (ofExcept x) (ofExcept y) := by
  cases h with
  | ok h => exact L.rel_pure h
  | error h => exact L.rel_error h

/-- Calculations that use nothing, followed by computations that go together. -/
theorem rel_ofExcept_bind {x : Except EvalError α} {y : Except EvalError β} {f : α → Eval γ}
    {g : β → Eval δ} (hx : L.Ends R x y) (hf : ∀ a b, R a b → L.rel S (f a) (g b)) :
    L.rel S (ofExcept x >>= f) (ofExcept y >>= g) :=
  L.rel_bind (L.rel_ofExcept hx) hf

/-- Reserving the same memory before computations that go together. -/
theorem rel_reserve_bind {n n' : Nat} (hn : n = n') {x : Eval α} {y : Eval β} (h : L.rel R x y) :
    L.rel R (reserve n >>= fun _ => x) (reserve n' >>= fun _ => y) := by
  subst hn
  exact L.rel_bind (L.rel_reserve n) fun _ _ _ => h

/-- Computations whose results are only wrapped. -/
theorem rel_bind_pure {x : Eval α} {y : Eval β} {f : α → γ} {g : β → δ} (h : L.rel R x y)
    (hf : ∀ a b, R a b → S (f a) (g b)) :
    L.rel S (x >>= fun a => pure (f a)) (y >>= fun b => pure (g b)) :=
  L.rel_bind h fun a b hab => L.rel_pure (hf a b hab)

/-- A check in front of computations. -/
theorem rel_check {c c' : Prop} [Decidable c] [Decidable c'] (hc : c ↔ c') {e e' : EvalError}
    {x : PUnit → Eval α} {y : PUnit → Eval β} (hfail : c → L.fails e e')
    (h : ¬c → L.rel R (x ⟨⟩) (y ⟨⟩)) :
    L.rel R (if c then fail e >>= x else x ⟨⟩) (if c' then fail e' >>= y else y ⟨⟩) := by
  by_cases hcond : c
  · rw [if_pos hcond, if_pos (hc.1 hcond)]
    exact L.rel_bind (R := fun _ _ => False) (L.rel_error (hfail hcond)) fun _ _ hf => hf.elim
  · rw [if_neg hcond, if_neg (mt hc.2 hcond)]
    exact h hcond

/-! ### Loops -/

/-- The results for the items of lists, one after the other. -/
theorem rel_mapFrom {f : Nat → α → Eval γ} {g : Nat → β → Eval δ}
    (h : ∀ i a b, R a b → L.rel S (f i a) (g i b)) {as : List α} {bs : List β}
    (has : List.Forall₂ R as bs) (i : Nat) {acc : List γ} {acc' : List δ}
    (hacc : List.Forall₂ S acc acc') :
    L.rel (List.Forall₂ S) (mapFrom f i acc as) (mapFrom g i acc' bs) := by
  induction has generalizing i acc acc' with
  | nil => exact L.rel_pure (List.rel_reverse hacc)
  | cons hab _ ih => exact L.rel_bind (h i _ _ hab) fun c d hcd => ih (i + 1) (.cons hcd hacc)

theorem rel_mapItems {f : Nat → α → Eval γ} {g : Nat → β → Eval δ}
    (h : ∀ i a b, R a b → L.rel S (f i a) (g i b)) {as : List α} {bs : List β}
    (has : List.Forall₂ R as bs) : L.rel (List.Forall₂ S) (mapItems f as) (mapItems g bs) :=
  L.rel_mapFrom h has 0 .nil

/-- The first items that are accepted stand at the same position. -/
theorem rel_findFrom? {f : Nat → α → Eval Bool} {g : Nat → β → Eval Bool}
    (h : ∀ i a b, R a b → L.rel Eq (f i a) (g i b)) {as : List α} {bs : List β}
    (has : List.Forall₂ R as bs) (i : Nat) :
    L.rel (Option.Rel fun x y => x.1 = y.1 ∧ R x.2 y.2) (findFrom? f i as) (findFrom? g i bs) := by
  induction has generalizing i with
  | nil => exact L.rel_pure .none
  | cons hab _ ih =>
    refine L.rel_bind (h i _ _ hab) fun found _ heq => ?_
    subst heq
    cases found with
    | true => exact L.rel_pure (.some ⟨rfl, hab⟩)
    | false => exact ih (i + 1)

theorem rel_findItem? {f : Nat → α → Eval Bool} {g : Nat → β → Eval Bool}
    (h : ∀ i a b, R a b → L.rel Eq (f i a) (g i b)) {as : List α} {bs : List β}
    (has : List.Forall₂ R as bs) :
    L.rel (Option.Rel fun x y => x.1 = y.1 ∧ R x.2 y.2) (findItem? f as) (findItem? g bs) :=
  L.rel_findFrom? h has 0

theorem rel_foldFrom {f : γ → Nat → α → Eval γ} {g : δ → Nat → β → Eval δ}
    (h : ∀ c d i a b, S c d → R a b → L.rel S (f c i a) (g d i b)) {as : List α} {bs : List β}
    (has : List.Forall₂ R as bs) {c : γ} {d : δ} (hcd : S c d) (i : Nat) :
    L.rel S (foldFrom f c i as) (foldFrom g d i bs) := by
  induction has generalizing c d i with
  | nil => exact L.rel_pure hcd
  | cons hab _ ih => exact L.rel_bind (h c d i _ _ hcd hab) fun c' d' hcd' => ih hcd' (i + 1)

/-! ### Sorting -/

/-- Merging by comparisons that go together. -/
theorem rel_mergeFrom {f : α → α → Eval Bool} {g : β → β → Eval Bool}
    (h : ∀ a a' b b', R a b → R a' b' → L.rel Eq (f a a') (g b b')) {acc ls rs : List α}
    {acc' ls' rs' : List β} (hacc : List.Forall₂ R acc acc') (hls : List.Forall₂ R ls ls')
    (hrs : List.Forall₂ R rs rs') :
    L.rel (List.Forall₂ R) (mergeFrom f acc ls rs) (mergeFrom g acc' ls' rs') := by
  induction hn : ls.length + rs.length using Nat.strongRecOn
    generalizing acc ls rs acc' ls' rs' with
  | ind n ih =>
  subst hn
  cases hls with
  | nil =>
    rw [mergeFrom, mergeFrom]
    exact L.rel_pure (List.rel_append (List.rel_reverse hacc) hrs)
  | cons hl hls =>
    cases hrs with
    | nil =>
      rw [mergeFrom, mergeFrom]
      · exact L.rel_pure (List.rel_append (List.rel_reverse hacc) (.cons hl hls))
      all_goals
        intro h
        cases h
    | cons hr hrs =>
      rw [mergeFrom, mergeFrom]
      refine L.rel_bind (h _ _ _ _ hl hr) fun greater _ heq => ?_
      subst heq
      cases greater with
      | true =>
        refine ih _ ?_ (.cons hr hacc) (.cons hl hls) hrs rfl
        simp only [List.length_cons]; omega
      | false =>
        refine ih _ ?_ (.cons hl hacc) hls (.cons hr hrs) rfl
        simp only [List.length_cons]; omega

/-- Sorting by comparisons that go together. -/
theorem rel_sortBy {f : α → α → Eval Bool} {g : β → β → Eval Bool}
    (h : ∀ a a' b b', R a b → R a' b' → L.rel Eq (f a a') (g b b')) {as : List α} {bs : List β}
    (has : List.Forall₂ R as bs) : L.rel (List.Forall₂ R) (sortBy f as) (sortBy g bs) := by
  induction hn : as.length using Nat.strongRecOn generalizing as bs with
  | ind n ih =>
  subst hn
  rw [sortBy.eq_def f as, sortBy.eq_def g bs, ← has.length_eq]
  by_cases hlen : as.length ≤ 1
  · simp only [hlen, ↓reduceDIte]
    exact L.rel_pure has
  · simp only [hlen, ↓reduceDIte]
    refine L.rel_bind (ih _ ?_ (List.forall₂_take _ has) rfl) fun left left' hleft => ?_
    · simp only [List.length_take]; omega
    refine L.rel_bind (ih _ ?_ (List.forall₂_drop _ has) rfl) fun right right' hright => ?_
    · simp only [List.length_drop]; omega
    exact L.rel_mergeFrom h .nil hleft hright

end Comparison

end Eval

end TemplateExpr
