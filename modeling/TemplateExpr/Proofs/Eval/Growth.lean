import TemplateExpr.Proofs.Eval.Agreement
import TemplateExpr.Proofs.Eval.Sorting
import TemplateExpr.Proofs.Value.Size

/-!
# Charging for what is built

`Charges s size n x` says that the memory that is charged while `x` runs makes up for the size of
its result, up to `n` bytes: the memory that is used is a potential that grows by at least
`size a - n`.
The rules follow the operations of `Eval`, and the loops are charged what their steps are charged.

All evaluations keep below the ceiling (`Sandbox.accounting`), whatever they build: this is what is
known of the functions that are passed to a method.
-/

namespace TemplateExpr

open TemplateExpr.Eval Value

namespace Eval

variable {α β γ : Type}

/-- A run of `x` gives `a`. -/
def Gives (s : Sandbox) (x : Eval α) (a : α) : Prop := ∃ m m', x.run s m = (.ok a, m')

/-- Where `x` gives something, the memory that is used has only grown, within the ceiling. -/
def Accounts (s : Sandbox) (x : Eval α) : Prop :=
  ∀ m a m', x.run s m = (.ok a, m') → s.Spends m m'

/-- Where `x` gives something, its size is charged up to `n` bytes, within the ceiling. -/
def Charges (s : Sandbox) (size : α → Nat) (n : Nat) (x : Eval α) : Prop :=
  ∀ m a m', x.run s m = (.ok a, m') →
    m.used + size a ≤ m'.used + n ∧ m'.used ≤ max m.used s.policy.config.maxMemory

/-- Nothing is charged that is not counted: the ceiling lies below the largest count. -/
def CountsAll (s : Sandbox) : Prop := s.policy.config.maxMemory < Meter.maxMemory

variable {s : Sandbox} {size : α → Nat} {size' : β → Nat} {n k : Nat} {x : Eval α} {f : α → Eval β}

/-! ### What is given -/

theorem gives_bind {b : β} (h : Gives s (x >>= f) b) : ∃ a, Gives s x a ∧ Gives s (f a) b := by
  obtain ⟨m, m', hrun⟩ := h
  obtain ⟨a, m₁, hx, hf⟩ := run_bind_eq_ok hrun
  exact ⟨a, ⟨m, m₁, hx⟩, m₁, m', hf⟩

theorem gives_read {g : Sandbox → Eval α} {a : α} (h : Gives s (read >>= g) a) : Gives s (g s) a :=
  h

theorem gives_locate {span : Span} {a : α} (h : Gives s (x.locate span) a) : Gives s x a := by
  obtain ⟨m, m', hrun⟩ := h
  exact ⟨m, m', run_locate_eq_ok hrun⟩

theorem gives_enter {scope inner : Scope} (h : Gives s scope.enter inner) :
    inner = { scope with frames := scope.frames + 1 } := by
  obtain ⟨m, m', hrun⟩ := h
  rw [run_enter] at hrun
  split_ifs at hrun
  · cases hrun
  · obtain ⟨⟩ := hrun
    rfl

theorem gives_pure {a b : α} (h : Gives s (pure a) b) : b = a := by
  obtain ⟨m, m', ⟨⟩⟩ := h
  rfl

theorem not_gives_fail {e : EvalError} {a : α} : ¬Gives s (fail e) a := by
  rintro ⟨m, m', ⟨⟩⟩

/-- What is found is one of the items. -/
theorem mem_of_gives_findFrom? {accepts : Nat → α → Eval Bool} {i : Nat} {as : List α}
    {found : Nat × α} (h : Gives s (findFrom? accepts i as) (some found)) : found.2 ∈ as := by
  induction as generalizing i with
  | nil => cases gives_pure h
  | cons a as ih =>
    obtain ⟨accepted, -, h⟩ := gives_bind h
    cases accepted with
    | true =>
      obtain rfl := Option.some.inj (gives_pure h)
      exact List.mem_cons_self
    | false => exact List.mem_cons_of_mem a (ih h)

/-- Sorting gives the same items. -/
theorem perm_of_gives_sortBy {greater : α → α → Eval Bool} {as out : List α}
    (h : Gives s (sortBy greater as) out) : out.Perm as := by
  obtain ⟨m, m', hrun⟩ := h
  exact perm_of_run_sortBy hrun

/-- Computations that agree give what is related. -/
theorem Agrees.exists_gives {E : Failure → Failure → Prop} {R : α → β → Prop} {y : Eval β} {a : α}
    (h : Agrees s s E R x y) (ha : Gives s x a) : ∃ b, Gives s y b ∧ R a b := by
  obtain ⟨m, m', hrun⟩ := ha
  obtain ⟨-, hends⟩ := h m
  rw [hrun] at hends
  cases hy : y.run s m with
  | mk r m₁ =>
    rw [hy] at hends
    cases hends with
    | @ok _ b hab => exact ⟨b, ⟨m, m₁, hy⟩, hab⟩

/-! ### Keeping below the ceiling -/

namespace Accounts

theorem pure (a : α) : Accounts s (pure a) := by
  rintro m _ _ ⟨⟩
  exact .refl s m

theorem fail (e : EvalError) : Accounts s (fail e : Eval α) := by
  rintro m a m' ⟨⟩

theorem bind (hx : Accounts s x) (hf : ∀ a, Gives s x a → Accounts s (f a)) :
    Accounts s (x >>= f) := by
  intro m b m' hrun
  obtain ⟨a, m₁, hrunx, hrunf⟩ := run_bind_eq_ok hrun
  exact (hx m a m₁ hrunx).trans (hf a ⟨m, m₁, hrunx⟩ m₁ b m' hrunf)

theorem locate (span : Span) (hx : Accounts s x) : Accounts s (x.locate span) :=
  fun m a m' hrun => hx m a m' (run_locate_eq_ok hrun)

theorem reserve (s : Sandbox) (n : Nat) : Accounts s (reserve n) := by
  intro m a m' hrun
  rw [run_reserve] at hrun
  split_ifs at hrun with hlimit
  · cases hrun
  · obtain ⟨⟩ := hrun
    exact .charge hlimit

theorem checkInterrupts (s : Sandbox) : Accounts s checkInterrupts := by
  intro m a m' hrun
  rw [run_checkInterrupts] at hrun
  split_ifs at hrun <;> obtain ⟨⟩ := hrun
  exact .refl s m

theorem tick (s : Sandbox) : Accounts s tick := by
  intro m a m' hrun
  rw [run_tick, run_checkInterrupts] at hrun
  split_ifs at hrun <;> obtain ⟨⟩ := hrun <;> exact .step s m

theorem enter (s : Sandbox) (scope : Scope) : Accounts s scope.enter := by
  intro m a m' hrun
  rw [run_enter] at hrun
  split_ifs at hrun
  · cases hrun
  · obtain ⟨⟩ := hrun
    exact .refl s m

end Accounts

/-! ### Charging -/

namespace Charges

theorem mono (h : Charges s size n x) (hle : n ≤ k) : Charges s size k x := by
  intro m a m' hrun
  obtain ⟨hgrows, hcapped⟩ := h m a m' hrun
  exact ⟨by omega, hcapped⟩

/-- What is not larger than `n` bytes needs not be charged. -/
theorem of_accounts (h : Accounts s x) (hsize : ∀ a, Gives s x a → size a ≤ n) :
    Charges s size n x := by
  intro m a m' hrun
  have hspends := h m a m' hrun
  exact ⟨Nat.add_le_add hspends.grows (hsize a ⟨m, m', hrun⟩), hspends.capped⟩

theorem pure {a : α} (h : size a ≤ n) : Charges s size n (pure a) := by
  rintro m _ _ ⟨⟩
  exact ⟨Nat.add_le_add_left h _, Nat.le_max_left _ _⟩

theorem fail {e : EvalError} : Charges s size n (fail e) := by
  rintro m a m' ⟨⟩

/-- What is charged for the first result is at the disposal of the second one. -/
theorem bind (hx : Charges s size n x)
    (hf : ∀ a, Gives s x a → Charges s size' (size a + k) (f a)) :
    Charges s size' (n + k) (x >>= f) := by
  intro m b m' hrun
  obtain ⟨a, m₁, hrunx, hrunf⟩ := run_bind_eq_ok hrun
  obtain ⟨hgrows, hcapped⟩ := hx m a m₁ hrunx
  obtain ⟨hgrows', hcapped'⟩ := hf a ⟨m, m₁, hrunx⟩ m₁ b m' hrunf
  exact ⟨by omega, by omega⟩

/-- A first step that builds nothing. -/
theorem bind_free (hx : Charges s (fun _ => 0) 0 x)
    (hf : ∀ a, Gives s x a → Charges s size' n (f a)) : Charges s size' n (x >>= f) := by
  have h := bind hx (k := n) fun a ha => (hf a ha).mono (Nat.le_add_left n 0)
  exact h.mono (Nat.zero_add n).le

/-- The size of a result that is only wrapped. -/
theorem bind_pure {g : α → β} (hx : Charges s size n x)
    (hg : ∀ a, Gives s x a → size' (g a) ≤ size a + k) :
    Charges s size' (n + k) (x >>= fun a => Pure.pure (g a)) :=
  bind hx fun a ha => pure (hg a ha)

theorem of_ok {r : Except EvalError α} (h : ∀ a, r = .ok a → size a ≤ n) :
    Charges s size n (ofExcept r) := by
  cases r with
  | error e => exact fail
  | ok a => exact pure (h a rfl)

theorem ofExcept_bind {r : Except EvalError α} (h : ∀ a, r = .ok a → Charges s size' n (f a)) :
    Charges s size' n (ofExcept r >>= f) := by
  cases r with
  | error e => exact fun m b m' hrun => by cases hrun
  | ok a => exact h a rfl

theorem check {c : Prop} [Decidable c] {e : EvalError} {y : PUnit → Eval α}
    (h : ¬c → Charges s size n (y ⟨⟩)) :
    Charges s size n (if c then Eval.fail e >>= y else y ⟨⟩) := by
  split
  · exact fun m b m' hrun => by cases hrun
  · next hc => exact h hc

theorem read_bind {g : Sandbox → Eval α} (h : Charges s size n (g s)) :
    Charges s size n (read >>= g) :=
  h

theorem locate {span : Span} (h : Charges s size n x) : Charges s size n (x.locate span) :=
  fun m a m' hrun => h m a m' (run_locate_eq_ok hrun)

/-- What has been reserved makes up for what is built of it. -/
theorem reserve_bind (hs : CountsAll s) {b : Nat} {y : Eval α} (h : Charges s size (b + n) y) :
    Charges s size n (reserve b >>= fun _ => y) := by
  intro m a m' hrun
  rw [run_bind, run_reserve] at hrun
  split_ifs at hrun with hlimit
  · cases hrun
  · obtain ⟨hgrows, hcapped⟩ := h _ a m' hrun
    -- the count has not come to its end, since the ceiling is lower
    have hused : (m.charge b).used = m.used + b := by
      simp only [CountsAll] at hs
      simp only [Meter.used, Meter.charge] at hlimit ⊢
      omega
    have hceiling := (Sandbox.Spends.charge (s := s) hlimit).capped
    rw [hused] at hgrows
    exact ⟨by omega, by omega⟩

/-! ### Loops -/

theorem mapFrom {g : Nat → α → Eval β} {as : List α} (bound : α → Nat)
    (h : ∀ i, ∀ a ∈ as, Charges s size' (bound a) (g i a)) (i : Nat) (acc : List β) :
    Charges s (fun bs => (bs.map size').sum) ((acc.map size').sum + (as.map bound).sum)
      (mapFrom g i acc as) := by
  induction as generalizing i acc with
  | nil =>
    refine pure ?_
    rw [List.map_reverse, List.sum_reverse]
    exact Nat.le_add_right _ _
  | cons a as ih =>
    have hrest (b : β) := ih (fun i a ha => h i a (List.mem_cons_of_mem _ ha)) (i + 1) (b :: acc)
    refine ((h i a List.mem_cons_self).bind (k := (acc.map size').sum + (as.map bound).sum)
      fun b _ => (hrest b).mono ?_).mono ?_
    · rw [List.map_cons, List.sum_cons, Nat.add_assoc]
    · rw [List.map_cons, List.sum_cons]
      omega

/-- The results for the items of a list are charged as much as each of them. -/
theorem mapItems {g : Nat → α → Eval β} {as : List α} (bound : α → Nat)
    (h : ∀ i, ∀ a ∈ as, Charges s size' (bound a) (g i a)) :
    Charges s (fun bs => (bs.map size').sum) ((as.map bound).sum) (mapItems g as) :=
  (mapFrom bound h 0 []).mono (by simp)

end Charges

end Eval

/-! ### All evaluations -/

/-- The runs in one sandbox agree, and keep below the ceiling. -/
def Sandbox.accounting (s : Sandbox) : Comparison where
  __ := s.sameRuns s.context s.context
  rel R x y := Agrees s s (Failure.Among fun _ => True) R x y ∧ Accounts s x
  rel_pure h := ⟨.pure h, .pure _⟩
  rel_error h := ⟨.fail h, .fail _⟩
  rel_bind hx hf := by
    refine ⟨hx.1.bind fun a b hab => (hf a b hab).1, hx.2.bind fun a ha => ?_⟩
    obtain ⟨b, -, hab⟩ := hx.1.exists_gives ha
    exact (hf a b hab).2
  rel_read h := h
  rel_reserve n := ⟨(s.sameRuns _ _).rel_reserve n, .reserve s n⟩
  rel_tick := ⟨(s.sameRuns _ _).rel_tick, .tick s⟩
  rel_interrupts := ⟨(s.sameRuns _ _).rel_interrupts, .checkInterrupts s⟩
  rel_locate := by
    rintro _ _ _ _ _ span _ ⟨rfl, hspan⟩ h
    exact ⟨(s.sameRuns _ _).rel_locate ⟨rfl, hspan⟩ h.1, .locate span h.2⟩
  rel_enter h hdepth := ⟨(s.sameRuns _ _).rel_enter h hdepth, .enter s _⟩

end TemplateExpr
