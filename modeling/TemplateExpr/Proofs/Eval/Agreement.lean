import TemplateExpr.Proofs.Context.Data
import TemplateExpr.Proofs.Eval.Run

/-!
# The same evaluation of two contexts

`Sandbox.agreement` compares the runs of a computation for two contexts under the same policy, the
same clock and the same limits: both give results that go together and leave the same meter, or both
fail in ways that go together. In `Sandbox.sameRuns` they fail in the same way.
-/

namespace TemplateExpr

open TemplateExpr.Eval

/-- The same failure, one of those that satisfy `F`. -/
abbrev Failure.Among (F : Failure → Prop) (f f' : Failure) : Prop := f = f' ∧ F f

namespace Eval

variable {α β : Type}

/-- The runs from one meter leave the same meter, and fail in ways related by `E` or give results
related by `R`. -/
def Agrees (s s' : Sandbox) (E : Failure → Failure → Prop) (R : α → β → Prop) (x : Eval α)
    (y : Eval β) : Prop :=
  ∀ m, (x.run s m).2 = (y.run s' m).2 ∧ EndTogether E R (x.run s m).1 (y.run s' m).1

namespace Agrees

variable {γ δ : Type} {s s' : Sandbox} {E : Failure → Failure → Prop} {R : α → β → Prop}
  {S : γ → δ → Prop}

theorem pure {a : α} {b : β} (h : R a b) : Agrees s s' E R (pure a) (pure b) :=
  fun _ => ⟨rfl, .ok h⟩

theorem fail {e e' : EvalError} (h : E ⟨e, none⟩ ⟨e', none⟩) :
    Agrees s s' E R (fail e) (fail e') :=
  fun _ => ⟨rfl, .error h⟩

theorem bind {x : Eval α} {y : Eval β} {f : α → Eval γ} {g : β → Eval δ}
    (hx : Agrees s s' E R x y) (hf : ∀ a b, R a b → Agrees s s' E S (f a) (g b)) :
    Agrees s s' E S (x >>= f) (y >>= g) := by
  intro m
  obtain ⟨hm, hends⟩ := hx m
  rw [run_bind, run_bind]
  generalize x.run s m = r, y.run s' m = r' at hm hends
  obtain ⟨r, m'⟩ := r
  obtain ⟨r', _⟩ := r'
  dsimp only at hm
  subst hm
  cases hends with
  | ok h => exact hf _ _ h m'
  | error h => exact ⟨rfl, .error h⟩

theorem locate {x : Eval α} {y : Eval β} {span : Span}
    (hE : ∀ f f', E f f' → E (f.within span) (f'.within span)) (hx : Agrees s s' E R x y) :
    Agrees s s' E R (x.locate span) (y.locate span) := by
  intro m
  obtain ⟨hm, hends⟩ := hx m
  rw [run_locate, run_locate]
  generalize x.run s m = r, y.run s' m = r' at hm hends
  obtain ⟨r, m'⟩ := r
  obtain ⟨r', _⟩ := r'
  dsimp only at hm
  subst hm
  cases hends with
  | ok h => exact ⟨rfl, .ok h⟩
  | error h => exact ⟨rfl, .error (hE _ _ h)⟩

/-- A failure of either run is one of those that are possible. -/
theorem failure {F : Failure → Prop} {x : Eval α} {y : Eval β}
    (h : Agrees s s' (Failure.Among F) R x y) {m n : Meter} {f : Failure}
    (hrun : x.run s m = (.error f, n)) : F f := by
  have hends := (h m).2
  rw [hrun] at hends
  generalize (y.run s' m).1 = r at hends
  cases hends with
  | error hf => exact hf.2

/-- Runs whose results agree only if they are equal are equal. -/
theorem run_eq {F : Failure → Prop} {R : α → α → Prop} {x y : Eval α}
    (h : Agrees s s' (Failure.Among F) R x y) (hR : ∀ a b, R a b → a = b) (m : Meter) :
    x.run s m = y.run s' m := by
  obtain ⟨hm, hends⟩ := h m
  generalize x.run s m = r, y.run s' m = r' at hm hends
  obtain ⟨r, m'⟩ := r
  obtain ⟨r', _⟩ := r'
  dsimp only at hm
  subst hm
  cases hends with
  | ok hab => rw [hR _ _ hab]
  | error hf => rw [hf.1]

theorem check {c : Prop} [Decidable c] {e : EvalError} {x : PUnit → Eval α} {y : PUnit → Eval β}
    (he : E ⟨e, none⟩ ⟨e, none⟩) (h : ¬c → Agrees s s' E R (x ⟨⟩) (y ⟨⟩)) :
    Agrees s s' E R (if c then Eval.fail e >>= x else x ⟨⟩)
      (if c then Eval.fail e >>= y else y ⟨⟩) := by
  split
  · exact bind (R := fun _ _ => False) (fail he) fun _ _ hf => hf.elim
  · next hc => exact h hc

theorem read {f : Sandbox → Eval α} {g : Sandbox → Eval β} (h : Agrees s s' E R (f s) (g s')) :
    Agrees s s' E R (read >>= f) (read >>= g) :=
  h

theorem get {f : Meter → Eval α} {g : Meter → Eval β} (h : ∀ m, Agrees s s' E R (f m) (g m)) :
    Agrees s s' E R (get >>= f) (get >>= g) :=
  fun m => h m m

theorem modify (change : Meter → Meter) {x : Unit → Eval α} {y : Unit → Eval β}
    (h : Agrees s s' E R (x ()) (y ())) :
    Agrees s s' E R (modify change >>= x) (modify change >>= y) :=
  fun m => h (change m)

/-! ### Limits -/

variable {c c' : Context}
  (hE : ∀ e : EvalError, e.isRaised = true → E ⟨e, none⟩ ⟨e, none⟩)

include hE

theorem reserve (s : Sandbox) (n : Nat) :
    Agrees { s with context := c } { s with context := c' } E (fun _ _ => True) (reserve n)
      (reserve n) := by
  refine modify _ (read (get fun meter => ?_))
  dsimp only
  split
  · exact fail (hE _ rfl)
  · exact pure trivial

/-- Interrupts do not depend on the context. -/
theorem checkInterrupts (s : Sandbox) :
    Agrees { s with context := c } { s with context := c' } E (fun _ _ => True) checkInterrupts
      checkInterrupts := by
  refine read (check (hE _ rfl) fun _ => get fun meter => ?_)
  dsimp only
  split
  · exact fail (hE _ rfl)
  · exact pure trivial

theorem tick (s : Sandbox) :
    Agrees { s with context := c } { s with context := c' } E (fun _ _ => True) tick tick := by
  refine modify _ (get fun meter => ?_)
  split
  · exact checkInterrupts hE s
  · exact pure trivial

omit hE in
theorem enter (s : Sandbox) {scope scope' : Scope} (hframes : scope.frames = scope'.frames)
    (hdepth : ∀ n, E ⟨.resourceLimit .callStack n, none⟩ ⟨.resourceLimit .callStack n, none⟩) :
    Agrees { s with context := c } { s with context := c' } E
      (fun inner inner' => inner = { scope with frames := scope.frames + 1 } ∧
        inner' = { scope' with frames := scope'.frames + 1 }) scope.enter scope'.enter := by
  unfold Scope.enter
  rw [hframes]
  refine read ?_
  dsimp only
  exact check (hdepth _) fun _ => pure ⟨rfl, rfl⟩

end Agrees

end Eval

/-- Runs for two contexts that agree, of expressions whose nodes stand at places that satisfy
`place`; their failures are related by `E`. -/
def Sandbox.agreement (s : Sandbox) (c c' : Context) (place : Span → Prop)
    (E : Failure → Failure → Prop)
    (hE : ∀ e : EvalError, e.isRaised = true → E ⟨e, none⟩ ⟨e, none⟩)
    (hplace : ∀ f f' span, place span → E f f' → E (f.within span) (f'.within span)) :
    Comparison where
  left := { s with context := c }
  right := { s with context := c' }
  fails e e' := E ⟨e, none⟩ ⟨e', none⟩
  places span span' := span = span' ∧ place span
  rel := Agrees { s with context := c } { s with context := c' } E
  places_iff := by rintro s _ t _ ⟨rfl, -⟩ ⟨rfl, -⟩; exact Iff.rfl
  fails_raised h := hE _ h
  rel_pure := Agrees.pure
  rel_error := Agrees.fail
  rel_bind := Agrees.bind
  rel_read := Agrees.read
  rel_reserve := Agrees.reserve hE s
  rel_tick := Agrees.tick hE s
  rel_interrupts := Agrees.checkInterrupts hE s
  rel_locate := by
    rintro _ _ _ _ _ span _ ⟨rfl, hspan⟩ h
    exact Agrees.locate (fun f f' => hplace f f' span hspan) h
  rel_enter hframes hdepth := Agrees.enter s hframes hdepth
  allowsMethod := rfl
  strictGrammar := rfl

/-- Runs for two contexts that agree, of expressions whose nodes stand at places that satisfy
`place`; they fail in the same way, which satisfies `F`. -/
abbrev Sandbox.agreementAmong (s : Sandbox) (c c' : Context) (place : Span → Prop)
    (F : Failure → Prop) (hF : ∀ e : EvalError, e.isRaised = true → F ⟨e, none⟩)
    (hplace : ∀ f span, place span → F f → F (f.within span)) : Comparison :=
  s.agreement c c' place (Failure.Among F) (fun e he => ⟨rfl, hF e he⟩)
    fun f _ span hspan h => ⟨congrArg (Failure.within · span) h.1, hplace f span hspan h.2⟩

/-- Runs for two contexts that agree, wherever their nodes stand and however they fail. -/
abbrev Sandbox.sameRuns (s : Sandbox) (c c' : Context) : Comparison :=
  s.agreementAmong c c' (fun _ => True) (fun _ => True) (fun _ _ => trivial) fun _ _ _ _ => trivial

/-! ### Names -/

namespace Sandbox

variable {s : Sandbox} {name : String}

/-- A name has the same value in two contexts that share the part that it stands for. -/
theorem global?_eq {c c' : Context} (hjson : name = itemName → c.json = c'.json)
    (hnodes : name = "$node" → c.nodes = c'.nodes)
    (henv : name = environmentName → c.env.toValue = c'.env.toValue)
    (hnow : name ∈ Dependency.clockRoots → c.now = c'.now)
    (hrun : name = "$runIndex" → Value.ofNat c.runIndex = Value.ofNat c'.runIndex)
    (hindex : name = "$itemIndex" → Value.ofNat c.itemIndex = Value.ofNat c'.itemIndex) :
    ({ s with context := c } : Sandbox).global? name =
      ({ s with context := c' } : Sandbox).global? name := by
  unfold global?
  -- one condition at a time: splitting them all at once also splits what is the same on both sides
  refine ite_congr rfl (fun h => by rw [hjson (eq_of_beq h)]) fun _ => ?_
  refine ite_congr rfl (fun h => ?_) fun _ => ?_
  · rw [Context.nodeMap, Context.nodeMap, hnodes (eq_of_beq h)]
  refine ite_congr rfl (fun h => by rw [henv (eq_of_beq h)]) fun _ => ?_
  refine ite_congr rfl (fun h => by rw [hnow (eq_of_beq h ▸ by decide)]) fun _ => ?_
  refine ite_congr rfl (fun h => ?_) fun _ => ?_
  · rw [Context.today, Context.today, hnow (eq_of_beq h ▸ by decide)]
  refine ite_congr rfl (fun h => by rw [hrun (eq_of_beq h)]) fun _ => ?_
  exact ite_congr rfl (fun h => by rw [hindex (eq_of_beq h)]) fun _ => rfl

end Sandbox

/-! ### Values of expressions -/

/-- Values that two contexts have in common are the same. -/
theorem Value.Paired.eq_of_sameRuns {s : Sandbox} {c c' : Context} {host : Host → Prop}
    {ok : Finding → Prop} {v w : Value}
    (h : Value.Paired (.ofFindings (s.sameRuns c c') host ok) v w) : v = w := by
  refine h.eq fun f f' hf => ?_
  obtain ⟨⟨hparams, hnames, hbody⟩, -⟩ := hf
  exact Code.ext hparams (hbody.eq_of_places fun _ _ hs => hs.1) hnames

/-- Expressions that find the same in two contexts have the same value in them. -/
theorem Expr.run_value_eq {s : Sandbox} {c c' : Context} {host : Host → Prop}
    {ok : Finding → Prop} (hs : (s.sameRuns c c').Shares host ok) {e : Expr}
    (hok : ∀ f ∈ e.findings [] false, ok f) (m : Meter) :
    e.value.run { s with context := c } m = e.value.run { s with context := c' } m := by
  have h : Agrees { s with context := c } { s with context := c' } (Failure.Among fun _ => True)
      (Value.Paired (.ofFindings (s.sameRuns c c') host ok)) e.value e.value :=
    rel_value hs (placed_true e) hok
  exact h.run_eq (fun _ _ hv => hv.eq_of_sameRuns) m

end TemplateExpr
