/-!
# Calculations that may fail
-/

namespace TemplateExpr

variable {ε α β : Type}

/-- If two steps give a result, both of them do. -/
theorem exists_of_bind_eq_ok {x : Except ε α} {f : α → Except ε β} {b : β}
    (h : x >>= f = .ok b) : ∃ a, x = .ok a ∧ f a = .ok b := by
  cases x with
  | ok a => exact ⟨a, rfl, h⟩
  | error e => cases h

/-- A result that is only changed is a result. -/
theorem exists_of_map_eq_ok {f : α → β} {x : Except ε α} {b : β}
    (h : x.map f = .ok b) : ∃ a, x = .ok a ∧ f a = b := by
  cases x with
  | error e => cases h
  | ok a => exact ⟨a, rfl, Except.ok.inj h⟩

/-- If all items of a list give results, each result is that of an item. -/
theorem exists_of_mem_mapM {f : α → Option β} {as : List α} {bs : List β}
    (h : as.mapM f = some bs) {b : β} (hb : b ∈ bs) : ∃ a ∈ as, f a = some b := by
  induction as generalizing bs with
  | nil =>
    rw [List.mapM_nil] at h
    obtain rfl := Option.some.inj h
    exact absurd hb List.not_mem_nil
  | cons a as ih =>
    rw [List.mapM_cons] at h
    obtain ⟨b', hb', h⟩ := Option.bind_eq_some_iff.1 h
    obtain ⟨bs', hbs', h⟩ := Option.bind_eq_some_iff.1 h
    obtain rfl := Option.some.inj h
    rcases List.mem_cons.1 hb with rfl | hb
    · exact ⟨a, List.mem_cons_self, hb'⟩
    · obtain ⟨a', ha', hf⟩ := ih hbs' hb
      exact ⟨a', List.mem_cons_of_mem _ ha', hf⟩

/-- The value of a key stands in the list. -/
theorem exists_of_lookup {fields : List (String × α)} {key : String} {a : α}
    (h : fields.lookup key = some a) : ∃ f ∈ fields, f.2 = a := by
  induction fields with
  | nil => simp at h
  | cons f fields ih =>
    obtain ⟨name, value⟩ := f
    rw [List.lookup_cons] at h
    split at h
    · exact ⟨(name, value), List.mem_cons_self, Option.some.inj h⟩
    · obtain ⟨f, hf, rfl⟩ := ih h
      exact ⟨f, List.mem_cons_of_mem _ hf, rfl⟩

/-! ### How calculations end -/

/-- If a calculation fails, its error satisfies `E`, and otherwise its result satisfies `R`. -/
def EndsIn (E : ε → Prop) (R : α → Prop) : Except ε α → Prop
  | .ok a => R a
  | .error e => E e

namespace EndsIn

variable {E E' : ε → Prop} {R R' : α → Prop} {S : β → Prop} {x : Except ε α}

theorem mono (hx : EndsIn E R x) (hE : ∀ e, E e → E' e) (hR : ∀ a, R a → R' a) :
    EndsIn E' R' x := by
  cases x with
  | ok a => exact hR a hx
  | error e => exact hE e hx

theorem bind {f : α → Except ε β} (hx : EndsIn E R x) (hf : ∀ a, R a → EndsIn E S (f a)) :
    EndsIn E S (x >>= f) := by
  cases x with
  | ok a => exact hf a hx
  | error e => exact hx

theorem map {f : α → β} (hx : EndsIn E R x) (hf : ∀ a, R a → S (f a)) :
    EndsIn E S (x.map f) := by
  cases x with
  | ok a => exact hf a hx
  | error e => exact hx

end EndsIn

/-! ### Calculations that end together -/

/-- Both calculations fail with errors related by `E`, or both give results related by `R`. -/
inductive EndTogether {ε ε' : Type} (E : ε → ε' → Prop) (R : α → β → Prop) :
    Except ε α → Except ε' β → Prop
  | ok {a : α} {b : β} : R a b → EndTogether E R (.ok a) (.ok b)
  | error {e : ε} {e' : ε'} : E e e' → EndTogether E R (.error e) (.error e')

namespace EndTogether

variable {ε' γ δ : Type} {E : ε → ε' → Prop} {R : α → β → Prop} {S : γ → δ → Prop}
  {x : Except ε α} {y : Except ε' β}

theorem bind {f : α → Except ε γ} {g : β → Except ε' δ} (hx : EndTogether E R x y)
    (hf : ∀ a b, R a b → EndTogether E S (f a) (g b)) :
    EndTogether E S (x >>= f) (y >>= g) := by
  cases hx with
  | ok h => exact hf _ _ h
  | error h => exact .error h

theorem map {f : α → γ} {g : β → δ} (hx : EndTogether E R x y)
    (hf : ∀ a b, R a b → S (f a) (g b)) : EndTogether E S (x.map f) (y.map g) := by
  cases hx with
  | ok h => exact .ok (hf _ _ h)
  | error h => exact .error h

/-- A calculation ends together with itself. -/
theorem refl {E : ε → ε → Prop} {R : α → α → Prop} {x : Except ε α}
    (hok : ∀ a, x = .ok a → R a a) (herror : ∀ e, x = .error e → E e e) : EndTogether E R x x := by
  cases x with
  | ok a => exact .ok (hok a rfl)
  | error e => exact .error (herror e rfl)

end EndTogether

/-! ### Calculations that fail together -/

/-- Both calculations fail, or both give results, and these are related by `R`. -/
def FailTogether {ε ε' : Type} (R : α → β → Prop) : Except ε α → Except ε' β → Prop
  | .ok a, .ok b => R a b
  | .error _, .error _ => True
  | _, _ => False

namespace FailTogether

variable {ε' γ δ : Type} {R : α → β → Prop} {S : γ → δ → Prop}
  {x : Except ε α} {y : Except ε' β}

theorem cases (h : FailTogether R x y) :
    (∃ e e', x = .error e ∧ y = .error e') ∨ ∃ a b, x = .ok a ∧ y = .ok b ∧ R a b := by
  cases x with
  | error e =>
    cases y with
    | error e' => exact Or.inl ⟨e, e', rfl, rfl⟩
    | ok b => exact absurd h id
  | ok a =>
    cases y with
    | error e' => exact absurd h id
    | ok b => exact Or.inr ⟨a, b, rfl, rfl, h⟩

theorem bind {f : α → Except ε γ} {g : β → Except ε' δ} (hx : FailTogether R x y)
    (hf : ∀ a b, R a b → FailTogether S (f a) (g b)) : FailTogether S (x >>= f) (y >>= g) := by
  rcases hx.cases with ⟨e, e', rfl, rfl⟩ | ⟨a, b, rfl, rfl, hR⟩
  · trivial
  · exact hf a b hR

theorem map {f : α → γ} {g : β → δ} (hx : FailTogether R x y) (hf : ∀ a b, R a b → S (f a) (g b)) :
    FailTogether S (x.map f) (y.map g) := by
  rcases hx.cases with ⟨e, e', rfl, rfl⟩ | ⟨a, b, rfl, rfl, hR⟩
  · trivial
  · exact hf a b hR

theorem of_eq {x y : Except ε α} (h : x = y) : FailTogether Eq x y := by
  subst h
  cases x with
  | error e => trivial
  | ok a => rfl

/-- It suffices to look at the results: those of either side have a counterpart on the other. -/
theorem of_ok (hx : ∀ a, x = .ok a → ∃ b, y = .ok b ∧ R a b)
    (hy : ∀ b, y = .ok b → ∃ a, x = .ok a) : FailTogether R x y := by
  cases x with
  | ok a =>
    obtain ⟨b, rfl, hR⟩ := hx a rfl
    exact hR
  | error e =>
    cases y with
    | error e' => trivial
    | ok b =>
      obtain ⟨a, ha⟩ := hy b rfl
      cases ha

end FailTogether

end TemplateExpr
