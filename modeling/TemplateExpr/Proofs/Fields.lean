import Mathlib.Data.List.Forall2
import TemplateExpr.Fields

/-!
# Related fields

Two lists of fields are related by `R` if they have the same keys in the same order and their values
are related by `R`. Every operation on fields keeps them related.
-/

namespace TemplateExpr.Fields

variable {α β γ δ : Type}

/-- Fields are determined by their keys and values. -/
theorem eq_of_keys_values {fs gs : Fields α} (hkeys : fs.keys = gs.keys)
    (hvalues : fs.values = gs.values) : fs = gs := by
  induction fs generalizing gs with
  | nil =>
    cases gs with
    | nil => rfl
    | cons g gs => cases hkeys
  | cons f fs ih =>
    cases gs with
    | nil => cases hkeys
    | cons g gs =>
      obtain ⟨hkey, hkeys⟩ := List.cons.inj hkeys
      obtain ⟨hvalue, hvalues⟩ := List.cons.inj hvalues
      rw [Prod.ext hkey hvalue, ih hkeys hvalues]

/-- Fields with the same keys in the same order whose values are related. -/
inductive Related (R : α → β → Prop) : Fields α → Fields β → Prop
  | nil : Related R [] []
  | cons {a : α} {b : β} {fs : Fields α} {gs : Fields β} (key : String) :
    R a b → Related R fs gs → Related R ((key, a) :: fs) ((key, b) :: gs)

namespace Related

variable {R : α → β → Prop} {fs more : Fields α} {gs more' : Fields β} {a : α} {b : β}

theorem keys_eq (h : Related R fs gs) : fs.keys = gs.keys := by
  induction h with
  | nil => rfl
  | cons key _ _ ih => exact congrArg (key :: ·) ih

theorem values (h : Related R fs gs) : List.Forall₂ R fs.values gs.values := by
  induction h with
  | nil => exact .nil
  | cons _ hab _ ih => exact .cons hab ih

theorem length_eq (h : Related R fs gs) : fs.length = gs.length := by
  induction h with
  | nil => rfl
  | cons _ _ _ ih => exact congrArg (· + 1) ih

/-- Related fields are lists of related pairs. -/
theorem pairs (h : Related R fs gs) :
    List.Forall₂ (fun f g => f.1 = g.1 ∧ R f.2 g.2) fs gs := by
  induction h with
  | nil => exact .nil
  | cons _ hab _ ih => exact .cons ⟨rfl, hab⟩ ih

theorem of_pairs (h : List.Forall₂ (fun f g => f.1 = g.1 ∧ R f.2 g.2) fs gs) :
    Related R fs gs := by
  induction h with
  | nil => exact .nil
  | @cons f g _ _ hfg _ ih =>
    obtain ⟨key, a⟩ := f
    obtain ⟨_, b⟩ := g
    obtain ⟨rfl, hab⟩ := hfg
    exact .cons key hab ih

theorem of_keys (hkeys : fs.keys = gs.keys) (h : List.Forall₂ (fun f g => R f.2 g.2) fs gs) :
    Related R fs gs := by
  induction h with
  | nil => exact .nil
  | @cons f g _ _ hfg _ ih =>
    obtain ⟨key, a⟩ := f
    obtain ⟨key', b⟩ := g
    obtain ⟨rfl, hrest⟩ := List.cons.inj hkeys
    exact .cons _ hfg (ih hrest)

theorem imp {S : α → β → Prop} (hRS : ∀ a b, R a b → S a b) (h : Related R fs gs) :
    Related S fs gs := by
  induction h with
  | nil => exact .nil
  | cons key hab _ ih => exact .cons key (hRS _ _ hab) ih

/-- Fields are related to themselves if their values are. -/
theorem refl {R : α → α → Prop} {fs : Fields α} (h : ∀ f ∈ fs, R f.2 f.2) : Related R fs fs := by
  induction fs with
  | nil => exact .nil
  | cons f fs ih =>
    exact .cons f.1 (h f List.mem_cons_self) (ih fun g hg => h g (List.mem_cons_of_mem _ hg))

/-! ### Reading -/

theorem get? (h : Related R fs gs) (key : String) :
    Option.Rel R (fs.get? key) (gs.get? key) := by
  induction h with
  | nil => exact .none
  | cons name hab _ ih =>
    rw [Fields.get?, Fields.get?, List.lookup_cons, List.lookup_cons]
    cases key == name with
    | true => exact .some hab
    | false => exact ih

theorem has_eq (h : Related R fs gs) (key : String) : fs.has key = gs.has key := by
  induction h with
  | nil => rfl
  | cons name _ _ ih => exact congrArg (name == key || ·) ih

/-! ### Writing -/

theorem map {S : γ → δ → Prop} {f : α → γ} {g : β → δ} (hfg : ∀ a b, R a b → S (f a) (g b))
    (h : Related R fs gs) :
    Related S (fs.map fun x => (x.1, f x.2)) (gs.map fun x => (x.1, g x.2)) := by
  induction h with
  | nil => exact .nil
  | cons key hab _ ih => exact .cons key (hfg _ _ hab) ih

theorem append (h : Related R fs gs) (hmore : Related R more more') :
    Related R (fs ++ more) (gs ++ more') := by
  induction h with
  | nil => exact hmore
  | cons key hab _ ih => exact .cons key hab ih

theorem reverse (h : Related R fs gs) : Related R fs.reverse gs.reverse :=
  .of_pairs (List.rel_reverse h.pairs)

/-- Fields that are chosen by their keys and by something that related values share. -/
theorem filter {p : String × α → Bool} {q : String × β → Bool}
    (hpq : ∀ key a b, R a b → p (key, a) = q (key, b)) (h : Related R fs gs) :
    Related R (fs.filter p) (gs.filter q) := by
  induction h with
  | nil => exact .nil
  | @cons a b _ _ key hab _ ih =>
    rw [List.filter_cons, List.filter_cons, hpq key a b hab]
    split
    · exact .cons key hab ih
    · exact ih

theorem erase (h : Related R fs gs) (key : String) : Related R (fs.erase key) (gs.erase key) :=
  h.filter fun _ _ _ _ => rfl

theorem replace (h : Related R fs gs) (key : String) (hab : R a b) :
    Related R (fs.replace key a) (gs.replace key b) := by
  induction h with
  | nil => exact .nil
  | cons name hcd _ ih =>
    rw [Fields.replace, Fields.replace, List.map_cons, List.map_cons]
    dsimp only
    split
    · exact .cons key hab ih
    · exact .cons name hcd ih

theorem insert (h : Related R fs gs) (key : String) (hab : R a b) :
    Related R (fs.insert key a) (gs.insert key b) := by
  rw [Fields.insert, Fields.insert, h.has_eq key]
  split
  · exact h.replace key hab
  · exact h.append (.cons key hab .nil)

theorem insertNew (h : Related R fs gs) (key : String) (hab : R a b) :
    Related R (fs.insertNew key a) (gs.insertNew key b) := by
  rw [Fields.insertNew, Fields.insertNew, h.has_eq key]
  split
  · exact h
  · exact h.append (.cons key hab .nil)

/-- Writing fields one after the other, in whichever way a single one is written. -/
theorem foldl {write : Fields α → String × α → Fields α} {write' : Fields β → String × β → Fields β}
    (hwrite : ∀ fs gs key a b, Related R fs gs → R a b →
      Related R (write fs (key, a)) (write' gs (key, b)))
    (h : Related R fs gs) (hmore : Related R more more') :
    Related R (more.foldl write fs) (more'.foldl write' gs) := by
  induction hmore generalizing fs gs with
  | nil => exact h
  | cons key hab _ ih => exact ih (hwrite fs gs key _ _ h hab)

theorem extend (h : Related R fs gs) (hmore : Related R more more') :
    Related R (fs.extend more) (gs.extend more') :=
  foldl (fun _ _ key _ _ hfs hab => hfs.insert key hab) h hmore

theorem mergeNew (h : Related R fs gs) (hmore : Related R more more') :
    Related R (more.foldl (fun out f => Fields.insertNew out f.1 f.2) fs)
      (more'.foldl (fun out f => Fields.insertNew out f.1 f.2) gs) :=
  foldl (fun _ _ key _ _ hfs hab => hfs.insertNew key hab) h hmore

theorem ofPairs (h : Related R fs gs) : Related R (Fields.ofPairs fs) (Fields.ofPairs gs) :=
  extend .nil h

end Related

end TemplateExpr.Fields
