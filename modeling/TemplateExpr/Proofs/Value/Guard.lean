import TemplateExpr.Proofs.Value.Pairing

/-!
# Guarded values

A `Value.Guard` says which host values and which arrow functions may stand anywhere within a value.
Data has neither: nothing can tell it from itself.
-/

namespace TemplateExpr.Value

/-- Which host values and which arrow functions may stand in a value. A function is given by its
parameters, its body and the names that were bound where it was written. -/
structure Guard where
  host : Host → Prop
  function : List String → Expr → List String → Prop

namespace Guard

variable (g : Guard)

mutual

/-- All hosts and functions in a value may stand there, those that functions have captured too. -/
def Admits : Value → Prop
  | .array items => AdmitsItems items
  | .object fields => AdmitsFields fields
  | .function params body captured =>
    g.function params body (captured.map Prod.fst) ∧ AdmitsFields captured
  | .host h => g.host h
  | _ => True

/-- `Admits` of every item. -/
def AdmitsItems : List Value → Prop
  | [] => True
  | item :: items => Admits item ∧ AdmitsItems items

/-- `Admits` of the value of every field. -/
def AdmitsFields : List (String × Value) → Prop
  | [] => True
  | (_, value) :: fields => Admits value ∧ AdmitsFields fields

end

theorem admitsItems_iff {items : List Value} : g.AdmitsItems items ↔ ∀ v ∈ items, g.Admits v := by
  induction items with
  | nil => simp [AdmitsItems]
  | cons item items ih => simp [AdmitsItems, ih]

theorem admitsFields_iff {fields : List (String × Value)} :
    g.AdmitsFields fields ↔ ∀ f ∈ fields, g.Admits f.2 := by
  induction fields with
  | nil => simp [AdmitsFields]
  | cons f fields ih =>
    obtain ⟨key, value⟩ := f
    simp [AdmitsFields, ih]

/-! ### Values of each kind -/

@[simp] theorem admits_undefined : g.Admits .undefined := trivial

@[simp] theorem admits_null : g.Admits .null := trivial

@[simp] theorem admits_bool (b : Bool) : g.Admits (.bool b) := trivial

@[simp] theorem admits_number (x : Float) : g.Admits (.number x) := trivial

@[simp] theorem admits_string (s : String) : g.Admits (.string s) := trivial

@[simp] theorem admits_date (t : DateTime) : g.Admits (.date t) := trivial

@[simp] theorem admits_host (h : Host) : g.Admits (.host h) ↔ g.host h := Iff.rfl

@[simp] theorem admits_array (items : List Value) :
    g.Admits (.array items) ↔ ∀ v ∈ items, g.Admits v :=
  g.admitsItems_iff

@[simp] theorem admits_object (fields : List (String × Value)) :
    g.Admits (.object fields) ↔ ∀ f ∈ fields, g.Admits f.2 :=
  g.admitsFields_iff

@[simp] theorem admits_function (params : List String) (body : Expr)
    (captured : List (String × Value)) :
    g.Admits (.function params body captured) ↔
      g.function params body (captured.map Prod.fst) ∧ ∀ f ∈ captured, g.Admits f.2 :=
  and_congr_right' g.admitsFields_iff

@[simp] theorem admits_ofNat (n : Nat) : g.Admits (.ofNat n) := g.admits_number _

@[simp] theorem admits_ofChar (c : Char) : g.Admits (.ofChar c) := g.admits_string _

@[simp] theorem admits_ofChars (cs : List Char) : g.Admits (.ofChars cs) := g.admits_string _

@[simp] theorem admits_ofLiteral (l : Literal) : g.Admits (.ofLiteral l) := by
  cases l <;> simp [Value.ofLiteral]

/-! ### Values that are paired with themselves -/

/-- The hosts and functions that may stand in a value go with themselves. -/
structure Pairs (g : Guard) (p : Pairing) : Prop where
  host : ∀ h, g.host h → p.host h
  function : ∀ params body names, g.function params body names →
    p.code ⟨params, body, names⟩ ⟨params, body, names⟩

variable {p : Pairing}

mutual

/-- A value is paired with itself if the hosts and functions that may stand in it are. -/
theorem paired_of_admits {g : Guard} (hg : g.Pairs p) : ∀ {v : Value}, g.Admits v → Paired p v v
  | .undefined, _ => .undefined
  | .null, _ => .null
  | .bool b, _ => .bool b
  | .number x, _ => .number x
  | .string s, _ => .string s
  | .date t, _ => .date t
  | .array items, h => by
    rw [Admits] at h
    exact .array (paired_items_of_admits hg h)
  | .object fields, h => by
    rw [Admits] at h
    exact .object (paired_fields_of_admits hg h)
  | .host h, hh => .host (hg.host h ((g.admits_host h).1 hh))
  | .function params body captured, h => by
    rw [Admits] at h
    have hcaptured := paired_fields_of_admits hg h.2
    exact .function (hg.function params body _ h.1) (hcaptured.pairs.imp fun _ _ hv => hv.2)

theorem paired_items_of_admits {g : Guard} (hg : g.Pairs p) : ∀ {items : List Value},
    g.AdmitsItems items → List.Forall₂ (Paired p) items items
  | [], _ => .nil
  | _ :: _, h => by
    rw [AdmitsItems] at h
    exact .cons (paired_of_admits hg h.1) (paired_items_of_admits hg h.2)

theorem paired_fields_of_admits {g : Guard} (hg : g.Pairs p) : ∀ {fields : Fields Value},
    g.AdmitsFields fields → Fields.Related (Paired p) fields fields
  | [], _ => .nil
  | (key, _) :: _, h => by
    rw [AdmitsFields] at h
    exact .cons key (paired_of_admits hg h.1) (paired_fields_of_admits hg h.2)

end

/-! ### Data -/

/-- Data: no hosts and no functions. -/
def data : Guard := ⟨fun _ => False, fun _ _ _ => False⟩

theorem data_pairs (p : Pairing) : data.Pairs p :=
  ⟨fun _ h => h.elim, fun _ _ _ h => h.elim⟩

/-- Data is paired with itself. -/
theorem paired_of_data {v : Value} (h : data.Admits v) : Paired p v v :=
  paired_of_admits (data_pairs p) h

/-! ### Values with any functions -/

/-- Values whose hosts satisfy `host`, with any functions. -/
def ofHost (host : Host → Prop) : Guard := ⟨host, fun _ _ _ => True⟩

mutual

/-- All values are admitted if all hosts are. -/
theorem admits_ofHost {host : Host → Prop} (h : ∀ x, host x) : ∀ v : Value, (ofHost host).Admits v
  | .undefined | .null | .bool _ | .number _ | .string _ | .date _ => trivial
  | .host x => h x
  | .array items => by
    rw [Admits]
    exact admitsItems_ofHost h items
  | .object fields => by
    rw [Admits]
    exact admitsFields_ofHost h fields
  | .function _ _ captured => by
    rw [Admits]
    exact ⟨trivial, admitsFields_ofHost h captured⟩

theorem admitsItems_ofHost {host : Host → Prop} (h : ∀ x, host x) :
    ∀ items : List Value, (ofHost host).AdmitsItems items
  | [] => trivial
  | item :: items => ⟨admits_ofHost h item, admitsItems_ofHost h items⟩

theorem admitsFields_ofHost {host : Host → Prop} (h : ∀ x, host x) :
    ∀ fields : Fields Value, (ofHost host).AdmitsFields fields
  | [] => trivial
  | (_, value) :: fields => ⟨admits_ofHost h value, admitsFields_ofHost h fields⟩

end

/-! ### Values without functions -/

/-- Values without arrow functions. -/
def functionless : Guard := ⟨fun _ => True, fun _ _ _ => False⟩

section

variable {k : Expr → Expr}

mutual

/-- A value without functions is the only one that is the same up to the bodies of functions. -/
theorem eq_of_mapBodies : ∀ {v w : Value}, functionless.Admits v → v.mapBodies k = w.mapBodies k →
    v = w
  | .undefined, w, _, h | .null, w, _, h | .bool _, w, _, h | .number _, w, _, h
  | .string _, w, _, h | .date _, w, _, h | .host _, w, _, h => by
    cases w <;> first | exact h | simp only [mapBodies, reduceCtorEq] at h
  | .array items, w, hv, h => by
    rw [Admits] at hv
    cases w <;> simp only [mapBodies, reduceCtorEq, array.injEq] at h
    rw [items_eq_of_mapBodies hv h]
  | .object fields, w, hv, h => by
    rw [Admits] at hv
    cases w <;> simp only [mapBodies, reduceCtorEq, object.injEq] at h
    rw [fields_eq_of_mapBodies hv h]
  | .function params body captured, _, hv, _ =>
    ((functionless.admits_function params body captured).1 hv).1.elim

theorem items_eq_of_mapBodies : ∀ {vs ws : List Value}, functionless.AdmitsItems vs →
    mapBodiesItems k vs = mapBodiesItems k ws → vs = ws
  | [], [], _, _ => rfl
  | v :: vs, w :: ws, hv, h => by
    rw [AdmitsItems] at hv
    rw [mapBodiesItems, mapBodiesItems, List.cons.injEq] at h
    rw [eq_of_mapBodies hv.1 h.1, items_eq_of_mapBodies hv.2 h.2]

theorem fields_eq_of_mapBodies : ∀ {fs gs : Fields Value}, functionless.AdmitsFields fs →
    mapBodiesFields k fs = mapBodiesFields k gs → fs = gs
  | [], [], _, _ => rfl
  | (key, v) :: fs, (key', w) :: gs, hv, h => by
    rw [AdmitsFields] at hv
    rw [mapBodiesFields, mapBodiesFields, List.cons.injEq, Prod.mk.injEq] at h
    rw [h.1.1, eq_of_mapBodies hv.1 h.1.2, fields_eq_of_mapBodies hv.2 h.2]

end

end

end Guard

end TemplateExpr.Value
