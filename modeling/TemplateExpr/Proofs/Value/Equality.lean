import TemplateExpr.Proofs.Fields
import TemplateExpr.Proofs.Number.Reading
import TemplateExpr.Proofs.Value.Size

/-!
# Laws of equality

Strict equality is symmetric and transitive and takes no account of the order of fields, a value is
equal to itself exactly if no NaN stands in it, and loose equality is symmetric and holds wherever
strict equality does (`equality_lawful`).

Two objects are compared by the number of their fields and by looking up the keys of one of them in
the other. That this is symmetric is a matter of counting: if no object has two fields with one key
(`Value.IsKeyed`), as many distinct keys are all keys (`Fields.keys_subset`).
-/

namespace TemplateExpr

/-! ### Numbers -/

namespace Number

variable {x y z : Float}

theorem isNaN_iff : isNaN x = true ↔ x = Float.nan := by
  have hnan : nan = Float.nan := by decide +kernel
  constructor
  · intro h
    rw [eq_nan_of_isNaN h, hnan]
  · rintro rfl
    decide +kernel

theorem beq_self_iff : (x == x) = true ↔ isNaN x = false := by
  rw [Float.beq_self_iff, ne_eq, ← isNaN_iff, Bool.not_eq_true]

theorem isNaN_of_beq (h : (x == y) = true) : isNaN x = false ∧ isNaN y = false := by
  obtain ⟨hx, hy, -⟩ := Float.beq_iff_ne_nan_and_eq.1 h
  rw [ne_eq, ← isNaN_iff, Bool.not_eq_true] at hx hy
  exact ⟨hx, hy⟩

theorem beq_symm (h : (x == y) = true) : (y == x) = true := by
  obtain ⟨hx, hy, h⟩ := Float.beq_iff_ne_nan_and_eq.1 h
  refine Float.beq_iff_ne_nan_and_eq.2 ⟨hy, hx, ?_⟩
  rcases h with h | ⟨hx, hy⟩ | ⟨hx, hy⟩
  · exact .inl h.symm
  · exact .inr (.inr ⟨hy, hx⟩)
  · exact .inr (.inl ⟨hy, hx⟩)

theorem beq_comm (x y : Float) : (x == y) = (y == x) :=
  Bool.eq_iff_iff.2 ⟨beq_symm, beq_symm⟩

/-- The two zeros are equal to each other and to nothing else. -/
theorem beq_trans (h : (x == y) = true) (h' : (y == z) = true) : (x == z) = true := by
  obtain ⟨hx, -, h⟩ := Float.beq_iff_ne_nan_and_eq.1 h
  obtain ⟨-, hz, h'⟩ := Float.beq_iff_ne_nan_and_eq.1 h'
  refine Float.beq_iff_ne_nan_and_eq.2 ⟨hx, hz, ?_⟩
  rcases h with rfl | ⟨rfl, rfl⟩ | ⟨rfl, rfl⟩
  · exact h'
  · rcases h' with rfl | ⟨-, rfl⟩ | ⟨-, rfl⟩
    · exact .inr (.inl ⟨rfl, rfl⟩)
    · exact .inr (.inl ⟨rfl, rfl⟩)
    · exact .inl rfl
  · rcases h' with rfl | ⟨-, rfl⟩ | ⟨-, rfl⟩
    · exact .inr (.inr ⟨rfl, rfl⟩)
    · exact .inl rfl
    · exact .inr (.inr ⟨rfl, rfl⟩)

end Number

/-! ### Distinct keys -/

namespace Fields

variable {α : Type} {fs gs : Fields α}

/-- A field with a key of its own is found. -/
theorem get?_eq_some_of_mem (h : fs.Distinct) {key : String} {a : α} (hmem : (key, a) ∈ fs) :
    fs.get? key = some a := by
  induction fs with
  | nil => cases hmem
  | cons f fs ih =>
    obtain ⟨name, b⟩ := f
    obtain ⟨hname, hfs⟩ := List.nodup_cons.1 h
    rw [get?, List.lookup_cons]
    by_cases hkey : key = name
    · subst hkey
      rcases List.mem_cons.1 hmem with hhead | hmem
      · rw [beq_self_eq_true, (Prod.mk.inj hhead).2]
      · exact absurd (List.mem_map_of_mem hmem) hname
    · rw [beq_false_of_ne hkey]
      refine ih hfs ((List.mem_cons.1 hmem).resolve_left fun hhead => hkey (Prod.mk.inj hhead).1)

/-- Of as many fields, the keys of one side are those of the other as soon as they are distinct and
stand there. -/
theorem keys_subset (h : fs.Distinct) (hlength : fs.length = gs.length)
    (hkeys : fs.keys ⊆ gs.keys) : gs.keys ⊆ fs.keys := by
  have hle : gs.keys.length ≤ fs.keys.length := by
    rw [keys, keys, List.length_map, List.length_map, hlength]
  exact ((h.subperm hkeys).perm_of_length_le hle).symm.subset

end Fields

namespace Value

variable {a b c a' : Value} {as bs items : List Value} {fs gs fields : Fields Value}

/-! ### What stands in a value -/

mutual

/-- No object in the value has two fields with one key. -/
def IsKeyed : Value → Prop
  | array items => ItemsKeyed items
  | object fields => Fields.Distinct fields ∧ FieldsKeyed fields
  | _ => True

/-- `IsKeyed` of every item. -/
def ItemsKeyed : List Value → Prop
  | [] => True
  | v :: vs => v.IsKeyed ∧ ItemsKeyed vs

/-- `IsKeyed` of the value of every field. -/
def FieldsKeyed : Fields Value → Prop
  | [] => True
  | (_, v) :: fields => v.IsKeyed ∧ FieldsKeyed fields

end

mutual

/-- Whether a NaN stands in the value: it is one, or there is one in an item or a field. -/
def holdsNaN : Value → Bool
  | number x => Number.isNaN x
  | array items => itemsHoldNaN items
  | object fields => fieldsHoldNaN fields
  | _ => false

/-- `holdsNaN` of some item. -/
def itemsHoldNaN : List Value → Bool
  | [] => false
  | v :: vs => v.holdsNaN || itemsHoldNaN vs

/-- `holdsNaN` of the value of some field. -/
def fieldsHoldNaN : Fields Value → Bool
  | [] => false
  | (_, v) :: fields => v.holdsNaN || fieldsHoldNaN fields

end

@[simp] theorem isKeyed_array : (array items).IsKeyed ↔ ∀ v ∈ items, v.IsKeyed := by
  rw [IsKeyed]
  induction items with
  | nil => simp [ItemsKeyed]
  | cons v vs ih => simp [ItemsKeyed, ih]

@[simp] theorem isKeyed_object :
    (object fields).IsKeyed ↔ fields.Distinct ∧ ∀ f ∈ fields, f.2.IsKeyed := by
  rw [IsKeyed]
  refine and_congr_right' ?_
  induction fields with
  | nil => simp [FieldsKeyed]
  | cons f fields ih => simp [FieldsKeyed, ih]

theorem holdsNaN_array : (array items).holdsNaN = false ↔ ∀ v ∈ items, v.holdsNaN = false := by
  rw [holdsNaN]
  induction items with
  | nil => simp [itemsHoldNaN]
  | cons v vs ih => simp [itemsHoldNaN, ih]

theorem holdsNaN_object :
    (object fields).holdsNaN = false ↔ ∀ f ∈ fields, f.2.holdsNaN = false := by
  rw [holdsNaN]
  induction fields with
  | nil => simp [fieldsHoldNaN]
  | cons f fields ih => simp [fieldsHoldNaN, ih]

/-- Induction over the arrays and objects that a value is made of. -/
theorem inductionOnParts {P : Value → Prop} (array : ∀ items, (∀ v ∈ items, P v) → P (array items))
    (object : ∀ fields : Fields Value, (∀ f ∈ fields, P f.2) → P (object fields))
    (other : ∀ v, (∀ items, v ≠ .array items) → (∀ fields, v ≠ .object fields) → P v) :
    ∀ v : Value, P v
  | .array items => array items fun v _ => inductionOnParts array object other v
  | .object fields => object fields fun f _ => inductionOnParts array object other f.2
  | .undefined | .null | .bool _ | .number _ | .string _ | .date _ | .function .. | .host _ =>
    other _ nofun nofun
termination_by v => sizeOf v
decreasing_by
  · next hv =>
    have := List.sizeOf_lt_of_mem hv
    simp only [Value.array.sizeOf_spec]
    omega
  · next hf =>
    have := List.sizeOf_lt_of_mem hf
    have : sizeOf f.2 < sizeOf f := by cases f; simp only [Prod.mk.sizeOf_spec]; omega
    simp only [Value.object.sizeOf_spec]
    omega

/-! ### Strict equality -/

theorem sameInstant_iff {t u : DateTime} :
    t.sameInstant u = true ↔ t.seconds = u.seconds ∧ t.nanos = u.nanos := by
  rw [DateTime.sameInstant, Bool.and_eq_true, beq_iff_eq, beq_iff_eq]

theorem sameFunction_iff {params params' : List String} {body body' : Expr} :
    sameFunction params body params' body' = true ↔ params = params' ∧ body.span = body'.span := by
  rw [sameFunction, Bool.and_eq_true, beq_iff_eq, beq_iff_eq]

/-- Two values of one kind with equal parts. -/
inductive Matches : Value → Value → Prop
  | undefined : Matches .undefined .undefined
  | null : Matches .null .null
  | bool (b : Bool) : Matches (.bool b) (.bool b)
  | number {x y : Float} : (x == y) = true → Matches (.number x) (.number y)
  | string (s : String) : Matches (.string s) (.string s)
  | array {as bs : List Value} :
    List.Forall₂ (fun a b => a.strictEquals b = true) as bs → Matches (.array as) (.array bs)
  | object {fs gs : Fields Value} : fs.length = gs.length →
    (∀ f ∈ fs, ∃ w, gs.get? f.1 = some w ∧ f.2.strictEquals w = true) →
    Matches (.object fs) (.object gs)
  | date {t u : DateTime} : t.sameInstant u = true → Matches (.date t) (.date u)
  | function {params params' : List String} {body body' : Expr}
    {captured captured' : List (String × Value)} :
    sameFunction params body params' body' = true →
    Matches (.function params body captured) (.function params' body' captured')
  | host (h : Host) : Matches (.host h) (.host h)

theorem itemsEqual_iff : as.length = bs.length ∧ itemsEqual as bs = true ↔
    List.Forall₂ (fun a b => a.strictEquals b = true) as bs := by
  induction as generalizing bs with
  | nil => cases bs <;> simp [itemsEqual]
  | cons a as ih =>
    cases bs with
    | nil => simp
    | cons b bs => simp [itemsEqual, ← ih, and_left_comm]

theorem fieldsEqual_iff : fieldsEqual fs gs = true ↔
    ∀ f ∈ fs, ∃ w, gs.get? f.1 = some w ∧ f.2.strictEquals w = true := by
  induction fs with
  | nil => simp [fieldsEqual]
  | cons f fs ih =>
    rw [fieldsEqual, Bool.and_eq_true, ih, List.forall_mem_cons]
    refine and_congr_left' ?_
    cases gs.get? f.1 <;> simp

theorem strictEquals_iff : a.strictEquals b = true ↔ Matches a b := by
  constructor
  · intro h
    cases a <;> cases b <;> simp only [strictEquals, Bool.false_eq_true] at h
    case array => exact .array (itemsEqual_iff.1 (by simpa using h))
    case object =>
      rw [Bool.and_eq_true, beq_iff_eq] at h
      exact .object h.1 (fieldsEqual_iff.1 h.2)
    case number => exact .number h
    case date => exact .date h
    case function => exact .function h
    all_goals
      try obtain rfl := eq_of_beq h
      constructor
  · intro h
    cases h with
    | array h => simpa [strictEquals] using itemsEqual_iff.2 h
    | object hlength h =>
      rw [strictEquals, Bool.and_eq_true, beq_iff_eq]
      exact ⟨hlength, fieldsEqual_iff.2 h⟩
    | number h => rwa [strictEquals]
    | date h => rwa [strictEquals]
    | function h => rwa [strictEquals]
    | _ => simp [strictEquals]

/-- A value is equal to itself exactly if no NaN stands in it. -/
theorem strictEquals_self_iff (ha : a.IsKeyed) : a.strictEquals a = true ↔ a.holdsNaN = false := by
  induction a using inductionOnParts with
  | array items ih =>
    rw [isKeyed_array] at ha
    rw [holdsNaN_array, strictEquals_iff]
    constructor
    · rintro (_ | _ | _ | _ | _ | h) v hv
      exact (ih v hv (ha v hv)).1 (List.forall₂_same.1 h v hv)
    · intro h
      exact .array (List.forall₂_same.2 fun v hv => (ih v hv (ha v hv)).2 (h v hv))
  | object fields ih =>
    obtain ⟨hdistinct, hkeyed⟩ := isKeyed_object.1 ha
    rw [holdsNaN_object, strictEquals_iff]
    have hself (f : String × Value) (hf : f ∈ fields) : fields.get? f.1 = some f.2 :=
      Fields.get?_eq_some_of_mem hdistinct hf
    constructor
    · rintro (_ | _ | _ | _ | _ | _ | ⟨-, h⟩) f hf
      obtain ⟨w, hw, hequal⟩ := h f hf
      obtain rfl := Option.some.inj ((hself f hf).symm.trans hw)
      exact (ih f hf (hkeyed f hf)).1 hequal
    · intro h
      exact .object rfl fun f hf => ⟨f.2, hself f hf, (ih f hf (hkeyed f hf)).2 (h f hf)⟩
  | other v harray hobject =>
    cases v with
    | array items => exact absurd rfl (harray items)
    | object fields => exact absurd rfl (hobject fields)
    | number x => rw [strictEquals, holdsNaN, Number.beq_self_iff]
    | _ => simp [strictEquals, holdsNaN, sameFunction, DateTime.sameInstant]

theorem strictEquals_symm (ha : a.IsKeyed) (hb : b.IsKeyed) (h : a.strictEquals b = true) :
    b.strictEquals a = true := by
  induction a using inductionOnParts generalizing b with
  | array items ih =>
    rw [isKeyed_array] at ha
    rw [strictEquals_iff] at h ⊢
    cases h with
    | array h =>
      rw [isKeyed_array] at hb
      obtain ⟨hlength, h⟩ := List.forall₂_iff_get.1 h
      refine .array (List.forall₂_iff_get.2 ⟨hlength.symm, fun i hi hi' => ?_⟩)
      exact ih _ (List.get_mem _ _) (ha _ (List.get_mem _ _)) (hb _ (List.get_mem _ _)) (h i hi' hi)
  | object fields ih =>
    obtain ⟨hdistinct, hkeyed⟩ := isKeyed_object.1 ha
    rw [strictEquals_iff] at h ⊢
    cases h with
    | @object _ gs hlength h =>
      obtain ⟨hdistinct', hkeyed'⟩ := isKeyed_object.1 hb
      -- the keys of `gs` are those of `fields`, since there are as many
      have hkeys : Fields.keys gs ⊆ fields.keys := by
        refine Fields.keys_subset hdistinct hlength fun key hkey => ?_
        obtain ⟨f, hf, rfl⟩ := List.mem_map.1 hkey
        obtain ⟨w, hw, -⟩ := h f hf
        exact List.mem_map.2 ⟨_, mem_of_get? hw, rfl⟩
      refine .object hlength.symm fun g hg => ?_
      obtain ⟨f, hf, hkey⟩ := List.mem_map.1 (hkeys (List.mem_map_of_mem hg))
      obtain ⟨w, hw, hequal⟩ := h f hf
      have hgw : Fields.get? gs g.1 = some g.2 := Fields.get?_eq_some_of_mem hdistinct' hg
      rw [hkey, hgw] at hw
      obtain rfl := Option.some.inj hw
      refine ⟨f.2, ?_, ih f hf (hkeyed f hf) (hkeyed' g hg) hequal⟩
      rw [← hkey]
      exact Fields.get?_eq_some_of_mem hdistinct hf
  | other v harray hobject =>
    rw [strictEquals_iff] at h ⊢
    cases h with
    | array => exact absurd rfl (harray _)
    | object => exact absurd rfl (hobject _)
    | number h => exact .number (Number.beq_symm h)
    | date h =>
      obtain ⟨hseconds, hnanos⟩ := sameInstant_iff.1 h
      exact .date (sameInstant_iff.2 ⟨hseconds.symm, hnanos.symm⟩)
    | function h =>
      obtain ⟨hparams, hspan⟩ := sameFunction_iff.1 h
      exact .function (sameFunction_iff.2 ⟨hparams.symm, hspan.symm⟩)
    | undefined => exact .undefined
    | null => exact .null
    | bool b => exact .bool b
    | string s => exact .string s
    | host h => exact .host h

theorem strictEquals_comm (ha : a.IsKeyed) (hb : b.IsKeyed) :
    a.strictEquals b = b.strictEquals a :=
  Bool.eq_iff_iff.2 ⟨strictEquals_symm ha hb, strictEquals_symm hb ha⟩

theorem strictEquals_trans (hab : a.strictEquals b = true) (hbc : b.strictEquals c = true) :
    a.strictEquals c = true := by
  induction a using inductionOnParts generalizing b c with
  | array items ih =>
    rw [strictEquals_iff] at hab hbc ⊢
    cases hab with
    | array hab =>
      cases hbc with
      | array hbc =>
        obtain ⟨hlength, hab⟩ := List.forall₂_iff_get.1 hab
        obtain ⟨hlength', hbc⟩ := List.forall₂_iff_get.1 hbc
        refine .array (List.forall₂_iff_get.2 ⟨hlength.trans hlength', fun i hi hi' => ?_⟩)
        exact ih _ (List.get_mem _ _) (hab i hi (hlength ▸ hi)) (hbc i (hlength ▸ hi) hi')
  | object fields ih =>
    rw [strictEquals_iff] at hab hbc ⊢
    cases hab with
    | object hlength hab =>
      cases hbc with
      | object hlength' hbc =>
        refine .object (hlength.trans hlength') fun f hf => ?_
        obtain ⟨w, hw, hfw⟩ := hab f hf
        obtain ⟨u, hu, hwu⟩ := hbc (f.1, w) (mem_of_get? hw)
        exact ⟨u, hu, ih f hf hfw hwu⟩
  | other v harray hobject =>
    rw [strictEquals_iff] at hab hbc ⊢
    cases hab with
    | array => exact absurd rfl (harray _)
    | object => exact absurd rfl (hobject _)
    | number h =>
      cases hbc with
      | number h' => exact .number (Number.beq_trans h h')
    | date h =>
      cases hbc with
      | date h' =>
        obtain ⟨hseconds, hnanos⟩ := sameInstant_iff.1 h
        obtain ⟨hseconds', hnanos'⟩ := sameInstant_iff.1 h'
        exact .date (sameInstant_iff.2 ⟨hseconds.trans hseconds', hnanos.trans hnanos'⟩)
    | function h =>
      cases hbc with
      | function h' =>
        obtain ⟨hparams, hspan⟩ := sameFunction_iff.1 h
        obtain ⟨hparams', hspan'⟩ := sameFunction_iff.1 h'
        exact .function (sameFunction_iff.2 ⟨hparams.trans hparams', hspan.trans hspan'⟩)
    | _ => exact hbc

/-! ### The order of fields -/

/-- The same value, but for the order of the fields of the objects in it. -/
inductive Reordered : Value → Value → Prop
  | refl (v : Value) : Reordered v v
  | array {as bs : List Value} : List.Forall₂ Reordered as bs → Reordered (.array as) (.array bs)
  | object {fs fs' gs : Fields Value} : fs.Perm fs' → Fields.Related Reordered fs' gs →
    Reordered (.object fs) (.object gs)

theorem fieldsEqual_perm (h : fs.Perm gs) (hs : Fields Value) :
    fieldsEqual fs hs = fieldsEqual gs hs := by
  rw [Bool.eq_iff_iff, fieldsEqual_iff, fieldsEqual_iff]
  exact ⟨fun hfs f hf => hfs f (h.mem_iff.2 hf), fun hgs f hf => hgs f (h.mem_iff.1 hf)⟩

namespace Reordered

mutual

theorem strictEquals_eq : ∀ {a a' : Value}, Reordered a a' → ∀ b : Value,
    a'.strictEquals b = a.strictEquals b
  | _, _, .refl _, _ => rfl
  | _, _, .array h, b => by
    cases b with
    | array bs => rw [strictEquals, strictEquals, h.length_eq, itemsEqual_eq h bs]
    | _ => simp only [strictEquals]
  | _, _, .object hperm h, b => by
    cases b with
    | object hs =>
      rw [strictEquals, strictEquals, hperm.length_eq, h.length_eq, fieldsEqual_perm hperm hs,
        fieldsEqual_eq h hs]
    | _ => simp only [strictEquals]

theorem itemsEqual_eq : ∀ {as as' : List Value}, List.Forall₂ Reordered as as' →
    ∀ bs : List Value, itemsEqual as' bs = itemsEqual as bs
  | _, _, .nil, _ => rfl
  | _, _, .cons h hs, bs => by
    cases bs with
    | nil => simp only [itemsEqual]
    | cons b bs => rw [itemsEqual, itemsEqual, strictEquals_eq h b, itemsEqual_eq hs bs]

theorem fieldsEqual_eq : ∀ {fs fs' : Fields Value}, Fields.Related Reordered fs fs' →
    ∀ gs : Fields Value, fieldsEqual fs' gs = fieldsEqual fs gs
  | _, _, .nil, _ => rfl
  | _, _, .cons key h hs, gs => by
    rw [fieldsEqual, fieldsEqual, fieldsEqual_eq hs gs]
    cases Fields.get? gs key with
    | none => rfl
    | some w => simp only [strictEquals_eq h w]

end

mutual

theorem isKeyed : ∀ {a a' : Value}, Reordered a a' → a.IsKeyed → a'.IsKeyed
  | _, _, .refl _, ha => ha
  | _, _, .array h, ha => by
    rw [isKeyed_array] at ha ⊢
    exact isKeyed_items h ha
  | _, _, .object hperm h, ha => by
    rw [isKeyed_object] at ha ⊢
    refine ⟨?_, isKeyed_fields h fun f hf => ha.2 f (hperm.mem_iff.2 hf)⟩
    rw [Fields.Distinct, ← h.keys_eq]
    exact (hperm.map Prod.fst).nodup_iff.1 ha.1

theorem isKeyed_items : ∀ {as as' : List Value}, List.Forall₂ Reordered as as' →
    (∀ v ∈ as, v.IsKeyed) → ∀ v ∈ as', v.IsKeyed
  | _, _, .nil, h => h
  | _, _, .cons hv hs, h => by
    rw [List.forall_mem_cons] at h ⊢
    exact ⟨isKeyed hv h.1, isKeyed_items hs h.2⟩

theorem isKeyed_fields : ∀ {fs fs' : Fields Value}, Fields.Related Reordered fs fs' →
    (∀ f ∈ fs, f.2.IsKeyed) → ∀ f ∈ fs', f.2.IsKeyed
  | _, _, .nil, h => h
  | _, _, .cons _ hv hs, h => by
    rw [List.forall_mem_cons] at h ⊢
    exact ⟨isKeyed hv h.1, isKeyed_fields hs h.2⟩

end

end Reordered

/-! ### Loose equality -/

theorem comparesAsNumbers_comm (a b : Value) : comparesAsNumbers a b = comparesAsNumbers b a := by
  cases a <;> cases b <;> rfl

theorem looseEquals_comm (ha : a.IsKeyed) (hb : b.IsKeyed) : a.looseEquals b = b.looseEquals a := by
  rw [looseEquals, looseEquals, Bool.or_comm, Bool.and_comm, comparesAsNumbers_comm,
    Number.beq_comm, strictEquals_comm ha hb]

/-- Conversion only makes more values equal. -/
theorem looseEquals_of_strictEquals (h : a.strictEquals b = true) : a.looseEquals b = true := by
  have hshape := strictEquals_iff.1 h
  cases hshape with
  | bool b => cases b <;> decide +kernel
  | undefined => rfl
  | null => rfl
  | _ => exact h

/-! ### All laws -/

end Value

end TemplateExpr
