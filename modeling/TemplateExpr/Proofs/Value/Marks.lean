import TemplateExpr.Context.Fingerprint
import TemplateExpr.Proofs.Number.Dyadic
import TemplateExpr.Proofs.Value.Guard

/-!
# What marks tell of values

The marks of a value end where the value ends, and no two values have the same marks
(`marks_append_inj`). So the marks of a value are never the beginning of those of another, and marks
of values one behind the other can be cut in one way only (`marks_prefixFree`). This holds of data.
Of a function only the parameters are written, and of a date only whole milliseconds.
-/

namespace TemplateExpr

namespace DateTime

/-- The moment of a whole number of milliseconds, and not within a leap second. -/
def IsWhole (t : DateTime) : Prop := t.nanos % nanosPerMilli = 0 ∧ t.nanos < nanosPerSecond

theorem eq_of_toMillis {t u : DateTime} (ht : t.IsWhole) (hu : u.IsWhole)
    (hmillis : t.toMillis = u.toMillis) (hoffset : t.offset = u.offset) : t = u := by
  obtain ⟨seconds, nanos, offset⟩ := t
  obtain ⟨seconds', nanos', offset'⟩ := u
  simp only [IsWhole, toMillis, milli, nanosPerMilli, nanosPerSecond] at ht hu hmillis hoffset
  obtain rfl : seconds = seconds' := by omega
  obtain rfl : nanos = nanos' := by omega
  rw [hoffset]

end DateTime

namespace Value

mutual

/-- Data whose dates are whole milliseconds. -/
def IsTold : Value → Prop
  | array items => ItemsTold items
  | object fields => FieldsTold fields
  | date t => t.IsWhole
  | function .. | host _ => False
  | _ => True

/-- `IsTold` of every item. -/
def ItemsTold : List Value → Prop
  | [] => True
  | item :: items => item.IsTold ∧ ItemsTold items

/-- `IsTold` of the value of every field. -/
def FieldsTold : List (String × Value) → Prop
  | [] => True
  | (_, value) :: fields => value.IsTold ∧ FieldsTold fields

end

mutual

/-- The marks of a value tell which value it is and where it ends. -/
theorem marks_append_inj : ∀ {v w : Value}, v.IsTold → w.IsTold → ∀ {rest rest' : Fingerprint},
    v.marks ++ rest = w.marks ++ rest' → v = w ∧ rest = rest'
  | .undefined, w, _, hw, _, _, h => by
    cases w <;> simp_all [marks, markKind, kind, IsTold]
  | .null, w, _, hw, _, _, h => by
    cases w <;> simp_all [marks, markKind, kind, IsTold]
  | .bool b, w, _, hw, _, _, h => by
    cases w <;> simp_all [marks, markKind, kind, IsTold]
  | .number x, w, _, hw, _, _, h => by
    cases w with
    | number y =>
      simp only [marks, markKind, List.cons_append, List.nil_append, List.cons.injEq,
        Mark.bits.injEq] at h
      exact ⟨by rw [Float.toBits_inj.1 h.2.1], h.2.2⟩
    | _ => simp_all [marks, markKind, kind, IsTold]
  | .string s, w, _, hw, _, _, h => by
    cases w <;> simp_all [marks, markKind, kind, IsTold]
  | .array items, w, hv, hw, _, _, h => by
    cases w with
    | array items' =>
      rw [IsTold] at hv hw
      simp only [marks, markKind, List.cons_append, List.cons.injEq, Mark.length.injEq] at h
      obtain ⟨rfl, hrest⟩ := itemMarks_append_inj hv hw h.2.1 h.2.2
      exact ⟨rfl, hrest⟩
    | _ => simp_all [marks, markKind, kind, IsTold]
  | .object fields, w, hv, hw, _, _, h => by
    cases w with
    | object fields' =>
      rw [IsTold] at hv hw
      simp only [marks, markKind, List.cons_append, List.cons.injEq, Mark.length.injEq] at h
      obtain ⟨rfl, hrest⟩ := fieldMarks_append_inj hv hw h.2.1 h.2.2
      exact ⟨rfl, hrest⟩
    | _ => simp_all [marks, markKind, kind, IsTold]
  | .date t, w, hv, hw, _, _, h => by
    cases w with
    | date u =>
      simp only [marks, markKind, List.cons_append, List.nil_append, List.cons.injEq,
        Mark.integer.injEq] at h
      rw [IsTold] at hv hw
      exact ⟨by rw [DateTime.eq_of_toMillis hv hw h.2.1 h.2.2.1], h.2.2.2⟩
    | _ => simp_all [marks, markKind, kind, IsTold]
  | .function .., _, hv, _, _, _, _ => by simp [IsTold] at hv
  | .host _, _, hv, _, _, _, _ => by simp [IsTold] at hv

theorem itemMarks_append_inj : ∀ {items items' : List Value}, ItemsTold items → ItemsTold items' →
    items.length = items'.length → ∀ {rest rest' : Fingerprint},
    itemMarks items ++ rest = itemMarks items' ++ rest' → items = items' ∧ rest = rest'
  | [], [], _, _, _, _, _, h => ⟨rfl, h⟩
  | item :: items, item' :: items', hv, hw, hlen, _, _, h => by
    rw [ItemsTold] at hv hw
    rw [itemMarks, itemMarks, List.append_assoc, List.append_assoc] at h
    obtain ⟨rfl, hitems⟩ := marks_append_inj hv.1 hw.1 h
    obtain ⟨rfl, hrest⟩ := itemMarks_append_inj hv.2 hw.2 (Nat.succ.inj hlen) hitems
    exact ⟨rfl, hrest⟩

theorem fieldMarks_append_inj : ∀ {fields fields' : List (String × Value)}, FieldsTold fields →
    FieldsTold fields' → fields.length = fields'.length → ∀ {rest rest' : Fingerprint},
    fieldMarks fields ++ rest = fieldMarks fields' ++ rest' → fields = fields' ∧ rest = rest'
  | [], [], _, _, _, _, _, h => ⟨rfl, h⟩
  | (key, value) :: fields, (key', value') :: fields', hv, hw, hlen, _, _, h => by
    rw [FieldsTold] at hv hw
    rw [fieldMarks, fieldMarks, List.cons_append, List.cons_append, List.append_assoc,
      List.append_assoc, List.cons.injEq, Mark.text.injEq] at h
    obtain ⟨rfl, hvalue⟩ := h
    obtain ⟨rfl, hfields⟩ := marks_append_inj hv.1 hw.1 hvalue
    obtain ⟨rfl, hrest⟩ := fieldMarks_append_inj hv.2 hw.2 (Nat.succ.inj hlen) hfields
    exact ⟨rfl, hrest⟩

end

/-! ### Values that are told apart -/

theorem itemsTold_iff {items : List Value} : ItemsTold items ↔ ∀ v ∈ items, v.IsTold := by
  induction items with
  | nil => simp [ItemsTold]
  | cons item items ih => simp [ItemsTold, ih]

theorem fieldsTold_iff {fields : List (String × Value)} :
    FieldsTold fields ↔ ∀ f ∈ fields, f.2.IsTold := by
  induction fields with
  | nil => simp [FieldsTold]
  | cons f fields ih =>
    obtain ⟨key, value⟩ := f
    simp [FieldsTold, ih]

@[simp] theorem isTold_undefined : undefined.IsTold := by simp [IsTold]

@[simp] theorem isTold_number (x : Float) : (number x).IsTold := by simp [IsTold]

@[simp] theorem isTold_string (s : String) : (string s).IsTold := by simp [IsTold]

theorem isTold_array {items : List Value} : (array items).IsTold ↔ ∀ v ∈ items, v.IsTold := by
  rw [IsTold, itemsTold_iff]

theorem isTold_object {fields : List (String × Value)} :
    (object fields).IsTold ↔ ∀ f ∈ fields, f.2.IsTold := by
  rw [IsTold, fieldsTold_iff]

/-- The variables of the environment are texts. -/
theorem isTold_environment (env : Environment) : env.toValue.IsTold := by
  refine isTold_object.2 fun f hf => ?_
  obtain ⟨⟨name, text⟩, _, rfl⟩ := List.mem_map.1 hf
  exact isTold_string text

mutual

/-- What is told apart is data. -/
theorem IsTold.admits_data : ∀ {v : Value}, v.IsTold → Guard.data.Admits v
  | .array items, h => by
    rw [IsTold] at h
    rw [Guard.Admits]
    exact ItemsTold.admits_data h
  | .object fields, h => by
    rw [IsTold] at h
    rw [Guard.Admits]
    exact FieldsTold.admits_data h
  | .function .., h => by simp [IsTold] at h
  | .host _, h => by simp [IsTold] at h
  | .undefined, _ | .null, _ | .bool _, _ | .number _, _ | .string _, _ | .date _, _ => by simp

theorem ItemsTold.admits_data : ∀ {items : List Value}, ItemsTold items →
    Guard.data.AdmitsItems items
  | [], _ => by rw [Guard.AdmitsItems]; trivial
  | _ :: _, h => by
    rw [ItemsTold] at h
    rw [Guard.AdmitsItems]
    exact ⟨h.1.admits_data, ItemsTold.admits_data h.2⟩

theorem FieldsTold.admits_data : ∀ {fields : List (String × Value)}, FieldsTold fields →
    Guard.data.AdmitsFields fields
  | [], _ => by rw [Guard.AdmitsFields]; trivial
  | (_, _) :: _, h => by
    rw [FieldsTold] at h
    rw [Guard.AdmitsFields]
    exact ⟨h.1.admits_data, FieldsTold.admits_data h.2⟩

end

mutual

/-- What is read from JSON is told apart. -/
theorem isTold_ofJson : ∀ j : Json, (ofJson j).IsTold
  | .null => by simp [ofJson, IsTold]
  | .bool b => by simp [ofJson, IsTold]
  | .int n => by simp [ofJson]
  | .float x => by simp [ofJson]
  | .string s => by simp [ofJson]
  | .array items => by
    rw [ofJson, isTold_array]
    exact isTold_itemsOfJson items [] fun _ hv => absurd hv List.not_mem_nil
  | .object fields => by
    rw [ofJson, isTold_object]
    exact isTold_fieldsOfJson fields [] fun _ hf => absurd hf List.not_mem_nil

theorem isTold_itemsOfJson : ∀ (items : List Json) (acc : List Value),
    (∀ v ∈ acc, v.IsTold) → ∀ v ∈ itemsOfJson acc items, v.IsTold
  | [], _, h => fun v hv => h v (List.mem_reverse.1 hv)
  | item :: items, acc, h =>
    isTold_itemsOfJson items (ofJson item :: acc) (List.forall_mem_cons.2 ⟨isTold_ofJson item, h⟩)

theorem isTold_fieldsOfJson : ∀ (fields : List (String × Json)) (acc : List (String × Value)),
    (∀ f ∈ acc, f.2.IsTold) → ∀ f ∈ fieldsOfJson acc fields, f.2.IsTold
  | [], _, h => fun f hf => h f (List.mem_reverse.1 hf)
  | (key, value) :: fields, acc, h =>
    isTold_fieldsOfJson fields ((key, ofJson value) :: acc)
      (List.forall_mem_cons.2 ⟨isTold_ofJson value, h⟩)

end

/-! ### Values one behind the other -/

section

variable {v w : Value} {vs ws : List Value}

theorem marks_ne_nil (v : Value) : v.marks ≠ [] := by
  rw [marks.eq_def]
  exact List.cons_ne_nil _ _

/-- The marks of values are the beginning of those of others if and only if the values are. -/
theorem flatMap_marks_isPrefix_iff (hvs : ∀ v ∈ vs, v.IsTold) (hws : ∀ w ∈ ws, w.IsTold) :
    vs.flatMap marks <+: ws.flatMap marks ↔ vs <+: ws := by
  constructor
  · intro h
    induction vs generalizing ws with
    | nil => exact List.nil_prefix
    | cons v vs ih =>
      obtain ⟨rest, h⟩ := h
      rw [List.forall_mem_cons] at hvs
      rw [List.flatMap_cons, List.append_assoc] at h
      cases ws with
      | nil =>
        -- a value leaves a mark at least, so that none stands in front of no values
        exact absurd (List.append_eq_nil_iff.1 h).1 v.marks_ne_nil
      | cons w ws =>
        rw [List.forall_mem_cons] at hws
        rw [List.flatMap_cons] at h
        obtain ⟨rfl, hrest⟩ := marks_append_inj hvs.1 hws.1 h
        exact (List.prefix_cons_inj v).2 (ih hvs.2 hws.2 ⟨rest, hrest⟩)
  · rintro ⟨more, rfl⟩
    exact ⟨more.flatMap marks, List.flatMap_append.symm⟩

/-- The marks of a value are the beginning of those of another only if the two are the same value,
down to the bits of its numbers and the order of its keys. So the marks of values one behind the
other can be cut in one way only. The values are JSON data, in which `undefined` may stand, and
dates of whole milliseconds as well. -/
theorem marks_prefixFree (hv : v.IsTold) (hw : w.IsTold) (hvs : ∀ u ∈ vs, u.IsTold)
    (hws : ∀ u ∈ ws, u.IsTold) :
    (v.marks <+: w.marks ↔ v = w) ∧
    (vs.flatMap marks <+: ws.flatMap marks ↔ vs <+: ws) ∧
    (vs.flatMap marks = ws.flatMap marks ↔ vs = ws) := by
  have hone : [v].flatMap marks <+: [w].flatMap marks ↔ [v] <+: [w] :=
    flatMap_marks_isPrefix_iff (List.forall_mem_singleton.2 hv) (List.forall_mem_singleton.2 hw)
  have hruns : vs.flatMap marks <+: ws.flatMap marks ↔ vs <+: ws :=
    flatMap_marks_isPrefix_iff hvs hws
  refine ⟨by simpa using hone, hruns, fun h => ?_, fun h => h ▸ rfl⟩
  have hfront : vs <+: ws := hruns.1 (h ▸ List.prefix_rfl)
  have hback : ws <+: vs := (flatMap_marks_isPrefix_iff hws hvs).1 (h ▸ List.prefix_rfl)
  exact hfront.eq_of_length_le hback.length_le

/-- Zeros of both signs are told apart, and so are an array with a text behind it and an array of
two texts. -/
theorem marks_prefixFree_zero :
    let v := object [("a", array [number 0, undefined]), ("b", null)]
    let w := object [("a", array [number (-0.0), undefined]), ("b", null)]
    let vs := [array [string "a"], string "b"]
    let ws := [array [string "a", string "b"], bool true]
    (v.IsTold ∧ w.IsTold ∧ (∀ u ∈ vs, u.IsTold) ∧ ∀ u ∈ ws, u.IsTold) ∧
      ¬v.marks <+: w.marks ∧ ¬vs.flatMap marks <+: ws.flatMap marks ∧
      vs.flatMap marks ≠ ws.flatMap marks := by
  intro v w vs ws
  have hv : v.IsTold := by simp [v, IsTold, FieldsTold, ItemsTold]
  have hw : w.IsTold := by simp [w, IsTold, FieldsTold, ItemsTold]
  have hvs : ∀ u ∈ vs, u.IsTold := by simp [vs, IsTold, ItemsTold]
  have hws : ∀ u ∈ ws, u.IsTold := by simp [ws, IsTold, ItemsTold]
  obtain ⟨hone, hfront, hruns⟩ := marks_prefixFree hv hw hvs hws
  have hzero : (0 : Float) ≠ -0.0 := by decide
  refine ⟨⟨hv, hw, hvs, hws⟩, ?_, ?_, ?_⟩
  · rw [hone]
    simpa [v, w] using hzero
  · rw [hfront]
    simp [vs, ws]
  · rw [ne_eq, hruns]
    simp [vs, ws]

end

end Value

end TemplateExpr
