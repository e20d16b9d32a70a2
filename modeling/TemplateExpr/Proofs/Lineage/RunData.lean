import Mathlib.Data.List.Basic
import TemplateExpr.Json.Basic
import TemplateExpr.Lineage.RunData
import TemplateExpr.Proofs.Json.Printer
import TemplateExpr.Proofs.Partial

/-!
# Run data from its text

The text of the data of a run tells the data (`RunData.compact_inj`).
-/

namespace TemplateExpr

open Function (Injective)

theorem Json.ofNat_injective : Injective Json.ofNat := fun m n h => by
  rw [Json.ofNat, Json.ofNat, Json.int.injEq] at h
  exact Int.ofNat.inj h

/-! ### Data as JSON -/

theorem ItemSource.toJson_injective : Injective ItemSource.toJson := fun s t h => by
  simp only [ItemSource.toJson, Json.object.injEq, List.cons.injEq, Prod.mk.injEq, true_and,
    and_true] at h
  obtain ⟨hitem, hinput⟩ := h
  cases s
  cases t
  rw [ItemSource.mk.injEq]
  exact ⟨Json.ofNat_injective hitem, Json.ofNat_injective hinput⟩

theorem PairedItemInfo.toJson_injective : Injective PairedItemInfo.toJson := fun i j h => by
  cases i with
  | index item =>
    cases j with
    | index item' => rw [Json.ofNat_injective h]
    | _ => exact nomatch h
  | single source =>
    cases j with
    | single source' => rw [ItemSource.toJson_injective h]
    | _ => exact nomatch h
  | many sources =>
    cases j with
    | many sources' =>
      rw [List.map_injective_iff.2 ItemSource.toJson_injective (Json.array.inj h)]
    | _ => exact nomatch h

theorem PairedItemInfo.toJson_ne_null (i : PairedItemInfo) : i.toJson ≠ .null := by
  cases i <;> exact fun h => nomatch h

theorem ExecutionItem.toJson_injective : Injective ExecutionItem.toJson := fun i j h => by
  obtain ⟨json, info⟩ := i
  obtain ⟨json', info'⟩ := j
  simp only [ExecutionItem.toJson, Json.object.injEq, List.cons.injEq, Prod.mk.injEq, true_and,
    and_true] at h
  obtain ⟨rfl, hinfo⟩ := h
  cases info with
  | none =>
    cases info' with
    | none => rfl
    | some i => exact absurd hinfo.symm (PairedItemInfo.toJson_ne_null i)
  | some i =>
    cases info' with
    | none => exact absurd hinfo (PairedItemInfo.toJson_ne_null i)
    | some j => rw [PairedItemInfo.toJson_injective hinfo]

theorem TaskData.toJson_injective : Injective TaskData.toJson := fun t u h => by
  obtain ⟨outputs⟩ := t
  obtain ⟨outputs'⟩ := u
  simp only [TaskData.toJson, Json.object.injEq, List.cons.injEq, Prod.mk.injEq, true_and,
    and_true, Json.array.injEq] at h
  have hitems : Injective fun items : List ExecutionItem =>
      Json.array (items.map (·.toJson)) := fun _ _ heq =>
    List.map_injective_iff.2 ExecutionItem.toJson_injective (Json.array.inj heq)
  rw [List.map_injective_iff.2 hitems h]

theorem RunData.toJson_injective : Injective RunData.toJson := fun d e h => by
  have htasks : Injective fun entry : String × List TaskData =>
      (entry.1, Json.array (entry.2.map TaskData.toJson)) := fun entry entry' heq => by
    rw [Prod.mk.injEq, Json.array.injEq] at heq
    exact Prod.ext heq.1 (List.map_injective_iff.2 TaskData.toJson_injective heq.2)
  exact List.map_injective_iff.2 htasks (Json.object.inj h)

/-! ### Finite numbers -/

namespace Json

theorem itemsFinite_iff {items : List Json} : ItemsFinite items ↔ ∀ j ∈ items, j.IsFinite := by
  induction items with
  | nil => simp [ItemsFinite]
  | cons item items ih => rw [ItemsFinite, ih, List.forall_mem_cons]

theorem fieldsFinite_iff {fields : List (String × Json)} :
    FieldsFinite fields ↔ ∀ entry ∈ fields, entry.2.IsFinite := by
  induction fields with
  | nil => simp [FieldsFinite]
  | cons field fields ih =>
    obtain ⟨key, value⟩ := field
    rw [FieldsFinite, ih, List.forall_mem_cons]

theorem isFinite_ofNat (n : Nat) : (ofNat n).IsFinite := by
  simp [ofNat, IsFinite]

end Json

/-- Whether all numbers in the items of a run are finite. -/
def RunData.IsFinite (d : RunData) : Prop :=
  ∀ entry ∈ d, ∀ task ∈ entry.2, ∀ items ∈ task.outputs, ∀ item ∈ items, item.json.IsFinite

theorem ItemSource.isFinite_toJson (s : ItemSource) : s.toJson.IsFinite := by
  rw [toJson, Json.IsFinite, Json.fieldsFinite_iff]
  intro entry hentry
  simp only [List.mem_cons, List.not_mem_nil, or_false] at hentry
  rcases hentry with rfl | rfl <;> exact Json.isFinite_ofNat _

theorem PairedItemInfo.isFinite_toJson (i : PairedItemInfo) : i.toJson.IsFinite := by
  cases i with
  | index item => exact Json.isFinite_ofNat item
  | single source => exact source.isFinite_toJson
  | many sources =>
    rw [toJson, Json.IsFinite, Json.itemsFinite_iff]
    intro j hj
    obtain ⟨s, -, rfl⟩ := List.mem_map.1 hj
    exact s.isFinite_toJson

theorem ExecutionItem.isFinite_toJson {i : ExecutionItem} (h : i.json.IsFinite) :
    i.toJson.IsFinite := by
  rw [toJson, Json.IsFinite, Json.fieldsFinite_iff]
  intro entry hentry
  simp only [List.mem_cons, List.not_mem_nil, or_false] at hentry
  rcases hentry with rfl | rfl
  · exact h
  · cases i.pairedItem with
    | none => simp [Json.IsFinite]
    | some info => exact info.isFinite_toJson

theorem RunData.isFinite_toJson {d : RunData} (h : d.IsFinite) : d.toJson.IsFinite := by
  rw [toJson, Json.IsFinite, Json.fieldsFinite_iff]
  intro field hfield
  obtain ⟨entry, hentry, rfl⟩ := List.mem_map.1 hfield
  rw [Json.IsFinite, Json.itemsFinite_iff]
  intro taskJson htaskJson
  obtain ⟨task, htask, rfl⟩ := List.mem_map.1 htaskJson
  rw [TaskData.toJson, Json.IsFinite, Json.fieldsFinite_iff]
  intro outputs houtputs
  rw [List.mem_singleton.1 houtputs, Json.IsFinite, Json.itemsFinite_iff]
  intro output houtput
  obtain ⟨items, hitems, rfl⟩ := List.mem_map.1 houtput
  rw [Json.IsFinite, Json.itemsFinite_iff]
  intro itemJson hitemJson
  obtain ⟨item, hitem, rfl⟩ := List.mem_map.1 hitemJson
  exact ExecutionItem.isFinite_toJson (h entry hentry task htask items hitems item hitem)

/-- The text of the data of a run tells the data. -/
theorem RunData.compact_inj {d e : RunData} (hd : d.IsFinite) (he : e.IsFinite)
    (h : d.toJson.compact = e.toJson.compact) : d = e :=
  toJson_injective (Json.compact_inj (isFinite_toJson hd) (isFinite_toJson he) h)

end TemplateExpr

/-!
## Typed data of finite JSON

What the readers of typed data find in JSON data with finite numbers has finite numbers.
-/

namespace TemplateExpr

namespace Json

variable {α : Type}

/-- The fields of a record are finite. -/
theorem isFinite_of_record? {keys : List String} {j v : Json} {r : Record} {key : String}
    (hj : j.IsFinite) (hr : j.record? keys = some r) (hv : r key = some v) : v.IsFinite := by
  unfold record? at hr
  split at hr
  · next fields =>
    obtain rfl := Option.some.inj hr
    obtain ⟨f, hf, rfl⟩ := exists_of_lookup hv
    rw [IsFinite, fieldsFinite_iff] at hj
    exact hj f hf
  · next items =>
    split at hr
    · obtain rfl := Option.some.inj hr
      obtain ⟨f, hf, rfl⟩ := exists_of_lookup hv
      rw [IsFinite, itemsFinite_iff] at hj
      exact hj _ (List.of_mem_zip hf).2
    · exact nomatch hr
  · exact nomatch hr

/-- A field that may be missing. -/
theorem field?_eq_some {r : Record} {key : String} {value : Json → Option α} {missing a : α}
    (h : r.field? key value missing = some a) :
    (∃ v, r key = some v ∧ value v = some a) ∨ a = missing := by
  unfold Record.field? at h
  split at h
  · next v hv => exact .inl ⟨v, hv, h⟩
  · exact .inr (Option.some.inj h).symm

/-- The items of a list are read from finite values. -/
theorem exists_of_mem_list? {item : Json → Option α} {j : Json} {as : List α} (hj : j.IsFinite)
    (h : list? item j = some as) {a : α} (ha : a ∈ as) : ∃ v : Json, v.IsFinite ∧ item v = some a := by
  obtain ⟨items, hitems, h⟩ := Option.bind_eq_some_iff.1 h
  obtain ⟨v, hv, hva⟩ := exists_of_mem_mapM h ha
  cases j with
  | array items' =>
    obtain rfl : items' = items := Option.some.inj hitems
    rw [IsFinite, itemsFinite_iff] at hj
    exact ⟨v, hj v hv, hva⟩
  | _ => exact nomatch hitems

/-- The values of a table are read from finite values. -/
theorem exists_of_mem_table? {value : Json → Option α} {j : Json} {fs : Fields α} (hj : j.IsFinite)
    (h : table? value j = some fs) {f : String × α} (hf : f ∈ fs) :
    ∃ v : Json, v.IsFinite ∧ value v = some f.2 := by
  obtain ⟨fields, hfields, h⟩ := Option.bind_eq_some_iff.1 h
  obtain ⟨field, hfield, hvalue⟩ := exists_of_mem_mapM h hf
  obtain ⟨a, ha, rfl⟩ := Option.map_eq_some_iff.1 hvalue
  cases j with
  | object fields' =>
    obtain rfl : fields' = fields := Option.some.inj hfields
    rw [IsFinite, fieldsFinite_iff] at hj
    exact ⟨field.2, hj field hfield, ha⟩
  | _ => exact nomatch hfields

/-- A value that may be `null`. -/
theorem optional?_eq_some {value : Json → Option α} {j : Json} {a : α}
    (h : optional? value j = some (some a)) : value j = some a := by
  unfold optional? at h
  split at h
  · exact nomatch h
  · obtain ⟨b, hb, hba⟩ := Option.map_eq_some_iff.1 h
    rw [hb, hba]

end Json

/-! ### Data of a run -/

theorem ExecutionItem.isFinite_of_ofJson? {j : Json} {i : ExecutionItem} (hj : j.IsFinite)
    (h : ofJson? j = some i) : i.json.IsFinite := by
  unfold ofJson? at h
  obtain ⟨r, hr, h⟩ := Option.bind_eq_some_iff.1 h
  obtain ⟨json, hjson, h⟩ := Option.bind_eq_some_iff.1 h
  obtain ⟨info, -, h⟩ := Option.bind_eq_some_iff.1 h
  obtain rfl := Option.some.inj h
  exact Json.isFinite_of_record? hj hr hjson

theorem TaskData.isFinite_of_ofJson? {j : Json} {t : TaskData} (hj : j.IsFinite)
    (h : ofJson? j = some t) : ∀ items ∈ t.outputs, ∀ item ∈ items, item.json.IsFinite := by
  unfold ofJson? at h
  obtain ⟨r, hr, h⟩ := Option.bind_eq_some_iff.1 h
  obtain ⟨outputs, houtputs, h⟩ := Option.bind_eq_some_iff.1 h
  obtain rfl := Option.some.inj h
  intro items hitems item hitem
  rcases Json.field?_eq_some houtputs with ⟨v, hv, hlist⟩ | rfl
  · obtain ⟨w, hw, hitemsJson⟩ :=
      Json.exists_of_mem_list? (Json.isFinite_of_record? hj hr hv) hlist hitems
    obtain ⟨u, hu, hitemJson⟩ := Json.exists_of_mem_list? hw hitemsJson hitem
    exact ExecutionItem.isFinite_of_ofJson? hu hitemJson
  · exact absurd hitems List.not_mem_nil

theorem RunData.isFinite_of_ofJson? {j : Json} {d : RunData} (hj : j.IsFinite)
    (h : ofJson? j = some d) : d.IsFinite := by
  intro entry hentry task htask
  obtain ⟨v, hv, htasks⟩ := Json.exists_of_mem_table? hj h hentry
  obtain ⟨w, hw, htaskJson⟩ := Json.exists_of_mem_list? hv htasks htask
  exact TaskData.isFinite_of_ofJson? hw htaskJson

end TemplateExpr
