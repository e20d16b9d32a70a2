import Mathlib.Algebra.GroupWithZero.Nat
import Mathlib.Algebra.Order.BigOperators.Group.List
import Mathlib.Data.List.Nodup
import TemplateExpr.Eval.Property
import TemplateExpr.Proofs.Text.Utf8

/-!
# Sizes of values

The size of an array is a slot and the sizes of its items (`Value.total`), that of an object a slot
and the bytes of the keys and the sizes of the values of its fields (`Value.fieldTotal`). What is
taken out of a value is no larger than the value, and what is put together of values is no larger
than they are together.
-/

namespace TemplateExpr

open TemplateExpr.Text

namespace Value

/-! ### Arrays and objects -/

/-- The size of values that stand one behind the other. -/
def total (vs : List Value) : Nat := (vs.map size).sum

/-- The size of fields that stand one behind the other. -/
def fieldTotal (fields : Fields Value) : Nat :=
  (fields.map fun f => f.1.utf8ByteSize + f.2.size).sum

@[simp] theorem total_nil : total [] = 0 := rfl

@[simp] theorem total_cons (v : Value) (vs : List Value) :
    total (v :: vs) = v.size + total vs := rfl

@[simp] theorem total_append (vs ws : List Value) : total (vs ++ ws) = total vs + total ws := by
  rw [total, List.map_append, List.sum_append, total, total]

@[simp] theorem fieldTotal_nil : fieldTotal [] = 0 := rfl

@[simp] theorem fieldTotal_cons (f : String × Value) (fields : Fields Value) :
    fieldTotal (f :: fields) = f.1.utf8ByteSize + f.2.size + fieldTotal fields := rfl

@[simp] theorem fieldTotal_append (fields more : Fields Value) :
    fieldTotal (fields ++ more) = fieldTotal fields + fieldTotal more := by
  rw [fieldTotal, List.map_append, List.sum_append, fieldTotal, fieldTotal]

theorem sizes_eq (n : Nat) (vs : List Value) : sizes n vs = n + total vs := by
  induction vs generalizing n with
  | nil => rw [sizes, total_nil, Nat.add_zero]
  | cons v vs ih => rw [sizes, ih, total_cons, Nat.add_assoc]

theorem fieldSizes_eq (n : Nat) (fields : Fields Value) :
    fieldSizes n fields = n + fieldTotal fields := by
  induction fields generalizing n with
  | nil => rw [fieldSizes, fieldTotal_nil, Nat.add_zero]
  | cons f fields ih =>
    obtain ⟨key, v⟩ := f
    rw [fieldSizes, ih, fieldTotal_cons, Nat.add_assoc n, Nat.add_assoc n]

@[simp] theorem size_array (items : List Value) : (array items).size = slot + total items :=
  sizes_eq slot items

@[simp] theorem size_object (fields : Fields Value) :
    (object fields).size = slot + fieldTotal fields :=
  fieldSizes_eq slot fields

@[simp] theorem size_string (s : String) : (string s).size = slot + s.utf8ByteSize := rfl

@[simp] theorem size_ofChars (cs : List Char) : (ofChars cs).size = slot + byteLength cs := by
  rw [ofChars, size_string, utf8ByteSize_ofList]

@[simp] theorem size_undefined : undefined.size = slot := rfl

@[simp] theorem size_null : null.size = slot := rfl

@[simp] theorem size_bool (b : Bool) : (bool b).size = slot := rfl

@[simp] theorem size_number (x : Float) : (number x).size = slot := rfl

@[simp] theorem size_ofNat (n : Nat) : (ofNat n).size = slot := size_number _

@[simp] theorem size_date (t : DateTime) : (date t).size = slot := rfl

@[simp] theorem size_host (h : Host) : (host h).size = slot := rfl

@[simp] theorem size_function (params : List String) (body : Expr)
    (captured : List (String × Value)) : (function params body captured).size = slot := rfl

/-- Every value takes up a slot. -/
theorem slot_le_size (v : Value) : slot ≤ v.size := by
  cases v <;> simp

/-! ### Items -/

theorem size_le_total {v : Value} {vs : List Value} (h : v ∈ vs) : v.size ≤ total vs :=
  List.le_sum_of_mem (List.mem_map_of_mem h)

theorem total_le_of_sublist {vs ws : List Value} (h : vs.Sublist ws) : total vs ≤ total ws :=
  (h.map size).sum_le_sum fun _ _ => Nat.zero_le _

theorem total_eq_of_perm {vs ws : List Value} (h : vs.Perm ws) : total vs = total ws :=
  (h.map size).sum_eq

theorem total_reverse (vs : List Value) : total vs.reverse = total vs :=
  total_eq_of_perm vs.reverse_perm

theorem slot_mul_length_le_total (vs : List Value) : slot * vs.length ≤ total vs := by
  induction vs with
  | nil => exact Nat.le_refl 0
  | cons v vs ih =>
    have hv := v.slot_le_size
    rw [List.length_cons, total_cons, Nat.mul_succ]
    omega

/-- The other values take up a slot each. -/
theorem size_add_slots_le_total {v : Value} {vs : List Value} (h : v ∈ vs) :
    v.size + slot * (vs.length - 1) ≤ total vs := by
  obtain ⟨before, after, rfl⟩ := List.append_of_mem h
  have hbefore := slot_mul_length_le_total before
  have hafter := slot_mul_length_le_total after
  have hlength : (before ++ v :: after).length - 1 = before.length + after.length := by
    rw [List.length_append, List.length_cons]
    omega
  rw [hlength, Nat.mul_add, total_append, total_cons]
  omega

theorem total_arrays (vss : List (List Value)) :
    total (vss.map array) = slot * vss.length + total vss.flatten := by
  induction vss with
  | nil => rfl
  | cons vs vss ih =>
    rw [List.map_cons, total_cons, ih, size_array, List.flatten_cons, total_append,
      List.length_cons, Nat.mul_succ]
    omega

theorem total_texts (css : List (List Char)) :
    total (css.map ofChars) = slot * css.length + byteLength css.flatten := by
  induction css with
  | nil => rfl
  | cons cs css ih =>
    rw [List.map_cons, total_cons, ih, size_ofChars, List.flatten_cons, byteLength_append,
      List.length_cons, Nat.mul_succ]
    omega

/-! ### Fields -/

theorem size_le_fieldTotal {f : String × Value} {fields : Fields Value} (h : f ∈ fields) :
    f.1.utf8ByteSize + f.2.size ≤ fieldTotal fields :=
  List.le_sum_of_mem (List.mem_map_of_mem (f := fun f => f.1.utf8ByteSize + f.2.size) h)

theorem fieldTotal_le_of_sublist {fields more : Fields Value} (h : fields.Sublist more) :
    fieldTotal fields ≤ fieldTotal more :=
  (h.map _).sum_le_sum fun _ _ => Nat.zero_le _

theorem total_values_le (fields : Fields Value) : total fields.values ≤ fieldTotal fields := by
  induction fields with
  | nil => exact Nat.le_refl 0
  | cons f fields ih =>
    simp only [Fields.values, List.map_cons, total_cons, fieldTotal_cons] at ih ⊢
    omega

theorem mem_of_get? {α : Type} {fields : Fields α} {key : String} {v : α}
    (h : fields.get? key = some v) : (key, v) ∈ fields := by
  obtain ⟨before, after, rfl, -⟩ := List.lookup_eq_some_iff.1 h
  exact List.mem_append_right before List.mem_cons_self

theorem size_get?_le {fields : Fields Value} {key : String} {v : Value}
    (h : fields.get? key = some v) : key.utf8ByteSize + v.size ≤ fieldTotal fields :=
  size_le_fieldTotal (mem_of_get? h)

/-- Of distinct keys, at most one is replaced. -/
theorem fieldTotal_replace_le {fields : Fields Value} (h : fields.Distinct) (key : String)
    (v : Value) :
    fieldTotal (fields.replace key v) ≤ fieldTotal fields + key.utf8ByteSize + v.size := by
  induction fields with
  | nil => exact Nat.zero_le _
  | cons f fields ih =>
    obtain ⟨hnotin, hdistinct⟩ := List.nodup_cons.1 h
    have hrest := ih hdistinct
    rw [Fields.replace, List.map_cons]
    split
    · next hkey =>
      -- the key is not there a second time
      have hsame : Fields.replace fields key v = fields := by
        refine (List.map_congr_left fun g hg => if_neg fun hgkey => hnotin ?_).trans
          (List.map_id fields)
        rw [eq_of_beq hkey, ← eq_of_beq hgkey]
        exact List.mem_map_of_mem hg
      rw [fieldTotal_cons, fieldTotal_cons]
      change _ + fieldTotal (Fields.replace fields key v) ≤ _
      rw [hsame]
      dsimp only
      omega
    · rw [fieldTotal_cons, fieldTotal_cons]
      change _ + fieldTotal (Fields.replace fields key v) ≤ _
      omega

theorem fieldTotal_insert_le {fields : Fields Value} (h : fields.Distinct) (key : String)
    (v : Value) :
    fieldTotal (fields.insert key v) ≤ fieldTotal fields + key.utf8ByteSize + v.size := by
  unfold Fields.insert
  split
  · exact fieldTotal_replace_le h key v
  · rw [fieldTotal_append, fieldTotal_cons, fieldTotal_nil]
    dsimp only
    omega

theorem distinct_nil : Fields.Distinct ([] : Fields Value) := List.nodup_nil

theorem distinct_extend {fields : Fields Value} (h : fields.Distinct) (more : Fields Value) :
    (fields.extend more).Distinct := by
  induction more generalizing fields with
  | nil => exact h
  | cons f more ih => exact ih (h.insert f.1 f.2)

theorem fieldTotal_extend_le {fields : Fields Value} (h : fields.Distinct) (more : Fields Value) :
    fieldTotal (fields.extend more) ≤ fieldTotal fields + fieldTotal more := by
  induction more generalizing fields with
  | nil => exact Nat.le_refl _
  | cons f more ih =>
    have hrest := ih (h.insert f.1 f.2)
    have hinsert := fieldTotal_insert_le h f.1 f.2
    rw [fieldTotal_cons]
    change fieldTotal ((fields.insert f.1 f.2).extend more) ≤ _
    omega

theorem fieldTotal_mergeNew_le (fields more : Fields Value) :
    fieldTotal (more.foldl (fun out f => out.insertNew f.1 f.2) fields) ≤
      fieldTotal fields + fieldTotal more := by
  induction more generalizing fields with
  | nil => exact Nat.le_refl _
  | cons f more ih =>
    have hrest := ih (fields.insertNew f.1 f.2)
    have hinsert : fieldTotal (fields.insertNew f.1 f.2) ≤
        fieldTotal fields + f.1.utf8ByteSize + f.2.size := by
      unfold Fields.insertNew
      split
      · omega
      · rw [fieldTotal_append, fieldTotal_cons, fieldTotal_nil]
        dsimp only
        omega
    rw [List.foldl_cons, fieldTotal_cons]
    omega

theorem mem_insert {fields : Fields Value} {key : String} {v : Value} {f : String × Value}
    (h : f ∈ fields.insert key v) : f ∈ fields ∨ f = (key, v) := by
  unfold Fields.insert at h
  split at h
  · obtain ⟨g, hg, rfl⟩ := List.mem_map.1 h
    split
    · exact .inr rfl
    · exact .inl hg
  · rcases List.mem_append.1 h with hf | hf
    · exact .inl hf
    · exact .inr (List.mem_singleton.1 hf)

theorem mem_extend {fields more : Fields Value} {f : String × Value}
    (h : f ∈ fields.extend more) : f ∈ fields ∨ f ∈ more := by
  induction more generalizing fields with
  | nil => exact .inl h
  | cons g more ih =>
    have hcases : f ∈ fields.insert g.1 g.2 ∨ f ∈ more := ih h
    rcases hcases with hf | hf
    · rcases mem_insert hf with hf | rfl
      · exact .inl hf
      · exact .inr List.mem_cons_self
    · exact .inr (List.mem_cons_of_mem g hf)

/-- Fields with distinct keys are no larger than fields that they are all among. -/
theorem fieldTotal_le_of_subset {fields more : Fields Value} (h : fields.Distinct)
    (hsubset : fields ⊆ more) : fieldTotal fields ≤ fieldTotal more := by
  obtain ⟨part, hperm, hsub⟩ := List.subperm_of_subset (List.Nodup.of_map _ h) hsubset
  calc fieldTotal fields = fieldTotal part := ((hperm.map _).sum_eq).symm
    _ ≤ fieldTotal more := fieldTotal_le_of_sublist hsub

/-- Fields that are picked out of others by their names. -/
theorem fieldTotal_picked_le (fields : Fields Value) (names : List String) :
    fieldTotal (Fields.ofPairs (names.filterMap fun name => (fields.get? name).map (name, ·))) ≤
      fieldTotal fields := by
  refine fieldTotal_le_of_subset (distinct_extend distinct_nil _) fun f hf => ?_
  rcases mem_extend hf with hf | hf
  · cases hf
  · obtain ⟨name, -, hname⟩ := List.mem_filterMap.1 hf
    obtain ⟨v, hv, rfl⟩ := Option.map_eq_some_iff.1 hname
    exact mem_of_get? hv

/-! ### Properties -/

theorem size_ofChar_le {c : Char} {s : String} (h : c ∈ s.toList) :
    (ofChar c).size ≤ (string s).size := by
  have hle := byteLength_le_of_sublist (List.singleton_sublist.2 h)
  rw [byteLength_toList] at hle
  have hc : ofChar c = ofChars [c] := by
    rw [ofChar, ofChars, Char.toString, String.singleton_eq_ofList]
  rw [hc, size_ofChars, size_string]
  omega

theorem size_itemAt_le {α : Type} {wrap : α → Value} {items : List α} {n : Nat} (hn : slot ≤ n)
    (hwrap : ∀ a ∈ items, (wrap a).size ≤ n) (x : Float) : (itemAt wrap items x).size ≤ n := by
  unfold itemAt
  cases h : (Number.asIndex? x).bind (items[·]?) with
  | none => exact hn
  | some a =>
    obtain ⟨i, -, hi⟩ := Option.bind_eq_some_iff.1 h
    exact hwrap a (List.mem_of_getElem? hi)

theorem size_listProperty_le {α : Type} {wrap : α → Value} {items : List α} {n : Nat}
    (hn : slot ≤ n) (hwrap : ∀ a ∈ items, (wrap a).size ≤ n) (name : String) :
    (listProperty wrap items name).size ≤ n := by
  unfold listProperty
  split
  · exact hn
  · cases Number.readDecimalOrWord? name.toList with
    | none => exact hn
    | some x => exact size_itemAt_le hn hwrap x

theorem size_item_le {v : Value} {items : List Value} (h : v ∈ items) :
    v.size ≤ (array items).size := by
  rw [size_array]
  exact Nat.le_add_left_of_le (size_le_total h)

/-- What a value has under a name is no larger than the value. -/
theorem size_property_le (v : Value) (name : String) : (v.property name).size ≤ v.size := by
  cases v with
  | object fields =>
    simp only [property]
    cases h : Fields.get? fields name with
    | none => exact slot_le_size _
    | some v =>
      have hv := size_get?_le h
      rw [size_object, Option.getD_some]
      omega
  | array items => exact size_listProperty_le (slot_le_size _) (fun _ => size_item_le) name
  | string s => exact size_listProperty_le (slot_le_size _) (fun _ => size_ofChar_le) name
  | date t =>
    simp only [property, DateTime.property]
    split
    · simp
    · split_ifs <;> simp
  | _ => exact Nat.le_refl _

end Value

end TemplateExpr
