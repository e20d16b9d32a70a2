/-!
# Ordered fields

Objects keep their fields in the order in which the keys were first written. `Fields α` is the list
of the fields; every operation here keeps the keys distinct, and writing to a key that is there
changes its value and leaves its place.
-/

namespace TemplateExpr

/-- Keys and values in insertion order. -/
abbrev Fields (α : Type) := List (String × α)

namespace Fields

variable {α : Type}

/-- The keys in order. -/
def keys (fs : Fields α) : List String := fs.map Prod.fst

/-- The values in order. -/
def values (fs : Fields α) : List α := fs.map Prod.snd

/-- The value of the field `key`. -/
def get? (fs : Fields α) (key : String) : Option α := fs.lookup key

/-- Whether there is a field `key`. -/
def has (fs : Fields α) (key : String) : Bool := fs.any (·.1 == key)

/-- Puts `value` in the place of the field `key`; the fields are left alone if there is none. -/
def replace (fs : Fields α) (key : String) (value : α) : Fields α :=
  fs.map fun f => if f.1 == key then (key, value) else f

/-- Writes the field `key`, behind the others if it is new. -/
def insert (fs : Fields α) (key : String) (value : α) : Fields α :=
  if fs.has key then fs.replace key value else fs ++ [(key, value)]

/-- Writes the field `key` only if it is not there. -/
def insertNew (fs : Fields α) (key : String) (value : α) : Fields α :=
  if fs.has key then fs else fs ++ [(key, value)]

/-- The fields without the field `key`. -/
def erase (fs : Fields α) (key : String) : Fields α := fs.filter (·.1 != key)

/-- Writes the fields of `more` one after the other. -/
def extend (fs more : Fields α) : Fields α := more.foldl (fun fs f => fs.insert f.1 f.2) fs

/-- The fields that arise from writing the pairs one after the other. -/
def ofPairs (pairs : List (String × α)) : Fields α := extend [] pairs

/-- No two fields have the same key. -/
def Distinct (fs : Fields α) : Prop := fs.keys.Nodup

theorem keys_replace (fs : Fields α) (key : String) (value : α) :
    (fs.replace key value).keys = fs.keys := by
  simp only [keys, replace, List.map_map]
  apply List.map_congr_left
  intro f _
  by_cases h : f.1 = key <;> simp [h]

theorem has_iff (fs : Fields α) (key : String) : fs.has key = true ↔ key ∈ fs.keys := by
  simp only [has, keys, List.any_eq_true, List.mem_map, beq_iff_eq]

/-- Writing a field keeps the keys distinct. -/
theorem Distinct.insert {fs : Fields α} (h : fs.Distinct) (key : String) (value : α) :
    (fs.insert key value).Distinct := by
  unfold Fields.insert
  split
  · unfold Distinct; rw [keys_replace]; exact h
  · next hk =>
    have hk' : key ∉ fs.keys := fun hm => hk ((has_iff fs key).2 hm)
    simp only [Distinct, keys, List.map_append, List.map_cons, List.map_nil]
    rw [List.nodup_append]
    refine ⟨h, by simp, ?_⟩
    intro a ha b hb hab
    simp only [List.mem_singleton] at hb
    exact hk' (by rw [← hb, ← hab]; exact ha)

end Fields

end TemplateExpr
