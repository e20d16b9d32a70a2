import TemplateExpr.Proofs.Eval.Run
import TemplateExpr.Proofs.Value.Equality
import TemplateExpr.Method.Array

/-!
# Items without repetitions

`unique` with names of fields keeps, in their order, the items to which no item in front of them is
equal (`unique_eq_firsts`): two objects if the values of all of these fields are the same, other
items if they are the same themselves.

What is compared of an object is the array of the values of its fields, next to the other items. So
it is mistaken for an array with these very items, and a NaN in a field, now that it stands in an
array, is not the same as itself any more (`unique_mistakes`); that neither happens is what
`ToldApart` says.
-/

namespace TemplateExpr

/-! ### Sameness -/

namespace Value

variable {u v w : Value}

theorem sameValue_iff : v.sameValue w = true ↔
    (∃ x y, v = number x ∧ w = number y ∧ Number.isNaN x = true ∧ Number.isNaN y = true) ∨
      v.strictEquals w = true := by
  constructor
  · unfold sameValue
    split
    · next x y =>
      rw [Bool.or_eq_true, Bool.and_eq_true, strictEquals]
      exact Or.imp_left fun h => ⟨x, y, rfl, rfl, h.1, h.2⟩
    · exact .inr
  · rintro (⟨x, y, rfl, rfl, hx, hy⟩ | h)
    · rw [sameValue, hx, hy]
      rfl
    · unfold sameValue
      split
      · rw [strictEquals] at h
        rw [h, Bool.or_true]
      · exact h

theorem sameValue_eq_strictEquals
    (h : ∀ x y, v = number x → w = number y → (Number.isNaN x && Number.isNaN y) = false) :
    v.sameValue w = v.strictEquals w := by
  rw [Bool.eq_iff_iff, sameValue_iff]
  refine ⟨Or.rec ?_ id, .inr⟩
  rintro ⟨x, y, rfl, rfl, hx, hy⟩
  have hboth := h x y rfl rfl
  rw [hx, hy] at hboth
  cases hboth

theorem sameValue_trans (huv : u.sameValue v = true) (hvw : v.sameValue w = true) :
    u.sameValue w = true := by
  rw [sameValue_iff] at huv hvw ⊢
  rcases huv with ⟨x, y, rfl, rfl, hx, hy⟩ | huv
  · rcases hvw with ⟨_, z, -, rfl, -, hz⟩ | hvw
    · exact .inl ⟨x, z, rfl, rfl, hx, hz⟩
    · cases strictEquals_iff.1 hvw with
      | number h => rw [(Number.isNaN_of_beq h).1] at hy; cases hy
  · rcases hvw with ⟨y, z, rfl, rfl, hy, -⟩ | hvw
    · cases strictEquals_iff.1 huv with
      | number h => rw [(Number.isNaN_of_beq h).2] at hy; cases hy
    · exact .inr (strictEquals_trans huv hvw)

end Value

namespace ArrayMethod

open Value

variable {α : Type} {names : List String} {items : List Value}

/-! ### First occurrences -/

/-- The items to which none in front of them is equal, in their order. -/
def firsts (same : α → α → Bool) (as : List α) : List α :=
  (as.zipIdx.filter fun a => !(as.take a.2).any (same · a.1)).map Prod.fst

/-- Behind items `before`, the loop keeps those items to which none in front of them is equal. That
an item has been dropped makes no difference to `seen`: whatever is the same as its key is the same
as the key for which it was dropped. -/
theorem distinctFrom_eq {key : Value → Value} {same : Value → Value → Bool} (before : List Value)
    {seen acc items : List Value}
    (hseen : ∀ k, holds seen k = before.any fun v => (key v).sameValue k)
    (hsame : (before ++ items).Pairwise fun v w => (key v).sameValue (key w) = same v w) :
    distinctFrom key seen acc items = acc.reverse ++
      ((items.zipIdx before.length).filter fun a =>
        !((before ++ items).take a.2).any (same · a.1)).map Prod.fst := by
  induction items generalizing seen acc before with
  | nil => simp [distinctFrom]
  | cons item items ih =>
    have hheld : holds seen (key item) = before.any (same · item) := by
      rw [hseen, Bool.eq_iff_iff, List.any_eq_true, List.any_eq_true]
      have hpair : ∀ v ∈ before, (key v).sameValue (key item) = same v item := fun v hv =>
        (List.pairwise_append.1 hsame).2.2 v hv item List.mem_cons_self
      exact exists_congr fun v => and_congr_right fun hv => by rw [hpair v hv]
    have happend : before ++ item :: items = (before ++ [item]) ++ items := by simp
    have hnext := happend ▸ hsame
    have hlength : (before ++ [item]).length = before.length + 1 := by simp
    rw [List.zipIdx_cons, List.filter_cons, List.take_left' rfl, ← hheld, distinctFrom]
    split
    · next hdrop =>
      rw [hdrop, happend, ← hlength]
      refine ih _ (fun k => ?_) hnext
      rw [List.any_append, ← hseen, List.any_cons, List.any_nil, Bool.or_false]
      rw [Bool.eq_iff_iff, Bool.or_eq_true]
      -- what is the same as the item is the same as an earlier one that it was dropped for
      refine ⟨.inl, Or.rec id fun hk => ?_⟩
      obtain ⟨v, hv, hvitem⟩ := List.any_eq_true.1 hdrop
      exact List.any_eq_true.2 ⟨v, hv, sameValue_trans hvitem hk⟩
    · next hkeep =>
      rw [Bool.not_eq_true] at hkeep
      rw [hkeep, happend, ← hlength, ih _ (fun k => ?_) hnext]
      · simp
      · rw [holds, List.any_cons, List.any_append, ← hseen, Bool.or_comm]
        simp [holds]

/-! ### Equality by fields -/

/-- The value of a field; undefined if it is missing. -/
def fieldOf (fields : Fields Value) (name : String) : Value := (fields.get? name).getD .undefined

/-- Whether two items are equal: objects if the values of all fields that are named are the same,
other items if they are the same themselves. -/
def sameByFields (names : List String) : Value → Value → Bool
  | .object fields, .object fields' =>
    names.all fun name => (fieldOf fields name).sameValue (fieldOf fields' name)
  | .object _, _ | _, .object _ => false
  | v, w => v.sameValue w

/-- What is compared of two items does not mistake them: no two objects have a NaN in the same
field, and the values of the fields of an object are not the items of an array. -/
def ToldApart (names : List String) : Value → Value → Prop
  | .object fields, .object fields' => ∀ name ∈ names, ∀ x y, fieldOf fields name = .number x →
    fieldOf fields' name = .number y → (Number.isNaN x && Number.isNaN y) = false
  | .object fields, .array items =>
    (Value.array (names.map (fieldOf fields))).strictEquals (.array items) = false
  | .array items, .object fields =>
    (Value.array items).strictEquals (.array (names.map (fieldOf fields))) = false
  | _, _ => True

theorem identity_object (hnames : names ≠ []) (fields : Fields Value) :
    identity names (.object fields) = .array (names.map (fieldOf fields)) := by
  have hempty : names.isEmpty = false := by simpa using hnames
  rw [identity, hempty]
  rfl

/-- Arrays of the values of fields. -/
theorem strictEquals_fields (f g : String → Value) :
    (Value.array (names.map f)).strictEquals (.array (names.map g)) =
      names.all fun name => (f name).strictEquals (g name) := by
  rw [Bool.eq_iff_iff, List.all_eq_true, strictEquals_iff]
  constructor
  · rintro (_ | _ | _ | _ | _ | h)
    rw [List.forall₂_map_left_iff, List.forall₂_map_right_iff] at h
    exact List.forall₂_same.1 h
  · intro h
    refine .array ?_
    rw [List.forall₂_map_left_iff, List.forall₂_map_right_iff]
    exact List.forall₂_same.2 h

/-- Where two items are not mistaken, what is compared of them is the same exactly if they are equal
by their fields. -/
theorem sameValue_identity (hnames : names ≠ []) {v w : Value} (h : ToldApart names v w) :
    (identity names v).sameValue (identity names w) = sameByFields names v w := by
  cases v with
  | object fields =>
    rw [identity_object hnames]
    cases w with
    | object fields' =>
      rw [identity_object hnames, sameByFields, sameValue, strictEquals_fields, Bool.eq_iff_iff,
        List.all_eq_true, List.all_eq_true]
      · exact forall₂_congr fun name hname => by rw [sameValue_eq_strictEquals (h name hname)]
      · exact nofun
    | array items => exact h
    | _ => rfl
  | array items =>
    cases w with
    | object fields =>
      rw [identity_object hnames]
      exact h
    | _ => rfl
  | _ =>
    cases w with
    | object fields =>
      rw [identity_object hnames]
      rfl
    | _ => rfl

/-! ### The method -/

/-- Texts are read as they stand, those behind `before` included. -/
theorem mapM_text (method : String) (before names : List String) :
    (List.range' before.length names.length).mapM
      (Arguments.text method ((before ++ names).map .string)) = .ok names := by
  induction names generalizing before with
  | nil => rfl
  | cons name names ih =>
    have hname : Arguments.text method ((before ++ name :: names).map .string) before.length =
        .ok name := by
      rw [Arguments.text, List.getElem?_map, List.getElem?_append_right (Nat.le_refl _),
        Nat.sub_self]
      rfl
    have hnames := ih (before ++ [name])
    rw [List.append_assoc, List.singleton_append, List.length_append,
      List.length_singleton] at hnames
    rw [List.length_cons, List.range'_succ, List.mapM_cons, hname]
    change (_ >>= fun names => _) = _
    rw [hnames]
    rfl

theorem texts_strings (method : String) (names : List String) :
    Arguments.texts method (names.map .string) = .ok names := by
  rw [Arguments.texts, List.length_map, List.range_eq_range']
  exact mapM_text method [] names

/-- With names of fields, the items are kept to which no item in front of them is equal, in their
order and with the memory for them reserved. -/
theorem unique_eq_firsts (call : Caller) (hnames : names ≠ [])
    (h : items.Pairwise (ToldApart names)) :
    unique call items (names.map .string) = (do
      Eval.reserveSlots (firsts (sameByFields names) items).length
      pure (.array (firsts (sameByFields names) items))) := by
  have hkept : distinctBy (identity names) items = firsts (sameByFields names) items := by
    refine distinctFrom_eq [] (fun _ => rfl) ?_
    exact h.imp fun hpair => sameValue_identity hnames hpair
  rw [← hkept, unique, build, texts_strings]
  rfl

/-- Of two objects with one value in the field the first stays, and so do an array of another value
and an object without the field. -/
theorem unique_eq_firsts_array :
    unique (fun _ _ => pure .undefined) [.object [("k", .bool true), ("v", .null)],
      .object [("k", .bool true)], .array [.bool false], .object []] [.string "k"] = (do
        Eval.reserveSlots 3
        pure (.array [.object [("k", .bool true), ("v", .null)], .array [.bool false],
          .object []])) := by
  have hnames : ["k"] ≠ [] := by decide
  exact unique_eq_firsts _ hnames
    (by simp [ToldApart, fieldOf, Fields.get?, strictEquals, itemsEqual])

/-- An array behind an object is dropped if its items are the values of the fields of the object,
and an object with a NaN in a field is kept behind another one. -/
theorem unique_mistakes :
    unique (fun _ _ => pure .undefined) [.object [("k", .bool true)], .array [.bool true]]
        [.string "k"] = (do
          Eval.reserveSlots 1
          pure (.array [.object [("k", .bool true)]])) ∧
      firsts (sameByFields ["k"]) [.object [("k", .bool true)], .array [.bool true]] =
        [.object [("k", .bool true)], .array [.bool true]] ∧
      distinctBy (identity ["k"])
          [.object [("k", .number Number.nan)], .object [("k", .number Number.nan)]] =
        [.object [("k", .number Number.nan)], .object [("k", .number Number.nan)]] ∧
      firsts (sameByFields ["k"])
          [.object [("k", .number Number.nan)], .object [("k", .number Number.nan)]] =
        [.object [("k", .number Number.nan)]] := by
  have hkey : (array [number Number.nan]).sameValue (array [number Number.nan]) = false := by
    decide +kernel
  have hfield : (number Number.nan).sameValue (number Number.nan) = true := by decide +kernel
  refine ⟨rfl, rfl, ?_, ?_⟩
  · simp [distinctBy, distinctFrom, holds, identity_object, fieldOf, Fields.get?, hkey]
  · simp [firsts, sameByFields, fieldOf, Fields.get?, hfield]

end ArrayMethod

end TemplateExpr
