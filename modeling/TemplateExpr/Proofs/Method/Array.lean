import TemplateExpr.Proofs.Method.Basic
import TemplateExpr.Method.Array

/-!
# Methods of arrays in two sandboxes

The functions that are passed to a method are called in both sandboxes in the same order with paired
arguments. What is not calculated from the items is one of them or was given by a function.
-/

namespace TemplateExpr.ArrayMethod

open TemplateExpr.Eval TemplateExpr.Eval.Comparison Value

variable {L : Comparison} {p : Pairing} {items items' args args' : List Value} {c c' : Caller}

/-- Items of arrays that are paired one by one. -/
abbrev PairedItems (p : Pairing) : List Value → List Value → Prop := List.Forall₂ (Paired p)

/-! ### Kinds of methods -/

theorem respects_convert {f : List Value → Value}
    (h : ∀ items items', PairedItems p items items' → Paired p (f items) (f items')) :
    L.Respects p (PairedItems p) (convert f) :=
  respects_pure fun items items' _ _ hitems _ => h items items' hitems

theorem respects_build {f : List Value → List Value → Except EvalError (List Value)}
    (h : ∀ items items' args args', PairedItems p items items' → PairedItems p args args' →
      L.Ends (PairedItems p) (f items args) (f items' args')) :
    L.Respects p (PairedItems p) (build f) := by
  intro c c' _ items items' args args' hitems hargs
  refine L.rel_ofExcept_bind (h _ _ _ _ hitems hargs) fun out out' hout => ?_
  exact L.rel_reserve_bind (congrArg _ hout.length_eq) (L.rel_pure (.array hout))

theorem ends_numbers (method : String) (h : PairedItems p items items') :
    L.Ends Eq (numbers method items) (numbers method items') := by
  have hnumbers : items.map toNumber = items'.map toNumber :=
    List.forall₂_eq_eq_eq ▸ List.rel_map (fun _ _ hv => hv.toNumber_eq) h
  have hfound : Option.Rel (Paired p) (items.find? fun item => Number.isNaN item.toNumber)
      (items'.find? fun item => Number.isNaN item.toNumber) := by
    clear hnumbers
    induction h with
    | nil => exact .none
    | cons hv _ ih =>
      rw [List.find?_cons, List.find?_cons, hv.toNumber_eq]
      split
      · exact .some hv
      · exact ih
  unfold numbers
  rw [hnumbers]
  generalize (items.find? fun item => Number.isNaN item.toNumber) = v?,
    (items'.find? fun item => Number.isNaN item.toNumber) = w? at hfound
  cases hfound with
  | none => exact .ok rfl
  | some hv =>
    dsimp only
    rw [hv.toText_eq]
    exact L.ends_fail rfl

theorem respects_calculate (method : String) (f : List Float → Option Float) :
    L.Respects p (PairedItems p) (calculate method f) := by
  intro c c' _ items items' args args' hitems _
  refine L.rel_ofExcept_bind (ends_numbers method hitems) fun xs _ hxs => ?_
  subst hxs
  cases f xs with
  | none => exact L.rel_pure .undefined
  | some x => exact L.rel_pure (.number x)

/-! ### Functions on items -/

theorem rel_applyTo (hc : L.Callers p c c') {f f' : Value} (hf : Paired p f f') (i : Nat)
    {item item' : Value} (hitem : Paired p item item') :
    L.rel (Paired p) (applyTo c f i item) (applyTo c' f' i item') :=
  hc f f' _ _ hf (.cons hitem (.cons (.ofNat i) .nil))

theorem rel_accepts (hc : L.Callers p c c') {f f' : Value} (hf : Paired p f f') (i : Nat)
    (item item' : Value) (hitem : Paired p item item') :
    L.rel Eq (accepts c f i item) (accepts c' f' i item') :=
  L.rel_bind_pure (rel_applyTo hc hf i hitem) fun _ _ hv => hv.truthy_eq

theorem respects_map : L.Respects p (PairedItems p) map := by
  intro c c' hc items items' args args' hitems hargs
  refine L.rel_ofExcept_bind (Arguments.ends_function hargs _ _) fun f f' hf => ?_
  refine L.rel_reserve_bind (congrArg _ hitems.length_eq) ?_
  refine L.rel_bind_pure (L.rel_mapItems (fun i v w hv => ?_) hitems) fun _ _ hout => .array hout
  exact rel_applyTo hc hf i hv

/-- The items that verdicts accept. -/
theorem pairedItems_accepted (h : PairedItems p items items') (verdicts : List Bool) :
    PairedItems p (((items.zip verdicts).filter (·.2)).map (·.1))
      (((items'.zip verdicts).filter (·.2)).map (·.1)) := by
  induction h generalizing verdicts with
  | nil => exact .nil
  | cons hv _ ih =>
    cases verdicts with
    | nil => exact .nil
    | cons verdict verdicts =>
      cases verdict with
      | true => exact .cons hv (ih verdicts)
      | false => exact ih verdicts

theorem respects_filter : L.Respects p (PairedItems p) filter := by
  intro c c' hc items items' args args' hitems hargs
  refine L.rel_ofExcept_bind (Arguments.ends_function hargs _ _) fun f f' hf => ?_
  refine L.rel_bind (L.rel_mapItems (rel_accepts hc hf) hitems)
    fun verdicts verdicts' hverdicts => ?_
  rw [List.forall₂_eq_eq_eq] at hverdicts
  subst hverdicts
  have hout := pairedItems_accepted hitems verdicts
  exact L.rel_reserve_bind (congrArg _ hout.length_eq) (L.rel_pure (.array hout))

theorem rel_search (method : String) (hc : L.Callers p c c') (hitems : PairedItems p items items')
    (hargs : PairedItems p args args') :
    L.rel (Option.Rel fun x y => x.1 = y.1 ∧ Paired p x.2 y.2) (search method c items args)
      (search method c' items' args') := by
  refine L.rel_ofExcept_bind (Arguments.ends_function hargs _ _) fun f f' hf => ?_
  exact L.rel_findItem? (rel_accepts hc hf) hitems

theorem respects_find : L.Respects p (PairedItems p) find := by
  intro c c' hc items items' args args' hitems hargs
  refine L.rel_bind_pure (rel_search "find" hc hitems hargs) fun found found' hfound => ?_
  cases hfound with
  | none => exact .undefined
  | some h => exact h.2

theorem respects_findIndex : L.Respects p (PairedItems p) findIndex := by
  intro c c' hc items items' args args' hitems hargs
  refine L.rel_bind_pure (rel_search "findIndex" hc hitems hargs) fun found found' hfound => ?_
  cases hfound with
  | none => exact .number _
  | some h =>
    simp only [Option.map_some, Option.getD_some, h.1]
    exact .ofNat _

theorem respects_some : L.Respects p (PairedItems p) some_ := by
  intro c c' hc items items' args args' hitems hargs
  refine L.rel_bind_pure (rel_search "some" hc hitems hargs) fun found found' hfound => ?_
  cases hfound <;> exact .bool _

theorem respects_every : L.Respects p (PairedItems p) every := by
  intro c c' hc items items' args args' hitems hargs
  refine L.rel_ofExcept_bind (Arguments.ends_function hargs _ _) fun f f' hf => ?_
  refine L.rel_bind_pure (L.rel_findItem? (fun i v w hv => ?_) hitems) fun found found' hfound => ?_
  · exact L.rel_bind_pure (rel_accepts hc hf i v w hv) fun _ _ heq => congrArg (!·) heq
  · cases hfound <;> exact .bool _

theorem respects_reduce : L.Respects p (PairedItems p) reduce := by
  intro c c' hc items items' args args' hitems hargs
  refine L.rel_ofExcept_bind (Arguments.ends_function hargs _ _) fun f f' hf => ?_
  have hstep (acc acc' : Value) (i : Nat) (v w : Value) (hacc : Paired p acc acc')
      (hv : Paired p v w) : L.rel (Paired p) (c f [acc, v, .ofNat i]) (c' f' [acc', w, .ofNat i]) :=
    hc f f' _ _ hf (.cons hacc (.cons hv (.cons (.ofNat i) .nil)))
  have hstart := Paired.getElem? hargs 1
  dsimp only
  generalize args[1]? = start?, args'[1]? = start'? at hstart
  cases hstart with
  | some hstart => exact L.rel_foldFrom hstep hitems hstart 0
  | none =>
    cases hitems with
    | nil => exact L.rel_fail rfl
    | cons hstart hitems => exact L.rel_foldFrom hstep hitems hstart 1

/-! ### Order -/

/-- Two comparisons of items go together if they do on all paired items. -/
def Orders (L : Comparison) (p : Pairing) (f f' : Value → Value → Eval Bool) : Prop :=
  ∀ v v' w w', Paired p v w → Paired p v' w' → L.rel Eq (f v v') (f' w w')

/-- The order of the texts is the same one in both sandboxes. -/
theorem orders_texts : Orders L p (fun a b => pure (b.toText < a.toText))
    (fun a b => pure (b.toText < a.toText)) := by
  intro v v' w w' hv hv'
  dsimp only
  rw [hv.toText_eq, hv'.toText_eq]
  exact L.rel_pure rfl

/-- The order that a function gives. -/
theorem orders_calls (hc : L.Callers p c c') {f f' : Value} (hf : Paired p f f') :
    Orders L p (fun a b => do let v ← c f [a, b]; pure (0 < v.toNumber))
      (fun a b => do let v ← c' f' [a, b]; pure (0 < v.toNumber)) := by
  intro v v' w w' hv hv'
  refine L.rel_bind_pure (hc f f' _ _ hf (.cons hv (.cons hv' .nil))) fun x y hxy => ?_
  rw [hxy.toNumber_eq]

/-- Sorting by comparisons that go together. -/
theorem rel_sorted {f f' : Value → Value → Eval Bool} (h : Orders L p f f')
    (hitems : PairedItems p items items') :
    L.rel (Paired p)
      (do let sorted ← sortBy f (items.filter (!·.isUndefined))
          pure (.array (sorted ++ items.filter (·.isUndefined))))
      (do let sorted ← sortBy f' (items'.filter (!·.isUndefined))
          pure (.array (sorted ++ items'.filter (·.isUndefined)))) := by
  have hdefined : PairedItems p (items.filter (!·.isUndefined)) (items'.filter (!·.isUndefined)) :=
    List.rel_filter (fun _ _ hv => by simp only [hv.isUndefined_eq]) hitems
  have hundefined : PairedItems p (items.filter (·.isUndefined)) (items'.filter (·.isUndefined)) :=
    List.rel_filter (fun _ _ hv => by simp only [hv.isUndefined_eq]) hitems
  exact L.rel_bind_pure (L.rel_sortBy h hdefined) fun sorted sorted' hsorted =>
    .array (List.rel_append hsorted hundefined)

theorem respects_sort : L.Respects p (PairedItems p) sort := by
  intro c c' hc items items' args args' hitems hargs
  refine L.rel_reserve_bind (congrArg _ hitems.length_eq) ?_
  unfold comparison
  rw [(Paired.nth hargs 0).isUndefined_eq]
  by_cases hu : (Arguments.nth args' 0).isUndefined = true
  · rw [if_pos hu, if_pos hu]
    exact rel_sorted orders_texts hitems
  · rw [if_neg hu, if_neg hu, bind_assoc, bind_assoc]
    refine L.rel_ofExcept_bind (Arguments.ends_function hargs _ _) fun f f' hf => ?_
    rw [pure_bind, pure_bind]
    exact rel_sorted (orders_calls hc hf) hitems

/-! ### Texts -/

theorem respects_join : L.Respects p (PairedItems p) join := by
  intro c c' _ items items' args args' hitems hargs
  refine L.rel_ofExcept_bind (Arguments.ends_text? hargs _ _) fun sep _ hsep => ?_
  subst hsep
  dsimp only
  rw [Paired.itemTexts_eq hitems]
  exact L.rel_reserve_bind rfl (L.rel_pure (.string _))

theorem respects_toJsonString : L.Respects p (PairedItems p) toJsonString := by
  intro c c' _ items items' args args' hitems _
  unfold toJsonString
  dsimp only
  rw [(Paired.array hitems).jsonText_eq]
  exact L.rel_reserve_bind rfl (L.rel_pure (.string _))

/-! ### Items -/

theorem holds_eq (hitems : PairedItems p items items') {v w : Value} (hv : Paired p v w) :
    holds items v = holds items' w := by
  induction hitems with
  | nil => rfl
  | cons hitem _ ih =>
    rw [holds, holds, List.any_cons, List.any_cons, Paired.sameValue_eq hitem hv]
    exact congrArg (_ || ·) ih

theorem respects_indexOf : L.Respects p (PairedItems p) indexOf := by
  refine respects_pure fun items items' args args' hitems hargs => ?_
  have hv := Paired.nth hargs 0
  have hindex : items.findIdx? (·.strictEquals (Arguments.nth args 0)) =
      items'.findIdx? (·.strictEquals (Arguments.nth args' 0)) := by
    induction hitems with
    | nil => rfl
    | cons hitem _ ih =>
      rw [List.findIdx?_cons, List.findIdx?_cons, Paired.strictEquals_eq hitem hv, ih]
  rw [hindex]
  cases items'.findIdx? (·.strictEquals (Arguments.nth args' 0)) with
  | none => exact .number _
  | some i => exact .ofNat i

theorem respects_at : L.Respects p (PairedItems p) at_ := by
  refine respects_pure fun items items' args args' hitems hargs => Paired.getD ?_
  rw [Arguments.number?_eq hargs, hitems.length_eq]
  cases Number.itemIndex? ((Arguments.number? args' 0).getD 0) items'.length with
  | none => exact .none
  | some i => exact Paired.getElem? hitems i

theorem respects_slice : L.Respects p (PairedItems p) slice := by
  intro c c' _ items items' args args' hitems hargs
  unfold slice
  rw [Arguments.number?_eq hargs 0, Arguments.number?_eq hargs 1, hitems.length_eq]
  refine L.rel_reserve_bind rfl (L.rel_pure (.array ?_))
  exact List.forall₂_take _ (List.forall₂_drop _ hitems)

theorem pairedItems_spread {v w : Value} (h : Paired p v w) :
    PairedItems p (spread v) (spread w) := by
  cases h with
  | array h => exact h
  | function hcode hcaptured => exact .cons (.function hcode hcaptured) .nil
  | host h => exact .cons (.host h) .nil
  | object h => exact .cons (.object h) .nil
  | _ => exact .cons (by constructor) .nil

theorem respects_concat : L.Respects p (PairedItems p) concat := by
  refine respects_build fun items items' args args' hitems hargs => .ok ?_
  exact List.rel_append hitems (List.rel_flatMap hargs fun _ _ hv => pairedItems_spread hv)

theorem respects_append : L.Respects p (PairedItems p) append :=
  respects_build fun _ _ _ _ hitems hargs => .ok (List.rel_append hitems hargs)

/-- Flattening only moves items. -/
theorem pairedItems_flattened (depth : Nat) (h : PairedItems p items items') :
    PairedItems p (flattened depth items) (flattened depth items') := by
  induction depth generalizing items items' with
  | zero => exact h
  | succ depth ih =>
    refine List.rel_flatMap h fun v w hv => ?_
    cases hv with
    | array h => exact ih h
    | function hcode hcaptured => exact .cons (.function hcode hcaptured) .nil
    | host h => exact .cons (.host h) .nil
    | object h => exact .cons (.object h) .nil
    | _ => exact .cons (by constructor) .nil

theorem respects_flat : L.Respects p (PairedItems p) flat := by
  refine respects_build fun items items' args args' hitems hargs => .ok ?_
  rw [Arguments.number?_eq hargs]
  exact pairedItems_flattened _ hitems

theorem pairedItems_chunksFrom (size : Nat) {acc acc' : List (List Value)}
    (hacc : List.Forall₂ (PairedItems p) acc acc') (h : PairedItems p items items') :
    List.Forall₂ (PairedItems p) (chunksFrom size acc items) (chunksFrom size acc' items') := by
  fun_induction chunksFrom size acc items generalizing acc' items' with
  | case1 acc =>
    cases h
    rw [chunksFrom]
    exact List.rel_reverse hacc
  | case2 acc v items ih =>
    cases h with
    | cons hv h =>
      rw [chunksFrom]
      exact ih (.cons (.cons hv (List.forall₂_take _ h)) hacc) (List.forall₂_drop _ h)

theorem respects_chunk : L.Respects p (PairedItems p) chunk := by
  intro c c' _ items items' args args' hitems hargs
  refine L.rel_ofExcept_bind (Arguments.ends_number hargs _ _) fun size _ hsize => ?_
  subst hsize
  refine L.rel_check Iff.rfl (fun _ => L.fails_raised rfl) fun _ => ?_
  refine L.rel_reserve_bind (congrArg _ hitems.length_eq) (L.rel_pure (.array ?_))
  rw [hitems.length_eq]
  exact List.rel_map (fun _ _ h => .array h) (pairedItems_chunksFrom _ .nil hitems)

/-! ### Fields of items -/

/-- The fields of the items that are objects. -/
theorem paired_fields (h : PairedItems p items items') :
    List.Forall₂ (Fields.Related (Paired p)) (items.filterMap Value.fields?)
      (items'.filterMap Value.fields?) :=
  List.rel_filterMap (fun _ _ hv => hv.fields?) h

theorem paired_plucked (names : List String) {fields fields' : Fields Value}
    (h : Fields.Related (Paired p) fields fields') :
    Option.Rel (Paired p) (plucked? names fields) (plucked? names fields') := by
  match names with
  | [] => exact .some (.object h)
  | [name] => exact h.get? name
  | name :: name' :: names =>
    refine .some (.object (Fields.Related.ofPairs ?_))
    generalize name :: name' :: names = names
    induction names with
    | nil => exact .nil
    | cons name names ih =>
      have hname := h.get? name
      rw [List.filterMap_cons, List.filterMap_cons]
      generalize fields.get? name = v?, fields'.get? name = w? at hname
      cases hname with
      | none => exact ih
      | some hv => exact .cons name hv ih

theorem respects_pluck : L.Respects p (PairedItems p) pluck := by
  refine respects_build fun items items' args args' hitems hargs => ?_
  refine (Arguments.ends_texts hargs "pluck").bind fun names _ hnames => .ok ?_
  subst hnames
  exact List.rel_filterMap (fun _ _ h => paired_plucked names h) (paired_fields hitems)

theorem paired_identity (names : List String) {v w : Value} (h : Paired p v w) :
    Paired p (identity names v) (identity names w) := by
  cases h with
  | object h =>
    unfold identity
    dsimp only
    split
    · exact .object h
    · refine .array ?_
      clear * - h
      induction names with
      | nil => exact .nil
      | cons name names ih => exact .cons (Paired.getD (h.get? name)) ih
  | array h => exact .array h
  | function hcode hcaptured => exact .function hcode hcaptured
  | host h => exact .host h
  | _ => constructor

theorem pairedItems_distinctFrom {key key' : Value → Value}
    (hkey : ∀ v w, Paired p v w → Paired p (key v) (key' w)) {seen seen' acc acc' : List Value}
    (hseen : PairedItems p seen seen') (hacc : PairedItems p acc acc')
    (h : PairedItems p items items') :
    PairedItems p (distinctFrom key seen acc items) (distinctFrom key' seen' acc' items') := by
  induction h generalizing seen seen' acc acc' with
  | nil => exact List.rel_reverse hacc
  | cons hv _ ih =>
    unfold distinctFrom
    dsimp only
    rw [holds_eq hseen (hkey _ _ hv)]
    split
    · exact ih hseen hacc
    · exact ih (.cons (hkey _ _ hv) hseen) (.cons hv hacc)

theorem pairedItems_distinctBy {key key' : Value → Value}
    (hkey : ∀ v w, Paired p v w → Paired p (key v) (key' w)) (h : PairedItems p items items') :
    PairedItems p (distinctBy key items) (distinctBy key' items') :=
  pairedItems_distinctFrom hkey .nil .nil h

theorem respects_unique : L.Respects p (PairedItems p) unique := by
  refine respects_build fun items items' args args' hitems hargs => ?_
  refine (Arguments.ends_texts hargs "unique").bind fun names _ hnames => .ok ?_
  subst hnames
  exact pairedItems_distinctBy (fun _ _ hv => paired_identity names hv) hitems

theorem respects_smartJoin : L.Respects p (PairedItems p) smartJoin := by
  intro c c' _ items items' args args' hitems hargs
  refine L.rel_ofExcept_bind (Arguments.ends_text hargs _ _) fun keyName _ hkey => ?_
  refine L.rel_ofExcept_bind (Arguments.ends_text hargs _ _) fun valueName _ hvalue => ?_
  subst hkey hvalue
  have hpairs : List.Forall₂ (fun f g => f.1 = g.1 ∧ Paired p f.2 g.2)
      ((items.filterMap Value.fields?).filterMap fun fields =>
        (fields.get? keyName).map fun key =>
          (key.toText, (fields.get? valueName).getD .undefined))
      ((items'.filterMap Value.fields?).filterMap fun fields =>
        (fields.get? keyName).map fun key =>
          (key.toText, (fields.get? valueName).getD .undefined)) := by
    refine List.rel_filterMap (fun fields fields' h => ?_) (paired_fields hitems)
    have hkey := h.get? keyName
    generalize fields.get? keyName = v?, fields'.get? keyName = w? at hkey
    cases hkey with
    | none => exact .none
    | some hv => exact .some ⟨hv.toText_eq, Paired.getD (h.get? valueName)⟩
  have hout := Fields.Related.ofPairs (Fields.Related.of_pairs hpairs)
  exact L.rel_reserve_bind (congrArg _ hout.length_eq) (L.rel_pure (.object hout))

/-! ### Sets -/

theorem ends_other (method : String) (h : PairedItems p args args') :
    L.Ends (PairedItems p) (other method args) (other method args') := by
  have hfirst := Paired.nth h 0
  unfold other
  generalize Arguments.nth args 0 = v, Arguments.nth args' 0 = w at hfirst
  cases hfirst with
  | array h => exact .ok h
  | _ => exact L.ends_fail rfl

theorem respects_difference : L.Respects p (PairedItems p) difference := by
  intro c c' _ items items' args args' hitems hargs
  refine L.rel_ofExcept_bind (ends_other _ hargs) fun others others' hothers => ?_
  refine L.rel_pure (.array (List.rel_filter (fun _ _ hv => ?_) hitems))
  simp only [holds_eq hothers hv]

theorem respects_intersection : L.Respects p (PairedItems p) intersection := by
  intro c c' _ items items' args args' hitems hargs
  refine L.rel_ofExcept_bind (ends_other _ hargs) fun others others' hothers => ?_
  refine L.rel_pure (.array (pairedItems_distinctBy (fun _ _ hv => hv) ?_))
  exact List.rel_filter (fun _ _ hv => by simp only [holds_eq hothers hv]) hitems

theorem respects_union : L.Respects p (PairedItems p) union := by
  refine respects_build fun items items' args args' hitems hargs => ?_
  refine (ends_other _ hargs).bind fun others others' hothers => .ok ?_
  exact pairedItems_distinctBy (fun _ _ hv => hv) (List.rel_append hitems hothers)

/-! ### Table -/

theorem isPresent_eq {v w : Value} (h : Paired p v w) : isPresent v = isPresent w := by
  cases h <;> rfl

/-- Every method of arrays. -/
theorem respects_of_mem_table : ∀ m ∈ table, L.Respects p (PairedItems p) m.run := by
  have hincludes : L.Respects p (PairedItems p)
      (fun _ items args => pure (.bool (holds items (Arguments.nth args 0)))) :=
    respects_pure fun _ _ _ _ hitems hargs => holds_eq hitems (Paired.nth hargs 0) ▸ .bool _
  have hreverse : L.Respects p (PairedItems p) (convert fun items => .array items.reverse) :=
    respects_convert fun _ _ h => .array (List.rel_reverse h)
  have hfirst : L.Respects p (PairedItems p) (convert fun items => items.headD .undefined) :=
    respects_convert fun _ _ h => by
      cases h with
      | nil => exact .undefined
      | cons h _ => exact h
  have hlast : L.Respects p (PairedItems p)
      (convert fun items => items.getLast?.getD .undefined) :=
    respects_convert fun items items' h => by
      rw [List.getLast?_eq_getElem?, List.getLast?_eq_getElem?, h.length_eq]
      exact Paired.getD (Paired.getElem? h _)
  have hcompact : L.Respects p (PairedItems p)
      (convert fun items => .array (items.filter isPresent)) :=
    respects_convert fun _ _ h =>
      .array (List.rel_filter (fun _ _ hv => by simp only [isPresent_eq hv]) h)
  have hempty : L.Respects p (PairedItems p) (convert fun items => .bool items.isEmpty) :=
    respects_convert fun _ _ h => by cases h <;> exact .bool _
  have hfilled : L.Respects p (PairedItems p) (convert fun items => .bool !items.isEmpty) :=
    respects_convert fun _ _ h => by cases h <;> exact .bool _
  have htext : L.Respects p (PairedItems p)
      (convert fun items => .string (Value.array items).toText) :=
    respects_convert fun _ _ h => (Paired.array h).toText_eq ▸ .string _
  simp only [table, List.forall_mem_cons, List.not_mem_nil, false_imp_iff, implies_true, and_true,
    hincludes, hreverse, hfirst, hlast, hcompact, hempty, hfilled, htext, respects_map,
    respects_filter, respects_find, respects_findIndex, respects_some, respects_every,
    respects_reduce, respects_sort, respects_join, respects_indexOf, respects_slice,
    respects_concat, respects_flat, respects_at, respects_pluck, respects_calculate,
    respects_unique, respects_chunk, respects_difference, respects_intersection, respects_union,
    respects_append, respects_smartJoin, respects_toJsonString]

end TemplateExpr.ArrayMethod
