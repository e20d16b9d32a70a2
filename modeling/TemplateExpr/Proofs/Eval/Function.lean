import TemplateExpr.Eval.Function
import TemplateExpr.Method.Table
import TemplateExpr.Proofs.Method.Array
import TemplateExpr.Proofs.Method.Basic
import TemplateExpr.Proofs.Method.Scalar

/-!
# Calls of the host in two sandboxes

The functions of the namespaces use nothing of the context, `DateTime.now` and `DateTime.local`
apart, which look at the clock. What references to nodes and the input read of it is listed by
`Comparison.SharesHosts`.
-/

namespace TemplateExpr

open TemplateExpr.Text TemplateExpr.Eval TemplateExpr.Eval.Comparison Value

variable {L : Comparison} {p : Pairing} {c c' : Caller} {args args' : List Value}

/-! ### Methods of values -/

theorem rel_invokeFrom {ρ : Type} {R : ρ → ρ → Prop} {table : List (Method ρ)}
    (htable : ∀ m ∈ table, L.Respects p R m.run) (hc : L.Callers p c c') (kind : Kind) {r r' : ρ}
    (hr : R r r') (name : String) (hargs : List.Forall₂ (Paired p) args args') :
    L.rel (Paired p) (invokeFrom table kind c r name args)
      (invokeFrom table kind c' r' name args') := by
  unfold invokeFrom
  split
  · next m hm => exact htable m (List.mem_of_find?_eq_some hm) c c' hc r r' args args' hr hargs
  · exact L.rel_fail rfl

/-- Methods of values that are no hosts. -/
theorem rel_invoke (hc : L.Callers p c c') {v w : Value} (hv : Paired p v w) (name : String)
    (hargs : List.Forall₂ (Paired p) args args') :
    L.rel (Paired p) (invoke c v name args) (invoke c' w name args') := by
  cases hv with
  | string s => exact rel_invokeFrom TextMethod.respects_of_mem_table hc .string rfl name hargs
  | number x => exact rel_invokeFrom NumberMethod.respects_of_mem_table hc .number rfl name hargs
  | bool b => exact rel_invokeFrom BooleanMethod.respects_of_mem_table hc .boolean rfl name hargs
  | date t => exact rel_invokeFrom DateMethod.respects_of_mem_table hc .date rfl name hargs
  | array h => exact rel_invokeFrom ArrayMethod.respects_of_mem_table hc .array h name hargs
  | object h => exact rel_invokeFrom ObjectMethod.respects_of_mem_table hc .object h name hargs
  | undefined | null | function _ _ | host _ => exact L.rel_fail rfl

/-! ### Namespaces -/

namespace Namespace

/-- Functions of namespaces that are not there. -/
theorem rel_unknown (name : String) :
    L.rel (Paired p) (fail (.unknownMethod name .object)) (fail (.unknownMethod name .object)) :=
  L.rel_fail rfl

section

variable (hargs : List.Forall₂ (Paired p) args args')

include hargs

theorem parseIntOf_eq : parseIntOf args = parseIntOf args' := by
  rw [parseIntOf, parseIntOf, (Paired.nth hargs 0).toChars_eq, Arguments.number?_eq hargs]

theorem parseFloatOf_eq : parseFloatOf args = parseFloatOf args' := by
  rw [parseFloatOf, parseFloatOf, (Paired.nth hargs 0).toChars_eq]

theorem rel_callMath (name : String) :
    L.rel (Paired p) (callMath name args) (callMath name args') := by
  have hnumbers : args.map toNumber = args'.map toNumber :=
    List.forall₂_eq_eq_eq ▸ List.rel_map (fun _ _ h => h.toNumber_eq) hargs
  unfold callMath
  rw [hnumbers]
  split
  · exact L.rel_pure (.number _)
  · exact rel_unknown name

theorem rel_stringify : L.rel (Paired p) (stringify args) (stringify args') := by
  have hv := Paired.nth hargs 0
  have hindent : args[2]?.map toNumber = args'[2]?.map toNumber := by
    have h := Paired.getElem? hargs 2
    generalize args[2]? = v?, args'[2]? = w? at h
    cases h with
    | none => rfl
    | some h => exact congrArg some h.toNumber_eq
  unfold stringify
  dsimp only
  rw [hv.isOmitted_eq, hv.toJson_eq, hindent]
  split
  · exact L.rel_pure .undefined
  · exact L.rel_reserve_bind rfl (L.rel_pure (.string _))

theorem rel_parseJson : L.rel (Paired p) (parseJson args) (parseJson args') := by
  unfold parseJson
  rw [(Paired.nth hargs 0).toText_eq]
  refine L.rel_reserve_bind rfl ?_
  split
  · exact L.rel_pure (Paired.ofJson p _)
  · exact L.rel_fail rfl

theorem rel_callJson (name : String) :
    L.rel (Paired p) (callJson name args) (callJson name args') := by
  unfold callJson
  split_ifs
  · exact rel_stringify hargs
  · exact rel_parseJson hargs
  · exact rel_unknown name

omit hargs in
/-- The fields of an array are its items. -/
theorem paired_fieldsOf {v w : Value} (h : Paired p v w) :
    Fields.Related (Paired p) (fieldsOf v) (fieldsOf w) := by
  cases h with
  | object h => exact h
  | @array items items' h =>
    rw [fieldsOf, fieldsOf, h.length_eq]
    generalize List.range items'.length = positions
    induction h generalizing positions with
    | nil => cases positions <;> exact .nil
    | cons h _ ih =>
      cases positions with
      | nil => exact .nil
      | cons i positions => exact .cons (Digit.decimal i) h (ih positions)
  | _ => exact .nil

theorem rel_listFields (name : String) {take : String × Value → Value}
    (htake : ∀ key v w, Paired p v w → Paired p (take (key, v)) (take (key, w))) :
    L.rel (Paired p) (listFields name take args) (listFields name take args') := by
  have hv := Paired.nth hargs 0
  have hfields := paired_fieldsOf hv
  unfold listFields
  dsimp only
  rw [hv.isNullish_eq]
  refine L.rel_check Iff.rfl (fun _ => L.fails_raised rfl) fun _ => ?_
  refine L.rel_reserve_bind (by rw [hfields.length_eq]) (L.rel_pure (.array ?_))
  refine List.rel_map (fun f f' hf => ?_) hfields.pairs
  obtain ⟨key, v⟩ := f
  obtain ⟨_, w⟩ := f'
  obtain ⟨rfl, hvw⟩ := hf
  exact htake key v w hvw

theorem rel_assign {out out' : Fields Value} (hout : Fields.Related (Paired p) out out') :
    L.rel (Paired p) (assign out args) (assign out' args') := by
  induction hargs generalizing out out' with
  | nil => exact L.rel_pure (.object hout)
  | cons hv _ ih =>
    cases hv with
    | object h => exact L.rel_reserve_bind (congrArg _ h.length_eq) (ih (hout.extend h))
    | _ => exact ih hout

omit hargs in
theorem paired_fieldOf? {v w : Value} (h : Paired p v w) :
    Option.Rel (fun f g => f.1 = g.1 ∧ Paired p f.2 g.2) (fieldOf? v) (fieldOf? w) := by
  cases h with
  | array h =>
    refine .some ⟨?_, Paired.nth h 1⟩
    cases h with
    | nil => rfl
    | cons h _ => exact h.toText_eq
  | _ => exact .none

theorem rel_fromEntries : L.rel (Paired p) (fromEntries args) (fromEntries args') := by
  have hv := Paired.nth hargs 0
  unfold fromEntries
  generalize Arguments.nth args 0 = v, Arguments.nth args' 0 = w at hv
  cases hv with
  | array h =>
    refine L.rel_reserve_bind (congrArg _ h.length_eq) (L.rel_pure (.object ?_))
    exact .ofPairs (.of_pairs (List.rel_filterMap (fun _ _ h => paired_fieldOf? h) h))
  | _ => exact L.rel_fail rfl

theorem rel_callObject (name : String) :
    L.rel (Paired p) (callObject name args) (callObject name args') := by
  unfold callObject
  split_ifs
  · exact rel_listFields hargs name fun key _ _ _ => .string key
  · exact rel_listFields hargs name fun _ _ _ h => h
  · exact rel_listFields hargs name fun key _ _ h => .array (.cons (.string key) (.cons h .nil))
  · exact rel_assign hargs .nil
  · exact rel_fromEntries hargs
  · exact rel_unknown name

omit hargs in
theorem paired_itemsOf {v w : Value} (h : Paired p v w) :
    (itemsOf v).1 = (itemsOf w).1 ∧
      List.Forall₂ (Paired p) ((itemsOf v).2 ()) ((itemsOf w).2 ()) := by
  cases h with
  | array h => exact ⟨h.length_eq, h⟩
  | string s =>
    refine ⟨rfl, ?_⟩
    simp only [itemsOf]
    induction s.toList with
    | nil => exact .nil
    | cons ch cs ih => exact .cons (.ofChar ch) ih
  | @object fields fields' h =>
    have hlength : claimedLength? fields = claimedLength? fields' := by
      have hget := h.get? "length"
      unfold claimedLength?
      generalize fields.get? "length" = v?, fields'.get? "length" = w? at hget
      cases hget with
      | none => rfl
      | some h => rw [Option.map_some, Option.map_some, h.toNumber_eq]
    rw [itemsOf, itemsOf, hlength]
    refine ⟨rfl, ?_⟩
    dsimp only
    induction (claimedLength? fields').getD 0 with
    | zero => exact .nil
    | succ n ih => exact .cons .undefined ih
  | _ => exact ⟨rfl, .nil⟩

theorem rel_arrayFrom (hc : L.Callers p c c') :
    L.rel (Paired p) (arrayFrom c args) (arrayFrom c' args') := by
  have hitems := paired_itemsOf (Paired.nth hargs 0)
  have hf := Paired.nth hargs 1
  unfold arrayFrom
  refine L.rel_reserve_bind (congrArg _ hitems.1) ?_
  dsimp only
  rw [hf.isFunction_eq]
  split
  · refine L.rel_bind_pure (L.rel_mapItems (fun i v w hv => ?_) hitems.2) fun _ _ hout => .array hout
    exact hc _ _ _ _ hf (.cons hv (.cons (.ofNat i) .nil))
  · exact L.rel_pure (.array hitems.2)

theorem rel_callArray (hc : L.Callers p c c') (name : String) :
    L.rel (Paired p) (callArray c name args) (callArray c' name args') := by
  unfold callArray
  rw [(Paired.nth hargs 0).kind_eq]
  split_ifs
  · exact L.rel_pure (.bool _)
  · exact L.rel_reserve_bind (congrArg _ hargs.length_eq) (L.rel_pure (.array hargs))
  · exact rel_arrayFrom hargs hc
  · exact rel_unknown name

omit hargs in
theorem isNumberWith_eq (q : Float → Bool) {v w : Value} (h : Paired p v w) :
    isNumberWith q v = isNumberWith q w := by
  cases h <;> rfl

theorem rel_callNumber (name : String) :
    L.rel (Paired p) (callNumber name args) (callNumber name args') := by
  unfold callNumber
  dsimp only
  simp only [isNumberWith_eq _ (Paired.nth hargs 0), parseIntOf_eq hargs, parseFloatOf_eq hargs]
  split_ifs
  · exact L.rel_pure (.bool _)
  · exact L.rel_pure (.bool _)
  · exact L.rel_pure (.bool _)
  · exact L.rel_pure (.bool _)
  · exact L.rel_pure (.number _)
  · exact L.rel_pure (.number _)
  · exact rel_unknown name

/-- The functions of `DateTime` that give the time of the context. -/
def clockMethods : List String := ["now", "local"]

omit hargs in
/-- Dates that are read in both sandboxes. -/
theorem rel_date {x y : Except EvalError DateTime} (h : L.Ends Eq x y) :
    L.rel (Paired p) (ofExcept x >>= fun t => pure (.date t))
      (ofExcept y >>= fun t => pure (.date t)) :=
  L.rel_ofExcept_bind h fun t _ ht => ht ▸ L.rel_pure (.date t)

theorem rel_callDateTime {name : String}
    (hnow : name ∈ clockMethods → L.left.context.now = L.right.context.now) :
    L.rel (Paired p) (callDateTime name args) (callDateTime name args') := by
  have hv := Paired.nth hargs 0
  unfold callDateTime
  dsimp only
  rw [hv.toText_eq, hv.toNumber_eq, hv.kind_eq]
  split_ifs with hclock
  · have hmem : name ∈ clockMethods := by
      simpa [clockMethods] using hclock
    refine L.rel_read ?_
    rw [hnow hmem]
    exact L.rel_pure (.date _)
  · exact rel_date (DateTime.ends_ofText _)
  · exact rel_date (DateTime.ends_ofNumber _)
  · exact rel_date (DateTime.ends_ofNumber _)
  · exact L.rel_pure (.bool _)
  · exact rel_unknown name

/-- Only the clock of the context matters to the functions of namespaces. -/
theorem rel_call (ns : Namespace) (hc : L.Callers p c c') {name : String}
    (hnow : ns = .dateTime → name ∈ clockMethods → L.left.context.now = L.right.context.now) :
    L.rel (Paired p) (ns.call c name args) (ns.call c' name args') := by
  cases ns with
  | math => exact rel_callMath hargs name
  | json => exact rel_callJson hargs name
  | object => exact rel_callObject hargs name
  | array => exact rel_callArray hargs hc name
  | number => exact rel_callNumber hargs name
  | dateTime => exact rel_callDateTime hargs (hnow rfl)

end

end Namespace

/-! ### References to nodes and the input -/

/-- What the hosts of a pairing read of the context goes together. -/
structure Eval.Comparison.SharesHosts (L : Comparison) (p : Pairing) : Prop where
  output : ∀ node, p.host (.node node) →
    L.Ends (Paired p) (L.left.context.output node) (L.right.context.output node)
  items : ∀ node, p.host (.node node) →
    L.Ends (List.Forall₂ (Paired p)) (L.left.context.nodeItems node)
      (L.right.context.nodeItems node)
  paired : ∀ node, p.host (.node node) → ∀ index,
    L.Ends (Paired p) (L.left.context.pairedItem node index)
      (L.right.context.pairedItem node index)
  input : p.host .input → List.Forall₂ (Paired p) L.left.context.input L.right.context.input
  current : p.host .input → Paired p L.left.context.currentInput L.right.context.currentInput
  /-- Where nodes can be named, there may be references to all of them. -/
  selector : p.host (.builtin .nodeSelector) → ∀ node, p.host (.node node)

namespace Host

variable (hs : L.SharesHosts p)

include hs

/-- What a host has under a name. -/
theorem ends_property {h : Host} (hh : p.host h) (name : String) :
    L.Ends (Paired p) (h.property L.left.context name) (h.property L.right.context name) := by
  cases h with
  | node node =>
    have hitems := hs.items node hh
    simp only [property]
    split_ifs
    · exact (hs.paired node hh none).map fun _ _ => Paired.wrapItem
    · exact hs.output node hh
    · generalize L.left.context.nodeItems node = x, L.right.context.nodeItems node = y at hitems
      cases hitems with
      | ok _ => exact .ok (.bool true)
      | error _ => exact .ok (.bool false)
    · exact .ok .undefined
  | input =>
    simp only [property]
    split_ifs
    · exact .ok (hs.current hh).wrapItem
    · exact .ok .undefined
  | space ns =>
    refine .ok (Paired.getD ?_)
    cases ns.constant? name with
    | none => exact .none
    | some x => exact .some (.number x)
  | builtin b =>
    simp only [property]
    split_ifs
    · exact .ok (.string _)
    · exact .ok .undefined

section

variable {items items' : List Value} (h : List.Forall₂ (Paired p) items items')

include h

omit hs

theorem paired_firstItem : Paired p (firstItem items) (firstItem items') := by
  cases h with
  | nil => exact .undefined
  | cons h _ => exact h.wrapItem

theorem paired_lastItem : Paired p (lastItem items) (lastItem items') := by
  have hlast := Paired.getElem? h (items.length - 1)
  rw [lastItem, lastItem, List.getLast?_eq_getElem?, List.getLast?_eq_getElem?, ← h.length_eq]
  generalize items[items.length - 1]? = v?, items'[items.length - 1]? = w? at hlast
  cases hlast with
  | none => exact .undefined
  | some h => exact h.wrapItem

theorem rel_allItems : L.rel (Paired p) (allItems items) (allItems items') := by
  refine L.rel_reserve_bind (congrArg _ h.length_eq) (L.rel_pure (.array ?_))
  exact List.rel_map (fun _ _ h => h.wrapItem) h

end

section

variable (hargs : List.Forall₂ (Paired p) args args')

include hargs

theorem rel_itemMatching {node : String} (hh : p.host (.node node)) :
    L.rel (Paired p) (itemMatching node args) (itemMatching node args') := by
  have hindex : args.head?.map toNumber = args'.head?.map toNumber := by
    cases hargs with
    | nil => rfl
    | cons h _ => exact congrArg some h.toNumber_eq
  unfold itemMatching
  dsimp only
  rw [hindex]
  split
  · exact L.rel_fail rfl
  · next i _ =>
    refine L.rel_read (L.rel_ofExcept_bind (hs.paired node hh (some i)) fun v w h => ?_)
    exact L.rel_pure h.wrapItem

theorem rel_callNode {node : String} (hh : p.host (.node node)) (name : String) :
    L.rel (Paired p) (callNode node name args) (callNode node name args') := by
  have hitems := hs.items node hh
  unfold callNode
  refine L.rel_read ?_
  dsimp only
  split_ifs
  · exact L.rel_ofExcept_bind hitems fun _ _ h => L.rel_pure (paired_firstItem h)
  · exact L.rel_ofExcept_bind hitems fun _ _ h => L.rel_pure (paired_lastItem h)
  · exact L.rel_ofExcept_bind hitems fun _ _ h => rel_allItems h
  · exact L.rel_ofExcept_bind (hs.paired node hh none) fun _ _ h => L.rel_pure h.wrapItem
  · exact rel_itemMatching hs hargs hh
  · exact L.rel_fail rfl

omit hargs in
theorem rel_callInput (hh : p.host .input) (name : String) :
    L.rel (Paired p) (callInput name) (callInput name) := by
  have hinput := hs.input hh
  unfold callInput
  refine L.rel_read ?_
  dsimp only
  split_ifs
  · exact L.rel_pure (paired_firstItem hinput)
  · exact L.rel_pure (paired_lastItem hinput)
  · exact rel_allItems hinput
  · exact L.rel_fail rfl

/-- Methods of hosts. -/
theorem rel_call {h : Host} (hh : p.host h) (hc : L.Callers p c c') {name : String}
    (hnow : p.host (.space .dateTime) → name ∈ Namespace.clockMethods →
      L.left.context.now = L.right.context.now) :
    L.rel (Paired p) (h.call c name args) (h.call c' name args') := by
  cases h with
  | space ns => exact ns.rel_call hargs hc fun hns => hnow (hns ▸ hh)
  | node node => exact rel_callNode hs hargs hh name
  | input => exact rel_callInput hs hh name
  | builtin b => exact L.rel_fail rfl

/-- Functions that are called by name; one of them names nodes. -/
theorem ends_builtin {b : Builtin} (hb : p.host (.builtin b)) :
    L.Ends (Paired p) (b.call args) (b.call args') := by
  have hv := Paired.nth hargs 0
  have hempty : args.isEmpty = args'.isEmpty := by
    cases hargs <;> rfl
  unfold Builtin.call
  dsimp only
  cases b with
  | nodeSelector =>
    dsimp only
    generalize Arguments.nth args 0 = v, Arguments.nth args' 0 = w at hv
    cases hv with
    | string node => exact .ok (.host (hs.selector hb node))
    | _ => exact L.ends_fail rfl
  | parseInt => exact .ok (Namespace.parseIntOf_eq hargs ▸ .number _)
  | parseFloat => exact .ok (Namespace.parseFloatOf_eq hargs ▸ .number _)
  | isNaN => exact .ok (hv.toNumber_eq ▸ .bool _)
  | isFinite => exact .ok (hv.toNumber_eq ▸ .bool _)
  | string => exact .ok (hempty ▸ hv.toText_eq ▸ .string _)
  | boolean => exact .ok (hv.truthy_eq ▸ .bool _)

end

end Host

end TemplateExpr
