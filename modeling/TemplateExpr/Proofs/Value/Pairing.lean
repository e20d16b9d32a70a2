import Mathlib.Tactic.SplitIfs
import TemplateExpr.Eval.Operator
import TemplateExpr.Eval.Property
import TemplateExpr.Method.Basic
import TemplateExpr.Proofs.Fields
import TemplateExpr.Proofs.Value.Body

/-!
# Paired values

Two evaluations that are compared come across values that are alike, but need not be equal: their
arrow functions may have been read from different texts. A `Value.Pairing` says which hosts may
stand in values, and which arrow functions of one evaluation go with which of the other one;
`Value.Paired` extends it to all values. Paired values cannot be told apart by anything that reads
values, and taking them apart or putting them together in the same way gives paired values again.
-/

namespace TemplateExpr

/-- An arrow function without the values that it has captured: its parameters, its body and the
names that were bound where it was written. -/
@[ext]
structure Code where
  params : List String
  body : Expr
  names : List String

/-- The arrow function with `g` applied to its body. -/
def Code.map (g : Expr → Expr) (f : Code) : Code := ⟨f.params, g f.body, f.names⟩

/-- Whether two arrow functions are the same. -/
def Code.isSame (f g : Code) : Bool := Value.sameFunction f.params f.body g.params g.body

namespace Value

/-- Which hosts may stand in values, and which arrow functions go together. -/
structure Pairing where
  host : Host → Prop
  code : Code → Code → Prop
  /-- Functions that go with the same function are the same. -/
  same : ∀ {f f' g g' : Code}, code f f' → code g g' → f.isSame g = f'.isSame g'

/-- The values are alike, up to functions that go together. -/
inductive Paired (p : Pairing) : Value → Value → Prop
  | undefined : Paired p .undefined .undefined
  | null : Paired p .null .null
  | bool (b : Bool) : Paired p (.bool b) (.bool b)
  | number (x : Float) : Paired p (.number x) (.number x)
  | string (s : String) : Paired p (.string s) (.string s)
  | date (t : DateTime) : Paired p (.date t) (.date t)
  | host {h : Host} : p.host h → Paired p (.host h) (.host h)
  | array {items items' : List Value} :
    List.Forall₂ (Paired p) items items' → Paired p (.array items) (.array items')
  | object {fields fields' : Fields Value} :
    Fields.Related (Paired p) fields fields' → Paired p (.object fields) (.object fields')
  | function {params params' : List String} {body body' : Expr}
    {captured captured' : List (String × Value)} :
    p.code ⟨params, body, captured.map Prod.fst⟩ ⟨params', body', captured'.map Prod.fst⟩ →
    List.Forall₂ (fun f f' => Paired p f.2 f'.2) captured captured' →
    Paired p (.function params body captured) (.function params' body' captured')

namespace Paired

variable {p : Pairing} {v w v' w' : Value} {items items' : List Value} {fields fields' : Fields Value}

/-! ### Values of each kind -/

theorem ofNat (n : Nat) : Paired p (.ofNat n) (.ofNat n) := .number _

theorem ofChar (c : Char) : Paired p (.ofChar c) (.ofChar c) := .string _

theorem ofChars (cs : List Char) : Paired p (.ofChars cs) (.ofChars cs) := .string _

theorem ofLiteral (l : Literal) : Paired p (.ofLiteral l) (.ofLiteral l) := by
  cases l <;> constructor

/-! ### Pairings of the same code -/

/-- Functions with the same code that have captured the same values. -/
theorem function_eq {params params' : List String} {body body' : Expr}
    {captured captured' : Fields Value}
    (hcode : Code.mk params body captured.keys = ⟨params', body', captured'.keys⟩)
    (hvalues : captured.values = captured'.values) :
    Value.function params body captured = .function params' body' captured' := by
  obtain ⟨rfl, rfl, hnames⟩ := Code.mk.inj hcode
  rw [Fields.eq_of_keys_values hnames hvalues]

/-- If functions that go together have the same code up to `g`, paired values are the same up to
`g`. -/
theorem mapBodies_eq {g : Expr → Expr} (hp : ∀ f f', p.code f f' → f.map g = f'.map g)
    {v w : Value} (h : Paired p v w) : v.mapBodies g = w.mapBodies g := by
  refine @Paired.rec p (fun v w _ => v.mapBodies g = w.mapBodies g)
    (fun items items' _ => mapBodiesItems g items = mapBodiesItems g items')
    (fun fields fields' _ => mapBodiesFields g fields = mapBodiesFields g fields')
    (fun captured captured' _ =>
      (mapBodiesFields g captured).values = (mapBodiesFields g captured').values)
    rfl rfl (fun _ => rfl) (fun _ => rfl) (fun _ => rfl) (fun _ => rfl) (fun _ => rfl)
    ?_ ?_ ?_ rfl ?_ rfl ?_ rfl ?_ v w h
  · exact fun _ ih => by rw [mapBodies, mapBodies, ih]
  · exact fun _ ih => by rw [mapBodies, mapBodies, ih]
  · intro params params' body body' captured captured' hcode _ ih
    rw [mapBodies, mapBodies]
    refine function_eq ?_ ih
    rw [keys_mapBodiesFields, keys_mapBodiesFields]
    exact hp _ _ hcode
  · exact fun _ _ hv hvs => by rw [mapBodiesItems, mapBodiesItems, hv, hvs]
  · exact fun key _ _ hv hvs => by rw [mapBodiesFields, mapBodiesFields, hv, hvs]
  · rintro ⟨key, v⟩ ⟨key', v'⟩ captured captured' hv _ ih ihs
    rw [mapBodiesFields, mapBodiesFields]
    exact List.cons_eq_cons.2 ⟨ih, ihs⟩

/-- If functions that go together are equal, so are paired values. -/
theorem eq (hp : ∀ f f', p.code f f' → f = f') {v w : Value} (h : Paired p v w) : v = w := by
  have hmap := h.mapBodies_eq (g := id) fun f f' hf => congrArg _ (hp f f' hf)
  rwa [mapBodies_id, mapBodies_id] at hmap

/-! ### Reading values -/

theorem kind_eq (h : Paired p v w) : v.kind = w.kind := by
  cases h <;> rfl

theorem isNullish_eq (h : Paired p v w) : v.isNullish = w.isNullish := by
  cases h <;> rfl

theorem isUndefined_eq (h : Paired p v w) : v.isUndefined = w.isUndefined := by
  cases h <;> rfl

theorem isFunction_eq (h : Paired p v w) : v.isFunction = w.isFunction := by
  cases h <;> rfl

theorem isOmitted_eq (h : Paired p v w) : v.isOmitted = w.isOmitted := by
  cases h <;> rfl

theorem truthy_eq (h : Paired p v w) : v.truthy = w.truthy := by
  cases h <;> rfl

theorem typeName_eq (h : Paired p v w) : v.typeName = w.typeName := by
  cases h with
  | @host h _ => cases h <;> rfl
  | _ => rfl

theorem concatenates_eq (h : Paired p v w) : v.concatenates = w.concatenates := by
  cases h <;> rfl

theorem fields? (h : Paired p v w) :
    Option.Rel (Fields.Related (Paired p)) v.fields? w.fields? := by
  cases h with
  | object h => exact .some h
  | _ => exact .none

theorem toNumber_eq : ∀ {v w : Value}, Paired p v w → v.toNumber = w.toNumber
  | _, _, .array .nil => rfl
  | _, _, .array (.cons h .nil) => by rw [toNumber, toNumber, toNumber_eq h]
  | _, _, .array (.cons _ (.cons _ _)) => by simp only [toNumber]
  | _, _, .undefined | _, _, .null | _, _, .bool _ | _, _, .number _ | _, _, .string _
  | _, _, .date _ | _, _, .host _ => rfl
  | _, _, .object _ | _, _, .function _ _ => by simp only [toNumber]

mutual

theorem toText_eq : ∀ {v w : Value}, Paired p v w → v.toText = w.toText
  | _, _, .array h => by rw [toText, toText, itemTexts_eq h]
  | _, _, .undefined | _, _, .null | _, _, .bool _ | _, _, .number _ | _, _, .string _
  | _, _, .date _ | _, _, .host _ => rfl
  | _, _, .object _ | _, _, .function _ _ => by simp only [toText]

theorem itemTexts_eq : ∀ {items items' : List Value}, List.Forall₂ (Paired p) items items' →
    ∀ {acc : List String}, itemTexts acc items = itemTexts acc items'
  | _, _, .nil, _ => rfl
  | _, _, .cons h hs, _ => by
    rw [itemTexts, itemTexts, toText_eq h, h.isNullish_eq, itemTexts_eq hs]

end

theorem toChars_eq (h : Paired p v w) : v.toChars = w.toChars :=
  congrArg String.toList h.toText_eq

mutual

theorem toJson_eq : ∀ {v w : Value}, Paired p v w → v.toJson = w.toJson
  | _, _, .array h => by rw [toJson, toJson, itemsJson_eq h]
  | _, _, .object h => by rw [toJson, toJson, fieldsJson_eq h]
  | _, _, .undefined | _, _, .null | _, _, .bool _ | _, _, .number _ | _, _, .string _
  | _, _, .date _ | _, _, .host _ => rfl
  | _, _, .function _ _ => by simp only [toJson]

theorem itemsJson_eq : ∀ {items items' : List Value}, List.Forall₂ (Paired p) items items' →
    ∀ {acc : List Json}, itemsJson acc items = itemsJson acc items'
  | _, _, .nil, _ => rfl
  | _, _, .cons h hs, _ => by rw [itemsJson, itemsJson, toJson_eq h, itemsJson_eq hs]

theorem fieldsJson_eq : ∀ {fields fields' : Fields Value}, Fields.Related (Paired p) fields fields' →
    ∀ {acc : List (String × Json)}, fieldsJson acc fields = fieldsJson acc fields'
  | _, _, .nil, _ => rfl
  | _, _, .cons _ h hs, _ => by
    rw [fieldsJson, fieldsJson, toJson_eq h, h.isOmitted_eq, fieldsJson_eq hs]

end

theorem jsonText_eq (h : Paired p v w) : v.jsonText = w.jsonText :=
  congrArg Json.compact h.toJson_eq

/-! ### Comparing values -/

mutual

theorem strictEquals_eq : ∀ {v v' w w' : Value}, Paired p v v' → Paired p w w' →
    v.strictEquals w = v'.strictEquals w'
  | _, _, _, _, .array h, hw => by
    cases hw with
    | array hw =>
      rw [strictEquals, strictEquals, h.length_eq, hw.length_eq, itemsEqual_eq h hw]
    | _ => simp only [strictEquals]
  | _, _, _, _, .object h, hw => by
    cases hw with
    | object hw =>
      rw [strictEquals, strictEquals, h.length_eq, hw.length_eq, fieldsEqual_eq h hw]
    | _ => simp only [strictEquals]
  | _, _, _, _, .function hcode _, hw => by
    cases hw with
    | function hcode' _ =>
      rw [strictEquals, strictEquals]
      exact p.same hcode hcode'
    | _ => simp only [strictEquals]
  | _, _, _, _, .undefined, hw | _, _, _, _, .null, hw | _, _, _, _, .bool _, hw
  | _, _, _, _, .number _, hw | _, _, _, _, .string _, hw | _, _, _, _, .date _, hw
  | _, _, _, _, .host _, hw => by
    cases hw <;> simp only [strictEquals]

theorem itemsEqual_eq : ∀ {vs vs' ws ws' : List Value}, List.Forall₂ (Paired p) vs vs' →
    List.Forall₂ (Paired p) ws ws' → itemsEqual vs ws = itemsEqual vs' ws'
  | _, _, _, _, .nil, _ => by simp only [itemsEqual]
  | _, _, _, _, .cons h hs, hws => by
    cases hws with
    | nil => simp only [itemsEqual]
    | cons hw hws => rw [itemsEqual, itemsEqual, strictEquals_eq h hw, itemsEqual_eq hs hws]

theorem fieldsEqual_eq : ∀ {fs fs' gs gs' : Fields Value}, Fields.Related (Paired p) fs fs' →
    Fields.Related (Paired p) gs gs' → fieldsEqual fs gs = fieldsEqual fs' gs'
  | _, _, _, _, .nil, _ => by simp only [fieldsEqual]
  | _, _, gs, gs', .cons key h hs, hgs => by
    have hget := hgs.get? key
    rw [fieldsEqual, fieldsEqual, fieldsEqual_eq hs hgs]
    generalize Fields.get? gs key = found, Fields.get? gs' key = found' at hget
    cases hget with
    | none => rfl
    | some hw => simp only [strictEquals_eq h hw]

end

theorem comparesAsNumbers_eq (h : Paired p v v') (hw : Paired p w w') :
    comparesAsNumbers v w = comparesAsNumbers v' w' := by
  cases h <;> cases hw <;> rfl

theorem looseEquals_eq (h : Paired p v v') (hw : Paired p w w') :
    v.looseEquals w = v'.looseEquals w' := by
  rw [looseEquals, looseEquals, h.isNullish_eq, hw.isNullish_eq, comparesAsNumbers_eq h hw,
    h.toNumber_eq, hw.toNumber_eq, strictEquals_eq h hw]

theorem sameValue_eq (h : Paired p v v') (hw : Paired p w w') :
    v.sameValue w = v'.sameValue w' := by
  have hstrict := strictEquals_eq h hw
  cases h <;> cases hw <;> first | rfl | simpa only [sameValue] using hstrict

theorem isLess_eq (h : Paired p v v') (hw : Paired p w w') : v.isLess w = v'.isLess w' := by
  have hnumber := h.toNumber_eq
  have hnumber' := hw.toNumber_eq
  cases h <;> cases hw <;> simp only [isLess, hnumber, hnumber']

theorem isLessEqual_eq (h : Paired p v v') (hw : Paired p w w') :
    v.isLessEqual w = v'.isLessEqual w' := by
  have hnumber := h.toNumber_eq
  have hnumber' := hw.toNumber_eq
  cases h <;> cases hw <;> simp only [isLessEqual, hnumber, hnumber']

/-! ### Parts -/

/-- Values that may be missing. -/
theorem getD {v? w? : Option Value} (h : Option.Rel (Paired p) v? w?) :
    Paired p (v?.getD .undefined) (w?.getD .undefined) := by
  cases h with
  | none => exact .undefined
  | some h => exact h

theorem getElem? (h : List.Forall₂ (Paired p) items items') (i : Nat) :
    Option.Rel (Paired p) items[i]? items'[i]? := by
  induction h generalizing i with
  | nil => exact .none
  | cons h _ ih =>
    cases i with
    | zero => exact .some h
    | succ i => exact ih i

theorem nth (h : List.Forall₂ (Paired p) items items') (i : Nat) :
    Paired p (Arguments.nth items i) (Arguments.nth items' i) := by
  rw [Arguments.nth, Arguments.nth, List.getD_eq_getElem?_getD, List.getD_eq_getElem?_getD]
  exact getD (getElem? h i)

theorem itemAt (h : List.Forall₂ (Paired p) items items') (x : Float) :
    Paired p (Value.itemAt id items x) (Value.itemAt id items' x) := by
  simp only [Value.itemAt, Option.map_id, id]
  refine getD ?_
  cases Number.asIndex? x with
  | none => exact .none
  | some i => exact getElem? h i

theorem itemAt_ofChar (cs : List Char) (x : Float) :
    Paired p (Value.itemAt Value.ofChar cs x) (Value.itemAt Value.ofChar cs x) := by
  unfold Value.itemAt
  cases (Number.asIndex? x).bind (cs[·]?) with
  | none => exact .undefined
  | some c => exact ofChar c

/-- What lists have under a name, if what they have under a number is paired. -/
theorem listProperty {α β : Type} {wrap : α → Value} {wrap' : β → Value} {as : List α} {bs : List β}
    (hlength : as.length = bs.length)
    (h : ∀ x, Paired p (Value.itemAt wrap as x) (Value.itemAt wrap' bs x)) (name : String) :
    Paired p (Value.listProperty wrap as name) (Value.listProperty wrap' bs name) := by
  rw [Value.listProperty, Value.listProperty, hlength]
  split
  · exact ofNat _
  · cases Number.readDecimalOrWord? name.toList with
    | none => exact .undefined
    | some x => exact h x

theorem dateProperty (t : DateTime) (name : String) : Paired p (t.property name) (t.property name) := by
  rw [DateTime.property]
  split
  · exact .number _
  · split_ifs <;> constructor

/-- What values have under a name. -/
theorem property (h : Paired p v w) (name : String) :
    Paired p (v.property name) (w.property name) := by
  cases h with
  | object h => exact getD (h.get? name)
  | array h => exact listProperty h.length_eq (itemAt h) name
  | string s => exact listProperty rfl (itemAt_ofChar s.toList) name
  | date t => exact dateProperty t name
  | _ => exact .undefined

/-! ### Operators -/

theorem applyUnary (h : Paired p v w) (op : UnaryOp) : Paired p (op.apply v) (op.apply w) := by
  unfold UnaryOp.apply
  rw [h.truthy_eq, h.toNumber_eq, h.typeName_eq]
  cases op <;> constructor

theorem decided? (h : Paired p v w) (op : BinaryOp) :
    Option.Rel (Paired p) (op.decided? v) (op.decided? w) := by
  unfold BinaryOp.decided?
  rw [h.truthy_eq, h.isNullish_eq]
  cases op with
  | and | or | nullish => split_ifs <;> first | exact .none | exact .some h
  | _ => exact .none

/-! ### Data -/

mutual

/-- What is read from JSON is paired with itself. -/
theorem ofJson (p : Pairing) : ∀ j : Json, Paired p (.ofJson j) (.ofJson j)
  | .null => .null
  | .bool b => .bool b
  | .int n => .number _
  | .float x => .number x
  | .string s => .string s
  | .array items => by
    rw [Value.ofJson]
    exact .array (itemsOfJson p items .nil)
  | .object fields => by
    rw [Value.ofJson]
    exact .object (fieldsOfJson p fields .nil)

theorem itemsOfJson (p : Pairing) : ∀ (items : List Json) {acc : List Value},
    List.Forall₂ (Paired p) acc acc →
      List.Forall₂ (Paired p) (Value.itemsOfJson acc items) (Value.itemsOfJson acc items)
  | [], _, h => List.rel_reverse h
  | item :: items, _, h => by
    rw [Value.itemsOfJson]
    exact itemsOfJson p items (.cons (ofJson p item) h)

theorem fieldsOfJson (p : Pairing) : ∀ (fields : List (String × Json)) {acc : Fields Value},
    Fields.Related (Paired p) acc acc →
      Fields.Related (Paired p) (Value.fieldsOfJson acc fields) (Value.fieldsOfJson acc fields)
  | [], _, h => .of_pairs (List.rel_reverse h.pairs)
  | (key, value) :: fields, _, h => by
    rw [Value.fieldsOfJson]
    exact fieldsOfJson p fields (.cons key (ofJson p value) h)

end

/-- Items as they are handed to expressions. -/
theorem wrapItem (h : Paired p v w) : Paired p (Context.wrapItem v) (Context.wrapItem w) :=
  .object (.cons "json" h .nil)

/-- The variables of the environment are texts. -/
theorem environment (env : Environment) : Paired p env.toValue env.toValue := by
  refine .object (.refl fun f hf => ?_)
  obtain ⟨⟨name, text⟩, _, rfl⟩ := List.mem_map.1 hf
  exact .string text

end Paired

end Value

end TemplateExpr
