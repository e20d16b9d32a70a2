import TemplateExpr.Proofs.Expr.Tree
import TemplateExpr.Value.Json

/-!
# Bodies of arrow functions

`Value.mapBodies` changes the bodies of the arrow functions in a value and nothing else. Texts and
JSON do not show them.
-/

namespace TemplateExpr.Value

mutual

/-- The value with `g` applied to the bodies of all arrow functions. -/
def mapBodies (g : Expr → Expr) : Value → Value
  | array items => array (mapBodiesItems g items)
  | object fields => object (mapBodiesFields g fields)
  | function params body captured => function params (g body) (mapBodiesFields g captured)
  | v => v

/-- `mapBodies` of every item. -/
def mapBodiesItems (g : Expr → Expr) : List Value → List Value
  | [] => []
  | v :: vs => v.mapBodies g :: mapBodiesItems g vs

/-- `mapBodies` of the value of every field. -/
def mapBodiesFields (g : Expr → Expr) : Fields Value → Fields Value
  | [] => []
  | (key, v) :: fields => (key, v.mapBodies g) :: mapBodiesFields g fields

end

/-- The value without the places of the arrow functions in it. -/
def unplaced (v : Value) : Value := v.mapBodies Expr.unplaced

theorem keys_mapBodiesFields (g : Expr → Expr) (fields : Fields Value) :
    (mapBodiesFields g fields).keys = fields.keys := by
  induction fields with
  | nil => rfl
  | cons f fields ih => exact congrArg (f.1 :: ·) ih

mutual

theorem mapBodies_id : ∀ v : Value, v.mapBodies id = v
  | undefined | null | bool _ | number _ | string _ | date _ | host _ => rfl
  | array items => by rw [mapBodies, mapBodiesItems_id items]
  | object fields => by rw [mapBodies, mapBodiesFields_id fields]
  | function params body captured => by rw [mapBodies, mapBodiesFields_id captured, id]

theorem mapBodiesItems_id : ∀ vs : List Value, mapBodiesItems id vs = vs
  | [] => rfl
  | v :: vs => by rw [mapBodiesItems, mapBodies_id v, mapBodiesItems_id vs]

theorem mapBodiesFields_id : ∀ fields : Fields Value, mapBodiesFields id fields = fields
  | [] => rfl
  | (key, v) :: fields => by rw [mapBodiesFields, mapBodies_id v, mapBodiesFields_id fields]

end

/-! ### Texts and JSON -/

section

variable (g : Expr → Expr)

theorem isNullish_mapBodies (v : Value) : (v.mapBodies g).isNullish = v.isNullish := by
  cases v <;> simp only [mapBodies, isNullish]

theorem isOmitted_mapBodies (v : Value) : (v.mapBodies g).isOmitted = v.isOmitted := by
  cases v <;> simp only [mapBodies, isOmitted]

mutual

theorem toText_mapBodies : ∀ v : Value, (v.mapBodies g).toText = v.toText
  | undefined | null | bool _ | number _ | string _ | date _ | host _ => rfl
  | array items => by rw [mapBodies, toText, toText, itemTexts_mapBodiesItems items]
  | object _ | function .. => by simp only [mapBodies, toText]

theorem itemTexts_mapBodiesItems : ∀ (vs : List Value) {acc : List String},
    itemTexts acc (mapBodiesItems g vs) = itemTexts acc vs
  | [], _ => rfl
  | v :: vs, _ => by
    rw [mapBodiesItems, itemTexts, itemTexts, isNullish_mapBodies, toText_mapBodies v,
      itemTexts_mapBodiesItems vs]

end

mutual

theorem toJson_mapBodies : ∀ v : Value, (v.mapBodies g).toJson = v.toJson
  | undefined | null | bool _ | number _ | string _ | date _ | host _ => rfl
  | array items => by rw [mapBodies, toJson, toJson, itemsJson_mapBodiesItems items]
  | object fields => by rw [mapBodies, toJson, toJson, fieldsJson_mapBodiesFields fields]
  | function .. => by simp only [mapBodies, toJson]

theorem itemsJson_mapBodiesItems : ∀ (vs : List Value) {acc : List Json},
    itemsJson acc (mapBodiesItems g vs) = itemsJson acc vs
  | [], _ => rfl
  | v :: vs, _ => by
    rw [mapBodiesItems, itemsJson, itemsJson, toJson_mapBodies v, itemsJson_mapBodiesItems vs]

theorem fieldsJson_mapBodiesFields : ∀ (fields : Fields Value) {acc : List (String × Json)},
    fieldsJson acc (mapBodiesFields g fields) = fieldsJson acc fields
  | [], _ => rfl
  | (key, v) :: fields, _ => by
    rw [mapBodiesFields, fieldsJson, fieldsJson, isOmitted_mapBodies, toJson_mapBodies v,
      fieldsJson_mapBodiesFields fields]

end

theorem templateText_mapBodies (v : Value) : (v.mapBodies g).templateText = v.templateText := by
  have htext := toText_mapBodies g v
  have hjson := congrArg Json.compact (toJson_mapBodies g v)
  cases v <;> simp only [mapBodies] at * <;> first | rfl | exact htext | exact hjson

end

/-- Values that are the same up to places have the same text. -/
theorem templateText_eq_of_unplaced {v w : Value} (h : v.unplaced = w.unplaced) :
    v.templateText = w.templateText := by
  rw [← templateText_mapBodies Expr.unplaced v, ← templateText_mapBodies Expr.unplaced w]
  exact congrArg templateText h

end TemplateExpr.Value
