import TemplateExpr.Method.Object
import TemplateExpr.Proofs.Eval.Comparison
import TemplateExpr.Proofs.Value.Pairing
import TemplateExpr.Value.DateTime

/-!
# Methods in two sandboxes

`Comparison.Respects` says of an operation that its runs in the two sandboxes go together, whatever
paired receivers and arguments it has, and that its results are paired again. It is what is shown of
every method.
-/

namespace TemplateExpr

open TemplateExpr.Eval Value

/-! ### Arguments -/

namespace Arguments

variable {L : Comparison} {p : Pairing} {args args' : List Value}

section

variable (h : List.Forall₂ (Paired p) args args')

include h

theorem number?_eq (i : Nat) : number? args i = number? args' i := by
  rw [number?, number?, (Paired.nth h i).isNullish_eq, (Paired.nth h i).toNumber_eq]

theorem ends_text (method : String) (i : Nat) :
    L.Ends Eq (text method args i) (text method args' i) := by
  have hi := Paired.getElem? h i
  unfold text
  generalize args[i]? = v?, args'[i]? = w? at hi
  cases hi with
  | none => exact L.ends_fail rfl
  | some hv =>
    cases hv with
    | string s => exact .ok rfl
    | _ => exact L.ends_fail rfl

theorem ends_text? (method : String) (i : Nat) :
    L.Ends Eq (text? method args i) (text? method args' i) := by
  unfold text?
  rw [(Paired.nth h i).isUndefined_eq]
  split
  · exact .ok rfl
  · exact (ends_text h method i).map fun _ _ heq => congrArg some heq

theorem ends_texts (method : String) : L.Ends Eq (texts method args) (texts method args') := by
  unfold texts
  rw [h.length_eq]
  induction List.range args'.length with
  | nil => exact .ok rfl
  | cons i is ih =>
    rw [List.mapM_cons, List.mapM_cons]
    refine (ends_text h method i).bind fun s s' hs => ih.bind fun ss ss' hss => ?_
    rw [hs, hss]
    exact .ok rfl

theorem ends_number (method : String) (i : Nat) :
    L.Ends Eq (number method args i) (number method args' i) := by
  unfold number
  rw [(Paired.nth h i).isNullish_eq, (Paired.nth h i).toNumber_eq]
  split
  · exact L.ends_fail rfl
  · exact .ok rfl

theorem ends_function (method : String) (i : Nat) :
    L.Ends (Paired p) (function method args i) (function method args' i) := by
  unfold function
  rw [(Paired.nth h i).isFunction_eq]
  split
  · exact .ok (Paired.nth h i)
  · exact L.ends_fail rfl

end

end Arguments

/-! ### Moments -/

section

variable {L : Comparison}

theorem DateTime.ends_ofText (s : String) : L.Ends Eq (DateTime.ofText s) (DateTime.ofText s) := by
  unfold ofText
  split
  · exact .ok rfl
  · exact L.ends_fail rfl

theorem DateTime.ends_ofNumber (x : Float) :
    L.Ends Eq (DateTime.ofNumber x) (DateTime.ofNumber x) := by
  unfold ofNumber
  split
  · exact .ok rfl
  · exact L.ends_fail rfl

theorem Value.ends_toDateTime {p : Pairing} {v w : Value} (h : Paired p v w) :
    L.Ends Eq v.toDateTime w.toDateTime := by
  have htext := h.toText_eq
  cases h with
  | date t => exact .ok rfl
  | string s => exact DateTime.ends_ofText s
  | number x => exact DateTime.ends_ofNumber x
  | _ =>
    change L.Ends Eq (.error (.invalidDate (toText _))) (.error (.invalidDate (toText _)))
    exact htext ▸ L.ends_fail rfl

end

/-! ### Methods -/

namespace Eval.Comparison

variable (L : Comparison) (p : Pairing)

/-- Two ways of calling function values go together on paired values. -/
def Callers (c c' : Caller) : Prop :=
  ∀ f f' args args', Paired p f f' → List.Forall₂ (Paired p) args args' →
    L.rel (Paired p) (c f args) (c' f' args')

/-- The runs of an operation on receivers that are related by `R` go together. -/
def Respects {ρ : Type} (R : ρ → ρ → Prop) (run : Caller → ρ → List Value → Eval Value) : Prop :=
  ∀ c c', L.Callers p c c' → ∀ r r' args args', R r r' → List.Forall₂ (Paired p) args args' →
    L.rel (Paired p) (run c r args) (run c' r' args')

variable {L p} {ρ : Type} {R : ρ → ρ → Prop}

/-- An operation that gives paired values and uses nothing. -/
theorem respects_pure {f : ρ → List Value → Value}
    (h : ∀ r r' args args', R r r' → List.Forall₂ (Paired p) args args' →
      Paired p (f r args) (f r' args')) :
    L.Respects p R (fun _ r args => pure (f r args)) :=
  fun _ _ _ r r' args args' hr hargs => L.rel_pure (h r r' args args' hr hargs)

end Eval.Comparison

end TemplateExpr

/-!
## Methods of objects in two sandboxes

The values of the fields are handed on as they are.
-/

namespace TemplateExpr.ObjectMethod

open TemplateExpr.Eval TemplateExpr.Eval.Comparison Value

variable {L : Comparison} {p : Pairing} {fields fields' : Fields Value}

/-- Fields whose values are paired one by one. -/
abbrev PairedFields (p : Pairing) : Fields Value → Fields Value → Prop := Fields.Related (Paired p)

theorem respects_convert {f : Fields Value → Value}
    (h : ∀ fields fields', PairedFields p fields fields' → Paired p (f fields) (f fields')) :
    L.Respects p (PairedFields p) (convert f) :=
  respects_pure fun fields fields' _ _ hfields _ => h fields fields' hfields

theorem respects_entries : L.Respects p (PairedFields p) entries := by
  intro c c' _ fields fields' args args' hfields _
  refine L.rel_reserve_bind (by rw [hfields.length_eq]) (L.rel_pure (.array ?_))
  refine List.rel_map (fun f f' hf => ?_) hfields.pairs
  rw [entry, entry, hf.1]
  exact .array (.cons (.string _) (.cons hf.2 .nil))

theorem respects_hasField : L.Respects p (PairedFields p) hasField := by
  intro c c' _ fields fields' args args' hfields hargs
  refine L.rel_ofExcept_bind (Arguments.ends_text hargs _ _) fun name _ hname => ?_
  rw [← hname, hfields.has_eq]
  exact L.rel_pure (.bool _)

theorem respects_removeField : L.Respects p (PairedFields p) removeField := by
  intro c c' _ fields fields' args args' hfields hargs
  refine L.rel_ofExcept_bind (Arguments.ends_text hargs _ _) fun name _ hname => ?_
  subst hname
  exact L.rel_pure (.object (hfields.erase name))

theorem respects_merge : L.Respects p (PairedFields p) merge := by
  intro c c' _ fields fields' args args' hfields hargs
  have hmore := Paired.nth hargs 0
  unfold merge
  generalize Arguments.nth args 0 = v, Arguments.nth args' 0 = w at hmore
  cases hmore with
  | object hmore =>
    have hout := Fields.Related.mergeNew hfields hmore
    exact L.rel_reserve_bind (by rw [hout.length_eq]) (L.rel_pure (.object hout))
  | _ => exact L.rel_fail rfl

theorem respects_toJsonString : L.Respects p (PairedFields p) toJsonString := by
  intro c c' _ fields fields' args args' hfields _
  unfold toJsonString
  dsimp only
  rw [(Paired.object hfields).jsonText_eq]
  exact L.rel_reserve_bind rfl (L.rel_pure (.string _))

theorem isPresent_eq (key : String) (v w : Value) (h : Paired p v w) :
    isPresent (key, v) = isPresent (key, w) := by
  cases h <;> rfl

theorem urlEncode_eq (h : PairedFields p fields fields') : urlEncode fields = urlEncode fields' := by
  have hpresent := h.filter (p := fun f => !f.2.isNullish) (q := fun f => !f.2.isNullish)
    fun _ _ _ hv => by rw [hv.isNullish_eq]
  have htexts : (fields.filter fun f => !f.2.isNullish).map (fun f => (f.1.toList, f.2.toChars)) =
      (fields'.filter fun f => !f.2.isNullish).map (fun f => (f.1.toList, f.2.toChars)) :=
    List.forall₂_eq_eq_eq ▸ List.rel_map
      (fun f f' hf => Prod.ext (congrArg String.toList hf.1) hf.2.toChars_eq) hpresent.pairs
  rw [urlEncode, urlEncode, htexts]

/-- Every method of objects. -/
theorem respects_of_mem_table : ∀ m ∈ table, L.Respects p (PairedFields p) m.run := by
  have hkeys : L.Respects p (PairedFields p)
      (convert fun fields => .array (Fields.keys fields |>.map .string)) :=
    respects_convert fun fields fields' h => by
      rw [h.keys_eq]
      refine .array ?_
      induction fields'.keys with
      | nil => exact .nil
      | cons key keys ih => exact .cons (.string key) ih
  have hvalues : L.Respects p (PairedFields p)
      (convert fun fields => .array (Fields.values fields)) :=
    respects_convert fun _ _ h => .array h.values
  have hcompact : L.Respects p (PairedFields p)
      (convert fun fields => .object (fields.filter isPresent)) :=
    respects_convert fun _ _ h => .object (h.filter isPresent_eq)
  have hurl : L.Respects p (PairedFields p) (convert urlEncode) :=
    respects_convert fun _ fields' h => urlEncode_eq h ▸ .string _
  have hempty : L.Respects p (PairedFields p) (convert fun fields => .bool fields.isEmpty) :=
    respects_convert fun _ _ h => by cases h <;> exact .bool _
  have hfilled : L.Respects p (PairedFields p) (convert fun fields => .bool !fields.isEmpty) :=
    respects_convert fun _ _ h => by cases h <;> exact .bool _
  have htext : L.Respects p (PairedFields p)
      (convert fun fields => .string (Value.object fields).toText) :=
    respects_convert fun _ _ h => (Paired.object h).toText_eq ▸ .string _
  simp only [table, List.forall_mem_cons, List.not_mem_nil, false_imp_iff, implies_true, and_true,
    hkeys, hvalues, hcompact, hurl, htext, hempty, hfilled, respects_entries, respects_hasField,
    respects_removeField, respects_merge, respects_toJsonString]

end TemplateExpr.ObjectMethod
