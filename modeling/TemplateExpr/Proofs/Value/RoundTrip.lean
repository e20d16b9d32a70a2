import TemplateExpr.Eval.Function
import TemplateExpr.Method.Table
import TemplateExpr.Proofs.Json.RoundTrip
import TemplateExpr.Proofs.Number.Integer
import TemplateExpr.Proofs.Value.Equality

/-!
# Data through JSON

Data that JSON has a text for (`Value.IsPlain`) is the same behind it: it is what its JSON text is
read back as, however the text is laid out, by the functions on JSON as well as by the methods of
arrays, objects and texts (`Value.parse_stringify`).
-/

namespace TemplateExpr.Value

open TemplateExpr.Json

/-- Data that is nested in at most `levels` arrays and objects: no numbers but integers below
`2 ^ 53`, and no key twice in an object. -/
def IsPlain : Nat → Value → Prop
  | _, null | _, bool _ | _, string _ => True
  | _, number x => ∃ n : Int, n.natAbs < 2 ^ 53 ∧ x = Number.ofInt n
  | levels + 1, array items => ∀ v ∈ items, IsPlain levels v
  | levels + 1, object fields => Fields.Distinct fields ∧ ∀ f ∈ fields, IsPlain levels f.2
  | _, _ => False

variable {levels : Nat} {v : Value} {items : List Value} {fields : Fields Value}

theorem isPlain_number {x : Float} :
    (number x).IsPlain levels ↔ ∃ n : Int, n.natAbs < 2 ^ 53 ∧ x = Number.ofInt n := by
  cases levels <;> rfl

theorem IsPlain.mono (h : v.IsPlain levels) {n : Nat} (hn : levels ≤ n) : v.IsPlain n := by
  induction levels using Nat.strongRecOn generalizing v n with
  | ind levels ih =>
    cases v with
    | null | bool | string => cases n <;> trivial
    | number x => exact isPlain_number.2 (isPlain_number.1 h)
    | array items =>
      obtain _ | levels := levels
      · exact h.elim
      obtain _ | n := n
      · omega
      exact fun v hv => ih levels (Nat.lt_succ_self _) (h v hv) (by omega)
    | object fields =>
      obtain _ | levels := levels
      · exact h.elim
      obtain _ | n := n
      · omega
      exact ⟨h.1, fun f hf => ih levels (Nat.lt_succ_self _) (h.2 f hf) (by omega)⟩
    | _ => cases levels <;> exact h.elim

/-! ### Parts of JSON -/

theorem itemsJson_append (items : List Value) (acc : List Json) :
    itemsJson acc items = acc.reverse ++ items.map toJson := by
  induction items generalizing acc with
  | nil => exact (List.append_nil _).symm
  | cons v items ih =>
    rw [itemsJson, ih, List.reverse_cons, List.append_assoc]
    rfl

theorem fieldsJson_append (h : ∀ f ∈ fields, f.2.isOmitted = false) (acc : Fields Json) :
    fieldsJson acc fields = acc.reverse ++ fields.map fun f => (f.1, f.2.toJson) := by
  induction fields generalizing acc with
  | nil => exact (List.append_nil _).symm
  | cons f fields ih =>
    have hf := h f List.mem_cons_self
    rw [fieldsJson, hf, if_neg Bool.false_ne_true,
      ih fun f hf => h f (List.mem_cons_of_mem _ hf), List.reverse_cons, List.append_assoc]
    rfl

theorem itemsOfJson_append (items : List Json) (acc : List Value) :
    itemsOfJson acc items = acc.reverse ++ items.map ofJson := by
  induction items generalizing acc with
  | nil => exact (List.append_nil _).symm
  | cons j items ih =>
    rw [itemsOfJson, ih, List.reverse_cons, List.append_assoc]
    rfl

theorem fieldsOfJson_append (fields : Fields Json) (acc : Fields Value) :
    fieldsOfJson acc fields = acc.reverse ++ fields.map fun f => (f.1, ofJson f.2) := by
  induction fields generalizing acc with
  | nil => exact (List.append_nil _).symm
  | cons f fields ih =>
    rw [fieldsOfJson, ih, List.reverse_cons, List.append_assoc]
    rfl

/-! ### Plain data -/

theorem IsPlain.isOmitted_eq (h : v.IsPlain levels) : v.isOmitted = false := by
  cases v with
  | undefined | function => cases levels <;> exact h.elim
  | _ => rfl

/-- The JSON of an integer below `2 ^ 53`. -/
theorem ofNumber_ofInt {n : Int} (hn : n.natAbs < 2 ^ 53) :
    Json.ofNumber (Number.ofInt n) = .int n := by
  obtain ⟨hfinite, -⟩ := Number.toRat_ofInt hn.le
  obtain ⟨hintegral, hvalue⟩ := Number.isIntegral_ofInt hn.le
  have hsmall : decide (n.natAbs < Nat.pow 2 53) = true := decide_eq_true hn
  rw [Json.ofNumber, hfinite, hintegral, hvalue]
  dsimp only
  rw [hsmall]
  rfl

/-- The JSON of plain data can be read back, and stands for the data. -/
theorem IsPlain.toJson (h : v.IsPlain levels) :
    v.toJson.IsReadable levels ∧ ofJson v.toJson = v := by
  induction levels using Nat.strongRecOn generalizing v with
  | ind levels ih =>
    cases v with
    | null | bool b | string s => cases levels <;> exact ⟨trivial, rfl⟩
    | number x =>
      obtain ⟨n, hn, rfl⟩ := isPlain_number.1 h
      have hword : -(UInt64.size / 2 : Nat) ≤ n ∧ n < (UInt64.size : Nat) := by
        have hsize : UInt64.size = 2 ^ 64 := rfl
        omega
      rw [Value.toJson, ofNumber_ofInt hn]
      exact ⟨by cases levels <;> exact hword, rfl⟩
    | array items =>
      obtain _ | levels := levels
      · exact h.elim
      have hitem : ∀ v ∈ items, v.toJson.IsReadable levels ∧ ofJson v.toJson = v := fun v hv =>
        ih levels (Nat.lt_succ_self _) (h v hv)
      rw [Value.toJson, itemsJson_append, ofJson, itemsOfJson_append, List.reverse_nil,
        List.nil_append, List.reverse_nil, List.nil_append, List.map_map]
      refine ⟨List.forall_mem_map.2 fun v hv => (hitem v hv).1, congrArg array ?_⟩
      exact (List.map_congr_left fun v hv => (hitem v hv).2).trans (List.map_id items)
    | object fields =>
      obtain _ | levels := levels
      · exact h.elim
      have hfield : ∀ f ∈ fields, f.2.toJson.IsReadable levels ∧ ofJson f.2.toJson = f.2 :=
        fun f hf => ih levels (Nat.lt_succ_self _) (h.2 f hf)
      rw [Value.toJson, fieldsJson_append fun f hf => (h.2 f hf).isOmitted_eq, ofJson,
        fieldsOfJson_append, List.reverse_nil, List.nil_append, List.reverse_nil, List.nil_append,
        List.map_map]
      refine ⟨⟨?_, List.forall_mem_map.2 fun f hf => (hfield f hf).1⟩, congrArg object ?_⟩
      · have hkeys := h.1
        rw [Fields.Distinct, Fields.keys] at hkeys ⊢
        rwa [List.map_map]
      · refine (List.map_congr_left (g := id) fun f hf => ?_).trans (List.map_id fields)
        exact Prod.ext rfl (hfield f hf).2
    | _ => cases levels <;> exact h.elim

/-- Plain data is equal to itself. -/
theorem IsPlain.strictEquals_self (h : v.IsPlain levels) : v.strictEquals v = true := by
  have hparts : v.IsKeyed ∧ v.holdsNaN = false := by
    induction levels using Nat.strongRecOn generalizing v with
    | ind levels ih =>
      cases v with
      | null | bool b | string s => exact ⟨trivial, rfl⟩
      | number x =>
        obtain ⟨n, hn, rfl⟩ := isPlain_number.1 h
        obtain ⟨hfinite, -⟩ := Number.toRat_ofInt hn.le
        refine ⟨trivial, ?_⟩
        rw [Number.isFinite, bne_iff_ne] at hfinite
        rw [holdsNaN, Number.isNaN, beq_false_of_ne hfinite, Bool.false_and]
      | array items =>
        obtain _ | levels := levels
        · exact h.elim
        have hitem := fun v hv => ih levels (Nat.lt_succ_self _) (h v hv)
        exact ⟨isKeyed_array.2 fun v hv => (hitem v hv).1,
          holdsNaN_array.2 fun v hv => (hitem v hv).2⟩
      | object fields =>
        obtain _ | levels := levels
        · exact h.elim
        have hfield := fun f hf => ih levels (Nat.lt_succ_self _) (h.2 f hf)
        exact ⟨isKeyed_object.2 ⟨h.1, fun f hf => (hfield f hf).1⟩,
          holdsNaN_object.2 fun f hf => (hfield f hf).2⟩
      | _ => cases levels <;> exact h.elim
  exact (strictEquals_self_iff hparts.1).2 hparts.2

/-! ### Texts of plain data -/

/-- A value for which the memory of a text is reserved. -/
def reserving (text : String) (v : Value) : Eval Value := do
  Eval.reserve text.utf8ByteSize
  pure v

variable {text : String} {j : Json}

/-- The text of a value in the layout that the other arguments ask for. -/
theorem stringify_cons (h : v.isOmitted = false) (layout : List Value) :
    ∃ text ∈ [v.toJson.compact, v.toJson.pretty],
      Namespace.stringify (v :: layout) = reserving text (.string text) := by
  rw [Namespace.stringify]
  simp only [Arguments.nth, List.getD_cons_zero, h, Bool.false_eq_true, if_false]
  split
  · exact ⟨_, by simp, rfl⟩
  · exact ⟨_, by simp, rfl⟩

theorem parseJson_string (h : Json.parseString text = .ok j) :
    Namespace.parseJson [.string text] = reserving text (ofJson j) := by
  have harg : (Arguments.nth [.string text] 0).toText = text := rfl
  rw [Namespace.parseJson, harg, h]
  rfl

theorem invoke_parseJson (h : Json.parseString text = .ok j) (call : Caller) :
    invoke call (.string text) "parseJson" [] = reserving text (ofJson j) := by
  show TextMethod.parseJson call text [] = _
  rw [TextMethod.parseJson, h]
  rfl

theorem IsPlain.invoke_toJsonString (h : v.IsPlain levels)
    (hkind : v.kind = .array ∨ v.kind = .object) (call : Caller) :
    invoke call v "toJsonString" [] = reserving v.jsonText (.string v.jsonText) := by
  cases v with
  | array items => rfl
  | object fields => rfl
  | host => cases levels <;> exact h.elim
  | _ => obtain hkind | hkind := hkind <;> cases hkind

/-- Plain data is the same behind its JSON text, whether the text is written on one line or on many.
Nothing but the ceiling of memory can keep it from being read back. -/
theorem parse_stringify (call : Caller) (hv : v.IsPlain levels)
    (hlevels : levels ≤ Json.maxNesting) :
    (∀ layout, ∃ text ∈ [v.toJson.compact, v.toJson.pretty],
      ((Host.space .json).call call "stringify" (v :: layout) >>= fun out =>
        (Host.space .json).call call "parse" [out]) =
          (Eval.reserve text.utf8ByteSize >>= fun _ => reserving text v)) ∧
      (v.kind = .array ∨ v.kind = .object →
        (invoke call v "toJsonString" [] >>= fun out => invoke call out "parseJson" []) =
          (Eval.reserve v.jsonText.utf8ByteSize >>= fun _ => reserving v.jsonText v)) ∧
      v.strictEquals v = true := by
  obtain ⟨hread, hvalue⟩ := (hv.mono hlevels).toJson
  have hcompact : Json.parseString v.jsonText = .ok v.toJson := parseString_compact hread
  refine ⟨fun layout => ?_, fun hkind => ?_, hv.strictEquals_self⟩
  · obtain ⟨text, htext, hstringify⟩ := stringify_cons hv.isOmitted_eq layout
    have hparse : Json.parseString text = .ok v.toJson := by
      obtain rfl | rfl : text = v.toJson.compact ∨ text = v.toJson.pretty := by simpa using htext
      · exact hcompact
      · exact parseString_pretty hread
    refine ⟨text, htext, ?_⟩
    show (Namespace.stringify (v :: layout) >>= fun out => Namespace.parseJson [out]) = _
    rw [hstringify, reserving, bind_assoc]
    simp only [pure_bind]
    rw [parseJson_string hparse, hvalue]
  · rw [hv.invoke_toJsonString hkind call, reserving, bind_assoc]
    simp only [pure_bind]
    rw [invoke_parseJson hcompact, hvalue]

/-- Data with what has to be escaped, an integer with a sign, nested data and empty lists. -/
def sample : Value :=
  object [("a\"\\\n\x01é", array [number (Number.ofInt (-5)), null, object [("k", bool true)]]),
    ("", array []), ("b", object [])]

/-- Keys and strings may hold anything, and integers may have a sign. -/
theorem parse_stringify_sample :
    sample.IsPlain 3 ∧ 3 ≤ Json.maxNesting ∧ sample.kind = .object ∧
      ∃ text ∈ [sample.toJson.compact, sample.toJson.pretty],
        ((Host.space .json).call (fun _ _ => pure undefined) "stringify"
          [sample, null, number 2] >>= fun out =>
            (Host.space .json).call (fun _ _ => pure undefined) "parse" [out]) =
              (Eval.reserve text.utf8ByteSize >>= fun _ => reserving text sample) := by
  have hnumber : ∃ n : Int, n.natAbs < 2 ^ 53 ∧ Number.ofInt (-5) = Number.ofInt n :=
    ⟨-5, by decide, rfl⟩
  have hplain : sample.IsPlain 3 := by
    simpa [sample, IsPlain, Fields.Distinct, Fields.keys] using hnumber
  have hlevels : 3 ≤ Json.maxNesting := by decide
  exact ⟨hplain, hlevels, rfl,
    (parse_stringify (fun _ _ => pure undefined) hplain hlevels).1 [null, number 2]⟩

end TemplateExpr.Value
