import TemplateExpr.Method.Date
import TemplateExpr.Method.Number
import TemplateExpr.Method.Text
import TemplateExpr.Proofs.Method.Basic

/-!
# Methods of texts, numbers, truth values and dates in two sandboxes

Texts hold no hosts and no functions, so that only the arguments and the limit of memory are to be
compared. The methods of numbers, truth values and dates use no memory that is counted; they give
data or fail, whatever the sandbox is.
-/

namespace TemplateExpr

open TemplateExpr.Eval TemplateExpr.Eval.Comparison Value

variable {L : Comparison} {p : Pairing} {args args' : List Value}

namespace TextMethod

open TemplateExpr.Text

/-! ### Arguments -/

section

variable (h : List.Forall₂ (Paired p) args args')

include h

theorem chars_eq (i : Nat) : chars args i = chars args' i := (Paired.nth h i).toChars_eq

end

/-! ### Kinds of methods -/

theorem respects_convert (f : List Char → List Char) : L.Respects p Eq (convert f) :=
  respects_pure fun _ _ _ _ hs _ => hs ▸ .ofChars _

theorem respects_test (f : List Char → Bool) : L.Respects p Eq (test f) :=
  respects_pure fun _ _ _ _ hs _ => hs ▸ .bool _

theorem respects_extract (f : List Char → Option (List Char)) : L.Respects p Eq (extract f) := by
  refine respects_pure fun s s' _ _ hs _ => ?_
  subst hs
  cases f s.toList with
  | none => exact .undefined
  | some cs => exact .ofChars cs

theorem respects_compare (f : List Char → List Char → Bool) : L.Respects p Eq (compare f) := by
  refine respects_pure fun s s' args args' hs h => ?_
  rw [hs, chars_eq h]
  exact .bool _

theorem respects_locate (find? : List Char → List Char → Option Nat) :
    L.Respects p Eq (locate find?) := by
  refine respects_pure fun s s' args args' hs h => ?_
  rw [hs, chars_eq h]
  cases find? (chars args' 0) s'.toList with
  | none => exact .number _
  | some i => exact .ofNat i

theorem respects_toNumber (f : Float → Float) : L.Respects p Eq (toNumber f) :=
  respects_pure fun _ _ _ _ hs _ => hs ▸ .number _

theorem respects_self : L.Respects p Eq self :=
  respects_pure fun _ _ _ _ hs _ => hs ▸ .string _

/-! ### Cutting -/

theorem respects_slice : L.Respects p Eq slice := by
  refine respects_pure fun s s' args args' hs h => ?_
  rw [hs, Arguments.number?_eq h 0, Arguments.number?_eq h 1]
  exact .ofChars _

theorem respects_substring : L.Respects p Eq substring := by
  refine respects_pure fun s s' args args' hs h => ?_
  rw [hs, Arguments.number?_eq h 0, Arguments.number?_eq h 1]
  exact .ofChars _

theorem respects_charAt : L.Respects p Eq charAt := by
  refine respects_pure fun s s' args args' hs h => ?_
  rw [hs, Arguments.number?_eq h]
  exact .ofChars _

theorem respects_at : L.Respects p Eq at_ := by
  refine respects_pure fun s s' args args' hs h => ?_
  rw [hs, Arguments.number?_eq h]
  cases (Number.itemIndex? ((Arguments.number? args' 0).getD 0) s'.toList.length).bind
      (s'.toList[·]?) with
  | none => exact .undefined
  | some c => exact .ofChar c

/-- Texts are paired with themselves. -/
theorem paired_texts (css : List (List Char)) :
    List.Forall₂ (Paired p) (css.map Value.ofChars) (css.map Value.ofChars) :=
  List.forall₂_map_left_iff.2 (List.forall₂_map_right_iff.2
    (List.forall₂_same.2 fun cs _ => Paired.ofChars cs))

theorem respects_split : L.Respects p Eq split := by
  intro c c' _ s s' args args' hs h
  subst hs
  have hsep := Paired.nth h 0
  have hchars := hsep.toChars_eq
  unfold split
  rw [Arguments.number?_eq h]
  generalize Arguments.nth args 0 = sep, Arguments.nth args' 0 = sep' at hsep hchars
  cases hsep with
  | undefined => exact L.rel_reserve_bind rfl (L.rel_pure (.array (.cons (.string s) .nil)))
  | _ =>
    dsimp only
    rw [hchars]
    exact L.rel_reserve_bind rfl (L.rel_pure (.array (paired_texts _)))

/-! ### Replacing -/

theorem respects_replace : L.Respects p Eq replace := by
  intro c c' _ s s' args args' hs h
  refine L.rel_ofExcept_bind (Arguments.ends_text h _ _) fun search _ hsearch => L.rel_pure ?_
  rw [hsearch, hs, chars_eq h]
  exact .ofChars _

theorem respects_replaceEvery : L.Respects p Eq replaceEvery := by
  intro c c' _ s s' args args' hs h
  refine L.rel_ofExcept_bind (Arguments.ends_text h _ _) fun search _ hsearch => ?_
  subst hs hsearch
  dsimp only
  rw [(Paired.nth h 1).toText_eq]
  refine L.rel_check Iff.rfl (fun _ => L.fails_raised rfl) fun _ => ?_
  exact L.rel_reserve_bind rfl (L.rel_pure (.ofChars _))

/-! ### Growing -/

theorem respects_repeated : L.Respects p Eq repeated := by
  intro c c' _ s s' args args' hs h
  refine L.rel_ofExcept_bind (Arguments.ends_number h _ _) fun x _ hx => ?_
  subst hs hx
  refine L.rel_check Iff.rfl (fun _ => L.fails_raised rfl) fun _ => ?_
  exact L.rel_reserve_bind rfl (L.rel_pure (.string _))

/-- What is put in front or behind is the same. -/
theorem rel_padding (h : List.Forall₂ (Paired p) args args') (method s : String) :
    L.rel Eq (padding method s args) (padding method s args') := by
  refine L.rel_ofExcept_bind (Arguments.ends_number h _ _) fun target _ htarget => ?_
  refine L.rel_ofExcept_bind (Arguments.ends_text? h _ _) fun fill _ hfill => ?_
  subst htarget hfill
  dsimp only
  split
  · exact L.rel_pure rfl
  · exact L.rel_reserve_bind rfl (L.rel_pure rfl)

theorem respects_padStart : L.Respects p Eq padStart := by
  intro c c' _ s s' args args' hs h
  subst hs
  exact L.rel_bind_pure (rel_padding h "padStart" s) fun _ _ hpad => hpad ▸ .string _

theorem respects_padEnd : L.Respects p Eq padEnd := by
  intro c c' _ s s' args args' hs h
  subst hs
  exact L.rel_bind_pure (rel_padding h "padEnd" s) fun _ _ hpad => hpad ▸ .string _

theorem respects_concat : L.Respects p Eq concat := by
  intro c c' _ s s' args args' hs h
  subst hs
  have htext : args.foldl (fun acc v => acc ++ v.toText) s =
      args'.foldl (fun acc v => acc ++ v.toText) s := by
    refine List.rel_foldl (R := Paired p) (P := Eq) ?_ rfl h
    rintro acc _ rfl v w hv
    exact congrArg (acc ++ ·) hv.toText_eq
  unfold concat
  rw [htext]
  exact L.rel_reserve_bind rfl (L.rel_pure (.string _))

theorem respects_quote : L.Respects p Eq quote := by
  intro c c' _ s s' args args' hs h
  subst hs
  refine L.rel_ofExcept_bind (Arguments.ends_text? h _ _) fun mark _ hmark => ?_
  exact hmark ▸ L.rel_pure (.ofChars _)

/-! ### Conversions and codes -/

theorem respects_toDateTime : L.Respects p Eq toDateTime := by
  intro c c' _ s s' args args' hs h
  subst hs
  exact L.rel_ofExcept_bind (DateTime.ends_ofText s) fun t _ ht => ht ▸ L.rel_pure (.date t)

theorem respects_base64Encode : L.Respects p Eq base64Encode := by
  intro c c' _ s s' args args' hs h
  subst hs
  exact L.rel_reserve_bind rfl (L.rel_pure (.ofChars _))

theorem respects_base64Decode : L.Respects p Eq base64Decode := by
  intro c c' _ s s' args args' hs h
  subst hs
  unfold base64Decode
  split
  · exact L.rel_pure (.ofChars _)
  · exact L.rel_fail rfl

theorem respects_urlDecode : L.Respects p Eq urlDecode := by
  intro c c' _ s s' args args' hs h
  subst hs
  unfold urlDecode
  split
  · exact L.rel_pure (.ofChars _)
  · exact L.rel_fail rfl

theorem respects_parseJson : L.Respects p Eq parseJson := by
  intro c c' _ s s' args args' hs h
  subst hs
  unfold parseJson
  split
  · exact L.rel_fail rfl
  · exact L.rel_reserve_bind rfl (L.rel_pure (Paired.ofJson p _))

/-! ### Table -/

/-- Every method of texts. -/
theorem respects_of_mem_table : ∀ m ∈ table, L.Respects p Eq m.run := by
  simp only [table, List.forall_mem_cons, List.not_mem_nil, false_imp_iff, implies_true, and_true,
    respects_convert, respects_test, respects_extract, respects_compare, respects_locate,
    respects_toNumber, respects_self, respects_slice, respects_substring, respects_charAt,
    respects_at, respects_split, respects_replace, respects_replaceEvery, respects_repeated,
    respects_padStart, respects_padEnd, respects_concat, respects_quote, respects_toDateTime,
    respects_base64Encode, respects_base64Decode, respects_urlDecode, respects_parseJson]

end TextMethod

namespace NumberMethod

theorem respects_convert (f : Float → Float) : L.Respects p Eq (convert f) :=
  respects_pure fun _ _ _ _ hx _ => hx ▸ .number _

theorem respects_test (f : Float → Bool) : L.Respects p Eq (test f) :=
  respects_pure fun _ _ _ _ hx _ => hx ▸ .bool _

theorem respects_toFixed : L.Respects p Eq toFixed := by
  intro c c' _ x x' args args' hx h
  subst hx
  unfold toFixed
  rw [Arguments.number?_eq h]
  exact L.rel_check Iff.rfl (fun _ => L.fails_raised rfl) fun _ => L.rel_pure (.string _)

theorem respects_toString : L.Respects p Eq toString := by
  intro c c' _ x x' args args' hx h
  subst hx
  unfold toString
  rw [Arguments.number?_eq h]
  dsimp only
  split
  · exact L.rel_pure (.string _)
  · exact L.rel_check Iff.rfl (fun _ => L.fails_raised rfl) fun _ => L.rel_pure (.string _)

theorem respects_round : L.Respects p Eq round := by
  refine respects_pure fun x x' args args' hx h => ?_
  rw [hx, Arguments.number?_eq h]
  exact .number _

theorem respects_format : L.Respects p Eq format :=
  respects_pure fun _ _ _ _ hx _ => hx ▸ .string _

theorem respects_toDateTime : L.Respects p Eq toDateTime := by
  intro c c' _ x x' args args' hx h
  subst hx
  refine L.rel_ofExcept_bind (Arguments.ends_text? h _ _) fun unit? _ hunit => ?_
  subst hunit
  have hrest (factor : Float) : L.rel (Paired p)
      (ofExcept (DateTime.ofNumber (x * factor)) >>= fun t => pure (.date t))
      (ofExcept (DateTime.ofNumber (x * factor)) >>= fun t => pure (.date t)) :=
    L.rel_ofExcept_bind (DateTime.ends_ofNumber _) fun t _ ht => ht ▸ L.rel_pure (.date t)
  cases unit? with
  | none => exact hrest 1
  | some unit =>
    dsimp only
    split_ifs
    · exact hrest 1
    · exact hrest 1000
    · exact L.rel_bind (R := fun _ _ => False) (L.rel_fail rfl) fun _ _ hf => hf.elim

/-- Every method of numbers. -/
theorem respects_of_mem_table : ∀ m ∈ table, L.Respects p Eq m.run := by
  simp only [table, List.forall_mem_cons, List.not_mem_nil, false_imp_iff, implies_true, and_true,
    respects_convert, respects_test, respects_toFixed, respects_toString, respects_round,
    respects_format, respects_toDateTime]

end NumberMethod

namespace BooleanMethod

/-- Every method of truth values. -/
theorem respects_of_mem_table : ∀ m ∈ table, L.Respects p Eq m.run := by
  have hnumber : L.Respects p Eq toNumber :=
    respects_pure fun _ _ _ _ hb _ => hb ▸ .number _
  have htext : L.Respects p Eq fun _ b _ => pure (.string (Value.bool b).toText) :=
    respects_pure fun _ _ _ _ hb _ => hb ▸ .string _
  have hnot : L.Respects p Eq fun _ b _ => pure (.bool !b) :=
    respects_pure fun _ _ _ _ hb _ => hb ▸ .bool _
  simp only [table, List.forall_mem_cons, List.not_mem_nil, false_imp_iff, implies_true, and_true,
    hnumber, htext, hnot]

end BooleanMethod

namespace DateMethod

theorem respects_convert {f : DateTime → Value} (h : ∀ t, Paired p (f t) (f t)) :
    L.Respects p Eq (convert f) :=
  respects_pure fun t _ _ _ ht _ => ht ▸ h t

/-! ### Units -/

theorem ends_unit (method name : String) : L.Ends Eq (unit method name) (unit method name) := by
  unfold unit
  split
  · exact .ok rfl
  · exact L.ends_fail rfl

theorem ends_unitOf (h : List.Forall₂ (Paired p) args args') (method : String) (i : Nat) :
    L.Ends Eq (unitOf method args i) (unitOf method args' i) :=
  (Arguments.ends_text h method i).bind fun name _ hname => hname ▸ ends_unit method name

theorem ends_inRange (method : String) (t? : Option DateTime) :
    L.Ends Eq (inRange method t?) (inRange method t?) := by
  cases t? with
  | none => exact L.ends_fail rfl
  | some t => exact .ok rfl

/-! ### Shifting -/

theorem ends_shiftAll (method : String) (backwards : Bool) {amounts amounts' : Fields Value}
    (h : Fields.Related (Paired p) amounts amounts') (t : DateTime) :
    L.Ends Eq (shiftAll method backwards t amounts) (shiftAll method backwards t amounts') := by
  induction h generalizing t with
  | nil => exact .ok rfl
  | cons name hv _ ih =>
    rw [shiftAll, shiftAll, hv.toNumber_eq]
    refine (ends_unit method name).bind fun u _ hu => ?_
    subst hu
    refine (ends_inRange method _).bind fun t' _ ht => ?_
    subst ht
    exact ih t'

/-- A date that is moved by an amount in a unit. -/
theorem rel_moved (method : String) (t? : Option DateTime) :
    L.rel (Paired p) (ofExcept (inRange method t?) >>= fun t => pure (.date t))
      (ofExcept (inRange method t?) >>= fun t => pure (.date t)) :=
  L.rel_ofExcept_bind (ends_inRange method t?) fun t _ ht => ht ▸ L.rel_pure (.date t)

theorem respects_shift (method : String) (backwards : Bool) :
    L.Respects p Eq (shift method backwards) := by
  intro c c' _ t t' args args' ht h
  subst ht
  have hamount : L.rel (Paired p)
      (do let amount ← Arguments.number method args 0
          let u ← if args.length ≤ 1 then pure .millisecond else unitOf method args 1
          let t ← inRange method (t.add? (signedAmount backwards amount) u)
          pure (.date t))
      (do let amount ← Arguments.number method args' 0
          let u ← if args'.length ≤ 1 then pure .millisecond else unitOf method args' 1
          let t ← inRange method (t.add? (signedAmount backwards amount) u)
          pure (.date t)) := by
    refine L.rel_ofExcept_bind (Arguments.ends_number h _ _) fun amount _ hamount => ?_
    subst hamount
    rw [h.length_eq]
    split
    · exact rel_moved method _
    · refine L.rel_ofExcept_bind (ends_unitOf h method 1) fun u _ hu => ?_
      exact hu ▸ rel_moved method _
  have hfirst := Paired.nth h 0
  unfold shift
  generalize Arguments.nth args 0 = v, Arguments.nth args' 0 = w at hfirst
  cases hfirst with
  | object hamounts =>
    refine L.rel_ofExcept_bind (ends_shiftAll method backwards hamounts t) fun t' _ ht => ?_
    exact ht ▸ L.rel_pure (.date t')
  | _ => exact hamount

theorem respects_diff : L.Respects p Eq diff := by
  intro c c' _ t t' args args' ht h
  subst ht
  refine L.rel_ofExcept_bind (Value.ends_toDateTime (Paired.nth h 0)) fun other _ hother => ?_
  subst hother
  rw [(Paired.nth h 1).isUndefined_eq]
  dsimp only
  split
  · exact L.rel_pure (.number _)
  · exact L.rel_ofExcept_bind (ends_unitOf h "diff" 1) fun u _ hu => hu ▸ L.rel_pure (.number _)

theorem respects_bound (method : String) (f : DateTime → TimeUnit → Option DateTime) :
    L.Respects p Eq (bound method f) := by
  intro c c' _ t t' args args' ht h
  subst ht
  refine L.rel_ofExcept_bind (ends_unitOf h method 0) fun u _ hu => ?_
  exact hu ▸ rel_moved method _

/-! ### Reading -/

theorem respects_format : L.Respects p Eq format := by
  intro c c' _ t t' args args' ht h
  subst ht
  refine L.rel_ofExcept_bind (Arguments.ends_text h _ _) fun pattern _ hpattern => ?_
  exact hpattern ▸ L.rel_pure (.string _)

theorem respects_component : L.Respects p Eq component := by
  intro c c' _ t t' args args' ht h
  subst ht
  refine L.rel_ofExcept_bind (ends_unitOf h "get" 0) fun u _ hu => ?_
  exact hu ▸ L.rel_pure (.number _)

theorem respects_compare (f : DateTime → DateTime → Bool) : L.Respects p Eq (compare f) := by
  intro c c' _ t t' args args' ht h
  subst ht
  refine L.rel_ofExcept_bind (Value.ends_toDateTime (Paired.nth h 0)) fun other _ hother => ?_
  exact hother ▸ L.rel_pure (.bool _)

/-- Every method of dates. -/
theorem respects_of_mem_table : ∀ m ∈ table, L.Respects p Eq m.run := by
  have htext (f : DateTime → String) : L.Respects p Eq (convert fun t => .string (f t)) :=
    respects_convert fun t => .string _
  have hdate (f : DateTime → DateTime) : L.Respects p Eq (convert fun t => .date (f t)) :=
    respects_convert fun t => .date _
  have hnumber (f : DateTime → Float) : L.Respects p Eq (convert fun t => .number (f t)) :=
    respects_convert fun t => .number _
  have htest (f : DateTime → Bool) : L.Respects p Eq (convert fun t => .bool (f t)) :=
    respects_convert fun t => .bool _
  simp only [table, List.forall_mem_cons, List.not_mem_nil, false_imp_iff, implies_true, and_true,
    htext, hdate, hnumber, htest, respects_shift, respects_diff, respects_bound, respects_format,
    respects_component, respects_compare]

end DateMethod

end TemplateExpr
