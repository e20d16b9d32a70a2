import TemplateExpr.Method.Table
import TemplateExpr.Proofs.Eval.Growth

/-!
# What methods build

Most methods build no more than their receiver, their arguments and what they reserve
(`Eval.ChargesCalls`): they hand on parts of what they are given, or they reserve what they write.
The other ones are listed in `unchargedMethods`: they hand on whatever a function gives, or they
write texts without reserving them.
-/

namespace TemplateExpr

open TemplateExpr.Text TemplateExpr.Eval TemplateExpr.Eval.Comparison Value

/-- Methods that may build more than what they are given and what they reserve. -/
def unchargedMethods : List String :=
  ["map", "reduce", "from", "smartJoin", "keys", "entries", "fromEntries", "parse", "parseJson",
   "toString", "toFixed", "format", "toFormat", "toISO", "toISODate", "replace", "quote",
   "toUpperCase", "toLowerCase", "toTitleCase", "toSentenceCase", "toSnakeCase", "toCamelCase",
   "extractEmail", "extractUrl", "extractDomain", "base64Decode", "urlEncode", "urlDecode"]

/-! ### Calls -/

section

variable {ρ : Type}

/-- Wherever a call of a method gives a value, its size is charged up to the sizes of the receiver,
which stands for the value `wrap r`, and of the arguments. -/
def Eval.ChargesCalls (s : Sandbox) (p : Pairing) (wrap : ρ → Value)
    (run : Caller → ρ → List Value → Eval Value) : Prop :=
  ∀ c r args, s.accounting.Callers p c c → Paired p (wrap r) (wrap r) →
    List.Forall₂ (Paired p) args args →
    Charges s size ((wrap r).size + total args) (run c r args)

variable {s : Sandbox} {p : Pairing} {wrap : ρ → Value}

/-- A method that reserves nothing. -/
theorem chargesCalls_pure {f : ρ → List Value → Value}
    (h : ∀ r args, (f r args).size ≤ (wrap r).size + total args) :
    ChargesCalls s p wrap fun _ r args => pure (f r args) :=
  fun _ r args _ _ _ => .pure (h r args)

theorem le_of_slot {v w : Value} (h : v.size = slot) (n : Nat) : v.size ≤ w.size + n :=
  h ▸ Nat.le_add_right_of_le w.slot_le_size

/-- A method without size, of scalars. -/
theorem chargesCalls_scalar {f : ρ → List Value → Value} (h : ∀ r args, (f r args).size = slot) :
    ChargesCalls s p wrap fun _ r args => pure (f r args) :=
  chargesCalls_pure fun r args => le_of_slot (h r args) _

end

/-- What is reserved for a text that is made. -/
theorem charges_reserved_text {s : Sandbox} (hs : CountsAll s) (t : String) (v : Value) (n : Nat) :
    Charges s size (v.size + n) (reserve t.utf8ByteSize >>= fun _ => pure (.string t)) := by
  have hv := v.slot_le_size
  refine .reserve_bind hs (.pure ?_)
  rw [size_string]
  omega

/-! ### Texts -/

namespace Text

theorem byteLength_trimStart_le (cs : List Char) : byteLength (trimStart cs) ≤ byteLength cs :=
  byteLength_le_of_sublist (List.dropWhile_sublist _)

theorem byteLength_trimEnd_le (cs : List Char) : byteLength (trimEnd cs) ≤ byteLength cs := by
  have h := byteLength_le_of_sublist (List.dropWhile_sublist isBlank (l := cs.reverse))
  rwa [byteLength_reverse, ← byteLength_reverse (List.dropWhile _ _)] at h

theorem byteLength_trim_le (cs : List Char) : byteLength (trim cs) ≤ byteLength cs :=
  Nat.le_trans (byteLength_trimEnd_le _) (byteLength_trimStart_le cs)

theorem byteLength_after?_le {mark : Char} {cs rest : List Char} (h : after? mark cs = some rest) :
    byteLength rest ≤ byteLength cs := by
  induction cs with
  | nil => cases h
  | cons c cs ih =>
    rw [byteLength_cons]
    unfold after? at h
    split at h
    · obtain rfl := Option.some.inj h
      exact Nat.le_add_left _ _
    · exact Nat.le_add_left_of_le (ih h)

theorem byteLength_dropTags_le (acc cs : List Char) :
    byteLength (dropTags acc cs) ≤ byteLength acc + byteLength cs := by
  fun_induction dropTags acc cs with
  | case1 acc => rw [byteLength_reverse, byteLength_nil, Nat.add_zero]
  | case2 acc cs rest hrest ih =>
    have hle := byteLength_after?_le hrest
    rw [byteLength_cons]
    omega
  | case3 acc cs hnone => rw [byteLength_append, byteLength_reverse]
  | case4 acc c cs hc ih =>
    rw [byteLength_cons] at ih ⊢
    omega

/-- The pieces of a text between separators are no longer than the text. -/
theorem byteLength_splitLoop_le (sep : List Char) (skip : Nat) (piece : List Char)
    (done : List (List Char)) (cs : List Char) :
    byteLength (splitLoop sep skip piece done cs).flatten ≤
      byteLength piece + byteLength done.reverse.flatten + byteLength cs := by
  induction cs generalizing skip piece done with
  | nil =>
    rw [splitLoop, List.reverse_cons, List.flatten_append, byteLength_append, List.flatten_cons,
      List.flatten_nil, List.append_nil, byteLength_reverse, byteLength_nil]
    omega
  | cons c cs ih =>
    rw [byteLength_cons]
    cases skip with
    | succ k =>
      have hrest := ih k piece done
      rw [splitLoop]
      omega
    | zero =>
      rw [splitLoop]
      split
      · have hrest := ih (sep.length - 1) [] (piece.reverse :: done)
        rw [List.reverse_cons, List.flatten_append, byteLength_append, List.flatten_cons,
          List.flatten_nil, List.append_nil, byteLength_reverse, byteLength_nil] at hrest
        omega
      · have hrest := ih 0 (c :: piece) done
        rw [byteLength_cons] at hrest
        omega

/-- A text in which every occurrence of `old` is replaced grows by no more than `new` for each. -/
theorem byteLength_replaceLoop_le (old new : List Char) (skip count : Nat) (acc cs : List Char) :
    byteLength (replaceLoop old new skip acc cs) + count * byteLength new ≤
      byteLength acc + byteLength cs + countLoop old skip count cs * byteLength new := by
  induction cs generalizing skip count acc with
  | nil =>
    rw [replaceLoop, countLoop, byteLength_reverse, byteLength_nil]
    omega
  | cons c cs ih =>
    rw [byteLength_cons]
    cases skip with
    | succ k =>
      have hrest := ih k count acc
      rw [replaceLoop, countLoop]
      omega
    | zero =>
      rw [replaceLoop, countLoop]
      split
      · have hrest := ih (old.length - 1) (count + 1) (new.reverse ++ acc)
        rw [byteLength_append, byteLength_reverse, Nat.succ_mul] at hrest
        omega
      · have hrest := ih 0 count (c :: acc)
        rw [byteLength_cons] at hrest
        omega

/-- The UTF-8 form of a text has its length in bytes. -/
theorem length_encode (cs : List Char) : (encode cs).length = byteLength cs := by
  have hchar (c : Char) : (encodeChar c).length = c.utf8Size := by
    unfold encodeChar Char.utf8Size
    have hval : c.toNat = c.val.toNat := rfl
    simp only [UInt32.le_iff_toNat_le, hval]
    split_ifs <;> simp_all <;> omega
  induction cs with
  | nil => rfl
  | cons c cs ih =>
    rw [byteLength_cons, ← hchar, ← ih, encode, List.flatMap_cons, List.length_append]
    rfl

/-- Three bytes are written with four characters. -/
theorem byteLength_base64_le (bytes : List Nat) :
    byteLength (Base64.encode bytes) ≤ bytes.length / 3 * 4 + 4 := by
  have hsymbol (n : Nat) : (Base64.symbol n).utf8Size = 1 := by
    by_cases h : n < 64
    · have hall : ∀ n < 64, (Base64.symbol n).utf8Size = 1 := by decide
      exact hall n h
    · unfold Base64.symbol
      rw [if_neg (by omega), if_neg (by omega), if_neg (by omega), if_neg (by omega)]
      rfl
  fun_induction Base64.encode bytes with
  | case1 a b c rest ih =>
    simp only [byteLength_cons, hsymbol, List.length_cons]
    omega
  | case2 a b =>
    simp only [byteLength_cons, hsymbol, byteLength_nil, List.length_cons, List.length_nil]
    decide
  | case3 a =>
    simp only [byteLength_cons, hsymbol, byteLength_nil, List.length_cons, List.length_nil]
    decide
  | case4 => exact Nat.zero_le _

end Text

namespace TextMethod

variable {s : Sandbox} {p : Pairing}

theorem charges_convert {f : List Char → List Char}
    (h : ∀ cs, byteLength (f cs) ≤ byteLength cs) : ChargesCalls s p Value.string (convert f) := by
  refine chargesCalls_pure fun t args => ?_
  have ht := h t.toList
  rw [byteLength_toList] at ht
  rw [size_ofChars, size_string]
  omega

theorem charges_test (q : List Char → Bool) : ChargesCalls s p Value.string (test q) :=
  chargesCalls_scalar fun _ _ => size_bool _

theorem charges_compare (q : List Char → List Char → Bool) :
    ChargesCalls s p Value.string (compare q) :=
  chargesCalls_scalar fun _ _ => size_bool _

theorem charges_locate (find? : List Char → List Char → Option Nat) :
    ChargesCalls s p Value.string (locate find?) := by
  refine chargesCalls_scalar fun t args => ?_
  cases find? (chars args 0) t.toList with
  | none => exact size_number _
  | some i => exact size_ofNat i

theorem charges_toNumber (f : Float → Float) : ChargesCalls s p Value.string (toNumber f) :=
  chargesCalls_scalar fun _ _ => size_number _

/-- A part of a text. -/
theorem charges_part {f : String → List Value → List Char}
    (h : ∀ t args, (f t args).Sublist t.toList) :
    ChargesCalls s p Value.string fun _ t args => pure (.ofChars (f t args)) := by
  refine chargesCalls_pure fun t args => ?_
  have ht := byteLength_le_of_sublist (h t args)
  rw [byteLength_toList] at ht
  rw [size_ofChars, size_string]
  omega

theorem between_sublist (cs : List Char) (start stop : Nat) : (between cs start stop).Sublist cs :=
  (List.take_sublist _ _).trans (List.drop_sublist _ _)

theorem charges_slice : ChargesCalls s p Value.string slice :=
  charges_part fun t _ => between_sublist t.toList _ _

theorem charges_substring : ChargesCalls s p Value.string substring :=
  charges_part fun t _ => between_sublist t.toList _ _

theorem charges_charAt : ChargesCalls s p Value.string charAt := by
  refine charges_part fun t args => ?_
  split
  · exact List.nil_sublist _
  · cases h : t.toList[Number.toNat64 ((Arguments.number? args 0).getD 0)]? with
    | none => exact List.nil_sublist _
    | some c => exact List.singleton_sublist.2 (List.mem_of_getElem? h)

theorem charges_at : ChargesCalls s p Value.string at_ := by
  refine chargesCalls_pure fun t args => ?_
  cases h : (Number.itemIndex? ((Arguments.number? args 0).getD 0) t.toList.length).bind
      (t.toList[·]?) with
  | none => exact le_of_slot size_undefined _
  | some c =>
    obtain ⟨i, -, hi⟩ := Option.bind_eq_some_iff.1 h
    exact Nat.le_add_right_of_le (size_ofChar_le (List.mem_of_getElem? hi))

theorem byteLength_pieces_le (sep cs : List Char) :
    byteLength (pieces sep cs).flatten ≤ byteLength cs := by
  unfold pieces
  split
  · rw [← List.flatMap_def, List.flatMap_singleton']
  · have h := byteLength_splitLoop_le sep 0 [] [] cs
    simp only [byteLength_nil, List.reverse_nil, List.flatten_nil, Nat.zero_add] at h
    exact h

theorem byteLength_take_flatten_le (css : List (List Char)) (n : Nat) :
    byteLength (css.take n).flatten ≤ byteLength css.flatten := by
  have hsplit := congrArg (byteLength ∘ List.flatten) (List.take_append_drop n css)
  simp only [Function.comp_apply, List.flatten_append, byteLength_append] at hsplit
  omega

theorem charges_split (hs : CountsAll s) : ChargesCalls s p Value.string split := by
  intro c t args _ _ _
  have hslot := (Value.string t).slot_le_size
  unfold split
  refine .reserve_bind hs (.pure ?_)
  rw [size_array, Nat.mul_comm _ slot]
  split
  · simp only [total_cons, total_nil, size_string, List.length_singleton]
    omega
  · have hpieces := byteLength_pieces_le (Arguments.nth args 0).toChars t.toList
    rw [byteLength_toList] at hpieces
    dsimp only
    rw [total_texts, List.length_map]
    split
    · next limit _ =>
      have htake := byteLength_take_flatten_le
        (pieces (Arguments.nth args 0).toChars t.toList) (Number.toNat64 limit)
      omega
    · omega

theorem charges_replaceEvery (hs : CountsAll s) :
    ChargesCalls s p Value.string replaceEvery := by
  intro c t args _ _ _
  refine .ofExcept_bind fun search _ => .check fun hsearch => .reserve_bind hs (.pure ?_)
  have hslot := (Value.string t).slot_le_size
  have hloop := byteLength_replaceLoop_le search.toList (Arguments.nth args 1).toText.toList 0 0 []
    t.toList
  have hne : search.toList.isEmpty = false := by
    rw [List.isEmpty_eq_false_iff]
    intro hnil
    exact hsearch (by rw [String.toList_eq_nil_iff.1 hnil]; rfl)
  rw [size_ofChars, replaceAll, hne]
  rw [byteLength_toList, byteLength_toList, byteLength_nil] at hloop
  simp only [Bool.false_eq_true, if_false, countOf]
  omega

theorem utf8ByteSize_copies (t acc : String) (n : Nat) :
    (copies t acc n).utf8ByteSize = acc.utf8ByteSize + t.utf8ByteSize * n := by
  induction n generalizing acc with
  | zero => rfl
  | succ n ih =>
    rw [copies, ih, String.utf8ByteSize_append, Nat.mul_succ]
    omega

theorem charges_repeated (hs : CountsAll s) : ChargesCalls s p Value.string repeated := by
  intro c t args _ _ _
  refine .ofExcept_bind fun x _ => .check fun _ => .reserve_bind hs (.pure ?_)
  rw [size_string, size_string]
  split
  · omega
  · rw [utf8ByteSize_copies, String.utf8ByteSize_empty]
    omega

/-- The characters that fill up a text are reserved. -/
theorem charges_padding (hs : CountsAll s) (method t : String) (args : List Value) :
    Charges s byteLength 0 (padding method t args) := by
  refine .ofExcept_bind fun target _ => .ofExcept_bind fun fill _ => ?_
  dsimp only
  split
  · exact .pure (Nat.le_refl 0)
  · refine .reserve_bind hs (.pure ?_)
    have hfilling (cs : List Char) (n : Nat) : byteLength (filling cs n) ≤ n * maxCharSize := by
      have hbytes := byteLength_le_mul_length (filling cs n)
      have hlength : (filling cs n).length ≤ n := List.length_take_le _ _
      simp only [maxCharSize]
      omega
    exact hfilling _ _

theorem charges_padStart (hs : CountsAll s) : ChargesCalls s p Value.string padStart := by
  intro c t args _ _ _
  refine ((charges_padding hs "padStart" t args).bind_pure (k := (Value.string t).size + total args)
    fun pad _ => ?_).mono (Nat.zero_add _).le
  rw [size_string, size_string, String.utf8ByteSize_append, utf8ByteSize_ofList]
  omega

theorem charges_padEnd (hs : CountsAll s) : ChargesCalls s p Value.string padEnd := by
  intro c t args _ _ _
  refine ((charges_padding hs "padEnd" t args).bind_pure (k := (Value.string t).size + total args)
    fun pad _ => ?_).mono (Nat.zero_add _).le
  rw [size_string, size_string, String.utf8ByteSize_append, utf8ByteSize_ofList]
  omega

theorem charges_concat (hs : CountsAll s) : ChargesCalls s p Value.string concat :=
  fun _ t args _ _ _ => charges_reserved_text hs _ (.string t) (total args)

theorem charges_toDateTime : ChargesCalls s p Value.string toDateTime :=
  fun _ _ _ _ _ _ => .ofExcept_bind fun d _ => .pure (le_of_slot (size_date d) _)

theorem charges_base64Encode (hs : CountsAll s) :
    ChargesCalls s p Value.string base64Encode := by
  intro c t args _ _ _
  refine .reserve_bind hs (.pure ?_)
  have hslot := (Value.string t).slot_le_size
  have hbytes := byteLength_base64_le (encode t.toList)
  rw [length_encode, byteLength_toList] at hbytes
  rw [size_ofChars]
  omega

/-- The methods of texts that are charged. -/
theorem charges_of_mem_table (hs : CountsAll s) :
    ∀ m ∈ table, m.name ∉ unchargedMethods → ChargesCalls s p Value.string m.run := by
  have htrim := charges_convert (s := s) (p := p) byteLength_trim_le
  have htrimStart := charges_convert (s := s) (p := p) byteLength_trimStart_le
  have htrimEnd := charges_convert (s := s) (p := p) byteLength_trimEnd_le
  have htags := charges_convert (s := s) (p := p) (f := removeTags) fun cs => by
    have h := byteLength_dropTags_le [] cs
    rwa [byteLength_nil, Nat.zero_add] at h
  simp only [table, List.forall_mem_cons, List.not_mem_nil, false_imp_iff, implies_true, and_true,
    htrim, htrimStart, htrimEnd, htags, charges_test, charges_compare, charges_locate,
    charges_toNumber, charges_slice, charges_substring, charges_charAt, charges_at,
    charges_split hs, charges_replaceEvery hs, charges_repeated hs, charges_padStart hs,
    charges_padEnd hs, charges_concat hs, charges_toDateTime, charges_base64Encode hs]
  -- the other ones are excluded
  simp only [unchargedMethods, List.mem_cons, String.reduceEq, true_or, or_true, not_true_eq_false,
    false_imp_iff, and_self, false_or]

end TextMethod

/-! ### Numbers, truth values and dates -/

section

variable {s : Sandbox} {p : Pairing}

/-- A date that can be calculated. -/
theorem charges_date {r : Except EvalError DateTime} (v : Value) (n : Nat) :
    Charges s size (v.size + n) (ofExcept r >>= fun t => pure (.date t)) :=
  .ofExcept_bind fun t _ => .pure (le_of_slot (size_date t) n)

namespace NumberMethod

theorem charges_convert (f : Float → Float) : ChargesCalls s p Value.number (convert f) :=
  chargesCalls_scalar fun _ _ => size_number _

theorem charges_test (q : Float → Bool) : ChargesCalls s p Value.number (test q) :=
  chargesCalls_scalar fun _ _ => size_bool _

theorem charges_round : ChargesCalls s p Value.number round :=
  chargesCalls_scalar fun _ _ => size_number _

theorem charges_toDateTime : ChargesCalls s p Value.number toDateTime := by
  intro c x args _ _ _
  refine .ofExcept_bind fun unit? _ => ?_
  cases unit? with
  | none => exact charges_date _ _
  | some unit =>
    dsimp only
    split_ifs
    · exact charges_date _ _
    · exact charges_date _ _
    · exact fun _ _ _ hrun => by cases hrun

/-- The methods of numbers that are charged. -/
theorem charges_of_mem_table :
    ∀ m ∈ table, m.name ∉ unchargedMethods → ChargesCalls s p Value.number m.run := by
  simp only [table, List.forall_mem_cons, List.not_mem_nil, false_imp_iff, implies_true, and_true,
    charges_convert, charges_test, charges_round, charges_toDateTime]
  simp only [unchargedMethods, List.mem_cons, String.reduceEq, true_or, or_true, not_true_eq_false,
    false_imp_iff, and_self, false_or]

end NumberMethod

namespace BooleanMethod

/-- The methods of truth values that are charged. -/
theorem charges_of_mem_table :
    ∀ m ∈ table, m.name ∉ unchargedMethods → ChargesCalls s p Value.bool m.run := by
  have hnumber : ChargesCalls s p Value.bool toNumber :=
    chargesCalls_scalar fun _ _ => size_number _
  have hnot : ChargesCalls s p Value.bool fun _ b _ => pure (.bool !b) :=
    chargesCalls_scalar fun _ _ => size_bool _
  simp only [table, List.forall_mem_cons, List.not_mem_nil, false_imp_iff, implies_true, and_true,
    hnumber, hnot]
  simp only [unchargedMethods, List.mem_cons, String.reduceEq, true_or, or_true, not_true_eq_false,
    false_imp_iff, false_or]

end BooleanMethod

namespace DateMethod

theorem charges_convert {f : DateTime → Value} (h : ∀ t, (f t).size = slot) :
    ChargesCalls s p Value.date (convert f) :=
  chargesCalls_scalar fun t _ => h t

theorem charges_shift (method : String) (backwards : Bool) :
    ChargesCalls s p Value.date (shift method backwards) := by
  intro c t args _ _ _
  unfold shift
  split
  · exact charges_date _ _
  · refine .ofExcept_bind fun amount _ => ?_
    dsimp only
    split
    · exact charges_date _ _
    · exact .ofExcept_bind fun u _ => charges_date _ _

theorem charges_diff : ChargesCalls s p Value.date diff := by
  intro c t args _ _ _
  refine .ofExcept_bind fun other _ => ?_
  dsimp only
  split
  · exact .pure (le_of_slot (size_number _) _)
  · exact .ofExcept_bind fun u _ => .pure (le_of_slot (size_number _) _)

theorem charges_bound (method : String) (f : DateTime → TimeUnit → Option DateTime) :
    ChargesCalls s p Value.date (bound method f) :=
  fun _ _ _ _ _ _ => .ofExcept_bind fun _ _ => charges_date _ _

theorem charges_component : ChargesCalls s p Value.date component :=
  fun _ _ _ _ _ _ => .ofExcept_bind fun _ _ => .pure (le_of_slot (size_number _) _)

theorem charges_compare (q : DateTime → DateTime → Bool) :
    ChargesCalls s p Value.date (compare q) :=
  fun _ _ _ _ _ _ => .ofExcept_bind fun _ _ => .pure (le_of_slot (size_bool _) _)

/-- The methods of dates that are charged. -/
theorem charges_of_mem_table :
    ∀ m ∈ table, m.name ∉ unchargedMethods → ChargesCalls s p Value.date m.run := by
  have hdate (f : DateTime → DateTime) :
      ChargesCalls s p Value.date (convert fun t => .date (f t)) :=
    charges_convert fun _ => size_date _
  have hnumber (f : DateTime → Float) :
      ChargesCalls s p Value.date (convert fun t => .number (f t)) :=
    charges_convert fun _ => size_number _
  have htest (f : DateTime → Bool) : ChargesCalls s p Value.date (convert fun t => .bool (f t)) :=
    charges_convert fun _ => size_bool _
  simp only [table, List.forall_mem_cons, List.not_mem_nil, false_imp_iff, implies_true, and_true,
    hdate, hnumber, htest, charges_shift, charges_diff, charges_bound, charges_component,
    charges_compare]
  simp only [unchargedMethods, List.mem_cons, String.reduceEq, true_or, or_true, not_true_eq_false,
    false_imp_iff, and_self, false_or]

end DateMethod

end

/-! ### Arrays -/

namespace ArrayMethod

variable {s : Sandbox} {p : Pairing}

/-- What depends on the items alone and reserves nothing. -/
theorem charges_convert {f : List Value → Value}
    (h : ∀ items, (f items).size ≤ (array items).size) : ChargesCalls s p Value.array (convert f) :=
  chargesCalls_pure fun items _ => Nat.le_add_right_of_le (h items)

/-- An array of parts of the items and the arguments. -/
theorem charges_build (hs : CountsAll s)
    {f : List Value → List Value → Except EvalError (List Value)}
    (h : ∀ items args out, f items args = .ok out → total out ≤ total items + total args) :
    ChargesCalls s p Value.array (build f) := by
  intro c items args _ _ _
  refine .ofExcept_bind fun out hout => .reserve_bind hs (.pure ?_)
  have hle := h items args out hout
  rw [size_array, size_array]
  omega

/-- An array of parts of the items and the arguments, if the arguments can be read as `a`. -/
theorem charges_build_of_args (hs : CountsAll s) {α : Type}
    {read : List Value → Except EvalError α} {g : α → List Value → List Value}
    (h : ∀ items args a, read args = .ok a → total (g a items) ≤ total items + total args) :
    ChargesCalls s p Value.array (build fun items args => do
      let a ← read args
      pure (g a items)) := by
  refine charges_build hs fun items args out hout => ?_
  cases ha : read args with
  | error e =>
    rw [ha] at hout
    cases hout
  | ok a =>
    rw [ha] at hout
    exact Except.ok.inj hout ▸ h items args a ha

theorem charges_calculate (method : String) (f : List Float → Option Float) :
    ChargesCalls s p Value.array (calculate method f) := by
  intro c items args _ _ _
  refine .ofExcept_bind fun xs _ => .pure ?_
  cases f xs with
  | none => exact le_of_slot size_undefined _
  | some x => exact le_of_slot (size_number x) _

/-! #### Functions on items -/

/-- What a method builds that only hands on items is as large as they are. -/
theorem charges_of_gives {run : Run} (hrun : s.accounting.Respects p (PairedItems p) run)
    (h : ∀ c items args v, Gives s (run c items args) v → v.size ≤ (array items).size) :
    ChargesCalls s p Value.array run := by
  intro c items args hc hitems hargs
  cases hitems with
  | array hitems =>
    have haccounts : Accounts s (run c items args) := (hrun c c hc _ _ _ _ hitems hargs).2
    exact .of_accounts haccounts fun v hv => Nat.le_add_right_of_le (h c items args v hv)

theorem accepted_sublist (items : List Value) (verdicts : List Bool) :
    (((items.zip verdicts).filter (·.2)).map (·.1)).Sublist items := by
  induction items generalizing verdicts with
  | nil => exact List.Sublist.refl _
  | cons item items ih =>
    cases verdicts with
    | nil => exact List.nil_sublist _
    | cons verdict verdicts =>
      cases verdict with
      | true => exact (ih verdicts).cons_cons item
      | false => exact (ih verdicts).cons item

theorem charges_filter : ChargesCalls s p Value.array filter := by
  refine charges_of_gives respects_filter fun c items args v hv => ?_
  obtain ⟨f, -, hv⟩ := gives_bind hv
  obtain ⟨verdicts, -, hv⟩ := gives_bind hv
  obtain ⟨_, -, hv⟩ := gives_bind hv
  rw [gives_pure hv, size_array, size_array]
  exact Nat.add_le_add_left (total_le_of_sublist (accepted_sublist items verdicts)) _

theorem charges_find : ChargesCalls s p Value.array find := by
  refine charges_of_gives respects_find fun c items args v hv => ?_
  obtain ⟨found, hfound, hv⟩ := gives_bind hv
  rw [gives_pure hv]
  cases found with
  | none => exact slot_le_size _
  | some found =>
    obtain ⟨f, -, hfound⟩ := gives_bind hfound
    exact size_item_le (mem_of_gives_findFrom? hfound)

theorem charges_findIndex : ChargesCalls s p Value.array findIndex := by
  refine charges_of_gives respects_findIndex fun c items args v hv => ?_
  obtain ⟨found, -, hv⟩ := gives_bind hv
  rw [gives_pure hv]
  cases found <;> exact slot_le_size _

theorem charges_some : ChargesCalls s p Value.array some_ := by
  refine charges_of_gives respects_some fun c items args v hv => ?_
  obtain ⟨found, -, hv⟩ := gives_bind hv
  rw [gives_pure hv]
  exact slot_le_size _

theorem charges_every : ChargesCalls s p Value.array every := by
  refine charges_of_gives respects_every fun c items args v hv => ?_
  obtain ⟨f, -, hv⟩ := gives_bind hv
  obtain ⟨refused, -, hv⟩ := gives_bind hv
  rw [gives_pure hv]
  exact slot_le_size _

theorem charges_sort : ChargesCalls s p Value.array sort := by
  refine charges_of_gives respects_sort fun c items args v hv => ?_
  obtain ⟨_, -, hv⟩ := gives_bind hv
  obtain ⟨greater, -, hv⟩ := gives_bind hv
  obtain ⟨sorted, hsorted, hv⟩ := gives_bind hv
  have hperm : (sorted ++ items.filter (·.isUndefined)).Perm items :=
    ((perm_of_gives_sortBy hsorted).append_right _).trans
      (List.perm_append_comm.trans (List.filter_append_perm _ items))
  rw [gives_pure hv, size_array, size_array, total_eq_of_perm hperm]

/-! #### Texts and items -/

theorem charges_join (hs : CountsAll s) : ChargesCalls s p Value.array join :=
  fun _ items _ _ _ _ => .ofExcept_bind fun _ _ => charges_reserved_text hs _ (.array items) _

theorem charges_toJsonString (hs : CountsAll s) : ChargesCalls s p Value.array toJsonString :=
  fun _ items args _ _ _ => charges_reserved_text hs _ (.array items) (total args)

theorem charges_indexOf : ChargesCalls s p Value.array indexOf := by
  refine chargesCalls_scalar fun items args => ?_
  cases items.findIdx? (·.strictEquals (Arguments.nth args 0)) with
  | none => exact size_number _
  | some i => exact size_ofNat i

theorem charges_at : ChargesCalls s p Value.array at_ := by
  refine chargesCalls_pure fun items args => ?_
  cases h : (Number.itemIndex? ((Arguments.number? args 0).getD 0) items.length).bind
      (items[·]?) with
  | none => exact le_of_slot size_undefined _
  | some v =>
    obtain ⟨i, -, hi⟩ := Option.bind_eq_some_iff.1 h
    exact Nat.le_add_right_of_le (size_item_le (List.mem_of_getElem? hi))

/-- A part of the items is no larger than all of them. -/
theorem size_array_le_of_sublist {items out : List Value} (h : out.Sublist items) :
    (array out).size ≤ (array items).size := by
  rw [size_array, size_array]
  exact Nat.add_le_add_left (total_le_of_sublist h) _

theorem charges_slice (hs : CountsAll s) : ChargesCalls s p Value.array slice := by
  intro c items args _ _ _
  refine .reserve_bind hs (.pure (Nat.le_add_left_of_le (Nat.le_add_right_of_le ?_)))
  exact size_array_le_of_sublist ((List.take_sublist _ _).trans (List.drop_sublist _ items))

theorem total_spread_le (v : Value) : total (spread v) ≤ v.size := by
  cases v with
  | array items =>
    rw [size_array]
    exact Nat.le_add_left _ _
  | _ => exact Nat.le_refl _

theorem total_flatMap_le {f : Value → List Value} (h : ∀ v, total (f v) ≤ v.size)
    (vs : List Value) : total (vs.flatMap f) ≤ total vs := by
  induction vs with
  | nil => exact Nat.le_refl 0
  | cons v vs ih =>
    rw [List.flatMap_cons, total_append, total_cons]
    exact Nat.add_le_add (h v) ih

theorem charges_concat (hs : CountsAll s) : ChargesCalls s p Value.array concat := by
  refine charges_build hs fun items args out hout => ?_
  obtain rfl := Except.ok.inj hout
  rw [total_append]
  exact Nat.add_le_add_left (total_flatMap_le total_spread_le args) _

theorem charges_append (hs : CountsAll s) : ChargesCalls s p Value.array append := by
  refine charges_build hs fun items args out hout => ?_
  obtain rfl := Except.ok.inj hout
  exact (total_append items args).le

theorem total_flattened_le (depth : Nat) (items : List Value) :
    total (flattened depth items) ≤ total items := by
  induction depth generalizing items with
  | zero => exact Nat.le_refl _
  | succ depth ih =>
    refine total_flatMap_le (fun v => ?_) items
    cases v with
    | array nested =>
      rw [size_array]
      exact Nat.le_add_left_of_le (ih nested)
    | _ => exact Nat.le_refl _

theorem charges_flat (hs : CountsAll s) : ChargesCalls s p Value.array flat := by
  refine charges_build hs fun items args out hout => ?_
  obtain rfl := Except.ok.inj hout
  exact Nat.le_add_right_of_le (total_flattened_le _ items)

/-- There are no more pieces than items. -/
theorem charges_chunk (hs : CountsAll s) : ChargesCalls s p Value.array chunk := by
  intro c items args _ _ _
  refine .ofExcept_bind fun size _ => .check fun _ => .reserve_bind hs (.pure ?_)
  have hpieces := length_chunks_le (Number.clampIndex size (max 1 items.length)) items
  rw [size_array, size_array, total_arrays, flatten_chunks]
  have hslots := Nat.mul_le_mul_left slot hpieces
  omega

/-! #### Fields of items -/

theorem size_plucked_le {names : List String} {fields : Fields Value} {v : Value}
    (h : plucked? names fields = some v) : v.size ≤ (object fields).size := by
  match names with
  | [] => exact (Option.some.inj h) ▸ Nat.le_refl _
  | [name] =>
    have hv := size_get?_le h
    rw [size_object]
    omega
  | _ :: _ :: _ =>
    rw [← Option.some.inj h, size_object, size_object]
    exact Nat.add_le_add_left (fieldTotal_picked_le fields _) _

theorem total_plucked_le (names : List String) (items : List Value) :
    total ((items.filterMap Value.fields?).filterMap (plucked? names)) ≤ total items := by
  rw [List.filterMap_filterMap]
  induction items with
  | nil => exact Nat.le_refl 0
  | cons item items ih =>
    rw [List.filterMap_cons, total_cons]
    split
    · exact Nat.le_add_left_of_le ih
    · next v hv =>
      obtain ⟨fields, hfields, hv⟩ := Option.bind_eq_some_iff.1 hv
      have hitem : item = object fields := by
        cases item with
        | object fields' => rw [Option.some.inj hfields]
        | _ => cases hfields
      rw [total_cons, hitem]
      exact Nat.add_le_add (size_plucked_le hv) ih

theorem charges_pluck (hs : CountsAll s) : ChargesCalls s p Value.array pluck :=
  charges_build_of_args hs fun items _ names _ =>
    Nat.le_add_right_of_le (total_plucked_le names items)

/-! #### Sets -/

theorem distinctFrom_sublist (key : Value → Value) (seen acc items : List Value) :
    (distinctFrom key seen acc items).Sublist (acc.reverse ++ items) := by
  induction items generalizing seen acc with
  | nil => rw [distinctFrom, List.append_nil]
  | cons item items ih =>
    unfold distinctFrom
    dsimp only
    split
    · exact (ih seen acc).trans ((List.sublist_cons_self item items).append_left _)
    · have hrest := ih (key item :: seen) (item :: acc)
      rwa [List.reverse_cons, List.append_assoc] at hrest

theorem distinctBy_sublist (key : Value → Value) (items : List Value) :
    (distinctBy key items).Sublist items :=
  distinctFrom_sublist key [] [] items

theorem charges_unique (hs : CountsAll s) : ChargesCalls s p Value.array unique :=
  charges_build_of_args hs fun items _ _ _ =>
    Nat.le_add_right_of_le (total_le_of_sublist (distinctBy_sublist _ items))

theorem charges_difference : ChargesCalls s p Value.array difference :=
  fun _ _ _ _ _ _ => .ofExcept_bind fun _ _ =>
    .pure (Nat.le_add_right_of_le (size_array_le_of_sublist List.filter_sublist))

theorem charges_intersection : ChargesCalls s p Value.array intersection :=
  fun _ _ _ _ _ _ => .ofExcept_bind fun _ _ => .pure (Nat.le_add_right_of_le
    (size_array_le_of_sublist ((distinctBy_sublist _ _).trans List.filter_sublist)))

theorem total_other_le {method : String} {args others : List Value}
    (h : other method args = .ok others) : total others ≤ total args := by
  unfold other at h
  split at h
  · next items hitems =>
    obtain rfl := Except.ok.inj h
    cases args with
    | nil => cases hitems
    | cons v args =>
      obtain rfl : v = array items := hitems
      rw [total_cons, size_array]
      omega
  · cases h

theorem charges_union (hs : CountsAll s) : ChargesCalls s p Value.array union := by
  refine charges_build_of_args hs fun items args others hothers => ?_
  calc total (distinctBy id (items ++ others))
      ≤ total (items ++ others) := total_le_of_sublist (distinctBy_sublist _ _)
    _ = total items + total others := total_append items others
    _ ≤ total items + total args := Nat.add_le_add_left (total_other_le hothers) _

/-- The methods of arrays that are charged. -/
theorem charges_of_mem_table (hs : CountsAll s) :
    ∀ m ∈ table, m.name ∉ unchargedMethods → ChargesCalls s p Value.array m.run := by
  have hincludes : ChargesCalls s p Value.array
      fun _ items args => pure (.bool (holds items (Arguments.nth args 0))) :=
    chargesCalls_scalar fun _ _ => size_bool _
  have hreverse : ChargesCalls s p Value.array (convert fun items => .array items.reverse) :=
    charges_convert fun items => by rw [size_array, size_array, total_reverse]
  have hfirst : ChargesCalls s p Value.array (convert fun items => items.headD .undefined) :=
    charges_convert fun items => by
      cases items with
      | nil => exact slot_le_size _
      | cons v items => exact size_item_le List.mem_cons_self
  have hlast : ChargesCalls s p Value.array
      (convert fun items => items.getLast?.getD .undefined) :=
    charges_convert fun items => by
      cases h : items.getLast? with
      | none => exact slot_le_size _
      | some v => exact size_item_le (List.mem_of_getLast? h)
  have hcompact : ChargesCalls s p Value.array
      (convert fun items => .array (items.filter isPresent)) :=
    charges_convert fun _ => size_array_le_of_sublist List.filter_sublist
  have hempty : ChargesCalls s p Value.array (convert fun items => .bool items.isEmpty) :=
    charges_convert fun _ => slot_le_size _
  have hfilled : ChargesCalls s p Value.array (convert fun items => .bool !items.isEmpty) :=
    charges_convert fun _ => slot_le_size _
  simp only [table, List.forall_mem_cons, List.not_mem_nil, false_imp_iff, implies_true, and_true,
    hincludes, hreverse, hfirst, hlast, hcompact, hempty, hfilled, charges_filter, charges_find,
    charges_findIndex, charges_some, charges_every, charges_sort, charges_join hs,
    charges_indexOf, charges_slice hs, charges_concat hs, charges_flat hs, charges_at,
    charges_pluck hs, charges_calculate, charges_unique hs, charges_chunk hs, charges_difference,
    charges_intersection, charges_union hs, charges_append hs, charges_toJsonString hs]
  simp only [unchargedMethods, List.mem_cons, String.reduceEq, true_or, or_true, not_true_eq_false,
    false_imp_iff, and_self, false_or]

end ArrayMethod

/-! ### Objects -/

namespace ObjectMethod

variable {s : Sandbox} {p : Pairing}

theorem charges_convert {f : Fields Value → Value}
    (h : ∀ fields, (f fields).size ≤ (object fields).size) :
    ChargesCalls s p Value.object (convert f) :=
  chargesCalls_pure fun fields _ => Nat.le_add_right_of_le (h fields)

/-- A part of the fields is no larger than all of them. -/
theorem size_object_le_of_sublist {fields out : Fields Value} (h : out.Sublist fields) :
    (object out).size ≤ (object fields).size := by
  rw [size_object, size_object]
  exact Nat.add_le_add_left (fieldTotal_le_of_sublist h) _

theorem charges_hasField : ChargesCalls s p Value.object hasField :=
  fun _ _ _ _ _ _ => .ofExcept_bind fun _ _ => .pure (le_of_slot (size_bool _) _)

theorem charges_removeField : ChargesCalls s p Value.object removeField :=
  fun _ _ _ _ _ _ => .ofExcept_bind fun _ _ =>
    .pure (Nat.le_add_right_of_le (size_object_le_of_sublist List.filter_sublist))

theorem charges_merge (hs : CountsAll s) : ChargesCalls s p Value.object merge := by
  intro c fields args _ _ _
  unfold merge
  cases args with
  | nil => exact .fail
  | cons v args =>
    cases v with
    | object more =>
      refine .reserve_bind hs (.pure ?_)
      have hmerged := fieldTotal_mergeNew_le fields more
      rw [size_object, size_object, total_cons, size_object]
      omega
    | _ => exact .fail

theorem charges_toJsonString (hs : CountsAll s) : ChargesCalls s p Value.object toJsonString :=
  fun _ fields args _ _ _ => charges_reserved_text hs _ (.object fields) (total args)

/-- The methods of objects that are charged. -/
theorem charges_of_mem_table (hs : CountsAll s) :
    ∀ m ∈ table, m.name ∉ unchargedMethods → ChargesCalls s p Value.object m.run := by
  have hvalues : ChargesCalls s p Value.object
      (convert fun fields => .array (Fields.values fields)) :=
    charges_convert fun fields => by
      rw [size_array, size_object]
      exact Nat.add_le_add_left (total_values_le fields) _
  have hcompact : ChargesCalls s p Value.object
      (convert fun fields => .object (fields.filter isPresent)) :=
    charges_convert fun _ => size_object_le_of_sublist List.filter_sublist
  have hempty : ChargesCalls s p Value.object (convert fun fields => .bool fields.isEmpty) :=
    charges_convert fun _ => slot_le_size _
  have hfilled : ChargesCalls s p Value.object (convert fun fields => .bool !fields.isEmpty) :=
    charges_convert fun _ => slot_le_size _
  simp only [table, List.forall_mem_cons, List.not_mem_nil, false_imp_iff, implies_true, and_true,
    hvalues, hcompact, hempty, hfilled, charges_hasField, charges_removeField, charges_merge hs,
    charges_toJsonString hs]
  simp only [unchargedMethods, List.mem_cons, String.reduceEq, true_or, or_true, not_true_eq_false,
    false_imp_iff, and_self, false_or]

end ObjectMethod

/-! ### All kinds of values -/

section

variable {s : Sandbox} {p : Pairing} {name : String}

theorem charges_invokeFrom {ρ : Type} {wrap : ρ → Value} {table : List (Method ρ)}
    (h : ∀ m ∈ table, m.name ∉ unchargedMethods → ChargesCalls s p wrap m.run) (kind : Kind)
    (hname : name ∉ unchargedMethods) :
    ChargesCalls s p wrap fun c r args => invokeFrom table kind c r name args := by
  intro c r args hc hr hargs
  unfold invokeFrom
  cases hm : table.find? (·.name == name) with
  | none => exact .fail
  | some m =>
    have hsame : m.name = name := by simpa using List.find?_some hm
    have hmem := List.mem_of_find?_eq_some hm
    exact h m hmem (hsame ▸ hname) c r args hc hr hargs

/-- A call of a method that is charged. -/
theorem charges_invoke (hs : CountsAll s) (hname : name ∉ unchargedMethods) {c : Caller}
    {v : Value} {args : List Value} (hc : s.accounting.Callers p c c) (hv : Paired p v v)
    (hargs : List.Forall₂ (Paired p) args args) :
    Charges s size (v.size + total args) (invoke c v name args) := by
  cases v with
  | string t =>
    exact charges_invokeFrom (TextMethod.charges_of_mem_table hs) _ hname c t args hc hv hargs
  | number x =>
    exact charges_invokeFrom NumberMethod.charges_of_mem_table _ hname c x args hc hv hargs
  | bool b =>
    exact charges_invokeFrom BooleanMethod.charges_of_mem_table _ hname c b args hc hv hargs
  | date t =>
    exact charges_invokeFrom DateMethod.charges_of_mem_table _ hname c t args hc hv hargs
  | array items =>
    exact charges_invokeFrom (ArrayMethod.charges_of_mem_table hs) _ hname c items args hc hv hargs
  | object fields =>
    exact charges_invokeFrom (ObjectMethod.charges_of_mem_table hs) _ hname c fields args hc hv
      hargs
  | _ => exact .fail

end

end TemplateExpr
