import TemplateExpr.Method.Table
import TemplateExpr.Proofs.Number.Integer
import TemplateExpr.Proofs.Text.Search

/-!
# The methods of texts and the occurrences of a text

The methods `split`, `join` and `replaceAll` agree on where a text occurs in another. A text that is
cut at a separator and joined with it is the same again, and to replace a text is to cut at it and
to join with the new one (`TextMethod.invoke_split_join`). Nothing but the ceiling of memory can
keep the methods from giving these texts.

`indexOf`, `lastIndexOf` and `slice` count the same characters: the first two give the least and the
greatest position from which on `slice` gives the text that is looked for, and two slices that meet
at a number make up the text (`TextMethod.invoke_locate_slice`). Positions are handed over as
doubles. These are exact up to `2 ^ 53`, so the part that concerns them is about texts with no more
characters than that; a longer text would take eight pebibytes.
-/

namespace TemplateExpr

open TemplateExpr.Text

variable {s t p r : String} {k : Nat} {parts : List (List Char)}

/-! ### Texts in arrays -/

/-- The texts of the items of an array of texts. -/
theorem Value.itemTexts_ofChars (acc : List String) (parts : List (List Char)) :
    itemTexts acc (parts.map ofChars) = acc.reverse ++ parts.map String.ofList := by
  induction parts generalizing acc with
  | nil => exact (List.append_nil _).symm
  | cons cs parts ih =>
    rw [List.map_cons, itemTexts, ih, List.reverse_cons, List.append_assoc]
    rfl

/-- Texts of characters are joined as lists of characters. -/
theorem intercalate_map_ofList (sep : String) (parts : List (List Char)) :
    sep.intercalate (parts.map String.ofList) = String.ofList (joinWith sep.toList parts) := by
  apply String.toList_inj.1
  rw [String.toList_intercalate, List.map_map, String.toList_ofList, joinWith]
  congr 1
  exact (List.map_congr_left fun _ _ => String.toList_ofList).trans (List.map_id parts)

/-- An array of texts is joined to one text. -/
theorem ArrayMethod.invoke_join_ofChars (call : Caller) (parts : List (List Char)) (sep : String) :
    invoke call (.array (parts.map Value.ofChars)) "join" [.string sep] =
      (Eval.reserve (String.ofList (joinWith sep.toList parts)).utf8ByteSize >>= fun _ =>
        pure (.ofChars (joinWith sep.toList parts))) := by
  have htext : sep.intercalate (Value.itemTexts [] (parts.map Value.ofChars)) =
      String.ofList (joinWith sep.toList parts) := by
    rw [Value.itemTexts_ofChars, List.reverse_nil, List.nil_append, intercalate_map_ofList]
  show (Eval.reserve (sep.intercalate (Value.itemTexts [] _)).utf8ByteSize >>= fun _ =>
    pure (Value.string (sep.intercalate (Value.itemTexts [] _)))) = _
  rw [htext]
  rfl

/-! ### Results -/

/-- A computation that uses nothing tells its result. -/
theorem Eval.pure_injective {α : Type} : Function.Injective (pure : α → Eval α) := by
  intro a b h
  have hrun : (Except.ok a, Meter.zero) = (Except.ok b, Meter.zero) :=
    congrArg (fun x : Eval α => x.run
      ⟨⟨SecurityConfig.standard, []⟩, .ofItem .null ⟨0, 0, 0⟩, true, fun _ => 0, false⟩ .zero) h
  cases hrun
  rfl

/-! ### Numbers as positions -/

/-- A natural number is a position as it is, up to the end of the list. -/
theorem Number.relativeIndex_ofNat {k : Nat} (hk : k ≤ 2 ^ 53) (len : Nat) :
    relativeIndex (ofNat k) len = min k len := by
  obtain ⟨hfinite, hvalue⟩ := toRat_ofNat hk
  have htruncate : truncate (ofNat k) = k := ((toRat_eq_iff hfinite).1 (by exact_mod_cast hvalue)).2
  rw [relativeIndex, clampInt_of_isFinite hfinite, htruncate]
  split <;> omega

/-! ### Parts of texts -/

theorem Text.between_append_between (cs : List Char) (i : Nat) :
    between cs 0 i ++ between cs i cs.length = cs := by
  rw [between, between, List.drop_zero, Nat.sub_zero, ← List.length_drop, List.take_length,
    List.take_append_drop]

namespace TextMethod

/-! ### Cutting, joining and replacing -/

/-- The pieces of a text are cut at all occurrences of a separator. -/
theorem invoke_split (call : Caller) (s p : String) :
    invoke call (.string s) "split" [.string p] =
      (Eval.reserve (s.utf8ByteSize + (pieces p.toList s.toList).length * Value.slot) >>= fun _ =>
        pure (.array ((pieces p.toList s.toList).map Value.ofChars))) := by
  show (Eval.reserve (s.utf8ByteSize +
    ((pieces p.toList s.toList).map Value.ofChars).length * Value.slot) >>= fun _ => _) = _
  rw [List.length_map]
  rfl

/-- Joining the pieces of a text with the separator gives the text back. -/
theorem joinWith_pieces (sep cs : List Char) : joinWith sep (pieces sep cs) = cs := by
  rw [pieces]
  split
  · next h =>
    rw [List.isEmpty_iff.1 h, joinWith]
    induction cs with
    | nil => rfl
    | cons c cs ih =>
      cases cs with
      | nil => rfl
      | cons d cs =>
        rw [List.map_cons, List.map_cons, List.intercalate_cons_cons]
        exact congrArg (c :: ·) ih
  · next h => exact joinWith_splitOn (fun hsep => h (List.isEmpty_iff.2 hsep)) cs

/-- A text that is cut at a separator and joined with another text. -/
theorem invoke_split_bind_join (call : Caller) (s p r : String) :
    (invoke call (.string s) "split" [.string p] >>= fun cut => invoke call cut "join" [.string r]) =
      (Eval.reserve (s.utf8ByteSize + (pieces p.toList s.toList).length * Value.slot) >>= fun _ =>
        Eval.reserve (String.ofList (joinWith r.toList (pieces p.toList s.toList))).utf8ByteSize
          >>= fun _ => pure (.ofChars (joinWith r.toList (pieces p.toList s.toList)))) := by
  rw [invoke_split, bind_assoc]
  simp only [pure_bind]
  rw [ArrayMethod.invoke_join_ofChars]

/-- Every occurrence of a text that is not empty is replaced. -/
theorem invoke_replaceAll (call : Caller) (hp : p ≠ "") (s r : String) :
    invoke call (.string s) "replaceAll" [.string p, .string r] =
      (Eval.reserve (s.utf8ByteSize + countOf p.toList s.toList * r.utf8ByteSize) >>= fun _ =>
        pure (.ofChars (replaceAll p.toList r.toList s.toList))) := by
  have hempty : p.isEmpty = false := by simpa using hp
  show (if p.isEmpty then _ else _) = _
  rw [hempty]
  rfl

/-- A text that is cut at a separator and joined with it is the same again. To replace a text that
is not empty is to cut at it and to join with the new one. -/
theorem invoke_split_join (call : Caller) (s p r : String) :
    (invoke call (.string s) "split" [.string p] >>= fun cut =>
        invoke call cut "join" [.string p]) =
      (Eval.reserve (s.utf8ByteSize + (pieces p.toList s.toList).length * Value.slot) >>= fun _ =>
        Eval.reserve s.utf8ByteSize >>= fun _ => pure (.string s)) ∧
    (p ≠ "" → ∃ text, text.toList = replaceAll p.toList r.toList s.toList ∧
      invoke call (.string s) "replaceAll" [.string p, .string r] =
        (Eval.reserve (s.utf8ByteSize + countOf p.toList s.toList * r.utf8ByteSize) >>= fun _ =>
          pure (.string text)) ∧
      (invoke call (.string s) "split" [.string p] >>= fun cut =>
          invoke call cut "join" [.string r]) =
        (Eval.reserve (s.utf8ByteSize + (pieces p.toList s.toList).length * Value.slot) >>= fun _ =>
          Eval.reserve text.utf8ByteSize >>= fun _ => pure (.string text))) := by
  constructor
  · rw [invoke_split_bind_join, joinWith_pieces, Value.ofChars, String.ofList_toList]
  · intro hp
    have hne : p.toList ≠ [] := fun h => hp (String.toList_eq_nil_iff.1 h)
    -- only the empty separator is cut at in a way of its own
    have hpieces : pieces p.toList s.toList = splitOn p.toList s.toList :=
      if_neg fun h => hne (List.isEmpty_iff.1 h)
    refine ⟨_, String.toList_ofList, invoke_replaceAll call hp s r, ?_⟩
    rw [invoke_split_bind_join, replaceAll_eq_joinWith hne, ← hpieces]
    rfl

/-- Occurrences that overlap, one behind characters of several bytes, and one at the end. -/
theorem invoke_split_join_overlapping :
    "éé" ≠ "" ∧ ∃ text, text = "-é😀-" ∧
      invoke (fun _ _ => pure .undefined) (.string "ééé😀éé") "replaceAll"
          [.string "éé", .string "-"] =
        (Eval.reserve 16 >>= fun _ => pure (.string text)) ∧
      (invoke (fun _ _ => pure .undefined) (.string "ééé😀éé") "split" [.string "éé"] >>= fun cut =>
          invoke (fun _ _ => pure .undefined) cut "join" [.string "-"]) =
        (Eval.reserve 62 >>= fun _ => Eval.reserve text.utf8ByteSize >>= fun _ =>
          pure (.string text)) := by
  have hp : "éé" ≠ "" := by decide
  obtain ⟨text, htext, hreplace, hjoin⟩ :=
    (invoke_split_join (fun _ _ => pure .undefined) "ééé😀éé" "éé" "-").2 hp
  refine ⟨hp, text, String.toList_inj.1 (htext.trans (by decide)), ?_, ?_⟩
  · exact hreplace
  · exact hjoin

/-! ### Locating and slicing -/

theorem invoke_slice (call : Caller) (s : String) (x y : Float) :
    invoke call (.string s) "slice" [.number x, .number y] =
      pure (.ofChars (between s.toList (Number.relativeIndex x s.toList.length)
        (Number.relativeIndex y s.toList.length))) := rfl

theorem invoke_slice_rest (call : Caller) (s : String) (x : Float) :
    invoke call (.string s) "slice" [.number x] =
      pure (.ofChars (between s.toList (Number.relativeIndex x s.toList.length)
        s.toList.length)) := rfl

/-- The slice of `s` from position `k` on that is as long as `t` is `t`. -/
def IsSlice (call : Caller) (s t : String) (k : Nat) : Prop :=
  invoke call (.string s) "slice"
    [.ofNat k, .number (Number.ofNat k + Number.ofNat t.length)] = pure (.string t)

/-- The slice at a position is the text that is looked for exactly where this stands. -/
theorem isSlice_iff (call : Caller) (hs : s.length ≤ 2 ^ 53) (hk : k ≤ s.length) :
    IsSlice call s t k ↔ OccursAt t.toList s.toList k := by
  rw [← String.length_toList] at hs hk
  have hstart : Number.relativeIndex (Number.ofNat k) s.toList.length = k := by
    rw [Number.relativeIndex_ofNat (by omega), Nat.min_eq_left hk]
  rw [IsSlice, Value.ofNat, invoke_slice, hstart, Value.ofChars, Eval.pure_injective.eq_iff,
    Value.string.injEq]
  constructor
  · intro h
    -- wherever the slice stops, it starts at `k`
    rw [← String.toList_inj, String.toList_ofList, between] at h
    exact occursAt_iff.2 ⟨hk, h ▸ List.take_prefix _ _⟩
  · intro h
    -- the double of the sum is the position where the occurrence ends
    have hstop := h.add_length_le
    rw [← String.length_toList, Number.ofNat_add (by omega),
      Number.relativeIndex_ofNat (by omega), Nat.min_eq_left hstop, h.2, String.ofList_toList]

theorem invoke_includes (call : Caller) (s t : String) :
    invoke call (.string s) "includes" [.string t] =
      pure (.bool (indexOf? t.toList s.toList).isSome) := rfl

theorem invoke_indexOf (call : Caller) (s t : String) :
    invoke call (.string s) "indexOf" [.string t] =
      pure (position (indexOf? t.toList s.toList)) := rfl

theorem invoke_lastIndexOf (call : Caller) (s t : String) :
    invoke call (.string s) "lastIndexOf" [.string t] =
      pure (position (lastIndexOf? t.toList s.toList)) := rfl

/-- A text that occurs is found at the least and at the greatest of its positions, and one that does
not occur is found nowhere. The slices at positions tell where it occurs, and the slices in front of
a number and behind it make up the text. -/
theorem invoke_locate_slice (call : Caller) (s t : String) :
    ((∃ i j, i ≤ j ∧ j ≤ s.length ∧
        invoke call (.string s) "includes" [.string t] = pure (.bool true) ∧
        invoke call (.string s) "indexOf" [.string t] = pure (.ofNat i) ∧
        invoke call (.string s) "lastIndexOf" [.string t] = pure (.ofNat j) ∧
        IsLeast {k | OccursAt t.toList s.toList k} i ∧
        IsGreatest {k | OccursAt t.toList s.toList k} j) ∨
      (∀ k, ¬OccursAt t.toList s.toList k) ∧
        invoke call (.string s) "includes" [.string t] = pure (.bool false) ∧
        invoke call (.string s) "indexOf" [.string t] = pure (.number (-1)) ∧
        invoke call (.string s) "lastIndexOf" [.string t] = pure (.number (-1))) ∧
    (s.length ≤ 2 ^ 53 → ∀ k ≤ s.length,
      (IsSlice call s t k ↔ OccursAt t.toList s.toList k)) ∧
    ∀ x : Float, ∃ front rest, front ++ rest = s ∧
      invoke call (.string s) "slice" [.ofNat 0, .number x] = pure (.string front) ∧
      invoke call (.string s) "slice" [.number x] = pure (.string rest) := by
  refine ⟨?_, fun hs k hk => isSlice_iff call hs hk, fun x => ?_⟩
  · rw [invoke_includes, invoke_indexOf, invoke_lastIndexOf]
    cases hfirst : indexOf? t.toList s.toList with
    | none =>
      have hnone := indexOf?_eq_none_iff.1 hfirst
      rw [lastIndexOf?_eq_none_iff.2 hnone]
      exact .inr ⟨hnone, rfl, rfl, rfl⟩
    | some i =>
      have hleast := indexOf?_eq_some_iff.1 hfirst
      cases hlast : lastIndexOf? t.toList s.toList with
      | none => exact absurd hleast.1 (lastIndexOf?_eq_none_iff.1 hlast i)
      | some j =>
        have hgreatest := lastIndexOf?_eq_some_iff.1 hlast
        refine .inl ⟨i, j, hleast.2 hgreatest.1, ?_, rfl, rfl, rfl, hleast, hgreatest⟩
        rw [← String.length_toList]
        exact hgreatest.1.1
  · have hstart : Number.relativeIndex (Number.ofNat 0) s.toList.length = 0 := by
      rw [Number.relativeIndex_ofNat (Nat.zero_le _), Nat.zero_min]
    refine ⟨_, _, ?_, invoke_slice call s (Number.ofNat 0) x, invoke_slice_rest call s x⟩
    rw [← String.toList_inj, String.toList_append, String.toList_ofList, String.toList_ofList,
      hstart]
    exact between_append_between _ _

/-- The first and the last occurrence overlap, and no character has its length in bytes. -/
theorem invoke_locate_slice_overlapping :
    "é😀é😀é".length ≤ 2 ^ 53 ∧ 2 ≤ "é😀é😀é".length ∧
      IsSlice (fun _ _ => pure .undefined) "é😀é😀é" "é😀é" 2 := by
  have hslice := (invoke_locate_slice (fun _ _ => pure .undefined) "é😀é😀é" "é😀é").2.1
    (by decide) 2 (by decide)
  exact ⟨by decide, by decide, hslice.2 (by decide)⟩

end TextMethod

end TemplateExpr
