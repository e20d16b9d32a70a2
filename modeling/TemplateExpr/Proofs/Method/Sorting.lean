import Mathlib.Data.String.Basic
import TemplateExpr.Proofs.Eval.Sorting

/-!
# The method `sort`

Whatever the comparison answers, `sort` gives the same items, with what is undefined at the end; it
only asks for pairs of items that are not undefined, and it fails with the first question that fails
(`sort_consults`). Without a function no question fails, and the items are sorted by their texts
(`sort_texts`).
-/

namespace TemplateExpr.ArrayMethod

variable {args : List Value}

/-! ### Comparing items -/

/-- What the result of a comparing function says; a NaN says that the items are equal. -/
def signOf (x : Float) : Ordering := if 0 < x then .gt else if x < 0 then .lt else .eq

theorem signOf_eq_gt (x : Float) : (signOf x == .gt) = decide (0 < x) := by
  unfold signOf
  split_ifs with hpos hneg
  · rw [decide_eq_true hpos]
    rfl
  · rw [decide_eq_false hpos]
    rfl
  · rw [decide_eq_false hpos]
    rfl

/-- The order of the texts of items. -/
def compareTexts (v w : Value) : Ordering := compare v.toText w.toText

theorem compareTexts_eq_gt (v w : Value) :
    (compareTexts v w == .gt) = decide (w.toText < v.toText) := by
  rw [Bool.eq_iff_iff, beq_iff_eq, decide_eq_true_iff]
  exact compare_gt_iff_gt

/-- How two items compare: by their texts without a function, and as the function says with one. -/
def compareItems (call : Caller) (args : List Value) (pair : Value × Value) : Eval Ordering :=
  if (Arguments.nth args 0).isUndefined then pure (compareTexts pair.1 pair.2)
  else do return signOf (← call (Arguments.nth args 0) [pair.1, pair.2]).toNumber

theorem comparison_eq (call : Caller)
    (hargs : (Arguments.nth args 0).isUndefined = true ∨ (Arguments.nth args 0).isFunction = true) :
    comparison call args =
      pure fun a b => do return (← compareItems call args (a, b)) == .gt := by
  unfold comparison compareItems
  split_ifs with hundefined
  · simp only [pure_bind, compareTexts_eq_gt]
  · have hfunction := hargs.resolve_left hundefined
    rw [Arguments.function, if_pos hfunction]
    change (pure fun a b => _ : Eval _) = _
    congr 1
    funext a b
    simp only [bind_assoc, pure_bind, signOf_eq_gt]

/-- The items that are compared. -/
def compared (items : List Value) : List Value := items.filter (!·.isUndefined)

/-- The items that are not compared. -/
def uncompared (items : List Value) : List Value :=
  .replicate (items.countP (·.isUndefined)) .undefined

theorem filter_isUndefined (items : List Value) :
    items.filter (·.isUndefined) = uncompared items := by
  rw [uncompared, List.countP_eq_length_filter]
  refine List.eq_replicate_iff.2 ⟨rfl, fun v hv => ?_⟩
  cases v with
  | undefined => rfl
  | _ => cases (List.mem_filter.1 hv).2

theorem compared_append_uncompared (items : List Value) :
    (compared items ++ uncompared items).Perm items := by
  rw [← filter_isUndefined]
  exact List.perm_append_comm.trans (List.filter_append_perm _ items)

/-! ### Any comparison -/

/-- How `sort` goes on when there is memory for the items. -/
theorem sort_eq (call : Caller) (items : List Value)
    (hargs : (Arguments.nth args 0).isUndefined = true ∨ (Arguments.nth args 0).isFunction = true) :
    sort call items args = (do
      Eval.reserveSlots items.length
      let sorted ← Eval.sortBy (fun a b => do return (← compareItems call args (a, b)) == .gt)
        (compared items)
      return .array (sorted ++ uncompared items)) := by
  rw [← filter_isUndefined, sort, comparison_eq call hargs]
  rfl

/-- Memory for the items is reserved, and then `sort` asks how pairs of items compare, none of them
undefined. It fails with the first question that fails. If all are answered, it gives all of the
items, in whichever order, with what is undefined at the end. Where the answers are those of a
preorder, the other items are sorted by it, and equal ones stay in their order. -/
theorem sort_consults (call : Caller) (items : List Value)
    (hargs : (Arguments.nth args 0).isUndefined = true ∨ (Arguments.nth args 0).isFunction = true) :
    ∃ x : Eval Value, sort call items args = (do Eval.reserveSlots items.length; x) ∧
      ∀ s, Eval.Consults (compareItems call args)
        (fun pair => pair.1 ∈ compared items ∧ pair.2 ∈ compared items) s
        (fun log v => ∃ sorted, v = .array (sorted ++ uncompared items) ∧
          (sorted ++ uncompared items).Perm items ∧ sorted.Perm (compared items) ∧
          ∀ cmp, AnsweredBy cmp log → IsPreorderOn cmp (compared items) →
            SortedStably cmp (compared items) sorted) x := by
  refine ⟨_, sort_eq call items hargs, fun s => ?_⟩
  refine (Eval.consults_sortBy (fun _ _ => rfl) fun a ha b hb => ⟨ha, hb⟩).bind
    fun log sorted hsorts => .pure ⟨sorted, rfl, ?_, hsorts.perm, fun cmp hcmp hpre => ?_⟩
  · exact (hsorts.perm.append_right _).trans (compared_append_uncompared items)
  · rw [List.append_nil] at hcmp
    exact hsorts.sortedStably hcmp hpre

/-- A function that finds each item greater than the other. -/
theorem sort_consults_greater :
    ∃ x : Eval Value, sort (fun _ _ => pure (.number 1)) [.string "a", .undefined, .string "b"]
        [.function ["a", "b"] default []] = (do Eval.reserveSlots 3; x) ∧
      ∀ s, Eval.Consults
        (compareItems (fun _ _ => pure (.number 1)) [.function ["a", "b"] default []])
        (fun pair => pair.1 ∈ [.string "a", .string "b"] ∧ pair.2 ∈ [.string "a", .string "b"]) s
        (fun log v => ∃ sorted, v = .array (sorted ++ [.undefined]) ∧
          (sorted ++ [.undefined]).Perm [.string "a", .undefined, .string "b"] ∧
          sorted.Perm [.string "a", .string "b"] ∧
          ∀ cmp, AnsweredBy cmp log → IsPreorderOn cmp [.string "a", .string "b"] →
            SortedStably cmp [.string "a", .string "b"] sorted) x :=
  sort_consults _ _ (.inr rfl)

/-! ### Without a function -/

theorem isPreorderOn_compareTexts (items : List Value) : IsPreorderOn compareTexts items where
  swap _ _ _ _ := Std.OrientedOrd.eq_swap
  trans _ _ _ _ _ _ := Std.TransOrd.isLE_trans

section Texts

variable {call : Caller} {s : Sandbox} {m m' : Meter}
  (h : (Arguments.nth args 0).isUndefined = true)
include h

/-- Texts are compared without fail, and nothing is used for it. -/
theorem run_compareItems (pair : Value × Value) :
    (compareItems call args pair).run s m = (.ok (compareTexts pair.1 pair.2), m) := by
  rw [compareItems, if_pos h]
  rfl

theorem answeredBy_compareTexts {log : List ((Value × Value) × Ordering)}
    (hlog : Eval.Answers (compareItems call args) s m log m') :
    AnsweredBy compareTexts log ∧ m' = m := by
  induction hlog with
  | nil => exact ⟨nofun, rfl⟩
  | cons hask _ ih =>
    obtain ⟨hanswer, rfl⟩ := Prod.mk.inj ((run_compareItems h _).symm.trans hask)
    obtain ⟨hlog, rfl⟩ := ih
    exact ⟨List.forall_mem_cons.2 ⟨(Except.ok.inj hanswer).symm, hlog⟩, rfl⟩

/-- Without a function, the items are sorted by their texts, and those with one text stay in their
order; apart from the memory for the items, nothing is used and nothing fails. -/
theorem sort_texts (call : Caller) (items : List Value) :
    ∃ x : Eval Value, sort call items args = (do Eval.reserveSlots items.length; x) ∧
      ∀ s m, ∃ sorted, x.run s m = (.ok (.array (sorted ++ uncompared items)), m) ∧
        sorted.Perm (compared items) ∧ SortedStably compareTexts (compared items) sorted := by
  refine ⟨_, sort_eq call items (.inl h), fun s m => ?_⟩
  have hends : Eval.Consults (compareItems call args) (fun _ => True) s
      (fun log out => Sorts log (compared items) out) (Eval.sortBy _ (compared items)) :=
    Eval.consults_sortBy (fun _ _ => rfl) fun _ _ _ _ => trivial
  have hends := hends m
  rw [Eval.run_bind]
  rcases hrun : (Eval.sortBy _ (compared items)).run s m with ⟨e | sorted, m'⟩
  · rw [hrun] at hends
    cases hends with
    | failed _ _ _ hfail => cases (run_compareItems h _).symm.trans hfail
  · rw [hrun] at hends
    cases hends with
    | answered hlog _ hsorts =>
      obtain ⟨hcmp, rfl⟩ := answeredBy_compareTexts h hlog
      exact ⟨sorted, rfl, hsorts.perm, hsorts.sortedStably hcmp (isPreorderOn_compareTexts _)⟩

end Texts

end TemplateExpr.ArrayMethod
