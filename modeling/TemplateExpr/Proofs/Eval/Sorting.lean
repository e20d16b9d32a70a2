import TemplateExpr.Method.Array
import TemplateExpr.Proofs.Eval.Run

/-!
# Sorting by questions that may fail

A run of the sort is followed by the questions that it puts, with their answers: it uses nothing but
these, and fails with the first one that fails (`Eval.Consults`). From the answers alone the order
is read (`Merges`, `Sorts`). Whatever they are, the items stay the same (`Sorts.perm`); if they are
those of a preorder, the items are sorted by it, and equal ones stay in their order
(`Sorts.sortedStably`).
-/

namespace TemplateExpr

/-! ### Orders on items -/

section Order

variable {α : Type} {cmp : α → α → Ordering} {as : List α}

/-- A comparison that is a total preorder on some items. -/
structure IsPreorderOn (cmp : α → α → Ordering) (as : List α) : Prop where
  swap : ∀ a ∈ as, ∀ b ∈ as, cmp b a = (cmp a b).swap
  trans : ∀ a ∈ as, ∀ b ∈ as, ∀ c ∈ as, (cmp a b).isLE → (cmp b c).isLE → (cmp a c).isLE

namespace IsPreorderOn

variable (h : IsPreorderOn cmp as) {a b c : α}
include h

theorem refl (ha : a ∈ as) : (cmp a a).isLE = true := by
  have hswap := h.swap a ha a ha
  cases haa : cmp a a with
  | gt => rw [haa] at hswap; cases hswap
  | _ => rfl

/-- Of two items one is not greater than the other. -/
theorem isLE_of_eq_gt (ha : a ∈ as) (hb : b ∈ as) (hgt : cmp a b = .gt) :
    (cmp b a).isLE = true := by
  rw [h.swap a ha b hb, hgt]
  rfl

/-- Of two items that are equal to one item, none is greater than the other. -/
theorem isLE_of_eq (ha : a ∈ as) (hb : b ∈ as) (hc : c ∈ as) (hab : cmp a b = .eq)
    (hac : cmp a c = .eq) : (cmp b c).isLE = true := by
  refine h.trans b hb a ha c hc ?_ ?_
  · rw [h.swap a ha b hb, hab]
    rfl
  · rw [hac]
    rfl

end IsPreorderOn

/-- The items `out` are in the order of `cmp`, and equal ones stay in their order in `as`. -/
structure SortedStably (cmp : α → α → Ordering) (as out : List α) : Prop where
  sorted : out.Pairwise fun a b => (cmp a b).isLE
  stable : ∀ a ∈ as, out.filter (cmp a · == .eq) = as.filter (cmp a · == .eq)

end Order

/-! ### What answers lead to -/

section Traces

variable {α : Type} {cmp : α → α → Ordering} {log log' : List ((α × α) × Ordering)}
  {as bs ls rs out : List α}

/-- Answers that are those of a comparison. -/
def AnsweredBy (cmp : α → α → Ordering) (log : List ((α × α) × Ordering)) : Prop :=
  ∀ q ∈ log, q.2 = cmp q.1.1 q.1.2

/-- What two lists are merged to when the questions for their heads are answered by `log`. -/
inductive Merges : List ((α × α) × Ordering) → List α → List α → List α → Prop
  | leftEmpty (rs : List α) : Merges [] [] rs rs
  | rightEmpty (ls : List α) : Merges [] ls [] ls
  | right {log : List ((α × α) × Ordering)} {l r : α} {ls rs out : List α}
      (h : Merges log (l :: ls) rs out) :
      Merges (((l, r), .gt) :: log) (l :: ls) (r :: rs) (r :: out)
  | left {log : List ((α × α) × Ordering)} {l r : α} {ls rs out : List α} {o : Ordering}
      (ho : o ≠ .gt) (h : Merges log ls (r :: rs) out) :
      Merges (((l, r), o) :: log) (l :: ls) (r :: rs) (l :: out)

/-- What a list is sorted to when the questions are answered by `log`. -/
inductive Sorts : List ((α × α) × Ordering) → List α → List α → Prop
  | short {as : List α} (h : as.length ≤ 1) : Sorts [] as as
  | halves {log₁ log₂ log₃ : List ((α × α) × Ordering)} {as₁ as₂ out₁ out₂ out : List α}
      (h₁ : Sorts log₁ as₁ out₁) (h₂ : Sorts log₂ as₂ out₂) (hmerge : Merges log₃ out₁ out₂ out) :
      Sorts (log₁ ++ (log₂ ++ log₃)) (as₁ ++ as₂) out

namespace Merges

theorem perm (h : Merges log ls rs out) : out.Perm (ls ++ rs) := by
  induction h with
  | leftEmpty rs => exact .refl rs
  | rightEmpty ls => rw [List.append_nil]
  | right h ih => exact (ih.cons _).trans List.perm_middle.symm
  | left ho h ih => exact ih.cons _

/-- Sorted lists are merged to a sorted list. -/
theorem sorted (h : Merges log ls rs out) (hlog : AnsweredBy cmp log) (hcmp : IsPreorderOn cmp as)
    (hls : ls ⊆ as) (hrs : rs ⊆ as) (hl : ls.Pairwise fun a b => (cmp a b).isLE)
    (hr : rs.Pairwise fun a b => (cmp a b).isLE) : out.Pairwise fun a b => (cmp a b).isLE := by
  induction h with
  | leftEmpty rs => exact hr
  | rightEmpty ls => exact hl
  | @right log l r ls rs out h ih =>
    obtain ⟨hlog, hlogs⟩ := List.forall_mem_cons.1 hlog
    obtain ⟨hras, hrsas⟩ := List.cons_subset.1 hrs
    obtain ⟨hlas, hlsas⟩ := List.cons_subset.1 hls
    -- `l` lies between `r` and all that is left of its list
    have hle : (cmp r l).isLE = true := hcmp.isLE_of_eq_gt hlas hras hlog.symm
    obtain ⟨hrle, hr⟩ := List.pairwise_cons.1 hr
    refine List.pairwise_cons.2 ⟨fun b hb => ?_, ih hlogs hls hrsas hl hr⟩
    have hmem := h.perm.mem_iff.1 hb
    rw [List.cons_append, List.mem_cons, List.mem_append] at hmem
    rcases hmem with rfl | hb | hb
    · exact hle
    · exact hcmp.trans r hras l hlas b (hlsas hb) hle ((List.pairwise_cons.1 hl).1 b hb)
    · exact hrle b hb
  | @left log l r ls rs out o ho h ih =>
    obtain ⟨hlog, hlogs⟩ := List.forall_mem_cons.1 hlog
    obtain ⟨hras, hrsas⟩ := List.cons_subset.1 hrs
    obtain ⟨hlas, hlsas⟩ := List.cons_subset.1 hls
    have hle : (cmp l r).isLE = true := by
      rw [← hlog, Ordering.isLE_iff_ne_gt]
      exact ho
    obtain ⟨hlle, hl⟩ := List.pairwise_cons.1 hl
    refine List.pairwise_cons.2 ⟨fun b hb => ?_, ih hlogs hlsas hrs hl hr⟩
    have hmem := h.perm.mem_iff.1 hb
    rw [List.mem_append, List.mem_cons] at hmem
    rcases hmem with hb | rfl | hb
    · exact hlle b hb
    · exact hle
    · exact hcmp.trans l hlas r hras b (hrsas hb) hle ((List.pairwise_cons.1 hr).1 b hb)

/-- Equal items stay in their order, those of the first list in front. An item of the second list
that comes before the head of the first one is equal to none of that list: they are all greater. -/
theorem filter_eq (h : Merges log ls rs out) (hlog : AnsweredBy cmp log)
    (hcmp : IsPreorderOn cmp as) (hls : ls ⊆ as) (hrs : rs ⊆ as)
    (hl : ls.Pairwise fun a b => (cmp a b).isLE) {a : α} (ha : a ∈ as) :
    out.filter (cmp a · == .eq) = ls.filter (cmp a · == .eq) ++ rs.filter (cmp a · == .eq) := by
  induction h with
  | leftEmpty rs => rfl
  | rightEmpty ls => rw [List.filter_nil, List.append_nil]
  | @right log l r ls rs out h ih =>
    obtain ⟨hlog, hlogs⟩ := List.forall_mem_cons.1 hlog
    obtain ⟨hras, hrsas⟩ := List.cons_subset.1 hrs
    rw [List.filter_cons, List.filter_cons (x := r), ih hlogs hls hrsas hl]
    split
    · next heq =>
      -- an item `b` of the first list that is equal to `r` would make `l` no greater than `r`
      have hnone : (l :: ls).filter (cmp a · == .eq) = [] := by
        refine List.filter_eq_nil_iff.2 fun b hb hab => ?_
        have hlas := hls List.mem_cons_self
        have hlb : (cmp l b).isLE = true := by
          rcases List.mem_cons.1 hb with rfl | hb
          · exact hcmp.refl hlas
          · exact (List.pairwise_cons.1 hl).1 b hb
        have hbr := hcmp.isLE_of_eq ha (hls hb) hras (beq_iff_eq.1 hab) (beq_iff_eq.1 heq)
        have hlr := hcmp.trans l hlas b (hls hb) r hras hlb hbr
        rw [← hlog] at hlr
        cases hlr
      rw [hnone]
      rfl
    · rfl
  | @left log l r ls rs out o ho h ih =>
    obtain ⟨-, hlogs⟩ := List.forall_mem_cons.1 hlog
    rw [List.filter_cons, List.filter_cons (x := l),
      ih hlogs (List.cons_subset.1 hls).2 hrs (List.pairwise_cons.1 hl).2]
    split <;> rfl

end Merges

namespace Sorts

theorem perm (h : Sorts log as out) : out.Perm as := by
  induction h with
  | short => exact .refl _
  | halves _ _ hmerge ih₁ ih₂ => exact hmerge.perm.trans (ih₁.append ih₂)

theorem sorted (h : Sorts log as out) (hlog : AnsweredBy cmp log) (hcmp : IsPreorderOn cmp bs)
    (hsub : as ⊆ bs) : out.Pairwise fun a b => (cmp a b).isLE := by
  induction h with
  | @short as hlen =>
    match as, hlen with
    | [], _ => exact .nil
    | [a], _ => exact List.pairwise_singleton _ a
  | halves h₁ h₂ hmerge ih₁ ih₂ =>
    obtain ⟨hlog₁, hlog⟩ := List.forall_mem_append.1 hlog
    obtain ⟨hlog₂, hlog₃⟩ := List.forall_mem_append.1 hlog
    obtain ⟨hsub₁, hsub₂⟩ := List.append_subset.1 hsub
    exact hmerge.sorted hlog₃ hcmp (List.Subset.trans h₁.perm.subset hsub₁)
      (List.Subset.trans h₂.perm.subset hsub₂) (ih₁ hlog₁ hsub₁) (ih₂ hlog₂ hsub₂)

theorem filter_eq (h : Sorts log as out) (hlog : AnsweredBy cmp log) (hcmp : IsPreorderOn cmp bs)
    (hsub : as ⊆ bs) {a : α} (ha : a ∈ bs) :
    out.filter (cmp a · == .eq) = as.filter (cmp a · == .eq) := by
  induction h with
  | short => rfl
  | halves h₁ h₂ hmerge ih₁ ih₂ =>
    obtain ⟨hlog₁, hlog⟩ := List.forall_mem_append.1 hlog
    obtain ⟨hlog₂, hlog₃⟩ := List.forall_mem_append.1 hlog
    obtain ⟨hsub₁, hsub₂⟩ := List.append_subset.1 hsub
    rw [hmerge.filter_eq hlog₃ hcmp (List.Subset.trans h₁.perm.subset hsub₁)
      (List.Subset.trans h₂.perm.subset hsub₂) (h₁.sorted hlog₁ hcmp hsub₁) ha,
      ih₁ hlog₁ hsub₁, ih₂ hlog₂ hsub₂, List.filter_append]

/-- Where the answers are those of a preorder, the items are sorted by it, and equal items stay in
their order. -/
theorem sortedStably (h : Sorts log as out) (hlog : AnsweredBy cmp log)
    (hcmp : IsPreorderOn cmp as) : SortedStably cmp as out where
  sorted := h.sorted hlog hcmp (List.Subset.refl as)
  stable _ ha := h.filter_eq hlog hcmp (List.Subset.refl as) ha

end Sorts

end Traces

/-! ### Questions and answers -/

namespace Eval

variable {α β γ δ : Type}

/-- Questions that are put one after the other from the meter `m` to the meter `m'`, with their
answers. -/
inductive Answers (ask : α → Eval β) (s : Sandbox) : Meter → List (α × β) → Meter → Prop
  | nil (m : Meter) : Answers ask s m [] m
  | cons {a : α} {b : β} {log : List (α × β)} {m m₁ m₂ : Meter}
      (h : (ask a).run s m = (.ok b, m₁)) (hlog : Answers ask s m₁ log m₂) :
      Answers ask s m ((a, b) :: log) m₂

theorem Answers.append {ask : α → Eval β} {s : Sandbox} {m m₁ m₂ : Meter} {log log' : List (α × β)}
    (h : Answers ask s m log m₁) (h' : Answers ask s m₁ log' m₂) :
    Answers ask s m (log ++ log') m₂ := by
  induction h with
  | nil => exact h'
  | cons hask _ ih => exact .cons hask (ih h')

/-- How a run ends that puts questions of the kind `asked` and uses nothing else: with a result that
goes with the answers, or with the failure of the first question that is not answered. -/
inductive EndsAfter (ask : α → Eval β) (asked : α → Prop) (s : Sandbox)
    (R : List (α × β) → γ → Prop) (m : Meter) : Except Failure γ × Meter → Prop
  | answered {log : List (α × β)} {c : γ} {m' : Meter} (hlog : Answers ask s m log m')
      (hasked : ∀ q ∈ log, asked q.1) (hresult : R log c) : EndsAfter ask asked s R m (.ok c, m')
  | failed {log : List (α × β)} {a : α} {e : Failure} {m₁ m' : Meter}
      (hlog : Answers ask s m log m₁) (hasked : ∀ q ∈ log, asked q.1) (ha : asked a)
      (hfail : (ask a).run s m₁ = (.error e, m')) : EndsAfter ask asked s R m (.error e, m')

namespace EndsAfter

variable {ask : α → Eval β} {asked : α → Prop} {s : Sandbox} {R R' : List (α × β) → γ → Prop}
  {m m₁ : Meter} {log : List (α × β)} {ending : Except Failure γ × Meter}

theorem mono (h : EndsAfter ask asked s R m ending) (hR : ∀ log c, R log c → R' log c) :
    EndsAfter ask asked s R' m ending := by
  cases h with
  | answered hlog hasked hresult => exact .answered hlog hasked (hR _ _ hresult)
  | failed hlog hasked ha hfail => exact .failed hlog hasked ha hfail

/-- With questions that have been answered in front. -/
theorem after (h : EndsAfter ask asked s (fun log' c => R (log ++ log') c) m₁ ending)
    (hlog : Answers ask s m log m₁) (hasked : ∀ q ∈ log, asked q.1) :
    EndsAfter ask asked s R m ending := by
  cases h with
  | answered hlog' hasked' hresult =>
    exact .answered (hlog.append hlog') (List.forall_mem_append.2 ⟨hasked, hasked'⟩) hresult
  | failed hlog' hasked' ha hfail =>
    exact .failed (hlog.append hlog') (List.forall_mem_append.2 ⟨hasked, hasked'⟩) ha hfail

end EndsAfter

/-- A computation that puts questions of the kind `asked` and uses nothing else, and whose result
goes with the answers. -/
def Consults (ask : α → Eval β) (asked : α → Prop) (s : Sandbox) (R : List (α × β) → γ → Prop)
    (x : Eval γ) : Prop :=
  ∀ m, EndsAfter ask asked s R m (x.run s m)

namespace Consults

variable {ask : α → Eval β} {asked : α → Prop} {s : Sandbox} {R R' : List (α × β) → γ → Prop}
  {S : List (α × β) → δ → Prop} {x : Eval γ} {f : γ → Eval δ}

theorem mono (h : Consults ask asked s R x) (hR : ∀ log c, R log c → R' log c) :
    Consults ask asked s R' x :=
  fun m => (h m).mono hR

theorem pure {c : γ} (h : R [] c) : Consults ask asked s R (Pure.pure c) :=
  fun m => .answered (.nil m) nofun h

/-- One question. -/
theorem of_ask {a : α} (ha : asked a) :
    Consults ask asked s (fun log b => log = [(a, b)]) (ask a) := fun m => by
  rcases hrun : (ask a).run s m with ⟨e | b, m'⟩
  · exact .failed (.nil m) nofun ha hrun
  · exact .answered (.cons hrun (.nil m')) (List.forall_mem_singleton.2 ha) rfl

/-- One computation behind another one puts its questions behind those of the first one. -/
theorem bind (hx : Consults ask asked s R x)
    (hf : ∀ log c, R log c → Consults ask asked s (fun log' d => S (log ++ log') d) (f c)) :
    Consults ask asked s S (x >>= f) := fun m => by
  have hfirst := hx m
  rw [run_bind]
  rcases hrun : x.run s m with ⟨e | c, m₁⟩
  · rw [hrun] at hfirst
    cases hfirst with
    | failed hlog hasked ha hfail => exact .failed hlog hasked ha hfail
  · rw [hrun] at hfirst
    cases hfirst with
    | @answered log _ _ hlog hasked hresult => exact (hf log c hresult m₁).after hlog hasked

end Consults

/-! ### Runs of the sort -/

section Runs

variable {ask : α × α → Eval Ordering} {asked : α × α → Prop} {s : Sandbox}
  {greater : α → α → Eval Bool} (hgreater : ∀ a b, greater a b = do return (← ask (a, b)) == .gt)
include hgreater

/-- Merging puts the questions that its result goes with. -/
theorem consults_mergeFrom (acc : List α) {ls rs : List α}
    (hasked : ∀ l ∈ ls, ∀ r ∈ rs, asked (l, r)) :
    Consults ask asked s (fun log out => ∃ merged, out = acc.reverse ++ merged ∧
      Merges log ls rs merged) (mergeFrom greater acc ls rs) := by
  fun_induction mergeFrom greater acc ls rs with
  | case1 acc rs => exact .pure ⟨rs, rfl, .leftEmpty rs⟩
  | case2 acc ls hls => exact .pure ⟨ls, rfl, .rightEmpty ls⟩
  | case3 acc l ls r rs ihright ihleft =>
    rw [hgreater, bind_assoc]
    simp only [pure_bind]
    refine (Consults.of_ask (hasked l List.mem_cons_self r List.mem_cons_self)).bind ?_
    rintro _ o rfl
    split
    · next hgt =>
      obtain rfl := beq_iff_eq.1 hgt
      refine (ihright ?_).mono ?_
      · exact fun l' hl' r' hr' => hasked l' hl' r' (List.mem_cons_of_mem r hr')
      · rintro log _ ⟨merged, rfl, hmerged⟩
        exact ⟨r :: merged, by simp, .right hmerged⟩
    · next hle =>
      refine (ihleft ?_).mono ?_
      · exact fun l' hl' r' hr' => hasked l' (List.mem_cons_of_mem l hl') r' hr'
      · rintro log _ ⟨merged, rfl, hmerged⟩
        exact ⟨l :: merged, by simp, .left (fun ho => hle (beq_iff_eq.2 ho)) hmerged⟩

/-- Sorting puts the questions that its result goes with. -/
theorem consults_sortBy {as : List α} (hasked : ∀ a ∈ as, ∀ b ∈ as, asked (a, b)) :
    Consults ask asked s (fun log out => Sorts log as out) (sortBy greater as) := by
  fun_induction sortBy greater as with
  | case1 as hlen => exact .pure (.short hlen)
  | case2 as hlen ihleft ihright =>
    have hleft : as.take (as.length / 2) ⊆ as := List.take_subset _ _
    have hright : as.drop (as.length / 2) ⊆ as := List.drop_subset _ _
    refine (ihleft fun a ha b hb => hasked a (hleft ha) b (hleft hb)).bind fun log₁ left h₁ => ?_
    refine (ihright fun a ha b hb => hasked a (hright ha) b (hright hb)).bind
      fun log₂ right h₂ => ?_
    refine (consults_mergeFrom hgreater [] ?_).mono ?_
    · exact fun l hl r hr => hasked l (hleft (h₁.perm.mem_iff.1 hl)) r
        (hright (h₂.perm.mem_iff.1 hr))
    · rintro log₃ _ ⟨merged, rfl, hmerged⟩
      have h := Sorts.halves h₁ h₂ hmerged
      rwa [List.take_append_drop] at h

end Runs

/-- A comparison that tells only whether an item is greater. -/
def orderingBy (greater : α → α → Eval Bool) (pair : α × α) : Eval Ordering := do
  return if ← greater pair.1 pair.2 then .gt else .lt

theorem orderingBy_eq_gt (greater : α → α → Eval Bool) (a b : α) :
    greater a b = do return (← orderingBy greater (a, b)) == .gt := by
  have hpure : (fun o : Bool => (pure ((if o then .gt else .lt) == Ordering.gt) : Eval Bool)) =
      pure := by
    funext o
    cases o <;> rfl
  simp only [orderingBy, bind_assoc, pure_bind]
  rw [hpure, bind_pure]

/-- Sorting gives the same items. -/
theorem perm_of_run_sortBy {greater : α → α → Eval Bool} {as out : List α} {s : Sandbox}
    {m m' : Meter} (h : (sortBy greater as).run s m = (.ok out, m')) : out.Perm as := by
  have hsorts : Consults (orderingBy greater) (fun _ => True) s (fun log out => Sorts log as out)
      (sortBy greater as) := consults_sortBy (orderingBy_eq_gt greater) fun _ _ _ _ => trivial
  have hends := hsorts m
  rw [h] at hends
  cases hends with
  | answered _ _ hsorts => exact hsorts.perm

end Eval

end TemplateExpr
