import TemplateExpr.Proofs.Expr.Locality
import TemplateExpr.Proofs.Expr.Node

/-!
# Where the parts of an expression stand

Tokens stand alone for an expression if they are read as it when nothing is in front of them and
nothing behind (`Alone`). The parts of such an expression stand one behind another in its tokens,
and the tokens of each part stand alone for it, whatever the part was read after and at which level
(`laid_of_alone`). Only the value of an entry that consists of nothing but its key is the token of
the key.
-/

namespace TemplateExpr.Parser

open TemplateExpr.Text

/-! ### Expressions that stand alone -/

/-- Alone, the tokens are read as the expression. -/
def Alone (ts : Tokens) (e : Expr) : Prop :=
  ∀ size, ∃ height, Gets (exprAt size maxDepth Level.assignment) ts ⟨e, height⟩ []

variable {size n : Nat} {ts ts' w mid rest : Tokens} {b l : Built} {e : Expr} {min min' : Level}

theorem cut_nil (w rest : Tokens) : Cut [] rest w (w ++ rest) := ⟨w, (List.append_nil w).symm, rfl⟩

theorem settled_nil (min : Level) : Settled min [] := fun _ _ _ h => nomatch h

theorem Operation.of_le {sub : Level → Reader} (hmin : min' ≤ min)
    (h : Operation sub min l ts b rest) : Operation sub min' l ts b rest := by
  cases h with
  | conditional hlevel hc ha hheight => exact .conditional (Nat.le_trans hmin hlevel) hc ha hheight
  | assign hlevel hv hheight => exact .assign (Nat.le_trans hmin hlevel) hv hheight
  | binary hop hlevel hr hheight => exact .binary hop (Nat.le_trans hmin hlevel) hr hheight

/-- What is read to the end at a level is read at any looser level. -/
theorem gets_of_le (hmin : min' ≤ min) (h : Gets (exprAt size n min) ts b []) :
    Gets (exprAt size n min') ts b [] := by
  cases n with
  | zero =>
    obtain ⟨hlt, h⟩ := h
    cases h
  | succ n =>
    obtain ⟨l, mid, hl, hloop, -⟩ := gets_exprAt_succ.1 h
    have hloop := Relation.ReflTransGen.mono (fun p q h => Operation.of_le hmin h) _ _ hloop
    exact gets_exprAt_succ.2 ⟨l, mid, hl, hloop, settled_nil min'⟩

/-- The descent starts with an operand at one level of nesting. -/
theorem gets_maxDepth :
    Gets (exprAt size maxDepth min) ts b rest ↔
      ∃ l mid, Gets (unaryAt size (maxDepth - 1)) ts l mid ∧
        Loop (Operation (exprAt size (maxDepth - 1)) min) (l, mid) (b, rest) ∧ Settled min rest :=
  gets_exprAt_succ

theorem alone_of_unary
    (h : ∀ size, ∃ height, Gets (unaryAt size (maxDepth - 1)) ts ⟨e, height⟩ []) :
    Alone ts e := by
  intro size
  obtain ⟨height, hget⟩ := h size
  exact ⟨height, gets_maxDepth.2 ⟨_, [], hget, .refl, settled_nil _⟩⟩

/-- What a reader of the descent takes stands alone for what it builds. -/
theorem alone_of_exprAt (hn : n ≤ maxDepth) (hmin : Level.assignment ≤ min)
    (h : Gets (exprAt size n min) ts b rest) : ∃ w, ts = w ++ rest ∧ Alone w b.expr := by
  have htracks (size' : Nat) := (tracks_exprAt (List.nil_prefix (l := rest)) size size' hn).1 min
  obtain ⟨w, rfl⟩ := (htracks size).leavesEnd h
  refine ⟨w, rfl, fun size' => ⟨b.height, ?_⟩⟩
  obtain ⟨xs, hxs, hget⟩ := (htracks size').read (cut_nil w rest) h (Nat.le_refl _)
  obtain rfl := eq_of_cut hxs
  exact gets_of_le hmin hget

theorem alone_of_unaryAt (hn : n ≤ maxDepth - 1) (h : Gets (unaryAt size n) ts b rest) :
    ∃ w, ts = w ++ rest ∧ Alone w b.expr := by
  have htracks (size' : Nat) := (tracks_exprAt (List.nil_prefix (l := rest)) size size' hn).2
  obtain ⟨w, rfl⟩ := (htracks size).leavesEnd h
  refine ⟨w, rfl, alone_of_unary fun size' => ⟨b.height, ?_⟩⟩
  obtain ⟨xs, hxs, hget⟩ := (htracks size').read (cut_nil w rest) h (Nat.le_refl _)
  obtain rfl := eq_of_cut hxs
  exact hget

/-- What the loop over operators has built stands alone in front of what the loop has left. -/
theorem alone_of_operations (hl : Gets (unaryAt size (maxDepth - 1)) ts l mid)
    (hloop : Loop (Operation (exprAt size (maxDepth - 1)) Level.assignment) (l, mid) (b, rest)) :
    ∃ w, ts = w ++ rest ∧ Alone w b.expr := by
  have htracks (size' : Nat) :=
    tracks_exprAt (List.nil_prefix (l := rest)) size size' (Nat.le_refl (maxDepth - 1))
  have hmid := loop_suffix hloop (Operation.suffix fun m => ((htracks size).1 m).leavesEnd)
  obtain ⟨w, rfl⟩ := hmid.trans ((htracks size).2.leavesEnd hl)
  refine ⟨w, rfl, fun size' => ⟨b.height, ?_⟩⟩
  obtain ⟨xmid, hxmid, hl⟩ := (htracks size').2.read (cut_nil w rest) hl hmid.length_le
  obtain ⟨xs, hxs, hloop⟩ :=
    tracks_operations (htracks size').1 (Nat.le_refl _) hxmid hloop (Nat.le_refl _)
  obtain rfl := eq_of_cut hxs
  exact gets_maxDepth.2 ⟨l, xmid, hl, hloop, settled_nil _⟩

/-- What the loop over accesses has built stands alone in front of what the loop has left. -/
theorem alone_of_accesses {t : Spanned Token} (hop : t.value.unaryOp? = none)
    (hl : Operand (exprAt size (maxDepth - 1) Level.assignment) (t :: ts) l mid)
    (hloop : Loop (Access (exprAt size (maxDepth - 1) Level.assignment)) (l, mid) (b, rest)) :
    ∃ w, t :: ts = w ++ rest ∧ Alone w b.expr := by
  have hnil := List.nil_prefix (l := rest)
  have htracks (size' : Nat) :=
    (tracks_exprAt hnil size size' (Nat.le_refl (maxDepth - 1))).1 Level.assignment
  have hsub := (htracks size).leavesEnd
  obtain ⟨w, hw⟩ := (loop_suffix hloop (Access.suffix hsub)).trans (hl.suffix hsub)
  rw [← hw] at hl ⊢
  refine ⟨w, rfl, alone_of_unary fun size' => ⟨b.height, ?_⟩⟩
  obtain ⟨xmid, xs, hxs, hl, hloop⟩ :=
    tracks_accesses hnil (htracks size') (cut_nil w rest) hl hloop (Nat.le_refl _)
  obtain rfl := eq_of_cut hxs
  cases w with
  | nil => cases hl
  | cons u w =>
    obtain ⟨rfl, -⟩ := List.cons.inj hw
    exact gets_unaryWith.2 (.operand hop hl hloop fun _ _ _ _ h => nomatch h)

/-! ### Expressions one behind another -/

/-- The expressions stand one behind another in the tokens: `P` holds of each one, what stands
between the one before it and the tokens it is read from, and these tokens. -/
inductive Laid (P : Tokens → Tokens → Expr → Prop) : Tokens → List Expr → Prop
  | nil (ts : Tokens) : Laid P ts []
  | cons (gap : Tokens) {w ts : Tokens} {e : Expr} {es : List Expr} :
    P gap w e → Laid P ts es → Laid P (gap ++ (w ++ ts)) (e :: es)

/-- The value of an entry that is nothing but a key: the token of the key, in front of which there
is no colon. -/
def Short (gap w : Tokens) (e : Expr) : Prop :=
  ∃ before mark t, gap = before ++ [mark] ∧ mark.value ≠ .symbol .colon ∧ w = [t] ∧
    t.span = e.span ∧ e.parts = []

/-- What stands alone, whatever is in front of it. -/
abbrev Standing (_ w : Tokens) (e : Expr) : Prop := Alone w e

/-- The value of an entry. -/
abbrev EntryValue (gap w : Tokens) (e : Expr) : Prop := Alone w e ∨ Short gap w e

/-- A part of `e`: only objects have entries. -/
abbrev PartOf (e : Expr) (gap w : Tokens) (p : Expr) : Prop :=
  Alone w p ∨ (∃ s entries, e = .object s entries) ∧ Short gap w p

section

variable {P Q : Tokens → Tokens → Expr → Prop} {es : List Expr}

theorem Laid.mono (h : Laid P ts es) (hPQ : ∀ gap w p, P gap w p → Q gap w p) : Laid Q ts es := by
  induction h with
  | nil ts => exact .nil ts
  | cons gap hp _ ih => exact .cons gap (hPQ _ _ _ hp) ih

theorem Laid.prepend (h : Laid P ts es) (hP : ∀ gap w p, P gap w p → P (ts' ++ gap) w p) :
    Laid P (ts' ++ ts) es := by
  cases h with
  | nil => exact .nil _
  | cons gap hp hes =>
    rw [← List.append_assoc]
    exact .cons _ (hP _ _ _ hp) hes

theorem Laid.append (h : Laid P ts es) (more : Tokens) : Laid P (ts ++ more) es := by
  induction h with
  | nil => exact .nil _
  | cons gap hp _ ih =>
    rw [List.append_assoc, List.append_assoc]
    exact .cons gap hp ih

theorem Laid.of_suffix (h : Laid Standing rest es) (hsuffix : rest <:+ ts) :
    Laid Standing ts es := by
  obtain ⟨front, rfl⟩ := hsuffix
  exact h.prepend fun _ _ _ hp => hp

theorem Short.prepend {gap : Tokens} (h : Short gap w e) (more : Tokens) :
    Short (more ++ gap) w e := by
  obtain ⟨before, mark, t, rfl, h⟩ := h
  exact ⟨more ++ before, mark, t, (List.append_assoc ..).symm, h⟩

theorem Laid.prepend_partOf {o : Expr} (h : Laid (PartOf o) ts es) (more : Tokens) :
    Laid (PartOf o) (more ++ ts) es :=
  h.prepend fun _ _ _ hp => hp.imp_right fun hshort => ⟨hshort.1, hshort.2.prepend more⟩

/-- What is read behind `gap` is laid in front of what is laid in the tokens that are left. -/
theorem Laid.read (gap : Tokens) (hn : n ≤ maxDepth) (hmin : Level.assignment ≤ min)
    (h : Gets (exprAt size n min) ts b rest) (hrest : Laid Standing rest es) :
    Laid Standing (gap ++ ts) (b.expr :: es) := by
  obtain ⟨w, rfl, hw⟩ := alone_of_exprAt hn hmin h
  exact .cons (P := Standing) gap hw hrest

end

/-! ### Parts -/

section

variable {es : List Expr} {height : Nat} {sp : Span}

/-- Inside brackets, expressions are read from the start. -/
abbrev Inner (size n : Nat) : Reader := exprAt size n Level.assignment

theorem laid_operation (hn : n ≤ maxDepth)
    (h : Operation (exprAt size n) Level.assignment l ts b rest) :
    ∃ es, b.expr.parts = l.expr :: es ∧ Laid Standing ts es := by
  cases h with
  | @conditional _ sp _ _ _ _ _ _ hc ha _ =>
    have halternate := Laid.read [⟨.symbol .colon, sp⟩] hn (Nat.le_refl _) ha (.nil _)
    exact ⟨_, rfl, .read [_] hn (Nat.le_refl _) hc halternate⟩
  | assign _ hv _ => exact ⟨_, rfl, .read [_] hn (Nat.le_refl _) hv (.nil _)⟩
  | @binary _ _ op _ _ _ _ hlevel hr _ =>
    have hright : op.level ≤ op.rightLevel := by
      rw [BinaryOp.rightLevel]
      split
      · exact Nat.le_refl _
      · exact Nat.le_succ _
    exact ⟨_, rfl, .read [_] hn (Nat.le_trans hlevel hright) hr (.nil _)⟩

theorem laid_items {close : Symbol} (hn : n ≤ maxDepth)
    (h : Items (Inner size n) close ts es height sp rest) : Laid Standing ts es := by
  induction h with
  | empty => exact .nil _
  | last _ hb => exact .read [] hn (Nat.le_refl _) hb (.nil _)
  | more _ hb _ ih => exact .read [] hn (Nat.le_refl _) hb (ih.of_suffix (List.suffix_cons _ _))

theorem laid_access (hn : n ≤ maxDepth) (h : Access (Inner size n) l ts b rest) :
    ∃ es, b.expr.parts = l.expr :: es ∧ Laid Standing ts es := by
  have hbehind {mark ts : Tokens} {t : Spanned Token} {es : List Expr} (h : Laid Standing ts es) :
      Laid Standing (mark ++ t :: ts) es :=
    h.of_suffix ((List.suffix_cons t ts).trans (List.suffix_append mark _))
  cases h with
  | member => exact ⟨[], rfl, .nil _⟩
  | index _ hkey _ => exact ⟨_, rfl, hbehind (.read [] hn (Nat.le_refl _) hkey (.nil _))⟩
  | call _ hitems _ => exact ⟨_, rfl, hbehind (laid_items hn hitems)⟩

/-- The value of an entry that a mark other than a colon stands in front of. -/
theorem laid_entry {key : String} {mark : Spanned Token} (hmark : mark.value ≠ .symbol .colon)
    (hn : n ≤ maxDepth) (h : Entry (Inner size n) ts key b rest) (hrest : Laid EntryValue rest es) :
    Laid EntryValue (mark :: ts) (b.expr :: es) := by
  cases h with
  | @written t _ _ _ sp _ _ hget =>
    obtain ⟨w, rfl, hw⟩ := alone_of_exprAt hn (Nat.le_refl _) hget
    exact .cons [mark, t, ⟨.symbol .colon, sp⟩] (.inl hw) hrest
  | @short sp _ _ key _ _ =>
    refine .cons [mark] (w := [⟨.name key, sp⟩]) (.inr ?_) hrest
    exact ⟨[], mark, _, rfl, hmark, rfl, rfl, rfl⟩

theorem laid_entries {entries : List (String × Expr)} {mark : Spanned Token}
    (hmark : mark.value ≠ .symbol .colon) (hn : n ≤ maxDepth)
    (h : Entries (Inner size n) ts entries height sp rest) :
    Laid EntryValue (mark :: ts) (entries.map Prod.snd) := by
  induction h generalizing mark with
  | empty => exact .nil _
  | last hentry => exact laid_entry hmark hn hentry (.nil _)
  | more hentry _ ih => exact laid_entry hmark hn hentry (ih (by simp))

end

theorem parts_withSpan (s : Span) (e : Expr) : (e.withSpan s).parts = e.parts := by
  cases e <;> rfl

theorem laid_body {params : List String} {start : Nat} (hn : n ≤ maxDepth)
    (h : Body (Inner size n) params start ts b rest) : Laid Standing ts b.expr.parts := by
  cases h with
  | mk _ hb _ => exact .read [] hn (Nat.le_refl _) hb (.nil _)

theorem parts_nameLeaf? {name : String} {s : Span} (h : nameLeaf? name s = some e) :
    e.parts = [] := by
  rw [nameLeaf?] at h
  split at h
  · obtain rfl := Option.some.inj h
    rfl
  · split at h
    · cases h
    · obtain rfl := Option.some.inj h
      rfl

theorem Laid.partOf {o : Expr} {es : List Expr} (h : Laid Standing ts es) : Laid (PartOf o) ts es :=
  h.mono fun _ _ _ hp => .inl hp

/-- An expression between parentheses has the parts of what is between them, which is read from
fewer tokens. -/
theorem laid_operand (hn : n ≤ maxDepth) (h : Operand (Inner size n) ts b rest)
    (ih : ∀ w e, w.length < ts.length → Alone w e → Laid (PartOf e) w e.parts) :
    Laid (PartOf b.expr) ts b.expr.parts := by
  cases h with
  | number => exact .nil _
  | string => exact .nil _
  | name _ hleaf =>
    rw [parts_nameLeaf? hleaf]
    exact .nil _
  | function hbody => exact ((laid_body hn hbody).of_suffix ⟨[_, _], rfl⟩).partOf
  | functionOf hparams hbody =>
    have hsuffix := (skips_arrowParams? hparams).suffix
    exact ((laid_body hn hbody).of_suffix (hsuffix.trans (List.suffix_cons _ _))).partOf
  | group _ hget =>
    obtain ⟨w, rfl, hw⟩ := alone_of_exprAt hn (Nat.le_refl _) hget
    have hparts := ih w _ (by simp only [List.length_cons, List.length_append]; omega) hw
    rw [parts_withSpan]
    refine ((hparts.append _).prepend_partOf [_]).mono fun _ _ _ hp => hp.imp_right ?_
    rintro ⟨⟨s, entries, he⟩, hshort⟩
    rw [he]
    exact ⟨⟨_, entries, rfl⟩, hshort⟩
  | array hitems => exact ((laid_items hn hitems).of_suffix (List.suffix_cons _ _)).partOf
  | object hentries =>
    exact (laid_entries (by simp) hn hentries).mono fun _ _ _ hp =>
      hp.imp_right fun hshort => ⟨⟨_, _, rfl⟩, hshort⟩

/-- The parts of an expression that stands alone stand one behind another in its tokens, and the
tokens of each one stand alone for it. -/
theorem laid_of_alone (h : Alone w e) : Laid (PartOf e) w e.parts := by
  induction hlength : w.length using Nat.strongRecOn generalizing w e with
  | ind k ih =>
    subst hlength
    obtain ⟨height, hget⟩ := h 0
    obtain ⟨l, mid, hl, hloop, -⟩ := gets_maxDepth.1 hget
    have hn : maxDepth - 1 ≤ maxDepth := Nat.sub_le _ _
    rcases Relation.ReflTransGen.cases_tail hloop with heq | ⟨⟨c, mid'⟩, hloop, hlast⟩
    · -- an operand that no operator follows
      obtain ⟨rfl, rfl⟩ := Prod.mk.inj heq
      cases gets_unaryWith.1 hl with
      | operator _ hb _ =>
        obtain ⟨w', rfl, hw'⟩ := alone_of_unaryAt (Nat.sub_le_sub_right hn _) hb
        exact (Laid.cons (P := Standing) [_] hw' (.nil _)).partOf
      | operand hop hoperand haccess _ =>
        rcases Relation.ReflTransGen.cases_tail haccess with heq | ⟨⟨c, mid'⟩, haccess, hlast⟩
        · obtain ⟨rfl, rfl⟩ := Prod.mk.inj heq
          exact laid_operand hn hoperand fun w' e' hlt h' => ih _ hlt h' rfl
        · obtain ⟨es, hparts, hes⟩ := laid_access hn hlast
          obtain ⟨w', hw', halone⟩ := alone_of_accesses hop hoperand haccess
          rw [hparts, hw']
          exact (Laid.cons (P := Standing) [] halone hes).partOf
    · -- the last operation has all that is in front of it as its left operand
      obtain ⟨es, hparts, hes⟩ := laid_operation hn hlast
      obtain ⟨w', rfl, halone⟩ := alone_of_operations hl hloop
      rw [hparts]
      exact (Laid.cons (P := Standing) [] halone hes).partOf

end TemplateExpr.Parser
