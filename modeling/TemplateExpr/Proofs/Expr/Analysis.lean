import TemplateExpr.Proofs.Expr.Tree

/-!
# What the analysis says about the findings

The fields of an `Analysis` as statements about the findings that it sorts. What it points at stands
where a node of the tree stands (`Expr.Placed.analyze`).
-/

namespace TemplateExpr

namespace Dependency

theorem mem_ordered (d : Dependency) (ds : List Dependency) : d ∈ ordered ds ↔ d ∈ ds := by
  suffices h : ∀ acc, d ∈ ds.foldl (fun acc d => insert d acc) acc ↔ d ∈ acc ∨ d ∈ ds by
    rw [ordered, h]
    simp
  induction ds with
  | nil => simp
  | cons x xs ih =>
    intro acc
    rw [List.foldl_cons, ih, mem_insert, List.mem_cons, or_assoc]
    exact or_left_comm

end Dependency

namespace Expr

variable {e : Expr} {f : Finding}

/-- An expression that is not volatile has no look at the clock. -/
theorem isClock_of_not_volatile (h : e.analyze.volatile = false) (hf : f ∈ e.findings [] false) :
    f.isClock = false := by
  rw [analyze, List.any_eq_false] at h
  exact Bool.eq_false_iff.2 (h f hf)

/-- If the list of dependencies is complete, nothing else is read. -/
theorem isUnlisted_of_complete (h : e.analyze.dependenciesComplete = true)
    (hf : f ∈ e.findings [] false) : f.isUnlisted = false := by
  rw [analyze, Bool.not_eq_true', List.any_eq_false] at h
  exact Bool.eq_false_iff.2 (h f hf)

/-- Everything that is read is listed. -/
theorem mem_dependencies {d : Dependency} (hf : .reads d ∈ e.findings [] false) :
    d ∈ e.analyze.dependencies :=
  (Dependency.mem_ordered d _).2 (List.mem_filterMap.2 ⟨.reads d, hf, rfl⟩)

theorem mem_methodCalls {name : String} {span : Span}
    (hf : .method name span ∈ e.findings [] false) : ⟨name, span⟩ ∈ e.analyze.methodCalls :=
  List.mem_filterMap.2 ⟨.method name span, hf, rfl⟩

theorem mem_freeNames {name : String} {span : Span}
    (hf : .freeName name span ∈ e.findings [] false) : ⟨name, span⟩ ∈ e.analyze.freeNames :=
  List.mem_filterMap.2 ⟨.freeName name span, hf, rfl⟩

theorem mem_assignments {span : Span} (hf : .assignment span ∈ e.findings [] false) :
    span ∈ e.analyze.assignments :=
  List.mem_filterMap.2 ⟨.assignment span, hf, rfl⟩

theorem mem_computedKeys {span : Span} (hf : .computedKey span ∈ e.findings [] false) :
    span ∈ e.analyze.computedKeys :=
  List.mem_filterMap.2 ⟨.computedKey span, hf, rfl⟩

end Expr

/-! ### Places -/

/-- Where a finding stands, if it stands at a place of its own. -/
def Finding.span? : Finding → Option Span
  | .freeName _ span | .method _ span | .node _ span | .computedKey span | .assignment span =>
    some span
  | _ => none

/-- The findings stand where `P` holds. -/
def Finding.StandAt (P : Span → Prop) (found : List Finding) : Prop :=
  ∀ f ∈ found, ∀ span ∈ f.span?, P span

/-- All places of the analysis satisfy `P`. -/
structure Analysis.Placed (P : Span → Prop) (a : Analysis) : Prop where
  freeNames : ∀ n ∈ a.freeNames, P n.span
  methodCalls : ∀ m ∈ a.methodCalls, P m.span
  nodeReferences : ∀ n ∈ a.nodeReferences, P n.span
  computedKeys : ∀ span ∈ a.computedKeys, P span
  assignments : ∀ span ∈ a.assignments, P span

namespace Finding

variable {P : Span → Prop} {found more : List Finding} {f : Finding}

theorem standAt_nil : StandAt P [] := fun _ hf => absurd hf List.not_mem_nil

theorem standAt_cons (hf : ∀ span ∈ f.span?, P span) (h : StandAt P found) :
    StandAt P (f :: found) :=
  List.forall_mem_cons.2 ⟨hf, h⟩

theorem standAt_one (hf : ∀ span ∈ f.span?, P span) : StandAt P [f] :=
  standAt_cons hf standAt_nil

theorem StandAt.append (h : StandAt P found) (h' : StandAt P more) : StandAt P (found ++ more) :=
  List.forall_mem_append.2 ⟨h, h'⟩

/-- What is read has no place of its own. -/
theorem standAt_reading (root : String) (key : Option String) : StandAt P (reading root key) := by
  have hwhole (d : Dependency) : StandAt P [reads d] := standAt_one fun _ hs => by cases hs
  unfold reading
  split
  · exact standAt_one fun _ hs => by cases hs
  · dsimp only
    split
    · exact standAt_cons (fun _ hs => by cases hs) (hwhole _)
    · exact hwhole _

theorem standAt_nodeName {span : Span} (h : P span) (name : Option String) :
    ∀ s ∈ (nodeName name span).span?, P s := by
  intro s hs
  cases name with
  | none => cases hs
  | some name => exact Option.some.inj hs ▸ h

end Finding

namespace Expr

open Finding (StandAt standAt_nil standAt_cons standAt_one standAt_reading standAt_nodeName)

variable {P : Span → Prop} {scopes : Scopes} {span : Span}

theorem standAt_nameFindings (hspan : P span) (accessed : Bool) (name : String) :
    StandAt P (nameFindings scopes accessed name span) := by
  unfold nameFindings
  split
  · exact standAt_nil
  · refine standAt_cons (fun s hs => Option.some.inj hs ▸ hspan) ?_
    split
    · exact standAt_reading _ _
    · exact standAt_nil

theorem standAt_memberFindings (hspan : P span) (recv : Expr) (name : String) :
    StandAt P (memberFindings scopes span recv name) := by
  unfold memberFindings
  split
  · refine StandAt.append ?_ (standAt_reading _ _)
    split
    · exact standAt_cons (fun _ hs => by cases hs)
        (standAt_one fun s hs => Option.some.inj hs ▸ hspan)
    · exact standAt_nil
  · split
    · exact standAt_one fun _ hs => by cases hs
    · exact standAt_nil

theorem standAt_indexFindings (recv : Expr) {key : Expr} (hkey : P key.span) :
    StandAt P (indexFindings scopes recv key) := by
  unfold indexFindings
  refine StandAt.append ?_ ?_
  · split
    · exact standAt_one fun s hs => Option.some.inj hs ▸ hkey
    · exact standAt_nil
  · split
    · refine StandAt.append ?_ (standAt_reading _ _)
      split
      · exact standAt_cons (fun _ hs => by cases hs) (standAt_one (standAt_nodeName hkey _))
      · exact standAt_nil
    · exact standAt_nil

theorem standAt_callFindings (hspan : P span) (callee : Expr) {args : List Expr}
    (hargs : ∀ arg ∈ args, P arg.span) : StandAt P (callFindings scopes span callee args) := by
  unfold callFindings
  split
  · split
    · exact standAt_nil
    · cases args with
      | nil => exact standAt_one fun _ hs => by cases hs
      | cons arg args => exact standAt_one (standAt_nodeName (hargs arg List.mem_cons_self) _)
  · refine standAt_cons (fun s hs => Option.some.inj hs ▸ hspan) (StandAt.append ?_ ?_)
    · split
      · exact standAt_one fun _ hs => by cases hs
      · exact standAt_nil
    · split
      · exact standAt_reading _ _
      · exact standAt_nil
  · exact standAt_nil

/-- The expressions stand where `P` holds, as do their parts. -/
theorem Placed.items {items : List Expr}
    (h : List.Forall₂ (Matches fun s s' => s = s' ∧ P s) items items) : ∀ e ∈ items, e.Placed P :=
  fun e he => List.forall₂_same.1 h e he

mutual

/-- What an expression does stands where its nodes stand. -/
theorem Placed.findings : ∀ {e : Expr}, e.Placed P → ∀ (scopes : Scopes) (accessed : Bool),
    StandAt P (e.findings scopes accessed)
  | .literal .., _, _, _ => standAt_nil
  | .ident _ name, .ident _ hs, _, accessed => standAt_nameFindings hs.2 accessed name
  | .array .., .array _ hitems, scopes, _ => listFindings_placed hitems scopes
  | .object .., .object _ hentries, scopes, _ => entryFindings_placed hentries scopes
  | .member _ recv name _, .member _ _ hs hrecv, scopes, _ =>
    (standAt_memberFindings hs.2 recv name).append (Placed.findings hrecv scopes _)
  | .index _ recv _ _, .index _ _ hrecv hkey, scopes, _ =>
    ((standAt_indexFindings recv (Matches.span hkey).2).append
      (Placed.findings hrecv scopes _)).append (Placed.findings hkey scopes false)
  | .call _ callee _ _, .call _ hs hcallee hargs, scopes, _ =>
    ((standAt_callFindings hs.2 callee fun arg harg => (Placed.items hargs arg harg).span).append
      (Placed.findings hcallee scopes false)).append (listFindings_placed hargs scopes)
  | .unary .., .unary _ _ h, scopes, _ => Placed.findings h scopes false
  | .binary .., .binary _ _ hl hr, scopes, _ =>
    (Placed.findings hl scopes false).append (Placed.findings hr scopes false)
  | .conditional .., .conditional _ ht hc ha, scopes, _ =>
    ((Placed.findings ht scopes false).append (Placed.findings hc scopes false)).append
      (Placed.findings ha scopes false)
  | .lambda _ params _, .lambda _ _ hbody, scopes, _ =>
    Placed.findings hbody (params :: scopes) false
  | .assign .., .assign hs ht hv, scopes, _ =>
    (standAt_cons (fun _ hmem => Option.some.inj hmem ▸ hs.2)
      (Placed.findings ht scopes false)).append (Placed.findings hv scopes false)

theorem listFindings_placed : ∀ {es : List Expr},
    List.Forall₂ (Matches fun s s' => s = s' ∧ P s) es es → ∀ scopes : Scopes,
    StandAt P (listFindings scopes es)
  | [], _, _ => standAt_nil
  | _ :: _, .cons h hs, scopes =>
    (Placed.findings h scopes false).append (listFindings_placed hs scopes)

theorem entryFindings_placed : ∀ {es : Fields Expr},
    Fields.Related (Matches fun s s' => s = s' ∧ P s) es es → ∀ scopes : Scopes,
    StandAt P (entryFindings scopes es)
  | [], _, _ => standAt_nil
  | (_, _) :: _, .cons _ h hs, scopes =>
    (Placed.findings h scopes false).append (entryFindings_placed hs scopes)

end

/-- What the analysis points at stands where a node stands. -/
theorem Placed.analyze {e : Expr} (h : e.Placed P) : e.analyze.Placed P := by
  have hfound : StandAt P (e.findings [] false) := h.findings [] false
  have hsorted {α : Type} {pick : Finding → Option α} {place : α → Span}
      (hpick : ∀ f a, pick f = some a → f.span? = some (place a)) :
      ∀ a ∈ (e.findings [] false).filterMap pick, P (place a) := by
    intro a ha
    obtain ⟨f, hf, hfa⟩ := List.mem_filterMap.1 ha
    exact hfound f hf _ (hpick f a hfa)
  exact ⟨hsorted fun | .freeName _ _, _, rfl => rfl, hsorted fun | .method _ _, _, rfl => rfl,
    hsorted fun | .node _ _, _, rfl => rfl, hsorted fun | .computedKey _, _, rfl => rfl,
    hsorted fun | .assignment _, _, rfl => rfl⟩

end Expr

end TemplateExpr
