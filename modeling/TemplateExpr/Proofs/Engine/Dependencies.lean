import TemplateExpr.Proofs.Engine.Compute
import TemplateExpr.Proofs.Value.Marks

/-!
# Fingerprints of dependencies

What is computed for an expression whose dependencies are all listed is the same for two contexts
that agree on each of them (`Engine.compute_eq_of_agreesOn`). Whether the fingerprint of the
dependencies tells two contexts apart is another question. It does not tell a field of an object
from an item that is no object but has the same marks, nor a variable that is missing from one
whose value is written in its place.
-/

namespace TemplateExpr

open TemplateExpr.Eval

namespace Context

/-- Two contexts have the same at a dependency. -/
def AgreesOn (c c' : Context) (d : Dependency) : Prop :=
  match d.root, d.key with
  | "$json", some key => c.json.property key = c'.json.property key
  | "$json", none => c.json = c'.json
  | "$env", some key => c.env.get? key = c'.env.get? key
  | "$env", none => c.env.toValue = c'.env.toValue
  | "$runIndex", _ => Value.ofNat c.runIndex = Value.ofNat c'.runIndex
  | "$itemIndex", _ => Value.ofNat c.itemIndex = Value.ofNat c'.itemIndex
  | _, _ => True

/-- At the field of an item, both items are objects or neither is; a variable of the environment is
there in both contexts or in neither. -/
def SameShape (c c' : Context) (d : Dependency) : Prop :=
  match d.root, d.key with
  | "$json", some _ => c.json.fields?.isSome = c'.json.fields?.isSome
  | "$env", some key => (c.env.get? key).isSome = (c'.env.get? key).isSome
  | _, _ => True

/-! ### Marks of dependencies -/

variable {c c' : Context}

theorem isTold_fieldRead {v : Value} (h : v.IsTold) (key : String) : (fieldRead v key).IsTold := by
  unfold fieldRead
  split
  · next fields =>
    cases hv : Fields.get? fields key with
    | none => exact Value.isTold_undefined
    | some u =>
      obtain ⟨f, hf, rfl⟩ := exists_of_lookup hv
      exact Value.isTold_object.1 h f hf
  · exact h

/-- The field of an item is what is read of it, unless the item is no object. -/
theorem property_eq_of_fieldRead {v w : Value} {key : String}
    (hshape : v.fields?.isSome = w.fields?.isSome) (h : fieldRead v key = fieldRead w key) :
    v.property key = w.property key := by
  cases v <;> cases w <;>
    first
    | exact h
    | exact congrArg (Value.property · key) h
    | simp [Value.fields?] at hshape

/-- Of two contexts of the same shape, the marks of a dependency tell whether they agree on it. -/
theorem agreesOn_of_marks {d : Dependency} (hc : c.json.IsTold) (hc' : c'.json.IsTold)
    (hshape : c.SameShape c' d) {rest rest' : Fingerprint}
    (h : c.dependencyMarks d ++ rest = c'.dependencyMarks d ++ rest') :
    c.AgreesOn c' d ∧ rest = rest' := by
  obtain ⟨root, key⟩ := d
  by_cases hitem : root = "$json"
  · subst hitem
    cases key with
    | some key =>
      simp only [dependencyMarks, List.cons_append, List.cons.injEq, true_and] at h
      obtain ⟨hread, hrest⟩ :=
        Value.marks_append_inj (isTold_fieldRead hc key) (isTold_fieldRead hc' key) h
      exact ⟨property_eq_of_fieldRead hshape hread, hrest⟩
    | none =>
      simp only [dependencyMarks, List.cons_append, List.cons.injEq, true_and] at h
      exact Value.marks_append_inj hc hc' h
  by_cases henv : root = "$env"
  · subst henv
    cases key with
    | some key =>
      simp only [dependencyMarks, List.cons_append, List.cons.injEq, true_and] at h
      simp only [SameShape] at hshape
      simp only [AgreesOn]
      cases hv : c.env.get? key <;> cases hv' : c'.env.get? key <;> simp_all
    | none =>
      simp only [dependencyMarks, List.cons_append, List.cons.injEq, true_and] at h
      exact Value.marks_append_inj (Value.isTold_environment _) (Value.isTold_environment _) h
  by_cases hrun : root = "$runIndex"
  · subst hrun
    simp only [dependencyMarks, List.cons_append, List.cons.injEq, true_and] at h
    exact Value.marks_append_inj (Value.isTold_number _) (Value.isTold_number _) h
  by_cases hindex : root = "$itemIndex"
  · subst hindex
    simp only [dependencyMarks, List.cons_append, List.cons.injEq, true_and] at h
    exact Value.marks_append_inj (Value.isTold_number _) (Value.isTold_number _) h
  have hmarks (x : Context) : x.dependencyMarks ⟨root, key⟩ = [.text root] := by
    unfold dependencyMarks
    split <;> simp_all
  rw [hmarks, hmarks] at h
  refine ⟨?_, (List.cons.inj h).2⟩
  unfold AgreesOn
  split <;> simp_all

/-- The same of all dependencies one after the other. -/
theorem agreesOn_of_flatMap_marks {ds : List Dependency} (hc : c.json.IsTold)
    (hc' : c'.json.IsTold) (hshape : ∀ d ∈ ds, c.SameShape c' d)
    (h : ds.flatMap c.dependencyMarks = ds.flatMap c'.dependencyMarks) :
    ∀ d ∈ ds, c.AgreesOn c' d := by
  induction ds with
  | nil => exact fun d hd => absurd hd List.not_mem_nil
  | cons d ds ih =>
    rw [List.forall_mem_cons] at hshape
    rw [List.flatMap_cons, List.flatMap_cons] at h
    obtain ⟨hd, hrest⟩ := agreesOn_of_marks hc hc' hshape.1 h
    exact List.forall_mem_cons.2 ⟨hd, ih hshape.2 hrest⟩

end Context

/-! ### Expressions with listed dependencies -/

/-- An item with one text. -/
def itemWith (key text : String) : Value := .object [(key, .string text)]

/-- An item with one text more. -/
def itemWithSize (key text : String) : Value :=
  .object [("size", .string "large"), (key, .string text)]

/-- The hosts that read nothing of the context but the clock. -/
def Host.IsClosed : Host → Prop
  | .space _ => True
  | .builtin b => b ≠ .nodeSelector
  | .node _ | .input => False

/-- A use of a name by an expression whose dependencies are all listed is a dependency, and leads to
no other items, unless it is a look at the clock. -/
theorem root_of_complete {e : Expr} (hcomplete : e.analyze.dependenciesComplete = true)
    {name : String} {span : Span} (hname : name.startsWith "$" = true)
    (hclock : name ∉ Dependency.clockRoots)
    (hok : ∀ f ∈ Expr.nameFindings [] false name span, f ∈ e.findings [] false) :
    ⟨name, none⟩ ∈ e.analyze.dependencies ∧ name ∉ Dependency.lineageRoots := by
  have hreading : ∀ f ∈ Finding.reading name none, f ∈ e.findings [] false := by
    intro f hf
    refine hok f ?_
    rw [Expr.nameFindings, hname]
    exact List.mem_cons_of_mem _ hf
  have hcontains : Dependency.clockRoots.contains name = false := by simpa using hclock
  rw [Finding.reading, hcontains] at hreading
  simp only [Bool.false_eq_true, if_false, ite_self] at hreading
  by_cases hlineage : Dependency.lineageRoots.contains name = true
  · rw [if_pos hlineage] at hreading
    have := Expr.isUnlisted_of_complete hcomplete (hreading .unlisted List.mem_cons_self)
    cases this
  · rw [if_neg hlineage] at hreading
    refine ⟨Expr.mem_dependencies (hreading _ List.mem_cons_self), fun hmem => hlineage ?_⟩
    exact List.contains_iff_mem.2 hmem

/-- Contexts with one clock that agree on all dependencies cannot be told apart. -/
theorem shares_of_agreesOn (s : Sandbox) {c c' : Context} (hdata : Value.Guard.data.Admits c.json)
    (hnow : c.now = c'.now) {e : Expr} (hcomplete : e.analyze.dependenciesComplete = true)
    (hagree : ∀ d ∈ e.analyze.dependencies, c.AgreesOn c' d) :
    (s.sameRuns c c').Shares Host.IsClosed (· ∈ e.findings [] false) where
  output _ h := h.elim
  items _ h := h.elim
  paired _ h := h.elim
  input h := h.elim
  current h := h.elim
  selector h := absurd rfl h
  depth _ := ⟨rfl, trivial⟩
  allowsGlobal := rfl
  global name span _ hok := by
    have hroot (hname : name.startsWith "$" = true) (hclock : name ∉ Dependency.clockRoots) :=
      root_of_complete hcomplete hname hclock hok
    have hlineage (hname : name.startsWith "$" = true) (hmem : name ∈ Dependency.lineageRoots) :
        False := by
      refine (hroot hname fun hclock => ?_).2 hmem
      simp only [Dependency.lineageRoots, Dependency.clockRoots, List.mem_cons, List.not_mem_nil,
        or_false] at hmem hclock
      rcases hmem with rfl | rfl | rfl <;> simp at hclock
    have heq : ({ s with context := c } : Sandbox).global? name =
        ({ s with context := c' } : Sandbox).global? name := by
      refine Sandbox.global?_eq ?_ ?_ ?_ (fun _ => hnow) ?_ ?_
      · rintro rfl
        exact hagree _ (hroot startsWith_itemName (by decide)).1
      · rintro rfl
        exact (hlineage (by simp) (by decide)).elim
      · rintro rfl
        exact hagree _ (hroot startsWith_environmentName (by decide)).1
      · rintro rfl
        exact hagree _ (hroot (by simp) (by decide)).1
      · rintro rfl
        exact hagree _ (hroot (by simp) (by decide)).1
    refine heq ▸ Sandbox.paired_global (fun _ => Value.Guard.paired_of_data hdata) ?_ ?_ (fun _ _ => trivial) ?_
    · rintro rfl
      exact (hlineage (by simp) (by decide)).elim
    · rintro rfl
      exact (hlineage (by simp) (by decide)).elim
    · rintro b rfl rfl
      exact hlineage (by simp [Builtin.name]) (by decide)
  json _ key hok := by
    have heq : c.json.property key = c'.json.property key := hagree _ (Expr.mem_dependencies hok)
    exact heq ▸ (Value.Guard.paired_of_data hdata).property key
  env _ key hok := hagree _ (Expr.mem_dependencies hok)
  clock _ _ _ _ _ := hnow
  undefined _ _ _ _ := ⟨rfl, trivial⟩
  computed _ _ _ := ⟨rfl, trivial⟩
  assignment _ _ _ := ⟨rfl, trivial⟩

/-- What is computed for an expression whose dependencies are all listed depends on them and the
clock alone. -/
theorem Engine.compute_eq_of_agreesOn (e : Engine) (o : Occasion) {c c' : Context}
    (hdata : Value.Guard.data.Admits c.json) (hnow : c.now = c'.now) {compiled : Compiled}
    (hanalysis : compiled.analysis = compiled.program.analysis)
    (hcomplete : compiled.analysis.dependenciesComplete = true)
    (hagree : ∀ d ∈ compiled.analysis.dependencies, c.AgreesOn c' d) (segment : Span) :
    e.compute (e.sandbox c o) segment compiled = e.compute (e.sandbox c' o) segment compiled := by
  refine e.compute_congr o (fun hquery => ?_) (fun tree htree m => ?_) segment
  · rw [hanalysis, hquery] at hagree
    exact hagree _ List.mem_cons_self
  · rw [hanalysis, htree] at hcomplete hagree
    have hs := shares_of_agreesOn (e.sandbox c o) hdata hnow hcomplete hagree
    exact Expr.run_value_eq hs (fun _ hf => hf) m

/-- The fingerprint of the dependencies is sound for contexts of the same shape. -/
theorem Engine.compute_eq_of_dependencyFingerprint (e : Engine) (o : Occasion) {c c' : Context}
    (hc : c.json.IsTold) (hc' : c'.json.IsTold) (hnow : c.now = c'.now) {compiled : Compiled}
    (hanalysis : compiled.analysis = compiled.program.analysis)
    (hcomplete : compiled.analysis.dependenciesComplete = true)
    (_hvolatile : compiled.analysis.volatile = false)
    (hshape : ∀ d ∈ compiled.analysis.dependencies, c.SameShape c' d)
    (hmarks : c.dependencyFingerprint compiled.analysis =
      c'.dependencyFingerprint compiled.analysis) (segment : Span) :
    e.compute (e.sandbox c o) segment compiled = e.compute (e.sandbox c' o) segment compiled := by
  rw [Context.dependencyFingerprint, Context.dependencyFingerprint, if_pos hcomplete,
    if_pos hcomplete] at hmarks
  have hagree := Context.agreesOn_of_flatMap_marks hc hc' hshape hmarks
  exact e.compute_eq_of_agreesOn o hc.admits_data hnow hanalysis hcomplete hagree segment

/-! ### Fingerprints of items -/

/-- Fields that an expression does not read do not matter. -/
theorem compute_eq_of_dependencyFingerprint_name : ∃ compiled,
    Compiled.ofText "$json.name" 0 = .ok compiled ∧ ∀ o segment,
      Engine.plain.compute (Engine.plain.sandbox (.atEpoch (itemWith "name" "a")) o) segment
          compiled =
        Engine.plain.compute (Engine.plain.sandbox (.atEpoch (itemWithSize "name" "a")) o) segment
          compiled := by
  obtain ⟨compiled, hc, h⟩ := Compiled.exists_ofText "$json.name"
    (p := fun compiled =>
      compiled.analysis.dependenciesComplete && !compiled.analysis.volatile &&
        compiled.analysis.dependencies == [⟨"$json", some "name"⟩] &&
        (Context.atEpoch (itemWith "name" "a")).dependencyFingerprint compiled.analysis ==
          (Context.atEpoch (itemWithSize "name" "a")).dependencyFingerprint compiled.analysis)
    (by decide +kernel)
  simp only [Bool.and_eq_true, Bool.not_eq_true', beq_iff_eq] at h
  obtain ⟨⟨⟨hcomplete, hvolatile⟩, hdeps⟩, hmarks⟩ := h
  refine ⟨compiled, hc, fun o segment => ?_⟩
  refine Engine.plain.compute_eq_of_dependencyFingerprint o ?_ ?_ ?_
    (Compiled.analysis_of_ofText hc) hcomplete hvolatile ?_ hmarks segment
  · simp [Context.atEpoch, Context.ofItem, itemWith, Value.isTold_object]
  · simp [Context.atEpoch, Context.ofItem, itemWithSize, Value.isTold_object]
  · rfl
  · rw [hdeps]
    exact List.forall_mem_singleton.2 rfl

/-- The length of a text has the fingerprint of a field `length` that holds the text. -/
theorem length_not_told : ∃ compiled, Compiled.ofText "$json.length" 0 = .ok compiled ∧
    compiled.analysis.dependenciesComplete = true ∧ compiled.analysis.volatile = false ∧
      (Context.atEpoch (itemWith "length" "ab")).dependencyFingerprint compiled.analysis =
        (Context.atEpoch (.string "ab")).dependencyFingerprint compiled.analysis ∧
      Engine.firstText? (.atEpoch (itemWith "length" "ab")) compiled ≠
        Engine.firstText? (.atEpoch (.string "ab")) compiled := by
  obtain ⟨compiled, hc, h⟩ := Compiled.exists_ofText "$json.length"
    (p := fun compiled =>
      compiled.analysis.dependenciesComplete && !compiled.analysis.volatile &&
        (Context.atEpoch (itemWith "length" "ab")).dependencyFingerprint compiled.analysis ==
          (Context.atEpoch (.string "ab")).dependencyFingerprint compiled.analysis &&
        Engine.firstText? (.atEpoch (itemWith "length" "ab")) compiled !=
          Engine.firstText? (.atEpoch (.string "ab")) compiled)
    (by decide +kernel)
  simp only [Bool.and_eq_true, Bool.not_eq_true', beq_iff_eq, bne_iff_ne] at h
  exact ⟨compiled, hc, h.1.1.1, h.1.1.2, h.1.2, h.2⟩

/-- The context of no item with one variable of the environment. -/
def Context.withVariable (name text : String) : Context :=
  { Context.atEpoch .null with env := [(name, text)] }

/-- A variable that is missing and one that holds the name of what follows have one fingerprint. -/
theorem missing_variable_not_told : ∃ compiled,
    Compiled.ofText "$env['!'] + $env['$env']" 0 = .ok compiled ∧
      compiled.analysis.dependenciesComplete = true ∧ compiled.analysis.volatile = false ∧
      (Context.withVariable "!" "$env").dependencyFingerprint compiled.analysis =
        (Context.withVariable "$env" "$env").dependencyFingerprint compiled.analysis ∧
      Engine.firstText? (.withVariable "!" "$env") compiled ≠
        Engine.firstText? (.withVariable "$env" "$env") compiled := by
  obtain ⟨compiled, hc, h⟩ := Compiled.exists_ofText "$env['!'] + $env['$env']"
    (p := fun compiled =>
      compiled.analysis.dependenciesComplete && !compiled.analysis.volatile &&
        (Context.withVariable "!" "$env").dependencyFingerprint compiled.analysis ==
          (Context.withVariable "$env" "$env").dependencyFingerprint compiled.analysis &&
        Engine.firstText? (.withVariable "!" "$env") compiled !=
          Engine.firstText? (.withVariable "$env" "$env") compiled)
    (by decide +kernel)
  simp only [Bool.and_eq_true, Bool.not_eq_true', beq_iff_eq, bne_iff_ne] at h
  exact ⟨compiled, hc, h.1.1.1, h.1.1.2, h.1.2, h.2⟩

end TemplateExpr
