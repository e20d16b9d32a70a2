import TemplateExpr.Proofs.Engine.Compute

/-!
# Expressions and the clock

An expression that is not volatile has the same value at all times if it calls no method `now` or
`local`, or if it does not use the name `DateTime`. The analysis knows the namespace only by this
name: under another one, as an item of an array or as an argument of a function, it still tells the
time.
-/

namespace TemplateExpr

open TemplateExpr.Eval

/-- Findings of expressions that do not tell the time. The namespace `DateTime` is among the hosts
they come across only if none of its functions that tell the time is called. -/
structure Timeless (host : Host → Prop) (ok : Finding → Prop) : Prop where
  clock : ∀ f, ok f → f.isClock = false
  hosts : ∀ h, h ≠ .space .dateTime → host h
  named : ∀ span, ok (.freeName "DateTime" span) → host (.space .dateTime)
  called : host (.space .dateTime) → ∀ name span, ok (.method name span) →
    name ∉ Namespace.clockMethods

/-- Two contexts that differ in the time only cannot be told apart. -/
theorem Timeless.shares {host : Host → Prop} {ok : Finding → Prop} (ht : Timeless host ok)
    (s : Sandbox) {c : Context} (hdata : c.IsData) (now : DateTime) :
    (s.sameRuns c { c with now := now }).Shares host ok where
  output node _ := hdata.isPaired.ends_output node
  items node _ := hdata.isPaired.ends_nodeItems node
  paired node _ index := hdata.isPaired.ends_pairedItem node index
  input _ := hdata.isPaired.input
  current _ := hdata.isPaired.paired_currentInput
  selector _ _ := ht.hosts _ (by simp)
  depth _ := ⟨rfl, trivial⟩
  allowsGlobal := rfl
  global name span _ hok := by
    have heq : ({ s with context := c } : Sandbox).global? name =
        ({ s with context := { c with now := now } } : Sandbox).global? name := by
      refine Sandbox.global?_eq (fun _ => rfl) (fun _ => rfl) (fun _ => rfl) (fun hclock => ?_)
        (fun _ => rfl) (fun _ => rfl)
      have hmem : .clock ∈ Expr.nameFindings [] false name span := by
        rcases List.mem_cons.1 hclock with rfl | hclock
        · simp [Expr.nameFindings, Expr.Scopes.binds, Finding.reading, Dependency.clockRoots]
        · obtain rfl := List.mem_singleton.1 hclock
          simp [Expr.nameFindings, Expr.Scopes.binds, Finding.reading, Dependency.clockRoots]
      exact absurd (ht.clock _ (hok _ hmem)) Bool.true_eq_false.mp
    refine heq ▸ Sandbox.paired_global (fun _ => hdata.isPaired.json) (fun _ => hdata.isPaired.nodes)
      (fun _ => ht.hosts _ (by simp)) (fun ns hns => ?_) (fun b _ => ht.hosts _ (by simp))
    by_cases hdate : ns = .dateTime
    · subst hdate
      obtain rfl := ofName?_eq_some hns
      exact ht.named span (hok _ List.mem_cons_self)
    · exact ht.hosts _ (by simpa using hdate)
  json _ key _ := hdata.isPaired.json.property key
  env _ _ _ := rfl
  clock hdate name span hok hmem := absurd hmem (ht.called hdate name span hok)
  undefined _ _ _ _ := ⟨rfl, trivial⟩
  computed _ _ _ := ⟨rfl, trivial⟩
  assignment _ _ _ := ⟨rfl, trivial⟩

/-- The findings of an expression that is not volatile and calls no function that tells the time. -/
theorem timeless_of_calls {e : Expr} (hvolatile : e.analyze.volatile = false)
    (hcalls : ∀ m ∈ e.analyze.methodCalls, m.value ∉ Namespace.clockMethods) :
    Timeless (fun _ => True) (· ∈ e.findings [] false) where
  clock _ hf := Expr.isClock_of_not_volatile hvolatile hf
  hosts _ _ := trivial
  named _ _ := trivial
  called _ _ _ hf := hcalls _ (Expr.mem_methodCalls hf)

/-- The findings of an expression that is not volatile and does not use the name `DateTime`. -/
theorem timeless_of_names {e : Expr} (hvolatile : e.analyze.volatile = false)
    (hnames : ∀ n ∈ e.analyze.freeNames, n.value ≠ "DateTime") :
    Timeless (· ≠ .space .dateTime) (· ∈ e.findings [] false) where
  clock _ hf := Expr.isClock_of_not_volatile hvolatile hf
  hosts _ h := h
  named _ hf := absurd rfl (hnames _ (Expr.mem_freeNames hf))
  called h := absurd rfl h

/-- What is computed for an expression that is not volatile does not depend on the time, if the
expression calls no method `now` or `local` or does not use the name `DateTime`. -/
theorem Engine.compute_eq_of_timeless (e : Engine) (o : Occasion) {c : Context} (hdata : c.IsData)
    (now : DateTime) {compiled : Compiled} (hanalysis : compiled.analysis = compiled.program.analysis)
    (hvolatile : compiled.analysis.volatile = false)
    (hclock : (∀ m ∈ compiled.analysis.methodCalls, m.value ∉ Namespace.clockMethods) ∨
      ∀ n ∈ compiled.analysis.freeNames, n.value ≠ "DateTime") (segment : Span) :
    e.compute (e.sandbox c o) segment compiled =
      e.compute (e.sandbox { c with now := now } o) segment compiled := by
  refine e.compute_congr o ?_ ?_ segment
  · exact fun _ => rfl
  intro tree htree m
  rw [hanalysis, htree, Program.analysis] at hvolatile hclock
  rcases hclock with hcalls | hnames
  · have hs := (timeless_of_calls hvolatile hcalls).shares (e.sandbox c o) hdata now
    exact Expr.run_value_eq hs (fun _ hf => hf) m
  · have hs := (timeless_of_names hvolatile hnames).shares (e.sandbox c o) hdata now
    exact Expr.run_value_eq hs (fun _ hf => hf) m

/-- The namespace may be passed around as long as it is not asked for the time. -/
theorem compute_eq_of_timeless_fromSeconds : ∃ compiled,
    Compiled.ofText "(d => [d][0].fromSeconds(60))(DateTime)" 0 = .ok compiled ∧
      ∀ o now now' segment,
        Engine.plain.compute (Engine.plain.sandbox (.ofItem (.object []) now) o) segment compiled =
          Engine.plain.compute (Engine.plain.sandbox (.ofItem (.object []) now') o) segment
            compiled := by
  obtain ⟨compiled, hc, h⟩ := Compiled.exists_ofText "(d => [d][0].fromSeconds(60))(DateTime)"
    (p := fun c => !c.analysis.volatile &&
      c.analysis.methodCalls.all fun m => !Namespace.clockMethods.contains m.value)
    (by decide +kernel)
  rw [Bool.and_eq_true, Bool.not_eq_true', List.all_eq_true] at h
  refine ⟨compiled, hc, fun o now now' segment => ?_⟩
  refine Engine.compute_eq_of_timeless Engine.plain o (isData_empty now) now'
    (Compiled.analysis_of_ofText hc) h.1 (.inl fun m hm => ?_) segment
  simpa using h.2 m hm

/-- An expression that is not volatile may tell the time: as an item of an array, the namespace has
another name than the one that the analysis looks for. -/
theorem not_volatile_tells_time : ∃ compiled,
    Compiled.ofText "[DateTime][0].now()" 0 = .ok compiled ∧ compiled.analysis.volatile = false ∧
      Engine.firstText? (.ofItem (.object []) ⟨0, 0, 0⟩) compiled ≠
        Engine.firstText? (.ofItem (.object []) ⟨1, 0, 0⟩) compiled := by
  obtain ⟨compiled, hc, h⟩ := Compiled.exists_ofText "[DateTime][0].now()"
    (p := fun c => !c.analysis.volatile &&
      Engine.firstText? (.ofItem (.object []) ⟨0, 0, 0⟩) c !=
        Engine.firstText? (.ofItem (.object []) ⟨1, 0, 0⟩) c)
    (by decide +kernel)
  rw [Bool.and_eq_true, Bool.not_eq_true', bne_iff_ne] at h
  exact ⟨compiled, hc, h.1, h.2⟩

end TemplateExpr
