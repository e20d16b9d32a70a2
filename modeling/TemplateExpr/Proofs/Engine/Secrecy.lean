import TemplateExpr.Proofs.Engine.Progress

/-!
# What a policy keeps secret

A name that the policy does not allow cannot be used to read the context: an engine without a cache
evaluates every template alike in contexts that differ only in what such names stand for. For the
environment this holds of all templates (`Engine.evaluate_eq_of_env`). The current item can also be
reached without its name, by a path query, and by the input if that has no item at the current
index; without these two, it is kept secret as well (`Engine.evaluate_eq_of_item`).
-/

namespace TemplateExpr

open TemplateExpr.Eval Value
open Value.Pairing (ofFindings)

/-! ### Contexts with the same visible parts -/

namespace Sandbox

variable {s : Sandbox} {c : Context} {host : Host → Prop}

/-- All functions go with themselves, whatever they do. -/
theorem pairs_ofHost (s : Sandbox) (c c' : Context) (host : Host → Prop) :
    (Guard.ofHost host).Pairs (ofFindings (s.sameRuns c c') host fun _ => True) where
  host _ h := h
  function params body names _ := by
    refine ⟨⟨rfl, rfl, Expr.placed_true body⟩, [names], fun name => ?_,
      fun _ _ => trivial⟩
    simp [Expr.Scopes.binds]

/-- An item and an environment that cannot be seen make no difference. The item can be seen by its
name, and by the input if that has no item at the current index. -/
theorem shares_of_hidden {item : Value} {env : Environment}
    (hitem : s.policy.allowsGlobal itemName = true ∨ host .input ∧ c.input.length ≤ c.itemIndex →
      c.json = item ∧ (Guard.ofHost host).Admits c.json)
    (henv : s.policy.allowsGlobal environmentName = true → c.env = env)
    (hinput : s.policy.allowsGlobal "$input" = true → host .input)
    (hothers : ∀ h, h ≠ .input → host h)
    (hnodes : ∀ node ∈ c.nodes, (Guard.ofHost host).Admits node.2)
    (hitems : ∀ v ∈ c.input, (Guard.ofHost host).Admits v) :
    (s.sameRuns c { c with json := item, env := env }).Shares host fun _ => True := by
  let c' : Context := { c with json := item, env := env }
  let p := ofFindings (s.sameRuns c c') host fun _ => True
  have hpairs : (Guard.ofHost host).Pairs p := pairs_ofHost s c c' host
  -- what is read of the nodes and of the input does not depend on the item
  have hpaired : ({ c with json := .null } : Context).IsPaired p :=
    { json := .null
      nodes := .refl fun node hn => Guard.paired_of_admits hpairs (hnodes node hn)
      input := List.forall₂_same.2 fun v hv => Guard.paired_of_admits hpairs (hitems v hv) }
  have hcurrent (hin : host .input) : Paired p c.currentInput c'.currentInput := by
    unfold Context.currentInput
    by_cases hlt : c.itemIndex < c.input.length
    · have hv := Paired.getElem? hpaired.input c.itemIndex
      rw [List.getElem?_eq_getElem hlt] at hv ⊢
      cases hv with
      | some hv => exact hv
    · obtain ⟨rfl, hadmits⟩ := hitem (.inr ⟨hin, not_lt.1 hlt⟩)
      rw [List.getElem?_eq_none (not_lt.1 hlt)]
      exact Guard.paired_of_admits hpairs hadmits
  have hglobal (name : String) (hname : s.policy.allowsGlobal name = true) :
      Option.Rel (Paired p) (({ s with context := c } : Sandbox).global? name)
        (({ s with context := c' } : Sandbox).global? name) := by
    have heq : ({ s with context := c } : Sandbox).global? name =
        ({ s with context := c' } : Sandbox).global? name := by
      refine Sandbox.global?_eq ?_ (fun _ => rfl) ?_ (fun _ => rfl) (fun _ => rfl) (fun _ => rfl)
      · rintro rfl
        exact (hitem (.inl hname)).1
      · rintro rfl
        rw [henv hname]
    refine heq ▸ Sandbox.paired_global ?_ (fun _ => hpaired.nodes) ?_ (fun ns _ => ?_) fun b _ => ?_
    · rintro rfl
      exact Guard.paired_of_admits hpairs (hitem (.inl hname)).2
    · rintro rfl
      exact hinput hname
    · exact hothers _ (by simp)
    · exact hothers _ (by simp)
  exact
    { output := fun node _ => hpaired.ends_output node
      items := fun node _ => hpaired.ends_nodeItems node
      paired := fun node _ index => hpaired.ends_pairedItem node index
      input := fun _ => hpaired.input
      current := hcurrent
      selector := fun _ _ => hothers _ (by simp)
      depth := fun _ => ⟨rfl, trivial⟩
      allowsGlobal := rfl
      global := fun name _ hname _ => hglobal name hname
      json := fun hname key _ => by
        obtain ⟨rfl, hadmits⟩ := hitem (.inl hname)
        exact (Guard.paired_of_admits hpairs hadmits).property key
      env := fun hname key _ => congrArg (Environment.get? · key) (henv hname)
      clock := fun _ _ _ _ _ => rfl
      undefined := fun _ _ _ _ => ⟨rfl, trivial⟩
      computed := fun _ _ _ => ⟨rfl, trivial⟩
      assignment := fun _ _ _ => ⟨rfl, trivial⟩ }

end Sandbox

/-! ### Evaluations that compute the same -/

namespace Engine

section

variable (e : Engine) (hcache : e.cache? = none) (o : Occasion) {c c' : Context}

include hcache

/-- Without a cache, an expression is resolved to what is computed for it. -/
theorem resolve_congr (segment : Span) {source : String} {offset : Nat}
    (h : ∀ compiled, Compiled.ofText source offset = .ok compiled →
      e.compute (e.sandbox c o) segment compiled = e.compute (e.sandbox c' o) segment compiled) :
    e.resolve o (e.sandbox c o) segment source offset =
      e.resolve o (e.sandbox c' o) segment source offset := by
  have hkey (context : Context) (compiled : Compiled) : e.cacheKey? context compiled = none := by
    rw [cacheKey?, hcache]
    rfl
  have hinterrupts : runEval (e.sandbox c o) segment offset checkInterrupts =
      runEval (e.sandbox c' o) segment offset checkInterrupts := by
    refine runEval_congr (fun m => ?_) segment offset
    rw [run_checkInterrupts, run_checkInterrupts]
    rfl
  unfold resolve
  rw [hinterrupts]
  cases hcompiled : Compiled.ofText source offset with
  | error error => rfl
  | ok compiled => simp only [hkey, h compiled hcompiled]

/-- The same computations for the expressions of segments lead to the same text. -/
theorem textOf_congr {segments : List Segment} (acc : List String)
    (h : ∀ segment ∈ segments, ∀ expression ∈ segment.expression?, ∀ compiled,
      Compiled.ofText expression.1 expression.2 = .ok compiled → ∀ span,
        e.compute (e.sandbox c o) span compiled = e.compute (e.sandbox c' o) span compiled) :
    e.textOf o (e.sandbox c o) acc segments = e.textOf o (e.sandbox c' o) acc segments := by
  induction segments generalizing acc with
  | nil => rfl
  | cons segment segments ih =>
    obtain ⟨hsegment, hrest⟩ := List.forall_mem_cons.1 h
    cases segment with
    | literal span text => exact ih (text :: acc) hrest
    | resolvable span source =>
      have hresolve := e.resolve_congr hcache o span fun compiled hcompiled =>
        hsegment _ rfl compiled hcompiled span
      have hreserve (n : Nat) : runEval (e.sandbox c o) span 0 (reserve n) =
          runEval (e.sandbox c' o) span 0 (reserve n) :=
        runEval_congr (fun m => by rw [run_reserve, run_reserve]; rfl) span 0
      rw [textOf, textOf, hresolve]
      simp only [hreserve, fun acc => ih acc hrest]

/-- Without a cache, a template is evaluated to what is computed for its expressions. -/
theorem evaluate_congr {source : String}
    (h : ∀ t, Template.parse source = .ok t → ∀ segment ∈ t.segments,
      ∀ expression ∈ segment.expression?, ∀ compiled,
        Compiled.ofText expression.1 expression.2 = .ok compiled → ∀ span,
          e.compute (e.sandbox c o) span compiled = e.compute (e.sandbox c' o) span compiled) :
    e.evaluate source c o = e.evaluate source c' o := by
  unfold evaluate
  cases hparse : Template.parse source with
  | error error => rfl
  | ok t =>
    have ht := h t hparse
    have hvalue : e.valueOf o (e.sandbox c o) t = e.valueOf o (e.sandbox c' o) t := by
      rcases valueOf_cases t with ⟨span, text, hmem, hvalue⟩ | hvalue
      · rw [hvalue, hvalue, e.resolve_congr hcache o span fun compiled hcompiled =>
          ht _ hmem _ rfl compiled hcompiled span]
      · rw [hvalue, hvalue, e.textOf_congr hcache o [] ht]
    dsimp only
    unfold evaluateTemplate
    rw [hvalue]

end

end Engine

/-! ### Queries -/

/-- No expression of a template is a path query. -/
def Template.IsQueryFree (t : Template) : Prop :=
  ∀ segment ∈ t.segments, ∀ expression ∈ segment.expression?,
    Route.ofText expression.1.toList = .evaluator

instance (t : Template) : Decidable t.IsQueryFree :=
  inferInstanceAs (Decidable (∀ segment ∈ t.segments, ∀ expression ∈ segment.expression?,
    Route.ofText expression.1.toList = .evaluator))

namespace Engine

/-- An engine answers path queries, and an expression of the template is one. -/
def MayQuery (e : Engine) (source : String) : Prop :=
  e.config.libraryEnabled EngineConfig.queryLibrary = true ∧
    ∃ t, Template.parse source = .ok t ∧ ¬ t.IsQueryFree

instance (e : Engine) (source : String) : Decidable (e.MayQuery source) :=
  match h : Template.parse source with
  | .ok t => decidable_of_iff
    (e.config.libraryEnabled EngineConfig.queryLibrary = true ∧ ¬ t.IsQueryFree)
    ⟨fun ht => ⟨ht.1, t, h, ht.2⟩, fun ⟨hlibrary, _, ht, hquery⟩ =>
      ⟨hlibrary, Except.ok.inj (h.symm.trans ht) ▸ hquery⟩⟩
  | .error _ => isFalse fun ⟨_, _, ht, _⟩ => nomatch h.symm.trans ht

/-- Without a cache, a template is evaluated alike in two contexts if its queries find the same item
and its trees read contexts that cannot be told apart. -/
theorem evaluate_eq_of_shares (e : Engine) (hcache : e.cache? = none) (o : Occasion)
    {c c' : Context} {source : String} (host : Host → Prop)
    (hquery : e.MayQuery source → c.json = c'.json)
    (hs : ((e.sandbox c o).sameRuns c c').Shares host fun _ => True) :
    e.evaluate source c o = e.evaluate source c' o := by
  refine e.evaluate_congr hcache o ?_
  intro t ht segment hsegment expression hexpression compiled hcompiled span
  have htree (tree : Expr) (m : Meter) :
      tree.value.run (e.sandbox c o) m = tree.value.run (e.sandbox c' o) m :=
    Expr.run_value_eq hs (fun _ _ => trivial) m
  cases hlibrary : e.config.libraryEnabled EngineConfig.queryLibrary with
  | false =>
    -- a query is refused in both contexts
    unfold compute
    cases compiled.program with
    | query => simp only [hlibrary, Bool.false_eq_true, if_false]
    | expr tree => exact runEval_congr (htree tree) span compiled.offset
  | true =>
    refine e.compute_congr o (fun hprogram => hquery ⟨hlibrary, t, ht, fun hfree => ?_⟩)
      (fun tree _ => htree tree) span
    have hroute := hfree segment hsegment expression hexpression
    obtain ⟨-, tree, -, htree⟩ := Compiled.exists_tree hroute hcompiled
    cases hprogram.symm.trans htree

/-! ### The environment -/

/-- If the policy does not allow the name of the environment, no template depends on a variable of
it, in its value or in its error and the place of that. -/
theorem evaluate_eq_of_env (e : Engine) (hcache : e.cache? = none)
    (henv : environmentName ∉ e.policy.config.allowedGlobals) (source : String) (c : Context)
    (env : Environment) (o : Occasion) :
    e.evaluate source c o = e.evaluate source { c with env := env } o := by
  have hhidden : e.policy.allowsGlobal environmentName = false := by
    simpa [Policy.allowsGlobal] using henv
  have hadmits : ∀ v, (Guard.ofHost fun _ => True).Admits v := Guard.admits_ofHost fun _ => trivial
  refine e.evaluate_eq_of_shares hcache o (fun _ => True) (fun _ => rfl) ?_
  refine Sandbox.shares_of_hidden (fun _ => ⟨rfl, hadmits c.json⟩) (fun hallowed => ?_)
    (fun _ => trivial) (fun _ _ => trivial) (fun _ _ => hadmits _) fun _ _ => hadmits _
  exact absurd (hhidden.symm.trans hallowed) Bool.false_ne_true

/-- An engine without a cache that allows some names only. -/
def allowing (names : List String) : Engine :=
  ⟨.standard, ⟨{ SecurityConfig.standard with allowedGlobals := names }, []⟩, none⟩

end Engine

/-- A variable is not told by a computed key, although it would be if its name were allowed. -/
theorem evaluate_eq_of_env_computed :
    (Engine.allowing ["$json"]).evaluate "\x7b\x7b (x => $env[x])($json) \x7d\x7d"
        (.atEpoch (.string "KEY")) .atOnce =
      (Engine.allowing ["$json"]).evaluate "\x7b\x7b (x => $env[x])($json) \x7d\x7d"
        { Context.atEpoch (.string "KEY") with env := [("KEY", "secret")] } .atOnce ∧
      ((Engine.allowing ["$json", "$env"]).evaluate "\x7b\x7b (x => $env[x])($json) \x7d\x7d"
        { Context.atEpoch (.string "KEY") with env := [("KEY", "secret")] } .atOnce).1.text? =
          some "secret" := by
  have henv : environmentName ∉ (Engine.allowing ["$json"]).policy.config.allowedGlobals := by
    decide
  exact ⟨Engine.evaluate_eq_of_env _ rfl henv _ _ _ _, by decide +kernel⟩

/-! ### The current item -/

namespace Context

/-- Nothing in the values of the nodes and of the input leads to the input. -/
structure AvoidsInput (c : Context) : Prop where
  nodes : ∀ node ∈ c.nodes, (Guard.ofHost (· ≠ .input)).Admits node.2
  input : ∀ v ∈ c.input, (Guard.ofHost (· ≠ .input)).Admits v

end Context

namespace Engine

/-- If the policy does not allow the name of the current item, no template depends on the item
unless it queries it or the input, which has no item at the current index, leads to it. -/
theorem evaluate_eq_of_item (e : Engine) (hcache : e.cache? = none)
    (hjson : itemName ∉ e.policy.config.allowedGlobals) {source : String}
    (hquery : ¬ e.MayQuery source) {c : Context}
    (hinput : c.itemIndex < c.input.length ∨
      "$input" ∉ e.policy.config.allowedGlobals ∧ c.AvoidsInput)
    (item : Value) (o : Occasion) :
    e.evaluate source c o = e.evaluate source { c with json := item } o := by
  have hhidden : e.policy.allowsGlobal itemName = false := by
    simpa [Policy.allowsGlobal] using hjson
  have hnamed : ¬ e.policy.allowsGlobal itemName = true := Bool.eq_false_iff.1 hhidden
  rcases hinput with hlt | ⟨hinput, havoids⟩
  · have hadmits : ∀ v, (Guard.ofHost fun _ => True).Admits v :=
      Guard.admits_ofHost fun _ => trivial
    refine e.evaluate_eq_of_shares hcache o (fun _ => True) (fun h => absurd h hquery) ?_
    refine Sandbox.shares_of_hidden (fun hseen => ?_) (fun _ => rfl) (fun _ => trivial)
      (fun _ _ => trivial) (fun _ _ => hadmits _) fun _ _ => hadmits _
    rcases hseen with hallowed | ⟨-, hle⟩
    · exact absurd hallowed hnamed
    · exact absurd hlt (not_lt.2 hle)
  · have hunseen : ¬ e.policy.allowsGlobal "$input" = true := by
      simpa [Policy.allowsGlobal] using hinput
    refine e.evaluate_eq_of_shares hcache o (· ≠ .input) (fun h => absurd h hquery) ?_
    refine Sandbox.shares_of_hidden (fun hseen => ?_) (fun _ => rfl)
      (fun hallowed => absurd hallowed hunseen) (fun _ h => h) havoids.nodes havoids.input
    rcases hseen with hallowed | ⟨hhost, -⟩
    · exact absurd hallowed hnamed
    · exact absurd rfl hhost

end Engine

/-- The item of the input is not the current one if there is one at the current index. -/
theorem evaluate_eq_of_item_index :
    (Engine.allowing ["$input"]).evaluate "\x7b\x7b $input.item.json \x7d\x7d"
        (.atEpoch (.string "a")) .atOnce =
      (Engine.allowing ["$input"]).evaluate "\x7b\x7b $input.item.json \x7d\x7d"
        { Context.atEpoch (.string "a") with json := .string "b" } .atOnce := by
  have hjson : itemName ∉ (Engine.allowing ["$input"]).policy.config.allowedGlobals := by decide
  refine Engine.evaluate_eq_of_item _ rfl hjson (by decide +kernel) (.inl ?_) _ _
  exact Nat.zero_lt_one

/-- The current item is not kept secret from path queries, which the policy does not concern, nor
from the input, which takes it for the item that is missing at the current index. -/
theorem hidden_item_told :
    itemName ∉ (Engine.allowing ["$input"]).policy.config.allowedGlobals ∧
      (Engine.allowing ["$input"]).cache? = none ∧
      ((Engine.allowing ["$input"]).evaluate "\x7b\x7b $.a \x7d\x7d"
          (.atEpoch (.object [("a", .string "1")])) .atOnce).1.text? ≠
        ((Engine.allowing ["$input"]).evaluate "\x7b\x7b $.a \x7d\x7d"
          { Context.atEpoch (.object [("a", .string "1")]) with
            json := .object [("a", .string "2")] } .atOnce).1.text? ∧
      ((Engine.allowing ["$input"]).evaluate "\x7b\x7b $input.item.json \x7d\x7d"
          { Context.atEpoch (.string "1") with input := [] } .atOnce).1.text? ≠
        ((Engine.allowing ["$input"]).evaluate "\x7b\x7b $input.item.json \x7d\x7d"
          { Context.atEpoch (.string "1") with input := [], json := .string "2" } .atOnce).1.text? := by
  refine ⟨by decide, rfl, ?_, ?_⟩ <;> decide +kernel

end TemplateExpr
