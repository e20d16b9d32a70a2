import TemplateExpr.Proofs.Engine.Blocked

/-!
# Limits and values

The limits of an engine decide whether a template has a value, and never which one. Whatever has
been used so far, an expression that has a value has the same one where no more has been used
(`Engine.Eases.resolve`), and so have the text of a template and its value. If a configuration is
accepted, so is the one with higher limits, and everything that has a value under the first one has
it under the second one too (`Engine.evaluate_eq_of_limits`). Two configurations that only differ in
their limits never give different values: both give what the one with the higher ones of these
limits gives.
-/

namespace TemplateExpr

open TemplateExpr.Eval TemplateExpr.Text

/-! ### What has been used -/

/-- No more memory has been used at `m'` than at `m`, and no more steps have been made if the clock
can run out. -/
structure Sandbox.Ahead (s : Sandbox) (m m' : Meter) : Prop where
  memory : m'.used ≤ m.used
  time : s.IsCalm ∨ m'.steps ≤ m.steps

namespace Sandbox

variable {s s' : Sandbox} {m m' : Meter}

/-- When nothing has been used yet. -/
theorem ahead_zero (s : Sandbox) (m : Meter) : s.Ahead m .zero where
  memory := by simp [Meter.used, Meter.zero]
  time := .inr (Nat.zero_le _)

theorem Ahead.leads (h : s'.Ahead m m') (hgoes : s.GoesOn m.steps) : s.Leads s' m m' :=
  ⟨h.memory, h.time.imp_right fun hsteps => ⟨hsteps, hgoes.onTime⟩⟩

theorem Leads.ahead (h : s.Leads s' m m') : s'.Ahead m m' := ⟨h.memory, h.time.imp_right And.left⟩

end Sandbox

/-- What can be compiled can be compiled at another place, to the same program. -/
theorem Compiled.exists_ofText_at {source : String} {offset : Nat} {compiled : Compiled}
    (h : ofText source offset = .ok compiled) (offset' : Nat) :
    ∃ compiled', ofText source offset' = .ok compiled' ∧ compiled'.source = compiled.source ∧
      compiled'.program = compiled.program := by
  unfold ofText at h ⊢
  split at h
  · obtain rfl := Except.ok.inj h
    exact ⟨_, rfl, rfl, rfl⟩
  · split at h
    · cases h
    · obtain rfl := Except.ok.inj h
      exact ⟨_, rfl, rfl, rfl⟩

namespace Engine

/-! ### Expressions without a cache -/

/-- The ways in which a program of the text `source` has a value, wherever it stands. -/
inductive Computes (e : Engine) (s : Sandbox) (source : String) (p : Progress) :
    Program → Value → Progress → Prop
  | query {v : Value} : e.config.libraryEnabled EngineConfig.queryLibrary = true →
    s.context.json.query (trimString source) = .ok v → Computes e s source p .query v p
  | expr {tree : Expr} {v : Value} {m : Meter} : tree.value.run s p.meter = (.ok v, m) →
    Computes e s source p (.expr tree) v { p with meter := m }

section

variable {e : Engine} {o : Occasion} {s : Sandbox} {segment : Span} {source : String} {offset : Nat}
  {p q : Progress} {compiled : Compiled} {v : Value}

theorem run_compute_eq_ok_iff :
    (e.compute s segment compiled).run.run p = (.ok v, q) ↔
      e.Computes s compiled.source p compiled.program v q := by
  obtain ⟨source, offset, program, analysis⟩ := compiled
  unfold compute
  constructor
  · intro hrun
    cases program with
    | query =>
      dsimp only at hrun ⊢
      split_ifs at hrun with hon
      · split at hrun
        · next hquery =>
          obtain ⟨⟨⟩, rfl⟩ := Prod.mk.inj hrun
          exact .query hon hquery
        · cases hrun
      · cases hrun
    | expr tree =>
      dsimp only at hrun ⊢
      rw [run_runEval] at hrun
      split at hrun
      · next hvalue =>
        obtain ⟨⟨⟩, rfl⟩ := Prod.mk.inj hrun
        exact .expr hvalue
      · cases hrun
  · rintro (⟨hon, hquery⟩ | hvalue)
    · dsimp only
      rw [if_pos hon, hquery]
      rfl
    · dsimp only
      rw [run_runEval, hvalue]

variable (huncached : e.cache? = none)

include huncached

theorem cacheKey?_of_uncached (c : Context) (compiled : Compiled) :
    e.cacheKey? c compiled = none := by
  rw [cacheKey?, huncached]
  rfl

/-- Without a cache, an expression has a value if it is admitted and computed. -/
theorem run_resolve_eq_ok_iff :
    (e.resolve o s segment source offset).run.run p = (.ok v, q) ↔
      ∃ compiled, e.Admits s source offset p compiled ∧
        e.Computes s compiled.source p compiled.program v q := by
  constructor
  · intro hrun
    have hcases := e.resolves o s segment source offset p
    rw [hrun] at hcases
    cases hcases with
    | found _ hkey =>
      -- results are only found under keys, and there are none without a cache
      cases (cacheKey?_of_uncached huncached _ _).symm.trans hkey
    | @computed compiled v q hadmits hcompute =>
      rw [cacheKey?_of_uncached huncached] at hcompute ⊢
      exact ⟨compiled, hadmits, run_compute_eq_ok_iff.1 hcompute⟩
  · rintro ⟨compiled, hadmits, hcomputes⟩
    rw [resolve, hadmits.allowed]
    dsimp only
    rw [run_bind, run_runEval, hadmits.proceeds]
    dsimp only
    rw [hadmits.compiles]
    dsimp only
    rw [cacheKey?_of_uncached huncached]
    change (e.compute s segment compiled >>= fun v => keep o none v >>= fun _ => pure v).run.run p =
      (.ok v, q)
    rw [run_bind, run_compute_eq_ok_iff.2 hcomputes]
    rfl

end

/-! ### Engines with other limits -/

/-- The engine `e'` blocks and computes the same as `e` for a context, and its evaluations on the
occasion `o'` are held to no stricter limits than those of `e` on the occasion `o`. Neither of them
has a cache. -/
structure Eases (e e' : Engine) (c : Context) (o o' : Occasion) : Prop where
  uncached : e.cache? = none
  uncached_right : e'.cache? = none
  rules : e'.policy.rules = e.policy.rules
  libraries : e'.config.libraries = e.config.libraries
  format : e'.config.output.format = e.config.output.format
  sandbox : (e.sandbox c o).Eases (e'.sandbox c o')

namespace Eases

variable {e e' : Engine} {c : Context} {o o' : Occasion} (h : e.Eases e' c o o') {p p' q : Progress}

include h

theorem findBlocked?_eq (text : String) :
    e'.policy.findBlocked? text = e.policy.findBlocked? text := by
  rw [Policy.findBlocked?, h.rules]
  rfl

/-- What is computed is computed where no more has been used. -/
theorem computes (hm : (e'.sandbox c o').Ahead p.meter p'.meter)
    (hgoes : (e.sandbox c o).GoesOn p.meter.steps) {source : String} {program : Program} {v : Value}
    (hcomputes : e.Computes (e.sandbox c o) source p program v q) :
    ∃ q', e'.Computes (e'.sandbox c o') source p' program v q' ∧
      (e'.sandbox c o').Ahead q.meter q'.meter := by
  cases hcomputes with
  | query hon hquery =>
    refine ⟨p', .query ?_ hquery, hm⟩
    rw [EngineConfig.libraryEnabled, h.libraries]
    exact hon
  | expr hvalue =>
    obtain ⟨m', hvalue', hleads⟩ := Expr.exists_value_of_eases h.sandbox (hm.leads hgoes) hvalue
    exact ⟨_, .expr hvalue', hleads.ahead⟩

/-- An expression that has a value has the same one where no more has been used, and wherever it
stands. -/
theorem resolve (hm : (e'.sandbox c o').Ahead p.meter p'.meter) {segment : Span} (segment' : Span)
    {source : String} {offset : Nat} (offset' : Nat) {v : Value}
    (hrun : (e.resolve o (e.sandbox c o) segment source offset).run.run p = (.ok v, q)) :
    ∃ q', (e'.resolve o' (e'.sandbox c o') segment' source offset').run.run p' = (.ok v, q') ∧
      (e'.sandbox c o').Ahead q.meter q'.meter := by
  obtain ⟨compiled, hadmits, hcomputes⟩ := (run_resolve_eq_ok_iff h.uncached).1 hrun
  obtain ⟨hgoes, -⟩ := Sandbox.goesOn_of_checkInterrupts hadmits.proceeds
  obtain ⟨q', hcomputes', hq⟩ := h.computes hm hgoes hcomputes
  obtain ⟨compiled', hcompiles', hsource, hprogram⟩ :=
    Compiled.exists_ofText_at hadmits.compiles offset'
  have hadmits' : e'.Admits (e'.sandbox c o') source offset' p' compiled' := by
    refine ⟨?_, ?_, hcompiles'⟩
    · rw [h.findBlocked?_eq]
      exact hadmits.allowed
    · exact (Thrifty.goesOn h.sandbox (hm.leads hgoes) id hgoes).run_checkInterrupts
  rw [← hsource, ← hprogram] at hcomputes'
  exact ⟨q', (run_resolve_eq_ok_iff h.uncached_right).2 ⟨compiled', hadmits', hcomputes'⟩, hq⟩

/-- A text that is put together is put together where no more has been used. -/
theorem textOf {segments : List Segment} {acc : List String}
    (hm : (e'.sandbox c o').Ahead p.meter p'.meter) {text : String}
    (hrun : (e.textOf o (e.sandbox c o) acc segments).run.run p = (.ok (.ok text), q)) :
    ∃ q', (e'.textOf o' (e'.sandbox c o') acc segments).run.run p' = (.ok (.ok text), q') := by
  induction segments generalizing acc p p' with
  | nil =>
    obtain ⟨⟨⟨rfl⟩⟩, -⟩ := Prod.mk.inj hrun
    exact ⟨p', rfl⟩
  | cons segment segments ih =>
    cases segment with
    | literal span text => exact ih hm hrun
    | resolvable span source =>
      obtain ⟨v, q₁, m, hresolve, hreserve, hrun⟩ := run_textOf_resolvable_eq_ok_iff.1 hrun
      obtain ⟨q₁', hresolve', hq₁⟩ := h.resolve hm span (span.start + delimiterSize) hresolve
      -- the lead that is left behind the value covers the memory for its text
      obtain ⟨rfl, hreserve', hused⟩ := run_reserve_of_le h.sandbox.memory hq₁.memory hreserve
      let reserved : Progress := { q₁' with meter := q₁'.meter.charge v.templateText.utf8ByteSize }
      have hahead : (e'.sandbox c o').Ahead (q₁.meter.charge v.templateText.utf8ByteSize)
          reserved.meter := ⟨hused, hq₁.time⟩
      obtain ⟨q', hrun'⟩ := ih hahead hrun
      exact ⟨q', run_textOf_resolvable_eq_ok_iff.2 ⟨v, q₁', _, hresolve', hreserve', hrun'⟩⟩

theorem valueOf {t : Template} (hm : (e'.sandbox c o').Ahead p.meter p'.meter) {v : Value}
    (hrun : (e.valueOf o (e.sandbox c o) t).run.run p = (.ok (.ok v), q)) :
    ∃ q', (e'.valueOf o' (e'.sandbox c o') t).run.run p' = (.ok (.ok v), q') := by
  cases hsingle : t.singleExpression? with
  | some segment =>
    obtain ⟨-, span, source, rfl⟩ := mem_of_singleExpression? hsingle
    have hresolve := (run_valueOf_single_eq_ok_iff hsingle).1 hrun
    obtain ⟨q', hresolve', -⟩ := h.resolve hm span (span.start + delimiterSize) hresolve
    exact ⟨q', (run_valueOf_single_eq_ok_iff hsingle).2 hresolve'⟩
  | none =>
    obtain ⟨text, rfl, htext⟩ := (run_valueOf_text_eq_ok_iff hsingle).1 hrun
    obtain ⟨q', htext'⟩ := h.textOf hm htext
    exact ⟨q', (run_valueOf_text_eq_ok_iff hsingle).2 ⟨text, rfl, htext'⟩⟩

/-- A template that has a value has the same one where it is held to no stricter limits. -/
theorem evaluate {source : String} {v : Value}
    (hv : (e.evaluate source c o).1.outcome = .value v) :
    (e'.evaluate source c o').1.outcome = .value v := by
  unfold Engine.evaluate at hv ⊢
  cases hparse : Template.parse source with
  | error error =>
    rw [hparse] at hv
    cases hv
  | ok t =>
    rw [hparse] at hv
    dsimp only at hv ⊢
    rw [h.format]
    cases hformat : e.config.output.format with
    | tree =>
      rw [hformat] at hv
      exact hv
    | value =>
      rw [hformat] at hv
      obtain ⟨q, hrun⟩ := run_valueOf_of_evaluateTemplate hv
      have hahead : (e'.sandbox c o').Ahead e.start.meter e'.start.meter := Sandbox.ahead_zero _ _
      obtain ⟨q', hrun'⟩ := h.valueOf hahead hrun
      exact outcome_evaluateTemplate hrun'

end Eases

/-! ### Limits of configurations -/

end Engine

/-- The limits of settings are in order if no limit is zero and no code may be constructed. -/
theorem SecurityConfig.checkLimits_eq_ok_iff {c : SecurityConfig} :
    c.checkLimits = .ok () ↔ c.timeout ≠ 0 ∧ c.maxCallStackSize ≠ 0 ∧ c.maxMemory ≠ 0 ∧
      c.allowFunctionConstructor = false := by
  unfold checkLimits
  split_ifs <;> simp_all

/-- The configuration with other limits of the memory and of the nesting of calls. -/
def EngineConfig.withLimits (config : EngineConfig) (memory frames : Nat) : EngineConfig :=
  { config with
    security := { config.security with maxMemory := memory, maxCallStackSize := frames } }

namespace Engine

/-- The engine of a configuration whose patterns have been read. -/
def ofRules (config : EngineConfig) (rules : List Rule) : Engine :=
  ofPolicy config ⟨config.security, rules⟩

theorem cache?_ofRules {config : EngineConfig} (huncached : config.cache.enabled = false)
    (rules : List Rule) : (ofRules config rules).cache? = none := by
  rw [ofRules, ofPolicy, huncached]
  rfl

/-- Without a cache, a configuration is accepted if its limits are in order and its patterns can be
read. -/
theorem ofConfig_eq_ok_iff {config : EngineConfig} (huncached : config.cache.enabled = false)
    {e : Engine} : ofConfig config = .ok e ↔ config.security.checkLimits = .ok () ∧
      ∃ rules, Policy.readRules config.security.patterns = .ok rules ∧
        e = ofRules config rules := by
  rw [ofConfig, EngineConfig.check, Policy.ofConfig]
  rcases config.security.checkLimits with error | ⟨⟨⟩⟩
  · simp [Except.map]
  · rcases Policy.readRules config.security.patterns with error | rules
    · simp [Except.map]
    · simp [Except.map, huncached, ofRules, ofPolicy, eq_comm]

/-- With other limits a configuration is accepted if these are in order; the patterns are the same.
-/
theorem ofConfig_withLimits_eq_ok_iff {config : EngineConfig}
    (huncached : config.cache.enabled = false) {memory frames : Nat} {e : Engine} :
    ofConfig (config.withLimits memory frames) = .ok e ↔
      (config.security.timeout ≠ 0 ∧ frames ≠ 0 ∧ memory ≠ 0 ∧
        config.security.allowFunctionConstructor = false) ∧
      ∃ rules, Policy.readRules config.security.patterns = .ok rules ∧
        e = ofRules (config.withLimits memory frames) rules := by
  have huncached' : (config.withLimits memory frames).cache.enabled = false := huncached
  rw [ofConfig_eq_ok_iff huncached', SecurityConfig.checkLimits_eq_ok_iff]
  rfl

/-- Higher limits ease evaluations under a clock that does not run out. -/
theorem eases_withLimits {config : EngineConfig} (huncached : config.cache.enabled = false)
    {memory memory' frames frames' : Nat} (hmemory : memory ≤ memory') (hframes : frames ≤ frames')
    (rules : List Rule) {c : Context} {o o' : Occasion} (hcancelled : o'.cancelled = false)
    (hclock : ∀ n, o'.clock n < config.security.timeout) :
    Eases (ofRules (config.withLimits memory frames) rules)
      (ofRules (config.withLimits memory' frames') rules) c o o' where
  uncached := cache?_ofRules huncached rules
  uncached_right := cache?_ofRules huncached rules
  rules := rfl
  libraries := rfl
  format := rfl
  sandbox :=
    { context := rfl
      dates := rfl
      allowsGlobal := rfl
      allowsMethod := rfl
      strictGrammar := rfl
      memory := hmemory
      frames := hframes
      pace := Sandbox.IsCalm.paces ⟨hcancelled, hclock⟩ }

/-- An accepted configuration is accepted with higher limits, and gives the values that it gave. -/
theorem exists_ofConfig_withLimits {config : EngineConfig}
    (huncached : config.cache.enabled = false) {memory memory' frames frames' : Nat}
    (hmemory : memory ≤ memory') (hframes : frames ≤ frames') {e : Engine}
    (he : ofConfig (config.withLimits memory frames) = .ok e) :
    ∃ e', ofConfig (config.withLimits memory' frames') = .ok e' ∧
      ∀ source c o o' v, o'.cancelled = false → (∀ n, o'.clock n < config.security.timeout) →
        (e.evaluate source c o).1.outcome = .value v →
        (e'.evaluate source c o').1.outcome = .value v := by
  obtain ⟨⟨htimeout, hframes₀, hmemory₀, hconstructor⟩, rules, hrules, rfl⟩ :=
    (ofConfig_withLimits_eq_ok_iff huncached).1 he
  refine ⟨_, (ofConfig_withLimits_eq_ok_iff huncached).2 ⟨?_, rules, hrules, rfl⟩, ?_⟩
  · exact ⟨htimeout, by omega, by omega, hconstructor⟩
  · intro source c o o' v hcancelled hclock hv
    exact (eases_withLimits huncached hmemory hframes rules hcancelled hclock).evaluate hv

/-- Without a cache, whatever has a value under some limits has the same one under higher limits if
the clock does not run out; and two engines that only differ in their limits never give different
values. -/
theorem evaluate_eq_of_limits {config : EngineConfig} (huncached : config.cache.enabled = false)
    {memory frames : Nat} {e : Engine}
    (he : ofConfig (config.withLimits memory frames) = .ok e) (memory' frames' : Nat) :
    (memory ≤ memory' → frames ≤ frames' →
      ∃ e', ofConfig (config.withLimits memory' frames') = .ok e' ∧
        ∀ source c o o' v, o'.cancelled = false → (∀ n, o'.clock n < config.security.timeout) →
          (e.evaluate source c o).1.outcome = .value v →
          (e'.evaluate source c o').1.outcome = .value v) ∧
    ∀ e', ofConfig (config.withLimits memory' frames') = .ok e' →
      ∀ source c o o' v v', (e.evaluate source c o).1.outcome = .value v →
        (e'.evaluate source c o').1.outcome = .value v' → v = v' := by
  refine ⟨fun hmemory hframes => exists_ofConfig_withLimits huncached hmemory hframes he, ?_⟩
  intro e' he' source c o o' v v' hv hv'
  -- both values are the one under the higher ones of the limits, on an occasion without delays
  obtain ⟨top, htop, hleft⟩ := exists_ofConfig_withLimits huncached
    (Nat.le_max_left memory memory') (Nat.le_max_left frames frames') he
  obtain ⟨top', htop', hright⟩ := exists_ofConfig_withLimits huncached
    (Nat.le_max_right memory memory') (Nat.le_max_right frames frames') he'
  obtain rfl : top = top' := Except.ok.inj (htop.symm.trans htop')
  have hclock (n : Nat) : Occasion.atOnce.clock n < config.security.timeout := by
    obtain ⟨⟨htimeout, -⟩, -⟩ := (ofConfig_withLimits_eq_ok_iff huncached).1 he
    exact Nat.pos_of_ne_zero htimeout
  have hsame := (hleft source c o .atOnce v rfl hclock hv).symm.trans
    (hright source c o' .atOnce v' rfl hclock hv')
  exact Outcome.value.inj hsame

end Engine

/-- Three bytes are enough for a text of which three bytes are filled in. -/
theorem evaluate_eq_of_limits_greeting : ∃ e e',
    Engine.ofConfig ((EngineConfig.blocking []).uncached.withLimits 3 1) = .ok e ∧
    Engine.ofConfig ((EngineConfig.blocking []).uncached.withLimits 64 2) = .ok e' ∧
    (e.evaluate "Hi \x7b\x7b$.a\x7d\x7d" (.atEpoch (.object [("a", .string "you")]))
      .atOnce).1.outcome = .value (.string "Hi you") ∧
    (e'.evaluate "Hi \x7b\x7b$.a\x7d\x7d" (.atEpoch (.object [("a", .string "you")]))
      .atOnce).1.outcome = .value (.string "Hi you") := by
  have htext : ((Engine.ofConfig
      ((EngineConfig.blocking []).uncached.withLimits 3 1)).toOption.bind fun e =>
        (e.evaluate "Hi \x7b\x7b$.a\x7d\x7d" (.atEpoch (.object [("a", .string "you")]))
          .atOnce).1.text?) = some "Hi you" := by cbv
  cases he : Engine.ofConfig ((EngineConfig.blocking []).uncached.withLimits 3 1) with
  | error error =>
    rw [he] at htext
    cases htext
  | ok e =>
    rw [he] at htext
    have hv := Evaluation.outcome_of_text? htext
    obtain ⟨e', he', hsame⟩ :=
      (Engine.evaluate_eq_of_limits rfl he 64 2).1 (by decide) (by decide)
    exact ⟨e, e', rfl, he', hv, hsame _ _ _ _ _ rfl (fun _ => Nat.zero_lt_succ _) hv⟩

end TemplateExpr
