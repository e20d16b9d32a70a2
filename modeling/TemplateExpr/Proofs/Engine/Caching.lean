import TemplateExpr.Proofs.Cache.History
import TemplateExpr.Proofs.Engine.Progress
import TemplateExpr.Proofs.Eval.Thrift

/-!
# Evaluation with a cache

An engine with a cache gives the values that it gives without one. Every result that is kept is the
value of an expression with the normal form that it is kept under (`Engine.Explains`), and has been
computed when more or less memory was used, at another place of another template, or by another
time; `Expr.exists_value_of_thrift` says that this does not matter. What is found in the cache needs
no memory, so that there is always as much left as without a cache.
-/

namespace TemplateExpr

open TemplateExpr.Eval TemplateExpr.Cache

/-! ### Configurations -/

/-- The configuration without a cache. -/
def EngineConfig.uncached (config : EngineConfig) : EngineConfig :=
  { config with cache := { config.cache with enabled := false } }

/-- The engine of a configuration under a policy. -/
def Engine.ofPolicy (config : EngineConfig) (policy : Policy) : Engine :=
  ⟨config, policy, if config.cache.enabled then some (.ofConfig config.cache) else none⟩

/-- Without its cache, a configuration is accepted with the same policy. -/
theorem Engine.ofConfig_uncached {config : EngineConfig} {e : Engine}
    (h : ofConfig config = .ok e) : ∃ policy, e = ofPolicy config policy ∧
      ofConfig config.uncached = .ok (ofPolicy config.uncached policy) := by
  obtain ⟨policy, hpolicy, rfl⟩ := exists_of_map_eq_ok h
  refine ⟨policy, rfl, ?_⟩
  have huncached : config.uncached.check = .ok policy := by
    unfold EngineConfig.check at hpolicy ⊢
    have hsecurity : config.uncached.security = config.security := rfl
    rw [hsecurity]
    cases hofConfig : Policy.ofConfig config.security with
    | error _ => rw [hofConfig] at hpolicy; cases hpolicy
    | ok _ =>
      rw [hofConfig] at hpolicy
      dsimp only at hpolicy
      split_ifs at hpolicy
      exact hpolicy
  rw [ofConfig, huncached]
  rfl

/-! ### Expressions -/

/-- The text of an expression of the language whose comments, if there are any, do no harm to its
normal form. -/
structure IsQuietExpression (source : String) : Prop where
  route : Route.ofText source.toList = .evaluator
  quiet : isQuiet source.toList = true

instance (source : String) : Decidable (IsQuietExpression source) :=
  decidable_of_iff (Route.ofText source.toList = .evaluator ∧ isQuiet source.toList = true)
    ⟨fun h => ⟨h.1, h.2⟩, fun h => ⟨h.route, h.quiet⟩⟩

/-- All expressions of a template are quiet ones of the language. -/
def Template.IsQuiet (t : Template) : Prop :=
  ∀ segment ∈ t.segments, ∀ expression ∈ segment.expression?, IsQuietExpression expression.1

instance (t : Template) : Decidable t.IsQuiet :=
  inferInstanceAs (Decidable (∀ segment ∈ t.segments, ∀ expression ∈ segment.expression?,
    IsQuietExpression expression.1))

/-- The text of a template whose expressions are all quiet ones of the language. -/
def IsQuietTemplate (source : String) : Prop := ∀ t, Template.parse source = .ok t → t.IsQuiet

instance (source : String) : Decidable (IsQuietTemplate source) :=
  match h : Template.parse source with
  | .ok t => decidable_of_iff t.IsQuiet
    ⟨fun ht _ ht' => Except.ok.inj (h.symm.trans ht') ▸ ht, fun ht => ht t h⟩
  | .error _ => isTrue fun _ ht => nomatch h.symm.trans ht

namespace Engine

/-- `v` is the value of an expression that is kept under `key`. -/
def Explains (e : Engine) (c : Context) (key : Cache.Key Fingerprint) (v : Value) : Prop :=
  ∃ (source : String) (tree : Expr) (o : Occasion) (m n : Meter),
    isQuiet source.toList = true ∧ normalizeString source = key.expression ∧
      Expr.parse source.toList = .ok tree ∧ tree.value.run (e.sandbox c o) m = (.ok v, n)

/-- All results that are kept are explained. -/
def Explained (e : Engine) (c : Context) (p : Progress) : Prop :=
  ∀ cache ∈ p.cache?, cache.All (e.Explains c)

/-- The progress at the start of a template. -/
def start (e : Engine) : Progress := ⟨.zero, e.cache?, 0⟩

variable {e e' : Engine} {c : Context} {o o' : Occasion}

/-- The value that an expression has is the one that is kept for it. -/
theorem Explains.unplaced_eq {key : Cache.Key Fingerprint} {v w : Value} (h : e.Explains c key w)
    (hdata : c.IsData) (hcalm : (e.sandbox c o').IsCalm) {source : String}
    (hquiet : isQuiet source.toList = true) (hkey : normalizeString source = key.expression)
    {tree : Expr} (htree : Expr.parse source.toList = .ok tree) {m n : Meter}
    (hv : tree.value.run (e.sandbox c o) m = (.ok v, n)) : v.unplaced = w.unplaced := by
  obtain ⟨source', tree', o'', m', n', hquiet', hkey', htree', hw⟩ := h
  have hnormal : normalize source.toList = normalize source'.toList :=
    String.ofList_injective (hkey.trans hkey'.symm)
  obtain ⟨P, hP, hmatch⟩ := Expr.matches_of_parse hnormal hquiet hquiet' htree htree'
  -- both values are the one that the tree has when nothing has been used
  have hzero (m : Meter) : Meter.zero.used ≤ m.used := by simp [Meter.used, Meter.zero]
  obtain ⟨-, v₀, n₀, hv₀, hvv₀, -⟩ := Expr.exists_value_of_thrift (s := e.sandbox c o)
    hcalm hdata hP hmatch (hzero m) hv
  obtain ⟨-, w₀, k₀, hw₀, hww₀, -⟩ := Expr.exists_value_of_thrift (s := e.sandbox c o'')
    hcalm hdata Places.exact_same (Expr.Matches.refl (fun _ => ⟨rfl, rfl⟩) tree') (hzero m') hw
  obtain ⟨⟨⟩, -⟩ := Prod.mk.inj (hv₀.symm.trans hw₀)
  rw [hvv₀, hww₀]

/-! ### What is kept -/

theorem cacheKey?_expression {compiled : Compiled} {key : Cache.Key Fingerprint}
    (h : e.cacheKey? c compiled = some key) : normalizeString compiled.source = key.expression := by
  unfold cacheKey? at h
  split at h
  · cases h
  · obtain rfl := Option.some.inj h
    rfl

/-- What is computed for a tree is its value. -/
theorem compute_eq_runEval {compiled : Compiled} {tree : Expr} (h : compiled.program = .expr tree)
    (s : Sandbox) (segment : Span) :
    e.compute s segment compiled = runEval s segment compiled.offset tree.value := by
  rw [compute, h]

theorem Explained.missing {p : Progress} (h : e.Explained c p) (o : Occasion)
    (key? : Option (Cache.Key Fingerprint)) : e.Explained c (p.missing o key?) := by
  obtain ⟨meter, cache?, hits⟩ := p
  cases key? with
  | none => exact h
  | some key =>
    cases cache? with
    | none => exact h
    | some cache =>
      rintro _ ⟨⟩
      exact (h cache rfl).get o.start key

theorem Explained.keeping {p : Progress} (h : e.Explained c p) (o : Occasion)
    {key? : Option (Cache.Key Fingerprint)} {v : Value} (hv : ∀ key ∈ key?, e.Explains c key v) :
    e.Explained c (p.keeping o key? v) := by
  cases key? with
  | none => exact h
  | some key =>
    intro cache hcache
    obtain ⟨cache, hp, rfl⟩ := Option.map_eq_some_iff.1 hcache
    exact (h cache hp).insert o.start (hv key rfl)

/-- Only explained results are kept when an expression is resolved. -/
theorem Explained.resolve {p : Progress} (h : e.Explained c p) (o : Occasion) (segment : Span)
    {source : String} (hsource : IsQuietExpression source) (offset : Nat) :
    e.Explained c ((e.resolve o (e.sandbox c o) segment source offset).run.run p).2 := by
  have hcases := e.resolves o (e.sandbox c o) segment source offset p
  generalize (e.resolve o (e.sandbox c o) segment source offset).run.run p = r at hcases
  cases hcases with
  | blocked _ | interrupted _ _ | rejected _ _ => exact h
  | @found _ key _ _ _ _ hcache _ =>
    rintro _ ⟨⟩
    exact (h _ hcache).get o.start key
  | @failed compiled fault q hadmits hrun =>
    obtain ⟨-, tree, -, htree⟩ := Compiled.exists_tree hsource.route hadmits.compiles
    rw [compute_eq_runEval htree, run_runEval] at hrun
    split at hrun
    · cases hrun
    · obtain ⟨-, rfl⟩ := Prod.mk.inj hrun
      exact h.missing o _
  | @computed compiled v q hadmits hrun =>
    obtain ⟨hcompiled, tree, hparse, htree⟩ := Compiled.exists_tree hsource.route hadmits.compiles
    rw [compute_eq_runEval htree, run_runEval] at hrun
    split at hrun
    · next m hvalue =>
      obtain ⟨⟨⟩, rfl⟩ := Prod.mk.inj hrun
      refine Explained.keeping ?_ o fun key hkey => ?_
      · exact h.missing o _
      · exact ⟨source, tree, o, _, m, hsource.quiet, hcompiled ▸ cacheKey?_expression hkey, hparse,
          hvalue⟩
    · cases hrun

/-- Only explained results are kept when the text of a template is put together. -/
theorem Explained.textOf {p : Progress} (h : e.Explained c p) (o : Occasion)
    {segments : List Segment} (hquiet : ∀ segment ∈ segments, ∀ expression ∈ segment.expression?,
      IsQuietExpression expression.1) (acc : List String) :
    e.Explained c ((e.textOf o (e.sandbox c o) acc segments).run.run p).2 := by
  induction segments generalizing acc p with
  | nil => exact h
  | cons segment segments ih =>
    obtain ⟨hsegment, hrest⟩ := List.forall_mem_cons.1 hquiet
    cases segment with
    | literal span text => exact ih h hrest (text :: acc)
    | resolvable span source =>
      have hq := h.resolve o span (hsegment _ rfl) (span.start + delimiterSize)
      rw [run_textOf_resolvable]
      generalize (e.resolve o (e.sandbox c o) span source (span.start + delimiterSize)).run.run p = r
        at hq
      obtain ⟨fault | v, q⟩ := r
      · exact hq
      · dsimp only at hq ⊢
        rcases (reserve v.templateText.utf8ByteSize).run (e.sandbox c o) q.meter with ⟨f | _, m⟩
        · exact hq
        · exact ih (p := { q with meter := m }) hq hrest _

/-- Only explained results are kept when a template is evaluated. -/
theorem Explained.valueOf {p : Progress} (h : e.Explained c p) (o : Occasion) {t : Template}
    (hquiet : t.IsQuiet) : e.Explained c ((e.valueOf o (e.sandbox c o) t).run.run p).2 := by
  rcases valueOf_cases t with ⟨span, source, hmem, hvalue⟩ | hvalue
  · have hq := h.resolve o span (hquiet _ hmem _ rfl) (span.start + delimiterSize)
    rw [hvalue, run_bind]
    generalize (e.resolve o (e.sandbox c o) span source (span.start + delimiterSize)).run.run p = r
      at hq
    obtain ⟨fault | v, q⟩ := r <;> exact hq
  · have hq := h.textOf o hquiet []
    rw [hvalue, run_bind]
    generalize (e.textOf o (e.sandbox c o) [] t.segments).run.run p = r at hq
    obtain ⟨fault | text, q⟩ := r <;> exact hq

/-! ### With and without a cache -/

/-- The second engine has the settings of the first one, and may keep results. -/
structure Caches (plain caching : Engine) : Prop where
  policy : caching.policy = plain.policy
  libraries : caching.config.libraries = plain.config.libraries
  format : caching.config.output.format = plain.config.output.format
  uncached : plain.cache? = none

namespace Caches

variable (h : Caches e e')

include h

theorem sandbox_eq (c : Context) (o : Occasion) : e'.sandbox c o = e.sandbox c o := by
  simp only [sandbox, EngineConfig.libraryEnabled, h.policy, h.libraries]

theorem cacheKey?_eq_none (compiled : Compiled) : e.cacheKey? c compiled = none := by
  rw [cacheKey?, h.uncached]
  rfl

section

variable (hdata : c.IsData) (hcalm : (e.sandbox c o').IsCalm)

include hdata hcalm

/-- An expression that has a value without a cache has it with a cache. -/
theorem resolve {p p' q : Progress} (hp' : e'.Explained c p') (hm : p'.meter.used ≤ p.meter.used)
    {segment : Span} {source : String} (hsource : IsQuietExpression source) {offset : Nat}
    {v : Value}
    (hrun : (e.resolve o (e.sandbox c o) segment source offset).run.run p = (.ok v, q)) :
    ∃ w q', (e'.resolve o' (e.sandbox c o') segment source offset).run.run p' = (.ok w, q') ∧
      w.unplaced = v.unplaced ∧ q'.meter.used ≤ q.meter.used := by
  have hplain := e.resolves o (e.sandbox c o) segment source offset p
  have hcaching := e'.resolves o' (e.sandbox c o') segment source offset p'
  rw [hrun] at hplain
  generalize (e'.resolve o' (e.sandbox c o') segment source offset).run.run p' = r at hcaching
  cases hplain with
  | found _ hkey => cases (h.cacheKey?_eq_none _).symm.trans hkey
  | @computed compiled _ q hadmits hcompute =>
  obtain ⟨hcompiled, tree, hparse, htree⟩ := Compiled.exists_tree hsource.route hadmits.compiles
  rw [compute_eq_runEval htree, run_runEval, Progress.meter_missing] at hcompute
  split at hcompute
  swap
  · cases hcompute
  next m hvalue =>
  obtain ⟨⟨⟩, rfl⟩ := Prod.mk.inj hcompute
  obtain ⟨hgrows, w, n', hw, hvw, hn⟩ := Expr.exists_value_of_thrift (s := e.sandbox c o)
    hcalm hdata Places.exact_same (Expr.Matches.refl (fun _ => ⟨rfl, rfl⟩) tree) hm hvalue
  change tree.value.run (e.sandbox c o') p'.meter = _ at hw
  have heq {compiled' : Compiled} (h' : Compiled.ofText source offset = .ok compiled') :
      compiled' = compiled :=
    Except.ok.inj (h'.symm.trans hadmits.compiles)
  cases hcaching with
  | blocked hblocked =>
    rw [h.policy, hadmits.allowed] at hblocked
    cases hblocked
  | interrupted _ hinterrupted =>
    rw [hcalm.run_checkInterrupts] at hinterrupted
    cases hinterrupted
  | rejected _ hrejected => cases hadmits.compiles.symm.trans hrejected
  | found hadmits' hkey hcache hfound =>
    obtain rfl := heq hadmits'.compiles
    have hexplains := (hp' _ hcache).of_get hfound
    rw [← h.sandbox_eq] at hvalue hcalm
    have hsame := hexplains.unplaced_eq hdata hcalm hsource.quiet
      (hcompiled ▸ cacheKey?_expression hkey) hparse hvalue
    exact ⟨_, _, rfl, hsame.symm, by simpa using Nat.le_trans hm hgrows⟩
  | failed hadmits' hfailed =>
    obtain rfl := heq hadmits'.compiles
    rw [compute_eq_runEval htree, run_runEval, Progress.meter_missing, hw] at hfailed
    cases hfailed
  | computed hadmits' hcomputed =>
    obtain rfl := heq hadmits'.compiles
    rw [compute_eq_runEval htree, run_runEval, Progress.meter_missing, hw] at hcomputed
    obtain ⟨⟨⟩, rfl⟩ := Prod.mk.inj hcomputed
    exact ⟨_, _, rfl, hvw.symm, by simpa using hn⟩

/-- A text that is put together without a cache is put together with a cache. -/
theorem textOf {segments : List Segment} (hquiet : ∀ segment ∈ segments,
      ∀ expression ∈ segment.expression?, IsQuietExpression expression.1) {acc : List String}
    {p p' q : Progress} (hp' : e'.Explained c p') (hm : p'.meter.used ≤ p.meter.used) {text : String}
    (hrun : (e.textOf o (e.sandbox c o) acc segments).run.run p = (.ok (.ok text), q)) :
    ∃ q', (e'.textOf o' (e.sandbox c o') acc segments).run.run p' = (.ok (.ok text), q') := by
  induction segments generalizing acc p p' with
  | nil =>
    obtain ⟨⟨⟨⟩⟩, -⟩ := Prod.mk.inj hrun
    exact ⟨p', rfl⟩
  | cons segment segments ih =>
    obtain ⟨hsegment, hrest⟩ := List.forall_mem_cons.1 hquiet
    cases segment with
    | literal span text => exact ih hrest hp' hm hrun
    | resolvable span source =>
      have hsource := hsegment _ rfl
      rw [run_textOf_resolvable] at hrun ⊢
      cases hresolve :
        (e.resolve o (e.sandbox c o) span source (span.start + delimiterSize)).run.run p with
      | mk r q =>
      rw [hresolve] at hrun
      cases r with
      | error fault => cases hrun
      | ok v =>
      obtain ⟨w, q', hcached, hunplaced, hq⟩ := h.resolve hdata hcalm hp' hm hsource hresolve
      have hq' := hp'.resolve o' span hsource (span.start + delimiterSize)
      rw [h.sandbox_eq, hcached] at hq'
      rw [hcached]
      dsimp only at hrun hq' ⊢
      rw [Value.templateText_eq_of_unplaced hunplaced]
      rcases hreserve : (reserve v.templateText.utf8ByteSize).run (e.sandbox c o) q.meter with
        ⟨_ | a, m⟩
      · rw [hreserve] at hrun
        cases hrun
      · rw [hreserve] at hrun
        have hlimit : (e.sandbox c o).policy.config.maxMemory ≤
            (e.sandbox c o').policy.config.maxMemory := Nat.le_refl _
        obtain ⟨-, hreserve', hm'⟩ := run_reserve_of_le hlimit hq hreserve
        rw [hreserve']
        have hq'' : e'.Explained c
            { q' with meter := q'.meter.charge v.templateText.utf8ByteSize } := hq'
        exact ih hrest hq'' hm' hrun

/-- A template that has a value without a cache has it with a cache. -/
theorem valueOf {t : Template} (hquiet : t.IsQuiet) {p p' q : Progress} (hp' : e'.Explained c p')
    (hm : p'.meter.used ≤ p.meter.used) {v : Value}
    (hrun : (e.valueOf o (e.sandbox c o) t).run.run p = (.ok (.ok v), q)) :
    ∃ w q', (e'.valueOf o' (e.sandbox c o') t).run.run p' = (.ok (.ok w), q') ∧
      w.unplaced = v.unplaced := by
  rcases valueOf_cases t with ⟨span, source, hmem, hvalue⟩ | hvalue
  · rw [hvalue, run_bind] at hrun
    rcases hresolve : (e.resolve o (e.sandbox c o) span source
      (span.start + delimiterSize)).run.run p with ⟨fault | v', q'⟩ <;> rw [hresolve] at hrun
    · cases hrun
    · obtain ⟨⟨⟨⟩⟩, -⟩ := Prod.mk.inj hrun
      obtain ⟨w, q', hcached, hunplaced, -⟩ :=
        h.resolve hdata hcalm hp' hm (hquiet _ hmem _ rfl) hresolve
      refine ⟨w, q', ?_, hunplaced⟩
      rw [hvalue, run_bind, hcached]
      rfl
  · rw [hvalue, run_bind] at hrun
    rcases htext : (e.textOf o (e.sandbox c o) [] t.segments).run.run p with ⟨fault | text, q'⟩ <;>
      rw [htext] at hrun
    · cases hrun
    · cases text with
      | error fault => cases hrun
      | ok text =>
        obtain ⟨⟨⟨⟩⟩, -⟩ := Prod.mk.inj hrun
        obtain ⟨q', hcached⟩ := h.textOf hdata hcalm hquiet hp' hm htext
        refine ⟨.string text, q', ?_, rfl⟩
        rw [hvalue, run_bind, hcached]
        rfl

/-- An evaluation that gives a value without a cache gives it with a cache. -/
theorem evaluate (hcache : e'.Explained c e'.start) {source : String}
    (hquiet : IsQuietTemplate source) {v : Value}
    (hv : (e.evaluate source c o).1.outcome = .value v) :
    ∃ w, (e'.evaluate source c o').1.outcome = .value w ∧ w.unplaced = v.unplaced := by
  unfold Engine.evaluate at hv ⊢
  cases hparse : Template.parse source with
  | error error =>
    rw [hparse] at hv
    cases hv
  | ok t =>
    rw [hparse] at hv
    dsimp only at hv ⊢
    rw [h.format]
    cases hformat : e.config.output.format with
    | tree =>
      rw [hformat] at hv
      exact ⟨v, hv, rfl⟩
    | value =>
      rw [hformat] at hv
      dsimp only [evaluateTemplate] at hv ⊢
      rcases hrun : (e.valueOf o (e.sandbox c o) t).run.run ⟨.zero, e.cache?, 0⟩ with ⟨result, q⟩
      rw [hrun] at hv
      rcases result with fault | fault | value
      · cases hv
      · cases hv
      · obtain rfl := Outcome.value.inj hv
        obtain ⟨w, q', hcached, hunplaced⟩ :=
          h.valueOf hdata hcalm (hquiet t hparse) (p := e.start) hcache (Nat.le_refl _) hrun
        refine ⟨w, ?_, hunplaced⟩
        rw [start] at hcached
        rw [h.sandbox_eq, hcached]

end

end Caches

/-! ### Templates one after the other -/

/-- The engine when it has evaluated templates one after the other. -/
def evaluateAll (e : Engine) (c : Context) (runs : List (String × Occasion)) : Engine :=
  runs.foldl (fun e run => (e.evaluate run.1 c run.2).2) e

theorem Explained.evaluate (h : e.Explained c e.start) (o : Occasion) {source : String}
    (hquiet : IsQuietTemplate source) :
    (e.evaluate source c o).2.Explained c (e.evaluate source c o).2.start := by
  unfold Engine.evaluate
  cases hparse : Template.parse source with
  | error error => exact h
  | ok t =>
    cases e.config.output.format with
    | tree => exact h
    | value => exact h.valueOf o (hquiet t hparse)

theorem Caches.evaluate_right (h : Caches e e') (source : String) (c : Context) (o : Occasion) :
    Caches e (e'.evaluate source c o).2 := by
  unfold Engine.evaluate
  cases Template.parse source with
  | error error => exact h
  | ok t =>
    cases e'.config.output.format with
    | tree => exact h
    | value => exact ⟨h.policy, h.libraries, h.format, h.uncached⟩

theorem explained_evaluateAll (h : Caches e e') (hcache : e'.Explained c e'.start)
    {runs : List (String × Occasion)}
    (hquiet : ∀ run ∈ runs, IsQuietTemplate run.1) :
    Caches e (e'.evaluateAll c runs) ∧
      (e'.evaluateAll c runs).Explained c (e'.evaluateAll c runs).start := by
  induction runs generalizing e' with
  | nil => exact ⟨h, hcache⟩
  | cons run runs ih =>
    obtain ⟨hrun, hruns⟩ := List.forall_mem_cons.1 hquiet
    exact ih (h.evaluate_right run.1 c run.2) (hcache.evaluate run.2 hrun) hruns

/-- The engines of one configuration with and without a cache. -/
theorem caches_ofPolicy (config : EngineConfig) (policy : Policy) (c : Context) :
    Caches (ofPolicy config.uncached policy) (ofPolicy config policy) ∧
      (ofPolicy config policy).Explained c (ofPolicy config policy).start := by
  refine ⟨⟨rfl, rfl, rfl, rfl⟩, fun cache hcache => ?_⟩
  simp only [start, ofPolicy] at hcache
  split_ifs at hcache
  · obtain rfl := Option.some.inj hcache
    exact all_ofConfig config.cache
  · cases hcache

end Engine

end TemplateExpr
