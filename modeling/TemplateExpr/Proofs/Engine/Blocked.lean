import Mathlib
import TemplateExpr.Proofs.Engine.Caching

/-!
# Blocked text

An expression whose text matches a pattern of the policy has no value, whatever the cache holds and
whichever way the expression would take (`Engine.allowed_of_resolve`). The patterns in force are
those of the configuration and behind them the mandatory ones that are not among them; a pattern
stands in for a mandatory one only if it equals it, so that none is lost
(`SecurityConfig.mem_patterns`). Of the patterns that match, the first one in this order is named
(`Policy.findBlocked?_eq_some`).

Neither the configuration nor the policy of an engine changes when it evaluates a template
(`Engine.ofConfig_evaluateEach`), so that all this holds at any time
(`Engine.refused_of_blocked`).
-/

namespace TemplateExpr

open TemplateExpr.Eval

/-! ### Patterns -/

/-- Where a pattern matches a text first, if it does; `none` if the pattern cannot be read. -/
def BlockedPattern.search? (p : BlockedPattern) (text : String) : Option (Option Span) :=
  (Rule.ofPattern? p).map fun rule =>
    (rule.machine.find? text.toList).map fun (start, stop) => ⟨start, stop⟩

theorem SecurityConfig.mem_patterns {c : SecurityConfig} {p : BlockedPattern} :
    p ∈ c.patterns ↔ p ∈ c.blockedPatterns ∨ p ∈ mandatoryPatterns := by
  simp only [patterns, List.mem_append, List.mem_filter, Bool.not_eq_true', List.contains_eq_mem,
    decide_eq_false_iff_not]
  constructor
  · rintro (h | ⟨h, -⟩)
    · exact .inl h
    · exact .inr h
  · intro h
    by_cases hmem : p ∈ c.blockedPatterns
    · exact .inl hmem
    · exact .inr ⟨h.resolve_left hmem, hmem⟩

namespace BlockedPattern

variable {p : BlockedPattern} {rule : Rule}

theorem search?_of_rule (h : Rule.ofPattern? p = some rule) (text : String) :
    p.search? text =
      some ((rule.machine.find? text.toList).map fun (start, stop) => ⟨start, stop⟩) := by
  rw [search?, h]
  rfl

theorem name_of_rule (h : Rule.ofPattern? p = some rule) : rule.name = p.name := by
  obtain ⟨pattern, -, rfl⟩ := Option.map_eq_some_iff.1 h
  rfl

/-- What is reported if a pattern matches. -/
def report? (p : BlockedPattern) (text : String) : Option BlockedMatch :=
  (p.search? text).join.map (⟨p.name, ·⟩)

theorem report?_of_rule (h : Rule.ofPattern? p = some rule) (text : String) :
    p.report? text =
      (rule.machine.find? text.toList).map fun (start, stop) => ⟨rule.name, ⟨start, stop⟩⟩ := by
  rw [report?, search?_of_rule h, Option.join_some, Option.map_map, name_of_rule h]
  rfl

end BlockedPattern

namespace Policy

/-- The rules of a policy are those of the patterns, in order. -/
def Enforces (policy : Policy) (ps : List BlockedPattern) : Prop :=
  List.Forall₂ (fun p rule => Rule.ofPattern? p = some rule) ps policy.rules

theorem forall₂_readRules {ps : List BlockedPattern} {rules : List Rule}
    (h : readRules ps = .ok rules) :
    List.Forall₂ (fun p rule => Rule.ofPattern? p = some rule) ps rules := by
  induction ps generalizing rules with
  | nil =>
    obtain rfl := Except.ok.inj h
    exact .nil
  | cons p ps ih =>
    rw [readRules] at h
    split at h
    · cases h
    · next rule hrule =>
      obtain ⟨rules, hrules, rfl⟩ := exists_of_map_eq_ok h
      exact .cons hrule (ih hrules)

theorem enforces_of_ofConfig {c : SecurityConfig} {policy : Policy}
    (h : ofConfig c = .ok policy) : policy.Enforces c.patterns := by
  unfold ofConfig at h
  split at h
  · cases h
  · obtain ⟨rules, hrules, rfl⟩ := exists_of_map_eq_ok h
    exact forall₂_readRules hrules

namespace Enforces

variable {policy : Policy} {ps : List BlockedPattern} {text : String}

/-- What is blocked is reported for the first pattern that matches. -/
theorem findBlocked?_eq (h : policy.Enforces ps) (text : String) :
    policy.findBlocked? text = ps.findSome? (·.report? text) := by
  obtain ⟨config, rules⟩ := policy
  unfold Enforces at h
  dsimp only [findBlocked?] at h ⊢
  induction h with
  | nil => rfl
  | cons hrule _ ih => rw [List.findSome?_cons, List.findSome?_cons, ih,
      BlockedPattern.report?_of_rule hrule]

theorem exists_rule (h : policy.Enforces ps) {p : BlockedPattern} (hp : p ∈ ps) :
    ∃ rule, Rule.ofPattern? p = some rule := by
  obtain ⟨i, hi, rfl⟩ := List.mem_iff_getElem.1 hp
  exact ⟨_, h.get hi (h.length_eq ▸ hi)⟩

/-- What is not blocked matches none of the patterns. -/
theorem search?_eq_none (h : policy.Enforces ps) (hallowed : policy.findBlocked? text = none)
    {p : BlockedPattern} (hp : p ∈ ps) : p.search? text = some none := by
  obtain ⟨rule, hrule⟩ := h.exists_rule hp
  rw [h.findBlocked?_eq, List.findSome?_eq_none_iff] at hallowed
  have hreport := hallowed p hp
  rw [BlockedPattern.report?, BlockedPattern.search?_of_rule hrule, Option.join_some,
    Option.map_eq_none_iff] at hreport
  exact (BlockedPattern.search?_of_rule hrule text).trans (congrArg some hreport)

/-- Of the patterns that match, the first one is reported. -/
theorem findBlocked?_eq_some {p : BlockedPattern} {qs : List BlockedPattern} {span : Span}
    (h : policy.Enforces (ps ++ p :: qs)) (hps : ∀ p' ∈ ps, p'.search? text = some none)
    (hp : p.search? text = some (some span)) :
    policy.findBlocked? text = some ⟨p.name, span⟩ := by
  rw [h.findBlocked?_eq, List.findSome?_eq_some_iff]
  refine ⟨ps, p, qs, rfl, ?_, fun p' hp' => ?_⟩
  · rw [BlockedPattern.report?, hp]
    rfl
  · rw [BlockedPattern.report?, hps p' hp']
    rfl

end Enforces

end Policy

namespace Engine

variable {e : Engine} {o : Occasion} {s : Sandbox} {p q : Progress}

/-! ### Expressions of templates -/

/-- An expression that has a value is not blocked, wherever the value comes from. -/
theorem allowed_of_resolve {segment : Span} {source : String} {offset : Nat} {v : Value}
    (hrun : (e.resolve o s segment source offset).run.run p = (.ok v, q)) :
    e.policy.findBlocked? source = none := by
  have hcases := e.resolves o s segment source offset p
  rw [hrun] at hcases
  cases hcases with
  | found hadmits | computed hadmits => exact hadmits.allowed

/-- A blocked expression is refused at the match. -/
theorem run_resolve_of_blocked {source : String} {found : BlockedMatch}
    (h : e.policy.findBlocked? source = some found) (segment : Span) (offset : Nat) :
    (e.resolve o s segment source offset).run.run p =
      (.error ⟨.security (.pattern found.rule), found.span.shift offset⟩, p) := by
  rw [resolve, h]
  rfl

/-- No expression of a text that is put together is blocked. -/
theorem allowed_of_textOf {segments : List Segment} {acc : List String} {text : String}
    (hrun : (e.textOf o s acc segments).run.run p = (.ok (.ok text), q)) {span : Span}
    {source : String} (hmem : .resolvable span source ∈ segments) :
    e.policy.findBlocked? source = none := by
  induction segments generalizing acc p with
  | nil => cases hmem
  | cons segment segments ih =>
    cases segment with
    | literal span' text' =>
      rcases List.mem_cons.1 hmem with h | h
      · cases h
      · exact ih hrun h
    | resolvable span' source' =>
      obtain ⟨v, q₁, m, hresolve, -, hrun⟩ := run_textOf_resolvable_eq_ok_iff.1 hrun
      rcases List.mem_cons.1 hmem with h | h
      · cases h
        exact allowed_of_resolve hresolve
      · exact ih hrun h

/-! ### Templates -/

/-- No expression of a template that has a value is blocked. -/
theorem allowed_of_valueOf {t : Template} {v : Value}
    (hrun : (e.valueOf o s t).run.run p = (.ok (.ok v), q)) {span : Span} {source : String}
    (hmem : .resolvable span source ∈ t.segments) : e.policy.findBlocked? source = none := by
  cases hsingle : t.singleExpression? with
  | some segment =>
    obtain rfl := eq_of_singleExpression? hsingle hmem
    exact allowed_of_resolve ((run_valueOf_single_eq_ok_iff hsingle).1 hrun)
  | none =>
    obtain ⟨text, -, htext⟩ := (run_valueOf_text_eq_ok_iff hsingle).1 hrun
    exact allowed_of_textOf htext hmem

/-- A template whose segments up to a blocked expression have a text is refused at the match. -/
theorem run_valueOf_of_blocked {t : Template} {before after : List Segment} {span : Span}
    {source : String} (hsegments : t.segments = before ++ .resolvable span source :: after)
    {text : String} (hbefore : (e.textOf o s [] before).run.run p = (.ok (.ok text), q))
    {found : BlockedMatch} (hblocked : e.policy.findBlocked? source = some found) :
    ∃ q', (e.valueOf o s t).run.run p = (.error ⟨.security (.pattern found.rule),
      found.span.shift (span.start + delimiterSize)⟩, q') := by
  cases hsingle : t.singleExpression? with
  | some segment =>
    have hmem : .resolvable span source ∈ t.segments := by simp [hsegments]
    obtain rfl := eq_of_singleExpression? hsingle hmem
    rw [valueOf_single hsingle, run_bind, run_resolve_of_blocked hblocked]
    exact ⟨p, rfl⟩
  | none =>
    -- the segments in front have been evaluated, whatever stands behind them
    obtain ⟨acc, -, hafter⟩ := exists_run_textOf_append hbefore
    rw [valueOf_text hsingle, run_bind, hsegments, hafter, run_textOf_resolvable,
      run_resolve_of_blocked hblocked]
    exact ⟨q, rfl⟩

/-! ### Evaluations one after the other -/

/-- The engine when it has evaluated templates one after the other, each in its own context. -/
def evaluateEach (e : Engine) (runs : List (String × Context × Occasion)) : Engine :=
  runs.foldl (fun e run => (e.evaluate run.1 run.2.1 run.2.2).2) e

/-- An evaluation leaves an engine with other results at most. -/
theorem evaluate_snd (e : Engine) (source : String) (c : Context) (o : Occasion) :
    (e.evaluate source c o).2.config = e.config ∧ (e.evaluate source c o).2.policy = e.policy := by
  unfold evaluate
  cases Template.parse source with
  | error error => exact ⟨rfl, rfl⟩
  | ok t =>
    cases e.config.output.format with
    | tree => exact ⟨rfl, rfl⟩
    | value => exact ⟨rfl, rfl⟩

theorem evaluateEach_snd (e : Engine) (runs : List (String × Context × Occasion)) :
    (e.evaluateEach runs).config = e.config ∧ (e.evaluateEach runs).policy = e.policy := by
  induction runs generalizing e with
  | nil => exact ⟨rfl, rfl⟩
  | cons run runs ih =>
    obtain ⟨hconfig, hpolicy⟩ := ih (e.evaluate run.1 run.2.1 run.2.2).2
    obtain ⟨hconfig', hpolicy'⟩ := e.evaluate_snd run.1 run.2.1 run.2.2
    exact ⟨hconfig.trans hconfig', hpolicy.trans hpolicy'⟩

/-- The rules of an engine are those of its configuration at any time. -/
theorem enforces_evaluateEach {config : EngineConfig} (he : ofConfig config = .ok e)
    (runs : List (String × Context × Occasion)) :
    (e.evaluateEach runs).policy.Enforces config.security.patterns := by
  obtain ⟨policy, hpolicy, rfl⟩ := exists_of_map_eq_ok he
  rw [(evaluateEach_snd _ runs).2]
  unfold EngineConfig.check at hpolicy
  split at hpolicy
  · cases hpolicy
  · next policy' hsecurity =>
    split_ifs at hpolicy
    obtain rfl := Except.ok.inj hpolicy
    exact Policy.enforces_of_ofConfig hsecurity

/-- The first segments of a template evaluate to a text: all their expressions have values, and
there is room for the texts of these. -/
def Passes (e : Engine) (c : Context) (o : Occasion) (segments : List Segment) : Prop :=
  ∃ text q, (e.textOf o (e.sandbox c o) [] segments).run.run e.start = (.ok (.ok text), q)

/-- If a template has a value, none of its expressions matches a pattern of the configuration or a
mandatory one, whatever the engine has evaluated before. If one of them does and what stands before
it can be evaluated, the template is refused where the first one of these patterns matches. -/
theorem refused_of_blocked {config : EngineConfig} (he : ofConfig config = .ok e)
    (hformat : config.output.format = .value) (runs : List (String × Context × Occasion))
    {source : String} {t : Template} (ht : Template.parse source = .ok t) (c : Context)
    (o : Occasion) :
    (∀ v, ((e.evaluateEach runs).evaluate source c o).1.outcome = .value v →
      ∀ span expression, .resolvable span expression ∈ t.segments →
      ∀ p, p ∈ config.security.blockedPatterns ∨ p ∈ SecurityConfig.mandatoryPatterns →
        p.search? expression = some none) ∧
    ∀ before span expression after, t.segments = before ++ .resolvable span expression :: after →
      (e.evaluateEach runs).Passes c o before →
      ∀ ps p qs found, config.security.patterns = ps ++ p :: qs →
        (∀ p' ∈ ps, p'.search? expression = some none) →
        p.search? expression = some (some found) →
        ((e.evaluateEach runs).evaluate source c o).1.outcome =
          .failure (.security (.pattern p.name))
            (some (found.shift (span.start + delimiterSize))) := by
  have henforces := enforces_evaluateEach he runs
  have hconfig : (e.evaluateEach runs).config = config := by
    obtain ⟨policy, -, rfl⟩ := exists_of_map_eq_ok he
    exact (evaluateEach_snd _ runs).1
  generalize e.evaluateEach runs = e' at henforces hconfig
  have hevaluate : e'.evaluate source c o = e'.evaluateTemplate t c o := by
    rw [evaluate, ht, hconfig, hformat]
  rw [hevaluate]
  constructor
  · intro v hv span expression hmem p hp
    obtain ⟨q, hrun⟩ := run_valueOf_of_evaluateTemplate hv
    have hallowed := allowed_of_valueOf hrun hmem
    exact henforces.search?_eq_none hallowed (SecurityConfig.mem_patterns.2 hp)
  · intro before span expression after hsegments hpasses ps p qs found hpatterns hps hp
    obtain ⟨text, q, hbefore⟩ := hpasses
    rw [hpatterns] at henforces
    have hblocked := henforces.findBlocked?_eq_some hps hp
    obtain ⟨q', hrun⟩ := run_valueOf_of_blocked hsegments hbefore hblocked
    rw [start] at hrun
    rw [evaluateTemplate, hrun]

end Engine

/-- The standard configuration with other patterns. -/
def EngineConfig.blocking (ps : List BlockedPattern) : EngineConfig :=
  { EngineConfig.standard with
    security := { SecurityConfig.standard with blockedPatterns := ps } }

/-- A pattern with the name of a mandatory one does not stand in for it. -/
theorem refused_of_blocked_renamed : ∃ e,
    Engine.ofConfig (.blocking [⟨"eval", "evil"⟩]) = .ok e ∧
    ((e.evaluateEach [("\x7b\x7b 1 + 1 \x7d\x7d", .atEpoch (.object []), .atOnce)]).evaluate
      "Say \x7b\x7b eval(2) \x7d\x7d" (.atEpoch (.object [])) .atOnce).1.outcome =
        .failure (.security (.pattern "eval")) (some ⟨7, 12⟩) := by
  have haccepted : (Engine.ofConfig (.blocking [⟨"eval", "evil"⟩])).toBool = true := by cbv
  cases he : Engine.ofConfig (.blocking [⟨"eval", "evil"⟩]) with
  | error error =>
    rw [he] at haccepted
    cases haccepted
  | ok e =>
    refine ⟨e, rfl, ?_⟩
    have ht : Template.parse "Say \x7b\x7b eval(2) \x7d\x7d" = .ok
        ⟨"Say \x7b\x7b eval(2) \x7d\x7d",
          [.literal ⟨0, 4⟩ "Say ", .resolvable ⟨4, 17⟩ " eval(2) "]⟩ := by cbv
    have hrefused := (Engine.refused_of_blocked he rfl
      [("\x7b\x7b 1 + 1 \x7d\x7d", .atEpoch (.object []), .atOnce)] ht (.atEpoch (.object []))
      .atOnce).2
    exact hrefused [.literal ⟨0, 4⟩ "Say "] ⟨4, 17⟩ " eval(2) " [] rfl ⟨"Say ", _, rfl⟩
      [⟨"eval", "evil"⟩] ⟨"eval", "\\beval\\s*\\("⟩
      [⟨"function_constructor", "\\bFunction\\s*\\("⟩] ⟨1, 6⟩ (by decide)
      (by simp only [List.forall_mem_singleton]; cbv) (by cbv)

end TemplateExpr
