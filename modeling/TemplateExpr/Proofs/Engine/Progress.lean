import TemplateExpr.Proofs.Engine.Compute

/-!
# Runs of an engine

What the evaluation of a template can lead to, part by part: `Engine.Resolves` lists the ways in
which an expression of a template can be resolved. A template has no faults but those of its
expressions and those of the memory that the texts of their values take up
(`Engine.fault_of_textOf`, `Engine.fault_of_valueOf`).
-/

namespace TemplateExpr

open TemplateExpr.Eval

/-! ### Progress -/

namespace Progress

variable (p : Progress) (o : Occasion) (key? : Option (Cache.Key Fingerprint))

/-- The progress when a result has been looked for and not been found. -/
def missing : Progress :=
  match key?, p.cache? with
  | some key, some cache => { p with cache? := some (cache.get o.start key).2 }
  | _, _ => p

/-- The progress when a result has been kept. -/
def keeping (v : Value) : Progress :=
  match key? with
  | some key => { p with cache? := p.cache?.map (·.insert o.start key v) }
  | none => p

@[simp] theorem meter_missing : (p.missing o key?).meter = p.meter := by
  unfold missing
  split <;> rfl

@[simp] theorem meter_keeping (v : Value) : (p.keeping o key? v).meter = p.meter := by
  unfold keeping
  split <;> rfl

end Progress

namespace Engine

variable {α β : Type}

/-- The run of two steps. -/
theorem run_bind (x : Evaluating α) (f : α → Evaluating β) (p : Progress) :
    (x >>= f).run.run p =
      match x.run.run p with
      | (.ok a, q) => (f a).run.run q
      | (.error fault, q) => (.error fault, q) := by
  unfold ExceptT.run StateT.run
  rcases h : x p with ⟨_ | a, q⟩
  · simp only [bind, ExceptT.bind, ExceptT.mk, StateT.bind, ExceptT.bindCont, h]
    rfl
  · simp only [bind, ExceptT.bind, ExceptT.mk, StateT.bind, ExceptT.bindCont, h]

/-- The run of a step whose fault is caught. -/
theorem run_recover (x : Evaluating α) (p : Progress) :
    (tryCatch (x *> pure none) fun fault => pure (some fault) :
        Evaluating (Option Fault)).run.run p =
      match x.run.run p with
      | (.ok _, q) => (.ok none, q)
      | (.error fault, q) => (.ok (some fault), q) := by
  unfold ExceptT.run StateT.run
  rcases h : x p with ⟨_ | a, q⟩ <;>
    simp only [tryCatch, tryCatchThe, MonadExceptOf.tryCatch, ExceptT.tryCatch, ExceptT.mk,
      SeqRight.seqRight, bind, ExceptT.bind, StateT.bind, ExceptT.bindCont, h] <;>
    rfl

/-- A result is found in the cache or not. -/
theorem run_lookUp (o : Occasion) (key? : Option (Cache.Key Fingerprint)) (p : Progress) :
    (lookUp o key?).run.run p = (.ok none, p.missing o key?) ∨
      ∃ key cache v, key? = some key ∧ p.cache? = some cache ∧
        (cache.get o.start key).1 = some v ∧
        (lookUp o key?).run.run p =
          (.ok (some v),
            { p with cache? := some (cache.get o.start key).2, hits := p.hits + 1 }) := by
  obtain ⟨meter, cache?, hits⟩ := p
  cases key? with
  | none => exact .inl rfl
  | some key =>
    cases cache? with
    | none => exact .inl rfl
    | some cache =>
      have hrun : (lookUp o (some key)).run.run ⟨meter, some cache, hits⟩ =
          (.ok (cache.get o.start key).1, ⟨meter, some (cache.get o.start key).2,
            hits + if (cache.get o.start key).1.isSome then 1 else 0⟩) := rfl
      rw [hrun]
      cases hfound : (cache.get o.start key).1 with
      | none => exact .inl rfl
      | some v => exact .inr ⟨key, cache, v, rfl, rfl, hfound, rfl⟩

/-! ### Expressions -/

section

variable (e : Engine) (o : Occasion) (s : Sandbox) (segment : Span) (source : String)
  (offset : Nat) (p : Progress)

/-- An expression is not blocked, the evaluation goes on, and the expression can be compiled. -/
structure Admits (compiled : Compiled) : Prop where
  allowed : e.policy.findBlocked? source = none
  proceeds : checkInterrupts.run s p.meter = (.ok (), p.meter)
  compiles : Compiled.ofText source offset = .ok compiled

/-- The ways in which an expression can be resolved. -/
inductive Resolves : Except Fault Value × Progress → Prop
  | blocked {found : BlockedMatch} : e.policy.findBlocked? source = some found →
    Resolves (.error ⟨.security (.pattern found.rule), found.span.shift offset⟩, p)
  | interrupted {f : Failure} {m : Meter} : e.policy.findBlocked? source = none →
    checkInterrupts.run s p.meter = (.error f, m) →
    Resolves (.error ⟨f.error, (f.span?.map (·.shift offset)).getD segment⟩, { p with meter := m })
  | rejected {error : ParseError} : e.policy.findBlocked? source = none →
    Compiled.ofText source offset = .error error →
    Resolves (.error ⟨.ofParseError error, error.position⟩, p)
  | found {compiled : Compiled} {key : Cache.Key Fingerprint} {cache : ResultCache} {v : Value} :
    Admits e s source offset p compiled → e.cacheKey? s.context compiled = some key →
    p.cache? = some cache → (cache.get o.start key).1 = some v →
    Resolves (.ok v, { p with cache? := some (cache.get o.start key).2, hits := p.hits + 1 })
  | failed {compiled : Compiled} {fault : Fault} {q : Progress} :
    Admits e s source offset p compiled →
    (e.compute s segment compiled).run.run (p.missing o (e.cacheKey? s.context compiled)) =
      (.error fault, q) →
    Resolves (.error fault, q)
  | computed {compiled : Compiled} {v : Value} {q : Progress} :
    Admits e s source offset p compiled →
    (e.compute s segment compiled).run.run (p.missing o (e.cacheKey? s.context compiled)) =
      (.ok v, q) →
    Resolves (.ok v, q.keeping o (e.cacheKey? s.context compiled) v)

theorem resolves :
    Resolves e o s segment source offset p
      ((e.resolve o s segment source offset).run.run p) := by
  unfold resolve
  cases hblocked : e.policy.findBlocked? source with
  | some found => exact .blocked hblocked
  | none =>
    rw [run_bind, run_runEval]
    rcases hinterrupts : checkInterrupts.run s p.meter with ⟨f | _, m⟩
    · exact .interrupted hblocked hinterrupts
    · obtain rfl : p.meter = m := by
        rw [run_checkInterrupts] at hinterrupts
        split_ifs at hinterrupts <;> exact (Prod.mk.inj hinterrupts).2
      dsimp only
      cases hcompiled : Compiled.ofText source offset with
      | error error => exact .rejected hblocked hcompiled
      | ok compiled =>
        have hadmits : Admits e s source offset p compiled := ⟨hblocked, hinterrupts, hcompiled⟩
        dsimp only
        rw [run_bind]
        rcases run_lookUp o (e.cacheKey? s.context compiled) p with
          hmiss | ⟨key, cache, v, hkey, hcache, hfound, hrun⟩
        · rw [hmiss]
          dsimp only
          rw [run_bind]
          rcases hrun : (e.compute s segment compiled).run.run
            (p.missing o (e.cacheKey? s.context compiled)) with ⟨fault | v, q⟩
          · exact .failed hadmits hrun
          · exact .computed hadmits hrun
        · rw [hrun]
          exact .found hadmits hkey hcache hfound

end

/-! ### Texts of templates -/

theorem run_textOf_resolvable (e : Engine) (o : Occasion) (s : Sandbox) (acc : List String)
    (span : Span) (source : String) (segments : List Segment) (p : Progress) :
    (e.textOf o s acc (.resolvable span source :: segments)).run.run p =
      match (e.resolve o s span source (span.start + delimiterSize)).run.run p with
      | (.error fault, q) => (.error fault, q)
      | (.ok v, q) =>
        match (reserve v.templateText.utf8ByteSize).run s q.meter with
        | (.error f, m) =>
          (.ok (.error ⟨f.error, (f.span?.map (·.shift 0)).getD span⟩), { q with meter := m })
        | (.ok _, m) =>
          (e.textOf o s (v.templateText :: acc) segments).run.run { q with meter := m } := by
  rw [textOf, run_bind]
  rcases (e.resolve o s span source (span.start + delimiterSize)).run.run p with ⟨fault | v, q⟩
  · rfl
  · dsimp only
    rw [run_bind, run_recover, run_runEval]
    rcases (reserve v.templateText.utf8ByteSize).run s q.meter with ⟨f | _, m⟩ <;> rfl

/-- An expression is resolved, memory is reserved for the text of its value, and the text of the
template goes on behind it. -/
theorem run_textOf_resolvable_eq_ok_iff {e : Engine} {o : Occasion} {s : Sandbox}
    {acc : List String} {span : Span} {source : String} {segments : List Segment} {p q : Progress}
    {text : String} :
    (e.textOf o s acc (.resolvable span source :: segments)).run.run p = (.ok (.ok text), q) ↔
      ∃ v q₁ m, (e.resolve o s span source (span.start + delimiterSize)).run.run p = (.ok v, q₁) ∧
        (reserve v.templateText.utf8ByteSize).run s q₁.meter = (.ok (), m) ∧
        (e.textOf o s (v.templateText :: acc) segments).run.run { q₁ with meter := m } =
          (.ok (.ok text), q) := by
  rw [run_textOf_resolvable]
  constructor
  · intro hrun
    split at hrun
    · cases hrun
    · next hresolve =>
      split at hrun
      · cases hrun
      · next hreserve => exact ⟨_, _, _, hresolve, hreserve, hrun⟩
  · rintro ⟨v, q₁, m, hresolve, hreserve, hrun⟩
    rw [hresolve]
    dsimp only
    rw [hreserve]
    exact hrun

/-- The texts of the first segments are put before those of the other ones. -/
theorem exists_run_textOf_append {e : Engine} {o : Occasion} {s : Sandbox} {before : List Segment}
    {acc : List String} {p q : Progress} {text : String}
    (hrun : (e.textOf o s acc before).run.run p = (.ok (.ok text), q)) :
    ∃ acc', text = String.join acc'.reverse ∧ ∀ after,
      (e.textOf o s acc (before ++ after)).run.run p = (e.textOf o s acc' after).run.run q := by
  induction before generalizing acc p with
  | nil =>
    obtain ⟨⟨⟨rfl⟩⟩, rfl⟩ := Prod.mk.inj hrun
    exact ⟨acc, rfl, fun _ => rfl⟩
  | cons segment before ih =>
    cases segment with
    | literal span text => exact ih hrun
    | resolvable span source =>
      obtain ⟨v, q₁, m, hresolve, hreserve, hrun⟩ := run_textOf_resolvable_eq_ok_iff.1 hrun
      obtain ⟨acc', htext, hafter⟩ := ih hrun
      refine ⟨acc', htext, fun after => ?_⟩
      rw [List.cons_append, run_textOf_resolvable, hresolve]
      dsimp only
      rw [hreserve]
      exact hafter after

/-! ### Values of templates -/

/-- A template that stands for the value of an expression has no other one. -/
theorem eq_of_singleExpression? {t : Template} {segment : Segment}
    (h : t.singleExpression? = some segment) {span : Span} {source : String}
    (hmem : .resolvable span source ∈ t.segments) : segment = .resolvable span source := by
  unfold Template.singleExpression? at h
  split at h
  · next hfilter =>
    obtain rfl := Option.some.inj h
    have hmem' : .resolvable span source ∈ t.segments.filter (!Template.isBlankText ·) :=
      List.mem_filter.2 ⟨hmem, rfl⟩
    rw [hfilter] at hmem'
    exact (List.mem_singleton.1 hmem').symm
  · cases h

theorem mem_of_singleExpression? {t : Template} {segment : Segment}
    (h : t.singleExpression? = some segment) :
    segment ∈ t.segments ∧ ∃ span source, segment = .resolvable span source := by
  unfold Template.singleExpression? at h
  split at h
  · next span source hfilter =>
    obtain rfl := Option.some.inj h
    have hmem := List.mem_filter.1 (hfilter ▸ List.mem_singleton_self _)
    exact ⟨hmem.1, span, source, rfl⟩
  · cases h

/-- The value of a template that stands for that of an expression. -/
theorem valueOf_single {t : Template} {span : Span} {source : String}
    (h : t.singleExpression? = some (.resolvable span source)) (e : Engine) (o : Occasion)
    (s : Sandbox) : e.valueOf o s t =
      e.resolve o s span source (span.start + delimiterSize) >>= fun v => pure (.ok v) := by
  rw [valueOf, h]
  rfl

/-- The value of a template that stands for its text. -/
theorem valueOf_text {t : Template} (h : t.singleExpression? = none) (e : Engine) (o : Occasion)
    (s : Sandbox) : e.valueOf o s t =
      e.textOf o s [] t.segments >>= fun text => pure (text.map .string) := by
  rw [valueOf, h]
  rfl

/-- The value of a template is that of its only expression, or else its text. -/
theorem valueOf_cases (t : Template) :
    (∃ span source, .resolvable span source ∈ t.segments ∧ ∀ (e : Engine) o s, e.valueOf o s t =
      e.resolve o s span source (span.start + delimiterSize) >>= fun v => pure (.ok v)) ∨
    ∀ (e : Engine) o s, e.valueOf o s t =
      e.textOf o s [] t.segments >>= fun text => pure (text.map .string) := by
  cases hsingle : t.singleExpression? with
  | none => exact .inr (valueOf_text hsingle)
  | some segment =>
    obtain ⟨hmem, span, source, rfl⟩ := mem_of_singleExpression? hsingle
    exact .inl ⟨span, source, hmem, valueOf_single hsingle⟩

section

variable {e : Engine} {o : Occasion} {s : Sandbox} {t : Template} {p q : Progress} {v : Value}

theorem run_valueOf_single_eq_ok_iff {span : Span} {source : String}
    (h : t.singleExpression? = some (.resolvable span source)) :
    (e.valueOf o s t).run.run p = (.ok (.ok v), q) ↔
      (e.resolve o s span source (span.start + delimiterSize)).run.run p = (.ok v, q) := by
  rw [valueOf_single h, run_bind]
  rcases (e.resolve o s span source (span.start + delimiterSize)).run.run p with ⟨fault | w, q'⟩
  · constructor <;> rintro ⟨⟩
  · constructor
    · rintro ⟨⟩
      rfl
    · rintro ⟨⟩
      rfl

theorem run_valueOf_text_eq_ok_iff (h : t.singleExpression? = none) :
    (e.valueOf o s t).run.run p = (.ok (.ok v), q) ↔ ∃ text, v = .string text ∧
      (e.textOf o s [] t.segments).run.run p = (.ok (.ok text), q) := by
  rw [valueOf_text h, run_bind]
  rcases (e.textOf o s [] t.segments).run.run p with ⟨fault | fault | text, q'⟩
  · constructor
    · rintro ⟨⟩
    · rintro ⟨_, -, ⟨⟩⟩
  · constructor
    · rintro ⟨⟩
    · rintro ⟨_, -, ⟨⟩⟩
  · constructor
    · rintro ⟨⟩
      exact ⟨text, rfl, rfl⟩
    · rintro ⟨_, rfl, ⟨⟩⟩
      rfl

end

/-- The evaluation of a template gives the value that the template has. -/
theorem outcome_evaluateTemplate {e : Engine} {t : Template} {c : Context} {o : Occasion}
    {v : Value} {q : Progress}
    (hrun : (e.valueOf o (e.sandbox c o) t).run.run ⟨.zero, e.cache?, 0⟩ = (.ok (.ok v), q)) :
    (e.evaluateTemplate t c o).1.outcome = .value v := by
  rw [evaluateTemplate, hrun]

theorem run_valueOf_of_evaluateTemplate {e : Engine} {t : Template} {c : Context} {o : Occasion}
    {v : Value} (hv : (e.evaluateTemplate t c o).1.outcome = .value v) :
    ∃ q, (e.valueOf o (e.sandbox c o) t).run.run ⟨.zero, e.cache?, 0⟩ = (.ok (.ok v), q) := by
  unfold evaluateTemplate at hv
  rcases hrun : (e.valueOf o (e.sandbox c o) t).run.run ⟨.zero, e.cache?, 0⟩ with ⟨r, q⟩
  rw [hrun] at hv
  rcases r with fault | fault | w
  · cases hv
  · cases hv
  · obtain rfl := Outcome.value.inj hv
    exact ⟨q, rfl⟩

/-! ### Faults of templates -/

/-- Every fault of a step satisfies `Q`. -/
def Blames (Q : Fault → Prop) (x : Evaluating α) : Prop :=
  ∀ ⦃p q : Progress⦄ ⦃fault : Fault⦄, x.run.run p = (.error fault, q) → Q fault

/-- The faults of a segment: those of its expression, and of the memory for the text of its
value. -/
structure BlamesSegment (e : Engine) (o : Occasion) (s : Sandbox) (Q : Fault → Prop) (span : Span)
    (source : String) : Prop where
  expression : Blames Q (e.resolve o s span source (span.start + delimiterSize))
  memory : Q ⟨.resourceLimit .memory s.policy.config.maxMemory, span⟩

variable {e : Engine} {o : Occasion} {s : Sandbox} {Q : Fault → Prop}

theorem fault_of_textOf {segments : List Segment}
    (hsegments : ∀ span source, .resolvable span source ∈ segments →
      e.BlamesSegment o s Q span source)
    {acc : List String} {p q : Progress} {r : Except Fault (Except Fault String)} {fault : Fault}
    (hrun : (e.textOf o s acc segments).run.run p = (r, q))
    (hfault : r = .error fault ∨ r = .ok (.error fault)) : Q fault := by
  induction segments generalizing acc p with
  | nil =>
    obtain ⟨rfl, -⟩ := Prod.mk.inj hrun
    rcases hfault with h | h <;> cases h
  | cons segment segments ih =>
    have hrest := fun span source h => hsegments span source (List.mem_cons_of_mem _ h)
    cases segment with
    | literal span text => exact ih hrest hrun
    | resolvable span source =>
      have hsegment := hsegments span source List.mem_cons_self
      rw [run_textOf_resolvable] at hrun
      split at hrun
      · next fault' _ hresolve =>
        obtain ⟨rfl, -⟩ := Prod.mk.inj hrun
        rcases hfault with h | h <;> cases h
        exact hsegment.expression hresolve
      · split at hrun
        · next f m hreserve =>
          obtain ⟨rfl, -⟩ := Prod.mk.inj hrun
          rcases hfault with h | h <;> cases h
          rw [run_reserve] at hreserve
          split_ifs at hreserve <;> cases hreserve
          exact hsegment.memory
        · exact ih hrest hrun

theorem fault_of_valueOf {t : Template}
    (ht : ∀ span source, .resolvable span source ∈ t.segments → e.BlamesSegment o s Q span source)
    {p q : Progress} {r : Except Fault (Except Fault Value)} {fault : Fault}
    (hrun : (e.valueOf o s t).run.run p = (r, q))
    (hfault : r = .error fault ∨ r = .ok (.error fault)) : Q fault := by
  rcases valueOf_cases t with ⟨span, source, hmem, hvalue⟩ | hvalue <;>
    rw [hvalue, run_bind] at hrun
  · split at hrun
    · obtain ⟨rfl, -⟩ := Prod.mk.inj hrun
      rcases hfault with h | h <;> cases h
    · next hresolve =>
      obtain ⟨rfl, -⟩ := Prod.mk.inj hrun
      rcases hfault with h | h <;> cases h
      exact (ht span source hmem).expression hresolve
  · split at hrun
    · next text _ htext =>
      obtain ⟨rfl, -⟩ := Prod.mk.inj hrun
      cases text with
      | error fault' =>
        rcases hfault with h | h <;> cases h
        exact fault_of_textOf ht htext (.inr rfl)
      | ok text => rcases hfault with h | h <;> cases h
    · next htext =>
      obtain ⟨rfl, -⟩ := Prod.mk.inj hrun
      rcases hfault with h | h <;> cases h
      exact fault_of_textOf ht htext (.inl rfl)

/-- A template that does not evaluate to a value has a fault. -/
theorem fault_of_evaluateTemplate {t : Template} {c : Context}
    (ht : ∀ span source, .resolvable span source ∈ t.segments →
      e.BlamesSegment o (e.sandbox c o) Q span source)
    {error : EvalError} {position? : Option Span}
    (hfails : (e.evaluateTemplate t c o).1.outcome = .failure error position?) :
    ∃ fault, Q fault ∧ error = fault.error ∧ position? = some fault.position := by
  unfold evaluateTemplate at hfails
  rcases hrun : (e.valueOf o (e.sandbox c o) t).run.run ⟨.zero, e.cache?, 0⟩ with ⟨r, q⟩
  rw [hrun] at hfails
  rcases r with fault | fault | v
  · obtain ⟨rfl, rfl⟩ := Outcome.failure.inj hfails
    exact ⟨fault, fault_of_valueOf ht hrun (.inl rfl), rfl, rfl⟩
  · obtain ⟨rfl, rfl⟩ := Outcome.failure.inj hfails
    exact ⟨fault, fault_of_valueOf ht hrun (.inr rfl), rfl, rfl⟩
  · cases hfails

end Engine

/-! ### Trees of templates -/

/-- The trees are not shown because of an expression that cannot be read. -/
theorem Template.error_of_tree {t : Template} {error : ParseError} (h : t.tree = .error error) :
    ∃ segment ∈ t.segments, Compiled.ofSegment? segment = some (.error error) := by
  have hmapM {rs : List (Except ParseError Compiled)} (hrs : rs.mapM id = .error error) :
      .error error ∈ rs := by
    induction rs with
    | nil => cases hrs
    | cons r rs ih =>
      rw [List.mapM_cons] at hrs
      cases r with
      | error e =>
        cases hrs
        exact List.mem_cons_self
      | ok compiled =>
        cases hrest : rs.mapM id with
        | error e =>
          rw [hrest] at hrs ih
          cases hrs
          exact List.mem_cons_of_mem _ (ih rfl)
        | ok compileds =>
          rw [hrest] at hrs
          cases hrs
  unfold Template.tree at h
  cases hall : (t.segments.filterMap Compiled.ofSegment?).mapM id with
  | ok compiled =>
    rw [hall] at h
    cases h
  | error e =>
    rw [hall] at h
    cases h
    exact List.mem_filterMap.1 (hmapM hall)

end TemplateExpr
