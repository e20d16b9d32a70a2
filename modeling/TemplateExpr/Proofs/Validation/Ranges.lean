import TemplateExpr.Proofs.Engine.Ranges
import TemplateExpr.Proofs.Validation.Basic
import TemplateExpr.Validation.Printer

/-!
# Where problems lie

Issues point at ranges of the template, and the printer underlines the text in them, if every
expression that cannot be read fails at a single byte (`isRange_of_failsAtBytes`). Without that the
byte of the error can lie within a character (`not_isRange_section`).

Every layer points at the places of its findings: the nodes of an expression, what is blocked, or
the segment. Collecting issues only leaves some of them out.
-/

namespace TemplateExpr

open TemplateExpr.Text

/-! ### Issues -/

/-- The issue has no place, or a range of the text. -/
def Issue.LiesIn (source : String) (i : Issue) : Prop :=
  ∀ l ∈ i.location?, l.span.IsRange source.toList

theorem Issue.liesIn_ofSpan {source : String} {span : Span} (h : span.IsRange source.toList)
    (problem : Problem) : (Issue.ofSpan source span problem).LiesIn source := by
  rintro l ⟨⟩
  rwa [Location.ofSpan, Nat.max_eq_right h.start_le_stop]

namespace Validation

theorem mem_of_keepErrors {room : Nat} {issues : List Issue} {i : Issue}
    (h : i ∈ (keepErrors room issues).1) : i ∈ issues := by
  fun_induction keepErrors room issues with
  | case1 => exact h
  | case2 room j issues hj kept left hkept ih =>
    rw [hkept] at ih
    exact (List.mem_cons.1 h).elim (· ▸ List.mem_cons_self) fun h => List.mem_cons_of_mem _ (ih h)
  | case3 j issues hj ih => exact List.mem_cons_of_mem _ (ih h)
  | case4 j issues hj room kept left hkept ih =>
    rw [hkept] at ih
    exact (List.mem_cons.1 h).elim (· ▸ List.mem_cons_self) fun h => List.mem_cons_of_mem _ (ih h)

/-- What is collected has been found by one of the layers. -/
theorem exists_of_collect {check : Layer → List Issue} {room : Nat} {layers : List Layer}
    {i : Issue} (h : i ∈ collect check room layers) : ∃ layer ∈ layers, i ∈ check layer := by
  induction layers generalizing room with
  | nil => cases h
  | cons layer layers ih =>
    have hcases : i ∈ (keepErrors room (check layer)).1 ∨
        i ∈ collect check (keepErrors room (check layer)).2 layers := by
      dsimp only [collect] at h
      split at h
      · exact .inl h
      · exact List.mem_append.1 h
    rcases hcases with hkept | hmore
    · exact ⟨layer, List.mem_cons_self, mem_of_keepErrors hkept⟩
    · obtain ⟨later, hlater, hi⟩ := ih hmore
      exact ⟨later, List.mem_cons_of_mem _ hlater, hi⟩

theorem mem_issues_ofIssues {issues : List Issue} {i : Issue} :
    i ∈ (ofIssues issues).issues ↔ i ∈ issues := by
  simp only [Validation.issues, ofIssues, List.mem_append, List.mem_filter, Bool.not_eq_true']
  cases i.isError <;> simp

end Validation

/-! ### Layers -/

/-- The expression stands in the template, and if it cannot be read, the byte of the error is a
range of the template. -/
structure CheckedExpression.StandsIn (template : String) (e : CheckedExpression) : Prop where
  expressionAt : ExpressionAt template e.span e.source e.offset
  compiled : ∀ r ∈ e.compiled?, r = Compiled.ofText e.source e.offset
  error : ∀ error, Compiled.ofText e.source e.offset = .error error →
    Span.IsRange template.toList ⟨error.offset, error.offset + 1⟩

/-- What the analysis of a checked expression points at are ranges of the expression. -/
theorem CheckedExpression.StandsIn.placed {template : String} {e : CheckedExpression}
    (he : e.StandsIn template) {a : Analysis} (ha : e.analysis? = some a) :
    a.Placed (Span.IsRange e.source.toList) := by
  unfold analysis? at ha
  split at ha
  · next compiled hcompiled =>
    obtain rfl := Option.some.inj ha
    exact (Compiled.written_of_ofText (he.compiled _ hcompiled).symm).1
  · cases ha

namespace CheckInput

variable {i : CheckInput}

theorem liesIn_issueIn {e : CheckedExpression} (he : e.StandsIn i.template) {span : Span}
    (hspan : span.IsRange e.source.toList) (problem : Problem) :
    (i.issueIn e span problem).LiesIn i.template :=
  Issue.liesIn_ofSpan (he.expressionAt.isRange hspan) problem

theorem liesIn_nameIssues {e : CheckedExpression} (he : e.StandsIn i.template) {a : Analysis}
    (ha : a.Placed (Span.IsRange e.source.toList)) :
    ∀ issue ∈ i.nameIssues e a, issue.LiesIn i.template := by
  refine List.forall_mem_append.2 ⟨List.forall_mem_append.2 ⟨?_, ?_⟩, ?_⟩
  · rintro _ hissue
    obtain ⟨name, hname, rfl⟩ := List.mem_map.1 hissue
    exact liesIn_issueIn he (ha.freeNames name (List.mem_filter.1 hname).1) _
  · rintro _ hissue
    obtain ⟨method, hmethod, rfl⟩ := List.mem_map.1 hissue
    exact liesIn_issueIn he (ha.methodCalls method (List.mem_filter.1 hmethod).1) _
  · rintro _ hissue
    obtain ⟨node, hnode, rfl⟩ := List.mem_map.1 hissue
    split at hnode
    · exact liesIn_issueIn he (ha.nodeReferences node (List.mem_filter.1 hnode).1) _
    · cases hnode

variable (h : ∀ e ∈ i.expressions, e.StandsIn i.template)

include h

theorem liesIn_grammarIssues : ∀ issue ∈ i.grammarIssues, issue.LiesIn i.template := by
  intro issue hissue
  obtain ⟨error, herror, rfl⟩ := List.mem_map.1 hissue
  obtain ⟨e, hmem, he⟩ := List.mem_filterMap.1 herror
  unfold CheckedExpression.error? at he
  split at he
  · next hcompiled =>
    obtain rfl := Option.some.inj he
    have hrange := (h e hmem).error _ ((h e hmem).compiled _ hcompiled).symm
    refine Issue.liesIn_ofSpan ?_ _
    rwa [errorSpan, hrange.clip]
  · cases he

theorem liesIn_semanticIssues : ∀ issue ∈ i.semanticIssues, issue.LiesIn i.template := by
  intro issue hissue
  obtain ⟨e, hmem, hissue⟩ := List.mem_flatMap.1 hissue
  split at hissue
  · next a ha =>
    split at hissue
    · cases hissue
    · exact liesIn_nameIssues (h e hmem) ((h e hmem).placed ha) issue hissue
  · cases hissue

theorem liesIn_securityIssues : ∀ issue ∈ i.securityIssues, issue.LiesIn i.template := by
  intro issue hissue
  obtain ⟨e, hmem, hissue⟩ := List.mem_flatMap.1 hissue
  split at hissue
  · next found _ hfound =>
    obtain rfl := List.mem_singleton.1 hissue
    exact liesIn_issueIn (h e hmem) (Policy.isRange_findBlocked? hfound) _
  · next a _ ha =>
    have hplaced := (h e hmem).placed ha
    rcases List.mem_append.1 hissue with hissue | hissue
    · obtain ⟨span, hspan, rfl⟩ := List.mem_map.1 hissue
      exact liesIn_issueIn (h e hmem) (hplaced.assignments span hspan) _
    · split at hissue
      · obtain ⟨span, hspan, rfl⟩ := List.mem_map.1 hissue
        exact liesIn_issueIn (h e hmem) (hplaced.computedKeys span hspan) _
      · cases hissue
  · cases hissue

theorem liesIn_performanceIssues : ∀ issue ∈ i.performanceIssues, issue.LiesIn i.template := by
  intro issue hissue
  obtain ⟨e, hmem, hissue⟩ := List.mem_flatMap.1 hissue
  obtain ⟨problem, -, rfl⟩ := List.mem_map.1 hissue
  exact Issue.liesIn_ofSpan (h e hmem).expressionAt.segment problem

theorem liesIn_businessIssues : ∀ issue ∈ i.businessIssues, issue.LiesIn i.template := by
  intro issue hissue
  rcases List.mem_append.1 hissue with hissue | hissue
  · obtain ⟨e, hmem, hissue⟩ := List.mem_filterMap.1 hissue
    obtain ⟨problem, -, rfl⟩ := Option.map_eq_some_iff.1 hissue
    exact Issue.liesIn_ofSpan (h e hmem).expressionAt.segment problem
  · split at hissue
    · obtain rfl := List.mem_singleton.1 hissue
      exact fun _ hl => by cases hl
    · cases hissue

theorem liesIn_issuesOf (layer : Layer) : ∀ issue ∈ i.issuesOf layer, issue.LiesIn i.template := by
  cases layer with
  | grammar => exact liesIn_grammarIssues h
  | semantic => exact liesIn_semanticIssues h
  | security => exact liesIn_securityIssues h
  | performance => exact liesIn_performanceIssues h
  | business => exact liesIn_businessIssues h

end CheckInput

/-! ### Templates -/

theorem Validation.standsIn {source : String} (hbytes : Template.failsAtBytes source = true)
    {t : Template} (ht : Template.parse source = .ok t) {limits : ValidationLimits}
    {e : CheckedExpression}
    (he : e ∈ t.segments.filterMap (CheckedExpression.ofSegment? limits)) : e.StandsIn source := by
  obtain ⟨segment, hsegment, hchecked⟩ := List.mem_filterMap.1 he
  cases segment with
  | literal => cases hchecked
  | resolvable span text =>
    obtain rfl := Option.some.inj hchecked
    refine ⟨Template.expressionAt ht hsegment, fun r hr => ?_, fun error herror => ?_⟩
    · dsimp only at hr
      split at hr
      · cases hr
      · exact (Option.some.inj hr).symm
    · exact Template.isRange_parseError hbytes ht (Template.mem_parseErrors hsegment herror)

theorem Validation.liesIn_ofText {source : String} (hbytes : Template.failsAtBytes source = true)
    (policy : Policy) (limits : ValidationLimits) (context? : Option Context) :
    ∀ issue ∈ (ofText policy limits context? source).issues, issue.LiesIn source := by
  intro issue hissue
  unfold ofText at hissue
  split at hissue
  · next error hparse =>
    have hmem := mem_issues_ofIssues.1 hissue
    have hrange := Template.isRange_unmatched hparse
    split at hmem
    · obtain rfl := List.mem_singleton.1 hmem
      refine Issue.liesIn_ofSpan ?_ _
      rwa [CheckInput.errorSpan, hrange.clip]
    · cases hmem
  · next t hparse =>
    obtain ⟨layer, -, hlayer⟩ := exists_of_collect (mem_issues_ofIssues.1 hissue)
    have hsource : t.source = source := by
      have hlossless := Template.parse_lossless source
      rw [hparse] at hlossless
      exact hlossless.1
    rw [hsource] at hlayer
    exact CheckInput.liesIn_issuesOf (fun e => standsIn hbytes hparse) layer issue hlayer

/-- The place of a failed evaluation and those of all issues are ranges of the template, and what
the printer cuts out of the template to underline it is the text that the range holds, if each
expression that cannot be read fails at a single byte. -/
theorem isRange_of_failsAtBytes {source : String} (hbytes : Template.failsAtBytes source = true)
    {c : Context} (hdata : c.IsData) (e : Engine) (o : Occasion) (policy : Policy)
    (limits : ValidationLimits) (context? : Option Context) :
    (∀ position ∈ (e.evaluate source c o).1.position?, position.IsRange source.toList) ∧
    ∀ issue ∈ (Validation.ofText policy limits context? source).issues,
      ∀ l ∈ issue.location?, l.span.IsRange source.toList ∧
        l.span.Holds source (slice source l.span.start (min l.span.stop source.utf8ByteSize)) := by
  refine ⟨Engine.isRange_of_evaluate hdata hbytes, ?_⟩
  intro issue hissue l hl
  have hrange := Validation.liesIn_ofText hbytes policy limits context? issue hissue l hl
  exact ⟨hrange, hrange.holds⟩

/-- A parenthesis behind a character of two bytes. -/
theorem isRange_of_failsAtBytes_parenthesis :
    (Engine.plain.evaluate "\x7b\x7b 'ä' + ) \x7d\x7d" (.atEpoch (.object [])) .atOnce).1.position? =
        some ⟨10, 11⟩ ∧
      ((Validation.ofText Engine.plain.policy .standard none "\x7b\x7b 'ä' + ) \x7d\x7d").issues.filterMap
        Issue.location?).map Location.span = [⟨10, 11⟩] ∧
      Span.IsRange "\x7b\x7b 'ä' + ) \x7d\x7d".toList ⟨10, 11⟩ := by
  have hposition : (Engine.plain.evaluate "\x7b\x7b 'ä' + ) \x7d\x7d" (.atEpoch (.object []))
      .atOnce).1.position? = some ⟨10, 11⟩ := by
    decide +kernel
  refine ⟨hposition, by decide +kernel, ?_⟩
  exact (isRange_of_failsAtBytes (by decide +kernel) (isData_empty _) Engine.plain .atOnce
    Engine.plain.policy .standard none).1 _ hposition

/-- A character of two bytes that no expression has: both the place of the failure and that of the
issue end within it. -/
theorem not_isRange_section :
    (Engine.plain.evaluate "\x7b\x7b 1 § 2 \x7d\x7d" (.atEpoch (.object [])) .atOnce).1.position? =
        some ⟨5, 6⟩ ∧
      ((Validation.ofText Engine.plain.policy .standard none "\x7b\x7b 1 § 2 \x7d\x7d").issues.filterMap
        Issue.location?).map Location.span = [⟨5, 6⟩] ∧
      ¬Span.IsRange "\x7b\x7b 1 § 2 \x7d\x7d".toList ⟨5, 6⟩ := by
  decide +kernel

end TemplateExpr
