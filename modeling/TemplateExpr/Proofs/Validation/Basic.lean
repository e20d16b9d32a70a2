import Mathlib
import TemplateExpr.Validation.Basic

/-!
# What validation accepts

A template without errors has no errors in any layer that has been run: the limit on the number of
errors hides further errors, but not the first one. So every expression of a valid template is read,
is not blocked, uses allowed names only, assigns nothing and has no computed keys if they are
refused (`Validation.accepts_of_isValid`). An expression that is skipped by one layer, because its
text is too long or blocked, has an error in another one.
-/

namespace TemplateExpr

namespace Validation

/-! ### Collecting -/

/-- Of the issues of a layer, the first errors are kept, and they take up the room. -/
theorem keepErrors_spec (room : Nat) (issues : List Issue) :
    (keepErrors room issues).1.filter Issue.isError = (issues.filter Issue.isError).take room ∧
      (keepErrors room issues).2 = room - (issues.filter Issue.isError).length := by
  induction issues generalizing room with
  | nil => simp [keepErrors]
  | cons i issues ih =>
    cases hi : i.isError with
    | false =>
      simp only [keepErrors, hi, Bool.not_false, if_true, List.filter_cons_of_neg,
        Bool.false_eq_true, not_false_eq_true]
      exact ih room
    | true =>
      rw [List.filter_cons_of_pos hi]
      cases room with
      | zero =>
        simp only [keepErrors, hi, Bool.not_true, Bool.false_eq_true, if_false, List.take_zero,
          Nat.zero_sub]
        obtain ⟨hkept, hleft⟩ := ih 0
        rw [List.take_zero] at hkept
        rw [Nat.zero_sub] at hleft
        exact ⟨hkept, hleft⟩
      | succ room =>
        simp only [keepErrors, hi, Bool.not_true, Bool.false_eq_true, if_false,
          List.filter_cons_of_pos, List.take_succ_cons, List.length_cons, Nat.add_sub_add_right]
        obtain ⟨hkept, hleft⟩ := ih room
        exact ⟨congrArg _ hkept, hleft⟩

/-- Of all layers together, the first errors are kept. -/
theorem filter_collect (check : Layer → List Issue) (room : Nat) (layers : List Layer) :
    (collect check room layers).filter Issue.isError =
      ((layers.flatMap check).filter Issue.isError).take room := by
  induction layers generalizing room with
  | nil => simp [collect]
  | cons layer layers ih =>
    obtain ⟨hkept, hleft⟩ := keepErrors_spec room (check layer)
    rw [List.flatMap_cons, List.filter_append, List.take_append, ← hkept, ← hleft]
    simp only [collect]
    split_ifs with hfull
    · rw [hfull, List.take_zero, List.append_nil]
    · rw [List.filter_append, ih]

theorem collect_clean {check : Layer → List Issue} {room : Nat} (hroom : 0 < room)
    {layers : List Layer} (h : ∀ i ∈ collect check room layers, i.isError = false) :
    ∀ layer ∈ layers, ∀ i ∈ check layer, i.isError = false := by
  have hkept : (collect check room layers).filter Issue.isError = [] :=
    List.filter_eq_nil_iff.2 fun i hi => by simp [h i hi]
  rw [filter_collect, List.take_eq_nil_iff] at hkept
  have hclean := List.filter_eq_nil_iff.1 (hkept.resolve_left (Nat.ne_of_gt hroom))
  intro layer hlayer i hi
  exact Bool.eq_false_iff.2 (hclean i (List.mem_flatMap.2 ⟨layer, hlayer, hi⟩))

theorem isValid_ofIssues {issues : List Issue} :
    (ofIssues issues).isValid = true ↔ ∀ i ∈ issues, i.isError = false := by
  simp [ofIssues, isValid]

/-- What the checks of a template look at. -/
def input (policy : Policy) (limits : ValidationLimits) (context? : Option Context) (t : Template) :
    CheckInput :=
  ⟨t.source, t.segments.filterMap (CheckedExpression.ofSegment? limits), context?, limits, policy⟩

/-- A valid text can be cut into segments, and no layer finds an error. -/
theorem clean_of_isValid {policy : Policy} {limits : ValidationLimits} {context? : Option Context}
    {source : String} (hlayers : ∀ layer, limits.runs layer = true) (hmax : 1 ≤ limits.maxErrors)
    (h : (ofText policy limits context? source).isValid = true) :
    ∃ t, Template.parse source = .ok t ∧
      ∀ layer, ∀ i ∈ (input policy limits context? t).issuesOf layer, i.isError = false := by
  unfold ofText at h
  cases hparse : Template.parse source with
  | error e =>
    rw [hparse] at h
    dsimp only [ofDelimiterError] at h
    rw [isValid_ofIssues, hlayers, if_pos rfl, List.forall_mem_singleton] at h
    cases h
  | ok t =>
    rw [hparse] at h
    refine ⟨t, rfl, fun layer => ?_⟩
    refine collect_clean hmax (isValid_ofIssues.1 h) layer (List.mem_filter.2 ⟨?_, hlayers layer⟩)
    cases layer <;> decide

end Validation

/-! ### Expressions -/

/-- What is known about an expression of a valid template. -/
structure Policy.Accepts (policy : Policy) (source : String) (compiled : Compiled) : Prop where
  unblocked : policy.findBlocked? source = none
  names : ∀ n ∈ compiled.analysis.freeNames, policy.allowsGlobal n.value = true
  assignments : compiled.analysis.assignments = []
  computedKeys : policy.config.strictGrammar = true → compiled.analysis.computedKeys = []

namespace CheckInput

variable {i : CheckInput} {e : CheckedExpression} (he : e ∈ i.expressions)

include he

/-- An expression that is read or reported is read. -/
theorem compiled_of_clean (h : ∀ issue ∈ i.grammarIssues, issue.isError = false)
    {r : Except ParseError Compiled} (hr : e.compiled? = some r) : ∃ compiled, r = .ok compiled := by
  cases r with
  | ok compiled => exact ⟨compiled, rfl⟩
  | error error =>
    have herror : e.error? = some error := by rw [CheckedExpression.error?, hr]
    have hmem := List.mem_map_of_mem (f := fun e => i.issue (errorSpan i.template 1 e) (.unreadable e))
      (List.mem_filterMap.2 ⟨e, he, herror⟩)
    cases h _ hmem

theorem unblocked_of_clean (h : ∀ issue ∈ i.securityIssues, issue.isError = false) :
    i.policy.findBlocked? e.source = none := by
  cases hfound : i.policy.findBlocked? e.source with
  | none => rfl
  | some found =>
    have hmem : i.issueIn e found.span (.blocked found.rule) ∈ i.securityIssues :=
      List.mem_flatMap.2 ⟨e, he, by rw [hfound]; exact List.mem_singleton_self _⟩
    cases h _ hmem

theorem length_of_clean (h : ∀ issue ∈ i.performanceIssues, issue.isError = false) :
    e.source.utf8ByteSize ≤ i.limits.maxExpressionLength := by
  by_contra hlong
  have hproblem : measureProblem? i.limits .length e.source.utf8ByteSize =
      some (.above .length e.source.utf8ByteSize i.limits.maxExpressionLength) :=
    if_pos (Nat.lt_of_not_le hlong)
  have hmem : i.issue e.span (.above .length e.source.utf8ByteSize i.limits.maxExpressionLength) ∈
      i.performanceIssues := by
    refine List.mem_flatMap.2 ⟨e, he, List.mem_map_of_mem (List.mem_append_left _ ?_)⟩
    rw [hproblem]
    exact List.mem_singleton_self _
  cases h _ hmem

theorem accepts_of_clean (hsemantic : ∀ issue ∈ i.semanticIssues, issue.isError = false)
    (hsecurity : ∀ issue ∈ i.securityIssues, issue.isError = false) {compiled : Compiled}
    (hcompiled : e.compiled? = some (.ok compiled)) : i.policy.Accepts e.source compiled := by
  have hunblocked := unblocked_of_clean he hsecurity
  have hanalysis : e.analysis? = some compiled.analysis := by
    rw [CheckedExpression.analysis?, hcompiled]
  refine ⟨hunblocked, fun n hn => ?_, ?_, fun hstrict => ?_⟩
  · by_contra hallowed
    have hmem : i.issueIn e n.span (i.undefinedName n.value) ∈ i.semanticIssues := by
      refine List.mem_flatMap.2 ⟨e, he, ?_⟩
      rw [hanalysis]
      dsimp only
      rw [hunblocked]
      refine List.mem_append_left _ (List.mem_append_left _ (List.mem_map_of_mem ?_))
      exact List.mem_filter.2 ⟨hn, by simpa using hallowed⟩
    cases hsemantic _ hmem
  · refine List.eq_nil_iff_forall_not_mem.2 fun span hspan => ?_
    have hmem : i.issueIn e span .assignment ∈ i.securityIssues := by
      refine List.mem_flatMap.2 ⟨e, he, ?_⟩
      rw [hunblocked, hanalysis]
      exact List.mem_append_left _ (List.mem_map_of_mem hspan)
    cases hsecurity _ hmem
  · refine List.eq_nil_iff_forall_not_mem.2 fun span hspan => ?_
    have hmem : i.issueIn e span .computedKey ∈ i.securityIssues := by
      refine List.mem_flatMap.2 ⟨e, he, ?_⟩
      rw [hunblocked, hanalysis]
      refine List.mem_append_right _ ?_
      rw [if_pos hstrict]
      exact List.mem_map_of_mem hspan
    cases hsecurity _ hmem

end CheckInput

/-- The expressions of a valid template are compiled, and accepted by the policy. -/
theorem Validation.accepts_of_isValid {policy : Policy} {limits : ValidationLimits}
    {context? : Option Context} {source : String} (hlayers : ∀ layer, limits.runs layer = true)
    (hmax : 1 ≤ limits.maxErrors) (h : (ofText policy limits context? source).isValid = true) :
    ∃ t, Template.parse source = .ok t ∧ ∀ segment ∈ t.segments,
      ∀ expression ∈ segment.expression?, ∃ compiled,
        Compiled.ofText expression.1 expression.2 = .ok compiled ∧
          policy.Accepts expression.1 compiled := by
  obtain ⟨t, hparse, hclean⟩ := clean_of_isValid hlayers hmax h
  refine ⟨t, hparse, fun segment hsegment ⟨text, offset⟩ hexpression => ?_⟩
  let tooLong := limits.runs .performance && limits.maxExpressionLength < text.utf8ByteSize
  let e : CheckedExpression :=
    ⟨segment.span, text, offset, if tooLong then none else some (Compiled.ofText text offset)⟩
  have he : e ∈ (input policy limits context? t).expressions := by
    refine List.mem_filterMap.2 ⟨segment, hsegment, ?_⟩
    rw [CheckedExpression.ofSegment?, Option.mem_def.1 hexpression]
    rfl
  have hlength : text.utf8ByteSize ≤ limits.maxExpressionLength :=
    CheckInput.length_of_clean he (hclean .performance)
  have hcompiled : e.compiled? = some (Compiled.ofText text offset) := by
    refine if_neg ?_
    simp [tooLong, Nat.not_lt.2 hlength]
  obtain ⟨compiled, hok⟩ := CheckInput.compiled_of_clean he (hclean .grammar) hcompiled
  refine ⟨compiled, hok, ?_⟩
  exact CheckInput.accepts_of_clean he (hclean .semantic) (hclean .security) (hok ▸ hcompiled)

end TemplateExpr

/-!
## What validation reports

The errors that are reported are the first ones of all errors that the layers find, as many as the
limit admits (`errors_ofTemplate`). So a limit that admits an error hides no invalid template: a
template is invalid if and only if a layer that is run finds an error
(`isValid_ofText_eq_false_iff`). A limit of zero hides all errors (`undefinedName_unreported`).
-/

namespace TemplateExpr.Validation

/-! ### Templates -/

section

variable (policy : Policy) (limits : ValidationLimits) (context? : Option Context)

/-- All errors of the layers that are run, layer by layer. -/
def found (t : Template) : List Issue :=
  ((Layer.all.filter limits.runs).flatMap (input policy limits context? t).issuesOf).filter
    Issue.isError

theorem mem_found {t : Template} {i : Issue} : i ∈ found policy limits context? t ↔
    ∃ layer, limits.runs layer = true ∧ i ∈ (input policy limits context? t).issuesOf layer ∧
      i.isError = true := by
  have hall (layer : Layer) : layer ∈ Layer.all := by cases layer <;> decide
  simp only [found, List.mem_filter, List.mem_flatMap, hall, true_and]
  constructor
  · rintro ⟨⟨layer, hruns, hi⟩, herror⟩
    exact ⟨layer, hruns, hi, herror⟩
  · rintro ⟨layer, hruns, hi, herror⟩
    exact ⟨⟨layer, hruns, hi⟩, herror⟩

/-- The errors that are reported are the first ones, as many as there is room for. -/
theorem errors_ofTemplate (t : Template) : (ofTemplate policy limits context? t).errors =
    (found policy limits context? t).take limits.maxErrors :=
  filter_collect (input policy limits context? t).issuesOf _ _

/-- A template that can be cut into segments is invalid if and only if a layer that is run finds an
error, provided that the limit admits an error. Of the errors of the layers that are run, in the
order of the layers, the first ones are reported, as many as the limit admits. -/
theorem isValid_ofText_eq_false_iff {source : String} {t : Template}
    (hparse : Template.parse source = .ok t) :
    (1 ≤ limits.maxErrors →
      ((ofText policy limits context? source).isValid = false ↔
        ∃ layer, limits.runs layer = true ∧
          ∃ i ∈ (input policy limits context? t).issuesOf layer, i.isError = true)) ∧
    (ofText policy limits context? source).errors =
      ((([.grammar, .semantic, .security, .performance, .business].filter limits.runs).flatMap
        (input policy limits context? t).issuesOf).filter Issue.isError).take limits.maxErrors := by
  have herrors : (ofText policy limits context? source).errors =
      (found policy limits context? t).take limits.maxErrors := by
    rw [ofText, hparse]
    exact errors_ofTemplate policy limits context? t
  refine ⟨fun hmax => ?_, herrors⟩
  have hempty : (ofText policy limits context? source).isValid = false ↔
      found policy limits context? t ≠ [] := by
    rw [isValid, herrors, List.isEmpty_eq_false_iff, Ne, List.take_eq_nil_iff, not_or]
    exact and_iff_right (Nat.ne_of_gt hmax)
  rw [hempty]
  constructor
  · intro hne
    obtain ⟨i, hi⟩ := List.exists_mem_of_ne_nil _ hne
    obtain ⟨layer, hruns, hmem, herror⟩ := (mem_found policy limits context?).1 hi
    exact ⟨layer, hruns, i, hmem, herror⟩
  · rintro ⟨layer, hruns, i, hmem, herror⟩
    exact List.ne_nil_of_mem ((mem_found policy limits context?).2 ⟨layer, hruns, hmem, herror⟩)

end

/-- A template with errors in two layers, of which the limit admits one: the first layer finds the
second expression unreadable. -/
theorem isValid_ofText_eq_false_iff_twoErrors :
    (ofText ⟨.standard, []⟩ { ValidationLimits.standard with maxErrors := 1 } none
        "\x7b\x7b foo \x7d\x7d\x7b\x7b 1 + \x7d\x7d").isValid = false ∧
      (ofText ⟨.standard, []⟩ { ValidationLimits.standard with maxErrors := 1 } none
        "\x7b\x7b foo \x7d\x7d\x7b\x7b 1 + \x7d\x7d").errors.map (·.problem.layer) =
          [.grammar] := by
  have hparse : Template.parse "\x7b\x7b foo \x7d\x7d\x7b\x7b 1 + \x7d\x7d" = .ok
      ⟨"\x7b\x7b foo \x7d\x7d\x7b\x7b 1 + \x7d\x7d",
        [.resolvable ⟨0, 9⟩ " foo ", .resolvable ⟨9, 18⟩ " 1 + "]⟩ := by cbv
  obtain ⟨hvalid, herrors⟩ := isValid_ofText_eq_false_iff ⟨.standard, []⟩
    { ValidationLimits.standard with maxErrors := 1 } none hparse
  refine ⟨(hvalid (Nat.le_refl 1)).2 ⟨.grammar, by decide, ?_⟩, ?_⟩
  · exact List.any_eq_true.1 (by decide +kernel)
  · rw [herrors]
    decide +kernel

/-- A name that is not defined is not reported if no error may be, and the template is valid. -/
theorem undefinedName_unreported :
    ∃ t, Template.parse "\x7b\x7b foo \x7d\x7d" = .ok t ∧
      ({ ValidationLimits.standard with maxErrors := 0 } : ValidationLimits).runs .semantic = true ∧
      (∃ i ∈ (input ⟨.standard, []⟩ { ValidationLimits.standard with maxErrors := 0 } none
        t).issuesOf .semantic, i.isError = true) ∧
      (ofText ⟨.standard, []⟩ { ValidationLimits.standard with maxErrors := 0 } none
        "\x7b\x7b foo \x7d\x7d").isValid = true := by
  refine ⟨⟨"\x7b\x7b foo \x7d\x7d", [.resolvable ⟨0, 9⟩ " foo "]⟩, by cbv, by decide, ?_,
    by decide +kernel⟩
  exact List.any_eq_true.1 (by decide +kernel)

end TemplateExpr.Validation
