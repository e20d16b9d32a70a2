import TemplateExpr.Proofs.Engine.Limits
import TemplateExpr.Proofs.Template.Segments

/-!
# Templates and their expressions

The value of a template is put together from those of its expressions, each of which is evaluated as
if it stood alone: between its delimiters an expression is a template of its own
(`Template.parse_sourceText`), and what has been used by the segments in front of it does not change
its value (`Engine.outcome_sourceText_of_resolve`). `Engine.evaluate_eq_join` says so of whole
templates.
-/

namespace TemplateExpr

open TemplateExpr.Eval TemplateExpr.Text

/-! ### Expressions as templates -/

namespace Template

/-- An expression that has been cut off ends at its closing delimiter, whatever follows. -/
theorem closing?_of_mem {pos : Nat} {cs : List Char} {segments : List Segment}
    (h : segmentsFrom pos cs = .ok segments) {span : Span} {source : String}
    (hmem : .resolvable span source ∈ segments) (rest : List Char) :
    closing? none 0 (source.toList ++ '\x7d' :: '\x7d' :: rest) = some (source.toList, rest) := by
  induction hn : cs.length using Nat.strongRecOn generalizing pos cs segments with
  | ind n ih =>
  subst hn
  have hsplit := spanLiteral_append_eq cs
  have hliteral {pos : Nat} {text : List Char} : .resolvable span source ∉ literalAt pos text := by
    unfold literalAt
    split <;> simp
  rcases rest_spanLiteral_cases cs with hnil | hdelimiter
  · rw [segmentsFrom_plain hnil] at h
    obtain rfl := Except.ok.inj h
    exact absurd hmem hliteral
  rcases atDelimiter_cases hdelimiter with ⟨inner, hopen⟩ | ⟨inner, hclose⟩
  · rw [segmentsFrom_open hopen] at h
    dsimp only at h
    split at h
    · cases h
    next text rest' hinner =>
    split at h
    · cases h
    next more hmore =>
    obtain rfl := Except.ok.inj h
    obtain ⟨rfl, hsame⟩ := closing?_append hinner
    rcases List.mem_append.1 hmem with hmem | hmem
    · exact absurd hmem hliteral
    rcases List.mem_cons.1 hmem with heq | hmem
    · obtain ⟨-, rfl⟩ := Segment.resolvable.inj heq
      rw [String.toList_ofList]
      exact hsame rest
    · refine ih rest'.length ?_ hmore hmem rfl
      rw [← hsplit, hopen]
      simp only [List.length_append, List.length_cons]
      omega
  · rw [segmentsFrom_close hclose] at h
    cases h

/-- Between its delimiters, an expression of a template is a template of its own. -/
theorem parse_sourceText {source : String} {t : Template} (ht : parse source = .ok t) {span : Span}
    {expression : String} (hmem : .resolvable span expression ∈ t.segments) :
    ∃ stop, parse (Segment.resolvable span expression).sourceText =
      .ok ⟨(Segment.resolvable span expression).sourceText,
        [.resolvable ⟨0, stop⟩ expression]⟩ := by
  obtain ⟨segments, hsegments, rfl⟩ := exists_of_map_eq_ok ht
  have hclosing := closing?_of_mem hsegments hmem []
  have hopen : (spanLiteral ('\x7b' :: '\x7b' :: (expression.toList ++ ['\x7d', '\x7d']))).rest =
      '\x7b' :: '\x7b' :: (expression.toList ++ ['\x7d', '\x7d']) := rfl
  refine ⟨0 + byteLength expression.toList + 2 * delimiterSize, ?_⟩
  rw [parse, Segment.sourceText, String.toList_ofList, segmentsFrom_open hopen, hclosing]
  dsimp only
  rw [segmentsFrom_plain rfl, String.ofList_toList]
  rfl

end Template

namespace Engine

/-- What a segment contributes to a text: a literal text itself, and an expression the text of the
value that it has on its own. -/
inductive Renders (e : Engine) (c : Context) (o : Occasion) : Segment → String → Prop
  | literal (span : Span) (text : String) : Renders e c o (.literal span text) text
  | resolvable {span : Span} {expression : String} {v : Value} :
    (e.evaluate (Segment.resolvable span expression).sourceText c o).1.outcome = .value v →
    Renders e c o (.resolvable span expression) v.templateText

variable {e : Engine} {c : Context} {o : Occasion} {source : String} {t : Template}
  {span : Span} {expression : String}

/-! ### Expressions on their own -/

/-- Where an expression stands does not matter to its value. -/
theorem run_resolve_at (huncached : e.cache? = none) {s : Sandbox} {segment : Span} {offset : Nat}
    {p q : Progress} {v : Value}
    (hrun : (e.resolve o s segment source offset).run.run p = (.ok v, q)) (segment' : Span)
    (offset' : Nat) : (e.resolve o s segment' source offset').run.run p = (.ok v, q) := by
  obtain ⟨compiled, hadmits, hcomputes⟩ := (run_resolve_eq_ok_iff huncached).1 hrun
  obtain ⟨compiled', hcompiles', hsource, hprogram⟩ :=
    Compiled.exists_ofText_at hadmits.compiles offset'
  rw [← hsource, ← hprogram] at hcomputes
  exact (run_resolve_eq_ok_iff huncached).2
    ⟨compiled', ⟨hadmits.allowed, hadmits.proceeds, hcompiles'⟩, hcomputes⟩

/-- A template that stands for the value of an expression has it if the expression has it when
nothing has been used. -/
theorem outcome_eq_value_iff (hformat : e.config.output.format = .value)
    (ht : Template.parse source = .ok t)
    (hsingle : t.singleExpression? = some (.resolvable span expression)) {v : Value} :
    (e.evaluate source c o).1.outcome = .value v ↔
      ∃ q, (e.resolve o (e.sandbox c o) span expression (span.start + delimiterSize)).run.run
        e.start = (.ok v, q) := by
  have hevaluate : e.evaluate source c o = e.evaluateTemplate t c o := by
    rw [evaluate, ht, hformat]
  rw [hevaluate]
  constructor
  · intro hv
    obtain ⟨q, hrun⟩ := run_valueOf_of_evaluateTemplate hv
    exact ⟨q, (run_valueOf_single_eq_ok_iff hsingle).1 hrun⟩
  · rintro ⟨q, hresolve⟩
    exact outcome_evaluateTemplate ((run_valueOf_single_eq_ok_iff hsingle).2 hresolve)

section

variable (huncached : e.cache? = none) (hformat : e.config.output.format = .value)
  (ht : Template.parse source = .ok t)

include huncached hformat ht

/-- On its own, an expression of a template has the value that it has when nothing has been used. -/
theorem outcome_sourceText_eq_value_iff (hmem : .resolvable span expression ∈ t.segments)
    {v : Value} {segment : Span} {offset : Nat} :
    (e.evaluate (Segment.resolvable span expression).sourceText c o).1.outcome = .value v ↔
      ∃ q, (e.resolve o (e.sandbox c o) segment expression offset).run.run e.start =
        (.ok v, q) := by
  obtain ⟨stop, hparse⟩ := Template.parse_sourceText ht hmem
  rw [outcome_eq_value_iff hformat hparse rfl]
  constructor
  · exact fun ⟨q, hrun⟩ => ⟨q, run_resolve_at huncached hrun _ _⟩
  · exact fun ⟨q, hrun⟩ => ⟨q, run_resolve_at huncached hrun _ _⟩

/-! ### Templates -/

/-- A text is put together from what its segments contribute. -/
theorem renders_of_textOf {o o' : Occasion} (heases : e.Eases e c o o') {segments : List Segment}
    (hsegments : segments ⊆ t.segments) {acc : List String} {p q : Progress} {text : String}
    (hrun : (e.textOf o (e.sandbox c o) acc segments).run.run p = (.ok (.ok text), q)) :
    ∃ texts, List.Forall₂ (e.Renders c o') segments texts ∧
      text = String.join (acc.reverse ++ texts) := by
  induction segments generalizing acc p with
  | nil =>
    obtain ⟨⟨⟨rfl⟩⟩, -⟩ := Prod.mk.inj hrun
    exact ⟨[], .nil, by rw [List.append_nil]⟩
  | cons segment segments ih =>
    obtain ⟨hmem, hrest⟩ := List.cons_subset.1 hsegments
    cases segment with
    | literal span literal =>
      obtain ⟨texts, hrenders, htext⟩ := ih hrest hrun
      refine ⟨literal :: texts, .cons (.literal span literal) hrenders, ?_⟩
      rw [htext, List.reverse_cons, List.append_assoc]
      rfl
    | resolvable span expression =>
      obtain ⟨v, q₁, m, hresolve, -, hrun⟩ := run_textOf_resolvable_eq_ok_iff.1 hrun
      -- on its own, the expression is evaluated when nothing has been used
      have hahead : (e.sandbox c o').Ahead p.meter e.start.meter := Sandbox.ahead_zero _ _
      obtain ⟨q', hresolve', -⟩ := heases.resolve hahead span (span.start + delimiterSize) hresolve
      have hv := (outcome_sourceText_eq_value_iff huncached hformat ht hmem).2 ⟨q', hresolve'⟩
      obtain ⟨texts, hrenders, htext⟩ := ih hrest hrun
      refine ⟨v.templateText :: texts, .cons (.resolvable hv) hrenders, ?_⟩
      rw [htext, List.reverse_cons, List.append_assoc]
      rfl

/-- A template has the text that its segments contribute, each of which is evaluated as if it stood
alone. This may be on another occasion, on which there is as much time for no more steps: if the
clock does not run out on it, or on the same one if time does not run backwards. If a template has
nothing but one expression, it has the value that this has on its own, on any occasion. -/
theorem evaluate_eq_join (c : Context) (o : Occasion) :
    (t.singleExpression? = none → ∀ o', (e.sandbox c o).Paces (e.sandbox c o') →
      ∀ v, (e.evaluate source c o).1.outcome = .value v →
        ∃ texts, List.Forall₂ (e.Renders c o') t.segments texts ∧ v = .string (String.join texts)) ∧
    ∀ span expression, t.singleExpression? = some (.resolvable span expression) →
      ∀ v, (e.evaluate source c o).1.outcome = .value v ↔
        (e.evaluate (Segment.resolvable span expression).sourceText c o).1.outcome = .value v := by
  constructor
  · intro htext o' hpace v hv
    have heases : e.Eases e c o o' :=
      { uncached := huncached
        uncached_right := huncached
        rules := rfl
        libraries := rfl
        format := rfl
        sandbox :=
          { context := rfl
            dates := rfl
            allowsGlobal := rfl
            allowsMethod := rfl
            strictGrammar := rfl
            memory := Nat.le_refl _
            frames := Nat.le_refl _
            pace := hpace } }
    rw [evaluate, ht, hformat] at hv
    obtain ⟨q, hrun⟩ := run_valueOf_of_evaluateTemplate hv
    obtain ⟨text, rfl, hresult⟩ := (run_valueOf_text_eq_ok_iff htext).1 hrun
    have hall : t.segments ⊆ t.segments := List.Subset.refl _
    obtain ⟨texts, hrenders, rfl⟩ := renders_of_textOf huncached hformat ht heases hall hresult
    exact ⟨texts, hrenders, rfl⟩
  · intro span expression hsingle v
    obtain ⟨hmem, -⟩ := mem_of_singleExpression? hsingle
    rw [outcome_eq_value_iff hformat ht hsingle,
      outcome_sourceText_eq_value_iff huncached hformat ht hmem]

end

end Engine

/-- A text with one expression in it. -/
theorem evaluate_eq_join_greeting : ∃ texts,
    List.Forall₂ (Engine.plain.Renders (.atEpoch (.object [("a", .string "you")])) .atOnce)
      [.literal ⟨0, 3⟩ "Hi ", .resolvable ⟨3, 10⟩ "$.a", .literal ⟨10, 11⟩ "!"] texts ∧
    String.join texts = "Hi you!" := by
  have ht : Template.parse "Hi \x7b\x7b$.a\x7d\x7d!" =
      .ok ⟨"Hi \x7b\x7b$.a\x7d\x7d!",
        [.literal ⟨0, 3⟩ "Hi ", .resolvable ⟨3, 10⟩ "$.a", .literal ⟨10, 11⟩ "!"]⟩ := by cbv
  have hv : (Engine.plain.evaluate "Hi \x7b\x7b$.a\x7d\x7d!"
      (.atEpoch (.object [("a", .string "you")])) .atOnce).1.outcome = .value (.string "Hi you!") :=
    Evaluation.outcome_of_text? (by cbv)
  obtain ⟨texts, hrenders, htext⟩ := (Engine.evaluate_eq_join rfl rfl ht
    (.atEpoch (.object [("a", .string "you")])) .atOnce).1 rfl .atOnce
    (Sandbox.paces_self fun _ _ _ => Nat.le_refl _) _ hv
  exact ⟨texts, hrenders, (Value.string.inj htext).symm⟩

end TemplateExpr
