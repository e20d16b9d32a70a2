import TemplateExpr.Proofs.Eval.Part
import TemplateExpr.Proofs.Expr.Tree

/-!
# Evaluation in two sandboxes

If two sandboxes agree in whatever the analysis of an expression has found to be used, evaluating
the expression in both of them goes together (`rel_value`), also if it has been read from another
text in the second one. Functions are values, and are called long after the scope they were written
in has been left: `ofFindings` keeps for each of them that the findings of its body are covered.
-/

namespace TemplateExpr

open TemplateExpr.Text TemplateExpr.Eval TemplateExpr.Eval.Comparison Value

/-- Hosts that satisfy `host`, and functions with matching bodies whose findings satisfy `ok`. -/
def Value.Pairing.ofFindings (L : Comparison) (host : Host → Prop) (ok : Finding → Prop) :
    Pairing where
  host := host
  code f f' := (f.params = f'.params ∧ f.names = f'.names ∧ f.body.Matches L.places f'.body) ∧
    ∃ scopes : Expr.Scopes, (∀ name, scopes.binds name = f.names.contains name) ∧
      ∀ x ∈ f.body.findings (f.params :: scopes) false, ok x
  same := by
    rintro f f' g g' ⟨⟨hf, -, hbody⟩, -⟩ ⟨⟨hg, -, hbody'⟩, -⟩
    rw [Code.isSame, Code.isSame, sameFunction, sameFunction, hf, hg]
    exact congrArg (_ && ·) (Bool.eq_iff_iff.2 (by
      simpa using L.places_iff hbody.span hbody'.span))

open Value.Pairing (ofFindings)

/-- Whatever can be read by an expression whose findings satisfy `ok` goes together in both
sandboxes, the hosts it may come across satisfy `host`, and so do the errors that its findings tell
of and those of too many calls. Names that the policy does not allow may stand for anything. -/
structure Eval.Comparison.Shares (L : Comparison) (host : Host → Prop) (ok : Finding → Prop) : Prop
    extends L.SharesHosts (ofFindings L host ok) where
  depth : ∀ n, L.fails (.resourceLimit .callStack n) (.resourceLimit .callStack n)
  allowsGlobal : L.left.policy.allowsGlobal = L.right.policy.allowsGlobal
  global : ∀ name span, L.left.policy.allowsGlobal name = true →
    (∀ f ∈ Expr.nameFindings [] false name span, ok f) →
    Option.Rel (Paired (ofFindings L host ok)) (L.left.global? name) (L.right.global? name)
  json : L.left.policy.allowsGlobal itemName = true → ∀ key, ok (.reads ⟨itemName, some key⟩) →
    Paired (ofFindings L host ok) (L.left.context.json.property key)
      (L.right.context.json.property key)
  env : L.left.policy.allowsGlobal environmentName = true → ∀ key,
    ok (.reads ⟨environmentName, some key⟩) → L.left.context.env.get? key = L.right.context.env.get? key
  clock : host (.space .dateTime) → ∀ name span, ok (.method name span) →
    name ∈ Namespace.clockMethods → L.left.context.now = L.right.context.now
  undefined : ∀ name span, ok (.freeName name span) →
    L.left.policy.allowsGlobal name = false ∨ L.left.global? name = none →
    L.fails (.notDefined name) (.notDefined name)
  computed : ∀ span, ok (.computedKey span) → L.left.policy.config.strictGrammar = true →
    L.fails (.security .computedAccess) (.security .computedAccess)
  assignment : ∀ span, ok (.assignment span) → ∀ e, L.fails e e

/-! ### Scopes -/

/-- Two scopes bind the same names, those that the analysis takes to be bound, to paired values. -/
structure Scope.Covers (p : Pairing) (scopes : Expr.Scopes) (scope scope' : Scope) : Prop where
  binds : ∀ name, scopes.binds name = scope.binds name
  locals : Fields.Related (Paired p) scope.locals scope'.locals
  frames : scope.frames = scope'.frames

namespace Scope

theorem covers_empty (p : Pairing) : Covers p [] .empty .empty := ⟨fun _ => rfl, .nil, rfl⟩

theorem Covers.binds_right {p : Pairing} {scopes : Expr.Scopes} {scope scope' : Scope}
    (h : Covers p scopes scope scope') (name : String) : scopes.binds name = scope'.binds name :=
  (h.binds name).trans (h.locals.has_eq name)

theorem binds_iff_local?_isSome (scope : Scope) (name : String) :
    scope.binds name = (scope.local? name).isSome := by
  obtain ⟨locals, frames⟩ := scope
  simp only [binds, local?]
  induction locals with
  | nil => rfl
  | cons f locals ih =>
    obtain ⟨key, value⟩ := f
    rw [List.any_cons, List.lookup_cons, ih]
    by_cases h : name = key
    · simp [h]
    · rw [beq_false_of_ne h, beq_false_of_ne (Ne.symm h), Bool.false_or]

theorem names_bindParams (captured : List (String × Value)) (params : List String)
    (args : List Value) (name : String) :
    (bindParams captured params args).any (·.1 == name) =
      (params.contains name || captured.any (·.1 == name)) := by
  induction params generalizing captured args with
  | nil => simp [bindParams]
  | cons p ps ih =>
    rw [bindParams, ih, List.any_cons, List.contains_cons, BEq.comm (a := p)]
    cases name == p <;> cases ps.contains name <;> simp

theorem paired_bindParams {p : Pairing} {captured captured' : Fields Value}
    (hc : Fields.Related (Paired p) captured captured') (params : List String)
    {args args' : List Value} (ha : List.Forall₂ (Paired p) args args') :
    Fields.Related (Paired p) (bindParams captured params args)
      (bindParams captured' params args') := by
  induction params generalizing captured captured' args args' with
  | nil => exact hc
  | cons param params ih =>
    cases ha with
    | nil => exact ih (.cons param .undefined hc) .nil
    | cons h ha => exact ih (.cons param h hc) ha

end Scope

/-! ### Names -/

section

variable {L : Comparison} {host : Host → Prop} {ok : Finding → Prop} {scopes : Expr.Scopes}
  {scope scope' : Scope} (hs : L.Shares host ok)

include hs

/-- A free name whose use is covered. -/
theorem rel_resolveGlobal {name : String} {span : Span} (hlocal : scope.local? name = none)
    (hlocal' : scope'.local? name = none)
    (hok : ∀ f ∈ Expr.nameFindings [] false name span, ok f) :
    L.rel (Paired (ofFindings L host ok)) (resolveName scope name) (resolveName scope' name) := by
  refine rel_resolve ?_ (congrFun hs.allowsGlobal name)
    (fun _ hallowed => hs.global name span hallowed hok)
    fun _ => hs.undefined name span (hok _ List.mem_cons_self)
  rw [hlocal, hlocal']
  exact .none

omit hs in
theorem nameFindings_eq (accessed : Bool) {name : String} (span : Span)
    (hfree : scopes.binds name = false) :
    Expr.nameFindings scopes accessed name span = Expr.nameFindings [] accessed name span := by
  rw [Expr.nameFindings, Expr.nameFindings, hfree]
  rfl

omit hs in
/-- A name that the analysis takes to be free is not a parameter. -/
theorem local?_eq_none (hbinds : ∀ name, scopes.binds name = scope.binds name) {name : String}
    (hfree : scopes.binds name = false) : scope.local? name = none := by
  have h := (hbinds name).symm.trans hfree
  rw [scope.binds_iff_local?_isSome] at h
  exact Option.not_isSome_iff_eq_none.1 (Bool.eq_false_iff.1 h)

/-- A name, bound or free. -/
theorem rel_resolveName (hcov : scope.Covers (ofFindings L host ok) scopes scope') {name : String}
    {span : Span} (hok : ∀ f ∈ Expr.nameFindings scopes false name span, ok f) :
    L.rel (Paired (ofFindings L host ok)) (resolveName scope name) (resolveName scope' name) := by
  cases hfree : scopes.binds name with
  | false =>
    rw [nameFindings_eq false span hfree] at hok
    exact rel_resolveGlobal hs (local?_eq_none hcov.binds hfree)
      (local?_eq_none hcov.binds_right hfree) hok
  | true =>
    have hlocal : Option.Rel _ (scope.local? name) (scope'.local? name) := hcov.locals.get? name
    have hbound : scope.local? name ≠ none := by
      rw [← Option.isSome_iff_ne_none, ← scope.binds_iff_local?_isSome, ← hcov.binds, hfree]
    exact rel_resolve hlocal (congrFun hs.allowsGlobal name) (fun hnone => absurd hnone hbound)
      fun hnone => absurd hnone hbound

/-! ### Accesses -/

omit hs in
theorem contextRoot?_eq_some {e : Expr} {root : String} (h : e.contextRoot? scopes = some root) :
    ∃ span, e = .ident span root ∧ scopes.binds root = false := by
  cases e with
  | ident span name =>
    rw [Expr.contextRoot?] at h
    split_ifs at h with hname
    obtain rfl := Option.some.inj h
    rw [Bool.and_eq_true, Bool.not_eq_true'] at hname
    exact ⟨span, rfl, hname.2⟩
  | _ => cases h

omit hs in
theorem startsWith_itemName : itemName.startsWith "$" = true := by simp [itemName]

omit hs in
theorem startsWith_environmentName : environmentName.startsWith "$" = true := by
  simp [environmentName]

section

variable (hbinds : ∀ name, scopes.binds name = scope.binds name)

include hbinds

omit hs in
/-- What is reached through anything but a name of the context is not a part of it. -/
theorem rootProperty?_eq_none {e : Expr} (h : e.contextRoot? scopes = none) (s : Sandbox)
    (key : String) : rootProperty? s scope e key = none := by
  have hglobal {name : String} (hname : name.startsWith "$" = true) :
      e.isGlobal name scope = false := by
    rw [Expr.isGlobal, ← hbinds]
    cases e with
    | ident span n =>
      by_cases hn : n = name
      · rw [Expr.contextRoot?, hn, hname, Bool.true_and] at h
        cases hb : scopes.binds name with
        | true => simp
        | false => simp [hb] at h
      · simp [Expr.isName, hn]
    | _ => rfl
  rw [rootProperty?, hglobal startsWith_itemName, hglobal startsWith_environmentName]
  rfl

omit hs in
theorem isGlobal_ident {root : String} (hfree : scopes.binds root = false) (span : Span)
    (name : String) : (Expr.ident span root).isGlobal name scope = (root == name) := by
  rw [Expr.isGlobal, ← hbinds, Expr.isName]
  by_cases h : root = name
  · rw [← h, hfree]
    simp
  · rw [beq_false_of_ne h, Bool.false_and]

end

omit hs in
theorem mem_slicedRoots {root : String} :
    root ∈ Dependency.slicedRoots ↔ root = itemName ∨ root = environmentName := by
  simp [Dependency.slicedRoots, itemName, environmentName]

omit hs in
/-- Only the fields of the item and of the environment are told apart. -/
theorem reading_eq_whole {root : String} (hroot : root ∉ Dependency.slicedRoots)
    (key : Option String) : Finding.reading root key = Finding.reading root none := by
  have hsliced : Dependency.slicedRoots.contains root = false := by simpa using hroot
  simp only [Finding.reading, hsliced, Bool.false_eq_true, if_false]

omit hs in
/-- An access to a field of the item or of the environment reads that field. -/
theorem reads_of_reading {root : String} (hroot : root ∈ Dependency.slicedRoots) (key : String)
    (hok : ∀ f ∈ Finding.reading root (some key), ok f) : ok (.reads ⟨root, some key⟩) := by
  have hmem : .reads ⟨root, some key⟩ ∈ Finding.reading root (some key) := by
    rcases mem_slicedRoots.1 hroot with rfl | rfl <;>
      simp [Finding.reading, Dependency.clockRoots, Dependency.slicedRoots,
        Dependency.lineageRoots, itemName, environmentName]
  exact hok _ hmem

/-- What an access to a part of the context gives without the whole of it. -/
theorem paired_rootProperty? (hcov : scope.Covers (ofFindings L host ok) scopes scope')
    {root key : String} (hfree : scopes.binds root = false) (span span' : Span)
    (hok : ∀ f ∈ Finding.reading root (some key), ok f) :
    Option.Rel (Paired (ofFindings L host ok)) (rootProperty? L.left scope (.ident span root) key)
      (rootProperty? L.right scope' (.ident span' root) key) := by
  rw [rootProperty?, rootProperty?, isGlobal_ident hcov.binds hfree,
    isGlobal_ident hcov.binds hfree, isGlobal_ident hcov.binds_right hfree,
    isGlobal_ident hcov.binds_right hfree, hs.allowsGlobal]
  by_cases hitem : (root == itemName && L.right.policy.allowsGlobal itemName) = true
  · have hallowed := (Bool.and_eq_true _ _ ▸ hitem).2
    obtain rfl := eq_of_beq (Bool.and_eq_true _ _ ▸ hitem).1
    rw [if_pos hitem, if_pos hitem]
    exact .some (hs.json (hs.allowsGlobal ▸ hallowed) key (reads_of_reading (by decide) key hok))
  rw [if_neg hitem, if_neg hitem]
  by_cases henv : (root == environmentName && L.right.policy.allowsGlobal environmentName) = true
  · have hallowed := (Bool.and_eq_true _ _ ▸ henv).2
    obtain rfl := eq_of_beq (Bool.and_eq_true _ _ ▸ henv).1
    rw [if_pos henv, if_pos henv,
      hs.env (hs.allowsGlobal ▸ hallowed) key (reads_of_reading (by decide) key hok)]
    refine .some (Paired.getD ?_)
    cases L.right.context.env.get? key with
    | none => exact .none
    | some text => exact .some (.string text)
  · rw [if_neg henv, if_neg henv]
    exact .none

/-- A part of the context that is not read field by field. If its fields could be read, the policy
does not allow it. -/
theorem rel_resolveRoot (hcov : scope.Covers (ofFindings L host ok) scopes scope') {root : String}
    {key : Option String} (hfree : scopes.binds root = false) (span : Span)
    (hname : ok (.freeName root span)) (hok : ∀ f ∈ Finding.reading root key, ok f)
    (hnone : ∀ k ∈ key, rootProperty? L.left scope (.ident span root) k = none) :
    L.rel (Paired (ofFindings L host ok)) (resolveName scope root) (resolveName scope' root) := by
  have hlocal := local?_eq_none hcov.binds hfree
  have hlocal' := local?_eq_none hcov.binds_right hfree
  have hwhole (hread : ∀ f ∈ Finding.reading root none, ok f) :
      L.rel (Paired (ofFindings L host ok)) (resolveName scope root) (resolveName scope' root) := by
    have hfindings : ∀ f ∈ Expr.nameFindings [] false root span, ok f := ?_
    · exact rel_resolveGlobal hs hlocal hlocal' hfindings
    intro f hf
    rcases List.mem_cons.1 hf with rfl | hf
    · exact hname
    · split at hf
      · exact hread f hf
      · exact absurd hf List.not_mem_nil
  by_cases hroot : root ∈ Dependency.slicedRoots
  · cases key with
    | none => exact hwhole hok
    | some key =>
      have hn := hnone key rfl
      rw [rootProperty?, isGlobal_ident hcov.binds hfree, isGlobal_ident hcov.binds hfree] at hn
      have hallowed : L.left.policy.allowsGlobal root = false := by
        rw [Bool.eq_false_iff]
        intro ha
        rcases mem_slicedRoots.1 hroot with rfl | rfl
        · rw [if_pos (by simp [ha])] at hn
          cases hn
        · rw [if_neg (by simp [itemName, environmentName]), if_pos (by simp [ha])] at hn
          cases hn
      unfold resolveName
      rw [hlocal, hlocal']
      refine L.rel_read ?_
      rw [← hs.allowsGlobal, hallowed]
      exact L.rel_error (hs.undefined root span hname (.inl hallowed))
  · exact hwhole (reading_eq_whole hroot key ▸ hok)

/-! ### Parts of expressions -/

/-- Evaluations by `eval` go together on matching expressions whose findings are covered, and on
names that are resolved alike. -/
structure Evaluates (L : Comparison) (p : Pairing) (ok : Finding → Prop) (eval : Evaluator) :
    Prop where
  covered : ∀ scopes scope scope' e e', scope.Covers p scopes scope' → e.Matches L.places e' →
    (∀ f ∈ e.findings scopes false, ok f) → L.rel (Paired p) (eval scope e) (eval scope' e')
  name : ∀ scope scope' span span' name, L.places span span' →
    L.rel (Paired p) (resolveName scope name) (resolveName scope' name) →
      L.rel (Paired p) (eval scope (.ident span name)) (eval scope' (.ident span' name))

/-! ### Calls -/

variable {eval : Evaluator} (he : Evaluates L (ofFindings L host ok) ok eval)

include he

/-- The body of a function is covered wherever the function is called. -/
theorem callsFunctions (hframes : scope.frames = scope'.frames) :
    L.CallsFunctions (ofFindings L host ok) eval eval scope scope' := by
  intro params params' body body' captured captured' args args' hf hargs
  cases hf with
  | function hcode hcaptured =>
    obtain ⟨⟨hparams, hnames, hbody⟩, outer, hbinds, hok⟩ := hcode
    dsimp only at hparams hnames hbody hbinds hok
    subst hparams
    refine L.rel_bind L.rel_interrupts fun _ _ _ => L.rel_bind (L.rel_enter hframes hs.depth) ?_
    rintro _ _ ⟨rfl, rfl⟩
    refine he.covered (params :: outer) _ _ body body' ⟨fun name => ?_, ?_, ?_⟩ hbody hok
    · rw [Scope.binds, Scope.names_bindParams]
      have hb := hbinds name
      rw [List.contains_eq_any_beq, List.any_map] at hb
      simp only [Expr.Scopes.binds, List.any_cons] at hb ⊢
      rw [hb]
      simp only [Function.comp_def, BEq.comm]
    · exact Scope.paired_bindParams (.of_keys hnames hcaptured) params hargs
    · exact congrArg (· + 1) hframes

/-! ### Lists of parts -/

omit hs in
theorem rel_list (hcov : scope.Covers (ofFindings L host ok) scopes scope')
    {es es' : List Expr} (hes : List.Forall₂ (Expr.Matches L.places) es es')
    (hok : ∀ f ∈ Expr.listFindings scopes es, ok f) :
    List.Forall₂ (fun e e' => L.rel (Paired (ofFindings L host ok)) (eval scope e) (eval scope' e'))
      es es' := by
  induction hes with
  | nil => exact .nil
  | cons h _ ih =>
    rw [Expr.listFindings, List.forall_mem_append] at hok
    exact .cons (he.covered scopes scope scope' _ _ hcov h hok.1) (ih hok.2)

omit hs in
theorem rel_entries (hcov : scope.Covers (ofFindings L host ok) scopes scope')
    {entries entries' : Fields Expr}
    (hentries : Fields.Related (Expr.Matches L.places) entries entries')
    (hok : ∀ f ∈ Expr.entryFindings scopes entries, ok f) :
    Fields.Related
      (fun e e' => L.rel (Paired (ofFindings L host ok)) (eval scope e) (eval scope' e')) entries
      entries' := by
  induction hentries with
  | nil => exact .nil
  | cons key h _ ih =>
    rw [Expr.entryFindings, List.forall_mem_append] at hok
    exact .cons key (he.covered scopes scope scope' _ _ hcov h hok.1) (ih hok.2)

/-! ### Accesses and calls -/

omit hs he in
theorem accessed_findings {root : String} (span : Span) (hfree : scopes.binds root = false)
    (hok : ∀ f ∈ (Expr.ident span root).findings scopes true, ok f) : ok (.freeName root span) := by
  refine hok _ ?_
  rw [Expr.findings, Expr.nameFindings, hfree]
  exact List.mem_cons_self

theorem rel_member (hcov : scope.Covers (ofFindings L host ok) scopes scope') {e e' : Expr}
    (hmatch : e.Matches L.places e') {span : Span} {name : String} {optional : Bool}
    (hok : ∀ f ∈ (Expr.member span e name optional).findings scopes false, ok f) :
    L.rel (Paired (ofFindings L host ok)) (evalMember eval scope e name optional)
      (evalMember eval scope' e' name optional) := by
  rw [Expr.findings, List.forall_mem_append] at hok
  obtain ⟨hmember, hrecv⟩ := hok
  cases hroot : e.contextRoot? scopes with
  | none =>
    rw [hroot] at hrecv
    have hroot' := hmatch.contextRoot?_eq scopes ▸ hroot
    refine rel_evalMember hs.toSharesHosts ?_ fun _ =>
      he.covered scopes scope scope' e e' hcov hmatch hrecv
    rw [rootProperty?_eq_none hcov.binds hroot, rootProperty?_eq_none hcov.binds_right hroot']
    exact .none
  | some root =>
    rw [hroot] at hrecv
    obtain ⟨espan, rfl, hfree⟩ := contextRoot?_eq_some hroot
    cases hmatch with
    | @ident _ espan' _ hplaces =>
    have hreading : ∀ f ∈ Finding.reading root (some name), ok f := by
      rw [Expr.memberFindings, hroot] at hmember
      exact fun f hf => hmember f (List.mem_append_right _ hf)
    refine rel_evalMember hs.toSharesHosts
      (paired_rootProperty? hs hcov hfree espan espan' hreading) fun hnone => ?_
    refine he.name scope scope' espan espan' root hplaces ?_
    exact rel_resolveRoot hs hcov hfree espan (accessed_findings espan hfree hrecv) hreading
      fun k hk => Option.some.inj hk ▸ hnone

theorem rel_index (hcov : scope.Covers (ofFindings L host ok) scopes scope')
    {e e' key key' : Expr} (hmatch : e.Matches L.places e') (hkeys : key.Matches L.places key')
    {span : Span} {optional : Bool}
    (hok : ∀ f ∈ (Expr.index span e key optional).findings scopes false, ok f) :
    L.rel (Paired (ofFindings L host ok)) (evalIndex eval scope e key optional)
      (evalIndex eval scope' e' key' optional) := by
  rw [Expr.findings, List.forall_mem_append, List.forall_mem_append] at hok
  obtain ⟨⟨hindex, hrecv⟩, hkey⟩ := hok
  have hcomputed (hstrict : L.left.policy.config.strictGrammar = true)
      (hnone : key.literalKey? = none) :
      L.fails (.security .computedAccess) (.security .computedAccess) := by
    refine hs.computed key.span (hindex _ ?_) hstrict
    rw [Expr.indexFindings, if_pos (Option.isNone_iff_eq_none.2 hnone)]
    exact List.mem_append_left _ List.mem_cons_self
  have hkey := he.covered scopes scope scope' key key' hcov hkeys hkey
  cases hroot : e.contextRoot? scopes with
  | none =>
    rw [hroot] at hrecv
    have hroot' := hmatch.contextRoot?_eq scopes ▸ hroot
    refine rel_evalIndex hs.toSharesHosts hkeys.literalKey?_eq hcomputed ?_
      (fun _ => he.covered scopes scope scope' e e' hcov hmatch hrecv) hkey
    cases key.literalKey? with
    | none => exact .none
    | some k =>
      rw [Option.bind_some, Option.bind_some, rootProperty?_eq_none hcov.binds hroot,
        rootProperty?_eq_none hcov.binds_right hroot']
      exact .none
  | some root =>
    rw [hroot] at hrecv
    obtain ⟨espan, rfl, hfree⟩ := contextRoot?_eq_some hroot
    cases hmatch with
    | @ident _ espan' _ hplaces =>
    have hname := accessed_findings espan hfree hrecv
    have hreading : ∀ f ∈ Finding.reading root key.literalKey?, ok f := by
      rw [Expr.indexFindings, hroot] at hindex
      exact fun f hf => hindex f (List.mem_append_right _ (List.mem_append_right _ hf))
    refine rel_evalIndex hs.toSharesHosts hkeys.literalKey?_eq hcomputed ?_ (fun hnone => ?_) hkey
    · cases hk : key.literalKey? with
      | none => exact .none
      | some k =>
        rw [hk] at hreading
        exact paired_rootProperty? hs hcov hfree espan espan' hreading
    · refine he.name scope scope' espan espan' root hplaces ?_
      refine rel_resolveRoot hs hcov hfree espan hname hreading fun k hk => ?_
      rwa [hk] at hnone

/-- The receiver of a method is a part of the context as a whole, or any other expression. -/
theorem rel_receiver (hcov : scope.Covers (ofFindings L host ok) scopes scope') {e e' : Expr}
    (hmatch : e.Matches L.places e') {span mspan : Span} {name : String} {optional : Bool}
    {args : List Expr}
    (hcall : ∀ f ∈ Expr.callFindings scopes span (.member mspan e name optional) args, ok f)
    (hmember : ∀ f ∈ (Expr.member mspan e name optional).findings scopes false, ok f) :
    L.rel (Paired (ofFindings L host ok)) (eval scope e) (eval scope' e') := by
  rw [Expr.findings, List.forall_mem_append] at hmember
  have hrecv := hmember.2
  cases hroot : e.contextRoot? scopes with
  | none =>
    rw [hroot] at hrecv
    exact he.covered scopes scope scope' e e' hcov hmatch hrecv
  | some root =>
    rw [hroot] at hrecv
    obtain ⟨espan, rfl, hfree⟩ := contextRoot?_eq_some hroot
    cases hmatch with
    | ident _ hplaces =>
    have hreading : ∀ f ∈ Finding.reading root none, ok f := by
      rw [Expr.callFindings, hroot] at hcall
      exact fun f hf => hcall f (List.mem_cons_of_mem _ (List.mem_append_right _ hf))
    refine he.name scope scope' espan _ root hplaces ?_
    refine rel_resolveRoot hs hcov hfree espan (accessed_findings espan hfree hrecv) hreading ?_
    intro k hk
    cases hk

omit hs he in
theorem calleeName_eq {e e' : Expr} {R : Span → Span → Prop} (h : e.Matches R e') :
    e.calleeName = e'.calleeName := by
  cases h <;> rfl

theorem rel_call (hcov : scope.Covers (ofFindings L host ok) scopes scope')
    {callee callee' : Expr} (hcallee : callee.Matches L.places callee') {args args' : List Expr}
    (hargs : List.Forall₂ (Expr.Matches L.places) args args') {span : Span} {optional : Bool}
    (hok : ∀ f ∈ (Expr.call span callee args optional).findings scopes false, ok f) :
    L.rel (Paired (ofFindings L host ok)) (evalCall eval scope callee args optional)
      (evalCall eval scope' callee' args' optional) := by
  rw [Expr.findings, List.forall_mem_append, List.forall_mem_append] at hok
  obtain ⟨⟨hcall, hfindings⟩, hlist⟩ := hok
  have hargs := rel_list he hcov hargs hlist
  have hf : L.CallsFunctions (ofFindings L host ok) eval eval scope scope' :=
    callsFunctions hs he hcov.frames
  have hvalue := rel_evalArgs hargs (he.covered scopes _ _ _ _ hcov hcallee hfindings) optional
    (rel_callValue hs.toSharesHosts hf (congrArg some (calleeName_eq hcallee)))
  cases hcallee with
  | member property optionalMember _ hrecv =>
    refine rel_evalArgs hargs (rel_receiver hs he hcov hrecv hcall hfindings) _ ?_
    intro v w vs ws hv hvs
    refine rel_callMethod hs.toSharesHosts hf hv hvs fun hdate => ?_
    exact hs.clock hdate property span (hcall _ List.mem_cons_self)
  | _ => exact hvalue

/-! ### Expressions -/

omit he hs in
/-- Nothing can be assigned in either place for the same reason. -/
theorem assignmentError_eq (hbinds : ∀ name, scope.binds name = scope'.binds name)
    {e e' : Expr} {R : Span → Span → Prop} (h : e.Matches R e') :
    assignmentError scope e = assignmentError scope' e' := by
  have hglobal {e e' : Expr} (h : e.Matches R e') (name : String) :
      e.isGlobal name scope = e'.isGlobal name scope' := by
    rw [Expr.isGlobal, Expr.isGlobal, h.isName_eq, hbinds]
  cases h with
  | member property _ _ hrecv => rw [assignmentError, assignmentError, hglobal hrecv]
  | index _ _ hrecv hkey =>
    rw [assignmentError, assignmentError, hglobal hrecv, hkey.literalKey?_eq]
  | _ => rfl

/-- One node of an expression, whose parts are evaluated by `eval`. -/
theorem rel_evalNode (hcov : scope.Covers (ofFindings L host ok) scopes scope') {e e' : Expr}
    (hmatch : e.Matches L.places e') (hok : ∀ f ∈ e.findings scopes false, ok f) :
    L.rel (Paired (ofFindings L host ok)) (evalNode eval scope e) (evalNode eval scope' e') := by
  have hpart {e e' : Expr} (h : e.Matches L.places e') (hok : ∀ f ∈ e.findings scopes false, ok f) :=
    he.covered scopes scope scope' e e' hcov h hok
  cases hmatch with
  | literal l _ => exact L.rel_pure (.ofLiteral l)
  | ident name _ => exact rel_resolveName hs hcov hok
  | array _ hitems =>
    refine L.rel_reserve_bind (congrArg _ hitems.length_eq) ?_
    exact L.rel_bind_pure (rel_evalAll (rel_list he hcov hitems hok)) fun _ _ => .array
  | object _ hentries =>
    exact L.rel_bind_pure (rel_evalEntries (rel_entries he hcov hentries hok) .nil) fun _ _ => .object
  | member name optional _ hrecv => exact rel_member hs he hcov hrecv hok
  | index optional _ hrecv hkey => exact rel_index hs he hcov hrecv hkey hok
  | call optional _ hcallee hargs =>
    refine L.rel_bind (L.rel_enter hcov.frames hs.depth) ?_
    rintro _ _ ⟨rfl, rfl⟩
    have hinner : Scope.Covers (ofFindings L host ok) scopes
        { scope with frames := scope.frames + 1 } { scope' with frames := scope'.frames + 1 } :=
      ⟨hcov.binds, hcov.locals, congrArg (· + 1) hcov.frames⟩
    exact rel_call hs he hinner hcallee hargs hok
  | unary op _ h => exact L.rel_bind_pure (hpart h hok) fun _ _ h => h.applyUnary op
  | binary op _ hl hr =>
    rw [Expr.findings, List.forall_mem_append] at hok
    exact rel_evalBinary op (hpart hl hok.1) (hpart hr hok.2)
  | conditional _ ht hc ha =>
    rw [Expr.findings, List.forall_mem_append, List.forall_mem_append] at hok
    exact rel_evalConditional (hpart ht hok.1.1) (hpart hc hok.1.2) (hpart ha hok.2)
  | @lambda _ _ params body body' _ hbody =>
    refine L.rel_pure (.function ⟨⟨rfl, hcov.locals.keys_eq, hbody⟩, scopes, fun name => ?_, hok⟩
      (hcov.locals.pairs.imp fun _ _ h => h.2))
    dsimp only
    rw [hcov.binds, Scope.binds, List.contains_eq_any_beq, List.any_map]
    simp only [Function.comp_def, BEq.comm]
  | @assign span _ _ _ _ _ _ ht _ =>
    have hbinds (name : String) : scope.binds name = scope'.binds name := hcov.locals.has_eq name
    unfold evalNode
    dsimp only
    rw [assignmentError_eq hbinds ht]
    exact L.rel_error (hs.assignment span (hok _ List.mem_cons_self) _)

omit he

/-- Expressions at every level of nesting. -/
theorem evaluates_eval (n : Nat) : Evaluates L (ofFindings L host ok) ok (Expr.eval n) := by
  induction n with
  | zero =>
    constructor
    · exact fun _ _ _ _ _ _ _ _ => L.rel_bind L.rel_tick fun _ _ _ => L.rel_error (hs.depth _)
    · exact fun _ _ _ _ _ _ _ => L.rel_bind L.rel_tick fun _ _ _ => L.rel_error (hs.depth _)
  | succ n ih =>
    constructor
    · intro scopes scope scope' e e' hcov hmatch hok
      refine L.rel_bind L.rel_tick fun _ _ _ => L.rel_locate hmatch.span ?_
      exact rel_evalNode hs ih hcov hmatch hok
    · intro scope scope' span span' name hplaces hname
      exact L.rel_bind L.rel_tick fun _ _ _ => L.rel_locate hplaces hname

/-- The values of matching expressions, all of whose findings are covered. -/
theorem rel_value {e e' : Expr} (hmatch : e.Matches L.places e')
    (hok : ∀ f ∈ e.findings [] false, ok f) :
    L.rel (Paired (ofFindings L host ok)) e.value e'.value :=
  (evaluates_eval hs maxNesting).covered [] .empty .empty e e' (Scope.covers_empty _) hmatch hok

end

end TemplateExpr
