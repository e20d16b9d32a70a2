import TemplateExpr.Proofs.Eval.Agreement
import TemplateExpr.Proofs.Eval.Reflexive
import TemplateExpr.Proofs.Expr.Place
import TemplateExpr.Proofs.Expr.Renaming
import TemplateExpr.Proofs.Template.Compiled

/-!
# Evaluation with a renamed parameter

Names are looked up in a stack of values, which functions capture as a whole, and the short ways to
parts of the context compare names. Nevertheless an expression and the one with a renamed parameter
are evaluated alike (`rel_eval_renamed`): the values on the two stacks go together one by one, under
whichever names, and every name finds the value at the same depth. What is left of the names are
those of the parameters in functions that are results, and what a callee is called in a message
(`run_rename`).
-/

namespace TemplateExpr

open TemplateExpr.Eval TemplateExpr.Eval.Comparison Value

/-! ### Results that go together -/

namespace Renaming

/-- The arrow function `f'` is `f` with the parameter renamed. -/
structure Turns (ρ : Renaming) (f f' : Code) : Prop where
  params : f'.params = ρ.paramsOf f.params f.body
  fresh : f.body.span = ρ.body.span → ρ.new ∉ f.params
  body : Expr.Renamed ρ (f.params.reverse ++ f.names) (f'.params.reverse ++ f'.names) f.body f'.body

/-- Errors that are the same up to what the callee is called. -/
inductive TurnsError (ρ : Renaming) : EvalError → EvalError → Prop
  | refl (e : EvalError) : TurnsError ρ e e
  | notCallable : TurnsError ρ (.notCallable ρ.old) (.notCallable ρ.new)

/-- Failures at the same place, whose errors are the same up to what the callee is called. -/
def TurnsFailure (ρ : Renaming) (f f' : Failure) : Prop :=
  f.span? = f'.span? ∧ ρ.TurnsError f.error f'.error

variable {ρ : Renaming}

theorem TurnsError.apply (bound : Bool) (name : String) :
    ρ.TurnsError (.notCallable name) (.notCallable (ρ.apply bound name)) := by
  unfold Renaming.apply
  split
  · next h =>
    rw [Bool.and_eq_true, beq_iff_eq] at h
    exact h.2 ▸ .notCallable
  · exact .refl _

end Renaming

/-- All hosts, and arrow functions with the renamed ones. -/
def Value.Pairing.ofRenaming (ρ : Renaming) : Pairing where
  host _ := True
  code := ρ.Turns
  same := by
    intro f f' g g' hf hg
    rw [Code.isSame, Code.isSame, sameFunction, sameFunction, ← hf.body.span_eq, ← hg.body.span_eq,
      hf.params, hg.params, Bool.eq_iff_iff]
    simp only [Bool.and_eq_true, beq_iff_eq]
    exact and_congr_left fun hspan => (ρ.paramsOf_eq_iff hspan hf.fresh hg.fresh).symm

/-! ### Scopes -/

namespace Scope

/-- The names that are bound in a scope, innermost first. -/
def names (scope : Scope) : List String := scope.locals.map Prod.fst

theorem binds_eq_false_iff (scope : Scope) (name : String) :
    scope.binds name = false ↔ scope.names.idxOf? name = none := by
  rw [List.idxOf?_eq_none_iff, binds, names, ← Bool.not_eq_true, List.any_eq_true]
  simp only [beq_iff_eq, List.mem_map]

theorem idxOf?_eq_none_of_local? {scope : Scope} {name : String} (h : scope.local? name = none) :
    scope.names.idxOf? name = none := by
  rw [← binds_eq_false_iff, binds_iff_local?_isSome, h, Option.isSome_none]

theorem map_fst_bindParams (captured : List (String × Value)) (params : List String)
    (args : List Value) :
    (bindParams captured params args).map Prod.fst = params.reverse ++ captured.map Prod.fst := by
  induction params generalizing captured args with
  | nil => rfl
  | cons p params ih =>
    rw [bindParams, ih, List.map_cons, List.reverse_cons, List.append_assoc, List.singleton_append]

/-- Values in the same order are found by names at the same depth. -/
theorem rel_lookup {R : Value → Value → Prop} {fs fs' : List (String × Value)}
    (h : List.Forall₂ (fun f f' => R f.2 f'.2) fs fs') {n n' : String}
    (hn : (fs.map Prod.fst).idxOf? n = (fs'.map Prod.fst).idxOf? n') :
    Option.Rel R (fs.lookup n) (fs'.lookup n') := by
  induction h with
  | nil => exact .none
  | @cons f f' fs fs' hf _ ih =>
    obtain ⟨key, v⟩ := f
    obtain ⟨key', w⟩ := f'
    rw [List.map_cons, List.map_cons, List.idxOf?_cons, List.idxOf?_cons] at hn
    rw [List.lookup_cons, List.lookup_cons, BEq.comm (a := n), BEq.comm (a := n')]
    dsimp only at hn hf ⊢
    cases hkey : key == n <;> cases hkey' : key' == n' <;> rw [hkey, hkey'] at hn
    · simp only [Bool.false_eq_true, if_false] at hn
      exact ih (Option.map_injective (fun a b => Nat.succ.inj) hn)
    · exact absurd hn (by simp)
    · exact absurd hn.symm (by simp)
    · exact .some hf

/-- Parameters are bound to values in the same order, whatever they are called. -/
theorem paired_bindParams_of_length {p : Pairing} {captured captured' : List (String × Value)}
    (h : List.Forall₂ (fun f f' => Paired p f.2 f'.2) captured captured')
    {params params' : List String}
    (hlength : params.length = params'.length) {args args' : List Value}
    (hargs : List.Forall₂ (Paired p) args args') :
    List.Forall₂ (fun f f' => Paired p f.2 f'.2) (bindParams captured params args)
      (bindParams captured' params' args') := by
  induction params generalizing captured captured' params' args args' with
  | nil =>
    rw [List.eq_nil_of_length_eq_zero hlength.symm]
    exact h
  | cons param params ih =>
    obtain ⟨param', params', rfl⟩ := List.exists_cons_of_length_eq_add_one hlength.symm
    have hlength := Nat.succ.inj hlength
    cases hargs with
    | nil => exact ih (.cons .undefined h) hlength .nil
    | cons harg hargs => exact ih (.cons harg h) hlength hargs

/-- The stacks of two scopes hold paired values, whatever their names are. -/
structure Aligned (p : Pairing) (scope scope' : Scope) : Prop where
  values : List.Forall₂ (fun f f' => Paired p f.2 f'.2) scope.locals scope'.locals
  frames : scope.frames = scope'.frames

namespace Aligned

variable {p : Pairing} {scope scope' : Scope}

theorem empty (p : Pairing) : Aligned p .empty .empty := ⟨.nil, rfl⟩

theorem deeper (h : Aligned p scope scope') :
    Aligned p { scope with frames := scope.frames + 1 }
      { scope' with frames := scope'.frames + 1 } :=
  ⟨h.values, congrArg (· + 1) h.frames⟩

end Aligned

end Scope

/-! ### Sandboxes -/

/-- The runs of an expression and of the one with a renamed parameter. -/
def Sandbox.renaming (s : Sandbox) (ρ : Renaming) : Comparison :=
  s.agreement s.context s.context (fun _ => True) ρ.TurnsFailure (fun e _ => ⟨rfl, .refl e⟩)
    fun _ _ span _ h => ⟨congrArg (fun p : Option Span => some (p.getD span)) h.1, h.2⟩

/-- Evaluations by `eval` go together on expressions and the renamed ones. -/
def EvaluatesRenamed (s : Sandbox) (ρ : Renaming) (eval : Evaluator) : Prop :=
  ∀ ⦃scope scope' : Scope⦄ ⦃e e' : Expr⦄, scope.Aligned (.ofRenaming ρ) scope' →
    e.Renamed ρ scope.names scope'.names e' →
    (s.renaming ρ).rel (Paired (.ofRenaming ρ)) (eval scope e) (eval scope' e')

section

variable {s : Sandbox} {ρ : Renaming} {scope scope' : Scope}

theorem fails_renaming (e : EvalError) : (s.renaming ρ).fails e e := ⟨rfl, .refl e⟩

/-! ### Names -/

/-- A name stands for a part of the context in both expressions, or in none. -/
theorem isGlobal_eq_of_renamed {e e' : Expr} (h : e.Renamed ρ scope.names scope'.names e')
    (root : String) : e.isGlobal root scope = e'.isGlobal root scope' := by
  cases h with
  | @ident _ _ n n' _ hn =>
    rw [Bool.eq_iff_iff]
    simp only [Expr.isGlobal, Expr.isName, Bool.and_eq_true, beq_iff_eq, Bool.not_eq_true',
      Scope.binds_eq_false_iff]
    constructor
    · rintro ⟨rfl, hfree⟩
      have hsame := hn.free hfree
      exact ⟨hsame, by rw [← hfree, hn.binder, hsame]⟩
    · rintro ⟨rfl, hfree⟩
      have hfree := hn.binder.trans hfree
      have hsame := hn.free hfree
      exact ⟨hsame.symm, hsame ▸ hfree⟩
  | _ => rfl

theorem rootProperty?_eq_of_renamed {e e' : Expr} (h : e.Renamed ρ scope.names scope'.names e')
    (key : String) : rootProperty? s scope e key = rootProperty? s scope' e' key := by
  rw [rootProperty?, rootProperty?, isGlobal_eq_of_renamed h, isGlobal_eq_of_renamed h]

/-- Nothing can be assigned to either for the same reason. -/
theorem assignmentError_eq_of_renamed {e e' : Expr}
    (h : e.Renamed ρ scope.names scope'.names e') :
    assignmentError scope e = assignmentError scope' e' := by
  cases h with
  | member _ _ _ hrecv =>
    rw [assignmentError, assignmentError, isGlobal_eq_of_renamed hrecv]
  | index _ _ hrecv hkey =>
    rw [assignmentError, assignmentError, isGlobal_eq_of_renamed hrecv, hkey.literalKey?_eq]
  | _ => rfl

/-- The callee is called alike, up to the renamed parameter. -/
theorem turnsError_calleeName {ns ns' : List String} {e e' : Expr} (h : e.Renamed ρ ns ns' e') :
    ρ.TurnsError (.notCallable e.calleeName) (.notCallable e'.calleeName) := by
  cases h with
  | ident _ hn =>
    obtain ⟨bound, rfl⟩ := hn.apply
    exact .apply bound _
  | _ => exact .refl _

variable (hcontext : s.context.IsPaired (.ofRenaming ρ))

include hcontext

theorem sharesHosts_renaming : (s.renaming ρ).SharesHosts (.ofRenaming ρ) :=
  hcontext.sharesHosts rfl rfl fun _ _ => trivial

/-- A name is resolved by the value at the same depth, or else is free in both expressions. -/
theorem rel_resolve_renamed (hscope : scope.Aligned (.ofRenaming ρ) scope') {n n' : String}
    (hn : ρ.Names scope.names scope'.names n n') :
    (s.renaming ρ).rel (Paired (.ofRenaming ρ)) (resolveName scope n) (resolveName scope' n') := by
  have hlocal : Option.Rel (Paired (.ofRenaming ρ)) (scope.local? n) (scope'.local? n') :=
    Scope.rel_lookup hscope.values hn.binder
  cases hv : scope.local? n with
  | none =>
    obtain rfl := hn.free (Scope.idxOf?_eq_none_of_local? hv)
    refine rel_resolve hlocal rfl (fun _ _ => ?_) fun _ _ => fails_renaming _
    exact hcontext.paired_global (fun _ => trivial) _
  | some v =>
    rw [hv] at hlocal
    unfold resolveName
    rw [hv]
    generalize scope'.local? n' = w? at hlocal
    cases hlocal with
    | some h => exact (s.renaming ρ).rel_pure h

theorem paired_rootProperty?_renamed {e e' : Expr} (h : e.Renamed ρ scope.names scope'.names e')
    (key : String) : Option.Rel (Paired (.ofRenaming ρ)) (rootProperty? s scope e key)
      (rootProperty? s scope' e' key) := by
  rw [← rootProperty?_eq_of_renamed h]
  exact hcontext.paired_rootProperty? scope e key

/-! ### Calls -/

variable {eval : Evaluator} (he : EvaluatesRenamed s ρ eval)

include he

omit hcontext in
theorem callsFunctions_renamed (hframes : scope.frames = scope'.frames) :
    (s.renaming ρ).CallsFunctions (.ofRenaming ρ) eval eval scope scope' := by
  intro params params' body body' captured captured' args args' hf hargs
  cases hf with
  | function hcode hcaptured =>
    obtain ⟨hparams, -, hbody⟩ := hcode
    dsimp only at hparams hbody
    refine Comparison.rel_bind _ (Comparison.rel_interrupts _) fun _ _ _ => ?_
    refine Comparison.rel_bind _ (Comparison.rel_enter _ hframes fun _ => fails_renaming _) ?_
    rintro _ _ ⟨rfl, rfl⟩
    have hlength : params.length = params'.length := hparams ▸ (ρ.length_paramsOf params body).symm
    have hlocals := Scope.paired_bindParams_of_length hcaptured hlength hargs
    refine he ⟨hlocals, congrArg (· + 1) hframes⟩ ?_
    rw [Scope.names, Scope.names, Scope.map_fst_bindParams, Scope.map_fst_bindParams]
    exact hbody

theorem rel_evalCall_renamed (hscope : scope.Aligned (.ofRenaming ρ) scope')
    {callee callee' : Expr} (hcallee : callee.Renamed ρ scope.names scope'.names callee')
    {args args' : List Expr} (hargs : Expr.RenamedItems ρ scope.names scope'.names args args')
    (optional : Bool) :
    (s.renaming ρ).rel (Paired (.ofRenaming ρ)) (evalCall eval scope callee args optional)
      (evalCall eval scope' callee' args' optional) := by
  have hshares := sharesHosts_renaming hcontext
  have hargs := hargs.forall₂.imp fun _ _ h => he hscope h
  have hf : (s.renaming ρ).CallsFunctions (.ofRenaming ρ) eval eval scope scope' :=
    callsFunctions_renamed he hscope.frames
  have hname (kind : String) : (s.renaming ρ).fails
      (.notCallable ((some callee.calleeName).getD kind))
      (.notCallable ((some callee'.calleeName).getD kind)) :=
    ⟨rfl, turnsError_calleeName hcallee⟩
  have hvalue := rel_evalArgs hargs (he hscope hcallee) optional
    (rel_callValue_of_fails hshares hf hname)
  cases hcallee with
  | member _ property optionalMember hrecv =>
    refine rel_evalArgs hargs (he hscope hrecv) _ fun v w vs ws hv hvs => ?_
    exact rel_callMethod hshares hf hv hvs fun _ _ => rfl
  | _ => exact hvalue

/-! ### Expressions -/

/-- One node, whose parts are evaluated by `eval`. -/
theorem rel_evalNode_renamed (hscope : scope.Aligned (.ofRenaming ρ) scope') {e e' : Expr}
    (h : e.Renamed ρ scope.names scope'.names e') :
    (s.renaming ρ).rel (Paired (.ofRenaming ρ)) (evalNode eval scope e)
      (evalNode eval scope' e') := by
  let L := s.renaming ρ
  have hshares := sharesHosts_renaming hcontext
  cases h with
  | literal _ l => exact L.rel_pure (.ofLiteral l)
  | ident _ hn => exact rel_resolve_renamed hcontext hscope hn
  | array _ hitems =>
    have hitems := hitems.forall₂
    refine L.rel_reserve_bind (congrArg _ hitems.length_eq) ?_
    exact L.rel_bind_pure (rel_evalAll (hitems.imp fun _ _ h => he hscope h)) fun _ _ => .array
  | object _ hentries =>
    refine L.rel_bind_pure (rel_evalEntries ?_ .nil) fun _ _ => .object
    exact hentries.related.imp fun _ _ h => he hscope h
  | member _ name optional hrecv =>
    exact rel_evalMember hshares (paired_rootProperty?_renamed hcontext hrecv name)
      fun _ => he hscope hrecv
  | @index _ _ _ _ key _ _ optional hrecv hkey =>
    refine rel_evalIndex hshares hkey.literalKey?_eq (fun _ _ => fails_renaming _) ?_
      (fun _ => he hscope hrecv) (he hscope hkey)
    cases key.literalKey? with
    | none => exact .none
    | some k => exact paired_rootProperty?_renamed hcontext hrecv k
  | call _ optional hcallee hargs =>
    refine L.rel_bind (L.rel_enter hscope.frames fun _ => fails_renaming _) ?_
    rintro _ _ ⟨rfl, rfl⟩
    exact rel_evalCall_renamed hcontext he hscope.deeper hcallee hargs optional
  | unary _ op h => exact L.rel_bind_pure (he hscope h) fun _ _ h => h.applyUnary op
  | binary _ op hl hr => exact rel_evalBinary op (he hscope hl) (he hscope hr)
  | conditional _ ht hc ha => exact rel_evalConditional (he hscope ht) (he hscope hc) (he hscope ha)
  | lambda _ hnew hbody => exact L.rel_pure (.function ⟨rfl, hnew, hbody⟩ hscope.values)
  | assign _ ht _ =>
    unfold evalNode
    dsimp only
    rw [assignmentError_eq_of_renamed ht]
    exact L.rel_error (fails_renaming _)

omit he

/-- At every level of nesting, an expression and the renamed one are evaluated alike. -/
theorem rel_eval_renamed (n : Nat) : EvaluatesRenamed s ρ (Expr.eval n) := by
  let L := s.renaming ρ
  induction n with
  | zero =>
    intro scope scope' e e' _ _
    exact L.rel_bind L.rel_tick fun _ _ _ => L.rel_error (fails_renaming _)
  | succ n ih =>
    intro scope scope' e e' hscope h
    refine L.rel_bind L.rel_tick fun _ _ _ => L.rel_locate ⟨h.span_eq, trivial⟩ ?_
    exact rel_evalNode_renamed hcontext ih hscope h

end

/-! ### Renaming in a tree that has been read -/

/-- No function in the context stands where the renamed one does. -/
def Renaming.Spares (ρ : Renaming) (c : Context) : Prop :=
  ∀ b ∈ c.bodies, b.span ≠ ρ.body.span ∧ ∀ f ∈ b.functions, f.2.span ≠ ρ.body.span

/-- Functions that stand elsewhere go with themselves. -/
theorem isReflexiveOn_ofRenaming (ρ : Renaming) : (Pairing.ofRenaming ρ).IsReflexiveOn fun b =>
    b.span ≠ ρ.body.span ∧ ∀ f ∈ b.functions, f.2.span ≠ ρ.body.span where
  host _ := trivial
  code params body names h := by
    have hparams : ρ.paramsOf params body = params := ρ.paramsOf_eq_self h.1
    exact ⟨hparams.symm, fun hspan => absurd hspan h.1, Expr.renamed_refl h.2 _⟩

end TemplateExpr
