import TemplateExpr.Eval.Interpreter
import TemplateExpr.Proofs.Eval.Function

/-!
# Parts of expressions in two sandboxes

How the parts of an expression are put together, whatever they are: if they go together in both
sandboxes, so does the whole.
-/

namespace TemplateExpr

open TemplateExpr.Eval TemplateExpr.Eval.Comparison Value

variable {L : Comparison} {p : Pairing} {eval eval' : Evaluator} {scope scope' : Scope}

/-! ### Reading values -/

section

variable (hs : L.SharesHosts p)

include hs

/-- What a value has under a name. -/
theorem Value.ends_read {v w : Value} (hv : Paired p v w) (name : String) (optional : Bool) :
    L.Ends (Paired p) (v.read L.left.context name optional)
      (w.read L.right.context name optional) := by
  have hproperty := hv.property name
  cases hv with
  | host hh => exact Host.ends_property hs hh name
  | undefined | null =>
    rw [Value.read, Value.read]
    split_ifs
    · exact .ok .undefined
    · exact L.ends_fail rfl
  | bool _ | number _ | string _ | array _ | object _ | date _ | function _ _ =>
    exact .ok hproperty

/-- What a value has under a key. -/
theorem Value.ends_readKey {v w key key' : Value} (hv : Paired p v w) (hkey : Paired p key key')
    (optional : Bool) :
    L.Ends (Paired p) (v.readKey L.left.context key optional)
      (w.readKey L.right.context key' optional) := by
  have hread := ends_read hs hv key.toText optional
  nth_rewrite 2 [hkey.toText_eq] at hread
  cases hkey with
  | number x =>
    cases hv with
    | array h => exact .ok (Paired.itemAt h x)
    | string s => exact .ok (Paired.itemAt_ofChar s.toList x)
    | _ => exact hread
  | _ => cases hv <;> exact hread

end

namespace Eval.Comparison

/-! ### Names -/

/-- A name is a parameter, or else one that the host provides. -/
theorem rel_resolve {name : String}
    (hlocal : Option.Rel (Paired p) (scope.local? name) (scope'.local? name))
    (hallowed : L.left.policy.allowsGlobal name = L.right.policy.allowsGlobal name)
    (hglobal : scope.local? name = none → L.left.policy.allowsGlobal name = true →
      Option.Rel (Paired p) (L.left.global? name) (L.right.global? name))
    (hundefined : scope.local? name = none →
      L.left.policy.allowsGlobal name = false ∨ L.left.global? name = none →
        L.fails (.notDefined name) (.notDefined name)) :
    L.rel (Paired p) (resolveName scope name) (resolveName scope' name) := by
  unfold resolveName
  generalize scope.local? name = v?, scope'.local? name = w? at hlocal hglobal hundefined
  cases hlocal with
  | some h => exact L.rel_pure h
  | none =>
    have hglobal := hglobal rfl
    have hundefined := hundefined rfl
    refine L.rel_read ?_
    rw [← hallowed]
    cases hname : L.left.policy.allowsGlobal name with
    | false => exact L.rel_error (hundefined (.inl hname))
    | true =>
      have hglobal := hglobal hname
      rw [if_pos rfl, if_pos rfl]
      generalize L.left.global? name = v?, L.right.global? name = w? at hglobal hundefined
      cases hglobal with
      | some h => exact L.rel_pure h
      | none => exact L.rel_error (hundefined (.inr rfl))

/-! ### Calls -/

/-- Calls of paired arrow functions with paired arguments go together. -/
def CallsFunctions (L : Comparison) (p : Pairing) (eval eval' : Evaluator)
    (scope scope' : Scope) : Prop :=
  ∀ {params params' : List String} {body body' : Expr} {captured captured' : Fields Value}
    {args args' : List Value},
    Paired p (.function params body captured) (.function params' body' captured') →
      List.Forall₂ (Paired p) args args' →
        L.rel (Paired p) (callFunction eval scope params body captured args)
          (callFunction eval' scope' params' body' captured' args')

section

variable (hs : L.SharesHosts p) (hf : L.CallsFunctions p eval eval' scope scope')

include hs hf

/-- A call of a value, whatever it is called in messages on either side. -/
theorem rel_callValue_of_fails {name name' : Option String}
    (hname : ∀ kind, L.fails (.notCallable (name.getD kind)) (.notCallable (name'.getD kind))) :
    L.Callers p (callValue eval scope name) (callValue eval' scope' name') := by
  intro f f' args args' hpaired hargs
  unfold callValue
  cases hpaired with
  | function hcode hcaptured => exact hf (.function hcode hcaptured) hargs
  | @host h hh =>
    cases h with
    | builtin b => exact L.rel_ofExcept (Host.ends_builtin hs hargs hh)
    | space ns =>
      cases ns with
      | number =>
        refine L.rel_pure ?_
        cases hargs with
        | nil => exact .number _
        | cons h _ =>
          rw [List.head?_cons, List.head?_cons, Option.map_some, Option.map_some, h.toNumber_eq]
          exact .number _
      | _ => exact L.rel_error (hname _)
    | _ => exact L.rel_error (hname _)
  | _ => exact L.rel_error (hname _)

theorem rel_callValue {name name' : Option String} (hname : name = name') :
    L.Callers p (callValue eval scope name) (callValue eval' scope' name') := by
  subst hname
  exact rel_callValue_of_fails hs hf fun _ => L.fails_raised rfl

theorem rel_callMethod {receiver receiver' : Value} (hr : Paired p receiver receiver')
    {name : String} {args args' : List Value} (hargs : List.Forall₂ (Paired p) args args')
    (hnow : p.host (.space .dateTime) → name ∈ Namespace.clockMethods →
      L.left.context.now = L.right.context.now) :
    L.rel (Paired p) (callMethod eval scope receiver name args)
      (callMethod eval' scope' receiver' name args') := by
  have hc := rel_callValue hs hf (rfl : (none : Option String) = none)
  have hinvoke := rel_invoke hc hr name hargs
  cases hr with
  | host hh => exact Host.rel_call hs hargs hh hc hnow
  | undefined | null | bool _ | number _ | string _ | array _ | object _ | date _
  | function _ _ =>
    refine L.rel_read ?_
    dsimp only
    rw [L.allowsMethod]
    exact L.rel_check Iff.rfl (fun _ => L.fails_raised rfl) fun _ => hinvoke

end

/-! ### Lists of parts -/

theorem rel_evalAll {es es' : List Expr}
    (h : List.Forall₂ (fun e e' => L.rel (Paired p) (eval scope e) (eval' scope' e')) es es') :
    L.rel (List.Forall₂ (Paired p)) (evalAll eval scope es) (evalAll eval' scope' es') :=
  L.rel_mapItems (R := fun e e' => L.rel (Paired p) (eval scope e) (eval' scope' e'))
    (fun _ _ _ h => h) h

theorem rel_evalEntries {entries entries' : Fields Expr}
    (h : Fields.Related (fun e e' => L.rel (Paired p) (eval scope e) (eval' scope' e')) entries
      entries')
    {fields fields' : Fields Value} (hfields : Fields.Related (Paired p) fields fields') :
    L.rel (Fields.Related (Paired p)) (evalEntries eval scope fields entries)
      (evalEntries eval' scope' fields' entries') := by
  induction h generalizing fields fields' with
  | nil => exact L.rel_pure hfields
  | cons key h _ ih =>
    exact L.rel_reserve_bind rfl (L.rel_bind h fun v w hv => ih (hfields.insert key hv))

/-! ### Accesses and calls -/

section

variable (hs : L.SharesHosts p)

include hs

/-- An access to a member, if what is read without the whole goes together, and the whole does where
nothing is. -/
theorem rel_evalMember {e e' : Expr} {name : String} {optional : Bool}
    (hroot : Option.Rel (Paired p) (rootProperty? L.left scope e name)
      (rootProperty? L.right scope' e' name))
    (h : rootProperty? L.left scope e name = none →
      L.rel (Paired p) (eval scope e) (eval' scope' e')) :
    L.rel (Paired p) (evalMember eval scope e name optional)
      (evalMember eval' scope' e' name optional) := by
  unfold evalMember
  refine L.rel_read ?_
  generalize rootProperty? L.left scope e name = v?,
    rootProperty? L.right scope' e' name = w? at hroot h
  cases hroot with
  | some hv => exact L.rel_pure hv
  | none => exact L.rel_bind (h rfl) fun v w hv => L.rel_ofExcept (ends_read hs hv name optional)

/-- An access by a key, likewise. -/
theorem rel_evalIndex {e e' key key' : Expr} {optional : Bool}
    (hliteral : key.literalKey? = key'.literalKey?)
    (hcomputed : L.left.policy.config.strictGrammar = true → key.literalKey? = none →
      L.fails (.security .computedAccess) (.security .computedAccess))
    (hroot : Option.Rel (Paired p) (key.literalKey?.bind (rootProperty? L.left scope e))
      (key.literalKey?.bind (rootProperty? L.right scope' e')))
    (h : key.literalKey?.bind (rootProperty? L.left scope e) = none →
      L.rel (Paired p) (eval scope e) (eval' scope' e'))
    (hkey : L.rel (Paired p) (eval scope key) (eval' scope' key')) :
    L.rel (Paired p) (evalIndex eval scope e key optional)
      (evalIndex eval' scope' e' key' optional) := by
  unfold evalIndex
  refine L.rel_read ?_
  dsimp only
  rw [← L.strictGrammar, ← hliteral]
  refine L.rel_check Iff.rfl (fun hfail => ?_) fun _ => ?_
  · rw [Bool.and_eq_true, Option.isNone_iff_eq_none] at hfail
    exact hcomputed hfail.1 hfail.2
  generalize key.literalKey?.bind (rootProperty? L.left scope e) = v?,
    key.literalKey?.bind (rootProperty? L.right scope' e') = w? at hroot h
  cases hroot with
  | some hv => exact L.rel_pure hv
  | none =>
    refine L.rel_bind (h rfl) fun v w hv => ?_
    rw [hv.isNullish_eq]
    split
    · exact L.rel_pure .undefined
    · exact L.rel_bind hkey fun k k' hk => L.rel_ofExcept (ends_readKey hs hv hk optional)

end

section

variable {args args' : List Expr}
  (hargs : List.Forall₂ (fun e e' => L.rel (Paired p) (eval scope e) (eval' scope' e')) args args')

include hargs

/-- The arguments of a call are evaluated if there is something to call. -/
theorem rel_evalArgs {x : Eval Value} {y : Eval Value} (h : L.rel (Paired p) x y)
    (skips : Bool) {f g : Value → List Value → Eval Value}
    (hcall : ∀ v w vs ws, Paired p v w → List.Forall₂ (Paired p) vs ws →
      L.rel (Paired p) (f v vs) (g w ws)) :
    L.rel (Paired p)
      (do let v ← x
          if v.isNullish && skips then pure .undefined
          else do
            let vs ← evalAll eval scope args
            f v vs)
      (do let v ← y
          if v.isNullish && skips then pure .undefined
          else do
            let vs ← evalAll eval' scope' args'
            g v vs) := by
  refine L.rel_bind h fun v w hv => ?_
  rw [hv.isNullish_eq]
  split
  · exact L.rel_pure .undefined
  · exact L.rel_bind (rel_evalAll hargs) fun vs ws hvs => hcall v w vs ws hv hvs

end

/-! ### Operators -/

theorem rel_applyBinary (op : BinaryOp) {a a' b b' : Value} (ha : Paired p a a')
    (hb : Paired p b b') : L.rel (Paired p) (op.apply a b) (op.apply a' b') := by
  cases op with
  | add =>
    simp only [BinaryOp.apply, ha.concatenates_eq, hb.concatenates_eq, ha.toText_eq, hb.toText_eq,
      ha.toNumber_eq, hb.toNumber_eq]
    split
    · exact L.rel_reserve_bind rfl (L.rel_pure (.string _))
    · exact L.rel_pure (.number _)
  | and | or | nullish => exact L.rel_pure hb
  | subtract | multiply | divide | modulo | power =>
    simp only [BinaryOp.apply, ha.toNumber_eq, hb.toNumber_eq]
    exact L.rel_pure (.number _)
  | equal | notEqual | strictEqual | strictNotEqual | less | lessEqual | greater | greaterEqual =>
    simp only [BinaryOp.apply, Paired.looseEquals_eq ha hb, Paired.strictEquals_eq ha hb,
      Paired.isLess_eq ha hb, Paired.isLess_eq hb ha, Paired.isLessEqual_eq ha hb,
      Paired.isLessEqual_eq hb ha]
    exact L.rel_pure (.bool _)

/-- An operator between two parts. -/
theorem rel_evalBinary (op : BinaryOp) {l l' r r' : Expr}
    (hl : L.rel (Paired p) (eval scope l) (eval' scope' l'))
    (hr : L.rel (Paired p) (eval scope r) (eval' scope' r')) :
    L.rel (Paired p) (evalBinary eval scope op l r) (evalBinary eval' scope' op l' r') := by
  refine L.rel_bind hl fun a a' ha => ?_
  have hdecided := ha.decided? op
  generalize op.decided? a = v?, op.decided? a' = w? at hdecided
  cases hdecided with
  | some h => exact L.rel_pure h
  | none => exact L.rel_bind hr fun b b' hb => rel_applyBinary op ha hb

/-- A condition, and the part that it chooses. -/
theorem rel_evalConditional {t t' c c' a a' : Expr} {span span' : Span}
    (ht : L.rel (Paired p) (eval scope t) (eval' scope' t'))
    (hc : L.rel (Paired p) (eval scope c) (eval' scope' c'))
    (ha : L.rel (Paired p) (eval scope a) (eval' scope' a')) :
    L.rel (Paired p) (evalNode eval scope (.conditional span t c a))
      (evalNode eval' scope' (.conditional span' t' c' a')) := by
  refine L.rel_bind ht fun v w hv => ?_
  rw [hv.truthy_eq]
  split
  · exact hc
  · exact ha

end Eval.Comparison

end TemplateExpr
