import TemplateExpr.Proofs.Context.Data
import TemplateExpr.Proofs.Expr.Node

/-!
# Evaluation beside itself

In two sandboxes with the same context and the same names that may be used, an expression goes
together with itself, whatever else they allow (`rel_eval_self`): what names stand for is the same
in both of them, and functions are paired with themselves only (`Pairing.ofBodies`). A node of an
expression goes together with itself if whatever is below it does (`rel_evalNode_of_below`).
-/

namespace TemplateExpr

open TemplateExpr.Eval TemplateExpr.Eval.Comparison Value

/-! ### Bodies of the functions in a value -/

namespace Value

mutual

/-- The bodies of all functions in a value, those that functions have captured included. -/
def bodies : Value → List Expr
  | array items => bodiesItems items
  | object fields => bodiesFields fields
  | function _ body captured => body :: bodiesFields captured
  | _ => []

/-- `bodies` of all items. -/
def bodiesItems : List Value → List Expr
  | [] => []
  | v :: vs => v.bodies ++ bodiesItems vs

/-- `bodies` of the values of all fields. -/
def bodiesFields : Fields Value → List Expr
  | [] => []
  | (_, v) :: fields => v.bodies ++ bodiesFields fields

end

/-- All hosts, and the functions whose bodies satisfy `ok`, each with itself. -/
def Pairing.ofBodies (ok : Expr → Prop) : Pairing where
  host _ := True
  code f f' := f = f' ∧ ok f.body
  same := by
    rintro f _ g _ ⟨rfl, -⟩ ⟨rfl, -⟩
    rfl

/-- All hosts may stand in values, and functions whose bodies satisfy `ok` go with themselves. -/
structure Pairing.IsReflexiveOn (p : Pairing) (ok : Expr → Prop) : Prop where
  host : ∀ h, p.host h
  code : ∀ params body names, ok body → p.code ⟨params, body, names⟩ ⟨params, body, names⟩

theorem isReflexiveOn_ofBodies (ok : Expr → Prop) : (Pairing.ofBodies ok).IsReflexiveOn ok where
  host _ := trivial
  code _ _ _ h := ⟨rfl, h⟩

namespace Paired

variable {p : Pairing} {ok : Expr → Prop}

theorem eq_of_ofBodies {v w : Value} (h : Paired (.ofBodies ok) v w) : v = w :=
  h.eq fun f f' (hf : f = f' ∧ ok f.body) => hf.1

theorem items_eq_of_ofBodies {vs ws : List Value} (h : List.Forall₂ (Paired (.ofBodies ok)) vs ws) :
    vs = ws := by
  induction h with
  | nil => rfl
  | cons hv _ ih => rw [hv.eq_of_ofBodies, ih]

mutual

/-- Values are paired with themselves if the bodies of their functions satisfy `ok`. -/
theorem refl_of_bodies (hp : p.IsReflexiveOn ok) :
    ∀ {v : Value}, (∀ b ∈ v.bodies, ok b) → Paired p v v
  | .undefined, _ => .undefined
  | .null, _ => .null
  | .bool b, _ => .bool b
  | .number x, _ => .number x
  | .string s, _ => .string s
  | .date t, _ => .date t
  | .host h, _ => .host (hp.host h)
  | .array items, h => by
    rw [Value.bodies] at h
    exact .array (items_refl_of_bodies hp h)
  | .object fields, h => by
    rw [Value.bodies] at h
    exact .object (fields_refl_of_bodies hp h)
  | .function params body captured, h => by
    rw [Value.bodies, List.forall_mem_cons] at h
    exact .function (hp.code params body _ h.1)
      ((fields_refl_of_bodies hp h.2).pairs.imp fun _ _ hv => hv.2)

theorem items_refl_of_bodies (hp : p.IsReflexiveOn ok) :
    ∀ {vs : List Value}, (∀ b ∈ bodiesItems vs, ok b) → List.Forall₂ (Paired p) vs vs
  | [], _ => .nil
  | _ :: _, h => by
    rw [bodiesItems, List.forall_mem_append] at h
    exact .cons (refl_of_bodies hp h.1) (items_refl_of_bodies hp h.2)

theorem fields_refl_of_bodies (hp : p.IsReflexiveOn ok) :
    ∀ {fields : Fields Value}, (∀ b ∈ bodiesFields fields, ok b) →
      Fields.Related (Paired p) fields fields
  | [], _ => .nil
  | (key, _) :: _, h => by
    rw [bodiesFields, List.forall_mem_append] at h
    exact .cons key (refl_of_bodies hp h.1) (fields_refl_of_bodies hp h.2)

end

theorem ofBodies {v : Value} (h : ∀ b ∈ v.bodies, ok b) : Paired (.ofBodies ok) v v :=
  refl_of_bodies (isReflexiveOn_ofBodies ok) h

theorem fields_ofBodies {fields : Fields Value} (h : ∀ b ∈ bodiesFields fields, ok b) :
    Fields.Related (Paired (.ofBodies ok)) fields fields :=
  fields_refl_of_bodies (isReflexiveOn_ofBodies ok) h

end Paired

end Value

/-- The bodies of all functions in a context. -/
def Context.bodies (c : Context) : List Expr :=
  c.json.bodies ++ (bodiesFields c.nodes ++ bodiesItems c.input)

theorem Context.isPaired_of_bodies {c : Context} {p : Pairing} {ok : Expr → Prop}
    (hp : p.IsReflexiveOn ok) (h : ∀ b ∈ c.bodies, ok b) : c.IsPaired p := by
  rw [bodies, List.forall_mem_append, List.forall_mem_append] at h
  exact ⟨.refl_of_bodies hp h.1, Paired.fields_refl_of_bodies hp h.2.1,
    Paired.items_refl_of_bodies hp h.2.2⟩

theorem Context.isPaired_ofBodies {c : Context} {ok : Expr → Prop} (h : ∀ b ∈ c.bodies, ok b) :
    c.IsPaired (.ofBodies ok) :=
  isPaired_of_bodies (isReflexiveOn_ofBodies ok) h

/-! ### Names -/

namespace Context.IsPaired

variable {s : Sandbox} {p : Pairing} (h : s.context.IsPaired p)

include h

theorem paired_global (hhost : ∀ h, p.host h) (name : String) :
    Option.Rel (Paired p) (s.global? name) (s.global? name) :=
  Sandbox.paired_global (fun _ => h.json) (fun _ => h.nodes) (fun _ => hhost _) (fun _ _ => hhost _)
    fun _ _ => hhost _

theorem paired_rootProperty? (scope : Scope) (e : Expr) (key : String) :
    Option.Rel (Paired p) (rootProperty? s scope e key) (rootProperty? s scope e key) := by
  unfold rootProperty?
  split
  · exact .some (h.json.property key)
  split
  · refine .some (Paired.getD ?_)
    cases s.context.env.get? key with
    | none => exact .none
    | some text => exact .some (.string text)
  · exact .none

end Context.IsPaired

/-! ### One node -/

/-- Sandboxes with the same context and names, and a comparison in which every place goes with
itself and so does every error, those of too much nesting apart. -/
structure Eval.Comparison.IsSelf (L : Comparison) : Prop where
  context : L.left.context = L.right.context
  dates : L.left.dates = L.right.dates
  allowsGlobal : L.left.policy.allowsGlobal = L.right.policy.allowsGlobal
  fails : ∀ e : EvalError, e.isDepth = false → L.fails e e
  places : ∀ span, L.places span span

/-- Errors of too much nesting go with themselves as well. What follows on a call is compared if a
frame is left for it on the left. -/
structure Eval.Comparison.IsReflexive (L : Comparison) : Prop extends L.IsSelf where
  depth : ∀ n, L.fails (.resourceLimit .callStack n) (.resourceLimit .callStack n)
  rel_enter_bind : ∀ {α : Type} {R : α → α → Prop} {f g : Scope → Eval α} {scope : Scope},
    (scope.frames < L.left.policy.config.maxCallStackSize →
      L.rel R (f { scope with frames := scope.frames + 1 })
        (g { scope with frames := scope.frames + 1 })) →
    L.rel R (scope.enter >>= f) (scope.enter >>= g)

/-- Two evaluators go together in a scope on all expressions of fewer nodes than `size`, and
wherever more frames are taken up than there. -/
structure AgreeBelow (L : Comparison) (ok : Expr → Prop) (eval eval' : Evaluator) (scope : Scope)
    (size : Nat) : Prop where
  part : ∀ e, e.nodeCount < size → ok e →
    L.rel (Paired (.ofBodies ok)) (eval scope e) (eval' scope e)
  deeper : ∀ inner e, scope.frames < inner.frames →
    inner.frames ≤ L.left.policy.config.maxCallStackSize →
    Fields.Related (Paired (.ofBodies ok)) inner.locals inner.locals → ok e →
    L.rel (Paired (.ofBodies ok)) (eval inner e) (eval' inner e)

section

variable {L : Comparison} (hself : L.IsSelf) {ok : Expr → Prop} {eval eval' : Evaluator}
  {scope : Scope}

include hself

theorem rootProperty?_right (scope : Scope) (e : Expr) (key : String) :
    rootProperty? L.right scope e key = rootProperty? L.left scope e key := by
  rw [rootProperty?, rootProperty?, hself.context, hself.allowsGlobal]

variable (hcontext : L.left.context.IsPaired (.ofBodies ok))

include hcontext

theorem sharesHosts_ofBodies : L.SharesHosts (.ofBodies ok) :=
  hcontext.sharesHosts rfl hself.context.symm fun _ _ => trivial

theorem paired_rootProperty?_self (scope : Scope) (e : Expr) (key : String) :
    Option.Rel (Paired (.ofBodies ok)) (rootProperty? L.left scope e key)
      (rootProperty? L.right scope e key) := by
  rw [rootProperty?_right hself]
  exact hcontext.paired_rootProperty? scope e key

theorem rel_resolve_self
    (hlocals : Fields.Related (Paired (.ofBodies ok)) scope.locals scope.locals) (name : String) :
    L.rel (Paired (.ofBodies ok)) (resolveName scope name) (resolveName scope name) := by
  have hglobal : Option.Rel (Paired (.ofBodies ok)) (L.left.global? name)
      (L.right.global? name) := by
    have hright : L.right.global? name = L.left.global? name := by
      rw [Sandbox.global?, Sandbox.global?, hself.context, hself.dates]
    rw [hright]
    exact hcontext.paired_global (fun _ => trivial) name
  exact rel_resolve (hlocals.get? name) (congrFun hself.allowsGlobal name) (fun _ _ => hglobal)
    fun _ _ => hself.fails _ rfl

/-- A call, in the frame that it takes up. -/
theorem rel_evalCall_self {callee : Expr} {args : List Expr} {optional : Bool}
    (hf : L.CallsFunctions (.ofBodies ok) eval eval' scope scope)
    (hpart : ∀ e ∈ callee :: (args ++ callee.parts),
      L.rel (Paired (.ofBodies ok)) (eval scope e) (eval' scope e)) :
    L.rel (Paired (.ofBodies ok)) (evalCall eval scope callee args optional)
      (evalCall eval' scope callee args optional) := by
  rw [List.forall_mem_cons, List.forall_mem_append] at hpart
  obtain ⟨hcallee, hargs, hparts⟩ := hpart
  have hshares := sharesHosts_ofBodies hself hcontext
  have hargs : List.Forall₂ (fun e e' => L.rel (Paired (.ofBodies ok)) (eval scope e)
      (eval' scope e')) args args := List.forall₂_same.2 hargs
  have hvalue := rel_evalArgs hargs hcallee optional
    (rel_callValue hshares hf (rfl : some callee.calleeName = some callee.calleeName))
  cases callee with
  | member span e name optionalMember =>
    refine rel_evalArgs hargs (hparts e List.mem_cons_self) _ fun v w vs ws hv hvs => ?_
    exact rel_callMethod hshares hf hv hvs fun _ _ => by rw [hself.context]
  | _ => exact hvalue

omit hself hcontext in
theorem isDepth_assignmentError (scope : Scope) (e : Expr) :
    (assignmentError scope e).isDepth = false := by
  unfold assignmentError
  split
  · split <;> rfl
  · split <;> rfl
  · rfl

/-- A node depends on the expressions right below it only, unless it is a call. -/
theorem rel_evalNode_of_parts
    (hlocals : Fields.Related (Paired (.ofBodies ok)) scope.locals scope.locals) {e : Expr}
    (hpart : ∀ e' ∈ e.parts, L.rel (Paired (.ofBodies ok)) (eval scope e') (eval' scope e'))
    (hbody : ∀ span params body, e = .lambda span params body → ok body)
    (hcall : ∀ span callee args optional, e = .call span callee args optional →
      L.rel (Paired (.ofBodies ok)) (scope.enter >>= (evalCall eval · callee args optional))
        (scope.enter >>= (evalCall eval' · callee args optional))) :
    L.rel (Paired (.ofBodies ok)) (evalNode eval scope e) (evalNode eval' scope e) := by
  have hshares := sharesHosts_ofBodies hself hcontext
  cases e with
  | literal span l => exact L.rel_pure (.ofLiteral l)
  | ident span name => exact rel_resolve_self hself hcontext hlocals name
  | array span items =>
    exact L.rel_reserve_bind rfl (L.rel_bind_pure (rel_evalAll (List.forall₂_same.2 hpart))
      fun _ _ => .array)
  | object span entries =>
    refine L.rel_bind_pure (rel_evalEntries ?_ .nil) fun _ _ => .object
    exact .refl fun f hf => hpart f.2 (List.mem_map_of_mem hf)
  | member span e name optional =>
    exact rel_evalMember hshares (paired_rootProperty?_self hself hcontext scope e name)
      fun _ => hpart e List.mem_cons_self
  | index span e key optional =>
    rw [Expr.parts, List.forall_mem_cons, List.forall_mem_singleton] at hpart
    refine rel_evalIndex hshares rfl (fun _ _ => hself.fails _ rfl) ?_ (fun _ => hpart.1) hpart.2
    cases key.literalKey? with
    | none => exact .none
    | some k => exact paired_rootProperty?_self hself hcontext scope e k
  | call span callee args optional => exact hcall span callee args optional rfl
  | unary span op e =>
    exact L.rel_bind_pure (hpart e List.mem_cons_self) fun _ _ h => h.applyUnary op
  | binary span op left right =>
    rw [Expr.parts, List.forall_mem_cons, List.forall_mem_singleton] at hpart
    exact rel_evalBinary op hpart.1 hpart.2
  | conditional span test consequent alternate =>
    rw [Expr.parts, List.forall_mem_cons, List.forall_mem_cons, List.forall_mem_singleton] at hpart
    exact rel_evalConditional hpart.1 hpart.2.1 hpart.2.2
  | lambda span params body =>
    exact L.rel_pure (.function ⟨rfl, hbody span params body rfl⟩
      (hlocals.pairs.imp fun _ _ h => h.2))
  | assign span target value =>
    exact L.rel_error (hself.fails _ (isDepth_assignmentError scope target))

end

section

variable {L : Comparison} (hself : L.IsReflexive) {ok : Expr → Prop} {eval eval' : Evaluator}
  {scope : Scope}

include hself

/-- The body of a function is evaluated in one frame more. -/
theorem callsFunctions_of_deeper {size : Nat} (h : AgreeBelow L ok eval eval' scope size) :
    L.CallsFunctions (.ofBodies ok) eval eval' scope scope := by
  intro params params' body body' captured captured' args args' hf hargs
  obtain ⟨rfl, rfl, rfl⟩ := Value.function.inj hf.eq_of_ofBodies
  obtain rfl := Paired.items_eq_of_ofBodies hargs
  cases hf with
  | function hcode hcaptured =>
    refine L.rel_bind L.rel_interrupts fun _ _ _ => hself.rel_enter_bind fun hlimit => ?_
    have hlocals := Scope.paired_bindParams (.of_keys rfl hcaptured) params hargs
    exact h.deeper _ body (Nat.lt_succ_self _) hlimit hlocals hcode.2

/-- A node depends on what is below it only: names and literals have no parts, a call goes on in a
frame of its own, and everything else goes on with smaller expressions in the same one. -/
theorem rel_evalNode_of_below (hcontext : L.left.context.IsPaired (.ofBodies ok))
    (hok : ∀ e e' : Expr, e'.nodeCount < e.nodeCount → ok e → ok e')
    (hlocals : Fields.Related (Paired (.ofBodies ok)) scope.locals scope.locals) {e : Expr}
    (h : AgreeBelow L ok eval eval' scope e.nodeCount) (he : ok e) :
    L.rel (Paired (.ofBodies ok)) (evalNode eval scope e) (evalNode eval' scope e) := by
  have hpart {e' : Expr} (hlt : e'.nodeCount < e.nodeCount) : ok e' := hok e e' hlt he
  refine rel_evalNode_of_parts hself.toIsSelf hcontext hlocals (fun e' he' => ?_) ?_ ?_
  · have hlt := Expr.nodeCount_lt_of_mem_parts he'
    exact h.part e' hlt (hpart hlt)
  · rintro span params body rfl
    exact hpart (Expr.nodeCount_lt_of_mem_parts List.mem_cons_self)
  · rintro span callee args optional rfl
    refine hself.rel_enter_bind fun hlimit => ?_
    have hdeeper : AgreeBelow L ok eval eval' { scope with frames := scope.frames + 1 }
        (Expr.call span callee args optional).nodeCount := by
      refine ⟨fun e' _ he' => ?_, fun inner e' hlt => ?_⟩
      · exact h.deeper _ e' (Nat.lt_succ_self _) hlimit hlocals he'
      · exact h.deeper inner e' (Nat.lt_trans (Nat.lt_succ_self _) hlt)
    refine rel_evalCall_self hself.toIsSelf hcontext (callsFunctions_of_deeper hself hdeeper)
      fun e' he' => ?_
    have hlt : e'.nodeCount < (Expr.call span callee args optional).nodeCount := by
      rw [← List.cons_append, List.mem_append] at he'
      rcases he' with he' | he'
      · exact Expr.nodeCount_lt_of_mem_parts he'
      · refine Nat.lt_trans (Expr.nodeCount_lt_of_mem_parts he') ?_
        exact Expr.nodeCount_lt_of_mem_parts List.mem_cons_self
    exact hdeeper.part e' hlt (hpart hlt)

/-- At every level of nesting an expression goes together with itself. -/
theorem rel_eval_self (n : Nat) (scope : Scope) (e : Expr) :
    L.rel (Paired (.ofBodies fun _ => True)) (e.eval n scope) (e.eval n scope) := by
  induction n generalizing scope e with
  | zero => exact L.rel_bind L.rel_tick fun _ _ _ => L.rel_error (hself.depth _)
  | succ n ih =>
    refine L.rel_bind L.rel_tick fun _ _ _ => L.rel_locate (hself.places e.span) ?_
    have hbelow : AgreeBelow L (fun _ => True) (Expr.eval n) (Expr.eval n) scope e.nodeCount :=
      ⟨fun e' _ _ => ih scope e', fun inner e' _ _ _ _ => ih inner e'⟩
    refine rel_evalNode_of_below hself ?_ (fun _ _ _ _ => trivial) ?_ hbelow trivial
    · exact Context.isPaired_ofBodies fun _ _ => trivial
    · exact Paired.fields_ofBodies fun _ _ => trivial

end

end TemplateExpr
