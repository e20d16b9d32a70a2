import TemplateExpr.Proofs.Eval.Run
import TemplateExpr.Proofs.Eval.Thrift
import TemplateExpr.Proofs.Number.Reading

/-!
# Properties of the item and of the environment

An access to `$json` or `$env` by a literal key reads one property of the context and nothing else.
A parameter that stands for the same part of the context is read like any other value. Both come to
the same (`results_access_eq`) unless the item is nullish: its properties are undefined when they
are read directly, while it is an error to read them through a parameter. For a number as key both
agree because the text of a number is read as that number (`readDecimalOrWord?_format`).
-/

namespace TemplateExpr

open TemplateExpr.Eval Value

/-! ### Results -/

/-- How the computation ends, whatever has been used before it. The place of a failure is left out.
-/
def Eval.Results {α : Type} (s : Sandbox) (x : Eval α) (r : Except EvalError α) : Prop :=
  ∀ m, (x.run s m).1.mapError Failure.error = r

namespace Eval.Results

variable {α β : Type} {s : Sandbox} {x : Eval α} {f : α → Eval β}

theorem pure (s : Sandbox) (a : α) : Results s (Pure.pure a) (.ok a) := fun _ => rfl

theorem ofExcept (s : Sandbox) (r : Except EvalError α) : Results s (Eval.ofExcept r) r := by
  intro m
  cases r with
  | ok a => rfl
  | error e => rfl

theorem bind {a : α} {r : Except EvalError β} (hx : Results s x (.ok a))
    (hf : Results s (f a) r) : Results s (x >>= f) r := by
  intro m
  have h := hx m
  rw [run_bind]
  rcases hrun : x.run s m with ⟨_ | b, m'⟩
  · rw [hrun] at h
    cases h
  · rw [hrun] at h
    obtain rfl := Except.ok.inj h
    exact hf m'

theorem locate {r : Except EvalError α} (hx : Results s x r) (span : Span) :
    Results s (x.locate span) r := by
  intro m
  have h := hx m
  rw [run_locate]
  rcases hrun : x.run s m with ⟨_ | b, m'⟩
  · rw [hrun] at h
    exact h
  · rw [hrun] at h
    exact h

/-- Whatever looks at the sandbox first. -/
theorem read {r : Except EvalError β} {f : Sandbox → Eval β} (h : Results s (f s) r) :
    Results s (MonadReader.read >>= f) r := fun m => h m

end Eval.Results

section

variable {s : Sandbox} (hcalm : s.IsCalm)

include hcalm

theorem results_checkInterrupts : Results s checkInterrupts (.ok ()) := by
  intro m
  rw [hcalm.run_checkInterrupts]
  rfl

theorem results_tick : Results s tick (.ok ()) := by
  intro m
  rw [run_tick, hcalm.run_checkInterrupts, ite_self]
  rfl

/-- An expression is evaluated as its node is, if there is a level left. -/
theorem results_eval {n : Nat} {scope : Scope} {e : Expr} {r : Except EvalError Value}
    (h : Results s (evalNode (Expr.eval n) scope e) r) : Results s (e.eval (n + 1) scope) r :=
  (results_tick hcalm).bind (h.locate e.span)

end

theorem results_enter {s : Sandbox} {scope : Scope}
    (h : scope.frames < s.policy.config.maxCallStackSize) :
    Results s scope.enter (.ok { scope with frames := scope.frames + 1 }) := by
  intro m
  rw [run_enter, if_neg (Nat.not_le.2 h)]
  rfl

/-! ### Keys -/

/-- A key that is written out: the name of a member, or a text or a number in brackets. -/
inductive LiteralKey where
  | name (s : String)
  | text (s : String)
  | number (x : Float)

namespace LiteralKey

/-- The access to `e` by the key, which stands at `keySpan` if it stands in brackets. -/
def access (k : LiteralKey) (span keySpan : Span) (e : Expr) (optional : Bool) : Expr :=
  match k with
  | name s => .member span e s optional
  | text s => .index span e (.literal keySpan (.string s)) optional
  | number x => .index span e (.literal keySpan (.number x)) optional

/-- The name that the key stands for. -/
def toText : LiteralKey → String
  | name s | text s => s
  | number x => Number.format x

/-- Reads a value by the key. -/
def read (k : LiteralKey) (c : Context) (v : Value) (optional : Bool) : Except EvalError Value :=
  match k with
  | name s | text s => v.read c s optional
  | number x => if v.isNullish && optional then .ok .undefined else v.readKey c (.number x) optional

end LiteralKey

/-! ### Numbers as names -/

theorem asIndex?_of_beq_zero {x : Float} (h : (x == 0) = true) :
    Number.asIndex? x = Number.asIndex? 0 := by
  obtain ⟨-, -, rfl | ⟨-, hneg⟩ | ⟨rfl, -⟩⟩ := Float.beq_iff_ne_nan_and_eq.1 h
  · rfl
  · exact absurd hneg (by decide +kernel)
  · decide +kernel

/-- The text of a number names the item at the number. -/
theorem listProperty_format {α : Type} (wrap : α → Value) (items : List α) (x : Float) :
    listProperty wrap items (Number.format x) = itemAt wrap items x := by
  obtain ⟨y, hread, hy⟩ := Number.readDecimalOrWord?_format x
  have hindex : Number.asIndex? y = Number.asIndex? x := by
    rcases hy with rfl | ⟨hzero, rfl⟩
    · rfl
    · exact (asIndex?_of_beq_zero hzero).symm
  have hlength : (Number.format x == "length") = false := by
    rw [beq_eq_false_iff_ne]
    intro h
    rw [h] at hread
    have hnone : Number.readDecimalOrWord? "length".toList = none := by decide +kernel
    rw [hnone] at hread
    cases hread
  rw [listProperty, hlength, if_neg Bool.false_ne_true, hread, Option.map_some, Option.getD_some,
    itemAt, itemAt, hindex]

/-- What is read by a key is the property of that name, unless the value is nullish or one of the
host. -/
theorem LiteralKey.read_eq_property (k : LiteralKey) (c : Context) {v : Value} {optional : Bool}
    (hnullish : v.isNullish = true → optional = true) (hhost : ∀ h, v ≠ .host h) :
    k.read c v optional = .ok (v.property k.toText) := by
  cases v with
  | host h => exact absurd rfl (hhost h)
  | undefined =>
    obtain rfl := hnullish rfl
    cases k <;> rfl
  | null =>
    obtain rfl := hnullish rfl
    cases k <;> rfl
  | array items =>
    cases k with
    | number x => exact congrArg Except.ok (listProperty_format id items x).symm
    | name n => rfl
    | text n => rfl
  | string t =>
    cases k with
    | number x => exact congrArg Except.ok (listProperty_format ofChar t.toList x).symm
    | name n => rfl
    | text n => rfl
  | bool b => cases k <;> rfl
  | number x => cases k <;> rfl
  | object fields => cases k <;> rfl
  | date t => cases k <;> rfl
  | function params body captured => cases k <;> rfl

/-! ### Roots -/

namespace LiteralKey

/-- The access by the key in a function of one parameter, which is called with `e`. -/
def throughParameter (k : LiteralKey) (span keySpan : Span) (param : String) (e : Expr)
    (optional : Bool) : Expr :=
  .call span (.lambda span [param] (k.access span keySpan (.ident span param) optional)) [e] false

end LiteralKey

section

variable {s : Sandbox} (hcalm : s.IsCalm) {n : Nat} {scope : Scope} {v : Value} (k : LiteralKey)

include hcalm

/-- The value of a name. -/
theorem results_local {name : String} (h : scope.local? name = some v) (span : Span) :
    Results s (Expr.eval (n + 1) scope (.ident span name)) (.ok v) := by
  refine results_eval hcalm ?_
  show Results s (resolveName scope name) _
  rw [resolveName, h]
  exact .pure s v

theorem results_global {name : String} (hlocal : scope.local? name = none)
    (hallowed : s.policy.allowsGlobal name = true) (hv : s.global? name = some v) (span : Span) :
    Results s (Expr.eval (n + 1) scope (.ident span name)) (.ok v) := by
  refine results_eval hcalm ?_
  show Results s (resolveName scope name) _
  rw [resolveName, hlocal]
  refine .read ?_
  rw [hallowed, if_pos rfl, hv]
  exact .pure s v

/-- An access by a key that is a literal. -/
theorem results_index {e key : Expr} {name : String} {w : Value} {r : Except EvalError Value}
    (hname : key.literalKey? = some name) (hkey : Results s (key.eval (n + 1) scope) (.ok w))
    (span : Span) (optional : Bool)
    (hshortcut : ∀ v, rootProperty? s scope e name = some v → r = .ok v)
    (hread : rootProperty? s scope e name = none → ∃ v, Results s (e.eval (n + 1) scope) (.ok v) ∧
      r = if v.isNullish && optional then .ok .undefined else v.readKey s.context w optional) :
    Results s (Expr.eval (n + 2) scope (.index span e key optional)) r := by
  refine results_eval hcalm ?_
  show Results s (evalIndex _ scope e key optional) r
  refine .read ?_
  have hstrict : (s.policy.config.strictGrammar && key.literalKey?.isNone) = false := by
    rw [hname]
    exact Bool.and_false _
  rw [hstrict, if_neg Bool.false_ne_true, hname, Option.bind_some]
  cases hroot : rootProperty? s scope e name with
  | some v =>
    obtain rfl := hshortcut v hroot
    exact .pure s v
  | none =>
    obtain ⟨v, hv, rfl⟩ := hread hroot
    refine hv.bind ?_
    split
    · exact .pure s _
    · exact hkey.bind (.ofExcept s _)

/-- An access by a key that is written out takes the shortcut if there is one, and otherwise reads
the value of what it stands behind. -/
theorem results_access {e : Expr} {r : Except EvalError Value} (span keySpan : Span)
    (optional : Bool)
    (hshortcut : ∀ v, rootProperty? s scope e k.toText = some v → r = .ok v)
    (hread : rootProperty? s scope e k.toText = none →
      ∃ v, Results s (e.eval (n + 1) scope) (.ok v) ∧ r = k.read s.context v optional) :
    Results s ((k.access span keySpan e optional).eval (n + 2) scope) r := by
  cases k with
  | name key =>
    refine results_eval hcalm ?_
    show Results s (evalMember _ scope e key optional) r
    refine .read ?_
    cases hroot : rootProperty? s scope e key with
    | some v =>
      obtain rfl := hshortcut v hroot
      exact .pure s v
    | none =>
      obtain ⟨v, hv, rfl⟩ := hread hroot
      exact hv.bind (.ofExcept s _)
  | text key =>
    refine results_index hcalm rfl (results_eval hcalm (.pure s _)) span optional hshortcut ?_
    intro hroot
    obtain ⟨v, hv, rfl⟩ := hread hroot
    refine ⟨v, hv, ?_⟩
    -- an optional access to a nullish value is undefined, whichever way it is read
    cases v <;> cases optional <;> rfl
  | number x =>
    exact results_index hcalm rfl (results_eval hcalm (.pure s _)) span optional hshortcut hread

omit hcalm in
/-- There is no shortcut for a parameter, whatever its name is. -/
theorem rootProperty?_of_binds {name : String} (h : scope.binds name = true) (span : Span)
    (key : String) : rootProperty? s scope (.ident span name) key = none := by
  have hglobal (root : String) : (Expr.ident span name).isGlobal root scope = false := by
    rw [Expr.isGlobal, Expr.isName]
    cases hname : name == root with
    | false => rfl
    | true =>
      rw [← beq_iff_eq.1 hname, h]
      rfl
  rw [rootProperty?, hglobal, hglobal]
  rfl

/-- A function of one parameter reads the value that it is called with. -/
theorem results_throughParameter {e : Expr}
    (hv : Results s (e.eval (n + 2) { scope with frames := scope.frames + 1 }) (.ok v))
    (hframes : scope.frames + 2 ≤ s.policy.config.maxCallStackSize) (span keySpan : Span)
    (param : String) (optional : Bool) :
    Results s ((k.throughParameter span keySpan param e optional).eval (n + 3) scope)
      (k.read s.context v optional) := by
  refine results_eval hcalm ?_
  show Results s (scope.enter >>= fun inner => evalCall _ inner _ _ _) _
  refine (results_enter (by omega)).bind ?_
  show Results s (Expr.eval (n + 2) _ _ >>= _) _
  refine (results_eval hcalm (.pure s _)).bind ?_
  show Results s (evalAll _ _ [e] >>= callValue _ _ _ (.function [param] _ scope.locals)) _
  refine Results.bind (a := [v]) (hv.bind (.pure s _)) ?_
  show Results s (callFunction _ _ [param] _ scope.locals [v]) _
  refine (results_checkInterrupts hcalm).bind ?_
  refine (results_enter (by show scope.frames + 1 < _; omega)).bind ?_
  -- the parameter is bound innermost, so it hides a root of the same name
  show Results s (Expr.eval (n + 2) ⟨(param, v) :: scope.locals, _⟩ _) _
  have hbinds (frames : Nat) : Scope.binds ⟨(param, v) :: scope.locals, frames⟩ param = true := by
    rw [Scope.binds, List.any_cons, beq_self_eq_true, Bool.true_or]
  have hlocal (frames : Nat) :
      Scope.local? ⟨(param, v) :: scope.locals, frames⟩ param = some v := by
    rw [Scope.local?, List.lookup_cons_self]
  refine results_access hcalm k span keySpan optional (fun w hw => ?_) fun _ => ?_
  · rw [rootProperty?_of_binds (hbinds _)] at hw
    cases hw
  · exact ⟨v, results_local hcalm (hlocal _) span, rfl⟩

end

/-! ### The item and the environment -/

theorem get?_toValue (env : Environment) (key : String) :
    env.toValue.property key = ((env.get? key).map Value.string).getD .undefined := by
  have hget : Fields.get? (env.map fun f => (f.1, Value.string f.2)) key =
      (Fields.get? env key).map Value.string := by
    rw [Fields.get?, Fields.get?]
    induction env with
    | nil => rfl
    | cons f env ih =>
      obtain ⟨name, text⟩ := f
      rw [List.map_cons, List.lookup_cons, List.lookup_cons]
      cases key == name with
      | true => rfl
      | false => exact ih
  exact congrArg (Option.getD · Value.undefined) hget

/-- The values of the item and of the environment, and what is read of them directly. -/
theorem rootProperty?_root {s : Sandbox} {root : String}
    (hroot : root = itemName ∨ root = environmentName)
    (hallowed : s.policy.allowsGlobal root = true) (span : Span) (key : String) :
    ∃ v, s.global? root = some v ∧
      rootProperty? s .empty (.ident span root) key = some (v.property key) ∧
      (root = itemName ∧ v = s.context.json ∨ v = s.context.env.toValue) := by
  rcases hroot with rfl | rfl
  · refine ⟨s.context.json, rfl, ?_, .inl ⟨rfl, rfl⟩⟩
    have hglobal : (Expr.ident span itemName).isGlobal itemName .empty = true := by
      show (itemName == itemName && !Scope.empty.binds itemName) = true
      decide
    rw [rootProperty?, hglobal, hallowed, Bool.true_and, if_pos rfl]
  · refine ⟨s.context.env.toValue, rfl, ?_, .inr rfl⟩
    have hother : (Expr.ident span environmentName).isGlobal itemName .empty = false := by
      show (environmentName == itemName && _) = false
      decide
    have hglobal : (Expr.ident span environmentName).isGlobal environmentName .empty = true := by
      show (environmentName == environmentName && !Scope.empty.binds environmentName) = true
      decide
    rw [rootProperty?, hother, hglobal, hallowed, Bool.false_and, Bool.true_and,
      if_neg Bool.false_ne_true, if_pos rfl, get?_toValue]

/-- What is read directly of the item or the environment is what is read of it through a parameter,
unless the item is nullish and the access is not optional, or the item is a value of the host. -/
theorem results_access_eq {s : Sandbox} (hcalm : s.IsCalm)
    (hframes : 2 ≤ s.policy.config.maxCallStackSize) {root : String}
    (hroot : root = itemName ∨ root = environmentName) (hallowed : s.policy.allowsGlobal root = true)
    {optional : Bool}
    (hitem : root = itemName →
      (s.context.json.isNullish = true → optional = true) ∧ ∀ h, s.context.json ≠ .host h)
    (k : LiteralKey) (param : String) (span keySpan span' keySpan' rootSpan rootSpan' : Span) :
    ∃ v, Results s (k.access span keySpan (.ident rootSpan root) optional).value (.ok v) ∧
      Results s (k.throughParameter span' keySpan' param (.ident rootSpan' root) optional).value
        (.ok v) := by
  obtain ⟨v, hglobal, hshortcut, hv⟩ := rootProperty?_root hroot hallowed rootSpan k.toText
  have hplain : (v.isNullish = true → optional = true) ∧ ∀ h, v ≠ .host h := by
    rcases hv with ⟨hname, rfl⟩ | rfl
    · exact hitem hname
    · rw [Environment.toValue]
      exact ⟨(fun h => nomatch h), (fun _ h => nomatch h)⟩
  have hread := k.read_eq_property s.context hplain.1 hplain.2
  refine ⟨v.property k.toText, ?_, ?_⟩
  · refine results_access (n := 254) hcalm k span keySpan optional (fun w hw => ?_) fun hnone => ?_
    · rw [hshortcut] at hw
      exact congrArg Except.ok (Option.some.inj hw)
    · rw [hshortcut] at hnone
      cases hnone
  · rw [← hread]
    exact results_throughParameter (n := 253) hcalm k (results_global hcalm rfl hallowed hglobal rootSpan')
      hframes span' keySpan' param optional

/-- A character of a text by its number, read through a parameter that hides the item. -/
theorem results_access_eq_character : ∃ v,
    Results ⟨⟨SecurityConfig.standard, []⟩, .ofItem (.string "ab") ⟨0, 0, 0⟩, true, fun _ => 0, false⟩
      ((LiteralKey.number 1).access ⟨0, 8⟩ ⟨6, 7⟩ (.ident ⟨0, 5⟩ itemName) false).value (.ok v) ∧
    Results ⟨⟨SecurityConfig.standard, []⟩, .ofItem (.string "ab") ⟨0, 0, 0⟩, true, fun _ => 0, false⟩
      ((LiteralKey.number 1).throughParameter ⟨0, 28⟩ ⟨17, 18⟩ itemName (.ident ⟨22, 27⟩ itemName)
        false).value (.ok v) := by
  have htime : 0 < SecurityConfig.standard.timeout := by decide
  have hhost (h : Host) : Value.string "ab" ≠ .host h := by simp
  refine results_access_eq ⟨rfl, fun _ => htime⟩ (by decide) (.inl rfl) (by decide)
    (fun _ => ⟨fun h => ?_, hhost⟩) (.number 1) itemName ⟨0, 8⟩ ⟨6, 7⟩ ⟨0, 28⟩ ⟨17, 18⟩ ⟨0, 5⟩
    ⟨22, 27⟩
  exact absurd h Bool.false_ne_true

/-- A property of an item that is null is undefined, but it is an error to read it through a
parameter. -/
theorem nullItem_told :
    Results ⟨⟨SecurityConfig.standard, []⟩, .ofItem .null ⟨0, 0, 0⟩, true, fun _ => 0, false⟩
      ((LiteralKey.name "a").access ⟨0, 7⟩ ⟨0, 0⟩ (.ident ⟨0, 5⟩ itemName) false).value
      (.ok .undefined) ∧
    Results ⟨⟨SecurityConfig.standard, []⟩, .ofItem .null ⟨0, 0, 0⟩, true, fun _ => 0, false⟩
      ((LiteralKey.name "a").throughParameter ⟨0, 17⟩ ⟨0, 0⟩ "r" (.ident ⟨11, 16⟩ itemName)
        false).value (.error (.nullProperty "a" .null)) := by
  have htime : 0 < SecurityConfig.standard.timeout := by decide
  have hcalm : Sandbox.IsCalm
      ⟨⟨SecurityConfig.standard, []⟩, .ofItem .null ⟨0, 0, 0⟩, true, fun _ => 0, false⟩ :=
    ⟨rfl, fun _ => htime⟩
  constructor
  · refine results_access (n := 254) hcalm _ _ _ false (fun v hv => ?_) fun hnone => ?_
    · exact congrArg Except.ok (Option.some.inj hv)
    · cases hnone
  · exact results_throughParameter (n := 253) (v := .null) hcalm (.name "a")
      (results_global hcalm rfl rfl rfl _) (by decide) ⟨0, 17⟩ ⟨0, 0⟩ "r" false

end TemplateExpr
