import TemplateExpr.Eval.Function
import TemplateExpr.Eval.Operator
import TemplateExpr.Method.Table

/-!
# Evaluation of expressions

`Expr.eval n` evaluates an expression whose parts may be nested `n` levels deep, the bodies of the
functions that it calls included. A call takes up one frame and so does the function that is called;
their number is limited by the sandbox. Since every part is evaluated with one level less,
evaluation ends, with or without the limits of time and memory.
-/

namespace TemplateExpr

open TemplateExpr.Text

/-- Evaluates expressions in scopes. -/
abbrev Evaluator := Scope → Expr → Eval Value

/-! ### Names -/

/-- The name of the current item. -/
def itemName : String := "$json"

/-- The name of the environment. -/
def environmentName : String := "$env"

/-- The functions that have a name of their own. -/
def Builtin.all : List Builtin :=
  [.parseInt, .parseFloat, .isNaN, .isFinite, .string, .boolean, .nodeSelector]

/-- The value of a name that the host provides. -/
def Sandbox.global? (s : Sandbox) (name : String) : Option Value :=
  let c := s.context
  if name == itemName then some c.json
  else if name == "$node" then some c.nodeMap
  else if name == environmentName then some c.env.toValue
  else if name == "$now" then if s.dates then some (.date c.now) else none
  else if name == "$today" then if s.dates then some (.date c.today) else none
  else if name == "$runIndex" then some (.ofNat c.runIndex)
  else if name == "$itemIndex" then some (.ofNat c.itemIndex)
  else if name == "$input" then some (.host .input)
  else match Namespace.ofName? name with
    | some .dateTime => if s.dates then some (.host (.space .dateTime)) else none
    | some ns => some (.host (.space ns))
    | none => (Builtin.all.find? (·.name == name)).map fun b => .host (.builtin b)

/-- The value of a name: that of a parameter, or one that the policy allows and the host provides.
-/
def resolveName (scope : Scope) (name : String) : Eval Value := do
  match scope.local? name with
  | some v => pure v
  | none =>
    let s ← read
    match if s.policy.allowsGlobal name then s.global? name else none with
    | some v => pure v
    | none => Eval.fail (.notDefined name)

/-- Whether an expression is a name that stands for a part of the context and not for a parameter.
-/
def Expr.isGlobal (name : String) (scope : Scope) (e : Expr) : Bool :=
  e.isName name && !scope.binds name

/-- A property of the current item or of the environment, read without the whole of it. -/
def rootProperty? (s : Sandbox) (scope : Scope) (e : Expr) (key : String) : Option Value :=
  if e.isGlobal itemName scope && s.policy.allowsGlobal itemName then
    some (s.context.json.property key)
  else if e.isGlobal environmentName scope && s.policy.allowsGlobal environmentName then
    some (((s.context.env.get? key).map Value.string).getD .undefined)
  else none

/-- Why nothing can be assigned to an expression: variables of the environment are read-only, and
everything else is no target. -/
def assignmentError (scope : Scope) (target : Expr) : EvalError :=
  match target with
  | .member _ e name _ =>
    if e.isGlobal environmentName scope then .readOnly name else .unsupported .assignment
  | .index _ e key _ =>
    if e.isGlobal environmentName scope then .readOnly (key.literalKey?.getD environmentName)
    else .unsupported .assignment
  | _ => .unsupported .assignment

/-! ### Calls -/

/-- What a callee is called in messages. -/
def Expr.calleeName : Expr → String
  | .ident _ name => name
  | .member _ _ name _ => name
  | e => e.label

/-- Calls an arrow function: its body is evaluated where it was written, with its parameters. -/
def callFunction (eval : Evaluator) (scope : Scope) (params : List String) (body : Expr)
    (captured : List (String × Value)) (args : List Value) : Eval Value := do
  Eval.checkInterrupts
  let inner ← scope.enter
  eval { inner with locals := Scope.bindParams captured params args } body

/-- Calls a value; `name` is what it is called in messages. -/
def callValue (eval : Evaluator) (scope : Scope) (name : Option String) (f : Value)
    (args : List Value) : Eval Value :=
  match f with
  | .function params body captured => callFunction eval scope params body captured args
  | .host (.builtin b) => b.call args
  | .host (.space .number) => pure (.number ((args.head?.map Value.toNumber).getD 0))
  | v => Eval.fail (.notCallable (name.getD v.kindName))

/-- Calls a method, which the policy must allow unless it is one of the host. -/
def callMethod (eval : Evaluator) (scope : Scope) (receiver : Value) (name : String)
    (args : List Value) : Eval Value := do
  let call : Caller := callValue eval scope none
  match receiver with
  | .host h => h.call call name args
  | v =>
    if !(← read).policy.allowsMethod name then Eval.fail (.security (.method name))
    invoke call v name args

/-! ### Parts of expressions -/

/-- The values of a list of expressions, from left to right. -/
def evalAll (eval : Evaluator) (scope : Scope) (es : List Expr) : Eval (List Value) :=
  Eval.mapItems (fun _ e => eval scope e) es

/-- The fields that entries stand for, written behind `fields` one after the other. -/
def evalEntries (eval : Evaluator) (scope : Scope) (fields : Fields Value) :
    List (String × Expr) → Eval (Fields Value)
  | [] => pure fields
  | (key, e) :: entries => do
    Eval.reserve (Value.slot + key.utf8ByteSize)
    let v ← eval scope e
    evalEntries eval scope (fields.insert key v) entries

/-- An access to a member. -/
def evalMember (eval : Evaluator) (scope : Scope) (e : Expr) (name : String) (optional : Bool) :
    Eval Value := do
  let s ← read
  match rootProperty? s scope e name with
  | some v => pure v
  | none =>
    let v ← eval scope e
    v.read s.context name optional

/-- An access by a key, which must be a literal if the policy asks for it. -/
def evalIndex (eval : Evaluator) (scope : Scope) (e key : Expr) (optional : Bool) : Eval Value := do
  let s ← read
  if s.policy.config.strictGrammar && key.literalKey?.isNone then
    Eval.fail (.security .computedAccess)
  match key.literalKey?.bind (rootProperty? s scope e) with
  | some v => pure v
  | none =>
    let v ← eval scope e
    if v.isNullish && optional then pure .undefined
    else
      let k ← eval scope key
      v.readKey s.context k optional

/-- A call. The arguments are evaluated if there is something to call, and a missing receiver or
function gives undefined if the access is optional. -/
def evalCall (eval : Evaluator) (scope : Scope) (callee : Expr) (args : List Expr)
    (optional : Bool) : Eval Value := do
  match callee with
  | .member _ e name optionalMember =>
    let v ← eval scope e
    if v.isNullish && (optionalMember || optional) then pure .undefined
    else
      let vs ← evalAll eval scope args
      callMethod eval scope v name vs
  | callee =>
    let f ← eval scope callee
    if f.isNullish && optional then pure .undefined
    else
      let vs ← evalAll eval scope args
      callValue eval scope (some callee.calleeName) f vs

/-- An operator between two expressions; the second one is evaluated unless the first decides. -/
def evalBinary (eval : Evaluator) (scope : Scope) (op : BinaryOp) (left right : Expr) :
    Eval Value := do
  let a ← eval scope left
  match op.decided? a with
  | some v => pure v
  | none =>
    let b ← eval scope right
    op.apply a b

/-- Evaluates an expression whose parts are evaluated by `eval`. -/
def evalNode (eval : Evaluator) (scope : Scope) (e : Expr) : Eval Value := do
  match e with
  | .literal _ l => pure (.ofLiteral l)
  | .ident _ name => resolveName scope name
  | .array _ items =>
    Eval.reserveSlots items.length
    let vs ← evalAll eval scope items
    pure (.array vs)
  | .object _ entries =>
    let fields ← evalEntries eval scope [] entries
    pure (.object fields)
  | .member _ e name optional => evalMember eval scope e name optional
  | .index _ e key optional => evalIndex eval scope e key optional
  | .call _ callee args optional =>
    let inner ← scope.enter
    evalCall eval inner callee args optional
  | .unary _ op e =>
    let v ← eval scope e
    pure (op.apply v)
  | .binary _ op left right => evalBinary eval scope op left right
  | .conditional _ test consequent alternate =>
    let v ← eval scope test
    eval scope (if v.truthy then consequent else alternate)
  | .lambda _ params body => pure (.function params body scope.locals)
  | .assign _ target _ => Eval.fail (assignmentError scope target)

/-! ### Expressions -/

/-- The number of levels that an expression may be nested. -/
def maxNesting : Nat := 256

/-- Evaluates an expression whose parts may be nested `n` levels deep. -/
def Expr.eval : Nat → Evaluator
  | 0, _, _ => do
    Eval.tick
    Eval.fail (.resourceLimit .callStack maxNesting)
  | n + 1, scope, e => do
    Eval.tick
    (evalNode (Expr.eval n) scope e).locate e.span

/-- The value of an expression. -/
def Expr.value (e : Expr) : Eval Value := e.eval maxNesting .empty

end TemplateExpr
