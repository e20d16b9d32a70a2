import TemplateExpr.Eval.Interpreter
import TemplateExpr.Proofs.Eval.Run

/-!
# Dialogues with an evaluator

The evaluation of a node is a program that, now and then, asks for the value of a part of the
expression or for that of a call of an arrow function, and goes on with the answer. A
`Dialogue scope F` is such a program for `F`, which begins and ends in `scope`: what is asked for,
what is done with each answer, and which of it lies within a frame of its own. Whoever answers can
keep the scope where it likes.

All nodes have a dialogue (`Dialogue.ofNode`). It goes on in the methods that call functions; the
other methods call nothing (`Dialogue.CallsNothing`), and are a single step.
-/

namespace TemplateExpr

open TemplateExpr.Eval

/-- The questions that `F` asks an evaluator, from a scope on. -/
inductive Dialogue : Scope → {α : Type} → (Evaluator → Eval α) → Type 1
  /-- Nothing is asked. -/
  | own {scope : Scope} {α : Type} (x : Eval α) : Dialogue scope fun _ => x
  /-- The value of an expression. -/
  | part {scope : Scope} (e : Expr) : Dialogue scope fun eval => eval scope e
  /-- The result of an arrow function. -/
  | apply {scope : Scope} (params : List String) (body : Expr) (captured : List (String × Value))
    (args : List Value) :
    Dialogue scope fun eval => callFunction eval scope params body captured args
  /-- Questions within one more call. -/
  | enter {scope : Scope} {α : Type} {F : Evaluator → Eval α} :
    Dialogue { scope with frames := scope.frames + 1 } F →
    Dialogue scope fun eval => scope.enter >>= fun _ => F eval
  /-- One dialogue after another. -/
  | bind {scope : Scope} {α β : Type} {F : Evaluator → Eval α} {G : α → Evaluator → Eval β} :
    Dialogue scope F → (∀ a, Dialogue scope (G a)) →
    Dialogue scope fun eval => F eval >>= fun a => G a eval

namespace Dialogue

variable {scope : Scope} {α β : Type}

/-- The same questions, asked by a program that is written otherwise. -/
def of {F G : Evaluator → Eval α} (h : ∀ eval, F eval = G eval) (d : Dialogue scope F) :
    Dialogue scope G :=
  funext h ▸ d

/-- Nothing is asked by a program that is the same whoever answers. -/
def silent {F : Evaluator → Eval α} (h : ∀ eval eval', F eval = F eval') : Dialogue scope F :=
  of (fun eval => h _ eval) (.own (F fun _ _ => Eval.fail .cancelled))

/-- One dialogue or another. -/
def choose {c : Prop} [Decidable c] {F G : Evaluator → Eval α} (d : Dialogue scope F)
    (d' : Dialogue scope G) : Dialogue scope fun eval => if c then F eval else G eval :=
  if h : c then of (fun _ => (if_pos h).symm) d else of (fun _ => (if_neg h).symm) d'

/-- A check in front of a dialogue. -/
def check {c : Prop} [Decidable c] {e : EvalError} {G : PUnit → Evaluator → Eval α}
    (d : Dialogue scope (G ⟨⟩)) :
    Dialogue scope fun eval => if c then Eval.fail e >>= (G · eval) else G ⟨⟩ eval :=
  choose (of (fun _ => rfl) (.own (Eval.fail e))) d

/-! ### Loops -/

/-- Questions for each item of a list. -/
def mapFrom {F : Nat → α → Evaluator → Eval β} (d : ∀ i a, Dialogue scope (F i a)) (i : Nat)
    (acc : List β) : (as : List α) →
    Dialogue scope fun eval => Eval.mapFrom (fun i a => F i a eval) i acc as
  | [] => .own (pure acc.reverse)
  | a :: as => (d i a).bind fun b => mapFrom d (i + 1) (b :: acc) as

/-- Questions for each item of a list until one is accepted. -/
def findFrom? {F : Nat → α → Evaluator → Eval Bool} (d : ∀ i a, Dialogue scope (F i a)) (i : Nat) :
    (as : List α) → Dialogue scope fun eval => Eval.findFrom? (fun i a => F i a eval) i as
  | [] => .own (pure none)
  | a :: as => (d i a).bind fun
    | true => .own (pure (some (i, a)))
    | false => findFrom? d (i + 1) as

/-- Questions for each item of a list and what has been made of those in front of it. -/
def foldFrom {F : β → Nat → α → Evaluator → Eval β} (d : ∀ b i a, Dialogue scope (F b i a)) (b : β)
    (i : Nat) : (as : List α) →
    Dialogue scope fun eval => Eval.foldFrom (fun b i a => F b i a eval) b i as
  | [] => .own (pure b)
  | a :: as => (d b i a).bind fun b => foldFrom d b (i + 1) as

/-- Questions for two items at the heads of lists. -/
def mergeFrom {F : α → α → Evaluator → Eval Bool} (d : ∀ a b, Dialogue scope (F a b))
    (acc ls rs : List α) :
    Dialogue scope fun eval => Eval.mergeFrom (fun a b => F a b eval) acc ls rs :=
  match ls, rs with
  | [], rs => of (fun eval => by rw [Eval.mergeFrom]) (.own (pure (acc.reverse ++ rs)))
  | l :: ls, [] =>
    of (fun eval => by rw [Eval.mergeFrom]; simp) (.own (pure (acc.reverse ++ (l :: ls))))
  | l :: ls, r :: rs =>
    of (fun eval => by rw [Eval.mergeFrom]) ((d l r).bind
      (G := fun greater eval =>
        if greater then Eval.mergeFrom (fun a b => F a b eval) (r :: acc) (l :: ls) rs
        else Eval.mergeFrom (fun a b => F a b eval) (l :: acc) ls (r :: rs)) fun
      | true => mergeFrom d (r :: acc) (l :: ls) rs
      | false => mergeFrom d (l :: acc) ls (r :: rs))
termination_by ls.length + rs.length

/-- Questions for pairs of items, until they are in order. -/
def sortBy {F : α → α → Evaluator → Eval Bool} (d : ∀ a b, Dialogue scope (F a b)) (as : List α) :
    Dialogue scope fun eval => Eval.sortBy (fun a b => F a b eval) as :=
  if h : as.length ≤ 1 then of (fun eval => by rw [Eval.sortBy, dif_pos h]) (.own (pure as))
  else
    of (fun eval => by rw [Eval.sortBy.eq_def _ as, dif_neg h])
      ((sortBy d (as.take (as.length / 2))).bind fun left =>
        (sortBy d (as.drop (as.length / 2))).bind fun right => mergeFrom d [] left right)
termination_by as.length
decreasing_by
  · simp only [List.length_take]; omega
  · simp only [List.length_drop]; omega

/-! ### Functions -/

section

variable (scope : Scope)

/-- A call of a value. -/
def ofValue (name : Option String) (f : Value) (args : List Value) :
    Dialogue scope fun eval => callValue eval scope name f args :=
  match f with
  | .function params body captured => .apply params body captured args
  | .host (.space ns) => silent fun _ _ => by cases ns <;> rfl
  | .host (.builtin _) | .host (.node _) | .host .input | .undefined | .null | .bool _ | .number _
  | .string _ | .array _ | .object _ | .date _ => silent fun _ _ => rfl

/-- What a caller of functions is passed to. -/
abbrev OfCaller {α : Type} (program : Caller → Eval α) : Type 1 :=
  Dialogue scope fun eval => program (callValue eval scope none)

variable (items args : List Value)

/-- A call with an item and its position. -/
def ofApplyTo (f : Value) (i : Nat) (item : Value) :
    OfCaller scope fun call => ArrayMethod.applyTo call f i item :=
  ofValue scope none f [item, .ofNat i]

/-- Whether a function accepts an item. -/
def ofAccepts (f : Value) (i : Nat) (item : Value) :
    OfCaller scope fun call => ArrayMethod.accepts call f i item :=
  (ofApplyTo scope f i item).bind fun _ => own _

/-- An argument that has to be a function, and what is done with it. -/
def ofFunction (method : String) {G : Value → Evaluator → Eval α}
    (d : ∀ f, Dialogue scope (G f)) :
    Dialogue scope fun eval => (Arguments.function method args 0 : Eval Value) >>= (G · eval) :=
  (own _).bind d

def ofMap : OfCaller scope fun call => ArrayMethod.map call items args :=
  ofFunction scope args "map" fun f => (own _).bind fun _ =>
    (mapFrom (ofApplyTo scope f) 0 [] items).bind fun _ => own _

def ofFilter : OfCaller scope fun call => ArrayMethod.filter call items args :=
  ofFunction scope args "filter" fun f =>
    (mapFrom (ofAccepts scope f) 0 [] items).bind fun _ => own _

def ofSearch (method : String) :
    OfCaller scope fun call => ArrayMethod.search method call items args :=
  ofFunction scope args method fun f => findFrom? (ofAccepts scope f) 0 items

def ofFind : OfCaller scope fun call => ArrayMethod.find call items args :=
  (ofSearch scope items args "find").bind fun _ => own _

def ofFindIndex : OfCaller scope fun call => ArrayMethod.findIndex call items args :=
  (ofSearch scope items args "findIndex").bind fun _ => own _

def ofSome : OfCaller scope fun call => ArrayMethod.some_ call items args :=
  (ofSearch scope items args "some").bind fun _ => own _

def ofEvery : OfCaller scope fun call => ArrayMethod.every call items args :=
  ofFunction scope args "every" fun f =>
    (findFrom? (fun i item => (ofAccepts scope f i item).bind fun _ => own _) 0 items).bind
      fun _ => own _

def ofReduce : OfCaller scope fun call => ArrayMethod.reduce call items args :=
  have step (f acc : Value) (i : Nat) (item : Value) := ofValue scope none f [acc, item, .ofNat i]
  ofFunction scope args "reduce" fun f =>
    match args[1]?, items with
    | .some start, items => foldFrom (step f) start 0 items
    | none, start :: items => foldFrom (step f) start 1 items
    | none, [] => own _

/-- Whether a function puts the second of two items in front. -/
def ofGreater (f a b : Value) :
    OfCaller scope fun call => call f [a, b] >>= fun v => pure (decide (0 < v.toNumber)) :=
  (ofValue scope none f [a, b]).bind fun _ => own _

/-- Sorting with a function, which is an argument. -/
theorem sort_eq (call : Caller) (h : ¬(Arguments.nth args 0).isUndefined = true) :
    ArrayMethod.sort call items args = (do
      Eval.reserveSlots items.length
      let f ← Arguments.function "sort" args 0
      let sorted ← Eval.sortBy (fun a b => call f [a, b] >>= fun v => pure (decide (0 < v.toNumber)))
        (items.filter (!·.isUndefined))
      pure (.array (sorted ++ items.filter (·.isUndefined)))) := by
  simp only [ArrayMethod.sort, ArrayMethod.comparison, if_neg h, bind_assoc, pure_bind]

def ofSort : OfCaller scope fun call => ArrayMethod.sort call items args :=
  if h : (Arguments.nth args 0).isUndefined then
    silent fun _ _ => by simp only [ArrayMethod.sort, ArrayMethod.comparison, if_pos h]
  else
    of (fun eval => (sort_eq items args (callValue eval scope none) h).symm)
      ((own _).bind fun _ => ofFunction scope args "sort" fun f =>
        (sortBy (ofGreater scope f) (items.filter (!·.isUndefined))).bind fun _ => own _)

/-! ### Methods -/

/-- The methods of a table that are not called one of `names` call nothing. -/
def CallsNothing {ρ : Type} (names : List String) (table : List (Method ρ)) : Prop :=
  ∀ m ∈ table, m.name ∉ names → ∀ call call', m.run call = m.run call'

/-- The methods of arrays that call functions. -/
def callingMethods : List String :=
  ["map", "filter", "find", "findIndex", "some", "every", "reduce", "sort"]

theorem callsNothing_array : CallsNothing callingMethods ArrayMethod.table := by
  unfold ArrayMethod.table
  iterate 8 refine List.forall_mem_cons.2 ⟨fun h => absurd (by decide) h, ?_⟩
  repeat refine List.forall_mem_cons.2 ⟨fun _ _ _ => rfl, ?_⟩
  exact List.forall_mem_nil _

theorem callsNothing_text : CallsNothing [] TextMethod.table := by
  unfold TextMethod.table
  repeat refine List.forall_mem_cons.2 ⟨fun _ _ _ => rfl, ?_⟩
  exact List.forall_mem_nil _

theorem callsNothing_number : CallsNothing [] NumberMethod.table := by
  unfold NumberMethod.table
  repeat refine List.forall_mem_cons.2 ⟨fun _ _ _ => rfl, ?_⟩
  exact List.forall_mem_nil _

theorem callsNothing_boolean : CallsNothing [] BooleanMethod.table := by
  unfold BooleanMethod.table
  repeat refine List.forall_mem_cons.2 ⟨fun _ _ _ => rfl, ?_⟩
  exact List.forall_mem_nil _

theorem callsNothing_object : CallsNothing [] ObjectMethod.table := by
  unfold ObjectMethod.table
  repeat refine List.forall_mem_cons.2 ⟨fun _ _ _ => rfl, ?_⟩
  exact List.forall_mem_nil _

theorem callsNothing_date : CallsNothing [] DateMethod.table := by
  unfold DateMethod.table
  repeat refine List.forall_mem_cons.2 ⟨fun _ _ _ => rfl, ?_⟩
  exact List.forall_mem_nil _

/-- A method that calls nothing. -/
def ofQuiet {ρ : Type} {names : List String} {table : List (Method ρ)}
    (h : CallsNothing names table) (kind : Kind) (receiver : ρ) {name : String}
    (hname : name ∉ names) :
    OfCaller scope fun call => invokeFrom table kind call receiver name args :=
  silent fun eval eval' => by
    unfold invokeFrom
    split
    · next m hm =>
      have hcalled : m.name = name := by simpa using List.find?_some hm
      exact congrArg (· receiver args) (h m (List.mem_of_find?_eq_some hm) (hcalled ▸ hname) _ _)
    · rfl

/-- A method of an array. -/
def ofArrayMethod (name : String) :
    OfCaller scope fun call => invokeFrom ArrayMethod.table .array call items name args :=
  if h : name = "map" then of (fun _ => by rw [h]; rfl) (ofMap scope items args)
  else if h : name = "filter" then of (fun _ => by rw [h]; rfl) (ofFilter scope items args)
  else if h : name = "find" then of (fun _ => by rw [h]; rfl) (ofFind scope items args)
  else if h : name = "findIndex" then of (fun _ => by rw [h]; rfl) (ofFindIndex scope items args)
  else if h : name = "some" then of (fun _ => by rw [h]; rfl) (ofSome scope items args)
  else if h : name = "every" then of (fun _ => by rw [h]; rfl) (ofEvery scope items args)
  else if h : name = "reduce" then of (fun _ => by rw [h]; rfl) (ofReduce scope items args)
  else if h : name = "sort" then of (fun _ => by rw [h]; rfl) (ofSort scope items args)
  else ofQuiet scope args callsNothing_array .array items (by simp [callingMethods, *])

/-- A method of a value; those of other values than arrays call nothing. -/
def ofInvoke (receiver : Value) (name : String) :
    OfCaller scope fun call => invoke call receiver name args :=
  match receiver with
  | .array items => ofArrayMethod scope items args name
  | .string _ => ofQuiet scope args callsNothing_text _ _ List.not_mem_nil
  | .number _ => ofQuiet scope args callsNothing_number _ _ List.not_mem_nil
  | .bool _ => ofQuiet scope args callsNothing_boolean _ _ List.not_mem_nil
  | .object _ => ofQuiet scope args callsNothing_object _ _ List.not_mem_nil
  | .date _ => ofQuiet scope args callsNothing_date _ _ List.not_mem_nil
  | .undefined | .null | .function .. | .host _ => silent fun _ _ => rfl

/-- An array that is made by a function. -/
def ofArrayFrom : OfCaller scope fun call => Namespace.arrayFrom call args :=
  (own _).bind fun _ => choose
    ((mapFrom (ofApplyTo scope (Arguments.nth args 1)) 0 []
      ((Namespace.itemsOf (Arguments.nth args 0)).2 ())).bind fun out => own (pure (Value.array out)))
    (own _)

/-- A method of the host. -/
def ofHost (h : Host) (name : String) : OfCaller scope fun call => h.call call name args :=
  match h with
  | .space .array => choose (own _) (choose (own _) (choose (ofArrayFrom scope args) (own _)))
  | .space .math | .space .json | .space .object | .space .number | .space .dateTime | .node _
  | .input | .builtin _ => silent fun _ _ => rfl

/-- A method that the policy has to allow. -/
def ofAllowed (receiver : Value) (name : String) :
    OfCaller scope fun call => (do
      let s ← read
      if !s.policy.allowsMethod name then Eval.fail (.security (.method name))
      invoke call receiver name args) :=
  (own _).bind fun _ => check (ofInvoke scope args receiver name)

/-- A call of a method. -/
def ofMethod (receiver : Value) (name : String) :
    Dialogue scope fun eval => callMethod eval scope receiver name args :=
  match receiver with
  | .host h => ofHost scope args h name
  | .undefined | .null | .bool _ | .number _ | .string _ | .array _ | .object _ | .date _
  | .function .. => ofAllowed scope args _ name

/-! ### Nodes -/

/-- A list of expressions. -/
def ofAll (es : List Expr) : Dialogue scope fun eval => evalAll eval scope es :=
  mapFrom (fun _ e => part e) 0 [] es

/-- The entries of an object. -/
def ofEntries (fields : Fields Value) : (entries : List (String × Expr)) →
    Dialogue scope fun eval => evalEntries eval scope fields entries
  | [] => own _
  | (_, e) :: entries => (own _).bind fun _ => (part e).bind fun _ => ofEntries _ entries

def ofMember (e : Expr) (name : String) (optional : Bool) :
    Dialogue scope fun eval => evalMember eval scope e name optional :=
  (own _).bind fun s =>
    match rootProperty? s scope e name with
    | .some _ => own _
    | none => (part e).bind fun _ => own _

def ofIndex (e key : Expr) (optional : Bool) :
    Dialogue scope fun eval => evalIndex eval scope e key optional :=
  (own _).bind fun s => check <|
    match key.literalKey?.bind (rootProperty? s scope e) with
    | .some _ => own _
    | none => (part e).bind fun _ => choose (own _) ((part key).bind fun _ => own _)

def ofBinary (op : BinaryOp) (left right : Expr) :
    Dialogue scope fun eval => evalBinary eval scope op left right :=
  (part left).bind fun a =>
    match op.decided? a with
    | .some _ => own _
    | none => (part right).bind fun _ => own _

/-- A call of the value of an expression. -/
def ofCallee (callee : Expr) (args : List Expr) (optional : Bool) :
    Dialogue scope fun eval => (do
      let f ← eval scope callee
      if f.isNullish && optional then pure .undefined
      else
        let vs ← evalAll eval scope args
        callValue eval scope (some callee.calleeName) f vs) :=
  (part callee).bind fun f => choose (own _)
    ((ofAll scope args).bind fun vs => ofValue scope callee.calleeName f vs)

/-- A call in the frame that it takes up. -/
def ofCall (callee : Expr) (args : List Expr) (optional : Bool) :
    Dialogue scope fun eval => evalCall eval scope callee args optional :=
  match callee with
  | .member _ e name _ => (part e).bind fun v =>
    choose (own _) ((ofAll scope args).bind fun vs => ofMethod scope vs v name)
  | .literal .. | .ident .. | .array .. | .object .. | .index .. | .call .. | .unary .. | .binary ..
  | .conditional .. | .lambda .. | .assign .. => ofCallee scope _ args optional

/-- The scope within one more call is known before it is entered. -/
theorem enter_bind {α : Type} (f : Scope → Eval α) :
    (scope.enter >>= fun _ => f { scope with frames := scope.frames + 1 }) =
      scope.enter >>= f := by
  funext s m
  change (scope.enter >>= _).run s m = (scope.enter >>= f).run s m
  rw [run_bind, run_bind, run_enter]
  split_ifs <;> rfl

/-- A node whose parts are asked for. -/
def ofNode (e : Expr) : Dialogue scope fun eval => evalNode eval scope e :=
  match e with
  | .literal .. | .ident .. | .lambda .. | .assign .. => own _
  | .array _ items => (own _).bind fun _ => (ofAll scope items).bind fun _ => own _
  | .object _ entries => (ofEntries scope [] entries).bind fun _ => own _
  | .member _ e name optional => ofMember scope e name optional
  | .index _ e key optional => ofIndex scope e key optional
  | .call _ callee args optional =>
    of (fun eval => enter_bind scope (evalCall eval · callee args optional))
      (enter (ofCall _ callee args optional))
  | .unary _ _ e => (part e).bind fun _ => own _
  | .binary _ op left right => ofBinary scope op left right
  | .conditional _ test _ _ => (part test).bind fun _ => part _

end

end Dialogue

end TemplateExpr
