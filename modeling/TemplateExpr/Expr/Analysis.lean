import TemplateExpr.Expr.Basic

/-!
# Static analysis

What can be said about an expression without evaluating it. `Expr.findings` walks the tree once and
lists what it meets, in the order of the text; `Expr.analyze` sorts the list into an `Analysis`: the
parts of the context that are read, the free names, the calls, and whether the clock is looked at.
Names bound by an enclosing arrow function hide the context of the same name.
-/

namespace TemplateExpr

/-! ### Dependencies -/

/-- A part of the context: a root, or one of its fields. -/
structure Dependency where
  root : String
  key : Option String
deriving Repr, DecidableEq

namespace Dependency

/-- The roots whose fields can be told apart. -/
def slicedRoots : List String := ["$json", "$env"]

/-- The roots that lead to other items; what is read through them cannot be listed. -/
def lineageRoots : List String := ["$", "$node", "$input"]

/-- The roots that look at the clock. -/
def clockRoots : List String := ["$now", "$today"]

/-- The functions of `DateTime` that look at the clock. -/
def clockFunctions : List String := ["now", "local", "today"]

/-- The text of a dependency. -/
def path (d : Dependency) : String :=
  match d.key with
  | some key => d.root ++ "." ++ key
  | none => d.root

/-- The order of dependencies: by root, a whole root before its fields, the fields by key. -/
def before (a b : Dependency) : Bool :=
  if a.root == b.root then
    match a.key, b.key with
    | none, some _ => true
    | some x, some y => x < y
    | _, none => false
  else a.root < b.root

/-- Puts `d` into an ordered list without repetitions. -/
def insert (d : Dependency) : List Dependency → List Dependency
  | [] => [d]
  | e :: es =>
    if d = e then e :: es
    else if d.before e then d :: e :: es
    else e :: insert d es

/-- The ordered list of `ds` without repetitions. -/
def ordered (ds : List Dependency) : List Dependency := ds.foldl (fun acc d => insert d acc) []

theorem mem_insert (d e : Dependency) (ds : List Dependency) :
    e ∈ insert d ds ↔ e = d ∨ e ∈ ds := by
  induction ds with
  | nil => simp [insert]
  | cons x xs ih =>
    simp only [insert]
    split
    · next h => subst h; simp
    · split
      · simp
      · simp only [List.mem_cons, ih]; exact or_left_comm

end Dependency

/-! ### Findings -/

/-- Methods that call a function for each item. -/
def iterationMethods : List String :=
  ["map", "filter", "reduce", "find", "findIndex", "some", "every", "forEach", "flatMap", "sort",
   "sortBy", "groupBy"]

/-- One thing that an expression was found to do. -/
inductive Finding where
  /-- Reads a part of the context. -/
  | reads (d : Dependency)
  /-- Reads something that dependencies cannot express. -/
  | unlisted
  /-- Looks at the clock. -/
  | clock
  | freeName (name : String) (span : Span)
  | method (name : String) (span : Span)
  | node (name : String) (span : Span)
  /-- Names a node through `$node`. -/
  | oldNodeAccess
  | computedKey (span : Span)
  | assignment (span : Span)
  /-- Calls a function for each item inside another arrow function. -/
  | nestedIteration
deriving Repr

namespace Finding

/-- Reading `key` of the context `root`: a look at the clock for the clock's roots, and the whole
root unless its fields can be told apart. -/
def reading (root : String) (key : Option String) : List Finding :=
  if Dependency.clockRoots.contains root then [clock]
  else
    let whole := reads ⟨root, if Dependency.slicedRoots.contains root then key else none⟩
    if Dependency.lineageRoots.contains root then [unlisted, whole] else [whole]

/-- The finding that `name` names a node, if `name` is known. -/
def nodeName (name : Option String) (span : Span) : Finding :=
  match name with
  | some name => node name span
  | none => unlisted

end Finding

namespace Expr

/-- The parameters of the enclosing arrow functions, the innermost first. -/
abbrev Scopes := List (List String)

/-- Whether a name is bound. -/
def Scopes.binds (scopes : Scopes) (name : String) : Bool := scopes.any (·.contains name)

/-- The part of the context that a bare name denotes: an unbound name that starts with `$`. -/
def contextRoot? (scopes : Scopes) : Expr → Option String
  | ident _ name => if name.startsWith "$" && !scopes.binds name then some name else none
  | _ => none

/-- What a use of a name does. Under an access to one of its fields (`accessed`) the access has
recorded what is read. -/
def nameFindings (scopes : Scopes) (accessed : Bool) (name : String) (span : Span) :
    List Finding :=
  if scopes.binds name then []
  else .freeName name span ::
    (if name.startsWith "$" && !accessed then Finding.reading name none else [])

/-- What the access to the property `name` of `recv` does beyond what `recv` does. -/
def memberFindings (scopes : Scopes) (span : Span) (recv : Expr) (name : String) : List Finding :=
  match recv.contextRoot? scopes with
  | some root =>
    (if root = "$node" then [.oldNodeAccess, .node name span] else []) ++
      Finding.reading root (some name)
  | none =>
    if recv.isName "DateTime" && Dependency.clockFunctions.contains name then [.clock] else []

/-- What the access to `recv` by `key` does beyond what `recv` and `key` do. -/
def indexFindings (scopes : Scopes) (recv key : Expr) : List Finding :=
  (if key.literalKey?.isNone then [.computedKey key.span] else []) ++
    match recv.contextRoot? scopes with
    | some root =>
      (if root = "$node" then [.oldNodeAccess, Finding.nodeName key.literalKey? key.span] else [])
        ++ Finding.reading root key.literalKey?
    | none => []

/-- What a call does beyond what the callee and the arguments do. A method of a part of the context
reads all of it. -/
def callFindings (scopes : Scopes) (span : Span) (callee : Expr) (args : List Expr) :
    List Finding :=
  match callee with
  | ident _ "$" =>
    if scopes.binds "$" then []
    else match args with
      | [] => [.unlisted]
      | arg :: _ => [Finding.nodeName arg.literalKey? arg.span]
  | member _ recv name _ =>
    .method name span ::
      (if !scopes.isEmpty && iterationMethods.contains name then [.nestedIteration] else []) ++
      match recv.contextRoot? scopes with
      | some root => Finding.reading root none
      | none => []
  | _ => []

mutual

/-- What the expression does, in the order of the text. `accessed` says whether it stands under an
access that has recorded what is read of the context. -/
def findings (scopes : Scopes) (accessed : Bool) : Expr → List Finding
  | literal .. => []
  | ident span name => nameFindings scopes accessed name span
  | array _ items => listFindings scopes items
  | object _ entries => entryFindings scopes entries
  | member span recv name _ =>
    memberFindings scopes span recv name ++
      findings scopes (recv.contextRoot? scopes).isSome recv
  | index _ recv key _ =>
    indexFindings scopes recv key ++
      findings scopes (recv.contextRoot? scopes).isSome recv ++ findings scopes false key
  | call span callee args _ =>
    callFindings scopes span callee args ++ findings scopes false callee ++
      listFindings scopes args
  | unary _ _ operand => findings scopes false operand
  | binary _ _ left right => findings scopes false left ++ findings scopes false right
  | conditional _ test consequent alternate =>
    findings scopes false test ++ findings scopes false consequent ++
      findings scopes false alternate
  | lambda _ params body => findings (params :: scopes) false body
  | assign span target value =>
    .assignment span :: findings scopes false target ++ findings scopes false value

/-- What the expressions of a list do. -/
def listFindings (scopes : Scopes) : List Expr → List Finding
  | [] => []
  | e :: es => findings scopes false e ++ listFindings scopes es

/-- What the values of entries do. -/
def entryFindings (scopes : Scopes) : List (String × Expr) → List Finding
  | [] => []
  | (_, e) :: es => findings scopes false e ++ entryFindings scopes es

end

mutual

/-- The cost of an expression: three for each call, two for each arrow function and conditional, one
for every other node. -/
def complexity : Expr → Nat
  | literal .. | ident .. => 1
  | array _ items => complexities items + 1
  | object _ entries => entryComplexities entries + 1
  | member _ recv _ _ => recv.complexity + 1
  | index _ recv key _ => recv.complexity + key.complexity + 1
  | call _ callee args _ => callee.complexity + complexities args + 3
  | unary _ _ operand => operand.complexity + 1
  | binary _ _ left right => left.complexity + right.complexity + 1
  | conditional _ test consequent alternate =>
    test.complexity + consequent.complexity + alternate.complexity + 2
  | lambda _ _ body => body.complexity + 2
  | assign _ target value => target.complexity + value.complexity + 1

/-- The cost of a list of expressions. -/
def complexities : List Expr → Nat
  | [] => 0
  | e :: es => e.complexity + complexities es

/-- The cost of the values of entries. -/
def entryComplexities : List (String × Expr) → Nat
  | [] => 0
  | (_, e) :: es => e.complexity + entryComplexities es

end

end Expr

/-! ### The summary -/

/-- The findings by kind, and the measures of the tree. -/
structure Analysis where
  dependencies : List Dependency
  /-- Whether the dependencies list everything that is read of the context. -/
  dependenciesComplete : Bool
  /-- Whether the clock is looked at. -/
  volatile : Bool
  freeNames : List (Spanned String)
  methodCalls : List (Spanned String)
  nodeReferences : List (Spanned String)
  oldNodeAccess : Bool
  computedKeys : List Span
  assignments : List Span
  nestedIterations : Nat
  complexity : Nat
  depth : Nat
  nodeCount : Nat

namespace Finding

/-- The part of the context that is read. -/
def dependency? : Finding → Option Dependency
  | .reads d => some d
  | _ => none

/-- The free name and where it stands. -/
def freeName? : Finding → Option (Spanned String)
  | .freeName name span => some ⟨name, span⟩
  | _ => none

/-- The method called and where the call stands. -/
def method? : Finding → Option (Spanned String)
  | .method name span => some ⟨name, span⟩
  | _ => none

/-- The node named and where the name stands. -/
def node? : Finding → Option (Spanned String)
  | .node name span => some ⟨name, span⟩
  | _ => none

/-- Where a computed key stands. -/
def computedKey? : Finding → Option Span
  | .computedKey span => some span
  | _ => none

/-- Where an assignment stands. -/
def assignment? : Finding → Option Span
  | .assignment span => some span
  | _ => none

/-- Whether something is read that dependencies cannot express. -/
def isUnlisted : Finding → Bool
  | .unlisted => true
  | _ => false

/-- Whether the clock is looked at. -/
def isClock : Finding → Bool
  | .clock => true
  | _ => false

/-- Whether a node is named through `$node`. -/
def isOldNodeAccess : Finding → Bool
  | .oldNodeAccess => true
  | _ => false

/-- Whether a function is called for each item inside another arrow function. -/
def isNestedIteration : Finding → Bool
  | .nestedIteration => true
  | _ => false

end Finding

/-- The analysis of an expression. -/
def Expr.analyze (e : Expr) : Analysis :=
  let found := e.findings [] false
  { dependencies := Dependency.ordered (found.filterMap Finding.dependency?)
    dependenciesComplete := !found.any Finding.isUnlisted
    volatile := found.any Finding.isClock
    freeNames := found.filterMap Finding.freeName?
    methodCalls := found.filterMap Finding.method?
    nodeReferences := found.filterMap Finding.node?
    oldNodeAccess := found.any Finding.isOldNodeAccess
    computedKeys := found.filterMap Finding.computedKey?
    assignments := found.filterMap Finding.assignment?
    nestedIterations := found.countP Finding.isNestedIteration
    complexity := e.complexity
    depth := e.height
    nodeCount := e.nodeCount }

namespace Analysis

/-- The analysis of a path query: it reads the whole item. -/
def ofQuery : Analysis :=
  { dependencies := [⟨"$json", none⟩]
    dependenciesComplete := true
    volatile := false
    freeNames := []
    methodCalls := []
    nodeReferences := []
    oldNodeAccess := false
    computedKeys := []
    assignments := []
    nestedIterations := 0
    complexity := 1
    depth := 1
    nodeCount := 1 }

/-- The texts of the dependencies. -/
def paths (a : Analysis) : List String := a.dependencies.map Dependency.path

end Analysis

end TemplateExpr
