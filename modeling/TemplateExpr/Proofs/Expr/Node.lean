import TemplateExpr.Expr.Basic

/-!
# Nodes of expressions

`parts` lists the expressions right below a node and `nodes` all expressions in an expression, from
left to right. A part has fewer nodes than the whole (`nodeCount_lt_of_mem_parts`) and is not as
high (`height_lt_of_mem_parts`), and its nodes are nodes of the whole. The arrow functions and the
names of an expression are those of its nodes.
-/

namespace TemplateExpr.Expr

/-- The expressions right below a node. -/
def parts : Expr → List Expr
  | literal .. | ident .. => []
  | array _ items => items
  | object _ entries => entries.map Prod.snd
  | member _ recv _ _ => [recv]
  | index _ recv key _ => [recv, key]
  | call _ callee args _ => callee :: args
  | unary _ _ operand => [operand]
  | binary _ _ left right => [left, right]
  | conditional _ test consequent alternate => [test, consequent, alternate]
  | lambda _ _ body => [body]
  | assign _ target value => [target, value]

/-! ### Size -/

theorem nodeCount_le_of_mem {e : Expr} {es : List Expr} (h : e ∈ es) :
    e.nodeCount ≤ nodeCounts es := by
  induction es with
  | nil => exact absurd h List.not_mem_nil
  | cons e' es ih =>
    rw [nodeCounts]
    rcases List.mem_cons.1 h with rfl | h
    · exact Nat.le_add_right _ _
    · exact Nat.le_trans (ih h) (Nat.le_add_left _ _)

theorem nodeCounts_map_snd (entries : List (String × Expr)) :
    nodeCounts (entries.map Prod.snd) = entryNodeCounts entries := by
  induction entries with
  | nil => rfl
  | cons f entries ih => rw [List.map_cons, nodeCounts, entryNodeCounts, ih]

theorem nodeCount_eq_parts (e : Expr) : e.nodeCount = nodeCounts e.parts + 1 := by
  cases e <;> simp only [parts, nodeCount, nodeCounts, nodeCounts_map_snd, Nat.add_zero,
    Nat.add_assoc, Nat.zero_add]

theorem nodeCount_lt_of_mem_parts {e e' : Expr} (h : e' ∈ e.parts) :
    e'.nodeCount < e.nodeCount := by
  rw [e.nodeCount_eq_parts]
  exact Nat.lt_succ_of_le (nodeCount_le_of_mem h)

theorem height_le_of_mem {e : Expr} {es : List Expr} (h : e ∈ es) : e.height ≤ heights es := by
  induction es with
  | nil => exact absurd h List.not_mem_nil
  | cons e' es ih =>
    rw [heights]
    rcases List.mem_cons.1 h with rfl | h
    · exact Nat.le_max_left _ _
    · exact Nat.le_trans (ih h) (Nat.le_max_right _ _)

theorem heights_map_snd (entries : List (String × Expr)) :
    heights (entries.map Prod.snd) = entryHeights entries := by
  induction entries with
  | nil => rfl
  | cons f entries ih => rw [List.map_cons, heights, entryHeights, ih]

theorem height_eq_parts (e : Expr) : e.height = heights e.parts + 1 := by
  cases e <;> simp only [parts, height, heights, heights_map_snd, Nat.max_zero]

theorem height_lt_of_mem_parts {e e' : Expr} (h : e' ∈ e.parts) : e'.height < e.height := by
  rw [e.height_eq_parts]
  exact Nat.lt_succ_of_le (height_le_of_mem h)

/-- The expression with `f` applied to the expressions right below it. -/
def mapParts (f : Expr → Expr) : Expr → Expr
  | literal s value => literal s value
  | ident s name => ident s name
  | array s items => array s (items.map f)
  | object s entries => object s (entries.map fun x => (x.1, f x.2))
  | member s recv property optional => member s (f recv) property optional
  | index s recv key optional => index s (f recv) (f key) optional
  | call s callee args optional => call s (f callee) (args.map f) optional
  | unary s op operand => unary s op (f operand)
  | binary s op left right => binary s op (f left) (f right)
  | conditional s test consequent alternate =>
    conditional s (f test) (f consequent) (f alternate)
  | lambda s params body => lambda s params (f body)
  | assign s target value => assign s (f target) (f value)

theorem mapParts_id (e : Expr) : e.mapParts id = e := by
  cases e <;> simp [mapParts]

/-- What holds of an expression if it holds of its parts holds of all expressions. -/
theorem parts_induction {P : Expr → Prop} (step : ∀ e, (∀ e' ∈ e.parts, P e') → P e) (e : Expr) :
    P e := by
  induction hn : e.nodeCount using Nat.strongRecOn generalizing e with
  | ind n ih =>
    subst hn
    exact step e fun e' he' => ih _ (nodeCount_lt_of_mem_parts he') e' rfl

/-! ### All nodes -/

mutual

/-- All expressions in an expression, each one in front of those below it. -/
def nodes (e : Expr) : List Expr :=
  e :: match e with
    | literal .. | ident .. => []
    | array _ items => listNodes items
    | object _ entries => entryNodes entries
    | member _ recv _ _ => recv.nodes
    | index _ recv key _ => recv.nodes ++ key.nodes
    | call _ callee args _ => callee.nodes ++ listNodes args
    | unary _ _ operand => operand.nodes
    | binary _ _ left right => left.nodes ++ right.nodes
    | conditional _ test consequent alternate =>
      test.nodes ++ (consequent.nodes ++ alternate.nodes)
    | lambda _ _ body => body.nodes
    | assign _ target value => target.nodes ++ value.nodes

/-- All expressions in a list of expressions. -/
def listNodes : List Expr → List Expr
  | [] => []
  | e :: es => e.nodes ++ listNodes es

/-- All expressions in the values of entries. -/
def entryNodes : List (String × Expr) → List Expr
  | [] => []
  | (_, e) :: es => e.nodes ++ entryNodes es

end

theorem listNodes_map_snd (entries : List (String × Expr)) :
    listNodes (entries.map Prod.snd) = entryNodes entries := by
  induction entries with
  | nil => rw [List.map_nil, listNodes, entryNodes]
  | cons f entries ih => rw [List.map_cons, listNodes, entryNodes, ih]

/-- The nodes of an expression are itself and those of its parts. -/
theorem nodes_eq_parts (e : Expr) : e.nodes = e :: listNodes e.parts := by
  cases e <;> rw [nodes] <;> simp only [parts, listNodes, listNodes_map_snd, List.append_nil]

theorem nodes_subset_of_mem {e : Expr} {es : List Expr} (h : e ∈ es) :
    e.nodes ⊆ listNodes es := by
  induction es with
  | nil => exact absurd h List.not_mem_nil
  | cons e' es ih =>
    rw [listNodes]
    rcases List.mem_cons.1 h with rfl | h
    · exact List.subset_append_left _ _
    · exact List.Subset.trans (ih h) (List.subset_append_right _ _)

theorem mem_nodes_self (e : Expr) : e ∈ e.nodes := by
  rw [nodes_eq_parts]
  exact List.mem_cons_self

theorem exists_of_mem_listNodes {p : Expr} {es : List Expr} (h : p ∈ listNodes es) :
    ∃ e ∈ es, p ∈ e.nodes := by
  induction es with
  | nil =>
    rw [listNodes] at h
    cases h
  | cons e es ih =>
    rw [listNodes] at h
    rcases List.mem_append.1 h with h | h
    · exact ⟨e, List.mem_cons_self, h⟩
    · obtain ⟨e', he', h⟩ := ih h
      exact ⟨e', List.mem_cons_of_mem e he', h⟩

theorem nodes_subset_of_mem_parts {e e' : Expr} (h : e' ∈ e.parts) : e'.nodes ⊆ e.nodes := by
  rw [nodes_eq_parts e]
  exact List.subset_cons_of_subset e (nodes_subset_of_mem h)

/-! ### Functions and names -/

/-- The parameters and the body of an arrow function. -/
def function? : Expr → Option (List String × Expr)
  | lambda _ params body => some (params, body)
  | _ => none

/-- The parameters and the bodies of all arrow functions, each one in front of those in its body. -/
def functions (e : Expr) : List (List String × Expr) := e.nodes.filterMap function?

/-- The names that a node itself consists of: the keys of entries and members are no names. -/
def ownNames : Expr → List String
  | ident _ name => [name]
  | lambda _ params _ => params
  | _ => []

/-- All names that occur in an expression, those of parameters included. -/
def names (e : Expr) : List String := e.nodes.flatMap ownNames

theorem functions_lambda (s : Span) (params : List String) (body : Expr) :
    (lambda s params body).functions = (params, body) :: body.functions := by
  rw [functions, nodes]
  rfl

/-- The functions of a part are functions of the whole. -/
theorem functions_subset_of_mem_parts {e e' : Expr} (h : e' ∈ e.parts) :
    e'.functions ⊆ e.functions :=
  List.filterMap_subset _ (nodes_subset_of_mem_parts h)

theorem functions_eq_nil_of_mem_parts {e e' : Expr} (he : e.functions = []) (h : e' ∈ e.parts) :
    e'.functions = [] :=
  List.subset_nil.1 (he ▸ functions_subset_of_mem_parts h)

/-- The names in a part are names in the whole. -/
theorem names_subset_of_mem_parts {e e' : Expr} (h : e' ∈ e.parts) : e'.names ⊆ e.names := by
  intro n hn
  obtain ⟨node, hnode, hn⟩ := List.mem_flatMap.1 hn
  exact List.mem_flatMap_of_mem (nodes_subset_of_mem_parts h hnode) hn

theorem ownNames_subset (e : Expr) : e.ownNames ⊆ e.names := by
  rw [names, nodes_eq_parts, List.flatMap_cons]
  exact List.subset_append_left _ _

end TemplateExpr.Expr
