import TemplateExpr.Json.Basic

/-!
# The store of a run

State that a run keeps in bags of fields: one for the whole flow and one for each node. A bag is
created when it is first asked for.
-/

namespace TemplateExpr

/-- Why there is no bag for a scope. -/
inductive ContextError where
  | missingNode
  | unknownScope (scope : String)
deriving Repr, DecidableEq

namespace ContextError

/-- The class of an error. -/
def kind : ContextError → String
  | missingNode => "missing_node"
  | unknownScope _ => "unknown_scope"

/-- The wording of an error. -/
def message : ContextError → String
  | missingNode => "The request data of context type 'node' the node parameter has to be set"
  | unknownScope scope => "Unknown context scope '" ++ scope ++ "'"

end ContextError

/-- The fields of a scope. -/
abbrev Bag := List (String × Json)

/-- The bags of a run by the keys of their scopes, in the order in which they were created. -/
structure ContextStore where
  bags : List (String × Bag)

namespace ContextStore

/-- A store without bags. -/
def empty : ContextStore := ⟨[]⟩

/-- What the key of a node's scope starts with. -/
def nodeMark : String := "node:"

/-- The key of a scope: `flow`, `node` together with the name of a node, or the key of a node
itself, in which the name is not empty. -/
def keyOf (scope : String) (node : Option String) : Except ContextError String :=
  if scope = "flow" then .ok "flow"
  else if scope = "node" ∧ node.isSome then .ok (nodeMark ++ node.getD "")
  else if (scope = "node" ∨ scope = nodeMark) ∧ node.isNone then .error .missingNode
  else if nodeMark.toList.isPrefixOf scope.toList && nodeMark.length < scope.length then .ok scope
  else .error (.unknownScope scope)

/-- The bag with a key. -/
def peek? (s : ContextStore) (key : String) : Option Bag := Fields.get? s.bags key

/-- The keys of the bags. -/
def scopes (s : ContextStore) : List String := Fields.keys s.bags

/-- The store in which there is a bag for a scope, and its key. -/
def opened (s : ContextStore) (scope : String) (node : Option String) :
    Except ContextError (String × ContextStore) :=
  (keyOf scope node).map fun key => (key, ⟨Fields.insertNew s.bags key []⟩)

/-- The bag of a scope, which is created if there is none. -/
def get (s : ContextStore) (scope : String) (node : Option String) :
    Except ContextError (Bag × ContextStore) :=
  (s.opened scope node).map fun (key, s) => ((s.peek? key).getD [], s)

/-- Writes a field of the bag of a scope and returns the bag. -/
def set (s : ContextStore) (scope : String) (node : Option String) (field : String) (value : Json) :
    Except ContextError (Bag × ContextStore) :=
  (s.opened scope node).map fun (key, s) =>
    let bag := Fields.insert ((s.peek? key).getD []) field value
    (bag, ⟨Fields.insert s.bags key bag⟩)

/-- The store as JSON. -/
def toJson (s : ContextStore) : Json :=
  .object [("bags", .object (s.bags.map fun (key, bag) => (key, .object bag)))]

end ContextStore

end TemplateExpr
