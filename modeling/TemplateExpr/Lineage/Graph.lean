import TemplateExpr.Json.Basic
import TemplateExpr.Text.Search

/-!
# Workflow graphs

The nodes of a workflow and the connections between their outputs and inputs.
`WorkflowGraph.ancestors` lists the nodes from which a node can be reached.
-/

namespace TemplateExpr

/-- A node of a workflow. -/
structure NodeInfo where
  name : String
  type : String
  parameters : Json

/-- A connection from an output of a node to an input of a node. -/
structure Connection where
  source : String
  sourceOutput : Nat
  destination : String
  destinationInput : Nat
deriving Repr, DecidableEq

/-- The nodes of a workflow by their names, and their connections. -/
structure WorkflowGraph where
  nodes : List (String × NodeInfo)
  connections : List Connection

namespace NodeInfo

/-- The parameter that a path of keys with dots in between leads to. -/
def parameter? (n : NodeInfo) (path : String) : Option Json :=
  (Text.splitOn ['.'] path.toList).foldlM (fun j key => j.get? (String.ofList key)) n.parameters

/-- The node of JSON data; fields that are missing are empty. -/
def ofJson? (j : Json) : Option NodeInfo := do
  let r ← j.record? ["name", "type", "parameters"]
  pure
    { name := ← r.field? "name" Json.string? ""
      type := ← r.field? "type" Json.string? ""
      parameters := ← r.field? "parameters" some .null }

end NodeInfo

namespace Connection

/-- The connection of JSON data; output and input are the first ones if they are missing. -/
def ofJson? (j : Json) : Option Connection := do
  let r ← j.record? ["source", "sourceOutput", "destination", "destinationInput"]
  pure
    { source := ← r.required? "source" Json.string?
      sourceOutput := ← r.field? "sourceOutput" Json.nat? 0
      destination := ← r.required? "destination" Json.string?
      destinationInput := ← r.field? "destinationInput" Json.nat? 0 }

/-- A connection as JSON. -/
def toJson (c : Connection) : Json :=
  .object
    [("source", .string c.source), ("sourceOutput", .ofNat c.sourceOutput),
     ("destination", .string c.destination), ("destinationInput", .ofNat c.destinationInput)]

end Connection

namespace WorkflowGraph

/-- The node with a name. -/
def node? (g : WorkflowGraph) (name : String) : Option NodeInfo := Fields.get? g.nodes name

/-- The connection that feeds an input of a node; the first one, if there are several. -/
def parent? (g : WorkflowGraph) (node : String) (input : Nat) : Option Connection :=
  g.connections.find? fun c => c.destination == node && c.destinationInput == input

/-- The sources of the connections that end at a node. -/
def sources (g : WorkflowGraph) (node : String) : List String :=
  (g.connections.filter (·.destination == node)).map (·.source)

/-! ### Ancestors -/

/-- The names of all sources, each as often as it occurs. -/
def allSources (g : WorkflowGraph) : List String := g.connections.map (·.source)

/-- Goes through the queue: the sources of each node that have not been seen are added to the queue
and to those seen. `unseen` holds the sources that have not been seen. -/
def ancestorsLoop (g : WorkflowGraph) (unseen seen queue : List String) : List String :=
  match queue with
  | [] => seen
  | node :: queue =>
    match hs : (g.sources node).find? unseen.contains with
    | some source =>
      have : (unseen.filter (· != source)).length < unseen.length := by
        have hmem : source ∈ unseen := by
          have := List.find?_some hs
          simpa using this
        have hle := List.length_filter_le (· != source) unseen
        rcases Nat.lt_or_eq_of_le hle with h | h
        · exact h
        · have := (List.length_filter_eq_length_iff.1 h) source hmem
          simp at this
      ancestorsLoop g (unseen.filter (· != source)) (source :: seen) (node :: queue ++ [source])
    | none => ancestorsLoop g unseen seen queue
termination_by (unseen.length, queue.length)

/-- The nodes from which `node` can be reached along one or more connections. -/
def ancestors (g : WorkflowGraph) (node : String) : List String :=
  g.ancestorsLoop g.allSources [] [node]

/-- The graph of JSON data; parts that are missing are empty. -/
def ofJson? (j : Json) : Option WorkflowGraph := do
  let r ← j.record? ["nodes", "connections"]
  pure
    { nodes := ← r.field? "nodes" (Json.table? NodeInfo.ofJson?) []
      connections := ← r.field? "connections" (Json.list? Connection.ofJson?) [] }

end WorkflowGraph

end TemplateExpr
