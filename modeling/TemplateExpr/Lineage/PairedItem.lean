import TemplateExpr.Error.Basic
import TemplateExpr.Lineage.Graph
import TemplateExpr.Lineage.RunData

/-!
# Paired items

From which item of an earlier node an item was made. `Lineage.resolve` follows the recorded sources
from the input of the current node back to the node that is asked for; the items it arrives at must
all be the same one.
-/

namespace TemplateExpr.Lineage

/-- Where the search starts: an item of the input of a node, in a run. -/
structure ItemPointer where
  node : String
  itemIndex : Nat
  /-- The latest run of each node, if it is missing. -/
  runIndex : Option Nat
deriving Repr, DecidableEq

/-- The pointer of JSON data. -/
def ItemPointer.ofJson? (j : Json) : Option ItemPointer := do
  let r ← j.record? ["node", "itemIndex", "runIndex"]
  pure
    { node := ← r.required? "node" Json.string?
      itemIndex := ← r.required? "itemIndex" Json.nat?
      runIndex := ← r.field? "runIndex" (Json.optional? Json.nat?) none }

/-- A place on the way: an item that arrives on an input of a node. -/
structure Arrival where
  node : String
  input : Nat
  item : Nat
deriving Repr, DecidableEq

/-- An item of an output. -/
structure Coordinate where
  output : Nat
  item : Nat
deriving Repr, DecidableEq

/-- What is searched, and for which node. -/
structure Search where
  graph : WorkflowGraph
  runData : RunData
  run : Option Nat
  target : String

/-- What stands behind an arrival. -/
inductive Origin where
  /-- An item of the target. -/
  | found (c : Coordinate)
  /-- Arrivals at the node in front, none if the target cannot be reached from there. -/
  | further (arrivals : List Arrival)
deriving Repr, DecidableEq

/-- Follows the connection that an item has arrived by. -/
def Search.origin (s : Search) (a : Arrival) : Except PairedItemError Origin :=
  match s.graph.parent? a.node a.input with
  | none => .error (.noInputConnection a.node)
  | some edge =>
    let parent := edge.source
    if parent = s.target then .ok (.found ⟨edge.sourceOutput, a.item⟩)
    else if !(s.graph.ancestors parent).contains s.target then .ok (.further [])
    else match s.runData.task? parent s.run with
      | none => .error (.intermediateNodes [parent])
      | some task =>
        match (task.output edge.sourceOutput)[a.item]? with
        | none =>
          .error (.invalidInfo parent
            ("output " ++ Text.Digit.decimal edge.sourceOutput ++ " has no item " ++
              Text.Digit.decimal a.item))
        | some record =>
          match record.pairedItem with
          | none => .error (.noInfo parent a.item)
          | some info => .ok (.further (info.sources.map fun p => ⟨parent, p.input, p.item⟩))

/-- Every arrival that a record of the run can lead to. -/
def Search.universe (s : Search) : List Arrival :=
  s.runData.flatMap fun (node, tasks) =>
    tasks.flatMap fun task => task.outputs.flatMap fun items => items.flatMap fun item =>
      match item.pairedItem with
      | none => []
      | some info => info.sources.map fun p => ⟨node, p.input, p.item⟩

/-- Follows the arrivals of a list and those behind them, each only once. `left` holds the arrivals
that have not been visited. -/
def Search.walk (s : Search) (left : List Arrival) (found : List Coordinate) :
    List Arrival → Except PairedItemError (List Coordinate)
  | [] => .ok found
  | a :: as =>
    if h : a ∈ left then
      have : (left.filter (· != a)).length < left.length := by
        rcases Nat.lt_or_eq_of_le (List.length_filter_le (· != a) left) with hl | hl
        · exact hl
        · have := (List.length_filter_eq_length_iff.1 hl) a h
          simp at this
      match s.origin a with
      | .error e => .error e
      | .ok (.found c) => s.walk (left.filter (· != a)) (found ++ [c]) as
      | .ok (.further more) => s.walk (left.filter (· != a)) found (more ++ as)
    else s.walk left found as
termination_by as => (left.length, as.length)

/-- The nodes between the target and the start that have no data, in order. -/
def Search.missingNodes (s : Search) (ancestors : List String) : List String :=
  (ancestors.filter fun n =>
      (s.graph.ancestors n).contains s.target && !Fields.has s.runData n).mergeSort
    fun a b => decide (a ≤ b)

/-- The item of `target` from which the item at `start` was made. -/
def resolve (graph : WorkflowGraph) (runData : RunData) (start : ItemPointer) (target : String) :
    Except PairedItemError Json :=
  let s : Search := ⟨graph, runData, start.runIndex, target⟩
  if runData.isEmpty then .error .noExecutionData
  else if !Fields.has runData target then .error (.noNodeExecutionData target)
  else if (graph.parent? start.node 0).isNone && (graph.parent? start.node 1).isNone then
    .error (.noInputConnection start.node)
  else
    let ancestors := graph.ancestors start.node
    if !ancestors.contains target then .error (.noConnection start.node target)
    else
      let missing := s.missingNodes ancestors
      if !missing.isEmpty then .error (.intermediateNodes missing)
      else
        let first : Arrival := ⟨start.node, 0, start.itemIndex⟩
        match s.walk (first :: s.universe) [] [first] with
        | .error e => .error e
        | .ok found =>
          match found.eraseDups with
          | [] => .error (.noConnection start.node target)
          | [c] =>
            let task? := runData.task? target start.runIndex
            match task?.bind fun t => (t.output c.output)[c.item]? with
            | some item => .ok item.json
            | none =>
              .error (.invalidInfo target
                ("item " ++ Text.Digit.decimal c.item ++ " does not exist"))
          | _ :: _ :: _ =>
            .error (.invalidInfo target "the item has multiple matching upstream items")

end TemplateExpr.Lineage
