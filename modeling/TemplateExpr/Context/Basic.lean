import TemplateExpr.Error.Basic
import TemplateExpr.Lineage.PairedItem
import TemplateExpr.Value.Json

/-!
# Contexts

The data that expressions can read: the current item, one item of each node, the environment, the
items of the input, indices, the clock, and the run from which the origin of items can be told.
-/

namespace TemplateExpr

/-- The variables of the environment. -/
abbrev Environment := List (String × String)

namespace Environment

/-- The value of a variable. -/
def get? (env : Environment) (name : String) : Option String := Fields.get? env name

/-- Writing a variable is always refused. -/
def set (_env : Environment) (name : String) (_value : Value) : Except EvalError Environment :=
  .error (.readOnly name)

/-- The variables as an object. -/
def toValue (env : Environment) : Value :=
  .object (env.map fun (name, text) => (name, .string text))

end Environment

/-- What is needed to tell the origin of items: the workflow, its run, and the node that is being
executed. -/
structure LineageData where
  graph : WorkflowGraph
  runData : RunData
  node : String

/-- The data that expressions can read. -/
structure Context where
  /-- The current item. -/
  json : Value
  /-- One item of each node. -/
  nodes : List (String × Value)
  env : Environment
  /-- The items of the input of the current node. -/
  input : List Value
  runIndex : Nat
  itemIndex : Nat
  /-- The clock. -/
  now : DateTime
  lineage : Option LineageData

namespace Context

/-- The start of the current day. -/
def today (c : Context) : DateTime := (c.now.startOf? .day).getD c.now

/-- The context with an item at a time. -/
def ofItem (json : Value) (now : DateTime) : Context :=
  { json := json, nodes := [], env := [], input := [json], runIndex := 0, itemIndex := 0,
    now := now, lineage := none }

/-- The context of JSON data at a time. Missing parts are empty, the input is the current item, and
the origin of items is only known if workflow, run and current node are there. -/
def ofJson? (now : DateTime) (j : Json) : Option Context := do
  let r ← j.record? ["json", "nodes", "env", "input", "runIndex", "itemIndex", "workflow",
    "runData", "activeNode"]
  let json := Value.ofJson ((r "json").getD .null)
  let graph ← r.field? "workflow" (Json.optional? WorkflowGraph.ofJson?) none
  let runData ← r.field? "runData" (Json.optional? RunData.ofJson?) none
  let node ← r.field? "activeNode" (Json.optional? Json.string?) none
  pure
    { json := json
      nodes := ← r.field? "nodes" (Json.table? fun item => some (Value.ofJson item)) []
      env := ← r.field? "env" (Json.table? Json.string?) []
      input := (← r.field? "input"
        (Json.optional? (Json.list? fun item => some (Value.ofJson item))) none).getD [json]
      runIndex := ← r.field? "runIndex" Json.nat? 0
      itemIndex := ← r.field? "itemIndex" Json.nat? 0
      now := now
      lineage := match graph, runData, node with
        | some graph, some runData, some node => some ⟨graph, runData, node⟩
        | _, _, _ => none }

/-! ### Nodes -/

/-- The item that stands for the output of a node. -/
def nodeOutput? (c : Context) (node : String) : Option Value := Fields.get? c.nodes node

/-- The items on the first output of the latest execution of a node. -/
def LineageData.outputItems? (l : LineageData) (node : String) : Option (List Value) :=
  (l.runData.task? node none).map fun task => (task.output 0).map fun item => Value.ofJson item.json

/-- All items of a node. -/
def nodeItems (c : Context) (node : String) : Except EvalError (List Value) :=
  match c.lineage.bind (LineageData.outputItems? · node) with
  | some items => .ok items
  | none =>
    match c.nodeOutput? node with
    | some item => .ok [item]
    | none => .error (.pairedItem (.noNodeExecutionData node))

/-- The item of a node from which the item of the input at `index` was made, the current one if
there is no index. Where origins are unknown it is the item that stands for the node. -/
def pairedItem (c : Context) (node : String) (index : Option Nat) : Except EvalError Value :=
  match c.lineage with
  | some l =>
    let start : Lineage.ItemPointer := ⟨l.node, index.getD c.itemIndex, some c.runIndex⟩
    match Lineage.resolve l.graph l.runData start node with
    | .ok json => .ok (Value.ofJson json)
    | .error e => .error (.pairedItem e)
  | none =>
    match c.nodeOutput? node with
    | some item => .ok item
    | none => .error (.pairedItem (.noNodeExecutionData node))

/-- An item as it is handed to expressions. -/
def wrapItem (json : Value) : Value := .object [("json", json)]

/-- The items of all nodes as an object. -/
def nodeMap (c : Context) : Value := .object (c.nodes.map fun (name, item) => (name, wrapItem item))

/-- The item of the input that belongs to the current item. -/
def currentInput (c : Context) : Value := (c.input[c.itemIndex]?).getD c.json

end Context

end TemplateExpr
