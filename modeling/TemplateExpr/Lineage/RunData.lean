import TemplateExpr.Json.Basic

/-!
# Data of a run

What the nodes of a workflow have produced in a run. An item may record from which items of the
inputs it was made.
-/

namespace TemplateExpr

/-- An item of an input. -/
structure ItemSource where
  item : Nat
  input : Nat
deriving Repr, DecidableEq

/-- From what an item was made, as it was recorded. -/
inductive PairedItemInfo where
  /-- An item of the first input. -/
  | index (item : Nat)
  | single (source : ItemSource)
  | many (sources : List ItemSource)
deriving Repr, DecidableEq

/-- An item that a node has produced. -/
structure ExecutionItem where
  json : Json
  pairedItem : Option PairedItemInfo

/-- One execution of a node: the items of each output. -/
structure TaskData where
  outputs : List (List ExecutionItem)

/-- The executions of each node. -/
abbrev RunData := List (String × List TaskData)

namespace ItemSource

/-- The source of JSON data; the input is the first one if it is missing. -/
def ofJson? (j : Json) : Option ItemSource := do
  let r ← j.record? ["item", "input"]
  pure { item := ← r.required? "item" Json.nat?, input := ← r.field? "input" Json.nat? 0 }

/-- A source as JSON. -/
def toJson (s : ItemSource) : Json := .object [("item", .ofNat s.item), ("input", .ofNat s.input)]

end ItemSource

namespace PairedItemInfo

/-- The sources that are recorded. -/
def sources : PairedItemInfo → List ItemSource
  | index item => [⟨item, 0⟩]
  | single source => [source]
  | many sources => sources

/-- The record of JSON data: an index, a source, or a list of sources. -/
def ofJson? (j : Json) : Option PairedItemInfo :=
  (j.nat?.map index) <|> ((ItemSource.ofJson? j).map single) <|>
    ((Json.list? ItemSource.ofJson? j).map many)

/-- A record as JSON. -/
def toJson : PairedItemInfo → Json
  | index item => .ofNat item
  | single source => source.toJson
  | many sources => .array (sources.map ItemSource.toJson)

end PairedItemInfo

namespace ExecutionItem

/-- The item of JSON data. -/
def ofJson? (j : Json) : Option ExecutionItem := do
  let r ← j.record? ["json", "pairedItem"]
  pure
    { json := ← r "json"
      pairedItem := ← r.field? "pairedItem" (Json.optional? PairedItemInfo.ofJson?) none }

/-- An item as JSON. -/
def toJson (i : ExecutionItem) : Json :=
  .object
    [("json", i.json),
     ("pairedItem", match i.pairedItem with
       | some info => info.toJson
       | none => .null)]

end ExecutionItem

namespace TaskData

/-- The items of an output. -/
def output (t : TaskData) (i : Nat) : List ExecutionItem := t.outputs.getD i []

/-- The execution of JSON data; it has no outputs if they are missing. -/
def ofJson? (j : Json) : Option TaskData := do
  let r ← j.record? ["outputs"]
  pure { outputs := ← r.field? "outputs" (Json.list? (Json.list? ExecutionItem.ofJson?)) [] }

/-- An execution as JSON. -/
def toJson (t : TaskData) : Json :=
  .object [("outputs", .array (t.outputs.map fun items => .array (items.map (·.toJson))))]

end TaskData

namespace RunData

/-- The data of a run from JSON. -/
def ofJson? : Json → Option RunData := Json.table? (Json.list? TaskData.ofJson?)

/-- The data of a run as JSON. -/
def toJson (d : RunData) : Json :=
  .object (d.map fun (node, tasks) => (node, .array (tasks.map TaskData.toJson)))

/-- The execution of a node that belongs to a run: the one with its index, or else the last one. -/
def task? (d : RunData) (node : String) (run : Option Nat) : Option TaskData :=
  (Fields.get? d node).bind fun tasks => (run.bind (tasks[·]?)) <|> tasks.getLast?

end RunData

end TemplateExpr
