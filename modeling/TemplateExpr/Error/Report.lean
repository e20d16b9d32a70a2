import TemplateExpr.Error.Basic
import TemplateExpr.Json.Basic
import TemplateExpr.Text.Search

/-!
# Reports of errors

The forms in which errors reach the users of the host: operational errors of a workflow and of one
of its nodes, and the `ErrorReport` that all of them are shown as.
-/

namespace TemplateExpr

/-! ### Operational errors -/

/-- A failure of a workflow that does not stop it; it carries the time at which it was recorded. -/
structure WorkflowError where
  message : String
  node : Option String
  description : Option String
deriving Repr, DecidableEq

/-- A failure of a node at an item of a run. -/
structure NodeError where
  node : String
  message : String
  description : Option String
  runIndex : Nat
  itemIndex : Nat
  level : ErrorLevel
deriving Repr, DecidableEq

namespace NodeError

/-- The failure with a message. -/
def ofMessage (node message : String) (runIndex itemIndex : Nat) : NodeError :=
  ⟨node, message, none, runIndex, itemIndex, .error⟩

/-- The failure of an evaluation at a node. -/
def ofEvalError (e : EvalError) (node : String) (runIndex itemIndex : Nat) : NodeError :=
  { ofMessage node e.message runIndex itemIndex with description := e.description? }

/-- Replaces a message that contains one of the keys. Of several keys the first in order counts. -/
def mapMessage (e : NodeError) (mapping : List (String × String)) : NodeError :=
  let sorted := mapping.mergeSort fun a b => decide (a.1 ≤ b.1)
  match sorted.find? fun entry => Text.contains entry.1.toList e.message.toList with
  | some (_, message) => { e with message := message }
  | none => e

end NodeError

/-! ### Reports -/

/-- An error as it is shown. -/
structure ErrorReport where
  message : String
  description : Option String
  level : ErrorLevel
  node : Option String
  /-- Whether the time of the error is shown with it. -/
  stamped : Bool
deriving Repr, DecidableEq

namespace ErrorReport

/-- The report of an evaluation error. -/
def ofEvalError (e : EvalError) : ErrorReport :=
  ⟨e.message, e.description?, e.level, e.node?, false⟩

/-- The report of a failure of a workflow, which is a warning. -/
def ofWorkflowError (e : WorkflowError) : ErrorReport :=
  ⟨e.message, e.description, .warning, e.node, true⟩

/-- The report of a failure of a node. -/
def ofNodeError (e : NodeError) : ErrorReport :=
  ⟨e.message, e.description, e.level, some e.node, false⟩

/-- A report as JSON without its time; what is missing is left out. -/
def toJson (r : ErrorReport) : Json :=
  let optional (key : String) (text : Option String) : List (String × Json) :=
    text.toList.map fun s => (key, .string s)
  .object ([("message", .string r.message)] ++ optional "description" r.description ++
    [("level", .string r.level.name)] ++ optional "node" r.node)

end ErrorReport

end TemplateExpr
