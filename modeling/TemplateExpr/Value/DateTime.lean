import TemplateExpr.Error.Basic
import TemplateExpr.Time.Parser
import TemplateExpr.Value.Basic

/-!
# Values as moments

Texts in one of the usual forms and numbers of milliseconds stand for moments. A value that does not
is reported with its text.
-/

namespace TemplateExpr

/-- The moment of a text. -/
def DateTime.ofText (s : String) : Except EvalError DateTime :=
  match DateTime.parse? s with
  | some t => .ok t
  | none => .error (.invalidDate s)

/-- The moment of a number of milliseconds. -/
def DateTime.ofNumber (x : Float) : Except EvalError DateTime :=
  match DateTime.ofNumber? x with
  | some t => .ok t
  | none => .error (.invalidDate (Number.plain x))

/-- The moment that a value stands for. -/
def Value.toDateTime : Value → Except EvalError DateTime
  | date t => .ok t
  | string s => DateTime.ofText s
  | number x => DateTime.ofNumber x
  | v => .error (.invalidDate v.toText)

end TemplateExpr
