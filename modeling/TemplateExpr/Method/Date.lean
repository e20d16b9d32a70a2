import TemplateExpr.Method.Basic
import TemplateExpr.Value.DateTime

/-!
# Methods of dates

Units of time are named by texts. Amounts are numbers of one unit, or objects with an amount for
each of several units, which are added one after the other.
-/

namespace TemplateExpr.DateMethod

/-! ### Kinds of methods -/

/-- What a method does to a date with arguments. -/
abbrev Run := Caller → DateTime → List Value → Eval Value

/-- A value that depends on the date alone. -/
def convert (f : DateTime → Value) : Run := fun _ t _ => pure (f t)

/-- The unit with a name. -/
def unit (method name : String) : Except EvalError TimeUnit :=
  match TimeUnit.ofName? name with
  | some u => .ok u
  | none => .error (.invalidArgument method (.unit name))

/-- The unit that an argument names. -/
def unitOf (method : String) (args : List Value) (i : Nat) : Except EvalError TimeUnit := do
  let name ← Arguments.text method args i
  unit method name

/-- A date that can be represented. -/
def inRange (method : String) : Option DateTime → Except EvalError DateTime
  | some t => .ok t
  | none => .error (.invalidArgument method .dateRange)

/-! ### Shifting -/

/-- Which way a date is moved. -/
def signedAmount (backwards : Bool) (x : Float) : Float := (if backwards then -1 else 1) * x

/-- The date moved by the amounts of an object, in order. -/
def shiftAll (method : String) (backwards : Bool) (t : DateTime) :
    Fields Value → Except EvalError DateTime
  | [] => .ok t
  | (name, amount) :: amounts => do
    let u ← unit method name
    let t ← inRange method (t.add? (signedAmount backwards amount.toNumber) u)
    shiftAll method backwards t amounts

/-- The date moved by an amount, in milliseconds if no unit is named. -/
def shift (method : String) (backwards : Bool) : Run := fun _ t args => do
  match Arguments.nth args 0 with
  | .object amounts =>
    let t ← shiftAll method backwards t amounts
    pure (.date t)
  | _ =>
    let amount ← Arguments.number method args 0
    let u ← if args.length ≤ 1 then pure .millisecond else unitOf method args 1
    let t ← inRange method (t.add? (signedAmount backwards amount) u)
    pure (.date t)

/-- The time from another date, in milliseconds if no unit is named. -/
def diff : Run := fun _ t args => do
  let other ← (Arguments.nth args 0).toDateTime
  let u ← if (Arguments.nth args 1).isUndefined then pure .millisecond else unitOf "diff" args 1
  pure (.number (t.diff other u))

/-- An end of the unit that the date lies in. -/
def bound (method : String) (f : DateTime → TimeUnit → Option DateTime) : Run := fun _ t args => do
  let u ← unitOf method args 0
  let t ← inRange method (f t u)
  pure (.date t)

/-! ### Reading -/

/-- The date in a pattern. -/
def format : Run := fun _ t args => do
  let pattern ← Arguments.text "format" args 0
  pure (.string (t.format pattern))

/-- A part of the date. -/
def component : Run := fun _ t args => do
  let u ← unitOf "get" args 0
  pure (.number (t.component u))

/-- A comparison with another date. -/
def compare (p : DateTime → DateTime → Bool) : Run := fun _ t args => do
  let other ← (Arguments.nth args 0).toDateTime
  pure (.bool (p t other))

/-- The milliseconds of a date. -/
def millis (t : DateTime) : Float := Number.ofInt t.toMillis

/-! ### Table -/

/-- The methods of dates. -/
def table : List (Method DateTime) :=
  [⟨"format", "format(pattern)", "Render with tokens like yyyy-MM-dd", "$now.format('yyyy-MM-dd')",
    format⟩,
   ⟨"toFormat", "toFormat(pattern)", "Render with tokens like yyyy-MM-dd", "$now.toFormat('HH:mm')",
    format⟩,
   ⟨"plus", "plus(amount, unit)", "Add a duration", "$now.plus(1, 'days')", shift "plus" false⟩,
   ⟨"minus", "minus(amount, unit)", "Subtract a duration", "$now.minus(\x7bhours: 2\x7d)",
    shift "minus" true⟩,
   ⟨"diff", "diff(other, unit?)", "This date minus other, in unit", "$now.diff($today, 'hours')",
    diff⟩,
   ⟨"startOf", "startOf(unit)", "Beginning of the unit", "$now.startOf('month')",
    bound "startOf" DateTime.startOf?⟩,
   ⟨"endOf", "endOf(unit)", "Last millisecond of the unit", "$now.endOf('day')",
    bound "endOf" DateTime.endOf?⟩,
   ⟨"get", "get(unit)", "Read one component", "$now.get('year')", component⟩,
   ⟨"toISO", "toISO()", "ISO-8601 text with milliseconds", "$now.toISO()",
    convert fun t => .string t.iso⟩,
   ⟨"toISODate", "toISODate()", "Calendar date as yyyy-MM-dd", "$now.toISODate()",
    convert fun t => .string t.dateText⟩,
   ⟨"toUTC", "toUTC()", "Same instant at offset zero", "$now.toUTC()",
    convert fun t => .date t.toUtc⟩,
   ⟨"toMillis", "toMillis()", "Epoch milliseconds", "$now.toMillis()",
    convert fun t => .number (millis t)⟩,
   ⟨"toSeconds", "toSeconds()", "Epoch seconds", "$now.toSeconds()",
    convert fun t => .number (millis t / 1000)⟩,
   ⟨"isBefore", "isBefore(other)", "Whether this instant is earlier", "$now.isBefore('2030-01-01')",
    compare DateTime.before⟩,
   ⟨"isAfter", "isAfter(other)", "Whether this instant is later", "$now.isAfter('2020-01-01')",
    compare fun t u => u.before t⟩,
   ⟨"equals", "equals(other)", "Whether both are the same instant", "$now.equals($now)",
    compare DateTime.sameInstant⟩,
   ⟨"isWeekend", "isWeekend()", "Whether the day is Saturday or Sunday", "$today.isWeekend()",
    convert fun t => .bool (5 ≤ t.date.weekday)⟩,
   ⟨"toString", "toString()", "ISO-8601 text", "$now.toString()", convert fun t => .string t.iso⟩]

end TemplateExpr.DateMethod
