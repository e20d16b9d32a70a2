import TemplateExpr.Method.Basic
import TemplateExpr.Number.Arithmetic
import TemplateExpr.Number.Text
import TemplateExpr.Value.DateTime

/-!
# Methods of numbers and truth values
-/

namespace TemplateExpr

open TemplateExpr.Text

namespace NumberMethod

/-! ### Kinds of methods -/

/-- What a method does to a number with arguments. -/
abbrev Run := Caller → Float → List Value → Eval Value

/-- A number that is calculated from the number alone. -/
def convert (f : Float → Float) : Run := fun _ x _ => pure (.number (f x))

/-- A condition on the number. -/
def test (p : Float → Bool) : Run := fun _ x _ => pure (.bool (p x))

/-! ### Texts -/

/-- The largest number of decimals of a text. -/
def maxDecimals : Float := 100

/-- The number with a fixed number of decimals. -/
def toFixed : Run := fun _ x args => do
  let places := (Arguments.number? args 0).getD 0
  if !(0 ≤ places && places ≤ maxDecimals) then
    Eval.fail (.invalidArgument "toFixed" .decimals)
  pure (.string
    (if Number.isFinite x then Number.fixed (Number.toNat64 places) x else Number.format x))

/-- The number in a base; only integers are written in another base than ten. -/
def toString : Run := fun _ x args => do
  let radix := (Arguments.number? args 0).getD 10
  if radix == 10 then pure (.string (Number.format x))
  else
    if !(2 ≤ radix && radix ≤ 36 && Number.isIntegral radix) then
      Eval.fail (.invalidArgument "toString" .radix)
    pure (.string
      (if Number.isIntegral x then Number.inRadix (Number.toNat64 radix) (Number.toInt64 x)
       else Number.format x))

/-- The number rounded to a number of decimals. -/
def round : Run := fun _ x args =>
  pure (.number (Number.roundTo ((Arguments.number? args 0).getD 0) x))

/-- The number with groups of thousands. -/
def format : Run := fun _ x _ => pure (.string (Number.grouped x))

/-! ### Moments -/

/-- The moment of a number of milliseconds or seconds. -/
def toDateTime : Run := fun _ x args => do
  let factor : Float ←
    match ← Arguments.text? "toDateTime" args 0 with
    | none => pure 1
    | some unit =>
      if unit == "ms" then pure 1
      else if unit == "s" then pure 1000
      else Eval.fail (.invalidArgument "toDateTime" (.timeScale unit))
  let t ← DateTime.ofNumber (x * factor)
  pure (.date t)

/-! ### Table -/

/-- The methods of numbers. -/
def table : List (Method Float) :=
  [⟨"toFixed", "toFixed(digits?)", "Format with a fixed number of decimals", "(1.005).toFixed(2)",
    toFixed⟩,
   ⟨"toString", "toString(radix?)", "Convert to text, optionally in another base",
    "(255).toString(16)", toString⟩,
   ⟨"round", "round(decimals?)", "Round half up to the given decimals", "(1.256).round(2)", round⟩,
   ⟨"floor", "floor()", "Round down", "(1.7).floor()", convert Float.floor⟩,
   ⟨"ceil", "ceil()", "Round up", "(1.2).ceil()", convert Float.ceil⟩,
   ⟨"abs", "abs()", "Absolute value", "(-3).abs()", convert Float.abs⟩,
   ⟨"isEven", "isEven()", "Whether the integer is even", "(4).isEven()", test Number.isEven⟩,
   ⟨"isOdd", "isOdd()", "Whether the integer is odd", "(3).isOdd()", test Number.isOdd⟩,
   ⟨"isInteger", "isInteger()", "Whether the number has no fraction", "(3).isInteger()",
    test Number.isIntegral⟩,
   ⟨"toInt", "toInt()", "Drop the fraction", "(3.7).toInt()", convert Number.trunc⟩,
   ⟨"toBoolean", "toBoolean()", "False for 0 and NaN, true otherwise", "(1).toBoolean()",
    test fun x => x != 0 && !Number.isNaN x⟩,
   ⟨"format", "format()", "Group thousands with commas", "(1234567.891).format()", format⟩,
   ⟨"toDateTime", "toDateTime(unit?)", "Read as epoch milliseconds, or seconds with 's'",
    "(1700000000).toDateTime('s')", toDateTime⟩]

end NumberMethod

namespace BooleanMethod

/-- One or zero. -/
def toNumber : Caller → Bool → List Value → Eval Value := fun _ b _ =>
  pure (.number (Value.bool b).toNumber)

/-- The methods of truth values. -/
def table : List (Method Bool) :=
  [⟨"toString", "toString()", "'true' or 'false'", "true.toString()",
    fun _ b _ => pure (.string (Value.bool b).toText)⟩,
   ⟨"toNumber", "toNumber()", "1 or 0", "true.toNumber()", toNumber⟩,
   ⟨"toInt", "toInt()", "1 or 0", "false.toInt()", toNumber⟩,
   ⟨"not", "not()", "Logical negation", "true.not()", fun _ b _ => pure (.bool !b)⟩]

end BooleanMethod

end TemplateExpr
