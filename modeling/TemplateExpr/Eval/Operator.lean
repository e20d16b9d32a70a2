import TemplateExpr.Eval.Basic
import TemplateExpr.Number.Arithmetic

/-!
# Operators

What the operators do to values. The operators that do not always evaluate both operands are given
by what they do when the first is known.
-/

namespace TemplateExpr

namespace Value

/-- The value of a literal. -/
def ofLiteral : Literal → Value
  | .number x => number x
  | .string s => string s
  | .bool b => bool b
  | .null => null
  | .undefined => undefined

/-- What `typeof` calls a value. -/
def typeName : Value → String
  | undefined => "undefined"
  | bool _ => "boolean"
  | number _ => "number"
  | string _ => "string"
  | function .. | host (.builtin _) => "function"
  | null | array _ | object _ | date _ | host _ => "object"

/-- Whether `+` puts the text of the value together with that of the other operand. -/
def concatenates : Value → Bool
  | undefined | null | bool _ | number _ => false
  | string _ | array _ | object _ | date _ | function .. | host _ => true

/-- Whether one value comes before another: texts are compared with each other, all others as
numbers. -/
def isLess (a b : Value) : Bool :=
  match a, b with
  | string s, string t => s < t
  | a, b => a.toNumber < b.toNumber

/-- Whether one value does not come after another. -/
def isLessEqual (a b : Value) : Bool :=
  match a, b with
  | string s, string t => s ≤ t
  | a, b => a.toNumber ≤ b.toNumber

end Value

/-- An operator in front of a value. -/
def UnaryOp.apply (op : UnaryOp) (v : Value) : Value :=
  match op with
  | not => .bool !v.truthy
  | negate => .number (-v.toNumber)
  | plus => .number v.toNumber
  | typeOf => .string v.typeName

/-- Two texts, one behind the other. -/
def concatenate (s t : String) : Eval Value := do
  Eval.reserve (s.utf8ByteSize + t.utf8ByteSize)
  pure (.string (s ++ t))

namespace BinaryOp

/-- The operand on the left, if it decides the value of an operator. -/
def decided? (op : BinaryOp) (a : Value) : Option Value :=
  match op with
  | and => if a.truthy then none else some a
  | or => if a.truthy then some a else none
  | nullish => if a.isNullish then none else some a
  | _ => none

/-- An operator between two values. -/
def apply (op : BinaryOp) (a b : Value) : Eval Value :=
  match op with
  | add =>
    if a.concatenates || b.concatenates then concatenate a.toText b.toText
    else pure (.number (a.toNumber + b.toNumber))
  | subtract => pure (.number (a.toNumber - b.toNumber))
  | multiply => pure (.number (a.toNumber * b.toNumber))
  | divide => pure (.number (a.toNumber / b.toNumber))
  | modulo => pure (.number (Number.remainder a.toNumber b.toNumber))
  | power => pure (.number (Number.power a.toNumber b.toNumber))
  | equal => pure (.bool (a.looseEquals b))
  | notEqual => pure (.bool !a.looseEquals b)
  | strictEqual => pure (.bool (a.strictEquals b))
  | strictNotEqual => pure (.bool !a.strictEquals b)
  | less => pure (.bool (a.isLess b))
  | lessEqual => pure (.bool (a.isLessEqual b))
  | greater => pure (.bool (b.isLess a))
  | greaterEqual => pure (.bool (b.isLessEqual a))
  | and | or | nullish => pure b

end BinaryOp

end TemplateExpr
