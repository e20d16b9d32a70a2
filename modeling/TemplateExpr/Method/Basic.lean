import TemplateExpr.Eval.Basic

/-!
# Methods

A `Method ρ` is an operation on receivers of type `ρ` with its name and documentation. Arguments are
a list of values, read by position; `Arguments` says what is wrong with one that cannot be read.
-/

namespace TemplateExpr

/-- Calls a function value with arguments. -/
abbrev Caller := Value → List Value → Eval Value

/-- An operation on receivers of type `ρ`. -/
structure Method (ρ : Type) where
  name : String
  signature : String
  description : String
  /-- An expression that uses the method. -/
  usage : String
  run : Caller → ρ → List Value → Eval Value

/-! ### Arguments -/

namespace Arguments

/-- The argument at a position, counted from zero; undefined if it is missing. -/
def nth (args : List Value) (i : Nat) : Value := args.getD i .undefined

/-- A text. -/
def text (method : String) (args : List Value) (i : Nat) : Except EvalError String :=
  match args[i]? with
  | some (.string s) => .ok s
  | some v => .error (.invalidArgument method (.notString (i + 1) v.kind))
  | none => .error (.invalidArgument method (.missing (i + 1)))

/-- A text, or nothing if the argument is missing or undefined. -/
def text? (method : String) (args : List Value) (i : Nat) : Except EvalError (Option String) :=
  if (nth args i).isUndefined then .ok none else (text method args i).map some

/-- All arguments as texts. -/
def texts (method : String) (args : List Value) : Except EvalError (List String) :=
  (List.range args.length).mapM (text method args)

/-- A value that is converted to a number. -/
def number (method : String) (args : List Value) (i : Nat) : Except EvalError Float :=
  if (nth args i).isNullish then .error (.invalidArgument method (.missingNumber (i + 1)))
  else .ok (nth args i).toNumber

/-- A value that is converted to a number, or nothing if the argument is nullish. -/
def number? (args : List Value) (i : Nat) : Option Float :=
  if (nth args i).isNullish then none else some (nth args i).toNumber

/-- An arrow function. -/
def function (method : String) (args : List Value) (i : Nat) : Except EvalError Value :=
  if (nth args i).isFunction then .ok (nth args i)
  else .error (.invalidArgument method (.notFunction (i + 1)))

end Arguments

/-! ### Loops -/

namespace Eval

variable {α β : Type}

/-- The results of `f` on the items of a list and their positions from `i` on, behind those in
`acc`, which are in reverse. -/
def mapFrom (f : Nat → α → Eval β) (i : Nat) (acc : List β) : List α → Eval (List β)
  | [] => pure acc.reverse
  | a :: as => do
    let b ← f i a
    mapFrom f (i + 1) (b :: acc) as

/-- The results of `f` on the items of a list and their positions, from left to right. -/
def mapItems (f : Nat → α → Eval β) (as : List α) : Eval (List β) := mapFrom f 0 [] as

/-- The first of the items from position `i` on that `accepts` holds of, and its position. -/
def findFrom? (accepts : Nat → α → Eval Bool) (i : Nat) : List α → Eval (Option (Nat × α))
  | [] => pure none
  | a :: as => do
    if ← accepts i a then pure (some (i, a)) else findFrom? accepts (i + 1) as

/-- The first item that `accepts` holds of, and its position. -/
def findItem? (accepts : Nat → α → Eval Bool) (as : List α) : Eval (Option (Nat × α)) :=
  findFrom? accepts 0 as

/-- Folds the items from position `i` on into a value, from left to right. -/
def foldFrom (f : β → Nat → α → Eval β) (b : β) (i : Nat) : List α → Eval β
  | [] => pure b
  | a :: as => do
    let b ← f b i a
    foldFrom f b (i + 1) as

end Eval

end TemplateExpr
