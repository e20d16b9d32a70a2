import TemplateExpr.Error.Basic
import TemplateExpr.Number.Text
import TemplateExpr.Value.Basic

/-!
# Path queries

A path is `$` and steps: `.key`, `['key']`, `[index]` and the wildcards `.*` and `[*]`. A query
follows the steps from a value. Its result is the one value that is reached, or an array of all of
them if there is a wildcard among the steps.
-/

namespace TemplateExpr

open TemplateExpr.Text

/-- A step of a path. -/
inductive QueryStep where
  | key (name : String)
  /-- The position of an item, counted from the end if it is negative. -/
  | index (i : Int)
  | wildcard
deriving Repr, DecidableEq

namespace QueryStep

/-! ### Reading -/

/-- The text between a mark at both ends. -/
def unquoted? (mark : Char) (cs : List Char) : Option (List Char) :=
  (stripStart? [mark] cs).bind (stripEnd? [mark])

/-- The step in brackets. -/
def ofBracket (cs : List Char) : Except QueryFault QueryStep :=
  if cs = ['*'] then .ok wildcard
  else match (unquoted? '\'' cs).or (unquoted? '"' cs) with
    | some name => .ok (key (String.ofList name))
    | none =>
      match (Number.readInt? 10 cs).filter Number.fitsInt64 with
      | some i => .ok (index i)
      | none => .error (.selector (String.ofList cs))

/-- The step behind a point. -/
def ofDotted (cs : List Char) : Except QueryFault QueryStep :=
  match cs with
  | [] => .error .emptyKey
  | ['*'] => .ok wildcard
  | name => .ok (key (String.ofList name))

/-- Whether a key behind a point goes on with a character. -/
def isKeyChar (c : Char) : Bool := c != '.' && c != '['

theorem length_of_cutAt? {needle cs before after : List Char}
    (h : cutAt? needle cs = some (before, after)) : after.length ≤ cs.length := by
  unfold cutAt? at h
  obtain ⟨i, _, hi⟩ := Option.map_eq_some_iff.1 h
  simp only [Prod.mk.injEq] at hi
  rw [← hi.2, List.length_drop]
  omega

/-- The steps of a path without the root. -/
def readAll (cs : List Char) : Except QueryFault (List QueryStep) :=
  match cs with
  | [] => .ok []
  | c :: cs =>
    if c = '.' then
      if cs.head? = some '.' then .error .descent
      else do
        let step ← ofDotted (cs.takeWhile isKeyChar)
        let steps ← readAll (cs.dropWhile isKeyChar)
        pure (step :: steps)
    else if c = '[' then
      match h : cutAt? [']'] cs with
      | none => .error .unclosedBracket
      | some (inner, rest) =>
        have : rest.length ≤ cs.length := length_of_cutAt? h
        do
          let step ← ofBracket (trim inner)
          let steps ← readAll rest
          pure (step :: steps)
    else .error (.character c)
termination_by cs.length
decreasing_by
  · have := (List.dropWhile_sublist isKeyChar (l := cs)).length_le
    simp only [List.length_cons]; omega
  · simp only [List.length_cons]; omega

/-- The steps of a path. -/
def ofPath (path : List Char) : Except QueryFault (List QueryStep) :=
  match trim path with
  | '$' :: rest => readAll rest
  | cs => .error (.noRoot (String.ofList cs))

/-! ### Following -/

/-- The position that a key names in an array. -/
def position? (name : String) : Option Nat :=
  let cs := name.toList
  (Digit.read? 10 ((stripStart? ['+'] cs).getD cs)).filter (· < UInt64.size)

/-- The values that a step reaches from a value. -/
def reach (step : QueryStep) (v : Value) : List Value :=
  match step, v with
  | key name, .object fields => (Fields.get? fields name).toList
  | key name, .array items => ((position? name).bind (items[·]?)).toList
  | index i, .array items =>
    let n := if i < 0 then items.length + i else i
    if n < 0 then [] else (items[n.toNat]?).toList
  | wildcard, .array items => items
  | wildcard, .object fields => Fields.values fields
  | _, _ => []

/-- The values that steps reach from values. -/
def reachAll (steps : List QueryStep) (vs : List Value) : List Value :=
  steps.foldl (fun vs step => vs.flatMap step.reach) vs

end QueryStep

/-- The result of a path query on a value. -/
def Value.query (v : Value) (path : String) : Except EvalError Value :=
  match QueryStep.ofPath path.toList with
  | .error fault => .error (.query fault)
  | .ok steps =>
    let found := QueryStep.reachAll steps [v]
    .ok (if steps.contains .wildcard then .array found else found.headD .undefined)

end TemplateExpr
