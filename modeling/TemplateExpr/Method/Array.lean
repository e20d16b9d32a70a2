import TemplateExpr.Chunks
import TemplateExpr.Eval.Basic
import TemplateExpr.Method.Basic
import TemplateExpr.Number.Arithmetic

/-!
# Methods of arrays

Functions that are passed to a method are called with an item and its position, those of `reduce`
with the result so far in front of them, and those of `sort` with two items.
-/

/-!
## Sorting with a comparison that may fail

Two halves are sorted and then merged; of two items of which neither is greater, the first stays in
front. The comparison may be any computation: an inconsistent one still gives some order of the same
items.
-/

namespace TemplateExpr.Eval

variable {α : Type}

/-- Merges two lists behind the items of `acc`, which are in reverse. The head of the second list
comes first only if that of the first list is greater. -/
def mergeFrom (greater : α → α → Eval Bool) (acc ls rs : List α) : Eval (List α) :=
  match ls, rs with
  | [], rs => pure (acc.reverse ++ rs)
  | ls, [] => pure (acc.reverse ++ ls)
  | l :: ls, r :: rs => do
    if ← greater l r then mergeFrom greater (r :: acc) (l :: ls) rs
    else mergeFrom greater (l :: acc) ls (r :: rs)
termination_by ls.length + rs.length

/-- The items of a list in order. -/
def sortBy (greater : α → α → Eval Bool) (as : List α) : Eval (List α) :=
  if _h : as.length ≤ 1 then pure as
  else do
    let left ← sortBy greater (as.take (as.length / 2))
    let right ← sortBy greater (as.drop (as.length / 2))
    mergeFrom greater [] left right
termination_by as.length
decreasing_by
  · simp only [List.length_take]; omega
  · simp only [List.length_drop]; omega

end TemplateExpr.Eval

/-! ## The methods -/

namespace TemplateExpr.ArrayMethod

/-! ### Kinds of methods -/

/-- What a method does to items with arguments. -/
abbrev Run := Caller → List Value → List Value → Eval Value

/-- A value that depends on the items alone. -/
def convert (f : List Value → Value) : Run := fun _ items _ => pure (f items)

/-- An array for which memory is reserved when it has been built. -/
def build (f : List Value → List Value → Except EvalError (List Value)) : Run :=
  fun _ items args => do
  let out ← f items args
  Eval.reserveSlots out.length
  pure (.array out)

/-! ### Functions on items -/

/-- Calls a function with an item and its position. -/
def applyTo (call : Caller) (f : Value) (i : Nat) (item : Value) : Eval Value :=
  call f [item, .ofNat i]

/-- Whether a function accepts an item at a position. -/
def accepts (call : Caller) (f : Value) (i : Nat) (item : Value) : Eval Bool := do
  let v ← applyTo call f i item
  pure v.truthy

/-- The results of a function. -/
def map : Run := fun call items args => do
  let f ← Arguments.function "map" args 0
  Eval.reserveSlots items.length
  let out ← Eval.mapItems (applyTo call f) items
  pure (.array out)

/-- The items that a function accepts. -/
def filter : Run := fun call items args => do
  let f ← Arguments.function "filter" args 0
  let verdicts ← Eval.mapItems (accepts call f) items
  let out := ((items.zip verdicts).filter (·.2)).map (·.1)
  Eval.reserveSlots out.length
  pure (.array out)

/-- The first item that a function accepts, and its position. -/
def search (method : String) (call : Caller) (items args : List Value) :
    Eval (Option (Nat × Value)) := do
  let f ← Arguments.function method args 0
  Eval.findItem? (accepts call f) items

/-- The first item that a function accepts. -/
def find : Run := fun call items args => do
  let found ← search "find" call items args
  pure ((found.map (·.2)).getD .undefined)

/-- The position of the first item that a function accepts, or minus one. -/
def findIndex : Run := fun call items args => do
  let found ← search "findIndex" call items args
  pure ((found.map fun f => Value.ofNat f.1).getD (.number (-1)))

/-- Whether a function accepts any item. -/
def some_ : Run := fun call items args => do
  let found ← search "some" call items args
  pure (.bool found.isSome)

/-- Whether a function accepts all items. -/
def every : Run := fun call items args => do
  let f ← Arguments.function "every" args 0
  let refused ← Eval.findItem? (fun i item => do pure !(← accepts call f i item)) items
  pure (.bool refused.isNone)

/-- The items folded into one value; without a value to start from, the first item is it. -/
def reduce : Run := fun call items args => do
  let f ← Arguments.function "reduce" args 0
  let step (acc : Value) (i : Nat) (item : Value) : Eval Value := call f [acc, item, .ofNat i]
  match args[1]?, items with
  | some start, items => Eval.foldFrom step start 0 items
  | none, start :: items => Eval.foldFrom step start 1 items
  | none, [] => Eval.fail (.invalidArgument "reduce" .emptyReduce)

/-! ### Order -/

/-- The comparison that a call of `sort` asks for: that of texts if it has no function. -/
def comparison (call : Caller) (args : List Value) : Eval (Value → Value → Eval Bool) := do
  if (Arguments.nth args 0).isUndefined then pure fun a b => pure (b.toText < a.toText)
  else
    let f ← Arguments.function "sort" args 0
    pure fun a b => do
      let v ← call f [a, b]
      pure (0 < v.toNumber)

/-- The items in order; what is undefined comes last and is not compared. -/
def sort : Run := fun call items args => do
  Eval.reserveSlots items.length
  let greater ← comparison call args
  let sorted ← Eval.sortBy greater (items.filter (!·.isUndefined))
  pure (.array (sorted ++ items.filter (·.isUndefined)))

/-! ### Texts -/

/-- The texts of the items with a separator in between. -/
def join : Run := fun _ items args => do
  let sep := (← Arguments.text? "join" args 0).getD ","
  let out := sep.intercalate (Value.itemTexts [] items)
  Eval.reserve out.utf8ByteSize
  pure (.string out)

/-- The items as JSON. -/
def toJsonString : Run := fun _ items _ => do
  let out := (Value.array items).jsonText
  Eval.reserve out.utf8ByteSize
  pure (.string out)

/-! ### Items -/

/-- Whether an item is the same as a value. -/
def holds (items : List Value) (v : Value) : Bool := items.any (·.sameValue v)

/-- The position of the first item that is equal to the argument, or minus one. -/
def indexOf : Run := fun _ items args =>
  let v := Arguments.nth args 0
  pure (((items.findIdx? (·.strictEquals v)).map Value.ofNat).getD (.number (-1)))

/-- The item at a position, counted from the end if it is negative. -/
def at_ : Run := fun _ items args =>
  let x := (Arguments.number? args 0).getD 0
  pure (((Number.itemIndex? x items.length).bind (items[·]?)).getD .undefined)

/-- The part between two positions, counted from the end if they are negative. -/
def slice : Run := fun _ items args => do
  let place (x : Float) : Nat := Number.relativeIndex x items.length
  let start := place ((Arguments.number? args 0).getD 0)
  let stop := ((Arguments.number? args 1).map place).getD items.length
  Eval.reserveSlots (stop - start)
  pure (.array ((items.drop start).take (stop - start)))

/-- The items of an argument: those of an array, and any other value itself. -/
def spread : Value → List Value
  | .array items => items
  | v => [v]

/-- The items with those of the arguments behind them. -/
def concat : Run := build fun items args => pure (items ++ args.flatMap spread)

/-- The items with the arguments behind them. -/
def append : Run := build fun items args => pure (items ++ args)

/-- The items with those of nested arrays in their place, `depth` levels deep. -/
def flattened : Nat → List Value → List Value
  | 0, items => items
  | depth + 1, items => items.flatMap fun
    | .array nested => flattened depth nested
    | v => [v]

/-- The largest depth of flattening. -/
def maxDepth : Nat := 64

/-- The items with those of nested arrays in their place. -/
def flat : Run := build fun items args =>
  pure (flattened (Number.clampIndex ((Arguments.number? args 0).getD 1) maxDepth) items)

/-- Whether a value is kept by `compact`. -/
def isPresent : Value → Bool
  | .undefined | .null => false
  | .string s => !s.isEmpty
  | _ => true

/-- The items in pieces of a length. -/
def chunk : Run := fun _ items args => do
  let size ← Arguments.number "chunk" args 0
  if !(1 ≤ size) then Eval.fail (.invalidArgument "chunk" .chunkSize)
  Eval.reserveSlots items.length
  let size := Number.clampIndex size (max 1 items.length)
  pure (.array ((chunks size items).map .array))

/-! ### Fields of items -/

/-- What `pluck` takes of an object: all of it, the value of one field, or several fields. -/
def plucked? (names : List String) (fields : Fields Value) : Option Value :=
  match names with
  | [] => some (.object fields)
  | [name] => fields.get? name
  | names =>
    some (.object (Fields.ofPairs (names.filterMap fun name => (fields.get? name).map (name, ·))))

/-- Fields of the items that are objects. -/
def pluck : Run := build fun items args => do
  let names ← Arguments.texts "pluck" args
  pure ((items.filterMap Value.fields?).filterMap (plucked? names))

/-- What `unique` compares of an item: the values of fields of an object if any are named, and the
item itself otherwise. -/
def identity (names : List String) (item : Value) : Value :=
  match item with
  | .object fields =>
    if names.isEmpty then item
    else .array (names.map fun name => (Fields.get? fields name).getD .undefined)
  | item => item

/-- The items whose identity is not among `seen` or that of an earlier item, behind those of `acc`,
which are in reverse. -/
def distinctFrom (key : Value → Value) (seen acc : List Value) : List Value → List Value
  | [] => acc.reverse
  | item :: items =>
    let k := key item
    if holds seen k then distinctFrom key seen acc items
    else distinctFrom key (k :: seen) (item :: acc) items

/-- The items without those whose identity is that of an earlier one. -/
def distinctBy (key : Value → Value) (items : List Value) : List Value :=
  distinctFrom key [] [] items

/-- The items without repetitions. -/
def unique : Run := build fun items args => do
  let names ← Arguments.texts "unique" args
  pure (distinctBy (identity names) items)

/-- An object with a field for each item that has a key; the value of a field may be missing. -/
def smartJoin : Run := fun _ items args => do
  let keyName ← Arguments.text "smartJoin" args 0
  let valueName ← Arguments.text "smartJoin" args 1
  let pairs := (items.filterMap Value.fields?).filterMap fun fields =>
    (fields.get? keyName).map fun key =>
      (key.toText, (fields.get? valueName).getD .undefined)
  let out := Fields.ofPairs pairs
  Eval.reserveSlots out.length
  pure (.object out)

/-! ### Sets -/

/-- The argument of an operation on two sets. -/
def other (method : String) (args : List Value) : Except EvalError (List Value) :=
  match Arguments.nth args 0 with
  | .array items => .ok items
  | v => .error (.invalidArgument method (.notArray v.kind))

/-- The items that are not in another array. -/
def difference : Run := fun _ items args => do
  let others ← other "difference" args
  pure (.array (items.filter fun item => !holds others item))

/-- The items that are also in another array, without repetitions. -/
def intersection : Run := fun _ items args => do
  let others ← other "intersection" args
  pure (.array (distinctBy id (items.filter (holds others))))

/-- The items of both arrays, without repetitions. -/
def union : Run := build fun items args => do
  let others ← other "union" args
  pure (distinctBy id (items ++ others))

/-! ### Numbers -/

/-- The numbers of the items, none of which may be a NaN. -/
def numbers (method : String) (items : List Value) : Except EvalError (List Float) :=
  match items.find? fun item => Number.isNaN item.toNumber with
  | some item => .error (.invalidArgument method (.itemNotNumber item.toText))
  | none => .ok (items.map Value.toNumber)

/-- A number that is calculated from those of the items, or undefined. -/
def calculate (method : String) (f : List Float → Option Float) : Run := fun _ items _ => do
  let xs ← numbers method items
  pure (((f xs).map Value.number).getD .undefined)

/-- The mean of numbers. -/
def mean? (xs : List Float) : Option Float :=
  if xs.isEmpty then none else some (Number.total xs / Number.ofNat xs.length)

/-- The one of the numbers that is left when `f` chooses between two. -/
def choose? (f : Float → Float → Float) : List Float → Option Float
  | [] => none
  | x :: xs => some (xs.foldl f x)

/-! ### Table -/

/-- The methods of arrays. -/
def table : List (Method (List Value)) :=
  [⟨"map", "map(fn)", "Transform every item", "[1, 2].map(x => x * 2)", map⟩,
   ⟨"filter", "filter(fn)", "Keep items the callback accepts", "[1, 2].filter(x => x > 1)", filter⟩,
   ⟨"find", "find(fn)", "First item the callback accepts", "[1, 2].find(x => x > 1)", find⟩,
   ⟨"findIndex", "findIndex(fn)", "Index of the first accepted item or -1",
    "[1, 2].findIndex(x => x > 1)", findIndex⟩,
   ⟨"some", "some(fn)", "Whether any item is accepted", "[1, 2].some(x => x > 1)", some_⟩,
   ⟨"every", "every(fn)", "Whether all items are accepted", "[1, 2].every(x => x > 0)", every⟩,
   ⟨"reduce", "reduce(fn, initial?)", "Fold items into one value",
    "[1, 2].reduce((a, b) => a + b, 0)", reduce⟩,
   ⟨"sort", "sort(fn?)", "Sorted copy; text order without a comparator",
    "[3, 1].sort((a, b) => a - b)", sort⟩,
   ⟨"join", "join(separator?)", "Concatenate items as text", "['a', 'b'].join('-')", join⟩,
   ⟨"includes", "includes(value)", "Whether the array contains value", "[1, 2].includes(2)",
    fun _ items args => pure (.bool (holds items (Arguments.nth args 0)))⟩,
   ⟨"indexOf", "indexOf(value)", "Index of value or -1", "[1, 2].indexOf(2)", indexOf⟩,
   ⟨"slice", "slice(start?, end?)", "Sub-array; negative indices count from the end",
    "[1, 2, 3].slice(-2)", slice⟩,
   ⟨"concat", "concat(...values)", "Append arrays or values", "[1].concat([2], 3)", concat⟩,
   ⟨"reverse", "reverse()", "Reversed copy", "[1, 2].reverse()",
    convert fun items => .array items.reverse⟩,
   ⟨"flat", "flat(depth?)", "Flatten nested arrays", "[[1], [2, [3]]].flat()", flat⟩,
   ⟨"at", "at(index)", "Item at index; negative counts from the end", "[1, 2].at(-1)", at_⟩,
   ⟨"first", "first()", "First item", "[1, 2].first()",
    convert fun items => items.headD .undefined⟩,
   ⟨"last", "last()", "Last item", "[1, 2].last()",
    convert fun items => items.getLast?.getD .undefined⟩,
   ⟨"isEmpty", "isEmpty()", "Whether the array has no items", "[].isEmpty()",
    convert fun items => .bool items.isEmpty⟩,
   ⟨"isNotEmpty", "isNotEmpty()", "Whether the array has items", "[1].isNotEmpty()",
    convert fun items => .bool !items.isEmpty⟩,
   ⟨"pluck", "pluck(...fields)", "Field values from each object item", "$input.all().pluck('id')",
    pluck⟩,
   ⟨"sum", "sum()", "Sum of numeric items", "[1, 2].sum()",
    calculate "sum" fun xs => some (Number.total xs)⟩,
   ⟨"min", "min()", "Smallest numeric item", "[1, 2].min()",
    calculate "min" (choose? Number.smaller)⟩,
   ⟨"max", "max()", "Largest numeric item", "[1, 2].max()",
    calculate "max" (choose? Number.larger)⟩,
   ⟨"average", "average()", "Mean of numeric items", "[1, 2].average()", calculate "average" mean?⟩,
   ⟨"unique", "unique(...fields?)", "Drop duplicates, optionally by fields", "[1, 1, 2].unique()",
    unique⟩,
   ⟨"removeDuplicates", "removeDuplicates(...fields?)", "Drop duplicates, optionally by fields",
    "[1, 1].removeDuplicates()", unique⟩,
   ⟨"compact", "compact()", "Drop null, undefined and empty values", "[1, null, ''].compact()",
    convert fun items => .array (items.filter isPresent)⟩,
   ⟨"chunk", "chunk(size)", "Split into arrays of size items", "[1, 2, 3].chunk(2)", chunk⟩,
   ⟨"difference", "difference(other)", "Items not in other", "[1, 2].difference([2])", difference⟩,
   ⟨"intersection", "intersection(other)", "Items also in other", "[1, 2].intersection([2])",
    intersection⟩,
   ⟨"union", "union(other)", "Items of both without duplicates", "[1].union([1, 2])", union⟩,
   ⟨"append", "append(...items)", "Copy with items added at the end", "[1].append(2, 3)", append⟩,
   ⟨"smartJoin", "smartJoin(keyField, valueField)",
    "Build an object from key and value fields", "[\x7bk: 'a', v: 1\x7d].smartJoin('k', 'v')",
    smartJoin⟩,
   ⟨"toJsonString", "toJsonString()", "Serialize as JSON", "[1, 2].toJsonString()", toJsonString⟩,
   ⟨"toString", "toString()", "Comma-joined text", "[1, 2].toString()",
    convert fun items => .string (Value.array items).toText⟩]

end TemplateExpr.ArrayMethod
