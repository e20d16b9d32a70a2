import TemplateExpr.Context.Basic
import TemplateExpr.Json.Basic
import TemplateExpr.Method.Table
import TemplateExpr.Number.Text
import TemplateExpr.Text.Case
import TemplateExpr.Text.Search
import TemplateExpr.Text.Utf8
import TemplateExpr.Value.Host

/-!
# Completion

`Suggestion.complete` lists what can be typed at a cursor within an expression: the names that may
be used and the words of the language, or the members of what stands in front of the point.
-/

/-!
## What stands in front of the cursor

Suggestions are made from the text in front of the cursor alone, which need not be an expression
yet. `textBefore?` is the part of it that belongs to the expression around the cursor,
`Request.ofText` tells whether a name or a member of a receiver is being typed, and
`Receiver.ofText` guesses from its text what a receiver is.
-/

namespace TemplateExpr

open TemplateExpr.Text

/-- The text between the last `{{` in front of byte `cursor` and the cursor, if no `}}` is in it. -/
def textBefore? (template : String) (cursor : Nat) : Option (List Char) :=
  let cs := template.toList
  let cursor := min cursor template.utf8ByteSize
  if !isBoundary cursor cs then none
  else
    let before := takeBytes cursor cs
    (lastIndexOf? ['\x7b', '\x7b'] before).bind fun i =>
      let inner := before.drop (i + 2)
      if contains ['\x7d', '\x7d'] inner then none else some inner

/-! ### Requests -/

/-- What is being typed. -/
inductive Request where
  /-- A name that does not belong to a receiver. -/
  | name (typed : List Char)
  /-- A member of a receiver. -/
  | member (receiver typed : List Char)
deriving Repr, DecidableEq

namespace Request

/-- Whether `c` belongs to the name that is being typed. -/
def isNamePart (c : Char) : Bool := isAlphanumeric c || c == '_' || c == '$'

/-- What is being typed at the end of a text. -/
def ofText (cs : List Char) : Request :=
  let (typed, head) := cs.reverse.span isNamePart
  match head with
  | '.' :: '?' :: receiver => .member (trim receiver.reverse) typed.reverse
  | '.' :: receiver => .member (trim receiver.reverse) typed.reverse
  | _ => .name typed.reverse

end Request

/-! ### Receivers -/

/-- What a receiver seems to be. -/
inductive Receiver where
  | value (kind : Kind)
  | space (ns : Namespace)
  /-- A reference to a node. -/
  | node
  | input
  /-- The current item. -/
  | item
  | environment
  | unknown
deriving Repr, DecidableEq

namespace Receiver

/-- Whether `c` separates a receiver from what is in front of it. -/
def isSeparator (c : Char) : Bool :=
  [' ', ',', '+', '-', '*', '/', '%', '!', '?', ':', '&', '|', '=', '<', '>'].contains c

/-- The end of a text, which is given in reverse, back to an open bracket or a separator outside of
brackets and quotes; it is put in front of `acc`. -/
def tailFrom (quote : Option Char) (depth : Nat) (acc : List Char) : List Char → List Char
  | [] => acc
  | c :: cs =>
    match quote with
    | some q => tailFrom (if c = q then none else quote) depth (c :: acc) cs
    | none =>
      if c = '\'' ∨ c = '"' ∨ c = '\x60' then tailFrom (some c) depth (c :: acc) cs
      else if c = ')' ∨ c = ']' ∨ c = '\x7d' then tailFrom none (depth + 1) (c :: acc) cs
      else if c = '(' ∨ c = '[' ∨ c = '\x7b' then
        if depth = 0 then acc else tailFrom none (depth - 1) (c :: acc) cs
      else if depth = 0 ∧ isSeparator c then acc
      else tailFrom none depth (c :: acc) cs

/-- The receiver at the end of a text. -/
def tail (cs : List Char) : List Char := trim (tailFrom none 0 [] cs.reverse)

/-- Whether a text stands between two marks, which have to be two characters. -/
def isBetween (opening closing : Char) (cs : List Char) : Bool :=
  cs.head? == some opening && cs.getLast? == some closing && 2 ≤ cs.length

/-- Whether a text starts and ends so. -/
def startsAndEnds (start : String) (closing : Char) (cs : List Char) : Bool :=
  start.toList.isPrefixOf cs && cs.getLast? == some closing

/-- What the receiver at the end of a text seems to be. -/
def ofText (cs : List Char) : Receiver :=
  let cs := tail cs
  let text := String.ofList cs
  if text = "$json" then .item
  else if text = "$env" then .environment
  else if text = "$input" then .input
  else if text = "$now" ∨ text = "$today" then .value .date
  else if text = "true" ∨ text = "false" then .value .boolean
  else if ['\'', '"', '\x60'].any fun q => isBetween q q cs then .value .string
  else if isBetween '[' ']' cs then .value .array
  else if isBetween '\x7b' '\x7d' cs then .value .object
  else if startsAndEnds "$(" ')' cs then .node
  else if startsAndEnds "DateTime." ')' cs then .value .date
  else if !cs.isEmpty && (Number.readDecimalOrWord? cs).isSome then .value .number
  else match Namespace.ofName? text with
    | some ns => .space ns
    | none => .unknown

end Receiver

end TemplateExpr

/-!
## Suggestions

A suggestion has a label, a kind, a short description and the text that is inserted for it.
`Suggestion.choose` selects and orders suggestions for what has been typed.
-/

namespace TemplateExpr

open TemplateExpr.Text

/-- What a suggestion stands for, in the order in which suggestions are listed. -/
inductive SuggestionKind where
  /-- A name of a value. -/
  | binding
  | function
  | method
  | keyword
deriving Repr, DecidableEq

namespace SuggestionKind

/-- The name of a kind. -/
def name : SuggestionKind → String
  | binding => "variable"
  | function => "function"
  | method => "method"
  | keyword => "keyword"

/-- The place of a kind in the order. -/
def rank : SuggestionKind → Nat
  | binding => 0
  | function => 1
  | method => 2
  | keyword => 3

/-- Whether what is suggested is called. -/
def isCallable : SuggestionKind → Bool
  | function | method => true
  | binding | keyword => false

end SuggestionKind

/-- A suggestion. -/
structure Suggestion where
  label : String
  kind : SuggestionKind
  detail : Option String
deriving Repr, DecidableEq

namespace Suggestion

/-- The text that is inserted: what is called gets parentheses, unless it has them. -/
def insertText (s : Suggestion) : String :=
  if s.kind.isCallable && s.label.toList.getLast? != some ')' then s.label ++ "()" else s.label

/-- A suggestion as JSON. -/
def toJson (s : Suggestion) : Json :=
  .object
    [("label", .string s.label), ("kind", .string s.kind.name), ("detail", .ofString? s.detail),
     ("insertText", .string s.insertText)]

/-! ### Choice -/

/-- Whether the label starts with what has been typed, in this case of letters. -/
def continues (typed : List Char) (s : Suggestion) : Bool := typed.isPrefixOf s.label.toList

/-- Whether the label starts with what has been typed, in any case of letters. -/
def fits (typed : List Char) (s : Suggestion) : Bool :=
  (lower typed).isPrefixOf (lower s.label.toList)

/-- Whether `a` is not listed behind `b`: labels that go on exactly as typed come first, then the
kinds follow each other, then the labels. -/
def notBehind (typed : List Char) (a b : Suggestion) : Bool :=
  if a.continues typed != b.continues typed then a.continues typed
  else if a.kind.rank != b.kind.rank then a.kind.rank < b.kind.rank
  else a.label ≤ b.label

/-- Whether two suggestions are of the same thing. -/
def same (a b : Suggestion) : Bool := a.label == b.label && a.kind == b.kind

/-- The suggestions without those that are the same as the one in front of them. -/
def withoutRepeats : List Suggestion → List Suggestion
  | [] => []
  | a :: more =>
    match withoutRepeats more with
    | [] => [a]
    | b :: others => if a.same b then a :: others else a :: b :: others

/-- The suggestions that fit what has been typed, in order. -/
def choose (typed : List Char) (suggestions : List Suggestion) : List Suggestion :=
  withoutRepeats ((suggestions.filter (fits typed)).mergeSort (notBehind typed))

end Suggestion

end TemplateExpr

/-! ## What can be typed -/

namespace TemplateExpr

namespace Suggestion

/-! ### Names -/

/-- The words of the language that are suggested. -/
def keywords : List String := ["true", "false", "null", "undefined", "typeof"]

/-- What is to be known about a name. -/
def nameDetail? (name : String) : Option String :=
  [("$json", "current item data"),
   ("$node", "node outputs by name (legacy)"),
   ("$env", "environment variables (read-only)"),
   ("$now", "current date and time"),
   ("$today", "start of the current day"),
   ("$runIndex", "index of the current run"),
   ("$itemIndex", "index of the current item"),
   ("$input", "items flowing into the node"),
   ("$", "reference another node's output"),
   ("Math", "namespace"),
   ("JSON", "namespace"),
   ("Object", "namespace"),
   ("Array", "namespace"),
   ("Number", "namespace"),
   ("DateTime", "namespace"),
   ("String", "conversion"),
   ("Boolean", "conversion"),
   ("parseInt", "number helper"),
   ("parseFloat", "number helper"),
   ("isNaN", "number helper"),
   ("isFinite", "number helper")].lookup name

/-- Whether what a name stands for is called. -/
def isCalled (name : String) : Bool :=
  name == "$" || name == "String" || name == "Boolean" ||
    name.toList.head?.any Char.isLower

/-- The suggestion of a name. -/
def ofName (name : String) : Suggestion :=
  ⟨if name = "$" then "$(\"\")" else name,
   if isCalled name then .function else .binding,
   nameDetail? name⟩

/-- The names that may be used and the words of the language. -/
def names (globals : List String) : List Suggestion :=
  globals.map ofName ++ keywords.map fun word => ⟨word, .keyword, none⟩

/-! ### Members -/

/-- The suggestion of a method. -/
def ofMethod (m : MethodInfo) : Suggestion := ⟨m.name, .method, some m.signature⟩

/-- Suggestions of one kind and with one detail. -/
def listed (kind : SuggestionKind) (detail : String) (labels : List String) : List Suggestion :=
  labels.map fun label => ⟨label, kind, some detail⟩

/-- The properties of the values of a kind. -/
def propertiesOf : Kind → List String
  | .string | .array => ["length"]
  | .date =>
    ["year", "month", "day", "hour", "minute", "second", "millisecond", "weekday", "weekNumber"]
  | _ => []

/-- The methods of all kinds. -/
def anyMethod : List Suggestion := allMethods.map ofMethod

/-- The keys of the current item and the methods of objects. -/
def ofItem (fields : List (String × Value)) : List Suggestion :=
  fields.map (fun (key, value) => ⟨key, .binding, some value.kindName⟩) ++
    (methodsOf .object).map ofMethod

/-- The members of a receiver. What the current item and the environment have is only known in a
context. -/
def members (context? : Option Context) : Receiver → List Suggestion
  | .value kind =>
    (methodsOf kind).map ofMethod ++ listed .binding kind.name (propertiesOf kind)
  | .space ns =>
    listed .method ns.name ns.functions ++ listed .binding ns.name ns.constants
  | .node =>
    listed .method "node reference" Host.nodeMethods ++
      listed .binding "node reference" Host.nodeProperties
  | .input =>
    listed .method "input items" Host.inputMethods ++
      listed .binding "current input item" ["item"]
  | .item =>
    match context?.map Context.json with
    | some (.object fields) => ofItem fields
    | _ => anyMethod
  | .environment =>
    match context? with
    | some c => listed .binding "environment" (Fields.keys c.env)
    | none => anyMethod
  | .unknown => anyMethod

/-- The suggestions at byte `cursor` of a template, in order; there are none outside of
expressions. -/
def complete (globals : List String) (context? : Option Context) (template : String)
    (cursor : Nat) : List Suggestion :=
  match (textBefore? template cursor).map Request.ofText with
  | none => []
  | some (.name typed) => choose typed (names globals)
  | some (.member receiver typed) => choose typed (members context? (.ofText receiver))

end Suggestion

end TemplateExpr
