import TemplateExpr.Pattern.Basic

/-!
# Patterns as they are written

A `PatternTree` is the text of a pattern taken apart. What its parts mean depends on the flags in
force, which the tree still holds.
-/

namespace TemplateExpr

/-! ### Flags -/

/-- The flags of patterns. -/
inductive PatternFlag where
  | anyCase
  | multiLine
  | dotMatchesAll
  | swapGreed
  | unicode
  | returns
  | spaced
deriving Repr, DecidableEq

/-- A flag that is set (`true`) or cleared (`false`). -/
abbrev FlagChange := PatternFlag × Bool

/-! ### Sets -/

/-- A character that stands for itself. -/
structure WrittenChar where
  char : Char
  /-- Whether it is written as the two hexadecimal digits of a byte. -/
  asByte : Bool
deriving Repr, DecidableEq

/-- The classes that have a letter of their own. -/
inductive ShortClass where
  | digit
  | blank
  | word
deriving Repr, DecidableEq

/-- A set that is asked for by name. -/
structure NamedClass where
  name : List Char
  /-- The value, if `name` is that of a property with values. -/
  value : Option (List Char)
deriving Repr, DecidableEq

/-- How two sets are combined. -/
inductive SetOp where
  | inter
  | difference
  | symmetricDifference
deriving Repr, DecidableEq

/-- What stands within brackets. -/
inductive SetTree where
  | char (c : WrittenChar)
  | range (first last : WrittenChar)
  /-- A class of ASCII. -/
  | ascii (s : CharSet) (negated : Bool)
  | short (s : ShortClass) (negated : Bool)
  | named (s : NamedClass) (negated : Bool)
  | brackets (negated : Bool) (s : SetTree)
  | union (items : List SetTree)
  | combine (op : SetOp) (s t : SetTree)
deriving Repr

/-! ### Patterns -/

/-- The conditions on places. -/
inductive WrittenAnchor where
  | lineStart
  | lineEnd
  | textStart
  | textEnd
  | word (edge : WordEdge)
deriving Repr, DecidableEq

/-- What parentheses do. -/
inductive GroupKind where
  | numbered (index : Nat)
  | flagged (changes : List FlagChange)
deriving Repr, DecidableEq

/-- The text of a pattern taken apart. -/
inductive PatternTree where
  | empty
  /-- Flags for the rest of the group. -/
  | flags (changes : List FlagChange)
  | char (c : WrittenChar)
  | dot
  | anchor (a : WrittenAnchor)
  | short (s : ShortClass) (negated : Bool)
  | named (s : NamedClass) (negated : Bool)
  | brackets (negated : Bool) (s : SetTree)
  | repetition (p : PatternTree) (least : Nat) (most : Option Nat) (greedy : Bool)
  | group (kind : GroupKind) (p : PatternTree)
  | concat (ps : List PatternTree)
  | either (ps : List PatternTree)
deriving Repr

/-! ### Depth -/

namespace SetTree

mutual

/-- How deep brackets, lists and operators are nested. -/
def depth : SetTree → Nat
  | char _ | range _ _ | ascii _ _ | short _ _ | named _ _ | union [] => 0
  | brackets _ s => s.depth + 1
  | union items => listDepth items + 1
  | combine _ s t => max s.depth t.depth + 1

/-- The largest depth of a list. -/
def listDepth : List SetTree → Nat
  | [] => 0
  | s :: items => max s.depth (listDepth items)

end

/-- The set of a list of items. -/
def ofItems : List SetTree → SetTree
  | [item] => item
  | items => union items

end SetTree

namespace PatternTree

mutual

/-- How deep brackets, groups, repetitions and lists are nested. -/
def depth : PatternTree → Nat
  | empty | flags _ | char _ | dot | anchor _ | short _ _ | named _ _ => 0
  | brackets _ s => s.depth + 1
  | repetition p _ _ _ | group _ p => p.depth + 1
  | concat ps | either ps => listDepth ps + 1

/-- The largest depth of a list. -/
def listDepth : List PatternTree → Nat
  | [] => 0
  | p :: ps => max p.depth (listDepth ps)

end

/-- The largest depth of a pattern. -/
def maxDepth : Nat := 250

/-- The sequence of a list of parts. -/
def ofParts : List PatternTree → PatternTree
  | [] => empty
  | [p] => p
  | ps => concat ps

end PatternTree

end TemplateExpr
