import TemplateExpr.CharSet.Folding
import TemplateExpr.CharSet.Name
import TemplateExpr.Pattern.Parser

/-!
# The meaning of written patterns

What a part of a `PatternTree` means depends on the flags in force. Flags set within a group count
up to its end, in later alternatives too. Without the flag `unicode`, classes, sets and words are
those of ASCII, and what would match part of another character is refused.
-/

namespace TemplateExpr

/-! ### Flags -/

/-- The flags in force. -/
structure PatternFlags where
  anyCase : Bool
  multiLine : Bool
  dotMatchesAll : Bool
  swapGreed : Bool
  unicode : Bool
  returns : Bool
deriving Repr

namespace PatternFlags

/-- The flags at the start of a pattern. -/
def start : PatternFlags := ⟨false, false, false, false, true, false⟩

/-- Sets or clears a flag. -/
def put (f : PatternFlags) (change : FlagChange) : PatternFlags :=
  match change.1 with
  | .anyCase => { f with anyCase := change.2 }
  | .multiLine => { f with multiLine := change.2 }
  | .dotMatchesAll => { f with dotMatchesAll := change.2 }
  | .swapGreed => { f with swapGreed := change.2 }
  | .unicode => { f with unicode := change.2 }
  | .returns => { f with returns := change.2 }
  | .spaced => f

/-- Sets and clears flags. -/
def putAll (f : PatternFlags) (changes : List FlagChange) : PatternFlags := changes.foldl put f

/-- The set with the characters that differ by their case from its members, if case does not count;
without `unicode` it only counts within ASCII. -/
def fold (f : PatternFlags) (s : CharSet) : CharSet :=
  if !f.anyCase then s
  else if f.unicode then s.anyCase
  else s.union ((s.inter .ascii).anyCase.inter .ascii)

/-- A set that has been completed. It is folded before it is negated. -/
def seal? (f : PatternFlags) (negated : Bool) (s : CharSet) : Option CharSet :=
  let s := if negated then (f.fold s).complement else f.fold s
  if f.unicode || s.isAscii then some s else none

/-- Whether a written character may be matched: without `unicode` it must not be a byte that only
belongs to other characters. -/
def allows (f : PatternFlags) (c : WrittenChar) : Bool :=
  f.unicode || !c.asByte || c.char.toNat < 0x80

end PatternFlags

/-! ### Sets -/

namespace SetTree

/-- A class that has a letter of its own. -/
def shortClass? (f : PatternFlags) (s : ShortClass) (negated : Bool) : Option CharSet :=
  let members : CharSet :=
    match f.unicode, s with
    | true, .digit => .digits
    | true, .blank => .whiteSpace
    | true, .word => .wordCharacters
    | false, .digit => .ofText "30~39"
    | false, .blank => .ofText "9~D 20"
    | false, .word => .ofText "30~39 41~5A 5F 61~7A"
  let members := if negated then members.complement else members
  if f.unicode || members.isAscii then some members else none

/-- A class that is asked for by name. -/
def namedClass? (f : PatternFlags) (s : NamedClass) (negated : Bool) : Option CharSet :=
  if !f.unicode then none
  else
    let members := match s.value with
      | some value => CharSet.valued? s.name value
      | none => CharSet.named? s.name
    members.bind (f.seal? negated)

/-- The code of a character within brackets. -/
def code? (f : PatternFlags) (c : WrittenChar) : Option Nat :=
  if f.unicode || c.char.toNat < 0x80 then some c.char.toNat else none

/-- The combination of two sets. -/
def combined (op : SetOp) (s t : CharSet) : CharSet :=
  match op with
  | .inter => s.inter t
  | .difference => s.difference t
  | .symmetricDifference => s.symmetricDifference t

mutual

/-- The members of a set. -/
def meaning? (f : PatternFlags) : SetTree → Option CharSet
  | char c => (code? f c).map fun n => .range n n
  | range a b => (code? f a).bind fun first => (code? f b).map fun last => .range first last
  | ascii s negated => f.seal? negated s
  | short s negated => shortClass? f s negated
  | named s negated => namedClass? f s negated
  | brackets negated s => (s.meaning? f).bind (f.seal? negated)
  | union items => (meanings? f items).map .unions
  | combine op s t =>
    (s.meaning? f).bind fun left => (t.meaning? f).map fun right =>
      combined op (f.fold left) (f.fold right)

/-- The members of each set of a list. -/
def meanings? (f : PatternFlags) : List SetTree → Option (List CharSet)
  | [] => some []
  | s :: items => (s.meaning? f).bind fun set => (meanings? f items).map (set :: ·)

end

end SetTree

/-! ### Patterns -/

namespace PatternTree

/-- The pattern of a character. -/
def charPattern? (f : PatternFlags) (c : WrittenChar) : Option Pattern :=
  if !f.allows c then none
  else some (.ofSet (f.fold (.char c.char)))

/-- The pattern of any character, up to those that end a line. -/
def dotPattern? (f : PatternFlags) : Option Pattern :=
  if !f.unicode then none
  else if f.dotMatchesAll then some (.ofSet .all)
  else if f.returns then some (.ofSet (CharSet.ofList ['\n', '\r']).complement)
  else some (.ofSet (CharSet.char '\n').complement)

/-- The condition of an anchor. -/
def anchorOf (f : PatternFlags) : WrittenAnchor → Anchor
  | .lineStart => if f.multiLine then .lineStart f.returns else .textStart
  | .lineEnd => if f.multiLine then .lineEnd f.returns else .textEnd
  | .textStart => .textStart
  | .textEnd => .textEnd
  | .word edge => .word edge !f.unicode

mutual

/-- The pattern of a tree, and the flags in force behind it. -/
def meaning? (f : PatternFlags) : PatternTree → Option (Pattern × PatternFlags)
  | empty => some (.empty, f)
  | flags changes => some (.empty, f.putAll changes)
  | char c => (charPattern? f c).map (·, f)
  | dot => (dotPattern? f).map (·, f)
  | anchor a => some (.anchor (anchorOf f a), f)
  | short s negated => (SetTree.shortClass? f s negated).map fun s => (.ofSet s, f)
  | named s negated => (SetTree.namedClass? f s negated).map fun s => (.ofSet s, f)
  | brackets negated s => ((s.meaning? f).bind (f.seal? negated)).map fun s => (.ofSet s, f)
  | repetition p least most greedy =>
    (p.meaning? f).map fun (p, f) => (p.repeated least most (greedy != f.swapGreed), f)
  | group (.numbered index) p => (p.meaning? f).map fun (p, _) => (.group index p, f)
  | group (.flagged changes) p => (p.meaning? (f.putAll changes)).map fun (p, _) => (p, f)
  | concat ps => (meanings? f ps).map fun (ps, f) => (.concat ps, f)
  | either ps => (meanings? f ps).map fun (ps, f) => (.either ps, f)

/-- The patterns of a list of trees in order, and the flags in force behind them. -/
def meanings? (f : PatternFlags) : List PatternTree → Option (List Pattern × PatternFlags)
  | [] => some ([], f)
  | p :: ps =>
    (p.meaning? f).bind fun (p, f) => (meanings? f ps).map fun (ps, f) => (p :: ps, f)

end

end PatternTree

/-- The pattern that a text denotes. -/
def Pattern.parse? (text : String) : Option Pattern :=
  (PatternTree.ofText? text).bind fun t => (t.meaning? .start).map (·.1)

end TemplateExpr
