import TemplateExpr.CharSet.Basic

/-!
# Patterns

A `Pattern` describes parts of a text. Among the matches that start at the same place, earlier
alternatives and longer repetitions are preferred (shorter ones if the repetition is lazy).

`ofSet`, `repeated`, `concat` and `either` build patterns in a simple form: they drop what matches
nothing but the empty text, join neighbouring texts, merge alternatives that are all single
characters or all sets, and move what all alternatives start with in front of them.
-/

namespace TemplateExpr

/-! ### Conditions on places -/

/-- How a place stands to the words around it. -/
inductive WordEdge where
  /-- Just one of the two sides is in a word. -/
  | boundary
  /-- Both sides or neither are in a word. -/
  | noBoundary
  /-- A word starts. -/
  | start
  /-- A word ends. -/
  | stop
  /-- There is no word on the left. -/
  | freeLeft
  /-- There is no word on the right. -/
  | freeRight
deriving Repr, DecidableEq

/-- Conditions on a place in a text. -/
inductive Anchor where
  | textStart
  | textEnd
  /-- Behind a line feed; if `returns`, also behind a carriage return, but not within a pair. -/
  | lineStart (returns : Bool)
  /-- In front of a line feed; if `returns`, also of a carriage return, but not within a pair. -/
  | lineEnd (returns : Bool)
  /-- The words are those of ASCII if `ascii`. -/
  | word (edge : WordEdge) (ascii : Bool)
deriving Repr, DecidableEq

/-! ### Patterns -/

/-- A pattern. -/
inductive Pattern where
  | empty
  | text (cs : List Char)
  | set (s : CharSet)
  | anchor (a : Anchor)
  /-- A part of the pattern with a number of its own. -/
  | group (index : Nat) (p : Pattern)
  /-- `p` at least `least` times and at most `most` times. -/
  | repetition (p : Pattern) (least : Nat) (most : Option Nat) (greedy : Bool)
  | seq (p q : Pattern)
  | alt (p q : Pattern)
deriving Repr, DecidableEq

namespace Pattern

/-! ### Lengths -/

/-- The fewest characters of a match. There is no answer if an alternative never matches. -/
def minLength? : Pattern → Option Nat
  | empty | anchor _ => some 0
  | text cs => some cs.length
  | set s => if s.spans.isEmpty then none else some 1
  | group _ p => p.minLength?
  | repetition p least _ _ => p.minLength?.map (· * least)
  | seq p q => p.minLength?.bind fun m => q.minLength?.map (m + ·)
  | alt p q => p.minLength?.bind fun m => q.minLength?.map (min m ·)

/-- The most characters of a match. There is no answer if they have no bound, or if an alternative
never matches. -/
def maxLength? : Pattern → Option Nat
  | empty | anchor _ => some 0
  | text cs => some cs.length
  | set s => if s.spans.isEmpty then none else some 1
  | group _ p => p.maxLength?
  | repetition p _ most _ => most.bind fun n => p.maxLength?.map (· * n)
  | seq p q => p.maxLength?.bind fun m => q.maxLength?.map (m + ·)
  | alt p q => p.maxLength?.bind fun m => q.maxLength?.map (max m ·)

/-- Whether every match has a character. -/
def alwaysMoves (p : Pattern) : Bool := p.minLength?.any (0 < ·)

/-- Whether every match is empty. -/
def neverMoves (p : Pattern) : Bool := p.maxLength? == some 0

/-- The number of nodes. -/
def size : Pattern → Nat
  | empty | text _ | set _ | anchor _ => 1
  | group _ p | repetition p _ _ _ => p.size + 1
  | seq p q | alt p q => p.size + q.size + 1

/-! ### Parts -/

/-- The patterns that a pattern is the sequence of. -/
def parts : Pattern → List Pattern
  | empty => []
  | seq p q => p.parts ++ q.parts
  | p => [p]

/-- The patterns that a pattern is the choice of. -/
def alternatives : Pattern → List Pattern
  | alt p q => p.alternatives ++ q.alternatives
  | p => [p]

/-- The sequence of patterns as it is. -/
def ofParts : List Pattern → Pattern
  | [] => empty
  | [p] => p
  | p :: ps => seq p (ofParts ps)

/-- The choice of patterns as it is; without any, it never matches. -/
def ofAlternatives : List Pattern → Pattern
  | [] => set .none
  | [p] => p
  | p :: ps => alt p (ofAlternatives ps)

/-! ### Simple forms -/

/-- One character of a set. -/
def ofSet (s : CharSet) : Pattern :=
  match s.only? with
  | some c => text [c]
  | none => set s

/-- `p` at least `least` times and at most `most` times. What never moves is matched once at most.
-/
def repeated (p : Pattern) (least : Nat) (most : Option Nat) (greedy : Bool) : Pattern :=
  let (least, most) :=
    if p.neverMoves then (min least 1, some (min (most.getD 1) 1)) else (least, most)
  if most = some 0 then empty
  else if least = 1 ∧ most = some 1 then p
  else repetition p least most greedy

/-- Parts with neighbouring texts joined. -/
def joinTexts : List Pattern → List Pattern
  | [] => []
  | p :: ps =>
    match p, joinTexts ps with
    | text cs, text ds :: rest => text (cs ++ ds) :: rest
    | p, rest => p :: rest

/-- The patterns of a list, one after the other. -/
def concat (ps : List Pattern) : Pattern := ofParts (joinTexts (ps.flatMap parts))

/-- What two lists start with alike. -/
def commonStart : List Pattern → List Pattern → List Pattern
  | p :: ps, q :: qs => if p = q then p :: commonStart ps qs else []
  | _, _ => []

/-- The parts that all alternatives start with, if all are sequences. -/
def sharedStart : List Pattern → List Pattern
  | [] => []
  | p :: ps =>
    if (p :: ps).all (1 < ·.parts.length) then ps.foldl (fun s q => commonStart s q.parts) p.parts
    else []

/-- The character of a pattern that matches only that. -/
def onlyChar? : Pattern → Option Char
  | text [c] => some c
  | _ => none

/-- The set of a pattern that matches one character of it. -/
def onlySet? : Pattern → Option CharSet
  | set s => some s
  | _ => none

/-- The choice of alternatives. The rounds in which a shared start is moved to the front are bounded
by `fuel`. -/
def eitherWithin (fuel : Nat) (ps : List Pattern) : Pattern :=
  match ps.flatMap alternatives with
  | [] => set .none
  | [p] => p
  | ps =>
    match ps.mapM onlyChar?, ps.mapM onlySet? with
    | some cs, _ => ofSet (.ofList cs)
    | none, some sets => ofSet (.unions sets)
    | none, none =>
      let start := sharedStart ps
      match fuel, start with
      | _, [] | 0, _ => ofAlternatives ps
      | fuel + 1, start =>
        concat (start ++ [eitherWithin fuel (ps.map fun p => concat (p.parts.drop start.length))])

/-- The choice of the patterns of a list. Every round removes a node from each pattern. -/
def either (ps : List Pattern) : Pattern := eitherWithin ((ps.map size).foldl max 0) ps

/-! ### Frequent patterns -/

/-- The pattern of one character. -/
def char (c : Char) : Pattern := text [c]

/-- The pattern of a text as it is. -/
def ofText (s : String) : Pattern := text s.toList

/-- `p` any number of times. -/
def many (p : Pattern) : Pattern := repetition p 0 none true

/-- `p` at least once. -/
def many1 (p : Pattern) : Pattern := repetition p 1 none true

/-- `p` or nothing. -/
def optional (p : Pattern) : Pattern := repetition p 0 (some 1) true

end Pattern

end TemplateExpr
