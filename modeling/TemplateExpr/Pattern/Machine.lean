import TemplateExpr.CharSet.Property
import TemplateExpr.Pattern.Basic

/-!
# Machines that search

A `Machine` is the form of a pattern in which texts are searched. It reads a text once and keeps a
list of threads, the preferred one first; of the threads that reach the same state at the same
place, only the first one is kept. So the match that is found is the one that the pattern prefers
among those that start first, and a repetition never runs through the same state twice at one place.
-/

namespace TemplateExpr

open TemplateExpr.Text

/-! ### Places -/

/-- A place in a text. -/
structure Place where
  /-- The character in front of the place. -/
  before : Option Char
  /-- The text behind the place. -/
  rest : List Char
  /-- The number of bytes in front of the place. -/
  offset : Nat

namespace Place

/-- The place behind the character `c`, which `rest` follows. -/
def next (p : Place) (c : Char) (rest : List Char) : Place :=
  ⟨some c, rest, p.offset + c.utf8Size⟩

/-- The characters of words, as a table. -/
def wordTable : CodeTable := CharSet.wordCharacters.toTable

/-- Whether a character belongs to a word. -/
def isWordChar (ascii : Bool) (c : Char) : Bool :=
  if c.toNat < 0x80 then c.isAlphanum || c == '_' else !ascii && wordTable.contains c

/-- Whether words meet a place as an edge says. -/
def meets (p : Place) (edge : WordEdge) (ascii : Bool) : Bool :=
  let left := p.before.any (isWordChar ascii)
  let right := p.rest.head?.any (isWordChar ascii)
  match edge with
  | .boundary => left != right
  | .noBoundary => left == right
  | .start => !left && right
  | .stop => left && !right
  | .freeLeft => !left
  | .freeRight => !right

/-- Whether a condition holds at a place. -/
def satisfies (p : Place) : Anchor → Bool
  | .textStart => p.before.isNone
  | .textEnd => p.rest.isEmpty
  | .lineStart false => p.before.all (· == '\n')
  | .lineStart true => p.before.all fun c => c == '\n' || (c == '\r' && p.rest.head? != some '\n')
  | .lineEnd false => p.rest.head?.all (· == '\n')
  | .lineEnd true =>
    p.rest.head?.all fun c => c == '\r' || (c == '\n' && p.before != some '\r')
  | .word edge ascii => p.meets edge ascii

end Place

/-! ### Machines -/

/-- A state of a machine. Other states are named by their numbers. -/
inductive MachineState where
  /-- Reads the character `c`. -/
  | char (c : Char) (next : Nat)
  /-- Reads a character of a table. -/
  | set (table : CodeTable) (next : Nat)
  | anchor (a : Anchor) (next : Nat)
  /-- Goes on in two states, of which the first one is preferred. -/
  | fork (first second : Nat)
  | accept

/-- States and the number of the first one. -/
structure Machine where
  states : Array MachineState
  start : Nat

namespace Machine

/-! ### Building machines

A machine is built from the end of its pattern. Each function takes the number of the state behind
the pattern and the states so far, and gives the number of the first state of the pattern.
-/

/-- Adds a state. -/
def add (s : MachineState) (states : Array MachineState) : Nat × Array MachineState :=
  (states.size, states.push s)

/-- Adds a fork between a repeated pattern and what follows it. -/
def addFork (greedy : Bool) (again next : Nat) (states : Array MachineState) :
    Nat × Array MachineState :=
  add (if greedy then .fork again next else .fork next again) states

/-- Adds the states of a text. -/
def addText (cs : List Char) (next : Nat) (states : Array MachineState) :
    Nat × Array MachineState :=
  cs.foldr (fun c (next, states) => add (.char c next) states) (next, states)

/-- What adds the states of a pattern. -/
abbrev Builder := Nat → Array MachineState → Nat × Array MachineState

/-- Adds a pattern a number of times, one copy behind the other. -/
def addCopies (once : Builder) : Nat → Builder
  | 0, next, states => (next, states)
  | n + 1, next, states =>
    let (next, states) := once next states
    addCopies once n next states

/-- Adds a pattern up to a number of times, each copy within the one in front; `exit` is where all
of them may end. -/
def addOptional (once : Builder) (greedy : Bool) (exit : Nat) : Nat → Builder
  | 0, next, states => (next, states)
  | n + 1, next, states =>
    let (again, states) := once next states
    let (fork, states) := addFork greedy again exit states
    addOptional once greedy exit n fork states

/-- Adds a pattern at least once. The fork behind it is the only way around. -/
def addLoop (once : Builder) (greedy : Bool) : Builder := fun next states =>
  let (fork, states) := add .accept states
  let (again, states) := once fork states
  (again, states.set! fork (if greedy then .fork again next else .fork next again))

/-- Adds a pattern any number of times. A pattern that may match the empty text has its fork behind
it, and another one in front of it. -/
def addStar (once : Builder) (alwaysMoves greedy : Bool) : Builder := fun next states =>
  if alwaysMoves then
    let (fork, states) := add .accept states
    let (again, states) := once fork states
    (fork, states.set! fork (if greedy then .fork again next else .fork next again))
  else
    let (again, states) := addLoop once greedy next states
    addFork greedy again next states

/-- Adds the states of a pattern. -/
def addPattern : Pattern → Builder
  | .empty, next, states => (next, states)
  | .text cs, next, states => addText cs next states
  | .set s, next, states => add (.set s.toTable next) states
  | .anchor a, next, states => add (.anchor a next) states
  | .group _ p, next, states => addPattern p next states
  | .seq p q, next, states =>
    let (middle, states) := addPattern q next states
    addPattern p middle states
  | .alt p q, next, states =>
    let (first, states) := addPattern p next states
    let (second, states) := addPattern q next states
    add (.fork first second) states
  | .repetition p least most greedy, next, states =>
    let (first, states) :=
      match most with
      | some most => addOptional (addPattern p) greedy next (most - least) next states
      | none =>
        if least = 0 then addStar (addPattern p) p.alwaysMoves greedy next states
        else addLoop (addPattern p) greedy next states
    addCopies (addPattern p) (if most.isNone then least - 1 else least) first states

/-- The machine of a pattern. -/
def ofPattern (p : Pattern) : Machine :=
  let (start, states) := addPattern p 0 #[.accept]
  ⟨states, start⟩

/-! ### Threads -/

/-- A state that has been reached, and where the match started that led to it. -/
structure Thread where
  state : Nat
  start : Nat

/-- The threads at a place, the preferred one last, and the states that have been reached there. -/
structure Front where
  threads : List Thread
  /-- For each state, the number of the last place where it has been reached. -/
  reached : Array Nat

/-- Follows forks and anchors from the states `todo` on, the first one first. Every state is entered
once at each place, so `fuel` only has to exceed twice the number of states. -/
def Front.enter (f : Front) (m : Machine) (p : Place) (step start : Nat) (fuel : Nat)
    (todo : List Nat) : Front :=
  match fuel, todo, f with
  | 0, _, f | _, [], f => f
  | fuel + 1, n :: todo, ⟨threads, reached⟩ =>
    if reached[n]? = some step then Front.enter ⟨threads, reached⟩ m p step start fuel todo
    else
      let reached := reached.set! n step
      match m.states[n]? with
      | some (.fork first second) =>
        Front.enter ⟨threads, reached⟩ m p step start fuel (first :: second :: todo)
      | some (.anchor a next) =>
        let todo := if p.satisfies a then next :: todo else todo
        Front.enter ⟨threads, reached⟩ m p step start fuel todo
      | _ => Front.enter ⟨⟨n, start⟩ :: threads, reached⟩ m p step start fuel todo

/-- Enters a state and all that it leads to without reading a character. -/
def Front.reach (f : Front) (m : Machine) (p : Place) (step start n : Nat) : Front :=
  f.enter m p step start (2 * m.states.size + 2) [n]

/-- Whether the machine reads a character in a state, and the state behind it. -/
def read? (m : Machine) (n : Nat) (c : Char) : Option Nat :=
  match m.states[n]? with
  | some (.char d next) => if d = c then some next else none
  | some (.set table next) => if table.contains c then some next else none
  | _ => none

/-- Whether a state ends a match. -/
def accepts (m : Machine) (n : Nat) : Bool :=
  match m.states[n]? with
  | some .accept => true
  | _ => false

/-- Lets threads, the preferred one first, read the character `c` in front of the place `p`. -/
def advance (m : Machine) (p : Place) (step : Nat) (c : Char) (threads : List Thread)
    (f : Front) : Front :=
  threads.foldl (fun f t =>
    match m.read? t.state c with
    | some n => f.reach m p step t.start n
    | none => f) f

/-- The threads that are preferred to the first one that ends a match, and that match. -/
def cut (m : Machine) (p : Place) : List Thread → List Thread × Option (Nat × Nat)
  | [] => ([], none)
  | t :: ts =>
    if m.accepts t.state then ([], some (t.start, p.offset))
    else
      let (threads, found) := m.cut p ts
      (t :: threads, found)

/-- The threads that go on at a place, the states that have been reached there, and the best match
so far. A match may start at the place unless one has been found. -/
def settle (m : Machine) (f : Front) (found : Option (Nat × Nat)) (p : Place) (step : Nat) :
    List Thread × Array Nat × Option (Nat × Nat) :=
  let ⟨threads, reached⟩ := if found.isNone then f.reach m p step p.offset m.start else f
  let (threads, better) := m.cut p threads.reverse
  (threads, reached, better <|> found)

/-- Searches from a place on, in front of which `before` stands and which the text follows. -/
def searchFrom (m : Machine) (f : Front) (found : Option (Nat × Nat)) (before : Option Char)
    (offset step : Nat) : List Char → Option (Nat × Nat)
  | [] => (m.settle f found ⟨before, [], offset⟩ step).2.2
  | c :: rest =>
    let place : Place := ⟨before, c :: rest, offset⟩
    let (threads, reached, found) := m.settle f found place step
    if threads.isEmpty && found.isSome then found
    else
      let next := place.next c rest
      m.searchFrom (m.advance next (step + 1) c threads ⟨[], reached⟩) found next.before next.offset
        (step + 1) rest

/-- The first match in a text: the bytes where it starts and ends. -/
def find? (m : Machine) (cs : List Char) : Option (Nat × Nat) :=
  m.searchFrom ⟨[], Array.replicate m.states.size 0⟩ none none 0 1 cs

end Machine

/-- The first match of a pattern in a text: the bytes where it starts and ends. -/
def Pattern.find? (p : Pattern) (cs : List Char) : Option (Nat × Nat) :=
  (Machine.ofPattern p).find? cs

end TemplateExpr
