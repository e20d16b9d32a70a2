import Std.Data.HashMap
import TemplateExpr.Pattern.Basic
import TemplateExpr.Text.Utf8

/-!
# The footprint of a pattern

The footprint of a pattern is the memory that its automata over bytes take: one that reads texts
forwards and knows the groups of the pattern, and one that reads them backwards. A state takes 32
bytes, to which each of its links adds more if it may have several. Patterns whose footprint exceeds
`Footprint.limit` are refused, so no text can demand too much by its repetitions.
-/

namespace TemplateExpr

open TemplateExpr.Text

/-! ### Characters as bytes -/

/-- A range of bytes. -/
structure ByteSpan where
  first : Nat
  last : Nat
deriving Repr, DecidableEq

namespace ByteSpan

/-- Where a span of characters has to be cut: in front of a longer code, and so that the bytes
behind the first one that differs take all values. -/
def cuts (s : CodeSpan) : List Nat :=
  let lengths := [0x80, 0x800, 0x10000]
  let blocks := [0x40, 0x1000, 0x40000].flatMap fun b =>
    if s.first / b = s.last / b then []
    else if s.first % b ≠ 0 then [(s.first / b + 1) * b]
    else if s.last % b ≠ b - 1 then [s.last / b * b]
    else []
  lengths ++ if s.last < 0x80 then [] else blocks

/-- The first place where a span of characters has to be cut. -/
def cut? (s : CodeSpan) : Option Nat := (cuts s).find? fun n => s.first < n && n ≤ s.last

/-- A cut leaves something on both of its sides. -/
theorem lt_and_le_of_cut? {s : CodeSpan} {n : Nat} (h : cut? s = some n) :
    s.first < n ∧ n ≤ s.last := by
  have := List.find?_some h
  simpa using this

/-- The sequences of bytes of a span of characters, each as a sequence of spans of bytes. -/
def sequences (s : CodeSpan) : List (List ByteSpan) :=
  match _h : cut? s with
  | some n => sequences ⟨s.first, n - 1⟩ ++ sequences ⟨n, s.last⟩
  | none =>
    [List.zipWith ByteSpan.mk (encodeChar (Char.ofNat s.first)) (encodeChar (Char.ofNat s.last))]
termination_by s.last + 1 - s.first
decreasing_by
  all_goals
    have := lt_and_le_of_cut? _h
    omega

/-- The sequences of bytes of a set of characters. -/
def sequencesOfSet (s : CharSet) : List (List ByteSpan) :=
  s.spans.flatMap fun span =>
    let low : CodeSpan := ⟨span.first, min span.last 0xD7FF⟩
    let high : CodeSpan := ⟨max span.first 0xE000, span.last⟩
    ([low, high].filter fun part => part.first ≤ part.last).flatMap sequences

end ByteSpan

/-! ### Counting -/

/-- The size of an automaton. -/
structure Footprint where
  states : Nat
  /-- The bytes of links beyond those that every state has room for. -/
  links : Nat
deriving Repr, DecidableEq

namespace Footprint

/-- The most bytes of an automaton. -/
def limit : Nat := 10 * 1024 * 1024

/-- The size in bytes. -/
def bytes (f : Footprint) : Nat := 32 * f.states + f.links

/-- Adds states, and bytes for their links, unless there are too many. -/
def add? (f : Footprint) (states links : Nat) : Option Footprint :=
  let f : Footprint := ⟨f.states + states, f.links + links⟩
  if f.bytes ≤ limit then some f else none

/-- The bytes of a link that a byte leads through. -/
def byteLink : Nat := 8

/-- The bytes of a link that no byte leads through. -/
def freeLink : Nat := 4

/-! ### Sets

States of a set that have the same links are shared as far as they are remembered. A memory has a
number of slots, each of which holds the last state that was put there.
-/

/-- The slot for a list of numbers among `slots`. -/
def slotOf (slots : Nat) (ns : List Nat) : Nat :=
  let mark : UInt64 :=
    ns.foldl (fun h n => (h ^^^ n.toUInt64) * 1099511628211) 14695981039346656037
  mark.toNat % slots

/-- A link from a state: a span of bytes, and the number of the state that it leads to. -/
abbrev Link := ByteSpan × Nat

/-- States that are remembered by their links, and what has been counted. -/
structure Memory where
  slots : Std.HashMap Nat (List Link × Nat)
  footprint : Footprint

/-- The number of the state with some links, which is added unless it is remembered. -/
def Memory.state? (m : Memory) (size : Nat) (links : List Link) (slot : Nat) :
    Option (Nat × Memory) :=
  match m.slots[slot]? with
  | some (known, n) =>
    if known = links then some (n, m) else fresh? m
  | none => fresh? m
where
  fresh? (m : Memory) : Option (Nat × Memory) :=
    (m.footprint.add? 1 size).map fun f =>
      (m.footprint.states, ⟨m.slots.insert slot (links, m.footprint.states), f⟩)

/-- The number of slots of the automaton that reads forwards. -/
def forwardSlots : Nat := 10000

/-- The number of slots of the automaton that reads backwards. -/
def backwardSlots : Nat := 1000

/-- Sequences with the same first span side by side, without that span. -/
def groupByFirst : List (List ByteSpan) → List (ByteSpan × List (List ByteSpan))
  | [] => []
  | [] :: rest => groupByFirst rest
  | (span :: tail) :: rest =>
    match groupByFirst rest with
    | (other, tails) :: groups =>
      if other = span then (span, tail :: tails) :: groups
      else (span, [tail]) :: (other, tails) :: groups
    | [] => [(span, [tail])]

/-- The number of the state that reads sequences of at most `length` spans and then goes to
`target`. The states behind it are counted first, in the order of the sequences. -/
def branch? (target : Nat) : (length : Nat) → List (List ByteSpan) → Memory → Option (Nat × Memory)
  | 0, _, m => some (target, m)
  | length + 1, seqs, m => do
    if seqs.all List.isEmpty then some (target, m)
    else
      let (links, m) ← (groupByFirst seqs).foldlM (fun (links, m) (span, tails) => do
        let (next, m) ← branch? target length tails m
        pure ((span, next) :: links, m)) (([] : List Link), m)
      let links := links.reverse
      let numbers := links.flatMap fun (span, next) => [span.first, span.last, next]
      m.state? (byteLink * links.length) links (slotOf forwardSlots numbers)

/-- Counts the states that read a sequence backwards from the state `next` on. -/
def trail? (next : Nat) : List ByteSpan → Memory → Option Memory
  | [], m => some { m with footprint.links := m.footprint.links + freeLink }
  | span :: rest, m => do
    let slot := slotOf backwardSlots [next, span.first, span.last]
    let (n, m) ← m.state? 0 [(span, next)] slot
    trail? n rest m

/-- Counts the states of a set. -/
def addSet? (backward : Bool) (s : CharSet) (f : Footprint) : Option Footprint :=
  if s.isAscii then f.add? 2 (byteLink * s.spans.length)
  else
    let seqs := ByteSpan.sequencesOfSet s
    if backward then do
      let f ← f.add? 2 0
      let m ← seqs.foldlM (fun m seq => trail? (f.states - 1) seq m) ⟨∅, f⟩
      m.footprint.add? 0 0
    else do
      let target := f.states
      let f ← f.add? 1 0
      let (_, m) ← branch? target 4 seqs ⟨∅, f⟩
      pure m.footprint

/-! ### Texts -/

/-- The texts of alternatives, if all of them are texts. -/
def texts? : Pattern → Option (List (List Char))
  | .text cs => some [cs]
  | .alt p q => (texts? p).bind fun s => (texts? q).map (s ++ ·)
  | _ => none

/-- The first bytes of the texts of a list, each once, and what follows them in each text. -/
def groupByByte (texts : List (List Nat)) : List (List (List Nat)) :=
  (texts.filterMap List.head?).eraseDups.map fun b =>
    texts.filterMap fun
      | c :: rest => if c = b then some rest else none
      | [] => none

/-- The pieces of a list of texts between those that are empty. Empty texts in front of all others
count once. -/
def pieces (texts : List (List Nat)) : List (List (List Nat)) :=
  let behind := texts.dropWhile List.isEmpty
  let split := behind.splitOn []
  if behind.length < texts.length then [] :: split else split

/-- Counts the states that tell texts of at most `length` bytes apart. -/
def addTexts? : (length : Nat) → List (List Nat) → Footprint → Option Footprint
  | 0, _, f => some f
  | length + 1, texts, f => do
    if texts.all List.isEmpty then some f
    else
      let chunks := (pieces texts).map groupByByte
      let addAll := fun f groups => groups.foldlM (fun f rest => addTexts? length rest f) f
      let f ← chunks.foldlM addAll f
      let full := chunks.filter (!·.isEmpty)
      let byteLinks := full.foldl (fun n groups =>
        if groups.length = 1 then n else n + byteLink * groups.length) 0
      f.add? (full.length + 1) (byteLinks + freeLink * (full.length + chunks.length - 1))

/-! ### Patterns -/

/-- Counts the states of something a number of times. -/
def copies? (once : Footprint → Option Footprint) : Nat → Footprint → Option Footprint
  | 0, f => some f
  | n + 1, f => (once f).bind (copies? once n)

/-- Counts what joins the alternative with a number to those in front of it. -/
def join? (number : Nat) (f : Footprint) : Option Footprint :=
  match number with
  | 0 => some f
  | 1 => f.add? 2 (2 * freeLink)
  | _ => f.add? 0 freeLink

/-- Counts the states of a pattern, which is the alternative with a number if there are several. A
choice between texts only is counted by `addTexts?`. -/
def addPattern? (backward : Bool) : (number : Nat) → Pattern → Footprint → Option Footprint
  | number, .empty, f => (f.add? 1 0).bind (join? number)
  | number, .text cs, f => (f.add? (byteLength cs) 0).bind (join? number)
  | number, .set s, f => (addSet? backward s f).bind (join? number)
  | number, .anchor _, f => (f.add? 1 0).bind (join? number)
  | number, .group _ p, f =>
    (if backward then addPattern? backward 0 p f
     else ((f.add? 1 0).bind (addPattern? backward 0 p)).bind (·.add? 1 0)).bind (join? number)
  | number, .seq p q, f =>
    (if backward then (addPattern? backward 0 q f).bind (addPattern? backward 0 p)
     else (addPattern? backward 0 p f).bind (addPattern? backward 0 q)).bind (join? number)
  | number, .alt p q, f =>
    match number, texts? (.alt p q) with
    | 0, some texts =>
      let texts := texts.map fun cs => if backward then (encode cs).reverse else encode cs
      (f.add? 1 0).bind (addTexts? ((texts.map List.length).foldl max 0) texts)
    | _, _ =>
      ((addPattern? backward 0 p f).bind (join? number)).bind
        (addPattern? backward (number + 1) q)
  | number, .repetition p least most _, f =>
    let once := addPattern? backward 0 p
    let count : Option Footprint :=
      match least, most with
      | 0, some 1 => ((f.add? 1 (2 * freeLink)).bind once).bind (·.add? 1 0)
      | least, some most =>
        if least = most then copies? once least f
        else
          let front := if least = 0 then f.add? 1 0 else copies? once least f
          (front.bind (·.add? 1 0)).bind
            (copies? (fun f => (f.add? 1 (2 * freeLink)).bind once) (most - least))
      | 0, none =>
        if p.alwaysMoves then (f.add? 1 (2 * freeLink)).bind once
        else (once f).bind (·.add? 3 (4 * freeLink))
      | least, none => (copies? once least f).bind (·.add? 1 (2 * freeLink))
    count.bind (join? number)

/-- Whether a match of a pattern has to start (or, if `backward`, to end) where the text does. -/
def isAnchored (backward : Bool) : Pattern → Bool
  | .anchor a => a == if backward then .textEnd else .textStart
  | .group _ p => isAnchored backward p
  | .repetition p least _ _ => 0 < least && isAnchored backward p
  | .seq p q =>
    let front := isAnchored backward p
    let back := isAnchored backward q
    if backward then back || (q.neverMoves && front) else front || (p.neverMoves && back)
  | .alt p q => isAnchored backward p && isAnchored backward q
  | _ => false

/-- The footprint of the automaton that reads a pattern in one direction. Unless the pattern is
anchored, states that skip any bytes stand in front of it. -/
def ofPattern? (backward : Bool) (p : Pattern) : Option Footprint := do
  let f : Footprint := ⟨0, 0⟩
  let f ← if isAnchored backward p then f.add? 1 0 else f.add? 3 (byteLink + 2 * freeLink)
  let f ← if backward then addPattern? true 0 p f
    else ((f.add? 1 0).bind (addPattern? false 0 p)).bind (·.add? 1 0)
  f.add? 1 0

end Footprint

/-- Whether the automata of a pattern are small enough. -/
def Pattern.fits (p : Pattern) : Bool :=
  (Footprint.ofPattern? false p).isSome && (Footprint.ofPattern? true p).isSome

end TemplateExpr
