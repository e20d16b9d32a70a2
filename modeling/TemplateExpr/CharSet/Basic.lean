import TemplateExpr.Text.CodeTable

/-!
# Sets of characters

A `CharSet` holds the code points of its members as spans in ascending order, with a gap between any
two of them, so that each set has one form. The codes of surrogates, which are no characters, may
occur in a span; no character meets them.
-/

namespace TemplateExpr

open TemplateExpr.Text

/-! ### Spans -/

/-- The code points from `first` to `last`. -/
structure CodeSpan where
  first : Nat
  last : Nat
deriving Repr, DecidableEq

namespace CodeSpan

/-- The largest code point. -/
def maxCode : Nat := 0x10FFFF

/-- Whether a code point is in a span. -/
def contains (s : CodeSpan) (n : Nat) : Bool := s.first ≤ n && n ≤ s.last

/-- Spans in the order of their starts, joined where they touch or overlap. -/
def glue : List CodeSpan → List CodeSpan
  | a :: b :: rest =>
    if b.first ≤ a.last + 1 then glue (⟨a.first, max a.last b.last⟩ :: rest)
    else a :: glue (b :: rest)
  | spans => spans
termination_by spans => spans.length

/-- The spans between those of a list in order, from the code point `start` on. -/
def gaps (start : Nat) : List CodeSpan → List CodeSpan
  | [] => if start ≤ maxCode then [⟨start, maxCode⟩] else []
  | s :: rest =>
    if start < s.first then ⟨start, s.first - 1⟩ :: gaps (s.last + 1) rest
    else gaps (s.last + 1) rest

/-- The spans of a range of a table, which may take every second code point only. -/
def ofRange (r : CodeRange) : List CodeSpan :=
  if r.step ≤ 1 then [⟨r.first, r.last⟩]
  else (List.range ((r.last - r.first) / r.step + 1)).map fun i =>
    ⟨r.first + i * r.step, r.first + i * r.step⟩

end CodeSpan

/-! ### Sets -/

/-- A set of characters. -/
structure CharSet where
  spans : List CodeSpan
deriving Repr, DecidableEq

namespace CharSet

/-- The set of the members of spans in any order. -/
def ofSpans (spans : List CodeSpan) : CharSet :=
  ⟨CodeSpan.glue (spans.mergeSort fun a b => a.first ≤ b.first)⟩

/-- The set that the text of a table lists. -/
def ofText (text : String) : CharSet :=
  ofSpans ((CodeTable.ofText text).toList.flatMap CodeSpan.ofRange)

/-- The set of the code points of a list. -/
def ofCodes (ns : List Nat) : CharSet := ofSpans (ns.map fun n => ⟨n, n⟩)

/-- The set without members. -/
def none : CharSet := ⟨[]⟩

/-- The set of all characters. -/
def all : CharSet := ⟨[⟨0, CodeSpan.maxCode⟩]⟩

/-- The set of the code points from `first` to `last`. -/
def range (first last : Nat) : CharSet := ⟨if first ≤ last then [⟨first, last⟩] else []⟩

/-- The set of one character. -/
def char (c : Char) : CharSet := range c.toNat c.toNat

/-- The set of the characters of a list. -/
def ofList (cs : List Char) : CharSet := ofCodes (cs.map Char.toNat)

/-- The characters of ASCII. -/
def ascii : CharSet := range 0 0x7F

/-- The codes that stand for no character. -/
def surrogates : CharSet := range 0xD800 0xDFFF

/-! ### Operations -/

/-- The characters that are in one of several sets. -/
def unions (sets : List CharSet) : CharSet := ofSpans (sets.flatMap spans)

/-- The characters that are in `s` or in `t`. -/
def union (s t : CharSet) : CharSet := unions [s, t]

/-- The characters that are not in `s`. -/
def complement (s : CharSet) : CharSet := ⟨CodeSpan.gaps 0 s.spans⟩

/-- The characters that are in `s` and in `t`. -/
def inter (s t : CharSet) : CharSet := (s.complement.union t.complement).complement

/-- The characters that are in `s` and not in `t`. -/
def difference (s t : CharSet) : CharSet := s.inter t.complement

/-- The characters that are in just one of `s` and `t`. -/
def symmetricDifference (s t : CharSet) : CharSet := (s.union t).difference (s.inter t)

/-! ### Questions -/

/-- Whether a character is in a set. -/
def contains (s : CharSet) (c : Char) : Bool := s.spans.any (·.contains c.toNat)

/-- A table of the members, which is faster to search than the list of spans. -/
def toTable (s : CharSet) : CodeTable :=
  (s.spans.map fun span => ⟨span.first, span.last, 1, 0⟩).toArray

/-- Whether all members are characters of ASCII. -/
def isAscii (s : CharSet) : Bool := s.spans.getLast?.all (·.last < 0x80)

/-- The member of a set that has only one. -/
def only? (s : CharSet) : Option Char :=
  match s.spans with
  | [span] => if span.first = span.last then some (Char.ofNat span.first) else Option.none
  | _ => Option.none

theorem contains_none (c : Char) : none.contains c = false := rfl

theorem contains_range (first last : Nat) (c : Char) :
    (range first last).contains c = (decide (first ≤ c.toNat) && decide (c.toNat ≤ last)) := by
  unfold range contains
  split
  · simp [CodeSpan.contains]
  · simp; omega

/-- A set of one character holds that character only. -/
theorem contains_char (c d : Char) : (char c).contains d = decide (d = c) := by
  have hinj : d.toNat = c.toNat ↔ d = c := ⟨Char.toNat_inj.1, fun h => h ▸ rfl⟩
  rw [char, contains_range, Bool.eq_iff_iff]
  simp only [Bool.and_eq_true, decide_eq_true_eq, ← hinj]
  omega

end CharSet

/-! ### Sets under their names -/

/-- A set that may be asked for by one of its names. -/
structure NamedSet where
  /-- The names, in lower case and without spaces, hyphens and low lines. -/
  names : List String
  members : Unit → CharSet

namespace NamedSet

/-- The set that the text of a table lists, under its names. -/
def table (names : List String) (text : String) : NamedSet := ⟨names, fun _ => .ofText text⟩

/-- The first set of a list that has a name. -/
def row? (rows : List NamedSet) (name : String) : Option NamedSet :=
  rows.find? (·.names.contains name)

/-- The members of the set that has a name. -/
def find? (rows : List NamedSet) (name : String) : Option CharSet :=
  (row? rows name).map (·.members ())

end NamedSet

end TemplateExpr
