import TemplateExpr.Json.Basic
import TemplateExpr.Span
import TemplateExpr.Text.Utf8

/-!
# Lines and columns

People count lines and characters where spans count bytes. `Position.ofOffset` tells the line and
the column of a byte of a text, and a `Location` is a range of bytes together with the position of
its start.
-/

namespace TemplateExpr

open TemplateExpr.Text

/-- A place in a text. The first line and the first character of a line have the number one. -/
structure Position where
  line : Nat
  column : Nat
deriving Repr, DecidableEq

namespace Position

/-- The first character of a text. -/
def first : Position := ⟨1, 1⟩

/-- The place behind the character `c` at place `p`. -/
def next (p : Position) (c : Char) : Position :=
  if c = '\n' then ⟨p.line + 1, 1⟩ else ⟨p.line, p.column + 1⟩

/-- The place of byte `offset` of a text; the end of the text if it is shorter. -/
def ofOffset (source : String) (offset : Nat) : Position :=
  (takeBytes offset source.toList).foldl next first

/-- A place as it is shown. -/
def display (p : Position) : String := Digit.decimal p.line ++ ":" ++ Digit.decimal p.column

end Position

/-- A range of bytes and the position of its start. -/
structure Location where
  position : Position
  span : Span
deriving Repr, DecidableEq

namespace Location

/-- The location of a range of `source`. A range that ends in front of its start is empty. -/
def ofSpan (source : String) (s : Span) : Location :=
  ⟨.ofOffset source s.start, ⟨s.start, max s.start s.stop⟩⟩

/-- The number of bytes. -/
def size (l : Location) : Nat := l.span.stop - l.span.start

/-- Whether there are no bytes in the range. -/
def isEmpty (l : Location) : Bool := l.span.start == l.span.stop

/-- A location as it is shown. -/
def display (l : Location) : String :=
  l.position.display ++ " [" ++ Digit.decimal l.span.start ++ ".." ++
    Digit.decimal l.span.stop ++ ")"

/-- A location as JSON. -/
def toJson (l : Location) : Json :=
  .object
    [("line", .ofNat l.position.line), ("column", .ofNat l.position.column),
     ("start", .ofNat l.span.start), ("end", .ofNat l.span.stop)]

end Location

end TemplateExpr
