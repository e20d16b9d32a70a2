/-!
# Spans

A `Span` is a half-open range of byte offsets into a text, and `Spanned α` a value together with the
range it was read from.
-/

namespace TemplateExpr

/-- The bytes from `start` up to, but not including, `stop`. -/
structure Span where
  start : Nat
  stop : Nat
deriving Repr, DecidableEq, Inhabited

namespace Span

/-- The same range of a text in front of which `n` bytes have been put. -/
def shift (s : Span) (n : Nat) : Span := ⟨s.start + n, s.stop + n⟩

/-- From the start of `s` to the end of `t`. -/
def through (s t : Span) : Span := ⟨s.start, t.stop⟩

/-- `inner` lies within `outer`. -/
def Within (inner outer : Span) : Prop := outer.start ≤ inner.start ∧ inner.stop ≤ outer.stop

end Span

/-- A value and where it stands. -/
structure Spanned (α : Type) where
  value : α
  span : Span
deriving Repr, DecidableEq

end TemplateExpr
