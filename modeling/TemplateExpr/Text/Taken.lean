/-!
# Results of scanners

A scanner reads a value off the front of a list and leaves the rest. `Taken` carries the proof that
the rest is shorter, so that a loop over such scanners ends because the list does, and `Left` the
weaker fact that the rest is no longer than the list. The operations below keep these facts, so that
scanners are put together without a word about lengths.
-/

namespace TemplateExpr.Text

/-- Dropping a run of elements leaves no more than there was. -/
theorem length_dropWhile_le {β : Type} (p : β → Bool) (l : List β) :
    (l.dropWhile p).length ≤ l.length :=
  (List.dropWhile_sublist p).length_le

/-- Behind two elements there is less than there was. -/
theorem length_tail_lt {β : Type} (b : β) (l : List β) : l.tail.length < (b :: l).length := by
  rw [List.length_tail, List.length_cons]
  exact Nat.lt_succ_of_le (Nat.sub_le _ _)

/-- A value read off the front of `input`, and the strictly shorter rest. -/
structure Taken {β : Type} (α : Type) (input : List β) where
  value : α
  rest : List β
  rest_lt : rest.length < input.length

/-- A value and a rest that is no longer than `input`. -/
structure Left {β : Type} (α : Type) (input : List β) where
  value : α
  rest : List β
  rest_le : rest.length ≤ input.length

/-! ### Results that may take nothing -/

namespace Left

variable {α γ β : Type} {input : List β}

/-- The same rest with another value. -/
def map (f : α → γ) (l : Left α input) : Left γ input := ⟨f l.value, l.rest, l.rest_le⟩

/-- Nothing is taken. -/
def all (a : α) : Left α input := ⟨a, input, Nat.le_refl _⟩

/-- The first `n` elements are taken. -/
def drop (n : Nat) (a : α) : Left α input := ⟨a, input.drop n, by simp⟩

/-- The elements at the start for which `p` holds. -/
def span (p : β → Bool) (input : List β) : Left (List β) input :=
  ⟨input.takeWhile p, input.dropWhile p, length_dropWhile_le p input⟩

/-- What is left of a list is left of one with another element in front. -/
def cons (b : β) (l : Left α input) : Left α (b :: input) :=
  ⟨l.value, l.rest, Nat.le_succ_of_le l.rest_le⟩

/-- An element in front of the list is taken as well. -/
def behind (b : β) (l : Left α input) : Taken α (b :: input) :=
  ⟨l.value, l.rest, Nat.lt_succ_of_le l.rest_le⟩

/-- What is left of a list is left of a longer one. -/
def ofLe {shorter : List β} (l : Left α shorter) (h : shorter.length ≤ input.length) :
    Left α input :=
  ⟨l.value, l.rest, Nat.le_trans l.rest_le h⟩

/-- What is left behind `l` is left of `input` as well. -/
def andLeft (l : Left α input) (u : Left γ l.rest) : Left γ input := u.ofLe l.rest_le

end Left

/-! ### Results that take something -/

namespace Taken

variable {α γ β : Type} {input : List β}

/-- The same rest with another value. -/
def map (f : α → γ) (t : Taken α input) : Taken γ input := ⟨f t.value, t.rest, t.rest_lt⟩

/-- The same result, without the knowledge that something was taken. -/
def toLeft (t : Taken α input) : Left α input := ⟨t.value, t.rest, Nat.le_of_lt t.rest_lt⟩

/-- The first element is taken. -/
def first {b : β} (a : α) : Taken α (b :: input) := ⟨a, input, Nat.lt_succ_self _⟩

/-- What is taken off a list is taken off one with another element in front. -/
def cons {b : β} (t : Taken α input) : Taken α (b :: input) :=
  ⟨t.value, t.rest, Nat.lt_succ_of_lt t.rest_lt⟩

/-- A scanner that drops elements in front may be followed by one that takes some. -/
def ofLe {shorter : List β} (t : Taken α shorter) (h : shorter.length ≤ input.length) :
    Taken α input :=
  ⟨t.value, t.rest, Nat.lt_of_lt_of_le t.rest_lt h⟩

/-- What is taken off the rest of a list is taken off the list. -/
def ofLt {shorter : List β} (t : Taken α shorter) (h : shorter.length < input.length) :
    Taken α input :=
  t.ofLe (Nat.le_of_lt h)

/-- What is taken behind `t` is taken off `input` as well. -/
def andThen (t : Taken α input) (u : Taken γ t.rest) : Taken γ input := u.ofLt t.rest_lt

end Taken

end TemplateExpr.Text
