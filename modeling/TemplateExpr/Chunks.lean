/-!
# Chunks

A list cut into pieces of one length, of which only the last may be shorter.
-/

namespace TemplateExpr

variable {α : Type}

/-- The pieces of length `size` of `xs` behind those in `acc`, which are in reverse; pieces of
length zero are made one longer. -/
def chunksFrom (size : Nat) (acc : List (List α)) (xs : List α) : List (List α) :=
  match xs with
  | [] => acc.reverse
  | x :: xs => chunksFrom size ((x :: xs.take (size - 1)) :: acc) (xs.drop (size - 1))
termination_by xs.length
decreasing_by simp only [List.length_drop, List.length_cons]; omega

/-- The pieces of length `size` of `xs`. -/
def chunks (size : Nat) (xs : List α) : List (List α) := chunksFrom size [] xs

theorem flatten_chunksFrom (size : Nat) (acc : List (List α)) (xs : List α) :
    (chunksFrom size acc xs).flatten = acc.reverse.flatten ++ xs := by
  fun_induction chunksFrom size acc xs with
  | case1 => simp
  | case2 acc x xs ih => simp [ih]

/-- Nothing is lost and nothing is moved. -/
theorem flatten_chunks (size : Nat) (xs : List α) : (chunks size xs).flatten = xs := by
  simp [chunks, flatten_chunksFrom]

theorem length_chunksFrom_le (size : Nat) (acc : List (List α)) (xs : List α) :
    (chunksFrom size acc xs).length ≤ acc.length + xs.length := by
  fun_induction chunksFrom size acc xs with
  | case1 acc => simp
  | case2 acc x xs ih =>
    simp only [List.length_cons, List.length_drop] at ih ⊢
    omega

/-- No piece is empty. -/
theorem length_chunks_le (size : Nat) (xs : List α) : (chunks size xs).length ≤ xs.length := by
  simpa [chunks] using length_chunksFrom_le size [] xs

end TemplateExpr
