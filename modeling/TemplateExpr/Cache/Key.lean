import TemplateExpr.Text.Search

/-!
# Keys of cached results

Two texts of an expression have the same normal form if they only differ by the blanks between their
words. Quoted text is left as it is; a backslash hides the next character within quotes.
-/

namespace TemplateExpr.Cache

open TemplateExpr.Text

/-- The text within quotes, up to and including the closing mark, and what follows. -/
def spanQuoted (mark : Char) : List Char → List Char × List Char
  | [] => ([], [])
  | '\\' :: d :: cs =>
    let (text, rest) := spanQuoted mark cs
    ('\\' :: d :: text, rest)
  | c :: cs =>
    if c = mark then ([c], cs)
    else
      let (text, rest) := spanQuoted mark cs
      (c :: text, rest)

theorem length_spanQuoted (mark : Char) (cs : List Char) :
    (spanQuoted mark cs).2.length ≤ cs.length := by
  fun_induction spanQuoted mark cs with
  | case1 => simp
  | case2 d cs text rest h ih => rw [h] at ih; simp only [List.length_cons] at *; omega
  | case3 => simp
  | case4 c cs _ _ text rest h ih => rw [h] at ih; simp only [List.length_cons] at *; omega

/-- Whether `c` starts a quoted text. -/
def isQuote (c : Char) : Bool := c == '\'' || c == '"' || c == '\x60'

/-- The normal form of a text that starts with no blank or behind other text: runs of blanks become
single ones, and those at the end disappear. -/
def collapse (cs : List Char) : List Char :=
  match cs with
  | [] => []
  | c :: cs =>
    if isBlank c then
      match h : trimStart cs with
      | [] => []
      | d :: ds =>
        have : (d :: ds).length ≤ cs.length := by
          rw [← h]; exact (List.dropWhile_sublist _).length_le
        ' ' :: collapse (d :: ds)
    else if isQuote c then
      have := length_spanQuoted c cs
      c :: ((spanQuoted c cs).1 ++ collapse (spanQuoted c cs).2)
    else c :: collapse cs
termination_by cs.length
decreasing_by all_goals simp only [List.length_cons] at *; omega

/-- The normal form of an expression. -/
def normalize (cs : List Char) : List Char := collapse (trim cs)

/-- The normal form of an expression as a string. -/
def normalizeString (s : String) : String := String.ofList (normalize s.toList)

/-- What a result is kept under: the normal form of the expression, and the fingerprint of what was
read. -/
structure Key (φ : Type) where
  expression : String
  fingerprint : φ
deriving DecidableEq

/-- The key of an expression. -/
def Key.ofExpression {φ : Type} (expression : String) (fingerprint : φ) : Key φ :=
  ⟨normalizeString expression, fingerprint⟩

end TemplateExpr.Cache
