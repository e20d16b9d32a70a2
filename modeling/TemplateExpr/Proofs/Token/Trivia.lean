import TemplateExpr.Proofs.Text.Search
import TemplateExpr.Token.Lexer

/-!
# What lies between tokens

`skipTrivia` carries the offset of the unread text along. `afterTrivia?` is the unread text alone,
and `rest_skipTrivia` says that the offset has no influence on it.
-/

namespace TemplateExpr.Lexer

open TemplateExpr.Text

variable {c : Char} {cs : List Char}

/-- What follows the end of a block comment. -/
def afterBlock? : List Char → Option (List Char)
  | [] => none
  | '*' :: '/' :: rest => some rest
  | _ :: rest => afterBlock? rest

/-- What follows the next line break. -/
def afterLine (cs : List Char) : List Char := (cs.dropWhile (· != '\n')).drop 1

theorem length_afterBlock? {rest : List Char} (h : afterBlock? cs = some rest) :
    rest.length ≤ cs.length := by
  fun_induction afterBlock? cs with
  | case1 => cases h
  | case2 => cases h; simp only [List.length_cons]; omega
  | case3 c cs _ ih =>
    have := ih h
    simp only [List.length_cons]
    omega

theorem length_afterLine (cs : List Char) : (afterLine cs).length ≤ cs.length := by
  have := length_dropWhile_le (· != '\n') cs
  simp only [afterLine, List.length_drop]
  omega

/-- Whether a comment starts with the text. -/
def startsComment : List Char → Bool
  | '/' :: '/' :: _ => true
  | '/' :: '*' :: _ => true
  | _ => false

/-- What follows blanks and comments; `none` if a comment is not closed. -/
def afterTrivia? (cs : List Char) : Option (List Char) :=
  match cs with
  | [] => some []
  | '/' :: '/' :: rest =>
    have := length_afterLine rest
    afterTrivia? (afterLine rest)
  | '/' :: '*' :: rest =>
    match h : afterBlock? rest with
    | none => none
    | some rest' =>
      have := length_afterBlock? h
      afterTrivia? rest'
  | c :: rest => if isBlank c then afterTrivia? rest else some (c :: rest)
termination_by cs.length
decreasing_by all_goals simp only [List.length_cons]; omega

/-! ### Ends of comments -/

theorem rest_blockCommentEnd? (pos : Nat) (cs : List Char) :
    (blockCommentEnd? pos cs).map Left.rest = afterBlock? cs := by
  fun_induction blockCommentEnd? pos cs with
  | case1 => rfl
  | case2 => rfl
  | case3 pos c cs h ih =>
    rw [afterBlock?.eq_3 _ _ h, ← ih, Option.map_map]
    rfl

theorem rest_lineCommentEnd (pos : Nat) (cs : List Char) :
    (lineCommentEnd pos cs).rest = afterLine cs := by
  fun_induction lineCommentEnd pos cs with
  | case1 => rfl
  | case2 => rfl
  | case3 pos c cs h ih =>
    rw [afterLine, List.dropWhile_cons_of_pos (by simpa using h)]
    exact ih

theorem afterBlock?_cons (h : ¬(c = '*' ∧ cs.head? = some '/')) :
    afterBlock? (c :: cs) = afterBlock? cs := by
  rw [afterBlock?]
  rintro rest rfl rfl
  exact h ⟨rfl, rfl⟩

/-! ### Trivia -/

theorem afterTrivia?_nil : afterTrivia? [] = some [] := by
  rw [afterTrivia?.eq_def]

/-- Where no comment starts, the first character is a blank or that of a token. -/
theorem afterTrivia?_cons (hc : startsComment (c :: cs) = false) :
    afterTrivia? (c :: cs) = if isBlank c then afterTrivia? cs else some (c :: cs) := by
  rw [afterTrivia?.eq_def]
  split
  next h => cases h
  next h => cases h; cases hc
  next h => cases h; cases hc
  next h => cases h; rfl

theorem afterTrivia?_blank (h : isBlank c = true) : afterTrivia? (c :: cs) = afterTrivia? cs := by
  rw [afterTrivia?_cons, if_pos h]
  unfold startsComment
  split
  next heq => cases heq; cases h
  next heq => cases heq; cases h
  next => rfl

/-- Nothing is skipped in front of a token. -/
theorem afterTrivia?_token (h : isBlank c = false) (hc : startsComment (c :: cs) = false) :
    afterTrivia? (c :: cs) = some (c :: cs) := by
  rw [afterTrivia?_cons hc, if_neg (by simp [h])]

theorem afterTrivia?_trimStart (cs : List Char) : afterTrivia? (trimStart cs) = afterTrivia? cs := by
  induction cs with
  | nil => rfl
  | cons c cs ih =>
    cases h : isBlank c with
    | true => rw [trimStart_cons_of_blank h, afterTrivia?_blank h, ih]
    | false => rw [trimStart_cons_of_not_blank h]

theorem afterTrivia?_line (cs : List Char) :
    afterTrivia? ('/' :: '/' :: cs) = afterTrivia? (afterLine cs) := by
  rw [afterTrivia?.eq_def]
  rfl

theorem afterTrivia?_block (cs : List Char) :
    afterTrivia? ('/' :: '*' :: cs) = (afterBlock? cs).bind afterTrivia? := by
  rw [afterTrivia?.eq_def]
  change (match h : afterBlock? cs with
    | none => none
    | some rest => afterTrivia? rest) = _
  split
  next h => rw [h]; rfl
  next h => rw [h, Option.bind_some]

/-- The unread text does not depend on its offset. -/
theorem rest_skipTrivia (pos : Nat) (cs : List Char) :
    (skipTrivia pos cs).toOption.map Left.rest = afterTrivia? cs := by
  fun_induction skipTrivia pos cs with
  | case1 => rw [afterTrivia?_nil]; rfl
  | case2 pos cs pos' rest' h hline ih =>
    have hrest := rest_lineCommentEnd (pos + 2) cs
    rw [hline] at hrest
    rw [afterTrivia?_line, ← hrest, ← ih]
    cases skipTrivia pos' rest' <;> rfl
  | case3 pos cs hblock =>
    have hrest := rest_blockCommentEnd? (pos + 2) cs
    rw [hblock] at hrest
    rw [afterTrivia?_block, ← hrest]
    rfl
  | case4 pos cs pos' rest' h hblock ih =>
    have hrest := rest_blockCommentEnd? (pos + 2) cs
    rw [hblock] at hrest
    rw [afterTrivia?_block, ← hrest, Option.map_some, Option.bind_some, ← ih]
    cases skipTrivia pos' rest' <;> rfl
  | case5 pos c cs _ _ hc ih =>
    rw [afterTrivia?_blank hc, ← ih]
    cases skipTrivia (pos + c.utf8Size) cs <;> rfl
  | case6 pos c cs hline hblock hc =>
    rw [afterTrivia?_cons, if_neg hc]
    · rfl
    · unfold startsComment
      split
      next heq => cases heq; exact absurd rfl (hline _ rfl)
      next heq => cases heq; exact absurd rfl (hblock _ rfl)
      next => rfl

/-- A token or the end of the text is next. -/
def AtToken (cs : List Char) : Prop := trimStart cs = cs ∧ startsComment cs = false

theorem atToken_afterTrivia? {rest : List Char} (h : afterTrivia? cs = some rest) :
    AtToken rest := by
  fun_induction afterTrivia? cs with
  | case1 => cases h; exact ⟨rfl, rfl⟩
  | case2 cs _ ih => exact ih h
  | case3 => cases h
  | case4 cs rest' hblock hlength ih => exact ih h
  | case5 c cs _ _ _ ih => exact ih h
  | case6 c cs hline hblock hc =>
    cases h
    refine ⟨trimStart_cons_of_not_blank (by simpa using hc), ?_⟩
    unfold startsComment
    split
    next heq => cases heq; exact absurd rfl (hline _ rfl)
    next heq => cases heq; exact absurd rfl (hblock _ rfl)
    next => rfl

end TemplateExpr.Lexer
