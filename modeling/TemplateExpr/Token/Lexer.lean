import TemplateExpr.Expr.ParseError
import TemplateExpr.Text.Taken
import TemplateExpr.Text.Utf8

/-!
# Reading tokens

`tokenize` cuts the text of an expression into tokens with their spans. Blanks, line comments and
block comments separate tokens and are dropped. Every scanner takes the unread text and the byte
offset at which it starts, and returns the offset at which the unread text goes on.
-/

namespace TemplateExpr.Lexer

open TemplateExpr.Text

/-- A result of a scanner, or a parse error. -/
abbrev Scan (α : Type) (cs : List Char) := Except ParseError (Taken (α × Nat) cs)

/-- An error at a byte offset. -/
def fail {α : Type} (cause : ParseError.Cause) (offset : Nat) : Except ParseError α :=
  .error ⟨cause, offset⟩

/-! ### Trivia -/

/-- What follows the end of a block comment; `pos` is the offset of `cs`. -/
def blockCommentEnd? (pos : Nat) : (cs : List Char) → Option (Left Nat cs)
  | [] => none
  | '*' :: '/' :: _ => some (((Left.all (pos + 2)).cons '/').cons '*')
  | c :: rest =>
    (blockCommentEnd? (pos + c.utf8Size) rest).map (Left.cons c)

/-- What follows the next line break; `pos` is the offset of `cs`. -/
def lineCommentEnd (pos : Nat) : (cs : List Char) → Left Nat cs
  | [] => .all pos
  | c :: rest =>
    if c = '\n' then (Left.all (pos + 1)).cons c
    else (lineCommentEnd (pos + c.utf8Size) rest).cons c

/-- Drops blanks and comments. -/
def skipTrivia (pos : Nat) (cs : List Char) : Except ParseError (Left Nat cs) :=
  match cs with
  | [] => .ok (.all pos)
  | '/' :: '/' :: rest =>
    let ⟨pos', rest', h⟩ := lineCommentEnd (pos + 2) rest
    (skipTrivia pos' rest').map fun l => ((l.ofLe h).cons '/').cons '/'
  | '/' :: '*' :: rest =>
    match blockCommentEnd? (pos + 2) rest with
    | none => fail .unclosedComment pos
    | some ⟨pos', rest', h⟩ =>
      (skipTrivia pos' rest').map fun l => ((l.ofLe h).cons '*').cons '/'
  | c :: rest =>
    if isBlank c then (skipTrivia (pos + c.utf8Size) rest).map (Left.cons c)
    else .ok (.all pos)
termination_by cs.length

/-! ### Names -/

/-- The name at the start of `c :: cs`, where `c` may start one. -/
def scanName (pos : Nat) (c : Char) (cs : List Char) : Taken (Token × Nat) (c :: cs) :=
  (((Left.span isNameContinue cs).behind c).map (c :: ·)).map fun name =>
    (.name (String.ofList name), pos + byteLength name)

/-! ### Numbers -/

/-- The digits at the start of a text, and the rest. -/
def scanDigits (cs : List Char) : Left (List Char) cs := .span isAsciiDigit cs

/-- A point followed by digits: the digits, and the rest; no digits if there is no such fraction. -/
def scanFraction (cs : List Char) : Left (List Char) cs :=
  match cs with
  | '.' :: d :: rest =>
    if isAsciiDigit d then (scanDigits (d :: rest)).cons '.' else .all []
  | _ => .all []

/-- The exponent of a number: its value and the number of its characters, which is zero if there is
none. -/
def scanExponent (cs : List Char) : Left (Int × Nat) cs :=
  match cs with
  | e :: cs' =>
    let sign := match cs' with
      | '+' :: _ | '-' :: _ => 1
      | _ => 0
    let ds := (cs'.drop sign).takeWhile isAsciiDigit
    if (e = 'e' ∨ e = 'E') ∧ !ds.isEmpty then
      let n : Int := Number.digitsValue ds
      let value := (if cs'.head? = some '-' then -n else n, 1 + sign + ds.length)
      (Left.drop (sign + ds.length) value).cons e
    else .all (0, 0)
  | [] => .all (0, 0)

/-- The largest integer that a hexadecimal literal may denote. -/
def maxHexLiteral : Nat := UInt64.size - 1

/-- A hexadecimal literal that started at `start`; `cs` follows its `0x`. -/
def scanHex (start : Nat) (cs : List Char) : Except ParseError (Left (Float × Nat) cs) :=
  let ds := Left.span Digit.isHex cs
  match Digit.read? 16 ds.value with
  | some n =>
    if n ≤ maxHexLiteral then .ok (ds.map fun ds => (Number.ofNat n, start + 2 + ds.length))
    else fail .invalidHexLiteral start
  | none => fail .invalidHexLiteral start

/-- A decimal literal with the digits `whole` before the point and `fraction` behind it, which `cs`
follows. -/
def scanDecimal (start : Nat) (whole fraction cs : List Char) :
    Except ParseError (Left (Float × Nat) cs) :=
  let exponent := scanExponent cs
  if exponent.rest.head?.any isNameStart then fail .nameAfterNumber start
  else
    let point := if fraction.isEmpty then 0 else 1
    let width := whole.length + point + fraction.length + exponent.value.2
    let d := Number.Decimal.ofDigits whole fraction exponent.value.1
    .ok (exponent.map fun _ => (d.toFloat, start + width))

/-- A number whose first character was `c`. -/
def numberToken {cs : List Char} (c : Char) (l : Left (Float × Nat) cs) :
    Taken (Token × Nat) (c :: cs) :=
  (l.behind c).map fun (x, stop) => (.number x, stop)

/-- The decimal literal that starts with the digit `c`. -/
def scanWholeNumber (start : Nat) (c : Char) (cs : List Char) : Scan Token (c :: cs) :=
  let more := scanDigits cs
  let fraction := scanFraction more.rest
  (scanDecimal start (c :: more.value) fraction.value fraction.rest).map fun l =>
    numberToken c (more.andLeft (fraction.andLeft l))

/-- The number that starts with the digit `c`. -/
def scanNumber (start : Nat) (c : Char) (cs : List Char) : Scan Token (c :: cs) :=
  match cs with
  | x :: rest =>
    if c = '0' ∧ (x = 'x' ∨ x = 'X') then
      (scanHex start rest).map fun l => numberToken c (l.cons x)
    else scanWholeNumber start c (x :: rest)
  | [] => scanWholeNumber start c []

/-- The number that starts with a point; `cs` follows the point. -/
def scanPointNumber (start : Nat) (c : Char) (cs : List Char) : Scan Token (c :: cs) :=
  let ds := scanDigits cs
  (scanDecimal start [] ds.value ds.rest).map fun l => numberToken c (ds.andLeft l)

/-! ### Strings -/

/-- The character whose code is written with the hexadecimal digits `ds`, which a plus sign may
precede. -/
def codePoint? (ds : List Char) : Option Char :=
  let ds := match ds with
    | '+' :: ds => ds
    | ds => ds
  match Digit.read? 16 ds with
  | some n => if n.isValidChar then some (Char.ofNat n) else none
  | none => none

/-- The characters that stand for themselves or for a control character behind a backslash; `none`
for a line break, which is dropped. -/
def plainEscape (c : Char) : Option Char :=
  match c with
  | 'n' => some '\n'
  | 't' => some '\t'
  | 'r' => some '\r'
  | 'b' => some '\x08'
  | 'f' => some '\x0c'
  | 'v' => some '\x0b'
  | '0' => some '\x00'
  | '\n' => none
  | c => some c

/-- The escape of exactly `n` hexadecimal digits, or of all the text that is left; `at` is the
offset of its backslash and `pos` that of `cs`. -/
def scanFixedEscape (start pos n : Nat) (cs : List Char) :
    Except ParseError (Left (Char × Nat) cs) :=
  let ds := cs.take n
  match codePoint? ds with
  | some c => .ok (.drop n (c, pos + byteLength ds))
  | none => fail (.invalidEscape (String.ofList ds)) start

/-- The escape of a code point between braces; `cs` follows the opening brace. -/
def scanBracedEscape (start pos : Nat) (cs : List Char) :
    Except ParseError (Left (Char × Nat) cs) :=
  let ds := cs.takeWhile (· != '\x7d')
  match h : cs.dropWhile (· != '\x7d') with
  | [] => fail .unclosedEscape start
  | _ :: rest =>
    match codePoint? ds with
    | some c => .ok ⟨(c, pos + byteLength ds + 1), rest, by
        have := length_dropWhile_le (· != '\x7d') cs
        rw [h] at this; exact Nat.le_of_succ_le this⟩
    | none => fail (.invalidEscape (String.ofList ds)) start

/-- The rest of a string literal: `start` is the offset of its opening quote, `acc` holds its
characters so far in reverse, and `pos` is the offset of `cs`. -/
def scanString (quote : Char) (start : Nat) (acc : List Char) (pos : Nat) (cs : List Char) :
    Scan Token cs :=
  match cs with
  | [] => fail .unclosedString start
  | c :: rest =>
    if c = quote then
      .ok (.first (.string (String.ofList acc.reverse), pos + c.utf8Size))
    else if c ≠ '\\' then
      (scanString quote start (c :: acc) (pos + c.utf8Size) rest).map Taken.cons
    else match rest with
      | [] => fail .unclosedString start
      | 'x' :: rest' =>
        match scanFixedEscape pos (pos + 2) 2 rest' with
        | .error e => .error e
        | .ok ⟨(e, pos'), rest'', h⟩ =>
          (scanString quote start (e :: acc) pos' rest'').map fun t => (t.ofLe h).cons.cons
      | 'u' :: '\x7b' :: rest' =>
        match scanBracedEscape pos (pos + 3) rest' with
        | .error e => .error e
        | .ok ⟨(e, pos'), rest'', h⟩ =>
          (scanString quote start (e :: acc) pos' rest'').map fun t =>
            (t.ofLe h).cons.cons.cons
      | 'u' :: rest' =>
        match scanFixedEscape pos (pos + 2) 4 rest' with
        | .error e => .error e
        | .ok ⟨(e, pos'), rest'', h⟩ =>
          (scanString quote start (e :: acc) pos' rest'').map fun t => (t.ofLe h).cons.cons
      | e :: rest' =>
        let acc := match plainEscape e with
          | some e => e :: acc
          | none => acc
        (scanString quote start acc (pos + 1 + e.utf8Size) rest').map fun t => t.cons.cons
termination_by cs.length

/-! ### Symbols -/

/-- The longest symbol at the start of a text, and what follows it. A question mark and a point are
one symbol only if no digit follows. -/
def scanSymbol? : List Char → Option (Symbol × List Char)
  | '.' :: cs => some (.dot, cs)
  | '(' :: cs => some (.openParen, cs)
  | ')' :: cs => some (.closeParen, cs)
  | '[' :: cs => some (.openBracket, cs)
  | ']' :: cs => some (.closeBracket, cs)
  | '\x7b' :: cs => some (.openBrace, cs)
  | '\x7d' :: cs => some (.closeBrace, cs)
  | ',' :: cs => some (.comma, cs)
  | ':' :: cs => some (.colon, cs)
  | ';' :: cs => some (.semicolon, cs)
  | '+' :: cs => some (.plus, cs)
  | '-' :: cs => some (.minus, cs)
  | '%' :: cs => some (.percent, cs)
  | '/' :: cs => some (.slash, cs)
  | '*' :: '*' :: cs => some (.doubleStar, cs)
  | '*' :: cs => some (.star, cs)
  | '=' :: '=' :: '=' :: cs => some (.strictEqual, cs)
  | '=' :: '=' :: cs => some (.equal, cs)
  | '=' :: '>' :: cs => some (.arrow, cs)
  | '=' :: cs => some (.assign, cs)
  | '!' :: '=' :: '=' :: cs => some (.strictNotEqual, cs)
  | '!' :: '=' :: cs => some (.notEqual, cs)
  | '!' :: cs => some (.bang, cs)
  | '<' :: '=' :: cs => some (.lessEqual, cs)
  | '<' :: cs => some (.less, cs)
  | '>' :: '=' :: cs => some (.greaterEqual, cs)
  | '>' :: cs => some (.greater, cs)
  | '&' :: '&' :: cs => some (.doubleAnd, cs)
  | '|' :: '|' :: cs => some (.doubleBar, cs)
  | '?' :: '?' :: cs => some (.doubleQuestion, cs)
  | '?' :: '.' :: cs =>
    if cs.head?.any isAsciiDigit then some (.question, '.' :: cs) else some (.questionDot, cs)
  | '?' :: cs => some (.question, cs)
  | _ => none

/-- A symbol takes at least one character. -/
theorem scanSymbol?_lt {cs rest : List Char} {s : Symbol} (h : scanSymbol? cs = some (s, rest)) :
    rest.length < cs.length := by
  unfold scanSymbol? at h
  split at h
  case h_31 => split at h <;> (cases h; simp only [List.length_cons]; omega)
  all_goals first
    | (cases h; simp only [List.length_cons]; omega)
    | cases h

/-- The symbol at the start of a text that starts with neither a number, a string nor a name. -/
def scanSymbol (pos : Nat) (c : Char) (cs : List Char) : Scan Token (c :: cs) :=
  match h : scanSymbol? (c :: cs) with
  | some (s, rest) => .ok ⟨(.symbol s, pos + s.text.length), rest, scanSymbol?_lt h⟩
  | none =>
    if c = '&' ∨ c = '|' ∨ c = '^' ∨ c = '~' then fail (.bitwiseOperator c) pos
    else fail (.unexpectedCharacter c) pos

/-! ### Tokens -/

/-- The token at the start of a text without trivia in front. -/
def scanToken (pos : Nat) (c : Char) (cs : List Char) : Scan Token (c :: cs) :=
  if isAsciiDigit c then scanNumber pos c cs
  else if c = '.' ∧ cs.head?.any isAsciiDigit then scanPointNumber pos c cs
  else if c = '\x27' ∨ c = '"' ∨ c = '\x60' then
    (scanString c pos [] (pos + 1) cs).map Taken.cons
  else if isNameStart c then .ok (scanName pos c cs)
  else scanSymbol pos c cs

/-- The tokens of `cs`, which starts at `pos`, behind the tokens `acc` (in reverse). -/
def tokensFrom (acc : List (Spanned Token)) (pos : Nat) (cs : List Char) :
    Except ParseError (List (Spanned Token)) :=
  match skipTrivia pos cs with
  | .error e => .error e
  | .ok ⟨_, [], _⟩ => .ok acc.reverse
  | .ok ⟨start, c :: rest, _h⟩ =>
    match scanToken start c rest with
    | .error e => .error e
    | .ok ⟨(token, stop), rest', _h'⟩ => tokensFrom (⟨token, ⟨start, stop⟩⟩ :: acc) stop rest'
termination_by cs.length

end TemplateExpr.Lexer

namespace TemplateExpr

/-- The tokens of the text of an expression. -/
def tokenize (text : List Char) : Except ParseError (List (Spanned Token)) :=
  Lexer.tokensFrom [] 0 text

end TemplateExpr
