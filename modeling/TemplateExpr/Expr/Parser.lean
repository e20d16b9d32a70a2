import TemplateExpr.Expr.Basic
import TemplateExpr.Token.Lexer

/-!
# Parsing expressions

`Expr.parse` reads a text as one expression. Binary operators are read in a loop that goes on as
long as the next operator binds at least as tightly as the level asked for; what stands to the right
of an operator is read at its own level if it groups to the right, and one level higher otherwise.
An arrow function is recognised where an operand may start, by looking ahead for `=>`.

Two ceilings of `maxDepth` are kept: on the nesting of the descent, whose remaining levels are the
argument of the recursion, and on the height of the tree, which loops can build without nesting.
-/

namespace TemplateExpr

open TemplateExpr.Text

/-! ### Levels

The levels from the loosest to the tightest; accesses and calls are tightest.
-/

/-- How tightly an operator binds. -/
abbrev Level := Nat

namespace Level

def assignment : Level := 1
def conditional : Level := 2
def nullish : Level := 3
def or : Level := 4
def and : Level := 5
def equality : Level := 6
def relational : Level := 7
def additive : Level := 8
def multiplicative : Level := 9
def exponent : Level := 10
def unary : Level := 11
def access : Level := 12

end Level

/-- The level of a binary operator. -/
def BinaryOp.level : BinaryOp → Level
  | .nullish => Level.nullish
  | .or => Level.or
  | .and => Level.and
  | .equal | .notEqual | .strictEqual | .strictNotEqual => Level.equality
  | .less | .lessEqual | .greater | .greaterEqual => Level.relational
  | .add | .subtract => Level.additive
  | .multiply | .divide | .modulo => Level.multiplicative
  | .power => Level.exponent

/-- Whether `a op b op c` is `a op (b op c)`. -/
def BinaryOp.groupsRight (op : BinaryOp) : Bool := op == .power

/-- The level at which the right operand is read. -/
def BinaryOp.rightLevel (op : BinaryOp) : Level :=
  if op.groupsRight then op.level else op.level + 1

/-- The binary operator that a symbol is. -/
def Symbol.binaryOp? : Symbol → Option BinaryOp
  | .plus => some .add
  | .minus => some .subtract
  | .star => some .multiply
  | .slash => some .divide
  | .percent => some .modulo
  | .doubleStar => some .power
  | .equal => some .equal
  | .notEqual => some .notEqual
  | .strictEqual => some .strictEqual
  | .strictNotEqual => some .strictNotEqual
  | .less => some .less
  | .lessEqual => some .lessEqual
  | .greater => some .greater
  | .greaterEqual => some .greaterEqual
  | .doubleAnd => some .and
  | .doubleBar => some .or
  | .doubleQuestion => some .nullish
  | _ => none

/-- The unary operator that a token is. -/
def Token.unaryOp? : Token → Option UnaryOp
  | .symbol .bang => some .not
  | .symbol .minus => some .negate
  | .symbol .plus => some .plus
  | .name "typeof" => some .typeOf
  | _ => none

/-- Words of constructs outside the language. -/
def unsupportedKeywords : List String :=
  ["new", "function", "class", "var", "let", "const", "return", "if", "else", "for", "while",
   "do", "delete", "void", "this", "await", "yield", "throw", "try", "catch", "switch", "with",
   "super", "import", "export", "debugger", "async"]

namespace Parser

/-! ### Results -/

/-- The tokens that are still unread. -/
abbrev Tokens := List (Spanned Token)

/-- An expression and the height of its tree. -/
structure Built where
  expr : Expr
  height : Nat

/-- A parser reads an expression off the front of the tokens. -/
abbrev Reader := (ts : Tokens) → Except ParseError (Taken Built ts)

/-- A result behind `left` that leaves fewer tokens than `left` does. -/
abbrev Further {ts : Tokens} (left : Taken Built ts) :=
  { t : Taken Built ts // t.rest.length < left.rest.length }

/-- The error of an unexpected token. -/
def unexpected {α : Type} (t : Spanned Token) : Except ParseError α :=
  .error ⟨.unexpectedToken t.value, t.span.start⟩

/-- The error of an end of the text, which is `size` bytes long. -/
def unexpectedEnd {α : Type} (size : Nat) (expected : Expectation) : Except ParseError α :=
  .error ⟨.endOfExpression expected, size⟩

/-- The error of too much nesting before the tokens `ts`. -/
def tooDeep {α : Type} (size : Nat) (ts : Tokens) : Except ParseError α :=
  .error ⟨.tooDeep, match ts with | t :: _ => t.span.start | [] => size⟩

/-- Refuses trees that are too high. -/
def checkHeight (height offset : Nat) : Except ParseError Unit :=
  if maxDepth < height then .error ⟨.tooDeep, offset⟩ else .ok ()

/-- Reads the symbol `s` and returns its span. -/
def expect (size : Nat) (s : Symbol) (ts : Tokens) : Except ParseError (Taken Span ts) :=
  match ts with
  | [] => unexpectedEnd size (.symbol s)
  | t :: _ =>
    if t.value.isSymbol s then .ok (.first t.span)
    else .error ⟨.expectedSymbol s t.value, t.span.start⟩

/-! ### Binary operators -/

/-- Reads the two branches of a conditional whose test is `left`; `ts'` follows the question mark.
-/
def conditionalTail (size : Nat) (sub : Level → Reader) {ts : Tokens} (left : Taken Built ts)
    (ts' : Tokens) (h : ts'.length < left.rest.length) : Except ParseError (Further left) := do
  let c ← sub Level.assignment ts'
  let colon ← expect size .colon c.rest
  let a ← sub Level.assignment colon.rest
  let l := left.value
  let height := 1 + max (max l.height c.value.height) a.value.height
  checkHeight height l.expr.span.start
  let span := l.expr.span.through a.value.expr.span
  let expr := Expr.conditional span l.expr c.value.expr a.value.expr
  have h1 := c.rest_lt
  have h2 := colon.rest_lt
  have h3 := a.rest_lt
  have h4 := left.rest_lt
  pure ⟨⟨⟨expr, height⟩, a.rest, by omega⟩, by show a.rest.length < _; omega⟩

/-- Reads the value of an assignment to `left`; `ts'` follows the equals sign. -/
def assignmentTail (sub : Level → Reader) {ts : Tokens} (left : Taken Built ts)
    (ts' : Tokens) (h : ts'.length < left.rest.length) : Except ParseError (Further left) := do
  let v ← sub Level.assignment ts'
  let l := left.value
  let height := 1 + max l.height v.value.height
  checkHeight height l.expr.span.start
  let expr := Expr.assign (l.expr.span.through v.value.expr.span) l.expr v.value.expr
  have h1 := v.rest_lt
  have h2 := left.rest_lt
  pure ⟨⟨⟨expr, height⟩, v.rest, by omega⟩, by show v.rest.length < _; omega⟩

/-- Reads the right operand of `op`, whose left operand is `left`; `ts'` follows the operator. -/
def operatorTail (sub : Level → Reader) (op : BinaryOp) {ts : Tokens} (left : Taken Built ts)
    (ts' : Tokens) (h : ts'.length < left.rest.length) : Except ParseError (Further left) := do
  let r ← sub op.rightLevel ts'
  let l := left.value
  let height := 1 + max l.height r.value.height
  checkHeight height l.expr.span.start
  let expr := Expr.binary (l.expr.span.through r.value.expr.span) op l.expr r.value.expr
  have h1 := r.rest_lt
  have h2 := left.rest_lt
  pure ⟨⟨⟨expr, height⟩, r.rest, by omega⟩, by show r.rest.length < _; omega⟩

/-- Goes on behind the operand `left` as long as an operator of at least the level `min` follows. -/
def operators (size : Nat) (sub : Level → Reader) (min : Level) {ts : Tokens}
    (left : Taken Built ts) : Except ParseError (Taken Built ts) :=
  match h : left.rest with
  | ⟨.symbol s, _⟩ :: more =>
    have hm : more.length < left.rest.length := by rw [h]; exact Nat.lt_succ_self _
    if s = .question ∧ min ≤ Level.conditional then
      match conditionalTail size sub left more hm with
      | .error e => .error e
      | .ok ⟨t, _⟩ => operators size sub min t
    else if s = .assign ∧ min ≤ Level.assignment then
      match assignmentTail sub left more hm with
      | .error e => .error e
      | .ok ⟨t, _⟩ => operators size sub min t
    else match s.binaryOp? with
      | none => .ok left
      | some op =>
        if op.level < min then .ok left
        else match operatorTail sub op left more hm with
          | .error e => .error e
          | .ok ⟨t, _⟩ => operators size sub min t
  | _ => .ok left
termination_by left.rest.length

/-! ### Accesses and calls -/

/-- The span of the symbol `s`, if the tokens start with it. -/
def symbol? (s : Symbol) : (ts : Tokens) → Option (Taken Span ts)
  | [] => none
  | t :: _ => if t.value.isSymbol s then some (.first t.span) else none

/-- Reads items up to the closing symbol `close`, which may follow a comma: the items, the greatest
of `height` and their heights, and the span of the closing symbol. -/
def items (size : Nat) (sub : Reader) (close : Symbol) (acc : List Expr) (height : Nat)
    (ts : Tokens) : Except ParseError (Taken (List Expr × Nat × Span) ts) :=
  match symbol? close ts with
  | some t => .ok (t.map fun span => (acc.reverse, height, span))
  | none =>
    match sub ts with
    | .error e => .error e
    | .ok b =>
      let acc := b.value.expr :: acc
      let height := max height b.value.height
      match symbol? .comma b.rest with
      | some comma =>
        (items size sub close acc height comma.rest).map fun t => b.andThen (comma.andThen t)
      | none =>
        (expect size close b.rest).map fun t =>
          b.andThen (t.map fun span => (acc.reverse, height, span))
termination_by ts.length
decreasing_by
  have := b.rest_lt
  have := comma.rest_lt
  omega

/-- Reads the property name of a member access to `left`. -/
def memberTail (size : Nat) (optional : Bool) {ts : Tokens} (left : Taken Built ts) (ts' : Tokens)
    (h : ts'.length < left.rest.length) : Except ParseError (Further left) :=
  match ts', h with
  | [], _ => unexpectedEnd size .propertyName
  | t :: rest, h =>
    match t.value.name? with
    | none => .error ⟨.expectedProperty t.value, t.span.start⟩
    | some name => do
      let l := left.value
      checkHeight (l.height + 1) l.expr.span.start
      have h1 : rest.length < left.rest.length := Nat.lt_of_succ_lt h
      pure ⟨⟨⟨.member (l.expr.span.through t.span) l.expr name optional, l.height + 1⟩, rest,
        Nat.lt_trans h1 left.rest_lt⟩, h1⟩

/-- Reads the key of an index access to `left`; `ts'` starts with the opening bracket. -/
def indexTail (size : Nat) (sub : Reader) (optional : Bool) {ts : Tokens} (left : Taken Built ts)
    (ts' : Tokens) (h : ts'.length ≤ left.rest.length) : Except ParseError (Further left) := do
  let bracket ← expect size .openBracket ts'
  let key ← sub bracket.rest
  let close ← expect size .closeBracket key.rest
  let l := left.value
  let height := 1 + max l.height key.value.height
  checkHeight height l.expr.span.start
  have h1 := bracket.rest_lt
  have h2 := key.rest_lt
  have h3 := close.rest_lt
  have h4 := left.rest_lt
  let span := l.expr.span.through close.value
  pure ⟨⟨⟨.index span l.expr key.value.expr optional, height⟩, close.rest,
    by omega⟩, by show close.rest.length < _; omega⟩

/-- Reads the arguments of a call of `left`; `ts'` starts with the opening parenthesis. -/
def callTail (size : Nat) (sub : Reader) (optional : Bool) {ts : Tokens} (left : Taken Built ts)
    (ts' : Tokens) (h : ts'.length ≤ left.rest.length) : Except ParseError (Further left) := do
  let paren ← expect size .openParen ts'
  let l := left.value
  let args ← items size sub .closeParen [] l.height paren.rest
  let (exprs, height, close) := args.value
  checkHeight (height + 1) l.expr.span.start
  have h1 := paren.rest_lt
  have h2 := args.rest_lt
  have h3 := left.rest_lt
  let span := l.expr.span.through close
  pure ⟨⟨⟨.call span l.expr exprs optional, height + 1⟩, args.rest, by omega⟩,
    by show args.rest.length < _; omega⟩

/-- The access or call that follows `left`, if there is one. -/
def access? (size : Nat) (sub : Reader) {ts : Tokens} (left : Taken Built ts) :
    Option (Except ParseError (Further left)) :=
  match h : left.rest with
  | ⟨.symbol .dot, _⟩ :: more =>
    some (memberTail size false left more (by rw [h]; exact Nat.lt_succ_self _))
  | ⟨.symbol .questionDot, _⟩ :: more =>
    have hm : more.length < left.rest.length := by rw [h]; exact Nat.lt_succ_self _
    match more, hm with
    | ⟨.symbol .openBracket, _⟩ :: _, hm => some (indexTail size sub true left _ (Nat.le_of_lt hm))
    | ⟨.symbol .openParen, _⟩ :: _, hm => some (callTail size sub true left _ (Nat.le_of_lt hm))
    | more, hm => some (memberTail size true left more hm)
  | ⟨.symbol .openBracket, _⟩ :: _ => some (indexTail size sub false left left.rest (Nat.le_refl _))
  | ⟨.symbol .openParen, _⟩ :: _ => some (callTail size sub false left left.rest (Nat.le_refl _))
  | _ => none

/-- Goes on behind the operand `left` as long as an access or a call follows. -/
def accesses (size : Nat) (sub : Reader) {ts : Tokens} (left : Taken Built ts) :
    Except ParseError (Taken Built ts) :=
  match access? size sub left with
  | none => .ok left
  | some (.error e) => .error e
  | some (.ok ⟨t, _⟩) => accesses size sub t
termination_by left.rest.length

/-! ### Operands -/

/-- The parameters of an arrow function behind its opening parenthesis, and what follows its arrow;
`none` if the tokens are not those of a parameter list. -/
def arrowParams? (acc : List String) : (ts : Tokens) → Option (Left (List String) ts)
  | ⟨.name p, _⟩ :: ⟨.symbol .comma, _⟩ :: rest =>
    (arrowParams? (p :: acc) rest).bind fun l =>
      -- a comma must be followed by another parameter
      match rest with
      | ⟨.name _, _⟩ :: _ => some ((l.cons _).cons _)
      | _ => none
  | ⟨.name p, _⟩ :: ⟨.symbol .closeParen, _⟩ :: ⟨.symbol .arrow, _⟩ :: _ =>
    some (.drop 3 (p :: acc).reverse)
  | ⟨.symbol .closeParen, _⟩ :: ⟨.symbol .arrow, _⟩ :: _ =>
    some (.drop 2 acc.reverse)
  | _ => none

/-- Reads the body of an arrow function that starts at `start`; `ts` follows the arrow. -/
def lambdaBody (sub : Reader) (params : List String) (start : Nat) (ts : Tokens) :
    Except ParseError (Taken Built ts) :=
  match ts with
  | ⟨.symbol .openBrace, span⟩ :: ⟨.name "return", _⟩ :: _ => .error ⟨.blockBody, span.start⟩
  | ts => do
    let body ← sub ts
    let height := body.value.height + 1
    checkHeight height start
    let expr := Expr.lambda ⟨start, body.value.expr.span.stop⟩ params body.value.expr
    pure (body.map fun _ => ⟨expr, height⟩)

/-- A leaf of the tree. -/
def leaf {ts : Tokens} (e : Expr) (t : Spanned Token) : Taken Built (t :: ts) :=
  .first ⟨e, 1⟩

/-- A literal, which is the token `t`. -/
def literal {ts : Tokens} (v : Literal) (t : Spanned Token) : Taken Built (t :: ts) :=
  leaf (.literal t.span v) t

/-- Reads an operand that starts with a name. -/
def nameOperand (sub : Reader) (name : String) (t : Spanned Token) (rest : Tokens) :
    Except ParseError (Taken Built (t :: rest)) :=
  match rest with
  | ⟨.symbol .arrow, _⟩ :: rest' =>
    (lambdaBody sub [name] t.span.start rest').map fun b => b.cons.cons
  | _ =>
    match name with
    | "true" => .ok (literal (.bool true) t)
    | "false" => .ok (literal (.bool false) t)
    | "null" => .ok (literal .null t)
    | "undefined" => .ok (literal .undefined t)
    | "NaN" => .ok (literal (.number Number.nan) t)
    | "Infinity" => .ok (literal (.number Number.infinity) t)
    | name =>
      if unsupportedKeywords.contains name then .error ⟨.keyword name, t.span.start⟩
      else .ok (leaf (.ident t.span name) t)

/-- Reads the value of an entry behind its key, which is the token `t`. A key that is a name may
stand for its own value, if a comma or the closing brace follows. -/
def entryValue (size : Nat) (sub : Reader) (t : Spanned Token) :
    (ts : Tokens) → Except ParseError (Left Built ts)
  | [] => unexpectedEnd size (.symbol .colon)
  | u :: rest =>
    if u.value.isSymbol .colon then
      (sub rest).map fun b => b.toLeft.cons u
    else if u.value.isSymbol .comma ∨ u.value.isSymbol .closeBrace then
      match t.value.name? with
      | some name => .ok (.all ⟨.ident t.span name, 1⟩)
      | none => unexpected u
    else unexpected u

/-- The key of an entry that the token is. -/
def entryKey (t : Spanned Token) : Except ParseError String :=
  match t.value with
  | .name s | .string s => .ok s
  | .number x => .ok (Number.format x)
  | .symbol .openBracket => .error ⟨.computedKey, t.span.start⟩
  | .symbol _ => unexpected t

/-- Reads the entries of an object that starts at `start`, behind its opening brace or behind a
comma; `acc` holds the entries so far in reverse and `height` the greatest height among their
values. -/
def objectEntries (size : Nat) (sub : Reader) (start : Nat) (acc : List (String × Expr))
    (height : Nat) (ts : Tokens) : Except ParseError (Taken Built ts) :=
  match ts with
  | [] => unexpectedEnd size (.symbol .closeBrace)
  | t :: rest =>
    if t.value.isSymbol .closeBrace then do
      checkHeight (height + 1) start
      pure (.first ⟨.object ⟨start, t.span.stop⟩ acc.reverse, height + 1⟩)
    else match entryKey t with
      | .error e => .error e
      | .ok key =>
        match entryValue size sub t rest with
        | .error e => .error e
        | .ok ⟨b, after, h⟩ =>
          let acc := (key, b.expr) :: acc
          let height := max height b.height
          match after, h with
          | [], _ => unexpectedEnd size (.symbol .closeBrace)
          | u :: more, h =>
            if u.value.isSymbol .comma then
              (objectEntries size sub start acc height more).map fun b => (b.cons.ofLe h).cons
            else if u.value.isSymbol .closeBrace then do
              checkHeight (height + 1) start
              let object : Built := ⟨.object ⟨start, u.span.stop⟩ acc.reverse, height + 1⟩
              pure ((Taken.first object).ofLe h).cons
            else unexpected u
termination_by ts.length
decreasing_by
  simp only [List.length_cons] at h ⊢
  omega

/-- Reads an operand without the accesses that follow it. -/
def operand (size : Nat) (sub : Reader) (ts : Tokens) : Except ParseError (Taken Built ts) :=
  match ts with
  | [] => unexpectedEnd size .expression
  | t :: rest =>
    match t.value with
    | .number x => .ok (literal (.number x) t)
    | .string s => .ok (literal (.string s) t)
    | .name s => nameOperand sub s t rest
    | .symbol .openParen =>
      match arrowParams? [] rest with
      | some l =>
        (lambdaBody sub l.value t.span.start l.rest).map fun b => (b.ofLe l.rest_le).cons
      | none => do
        let inner ← sub rest
        let close ← expect size .closeParen inner.rest
        let span : Span := ⟨t.span.start, close.value.stop⟩
        let built := { inner.value with expr := inner.value.expr.withSpan span }
        pure (inner.andThen (close.map fun _ => built)).cons
    | .symbol .openBracket => do
      let list ← items size sub .closeBracket [] 0 rest
      let (exprs, height, close) := list.value
      checkHeight (height + 1) t.span.start
      pure (list.map fun _ => ⟨.array (t.span.through close) exprs, height + 1⟩).cons
    | .symbol .openBrace =>
      (objectEntries size sub t.span.start [] 0 rest).map Taken.cons
    | _ => unexpected t

/-- Reads an operand with its prefix operators and accesses; `deeper` reads what follows a prefix
operator, and `sub` an expression inside brackets. -/
def unaryWith (size : Nat) (deeper sub : Reader) (ts : Tokens) :
    Except ParseError (Taken Built ts) :=
  match ts with
  | [] => unexpectedEnd size .expression
  | t :: rest =>
    match t.value.unaryOp? with
    | some op => do
      let e ← deeper rest
      let height := e.value.height + 1
      checkHeight height t.span.start
      let expr := Expr.unary (t.span.through e.value.expr.span) op e.value.expr
      pure (e.map fun _ => ⟨expr, height⟩).cons
    | none => do
      let e ← operand size sub (t :: rest)
      accesses size sub e

/-- Reads an expression whose operators have at least the level `min`; `deeper` reads its operands
and `sub` what stands to the right of its operators. -/
def binaryWith (size : Nat) (deeper : Reader) (sub : Level → Reader) (min : Level) (ts : Tokens) :
    Except ParseError (Taken Built ts) := do
  let e ← deeper ts
  operators size sub min e

/-! ### The descent -/

mutual

/-- Reads an expression at the level `min`, nested at most `levels` deep. -/
def exprAt (size : Nat) : Nat → Level → Reader
  | 0, _, ts => tooDeep size ts
  | n + 1, min, ts => binaryWith size (unaryAt size n) (exprAt size n) min ts

/-- Reads an operand, nested at most `levels` deep. Inside brackets the levels are those of the
operand itself. -/
def unaryAt (size : Nat) : Nat → Reader
  | 0, ts => unaryWith size (fun ts => tooDeep size ts) (fun ts => tooDeep size ts) ts
  | n + 1, ts =>
    unaryWith size (unaryAt size n)
      (binaryWith size (unaryAt size n) (exprAt size n) Level.assignment) ts

end

/-- What stands inside the brackets of an operand is read at the levels of the operand. -/
theorem unaryAt_succ (size n : Nat) (ts : Tokens) :
    unaryAt size (n + 1) ts =
      unaryWith size (unaryAt size n) (exprAt size (n + 1) Level.assignment) ts := rfl

/-- Reads all tokens as one expression; no tokens are the constant `undefined`. -/
def parseTokens (size : Nat) (ts : Tokens) : Except ParseError Built :=
  if ts.isEmpty then .ok ⟨.literal ⟨0, 0⟩ .undefined, 1⟩
  else do
    let e ← exprAt size maxDepth Level.assignment ts
    match e.rest with
    | [] => pure e.value
    | t :: _ =>
      if t.value.isSymbol .semicolon then .error ⟨.statements, t.span.start⟩ else unexpected t

end Parser

/-- Reads a text as one expression. -/
def Expr.parse (text : List Char) : Except ParseError Expr := do
  let ts ← tokenize text
  let b ← Parser.parseTokens (byteLength text) ts
  pure b.expr

end TemplateExpr
