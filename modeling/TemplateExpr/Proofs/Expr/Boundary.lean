import TemplateExpr.Proofs.Expr.Printer

/-!
# Where expressions start and end

The parser looks at the token behind an expression to find its end, and at the first tokens of an
expression to tell parentheses, parameters, lists and blocks apart. `Stops level` holds of what ends
an expression that is read at a level, and `Opening` of the tokens of every expression.
-/

namespace TemplateExpr.Parser

open TemplateExpr.Text TemplateExpr.Expr

/-! ### Tokens without places -/

/-- Tokens that all stand at the start of the text. -/
def place (ts : List Token) : Tokens := ts.map fun t => ⟨t, default⟩

@[simp] theorem place_nil : place [] = [] := rfl

@[simp] theorem place_cons (t : Token) (ts : List Token) :
    place (t :: ts) = ⟨t, default⟩ :: place ts := rfl

@[simp] theorem place_append (ts us : List Token) : place (ts ++ us) = place ts ++ place us :=
  List.map_append

variable {size n : Nat} {e : Expr} {rest : Tokens} {level : Level}

theorem checkHeight_ok {height : Nat} (h : height ≤ maxDepth) (offset : Nat) :
    checkHeight height offset = .ok () :=
  if_neg (Nat.not_lt.2 h)

theorem ok_bind {α β : Type} (a : α) (f : α → Except ParseError β) :
    (Except.ok a >>= f) = f a :=
  rfl

/-- What is built of an expression at the start of the text. -/
def built (e : Expr) : Built := ⟨e.unplaced, e.height⟩

/-- `r` goes on with `k` behind the value `v`, with `rest` still unread. -/
def GoesOn {α : Type} {ts : Tokens} (k : Taken α ts → Except ParseError (Taken α ts))
    (r : Except ParseError (Taken α ts)) (v : α) (rest : Tokens) : Prop :=
  ∃ h, r = k ⟨v, rest, h⟩

/-! ### Ends of expressions -/

/-- No arrow follows, so a name is not the parameter of a function. -/
def NoArrow (rest : Tokens) : Prop := ∀ sp more, rest ≠ ⟨.symbol .arrow, sp⟩ :: more

theorem value_eq {t u : Spanned Token} {ts us : Tokens} (h : t :: ts = u :: us) :
    t.value = u.value :=
  congrArg Spanned.value (List.cons.inj h).1

theorem noArrow_symbol {s : Symbol} (hs : s ≠ .arrow) (sp : Span) (more : Tokens) :
    NoArrow (⟨.symbol s, sp⟩ :: more) := by
  intro sp' more' heq
  exact hs (Token.symbol.inj (value_eq heq))

/-- Symbols behind an expression in a list. -/
def Closes (s : Symbol) : Prop :=
  s = .comma ∨ s = .closeParen ∨ s = .closeBracket ∨ s = .closeBrace

/-- The symbol ends an expression that is read at a level. -/
structure EndsAt (level : Level) (s : Symbol) : Prop where
  ne_arrow : s ≠ .arrow
  not_access : ¬startsAccess s
  question : s = .question → Level.conditional < level
  assign : s = .assign → Level.assignment < level
  operator : ∀ op, s.binaryOp? = some op → op.level < level

/-- An expression that is read at a level ends here. -/
def Stops (level : Level) (rest : Tokens) : Prop :=
  ∀ s sp more, rest = ⟨.symbol s, sp⟩ :: more → EndsAt level s

theorem EndsAt.mono {level' : Level} (hle : level ≤ level') {s : Symbol} (h : EndsAt level s) :
    EndsAt level' s where
  ne_arrow := h.ne_arrow
  not_access := h.not_access
  question hs := Nat.lt_of_lt_of_le (h.question hs) hle
  assign hs := Nat.lt_of_lt_of_le (h.assign hs) hle
  operator op hop := Nat.lt_of_lt_of_le (h.operator op hop) hle

/-- What follows an expression in a list or in brackets. -/
theorem endsAt_closes {s : Symbol} (hs : Closes s) (level : Level) : EndsAt level s := by
  rcases hs with rfl | rfl | rfl | rfl <;>
    exact ⟨by simp, by simp [startsAccess], by simp, by simp, fun op hop => by cases hop⟩

/-- An expression ends in front of an operator that binds more loosely than its end. -/
theorem endsAt_operator {op : BinaryOp} (h : op.level < level) : EndsAt level op.symbol where
  ne_arrow := by cases op <;> decide
  not_access := by cases op <;> simp [BinaryOp.symbol, startsAccess]
  question hsymbol := by cases op <;> cases hsymbol
  assign hsymbol := by cases op <;> cases hsymbol
  operator op' hop := by
    rw [op.binaryOp?_symbol] at hop
    cases hop
    exact h

theorem endsAt_question (h : Level.conditional < level) : EndsAt level .question where
  ne_arrow := by decide
  not_access := by simp [startsAccess]
  question _ := h
  assign hsymbol := by cases hsymbol
  operator _ hop := by cases hop

theorem endsAt_assign (h : Level.assignment < level) : EndsAt level .assign where
  ne_arrow := by decide
  not_access := by simp [startsAccess]
  question hsymbol := by cases hsymbol
  assign _ := h
  operator _ hop := by cases hop

namespace Stops

variable {level' : Level}

theorem symbol {s : Symbol} (h : EndsAt level s) (sp : Span) (more : Tokens) :
    Stops level (⟨.symbol s, sp⟩ :: more) := by
  intro s' sp' more' heq
  cases heq
  exact h

theorem nil : Stops level [] := by
  intro s sp more heq
  cases heq

theorem mono (hle : level ≤ level') (h : Stops level rest) : Stops level' rest :=
  fun s sp more heq => (h s sp more heq).mono hle

theorem noArrow (h : Stops level rest) : NoArrow rest :=
  fun sp more heq => (h .arrow sp more heq).ne_arrow rfl

end Stops

theorem noArrow_mark {s : Symbol} (hs : s ≠ .arrow) (optional : Bool) (sp : Span) (more : Tokens) :
    NoArrow (place (optionalMark optional) ++ ⟨.symbol s, sp⟩ :: more) := by
  cases optional with
  | true => exact noArrow_symbol (by simp) _ _
  | false => exact noArrow_symbol hs _ _

/-! ### Operands -/

theorem unaryAt_operand {t : Spanned Token} (h : t.value.unaryOp? = none) (ts : Tokens) :
    unaryAt size n (t :: ts) =
      operand size (exprAt size n Level.assignment) (t :: ts) >>=
        accesses size (exprAt size n Level.assignment) := by
  cases n with
  | zero =>
    have hzero : unaryAt size 0 (t :: ts) =
        unaryWith size (exprAt size 0 Level.assignment) (exprAt size 0 Level.assignment)
          (t :: ts) := rfl
    rw [hzero, unaryWith, h]
  | succ n => rw [unaryAt_succ, unaryWith, h]

theorem exprAt_succ (min : Level) (ts : Tokens) :
    exprAt size (n + 1) min ts = unaryAt size n ts >>= operators size (exprAt size n) min := by
  rw [exprAt, binaryWith]

theorem unaryOp?_token (l : Literal) : l.token.unaryOp? = none := by
  cases l with
  | number x =>
    rw [Literal.token]
    split_ifs <;> rfl
  | bool b => cases b <;> rfl
  | string s => rfl
  | null => rfl
  | undefined => rfl

theorem unaryOp?_name {name : String} (h : name ∉ reservedWords) :
    (Token.name name).unaryOp? = none := by
  unfold Token.unaryOp?
  split
  next heq => cases heq
  next heq => cases heq
  next heq => cases heq
  next heq =>
    cases heq
    exact absurd (by decide) h
  next => rfl

theorem unaryOp?_symbol (op : UnaryOp) : op.token.unaryOp? = some op := by
  cases op <;> rfl

/-! ### Starts of expressions -/

/-- What follows does not go on with a list of parameters. -/
structure NotListed (rest : Tokens) : Prop where
  comma : ∀ sp more, rest ≠ ⟨.symbol .comma, sp⟩ :: more
  arrow : ∀ sp sp' more, rest ≠ ⟨.symbol .closeParen, sp⟩ :: ⟨.symbol .arrow, sp'⟩ :: more

theorem notListed_symbol {s : Symbol} (h : ¬Closes s) (sp : Span) (more : Tokens) :
    NotListed (⟨.symbol s, sp⟩ :: more) := by
  constructor
  · rintro sp' more' heq
    cases heq
    exact h (.inl rfl)
  · rintro sp' sp'' more' heq
    cases heq
    exact h (.inr (.inl rfl))

theorem arrowParams?_eq_none {acc : List String} {ts : Tokens}
    (hname : ∀ p sp us, ts = ⟨.name p, sp⟩ :: us → NotListed us)
    (hclose : ∀ sp us, ts ≠ ⟨.symbol .closeParen, sp⟩ :: us) : arrowParams? acc ts = none := by
  rw [arrowParams?.eq_def]
  split
  · exact absurd rfl ((hname _ _ _ rfl).comma _ _)
  · exact absurd rfl ((hname _ _ _ rfl).arrow _ _ _)
  · exact absurd rfl (hclose _ _)
  · rfl

/-- The tokens start an expression, not the parameters of a function or the block of one, and not
what closes a list. -/
structure Opening (ts : List Token) : Prop where
  noParams : ∀ rest, NotListed rest → arrowParams? [] (place ts ++ rest) = none
  noBlock : ∀ rest sp sp' more,
    place ts ++ rest ≠ ⟨.symbol .openBrace, sp⟩ :: ⟨.name "return", sp'⟩ :: more
  noClose : ∀ s, Closes s → ∀ rest sp more, place ts ++ rest ≠ ⟨.symbol s, sp⟩ :: more

namespace Opening

variable {ts us : List Token}

theorem notListed (h : Opening ts) (rest : Tokens) : NotListed (place ts ++ rest) :=
  ⟨fun _ _ => h.noClose .comma (.inl rfl) rest _ _,
    fun _ _ _ => h.noClose .closeParen (.inr (.inl rfl)) rest _ _⟩

/-- A number, a string or a name. -/
theorem word {t : Token} (ht : ∀ s, t ≠ .symbol s)
    (hts : ∀ rest, NotListed rest → NotListed (place ts ++ rest)) : Opening (t :: ts) where
  noParams rest hrest := by
    refine arrowParams?_eq_none (fun p sp us heq => ?_) fun sp us heq => ht _ (value_eq heq)
    rw [← (List.cons.inj heq).2]
    exact hts rest hrest
  noBlock _ _ _ _ heq := ht _ (value_eq heq)
  noClose _ _ _ _ _ heq := ht _ (value_eq heq)

theorem noParams_symbol {s : Symbol} (hs : ¬Closes s) (ts : Tokens) :
    arrowParams? [] (⟨.symbol s, default⟩ :: ts) = none := by
  refine arrowParams?_eq_none (fun p sp us heq => ?_) fun sp us heq => hs ?_
  · cases value_eq heq
  · cases value_eq heq
    exact .inr (.inl rfl)

theorem noClose_symbol {s : Symbol} (hs : ¬Closes s) (ts : Tokens) {s' : Symbol} (hs' : Closes s')
    (sp : Span) (more : Tokens) : ⟨.symbol s, default⟩ :: ts ≠ ⟨.symbol s', sp⟩ :: more := by
  intro heq
  cases value_eq heq
  exact hs hs'

theorem symbol {s : Symbol} (hs : ¬Closes s) (hbrace : s ≠ .openBrace) (ts : List Token) :
    Opening (.symbol s :: ts) where
  noParams _ _ := noParams_symbol hs _
  noBlock _ _ _ _ heq := hbrace (Token.symbol.inj (value_eq heq))
  noClose _ hs' _ := noClose_symbol hs _ hs'

/-- A brace in front of anything but a name. -/
theorem brace {t : Token} (ht : t.name? = none) (ts : List Token) :
    Opening (.symbol .openBrace :: t :: ts) where
  noParams _ _ := noParams_symbol (by simp [Closes]) _
  noBlock _ _ _ _ heq := by
    have htoken : t = .name "return" := value_eq (List.cons.inj heq).2
    rw [htoken] at ht
    cases ht
  noClose _ hs' _ := noClose_symbol (by simp [Closes]) _ hs'

theorem enclose (h : Opening ts) (asked level : Level) : Opening (Expr.enclose asked level ts) := by
  unfold Expr.enclose
  split
  · exact symbol (by simp [Closes]) (by simp) _
  · exact h

/-- An expression in front of a symbol that closes nothing. -/
theorem append_symbol (h : Opening ts) {s : Symbol} (hs : ¬Closes s) (us : List Token) :
    Opening (ts ++ .symbol s :: us) where
  noParams rest _ := by
    rw [place_append, List.append_assoc]
    exact h.noParams _ (notListed_symbol hs _ _)
  noBlock rest := by
    rw [place_append, List.append_assoc]
    exact h.noBlock _
  noClose s hs rest := by
    rw [place_append, List.append_assoc]
    exact h.noClose s hs _

/-- An expression in front of a bracket, which may have a mark before it. -/
theorem append_mark (h : Opening ts) {s : Symbol} (hs : ¬Closes s) (optional : Bool)
    (us : List Token) : Opening (ts ++ (optionalMark optional ++ .symbol s :: us)) := by
  cases optional with
  | true => exact h.append_symbol (by simp [Closes]) _
  | false => exact h.append_symbol hs _

/-- Expressions start as expressions do. -/
theorem print (h : e.Printable) : Opening e.print := by
  induction h with
  | literal span l =>
    rw [Expr.print]
    exact word l.token_ne_symbol fun _ hrest => hrest
  | ident span _ =>
    rw [Expr.print]
    exact word (fun s hs => by cases hs) fun _ hrest => hrest
  | array span _ =>
    rw [Expr.print]
    exact symbol (by simp [Closes]) (by simp) _
  | @object span entries _ _ =>
    rw [Expr.print]
    cases entries with
    | nil => exact brace rfl _
    | cons f entries => cases entries <;> exact brace rfl _
  | member span name optional _ ih =>
    rw [Expr.print]
    exact (ih.enclose _ _).append_symbol (by cases optional <;> simp [Closes]) _
  | index span optional _ _ ih _ =>
    simp only [Expr.print, List.append_assoc, List.cons_append]
    exact (ih.enclose _ _).append_mark (by simp [Closes]) _ _
  | call span optional _ _ ih _ =>
    simp only [Expr.print, List.append_assoc, List.cons_append]
    exact (ih.enclose _ _).append_mark (by simp [Closes]) _ _
  | unary span op _ ih =>
    rw [Expr.print]
    cases op with
    | typeOf =>
      exact word (fun s hs => by cases hs) fun rest _ => (ih.enclose _ _).notListed rest
    | _ => exact symbol (by simp [Closes]) (by simp) _
  | binary span op _ _ ih _ =>
    rw [Expr.print]
    exact (ih.enclose _ _).append_symbol (by cases op <;> simp [BinaryOp.symbol, Closes]) _
  | conditional span _ _ _ ih _ _ =>
    simp only [Expr.print, List.append_assoc, List.cons_append]
    exact (ih.enclose _ _).append_symbol (by simp [Closes]) _
  | lambda span params _ _ =>
    rw [Expr.print]
    exact symbol (by simp [Closes]) (by simp) _
  | assign span _ _ ih _ =>
    rw [Expr.print]
    exact (ih.enclose _ _).append_symbol (by simp [Closes]) _

end Opening

end TemplateExpr.Parser
