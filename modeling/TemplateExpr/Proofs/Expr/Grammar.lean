import Mathlib.Logic.Relation
import TemplateExpr.Proofs.Expr.Boundary
import TemplateExpr.Proofs.Expr.Reading

/-!
# The grammar of the parser

What the functions of the parser take off the tokens, as rules: one rule for each operation, access
and kind of operand, whose premises say what is read in between and what must not follow. Each
function reads exactly what its rules say (`gets_unaryWith`, `gets_exprAt_succ`), so a result can be
taken apart into what it was read from, and put together again from other tokens.
-/

namespace TemplateExpr.Parser

open TemplateExpr.Text

/-! ### What is read -/

/-- The reader builds `b` of the tokens in front of `rest`. -/
abbrev Gets (r : Reader) (ts : Tokens) (b : Built) (rest : Tokens) : Prop :=
  GoesOn .ok (r ts) b rest

/-- The tokens do not start with the symbol. -/
def NotAt (s : Symbol) (ts : Tokens) : Prop := ∀ sp more, ts ≠ ⟨.symbol s, sp⟩ :: more

/-- An operation of at least the level `min` with the left operand `l`. -/
inductive Operation (sub : Level → Reader) (min : Level) (l : Built) :
    Tokens → Built → Tokens → Prop
  | conditional {sp sp' : Span} {ts mid rest : Tokens} {c a : Built} :
    min ≤ Level.conditional →
    Gets (sub Level.assignment) ts c (⟨.symbol .colon, sp'⟩ :: mid) →
    Gets (sub Level.assignment) mid a rest →
    1 + max (max l.height c.height) a.height ≤ maxDepth →
    Operation sub min l (⟨.symbol .question, sp⟩ :: ts)
      ⟨.conditional (l.expr.span.through a.expr.span) l.expr c.expr a.expr,
        1 + max (max l.height c.height) a.height⟩ rest
  | assign {sp : Span} {ts rest : Tokens} {v : Built} :
    min ≤ Level.assignment → Gets (sub Level.assignment) ts v rest →
    1 + max l.height v.height ≤ maxDepth →
    Operation sub min l (⟨.symbol .assign, sp⟩ :: ts)
      ⟨.assign (l.expr.span.through v.expr.span) l.expr v.expr, 1 + max l.height v.height⟩ rest
  | binary {s : Symbol} {sp : Span} {op : BinaryOp} {ts rest : Tokens} {r : Built} :
    s.binaryOp? = some op → min ≤ op.level → Gets (sub op.rightLevel) ts r rest →
    1 + max l.height r.height ≤ maxDepth →
    Operation sub min l (⟨.symbol s, sp⟩ :: ts)
      ⟨.binary (l.expr.span.through r.expr.span) op l.expr r.expr, 1 + max l.height r.height⟩ rest

/-- No operation of at least the level `min` follows. -/
def Settled (min : Level) (rest : Tokens) : Prop :=
  ∀ s sp more, rest = ⟨.symbol s, sp⟩ :: more →
    (s = .question → Level.conditional < min) ∧ (s = .assign → Level.assignment < min) ∧
      ∀ op, s.binaryOp? = some op → op.level < min

/-- The items of a list up to the closing symbol, the greatest of their heights, and the span of the
closing symbol. -/
inductive Items (sub : Reader) (close : Symbol) :
    Tokens → List Expr → Nat → Span → Tokens → Prop
  | empty (sp : Span) (rest : Tokens) : Items sub close (⟨.symbol close, sp⟩ :: rest) [] 0 sp rest
  | last {ts rest : Tokens} {b : Built} {sp : Span} :
    NotAt close ts → Gets sub ts b (⟨.symbol close, sp⟩ :: rest) →
    Items sub close ts [b.expr] b.height sp rest
  | more {ts mid rest : Tokens} {b : Built} {es : List Expr} {height : Nat} {sp sp' : Span} :
    NotAt close ts → Gets sub ts b (⟨.symbol .comma, sp'⟩ :: mid) →
    Items sub close mid es height sp rest →
    Items sub close ts (b.expr :: es) (max b.height height) sp rest

/-- The mark of an optional access. -/
inductive Mark : Bool → Tokens → Prop
  | plain : Mark false []
  | optional (sp : Span) : Mark true [⟨.symbol .questionDot, sp⟩]

/-- An access to `l`, or a call of it. -/
inductive Access (sub : Reader) (l : Built) : Tokens → Built → Tokens → Prop
  | member {sp : Span} {t : Spanned Token} {rest : Tokens} {name : String} (optional : Bool) :
    t.value.name? = some name → l.height + 1 ≤ maxDepth →
    Access sub l (⟨.symbol (if optional then .questionDot else .dot), sp⟩ :: t :: rest)
      ⟨.member (l.expr.span.through t.span) l.expr name optional, l.height + 1⟩ rest
  | index {mark ts rest : Tokens} {optional : Bool} {sp sp' : Span} {key : Built} :
    Mark optional mark → Gets sub ts key (⟨.symbol .closeBracket, sp'⟩ :: rest) →
    1 + max l.height key.height ≤ maxDepth →
    Access sub l (mark ++ ⟨.symbol .openBracket, sp⟩ :: ts)
      ⟨.index (l.expr.span.through sp') l.expr key.expr optional, 1 + max l.height key.height⟩ rest
  | call {mark ts rest : Tokens} {optional : Bool} {sp sp' : Span} {es : List Expr}
      {height : Nat} :
    Mark optional mark → Items sub .closeParen ts es height sp' rest →
    max l.height height + 1 ≤ maxDepth →
    Access sub l (mark ++ ⟨.symbol .openParen, sp⟩ :: ts)
      ⟨.call (l.expr.span.through sp') l.expr es optional, max l.height height + 1⟩ rest

/-- No access and no call follows. -/
def Unaccessed (rest : Tokens) : Prop :=
  ∀ s sp more, startsAccess s → rest ≠ ⟨.symbol s, sp⟩ :: more

/-- What a loop builds in any number of steps. -/
abbrev Loop (step : Built → Tokens → Built → Tokens → Prop) :
    Built × Tokens → Built × Tokens → Prop :=
  Relation.ReflTransGen fun p q => step p.1 p.2 q.1 q.2

/-- The tokens do not start with a block that returns. -/
def NoBlock (ts : Tokens) : Prop :=
  ∀ sp sp' more, ts ≠ ⟨.symbol .openBrace, sp⟩ :: ⟨.name "return", sp'⟩ :: more

/-- The function with the given parameters that starts at `start`, behind its arrow. -/
inductive Body (sub : Reader) (params : List String) (start : Nat) :
    Tokens → Built → Tokens → Prop
  | mk {ts rest : Tokens} {b : Built} :
    NoBlock ts → Gets sub ts b rest → b.height + 1 ≤ maxDepth →
    Body sub params start ts
      ⟨.lambda ⟨start, b.expr.span.stop⟩ params b.expr, b.height + 1⟩ rest

/-- The names that stand for literals. -/
def literalNames : List (String × Literal) :=
  [("true", .bool true), ("false", .bool false), ("null", .null), ("undefined", .undefined),
   ("NaN", .number Number.nan), ("Infinity", .number Number.infinity)]

/-- The leaf that a name is. -/
def nameLeaf? (name : String) (span : Span) : Option Expr :=
  match literalNames.lookup name with
  | some l => some (.literal span l)
  | none => if unsupportedKeywords.contains name then none else some (.ident span name)

/-- An entry of an object. -/
inductive Entry (sub : Reader) : Tokens → String → Built → Tokens → Prop
  | written {t : Spanned Token} {ts rest : Tokens} {key : String} {sp : Span} {b : Built} :
    entryKey t = .ok key → Gets sub ts b rest →
    Entry sub (t :: ⟨.symbol .colon, sp⟩ :: ts) key b rest
  | short {sp sp' : Span} {s : Symbol} {key : String} (rest : Tokens) :
    s = .comma ∨ s = .closeBrace →
    Entry sub (⟨.name key, sp⟩ :: ⟨.symbol s, sp'⟩ :: rest) key ⟨.ident sp key, 1⟩
      (⟨.symbol s, sp'⟩ :: rest)

/-- The entries of an object up to its closing brace, the greatest of the heights of their values,
and the span of the closing brace. -/
inductive Entries (sub : Reader) :
    Tokens → List (String × Expr) → Nat → Span → Tokens → Prop
  | empty (sp : Span) (rest : Tokens) :
    Entries sub (⟨.symbol .closeBrace, sp⟩ :: rest) [] 0 sp rest
  | last {ts rest : Tokens} {key : String} {b : Built} {sp : Span} :
    Entry sub ts key b (⟨.symbol .closeBrace, sp⟩ :: rest) →
    Entries sub ts [(key, b.expr)] b.height sp rest
  | more {ts mid rest : Tokens} {key : String} {b : Built} {es : List (String × Expr)}
      {height : Nat} {sp sp' : Span} :
    Entry sub ts key b (⟨.symbol .comma, sp'⟩ :: mid) → Entries sub mid es height sp rest →
    Entries sub ts ((key, b.expr) :: es) (max b.height height) sp rest

/-- An operand without the accesses that follow it. -/
inductive Operand (sub : Reader) : Tokens → Built → Tokens → Prop
  | number (x : Float) (sp : Span) (rest : Tokens) :
    Operand sub (⟨.number x, sp⟩ :: rest) ⟨.literal sp (.number x), 1⟩ rest
  | string (s : String) (sp : Span) (rest : Tokens) :
    Operand sub (⟨.string s, sp⟩ :: rest) ⟨.literal sp (.string s), 1⟩ rest
  | name {name : String} {sp : Span} {rest : Tokens} {e : Expr} :
    NoArrow rest → nameLeaf? name sp = some e → Operand sub (⟨.name name, sp⟩ :: rest) ⟨e, 1⟩ rest
  | function {name : String} {sp sp' : Span} {ts rest : Tokens} {b : Built} :
    Body sub [name] sp.start ts b rest →
    Operand sub (⟨.name name, sp⟩ :: ⟨.symbol .arrow, sp'⟩ :: ts) b rest
  | functionOf {sp : Span} {ts rest : Tokens} {l : Left (List String) ts} {b : Built} :
    arrowParams? [] ts = some l → Body sub l.value sp.start l.rest b rest →
    Operand sub (⟨.symbol .openParen, sp⟩ :: ts) b rest
  | group {sp sp' : Span} {ts rest : Tokens} {b : Built} :
    arrowParams? [] ts = none → Gets sub ts b (⟨.symbol .closeParen, sp'⟩ :: rest) →
    Operand sub (⟨.symbol .openParen, sp⟩ :: ts)
      ⟨b.expr.withSpan (sp.through sp'), b.height⟩ rest
  | array {sp sp' : Span} {ts rest : Tokens} {es : List Expr} {height : Nat} :
    Items sub .closeBracket ts es height sp' rest → height + 1 ≤ maxDepth →
    Operand sub (⟨.symbol .openBracket, sp⟩ :: ts) ⟨.array (sp.through sp') es, height + 1⟩ rest
  | object {sp sp' : Span} {ts rest : Tokens} {es : List (String × Expr)} {height : Nat} :
    Entries sub ts es height sp' rest → height + 1 ≤ maxDepth →
    Operand sub (⟨.symbol .openBrace, sp⟩ :: ts) ⟨.object (sp.through sp') es, height + 1⟩ rest

/-- An operand with its prefix operators and accesses. -/
inductive Unary (deeper sub : Reader) : Tokens → Built → Tokens → Prop
  | operator {t : Spanned Token} {op : UnaryOp} {ts rest : Tokens} {b : Built} :
    t.value.unaryOp? = some op → Gets deeper ts b rest → b.height + 1 ≤ maxDepth →
    Unary deeper sub (t :: ts)
      ⟨.unary (t.span.through b.expr.span) op b.expr, b.height + 1⟩ rest
  | operand {t : Spanned Token} {ts mid rest : Tokens} {l b : Built} :
    t.value.unaryOp? = none → Operand sub (t :: ts) l mid →
    Loop (Access sub) (l, mid) (b, rest) → Unaccessed rest → Unary deeper sub (t :: ts) b rest

/-! ### What the functions give -/

variable {ts ts' mid rest : Tokens} {size : Nat} {sub : Level → Reader} {min : Level} {inner : Reader}
  {left : Taken Built ts} {l b : Built}

/-- A calculation gives what satisfies `P`, if it does not fail. -/
abbrev Gives {α : Type} (P : α → Prop) (x : Except ParseError α) : Prop :=
  EndsIn (fun _ => True) P x

theorem gives_checkHeight (height offset : Nat) :
    Gives (fun _ => height ≤ maxDepth) (checkHeight height offset) := by
  rw [checkHeight]
  split
  · trivial
  · next h => exact Nat.le_of_not_lt h

theorem GoesOn.bind {r : Except ParseError (Taken Built ts)}
    {k : Taken Built ts → Except ParseError (Taken Built ts)} (h : GoesOn .ok r b rest) :
    GoesOn k (r >>= k) b rest := by
  obtain ⟨hlt, rfl⟩ := h
  exact ⟨hlt, rfl⟩

theorem gives_gets (r : Reader) (ts : Tokens) :
    Gives (fun t => Gets r ts t.value t.rest) (r ts) := by
  cases h : r ts with
  | error e => trivial
  | ok t => exact ⟨t.rest_lt, h⟩

theorem gives_symbol (size : Nat) (s : Symbol) (ts : Tokens) :
    Gives (fun t : Taken Span ts => ts = ⟨.symbol s, t.value⟩ :: t.rest) (expect size s ts) := by
  cases ts with
  | nil => trivial
  | cons t ts =>
    rw [expect]
    split
    · next hs =>
      obtain ⟨value, sp⟩ := t
      obtain rfl : value = .symbol s := eq_of_isSymbol hs
      rfl
    · trivial

theorem expect_symbol (size : Nat) (s : Symbol) (sp : Span) (ts : Tokens) :
    expect size s (⟨.symbol s, sp⟩ :: ts) = .ok (.first sp) :=
  if_pos (by simp [Token.isSymbol])

theorem symbol?_symbol (s : Symbol) (sp : Span) (ts : Tokens) :
    symbol? s (⟨.symbol s, sp⟩ :: ts) = some (.first sp) :=
  if_pos (by simp [Token.isSymbol])

theorem symbol?_eq_none {s : Symbol} (h : NotAt s ts) : symbol? s ts = none := by
  cases ts with
  | nil => rfl
  | cons t ts =>
    refine if_neg fun hs => ?_
    obtain ⟨value, sp⟩ := t
    obtain rfl : value = .symbol s := eq_of_isSymbol hs
    exact h sp ts rfl

theorem eq_of_symbol? {s : Symbol} {t : Taken Span ts} (h : symbol? s ts = some t) :
    ts = ⟨.symbol s, t.value⟩ :: t.rest := by
  by_cases hs : ∃ sp more, ts = ⟨.symbol s, sp⟩ :: more
  · obtain ⟨sp, more, rfl⟩ := hs
    rw [symbol?_symbol] at h
    obtain rfl := Option.some.inj h
    rfl
  · rw [symbol?_eq_none fun sp more hts => hs ⟨sp, more, hts⟩] at h
    cases h

/-! ### Operations -/

/-- `r` is the value `b` behind `left`, with `rest` still unread. -/
def Extends (r : Except ParseError (Further left)) (b : Built) (rest : Tokens) : Prop :=
  ∃ h h', r = .ok ⟨⟨b, rest, h⟩, h'⟩

theorem operatorsBehind_extends {r : Except ParseError (Further left)} (hr : Extends r b rest) :
    GoesOn (operators size sub min) (operatorsBehind size sub min r) b rest := by
  obtain ⟨hlt, hlt', rfl⟩ := hr
  exact ⟨hlt, rfl⟩

theorem gives_conditional (hmin : min ≤ Level.conditional) {sp : Span}
    (hmid : mid = ⟨.symbol .question, sp⟩ :: ts') (h : ts'.length < left.rest.length) :
    Gives (fun f : Further left => Operation sub min left.value mid f.1.value f.1.rest)
      (conditionalTail size sub left ts' h) := by
  subst hmid
  refine (gives_gets _ ts').bind fun c hc => ?_
  refine (gives_symbol size .colon c.rest).bind fun colon hcolon => ?_
  refine (gives_gets _ colon.rest).bind fun a ha => ?_
  refine (gives_checkHeight _ _).bind fun _ hheight => ?_
  exact .conditional hmin (hcolon ▸ hc) ha hheight

theorem gives_assign (hmin : min ≤ Level.assignment) {sp : Span}
    (hmid : mid = ⟨.symbol .assign, sp⟩ :: ts') (h : ts'.length < left.rest.length) :
    Gives (fun f : Further left => Operation sub min left.value mid f.1.value f.1.rest)
      (assignmentTail sub left ts' h) := by
  subst hmid
  refine (gives_gets _ ts').bind fun v hv => ?_
  exact (gives_checkHeight _ _).bind fun _ hheight => .assign hmin hv hheight

theorem gives_binary {s : Symbol} {op : BinaryOp} (hop : s.binaryOp? = some op)
    (hmin : min ≤ op.level) {sp : Span} (hmid : mid = ⟨.symbol s, sp⟩ :: ts')
    (h : ts'.length < left.rest.length) :
    Gives (fun f : Further left => Operation sub min left.value mid f.1.value f.1.rest)
      (operatorTail sub op left ts' h) := by
  subst hmid
  refine (gives_gets _ ts').bind fun r hr => ?_
  exact (gives_checkHeight _ _).bind fun _ hheight => .binary hop hmin hr hheight

/-- The loop over operators takes one operation after the other until none follows. -/
theorem loop_operators (size : Nat) (sub : Level → Reader) (min : Level) (left : Taken Built ts) :
    Gives (fun t => Loop (Operation sub min) (left.value, left.rest) (t.value, t.rest) ∧
        Settled min t.rest)
      (operators size sub min left) := by
  induction hn : left.rest.length using Nat.strongRecOn generalizing left with
  | ind n ih =>
    subst hn
    have hbehind {r : Except ParseError (Further left)}
        (hr : Gives (fun f : Further left =>
          Operation sub min left.value left.rest f.1.value f.1.rest) r) :
        Gives (fun t => Loop (Operation sub min) (left.value, left.rest) (t.value, t.rest) ∧
          Settled min t.rest) (operatorsBehind size sub min r) := by
      cases r with
      | error e => trivial
      | ok f =>
        have hstep : Operation sub min left.value left.rest f.1.value f.1.rest := hr
        exact (ih _ f.2 f.1 rfl).mono (fun _ he => he) fun t ht =>
          ⟨.head (b := (f.1.value, f.1.rest)) hstep ht.1, ht.2⟩
    by_cases hsymbol : ∃ s sp more, left.rest = ⟨.symbol s, sp⟩ :: more
    · obtain ⟨s, sp, more, hrest⟩ := hsymbol
      have hm : more.length < left.rest.length := by rw [hrest]; exact Nat.lt_succ_self _
      have hstop (hquestion : ¬(s = .question ∧ min ≤ Level.conditional))
          (hassign : ¬(s = .assign ∧ min ≤ Level.assignment))
          (hop : ∀ op, s.binaryOp? = some op → op.level < min) :
          Loop (Operation sub min) (left.value, left.rest) (left.value, left.rest) ∧
            Settled min left.rest := by
        refine ⟨.refl, fun s' sp' more' heq => ?_⟩
        obtain rfl : s = s' := Token.symbol.inj (value_eq (hrest.symm.trans heq))
        exact ⟨fun hs => Nat.lt_of_not_le fun hle => hquestion ⟨hs, hle⟩,
          fun hs => Nat.lt_of_not_le fun hle => hassign ⟨hs, hle⟩, hop⟩
      rw [operators_symbol size sub min hrest hm]
      split
      · next hs =>
        obtain ⟨rfl, hmin⟩ := hs
        exact hbehind (gives_conditional hmin hrest hm)
      next hquestion =>
      split
      · next hs =>
        obtain ⟨rfl, hmin⟩ := hs
        exact hbehind (gives_assign hmin hrest hm)
      next hassign =>
      split
      · next hnone => exact hstop hquestion hassign fun op hop => by rw [hnone] at hop; cases hop
      next op hop =>
      split
      · next hlt =>
        refine hstop hquestion hassign fun op' hop' => ?_
        obtain rfl : op = op' := Option.some.inj (hop.symm.trans hop')
        exact hlt
      · next hge => exact hbehind (gives_binary hop (Nat.le_of_not_lt hge) hrest hm)
    · have hother : ∀ s sp more, left.rest ≠ ⟨.symbol s, sp⟩ :: more :=
        fun s sp more hrest => hsymbol ⟨s, sp, more, hrest⟩
      rw [operators_other size sub min hother]
      exact ⟨.refl, fun s sp more hrest => absurd hrest (hother s sp more)⟩

theorem Settled.operators_eq (h : Settled min left.rest) :
    operators size sub min left = .ok left := by
  by_cases hsymbol : ∃ s sp more, left.rest = ⟨.symbol s, sp⟩ :: more
  · obtain ⟨s, sp, more, hrest⟩ := hsymbol
    obtain ⟨hquestion, hassign, hop⟩ := h s sp more hrest
    have hm : more.length < left.rest.length := by rw [hrest]; exact Nat.lt_succ_self _
    rw [operators_symbol size sub min hrest hm, if_neg fun hs => Nat.not_lt.2 hs.2 (hquestion hs.1),
      if_neg fun hs => Nat.not_lt.2 hs.2 (hassign hs.1)]
    split
    · rfl
    · next op hs => exact if_pos (hop op hs)
  · exact operators_other size sub min fun s sp more hrest => hsymbol ⟨s, sp, more, hrest⟩

/-- The loop over operators goes on behind an operation. -/
theorem Operation.goesOn (h : Operation sub min l mid b rest) (hlt : mid.length < ts.length) :
    GoesOn (operators size sub min) (operators size sub min (⟨l, mid, hlt⟩ : Taken Built ts)) b
      rest := by
  cases h with
  | @conditional sp sp' ts' mid' rest c a hmin hc ha hheight =>
    obtain ⟨hltc, hc⟩ := hc
    obtain ⟨hlta, ha⟩ := ha
    rw [operators_symbol size sub min rfl (Nat.lt_succ_self ts'.length), if_pos ⟨rfl, hmin⟩]
    have hlt' : rest.length < ts'.length := Nat.lt_trans hlta (Nat.lt_of_succ_lt hltc)
    refine operatorsBehind_extends ⟨Nat.lt_trans (Nat.lt_succ_of_lt hlt') hlt,
      Nat.lt_succ_of_lt hlt', ?_⟩
    simp only [conditionalTail, hc, ok_bind, expect_symbol, Taken.first, ha, checkHeight_ok hheight]
    rfl
  | @assign sp ts' rest v hmin hv hheight =>
    obtain ⟨hltv, hv⟩ := hv
    rw [operators_symbol size sub min rfl (Nat.lt_succ_self ts'.length), if_neg (by simp),
      if_pos ⟨rfl, hmin⟩]
    refine operatorsBehind_extends ⟨Nat.lt_trans (Nat.lt_succ_of_lt hltv) hlt,
      Nat.lt_succ_of_lt hltv, ?_⟩
    simp only [assignmentTail, hv, ok_bind, checkHeight_ok hheight]
    rfl
  | @binary s sp op ts' rest r hop hmin hr hheight =>
    obtain ⟨hltr, hr⟩ := hr
    have hquestion : s ≠ .question := by rintro rfl; cases hop
    have hassign : s ≠ .assign := by rintro rfl; cases hop
    rw [operators_symbol size sub min rfl (Nat.lt_succ_self ts'.length),
      if_neg fun hs => hquestion hs.1, if_neg fun hs => hassign hs.1, hop]
    dsimp only
    rw [if_neg (Nat.not_lt.2 hmin)]
    refine operatorsBehind_extends ⟨Nat.lt_trans (Nat.lt_succ_of_lt hltr) hlt,
      Nat.lt_succ_of_lt hltr, ?_⟩
    simp only [operatorTail, hr, ok_bind, checkHeight_ok hheight]
    rfl

theorem goesOn_operators (size : Nat) (h : Loop (Operation sub min) (l, mid) (b, rest))
    (hlt : mid.length < ts.length) :
    GoesOn (operators size sub min) (operators size sub min (⟨l, mid, hlt⟩ : Taken Built ts)) b
      rest := by
  generalize hq : (b, rest) = q at h
  induction h generalizing b rest with
  | refl =>
    cases hq
    exact ⟨hlt, rfl⟩
  | tail _ hstep ih =>
    cases hq
    obtain ⟨hlt', heq⟩ := ih rfl
    obtain ⟨hlt'', heq'⟩ := hstep.goesOn hlt'
    exact ⟨hlt'', heq.trans heq'⟩

/-! ### Accesses and calls -/

/-- The items behind those that have been read before. -/
theorem gives_items (close : Symbol) (acc : List Expr) (height : Nat) (ts : Tokens) :
    Gives (fun t => ∃ es h, Items inner close ts es h t.value.2.2 t.rest ∧
        t.value.1 = acc.reverse ++ es ∧ t.value.2.1 = max height h)
      (items size inner close acc height ts) := by
  induction hn : ts.length using Nat.strongRecOn generalizing acc height ts with
  | ind n ih =>
    subst hn
    rw [items]
    by_cases hend : ∃ sp more, ts = ⟨.symbol close, sp⟩ :: more
    · obtain ⟨sp, more, rfl⟩ := hend
      rw [symbol?_symbol]
      exact ⟨[], 0, .empty sp more, (List.append_nil _).symm, (Nat.max_zero _).symm⟩
    have hnot : NotAt close ts := fun sp more hts => hend ⟨sp, more, hts⟩
    rw [symbol?_eq_none hnot]
    have hread := gives_gets inner ts
    cases hb : inner ts with
    | error e => trivial
    | ok b =>
      rw [hb] at hread
      have hget : Gets inner ts b.value b.rest := hread
      dsimp only
      cases hcomma : symbol? .comma b.rest with
      | none =>
        refine (gives_symbol size close b.rest).map fun t ht => ?_
        exact ⟨[b.value.expr], b.value.height, .last hnot (ht ▸ hget), List.reverse_cons, rfl⟩
      | some comma =>
        have hlt : comma.rest.length < ts.length := Nat.lt_trans comma.rest_lt b.rest_lt
        refine (ih _ hlt _ _ _ rfl).map fun t ht => ?_
        obtain ⟨es, h, hitems, hes, hheight⟩ := ht
        have hmore : Gets inner ts b.value (⟨.symbol .comma, comma.value⟩ :: comma.rest) :=
          eq_of_symbol? hcomma ▸ hget
        refine ⟨b.value.expr :: es, max b.value.height h, .more hnot hmore hitems, ?_, ?_⟩
        · rw [List.reverse_cons, List.append_assoc] at hes
          exact hes
        · rw [← Nat.max_assoc]
          exact hheight

theorem Items.goesOn {close : Symbol} {es : List Expr} {height : Nat} {sp : Span}
    (h : Items inner close ts es height sp rest) (hclose : close ≠ .comma) (size : Nat)
    (acc : List Expr) (n : Nat) :
    GoesOn .ok (items size inner close acc n ts) (acc.reverse ++ es, max n height, sp) rest := by
  induction h generalizing acc n with
  | empty sp rest =>
    rw [items, symbol?_symbol, List.append_nil, Nat.max_zero]
    exact ⟨Nat.lt_succ_self _, rfl⟩
  | @last ts rest b sp hnot hget =>
    obtain ⟨hlt, hget⟩ := hget
    have hcomma : symbol? .comma (⟨.symbol close, sp⟩ :: rest) = none :=
      symbol?_eq_none fun sp more heq => hclose (Token.symbol.inj (value_eq heq))
    rw [items, symbol?_eq_none hnot, hget]
    dsimp only
    rw [hcomma, expect_symbol, ← List.reverse_cons]
    exact ⟨Nat.lt_of_succ_lt hlt, rfl⟩
  | @more ts mid rest b es height sp sp' hnot hget _ ih =>
    obtain ⟨hlt, hget⟩ := hget
    obtain ⟨hlt', hitems⟩ := ih (b.expr :: acc) (max n b.height)
    rw [items, symbol?_eq_none hnot, hget]
    dsimp only
    rw [symbol?_symbol]
    dsimp only [Taken.first]
    rw [hitems, List.reverse_cons, List.append_assoc, List.singleton_append, Nat.max_assoc]
    exact ⟨Nat.lt_trans hlt' (Nat.lt_of_succ_lt hlt), rfl⟩

theorem gives_member (optional : Bool) {sp : Span}
    (hmid : mid = ⟨.symbol (if optional then .questionDot else .dot), sp⟩ :: ts')
    (h : ts'.length < left.rest.length) :
    Gives (fun f : Further left => Access inner left.value mid f.1.value f.1.rest)
      (memberTail size optional left ts' h) := by
  subst hmid
  cases ts' with
  | nil => trivial
  | cons t ts' =>
    cases hname : t.value.name? with
    | none =>
      simp only [memberTail, hname]
      trivial
    | some name =>
      simp only [memberTail, hname]
      exact (gives_checkHeight _ _).bind fun _ hheight => .member optional hname hheight

theorem gives_index {optional : Bool} {mark : Tokens} (hmark : Mark optional mark)
    (hmid : mid = mark ++ ts') (h : ts'.length ≤ left.rest.length) :
    Gives (fun f : Further left => Access inner left.value mid f.1.value f.1.rest)
      (indexTail size inner optional left ts' h) := by
  refine (gives_symbol size .openBracket ts').bind fun bracket hbracket => ?_
  refine (gives_gets inner bracket.rest).bind fun key hkey => ?_
  refine (gives_symbol size .closeBracket key.rest).bind fun close hclose => ?_
  refine (gives_checkHeight _ _).bind fun _ hheight => ?_
  rw [hmid.trans (congrArg (mark ++ ·) hbracket)]
  exact .index hmark (hclose ▸ hkey) hheight

theorem gives_call {optional : Bool} {mark : Tokens} (hmark : Mark optional mark)
    (hmid : mid = mark ++ ts') (h : ts'.length ≤ left.rest.length) :
    Gives (fun f : Further left => Access inner left.value mid f.1.value f.1.rest)
      (callTail size inner optional left ts' h) := by
  refine (gives_symbol size .openParen ts').bind fun paren hparen => ?_
  refine (gives_items .closeParen [] left.value.height paren.rest).bind fun args hargs => ?_
  obtain ⟨⟨exprs, height, close⟩, more, hmore⟩ := args
  obtain ⟨es, h, hitems, rfl, rfl⟩ := hargs
  refine (gives_checkHeight _ _).bind fun _ hheight => ?_
  rw [hmid.trans (congrArg (mark ++ ·) hparen)]
  exact .call hmark hitems hheight

theorem gives_optional {sp : Span} (hmid : mid = ⟨.symbol .questionDot, sp⟩ :: ts')
    (h : ts'.length < left.rest.length) :
    Gives (fun f : Further left => Access inner left.value mid f.1.value f.1.rest)
      (optionalTail size inner left ts' h) := by
  have hmember : Gives (fun f : Further left => Access inner left.value mid f.1.value f.1.rest)
      (memberTail size true left ts' h) :=
    gives_member true hmid h
  unfold optionalTail
  dsimp only
  split
  · exact gives_index (.optional sp) hmid _
  · exact gives_call (.optional sp) hmid _
  · exact hmember

/-- What `access?` gives is an access; it gives nothing only if none follows. -/
theorem gives_access {r : Except ParseError (Further left)}
    (h : access? size inner left = some r) :
    Gives (fun f : Further left => Access inner left.value left.rest f.1.value f.1.rest) r := by
  by_cases haccess : ∃ s sp more, startsAccess s ∧ left.rest = ⟨.symbol s, sp⟩ :: more
  · obtain ⟨s, sp, more, hs, hrest⟩ := haccess
    have hm : more.length < left.rest.length := by rw [hrest]; exact Nat.lt_succ_self _
    rcases hs with rfl | rfl | rfl | rfl
    · rw [access?_dot size inner hrest hm] at h
      obtain rfl := Option.some.inj h
      exact gives_member false hrest hm
    · rw [access?_optional size inner hrest hm] at h
      obtain rfl := Option.some.inj h
      exact gives_optional hrest hm
    · rw [access?_bracket size inner hrest] at h
      obtain rfl := Option.some.inj h
      exact gives_index .plain rfl _
    · rw [access?_paren size inner hrest] at h
      obtain rfl := Option.some.inj h
      exact gives_call .plain rfl _
  · rw [access?_other size inner fun s sp more hs h => haccess ⟨s, sp, more, hs, h⟩] at h
    cases h

theorem unaccessed_of_access? (h : access? size inner left = none) : Unaccessed left.rest := by
  intro s sp more hs hrest
  have hm : more.length < left.rest.length := by rw [hrest]; exact Nat.lt_succ_self _
  rcases hs with rfl | rfl | rfl | rfl
  · rw [access?_dot size inner hrest hm] at h
    cases h
  · rw [access?_optional size inner hrest hm] at h
    cases h
  · rw [access?_bracket size inner hrest] at h
    cases h
  · rw [access?_paren size inner hrest] at h
    cases h

/-- The loop over accesses takes one access after the other until none follows. -/
theorem loop_accesses :
    Gives (fun t => Loop (Access inner) (left.value, left.rest) (t.value, t.rest) ∧
        Unaccessed t.rest)
      (accesses size inner left) := by
  induction hn : left.rest.length using Nat.strongRecOn generalizing left with
  | ind n ih =>
    subst hn
    rw [accesses]
    cases haccess : access? size inner left with
    | none => exact ⟨.refl, unaccessed_of_access? haccess⟩
    | some r =>
      have hr := gives_access haccess
      cases r with
      | error e => trivial
      | ok f =>
        have hstep : Access inner left.value left.rest f.1.value f.1.rest := hr
        exact (ih _ f.2 rfl).mono (fun _ he => he) fun t ht =>
          ⟨.head (b := (f.1.value, f.1.rest)) hstep ht.1, ht.2⟩

theorem Unaccessed.accesses_eq (h : Unaccessed left.rest) : accesses size inner left = .ok left := by
  rw [accesses, access?_other size inner h]

theorem accesses_extends {r : Except ParseError (Further left)}
    (haccess : access? size inner left = some r) (hr : Extends r b rest) :
    GoesOn (accesses size inner) (accesses size inner left) b rest := by
  obtain ⟨hlt, hlt', rfl⟩ := hr
  refine ⟨hlt, ?_⟩
  rw [accesses, haccess]

theorem extends_member (optional : Bool) {t : Spanned Token} {name : String}
    (hname : t.value.name? = some name) (hheight : left.value.height + 1 ≤ maxDepth)
    (h : (t :: rest).length < left.rest.length) :
    Extends (memberTail size optional left (t :: rest) h)
      ⟨.member (left.value.expr.span.through t.span) left.value.expr name optional,
        left.value.height + 1⟩ rest := by
  have hlt := Nat.lt_of_succ_lt h
  refine ⟨Nat.lt_trans hlt left.rest_lt, hlt, ?_⟩
  simp only [memberTail, hname, checkHeight_ok hheight, ok_bind]
  rfl

theorem extends_index (optional : Bool) {sp sp' : Span} {key : Built}
    (hkey : Gets inner ts' key (⟨.symbol .closeBracket, sp'⟩ :: rest))
    (hheight : 1 + max left.value.height key.height ≤ maxDepth)
    (h : (⟨.symbol .openBracket, sp⟩ :: ts' : Tokens).length ≤ left.rest.length) :
    Extends (indexTail size inner optional left (⟨.symbol .openBracket, sp⟩ :: ts') h)
      ⟨.index (left.value.expr.span.through sp') left.value.expr key.expr optional,
        1 + max left.value.height key.height⟩ rest := by
  obtain ⟨hltkey, hkey⟩ := hkey
  have hlt : rest.length < left.rest.length :=
    Nat.lt_of_lt_of_le (Nat.lt_succ_of_lt (Nat.lt_of_succ_lt hltkey)) h
  refine ⟨Nat.lt_trans hlt left.rest_lt, hlt, ?_⟩
  simp only [indexTail, expect_symbol, ok_bind, Taken.first, hkey, checkHeight_ok hheight]
  rfl

theorem extends_call (optional : Bool) {sp sp' : Span} {es : List Expr} {height : Nat}
    (hitems : Items inner .closeParen ts' es height sp' rest)
    (hheight : max left.value.height height + 1 ≤ maxDepth)
    (h : (⟨.symbol .openParen, sp⟩ :: ts' : Tokens).length ≤ left.rest.length) :
    Extends (callTail size inner optional left (⟨.symbol .openParen, sp⟩ :: ts') h)
      ⟨.call (left.value.expr.span.through sp') left.value.expr es optional,
        max left.value.height height + 1⟩ rest := by
  obtain ⟨hltitems, hitems⟩ := hitems.goesOn (by decide) size [] left.value.height
  have hlt : rest.length < left.rest.length :=
    Nat.lt_of_lt_of_le (Nat.lt_succ_of_lt hltitems) h
  refine ⟨Nat.lt_trans hlt left.rest_lt, hlt, ?_⟩
  simp only [callTail, expect_symbol, ok_bind, Taken.first, hitems, checkHeight_ok hheight]
  rfl

/-- The loop over accesses goes on behind an access. -/
theorem Access.goesOn (h : Access inner l mid b rest) (hlt : mid.length < ts.length) :
    GoesOn (accesses size inner) (accesses size inner (⟨l, mid, hlt⟩ : Taken Built ts)) b
      rest := by
  cases h with
  | @member sp t rest name optional hname hheight =>
    have hm : (t :: rest).length < (t :: rest).length + 1 := Nat.lt_succ_self _
    cases optional with
    | true =>
      refine accesses_extends (access?_optional size inner rfl hm) ?_
      obtain ⟨value, sp'⟩ := t
      cases value with
      | name s =>
        have hmember := @extends_member ts rest size ⟨l, _, hlt⟩ true _ name hname hheight hm
        exact hmember
      | _ => cases hname
    | false =>
      exact accesses_extends (access?_dot size inner rfl hm) (extends_member false hname hheight hm)
  | @index mark ts' rest optional sp sp' key hmark hkey hheight =>
    cases hmark with
    | plain =>
      exact accesses_extends (access?_bracket size inner rfl)
        (extends_index false hkey hheight (Nat.le_refl _))
    | optional sp'' =>
      have hm : (⟨.symbol .openBracket, sp⟩ :: ts' : Tokens).length <
          (⟨.symbol .openBracket, sp⟩ :: ts' : Tokens).length + 1 := Nat.lt_succ_self _
      refine accesses_extends (access?_optional size inner rfl hm) ?_
      have hindex := @extends_index ts ts' rest size inner ⟨l, _, hlt⟩ true sp sp' key hkey hheight
        (Nat.le_of_lt hm)
      exact hindex
  | @call mark ts' rest optional sp sp' es height hmark hitems hheight =>
    cases hmark with
    | plain =>
      exact accesses_extends (access?_paren size inner rfl)
        (extends_call false hitems hheight (Nat.le_refl _))
    | optional sp'' =>
      have hm : (⟨.symbol .openParen, sp⟩ :: ts' : Tokens).length <
          (⟨.symbol .openParen, sp⟩ :: ts' : Tokens).length + 1 := Nat.lt_succ_self _
      refine accesses_extends (access?_optional size inner rfl hm) ?_
      have hcall := @extends_call ts ts' rest size inner ⟨l, _, hlt⟩ true sp sp' es height hitems
        hheight (Nat.le_of_lt hm)
      exact hcall

theorem goesOn_accesses (size : Nat) (h : Loop (Access inner) (l, mid) (b, rest))
    (hlt : mid.length < ts.length) :
    GoesOn (accesses size inner) (accesses size inner (⟨l, mid, hlt⟩ : Taken Built ts)) b
      rest := by
  generalize hq : (b, rest) = q at h
  induction h generalizing b rest with
  | refl =>
    cases hq
    exact ⟨hlt, rfl⟩
  | tail _ hstep ih =>
    cases hq
    obtain ⟨hlt', heq⟩ := ih rfl
    obtain ⟨hlt'', heq'⟩ := hstep.goesOn hlt'
    exact ⟨hlt'', heq.trans heq'⟩

/-! ### Operands -/

theorem gives_body (params : List String) (start : Nat) (ts : Tokens) :
    Gives (fun t => Body inner params start ts t.value t.rest)
      (lambdaBody inner params start ts) := by
  by_cases hblock : ∃ sp sp' more, ts = ⟨.symbol .openBrace, sp⟩ :: ⟨.name "return", sp'⟩ :: more
  · obtain ⟨sp, sp', more, rfl⟩ := hblock
    trivial
  · have hnot : NoBlock ts := fun sp sp' more hts => hblock ⟨sp, sp', more, hts⟩
    rw [lambdaBody_other hnot]
    refine (gives_gets inner ts).bind fun body hbody => ?_
    exact (gives_checkHeight _ _).bind fun _ hheight => .mk hnot hbody hheight

theorem Body.goesOn {params : List String} {start : Nat} (h : Body inner params start ts b rest) :
    GoesOn .ok (lambdaBody inner params start ts) b rest := by
  obtain ⟨hnot, ⟨hlt, hget⟩, hheight⟩ := h
  rw [lambdaBody_other hnot, hget]
  simp only [ok_bind, checkHeight_ok hheight]
  exact ⟨hlt, rfl⟩

/-- A name that no arrow follows is a leaf, or a word that stands for nothing. -/
theorem nameOperand_eq (h : NoArrow rest) (name : String) (t : Spanned Token) :
    nameOperand inner name t rest =
      match nameLeaf? name t.span with
      | some e => .ok (leaf e t)
      | none => .error ⟨.keyword name, t.span.start⟩ := by
  unfold nameOperand
  split
  · next sp more => exact absurd rfl (h sp more)
  split
  · rfl
  · rfl
  · rfl
  · rfl
  · rfl
  · rfl
  next htrue hfalse hnull hundefined hnan hinfinity =>
    have hlookup : literalNames.lookup name = none := by
      rw [List.lookup_eq_none_iff]
      simp [literalNames]
      exact ⟨htrue, hfalse, hnull, hundefined, hnan, hinfinity⟩
    rw [nameLeaf?, hlookup]
    dsimp only
    split <;> rfl

theorem gives_entry (size : Nat) (inner : Reader) {t : Spanned Token} {key : String}
    (hkey : entryKey t = .ok key) (ts : Tokens) :
    Gives (fun v => Entry inner (t :: ts) key v.value v.rest) (entryValue size inner t ts) := by
  cases ts with
  | nil => trivial
  | cons u ts =>
    obtain ⟨value, sp'⟩ := u
    rw [entryValue]
    split
    · next hcolon =>
      obtain rfl : value = .symbol .colon := eq_of_isSymbol hcolon
      exact (gives_gets inner ts).map fun b hb => .written hkey hb
    split
    · next hend =>
      obtain ⟨s, hs, rfl⟩ : ∃ s, (s = .comma ∨ s = .closeBrace) ∧ value = .symbol s :=
        hend.elim (fun h => ⟨_, .inl rfl, eq_of_isSymbol h⟩) fun h => ⟨_, .inr rfl, eq_of_isSymbol h⟩
      obtain ⟨value, sp⟩ := t
      cases value with
      | name name =>
        obtain rfl : name = key := Except.ok.inj hkey
        exact .short ts hs
      | _ => trivial
    · trivial

theorem gives_entries (start : Nat) (acc : List (String × Expr)) (height : Nat) (ts : Tokens) :
    Gives (fun t => ∃ es h sp, Entries inner ts es h sp t.rest ∧ max height h + 1 ≤ maxDepth ∧
        t.value = ⟨.object ⟨start, sp.stop⟩ (acc.reverse ++ es), max height h + 1⟩)
      (objectEntries size inner start acc height ts) := by
  induction hn : ts.length using Nat.strongRecOn generalizing acc height ts with
  | ind n ih =>
    subst hn
    rw [objectEntries.eq_def]
    cases ts with
    | nil => trivial
    | cons t ts =>
      obtain ⟨value, sp⟩ := t
      dsimp only
      split
      · next hclose =>
        obtain rfl : value = .symbol .closeBrace := eq_of_isSymbol hclose
        refine (gives_checkHeight _ _).bind fun _ hheight => ?_
        refine ⟨[], 0, sp, .empty sp ts, ?_, ?_⟩
        · rwa [Nat.max_zero]
        · rw [Nat.max_zero, List.append_nil]
          rfl
      cases hkey : entryKey ⟨value, sp⟩ with
      | error e => trivial
      | ok key =>
        have hentry := gives_entry size inner hkey ts
        dsimp only
        cases hv : entryValue size inner ⟨value, sp⟩ ts with
        | error e => trivial
        | ok v =>
          rw [hv] at hentry
          obtain ⟨b, after, hle⟩ := v
          have hread : Entry inner (⟨value, sp⟩ :: ts) key b after := hentry
          cases after with
          | nil => trivial
          | cons u more =>
            obtain ⟨value', sp'⟩ := u
            dsimp only
            split
            · next hcomma =>
              obtain rfl : value' = .symbol .comma := eq_of_isSymbol hcomma
              have hlt : more.length < (⟨value, sp⟩ :: ts : Tokens).length := by
                simp only [List.length_cons] at hle ⊢
                omega
              refine (ih _ hlt _ _ _ rfl).map fun o ho => ?_
              obtain ⟨es, h, stop, hes, hheight, hobject⟩ := ho
              refine ⟨(key, b.expr) :: es, max b.height h, stop, .more hread hes, ?_, ?_⟩
              · rwa [← Nat.max_assoc]
              · rw [← Nat.max_assoc]
                refine hobject.trans ?_
                rw [List.reverse_cons, List.append_assoc, List.singleton_append]
            split
            · next hclose =>
              obtain rfl : value' = .symbol .closeBrace := eq_of_isSymbol hclose
              refine (gives_checkHeight _ _).bind fun _ hheight => ?_
              refine ⟨[(key, b.expr)], b.height, sp', .last hread, hheight, ?_⟩
              rw [← List.reverse_cons]
              rfl
            · trivial

/-- An entry is read by its key and the value behind it. -/
theorem Entry.reads {t : Spanned Token} {key : String} (h : Entry inner (t :: ts) key b rest)
    (size : Nat) :
    t.value ≠ .symbol .closeBrace ∧ entryKey t = .ok key ∧
      ∃ hle, entryValue size inner t ts = .ok ⟨b, rest, hle⟩ := by
  cases h with
  | @written _ ts rest _ sp _ hkey hget =>
    obtain ⟨hlt, hget⟩ := hget
    refine ⟨?_, hkey, Nat.le_succ_of_le (Nat.le_of_lt hlt), ?_⟩
    · intro hclose
      rw [entryKey, hclose] at hkey
      cases hkey
    · rw [entryValue, if_pos (by simp [Token.isSymbol]), hget]
      rfl
  | @short sp sp' s _ rest hs =>
    refine ⟨by simp, rfl, Nat.le_refl _, ?_⟩
    rw [entryValue, if_neg (by rcases hs with rfl | rfl <;> simp [Token.isSymbol]),
      if_pos (by rcases hs with rfl | rfl <;> simp [Token.isSymbol])]
    rfl

theorem Entry.cons {key : String} (h : Entry inner ts key b rest) : ∃ t more, ts = t :: more := by
  cases h <;> exact ⟨_, _, rfl⟩

theorem Entries.goesOn {es : List (String × Expr)} {height : Nat} {sp : Span}
    (h : Entries inner ts es height sp rest) (size start : Nat) (acc : List (String × Expr))
    (n : Nat) (hheight : max n height + 1 ≤ maxDepth) :
    GoesOn .ok (objectEntries size inner start acc n ts)
      ⟨.object ⟨start, sp.stop⟩ (acc.reverse ++ es), max n height + 1⟩ rest := by
  induction h generalizing acc n with
  | empty sp rest =>
    rw [Nat.max_zero] at hheight
    rw [objectEntries.eq_def]
    dsimp only
    rw [if_pos (by simp [Token.isSymbol]), checkHeight_ok hheight, List.append_nil, Nat.max_zero]
    exact ⟨Nat.lt_succ_self _, rfl⟩
  | @last ts rest key b sp hentry =>
    obtain ⟨t, ts, rfl⟩ := hentry.cons
    obtain ⟨hclose, hkey, hle, hvalue⟩ := hentry.reads size
    rw [objectEntries.eq_def]
    dsimp only
    rw [if_neg fun hs => hclose (eq_of_isSymbol hs), hkey]
    dsimp only
    rw [hvalue]
    dsimp only
    rw [if_neg (by simp [Token.isSymbol]), if_pos (by simp [Token.isSymbol]),
      checkHeight_ok hheight, ← List.reverse_cons]
    exact ⟨Nat.lt_succ_of_lt hle, rfl⟩
  | @more ts mid rest key b es height sp sp' hentry _ ih =>
    obtain ⟨t, ts, rfl⟩ := hentry.cons
    obtain ⟨hclose, hkey, hle, hvalue⟩ := hentry.reads size
    rw [← Nat.max_assoc] at hheight
    obtain ⟨hlt, hentries⟩ := ih ((key, b.expr) :: acc) (max n b.height) hheight
    rw [objectEntries.eq_def]
    dsimp only
    rw [if_neg fun hs => hclose (eq_of_isSymbol hs), hkey]
    dsimp only
    rw [hvalue]
    dsimp only
    rw [if_pos (by simp [Token.isSymbol]), hentries, List.reverse_cons, List.append_assoc,
      List.singleton_append, Nat.max_assoc]
    exact ⟨Nat.lt_succ_of_lt (Nat.lt_of_lt_of_le (Nat.lt_succ_of_lt hlt) hle), rfl⟩

theorem gives_operand (ts : Tokens) :
    Gives (fun t => Operand inner ts t.value t.rest) (operand size inner ts) := by
  cases ts with
  | nil => trivial
  | cons t ts =>
    obtain ⟨value, sp⟩ := t
    cases value with
    | number x => exact .number x sp ts
    | string s => exact .string s sp ts
    | name name =>
      by_cases harrow : ∃ sp' more, ts = ⟨.symbol .arrow, sp'⟩ :: more
      · obtain ⟨sp', more, rfl⟩ := harrow
        simp only [operand]
        rw [nameOperand_arrow]
        exact (gives_body [name] sp.start more).map fun b hb => .function hb
      · have hnot : NoArrow ts := fun sp' more hts => harrow ⟨sp', more, hts⟩
        simp only [operand]
        rw [nameOperand_eq hnot]
        cases hleaf : nameLeaf? name sp with
        | none => trivial
        | some e => exact .name hnot hleaf
    | symbol s =>
      cases s
      case openParen =>
        simp only [operand]
        cases hparams : arrowParams? [] ts with
        | none =>
          refine (gives_gets inner ts).bind fun e he => ?_
          refine (gives_symbol size .closeParen e.rest).bind fun close hclose => ?_
          exact .group hparams (hclose ▸ he)
        | some params =>
          exact (gives_body params.value sp.start params.rest).map
            fun b hb => .functionOf hparams hb
      case openBracket =>
        refine (gives_items .closeBracket [] 0 ts).bind fun list hlist => ?_
        obtain ⟨⟨exprs, height, close⟩, more, hmore⟩ := list
        obtain ⟨es, h, hitems, rfl, hmax⟩ := hlist
        obtain rfl : height = h := hmax.trans (Nat.zero_max h)
        exact (gives_checkHeight _ _).bind fun _ hheight => .array hitems hheight
      case openBrace =>
        refine (gives_entries sp.start [] 0 ts).map fun o ho => ?_
        obtain ⟨es, h, sp', hes, hheight, hobject⟩ := ho
        rw [Nat.zero_max] at hheight hobject
        rw [Taken.cons, hobject]
        exact .object hes hheight
      all_goals trivial

theorem Operand.goesOn (h : Operand inner ts b rest) (size : Nat) :
    GoesOn .ok (operand size inner ts) b rest := by
  cases h with
  | number x sp rest => exact ⟨Nat.lt_succ_self _, rfl⟩
  | string s sp rest => exact ⟨Nat.lt_succ_self _, rfl⟩
  | name hnot hleaf =>
    refine ⟨Nat.lt_succ_self _, ?_⟩
    simp only [operand]
    rw [nameOperand_eq hnot]
    dsimp only
    rw [hleaf]
    rfl
  | function hbody =>
    obtain ⟨hlt, hbody⟩ := hbody.goesOn
    refine ⟨Nat.lt_succ_of_lt (Nat.lt_succ_of_lt hlt), ?_⟩
    simp only [operand]
    rw [nameOperand_arrow, hbody]
    rfl
  | @functionOf sp ts rest l b hparams hbody =>
    obtain ⟨hlt, hbody⟩ := hbody.goesOn
    refine ⟨Nat.lt_succ_of_lt (Nat.lt_of_lt_of_le hlt l.rest_le), ?_⟩
    simp only [operand]
    rw [hparams]
    dsimp only
    rw [hbody]
    rfl
  | group hparams hget =>
    obtain ⟨hlt, hget⟩ := hget
    refine ⟨Nat.lt_succ_of_lt (Nat.lt_of_succ_lt hlt), ?_⟩
    simp only [operand]
    rw [hparams]
    dsimp only
    rw [hget]
    simp only [ok_bind, expect_symbol]
    rfl
  | array hitems hheight =>
    obtain ⟨hlt, hitems⟩ := hitems.goesOn (by decide) size [] 0
    refine ⟨Nat.lt_succ_of_lt hlt, ?_⟩
    simp only [operand, hitems, ok_bind, Nat.zero_max, checkHeight_ok hheight]
    rfl
  | @object sp sp' ts rest es height hentries hheight =>
    have hheight' : max 0 height + 1 ≤ maxDepth := by rwa [Nat.zero_max]
    obtain ⟨hlt, hentries⟩ := hentries.goesOn size sp.start [] 0 hheight'
    rw [Nat.zero_max] at hentries
    refine ⟨Nat.lt_succ_of_lt hlt, ?_⟩
    simp only [operand, hentries]
    rfl

/-! ### Readers -/

theorem gives_unary (size : Nat) (deeper inner : Reader) (ts : Tokens) :
    Gives (fun t => Unary deeper inner ts t.value t.rest) (unaryWith size deeper inner ts) := by
  cases ts with
  | nil => trivial
  | cons t ts =>
    rw [unaryWith]
    split
    · next op hop =>
      refine (gives_gets deeper ts).bind fun e he => ?_
      exact (gives_checkHeight _ _).bind fun _ hheight => .operator hop he hheight
    · next hop =>
      refine (gives_operand (t :: ts)).bind fun e he => ?_
      exact loop_accesses.mono (fun _ h => h) fun u hu => .operand hop he hu.1 hu.2

/-- An operand is read as its rules say. -/
theorem gets_unaryWith {deeper : Reader} :
    Gets (unaryWith size deeper inner) ts b rest ↔ Unary deeper inner ts b rest := by
  constructor
  · rintro ⟨hlt, h⟩
    have hgives := gives_unary size deeper inner ts
    rw [h] at hgives
    exact hgives
  · intro h
    cases h with
    | operator hop hget hheight =>
      obtain ⟨hlt, hget⟩ := hget
      refine ⟨Nat.lt_succ_of_lt hlt, ?_⟩
      rw [unaryWith, hop]
      simp only [hget, ok_bind, checkHeight_ok hheight]
      rfl
    | operand hop hoperand hloop hstop =>
      obtain ⟨hlt, hoperand⟩ := hoperand.goesOn size
      obtain ⟨hlt', hloop⟩ := goesOn_accesses size hloop hlt
      refine ⟨hlt', ?_⟩
      rw [unaryWith, hop]
      simp only [hoperand, ok_bind]
      rw [hloop]
      exact hstop.accesses_eq

/-- An expression is read as an operand and the operations behind it. -/
theorem gets_exprAt_succ {n : Nat} :
    Gets (exprAt size (n + 1) min) ts b rest ↔
      ∃ l mid, Gets (unaryAt size n) ts l mid ∧
        Loop (Operation (exprAt size n) min) (l, mid) (b, rest) ∧ Settled min rest := by
  constructor
  · rintro ⟨hlt, h⟩
    rw [exprAt_succ] at h
    obtain ⟨left, hleft, h⟩ := exists_of_bind_eq_ok h
    have hgives := loop_operators size (exprAt size n) min left
    rw [h] at hgives
    exact ⟨left.value, left.rest, ⟨left.rest_lt, hleft⟩, hgives.1, hgives.2⟩
  · rintro ⟨l, mid, ⟨hlt, hleft⟩, hloop, hstop⟩
    obtain ⟨hlt', heq⟩ := goesOn_operators size hloop hlt
    refine ⟨hlt', ?_⟩
    rw [exprAt_succ, hleft, ok_bind, heq]
    exact hstop.operators_eq

end TemplateExpr.Parser
