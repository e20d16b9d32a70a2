import TemplateExpr.Expr.Parser
import TemplateExpr.Proofs.Expr.Tree
import TemplateExpr.Proofs.Token.Extent

/-!
# Trees of the same tokens

The parser looks at the values of tokens only; their spans end up in the tree and in errors. Off the
same tokens at other places every part of the parser reads the same tree, whose nodes start and stop
where the tokens do, or fails on both.
-/

namespace TemplateExpr

open TemplateExpr.Text TemplateExpr.Lexer

/-- Where tokens start and stop in two texts. -/
structure Places where
  start : Nat → Nat → Prop
  stop : Nat → Nat → Prop

/-- The spans start and stop with the same tokens. -/
def Places.spans (P : Places) (s s' : Span) : Prop :=
  P.start s.start s'.start ∧ P.stop s.stop s'.stop

/-- From the start of spans that go together to the end of others. -/
theorem Places.spans_through {P : Places} {s s' t t' : Span} (h : P.spans s s') (h' : P.spans t t') :
    P.spans (s.through t) (s'.through t') :=
  ⟨h.1, h'.2⟩

namespace Parser

/-! ### What is read off tokens -/

/-- The same tokens at places that go together. -/
abbrev Matching (P : Places) : Tokens → Tokens → Prop :=
  List.Forall₂ fun t u => t.value = u.value ∧ P.spans t.span u.span

variable {P : Places} {ts us : Tokens} {size size' : Nat}

theorem matching_cons {t : Spanned Token} (h : Matching P (t :: ts) us) :
    ∃ u us', us = u :: us' ∧ u.value = t.value ∧ P.spans t.span u.span ∧ Matching P ts us' := by
  cases h with
  | cons htu hrest => exact ⟨_, _, rfl, htu.1.symm, htu.2, hrest⟩

/-- A token with a given value starts both of two sequences of the same tokens. -/
theorem matching_value {value : Token} {sp : Span} (h : Matching P (⟨value, sp⟩ :: ts) us) :
    ∃ sp' us', us = ⟨value, sp'⟩ :: us' ∧ P.spans sp sp' ∧ Matching P ts us' := by
  obtain ⟨⟨value', sp'⟩, us', rfl, hvalue, hspan, hrest⟩ := matching_cons h
  obtain rfl : value' = value := hvalue
  exact ⟨sp', us', rfl, hspan, hrest⟩

theorem matching_value_right {value : Token} {sp : Span} (h : Matching P ts (⟨value, sp⟩ :: us)) :
    ∃ sp' ts', ts = ⟨value, sp'⟩ :: ts' ∧ Matching P ts' us := by
  cases h with
  | @cons t _ _ _ htu hrest =>
    obtain ⟨value', sp'⟩ := t
    obtain rfl : value' = value := htu.1
    exact ⟨sp', _, rfl, hrest⟩

/-- Both of two sequences of the same tokens start with the same symbol, or neither starts with a
symbol. -/
theorem symbol_cases (h : Matching P ts us) :
    (∃ s sp sp' more more', ts = ⟨.symbol s, sp⟩ :: more ∧ us = ⟨.symbol s, sp'⟩ :: more' ∧
      Matching P more more') ∨
    (∀ s sp more, ts ≠ ⟨.symbol s, sp⟩ :: more) ∧ ∀ s sp more, us ≠ ⟨.symbol s, sp⟩ :: more := by
  cases ts with
  | nil =>
    cases h
    exact Or.inr ⟨fun _ _ _ => by simp, fun _ _ _ => by simp⟩
  | cons t ts =>
    obtain ⟨u, us, rfl, hvalue, -, hrest⟩ := matching_cons h
    obtain ⟨value, sp⟩ := t
    obtain ⟨value', sp'⟩ := u
    obtain rfl : value' = value := hvalue
    cases value' with
    | symbol s => exact Or.inl ⟨s, sp, sp', ts, us, rfl, rfl, hrest⟩
    | number x => exact Or.inr ⟨fun _ _ _ => by simp, fun _ _ _ => by simp⟩
    | string s => exact Or.inr ⟨fun _ _ _ => by simp, fun _ _ _ => by simp⟩
    | name s => exact Or.inr ⟨fun _ _ _ => by simp, fun _ _ _ => by simp⟩

/-- Matching trees of the same height. -/
def SameBuilt (P : Places) (b b' : Built) : Prop :=
  b.expr.Matches P.spans b'.expr ∧ b.height = b'.height

/-- Matching trees are read off, and the same tokens are left. -/
def SameRead (P : Places) (t : Taken Built ts) (u : Taken Built us) : Prop :=
  SameBuilt P t.value u.value ∧ Matching P t.rest u.rest

/-- The same is read behind matching operands. -/
def SameFurther (P : Places) {left : Taken Built ts} {left' : Taken Built us} (t : Further left)
    (u : Further left') : Prop :=
  SameRead P t.1 u.1

/-- The readers read the same off the same tokens. -/
def Agree (P : Places) (sub sub' : Reader) : Prop :=
  ∀ ts us, Matching P ts us → FailTogether (SameRead P) (sub ts) (sub' us)

theorem expect_same (s : Symbol) (h : Matching P ts us) :
    FailTogether (fun t u => P.spans t.value u.value ∧ Matching P t.rest u.rest) (expect size s ts)
      (expect size' s us) := by
  cases ts with
  | nil =>
    cases h
    trivial
  | cons t ts =>
    obtain ⟨u, us, rfl, hvalue, hspan, hrest⟩ := matching_cons h
    rw [expect, expect, hvalue]
    split
    · exact ⟨hspan, hrest⟩
    · trivial

theorem checkHeight_same {height height' : Nat} (h : height = height') (offset offset' : Nat) :
    FailTogether (fun _ _ => True) (checkHeight height offset) (checkHeight height' offset') := by
  subst h
  rw [checkHeight, checkHeight]
  split <;> trivial

/-! ### Binary operators -/

variable {sub sub' : Level → Reader} {left : Taken Built ts} {left' : Taken Built us}
  {ts' us' : Tokens}

theorem conditionalTail_same (hsub : ∀ level, Agree P (sub level) (sub' level))
    (hleft : SameBuilt P left.value left'.value) (hts : Matching P ts' us')
    (h : ts'.length < left.rest.length) (h' : us'.length < left'.rest.length) :
    FailTogether (SameFurther P) (conditionalTail size sub left ts' h)
      (conditionalTail size' sub' left' us' h') := by
  refine (hsub _ _ _ hts).bind fun c c' hc => ?_
  refine (expect_same .colon hc.2).bind fun colon colon' hcolon => ?_
  refine (hsub _ _ _ hcolon.2).bind fun a a' ha => ?_
  have hheight : 1 + max (max left.value.height c.value.height) a.value.height =
      1 + max (max left'.value.height c'.value.height) a'.value.height := by
    rw [hleft.2, hc.1.2, ha.1.2]
  refine (checkHeight_same hheight _ _).bind fun _ _ _ => ?_
  refine ⟨⟨?_, hheight⟩, ha.2⟩
  exact .conditional (P.spans_through hleft.1.span ha.1.1.span) hleft.1 hc.1.1 ha.1.1

theorem assignmentTail_same (hsub : ∀ level, Agree P (sub level) (sub' level))
    (hleft : SameBuilt P left.value left'.value) (hts : Matching P ts' us')
    (h : ts'.length < left.rest.length) (h' : us'.length < left'.rest.length) :
    FailTogether (SameFurther P) (assignmentTail sub left ts' h) (assignmentTail sub' left' us' h') := by
  refine (hsub _ _ _ hts).bind fun v v' hv => ?_
  have hheight : 1 + max left.value.height v.value.height =
      1 + max left'.value.height v'.value.height := by
    rw [hleft.2, hv.1.2]
  refine (checkHeight_same hheight _ _).bind fun _ _ _ => ?_
  exact ⟨⟨.assign (P.spans_through hleft.1.span hv.1.1.span) hleft.1 hv.1.1, hheight⟩, hv.2⟩

theorem operatorTail_same (op : BinaryOp) (hsub : ∀ level, Agree P (sub level) (sub' level))
    (hleft : SameBuilt P left.value left'.value) (hts : Matching P ts' us')
    (h : ts'.length < left.rest.length) (h' : us'.length < left'.rest.length) :
    FailTogether (SameFurther P) (operatorTail sub op left ts' h)
      (operatorTail sub' op left' us' h') := by
  refine (hsub _ _ _ hts).bind fun r r' hr => ?_
  have hheight : 1 + max left.value.height r.value.height =
      1 + max left'.value.height r'.value.height := by
    rw [hleft.2, hr.1.2]
  refine (checkHeight_same hheight _ _).bind fun _ _ _ => ?_
  exact ⟨⟨.binary op (P.spans_through hleft.1.span hr.1.1.span) hleft.1 hr.1.1, hheight⟩, hr.2⟩

/-- Goes on behind what an operator built. -/
def operatorsBehind (size : Nat) (sub : Level → Reader) (min : Level)
    (r : Except ParseError (Further left)) : Except ParseError (Taken Built ts) :=
  match r with
  | .error e => .error e
  | .ok ⟨t, _⟩ => operators size sub min t

theorem operators_symbol (size : Nat) (sub : Level → Reader) (min : Level) {s : Symbol} {sp : Span}
    {more : Tokens} (hrest : left.rest = ⟨.symbol s, sp⟩ :: more)
    (hm : more.length < left.rest.length) :
    operators size sub min left =
      if s = .question ∧ min ≤ Level.conditional then
        operatorsBehind size sub min (conditionalTail size sub left more hm)
      else if s = .assign ∧ min ≤ Level.assignment then
        operatorsBehind size sub min (assignmentTail sub left more hm)
      else match s.binaryOp? with
        | none => .ok left
        | some op =>
          if op.level < min then .ok left
          else operatorsBehind size sub min (operatorTail sub op left more hm) := by
  rw [operators]
  split
  next s' sp' more' hrest' =>
    obtain ⟨htoken, rfl⟩ := List.cons.inj (hrest.symm.trans hrest')
    cases htoken
    rfl
  next hother => exact absurd hrest (hother s sp more)

theorem operators_other (size : Nat) (sub : Level → Reader) (min : Level)
    (h : ∀ s sp more, left.rest ≠ ⟨.symbol s, sp⟩ :: more) :
    operators size sub min left = .ok left := by
  rw [operators]
  split
  next s sp more hrest => exact absurd hrest (h s sp more)
  next => rfl

theorem operators_same (min : Level) (hsub : ∀ level, Agree P (sub level) (sub' level))
    (hleft : SameRead P left left') :
    FailTogether (SameRead P) (operators size sub min left) (operators size' sub' min left') := by
  induction hn : left.rest.length using Nat.strongRecOn generalizing left left' with
  | ind n ih =>
    subst hn
    have hbehind {r : Except ParseError (Further left)} {r' : Except ParseError (Further left')}
        (h : FailTogether (SameFurther P) r r') :
        FailTogether (SameRead P) (operatorsBehind size sub min r)
          (operatorsBehind size' sub' min r') := by
      rcases h.cases with ⟨e, e', rfl, rfl⟩ | ⟨f, f', rfl, rfl, hread⟩
      · trivial
      · exact ih _ f.2 hread rfl
    rcases symbol_cases hleft.2 with ⟨s, sp, sp', more, more', hrest, hrest', hmore⟩ | ⟨h, h'⟩
    · have hm : more.length < left.rest.length := by rw [hrest]; exact Nat.lt_succ_self _
      have hm' : more'.length < left'.rest.length := by rw [hrest']; exact Nat.lt_succ_self _
      rw [operators_symbol size sub min hrest hm, operators_symbol size' sub' min hrest' hm']
      split
      · exact hbehind (conditionalTail_same hsub hleft.1 hmore hm hm')
      split
      · exact hbehind (assignmentTail_same hsub hleft.1 hmore hm hm')
      split
      · exact hleft
      next op hop =>
        split
        · exact hleft
        · exact hbehind (operatorTail_same op hsub hleft.1 hmore hm hm')
    · rw [operators_other size sub min h, operators_other size' sub' min h']
      exact hleft

/-! ### Accesses and calls -/

theorem symbol?_same (s : Symbol) (h : Matching P ts us) :
    symbol? s ts = none ∧ symbol? s us = none ∨
      ∃ t u, symbol? s ts = some t ∧ symbol? s us = some u ∧ P.spans t.value u.value ∧
        Matching P t.rest u.rest := by
  cases ts with
  | nil =>
    cases h
    exact Or.inl ⟨rfl, rfl⟩
  | cons t ts =>
    obtain ⟨u, us, rfl, hvalue, hspan, hrest⟩ := matching_cons h
    rw [symbol?, symbol?, hvalue]
    split
    · exact Or.inr ⟨_, _, rfl, rfl, hspan, hrest⟩
    · exact Or.inl ⟨rfl, rfl⟩

/-- Matching items of the same height up to matching ends, with the same tokens left. -/
def SameItems (P : Places) (t : Taken (List Expr × Nat × Span) ts)
    (u : Taken (List Expr × Nat × Span) us) : Prop :=
  List.Forall₂ (Expr.Matches P.spans) t.value.1 u.value.1 ∧ t.value.2.1 = u.value.2.1 ∧
    P.spans t.value.2.2 u.value.2.2 ∧ Matching P t.rest u.rest

variable {inner inner' : Reader}

theorem items_same (close : Symbol) (hsub : Agree P inner inner') {acc acc' : List Expr}
    (hacc : List.Forall₂ (Expr.Matches P.spans) acc acc') (height : Nat) {ts us : Tokens}
    (h : Matching P ts us) :
    FailTogether (SameItems P) (items size inner close acc height ts)
      (items size' inner' close acc' height us) := by
  induction hn : ts.length using Nat.strongRecOn generalizing acc acc' height ts us with
  | ind n ih =>
    subst hn
    rw [items, items]
    rcases symbol?_same close h with ⟨hts, hus⟩ | ⟨t, u, hts, hus, hspan, hrest⟩
    · rw [hts, hus]
      have hread := hsub ts us h
      rcases hread.cases with ⟨e, e', hb, hb'⟩ | ⟨b, b', hb, hb', ⟨htree, hheight⟩, hrest⟩
      · rw [hb, hb']
        trivial
      · rw [hb, hb']
        simp only [hheight]
        rcases symbol?_same .comma hrest with ⟨hcomma, hcomma'⟩ | ⟨t, u, hcomma, hcomma', -, hmore⟩
        · rw [hcomma, hcomma']
          exact (expect_same close hrest).map fun t u htu =>
            ⟨List.rel_reverse (.cons htree hacc), rfl, htu.1, htu.2⟩
        · rw [hcomma, hcomma']
          have hlt : t.rest.length < ts.length := Nat.lt_trans t.rest_lt b.rest_lt
          exact (ih _ hlt (.cons htree hacc) _ hmore rfl).map fun _ _ hsame => hsame
    · rw [hts, hus]
      exact ⟨List.rel_reverse hacc, rfl, hspan, hrest⟩

theorem memberTail_same (optional : Bool) (hleft : SameBuilt P left.value left'.value)
    (hts : Matching P ts' us') (h : ts'.length < left.rest.length)
    (h' : us'.length < left'.rest.length) :
    FailTogether (SameFurther P) (memberTail size optional left ts' h)
      (memberTail size' optional left' us' h') := by
  cases ts' with
  | nil =>
    cases hts
    trivial
  | cons t ts' =>
    obtain ⟨u, us', rfl, hvalue, hspan, hrest⟩ := matching_cons hts
    simp only [memberTail, hvalue]
    split
    · trivial
    next name hname =>
      have hheight : left.value.height + 1 = left'.value.height + 1 := by rw [hleft.2]
      refine (checkHeight_same hheight _ _).bind fun _ _ _ => ?_
      refine ⟨⟨?_, hheight⟩, hrest⟩
      exact .member name optional (P.spans_through hleft.1.span hspan) hleft.1

theorem indexTail_same (optional : Bool) (hsub : Agree P inner inner')
    (hleft : SameBuilt P left.value left'.value) (hts : Matching P ts' us')
    (h : ts'.length ≤ left.rest.length) (h' : us'.length ≤ left'.rest.length) :
    FailTogether (SameFurther P) (indexTail size inner optional left ts' h)
      (indexTail size' inner' optional left' us' h') := by
  refine (expect_same .openBracket hts).bind fun bracket bracket' hbracket => ?_
  refine (hsub _ _ hbracket.2).bind fun key key' hkey => ?_
  refine (expect_same .closeBracket hkey.2).bind fun close close' hclose => ?_
  have hheight : 1 + max left.value.height key.value.height =
      1 + max left'.value.height key'.value.height := by
    rw [hleft.2, hkey.1.2]
  refine (checkHeight_same hheight _ _).bind fun _ _ _ => ?_
  refine ⟨⟨?_, hheight⟩, hclose.2⟩
  exact .index optional (P.spans_through hleft.1.span hclose.1) hleft.1 hkey.1.1

theorem callTail_same (optional : Bool) (hsub : Agree P inner inner')
    (hleft : SameBuilt P left.value left'.value) (hts : Matching P ts' us')
    (h : ts'.length ≤ left.rest.length) (h' : us'.length ≤ left'.rest.length) :
    FailTogether (SameFurther P) (callTail size inner optional left ts' h)
      (callTail size' inner' optional left' us' h') := by
  refine (expect_same .openParen hts).bind fun paren paren' hparen => ?_
  have hargs : FailTogether (SameItems P)
      (items size inner .closeParen [] left.value.height paren.rest)
      (items size' inner' .closeParen [] left'.value.height paren'.rest) := by
    rw [hleft.2]
    exact items_same .closeParen hsub .nil _ hparen.2
  refine hargs.bind fun args args' hargs => ?_
  obtain ⟨hitems, hheights, hspan, hrest⟩ := hargs
  have hheight : args.value.2.1 + 1 = args'.value.2.1 + 1 := by rw [hheights]
  refine (checkHeight_same hheight _ _).bind fun _ _ _ => ?_
  exact ⟨⟨.call optional (P.spans_through hleft.1.span hspan) hleft.1 hitems, hheight⟩, hrest⟩

theorem access?_dot (size : Nat) (inner : Reader) {sp : Span} {more : Tokens}
    (hrest : left.rest = ⟨.symbol .dot, sp⟩ :: more) (hm : more.length < left.rest.length) :
    access? size inner left = some (memberTail size false left more hm) := by
  unfold access?
  split
  next h => cases hrest.symm.trans h; rfl
  next h => cases hrest.symm.trans h
  next h => cases hrest.symm.trans h
  next h => cases hrest.symm.trans h
  next h _ _ _ => exact absurd hrest (h _ _)

theorem access?_bracket (size : Nat) (inner : Reader) {sp : Span} {more : Tokens}
    (hrest : left.rest = ⟨.symbol .openBracket, sp⟩ :: more) :
    access? size inner left = some (indexTail size inner false left left.rest (Nat.le_refl _)) := by
  unfold access?
  split
  next h => cases hrest.symm.trans h
  next h => cases hrest.symm.trans h
  next h => rfl
  next h => cases hrest.symm.trans h
  next h _ => exact absurd hrest (h _ _)

theorem access?_paren (size : Nat) (inner : Reader) {sp : Span} {more : Tokens}
    (hrest : left.rest = ⟨.symbol .openParen, sp⟩ :: more) :
    access? size inner left = some (callTail size inner false left left.rest (Nat.le_refl _)) := by
  unfold access?
  split
  next h => cases hrest.symm.trans h
  next h => cases hrest.symm.trans h
  next h => cases hrest.symm.trans h
  next h => rfl
  next h => exact absurd hrest (h _ _)

theorem le_of_lt_rest {left : Taken Built ts} {more : Tokens}
    (hm : more.length < left.rest.length) : more.length ≤ left.rest.length :=
  Nat.le_of_lt hm

/-- Reads what follows a question mark with a point. -/
def optionalTail (size : Nat) (inner : Reader) (left : Taken Built ts) (more : Tokens)
    (hm : more.length < left.rest.length) : Except ParseError (Further left) :=
  have hle := le_of_lt_rest hm
  match more, hm, hle with
  | ⟨.symbol .openBracket, _⟩ :: _, _, hle => indexTail size inner true left _ hle
  | ⟨.symbol .openParen, _⟩ :: _, _, hle => callTail size inner true left _ hle
  | more, hm, _ => memberTail size true left more hm

theorem access?_optional (size : Nat) (inner : Reader) {sp : Span} {more : Tokens}
    (hrest : left.rest = ⟨.symbol .questionDot, sp⟩ :: more) (hm : more.length < left.rest.length) :
    access? size inner left = some (optionalTail size inner left more hm) := by
  unfold access?
  split
  next h => cases hrest.symm.trans h
  next h =>
    cases hrest.symm.trans h
    cases more with
    | nil => rfl
    | cons t more =>
      obtain ⟨value, sp'⟩ := t
      cases value with
      | symbol s => cases s <;> rfl
      | number _ => rfl
      | string _ => rfl
      | name _ => rfl
  next h => cases hrest.symm.trans h
  next h => cases hrest.symm.trans h
  next h _ _ => exact absurd hrest (h _ _)

theorem optionalTail_same (hsub : Agree P inner inner') (hleft : SameBuilt P left.value left'.value)
    (hts : Matching P ts' us') (h : ts'.length < left.rest.length)
    (h' : us'.length < left'.rest.length) :
    FailTogether (SameFurther P) (optionalTail size inner left ts' h)
      (optionalTail size' inner' left' us' h') := by
  have hmember : FailTogether (SameFurther P) (memberTail size true left ts' h)
      (memberTail size' true left' us' h') :=
    memberTail_same true hleft hts h h'
  cases ts' with
  | nil =>
    cases hts
    exact hmember
  | cons t ts' =>
    obtain ⟨⟨value', sp'⟩, us', rfl, hvalue, -, -⟩ := matching_cons hts
    obtain ⟨value, sp⟩ := t
    obtain rfl : value' = value := hvalue
    cases value' with
    | number _ => exact hmember
    | string _ => exact hmember
    | name _ => exact hmember
    | symbol s =>
      cases s
      case openBracket =>
        exact indexTail_same true hsub hleft hts (Nat.le_of_lt h) (Nat.le_of_lt h')
      case openParen =>
        exact callTail_same true hsub hleft hts (Nat.le_of_lt h) (Nat.le_of_lt h')
      all_goals exact hmember

/-- Whether an access or a call may start with the symbol. -/
def startsAccess (s : Symbol) : Prop :=
  s = .dot ∨ s = .questionDot ∨ s = .openBracket ∨ s = .openParen

theorem access?_other (size : Nat) (inner : Reader)
    (h : ∀ s sp more, startsAccess s → left.rest ≠ ⟨.symbol s, sp⟩ :: more) :
    access? size inner left = none := by
  unfold access?
  split
  next hrest => exact absurd hrest (h _ _ _ (by simp [startsAccess]))
  next hrest => exact absurd hrest (h _ _ _ (by simp [startsAccess]))
  next hrest => exact absurd hrest (h _ _ _ (by simp [startsAccess]))
  next hrest => exact absurd hrest (h _ _ _ (by simp [startsAccess]))
  next => rfl

theorem access?_same (hsub : Agree P inner inner') (hleft : SameRead P left left') :
    access? size inner left = none ∧ access? size' inner' left' = none ∨
      ∃ r r', access? size inner left = some r ∧ access? size' inner' left' = some r' ∧
        FailTogether (SameFurther P) r r' := by
  rcases symbol_cases hleft.2 with ⟨s, sp, sp', more, more', hrest, hrest', hmore⟩ | ⟨h, h'⟩
  · have hm : more.length < left.rest.length := by rw [hrest]; exact Nat.lt_succ_self _
    have hm' : more'.length < left'.rest.length := by rw [hrest']; exact Nat.lt_succ_self _
    by_cases hs : startsAccess s
    · rcases hs with rfl | rfl | rfl | rfl
      · rw [access?_dot size inner hrest hm, access?_dot size' inner' hrest' hm']
        exact Or.inr ⟨_, _, rfl, rfl, memberTail_same false hleft.1 hmore hm hm'⟩
      · rw [access?_optional size inner hrest hm, access?_optional size' inner' hrest' hm']
        exact Or.inr ⟨_, _, rfl, rfl, optionalTail_same hsub hleft.1 hmore hm hm'⟩
      · rw [access?_bracket size inner hrest, access?_bracket size' inner' hrest']
        exact Or.inr ⟨_, _, rfl, rfl, indexTail_same false hsub hleft.1 hleft.2 _ _⟩
      · rw [access?_paren size inner hrest, access?_paren size' inner' hrest']
        exact Or.inr ⟨_, _, rfl, rfl, callTail_same false hsub hleft.1 hleft.2 _ _⟩
    · refine Or.inl ⟨access?_other size inner fun s' sp'' more'' hs' hrest'' => ?_,
        access?_other size' inner' fun s' sp'' more'' hs' hrest'' => ?_⟩
      · cases hrest.symm.trans hrest''
        exact hs hs'
      · cases hrest'.symm.trans hrest''
        exact hs hs'
  · exact Or.inl ⟨access?_other size inner fun s sp more _ => h s sp more,
      access?_other size' inner' fun s sp more _ => h' s sp more⟩

theorem accesses_same (hsub : Agree P inner inner') (hleft : SameRead P left left') :
    FailTogether (SameRead P) (accesses size inner left) (accesses size' inner' left') := by
  induction hn : left.rest.length using Nat.strongRecOn generalizing left left' with
  | ind n ih =>
    subst hn
    rw [accesses, accesses]
    rcases access?_same hsub hleft with ⟨h, h'⟩ | ⟨r, r', h, h', hr⟩
    · rw [h, h']
      exact hleft
    · rw [h, h']
      rcases hr.cases with ⟨e, e', rfl, rfl⟩ | ⟨f, f', rfl, rfl, hread⟩
      · trivial
      · exact ih _ f.2 hread rfl

/-! ### Operands -/

theorem arrowParams?_same (acc : List String) (h : Matching P ts us) :
    arrowParams? acc ts = none ∧ arrowParams? acc us = none ∨
      ∃ l l', arrowParams? acc ts = some l ∧ arrowParams? acc us = some l' ∧
        l.value = l'.value ∧ Matching P l.rest l'.rest := by
  fun_induction arrowParams? acc ts generalizing us with
  | case1 acc p _ _ rest ih =>
    obtain ⟨_, us₁, rfl, -, h₁⟩ := matching_value h
    obtain ⟨_, us₂, rfl, -, h₂⟩ := matching_value h₁
    rw [arrowParams?]
    rcases ih h₂ with ⟨hts, hus⟩ | ⟨l, l', hts, hus, hvalue, hrest⟩
    · rw [hts, hus]
      exact Or.inl ⟨rfl, rfl⟩
    · rw [hts, hus, Option.bind_some, Option.bind_some]
      cases rest with
      | nil =>
        cases h₂
        exact Or.inl ⟨rfl, rfl⟩
      | cons t rest =>
        obtain ⟨value, sp⟩ := t
        obtain ⟨_, us₃, rfl, -, _⟩ := matching_value h₂
        cases value with
        | name _ => exact Or.inr ⟨_, _, rfl, rfl, hvalue, hrest⟩
        | symbol _ => exact Or.inl ⟨rfl, rfl⟩
        | number _ => exact Or.inl ⟨rfl, rfl⟩
        | string _ => exact Or.inl ⟨rfl, rfl⟩
  | case2 acc p =>
    obtain ⟨_, us₁, rfl, -, h₁⟩ := matching_value h
    obtain ⟨_, us₂, rfl, -, h₂⟩ := matching_value h₁
    obtain ⟨_, us₃, rfl, -, h₃⟩ := matching_value h₂
    exact Or.inr ⟨_, _, rfl, rfl, rfl, h₃⟩
  | case3 acc =>
    obtain ⟨_, us₁, rfl, -, h₁⟩ := matching_value h
    obtain ⟨_, us₂, rfl, -, h₂⟩ := matching_value h₁
    exact Or.inr ⟨_, _, rfl, rfl, rfl, h₂⟩
  | case4 ts acc hcomma hname hempty =>
    refine Or.inl ⟨rfl, ?_⟩
    unfold arrowParams?
    split
    next =>
      obtain ⟨_, ts₁, rfl, h₁⟩ := matching_value_right h
      obtain ⟨_, ts₂, rfl, h₂⟩ := matching_value_right h₁
      exact (hcomma _ _ _ _ rfl).elim
    next =>
      obtain ⟨_, ts₁, rfl, h₁⟩ := matching_value_right h
      obtain ⟨_, ts₂, rfl, h₂⟩ := matching_value_right h₁
      obtain ⟨_, ts₃, rfl, h₃⟩ := matching_value_right h₂
      exact (hname _ _ _ _ _ rfl).elim
    next =>
      obtain ⟨_, ts₁, rfl, h₁⟩ := matching_value_right h
      obtain ⟨_, ts₂, rfl, h₂⟩ := matching_value_right h₁
      exact (hempty _ _ _ rfl).elim
    next => rfl

theorem lambdaBody_other {sub : Reader} {params : List String} {start : Nat}
    (h : ∀ sp sp' more, ts ≠ ⟨.symbol .openBrace, sp⟩ :: ⟨.name "return", sp'⟩ :: more) :
    lambdaBody sub params start ts =
      (sub ts >>= fun body => checkHeight (body.value.height + 1) start >>= fun _ =>
        pure (body.map fun b =>
          ⟨.lambda ⟨start, b.expr.span.stop⟩ params b.expr, b.height + 1⟩)) := by
  unfold lambdaBody
  split
  next => exact (h _ _ _ rfl).elim
  next => rfl

theorem lambdaBody_same (hsub : Agree P inner inner') (params : List String) {start start' : Nat}
    (hstart : P.start start start') (h : Matching P ts us) :
    FailTogether (SameRead P) (lambdaBody inner params start ts)
      (lambdaBody inner' params start' us) := by
  by_cases hblock : ∃ sp sp' more, ts = ⟨.symbol .openBrace, sp⟩ :: ⟨.name "return", sp'⟩ :: more
  · obtain ⟨sp, sp', more, rfl⟩ := hblock
    obtain ⟨_, us₁, rfl, -, h₁⟩ := matching_value h
    obtain ⟨_, us₂, rfl, -, h₂⟩ := matching_value h₁
    trivial
  · rw [lambdaBody_other fun sp sp' more hts => hblock ⟨sp, sp', more, hts⟩, lambdaBody_other]
    · refine (hsub _ _ h).bind fun body body' hbody => ?_
      have hheight : body.value.height + 1 = body'.value.height + 1 := by rw [hbody.1.2]
      refine (checkHeight_same hheight _ _).bind fun _ _ _ => ?_
      exact ⟨⟨.lambda params ⟨hstart, hbody.1.1.span.2⟩ hbody.1.1, hheight⟩, hbody.2⟩
    · rintro sp sp' more rfl
      obtain ⟨_, ts₁, rfl, h₁⟩ := matching_value_right h
      obtain ⟨_, ts₂, rfl, h₂⟩ := matching_value_right h₁
      exact hblock ⟨_, _, _, rfl⟩

theorem nameOperand_arrow {sub : Reader} {name : String} {t : Spanned Token} {sp : Span}
    {more : Tokens} :
    nameOperand sub name t (⟨.symbol .arrow, sp⟩ :: more) =
      (lambdaBody sub [name] t.span.start more).map fun b => b.cons.cons := by
  rw [nameOperand]

theorem nameOperand_same (hsub : Agree P inner inner') (name : String) {t u : Spanned Token}
    (hspan : P.spans t.span u.span) (h : Matching P ts us) :
    FailTogether (SameRead P) (nameOperand inner name t ts) (nameOperand inner' name u us) := by
  by_cases harrow : ∃ sp more, ts = ⟨.symbol .arrow, sp⟩ :: more
  · obtain ⟨sp, more, rfl⟩ := harrow
    obtain ⟨_, us₁, rfl, -, h₁⟩ := matching_value h
    rw [nameOperand_arrow, nameOperand_arrow]
    exact (lambdaBody_same hsub [name] hspan.1 h₁).map fun _ _ hsame => hsame
  · have hts : ∀ sp more, ts ≠ ⟨.symbol .arrow, sp⟩ :: more :=
      fun sp more hts => harrow ⟨sp, more, hts⟩
    have hus : ∀ sp more, us ≠ ⟨.symbol .arrow, sp⟩ :: more := by
      rintro sp more rfl
      obtain ⟨_, ts₁, rfl, _⟩ := matching_value_right h
      exact harrow ⟨_, _, rfl⟩
    unfold nameOperand
    split
    next => exact (hts _ _ rfl).elim
    split
    next => exact ⟨⟨.literal _ hspan, rfl⟩, h⟩
    next => exact ⟨⟨.literal _ hspan, rfl⟩, h⟩
    next => exact ⟨⟨.literal _ hspan, rfl⟩, h⟩
    next => exact ⟨⟨.literal _ hspan, rfl⟩, h⟩
    next => exact ⟨⟨.literal _ hspan, rfl⟩, h⟩
    next => exact ⟨⟨.literal _ hspan, rfl⟩, h⟩
    next =>
      split
      · trivial
      · exact ⟨⟨.ident _ hspan, rfl⟩, h⟩

/-- Matching trees are read off, perhaps without a token, and the same tokens are left. -/
def SameLeft (P : Places) (l : Left Built ts) (l' : Left Built us) : Prop :=
  SameBuilt P l.value l'.value ∧ Matching P l.rest l'.rest

theorem entryValue_same (hsub : Agree P inner inner') {t u : Spanned Token} (htu : u.value = t.value)
    (hspan : P.spans t.span u.span) (h : Matching P ts us) :
    FailTogether (SameLeft P) (entryValue size inner t ts) (entryValue size' inner' u us) := by
  cases ts with
  | nil =>
    cases h
    trivial
  | cons v ts =>
    obtain ⟨w, us, rfl, hvalue, -, hrest⟩ := matching_cons h
    simp only [entryValue, hvalue, htu]
    split
    · exact (hsub _ _ hrest).map fun _ _ hsame => hsame
    split
    · split
      · exact ⟨⟨.ident _ hspan, rfl⟩, h⟩
      · trivial
    · trivial

theorem entryKey_same {t u : Spanned Token} (htu : u.value = t.value) :
    FailTogether Eq (entryKey t) (entryKey u) := by
  rw [entryKey, entryKey, htu]
  split <;> first | rfl | trivial

theorem objectEntries_same (hsub : Agree P inner inner') {start start' : Nat}
    (hstart : P.start start start') {acc acc' : Fields Expr}
    (hacc : Fields.Related (Expr.Matches P.spans) acc acc') (height : Nat) {ts us : Tokens}
    (h : Matching P ts us) :
    FailTogether (SameRead P) (objectEntries size inner start acc height ts)
      (objectEntries size' inner' start' acc' height us) := by
  induction hn : ts.length using Nat.strongRecOn generalizing acc acc' height ts us with
  | ind n ih =>
    subst hn
    rw [objectEntries.eq_def, objectEntries.eq_def]
    cases ts with
    | nil =>
      cases h
      trivial
    | cons t ts =>
      obtain ⟨u, us, rfl, hvalue, hspan, hrest⟩ := matching_cons h
      simp only [hvalue]
      split
      · refine (checkHeight_same rfl _ _).bind fun _ _ _ => ?_
        exact ⟨⟨.object ⟨hstart, hspan.2⟩ hacc.reverse, rfl⟩, hrest⟩
      have hkey := entryKey_same hvalue
      have hentry : FailTogether (SameLeft P) (entryValue size inner t ts)
          (entryValue size' inner' u us) :=
        entryValue_same hsub hvalue hspan hrest
      rcases hkey.cases with ⟨e, e', hk, hk'⟩ | ⟨key, key', hk, hk', rfl⟩
      · rw [hk, hk']
        trivial
      rw [hk, hk']
      rcases hentry.cases with ⟨e, e', hv, hv'⟩ | ⟨⟨b, after, hle⟩, ⟨b', after', hle'⟩, hv, hv',
        ⟨htree, hheight⟩, hafter⟩
      · rw [hv, hv']
        trivial
      rw [hv, hv']
      have hb : b.height = b'.height := hheight
      have hacc' : Fields.Related (Expr.Matches P.spans) ((key, b.expr) :: acc)
          ((key, b'.expr) :: acc') :=
        .cons key htree hacc
      cases after with
      | nil =>
        cases hafter
        trivial
      | cons v more =>
        obtain ⟨w, more', rfl, hvw, hend, hmore⟩ := matching_cons hafter
        simp only [hvw, hb]
        split
        · have hlt : more.length < (t :: ts).length := by
            simp only [List.length_cons] at hle ⊢
            omega
          exact (ih _ hlt hacc' _ hmore rfl).map fun _ _ hsame => hsame
        split
        · refine (checkHeight_same rfl _ _).bind fun _ _ _ => ?_
          exact ⟨⟨.object ⟨hstart, hend.2⟩ hacc'.reverse, rfl⟩, hmore⟩
        · trivial

theorem operand_same (hsub : Agree P inner inner') (h : Matching P ts us) :
    FailTogether (SameRead P) (operand size inner ts) (operand size' inner' us) := by
  cases ts with
  | nil =>
    cases h
    trivial
  | cons t ts =>
    obtain ⟨⟨value', sp'⟩, us, rfl, hvalue, hspan, hrest⟩ := matching_cons h
    obtain ⟨value, sp⟩ := t
    obtain rfl : value' = value := hvalue
    cases value' with
    | number x => exact ⟨⟨.literal _ hspan, rfl⟩, hrest⟩
    | string s => exact ⟨⟨.literal _ hspan, rfl⟩, hrest⟩
    | name s => exact nameOperand_same hsub s hspan hrest
    | symbol s =>
      cases s
      case openParen =>
        simp only [operand]
        rcases arrowParams?_same [] hrest with ⟨hts, hus⟩ | ⟨l, l', hts, hus, hvalue, hmore⟩
        · rw [hts, hus]
          refine (hsub _ _ hrest).bind fun e e' he => ?_
          refine (expect_same .closeParen he.2).bind fun close close' hclose => ?_
          exact ⟨⟨he.1.1.withSpan ⟨hspan.1, hclose.1.2⟩, he.1.2⟩, hclose.2⟩
        · rw [hts, hus]
          simp only [hvalue]
          exact (lambdaBody_same hsub _ hspan.1 hmore).map fun _ _ hsame => hsame
      case openBracket =>
        refine (items_same .closeBracket hsub .nil 0 hrest).bind fun list list' hlist => ?_
        obtain ⟨hitems, hheights, hend, hmore⟩ := hlist
        have hheight : list.value.2.1 + 1 = list'.value.2.1 + 1 := by rw [hheights]
        refine (checkHeight_same hheight _ _).bind fun _ _ _ => ?_
        exact ⟨⟨.array (P.spans_through hspan hend) hitems, hheight⟩, hmore⟩
      case openBrace =>
        exact (objectEntries_same hsub hspan.1 .nil 0 hrest).map fun _ _ hsame => hsame
      all_goals trivial

theorem unaryWith_same {deeper deeper' : Reader} (hdeeper : Agree P deeper deeper')
    (hsub : Agree P inner inner') :
    Agree P (unaryWith size deeper inner) (unaryWith size' deeper' inner') := by
  intro ts us h
  cases ts with
  | nil =>
    cases h
    trivial
  | cons t ts =>
    obtain ⟨u, us, rfl, hvalue, hspan, hrest⟩ := matching_cons h
    simp only [unaryWith, hvalue]
    split
    next op hop =>
      refine (hdeeper _ _ hrest).bind fun e e' he => ?_
      have hheight : e.value.height + 1 = e'.value.height + 1 := by rw [he.1.2]
      refine (checkHeight_same hheight _ _).bind fun _ _ _ => ?_
      exact ⟨⟨.unary op (P.spans_through hspan he.1.1.span) he.1.1, hheight⟩, he.2⟩
    next => exact (operand_same hsub h).bind fun e e' he => accesses_same hsub he

theorem binaryWith_same {deeper deeper' : Reader} (hdeeper : Agree P deeper deeper')
    (hsub : ∀ level, Agree P (sub level) (sub' level)) (min : Level) :
    Agree P (binaryWith size deeper sub min) (binaryWith size' deeper' sub' min) := by
  intro ts us h
  exact (hdeeper ts us h).bind fun e e' he => operators_same min hsub he

/-! ### The descent -/

theorem tooDeep_same : Agree P (fun ts => tooDeep size ts) (fun ts => tooDeep size' ts) :=
  fun _ _ _ => trivial

theorem exprAt_same (n : Nat) : (∀ min, Agree P (exprAt size n min) (exprAt size' n min)) ∧
    Agree P (unaryAt size n) (unaryAt size' n) := by
  induction n with
  | zero => exact ⟨fun _ => tooDeep_same, unaryWith_same tooDeep_same tooDeep_same⟩
  | succ n ih =>
    obtain ⟨hexpr, hunary⟩ := ih
    refine ⟨fun min => binaryWith_same hunary hexpr min, ?_⟩
    exact unaryWith_same hunary (binaryWith_same hunary hexpr Level.assignment)

/-- Without tokens the tree stands at the start of the text. -/
theorem parseTokens_same (hnil : ts = [] → P.spans ⟨0, 0⟩ ⟨0, 0⟩) (h : Matching P ts us) :
    FailTogether (SameBuilt P) (parseTokens size ts) (parseTokens size' us) := by
  cases ts with
  | nil =>
    cases h
    exact ⟨.literal _ (hnil rfl), rfl⟩
  | cons t ts =>
    obtain ⟨u, us, rfl, -, -, -⟩ := matching_cons h
    refine ((exprAt_same maxDepth).1 Level.assignment _ _ h).bind fun e e' he => ?_
    obtain ⟨hbuilt, hrest⟩ := he
    cases hafter : e.rest with
    | nil =>
      rw [hafter] at hrest
      rw [List.forall₂_nil_left_iff.1 hrest]
      exact hbuilt
    | cons v more =>
      rw [hafter] at hrest
      obtain ⟨w, more', hafter', hvalue, -, -⟩ := matching_cons hrest
      rw [hafter']
      simp only [hvalue]
      split <;> trivial

end Parser

/-! ### Texts -/

namespace Places

/-- Places that are told apart in the one text if and only if they are in the other one. -/
structure Exact (P : Places) : Prop where
  start : ∀ {a a' b b' : Nat}, P.start a a' → P.start b b' → (a = b ↔ a' = b')
  stop : ∀ {a a' b b' : Nat}, P.stop a a' → P.stop b b' → (a = b ↔ a' = b')

theorem Exact.spans_iff {P : Places} (h : P.Exact) {s s' t t' : Span} (hs : P.spans s s')
    (ht : P.spans t t') : s = t ↔ s' = t' := by
  obtain ⟨start, stop⟩ := s
  obtain ⟨start', stop'⟩ := s'
  obtain ⟨start₂, stop₂⟩ := t
  obtain ⟨start₂', stop₂'⟩ := t'
  simp only [Span.mk.injEq, h.start hs.1 ht.1, h.stop hs.2 ht.2]

/-- All places go together. -/
def any : Places := ⟨fun _ _ => True, fun _ _ => True⟩

/-- Every place goes together with itself. -/
def same : Places := ⟨Eq, Eq⟩

theorem exact_same : same.Exact where
  start := by rintro a _ b _ rfl rfl; exact Iff.rfl
  stop := by rintro a _ b _ rfl rfl; exact Iff.rfl

/-- The places of two sequences of tokens that go together one by one. -/
def ofTokens (ts us : List (Spanned Token)) : Places where
  start a a' := ∃ (i : Nat) (t u : Spanned Token),
    ts[i]? = some t ∧ us[i]? = some u ∧ t.span.start = a ∧ u.span.start = a'
  stop a a' := ∃ (i : Nat) (t u : Spanned Token),
    ts[i]? = some t ∧ us[i]? = some u ∧ t.span.stop = a ∧ u.span.stop = a'

/-- Tokens in order are told apart by where they start and by where they stop. -/
theorem index_of_inOrder {ts : List (Spanned Token)} (h : Token.InOrder ts) {i j : Nat}
    {t u : Spanned Token} (ht : ts[i]? = some t) (hu : ts[j]? = some u) :
    (t.span.start = u.span.start ↔ i = j) ∧ (t.span.stop = u.span.stop ↔ i = j) := by
  obtain ⟨hi, rfl⟩ := List.getElem?_eq_some_iff.1 ht
  obtain ⟨hj, rfl⟩ := List.getElem?_eq_some_iff.1 hu
  have horder := List.pairwise_iff_getElem.1 h
  rcases Nat.lt_trichotomy i j with hij | rfl | hij
  · have := horder i j hi hj hij
    omega
  · simp
  · have := horder j i hj hi hij
    omega

theorem exact_ofTokens {ts us : List (Spanned Token)} (hts : Token.InOrder ts)
    (hus : Token.InOrder us) : (ofTokens ts us).Exact where
  start := by
    rintro _ _ _ _ ⟨i, t, u, ht, hu, rfl, rfl⟩ ⟨j, t', u', ht', hu', rfl, rfl⟩
    rw [(index_of_inOrder hts ht ht').1, (index_of_inOrder hus hu hu').1]
  stop := by
    rintro _ _ _ _ ⟨i, t, u, ht, hu, rfl, rfl⟩ ⟨j, t', u', ht', hu', rfl, rfl⟩
    rw [(index_of_inOrder hts ht ht').2, (index_of_inOrder hus hu hu').2]

end Places

/-- The same tokens stand at places that go together one by one. -/
theorem Parser.matching_of_sameTokens {P : Places} {ts us : List (Spanned Token)}
    (h : SameTokens ts us)
    (hP : ∀ (i : Nat) t u, ts[i]? = some t → us[i]? = some u → P.spans t.span u.span) :
    Matching P ts us := by
  induction ts generalizing us with
  | nil =>
    cases us with
    | nil => exact .nil
    | cons u us => cases h
  | cons t ts ih =>
    cases us with
    | nil => cases h
    | cons u us =>
      obtain ⟨hvalue, hrest⟩ := List.cons.inj h
      exact .cons ⟨hvalue, hP 0 t u rfl rfl⟩ (ih hrest fun i => hP (i + 1))

/-- Texts with the same normal form and quiet comments are both rejected, or parsed to the same tree
up to spans. -/
theorem Expr.parse_same {x y : List Char} (h : Cache.normalize x = Cache.normalize y)
    (hx : Cache.isQuiet x = true) (hy : Cache.isQuiet y = true) :
    FailTogether Expr.SameTree (Expr.parse x) (Expr.parse y) := by
  refine (tokenize_alike h hx hy).bind fun ts us hts => ?_
  have hmatch : Parser.Matching .any ts us :=
    Parser.matching_of_sameTokens hts fun _ _ _ _ _ => ⟨trivial, trivial⟩
  exact (Parser.parseTokens_same (fun _ => ⟨trivial, trivial⟩) hmatch).bind fun b b' hb =>
    hb.1.sameTree

/-- The nodes of the trees that they are parsed to go together exactly. -/
theorem Expr.matches_of_parse {x y : List Char} (h : Cache.normalize x = Cache.normalize y)
    (hx : Cache.isQuiet x = true) (hy : Cache.isQuiet y = true) {e e' : Expr}
    (he : Expr.parse x = .ok e) (he' : Expr.parse y = .ok e') :
    ∃ P : Places, P.Exact ∧ e.Matches P.spans e' := by
  obtain ⟨ts, hts, he⟩ := exists_of_bind_eq_ok he
  obtain ⟨us, hus, he'⟩ := exists_of_bind_eq_ok he'
  obtain ⟨b, hb, he⟩ := exists_of_bind_eq_ok he
  obtain ⟨b', hb', he'⟩ := exists_of_bind_eq_ok he'
  obtain rfl := Except.ok.inj he
  obtain rfl := Except.ok.inj he'
  have hsame : SameTokens ts us := by
    have hfail := tokenize_alike h hx hy
    rw [hts, hus] at hfail
    exact hfail
  have hread (P : Places) (hnil : ts = [] → P.spans ⟨0, 0⟩ ⟨0, 0⟩)
      (hmatch : Parser.Matching P ts us) : b.expr.Matches P.spans b'.expr := by
    have hfail : FailTogether (Parser.SameBuilt P) (Parser.parseTokens (byteLength x) ts)
        (Parser.parseTokens (byteLength y) us) :=
      Parser.parseTokens_same hnil hmatch
    rw [hb, hb'] at hfail
    exact hfail.1
  cases ts with
  | nil =>
    refine ⟨.same, Places.exact_same, hread _ (fun _ => ⟨rfl, rfl⟩) ?_⟩
    exact Parser.matching_of_sameTokens hsame fun i t u ht _ => nomatch ht
  | cons t ts =>
    refine ⟨.ofTokens (t :: ts) us,
      Places.exact_ofTokens (inOrder_tokenize hts) (inOrder_tokenize hus), ?_⟩
    refine hread _ (fun hnil => nomatch hnil) (Parser.matching_of_sameTokens hsame ?_)
    exact fun i t u ht hu => ⟨⟨i, t, u, ht, hu, rfl, rfl⟩, ⟨i, t, u, ht, hu, rfl, rfl⟩⟩

end TemplateExpr
