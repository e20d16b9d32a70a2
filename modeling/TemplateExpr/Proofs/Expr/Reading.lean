import TemplateExpr.Proofs.Expr.Parser

/-!
# What the parser reads

A reader takes tokens off the front whose braces are balanced (`Skips`): only the entries of an
object are read between an opening and a closing brace, and neither stands anywhere else. The tree
that it builds of them stands from the start of the first one to the end of the last one (`Covers`),
and so do its parts. An error lies where a token starts or where the text ends.

`Sound` puts these together for a reader. What is known of places comes from a `Layout`, which says
where errors and nodes may stand.
-/

namespace TemplateExpr.Parser

open TemplateExpr.Text

/-! ### Braces -/

/-- The number of open braces behind the tokens, if there are `depth` in front of them; `none` if
there are more closing braces than open ones. -/
def nest? (depth : Nat) : Tokens → Option Nat
  | [] => some depth
  | ⟨.symbol .openBrace, _⟩ :: ts => nest? (depth + 1) ts
  | ⟨.symbol .closeBrace, _⟩ :: ts => if depth = 0 then none else nest? (depth - 1) ts
  | _ :: ts => nest? depth ts

/-- `rest` follows tokens whose braces are balanced. -/
structure Skips (ts rest : Tokens) : Prop where
  suffix : rest <:+ ts
  nest : ∀ depth, nest? depth ts = nest? depth rest

/-- `rest` follows a closing brace, the braces in front of which are balanced. -/
structure ClosesBrace (ts rest : Tokens) : Prop where
  suffix : rest <:+ ts
  nest : ∀ depth, nest? (depth + 1) ts = nest? depth rest

/-- The token is not a brace. -/
def IsBraceless (t : Token) : Prop := t ≠ .symbol .openBrace ∧ t ≠ .symbol .closeBrace

variable {ts ts' rest : Tokens} {t : Spanned Token}

theorem nest?_braceless (h : IsBraceless t.value) (depth : Nat) (ts : Tokens) :
    nest? depth (t :: ts) = nest? depth ts := by
  obtain ⟨value, sp⟩ := t
  rw [nest?]
  · rintro sp' ⟨⟩
    exact h.1 rfl
  · rintro sp' ⟨⟩
    exact h.2 rfl

theorem skips_refl (ts : Tokens) : Skips ts ts := ⟨List.suffix_refl ts, fun _ => rfl⟩

theorem Skips.trans (h : Skips ts ts') (h' : Skips ts' rest) : Skips ts rest where
  suffix := h'.suffix.trans h.suffix
  nest depth := (h.nest depth).trans (h'.nest depth)

theorem skips_cons (h : IsBraceless t.value) (ts : Tokens) : Skips (t :: ts) ts where
  suffix := List.suffix_cons t ts
  nest depth := nest?_braceless h depth ts

theorem Skips.cons (h : IsBraceless t.value) (hskips : Skips ts rest) : Skips (t :: ts) rest :=
  (skips_cons h ts).trans hskips

theorem Skips.closesBrace (h : Skips ts ts') (h' : ClosesBrace ts' rest) : ClosesBrace ts rest where
  suffix := h'.suffix.trans h.suffix
  nest depth := (h.nest (depth + 1)).trans (h'.nest depth)

theorem closesBrace_cons (sp : Span) (ts : Tokens) :
    ClosesBrace (⟨.symbol .closeBrace, sp⟩ :: ts) ts where
  suffix := List.suffix_cons _ ts
  nest depth := by rw [nest?, if_neg (Nat.succ_ne_zero depth), Nat.add_sub_cancel]

/-- Balanced tokens between braces are balanced. -/
theorem ClosesBrace.skips (h : ClosesBrace ts rest) (sp : Span) :
    Skips (⟨.symbol .openBrace, sp⟩ :: ts) rest where
  suffix := h.suffix.trans (List.suffix_cons _ ts)
  nest depth := by rw [nest?, h.nest]

theorem eq_of_isSymbol {t : Token} {s : Symbol} (h : t.isSymbol s = true) : t = .symbol s := by
  cases t with
  | symbol s' => exact congrArg Token.symbol (beq_iff_eq.1 h)
  | number _ => cases h
  | string _ => cases h
  | name _ => cases h

theorem braceless_symbol {s : Symbol} (h : s ≠ .openBrace ∧ s ≠ .closeBrace) :
    IsBraceless (.symbol s) :=
  ⟨fun heq => h.1 (Token.symbol.inj heq), fun heq => h.2 (Token.symbol.inj heq)⟩

theorem braceless_of_isSymbol {t : Token} {s : Symbol} (hs : s ≠ .openBrace ∧ s ≠ .closeBrace)
    (h : t.isSymbol s = true) : IsBraceless t := by
  rw [eq_of_isSymbol h]
  exact braceless_symbol hs

theorem braceless_of_name? {t : Token} {name : String} (h : t.name? = some name) :
    IsBraceless t := by
  constructor <;> (rintro rfl; cases h)

theorem braceless_of_binaryOp? {s : Symbol} {op : BinaryOp} (h : s.binaryOp? = some op) :
    s ≠ .openBrace ∧ s ≠ .closeBrace := by
  constructor <;> (rintro rfl; cases h)

theorem braceless_of_unaryOp? {t : Token} {op : UnaryOp} (h : t.unaryOp? = some op) :
    IsBraceless t := by
  constructor <;> (rintro rfl; cases h)

/-! ### Places -/

/-- Where errors and nodes may stand, and which strings there may be. -/
structure Layout where
  place : Nat → Prop
  range : Span → Prop
  text : String → Prop

/-- `rest` follows a token of `ts` that stops at byte `stop`. -/
def StopsAt (ts rest : Tokens) (stop : Nat) : Prop :=
  ∃ pre u, ts = pre ++ u :: rest ∧ u.span.stop = stop

/-- The span starts with the first token of `ts`, and stops with the one in front of `rest`. -/
structure Covers (ts rest : Tokens) (s : Span) : Prop where
  start : ∃ t more, ts = t :: more ∧ t.span.start = s.start
  stop : StopsAt ts rest s.stop

/-- An error may lie where a token of `ts` starts, a node may stand from the start of one to the
end of another one behind it, and there may be the strings of `ts`. -/
structure Layout.Allows (l : Layout) (ts : Tokens) : Prop where
  place : ∀ t ∈ ts, l.place t.span.start
  range : ∀ ts' rest s, ts' <:+ ts → Covers ts' rest s → l.range s
  text : ∀ t ∈ ts, ∀ s, t.value = .string s → l.text s

theorem stopsAt_cons (t : Spanned Token) (ts : Tokens) : StopsAt (t :: ts) ts t.span.stop :=
  ⟨[], t, rfl, rfl⟩

theorem StopsAt.of_suffix {stop : Nat} (h : StopsAt ts' rest stop) (hsuffix : ts' <:+ ts) :
    StopsAt ts rest stop := by
  obtain ⟨pre, u, rfl, hu⟩ := h
  obtain ⟨before, rfl⟩ := hsuffix
  exact ⟨before ++ pre, u, List.append_assoc .. |>.symm, hu⟩

theorem covers_cons (t : Spanned Token) (ts : Tokens) : Covers (t :: ts) ts t.span :=
  ⟨⟨t, ts, rfl, rfl⟩, stopsAt_cons t ts⟩

/-- What has been read goes on up to a token behind it. -/
theorem Covers.extend {mid mid' : Tokens} {s : Span} {stop : Nat} (h : Covers ts mid s)
    (hsuffix : mid' <:+ ts) (hstop : StopsAt mid' rest stop) : Covers ts rest ⟨s.start, stop⟩ :=
  ⟨h.start, hstop.of_suffix hsuffix⟩

variable {l : Layout} {size : Nat}

namespace Layout.Allows

theorem of_suffix (h : l.Allows ts) (hsuffix : ts' <:+ ts) : l.Allows ts' where
  place t ht := h.place t (hsuffix.subset ht)
  range ts'' rest s hts := h.range ts'' rest s (hts.trans hsuffix)
  text t ht := h.text t (hsuffix.subset ht)

theorem head (h : l.Allows (t :: ts)) : l.place t.span.start := h.place t List.mem_cons_self

theorem tail (h : l.Allows (t :: ts)) : l.Allows ts := h.of_suffix (List.suffix_cons t ts)

theorem range_of_covers (h : l.Allows ts) {s : Span} (hs : Covers ts rest s) : l.range s :=
  h.range ts rest s (List.suffix_refl ts) hs

theorem place_of_covers (h : l.Allows ts) {s : Span} (hs : Covers ts rest s) : l.place s.start := by
  obtain ⟨t, more, rfl, hstart⟩ := hs.start
  exact hstart ▸ h.head

end Layout.Allows

/-! ### Readers -/

/-- The error lies where errors may lie. -/
def ErrorAt (l : Layout) (e : ParseError) : Prop := l.place e.offset

/-- A tree is built of balanced tokens in front of `rest`; it covers them, and all its nodes stand
where nodes may stand. -/
structure Consumes (l : Layout) (ts : Tokens) (b : Built) (rest : Tokens) : Prop where
  skips : Skips ts rest
  covers : Covers ts rest b.expr.span
  written : b.expr.Written l.range l.text

/-- The reader consumes what it reads, and its errors lie where they may lie. -/
def Sound (l : Layout) (sub : Reader) : Prop :=
  ∀ ts, l.Allows ts → EndsIn (ErrorAt l) (fun t => Consumes l ts t.value t.rest) (sub ts)

theorem sound_tooDeep (hsize : l.place size) : Sound l fun ts => tooDeep size ts := by
  intro ts hts
  cases ts with
  | nil => exact hsize
  | cons t ts => exact hts.head

theorem endsIn_checkHeight {height offset : Nat} (h : l.place offset) :
    EndsIn (ErrorAt l) (fun _ => True) (checkHeight height offset) := by
  rw [checkHeight]
  split
  · exact h
  · trivial

theorem endsIn_expect {s : Symbol} (hs : s ≠ .openBrace ∧ s ≠ .closeBrace) (hsize : l.place size)
    (hts : l.Allows ts) :
    EndsIn (ErrorAt l) (fun t : Taken Span ts => Skips ts t.rest ∧ StopsAt ts t.rest t.value.stop)
      (expect size s ts) := by
  cases ts with
  | nil => exact hsize
  | cons t ts =>
    rw [expect]
    split
    · next hsymbol =>
      exact ⟨skips_cons (braceless_of_isSymbol hs hsymbol) ts, stopsAt_cons t ts⟩
    · exact hts.head

/-! ### Binary operators -/

variable {sub : Level → Reader} {left : Taken Built ts}

/-- What has been read behind `left`, together with `left`. -/
abbrev ConsumesFurther (l : Layout) (f : Further left) : Prop := Consumes l ts f.1.value f.1.rest

section

variable (hts : l.Allows ts) (hleft : Consumes l ts left.value left.rest)

include hts hleft

theorem endsIn_conditionalTail (hsize : l.place size) (hsub : ∀ level, Sound l (sub level))
    (hskips : Skips left.rest ts') (h : ts'.length < left.rest.length) :
    EndsIn (ErrorAt l) (ConsumesFurther l) (conditionalTail size sub left ts' h) := by
  have hbehind := hleft.skips.trans hskips
  refine (hsub _ _ (hts.of_suffix hbehind.suffix)).bind fun c hc => ?_
  have hcolon := hbehind.trans hc.skips
  refine (endsIn_expect (by decide) hsize (hts.of_suffix hcolon.suffix)).bind fun colon h => ?_
  have halternate := hcolon.trans h.1
  refine (hsub _ _ (hts.of_suffix halternate.suffix)).bind fun a ha => ?_
  refine (endsIn_checkHeight (hts.place_of_covers hleft.covers)).bind fun _ _ => ?_
  have hcovers := hleft.covers.extend halternate.suffix ha.covers.stop
  refine ⟨halternate.trans ha.skips, hcovers, ?_⟩
  exact .conditional (hts.range_of_covers hcovers) hleft.written hc.written ha.written

theorem endsIn_assignmentTail (hsub : ∀ level, Sound l (sub level))
    (hskips : Skips left.rest ts') (h : ts'.length < left.rest.length) :
    EndsIn (ErrorAt l) (ConsumesFurther l) (assignmentTail sub left ts' h) := by
  have hbehind := hleft.skips.trans hskips
  refine (hsub _ _ (hts.of_suffix hbehind.suffix)).bind fun v hv => ?_
  refine (endsIn_checkHeight (hts.place_of_covers hleft.covers)).bind fun _ _ => ?_
  have hcovers := hleft.covers.extend hbehind.suffix hv.covers.stop
  refine ⟨hbehind.trans hv.skips, hcovers, ?_⟩
  exact .assign (hts.range_of_covers hcovers) hleft.written hv.written

theorem endsIn_operatorTail (op : BinaryOp) (hsub : ∀ level, Sound l (sub level))
    (hskips : Skips left.rest ts') (h : ts'.length < left.rest.length) :
    EndsIn (ErrorAt l) (ConsumesFurther l) (operatorTail sub op left ts' h) := by
  have hbehind := hleft.skips.trans hskips
  refine (hsub _ _ (hts.of_suffix hbehind.suffix)).bind fun r hr => ?_
  refine (endsIn_checkHeight (hts.place_of_covers hleft.covers)).bind fun _ _ => ?_
  have hcovers := hleft.covers.extend hbehind.suffix hr.covers.stop
  refine ⟨hbehind.trans hr.skips, hcovers, ?_⟩
  exact .binary op (hts.range_of_covers hcovers) hleft.written hr.written

theorem endsIn_operators (min : Level) (hsize : l.place size)
    (hsub : ∀ level, Sound l (sub level)) : EndsIn (ErrorAt l) (fun t => Consumes l ts t.value t.rest) (operators size sub min left) := by
  induction hn : left.rest.length using Nat.strongRecOn generalizing left with
  | ind n ih =>
    subst hn
    -- what an operator builds is the left operand of the next one
    have hbehind {r : Except ParseError (Further left)}
        (h : EndsIn (ErrorAt l) (ConsumesFurther l) r) :
        EndsIn (ErrorAt l) (fun t => Consumes l ts t.value t.rest)
          (operatorsBehind size sub min r) := by
      cases r with
      | error e => exact h
      | ok f => exact ih _ f.2 h rfl
    by_cases hsymbol : ∃ s sp more, left.rest = ⟨.symbol s, sp⟩ :: more
    · obtain ⟨s, sp, more, hrest⟩ := hsymbol
      have hm : more.length < left.rest.length := by rw [hrest]; exact Nat.lt_succ_self _
      have hmore (hs : s ≠ .openBrace ∧ s ≠ .closeBrace) : Skips left.rest more := by
        rw [hrest]
        exact skips_cons (braceless_symbol hs) more
      rw [operators_symbol size sub min hrest hm]
      split
      · next hs =>
        have hskips := hmore (by rw [hs.1]; decide)
        exact hbehind (endsIn_conditionalTail hts hleft hsize hsub hskips hm)
      split
      · next hs =>
        have hskips := hmore (by rw [hs.1]; decide)
        exact hbehind (endsIn_assignmentTail hts hleft hsub hskips hm)
      split
      · exact hleft
      next op hop =>
        split
        · exact hleft
        · have hskips := hmore (braceless_of_binaryOp? hop)
          exact hbehind (endsIn_operatorTail hts hleft op hsub hskips hm)
    · rw [operators_other size sub min fun s sp more hrest => hsymbol ⟨s, sp, more, hrest⟩]
      exact hleft

end

/-! ### Accesses and calls -/

variable {inner : Reader}

theorem stopsAt_of_symbol? {s : Symbol} (hs : s ≠ .openBrace ∧ s ≠ .closeBrace) {t : Taken Span ts}
    (h : symbol? s ts = some t) : Skips ts t.rest ∧ StopsAt ts t.rest t.value.stop := by
  cases ts with
  | nil => cases h
  | cons u ts =>
    rw [symbol?] at h
    split at h
    · next hsymbol =>
      obtain rfl := Option.some.inj h
      exact ⟨skips_cons (braceless_of_isSymbol hs hsymbol) ts, stopsAt_cons u ts⟩
    · cases h

/-- Items and their closing symbol, which are read off `ts`. -/
structure ConsumesItems (l : Layout) (ts : Tokens) (t : List Expr × Nat × Span) (rest : Tokens) :
    Prop where
  skips : Skips ts rest
  stop : StopsAt ts rest t.2.2.stop
  written : ∀ e ∈ t.1, e.Written l.range l.text

theorem endsIn_items {close : Symbol} (hclose : close ≠ .openBrace ∧ close ≠ .closeBrace)
    (hsize : l.place size) (hsub : Sound l inner) {acc : List Expr}
    (hacc : ∀ e ∈ acc, e.Written l.range l.text) (height : Nat) (hts : l.Allows ts) :
    EndsIn (ErrorAt l) (fun t => ConsumesItems l ts t.value t.rest)
      (items size inner close acc height ts) := by
  have hreverse {acc : List Expr} (hacc : ∀ e ∈ acc, e.Written l.range l.text) :
      ∀ e ∈ acc.reverse, e.Written l.range l.text :=
    fun e he => hacc e (List.mem_reverse.1 he)
  induction hn : ts.length using Nat.strongRecOn generalizing acc height ts with
  | ind n ih =>
    subst hn
    rw [items]
    cases hend : symbol? close ts with
    | some t =>
      obtain ⟨hskips, hstop⟩ := stopsAt_of_symbol? hclose hend
      exact ⟨hskips, hstop, hreverse hacc⟩
    | none =>
      have hread := hsub ts hts
      cases hb : inner ts with
      | error e =>
        rw [hb] at hread
        exact hread
      | ok b =>
        rw [hb] at hread
        have hrest := hts.of_suffix hread.skips.suffix
        have hacc' : ∀ e ∈ b.value.expr :: acc, e.Written l.range l.text :=
          List.forall_mem_cons.2 ⟨hread.written, hacc⟩
        dsimp only
        cases hcomma : symbol? .comma b.rest with
        | none =>
          refine (endsIn_expect hclose hsize hrest).map fun t ht => ?_
          exact ⟨hread.skips.trans ht.1, ht.2.of_suffix hread.skips.suffix, hreverse hacc'⟩
        | some comma =>
          obtain ⟨hskips, -⟩ := stopsAt_of_symbol? (by decide) hcomma
          have hlt : comma.rest.length < ts.length := Nat.lt_trans comma.rest_lt b.rest_lt
          have hmore := hread.skips.trans hskips
          refine (ih _ hlt hacc' _ (hts.of_suffix hmore.suffix) rfl).map fun t ht => ?_
          exact ⟨hmore.trans ht.skips, ht.stop.of_suffix hmore.suffix, ht.written⟩

section

variable (hts : l.Allows ts) (hleft : Consumes l ts left.value left.rest)

include hts hleft

theorem endsIn_memberTail (optional : Bool) (hsize : l.place size) (hskips : Skips left.rest ts')
    (h : ts'.length < left.rest.length) :
    EndsIn (ErrorAt l) (ConsumesFurther l) (memberTail size optional left ts' h) := by
  have hbehind := hleft.skips.trans hskips
  have hname := hts.of_suffix hbehind.suffix
  cases ts' with
  | nil => exact hsize
  | cons t ts' =>
    rw [memberTail]
    split
    · exact hname.head
    next name ht =>
      refine (endsIn_checkHeight (hts.place_of_covers hleft.covers)).bind fun _ _ => ?_
      have hcovers := hleft.covers.extend hbehind.suffix (stopsAt_cons t ts')
      refine ⟨hbehind.trans (skips_cons (braceless_of_name? ht) ts'), hcovers, ?_⟩
      exact .member name optional (hts.range_of_covers hcovers) hleft.written

theorem endsIn_indexTail (optional : Bool) (hsize : l.place size) (hsub : Sound l inner)
    (hskips : Skips left.rest ts') (h : ts'.length ≤ left.rest.length) :
    EndsIn (ErrorAt l) (ConsumesFurther l) (indexTail size inner optional left ts' h) := by
  have hbehind := hleft.skips.trans hskips
  have hbracket := hts.of_suffix hbehind.suffix
  refine (endsIn_expect (by decide) hsize hbracket).bind fun bracket h => ?_
  have hkeyFrom := hbehind.trans h.1
  refine (hsub _ (hts.of_suffix hkeyFrom.suffix)).bind fun key hkey => ?_
  have hend := hkeyFrom.trans hkey.skips
  refine (endsIn_expect (by decide) hsize (hts.of_suffix hend.suffix)).bind fun close hclose => ?_
  refine (endsIn_checkHeight (hts.place_of_covers hleft.covers)).bind fun _ _ => ?_
  have hcovers := hleft.covers.extend hend.suffix hclose.2
  refine ⟨hend.trans hclose.1, hcovers, ?_⟩
  exact .index optional (hts.range_of_covers hcovers) hleft.written hkey.written

theorem endsIn_callTail (optional : Bool) (hsize : l.place size) (hsub : Sound l inner)
    (hskips : Skips left.rest ts') (h : ts'.length ≤ left.rest.length) :
    EndsIn (ErrorAt l) (ConsumesFurther l) (callTail size inner optional left ts' h) := by
  have hbehind := hleft.skips.trans hskips
  have hparen := hts.of_suffix hbehind.suffix
  refine (endsIn_expect (by decide) hsize hparen).bind fun paren h => ?_
  have hinside := hbehind.trans h.1
  have hargsFrom := hts.of_suffix hinside.suffix
  refine (endsIn_items (by decide) hsize hsub (List.forall_mem_nil _) _ hargsFrom).bind
    fun args hargs => ?_
  refine (endsIn_checkHeight (hts.place_of_covers hleft.covers)).bind fun _ _ => ?_
  have hcovers := hleft.covers.extend hinside.suffix hargs.stop
  refine ⟨hinside.trans hargs.skips, hcovers, ?_⟩
  exact .call optional (hts.range_of_covers hcovers) hleft.written hargs.written

theorem endsIn_optionalTail (hsize : l.place size) (hsub : Sound l inner)
    (hskips : Skips left.rest ts') (h : ts'.length < left.rest.length) :
    EndsIn (ErrorAt l) (ConsumesFurther l) (optionalTail size inner left ts' h) := by
  have hmember : EndsIn (ErrorAt l) (ConsumesFurther l) (memberTail size true left ts' h) :=
    endsIn_memberTail hts hleft true hsize hskips h
  unfold optionalTail
  dsimp only
  split
  · exact endsIn_indexTail hts hleft true hsize hsub hskips _
  · exact endsIn_callTail hts hleft true hsize hsub hskips _
  · exact hmember

theorem endsIn_access? (hsize : l.place size) (hsub : Sound l inner)
    {r : Except ParseError (Further left)} (h : access? size inner left = some r) :
    EndsIn (ErrorAt l) (ConsumesFurther l) r := by
  by_cases haccess : ∃ s sp more, startsAccess s ∧ left.rest = ⟨.symbol s, sp⟩ :: more
  · obtain ⟨s, sp, more, hs, hrest⟩ := haccess
    have hm : more.length < left.rest.length := by rw [hrest]; exact Nat.lt_succ_self _
    have hmore (hs : s ≠ .openBrace ∧ s ≠ .closeBrace) : Skips left.rest more := by
      rw [hrest]
      exact skips_cons (braceless_symbol hs) more
    rcases hs with rfl | rfl | rfl | rfl
    · rw [access?_dot size inner hrest hm] at h
      obtain rfl := Option.some.inj h
      exact endsIn_memberTail hts hleft false hsize (hmore (by decide)) hm
    · rw [access?_optional size inner hrest hm] at h
      obtain rfl := Option.some.inj h
      exact endsIn_optionalTail hts hleft hsize hsub (hmore (by decide)) hm
    · rw [access?_bracket size inner hrest] at h
      obtain rfl := Option.some.inj h
      exact endsIn_indexTail hts hleft false hsize hsub (skips_refl _) _
    · rw [access?_paren size inner hrest] at h
      obtain rfl := Option.some.inj h
      exact endsIn_callTail hts hleft false hsize hsub (skips_refl _) _
  · rw [access?_other size inner fun s sp more hs h => haccess ⟨s, sp, more, hs, h⟩] at h
    cases h

theorem endsIn_accesses (hsize : l.place size) (hsub : Sound l inner) :
    EndsIn (ErrorAt l) (fun t => Consumes l ts t.value t.rest) (accesses size inner left) := by
  induction hn : left.rest.length using Nat.strongRecOn generalizing left with
  | ind n ih =>
    subst hn
    rw [accesses]
    cases haccess : access? size inner left with
    | none => exact hleft
    | some r =>
      have hr := endsIn_access? hts hleft hsize hsub haccess
      cases r with
      | error e => exact hr
      | ok f => exact ih _ f.2 hr rfl

end

/-! ### Operands -/

theorem skips_arrowParams? {acc : List String} {l : Left (List String) ts}
    (h : arrowParams? acc ts = some l) : Skips ts l.rest := by
  have hname (p : String) : IsBraceless (.name p) := ⟨nofun, nofun⟩
  have hclose : IsBraceless (.symbol .closeParen) := braceless_symbol (by decide)
  have harrow : IsBraceless (.symbol .arrow) := braceless_symbol (by decide)
  fun_induction arrowParams? acc ts with
  | case1 acc p sp sp' rest ih =>
    obtain ⟨l', hl', h⟩ := Option.bind_eq_some_iff.1 h
    have hpair : Skips (⟨.name p, sp⟩ :: ⟨.symbol .comma, sp'⟩ :: rest) l'.rest :=
      .cons (hname p) (.cons (braceless_symbol (by decide)) (ih hl'))
    split at h
    · obtain rfl := Option.some.inj h
      exact hpair
    · cases h
  | case2 acc p sp sp' sp'' rest =>
    obtain rfl := Option.some.inj h
    exact .cons (hname p) (.cons hclose (skips_cons harrow rest))
  | case3 acc sp sp' rest =>
    obtain rfl := Option.some.inj h
    exact .cons hclose (skips_cons harrow rest)
  | case4 => cases h

/-- An arrow function starts with its parameters, which stand in front of `ts'`. -/
theorem endsIn_lambdaBody (hsub : Sound l inner) (params : List String)
    (hts : l.Allows (t :: ts)) (hskips : Skips (t :: ts) ts') :
    EndsIn (ErrorAt l) (fun b => Consumes l (t :: ts) b.value b.rest)
      (lambdaBody inner params t.span.start ts') := by
  have hbody := hts.of_suffix hskips.suffix
  by_cases hblock : ∃ sp sp' more, ts' = ⟨.symbol .openBrace, sp⟩ :: ⟨.name "return", sp'⟩ :: more
  · obtain ⟨sp, sp', more, rfl⟩ := hblock
    exact hbody.head
  · rw [lambdaBody_other fun sp sp' more hts => hblock ⟨sp, sp', more, hts⟩]
    refine (hsub ts' hbody).bind fun body hbody => ?_
    refine (endsIn_checkHeight hts.head).bind fun _ _ => ?_
    have hcovers := (covers_cons t ts).extend hskips.suffix hbody.covers.stop
    refine ⟨hskips.trans hbody.skips, hcovers, ?_⟩
    exact .lambda params (hts.range_of_covers hcovers) hbody.written

/-- A token that is a tree of its own. -/
theorem consumes_leaf (hts : l.Allows (t :: ts)) (ht : IsBraceless t.value) {e : Expr}
    (he : e.span = t.span) (hwritten : l.range t.span → e.Written l.range l.text) (height : Nat) :
    Consumes l (t :: ts) ⟨e, height⟩ ts := by
  refine ⟨skips_cons ht ts, ?_, hwritten (hts.range_of_covers (covers_cons t ts))⟩
  exact he ▸ covers_cons t ts

theorem consumes_literal (hts : l.Allows (t :: ts)) (ht : IsBraceless t.value) {v : Literal}
    (hv : ∀ s, v = .string s → l.text s) : Consumes l (t :: ts) ⟨.literal t.span v, 1⟩ ts :=
  consumes_leaf hts ht rfl (fun h => .literal h hv) 1

theorem consumes_ident (hts : l.Allows (t :: ts)) (ht : IsBraceless t.value) (name : String) :
    Consumes l (t :: ts) ⟨.ident t.span name, 1⟩ ts :=
  consumes_leaf hts ht rfl (fun h => .ident name h) 1

theorem endsIn_nameOperand (hsub : Sound l inner) (name : String) (ht : IsBraceless t.value)
    (hts : l.Allows (t :: ts)) :
    EndsIn (ErrorAt l) (fun b => Consumes l (t :: ts) b.value b.rest)
      (nameOperand inner name t ts) := by
  by_cases harrow : ∃ sp more, ts = ⟨.symbol .arrow, sp⟩ :: more
  · obtain ⟨sp, more, rfl⟩ := harrow
    rw [nameOperand_arrow]
    have hskips : Skips (t :: ⟨.symbol .arrow, sp⟩ :: more) more :=
      .cons ht (skips_cons (braceless_symbol (by decide)) more)
    exact (endsIn_lambdaBody hsub [name] hts hskips).map fun b hb => hb
  · unfold nameOperand
    split
    next sp more => exact absurd ⟨sp, more, rfl⟩ harrow
    split
    next => exact consumes_literal hts ht nofun
    next => exact consumes_literal hts ht nofun
    next => exact consumes_literal hts ht nofun
    next => exact consumes_literal hts ht nofun
    next => exact consumes_literal hts ht nofun
    next => exact consumes_literal hts ht nofun
    next =>
      split
      · exact hts.head
      · exact consumes_ident hts ht _

/-- The value of an entry, whose key is the token `t`. -/
theorem endsIn_entryValue (hsize : l.place size) (hsub : Sound l inner) (hts : l.Allows (t :: ts)) :
    EndsIn (ErrorAt l) (fun v => Skips ts v.rest ∧ v.value.expr.Written l.range l.text)
      (entryValue size inner t ts) := by
  have hkey : l.range t.span := hts.range_of_covers (covers_cons t ts)
  cases ts with
  | nil => exact hsize
  | cons u ts =>
    rw [entryValue]
    split
    · next hcolon =>
      have hskips := skips_cons (braceless_of_isSymbol (by decide) hcolon) ts
      exact (hsub ts hts.tail.tail).map fun b hb => ⟨hskips.trans hb.skips, hb.written⟩
    split
    · split
      · next name _ => exact ⟨skips_refl _, .ident name hkey⟩
      · exact hts.tail.head
    · exact hts.tail.head

theorem endsIn_entryKey (ht : l.place t.span.start) :
    EndsIn (ErrorAt l) (fun _ => IsBraceless t.value) (entryKey t) := by
  obtain ⟨value, sp⟩ := t
  cases value with
  | name s => exact ⟨nofun, nofun⟩
  | string s => exact ⟨nofun, nofun⟩
  | number x => exact ⟨nofun, nofun⟩
  | symbol s => cases s <;> exact ht

/-- The entries of the object that starts with the token `t` are read up to its closing brace. -/
theorem endsIn_objectEntries (hsize : l.place size) (hsub : Sound l inner)
    (hts : l.Allows (t :: ts)) {acc : List (String × Expr)} (hacc : ∀ f ∈ acc, f.2.Written l.range l.text) (height : Nat)
    (hsuffix : ts' <:+ ts) :
    EndsIn (ErrorAt l)
      (fun b => ClosesBrace ts' b.rest ∧ Covers (t :: ts) b.rest b.value.expr.span ∧
        b.value.expr.Written l.range l.text)
      (objectEntries size inner t.span.start acc height ts') := by
  -- the object ends with its closing brace
  have hend {acc : List (String × Expr)} (hacc : ∀ f ∈ acc, f.2.Written l.range l.text)
      {u : Spanned Token} (hu : u.value.isSymbol .closeBrace = true) {more : Tokens}
      (hsuffix : u :: more <:+ ts) :
      ClosesBrace (u :: more) more ∧ Covers (t :: ts) more ⟨t.span.start, u.span.stop⟩ ∧
        (Expr.object ⟨t.span.start, u.span.stop⟩ acc.reverse).Written l.range l.text := by
    have hcovers : Covers (t :: ts) more ⟨t.span.start, u.span.stop⟩ :=
      (covers_cons t ts).extend (hsuffix.trans (List.suffix_cons t ts)) (stopsAt_cons u more)
    obtain ⟨value, sp⟩ := u
    obtain rfl : value = .symbol .closeBrace := eq_of_isSymbol hu
    refine ⟨closesBrace_cons sp more, hcovers, ?_⟩
    exact .object (hts.range_of_covers hcovers) fun f hf => hacc f (List.mem_reverse.1 hf)
  induction hn : ts'.length using Nat.strongRecOn generalizing acc height ts' with
  | ind n ih =>
    subst hn
    have hts' := hts.of_suffix (hsuffix.trans (List.suffix_cons t ts))
    rw [objectEntries.eq_def]
    cases ts' with
    | nil => exact hsize
    | cons k ts' =>
      dsimp only
      split
      · next hclose =>
        refine (endsIn_checkHeight hts.head).bind fun _ _ => ?_
        exact hend hacc hclose hsuffix
      have hkey := endsIn_entryKey hts'.head
      have hentry := endsIn_entryValue hsize hsub hts'
      cases hk : entryKey k with
      | error e =>
        rw [hk] at hkey
        exact hkey
      | ok key =>
        rw [hk] at hkey
        dsimp only
        cases hv : entryValue size inner k ts' with
        | error e =>
          rw [hv] at hentry
          exact hentry
        | ok v =>
          rw [hv] at hentry
          obtain ⟨b, after, hle⟩ := v
          obtain ⟨hskips, hwritten⟩ := hentry
          have hafter : Skips (k :: ts') after := .cons hkey hskips
          have hrest := hts'.of_suffix hafter.suffix
          have hacc' : ∀ f ∈ (key, b.expr) :: acc, f.2.Written l.range l.text :=
            List.forall_mem_cons.2 ⟨hwritten, hacc⟩
          cases after with
          | nil => exact hsize
          | cons u more =>
            dsimp only
            split
            · next hcomma =>
              have hbraceless := braceless_of_isSymbol (by decide) hcomma
              have hmore := hafter.trans (skips_cons hbraceless more)
              have hlt : more.length < (k :: ts').length := by
                simp only [List.length_cons] at hle ⊢
                omega
              refine (ih _ hlt hacc' _ (hmore.suffix.trans hsuffix) rfl).map fun o ho => ?_
              exact ⟨hmore.closesBrace ho.1, ho.2⟩
            split
            · next hclose =>
              refine (endsIn_checkHeight hts.head).bind fun _ _ => ?_
              obtain ⟨hcloses, hobject⟩ := hend hacc' hclose (hafter.suffix.trans hsuffix)
              exact ⟨hafter.closesBrace hcloses, hobject⟩
            · exact hrest.head

theorem endsIn_operand (hsize : l.place size) (hsub : Sound l inner) (hts : l.Allows ts) :
    EndsIn (ErrorAt l) (fun b => Consumes l ts b.value b.rest) (operand size inner ts) := by
  cases ts with
  | nil => exact hsize
  | cons t ts =>
    obtain ⟨value, sp⟩ := t
    cases value with
    | number x => exact consumes_literal hts ⟨nofun, nofun⟩ nofun
    | string s =>
      have htext := hts.text _ List.mem_cons_self s rfl
      exact consumes_literal hts ⟨nofun, nofun⟩ fun _ heq => Literal.string.inj heq ▸ htext
    | name s => exact endsIn_nameOperand hsub s ⟨nofun, nofun⟩ hts
    | symbol s =>
      cases s
      case openParen =>
        have hopen : Skips (⟨.symbol .openParen, sp⟩ :: ts) ts :=
          skips_cons (braceless_symbol (by decide)) ts
        simp only [operand]
        cases hparams : arrowParams? [] ts with
        | none =>
          refine (hsub ts hts.tail).bind fun e he => ?_
          have hinside := hopen.trans he.skips
          have hrest := hts.of_suffix hinside.suffix
          refine (endsIn_expect (by decide) hsize hrest).bind fun close hclose => ?_
          have hcovers := (covers_cons _ ts).extend hinside.suffix hclose.2
          have hrange := hts.range_of_covers hcovers
          refine ⟨hinside.trans hclose.1, ?_, he.written.withSpan hrange⟩
          exact (Expr.span_withSpan _ e.value.expr).symm ▸ hcovers
        | some params =>
          have hskips := hopen.trans (skips_arrowParams? hparams)
          exact (endsIn_lambdaBody hsub params.value hts hskips).map fun b hb => hb
      case openBracket =>
        have hopen : Skips (⟨.symbol .openBracket, sp⟩ :: ts) ts :=
          skips_cons (braceless_symbol (by decide)) ts
        refine (endsIn_items (by decide) hsize hsub (List.forall_mem_nil _) 0 hts.tail).bind
          fun list hlist => ?_
        refine (endsIn_checkHeight hts.head).bind fun _ _ => ?_
        have hcovers := (covers_cons _ ts).extend hopen.suffix hlist.stop
        refine ⟨hopen.trans hlist.skips, hcovers, ?_⟩
        exact .array (hts.range_of_covers hcovers) hlist.written
      case openBrace =>
        refine (endsIn_objectEntries hsize hsub hts (List.forall_mem_nil _) 0
          (List.suffix_refl ts)).map fun o ho => ?_
        exact ⟨ho.1.skips sp, ho.2.1, ho.2.2⟩
      all_goals exact hts.head

theorem sound_unaryWith {deeper : Reader} (hsize : l.place size) (hdeeper : Sound l deeper)
    (hsub : Sound l inner) : Sound l (unaryWith size deeper inner) := by
  intro ts hts
  cases ts with
  | nil => exact hsize
  | cons t ts =>
    rw [unaryWith]
    split
    next op hop =>
      refine (hdeeper ts hts.tail).bind fun e he => ?_
      refine (endsIn_checkHeight hts.head).bind fun _ _ => ?_
      have hcovers := (covers_cons t ts).extend (List.suffix_cons t ts) he.covers.stop
      refine ⟨.cons (braceless_of_unaryOp? hop) he.skips, hcovers, ?_⟩
      exact .unary op (hts.range_of_covers hcovers) he.written
    next => exact (endsIn_operand hsize hsub hts).bind fun e he => endsIn_accesses hts he hsize hsub

theorem sound_binaryWith {deeper : Reader} (hsize : l.place size) (hdeeper : Sound l deeper)
    (hsub : ∀ level, Sound l (sub level)) (min : Level) :
    Sound l (binaryWith size deeper sub min) :=
  fun ts hts => (hdeeper ts hts).bind fun _ he => endsIn_operators hts he min hsize hsub

/-! ### The descent -/

theorem sound_exprAt (hsize : l.place size) (n : Nat) :
    (∀ min, Sound l (exprAt size n min)) ∧ Sound l (unaryAt size n) := by
  induction n with
  | zero =>
    have hdeep := sound_tooDeep hsize
    exact ⟨fun _ => hdeep, sound_unaryWith hsize hdeep hdeep⟩
  | succ n ih =>
    obtain ⟨hexpr, hunary⟩ := ih
    refine ⟨fun min => sound_binaryWith hsize hunary hexpr min, ?_⟩
    exact sound_unaryWith hsize hunary (sound_binaryWith hsize hunary hexpr Level.assignment)

/-- The braces of the tokens of an expression are balanced, and tokens that are none fail where one
of them starts or where the text ends. Without tokens the tree stands at the start of the text. -/
theorem endsIn_parseTokens (hsize : l.place size) (hnil : l.range ⟨0, 0⟩) (hts : l.Allows ts) :
    EndsIn (ErrorAt l) (fun b => nest? 0 ts = some 0 ∧ b.expr.Written l.range l.text)
      (parseTokens size ts) := by
  cases ts with
  | nil => exact ⟨rfl, .literal hnil nofun⟩
  | cons t ts =>
    refine ((sound_exprAt hsize maxDepth).1 Level.assignment _ hts).bind fun e he => ?_
    have hrest := hts.of_suffix he.skips.suffix
    have hnest := he.skips.nest 0
    cases hafter : e.rest with
    | nil =>
      rw [hafter] at hnest
      exact ⟨hnest, he.written⟩
    | cons u more =>
      rw [hafter] at hrest
      dsimp only
      split <;> exact hrest.head

/-- The braces of an expression are balanced, wherever its tokens stand. -/
theorem nest?_of_parseTokens {b : Built} (h : parseTokens size ts = .ok b) :
    nest? 0 ts = some 0 := by
  let l : Layout := ⟨fun _ => True, fun _ => True, fun _ => True⟩
  have hts : l.Allows ts := ⟨fun _ _ => trivial, fun _ _ _ _ _ => trivial, fun _ _ _ _ => trivial⟩
  have hends : EndsIn (ErrorAt l) _ (parseTokens size ts) := endsIn_parseTokens trivial trivial hts
  rw [h] at hends
  exact hends.1

end TemplateExpr.Parser

namespace TemplateExpr

/-! ### Texts -/

open TemplateExpr.Text

/-- Where errors and nodes of an expression may stand in its text; its strings are no longer than
the text. -/
def Parser.Layout.inText (text : List Char) : Layout where
  place n := isBoundary n text = true
  range s := s.IsRange text
  text s := s.utf8ByteSize ≤ byteLength text

theorem Parser.Layout.allows_inText {text : List Char} {ts : List (Spanned Token)}
    (hts : ∀ t ∈ ts, t.span.IsRange text ∧ t.value.FitsIn text) (horder : Token.InOrder ts) :
    (Layout.inText text).Allows ts where
  place t ht := (hts t ht).1.start
  text t ht := (hts t ht).2
  range := by
    rintro ts' rest ⟨_, _⟩ hsuffix ⟨⟨t, more, rfl, rfl⟩, ⟨pre, u, hsplit, rfl⟩⟩
    have ht := (hts t (hsuffix.subset List.mem_cons_self)).1
    have hu := (hts u (hsuffix.subset (hsplit ▸ List.mem_append_right pre List.mem_cons_self))).1
    refine ⟨?_, ht.start, hu.stop⟩
    cases pre with
    | nil =>
      obtain ⟨rfl, -⟩ := List.cons.inj hsplit
      exact ht.start_le_stop
    | cons t' pre =>
      obtain ⟨rfl, rfl⟩ := List.cons.inj hsplit
      have hpairs := List.pairwise_cons.1 (horder.sublist hsuffix.sublist)
      have hlt := (hpairs.1 u (List.mem_append_right pre List.mem_cons_self)).1
      exact Nat.le_trans (Nat.le_of_lt hlt) hu.start_le_stop

/-- All nodes of the tree of a text are ranges of it and its strings are no longer than the text;
the error of a text without a tree lies where one of its characters starts or where it ends. -/
theorem Expr.endsIn_parse (text : List Char) :
    EndsIn (fun e => isBoundary e.offset text = true)
      (fun e => e.Written (Span.IsRange text) fun s => s.utf8ByteSize ≤ byteLength text)
      (Expr.parse text) := by
  have hnil : Span.IsRange text ⟨0, 0⟩ :=
    ⟨Nat.le_refl 0, isBoundary_zero text, isBoundary_zero text⟩
  unfold Expr.parse
  have htokens := endsIn_tokenize text
  cases hts : tokenize text with
  | error e =>
    rw [hts] at htokens
    exact htokens
  | ok ts =>
    rw [hts] at htokens
    change EndsIn _ _ (Parser.parseTokens (byteLength text) ts >>= fun b => pure b.expr)
    have hallows := Parser.Layout.allows_inText htokens (inOrder_tokenize hts)
    have hparsed := Parser.endsIn_parseTokens (isBoundary_byteLength text) hnil hallows
    exact hparsed.bind fun b hb => hb.2

end TemplateExpr
