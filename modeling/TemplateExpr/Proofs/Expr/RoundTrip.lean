import TemplateExpr.Proofs.Expr.Part

/-!
# Parsing printed expressions

The parser reads the tokens of an expression as that expression: `parseTokens_print`. The printer
and the parser meet at the rules of the grammar. For each kind of expression there is one lemma: its
tokens are what the rule for this kind asks for, if those of its parts are, and what follows a rule
is read (`Operand.reads`, `Access.goesOn`, `Operation.goesOn`). The result follows by induction on
the tree.
-/

namespace TemplateExpr.Parser

open TemplateExpr.Text TemplateExpr.Expr

variable {size n : Nat} {e : Expr} {rest : Tokens} {min : Level} {span : Span}

/-! ### Operands -/

/-- A literal is read off its token. -/
theorem operand_literal (sub : Reader) (harrow : NoArrow rest) (l : Literal) :
    Operand sub (⟨l.token, default⟩ :: rest) ⟨.literal default l, 1⟩ rest := by
  have hname {name : String} {l : Literal} (hl : (name, l) ∈ literalNames) :
      Operand sub (⟨.name name, default⟩ :: rest) ⟨.literal default l, 1⟩ rest := by
    refine .name harrow ?_
    simp only [literalNames, List.mem_cons, List.not_mem_nil, or_false] at hl
    rcases hl with hl | hl | hl | hl | hl | hl <;> cases hl <;> rfl
  cases l with
  | string s => exact .string s default rest
  | bool b => cases b <;> exact hname (by simp [literalNames])
  | null => exact hname (by simp [literalNames])
  | undefined => exact hname (by simp [literalNames])
  | number x =>
    by_cases hnan : x = Number.nan
    · rw [Literal.token, if_pos hnan]
      exact hname (by simp [literalNames, hnan])
    by_cases hinf : x = Number.infinity
    · rw [Literal.token, if_neg hnan, if_pos hinf]
      exact hname (by simp [literalNames, hinf])
    · rw [Literal.token, if_neg hnan, if_neg hinf]
      exact .number x default rest

theorem nameLeaf?_ident {name : String} (hname : name ∉ reservedWords) (sp : Span) :
    nameLeaf? name sp = some (.ident sp name) := by
  have hkeyword : ¬unsupportedKeywords.contains name = true := fun h =>
    hname (List.mem_append_right _ (List.contains_iff_mem.1 h))
  have hlookup : literalNames.lookup name = none := by
    rw [List.lookup_eq_none_iff]
    rintro ⟨key, l⟩ hmem
    refine bne_iff_ne.2 fun heq => hname ?_
    simp only [literalNames, List.mem_cons, Prod.mk.injEq, List.not_mem_nil, or_false] at hmem
    rcases hmem with h | h | h | h | h | h <;> simp [reservedWords, heq, h.1]
  rw [nameLeaf?, hlookup]
  exact if_neg hkeyword

theorem reads_literal (l : Literal) : Reads size (.literal span l) := by
  refine .of_access (.print (.literal span l)) rfl fun n rest hn harrow => ?_
  rw [print, place_cons, place_nil, List.cons_append, List.nil_append]
  exact (operand_literal _ harrow l).reads (unaryOp?_token l)

theorem reads_ident {name : String} (hname : name ∉ reservedWords) :
    Reads size (.ident span name) := by
  refine .of_access (.print (.ident span hname)) rfl fun n rest hn harrow => ?_
  have hoperand : Operand (exprAt size n Level.assignment) (⟨.name name, default⟩ :: rest)
      (built (ident span name)) rest :=
    .name harrow (nameLeaf?_ident hname default)
  exact hoperand.reads (unaryOp?_name hname)

theorem reads_array {items : List Expr} (hitems : ∀ e ∈ items, Reads size e)
    (hprint : (Expr.array span items).Printable)
    (hdepth : (Expr.array span items).height ≤ maxDepth) :
    Reads size (.array span items) := by
  refine .of_access (.print hprint) rfl fun n rest hn harrow => ?_
  rw [height] at hn
  have htokens : place (Expr.array span items).print ++ rest =
      ⟨.symbol .openBracket, default⟩ ::
        (place (printItems items) ++ ⟨.symbol .closeBracket, default⟩ :: rest) := by
    simp [print]
  have hread := items_print (n := n) (.inr (.inr (.inl rfl)) : Closes .closeBracket) hitems
    (by omega) rest
  rw [htokens]
  exact Operand.reads (.array hread hdepth) rfl

theorem reads_object {entries : List (String × Expr)} (hentries : ∀ f ∈ entries, Reads size f.2)
    (hprint : (Expr.object span entries).Printable)
    (hdepth : (Expr.object span entries).height ≤ maxDepth) :
    Reads size (.object span entries) := by
  refine .of_access (.print hprint) rfl fun n rest hn harrow => ?_
  rw [height] at hn
  have htokens : place (Expr.object span entries).print ++ rest =
      ⟨.symbol .openBrace, default⟩ ::
        (place (printEntries entries) ++ ⟨.symbol .closeBrace, default⟩ :: rest) := by
    simp [print]
  have hread := entries_print (n := n) hentries (by omega) rest
  rw [htokens]
  exact Operand.reads (.object hread hdepth) rfl

/-! ### Accesses and calls -/

theorem reads_member {recv : Expr} {name : String} {optional : Bool} (hrecv : Reads size recv)
    (hprint : (Expr.member span recv name optional).Printable)
    (hdepth : (Expr.member span recv name optional).height ≤ maxDepth) :
    Reads size (.member span recv name optional) := by
  refine .of_access (.print hprint) rfl fun n rest hn harrow => ?_
  rw [height] at hn hdepth
  have hsymbol : (if optional then Symbol.questionDot else .dot) ≠ .arrow := by
    cases optional <;> simp
  have htokens : place (Expr.member span recv name optional).print ++ rest =
      place (enclose Level.access recv.level recv.print) ++
        ⟨.symbol (if optional then .questionDot else .dot), default⟩ ::
          ⟨.name name, default⟩ :: rest := by
    simp [print]
  obtain ⟨hlt, hread⟩ := hrecv.receiver (n := n) (by omega) (noArrow_symbol hsymbol default
    (⟨.name name, default⟩ :: rest))
  have hbuilt : built (member span recv name optional) =
      ⟨.member ((built recv).expr.span.through default) (built recv).expr name optional,
        (built recv).height + 1⟩ := by
    rw [span_built]
    rfl
  rw [htokens, hread, hbuilt]
  exact Access.goesOn (.member optional rfl hdepth) hlt

theorem reads_index {recv key : Expr} {optional : Bool} (hrecv : Reads size recv)
    (hkey : Reads size key) (hprint : (Expr.index span recv key optional).Printable)
    (hdepth : (Expr.index span recv key optional).height ≤ maxDepth) :
    Reads size (.index span recv key optional) := by
  refine .of_access (.print hprint) rfl fun n rest hn harrow => ?_
  rw [height] at hn
  rw [height, Nat.add_comm] at hdepth
  have htokens : place (Expr.index span recv key optional).print ++ rest =
      place (enclose Level.access recv.level recv.print) ++ (place (optionalMark optional) ++
        ⟨.symbol .openBracket, default⟩ ::
          (place key.print ++ ⟨.symbol .closeBracket, default⟩ :: rest)) := by
    simp [print]
  have harrow' := noArrow_mark (s := .openBracket) (by simp) optional default
    (place key.print ++ ⟨.symbol .closeBracket, default⟩ :: rest)
  have hclose : Stops Level.assignment (⟨.symbol .closeBracket, default⟩ :: rest) :=
    .symbol (endsAt_closes (.inr (.inr (.inl rfl))) _) _ _
  obtain ⟨hlt, hread⟩ := hrecv.receiver (n := n) (by omega) harrow'
  have hbuilt : built (index span recv key optional) =
      ⟨.index ((built recv).expr.span.through default) (built recv).expr (built key).expr optional,
        1 + max (built recv).height (built key).height⟩ := by
    rw [span_built, Nat.add_comm]
    rfl
  rw [htokens, hread, hbuilt]
  exact Access.goesOn (.index (mark_print optional) (hkey.whole (by omega) hclose) hdepth) hlt

theorem reads_call {callee : Expr} {args : List Expr} {optional : Bool}
    (hcallee : Reads size callee) (hargs : ∀ arg ∈ args, Reads size arg)
    (hprint : (Expr.call span callee args optional).Printable)
    (hdepth : (Expr.call span callee args optional).height ≤ maxDepth) :
    Reads size (.call span callee args optional) := by
  refine .of_access (.print hprint) rfl fun n rest hn harrow => ?_
  rw [height] at hn hdepth
  have htokens : place (Expr.call span callee args optional).print ++ rest =
      place (enclose Level.access callee.level callee.print) ++ (place (optionalMark optional) ++
        ⟨.symbol .openParen, default⟩ ::
          (place (printItems args) ++ ⟨.symbol .closeParen, default⟩ :: rest)) := by
    simp [print]
  have harrow' := noArrow_mark (s := .openParen) (by simp) optional default
    (place (printItems args) ++ ⟨.symbol .closeParen, default⟩ :: rest)
  obtain ⟨hlt, hread⟩ := hcallee.receiver (n := n) (by omega) harrow'
  have hitems := items_print (n := n) (.inr (.inl rfl) : Closes .closeParen) hargs (by omega) rest
  have hbuilt : built (call span callee args optional) =
      ⟨.call ((built callee).expr.span.through default) (built callee).expr (unplacedItems args)
        optional, max (built callee).height (heights args) + 1⟩ := by
    rw [span_built]
    rfl
  rw [htokens, hread, hbuilt]
  exact Access.goesOn (.call (mark_print optional) hitems hdepth) hlt

/-! ### Functions -/

theorem operand_lambda {params : List String} {body : Expr} (hbody : Reads size body)
    (hn : 2 * body.height ≤ n) (hdepth : (Expr.lambda span params body).height ≤ maxDepth)
    (hstop : Stops Level.assignment rest) :
    Operand (exprAt size n Level.assignment)
      (⟨.symbol .openParen, default⟩ :: (place (printParams params) ++
        ⟨.symbol .closeParen, default⟩ :: ⟨.symbol .arrow, default⟩ :: (place body.print ++ rest)))
      (built (lambda span params body)) rest := by
  obtain ⟨hle, hparams⟩ := arrowParams?_print params [] (place body.print ++ rest)
  have hbuilt : built (lambda span params body) =
      ⟨.lambda ⟨(default : Span).start, (built body).expr.span.stop⟩ params (built body).expr,
        (built body).height + 1⟩ := by
    rw [span_built]
    rfl
  rw [hbuilt]
  exact .functionOf hparams (.mk (hbody.opening.noBlock rest) (hbody.whole hn hstop) hdepth)

theorem reads_lambda {params : List String} {body : Expr} (hbody : Reads size body)
    (hprint : (Expr.lambda span params body).Printable)
    (hdepth : (Expr.lambda span params body).height ≤ maxDepth) :
    Reads size (.lambda span params body) := by
  refine .of_expr (.print hprint) (by decide : 1 < 11) fun n min rest hn hmin hstop => ?_
  rw [height] at hn
  have hstop' : Stops Level.assignment rest := hstop
  have htokens : place (Expr.lambda span params body).print ++ rest =
      ⟨.symbol .openParen, default⟩ :: (place (printParams params) ++
        ⟨.symbol .closeParen, default⟩ :: ⟨.symbol .arrow, default⟩ ::
          (place body.print ++ rest)) := by
    simp [print]
  obtain ⟨hlt, hread⟩ := (operand_lambda (n := n) hbody (by omega) hdepth hstop').reads rfl
  have hunary : GoesOn .ok
      (unaryAt size n (place (Expr.lambda span params body).print ++ rest))
      (built (lambda span params body)) rest := by
    rw [htokens, hread]
    exact ⟨hlt, hstop.unaccessed.accesses_eq⟩
  rw [exprAt_succ]
  exact hunary.bind

/-! ### Operators -/

theorem reads_unary {op : UnaryOp} (he : Reads size e)
    (hprint : (Expr.unary span op e).Printable)
    (hdepth : (Expr.unary span op e).height ≤ maxDepth) :
    Reads size (.unary span op e) := by
  refine .of_unary (.print hprint) rfl rfl fun n rest hn hstop => ?_
  have hheight := e.height_pos
  rw [height] at hn
  cases n with
  | zero => omega
  | succ n =>
    have htokens : place (Expr.unary span op e).print ++ rest =
        ⟨op.token, default⟩ :: (place (enclose Level.unary e.level e.print) ++ rest) := by
      simp [print]
    have hbuilt : built (unary span op e) =
        ⟨.unary ((default : Span).through (built e).expr.span) op (built e).expr,
          (built e).height + 1⟩ := by
      rw [span_built]
      rfl
    have hread := he.afterUnary (n := n) (by omega) hstop
    rw [htokens, unaryAt_succ, hbuilt]
    exact gets_unaryWith.2 (.operator (unaryOp?_symbol op) hread hdepth)

theorem reads_binary {op : BinaryOp} {left right : Expr} (hleft : Reads size left)
    (hright : Reads size right) (hprint : (Expr.binary span op left right).Printable)
    (hdepth : (Expr.binary span op left right).height ≤ maxDepth) :
    Reads size (.binary span op left right) := by
  refine .of_expr (.print hprint) (Nat.lt_succ_of_le op.level_le_exponent)
    fun n min rest hn hmin hstop => ?_
  have hstop' : Stops op.rightLevel rest := hstop
  have hmin' : min ≤ op.level := hmin
  rw [height] at hn
  rw [height, Nat.add_comm] at hdepth
  have htokens : place (Expr.binary span op left right).print ++ rest =
      place (enclose op.leftLevel left.level left.print) ++ ⟨.symbol op.symbol, default⟩ ::
        (place (enclose op.rightLevel right.level right.print) ++ rest) := by
    simp [print]
  have htight : op.level < Level.access := Nat.lt_of_le_of_lt op.level_le_exponent (by decide)
  have hasked : op.rightLevel ≠ Level.conditional :=
    Nat.ne_of_gt (Nat.le_trans op.nullish_le_level op.level_le_rightLevel)
  obtain ⟨hlt, hread⟩ := hleft.left op.leftLevel (n := n) (by omega)
    (Nat.le_trans hmin' op.level_le_leftLevel) (.symbol (endsAt_operator htight) default _)
    fun h => .symbol (endsAt_operator (level_lt_trailing h)) default
      (place (enclose op.rightLevel right.level right.print) ++ rest)
  have hbuilt : built (binary span op left right) =
      ⟨.binary ((built left).expr.span.through (built right).expr.span) op (built left).expr
        (built right).expr, 1 + max (built left).height (built right).height⟩ := by
    rw [span_built, span_built, Nat.add_comm]
    rfl
  have hoperand := hright.right (n := n) (by omega) hasked hstop'
  rw [htokens, hread, hbuilt]
  exact Operation.goesOn (.binary op.binaryOp?_symbol hmin' hoperand hdepth) hlt

theorem reads_conditional {test c a : Expr} (htest : Reads size test) (hc : Reads size c)
    (ha : Reads size a) (hprint : (Expr.conditional span test c a).Printable)
    (hdepth : (Expr.conditional span test c a).height ≤ maxDepth) :
    Reads size (.conditional span test c a) := by
  refine .of_expr (.print hprint) (by decide : 2 < 11) fun n min rest hn hmin hstop => ?_
  have hstop' : Stops Level.assignment rest := hstop
  have hmin' : min ≤ Level.conditional := hmin
  rw [height] at hn
  rw [height, ← Nat.max_assoc, Nat.add_comm] at hdepth
  have htokens : place (Expr.conditional span test c a).print ++ rest =
      place (enclose Level.nullish test.level test.print) ++ ⟨.symbol .question, default⟩ ::
        (place c.print ++ ⟨.symbol .colon, default⟩ :: (place a.print ++ rest)) := by
    simp [print]
  obtain ⟨hlt, hread⟩ := htest.left Level.nullish (n := n) (by omega)
    (Nat.le_trans hmin' (by decide))
    (.symbol (endsAt_question (by decide : Level.conditional < Level.nullish)) default _)
    fun h => .symbol (endsAt_question (le_trailing (by decide) h)) default
      (place c.print ++ ⟨.symbol .colon, default⟩ :: (place a.print ++ rest))
  have hcolon : Stops Level.assignment
      (⟨.symbol .colon, default⟩ :: (place a.print ++ rest)) :=
    .symbol ⟨by simp, by simp [startsAccess], by simp, by simp, fun op hop => by cases hop⟩ _ _
  have hbuilt : built (conditional span test c a) =
      ⟨.conditional ((built test).expr.span.through (built a).expr.span) (built test).expr
        (built c).expr (built a).expr,
        1 + max (max (built test).height (built c).height) (built a).height⟩ := by
    rw [span_built, span_built, Nat.max_assoc, Nat.add_comm]
    rfl
  have hbranch := hc.whole (n := n) (by omega) hcolon
  have hother := ha.whole (n := n) (by omega) hstop'
  rw [htokens, hread, hbuilt]
  exact Operation.goesOn (.conditional hmin' hbranch hother hdepth) hlt

theorem reads_assign {target value : Expr} (htarget : Reads size target)
    (hvalue : Reads size value) (hprint : (Expr.assign span target value).Printable)
    (hdepth : (Expr.assign span target value).height ≤ maxDepth) :
    Reads size (.assign span target value) := by
  refine .of_expr (.print hprint) (by decide : 1 < 11) fun n min rest hn hmin hstop => ?_
  have hstop' : Stops Level.assignment rest := hstop
  have hmin' : min ≤ Level.assignment := hmin
  rw [height] at hn
  rw [height, Nat.add_comm] at hdepth
  have htokens : place (Expr.assign span target value).print ++ rest =
      place (enclose Level.nullish target.level target.print) ++ ⟨.symbol .assign, default⟩ ::
        (place value.print ++ rest) := by
    simp [print]
  have hassign {level : Level} (h : Level.nullish ≤ level) : Level.assignment < level :=
    Nat.lt_of_lt_of_le (by decide) h
  obtain ⟨hlt, hread⟩ := htarget.left Level.nullish (n := n) (by omega)
    (Nat.le_trans hmin' (by decide)) (.symbol (endsAt_assign (hassign (Nat.le_refl _))) default _)
    fun h => .symbol (endsAt_assign (hassign (le_trailing (by decide) h))) default
      (place value.print ++ rest)
  have hbuilt : built (assign span target value) =
      ⟨.assign ((built target).expr.span.through (built value).expr.span) (built target).expr
        (built value).expr, 1 + max (built target).height (built value).height⟩ := by
    rw [span_built, span_built, Nat.add_comm]
    rfl
  have hassigned := hvalue.whole (n := n) (by omega) hstop'
  rw [htokens, hread, hbuilt]
  exact Operation.goesOn (.assign hmin' hassigned hdepth) hlt

/-! ### Every expression -/

/-- A part of an expression that is not too high is not too high. -/
theorem part_le_maxDepth {height whole : Nat} (h : height < whole) (hdepth : whole ≤ maxDepth) :
    height ≤ maxDepth :=
  Nat.le_of_lt (Nat.lt_of_lt_of_le h hdepth)

/-- The tokens of an expression are read as that expression. -/
theorem reads (h : e.Printable) (hdepth : e.height ≤ maxDepth) : Reads size e := by
  induction h with
  | literal span l => exact reads_literal l
  | ident span hname => exact reads_ident hname
  | array span hitems ih =>
    have hpart {e : Expr} (he : e ∈ _) : e.height ≤ maxDepth :=
      part_le_maxDepth (Nat.lt_succ_of_le (height_le_heights he)) hdepth
    exact reads_array (fun e he => ih e he (hpart he)) (.array span hitems) hdepth
  | object span hentries ih =>
    have hpart {f : String × Expr} (hf : f ∈ _) : f.2.height ≤ maxDepth :=
      part_le_maxDepth (Nat.lt_succ_of_le (height_le_entryHeights hf)) hdepth
    exact reads_object (fun f hf => ih f hf (hpart hf)) (.object span hentries) hdepth
  | member span name optional hrecv ih =>
    have hpart := part_le_maxDepth (Nat.lt_succ_self _) hdepth
    exact reads_member (ih hpart) (.member span name optional hrecv) hdepth
  | index span optional hrecv hkey ihrecv ihkey =>
    have hpart := part_le_maxDepth (Nat.lt_succ_of_le (Nat.le_max_left _ _)) hdepth
    have hpart' := part_le_maxDepth (Nat.lt_succ_of_le (Nat.le_max_right _ _)) hdepth
    exact reads_index (ihrecv hpart) (ihkey hpart') (.index span optional hrecv hkey) hdepth
  | call span optional hcallee hargs ih ihargs =>
    have hpart := part_le_maxDepth (Nat.lt_succ_of_le (Nat.le_max_left _ _)) hdepth
    have hpart' {e : Expr} (he : e ∈ _) : e.height ≤ maxDepth :=
      part_le_maxDepth (Nat.lt_succ_of_le
        (Nat.le_trans (height_le_heights he) (Nat.le_max_right _ _))) hdepth
    exact reads_call (ih hpart) (fun e he => ihargs e he (hpart' he))
      (.call span optional hcallee hargs) hdepth
  | unary span op he ih =>
    have hpart := part_le_maxDepth (Nat.lt_succ_self _) hdepth
    exact reads_unary (ih hpart) (.unary span op he) hdepth
  | binary span op hleft hright ih ih' =>
    have hpart := part_le_maxDepth (Nat.lt_succ_of_le (Nat.le_max_left _ _)) hdepth
    have hpart' := part_le_maxDepth (Nat.lt_succ_of_le (Nat.le_max_right _ _)) hdepth
    exact reads_binary (ih hpart) (ih' hpart') (.binary span op hleft hright) hdepth
  | conditional span htest hc ha ihtest ihc iha =>
    have hbranches := part_le_maxDepth (Nat.lt_succ_of_le (Nat.le_max_right _ _)) hdepth
    have hpart := part_le_maxDepth (Nat.lt_succ_of_le (Nat.le_max_left _ _)) hdepth
    have hpartc := Nat.le_trans (Nat.le_max_left _ _) hbranches
    have hparta := Nat.le_trans (Nat.le_max_right _ _) hbranches
    exact reads_conditional (ihtest hpart) (ihc hpartc) (iha hparta)
      (.conditional span htest hc ha) hdepth
  | lambda span params hbody ih =>
    have hpart := part_le_maxDepth (Nat.lt_succ_self _) hdepth
    exact reads_lambda (ih hpart) (.lambda span params hbody) hdepth
  | assign span htarget hvalue ih ih' =>
    have hpart := part_le_maxDepth (Nat.lt_succ_of_le (Nat.le_max_left _ _)) hdepth
    have hpart' := part_le_maxDepth (Nat.lt_succ_of_le (Nat.le_max_right _ _)) hdepth
    exact reads_assign (ih hpart) (ih' hpart') (.assign span htarget hvalue) hdepth

/-! ### All tokens -/

theorem parseTokens_place (h : e.Printable) (hheight : 2 * e.height ≤ maxDepth) :
    parseTokens size (place e.print) = .ok (built e) := by
  have hdepth : e.height ≤ maxDepth := by omega
  have hreads : Reads size e := reads h hdepth
  have hwhole := hreads.whole hheight Stops.nil
  rw [List.append_nil] at hwhole
  obtain ⟨hlt, hread⟩ := hwhole
  have hnil : (place e.print).isEmpty = false := by
    cases hplace : place e.print with
    | nil =>
      rw [hplace] at hlt
      cases Nat.not_lt_zero _ hlt
    | cons t ts => rfl
  rw [parseTokens, hnil, if_neg Bool.false_ne_true, hread]
  rfl

theorem matching_place {ts : Tokens} {us : List Token} (h : ts.map Spanned.value = us) :
    Matching .any (place us) ts := by
  subst h
  induction ts with
  | nil => exact .nil
  | cons t ts ih => exact .cons ⟨rfl, trivial, trivial⟩ ih

/-- Printing an expression and parsing the tokens gives back the same tree. -/
theorem parseTokens_print (he : e.Printable) (hheight : e.height ≤ 100) {ts : Tokens}
    (hts : ts.map Spanned.value = e.print) :
    ∃ b, parseTokens size ts = .ok b ∧ b.expr.SameTree e := by
  have hplaced : parseTokens size (place e.print) = .ok (built e) :=
    parseTokens_place he (by rw [maxDepth]; omega)
  have hsame : FailTogether (SameBuilt .any) (parseTokens size (place e.print))
      (parseTokens size ts) :=
    parseTokens_same (fun _ => ⟨trivial, trivial⟩) (matching_place hts)
  rcases hsame.cases with ⟨err, _, herr, _⟩ | ⟨b, b', hb, hb', htree, -⟩
  · rw [hplaced] at herr
    cases herr
  · rw [hplaced] at hb
    cases hb
    exact ⟨b', hb', (sameTree_unplaced.1 htree.sameTree).symm⟩

theorem parseTokens_print_product :
    ∃ b, parseTokens 7 (place (Expr.print (.binary default .multiply
        (.binary default .add (.ident default "a") (.ident default "b")) (.ident default "c")))) =
        .ok b ∧
      b.expr.SameTree (.binary default .multiply
        (.binary default .add (.ident default "a") (.ident default "b")) (.ident default "c")) :=
  parseTokens_print
    (.binary _ _ (.binary _ _ (.ident _ (by decide)) (.ident _ (by decide)))
      (.ident _ (by decide)))
    (by decide) rfl

end TemplateExpr.Parser
