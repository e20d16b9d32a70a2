import TemplateExpr.Proofs.Expr.Grammar

/-!
# Reading parts of printed expressions

`Reads size e` says how the tokens of `e` are read by each of the levels of the parser: whatever
follows, the parser goes on behind `e` as if it had just built its tree. From this, the parts of an
expression are read at the places where they stand, with or without parentheses, as the rules of the
grammar ask for them.
-/

namespace TemplateExpr.Parser

open TemplateExpr.Text TemplateExpr.Expr

/-! ### Places of parts -/

variable {size n : Nat} {e : Expr} {rest : Tokens} {asked min level : Level}

theorem Stops.settled (h : Stops level rest) : Settled level rest := fun s sp more heq =>
  ⟨(h s sp more heq).question, (h s sp more heq).assign, (h s sp more heq).operator⟩

theorem Stops.unaccessed (h : Stops level rest) : Unaccessed rest :=
  fun s sp more hs heq => (h s sp more heq).not_access hs

/-- An operand is read in front of the accesses that follow it. -/
theorem Operand.reads {t : Spanned Token} {ts : Tokens} {b : Built}
    (h : Operand (exprAt size n Level.assignment) (t :: ts) b rest)
    (ht : t.value.unaryOp? = none) :
    GoesOn (accesses size (exprAt size n Level.assignment)) (unaryAt size n (t :: ts)) b rest := by
  rw [unaryAt_operand ht]
  exact (h.goesOn size).bind

theorem mark_print (optional : Bool) : Mark optional (place (optionalMark optional)) := by
  cases optional with
  | true => exact .optional default
  | false => exact .plain

theorem span_built (e : Expr) : (built e).expr.span = default := span_unplaced e

/-- How the tokens of an expression are read. The nesting that is left has two levels for each node
on a path of the tree: an operator takes one for its right operand, and that takes another one if it
stands in parentheses. -/
structure Reads (size : Nat) (e : Expr) : Prop where
  opening : Opening e.print
  access : e.level = Level.access → ∀ n rest, 2 * e.height ≤ n + 1 → NoArrow rest →
    GoesOn (accesses size (exprAt size n Level.assignment))
      (unaryAt size n (place e.print ++ rest)) (built e) rest
  unary : e.level = Level.unary → ∀ n rest, 2 * e.height ≤ n + 1 → Stops Level.access rest →
    GoesOn .ok (unaryAt size n (place e.print ++ rest)) (built e) rest
  expr : ∀ n min rest, 2 * e.height ≤ n + 1 → min ≤ e.level → Stops e.trailing rest →
    GoesOn (operators size (exprAt size n) min) (exprAt size (n + 1) min (place e.print ++ rest))
      (built e) rest

namespace Reads

/-- An expression that is asked for at the loosest level. -/
theorem whole (he : Reads size e) (hn : 2 * e.height ≤ n) (hstop : Stops Level.assignment rest) :
    Gets (exprAt size n Level.assignment) (place e.print ++ rest) (built e) rest := by
  cases n with
  | zero => exact absurd e.height_pos (by omega)
  | succ n =>
    have hle := e.assignment_le_level
    have htrailing := hstop.mono (le_trailing (by decide) hle)
    obtain ⟨hlt, hread⟩ := he.expr n _ rest hn hle htrailing
    exact ⟨hlt, hread.trans hstop.settled.operators_eq⟩

/-- An expression in parentheses. -/
theorem group (he : Reads size e) (hn : 2 * e.height ≤ n) (harrow : NoArrow rest) :
    GoesOn (accesses size (exprAt size n Level.assignment))
      (unaryAt size n (place (.symbol .openParen :: e.print ++ [.symbol .closeParen]) ++ rest))
      (built e) rest := by
  have hclose : Stops Level.assignment (⟨.symbol .closeParen, default⟩ :: rest) :=
    .symbol (endsAt_closes (.inr (.inl rfl)) _) _ _
  have hnoParams : arrowParams? [] (place e.print ++ ⟨.symbol .closeParen, default⟩ :: rest) =
      none := by
    refine he.opening.noParams _ ⟨fun sp more heq => ?_, fun sp sp' more heq => ?_⟩
    · cases value_eq heq
    · exact harrow _ _ (List.cons.inj heq).2
  have heq : place (.symbol .openParen :: e.print ++ [.symbol .closeParen]) ++ rest =
      ⟨.symbol .openParen, default⟩ ::
        (place e.print ++ ⟨.symbol .closeParen, default⟩ :: rest) := by
    simp
  -- the tree gets the span of the parentheses
  have hbuilt : ⟨(built e).expr.withSpan ((default : Span).through default), e.height⟩ = built e :=
    congrArg (Built.mk · e.height) (withSpan_unplaced e)
  rw [heq, ← hbuilt]
  exact Operand.reads (.group hnoParams (he.whole hn hclose)) rfl

/-- What an access or a call starts with. -/
theorem receiver (he : Reads size e) (hn : 2 * e.height ≤ n) (harrow : NoArrow rest) :
    GoesOn (accesses size (exprAt size n Level.assignment))
      (unaryAt size n (place (enclose Level.access e.level e.print) ++ rest)) (built e) rest := by
  rcases Nat.lt_or_eq_of_le e.level_le_access with hlt | heq
  · rw [enclose_of_lt hlt]
    exact he.group hn harrow
  · rw [enclose_of_le (Nat.le_of_eq heq.symm)]
    exact he.access heq n rest (Nat.le_succ_of_le hn) harrow

/-- What stands behind a unary operator. -/
theorem afterUnary (he : Reads size e) (hn : 2 * e.height ≤ n) (hstop : Stops Level.access rest) :
    GoesOn .ok (unaryAt size n (place (enclose Level.unary e.level e.print) ++ rest)) (built e)
      rest := by
  rcases Nat.lt_or_ge e.level Level.unary with hlt | hge
  · rw [enclose_of_lt hlt]
    obtain ⟨hlt, hread⟩ := he.group hn hstop.noArrow
    exact ⟨hlt, hread.trans hstop.unaccessed.accesses_eq⟩
  rw [enclose_of_le hge]
  rcases Nat.lt_or_eq_of_le hge with hlt | heq
  · have haccess : e.level = Level.access := Nat.le_antisymm e.level_le_access hlt
    obtain ⟨hlt, hread⟩ := he.access haccess n rest (Nat.le_succ_of_le hn) hstop.noArrow
    exact ⟨hlt, hread.trans hstop.unaccessed.accesses_eq⟩
  · exact he.unary heq.symm n rest (Nat.le_succ_of_le hn) hstop

/-- What stands to the left of an operator. -/
theorem left (he : Reads size e) (asked : Level) (hn : 2 * e.height ≤ n) (hmin : min ≤ asked)
    (hstop : Stops level rest) (htrailing : asked ≤ e.level → Stops e.trailing rest) :
    GoesOn (operators size (exprAt size n) min)
      (exprAt size (n + 1) min (place (enclose asked e.level e.print) ++ rest)) (built e) rest := by
  rcases Nat.lt_or_ge e.level asked with hlt | hge
  · rw [enclose_of_lt hlt, exprAt_succ]
    obtain ⟨hlt, hread⟩ := he.group hn hstop.noArrow
    refine GoesOn.bind ⟨hlt, hread.trans hstop.unaccessed.accesses_eq⟩
  · rw [enclose_of_le hge]
    exact he.expr n min rest (Nat.le_succ_of_le hn) (Nat.le_trans hmin hge) (htrailing hge)

/-- What stands at the end. -/
theorem right (he : Reads size e) (hn : 2 * e.height < n) (hasked : asked ≠ Level.conditional)
    (hstop : Stops asked rest) :
    GoesOn .ok (exprAt size n asked (place (enclose asked e.level e.print) ++ rest)) (built e)
      rest := by
  cases n with
  | zero => exact absurd hn (Nat.not_lt_zero _)
  | succ n =>
    have htrailing (h : asked ≤ e.level) : Stops e.trailing rest :=
      hstop.mono (le_trailing hasked h)
    obtain ⟨hlt, hread⟩ := he.left asked (Nat.le_of_lt_succ hn) (Nat.le_refl asked) hstop htrailing
    exact ⟨hlt, hread.trans hstop.settled.operators_eq⟩

/-! ### Kinds of expressions -/

theorem of_access (hopening : Opening e.print) (hlevel : e.level = Level.access)
    (hread : ∀ n rest, 2 * e.height ≤ n + 1 → NoArrow rest →
      GoesOn (accesses size (exprAt size n Level.assignment))
        (unaryAt size n (place e.print ++ rest)) (built e) rest) : Reads size e where
  opening := hopening
  access _ := hread
  unary h := by
    rw [hlevel] at h
    cases h
  expr n min rest hn _ hstop := by
    rw [exprAt_succ]
    obtain ⟨hlt, hread⟩ := hread n rest hn hstop.noArrow
    exact GoesOn.bind ⟨hlt, hread.trans hstop.unaccessed.accesses_eq⟩

theorem of_unary (hopening : Opening e.print) (hlevel : e.level = Level.unary)
    (htrailing : e.trailing = Level.access)
    (hread : ∀ n rest, 2 * e.height ≤ n + 1 → Stops Level.access rest →
      GoesOn .ok (unaryAt size n (place e.print ++ rest)) (built e) rest) : Reads size e where
  opening := hopening
  access h := by
    rw [hlevel] at h
    cases h
  unary _ := hread
  expr n min rest hn _ hstop := by
    rw [exprAt_succ]
    rw [htrailing] at hstop
    exact (hread n rest hn hstop).bind

theorem of_expr (hopening : Opening e.print) (hlevel : e.level < Level.unary)
    (hread : ∀ n min rest, 2 * e.height ≤ n + 1 → min ≤ e.level → Stops e.trailing rest →
      GoesOn (operators size (exprAt size n) min)
        (exprAt size (n + 1) min (place e.print ++ rest)) (built e) rest) : Reads size e where
  opening := hopening
  access h := by
    rw [h] at hlevel
    cases Nat.not_lt.2 (by decide) hlevel
  unary h := by
    rw [h] at hlevel
    cases Nat.lt_irrefl _ hlevel
  expr := hread

end Reads

/-! ### Lists of parts -/

theorem items_print {close : Symbol} (hclose : Closes close) {es : List Expr}
    (hes : ∀ e ∈ es, Reads size e) (hn : 2 * heights es ≤ n) (rest : Tokens) :
    Items (exprAt size n Level.assignment) close
      (place (printItems es) ++ ⟨.symbol close, default⟩ :: rest) (unplacedItems es) (heights es)
      default rest := by
  induction es with
  | nil => exact .empty default rest
  | cons e es ih =>
    have he : Reads size e := hes e List.mem_cons_self
    have hne : 2 * e.height ≤ n := by
      rw [heights] at hn
      omega
    cases es with
    | nil =>
      have hstop : Stops Level.assignment (⟨.symbol close, default⟩ :: rest) :=
        .symbol (endsAt_closes hclose _) _ _
      have hheight : heights [e] = e.height := Nat.max_zero _
      rw [printItems, enclose_assignment, unplacedItems, unplacedItems, hheight]
      exact .last (he.opening.noClose close hclose _) (he.whole hne hstop)
    | cons e' es =>
      have hstop : Stops Level.assignment (⟨.symbol .comma, default⟩ ::
          (place (printItems (e' :: es)) ++ ⟨.symbol close, default⟩ :: rest)) :=
        .symbol (endsAt_closes (.inl rfl) _) _ _
      have hnes : 2 * heights (e' :: es) ≤ n := by
        rw [heights] at hn
        omega
      have htokens : place (printItems (e :: e' :: es)) ++ ⟨.symbol close, default⟩ :: rest =
          place e.print ++ ⟨.symbol .comma, default⟩ ::
            (place (printItems (e' :: es)) ++ ⟨.symbol close, default⟩ :: rest) := by
        simp [printItems]
      rw [htokens, unplacedItems, heights]
      exact .more (he.opening.noClose close hclose _) (he.whole hne hstop)
        (ih (fun e h => hes e (List.mem_cons_of_mem _ h)) hnes)

theorem entries_print {entries : List (String × Expr)} (hes : ∀ f ∈ entries, Reads size f.2)
    (hn : 2 * entryHeights entries ≤ n) (rest : Tokens) :
    Entries (exprAt size n Level.assignment)
      (place (printEntries entries) ++ ⟨.symbol .closeBrace, default⟩ :: rest)
      (unplacedEntries entries) (entryHeights entries) default rest := by
  induction entries with
  | nil => exact .empty default rest
  | cons f entries ih =>
    obtain ⟨key, e⟩ := f
    have he : Reads size e := hes _ List.mem_cons_self
    have hne : 2 * e.height ≤ n := by
      rw [entryHeights] at hn
      omega
    cases entries with
    | nil =>
      have hstop : Stops Level.assignment (⟨.symbol .closeBrace, default⟩ :: rest) :=
        .symbol (endsAt_closes (.inr (.inr (.inr rfl))) _) _ _
      have hheight : entryHeights [(key, e)] = e.height := Nat.max_zero _
      rw [printEntries, enclose_assignment, unplacedEntries, unplacedEntries, hheight]
      exact .last (.written rfl (he.whole hne hstop))
    | cons f' entries =>
      have hstop : Stops Level.assignment (⟨.symbol .comma, default⟩ ::
          (place (printEntries (f' :: entries)) ++ ⟨.symbol .closeBrace, default⟩ :: rest)) :=
        .symbol (endsAt_closes (.inl rfl) _) _ _
      have hnes : 2 * entryHeights (f' :: entries) ≤ n := by
        rw [entryHeights] at hn
        omega
      have htokens : place (printEntries ((key, e) :: f' :: entries)) ++
            ⟨.symbol .closeBrace, default⟩ :: rest =
          ⟨.string key, default⟩ :: ⟨.symbol .colon, default⟩ ::
            (place e.print ++ ⟨.symbol .comma, default⟩ ::
              (place (printEntries (f' :: entries)) ++
                ⟨.symbol .closeBrace, default⟩ :: rest)) := by
        simp [printEntries]
      rw [htokens, unplacedEntries, entryHeights]
      exact .more (.written rfl (he.whole hne hstop))
        (ih (fun f h => hes f (List.mem_cons_of_mem _ h)) hnes)

/-- Parameters in parentheses in front of an arrow. -/
theorem arrowParams?_print (params acc : List String) (rest : Tokens) :
    ∃ h, arrowParams? acc (place (printParams params) ++
        ⟨.symbol .closeParen, default⟩ :: ⟨.symbol .arrow, default⟩ :: rest) =
      some ⟨acc.reverse ++ params, rest, h⟩ := by
  induction params generalizing acc with
  | nil =>
    refine ⟨Nat.le_succ_of_le (Nat.le_succ _), ?_⟩
    rw [List.append_nil]
    rfl
  | cons p params ih =>
    cases params with
    | nil =>
      rw [← List.reverse_cons]
      exact ⟨Nat.le_succ_of_le (Nat.le_succ_of_le (Nat.le_succ _)), rfl⟩
    | cons q params =>
      have htokens : place (printParams (p :: q :: params)) =
          ⟨.name p, default⟩ :: ⟨.symbol .comma, default⟩ :: place (printParams (q :: params)) :=
        rfl
      have hname : ∃ more, place (printParams (q :: params)) = ⟨.name q, default⟩ :: more := by
        cases params <;> exact ⟨_, rfl⟩
      obtain ⟨more, hmore⟩ := hname
      have hparams := ih (p :: acc)
      rw [hmore] at hparams
      obtain ⟨hle, hparams⟩ := hparams
      rw [htokens, hmore, List.cons_append, List.cons_append, arrowParams?, hparams]
      rw [List.reverse_cons, List.append_assoc]
      exact ⟨Nat.le_succ_of_le (Nat.le_succ_of_le hle), rfl⟩

end TemplateExpr.Parser
