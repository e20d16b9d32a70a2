import TemplateExpr.Proofs.Expr.Standing
import TemplateExpr.Proofs.Template.Compiled
import TemplateExpr.Proofs.Token.Slice

/-!
# The spans of nodes

Every node of a tree that has been read from a text stands from the start of one token to the end of
another, and what stands there is, read as a text of its own, the same tree again
(`Expr.faithful_of_parse`). Its parts stand within it, one behind another. Only the value of an entry
that is nothing but its key may be read differently: there, a word is a name, whatever the word.
-/

namespace TemplateExpr

open TemplateExpr.Text

namespace Parser

variable {ts w rest gap : Tokens} {s : Span} {e p : Expr} {es : List Expr}
  {P : Tokens → Tokens → Expr → Prop}

/-! ### Nodes that stand alone -/

theorem Alone.ne_nil (h : Alone w e) : w ≠ [] := by
  rintro rfl
  obtain ⟨height, hlt, -⟩ := h 0
  exact Nat.lt_irrefl _ hlt

theorem Alone.covers (h : Alone w e) : Covers w [] e.span := by
  let l : Layout := ⟨fun _ => True, fun _ => True, fun _ => True⟩
  have hw : l.Allows w := ⟨fun _ _ => trivial, fun _ _ _ _ _ => trivial, fun _ _ _ _ => trivial⟩
  obtain ⟨height, hlt, hread⟩ := h 0
  have hsound := (sound_exprAt (show l.place 0 from trivial) maxDepth).1 Level.assignment w hw
  rw [hread] at hsound
  exact hsound.covers

theorem PartOf.covers (h : PartOf e gap w p) : Covers w [] p.span := by
  rcases h with halone | ⟨-, before, mark, t, -, -, rfl, hspan, -⟩
  · exact halone.covers
  · rw [← hspan]
    exact covers_cons t []

theorem Laid.exists_of_mem (h : Laid P ts es) (hp : p ∈ es) :
    ∃ before gap w after, ts = before ++ (gap ++ (w ++ after)) ∧ P gap w p := by
  induction h with
  | nil => cases hp
  | @cons gap w ts e es he _ ih =>
    rcases List.mem_cons.1 hp with rfl | hp
    · exact ⟨[], gap, w, ts, rfl, he⟩
    · obtain ⟨before, gap', w', after, rfl, hp⟩ := ih hp
      exact ⟨gap ++ (w ++ before), gap', w', after, by simp, hp⟩

/-- The node is the value of an entry that has no colon in front of its value: a key alone. -/
def IsShorthand (ts : Tokens) (e p : Expr) : Prop :=
  ∃ s entries, .object s entries ∈ e.nodes ∧ p ∈ entries.map Prod.snd ∧
    ∃ before mark t after, ts = before ++ mark :: t :: after ∧ mark.value ≠ .symbol .colon ∧
      t.span = p.span

theorem IsShorthand.of_part {q : Expr} (h : IsShorthand w q p) (before after : Tokens)
    (hq : q ∈ e.parts) : IsShorthand (before ++ (w ++ after)) e p := by
  obtain ⟨s, entries, hobject, hp, front, mark, t, behind, rfl, hmark, hspan⟩ := h
  refine ⟨s, entries, Expr.nodes_subset_of_mem_parts hq hobject, hp, before ++ front, mark, t,
    behind ++ after, by simp, hmark, hspan⟩

/-- Every node is read from tokens that stand alone for it. -/
theorem Alone.of_mem_nodes (h : Alone ts e) (hp : p ∈ e.nodes) :
    (∃ before w after, ts = before ++ (w ++ after) ∧ Alone w p) ∨ IsShorthand ts e p := by
  induction e using Expr.parts_induction generalizing ts with
  | step e ih =>
    rw [Expr.nodes_eq_parts] at hp
    rcases List.mem_cons.1 hp with rfl | hp
    · exact .inl ⟨[], ts, [], by simp, h⟩
    obtain ⟨q, hq, hpq⟩ := Expr.exists_of_mem_listNodes hp
    obtain ⟨before, gap, w, after, rfl, hpart⟩ := (laid_of_alone h).exists_of_mem hq
    rcases hpart with halone | ⟨⟨s, entries, rfl⟩, front, mark, t, rfl, hmark, rfl, hspan, hnone⟩
    · rcases ih q hq halone hpq with ⟨front, w', behind, rfl, halone'⟩ | hshort
      · exact .inl ⟨before ++ gap ++ front, w', behind ++ after, by simp, halone'⟩
      · have hshort' := hshort.of_part (before ++ gap) after hq
        rw [List.append_assoc] at hshort'
        exact .inr hshort'
    · -- a key has no parts
      obtain rfl : p = q := by
        rw [Expr.nodes_eq_parts, hnone] at hpq
        exact List.mem_singleton.1 hpq
      refine .inr ⟨s, entries, Expr.mem_nodes_self _, hq, before ++ front, mark, t, after, ?_,
        hmark, hspan⟩
      simp

/-! ### Where parts stand -/

theorem Covers.exists_start (h : Covers w rest s) : ∃ t ∈ w, t.span.start = s.start := by
  obtain ⟨t, more, rfl, ht⟩ := h.start
  exact ⟨t, List.mem_cons_self, ht⟩

theorem Covers.exists_stop (h : Covers w rest s) : ∃ t ∈ w, t.span.stop = s.stop := by
  obtain ⟨pre, t, rfl, ht⟩ := h.stop
  exact ⟨t, List.mem_append_right pre List.mem_cons_self, ht⟩

/-- The tokens that a span covers lie within it. -/
theorem Covers.within (h : Covers w [] s) (hw : Token.Apart w) {t : Spanned Token} (ht : t ∈ w) :
    t.span.Within s := by
  constructor
  · obtain ⟨u, more, rfl, hu⟩ := h.start
    rcases List.mem_cons.1 ht with rfl | ht
    · exact Nat.le_of_eq hu.symm
    · have hle := List.rel_of_pairwise_cons hw.le ht
      have hlt := hw.lt u List.mem_cons_self
      omega
  · obtain ⟨pre, u, rfl, hu⟩ := h.stop
    rcases List.mem_append.1 ht with ht | ht
    · have hle := (List.pairwise_append.1 hw.le).2.2 t ht u List.mem_cons_self
      have hlt := hw.lt u (List.mem_append_right pre List.mem_cons_self)
      omega
    · obtain rfl := List.mem_singleton.1 ht
      exact Nat.le_of_eq hu

theorem Covers.start_lt_stop (h : Covers w [] s) (hw : Token.Apart w) : s.start < s.stop := by
  obtain ⟨t, ht, hstart⟩ := h.exists_start
  have hlt := hw.lt t ht
  have hwithin := (h.within hw ht).2
  omega

/-- What covers tokens of which each has a place of its own stands one behind another. -/
theorem Laid.pairwise (h : Laid P ts es) (hP : ∀ gap w p, P gap w p → Covers w [] p.span)
    (hts : Token.Apart ts) : es.Pairwise fun q r => q.span.stop ≤ r.span.start := by
  induction h with
  | nil => exact .nil
  | @cons gap w ts e es he hes ih =>
    have hle := (List.pairwise_append.1 hts.le).2.1
    have hlt {t : Spanned Token} (ht : t ∈ w ++ ts) := hts.lt t (List.mem_append_right gap ht)
    have hbehind : Token.Apart ts :=
      ⟨fun t ht => hlt (List.mem_append_right w ht), (List.pairwise_append.1 hle).2.1⟩
    refine List.pairwise_cons.2 ⟨fun r hr => ?_, ih hbehind⟩
    obtain ⟨before, gap', w', after, rfl, hr⟩ := hes.exists_of_mem hr
    obtain ⟨t, ht, hstop⟩ := (hP _ _ _ he).exists_stop
    obtain ⟨u, hu, hstart⟩ := (hP _ _ _ hr).exists_start
    rw [← hstop, ← hstart]
    exact (List.pairwise_append.1 hle).2.2 t ht u (by simp [hu])

end Parser

/-! ### Reading again -/

/-- Where tokens start and stop in a text, and in one in front of which `n` bytes have been put. -/
def Places.shifted (n : Nat) : Places := ⟨fun a b => b = a + n, fun a b => b = a + n⟩

theorem Places.spans_shifted (n : Nat) : (Places.shifted n).spans = fun s s' => s' = s.shift n := by
  ext ⟨start, stop⟩ ⟨start', stop'⟩
  simp [Places.spans, Places.shifted, Span.shift]

theorem Parser.matching_shift (n : Nat) (ts : Parser.Tokens) :
    Parser.Matching (.shifted n) ts (ts.map (·.shift n)) := by
  induction ts with
  | nil => exact .nil
  | cons t ts ih => exact .cons ⟨rfl, rfl, rfl⟩ ih

theorem Parser.Alone.parseTokens_eq {w : Parser.Tokens} {e : Expr} (h : Parser.Alone w e)
    (size : Nat) : ∃ b, Parser.parseTokens size w = .ok b ∧ b.expr = e := by
  obtain ⟨height, hlt, hread⟩ := h size
  refine ⟨⟨e, height⟩, ?_, rfl⟩
  cases w with
  | nil => cases hlt
  | cons t w =>
    unfold Parser.parseTokens
    rw [hread]
    rfl

theorem Parser.alone_of_parseTokens {size : Nat} {ts : Parser.Tokens} {b : Parser.Built}
    (hne : ts ≠ []) (h : Parser.parseTokens size ts = .ok b) : Parser.Alone ts b.expr := by
  cases ts with
  | nil => exact absurd rfl hne
  | cons t ts =>
    obtain ⟨⟨b', rest, hlt⟩, hread, h⟩ := exists_of_bind_eq_ok h
    cases rest with
    | nil =>
      obtain rfl : b' = b := Except.ok.inj h
      have hget : Parser.Gets _ (t :: ts) b' [] := ⟨hlt, hread⟩
      obtain ⟨w, hw, halone⟩ := Parser.alone_of_exprAt (Nat.le_refl _) (Nat.le_refl _) hget
      rwa [hw, List.append_nil]
    | cons u rest =>
      dsimp only at h
      split at h <;> cases h

/-! ### Texts -/

namespace Expr

open TemplateExpr.Parser (Alone IsShorthand)

/-- The span of the node `p` of a tree that has been read from the tokens `ts` of `text` is the one
of its tokens, and what stands there is the same tree again. -/
structure Faithful (text : List Char) (ts : List (Spanned Token)) (p : Expr) : Prop where
  range : p.span.IsRange text
  start : ∃ t ∈ ts, t.span.start = p.span.start
  stop : ∃ t ∈ ts, t.span.stop = p.span.stop
  nonempty : p.span.start < p.span.stop
  within : ∀ q ∈ p.parts, q.span.Within p.span
  inOrder : p.parts.Pairwise fun q r => q.span.stop ≤ r.span.start
  again : ∃ e, Expr.parse (betweenBytes text p.span.start p.span.stop) = .ok e ∧
    e.Matches (fun s s' => s' = s.shift p.span.start) p

/-- The tokens that stand alone for an expression are those of a text that is that expression. -/
theorem exists_parse_slice {text : List Char} {before w after : List (Spanned Token)} {p : Expr}
    (hts : tokenize text = .ok (before ++ (w ++ after))) (h : Alone w p) :
    p.span.IsRange text ∧
      ∃ e, Expr.parse (betweenBytes text p.span.start p.span.stop) = .ok e ∧
        e.Matches (fun s s' => s' = s.shift p.span.start) p := by
  obtain ⟨u, m, v, us, rfl, hus, rfl, ⟨t, more, hfirst, hstart⟩, ⟨front, t', hlast, hstop⟩⟩ :=
    tokenize_slice hts h.ne_nil
  -- the part of the text is where the node stands
  have hspan : p.span = ⟨byteLength u, byteLength u + byteLength m⟩ := by
    obtain ⟨⟨t₁, more₁, hfirst', hstart'⟩, ⟨front', t₁', hlast', hstop'⟩⟩ := h.covers
    obtain ⟨rfl, -⟩ := List.cons.inj (hfirst.symm.trans hfirst')
    obtain ⟨-, rfl⟩ := List.append_singleton_inj.1 (hlast.symm.trans hlast')
    rw [← hstop, ← hstart, hstart', hstop']
  rw [hspan, betweenBytes_append]
  refine ⟨List.append_assoc u m v ▸ Span.isRange_append u m v, ?_⟩
  have hsame : FailTogether (Parser.SameBuilt (.shifted (byteLength u)))
      (Parser.parseTokens (byteLength m) us)
      (Parser.parseTokens (byteLength m) (us.map (·.shift (byteLength u)))) :=
    Parser.parseTokens_same (fun hnil => absurd (by rw [hnil]; rfl) h.ne_nil)
      (Parser.matching_shift _ us)
  obtain ⟨b, hb, rfl⟩ := h.parseTokens_eq (byteLength m)
  rw [hb] at hsame
  cases hread : Parser.parseTokens (byteLength m) us with
  | error e =>
    rw [hread] at hsame
    exact absurd hsame not_false
  | ok b' =>
    rw [hread] at hsame
    refine ⟨b'.expr, ?_, Places.spans_shifted _ ▸ hsame.1⟩
    unfold Expr.parse
    rw [hus]
    change (Parser.parseTokens (byteLength m) us >>= fun b => pure b.expr) = _
    rw [hread]
    rfl

/-- Every node stands where its tokens do and is read again from what stands there, unless it is the
value of an entry that is nothing but its key. -/
theorem faithful_of_parse {text : List Char} {ts : List (Spanned Token)}
    (hts : tokenize text = .ok ts) (hne : ts ≠ []) {e : Expr} (he : Expr.parse text = .ok e)
    {p : Expr} (hp : p ∈ e.nodes) (hshort : ¬IsShorthand ts e p) : p.Faithful text ts := by
  have halone : Alone ts e := by
    obtain ⟨us, hus, he⟩ := exists_of_bind_eq_ok he
    obtain rfl := Except.ok.inj (hts.symm.trans hus)
    obtain ⟨b, hb, he⟩ := exists_of_bind_eq_ok he
    obtain rfl := Except.ok.inj he
    exact Parser.alone_of_parseTokens hne hb
  rcases halone.of_mem_nodes hp with ⟨before, w, after, rfl, hw⟩ | hshort'
  · obtain ⟨hrange, hagain⟩ := exists_parse_slice hts hw
    have hapart : Token.Apart w := by
      have htext := apart_tokenize hts
      refine ⟨fun t ht => htext.lt t (by simp [ht]), ?_⟩
      exact (List.pairwise_append.1 (List.pairwise_append.1 htext.le).2.1).1
    obtain ⟨t, ht, hstart⟩ := hw.covers.exists_start
    obtain ⟨t', ht', hstop⟩ := hw.covers.exists_stop
    have hlaid := Parser.laid_of_alone hw
    refine ⟨hrange, ⟨t, by simp [ht], hstart⟩, ⟨t', by simp [ht'], hstop⟩,
      hw.covers.start_lt_stop hapart, fun q hq => ?_,
      hlaid.pairwise (fun _ _ _ h => Parser.PartOf.covers h) hapart, hagain⟩
    obtain ⟨front, gap, w', behind, rfl, hpart⟩ := hlaid.exists_of_mem hq
    obtain ⟨u, hu, hustart⟩ := (Parser.PartOf.covers hpart).exists_start
    obtain ⟨u', hu', hustop⟩ := (Parser.PartOf.covers hpart).exists_stop
    have hfirst := (hw.covers.within hapart (t := u) (by simp [hu])).1
    have hlast := (hw.covers.within hapart (t := u') (by simp [hu'])).2
    exact ⟨hustart ▸ hfirst, hustop ▸ hlast⟩
  · exact absurd hshort' hshort

/-- A sum between parentheses, which belong to its span, in front of an object with a key alone. -/
theorem faithful_parenthesizedSum : ∃ ts e p,
    tokenize "f(( a + b ), \x7bx, y: -c\x7d)".toList = .ok ts ∧
      Expr.parse "f(( a + b ), \x7bx, y: -c\x7d)".toList = .ok e ∧ p ∈ e.nodes ∧
      p.span = ⟨2, 11⟩ ∧ p.Faithful "f(( a + b ), \x7bx, y: -c\x7d)".toList ts := by
  obtain ⟨e, he, h⟩ := Expr.exists_parse "f(( a + b ), \x7bx, y: -c\x7d)"
    (p := fun e => e.nodes.any fun p => p.span == ⟨2, 11⟩) (by decide +kernel)
  obtain ⟨p, hp, hspan⟩ := List.any_eq_true.1 h
  have hspan : p.span = ⟨2, 11⟩ := eq_of_beq hspan
  obtain ⟨ts, hts, -⟩ := exists_of_bind_eq_ok he
  have htokens : ((tokenize "f(( a + b ), \x7bx, y: -c\x7d)".toList).toOption.any fun ts =>
      !ts.isEmpty && ts.all fun t => t.span != ⟨2, 11⟩) = true := by
    decide +kernel
  rw [hts] at htokens
  obtain ⟨hne, hother⟩ := Bool.and_eq_true_iff.1 (show (_ && _) = true from htokens)
  refine ⟨ts, e, p, hts, he, hp, hspan, faithful_of_parse hts (by simpa using hne) he hp ?_⟩
  -- no single token is the sum
  rintro ⟨s, entries, -, -, before, mark, t, after, rfl, -, ht⟩
  have hnot := List.all_eq_true.1 hother t (by simp)
  rw [ht, hspan] at hnot
  cases hnot

/-- A text without tokens that is not blank: there is nothing that its tree could stand on. -/
theorem parse_commentAlone : trim "/* c */".toList ≠ [] ∧
    ∃ e, Expr.parse "/* c */".toList = .ok e ∧ ¬e.span.start < e.span.stop := by
  obtain ⟨e, he, h⟩ := Expr.exists_parse "/* c */"
    (p := fun e => decide ¬e.span.start < e.span.stop) (by decide +kernel)
  exact ⟨by decide, e, he, of_decide_eq_true h⟩

end Expr

end TemplateExpr
