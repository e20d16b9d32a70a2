import TemplateExpr.Proofs.Token.Locality

/-!
# Slices of the tokens of a text

`Lexes pos cs ts` says how tokens stand in a text: one behind another, with trivia in between. Tokens
that follow one another stand in a part of the text, and they are the tokens of that part
(`tokenize_slice`).
-/

namespace TemplateExpr

open TemplateExpr.Text

/-- The same token in a text in front of which `n` bytes have been put. -/
def Spanned.shift {α : Type} (t : Spanned α) (n : Nat) : Spanned α := ⟨t.value, t.span.shift n⟩

namespace Lexer

variable {c : Char} {x y z cs gap w behind rest : List Char} {pos pos' n : Nat} {token : Token}
  {t : Spanned Token} {ts before after acc : List (Spanned Token)}

/-! ### Trivia -/

theorem not_blank_of_atToken (h : AtToken (c :: cs)) : isBlank c = false := by
  rcases trimStart_cases (c :: cs) with hnil | ⟨d, rest, hcons, hd⟩
  · cases h.1.symm.trans hnil
  · obtain ⟨rfl, -⟩ := List.cons.inj (h.1.symm.trans hcons)
    exact hd

theorem afterTrivia?_of_atToken (h : AtToken cs) : afterTrivia? cs = some cs := by
  cases cs with
  | nil => exact afterTrivia?_nil
  | cons c cs => exact afterTrivia?_token (not_blank_of_atToken h) h.2

theorem startsComment_cut (h : startsComment (x ++ z) = false) : startsComment x = false := by
  unfold startsComment
  split
  · cases h
  · cases h
  · rfl

/-- A token stands at the start of a text however short the text is cut behind its first
character. -/
theorem AtToken.cut (h : AtToken (c :: (x ++ z))) : AtToken (c :: x) :=
  ⟨trimStart_cons_of_not_blank (not_blank_of_atToken h), startsComment_cut (x := c :: x) h.2⟩

/-- Trivia that ends in front of any token. -/
def Separates (gap : List Char) : Prop := ∀ r, AtToken r → afterTrivia? (gap ++ r) = some r

theorem separates_nil : Separates [] := fun _ h => afterTrivia?_of_atToken h

theorem exists_afterLine (h : afterLine cs ≠ []) :
    ∃ w, cs = w ++ '\n' :: afterLine cs ∧ ∀ r, afterLine (w ++ '\n' :: r) = r := by
  have hsplit := List.takeWhile_append_dropWhile (p := (· != '\n')) (l := cs)
  rw [afterLine] at h ⊢
  cases hdrop : cs.dropWhile (· != '\n') with
  | nil =>
    rw [hdrop] at h
    exact absurd rfl h
  | cons d rest =>
    have hd : d = '\n' := by
      have hhead := List.head?_dropWhile_not (· != '\n') cs
      rw [hdrop] at hhead
      simpa using hhead
    subst hd
    rw [hdrop] at hsplit
    refine ⟨cs.takeWhile (· != '\n'), hsplit.symm, fun r => ?_⟩
    rw [afterLine, List.dropWhile_append_of_pos fun c hc => of_mem_takeWhile hc,
      List.dropWhile_cons_of_neg (by decide)]
    rfl

theorem exists_afterBlock? (h : afterBlock? cs = some rest) :
    ∃ w, cs = w ++ rest ∧ ∀ r, afterBlock? (w ++ r) = some r := by
  fun_induction afterBlock? cs with
  | case1 => cases h
  | case2 cs =>
    obtain rfl := Option.some.inj h
    exact ⟨['*', '/'], rfl, fun r => rfl⟩
  | case3 c cs hnot ih =>
    obtain ⟨w, rfl, hw⟩ := ih h
    refine ⟨c :: w, rfl, fun r => ?_⟩
    rw [List.cons_append, afterBlock?.eq_3, hw]
    rintro more rfl hmore
    -- the characters that end the comment cannot be in front of its end
    cases w with
    | nil => cases hw []
    | cons d w =>
      obtain ⟨rfl, -⟩ := List.cons.inj hmore
      exact hnot (w ++ rest) rfl rfl

/-- What is skipped in front of a token is skipped in front of any other one. -/
theorem exists_separates (h : afterTrivia? cs = some rest) (hne : rest ≠ []) :
    ∃ gap, cs = gap ++ rest ∧ Separates gap := by
  fun_induction afterTrivia? cs with
  | case1 =>
    cases h
    exact absurd rfl hne
  | case2 cs _ ih =>
    obtain ⟨gap, hgap, hseparates⟩ := ih h
    have hline : afterLine cs ≠ [] := by
      intro hnil
      rw [hnil] at hgap
      exact hne (List.append_eq_nil_iff.1 hgap.symm).2
    obtain ⟨w, hw, hafter⟩ := exists_afterLine hline
    refine ⟨'/' :: '/' :: (w ++ '\n' :: gap), ?_, fun r hr => ?_⟩
    · rw [hgap] at hw
      simp [hw]
    · rw [List.cons_append, List.cons_append, List.append_assoc, List.cons_append,
        afterTrivia?_line, hafter, hseparates r hr]
  | case3 => cases h
  | case4 cs rest' hblock _ ih =>
    obtain ⟨gap, rfl, hseparates⟩ := ih h
    obtain ⟨w, rfl, hafter⟩ := exists_afterBlock? hblock
    refine ⟨'/' :: '*' :: (w ++ gap), by simp, fun r hr => ?_⟩
    rw [List.cons_append, List.cons_append, List.append_assoc, afterTrivia?_block, hafter,
      Option.bind_some, hseparates r hr]
  | case5 c cs _ _ hc ih =>
    obtain ⟨gap, rfl, hseparates⟩ := ih h
    exact ⟨c :: gap, rfl, fun r hr => (afterTrivia?_blank hc).trans (hseparates r hr)⟩
  | case6 c cs =>
    cases h
    exact ⟨[], rfl, separates_nil⟩

/-! ### Tokens that stand in a text -/

/-- The token is read off its text `c :: w` in front of `behind`, wherever that is. -/
structure Reads (c : Char) (w : List Char) (token : Token) (behind : List Char) : Prop where
  atToken : AtToken (c :: (w ++ behind))
  outcome : ∀ pos, outcome (scanToken pos c (w ++ behind)) = some (token, behind)

/-- The tokens of `cs`, which starts at byte `pos`, with the trivia between them. -/
inductive Lexes : Nat → List Char → List (Spanned Token) → Prop
  | nil (pos : Nat) {cs : List Char} : afterTrivia? cs = some [] → Lexes pos cs []
  | cons {pos : Nat} (gap : List Char) {c : Char} {w behind : List Char} {token : Token}
      {ts : List (Spanned Token)} :
    Separates gap → Reads c w token behind →
    Lexes (pos + byteLength (gap ++ c :: w)) behind ts →
    Lexes pos (gap ++ c :: (w ++ behind))
      (⟨token, ⟨pos + byteLength gap, pos + byteLength (gap ++ c :: w)⟩⟩ :: ts)

theorem Reads.cut (h : Reads c w token (y ++ z))
    (hpoint : y = ['.'] → z.head?.any isAsciiDigit = false) : Reads c w token y where
  atToken := by
    have hcut := h.atToken
    rw [← List.append_assoc] at hcut
    exact hcut.cut
  outcome pos := by
    have hread := h.outcome pos
    rw [← List.append_assoc] at hread
    exact outcome_scanToken_cut hpoint hread

/-- A point that is a token of its own has no digit behind it. -/
theorem Reads.point (h : Reads '.' [] token behind) : behind.head?.any isAsciiDigit = false := by
  by_contra hdigit
  rw [Bool.not_eq_false] at hdigit
  have hread := h.outcome 0
  rw [List.nil_append] at hread
  unfold scanToken at hread
  rw [if_neg (by decide), if_pos ⟨rfl, hdigit⟩] at hread
  exact Nat.lt_irrefl _ (length_of_outcome_scanPointNumber hdigit hread)

/-- What is read off a text is read off it wherever the text stands. -/
theorem reads_of_outcome (hat : AtToken (c :: (w ++ behind)))
    (h : outcome (scanToken pos c (w ++ behind)) = some (token, behind)) :
    Reads c w token behind where
  atToken := hat
  outcome pos' := by
    have hread : outcome (scanToken pos c (w ++ behind ++ [])) = some (token, behind ++ []) := by
      rwa [List.append_nil, List.append_nil]
    exact outcome_scanToken_cut (fun _ => rfl) hread

theorem afterTrivia?_of_skipTrivia {l : Left Nat cs} (h : skipTrivia pos cs = .ok l) :
    afterTrivia? cs = some l.rest := by
  rw [← rest_skipTrivia pos, h]
  rfl

/-- Where trivia stops. -/
theorem spells_skipTrivia {l : Left Nat cs} (h : skipTrivia pos cs = .ok l) :
    ∃ w, Spells w pos cs l.value l.rest := by
  have htrivia := endsIn_skipTrivia pos cs
  rw [h] at htrivia
  exact htrivia

/-- Where a token stops. -/
theorem spells_scanToken {t : Taken (Token × Nat) (c :: cs)} (h : scanToken pos c cs = .ok t) :
    ∃ w, Spells (c :: w) pos (c :: cs) t.value.2 t.rest := by
  have htoken := endsIn_scanToken pos c cs
  rw [h] at htoken
  obtain ⟨w, hw, -⟩ := htoken
  cases w with
  | nil => exact absurd (congrArg List.length hw.text) (Nat.ne_of_gt t.rest_lt)
  | cons d w =>
    obtain ⟨rfl, -⟩ := List.cons.inj hw.text
    exact ⟨w, hw⟩

/-- The tokens that are found stand in the text. -/
theorem lexes_tokensFrom (h : tokensFrom acc pos cs = .ok ts) :
    ∃ us, ts = acc.reverse ++ us ∧ Lexes pos cs us := by
  fun_induction tokensFrom acc pos cs with
  | case1 => cases h
  | case2 acc pos cs _ _ hskip =>
    obtain rfl := Except.ok.inj h
    exact ⟨[], (List.append_nil _).symm, .nil _ (afterTrivia?_of_skipTrivia hskip)⟩
  | case3 => cases h
  | case4 acc pos cs start c rest _ hskip token stop rest' _ hscan ih =>
    obtain ⟨us, rfl, hlexes⟩ := ih h
    have hafter : afterTrivia? cs = some (c :: rest) := afterTrivia?_of_skipTrivia hskip
    obtain ⟨gap, hcs, hseparates⟩ := exists_separates hafter (List.cons_ne_nil c rest)
    obtain ⟨gap', hgap⟩ := spells_skipTrivia hskip
    obtain rfl : gap = gap' := List.append_cancel_right (hcs.symm.trans hgap.text)
    obtain ⟨w, hw⟩ := spells_scanToken hscan
    obtain rfl : rest = w ++ rest' := (List.cons.inj hw.text).2
    have hstart : start = pos + byteLength gap := hgap.stop
    have hstop : stop = pos + byteLength (gap ++ c :: w) := by
      rw [show stop = _ from hw.stop, hstart, byteLength_append, Nat.add_assoc]
    have houtcome : outcome (scanToken start c (w ++ rest')) = some (token, rest') := by
      rw [hscan]
      rfl
    have hread : Reads c w token rest' := reads_of_outcome (atToken_afterTrivia? hafter) houtcome
    rw [hstop] at hlexes
    rw [hcs, hstart, hstop, List.reverse_cons, List.append_assoc]
    exact ⟨_, rfl, .cons gap hseparates hread hlexes⟩

/-- Trivia is skipped. -/
theorem skipTrivia_of_separates (h : Separates gap) (hat : AtToken rest) (pos : Nat) :
    ∃ hle, skipTrivia pos (gap ++ rest) = .ok ⟨pos + byteLength gap, rest, hle⟩ := by
  obtain ⟨⟨start, rest', hle⟩, hskip, hrest⟩ :
      ∃ l, skipTrivia pos (gap ++ rest) = .ok l ∧ l.rest = rest := exists_of_skipTrivia (h rest hat)
  obtain rfl : rest' = rest := hrest
  obtain ⟨gap', hgap⟩ := spells_skipTrivia hskip
  obtain rfl : gap = gap' := List.append_cancel_right hgap.text
  obtain rfl : start = pos + byteLength gap := hgap.stop
  exact ⟨hle, hskip⟩

theorem skipTrivia_of_atToken (hat : AtToken rest) (pos : Nat) :
    ∃ hle, skipTrivia pos rest = .ok ⟨pos, rest, hle⟩ := by
  obtain ⟨hle, hskip⟩ := skipTrivia_of_separates separates_nil hat pos
  exact ⟨hle, hskip⟩

theorem tokensFrom_skip (h : Separates gap) (hat : AtToken (c :: cs)) (acc : List (Spanned Token))
    (pos : Nat) : tokensFrom acc pos (gap ++ c :: cs) =
      tokensFrom acc (pos + byteLength gap) (c :: cs) := by
  obtain ⟨_, hskip⟩ := skipTrivia_of_separates h hat pos
  obtain ⟨_, hstart⟩ := skipTrivia_of_atToken hat (pos + byteLength gap)
  rw [tokensFrom, tokensFrom, hskip, hstart]

/-- The token at the start of a text is found. -/
theorem Reads.tokensFrom_eq (h : Reads c w token behind) (acc : List (Spanned Token)) (pos : Nat) :
    tokensFrom acc pos (c :: (w ++ behind)) =
      tokensFrom (⟨token, ⟨pos, pos + byteLength (c :: w)⟩⟩ :: acc) (pos + byteLength (c :: w))
        behind := by
  obtain ⟨_, hskip⟩ := skipTrivia_of_atToken h.atToken pos
  obtain ⟨⟨⟨token', stop⟩, rest', _⟩, hscan, htoken, hrest⟩ := exists_of_outcome (h.outcome pos)
  obtain rfl : token' = token := htoken
  obtain rfl : rest' = behind := hrest
  obtain ⟨w', hw⟩ := spells_scanToken hscan
  obtain rfl : w = w' := List.append_cancel_right (List.cons.inj hw.text).2
  obtain rfl : stop = pos + byteLength (c :: w) := hw.stop
  rw [tokensFrom, hskip]
  dsimp only
  rw [hscan]

theorem tokensFrom_cons (hseparates : Separates gap) (hread : Reads c w token behind)
    (acc : List (Spanned Token)) (pos : Nat) :
    tokensFrom acc pos (gap ++ c :: (w ++ behind)) =
      tokensFrom
        (⟨token, ⟨pos + byteLength gap, pos + byteLength (gap ++ c :: w)⟩⟩ :: acc)
        (pos + byteLength (gap ++ c :: w)) behind := by
  rw [tokensFrom_skip hseparates hread.atToken, hread.tokensFrom_eq, Nat.add_assoc,
    ← byteLength_append]

/-- The tokens that stand in a text are found. -/
theorem Lexes.tokensFrom_eq (h : Lexes pos cs ts) (acc : List (Spanned Token)) :
    tokensFrom acc pos cs = .ok (acc.reverse ++ ts) := by
  induction h generalizing acc with
  | nil pos hcs =>
    obtain ⟨⟨_, rest, _⟩, hskip, hrest⟩ : ∃ l, skipTrivia pos _ = .ok l ∧ l.rest = [] :=
      exists_of_skipTrivia hcs
    obtain rfl : rest = [] := hrest
    rw [tokensFrom, hskip, List.append_nil]
  | @cons pos gap c w behind token ts hseparates hread _ ih =>
    rw [tokensFrom_cons hseparates hread, ih, List.reverse_cons, List.append_assoc]
    rfl

/-- A token with nothing around it. -/
theorem Reads.lexes (h : Reads c w token []) (pos : Nat) :
    Lexes pos (c :: w) [⟨token, ⟨pos, pos + byteLength (c :: w)⟩⟩] := by
  have hlexes : Lexes pos (c :: (w ++ [])) [_] :=
    .cons [] separates_nil h (.nil _ afterTrivia?_nil)
  rwa [List.append_nil] at hlexes

theorem Reads.tokenize_eq (h : Reads c w token []) :
    tokenize (c :: w) = .ok [⟨token, ⟨0, byteLength (c :: w)⟩⟩] := by
  have htokens := (h.lexes 0).tokensFrom_eq []
  rwa [Nat.zero_add] at htokens

/-! ### Slices -/

theorem Lexes.drop (h : Lexes pos cs (before ++ ts)) :
    ∃ u m, cs = u ++ m ∧ Lexes (pos + byteLength u) m ts := by
  induction before generalizing pos cs with
  | nil => exact ⟨[], cs, rfl, h⟩
  | cons t before ih =>
    cases h with
    | @cons _ gap c w behind _ _ _ _ hbehind =>
      obtain ⟨u, m, rfl, hm⟩ := ih hbehind
      rw [Nat.add_assoc, ← byteLength_append] at hm
      exact ⟨(gap ++ c :: w) ++ u, m, by simp, hm⟩

/-- The trivia in front of the first token can be left out. -/
theorem Lexes.start (h : Lexes pos cs (t :: ts)) :
    ∃ u m, cs = u ++ m ∧ t.span.start = pos + byteLength u ∧
      Lexes (pos + byteLength u) m (t :: ts) := by
  cases h with
  | @cons _ gap c w behind _ _ _ hread hbehind =>
    refine ⟨gap, _, rfl, rfl, ?_⟩
    rw [byteLength_append, ← Nat.add_assoc] at hbehind ⊢
    exact .cons [] separates_nil hread hbehind

/-- A text can be cut short behind any of its tokens. -/
theorem Lexes.cut (h : Lexes pos cs (ts ++ after)) (hne : ts ≠ []) :
    ∃ m v, cs = m ++ v ∧ Lexes pos m ts ∧
      (∃ before t, ts = before ++ [t] ∧ t.span.stop = pos + byteLength m) ∧
      (m = ['.'] → v.head?.any isAsciiDigit = false) := by
  induction ts generalizing pos cs with
  | nil => exact absurd rfl hne
  | cons t ts ih =>
    cases h with
    | @cons _ gap c w behind token _ hseparates hread hbehind =>
      cases ts with
      | nil =>
        refine ⟨gap ++ c :: w, behind, by simp, ?_, ⟨[], _, rfl, rfl⟩, fun hpoint => ?_⟩
        · have hcut := Reads.cut (y := []) hread nofun
          have hlast : Lexes pos (gap ++ c :: (w ++ [])) [_] :=
            .cons gap hseparates hcut (.nil _ afterTrivia?_nil)
          rwa [List.append_nil] at hlast
        · -- the text of the token is the point alone
          obtain ⟨rfl, hcons⟩ | ⟨-, hcons⟩ := List.append_eq_singleton_iff.1 hpoint
          · obtain ⟨rfl, rfl⟩ := List.cons.inj hcons
            exact hread.point
          · cases hcons
      | cons t' ts =>
        obtain ⟨m, v, rfl, hm, ⟨front, last, hlast, hstop⟩, hpoint⟩ :=
          ih hbehind (List.cons_ne_nil t' ts)
        refine ⟨gap ++ c :: (w ++ m), v, by simp, .cons gap hseparates (hread.cut hpoint) hm,
          ⟨_ :: front, last, by rw [hlast]; rfl, ?_⟩, fun hdot => ?_⟩
        · rw [hstop, Nat.add_assoc, ← byteLength_append, List.append_assoc, List.cons_append]
        · -- there is a token in what is left, so it is not empty
          have hm : m ≠ [] := by
            rintro rfl
            generalize hnil : ([] : List Char) = m at hm
            cases hm
            simp at hnil
          have hlength := congrArg List.length hdot
          have hpos := List.length_pos_iff.2 hm
          simp only [List.length_append, List.length_cons, List.length_nil] at hlength
          omega

/-- The tokens of a text that stands further back are the same, further back. -/
theorem Lexes.shift (h : Lexes (pos + n) cs ts) :
    ∃ us, Lexes pos cs us ∧ ts = us.map (·.shift n) := by
  generalize hp : pos + n = p at h
  induction h generalizing pos with
  | nil p hcs => exact ⟨[], .nil _ hcs, rfl⟩
  | @cons p gap c w behind token ts hseparates hread _ ih =>
    subst hp
    obtain ⟨us, hus, rfl⟩ := ih (Nat.add_right_comm pos (byteLength (gap ++ c :: w)) n)
    refine ⟨_, .cons gap hseparates hread hus, ?_⟩
    rw [List.map_cons, Nat.add_right_comm, Nat.add_right_comm pos n]
    rfl

end Lexer

/-! ### Texts -/

open Lexer

variable {text : List Char} {ts before seg after : List (Spanned Token)}

theorem lexes_tokenize (h : tokenize text = .ok ts) : Lexes 0 text ts := by
  obtain ⟨us, rfl, hlexes⟩ := lexes_tokensFrom h
  exact hlexes

/-- Tokens that follow one another are those of the part of the text that goes from the start of the
first one to the end of the last one. -/
theorem tokenize_slice (h : tokenize text = .ok (before ++ (seg ++ after))) (hne : seg ≠ []) :
    ∃ u m v us, text = u ++ (m ++ v) ∧ tokenize m = .ok us ∧
      seg = us.map (·.shift (byteLength u)) ∧
      (∃ t more, seg = t :: more ∧ t.span.start = byteLength u) ∧
      (∃ front t, seg = front ++ [t] ∧ t.span.stop = byteLength u + byteLength m) := by
  obtain ⟨u, rest, rfl, hrest⟩ := (lexes_tokenize h).drop
  cases seg with
  | nil => exact absurd rfl hne
  | cons t seg =>
    obtain ⟨gap, rest, rfl, hstart, hrest⟩ := hrest.start
    obtain ⟨m, v, rfl, hm, hlast, -⟩ := hrest.cut hne
    rw [Nat.zero_add, ← byteLength_append] at hstart hm hlast
    have hshifted : Lexes (0 + byteLength (u ++ gap)) m (t :: seg) := by rwa [Nat.zero_add]
    obtain ⟨us, hus, hshift⟩ := hshifted.shift
    refine ⟨u ++ gap, m, v, us, by simp, ?_, hshift, ⟨t, seg, rfl, hstart⟩, hlast⟩
    exact hus.tokensFrom_eq []

/-- Tokens one behind another, each of which is at least one byte long. -/
structure Token.Apart (ts : List (Spanned Token)) : Prop where
  lt : ∀ t ∈ ts, t.span.start < t.span.stop
  le : ts.Pairwise fun t u => t.span.stop ≤ u.span.start

theorem Lexer.Lexes.apart {pos : Nat} (h : Lexes pos text ts) :
    Token.Apart ts ∧ ∀ t ∈ ts, pos ≤ t.span.start := by
  induction h with
  | nil => exact ⟨⟨nofun, .nil⟩, nofun⟩
  | @cons pos gap c w behind token ts _ _ _ ih =>
    obtain ⟨hapart, hle⟩ := ih
    have hlt : byteLength gap < byteLength (gap ++ c :: w) := by
      rw [byteLength_append]
      exact Nat.lt_add_of_pos_right (byteLength_pos (List.cons_ne_nil c w))
    refine ⟨⟨List.forall_mem_cons.2 ⟨Nat.add_lt_add_left hlt pos, hapart.lt⟩,
      List.pairwise_cons.2 ⟨hle, hapart.le⟩⟩, List.forall_mem_cons.2 ⟨Nat.le_add_right _ _, ?_⟩⟩
    intro t ht
    exact Nat.le_trans (Nat.le_add_right _ _) (hle t ht)

/-- The tokens of a text do not overlap. -/
theorem apart_tokenize (h : tokenize text = .ok ts) : Token.Apart ts := (lexes_tokenize h).apart.1

end TemplateExpr
