import TemplateExpr.Proofs.Token.Extension

/-!
# Texts and what their tokens keep of them

The tokens of a text stand one behind another with nothing but blanks and comments in between
(`Token.Filled`), each is the token of what stands at its place, and what stands between two of them
may be replaced by a single space (`lossless_tokenize`). Tokens that touch in the text may also stay
together: the character that stopped the first one is still there.
-/

namespace TemplateExpr

open TemplateExpr.Text

/-! ### Blanks and comments -/

/-- Blanks and comments. A line comment ends with a line break, or with the text if `atEnd`. -/
inductive Lexer.Trivia (atEnd : Bool) : List Char → Prop
  | nil : Trivia atEnd []
  | blank {c : Char} {cs : List Char} :
    isBlank c = true → Trivia atEnd cs → Trivia atEnd (c :: cs)
  | line {w cs : List Char} :
    '\n' ∉ w → Trivia atEnd cs → Trivia atEnd ('/' :: '/' :: (w ++ '\n' :: cs))
  | lastLine {w : List Char} : atEnd = true → '\n' ∉ w → Trivia atEnd ('/' :: '/' :: w)
  /-- A block comment ends with the first mark of its end. -/
  | block {w cs : List Char} : ¬['*', '/'] <:+: w → Trivia atEnd cs →
    Trivia atEnd ('/' :: '*' :: (w ++ '*' :: '/' :: cs))

namespace Lexer

variable {c : Char} {w cs gap behind rest : List Char} {pos : Nat} {token : Token}
  {ts : List (Spanned Token)}

theorem afterLine_cases (cs : List Char) :
    ('\n' ∉ cs ∧ afterLine cs = []) ∨ ∃ w, '\n' ∉ w ∧ cs = w ++ '\n' :: afterLine cs := by
  have hsplit := List.takeWhile_append_dropWhile (p := (· != '\n')) (l := cs)
  have hnot : '\n' ∉ cs.takeWhile (· != '\n') := fun h => absurd (of_mem_takeWhile h) (by decide)
  rw [afterLine]
  cases hdrop : cs.dropWhile (· != '\n') with
  | nil =>
    rw [hdrop, List.append_nil] at hsplit
    exact .inl ⟨hsplit ▸ hnot, rfl⟩
  | cons d rest =>
    have hd : d = '\n' := by
      have hhead := List.head?_dropWhile_not (· != '\n') cs
      rw [hdrop] at hhead
      simpa using hhead
    subst hd
    rw [hdrop] at hsplit
    exact .inr ⟨_, hnot, hsplit.symm⟩

theorem exists_of_afterBlock? (h : afterBlock? cs = some rest) :
    ∃ w, ¬['*', '/'] <:+: w ∧ cs = w ++ '*' :: '/' :: rest := by
  fun_induction afterBlock? cs with
  | case1 => cases h
  | case2 cs =>
    obtain rfl := Option.some.inj h
    exact ⟨[], by simp, rfl⟩
  | case3 c cs hnot ih =>
    obtain ⟨w, hw, rfl⟩ := ih h
    refine ⟨c :: w, fun hinfix => ?_, rfl⟩
    rcases List.infix_cons_iff.1 hinfix with ⟨t, ht⟩ | hinfix
    · -- the mark at the start would have ended the comment
      obtain ⟨rfl, rfl⟩ := List.cons.inj ht
      exact hnot _ rfl rfl
    · exact hw hinfix

/-- What is skipped is trivia. -/
theorem trivia_of_afterTrivia? (h : afterTrivia? cs = some rest) :
    ∃ gap, cs = gap ++ rest ∧ Trivia rest.isEmpty gap := by
  fun_induction afterTrivia? cs with
  | case1 =>
    obtain rfl := Option.some.inj h
    exact ⟨[], rfl, .nil⟩
  | case2 cs _ ih =>
    obtain ⟨gap, hgap, htrivia⟩ := ih h
    rcases afterLine_cases cs with ⟨hnot, hnil⟩ | ⟨w, hnot, hw⟩
    · rw [hnil] at hgap
      obtain ⟨rfl, rfl⟩ := List.append_eq_nil_iff.1 hgap.symm
      exact ⟨'/' :: '/' :: cs, (List.append_nil _).symm, .lastLine rfl hnot⟩
    · refine ⟨'/' :: '/' :: (w ++ '\n' :: gap), ?_, .line hnot htrivia⟩
      rw [hgap] at hw
      simp [hw]
  | case3 => cases h
  | case4 cs rest' hblock _ ih =>
    obtain ⟨gap, rfl, htrivia⟩ := ih h
    obtain ⟨w, hnot, rfl⟩ := exists_of_afterBlock? hblock
    exact ⟨'/' :: '*' :: (w ++ '*' :: '/' :: gap), by simp, .block hnot htrivia⟩
  | case5 c cs _ _ hc ih =>
    obtain ⟨gap, rfl, htrivia⟩ := ih h
    exact ⟨c :: gap, rfl, .blank hc htrivia⟩
  | case6 c cs =>
    obtain rfl := Option.some.inj h
    exact ⟨[], rfl, .nil⟩

/-- Whatever ends in front of any token is trivia. -/
theorem Separates.trivia (h : Separates gap) : Trivia false gap := by
  have hafter := h ['a'] ⟨rfl, rfl⟩
  obtain ⟨gap', hgap', htrivia⟩ := trivia_of_afterTrivia? hafter
  rwa [List.append_cancel_right hgap']

end Lexer

/-! ### Places of tokens -/

/-- What stands at the place of a token. -/
def Spanned.slice {α : Type} (t : Spanned α) (text : List Char) : List Char :=
  betweenBytes text t.span.start t.span.stop

namespace Token

/-- In front of each token, behind byte `pos` or the token before it, and behind the last one stands
nothing but trivia. -/
def Filled (text : List Char) : Nat → List (Spanned Token) → Prop
  | pos, [] => Lexer.Trivia true (dropBytes pos text)
  | pos, t :: ts =>
    Lexer.Trivia false (betweenBytes text pos t.span.start) ∧ Filled text t.span.stop ts

/-- What stands at the places of the tokens in `text`, with a single space between two neighbours;
nothing has to stand between tokens that touch. -/
inductive Respaced (text : List Char) : List (Spanned Token) → List Char → Prop
  | nil : Respaced text [] []
  | last (t : Spanned Token) : Respaced text [t] (t.slice text)
  | space (t : Spanned Token) {u : Spanned Token} {ts : List (Spanned Token)} {cs : List Char} :
    Respaced text (u :: ts) cs → Respaced text (t :: u :: ts) (t.slice text ++ ' ' :: cs)
  | touch {t u : Spanned Token} {ts : List (Spanned Token)} {cs : List Char} :
    t.span.stop = u.span.start → Respaced text (u :: ts) cs →
    Respaced text (t :: u :: ts) (t.slice text ++ cs)

/-- A space between any two tokens. -/
theorem respaced_joinWith (text : List Char) (ts : List (Spanned Token)) :
    Respaced text ts (joinWith [' '] (ts.map (·.slice text))) := by
  induction ts with
  | nil => exact .nil
  | cons t ts ih =>
    cases ts with
    | nil =>
      rw [joinWith, List.map_singleton, List.intercalate_singleton]
      exact .last t
    | cons u ts =>
      have hspace := Respaced.space t ih
      rwa [joinWith, List.map_cons, List.map_cons, List.intercalate_cons_cons, List.append_assoc]

end Token

namespace Lexer

open TemplateExpr.Token

variable {c : Char} {w cs text front body gap behind r : List Char} {pos : Nat} {token : Token}
  {t : Spanned Token} {ts : List (Spanned Token)}

theorem slice_append (front gap : List Char) (c : Char) (w behind : List Char) (token : Token) :
    (⟨token, ⟨byteLength front + byteLength gap, byteLength front + byteLength (gap ++ c :: w)⟩⟩ :
      Spanned Token).slice (front ++ (gap ++ c :: (w ++ behind))) = c :: w := by
  rw [Spanned.slice, byteLength_append gap, ← Nat.add_assoc, ← byteLength_append,
    ← List.append_assoc]
  exact betweenBytes_append (front ++ gap) (c :: w) behind

theorem eq_nil_of_start {n : Nat} (h : n + byteLength gap = n) : gap = [] := by
  by_contra hne
  have hpos := byteLength_pos hne
  omega

theorem Lexes.filled (h : Lexes (byteLength front) body ts) :
    Filled (front ++ body) (byteLength front) ts := by
  generalize hpos : byteLength front = pos at h
  induction h generalizing front with
  | nil pos hbody =>
    subst hpos
    obtain ⟨gap, hgap, htrivia⟩ := trivia_of_afterTrivia? hbody
    rw [List.append_nil] at hgap
    rw [Filled, dropBytes_append, hgap]
    exact htrivia
  | @cons pos gap c w behind token ts hseparates _ _ ih =>
    subst hpos
    rw [Filled, betweenBytes_append]
    refine ⟨hseparates.trivia, ?_⟩
    have hbehind := ih (byteLength_append front (gap ++ c :: w))
    rw [List.append_assoc, List.append_assoc, List.cons_append] at hbehind
    exact hbehind

/-- What stands at the place of a token is what the token is read off. -/
theorem Lexes.exists_reads (h : Lexes (byteLength front) body ts) (ht : t ∈ ts) :
    ∃ c w behind, t.slice (front ++ body) = c :: w ∧ Reads c w t.value behind := by
  generalize hpos : byteLength front = pos at h
  induction h generalizing front with
  | nil => cases ht
  | @cons pos gap c w behind token ts _ hread _ ih =>
    subst hpos
    rcases List.mem_cons.1 ht with rfl | ht
    · exact ⟨c, w, behind, slice_append front gap c w behind token, hread⟩
    · have hbehind := ih ht (byteLength_append front (gap ++ c :: w))
      rwa [List.append_assoc, List.append_assoc, List.cons_append] at hbehind

/-! ### Other spacing -/

theorem Lexes.blank (hc : isBlank c = true) (h : Lexes (pos + c.utf8Size) cs ts) :
    Lexes pos (c :: cs) ts := by
  cases h with
  | nil _ hcs => exact .nil pos ((afterTrivia?_blank hc).trans hcs)
  | @cons _ gap d w behind token ts hseparates hread hbehind =>
    rw [Nat.add_assoc, ← byteLength_cons] at hbehind ⊢
    rw [Nat.add_assoc, ← byteLength_cons]
    exact .cons (c :: gap) (fun r hr => (afterTrivia?_blank hc).trans (hseparates r hr)) hread
      hbehind

/-- A token in front of the tokens of a text with other spacing. -/
theorem Reads.lexes_cons {us : List (Spanned Token)} (hread : Reads c w token behind)
    (hagrees : Agrees behind cs) (hlexes : Lexes (pos + byteLength (c :: w)) cs us)
    (hsame : SameTokens us ts) (span : Span) :
    ∃ us, Lexes pos (c :: w ++ cs) us ∧ SameTokens us (⟨token, span⟩ :: ts) :=
  ⟨_, .cons [] separates_nil (hread.replace hagrees) hlexes, congrArg (token :: ·) hsame⟩

/-- A text that starts with its first token agrees with the text of its tokens. -/
theorem agrees_of_respaced (hr : Respaced text ts cs) (htext : text = front ++ body)
    (h : Lexes (byteLength front) body ts)
    (hstart : ∀ t ∈ ts.head?, t.span.start = byteLength front) : Agrees body cs := by
  -- along the spacing; only tokens that touch hand the question on to the texts behind them, since
  -- a space or the end is something that no token goes on over
  induction hr generalizing front body with
  | nil => exact agrees_of_head body rfl
  | last t =>
    subst htext
    cases h with
    | @cons _ gap c w behind token _ _ hread _ =>
      obtain rfl := eq_nil_of_start (hstart _ rfl)
      have hagrees : Agrees (c :: (w ++ behind)) (c :: (w ++ [])) :=
        hread.agrees (agrees_of_head behind rfl)
      rw [slice_append front [] c w behind]
      rwa [List.append_nil] at hagrees
  | space t _ _ =>
    subst htext
    cases h with
    | @cons _ gap c w behind token _ _ hread _ =>
      obtain rfl := eq_nil_of_start (hstart _ rfl)
      rw [slice_append front [] c w behind]
      exact hread.agrees (agrees_of_head behind rfl)
  | touch htouch _ ih =>
    subst htext
    cases h with
    | @cons _ gap c w behind token _ _ hread hbehind =>
      obtain rfl := eq_nil_of_start (hstart _ rfl)
      rw [← byteLength_append] at hbehind
      rw [slice_append front [] c w behind]
      refine hread.agrees (ih (by simp) hbehind ?_)
      rintro _ ⟨⟩
      exact htouch.symm.trans (byteLength_append _ _).symm

/-- The tokens stand in their text with other spacing as well. -/
theorem Lexes.respaced (hr : Respaced text ts cs) (htext : text = front ++ body)
    (h : Lexes (byteLength front) body ts) (pos : Nat) :
    ∃ us, Lexes pos cs us ∧ SameTokens us ts := by
  -- along the spacing, at any place: the tokens move, and the first of them is read off the same
  -- characters because what stands behind it agrees
  induction hr generalizing front body pos with
  | nil => exact ⟨[], .nil pos afterTrivia?_nil, rfl⟩
  | last t =>
    subst htext
    cases h with
    | @cons _ gap c w behind token _ _ hread _ =>
      have hnil : Lexes (pos + byteLength (c :: w)) [] [] := .nil _ afterTrivia?_nil
      have hlast := hread.lexes_cons (agrees_of_head behind rfl) hnil rfl
      rw [List.append_nil] at hlast
      rw [slice_append front gap c w behind]
      exact hlast _
  | space t _ ih =>
    subst htext
    cases h with
    | @cons _ gap c w behind token _ _ hread hbehind =>
      rw [← byteLength_append] at hbehind
      obtain ⟨us, hlexes, hsame⟩ :=
        ih (by simp) hbehind (pos + byteLength (c :: w) + (' ' : Char).utf8Size)
      rw [slice_append front gap c w behind]
      exact hread.lexes_cons (agrees_of_head behind rfl) (hlexes.blank (by decide)) hsame _
  | @touch _ u us _ htouch hr ih =>
    subst htext
    cases h with
    | @cons _ gap c w behind token _ _ hread hbehind =>
      rw [← byteLength_append] at hbehind
      obtain ⟨us', hlexes, hsame⟩ := ih (by simp) hbehind (pos + byteLength (c :: w))
      have hstart : ∀ t ∈ (u :: us).head?,
          t.span.start = byteLength (front ++ (gap ++ c :: w)) := by
        rintro _ ⟨⟩
        exact htouch.symm.trans (byteLength_append _ _).symm
      have hagrees : Agrees behind _ := agrees_of_respaced hr (by simp) hbehind hstart
      rw [slice_append front gap c w behind]
      exact hread.lexes_cons hagrees hlexes hsame _

end Lexer

/-! ### Texts -/

open Lexer

variable {text cs : List Char} {ts : List (Spanned Token)} {t : Spanned Token}

/-- The place of a token starts and stops where a character of the text does. -/
theorem isRange_tokenize (h : tokenize text = .ok ts) (ht : t ∈ ts) : t.span.IsRange text := by
  have hends := endsIn_tokenize text
  rw [h] at hends
  exact (hends t ht).1

/-- What stands at the place of a token is that token. -/
theorem tokenize_slice_of_mem (h : tokenize text = .ok ts) (ht : t ∈ ts) :
    tokenize (t.slice text) = .ok [⟨t.value, ⟨0, t.span.stop - t.span.start⟩⟩] := by
  obtain ⟨before, after, rfl⟩ := List.append_of_mem ht
  have hseg : tokenize text = .ok (before ++ ([t] ++ after)) := h
  obtain ⟨u, m, v, us, rfl, hus, hshift, ⟨t', more, hfirst, hstart⟩, ⟨front, t'', hlast, hstop⟩⟩ :=
    tokenize_slice hseg (List.cons_ne_nil t [])
  obtain ⟨rfl, -⟩ := List.cons.inj hfirst
  obtain rfl : t = t'' := by simpa using congrArg List.getLast? hlast
  obtain ⟨⟨value, start, stop⟩, rfl, rfl⟩ := List.map_eq_singleton_iff.1 hshift.symm
  obtain rfl : start = 0 := Nat.add_eq_right.1 hstart
  have hslice : betweenBytes (u ++ (m ++ v)) (0 + byteLength u) (stop + byteLength u) = m := by
    rw [show stop + byteLength u = byteLength u + byteLength m from hstop, Nat.zero_add]
    exact betweenBytes_append u m v
  rw [Spanned.slice]
  dsimp only [Spanned.shift, Span.shift]
  rw [hslice, hus, Nat.add_sub_add_right]
  rfl

/-- The tokens of a text with other spacing. -/
theorem sameTokens_of_respaced (h : tokenize text = .ok ts) (hr : Token.Respaced text ts cs) :
    ∃ us, tokenize cs = .ok us ∧ SameTokens us ts := by
  have htext : Lexes (byteLength []) text ts := lexes_tokenize h
  obtain ⟨us, hlexes, hsame⟩ := htext.respaced hr rfl 0
  exact ⟨us, hlexes.tokensFrom_eq [], hsame⟩

/-- The places of the tokens of a text are not empty, come one behind another, and leave out nothing
but blanks and comments; each holds its token, and the tokens stay the same with a single space, or
nothing between those that touch, in place of what stands between two of them. -/
theorem lossless_tokenize (h : tokenize text = .ok ts) :
    (∀ t ∈ ts, t.span.IsRange text) ∧ Token.Apart ts ∧ Token.Filled text 0 ts ∧
      (∀ t ∈ ts, tokenize (t.slice text) = .ok [⟨t.value, ⟨0, t.span.stop - t.span.start⟩⟩]) ∧
      (∃ us, tokenize (joinWith [' '] (ts.map (·.slice text))) = .ok us ∧ SameTokens us ts) ∧
      ∀ cs, Token.Respaced text ts cs → ∃ us, tokenize cs = .ok us ∧ SameTokens us ts := by
  have htext : Lexes (byteLength []) text ts := lexes_tokenize h
  exact ⟨fun _ ht => isRange_tokenize h ht, apart_tokenize h, htext.filled,
    fun _ ht => tokenize_slice_of_mem h ht,
    sameTokens_of_respaced h (Token.respaced_joinWith text ts),
    fun _ hr => sameTokens_of_respaced h hr⟩

/-- A question mark in front of a number, a string with an escape and both kinds of comments. -/
theorem lossless_conditional : ∃ ts us,
    tokenize "a?.5:'\\x41b'/*c*/==d//e".toList = .ok ts ∧ ts.length = 7 ∧
      joinWith [' '] (ts.map (·.slice "a?.5:'\\x41b'/*c*/==d//e".toList)) =
        "a ? .5 : '\\x41b' == d".toList ∧
      tokenize "a ? .5 : '\\x41b' == d".toList = .ok us ∧ SameTokens us ts := by
  have htokens : ((tokenize "a?.5:'\\x41b'/*c*/==d//e".toList).toOption.any fun ts =>
      ts.length == 7 && joinWith [' '] (ts.map (·.slice "a?.5:'\\x41b'/*c*/==d//e".toList)) ==
        "a ? .5 : '\\x41b' == d".toList) = true := by
    decide +kernel
  cases hts : tokenize "a?.5:'\\x41b'/*c*/==d//e".toList with
  | error e =>
    rw [hts] at htokens
    cases htokens
  | ok ts =>
    rw [hts] at htokens
    obtain ⟨hlength, hjoin⟩ := Bool.and_eq_true_iff.1 (show (_ && _) = true from htokens)
    obtain ⟨us, hus, hsame⟩ := (lossless_tokenize hts).2.2.2.2.1
    rw [eq_of_beq hjoin] at hus
    exact ⟨ts, us, rfl, eq_of_beq hlength, eq_of_beq hjoin, hus, hsame⟩

end TemplateExpr
