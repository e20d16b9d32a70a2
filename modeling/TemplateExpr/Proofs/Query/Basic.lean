import TemplateExpr.Proofs.Cache.Mark
import TemplateExpr.Proofs.Partial
import TemplateExpr.Query.Basic

/-!
# Paths with the same normal form

A path is cut at points and brackets, whatever is quoted. Two paths with the same normal form are
cut at the same places, and name the same keys if no name of either holds a run of loose blanks,
which the normal form would squeeze (`ofPath_same`).
-/

namespace TemplateExpr.QueryStep

open TemplateExpr.Text TemplateExpr.Cache

variable {c : Char} {cs : List Char} {ms ms' : List Mark}

/-! ### Names of a path -/

/-- A marked text without the blanks at both ends. -/
def trimMarks (ms : List Mark) : List Mark :=
  (ms.dropWhile fun m => isBlank m.1).rdropWhile fun m => isBlank m.1

/-- Whether a selector in brackets starts with a quotation mark. -/
def startsQuoted (ms : List Mark) : Bool := ms.head?.any fun m => m.1 == '\'' || m.1 == '"'

/-- The selector in the brackets that `ms` is behind the opening of. -/
def selector (ms : List Mark) : List Mark := trimMarks (ms.takeWhile fun m => m.1 != ']')

/-- What follows the closing bracket. -/
def behindBracket (ms : List Mark) : List Mark := (ms.dropWhile fun m => m.1 != ']').drop 1

theorem length_behindBracket (ms : List Mark) : (behindBracket ms).length ≤ ms.length := by
  have := (List.dropWhile_sublist (l := ms) fun m => m.1 != ']').length_le
  simp only [behindBracket, List.length_drop]
  omega

/-- The names in a marked path behind its root: keys behind points, and quoted selectors. -/
def pathNames (ms : List Mark) : List (List Mark) :=
  match ms with
  | [] => []
  | m :: ms =>
    if m.1 = '.' then
      have := (List.dropWhile_sublist (l := ms) fun m => isKeyChar m.1).length_le
      (ms.takeWhile fun m => isKeyChar m.1) :: pathNames (ms.dropWhile fun m => isKeyChar m.1)
    else if m.1 = '[' then
      have := length_behindBracket ms
      if startsQuoted (selector ms) then selector ms :: pathNames (behindBracket ms)
      else pathNames (behindBracket ms)
    else []
termination_by ms.length
decreasing_by all_goals simp only [List.length_cons]; omega

/-- Whether the normal form of a path keeps its names: loose blanks in a name are single spaces. -/
def keepsNames (path : List Char) : Bool :=
  (pathNames (marks (trim path)).tail).all fun name => squeeze name == name

/-! ### Cutting at a character -/

theorem indexFrom?_char (c : Char) (i : Nat) (cs : List Char) :
    indexFrom? [c] i cs =
      if c ∈ cs then some (i + (cs.takeWhile (· != c)).length) else none := by
  induction cs generalizing i with
  | nil => rfl
  | cons d cs ih =>
    rw [indexFrom?]
    by_cases hd : d = c
    · subst hd
      simp
    · have hd' : ¬ c = d := fun h => hd h.symm
      rw [if_neg (by simpa using hd'), ih, List.takeWhile_cons_of_pos (by simpa using hd)]
      simp only [List.mem_cons, hd', false_or, List.length_cons]
      split
      · congr 1; omega
      · rfl

theorem cutAt?_char (c : Char) (cs : List Char) :
    cutAt? [c] cs = if cs.dropWhile (· != c) = [] then none
      else some (cs.takeWhile (· != c), (cs.dropWhile (· != c)).drop 1) := by
  have hcs := List.takeWhile_append_dropWhile (p := (· != c)) (l := cs)
  have hmem : c ∈ cs ↔ cs.dropWhile (· != c) ≠ [] := by
    rw [ne_eq, List.dropWhile_eq_nil_iff]
    simp
  rw [cutAt?, indexOf?, indexFrom?_char]
  by_cases hc : c ∈ cs
  · rw [if_pos hc, if_neg (hmem.1 hc)]
    generalize cs.takeWhile (· != c) = w at hcs ⊢
    generalize cs.dropWhile (· != c) = d at hcs ⊢
    subst hcs
    rw [Option.map_some, Nat.zero_add, List.take_left' rfl, List.length_singleton, ← List.drop_drop,
      List.drop_left' rfl]
  · rw [if_neg hc, if_pos (by_contra fun h => hc (hmem.2 h))]
    rfl

theorem readAll_bracket (cs : List Char) :
    readAll ('[' :: cs) = if cs.dropWhile (· != ']') = [] then .error .unclosedBracket
      else (ofBracket (trim (cs.takeWhile (· != ']'))) >>= fun step =>
        readAll ((cs.dropWhile (· != ']')).drop 1) >>= fun steps => pure (step :: steps)) := by
  have hcut := cutAt?_char ']' cs
  rw [readAll, if_neg (by decide), if_pos rfl]
  split
  next hnone =>
    rw [hnone] at hcut
    split at hcut
    · rw [if_pos ‹_›]
    · cases hcut
  next inner rest hsome =>
    rw [hsome] at hcut
    split at hcut
    · cases hcut
    · obtain ⟨rfl, rfl⟩ := Prod.mk.inj (Option.some.inj hcut)
      rw [if_neg ‹_›]

theorem readAll_dotted (cs : List Char) :
    readAll ('.' :: cs) = if cs.head? = some '.' then .error .descent
      else (ofDotted (cs.takeWhile isKeyChar) >>= fun step =>
        readAll (cs.dropWhile isKeyChar) >>= fun steps => pure (step :: steps)) := by
  rw [readAll, if_pos rfl]

/-! ### Selectors -/

theorem map_fst_selector (ms : List Mark) :
    (selector ms).map Prod.fst = trim ((ms.map Prod.fst).takeWhile (· != ']')) := by
  have hend (ks : List Mark) : (ks.rdropWhile fun m => isBlank m.1).map Prod.fst =
      (ks.map Prod.fst).rdropWhile isBlank := by
    have hdrop := List.dropWhile_map (f := Prod.fst) (p := isBlank) (l := ks.reverse)
    rw [List.map_reverse] at hdrop
    rw [List.rdropWhile, List.rdropWhile, List.map_reverse, hdrop]
    rfl
  rw [selector, trimMarks, hend, List.takeWhile_map, trim, trimStart, List.dropWhile_map]
  rfl

theorem map_fst_behindBracket (ms : List Mark) :
    (behindBracket ms).map Prod.fst = ((ms.map Prod.fst).dropWhile (· != ']')).drop 1 := by
  rw [behindBracket, List.map_drop, List.dropWhile_map]
  rfl

theorem loose_ne (h : MarksBlanks ms) (hc : isBlank c = false) :
    ∀ m ∈ ms, m.2 = true → (m.1 != c) = true := by
  intro m hm hloose
  have hb := h m hm hloose
  rw [bne_iff_ne]
  rintro rfl
  rw [hc] at hb
  cases hb

theorem squeeze_selector (h : MarksBlanks ms) :
    squeeze (selector ms) = trimMarks ((squeeze ms).takeWhile fun m => m.1 != ']') := by
  have hblank {ks : List Mark} (hks : ks.Sublist ms) :
      ∀ m ∈ ks, m.2 = true → isBlank m.1 = true := fun m hm => h m (hks.subset hm)
  have htake := List.takeWhile_sublist (l := ms) fun m => m.1 != ']'
  rw [takeWhile_squeeze rfl (loose_ne h rfl), trimMarks, dropWhile_squeeze rfl (hblank htake),
    rdropWhile_squeeze rfl (hblank ((List.dropWhile_sublist _).trans htake))]
  rfl

theorem squeeze_behindBracket (h : MarksBlanks ms) :
    squeeze (behindBracket ms) = ((squeeze ms).dropWhile fun m => m.1 != ']').drop 1 := by
  rw [dropWhile_squeeze rfl (loose_ne h rfl), behindBracket]
  have hsub := List.dropWhile_sublist (l := ms) fun m => m.1 != ']'
  have hhead := List.head?_dropWhile_not (fun m : Mark => m.1 != ']') ms
  cases hrest : ms.dropWhile fun m => m.1 != ']' with
  | nil => rfl
  | cons k ks =>
    rw [hrest] at hsub hhead
    have hk : k.1 = ']' := by simpa using hhead
    have hkeep : k.2 = false := by
      cases hloose : k.2 with
      | false => rfl
      | true =>
        have hb := h k (hsub.subset List.mem_cons_self) hloose
        rw [hk] at hb
        cases hb
    rw [squeeze_keep hkeep]
    rfl

theorem value?_blank (h : isBlank c = true) : Digit.value? 10 c = none := by
  simp only [isBlank, Bool.or_eq_true, Bool.and_eq_true, decide_eq_true_eq, beq_iff_eq] at h
  simp only [Digit.value?]
  rw [if_neg (by omega), if_neg (by omega), if_neg (by omega)]
  rfl

theorem fold_blank (hb : isBlank c = true) (hc : c ∈ cs) (acc : Nat) :
    Digit.fold 10 acc cs = none := by
  induction cs generalizing acc with
  | nil => cases hc
  | cons d cs ih =>
    rw [Digit.fold]
    rcases List.mem_cons.1 hc with rfl | hc
    · rw [value?_blank hb]
      rfl
    · rw [Option.bind_eq_none_iff]
      exact fun v _ => ih hc _

theorem readInt?_blank (hb : isBlank c = true) (hc : c ∈ cs) : Number.readInt? 10 cs = none := by
  have hread {ds : List Char} (hds : c ∈ ds) : Digit.read? 10 ds = none := by
    rw [Digit.read?]
    split
    · rfl
    · exact fold_blank hb hds 0
  have hsign : c ∈ (Number.spanSign cs).2 := by
    unfold Number.spanSign
    split
    · rcases List.mem_cons.1 hc with rfl | hc
      · cases hb
      · exact hc
    · rcases List.mem_cons.1 hc with rfl | hc
      · cases hb
      · exact hc
    · exact hc
  unfold Number.readInt?
  cases hspan : Number.spanSign cs with
  | mk negative ds =>
    rw [hspan] at hsign
    simp only [hread hsign]
    rfl

theorem unquoted?_eq_none {mark : Char} (h : cs.head? ≠ some mark) : unquoted? mark cs = none := by
  cases cs with
  | nil => rfl
  | cons d cs =>
    have hd : ¬mark = d := fun hmark => h (by rw [hmark]; rfl)
    rw [unquoted?, stripStart?, if_neg (by simpa using hd)]
    rfl

/-- A selector with a blank that does not start with a quotation mark is rejected. -/
theorem ofBracket_blank (hb : isBlank c = true) (hc : c ∈ cs)
    (hquote : cs.head? ≠ some '\'' ∧ cs.head? ≠ some '"') :
    ofBracket cs = .error (.selector (String.ofList cs)) := by
  have hstar : cs ≠ ['*'] := by
    rintro rfl
    rw [List.mem_singleton.1 hc] at hb
    cases hb
  rw [ofBracket, if_neg hstar, unquoted?_eq_none hquote.1, unquoted?_eq_none hquote.2,
    readInt?_blank hb hc]
  rfl

/-! ### Steps -/

theorem exists_loose_of_squeeze (h : (' ', true) ∈ squeeze ms) : ∃ m ∈ ms, m.2 = true := by
  by_contra hnone
  have hkept : ∀ m ∈ ms, m.2 = false := fun m hm => by
    simpa using fun hloose => hnone ⟨m, hm, hloose⟩
  rw [squeeze_of_kept hkept] at h
  exact hnone ⟨_, h, rfl⟩

theorem mem_squeeze_of_loose (h : ∃ m ∈ ms, m.2 = true) : (' ', true) ∈ squeeze ms := by
  induction ms with
  | nil =>
    obtain ⟨m, hm, -⟩ := h
    cases hm
  | cons k ms ih =>
    cases hk : k.2 with
    | false =>
      obtain ⟨m, hm, hloose⟩ := h
      rw [squeeze_keep hk]
      rcases List.mem_cons.1 hm with rfl | hm
      · rw [hk] at hloose; cases hloose
      · exact List.mem_cons_of_mem _ (ih ⟨m, hm, hloose⟩)
    | true =>
      rw [squeeze_loose hk]
      split
      next hhead =>
        cases ms with
        | nil => cases hhead
        | cons l ms => exact ih ⟨l, List.mem_cons_self, hhead⟩
      next => exact List.mem_cons_self

/-- A marked text without loose blanks is the only one with its squeezed form. -/
theorem eq_of_squeeze_of_kept (h : squeeze ms = squeeze ms') (hms : ¬∃ m ∈ ms, m.2 = true) :
    ms = ms' := by
  have hkept {ks : List Mark} (hks : ¬∃ m ∈ ks, m.2 = true) : squeeze ks = ks :=
    squeeze_of_kept fun m hm => by simpa using fun hloose => hks ⟨m, hm, hloose⟩
  have hms' : ¬∃ m ∈ ms', m.2 = true := fun hloose =>
    hms (exists_loose_of_squeeze (h ▸ mem_squeeze_of_loose hloose))
  rw [← hkept hms, h, hkept hms']

/-- Two marked texts with the same squeezed form both start with loose blanks, or with the same kept
character. -/
theorem squeeze_cons_cases (h : squeeze ms = squeeze ms') :
    ms = [] ∧ ms' = [] ∨
      (∃ m ks m' ks', ms = m :: ks ∧ ms' = m' :: ks' ∧ m.2 = true ∧ m'.2 = true) ∨
      ∃ m ks ks', ms = m :: ks ∧ ms' = m :: ks' ∧ m.2 = false ∧ squeeze ks = squeeze ks' := by
  cases ms with
  | nil => exact Or.inl ⟨rfl, squeeze_eq_nil h.symm⟩
  | cons m ks =>
    cases ms' with
    | nil => cases squeeze_eq_nil h
    | cons m' ks' =>
      cases hm : m.2 with
      | true =>
        obtain ⟨ls, hls⟩ := exists_squeeze_loose hm ks
        cases hm' : m'.2 with
        | true => exact Or.inr (Or.inl ⟨m, ks, m', ks', rfl, rfl, hm, hm'⟩)
        | false =>
          rw [hls, squeeze_keep hm'] at h
          rw [← (List.cons.inj h).1] at hm'
          cases hm'
      | false =>
        cases hm' : m'.2 with
        | true =>
          obtain ⟨ls, hls⟩ := exists_squeeze_loose hm' ks'
          rw [hls, squeeze_keep hm] at h
          rw [(List.cons.inj h).1] at hm
          cases hm
        | false =>
          rw [squeeze_keep hm, squeeze_keep hm'] at h
          obtain ⟨rfl, hks⟩ := List.cons.inj h
          exact Or.inr (Or.inr ⟨m, ks, ks', rfl, rfl, hm, hks⟩)

/-- Every name keeps its text if a path is squeezed. -/
def KeepsNames (ms : List Mark) : Prop := ∀ name ∈ pathNames ms, squeeze name = name

theorem startsQuoted_eq (hms : MarksBlanks ms) (hms' : MarksBlanks ms')
    (h : squeeze ms = squeeze ms') : startsQuoted ms = startsQuoted ms' := by
  have hblank {m : Mark} {ks : List Mark} (hks : MarksBlanks (m :: ks)) (hm : m.2 = true) :
      startsQuoted (m :: ks) = false := by
    have hb := hks m List.mem_cons_self hm
    simp only [startsQuoted, List.head?_cons, Option.any_some, Bool.or_eq_false_iff, beq_eq_false_iff_ne]
    constructor
    · intro heq
      rw [heq] at hb
      cases hb
    · intro heq
      rw [heq] at hb
      cases hb
  rcases squeeze_cons_cases h with ⟨rfl, rfl⟩ | ⟨m, ks, m', ks', rfl, rfl, hm, hm'⟩ |
    ⟨m, ks, ks', rfl, rfl, -, -⟩
  · rfl
  · rw [hblank hms hm, hblank hms' hm']
  · rfl

theorem marksBlanks_selector (h : MarksBlanks ms) : MarksBlanks (selector ms) := by
  intro m hm
  have hm' := (List.dropWhile_sublist _).subset ((List.rdropWhile_prefix _ _).subset hm)
  exact h m ((List.takeWhile_sublist _).subset hm')

theorem ofBracket_same (hms : MarksBlanks ms) (hms' : MarksBlanks ms')
    (h : squeeze ms = squeeze ms') (hkeep : startsQuoted ms = true → squeeze ms = ms)
    (hkeep' : startsQuoted ms' = true → squeeze ms' = ms') :
    FailTogether Eq (ofBracket (ms.map Prod.fst)) (ofBracket (ms'.map Prod.fst)) := by
  have hstart := startsQuoted_eq hms hms' h
  have hreject {ks : List Mark} (hks : MarksBlanks ks) (hquote : ¬startsQuoted ks = true)
      (hloose : ∃ m ∈ ks, m.2 = true) : ∃ e, ofBracket (ks.map Prod.fst) = .error e := by
    obtain ⟨m, hm, hm'⟩ := hloose
    refine ⟨_, ofBracket_blank (hks m hm hm') (List.mem_map_of_mem hm) ?_⟩
    cases ks with
    | nil => cases hm
    | cons k ks => simpa [startsQuoted] using hquote
  by_cases hquote : startsQuoted ms = true
  · rw [← hkeep hquote, h, hkeep' (hstart ▸ hquote)]
    exact .of_eq rfl
  by_cases hloose : ∃ m ∈ ms, m.2 = true
  · obtain ⟨e, he⟩ := hreject hms hquote hloose
    obtain ⟨e', he'⟩ := hreject hms' (hstart ▸ hquote)
      (exists_loose_of_squeeze (h ▸ mem_squeeze_of_loose hloose))
    rw [he, he']
    trivial
  · rw [eq_of_squeeze_of_kept h hloose]
    exact .of_eq rfl

theorem marksBlanks_dropWhile {p : Mark → Bool} (h : MarksBlanks ms) :
    MarksBlanks (ms.dropWhile p) :=
  fun m hm => h m ((List.dropWhile_sublist p).subset hm)

theorem isKeyChar_of_loose (h : MarksBlanks ms) :
    ∀ m ∈ ms, m.2 = true → isKeyChar m.1 = true := by
  intro m hm hloose
  have hdot := loose_ne (c := '.') h rfl m hm hloose
  have hbracket := loose_ne (c := '[') h rfl m hm hloose
  rw [isKeyChar, hdot, hbracket]
  rfl

theorem head?_map_fst_iff (hc : isBlank c = false) (hms : MarksBlanks ms) (hms' : MarksBlanks ms')
    (h : squeeze ms = squeeze ms') :
    (ms.map Prod.fst).head? = some c ↔ (ms'.map Prod.fst).head? = some c := by
  rcases squeeze_cons_cases h with ⟨rfl, rfl⟩ | ⟨m, ks, m', ks', rfl, rfl, hm, hm'⟩ |
    ⟨m, ks, ks', rfl, rfl, -, -⟩
  · rfl
  · have hne := loose_ne hms hc m List.mem_cons_self hm
    have hne' := loose_ne hms' hc m' List.mem_cons_self hm'
    rw [bne_iff_ne] at hne hne'
    simp [hne, hne']
  · rfl

theorem marksBlanks_behindBracket (h : MarksBlanks ms) : MarksBlanks (behindBracket ms) :=
  fun m hm => h m ((List.dropWhile_sublist _).subset ((List.drop_sublist 1 _).subset hm))

theorem unclosed_iff (hms : MarksBlanks ms) (hms' : MarksBlanks ms') (h : squeeze ms = squeeze ms') :
    (ms.map Prod.fst).dropWhile (· != ']') = [] ↔ (ms'.map Prod.fst).dropWhile (· != ']') = [] := by
  have hdrop : squeeze (ms.dropWhile fun m => m.1 != ']') =
      squeeze (ms'.dropWhile fun m => m.1 != ']') := by
    rw [← dropWhile_squeeze rfl (loose_ne hms rfl), ← dropWhile_squeeze rfl (loose_ne hms' rfl), h]
  have hnil {ks ks' : List Mark} (h : squeeze ks = squeeze ks') (hks : ks = []) : ks' = [] := by
    subst hks
    exact squeeze_eq_nil h.symm
  rw [List.dropWhile_map, List.dropWhile_map, List.map_eq_nil_iff, List.map_eq_nil_iff]
  exact ⟨hnil hdrop, hnil hdrop.symm⟩

theorem keepsNames_dotted {m : Mark} (hm : m.1 = '.') (h : KeepsNames (m :: ms)) :
    squeeze (ms.takeWhile fun m => isKeyChar m.1) = ms.takeWhile (fun m => isKeyChar m.1) ∧
      KeepsNames (ms.dropWhile fun m => isKeyChar m.1) := by
  rw [KeepsNames, pathNames, if_pos hm] at h
  exact ⟨h _ List.mem_cons_self, fun name hname => h name (List.mem_cons_of_mem _ hname)⟩

theorem keepsNames_bracket {m : Mark} (hm : m.1 = '[') (h : KeepsNames (m :: ms)) :
    (startsQuoted (selector ms) = true → squeeze (selector ms) = selector ms) ∧
      KeepsNames (behindBracket ms) := by
  rw [KeepsNames, pathNames, if_neg (by rw [hm]; decide), if_pos hm] at h
  split at h
  next => exact ⟨fun _ => h _ List.mem_cons_self, fun name hname => h name (List.mem_cons_of_mem _ hname)⟩
  next hquote => exact ⟨fun hquote' => absurd hquote' hquote, h⟩

/-- A path does not go on with a blank. -/
theorem readAll_loose {k : Mark} {ks : List Mark} (hks : MarksBlanks (k :: ks))
    (hk : k.2 = true) : ∃ e, readAll ((k :: ks).map Prod.fst) = .error e := by
  have hb := hks k List.mem_cons_self hk
  rw [List.map_cons, readAll, if_neg, if_neg]
  · exact ⟨_, rfl⟩
  · intro heq
    rw [heq] at hb
    cases hb
  · intro heq
    rw [heq] at hb
    cases hb

theorem readAll_same (hms : MarksBlanks ms) (hms' : MarksBlanks ms')
    (h : squeeze ms = squeeze ms') (hkeep : KeepsNames ms) (hkeep' : KeepsNames ms') :
    FailTogether Eq (readAll (ms.map Prod.fst)) (readAll (ms'.map Prod.fst)) := by
  induction hn : ms.length using Nat.strongRecOn generalizing ms ms' with
  | ind n ih =>
    subst hn
    rcases squeeze_cons_cases h with ⟨rfl, rfl⟩ | ⟨m, ks, m', ks', rfl, rfl, hm, hm'⟩ |
      ⟨⟨c, loose⟩, ks, ks', rfl, rfl, hm, hks⟩
    · exact .of_eq rfl
    · obtain ⟨e, he⟩ := readAll_loose hms hm
      obtain ⟨e', he'⟩ := readAll_loose hms' hm'
      rw [he, he']
      trivial
    have hblank : MarksBlanks ks := fun m hm => hms m (List.mem_cons_of_mem _ hm)
    have hblank' : MarksBlanks ks' := fun m hm => hms' m (List.mem_cons_of_mem _ hm)
    by_cases hdot : c = '.'
    · subst hdot
      obtain ⟨hname, hrest⟩ := keepsNames_dotted rfl hkeep
      obtain ⟨hname', hrest'⟩ := keepsNames_dotted rfl hkeep'
      have hsame : ks.takeWhile (fun m => isKeyChar m.1) = ks'.takeWhile fun m => isKeyChar m.1 := by
        rw [← hname, ← hname', ← takeWhile_squeeze rfl (isKeyChar_of_loose hblank),
          ← takeWhile_squeeze rfl (isKeyChar_of_loose hblank'), hks]
      have hdrop : squeeze (ks.dropWhile fun m => isKeyChar m.1) =
          squeeze (ks'.dropWhile fun m => isKeyChar m.1) := by
        rw [← dropWhile_squeeze rfl (isKeyChar_of_loose hblank),
          ← dropWhile_squeeze rfl (isKeyChar_of_loose hblank'), hks]
      have hlt : (ks.dropWhile fun m => isKeyChar m.1).length < ks.length + 1 :=
        Nat.lt_succ_of_le (List.dropWhile_sublist _).length_le
      have hnext := ih _ hlt (marksBlanks_dropWhile hblank) (marksBlanks_dropWhile hblank') hdrop
        hrest hrest' rfl
      rw [List.map_cons, List.map_cons, readAll_dotted, readAll_dotted, List.takeWhile_map,
        List.takeWhile_map, List.dropWhile_map, List.dropWhile_map]
      simp only [head?_map_fst_iff (c := '.') rfl hblank hblank' hks]
      split
      · trivial
      · refine FailTogether.bind (.of_eq (congrArg (fun n => ofDotted (n.map Prod.fst)) hsame))
          fun step _ hstep => ?_
        subst hstep
        exact hnext.bind fun steps _ hsteps => hsteps ▸ rfl
    by_cases hbracket : c = '['
    · subst hbracket
      obtain ⟨hname, hrest⟩ := keepsNames_bracket rfl hkeep
      obtain ⟨hname', hrest'⟩ := keepsNames_bracket rfl hkeep'
      have hselector : squeeze (selector ks) = squeeze (selector ks') := by
        rw [squeeze_selector hblank, squeeze_selector hblank', hks]
      have hbehind : squeeze (behindBracket ks) = squeeze (behindBracket ks') := by
        rw [squeeze_behindBracket hblank, squeeze_behindBracket hblank', hks]
      have hlt : (behindBracket ks).length < ks.length + 1 :=
        Nat.lt_succ_of_le (length_behindBracket ks)
      have hstep := ofBracket_same (marksBlanks_selector hblank) (marksBlanks_selector hblank')
        hselector hname hname'
      have hnext := ih _ hlt (marksBlanks_behindBracket hblank) (marksBlanks_behindBracket hblank')
        hbehind hrest hrest' rfl
      rw [List.map_cons, List.map_cons, readAll_bracket, readAll_bracket, ← map_fst_selector,
        ← map_fst_selector, ← map_fst_behindBracket, ← map_fst_behindBracket]
      simp only [unclosed_iff hblank hblank' hks]
      split
      · trivial
      · refine hstep.bind fun step _ hstep => ?_
        subst hstep
        exact hnext.bind fun steps _ hsteps => hsteps ▸ rfl
    · rw [List.map_cons, List.map_cons, readAll, readAll, if_neg hdot, if_neg hbracket, if_neg hdot,
        if_neg hbracket]
      trivial

theorem keepsNames_iff (path : List Char) :
    keepsNames path = true ↔ KeepsNames (marks (trim path)).tail := by
  simp only [keepsNames, KeepsNames, List.all_eq_true, beq_iff_eq]

theorem ofPath_root {path rest : List Char} (h : trim path = '$' :: rest) :
    ofPath path = readAll rest := by
  rw [ofPath, h]
  rfl

theorem ofPath_other {path : List Char} (h : (trim path).head? ≠ some '$') :
    ∃ e, ofPath path = .error e := by
  unfold ofPath
  split
  next rest hrest => exact absurd (by rw [hrest]; rfl) h
  next => exact ⟨_, rfl⟩

/-- Two paths with the same normal form that keep their names have the same steps, or both are
rejected. -/
theorem ofPath_same {x y : List Char} (h : normalize x = normalize y) (hx : keepsNames x = true)
    (hy : keepsNames y = true) : FailTogether Eq (ofPath x) (ofPath y) := by
  have hsqueeze := squeeze_marks_eq h
  have hroot := head?_map_fst_iff (c := '$') rfl (marksBlanks_marks _) (marksBlanks_marks _) hsqueeze
  rw [map_fst_marks, map_fst_marks] at hroot
  rw [keepsNames_iff] at hx hy
  by_cases hhead : (trim x).head? = some '$'
  · obtain ⟨rest, hrest⟩ := List.head?_eq_some_iff.1 hhead
    obtain ⟨rest', hrest'⟩ := List.head?_eq_some_iff.1 (hroot.1 hhead)
    rw [hrest, hrest', marks_other rfl, marks_other rfl, squeeze_keep rfl, squeeze_keep rfl]
      at hsqueeze
    rw [hrest, marks_other rfl, List.tail_cons] at hx
    rw [hrest', marks_other rfl, List.tail_cons] at hy
    have hread := readAll_same (marksBlanks_marks _) (marksBlanks_marks _) (List.cons.inj hsqueeze).2
      hx hy
    rw [map_fst_marks, map_fst_marks] at hread
    rw [ofPath_root hrest, ofPath_root hrest']
    exact hread
  · obtain ⟨e, he⟩ := ofPath_other hhead
    obtain ⟨e', he'⟩ := ofPath_other (mt hroot.2 hhead)
    rw [he, he']
    trivial

end TemplateExpr.QueryStep
