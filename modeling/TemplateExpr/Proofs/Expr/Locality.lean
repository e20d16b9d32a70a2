import TemplateExpr.Proofs.Expr.Grammar

/-!
# What the parser reads does not depend on what follows

A reader decides where to stop by the tokens that follow. If these are cut off, all of them or some
at the end, it reads the same and stops at the same place (`Tracks`); more levels of nesting make no
difference either (`tracks_exprAt`). What must not follow is not there when less follows.
-/

namespace TemplateExpr.Parser

open TemplateExpr.Text

/-! ### Cutting tokens off -/

/-- The tokens `x` are those of `y` up to `rest`, in place of which `us` is left. -/
def Cut (us rest x y : Tokens) : Prop := ∃ w, x = w ++ us ∧ y = w ++ rest

variable {us rest x y z : Tokens} {t : Spanned Token}

theorem cut_cons (h : Cut us rest x (t :: y)) (hle : rest.length ≤ y.length) :
    ∃ x', x = t :: x' ∧ Cut us rest x' y := by
  obtain ⟨w, rfl, hy⟩ := h
  cases w with
  | nil =>
    -- the token stands in front of what is cut off
    have hlength : (t :: y).length = rest.length := congrArg List.length hy
    rw [List.length_cons] at hlength
    omega
  | cons u w =>
    obtain ⟨rfl, rfl⟩ := List.cons.inj hy
    exact ⟨w ++ us, rfl, w, rfl, rfl⟩

theorem eq_of_cut (h : Cut us rest x rest) : x = us := by
  obtain ⟨w, rfl, hrest⟩ := h
  rw [List.self_eq_append_left.1 hrest, List.nil_append]

theorem Cut.isPrefix (h : Cut us rest x y) (hus : us <+: rest) : x <+: y := by
  obtain ⟨w, rfl, rfl⟩ := h
  exact (List.prefix_append_right_inj w).2 hus

theorem exists_of_isPrefix (h : t :: x <+: y) : ∃ y', y = t :: y' := by
  obtain ⟨more, rfl⟩ := h
  exact ⟨x ++ more, rfl⟩

/-! ### What must not follow -/

section

variable (h : x <+: y)

include h

theorem NotAt.of_isPrefix {s : Symbol} (hy : NotAt s y) : NotAt s x := by
  rintro sp more rfl
  obtain ⟨more', rfl⟩ := exists_of_isPrefix h
  exact hy _ _ rfl

theorem NoArrow.of_isPrefix (hy : NoArrow y) : NoArrow x := NotAt.of_isPrefix h hy

theorem NoBlock.of_isPrefix (hy : NoBlock y) : NoBlock x := by
  rintro sp sp' more rfl
  obtain ⟨more', rfl⟩ := h
  exact hy _ _ _ rfl

theorem Unaccessed.of_isPrefix (hy : Unaccessed y) : Unaccessed x := by
  rintro s sp more hs rfl
  obtain ⟨more', rfl⟩ := exists_of_isPrefix h
  exact hy _ _ _ hs rfl

theorem Settled.of_isPrefix {min : Level} (hy : Settled min y) : Settled min x := by
  rintro s sp more rfl
  obtain ⟨more', rfl⟩ := exists_of_isPrefix h
  exact hy _ _ _ rfl

end

/-- The parameters of a function are found whatever follows the arrow. -/
theorem exists_arrowParams? {acc : List String} {ts : Tokens} {l : Left (List String) ts}
    (h : arrowParams? acc ts = some l) :
    ∃ w, ts = w ++ l.rest ∧ ∀ us x, x = w ++ us →
      ∃ hle, arrowParams? acc x = some ⟨l.value, us, hle⟩ := by
  fun_induction arrowParams? acc ts with
  | case1 acc p sp sp' rest ih =>
    obtain ⟨l', hl', h⟩ := Option.bind_eq_some_iff.1 h
    obtain ⟨w, hw, hread⟩ := ih hl'
    split at h
    · next q sp'' more l' _ =>
      obtain rfl := Option.some.inj h
      cases w with
      | nil =>
        -- nothing is found where nothing is left
        obtain ⟨hle, hnil⟩ := hread [] [] rfl
        cases hnil
      | cons u w =>
        obtain ⟨rfl, -⟩ := List.cons.inj hw
        refine ⟨⟨.name p, sp⟩ :: ⟨.symbol .comma, sp'⟩ :: ⟨.name q, sp''⟩ :: w, ?_, ?_⟩
        · exact congrArg (fun ts => ⟨.name p, sp⟩ :: ⟨.symbol .comma, sp'⟩ :: ts) hw
        · rintro us _ rfl
          obtain ⟨hle, hread⟩ := hread us _ rfl
          have hread : arrowParams? (p :: acc) (⟨.name q, sp''⟩ :: (w ++ us)) =
              some ⟨l'.value, us, hle⟩ := hread
          refine ⟨Nat.le_succ_of_le (Nat.le_succ_of_le hle), ?_⟩
          show arrowParams? acc (⟨.name p, sp⟩ :: ⟨.symbol .comma, sp'⟩ ::
            (⟨.name q, sp''⟩ :: (w ++ us))) = _
          rw [arrowParams?, hread]
          rfl
    · cases h
  | case2 acc p sp sp' sp'' rest =>
    obtain rfl := Option.some.inj h
    refine ⟨[⟨.name p, sp⟩, ⟨.symbol .closeParen, sp'⟩, ⟨.symbol .arrow, sp''⟩], rfl, ?_⟩
    rintro us _ rfl
    exact ⟨Nat.le_add_right us.length 3, rfl⟩
  | case3 acc sp sp' rest =>
    obtain rfl := Option.some.inj h
    refine ⟨[⟨.symbol .closeParen, sp⟩, ⟨.symbol .arrow, sp'⟩], rfl, ?_⟩
    rintro us _ rfl
    exact ⟨Nat.le_add_right us.length 2, rfl⟩
  | case4 ts acc hcomma hname hempty => cases h

theorem arrowParams?_of_isPrefix {acc : List String} (h : x <+: y)
    (hy : arrowParams? acc y = none) : arrowParams? acc x = none := by
  cases hx : arrowParams? acc x with
  | none => rfl
  | some l =>
    obtain ⟨w, hw, hread⟩ := exists_arrowParams? hx
    obtain ⟨more, rfl⟩ := h
    have hsplit : x ++ more = w ++ (l.rest ++ more) := by rw [← List.append_assoc, ← hw]
    obtain ⟨hle, hread⟩ := hread _ _ hsplit
    rw [hy] at hread
    cases hread

theorem cut_arrowParams? {l : Left (List String) y} (h : Cut us rest x y)
    (hy : arrowParams? [] y = some l) (hle : rest.length ≤ l.rest.length) :
    ∃ l' : Left (List String) x, arrowParams? [] x = some l' ∧ l'.value = l.value ∧
      Cut us rest l'.rest l.rest := by
  obtain ⟨w, hw, hread⟩ := exists_arrowParams? hy
  obtain ⟨w', rfl, rfl⟩ := h
  -- what is cut off stands behind the arrow
  obtain ⟨more, rfl, hmore⟩ : ∃ more, w' = w ++ more ∧ l.rest = more ++ rest := by
    rcases List.append_eq_append_iff.1 hw with ⟨more, rfl, hmore⟩ | ⟨more, rfl, hmore⟩
    · have hlength := congrArg List.length hmore
      rw [List.length_append] at hlength
      obtain rfl : more = [] := List.length_eq_zero_iff.1 (by omega)
      exact ⟨[], by simp, by simpa using hmore.symm⟩
    · exact ⟨more, rfl, hmore⟩
  obtain ⟨hle', hread⟩ := hread (more ++ us) _ (List.append_assoc w more us)
  exact ⟨_, hread, rfl, more, rfl, hmore⟩

/-! ### Readers -/

/-- What the reader leaves is the end of the tokens. -/
def LeavesEnd (r : Reader) : Prop := ∀ ⦃y z b⦄, Gets r y b z → z <:+ y

/-- Off the tokens that are cut, `r'` reads what `r` reads off all tokens, if nothing of it is cut
off. -/
structure Tracks (us rest : Tokens) (r r' : Reader) : Prop where
  leavesEnd : LeavesEnd r
  read : ∀ ⦃x y z b⦄, Cut us rest x y → Gets r y b z → rest.length ≤ z.length →
    ∃ xs, Cut us rest xs z ∧ Gets r' x b xs

/-- Nothing is cut off in front of tokens where nothing is cut off in front of their end. -/
theorem le_of_suffix (h : z <:+ y) (hle : rest.length ≤ z.length) : rest.length ≤ y.length :=
  Nat.le_trans hle h.length_le

theorem Tracks.le {r r' : Reader} (h : Tracks us rest r r') {b : Built} (hget : Gets r y b z)
    (hle : rest.length ≤ z.length) : rest.length ≤ y.length :=
  le_of_suffix (h.leavesEnd hget) hle

theorem suffix_of_cons (h : t :: z <:+ y) : z <:+ y := (List.suffix_cons t z).trans h

variable {b l : Built} {sub sub' : Level → Reader} {inner inner' : Reader} {min min' : Level}

theorem Operation.suffix (hsub : ∀ level, LeavesEnd (sub level)) (h : Operation sub min l y b z) :
    z <:+ y := by
  cases h with
  | conditional _ hc ha _ =>
    have hbranches := (hsub _ ha).trans (suffix_of_cons (hsub _ hc))
    exact hbranches.trans (List.suffix_cons _ _)
  | assign _ hv _ => exact (hsub _ hv).trans (List.suffix_cons _ _)
  | binary _ _ hr _ => exact (hsub _ hr).trans (List.suffix_cons _ _)

theorem Operation.tracks (hsub : ∀ level, Tracks us rest (sub level) (sub' level))
    (hmin : min' ≤ min) (hcut : Cut us rest x y) (h : Operation sub min l y b z)
    (hle : rest.length ≤ z.length) :
    ∃ xs, Cut us rest xs z ∧ Operation sub' min' l x b xs := by
  cases h with
  | conditional hlevel hc ha hheight =>
    have hlea := (hsub _).le ha hle
    have hlec := (hsub _).le hc (Nat.le_succ_of_le hlea)
    obtain ⟨x, rfl, hx⟩ := cut_cons hcut hlec
    obtain ⟨xs, hxs, hc⟩ := (hsub _).read hx hc (Nat.le_succ_of_le hlea)
    obtain ⟨xs, rfl, hmid⟩ := cut_cons hxs hlea
    obtain ⟨xs, hxs, ha⟩ := (hsub _).read hmid ha hle
    exact ⟨xs, hxs, .conditional (Nat.le_trans hmin hlevel) hc ha hheight⟩
  | assign hlevel hv hheight =>
    obtain ⟨x, rfl, hx⟩ := cut_cons hcut ((hsub _).le hv hle)
    obtain ⟨xs, hxs, hv⟩ := (hsub _).read hx hv hle
    exact ⟨xs, hxs, .assign (Nat.le_trans hmin hlevel) hv hheight⟩
  | binary hop hlevel hr hheight =>
    obtain ⟨x, rfl, hx⟩ := cut_cons hcut ((hsub _).le hr hle)
    obtain ⟨xs, hxs, hr⟩ := (hsub _).read hx hr hle
    exact ⟨xs, hxs, .binary hop (Nat.le_trans hmin hlevel) hr hheight⟩

theorem Items.suffix (hsub : LeavesEnd inner) {close : Symbol} {es : List Expr} {height : Nat}
    {sp : Span} (h : Items inner close y es height sp z) : z <:+ y := by
  induction h with
  | empty sp z => exact List.suffix_cons _ z
  | last _ hget => exact suffix_of_cons (hsub hget)
  | more _ hget _ ih => exact ih.trans (suffix_of_cons (hsub hget))

theorem Items.tracks (hus : us <+: rest) (hsub : Tracks us rest inner inner') {close : Symbol}
    {es : List Expr} {height : Nat} {sp : Span} (hcut : Cut us rest x y)
    (h : Items inner close y es height sp z) (hle : rest.length ≤ z.length) :
    ∃ xs, Cut us rest xs z ∧ Items inner' close x es height sp xs := by
  induction h generalizing x with
  | empty sp z =>
    obtain ⟨xs, rfl, hxs⟩ := cut_cons hcut hle
    exact ⟨xs, hxs, .empty sp xs⟩
  | last hnot hget =>
    obtain ⟨xs, hxs, hread⟩ := hsub.read hcut hget (Nat.le_succ_of_le hle)
    obtain ⟨xs, rfl, hend⟩ := cut_cons hxs hle
    exact ⟨xs, hend, .last (hnot.of_isPrefix (hcut.isPrefix hus)) hread⟩
  | more hnot hget hitems ih =>
    have hlei := le_of_suffix (hitems.suffix hsub.leavesEnd) hle
    obtain ⟨xs, hxs, hread⟩ := hsub.read hcut hget (Nat.le_succ_of_le hlei)
    obtain ⟨xs, rfl, hmid⟩ := cut_cons hxs hlei
    obtain ⟨xs, hend, hitems⟩ := ih hmid hle
    exact ⟨xs, hend, .more (hnot.of_isPrefix (hcut.isPrefix hus)) hread hitems⟩

theorem Access.suffix (hsub : LeavesEnd inner) (h : Access inner l y b z) : z <:+ y := by
  cases h with
  | member _ _ _ => exact suffix_of_cons (List.suffix_cons _ _)
  | index _ hkey _ =>
    exact (suffix_of_cons (hsub hkey)).trans (suffix_of_cons (List.suffix_append _ _))
  | call _ hitems _ =>
    exact (hitems.suffix hsub).trans (suffix_of_cons (List.suffix_append _ _))

/-- The mark of an access and the symbol behind it are not cut off. -/
theorem Mark.cut {optional : Bool} {mark : Tokens} (h : Mark optional mark)
    (hcut : Cut us rest x (mark ++ t :: y)) (hle : rest.length ≤ y.length) :
    ∃ x', x = mark ++ t :: x' ∧ Cut us rest x' y := by
  cases h with
  | plain => exact cut_cons hcut hle
  | optional sp =>
    obtain ⟨x', rfl, hx'⟩ := cut_cons hcut (Nat.le_succ_of_le hle)
    obtain ⟨x, rfl, hx⟩ := cut_cons hx' hle
    exact ⟨x, rfl, hx⟩

theorem Access.tracks (hus : us <+: rest) (hsub : Tracks us rest inner inner')
    (hcut : Cut us rest x y) (h : Access inner l y b z) (hle : rest.length ≤ z.length) :
    ∃ xs, Cut us rest xs z ∧ Access inner' l x b xs := by
  cases h with
  | member optional hname hheight =>
    obtain ⟨x, rfl, hx⟩ := cut_cons hcut (Nat.le_succ_of_le hle)
    obtain ⟨xs, rfl, hxs⟩ := cut_cons hx hle
    exact ⟨xs, hxs, .member optional hname hheight⟩
  | index hmark hkey hheight =>
    obtain ⟨x, rfl, hx⟩ := hmark.cut hcut (hsub.le hkey (Nat.le_succ_of_le hle))
    obtain ⟨xs, hxs, hread⟩ := hsub.read hx hkey (Nat.le_succ_of_le hle)
    obtain ⟨xs, rfl, hend⟩ := cut_cons hxs hle
    exact ⟨xs, hend, .index hmark hread hheight⟩
  | call hmark hitems hheight =>
    obtain ⟨x, rfl, hx⟩ := hmark.cut hcut (le_of_suffix (hitems.suffix hsub.leavesEnd) hle)
    obtain ⟨xs, hend, hitems⟩ := hitems.tracks hus hsub hx hle
    exact ⟨xs, hend, .call hmark hitems hheight⟩

theorem loop_suffix {step : Built → Tokens → Built → Tokens → Prop} (h : Loop step (l, y) (b, z))
    (hstep : ∀ {l y b z}, step l y b z → z <:+ y) : z <:+ y := by
  generalize hq : (b, z) = q at h
  induction h generalizing b z with
  | refl =>
    cases hq
    exact List.suffix_refl y
  | tail _ hlast ih =>
    cases hq
    exact (hstep hlast).trans (ih rfl)

/-- What each step of a loop reads, the loop reads. -/
theorem tracks_loop {step step' : Built → Tokens → Built → Tokens → Prop}
    (h : Loop step (l, y) (b, z)) (hsuffix : ∀ {l y b z}, step l y b z → z <:+ y)
    (hstep : ∀ {l x y b z}, Cut us rest x y → step l y b z → rest.length ≤ z.length →
      ∃ xs, Cut us rest xs z ∧ step' l x b xs)
    (hcut : Cut us rest x y) (hle : rest.length ≤ z.length) :
    ∃ xs, Cut us rest xs z ∧ Loop step' (l, x) (b, xs) := by
  generalize hq : (b, z) = q at h
  induction h generalizing b z with
  | refl =>
    cases hq
    exact ⟨x, hcut, .refl⟩
  | tail hloop hlast ih =>
    cases hq
    obtain ⟨xs, hxs, hloop⟩ := ih (le_of_suffix (hsuffix hlast) hle) rfl
    obtain ⟨ys, hys, hlast⟩ := hstep hxs hlast hle
    exact ⟨ys, hys, hloop.tail (c := (b, ys)) hlast⟩

theorem Body.suffix (hsub : LeavesEnd inner) {params : List String} {start : Nat}
    (h : Body inner params start y b z) : z <:+ y := by
  obtain ⟨-, hget, -⟩ := h
  exact hsub hget

theorem Body.tracks (hus : us <+: rest) (hsub : Tracks us rest inner inner') {params : List String}
    {start : Nat} (hcut : Cut us rest x y) (h : Body inner params start y b z)
    (hle : rest.length ≤ z.length) :
    ∃ xs, Cut us rest xs z ∧ Body inner' params start x b xs := by
  obtain ⟨hnot, hget, hheight⟩ := h
  obtain ⟨xs, hxs, hget⟩ := hsub.read hcut hget hle
  exact ⟨xs, hxs, .mk (hnot.of_isPrefix (hcut.isPrefix hus)) hget hheight⟩

theorem Entry.suffix (hsub : LeavesEnd inner) {key : String} (h : Entry inner y key b z) :
    z <:+ y := by
  cases h with
  | written _ hget => exact (hsub hget).trans (suffix_of_cons (List.suffix_cons _ _))
  | short _ _ => exact List.suffix_cons _ _

/-- An entry is read up to the symbol behind it. -/
theorem Entry.tracks (hsub : Tracks us rest inner inner') {key : String} (hcut : Cut us rest x y)
    (h : Entry inner y key b (t :: z)) (hle : rest.length ≤ z.length) :
    ∃ xs, Cut us rest xs z ∧ Entry inner' x key b (t :: xs) := by
  cases h with
  | written hkey hget =>
    have hlev := hsub.le hget (Nat.le_succ_of_le hle)
    obtain ⟨x', rfl, hx'⟩ := cut_cons hcut (Nat.le_succ_of_le hlev)
    obtain ⟨x, rfl, hx⟩ := cut_cons hx' hlev
    obtain ⟨xs, hxs, hread⟩ := hsub.read hx hget (Nat.le_succ_of_le hle)
    obtain ⟨xs, rfl, hend⟩ := cut_cons hxs hle
    exact ⟨xs, hend, .written hkey hread⟩
  | short _ hs =>
    obtain ⟨x, rfl, hx⟩ := cut_cons hcut (Nat.le_succ_of_le hle)
    obtain ⟨xs, rfl, hend⟩ := cut_cons hx hle
    exact ⟨xs, hend, .short xs hs⟩

theorem Entries.suffix (hsub : LeavesEnd inner) {es : List (String × Expr)} {height : Nat}
    {sp : Span} (h : Entries inner y es height sp z) : z <:+ y := by
  induction h with
  | empty sp z => exact List.suffix_cons _ z
  | last hentry => exact suffix_of_cons (hentry.suffix hsub)
  | more hentry _ ih => exact ih.trans (suffix_of_cons (hentry.suffix hsub))

theorem Entries.tracks (hsub : Tracks us rest inner inner') {es : List (String × Expr)}
    {height : Nat} {sp : Span} (hcut : Cut us rest x y) (h : Entries inner y es height sp z)
    (hle : rest.length ≤ z.length) :
    ∃ xs, Cut us rest xs z ∧ Entries inner' x es height sp xs := by
  induction h generalizing x with
  | empty sp z =>
    obtain ⟨xs, rfl, hxs⟩ := cut_cons hcut hle
    exact ⟨xs, hxs, .empty sp xs⟩
  | last hentry =>
    obtain ⟨xs, hxs, hentry⟩ := hentry.tracks hsub hcut hle
    exact ⟨xs, hxs, .last hentry⟩
  | more hentry hentries ih =>
    obtain ⟨xs, hmid, hentry⟩ := hentry.tracks hsub hcut (le_of_suffix (hentries.suffix hsub.leavesEnd) hle)
    obtain ⟨xs, hxs, hentries⟩ := ih hmid hle
    exact ⟨xs, hxs, .more hentry hentries⟩

theorem Operand.suffix (hsub : LeavesEnd inner) (h : Operand inner y b z) : z <:+ y := by
  cases h with
  | number _ _ _ => exact List.suffix_cons _ _
  | string _ _ _ => exact List.suffix_cons _ _
  | name _ _ => exact List.suffix_cons _ _
  | function hbody => exact (hbody.suffix hsub).trans (suffix_of_cons (List.suffix_cons _ _))
  | functionOf hparams hbody =>
    have hskips := (skips_arrowParams? hparams).suffix
    exact ((hbody.suffix hsub).trans hskips).trans (List.suffix_cons _ _)
  | group _ hget => exact (suffix_of_cons (hsub hget)).trans (List.suffix_cons _ _)
  | array hitems _ => exact (hitems.suffix hsub).trans (List.suffix_cons _ _)
  | object hentries _ => exact (hentries.suffix hsub).trans (List.suffix_cons _ _)

theorem Operand.tracks (hus : us <+: rest) (hsub : Tracks us rest inner inner')
    (hcut : Cut us rest x y) (h : Operand inner y b z) (hle : rest.length ≤ z.length) :
    ∃ xs, Cut us rest xs z ∧ Operand inner' x b xs := by
  cases h with
  | number n sp z =>
    obtain ⟨xs, rfl, hxs⟩ := cut_cons hcut hle
    exact ⟨xs, hxs, .number n sp xs⟩
  | string s sp z =>
    obtain ⟨xs, rfl, hxs⟩ := cut_cons hcut hle
    exact ⟨xs, hxs, .string s sp xs⟩
  | name hnot hleaf =>
    obtain ⟨xs, rfl, hxs⟩ := cut_cons hcut hle
    exact ⟨xs, hxs, .name (hnot.of_isPrefix (hxs.isPrefix hus)) hleaf⟩
  | function hbody =>
    have hleb := le_of_suffix (hbody.suffix hsub.leavesEnd) hle
    obtain ⟨x', rfl, hx'⟩ := cut_cons hcut (Nat.le_succ_of_le hleb)
    obtain ⟨x, rfl, hx⟩ := cut_cons hx' hleb
    obtain ⟨xs, hxs, hbody⟩ := hbody.tracks hus hsub hx hle
    exact ⟨xs, hxs, .function hbody⟩
  | @functionOf sp ts z p b hparams hbody =>
    have hleb := le_of_suffix (hbody.suffix hsub.leavesEnd) hle
    obtain ⟨x, rfl, hx⟩ := cut_cons hcut (Nat.le_trans hleb p.rest_le)
    obtain ⟨p', hparams, hvalue, hx⟩ := cut_arrowParams? hx hparams hleb
    obtain ⟨xs, hxs, hbody⟩ := hbody.tracks hus hsub hx hle
    rw [← hvalue] at hbody
    exact ⟨xs, hxs, .functionOf hparams hbody⟩
  | group hparams hget =>
    obtain ⟨x, rfl, hx⟩ := cut_cons hcut (hsub.le hget (Nat.le_succ_of_le hle))
    obtain ⟨xs, hxs, hread⟩ := hsub.read hx hget (Nat.le_succ_of_le hle)
    obtain ⟨xs, rfl, hend⟩ := cut_cons hxs hle
    exact ⟨xs, hend, .group (arrowParams?_of_isPrefix (hx.isPrefix hus) hparams) hread⟩
  | array hitems hheight =>
    obtain ⟨x, rfl, hx⟩ := cut_cons hcut (le_of_suffix (hitems.suffix hsub.leavesEnd) hle)
    obtain ⟨xs, hxs, hitems⟩ := hitems.tracks hus hsub hx hle
    exact ⟨xs, hxs, .array hitems hheight⟩
  | object hentries hheight =>
    obtain ⟨x, rfl, hx⟩ := cut_cons hcut (le_of_suffix (hentries.suffix hsub.leavesEnd) hle)
    obtain ⟨xs, hxs, hentries⟩ := hentries.tracks hsub hx hle
    exact ⟨xs, hxs, .object hentries hheight⟩

/-- An operand and the accesses behind it. -/
theorem tracks_accesses (hus : us <+: rest) (hsub : Tracks us rest inner inner') {mid : Tokens}
    (hcut : Cut us rest x y) (h : Operand inner y l mid)
    (hloop : Loop (Access inner) (l, mid) (b, z)) (hle : rest.length ≤ z.length) :
    ∃ xmid xs, Cut us rest xs z ∧ Operand inner' x l xmid ∧
      Loop (Access inner') (l, xmid) (b, xs) := by
  have hlem := le_of_suffix (loop_suffix hloop (Access.suffix hsub.leavesEnd)) hle
  obtain ⟨xmid, hmid, hoperand⟩ := h.tracks hus hsub hcut hlem
  obtain ⟨xs, hxs, hloop⟩ := tracks_loop hloop (Access.suffix hsub.leavesEnd) (Access.tracks hus hsub) hmid hle
  exact ⟨xmid, xs, hxs, hoperand, hloop⟩

theorem Unary.suffix {deeper : Reader} (hdeeper : LeavesEnd deeper) (hsub : LeavesEnd inner)
    (h : Unary deeper inner y b z) : z <:+ y := by
  cases h with
  | operator _ hget _ => exact (hdeeper hget).trans (List.suffix_cons _ _)
  | operand _ hoperand hloop _ =>
    exact (loop_suffix hloop (Access.suffix hsub)).trans (hoperand.suffix hsub)

theorem tracks_unaryWith (hus : us <+: rest) {deeper deeper' : Reader} (size size' : Nat)
    (hdeeper : Tracks us rest deeper deeper') (hsub : Tracks us rest inner inner') :
    Tracks us rest (unaryWith size deeper inner) (unaryWith size' deeper' inner') where
  leavesEnd y z b hget := (gets_unaryWith.1 hget).suffix hdeeper.leavesEnd hsub.leavesEnd
  read x y z b hcut hget hle := by
    rw [gets_unaryWith] at hget
    cases hget with
    | operator hop hget hheight =>
      obtain ⟨x, rfl, hx⟩ := cut_cons hcut (hdeeper.le hget hle)
      obtain ⟨xs, hxs, hread⟩ := hdeeper.read hx hget hle
      exact ⟨xs, hxs, gets_unaryWith.2 (.operator hop hread hheight)⟩
    | operand hop hoperand hloop hstop =>
      obtain ⟨xmid, xs, hxs, hoperand, hloop⟩ := tracks_accesses hus hsub hcut hoperand hloop hle
      have hstop := hstop.of_isPrefix (hxs.isPrefix hus)
      cases x with
      | nil => cases hoperand
      | cons t x =>
        obtain ⟨y', hy⟩ := exists_of_isPrefix (hcut.isPrefix hus)
        obtain ⟨rfl, -⟩ := List.cons.inj hy
        exact ⟨xs, hxs, gets_unaryWith.2 (.operand hop hoperand hloop hstop)⟩

/-- The operations behind an operand. -/
theorem tracks_operations (hsub : ∀ level, Tracks us rest (sub level) (sub' level))
    (hmin : min' ≤ min) (hcut : Cut us rest x y) (h : Loop (Operation sub min) (l, y) (b, z))
    (hle : rest.length ≤ z.length) :
    ∃ xs, Cut us rest xs z ∧ Loop (Operation sub' min') (l, x) (b, xs) :=
  tracks_loop h (Operation.suffix fun level => (hsub level).leavesEnd)
    (Operation.tracks hsub hmin) hcut hle

theorem tracks_tooDeep (size : Nat) (r : Reader) :
    Tracks us rest (fun ts => tooDeep size ts) r where
  leavesEnd := by
    rintro y z b ⟨hlt, hget⟩
    cases hget
  read := by
    rintro x y z b - ⟨hlt, hget⟩ -
    cases hget

/-- The readers of the descent read the same where tokens are cut off, with more levels of nesting
or with as many. -/
theorem tracks_exprAt (hus : us <+: rest) (size size' : Nat) {n n' : Nat} (hn : n ≤ n') :
    (∀ min, Tracks us rest (exprAt size n min) (exprAt size' n' min)) ∧
      Tracks us rest (unaryAt size n) (unaryAt size' n') := by
  induction n generalizing n' with
  | zero =>
    have hdeep (r : Reader) : Tracks us rest (fun ts => tooDeep size ts) r := tracks_tooDeep size r
    refine ⟨fun min => hdeep _, ?_⟩
    cases n' with
    | zero => exact tracks_unaryWith hus size size' (hdeep _) (hdeep _)
    | succ n' => exact tracks_unaryWith hus size size' (hdeep _) (hdeep _)
  | succ n ih =>
    cases n' with
    | zero => cases hn
    | succ n' =>
      obtain ⟨hexpr, hunary⟩ := ih (Nat.le_of_succ_le_succ hn)
      have hall (min : Level) :
          Tracks us rest (exprAt size (n + 1) min) (exprAt size' (n' + 1) min) := by
        constructor
        · intro y z b hget
          obtain ⟨l, mid, hleft, hloop, -⟩ := gets_exprAt_succ.1 hget
          have hoperations := loop_suffix hloop (Operation.suffix fun m => (hexpr m).leavesEnd)
          exact hoperations.trans (hunary.leavesEnd hleft)
        · intro x y z b hcut hget hle
          obtain ⟨l, mid, hleft, hloop, hstop⟩ := gets_exprAt_succ.1 hget
          have hoperations := loop_suffix hloop (Operation.suffix fun m => (hexpr m).leavesEnd)
          obtain ⟨xmid, hmid, hleft⟩ := hunary.read hcut hleft (le_of_suffix hoperations hle)
          obtain ⟨xs, hxs, hloop⟩ := tracks_operations hexpr (Nat.le_refl min) hmid hloop hle
          have hstop := hstop.of_isPrefix (hxs.isPrefix hus)
          exact ⟨xs, hxs, gets_exprAt_succ.2 ⟨l, xmid, hleft, hloop, hstop⟩⟩
      exact ⟨hall, tracks_unaryWith hus size size' hunary (hall Level.assignment)⟩

end TemplateExpr.Parser
