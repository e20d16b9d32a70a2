import TemplateExpr.Pattern.Machine
import TemplateExpr.Proofs.Text.Utf8

/-!
# Where matches lie

What a machine finds in a text is a range of it (`Machine.isRange_find?`). A thread starts where it
has been entered and keeps its start when it reads on, so the threads at a place have started at
boundaries in front of it, whatever the states of the machine are; a match ends at the place that
has been reached.
-/

namespace TemplateExpr

open TemplateExpr.Text

namespace Machine

variable (m : Machine) {p : Place} {step : Nat}

/-! ### Starts of threads -/

/-- The threads have started where `P` holds. -/
def Front.Starts (P : Nat → Prop) (f : Front) : Prop := ∀ t ∈ f.threads, P t.start

variable {P : Nat → Prop} {f : Front} {start : Nat}

theorem Front.starts_nil (reached : Array Nat) : Front.Starts P ⟨[], reached⟩ :=
  fun _ ht => absurd ht List.not_mem_nil

theorem Front.Starts.enter (hf : f.Starts P) (hstart : P start) (fuel : Nat) (todo : List Nat) :
    (f.enter m p step start fuel todo).Starts P := by
  fun_induction Front.enter f m p step start fuel todo with
  | case1 | case2 => exact hf
  | case3 fuel n todo threads reached h ih => exact ih hf
  | case4 fuel n todo threads reached h reached' first second hstate ih => exact ih hf
  | case5 fuel n todo threads reached h reached' a next hstate todo' ih => exact ih hf
  | case6 fuel n todo threads reached h reached' hfork hanchor ih =>
    exact ih (List.forall_mem_cons.2 ⟨hstart, hf⟩)

theorem Front.Starts.reach (hf : f.Starts P) (hstart : P start) (n : Nat) :
    (f.reach m p step start n).Starts P :=
  hf.enter m hstart _ _

/-- Threads that read a character keep their start. -/
theorem Front.Starts.advance (hf : f.Starts P) {threads : List Thread}
    (hthreads : ∀ t ∈ threads, P t.start) (c : Char) :
    (m.advance p step c threads f).Starts P := by
  unfold Machine.advance
  induction threads generalizing f with
  | nil => exact hf
  | cons t threads ih =>
    obtain ⟨ht, hrest⟩ := List.forall_mem_cons.1 hthreads
    rw [List.foldl_cons]
    refine ih ?_ hrest
    split
    · exact hf.reach m ht _
    · exact hf

/-! ### Matches -/

/-- The threads that go on are some of those there are, and a match starts where one of them has
started and ends at the place. -/
theorem cut_starts {threads : List Thread} (h : ∀ t ∈ threads, P t.start) :
    (∀ t ∈ (m.cut p threads).1, P t.start) ∧
      ∀ start stop, (m.cut p threads).2 = some (start, stop) → P start ∧ stop = p.offset := by
  induction threads with
  | nil => exact ⟨fun _ ht => absurd ht List.not_mem_nil, fun _ _ hfound => by cases hfound⟩
  | cons t threads ih =>
    obtain ⟨ht, hrest⟩ := List.forall_mem_cons.1 h
    obtain ⟨hgoing, hfound⟩ := ih hrest
    rw [cut]
    split
    · refine ⟨fun _ hmem => absurd hmem List.not_mem_nil, fun start stop heq => ?_⟩
      obtain ⟨rfl, rfl⟩ := Prod.mk.inj (Option.some.inj heq)
      exact ⟨ht, rfl⟩
    · exact ⟨List.forall_mem_cons.2 ⟨ht, hgoing⟩, hfound⟩

/-- The best match so far is a range of the text. -/
def FoundIn (text : List Char) (found : Option (Nat × Nat)) : Prop :=
  ∀ start stop, found = some (start, stop) → Span.IsRange text ⟨start, stop⟩

/-- A boundary of the text that does not lie behind byte `offset`. -/
def StartsBy (text : List Char) (offset n : Nat) : Prop :=
  isBoundary n text = true ∧ n ≤ offset

variable {text : List Char} {found : Option (Nat × Nat)}

theorem settle_starts (hf : f.Starts (StartsBy text p.offset))
    (hplace : isBoundary p.offset text = true) (hfound : FoundIn text found) :
    (∀ t ∈ (m.settle f found p step).1, StartsBy text p.offset t.start) ∧
      FoundIn text (m.settle f found p step).2.2 := by
  have hstarts :
      (if found.isNone then f.reach m p step p.offset m.start else f).Starts
        (StartsBy text p.offset) := by
    split
    · exact hf.reach m ⟨hplace, Nat.le_refl _⟩ _
    · exact hf
  obtain ⟨hgoing, hbetter⟩ := m.cut_starts (p := p) fun t ht => hstarts t (List.mem_reverse.1 ht)
  refine ⟨hgoing, fun start stop hsome => ?_⟩
  rcases Option.or_eq_some_iff.1 (Option.orElse_eq_or.symm.trans hsome) with hcut | ⟨-, hold⟩
  · obtain ⟨⟨hstart, hle⟩, rfl⟩ := hbetter start stop hcut
    exact ⟨hle, hstart, hplace⟩
  · exact hfound start stop hold

/-- The search goes from boundary to boundary. -/
theorem foundIn_searchFrom {w cs : List Char} (htext : text = w ++ cs)
    (hf : f.Starts (StartsBy text (byteLength w))) (hfound : FoundIn text found)
    (before : Option Char) (step : Nat) :
    FoundIn text (m.searchFrom f found before (byteLength w) step cs) := by
  have hplace : isBoundary (byteLength w) text = true := isBoundary_iff.2 ⟨w, cs, htext, rfl⟩
  induction cs generalizing w f found before step with
  | nil => exact (m.settle_starts (p := ⟨before, [], byteLength w⟩) hf hplace hfound).2
  | cons c cs ih =>
    rw [searchFrom]
    obtain ⟨hthreads, hbest⟩ :=
      m.settle_starts (p := ⟨before, c :: cs, byteLength w⟩) hf hplace hfound
    dsimp only [Place.next]
    split
    · exact hbest
    · have hnext : byteLength w + c.utf8Size = byteLength (w ++ [c]) := by
        rw [byteLength_append, byteLength_cons, byteLength_nil, Nat.add_zero]
      have hsplit : text = (w ++ [c]) ++ cs := by rw [htext, List.append_assoc]; rfl
      rw [hnext]
      refine ih hsplit ?_ hbest _ _ (isBoundary_iff.2 ⟨w ++ [c], cs, hsplit, rfl⟩)
      refine (Front.starts_nil _).advance m (fun t ht => ?_) c
      obtain ⟨hboundary, hle⟩ := hthreads t ht
      exact ⟨hboundary, Nat.le_trans hle (hnext ▸ Nat.le_add_right _ _)⟩

/-- A match is a range of the text. -/
theorem isRange_find? {start stop : Nat} (h : m.find? text = some (start, stop)) :
    Span.IsRange text ⟨start, stop⟩ :=
  m.foundIn_searchFrom (w := []) rfl (Front.starts_nil _) (fun _ _ hnone => by cases hnone) none 1
    start stop h

end Machine

end TemplateExpr
