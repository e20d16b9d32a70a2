import Mathlib.Data.List.DropRight
import TemplateExpr.Proofs.Cache.History

/-!
# The figures of a cache

Each figure of a cache counts something that has been done since the cache was cleared: a result
that is looked for is given (`finds`) or has to be dropped because it is too old (`drops`), and a
result that is written under a new key (`adds`) may take the place of another one (`evicts`).
`moments` lists what is done together with the cache at that moment, and `Counted` says which figure
counts what. A step keeps it (`Counted.step`), hence a run does. So the figures balance: whatever is
looked for is a hit or a miss, and whatever has been added is still there or has been evicted or
dropped (`stats_run_spec`).
-/

namespace TemplateExpr.Cache

variable {κ α : Type}

/-- Whether the cache is cleared. -/
def Op.isClear : Op κ α → Bool
  | clear => true
  | insert .. | get _ => false

/-- What has been done until the cache was cleared for the last time, this included. -/
def untilClear (events : List (Event κ α)) : List (Event κ α) :=
  events.rdropWhile (!·.op.isClear)

/-- What has been done since the cache was cleared for the last time. -/
def sinceClear (events : List (Event κ α)) : List (Event κ α) :=
  events.rtakeWhile (!·.op.isClear)

variable [DecidableEq κ]

/-- What is done with a cache, one after the other, each time with the cache as it is then. -/
def moments (c : Cache κ α) : List (Event κ α) → List (Cache κ α × Event κ α)
  | [] => []
  | x :: later => (c, x) :: moments (c.step x) later

theorem moments_append (c : Cache κ α) (events : List (Event κ α)) (x : Event κ α) :
    c.moments (events ++ [x]) = c.moments events ++ [(c.run events, x)] := by
  induction events generalizing c with
  | nil => rfl
  | cons y events ih => exact congrArg _ (ih (c.step y))

theorem map_snd_moments (c : Cache κ α) (events : List (Event κ α)) :
    (c.moments events).map Prod.snd = events := by
  induction events generalizing c with
  | nil => rfl
  | cons y events ih => exact congrArg _ (ih (c.step y))

/-! ### What happens in a moment -/

/-- A result is looked for and given. -/
def finds (m : Cache κ α × Event κ α) : Bool :=
  match m.2.op with
  | .get key => (m.1.get m.2.time key).1.isSome
  | .insert .. | .clear => false

/-- A result is looked for that is there, and not given. -/
def drops (m : Cache κ α × Event κ α) : Bool :=
  match m.2.op with
  | .get key => (m.1.find? key).isSome && (m.1.get m.2.time key).1.isNone
  | .insert .. | .clear => false

/-- A result is written under a key that the cache does not have. -/
def adds (m : Cache κ α × Event κ α) : Bool :=
  match m.2.op with
  | .insert key _ => (m.1.find? key).isNone
  | .get _ | .clear => false

/-- A result is written under a key that the cache does not have, and there is no room for it. -/
def evicts (m : Cache κ α × Event κ α) : Bool := adds m && m.1.size == m.1.capacity

/-- The results of a cache have different keys, and there is room for them; what has expired has
been missed. -/
structure IsSound (c : Cache κ α) : Prop where
  distinct : c.entries.Pairwise (·.key ≠ ·.key)
  room : c.size ≤ c.capacity
  capacity_pos : 0 < c.capacity
  missed : c.expirations ≤ c.misses

/-- The figures of a cache count what has happened in some moments. -/
structure Counted (c : Cache κ α) (ms : List (Cache κ α × Event κ α)) : Prop where
  hits : c.hits = ms.countP finds
  misses : c.hits + c.misses = ms.countP (·.2.op.isRead)
  evictions : c.evictions = ms.countP evicts
  expirations : c.expirations = ms.countP drops
  size : c.size + c.evictions + c.expirations = ms.countP adds

/-- Of results with different keys, one goes with its key. -/
theorem length_filter_key {es : List (Entry κ α)}
    (h : es.Pairwise (·.key ≠ ·.key)) {e : Entry κ α} (he : e ∈ es) :
    (es.filter (!·.key == e.key)).length + 1 = es.length := by
  induction es with
  | nil => exact absurd he List.not_mem_nil
  | cons a es ih =>
    obtain ⟨ha, hes⟩ := List.pairwise_cons.1 h
    rcases List.mem_cons.1 he with rfl | he
    · have hall : es.filter (!·.key == e.key) = es :=
        List.filter_eq_self.2 fun b hb => by simpa using (ha b hb).symm
      rw [List.filter_cons_of_neg (by simp), hall, List.length_cons]
    · rw [List.filter_cons_of_pos (by simpa using ha e he), List.length_cons, List.length_cons,
        ih hes he]

section

variable {c : Cache κ α}

/-- What looking for a result does to the figures. -/
theorem figures_get (hc : c.IsSound) (now : Nat) (key : κ) :
    let m : Cache κ α × Event κ α := (c, ⟨now, .get key⟩)
    (c.get now key).2.hits = c.hits + (finds m).toNat ∧
    (c.get now key).2.hits + (c.get now key).2.misses = c.hits + c.misses + 1 ∧
    (c.get now key).2.evictions = c.evictions ∧
    (c.get now key).2.expirations = c.expirations + (drops m).toNat ∧
    (c.get now key).2.expirations + c.misses ≤ (c.get now key).2.misses + c.expirations ∧
    (c.get now key).2.size + (drops m).toNat = c.size := by
  intro m
  have hfinds : finds m = (c.get now key).1.isSome := rfl
  have hdrops : drops m = ((c.find? key).isSome && (c.get now key).1.isNone) := rfl
  rw [hfinds, hdrops]
  unfold get
  cases hfound : c.find? key with
  | none => exact ⟨rfl, Nat.add_assoc _ _ 1, rfl, rfl, by dsimp only; omega, rfl⟩
  | some e =>
    obtain ⟨he, rfl⟩ := (find?_eq_some_iff hc.distinct).1 hfound
    dsimp only
    split_ifs with hold
    · exact ⟨rfl, Nat.add_assoc _ _ 1, rfl, rfl, by dsimp only; omega,
        length_filter_key hc.distinct he⟩
    · exact ⟨rfl, Nat.add_right_comm _ 1 _, rfl, rfl, by dsimp only; omega, rfl⟩

/-- What writing a result does to the figures. -/
theorem figures_insert (hc : c.IsSound) (now : Nat) (key : κ) (value : α) :
    let m : Cache κ α × Event κ α := (c, ⟨now, .insert key value⟩)
    (c.insert now key value).hits = c.hits ∧ (c.insert now key value).misses = c.misses ∧
    (c.insert now key value).evictions = c.evictions + (evicts m).toNat ∧
    (c.insert now key value).expirations = c.expirations ∧
    (c.insert now key value).size + (evicts m).toNat = c.size + (adds m).toNat := by
  intro m
  have hadds : adds m = (c.find? key).isNone := rfl
  have hevicts : evicts m = ((c.find? key).isNone && c.size == c.capacity) := rfl
  have hroom := hc.room
  have hpos := hc.capacity_pos
  rw [hadds, hevicts]
  unfold insert
  cases hfound : c.find? key with
  | some e =>
    obtain ⟨he, rfl⟩ := (find?_eq_some_iff hc.distinct).1 hfound
    exact ⟨rfl, rfl, rfl, rfl, length_filter_key hc.distinct he⟩
  | none =>
    dsimp only
    split_ifs with hless
    · have hne : (c.size == c.capacity) = false := beq_false_of_ne (Nat.ne_of_lt hless)
      rw [hne]
      exact ⟨rfl, rfl, rfl, rfl, rfl⟩
    · have hfull : c.size = c.capacity := by omega
      have hlength : (c.entries.take (c.capacity - 1)).length + 1 = c.size := by
        rw [List.length_take, ← size]
        omega
      rw [beq_iff_eq.2 hfull]
      exact ⟨rfl, rfl, rfl, rfl, congrArg (· + 1) hlength⟩

/-- A step leaves a cache sound. -/
theorem IsSound.step (h : c.IsSound) (x : Event κ α) : (c.step x).IsSound := by
  have hpos : 0 < (c.step x).capacity := by
    rw [capacity_step]
    exact h.capacity_pos
  have hmissed := h.missed
  refine ⟨?_, ?_, hpos, ?_⟩
  · unfold Cache.step
    split
    · rw [entries_insert h.room]
      refine .cons (fun e he => ?_) ((h.distinct.filter _).sublist (List.take_sublist _ _))
      have hkey := (List.mem_filter.1 (List.mem_of_mem_take he)).2
      exact fun heq => by simp [← heq] at hkey
    · rw [entries_get h.distinct]
      exact h.distinct.filter _
    · exact .nil
  · rw [capacity_step, size]
    unfold Cache.step
    split
    · rw [entries_insert h.room, List.length_cons, List.length_take]
      exact Nat.add_le_of_le_sub h.capacity_pos (Nat.min_le_left _ _)
    · rw [entries_get h.distinct]
      exact Nat.le_trans (List.length_filter_le _ _) h.room
    · exact Nat.zero_le _
  · unfold Cache.step
    split
    · next key value _ =>
      obtain ⟨-, hmisses, -, hexpirations, -⟩ := figures_insert h x.time key value
      rw [hmisses, hexpirations]
      exact hmissed
    · next key _ =>
      obtain ⟨-, -, -, -, hgrown, -⟩ := figures_get h x.time key
      omega
    · exact Nat.le_refl 0

/-- Unless it clears the cache, a step counts what happens in it. -/
theorem Counted.step {ms : List (Cache κ α × Event κ α)} (h : c.Counted ms) (hc : c.IsSound)
    {x : Event κ α} (hx : x.op.isClear = false) : (c.step x).Counted (ms ++ [(c, x)]) := by
  have hcount (p : Cache κ α × Event κ α → Bool) :
      (ms ++ [(c, x)]).countP p = ms.countP p + (p (c, x)).toNat := by
    rw [List.countP_append, List.countP_singleton]
    cases p (c, x) <;> rfl
  obtain ⟨hhits, hmisses, hevictions, hexpirations, hsize⟩ := h
  obtain ⟨time, op⟩ := x
  cases op with
  | clear => cases hx
  | get key =>
    obtain ⟨hhits', hmisses', hevictions', hexpirations', -, hsize'⟩ := figures_get hc time key
    constructor <;> rw [hcount]
    · rw [← hhits]
      exact hhits'
    · rw [← hmisses]
      exact hmisses'
    · rw [← hevictions]
      exact hevictions'
    · rw [← hexpirations]
      exact hexpirations'
    · change (c.get time key).2.size + (c.get time key).2.evictions +
        (c.get time key).2.expirations = ms.countP adds + 0
      omega
  | insert key value =>
    obtain ⟨hhits', hmisses', hevictions', hexpirations', hsize'⟩ :=
      figures_insert hc time key value
    constructor <;> rw [hcount]
    · rw [← hhits]
      exact hhits'
    · rw [← hmisses, Cache.step, hhits', hmisses']
      rfl
    · rw [← hevictions]
      exact hevictions'
    · rw [← hexpirations]
      exact hexpirations'
    · change (c.insert time key value).size + (c.insert time key value).evictions +
        (c.insert time key value).expirations = _
      rw [hevictions', hexpirations']
      omega

end

/-! ### Caches in use -/

section

variable (config : CacheConfig) (events : List (Event κ α))

theorem isSound_run : ((ofConfig config : Cache κ α).run events).IsSound := by
  induction events using List.reverseRecOn with
  | nil => exact ⟨.nil, Nat.zero_le _, capacity_pos config [], Nat.le_refl 0⟩
  | append_singleton events x ih =>
    rw [run_append]
    exact ih.step x

/-- A cache that has been cleared is like a new one. -/
theorem run_clear {x : Event κ α} (hx : x.op.isClear = true) :
    (ofConfig config : Cache κ α).run (events ++ [x]) = ofConfig config := by
  have hsettings := settings_run (ofConfig config : Cache κ α) events
  obtain ⟨time, op⟩ := x
  cases op with
  | clear =>
    rw [run_append, step, clear, hsettings.1, hsettings.2]
    rfl
  | get key => cases hx
  | insert key value => cases hx

theorem run_untilClear :
    (ofConfig config : Cache κ α).run (untilClear events) = ofConfig config := by
  induction events using List.reverseRecOn with
  | nil => rfl
  | append_singleton events x ih =>
    rw [untilClear, List.rdropWhile_concat]
    split_ifs with hx
    · exact ih
    · exact run_clear config events (by simpa using hx)

/-- What has been done before a cache was cleared does not matter. -/
theorem run_sinceClear : (ofConfig config : Cache κ α).run (sinceClear events) =
    (ofConfig config).run events := by
  calc (ofConfig config : Cache κ α).run (sinceClear events)
      = ((ofConfig config).run (untilClear events)).run (sinceClear events) := by
        rw [run_untilClear]
    _ = (ofConfig config).run (untilClear events ++ sinceClear events) :=
        List.foldl_append.symm
    _ = (ofConfig config).run events := by
        rw [untilClear, sinceClear, List.rdropWhile_append_rtakeWhile]

theorem counted_run : ((ofConfig config : Cache κ α).run events).Counted
    (((ofConfig config).run (untilClear events)).moments (sinceClear events)) := by
  rw [run_untilClear]
  induction events using List.reverseRecOn with
  | nil => exact ⟨rfl, rfl, rfl, rfl, rfl⟩
  | append_singleton events x ih =>
    rw [sinceClear, List.rtakeWhile_concat]
    split_ifs with hx
    · rw [moments_append, ← sinceClear, run_sinceClear, run_append]
      exact ih.step (isSound_run config events) (by simpa using hx)
    · rw [run_clear config events (by simpa using hx)]
      exact ⟨rfl, rfl, rfl, rfl, rfl⟩

/-- Since a cache has been cleared for the last time, its hits are the results that have been given,
its evictions the results that were written when there was no room for them, and its expirations the
results that were there and have not been given. Hits and misses make up what has been looked for;
the results that are there, those that have been evicted and those that have expired make up what
has been written under a key that the cache did not have then. There are no more expirations than
misses, and no more results than there is room for. -/
theorem stats_run_spec :
    let now : CacheStats := ((ofConfig config : Cache κ α).run events).stats
    let ms := ((ofConfig config : Cache κ α).run (untilClear events)).moments (sinceClear events)
    now.hits + now.misses = (sinceClear events).countP (·.op.isRead) ∧
    now.size + now.evictions + now.expirations = ms.countP adds ∧
    now.expirations ≤ now.misses ∧
    now.size ≤ now.capacity ∧ now.capacity = max 1 config.maxSize ∧
    now.hits = ms.countP finds ∧ now.evictions = ms.countP evicts ∧
    now.expirations = ms.countP drops := by
  intro now ms
  have h : ((ofConfig config : Cache κ α).run events).Counted ms := counted_run config events
  have hreads : ms.countP (·.2.op.isRead) = (sinceClear events).countP (·.op.isRead) := by
    rw [← map_snd_moments ((ofConfig config).run (untilClear events)) (sinceClear events),
      List.countP_map]
    rfl
  have hsound := isSound_run config events
  exact ⟨h.misses.trans hreads, h.size, hsound.missed, hsound.room, capacity_run config events,
    h.hits, h.evictions, h.expirations⟩

end

end TemplateExpr.Cache
