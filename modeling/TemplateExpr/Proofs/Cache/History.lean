import Mathlib.Data.Finset.Card
import Mathlib.Data.List.Induction
import Mathlib.Data.List.Perm.Subperm
import TemplateExpr.Cache.Basic

/-!
# The history of a cache

Which results a cache finds can be told from what has been written to it. `writes` lists the results
that have been written since the cache was cleared, each key once and the last one first. A cache
keeps some of them, in this order, among them those of the first places that are not too old yet
(`Keeps`). Whatever stands in front of a result has been written later and outlives it, so a result
that is not too old is kept as long as less than `capacity` other keys have been written behind it
(`mem_entries_iff`). Looking at results does not change this: it only drops results that are too
old, which makes room, so that another old result may be evicted later.
-/

namespace TemplateExpr.Cache

variable {κ α : Type}

/-! ### Histories -/

/-- What can be done with a cache. -/
inductive Op (κ α : Type) where
  | insert (key : κ) (value : α)
  | get (key : κ)
  | clear

namespace Op

/-- The key under which a result is written. -/
def written? : Op κ α → Option κ
  | insert key _ => some key
  | get _ | clear => none

/-- Whether a result is looked for. -/
def isRead : Op κ α → Bool
  | get _ => true
  | insert .. | clear => false

end Op

/-- Something that is done with a cache, and when. -/
structure Event (κ α : Type) where
  time : Nat
  op : Op κ α

/-- `e` has been written under its key last, the cache has not been cleared since, and `later` is
what has been done since. -/
structure IsLastWrite (events : List (Event κ α)) (e : Entry κ α) (later : List (Event κ α)) :
    Prop where
  happened : ∃ before, events = before ++ ⟨e.created, .insert e.key e.value⟩ :: later
  stays : ∀ x ∈ later, x.op ≠ .clear
  last : ∀ x ∈ later, x.op.written? ≠ some e.key

variable [DecidableEq κ]

/-- The cache when something has been done with it. -/
def step (c : Cache κ α) (x : Event κ α) : Cache κ α :=
  match x.op with
  | .insert key value => c.insert x.time key value
  | .get key => (c.get x.time key).2
  | .clear => c.clear

/-- The cache when several things have been done with it, one after the other. -/
def run (c : Cache κ α) (events : List (Event κ α)) : Cache κ α := events.foldl step c

/-- Writing a result evicts the result of another key. -/
def Evicts (c : Cache κ α) (now : Nat) (key : κ) (value : α) (e : Entry κ α) : Prop :=
  e ∈ c.entries ∧ e.key ≠ key ∧ e ∉ (c.insert now key value).entries

/-! ### What has been written -/

/-- The results that have been written when something more has been done. -/
def record (es : List (Entry κ α)) (x : Event κ α) : List (Entry κ α) :=
  match x.op with
  | .insert key value => ⟨key, value, x.time⟩ :: es.filter (!·.key == key)
  | .get _ => es
  | .clear => []

/-- The results that have been written since the cache was cleared, the last one of each key. -/
def writes (events : List (Event κ α)) : List (Entry κ α) := events.foldl record []

theorem writes_append (events : List (Event κ α)) (x : Event κ α) :
    writes (events ++ [x]) = record (writes events) x := by
  rw [writes, List.foldl_append]
  rfl

omit [DecidableEq κ] in
/-- Of results with different keys, only one has a given key. -/
theorem eq_of_key_eq {es : List (Entry κ α)} (h : es.Pairwise (·.key ≠ ·.key)) {e e' : Entry κ α}
    (he : e ∈ es) (he' : e' ∈ es) (hkey : e.key = e'.key) : e = e' :=
  List.inj_on_of_nodup_map (List.pairwise_map.2 h) he he' hkey

/-- Results of different keys, the last one first, none of which is from the future. -/
structure Ordered (es : List (Entry κ α)) (now : Nat) : Prop where
  distinct : es.Pairwise (·.key ≠ ·.key)
  latest : es.Pairwise (·.created ≥ ·.created)
  past : ∀ e ∈ es, e.created ≤ now

section

variable {es : List (Entry κ α)} {now : Nat}

omit [DecidableEq κ] in
theorem Ordered.nodup (h : Ordered es now) : es.Nodup :=
  h.distinct.imp fun hne heq => hne (congrArg Entry.key heq)

theorem Ordered.record (h : Ordered es now) {x : Event κ α} (hx : now ≤ x.time) :
    Ordered (Cache.record es x) x.time := by
  have hpast : ∀ e ∈ es, e.created ≤ x.time := fun e he => Nat.le_trans (h.past e he) hx
  unfold Cache.record
  cases x.op with
  | get key => exact ⟨h.distinct, h.latest, hpast⟩
  | clear => exact ⟨.nil, .nil, fun _ he => absurd he List.not_mem_nil⟩
  | insert key value =>
    constructor
    · refine .cons (fun e he => ?_) (h.distinct.filter _)
      have hkey : e.key ≠ key := by simpa using (List.mem_filter.1 he).2
      exact hkey.symm
    · refine .cons (fun e he => ?_) (h.latest.filter _)
      exact hpast e (List.mem_filter.1 he).1
    · intro e he
      rcases List.mem_cons.1 he with rfl | he
      · exact Nat.le_refl _
      · exact hpast e (List.mem_filter.1 he).1

end

theorem ordered_writes {events : List (Event κ α)} {now : Nat}
    (htimes : events.Pairwise (·.time ≤ ·.time)) (hnow : ∀ x ∈ events, x.time ≤ now) :
    Ordered (writes events) now := by
  induction events using List.reverseRecOn generalizing now with
  | nil => exact ⟨.nil, .nil, fun _ he => absurd he List.not_mem_nil⟩
  | append_singleton events x ih =>
    obtain ⟨htimes, -, hbefore⟩ := List.pairwise_append.1 htimes
    have hx := ih htimes fun y hy => hbefore y hy x (List.mem_singleton_self x)
    have hrecord := hx.record (Nat.le_refl x.time)
    rw [writes_append]
    have hxnow := hnow x (List.mem_append_right _ (List.mem_singleton_self x))
    exact ⟨hrecord.distinct, hrecord.latest, fun e he => Nat.le_trans (hrecord.past e he) hxnow⟩

/-- The keys that have been written. -/
def writtenKeys (events : List (Event κ α)) : Finset κ :=
  (events.filterMap (·.op.written?)).toFinset

@[simp] theorem mem_writtenKeys {events : List (Event κ α)} {key : κ} :
    key ∈ writtenKeys events ↔ ∃ x ∈ events, x.op.written? = some key := by
  simp [writtenKeys]

/-- What stands in front of the last result of a key has been written later. -/
theorem IsLastWrite.exists_writes {events later : List (Event κ α)} {e : Entry κ α}
    (h : IsLastWrite events e later) :
    ∃ front back, writes events = front ++ e :: back ∧
      ∀ key, (∃ e' ∈ front, e'.key = key) ↔ key ∈ writtenKeys later := by
  obtain ⟨⟨before, rfl⟩, hstays, hlast⟩ := h
  induction later using List.reverseRecOn with
  | nil => exact ⟨[], _, writes_append _ _, by simp⟩
  | append_singleton later x ih =>
    rw [List.forall_mem_append, List.forall_mem_singleton] at hstays hlast
    obtain ⟨front, back, hwrites, hkeys⟩ := ih hstays.1 hlast.1
    rw [← List.cons_append, ← List.append_assoc, writes_append, hwrites]
    obtain ⟨time, op⟩ := x
    cases op with
    | clear => exact absurd rfl hstays.2
    | get key => exact ⟨front, back, rfl, fun k => by simp [hkeys, Op.written?]⟩
    | insert key value =>
      have hne : e.key ≠ key := fun heq => hlast.2 (congrArg some heq.symm)
      refine ⟨⟨key, value, time⟩ :: front.filter (!·.key == key),
        back.filter (!·.key == key), by simp [record, hne], fun k => ?_⟩
      have hk := hkeys k
      rw [mem_writtenKeys] at hk ⊢
      simp only [List.mem_append, or_and_right, exists_or]
      rw [← hk]
      constructor
      · rintro ⟨e', he', rfl⟩
        rcases List.mem_cons.1 he' with rfl | he'
        · exact .inr ⟨_, List.mem_singleton_self _, rfl⟩
        · exact .inl ⟨e', (List.mem_filter.1 he').1, rfl⟩
      · rintro (⟨e', he', rfl⟩ | ⟨x, hx, hwritten⟩)
        · by_cases hkey : e'.key = key
          · exact ⟨_, List.mem_cons_self, hkey.symm⟩
          · exact ⟨e', List.mem_cons_of_mem _ (List.mem_filter.2 ⟨he', by simpa using hkey⟩), rfl⟩
        · obtain rfl := List.mem_singleton.1 hx
          exact ⟨_, List.mem_cons_self, Option.some.inj hwritten⟩

/-- The last result of a key is among the first ones if few other keys have been written since. -/
theorem IsLastWrite.card_lt_iff {events later : List (Event κ α)} {e : Entry κ α}
    (h : IsLastWrite events e later) {now : Nat} (hordered : Ordered (writes events) now)
    {n : Nat} : (writtenKeys later).card < n ↔ e ∈ (writes events).take n := by
  obtain ⟨front, back, hwrites, hkeys⟩ := h.exists_writes
  have hnodup := hordered.nodup
  have hdistinct := hordered.distinct
  rw [hwrites] at hnodup hdistinct
  have hcard : (writtenKeys later).card = front.length := by
    have hfront : (front.map Entry.key).Nodup :=
      List.pairwise_map.2 (List.pairwise_append.1 hdistinct).1
    rw [← List.length_map Entry.key, ← List.toFinset_card_of_nodup hfront]
    congr 1
    ext key
    rw [← hkeys, List.mem_toFinset, List.mem_map]
  rw [hcard, hwrites]
  constructor
  · intro hlt
    obtain ⟨k, rfl⟩ := Nat.exists_eq_add_of_lt hlt
    rw [List.take_append, List.mem_append]
    right
    rw [Nat.add_assoc, Nat.add_sub_cancel_left, List.take_succ_cons]
    exact List.mem_cons_self
  · intro hmem
    by_contra hle
    rw [List.take_append_of_le_length (Nat.not_lt.1 hle)] at hmem
    have hfront := List.mem_of_mem_take hmem
    exact (List.pairwise_append.1 hnodup).2.2 e hfront e List.mem_cons_self rfl

/-- What has been written is the last result of its key. -/
theorem exists_isLastWrite {events : List (Event κ α)} {e : Entry κ α} (he : e ∈ writes events) :
    ∃ later, IsLastWrite events e later := by
  induction events using List.reverseRecOn with
  | nil => exact absurd he List.not_mem_nil
  | append_singleton events x ih =>
    rw [writes_append, record] at he
    obtain ⟨time, op⟩ := x
    have hold (he : e ∈ writes events) (hstays : op ≠ .clear)
        (hlast : op.written? ≠ some e.key) :
        ∃ later, IsLastWrite (events ++ [⟨time, op⟩]) e later := by
      obtain ⟨later, ⟨before, hevents⟩, hstays', hlast'⟩ := ih he
      refine ⟨later ++ [⟨time, op⟩], ⟨before, by simp [hevents]⟩, ?_, ?_⟩ <;>
        rw [List.forall_mem_append, List.forall_mem_singleton]
      · exact ⟨hstays', hstays⟩
      · exact ⟨hlast', hlast⟩
    cases op with
    | clear => exact absurd he List.not_mem_nil
    | get key => exact hold he (by simp) (by simp [Op.written?])
    | insert key value =>
      rcases List.mem_cons.1 he with rfl | he
      · exact ⟨[], ⟨events, rfl⟩, by simp, by simp⟩
      · obtain ⟨he, hkey⟩ := List.mem_filter.1 he
        refine hold he (by simp) fun heq => ?_
        simp [Option.some.inj heq] at hkey

/-! ### Reading and writing -/

section

variable {c : Cache κ α} {now : Nat} {key : κ} {value : α}

/-- A result that is written comes first; of the others as many are kept as there is room for. -/
theorem entries_insert (hroom : c.size ≤ c.capacity) :
    (c.insert now key value).entries =
      ⟨key, value, now⟩ :: (c.entries.filter (!·.key == key)).take (c.capacity - 1) := by
  have hall (hnone : c.find? key = none) : c.entries.filter (!·.key == key) = c.entries := by
    rw [find?, List.find?_eq_none] at hnone
    exact List.filter_eq_self.2 fun e he => by simpa using hnone e he
  rw [size] at hroom
  unfold insert
  dsimp only
  split
  · next e he =>
    have hlt : (c.entries.filter (!·.key == key)).length < c.entries.length := by
      rw [List.length_filter_lt_length_iff_exists]
      exact ⟨e, List.mem_of_find?_eq_some he, by simpa using List.find?_some he⟩
    rw [List.take_of_length_le (by omega)]
  · next hnone =>
    rw [hall hnone]
    split_ifs with hfull
    · rw [size] at hfull
      rw [List.take_of_length_le (by omega)]
    · rfl

/-- Nothing that is done with a cache changes its settings. -/
theorem settings_step (c : Cache κ α) (x : Event κ α) :
    (c.step x).capacity = c.capacity ∧ (c.step x).ttl = c.ttl := by
  unfold step
  split
  · unfold insert
    dsimp only
    split
    · exact ⟨rfl, rfl⟩
    · split_ifs <;> exact ⟨rfl, rfl⟩
  · unfold get
    split
    · exact ⟨rfl, rfl⟩
    · split_ifs <;> exact ⟨rfl, rfl⟩
  · exact ⟨rfl, rfl⟩

theorem capacity_step (x : Event κ α) : (c.step x).capacity = c.capacity := (settings_step c x).1

theorem ttl_step (x : Event κ α) : (c.step x).ttl = c.ttl := (settings_step c x).2

section

variable (hdistinct : c.entries.Pairwise (·.key ≠ ·.key))

include hdistinct

/-- The result with a key is found. -/
theorem find?_eq_some_iff {e : Entry κ α} :
    c.find? key = some e ↔ e ∈ c.entries ∧ e.key = key := by
  constructor
  · intro h
    exact ⟨List.mem_of_find?_eq_some h, by simpa using List.find?_some h⟩
  · rintro ⟨he, rfl⟩
    cases hfound : c.find? e.key with
    | none =>
      rw [find?, List.find?_eq_none] at hfound
      exact absurd (beq_self_eq_true _) (hfound e he)
    | some e' =>
      have hkey : e'.key = e.key := by simpa using List.find?_some hfound
      rw [eq_of_key_eq hdistinct (List.mem_of_find?_eq_some hfound) he hkey]

/-- What is looked for is given if it is there and not too old. -/
theorem get_eq_some_iff {v : α} : (c.get now key).1 = some v ↔
    ∃ e ∈ c.entries, e.key = key ∧ e.value = v ∧ c.isExpired now e = false := by
  unfold get
  cases hfound : c.find? key with
  | none =>
    rw [find?, List.find?_eq_none] at hfound
    constructor
    · exact fun h => nomatch h
    · rintro ⟨e, he, rfl, -⟩
      exact absurd (beq_self_eq_true _) (hfound e he)
  | some e =>
    obtain ⟨he, hkey⟩ := (find?_eq_some_iff hdistinct).1 hfound
    have hsame {e' : Entry κ α} (he' : e' ∈ c.entries) (hkey' : e'.key = key) : e' = e :=
      eq_of_key_eq hdistinct he' he (hkey'.trans hkey.symm)
    dsimp only
    split_ifs with hold
    · constructor
      · exact fun h => nomatch h
      · rintro ⟨e', he', hkey', -, hfresh⟩
        rw [hsame he' hkey', hold] at hfresh
        cases hfresh
    · constructor
      · intro hv
        exact ⟨e, he, hkey, Option.some.inj hv, Bool.eq_false_iff.2 hold⟩
      · rintro ⟨e', he', hkey', rfl, -⟩
        rw [hsame he' hkey']

/-- Looking for a result only drops it, if it is too old. -/
theorem entries_get : (c.get now key).2.entries =
    c.entries.filter fun e => !(e.key == key && c.isExpired now e) := by
  unfold get
  cases hfound : c.find? key with
  | none =>
    rw [find?, List.find?_eq_none] at hfound
    exact (List.filter_eq_self.2 fun e he => by simp [hfound e he]).symm
  | some e =>
    obtain ⟨he, hkey⟩ := (find?_eq_some_iff hdistinct).1 hfound
    have hsame {e' : Entry κ α} (he' : e' ∈ c.entries) (hkey' : e'.key = key) : e' = e :=
      eq_of_key_eq hdistinct he' he (hkey'.trans hkey.symm)
    dsimp only
    split_ifs with hold
    · refine List.filter_congr fun e' he' => ?_
      by_cases hkey' : e'.key = key
      · simp [hsame he' hkey', hold]
      · simp [hkey']
    · refine (List.filter_eq_self.2 fun e' he' => ?_).symm
      by_cases hkey' : e'.key = key
      · simp [hsame he' hkey', hold]
      · simp [hkey']

end

end

/-! ### What is kept -/

/-- A cache keeps some of the results that have been written, no more than there is room for, among
them the last ones that are not too old. -/
structure Keeps (c : Cache κ α) (es : List (Entry κ α)) (now : Nat) : Prop where
  sublist : c.entries.Sublist es
  room : c.size ≤ c.capacity
  fresh : ∀ e ∈ es.take c.capacity, c.isExpired now e = false → e ∈ c.entries

section

variable {c : Cache κ α} {es : List (Entry κ α)} {now : Nat}

omit [DecidableEq κ] in
/-- What has been written later is too old later. -/
theorem isExpired_eq_false_of_le {e e' : Entry κ α} {now' : Nat} (hcreated : e.created ≤ e'.created)
    (hnow : now' ≤ now) (h : c.isExpired now e = false) : c.isExpired now' e' = false := by
  simp only [isExpired, decide_eq_false_iff_not] at h ⊢
  omega

omit [DecidableEq κ] in
/-- Without one result, the first ones are among the first ones and one more. -/
theorem mem_take_of_mem_take_filter [DecidableEq κ] (h : es.Pairwise (·.key ≠ ·.key)) {key : κ}
    {n : Nat} {e : Entry κ α} (he : e ∈ (es.filter (!·.key == key)).take n) :
    e ∈ es.take (n + 1) := by
  induction es generalizing n with
  | nil => simp at he
  | cons a es ih =>
    obtain ⟨ha, hes⟩ := List.pairwise_cons.1 h
    rw [List.take_succ_cons, List.mem_cons]
    by_cases hkey : a.key = key
    · -- nothing else is left out
      have hall : es.filter (!·.key == key) = es :=
        List.filter_eq_self.2 fun b hb => by simpa [hkey] using (ha b hb).symm
      rw [List.filter_cons_of_neg (by simp [hkey]), hall] at he
      exact .inr he
    · rw [List.filter_cons_of_pos (by simp [hkey])] at he
      cases n with
      | zero => exact absurd he List.not_mem_nil
      | succ n => exact (List.mem_cons.1 he).imp_right fun he => ih hes he

omit [DecidableEq κ] in
/-- What is left of a list moves forwards. -/
theorem mem_take_of_sublist {β : Type} {l l' : List β} (h : l.Sublist l') (hl' : l'.Nodup) {n : Nat}
    {b : β} (hb : b ∈ l'.take n) (hl : b ∈ l) : b ∈ l.take n := by
  induction h generalizing n with
  | slnil => exact absurd hl List.not_mem_nil
  | @cons l l' a h ih =>
    obtain ⟨ha, hl'⟩ := List.nodup_cons.1 hl'
    cases n with
    | zero => exact absurd hb List.not_mem_nil
    | succ n =>
      rcases List.mem_cons.1 hb with rfl | hb
      · exact absurd (h.subset hl) ha
      · exact List.take_subset_take_left l (Nat.le_succ n) (ih hl' hb hl)
  | @cons_cons l l' a h ih =>
    obtain ⟨ha, hl'⟩ := List.nodup_cons.1 hl'
    cases n with
    | zero => exact absurd hb List.not_mem_nil
    | succ n =>
      rcases List.mem_cons.1 hb with rfl | hb
      · exact List.mem_cons_self
      · rcases List.mem_cons.1 hl with rfl | hl
        · exact List.mem_cons_self
        · exact List.mem_cons_of_mem _ (ih hl' hb hl)

/-- Whatever is done, the cache goes on to keep the last results. -/
theorem Keeps.step (h : c.Keeps es now) (hes : Ordered es now) (hcapacity : 0 < c.capacity)
    {x : Event κ α} (hx : now ≤ x.time) : (c.step x).Keeps (record es x) x.time := by
  have hfresh {e : Entry κ α} (he : e ∈ es.take c.capacity)
      (hexpired : c.isExpired x.time e = false) : e ∈ c.entries :=
    h.fresh e he (isExpired_eq_false_of_le (Nat.le_refl _) hx hexpired)
  have hsame (e : Entry κ α) : (c.step x).isExpired x.time e = c.isExpired x.time e := by
    rw [isExpired, isExpired, ttl_step]
  have hdistinct := hes.distinct.sublist h.sublist
  constructor
  · unfold Cache.step record
    split
    · rw [entries_insert h.room]
      exact ((List.take_sublist _ _).trans (h.sublist.filter _)).cons_cons _
    · rw [entries_get hdistinct]
      exact List.filter_sublist.trans h.sublist
    · exact .slnil
  · rw [capacity_step, size]
    unfold Cache.step
    split
    · rw [entries_insert h.room, List.length_cons, List.length_take]
      omega
    · rw [entries_get hdistinct]
      exact Nat.le_trans (List.length_filter_le _ _) h.room
    · exact Nat.zero_le _
  · intro e he hexpired
    rw [capacity_step] at he
    rw [hsame] at hexpired
    unfold Cache.step
    unfold record at he
    split at he
    · next key value _ =>
      rw [entries_insert h.room]
      obtain ⟨n, hn⟩ : ∃ n, c.capacity = n + 1 := ⟨c.capacity - 1, by omega⟩
      rw [hn, List.take_succ_cons] at he
      rw [hn, Nat.add_sub_cancel]
      rcases List.mem_cons.1 he with rfl | he
      · exact List.mem_cons_self
      · -- the result was one of the last ones before, so it is still there and moves by one place
        have hkept := hfresh (hn ▸ mem_take_of_mem_take_filter hes.distinct he) hexpired
        have hother := (List.mem_filter.1 (List.mem_of_mem_take he)).2
        exact List.mem_cons_of_mem _ (mem_take_of_sublist (h.sublist.filter _) (hes.nodup.filter _)
          he (List.mem_filter.2 ⟨hkept, hother⟩))
    · rw [entries_get hdistinct]
      exact List.mem_filter.2 ⟨hfresh he hexpired, by simp [hexpired]⟩
    · simp at he

omit [DecidableEq κ] in
/-- A result that is not too old is kept if and only if it is one of the last ones. -/
theorem Keeps.mem_entries_iff (h : c.Keeps es now) (hes : Ordered es now) {e : Entry κ α}
    (hexpired : c.isExpired now e = false) : e ∈ c.entries ↔ e ∈ es.take c.capacity := by
  constructor
  · intro he
    obtain ⟨front, back, rfl⟩ := List.append_of_mem (h.sublist.subset he)
    by_contra hnot
    have hlength : c.capacity ≤ front.length := by
      by_contra hlt
      have hn : c.capacity - front.length ≠ 0 := by omega
      refine hnot ?_
      rw [List.take_append, List.mem_append]
      obtain ⟨n, hn⟩ := Nat.exists_eq_succ_of_ne_zero hn
      rw [hn, List.take_succ_cons]
      exact .inr List.mem_cons_self
    -- the last results have been written later than `e`, so all of them are kept: too many
    have hlater := (List.pairwise_append.1 hes.latest).2.2
    have hkept : front.take c.capacity ++ [e] ⊆ c.entries := by
      intro e' he'
      rcases List.mem_append.1 he' with he' | he'
      · refine h.fresh e' ?_ ?_
        · rw [List.take_append_of_le_length hlength]
          exact he'
        · have hcreated := hlater e' (List.mem_of_mem_take he') e List.mem_cons_self
          exact isExpired_eq_false_of_le hcreated (Nat.le_refl _) hexpired
      · rwa [List.mem_singleton.1 he']
    have hnodup : (front.take c.capacity ++ [e]).Nodup := by
      refine hes.nodup.sublist ((List.take_sublist _ _).append ?_)
      exact List.singleton_sublist.2 List.mem_cons_self
    have hle := (hnodup.subperm hkept).length_le
    have hroom := h.room
    rw [size] at hroom
    rw [List.length_append, List.length_take, List.length_singleton] at hle
    omega
  · exact fun he => h.fresh e he hexpired

end

/-! ### Caches in use -/

section

variable (config : CacheConfig) {events : List (Event κ α)} {now : Nat}
  (htimes : events.Pairwise (·.time ≤ ·.time)) (hnow : ∀ x ∈ events, x.time ≤ now)

theorem run_append (c : Cache κ α) (events : List (Event κ α)) (x : Event κ α) :
    c.run (events ++ [x]) = (c.run events).step x := by
  rw [run, List.foldl_append]
  rfl

theorem settings_run (c : Cache κ α) (events : List (Event κ α)) :
    (c.run events).capacity = c.capacity ∧ (c.run events).ttl = c.ttl := by
  induction events using List.reverseRecOn with
  | nil => exact ⟨rfl, rfl⟩
  | append_singleton events x ih =>
    rw [run_append, capacity_step, ttl_step, ih.1, ih.2]
    exact ⟨rfl, rfl⟩

theorem capacity_run (events : List (Event κ α)) :
    ((ofConfig config : Cache κ α).run events).capacity = max 1 config.maxSize :=
  (settings_run _ events).1

theorem capacity_pos (events : List (Event κ α)) :
    0 < ((ofConfig config : Cache κ α).run events).capacity := by
  rw [capacity_run]
  exact Nat.lt_of_lt_of_le Nat.zero_lt_one (Nat.le_max_left 1 _)

include htimes hnow

/-- A cache that has been empty at first keeps the last results that have been written. -/
theorem keeps_run : ((ofConfig config : Cache κ α).run events).Keeps (writes events) now := by
  induction events using List.reverseRecOn generalizing now with
  | nil => exact ⟨.slnil, Nat.zero_le _, by simp [writes]⟩
  | append_singleton events x ih =>
    obtain ⟨htimes, -, hbefore⟩ := List.pairwise_append.1 htimes
    have hx (y : Event κ α) (hy : y ∈ events) : y.time ≤ x.time :=
      hbefore y hy x (List.mem_singleton_self x)
    have hkeeps := (ih htimes hx).step (ordered_writes htimes hx) (capacity_pos config events)
      (Nat.le_refl x.time)
    have hxnow := hnow x (List.mem_append_right _ (List.mem_singleton_self x))
    rw [run_append, writes_append]
    refine ⟨hkeeps.sublist, hkeeps.room, fun e he hexpired => hkeeps.fresh e he ?_⟩
    exact isExpired_eq_false_of_le (Nat.le_refl _) hxnow hexpired

omit htimes hnow in
/-- Looking for results does not change what has been written. -/
theorem writes_unread : writes (events.filter (!·.op.isRead)) = writes events := by
  induction events using List.reverseRecOn with
  | nil => rfl
  | append_singleton events x ih =>
    rw [List.filter_append, writes_append]
    obtain ⟨time, op⟩ := x
    cases op with
    | get key =>
      rw [List.filter_cons_of_neg (by simp [Op.isRead]), List.filter_nil, List.append_nil, ih]
      rfl
    | insert key value =>
      rw [List.filter_cons_of_pos (by simp [Op.isRead]), List.filter_nil, writes_append, ih]
    | clear =>
      rw [List.filter_cons_of_pos (by simp [Op.isRead]), List.filter_nil, writes_append, ih]

/-- Whether a result that is not too old is evicted depends on what has been written only. -/
theorem evicts_iff {e : Entry κ α} {key : κ} {value : α}
    (hexpired : ((ofConfig config : Cache κ α).run events).isExpired now e = false) :
    ((ofConfig config : Cache κ α).run events).Evicts now key value e ↔
      e ∈ (writes events).take (max 1 config.maxSize) ∧ e.key ≠ key ∧
        e ∉ (record (writes events) ⟨now, .insert key value⟩).take (max 1 config.maxSize) := by
  have hordered := ordered_writes htimes hnow
  have hkeeps := keeps_run config htimes hnow
  have hcapacity := capacity_run config events
  have hstep : now ≤ (⟨now, .insert key value⟩ : Event κ α).time := Nat.le_refl now
  have hkeeps' := hkeeps.step hordered (capacity_pos config events) hstep
  have hordered' := hordered.record hstep
  have hexpired' : (((ofConfig config : Cache κ α).run events).step
      ⟨now, .insert key value⟩).isExpired now e = false := by
    rw [isExpired, ttl_step]
    exact hexpired
  have hbefore := hkeeps.mem_entries_iff hordered hexpired
  have hafter := hkeeps'.mem_entries_iff hordered' hexpired'
  rw [capacity_step, hcapacity] at hafter
  rw [hcapacity] at hbefore
  rw [Evicts, hbefore, ← hafter]
  rfl

/-- A cache gives the result that has been written last under a key, if the cache has not been
cleared since, the result is not too old and less other keys than there is room for have been
written since, and nothing else. It never keeps more results than there is room for. Looking for a
result leaves the other ones in their order and only drops it, if it is too old; it does not matter
to the eviction of results that are not too old. -/
theorem get_run_spec :
    (∀ key value, (((ofConfig config : Cache κ α).run events).get now key).1 = some value ↔
      ∃ created later, IsLastWrite events ⟨key, value, created⟩ later ∧ now - created < config.ttl ∧
        (writtenKeys later).card < max 1 config.maxSize) ∧
    ((ofConfig config : Cache κ α).run events).size ≤ max 1 config.maxSize ∧
    (∀ key, (((ofConfig config : Cache κ α).run events).get now key).2.entries =
      ((ofConfig config : Cache κ α).run events).entries.filter fun e =>
        !(e.key == key && decide (config.ttl ≤ now - e.created))) ∧
    ∀ key value e, now - e.created < config.ttl →
      (((ofConfig config : Cache κ α).run events).Evicts now key value e ↔
        ((ofConfig config : Cache κ α).run (events.filter (!·.op.isRead))).Evicts now key value
          e) := by
  have hordered := ordered_writes htimes hnow
  have hkeeps := keeps_run config htimes hnow
  have hcapacity := capacity_run config events
  have hexpired (events : List (Event κ α)) (e : Entry κ α) :
      ((ofConfig config : Cache κ α).run events).isExpired now e =
        decide (config.ttl ≤ now - e.created) := by
    rw [isExpired, (settings_run _ events).2]
    rfl
  have hdistinct := hordered.distinct.sublist hkeeps.sublist
  refine ⟨fun key value => ?_, hcapacity ▸ hkeeps.room, fun key => ?_, fun key value e he => ?_⟩
  · rw [get_eq_some_iff hdistinct]
    constructor
    · rintro ⟨e, he, rfl, rfl, hfresh⟩
      have hmem := (hkeeps.mem_entries_iff hordered hfresh).1 he
      obtain ⟨later, hlast⟩ := exists_isLastWrite (List.mem_of_mem_take hmem)
      rw [hexpired, decide_eq_false_iff_not, Nat.not_le] at hfresh
      refine ⟨e.created, later, hlast, hfresh, ?_⟩
      rw [hcapacity] at hmem
      exact (hlast.card_lt_iff hordered).2 hmem
    · rintro ⟨created, later, hlast, hfresh, hcard⟩
      have hfresh' : ((ofConfig config : Cache κ α).run events).isExpired now
          ⟨key, value, created⟩ = false := by
        rw [hexpired, decide_eq_false_iff_not, Nat.not_le]
        exact hfresh
      refine ⟨⟨key, value, created⟩, ?_, rfl, rfl, hfresh'⟩
      rw [hkeeps.mem_entries_iff hordered hfresh', hcapacity]
      exact (hlast.card_lt_iff hordered).1 hcard
  · rw [entries_get hdistinct]
    exact List.filter_congr fun e _ => by rw [hexpired]
  · have hfresh (events : List (Event κ α)) :
        ((ofConfig config : Cache κ α).run events).isExpired now e = false := by
      rw [hexpired, decide_eq_false_iff_not, Nat.not_le]
      exact he
    have hunread : (events.filter (!·.op.isRead)).Sublist events := List.filter_sublist
    rw [evicts_iff config htimes hnow (hfresh _), evicts_iff config (htimes.sublist hunread)
      (fun x hx => hnow x (hunread.subset hx)) (hfresh _), writes_unread]

end

/-- A result that has been written again is found, although two other keys have been written behind
it the first time. -/
theorem get_run_spec_rewritten :
    (((ofConfig ⟨true, 2, 10, .full⟩ : Cache Nat Nat).run
      [⟨0, .insert 0 5⟩, ⟨3, .insert 1 6⟩, ⟨3, .get 0⟩, ⟨4, .insert 0 7⟩, ⟨5, .insert 2 8⟩]).get
        6 0).1 = some 7 := by
  refine ((get_run_spec ⟨true, 2, 10, .full⟩ (by decide) (by decide)).1 0 7).2
    ⟨4, [⟨5, .insert 2 8⟩], ?_, by decide, by decide⟩
  constructor
  · exact ⟨[⟨0, .insert 0 5⟩, ⟨3, .insert 1 6⟩, ⟨3, .get 0⟩], rfl⟩
  · simp
  · simp [Op.written?]

/-- Looking for a result that is too old makes room: the result of the key 0 is evicted, and not
that of the key 1, which has gone. -/
theorem evicts_after_read :
    ((ofConfig ⟨true, 2, 0, .full⟩ : Cache Nat Nat).run
      [⟨0, .insert 0 0⟩, ⟨0, .insert 1 1⟩, ⟨0, .get 1⟩, ⟨0, .insert 2 2⟩]).Evicts 0 3 3 ⟨0, 0, 0⟩ ∧
    ¬((ofConfig ⟨true, 2, 0, .full⟩ : Cache Nat Nat).run
      [⟨0, .insert 0 0⟩, ⟨0, .insert 1 1⟩, ⟨0, .insert 2 2⟩]).Evicts 0 3 3 ⟨0, 0, 0⟩ ∧
    ((ofConfig ⟨true, 2, 0, .full⟩ : Cache Nat Nat).run
      [⟨0, .insert 0 0⟩, ⟨0, .insert 1 1⟩, ⟨0, .insert 2 2⟩]).Evicts 0 3 3 ⟨1, 1, 0⟩ := by
  unfold Evicts
  simp [run, step, insert, get, find?, isExpired, size, ofConfig]

end TemplateExpr.Cache

/-!
## What a cache keeps

A cache keeps nothing but results that have been written to it, and gives a result for the key that
it was written under.
-/

namespace TemplateExpr.Cache

variable {κ α : Type} {p : κ → α → Prop} {c : Cache κ α}

/-- All results that are kept satisfy `p` together with their keys. -/
def All (p : κ → α → Prop) (c : Cache κ α) : Prop := ∀ e ∈ c.entries, p e.key e.value

theorem all_ofConfig (config : CacheConfig) : All p (ofConfig config : Cache κ α) :=
  fun _ he => absurd he List.not_mem_nil

variable [BEq κ]

theorem All.get (h : c.All p) (now : Nat) (key : κ) : (c.get now key).2.All p := by
  intro e he
  unfold Cache.get at he
  split at he
  · exact h e he
  · split at he
    · exact h e (List.mem_filter.1 he).1
    · exact h e he

/-- A result that is found has been kept under the key. -/
theorem All.of_get [LawfulBEq κ] (h : c.All p) {now : Nat} {key : κ} {v : α}
    (hfound : (c.get now key).1 = some v) : p key v := by
  unfold Cache.get at hfound
  split at hfound
  · cases hfound
  · next e he =>
    split at hfound
    · cases hfound
    · obtain rfl := Option.some.inj hfound
      have hkey : e.key = key := eq_of_beq (List.find?_some (p := fun e : Entry κ α => e.key == key) he)
      exact hkey ▸ h e (List.mem_of_find?_eq_some he)

theorem All.insert (h : c.All p) (now : Nat) {key : κ} {v : α} (hv : p key v) :
    (c.insert now key v).All p := by
  intro e he
  unfold Cache.insert at he
  dsimp only at he
  split at he
  · rcases List.mem_cons.1 he with rfl | he
    · exact hv
    · exact h e (List.mem_filter.1 he).1
  · split at he <;> rcases List.mem_cons.1 he with rfl | he
    · exact hv
    · exact h e he
    · exact hv
    · exact h e (List.mem_of_mem_take he)

end TemplateExpr.Cache
