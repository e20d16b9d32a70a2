import TemplateExpr.Proofs.Time.Month

/-!
# Units of time

The seconds of the local clock fall into units: `TimeUnit.start u k` is the one that the unit with
the number `k` starts with, and `TimeUnit.indexAt u x` is the number of the unit that `x` lies in.
A moment lies between the start and the end of its unit, and these are the same for all moments
between them (`DateTime.startOf?_endOf?_spec`).
-/

namespace TemplateExpr

open DateTime

namespace TimeUnit

variable {u : TimeUnit} {k x : Int}

/-- The second of the local clock with which a unit starts, counted from 1970. Weeks start on
Mondays, and years and months on the first of a month. Milliseconds do not start with seconds. -/
def start : TimeUnit → Int → Int
  | year, k => Date.firstOfMonth (k * 12) * secondsPerDay
  | month, k => Date.firstOfMonth k * secondsPerDay
  | week, k => (k * 7 - 3) * secondsPerDay
  | day, k => k * secondsPerDay
  | hour, k => k * 3600
  | minute, k => k * 60
  | second, k | millisecond, k => k

/-- The number of the unit that a second of the local clock lies in. -/
def indexAt : TimeUnit → Int → Int
  | year, x => Date.monthOf (x / secondsPerDay) / 12
  | month, x => Date.monthOf (x / secondsPerDay)
  | week, x => (x / secondsPerDay + 3) / 7
  | day, x => x / secondsPerDay
  | hour, x => x / 3600
  | minute, x => x / 60
  | second, x | millisecond, x => x

theorem strictMono_start (u : TimeUnit) : StrictMono u.start := by
  intro k m hkm
  cases u with
  | year =>
    have h := Date.strictMono_firstOfMonth (show k * 12 < m * 12 by omega)
    rw [start, start, secondsPerDay]
    omega
  | month =>
    have h := Date.strictMono_firstOfMonth hkm
    rw [start, start, secondsPerDay]
    omega
  | _ =>
    simp only [start, secondsPerDay]
    omega

theorem start_indexAt (u : TimeUnit) (x : Int) :
    u.start (u.indexAt x) ≤ x ∧ x < u.start (u.indexAt x + 1) := by
  cases u with
  | year =>
    have hmonth := Date.firstOfMonth_monthOf (x / secondsPerDay)
    have hmono := Date.strictMono_firstOfMonth.monotone
    have hlow := hmono (show Date.monthOf (x / secondsPerDay) / 12 * 12 ≤
      Date.monthOf (x / secondsPerDay) by omega)
    have hhigh := hmono (show Date.monthOf (x / secondsPerDay) + 1 ≤
      (Date.monthOf (x / secondsPerDay) / 12 + 1) * 12 by omega)
    simp only [start, indexAt]
    rw [secondsPerDay] at *
    omega
  | month =>
    have hmonth := Date.firstOfMonth_monthOf (x / secondsPerDay)
    simp only [start, indexAt]
    rw [secondsPerDay] at *
    omega
  | _ =>
    simp only [start, indexAt, secondsPerDay]
    omega

/-- Every second lies in one unit only. -/
theorem indexAt_eq_iff : u.indexAt x = k ↔ u.start k ≤ x ∧ x < u.start (k + 1) := by
  constructor
  · rintro rfl
    exact u.start_indexAt x
  · rintro ⟨hlow, hhigh⟩
    obtain ⟨hlow', hhigh'⟩ := u.start_indexAt x
    have hle := u.strictMono_start.lt_iff_lt.1 (hlow.trans_lt hhigh')
    have hge := u.strictMono_start.lt_iff_lt.1 (hlow'.trans_lt hhigh)
    omega

theorem indexAt_start (u : TimeUnit) (k : Int) : u.indexAt (u.start k) = k :=
  indexAt_eq_iff.2 ⟨Int.le_refl _, u.strictMono_start (Int.lt_succ k)⟩

end TimeUnit

namespace DateTime

variable {s e n t : DateTime} {u : TimeUnit} {k x offset : Int}

/-! ### Starts -/

/-- The moment at which the local clock shows a second, counted from 1970. -/
def atLocal? (x offset : Int) : Option DateTime :=
  ofLocal? (x / secondsPerDay) (x % secondsPerDay).toNat 0 offset

theorem atLocal?_eq_some : atLocal? x offset = some t ↔
    (Date.inRange (x / secondsPerDay) = true ∧ inRange (x - offset) = true) ∧
      t = ⟨x - offset, 0, offset⟩ := by
  have hlocal : x / secondsPerDay * secondsPerDay + (x % secondsPerDay).toNat = x := by
    rw [secondsPerDay]
    omega
  rw [atLocal?, ofLocal?, ofSeconds?, hlocal]
  constructor
  · intro h
    split_ifs at h with hday hseconds
    exact ⟨⟨hday, hseconds⟩, (Option.some.inj h).symm⟩
  · rintro ⟨⟨hday, hseconds⟩, rfl⟩
    rw [if_pos hday, if_pos hseconds]

theorem atLocal?_second (day offset : Int) {second : Nat} (hsecond : second < 86400) :
    atLocal? (day * secondsPerDay + second) offset = ofLocal? day second 0 offset := by
  have hday : (day * secondsPerDay + second) / secondsPerDay = day := by
    rw [secondsPerDay]
    omega
  have hrest : ((day * secondsPerDay + second) % secondsPerDay).toNat = second := by
    rw [secondsPerDay]
    omega
  rw [atLocal?, hday, hrest]

theorem atLocal?_day (day offset : Int) :
    atLocal? (day * secondsPerDay) offset = ofLocal? day 0 0 offset := by
  rw [← atLocal?_second day offset (by decide)]
  congr 1
  exact (Int.add_zero _).symm

/-- The start of a unit is found from its number alone. -/
theorem startOf?_eq (t : DateTime) (hu : u ≠ .millisecond) :
    t.startOf? u = atLocal? (u.start (u.indexAt t.localSeconds)) t.offset := by
  obtain ⟨hpos, hle, -⟩ := Date.ofDayNumber_spec t.dayNumber
  have hsplit : t.localSeconds = t.dayNumber * secondsPerDay + t.secondOfDay := by
    rw [dayNumber, secondOfDay, secondsPerDay]
    omega
  have hsecond := t.secondOfDay_lt
  cases u with
  | millisecond => exact absurd rfl hu
  | year =>
    have hyear : t.date.year = Date.monthOf t.dayNumber / 12 := by
      show t.date.year = t.date.monthIndex / 12
      rw [Date.monthIndex]
      rw [date]
      omega
    show ofLocal? (Date.dayNumber ⟨t.date.year, 1, 1⟩) 0 0 t.offset = _
    rw [Date.dayNumber_newYear, hyear, ← atLocal?_day]
    rfl
  | month =>
    have hfirst : Date.dayNumber ⟨t.date.year, t.date.month, 1⟩ =
        Date.firstOfMonth (Date.monthOf t.dayNumber) := Date.dayNumber_first hpos hle
    show ofLocal? (Date.dayNumber ⟨t.date.year, t.date.month, 1⟩) 0 0 t.offset = _
    rw [hfirst, ← atLocal?_day]
    rfl
  | week =>
    have hmonday : t.dayNumber - Date.weekdayOf t.dayNumber = (t.dayNumber + 3) / 7 * 7 - 3 := by
      rw [Date.weekdayOf]
      omega
    show ofLocal? (t.dayNumber - Date.weekdayOf t.dayNumber) 0 0 t.offset = _
    rw [hmonday, ← atLocal?_day]
    rfl
  | day =>
    show ofLocal? t.dayNumber 0 0 t.offset = _
    rw [← atLocal?_day]
    rfl
  | hour =>
    show ofLocal? t.dayNumber (t.hour * 3600) 0 t.offset = _
    rw [hour, ← atLocal?_second _ _ (by rw [secondsPerDay] at hsecond; omega)]
    congr 1
    show _ = t.localSeconds / 3600 * 3600
    rw [hsplit, secondsPerDay]
    omega
  | minute =>
    show ofLocal? t.dayNumber (t.hour * 3600 + t.minute * 60) 0 t.offset = _
    rw [hour, minute, ← atLocal?_second _ _ (by rw [secondsPerDay] at hsecond; omega)]
    congr 1
    show _ = t.localSeconds / 60 * 60
    rw [hsplit, secondsPerDay]
    omega
  | second =>
    show ofLocal? t.dayNumber t.secondOfDay 0 t.offset = _
    rw [← atLocal?_second _ _ (by rw [secondsPerDay] at hsecond; omega), ← hsplit]
    rfl

/-- A moment starts its unit if its local second does. -/
theorem startOf?_of_start (hu : u ≠ .millisecond) (ht : t.localSeconds = u.start k) :
    t.startOf? u = atLocal? (u.start k) t.offset := by
  rw [startOf?_eq t hu, ht, u.indexAt_start]

/-! ### Ends -/

theorem ofSeconds?_eq_some {nanos : Nat} (h : ofSeconds? x nanos offset = some t) :
    inRange x = true ∧ t = ⟨x, nanos, offset⟩ := by
  rw [ofSeconds?] at h
  split_ifs at h with hrange
  exact ⟨hrange, (Option.some.inj h).symm⟩

/-- Outside of leap seconds, milliseconds are added to the seconds and to their fractions. -/
theorem addMillis?_of_lt {ms whole part carry : Int} (ht : t.nanos < nanosPerSecond)
    (hms : -maxSpan ≤ ms) (hwhole : Int.tdiv ms 1000 = whole)
    (hpart : t.nanos + Int.tmod ms 1000 * nanosPerMilli = part)
    (hcarry : part / nanosPerSecond = carry) :
    t.addMillis? ms = ofSeconds? (t.seconds + (whole + carry))
      (part - carry * nanosPerSecond).toNat t.offset := by
  rw [addMillis?, if_neg (Int.not_lt.2 hms)]
  dsimp only
  rw [if_pos ht, hwhole, hpart, hcarry, Int.add_assoc]

theorem addMillis?_seconds (ht : t.nanos = 0) (n : Nat) :
    t.addMillis? (n * 1000) = ofSeconds? (t.seconds + n) 0 t.offset := by
  have hlt : t.nanos < nanosPerSecond := by rw [ht]; decide
  have hspan : -maxSpan ≤ n * 1000 := by rw [maxSpan]; omega
  have hpart : t.nanos + Int.tmod (n * 1000) 1000 * nanosPerMilli = 0 := by
    rw [ht, Int.mul_tmod_left]
    rfl
  rw [addMillis?_of_lt hlt hspan (Int.mul_tdiv_cancel _ (by decide)) hpart rfl]
  exact congrArg (ofSeconds? · 0 t.offset) (congrArg _ (Int.add_zero _))

theorem addMillis?_neg_one (ht : t.nanos = 0) :
    t.addMillis? (-1) = ofSeconds? (t.seconds + -1) 999000000 t.offset := by
  have hlt : t.nanos < nanosPerSecond := by rw [ht]; decide
  have hpart : t.nanos + Int.tmod (-1) 1000 * nanosPerMilli = -1000000 := by rw [ht]; rfl
  exact addMillis?_of_lt hlt (by decide) rfl hpart rfl

theorem addMillis?_one (ht : t.nanos = 999000000) :
    t.addMillis? 1 = ofSeconds? (t.seconds + 1) 0 t.offset := by
  have hlt : t.nanos < nanosPerSecond := by rw [ht]; decide
  have hpart : t.nanos + Int.tmod 1 1000 * nanosPerMilli = 1000000000 := by rw [ht]; rfl
  exact addMillis?_of_lt hlt (by decide) rfl hpart rfl

/-- The first of a month, moved by months, is the first of a month. -/
theorem addMonths?_first {m months : Int}
    (ht : t = ⟨Date.firstOfMonth m * secondsPerDay - offset, 0, offset⟩)
    (h : t.addMonths? months = some n) :
    n = ⟨Date.firstOfMonth (m + months) * secondsPerDay - offset, 0, offset⟩ := by
  have hlocal : t.localSeconds = Date.firstOfMonth m * secondsPerDay := by
    rw [ht, localSeconds]
    exact Int.sub_add_cancel _ _
  have hday : t.dayNumber = Date.firstOfMonth m := by
    rw [dayNumber, hlocal, secondsPerDay]
    omega
  have hsecond : t.secondOfDay = 0 := by
    rw [secondOfDay, hlocal, secondsPerDay]
    omega
  obtain ⟨-, -, -, hfirst, -⟩ := Date.ofDayNumber_spec t.dayNumber
  have hmonth : (Date.ofDayNumber t.dayNumber).monthIndex = m :=
    Date.monthOf_eq_iff.2 ⟨hday.ge, hday ▸ Date.strictMono_firstOfMonth (Int.lt_succ m)⟩
  have hnumber : (t.date.addMonths months).dayNumber = Date.firstOfMonth (m + months) := by
    have hlength := Date.lengthOfMonth_bounds (m + months)
    rw [date, Date.dayNumber_addMonths, hmonth]
    rw [hmonth] at hfirst
    omega
  unfold addMonths? at h
  dsimp only at h
  split_ifs at h with hzero
  · rw [hzero, Int.add_zero, ← ht]
    exact (Option.some.inj h).symm
  · have hnanos : t.nanos = 0 := by rw [ht]
    have hoffset : t.offset = offset := by rw [ht]
    rw [hnumber, hsecond, hnanos, hoffset, ← atLocal?_day] at h
    exact (atLocal?_eq_some.1 h).2

/-- A unit of a fixed length is added to the seconds. -/
theorem add?_one_fixed {factor seconds : Nat} (hu : u.millis? = some factor)
    (hspan : Number.toInt64 (Number.roundHalfAway (1 * Number.ofNat factor)) = seconds * 1000)
    (hnext : u.start (k + 1) = u.start k + seconds) (hs : s = ⟨u.start k - offset, 0, offset⟩)
    (h : s.add? 1 u = some n) : n = ⟨u.start (k + 1) - offset, 0, offset⟩ := by
  rw [add?, hu] at h
  dsimp only at h
  rw [hspan, addMillis?_seconds (by rw [hs])] at h
  obtain ⟨-, rfl⟩ := ofSeconds?_eq_some h
  rw [hs, hnext, mk.injEq]
  exact ⟨by dsimp only; omega, rfl, rfl⟩

/-- The start of a unit, one unit later, is the start of the next one. -/
theorem add?_one (hu : u ≠ .millisecond) (hs : s = ⟨u.start k - offset, 0, offset⟩)
    (h : s.add? 1 u = some n) : n = ⟨u.start (k + 1) - offset, 0, offset⟩ := by
  cases u with
  | millisecond => exact absurd rfl hu
  | year =>
    have hmonths : Int.bmod (Number.toInt64 1 * 12) UInt64.size = 12 := by decide +kernel
    have h : s.addMonths? (Int.bmod (Number.toInt64 1 * 12) UInt64.size) = some n := h
    rw [hmonths] at h
    rw [addMonths?_first hs h, TimeUnit.start, Int.add_mul k 1 12]
    rfl
  | month =>
    have hmonths : Number.toInt64 1 = 1 := by decide +kernel
    have h : s.addMonths? (Number.toInt64 1) = some n := h
    rw [hmonths] at h
    exact addMonths?_first hs h
  | week =>
    have hspan : Number.toInt64 (Number.roundHalfAway (1 * Number.ofNat 604800000)) =
        (604800 : Nat) * 1000 := by decide +kernel
    refine add?_one_fixed rfl hspan ?_ hs h
    simp only [TimeUnit.start, secondsPerDay]
    omega
  | day =>
    have hspan : Number.toInt64 (Number.roundHalfAway (1 * Number.ofNat 86400000)) =
        (86400 : Nat) * 1000 := by decide +kernel
    refine add?_one_fixed rfl hspan ?_ hs h
    simp only [TimeUnit.start, secondsPerDay]
    omega
  | hour =>
    have hspan : Number.toInt64 (Number.roundHalfAway (1 * Number.ofNat 3600000)) =
        (3600 : Nat) * 1000 := by decide +kernel
    exact add?_one_fixed rfl hspan (by simp only [TimeUnit.start]; omega) hs h
  | minute =>
    have hspan : Number.toInt64 (Number.roundHalfAway (1 * Number.ofNat 60000)) =
        (60 : Nat) * 1000 := by decide +kernel
    exact add?_one_fixed rfl hspan (by simp only [TimeUnit.start]; omega) hs h
  | second =>
    have hspan : Number.toInt64 (Number.roundHalfAway (1 * Number.ofNat 1000)) =
        (1 : Nat) * 1000 := by decide +kernel
    exact add?_one_fixed rfl hspan rfl hs h

/-- The end of a unit is the last millisecond in front of the next one. -/
theorem endOf?_eq (hu : u ≠ .millisecond) (ht : u.indexAt t.localSeconds = k)
    (h : t.endOf? u = some e) : e = ⟨u.start (k + 1) - t.offset - 1, 999000000, t.offset⟩ := by
  rw [endOf?, if_neg hu] at h
  obtain ⟨s, hs, h⟩ := Option.bind_eq_some_iff.1 h
  obtain ⟨n, hn, h⟩ := Option.bind_eq_some_iff.1 h
  rw [startOf?_eq t hu, ht] at hs
  obtain rfl := add?_one hu (atLocal?_eq_some.1 hs).2 hn
  rw [addMillis?_neg_one rfl] at h
  exact (ofSeconds?_eq_some h).2

/-! ### Units of moments -/

/-- A moment in whole milliseconds that is not in a leap second. -/
structure IsWholeMilli (t : DateTime) : Prop where
  nanos_lt : t.nanos < nanosPerSecond
  nanos_mod : t.nanos % nanosPerMilli = 0

/-- The moments that a unit starts with the same moment for are those between its start and its
end. -/
theorem startOf?_eq_iff (hs : t.startOf? u = some s) (he : t.endOf? u = some e)
    {m : DateTime} (hm : m.IsWholeMilli) (hoffset : m.offset = t.offset) :
    m.startOf? u = some s ↔ m.before s = false ∧ e.before m = false := by
  obtain ⟨hlt, hmod⟩ := hm
  rw [nanosPerSecond] at hlt
  rw [nanosPerMilli] at hmod
  rw [← Bool.not_eq_true, ← Bool.not_eq_true, before_iff, before_iff]
  by_cases hu : u = .millisecond
  · subst hu
    obtain rfl : t = s := Option.some.inj hs
    obtain rfl : t = e := Option.some.inj he
    constructor
    · intro h
      obtain rfl : m = t := Option.some.inj h
      omega
    · intro h
      refine congrArg some ?_
      obtain ⟨seconds, nanos, offset⟩ := m
      obtain ⟨seconds', nanos', offset'⟩ := t
      rw [mk.injEq]
      dsimp only at h hoffset
      omega
  · obtain ⟨k, hk⟩ : ∃ k, u.indexAt t.localSeconds = k := ⟨_, rfl⟩
    rw [startOf?_eq t hu, hk] at hs
    have hstart := (atLocal?_eq_some.1 hs).2
    have hend := endOf?_eq hu hk he
    have hindex : u.indexAt m.localSeconds = k ↔
        ¬(m.seconds < s.seconds ∨ m.seconds = s.seconds ∧ m.nanos < s.nanos) ∧
          ¬(e.seconds < m.seconds ∨ e.seconds = m.seconds ∧ e.nanos < m.nanos) := by
      rw [TimeUnit.indexAt_eq_iff, localSeconds, hoffset, hstart, hend]
      dsimp only
      omega
    rw [← hindex, startOf?_eq m hu, hoffset]
    constructor
    · intro h
      have hsame := congrArg seconds ((atLocal?_eq_some.1 h).2.symm.trans hstart)
      exact u.strictMono_start.injective (by dsimp only at hsame; omega)
    · intro h
      rw [h, hs]

/-- The start and the end of a unit are moments of it, which are whole milliseconds. -/
theorem isWholeMilli_startOf?_endOf? (ht : t.IsWholeMilli) (hs : t.startOf? u = some s)
    (he : t.endOf? u = some e) :
    (s.IsWholeMilli ∧ s.offset = t.offset) ∧ e.IsWholeMilli ∧ e.offset = t.offset := by
  by_cases hu : u = .millisecond
  · subst hu
    obtain rfl : t = s := Option.some.inj hs
    obtain rfl : t = e := Option.some.inj he
    exact ⟨⟨ht, rfl⟩, ht, rfl⟩
  · rw [startOf?_eq t hu] at hs
    rw [(atLocal?_eq_some.1 hs).2, endOf?_eq hu rfl he]
    have hfirst : 0 < nanosPerSecond ∧ 0 % nanosPerMilli = 0 := by decide
    have hlast : 999000000 < nanosPerSecond ∧ 999000000 % nanosPerMilli = 0 := by decide
    exact ⟨⟨⟨hfirst.1, hfirst.2⟩, rfl⟩, ⟨hlast.1, hlast.2⟩, rfl⟩

theorem endOf?_congr (hu : u ≠ .millisecond) (h : s.startOf? u = t.startOf? u) :
    s.endOf? u = t.endOf? u := by
  rw [endOf?, endOf?, if_neg hu, if_neg hu, h]

/-- One millisecond behind the end of a unit the next one starts. -/
theorem startOf?_next (hu : u ≠ .millisecond) (he : t.endOf? u = some e)
    (hn : e.add? 1 .millisecond = some n) (hday : Date.inRange n.dayNumber = true) :
    n.startOf? u = some n := by
  have hspan : Number.toInt64 (Number.roundHalfAway (1 * Number.ofNat 1)) = 1 := by
    decide +kernel
  have hn : e.addMillis? (Number.toInt64 (Number.roundHalfAway (1 * Number.ofNat 1))) = some n := hn
  have hend := endOf?_eq hu rfl he
  rw [hspan, addMillis?_one (by rw [hend])] at hn
  obtain ⟨hrange, rfl⟩ := ofSeconds?_eq_some hn
  have hlocal : localSeconds ⟨e.seconds + 1, 0, e.offset⟩ =
      u.start (u.indexAt t.localSeconds + 1) := by
    rw [hend, localSeconds]
    dsimp only
    omega
  rw [startOf?_of_start hu hlocal, atLocal?_eq_some, ← hlocal]
  have hseconds : localSeconds ⟨e.seconds + 1, 0, e.offset⟩ - e.offset = e.seconds + 1 :=
    Int.add_sub_cancel _ _
  dsimp only
  rw [hseconds]
  exact ⟨⟨hday, hrange⟩, rfl⟩

/-- Starts and ends of units: a moment lies between those of its unit, they have the same start and
the same end as the moment, and so has exactly what lies between them. Behind the end the next unit
starts. -/
theorem startOf?_endOf?_spec (ht : t.IsWholeMilli) (hs : t.startOf? u = some s)
    (he : t.endOf? u = some e) :
    (t.before s = false ∧ e.before t = false) ∧
      (s.startOf? u = some s ∧ e.startOf? u = some s) ∧
      s.endOf? u = some e ∧
      (∀ n, e.add? 1 .millisecond = some n → Date.inRange n.dayNumber = true →
        n.startOf? u = some n) ∧
      ∀ m : DateTime, m.IsWholeMilli → m.offset = t.offset →
        (m.startOf? u = some s ↔ m.before s = false ∧ e.before m = false) := by
  have hiff : ∀ m : DateTime, m.IsWholeMilli → m.offset = t.offset →
      (m.startOf? u = some s ↔ m.before s = false ∧ e.before m = false) := fun m hm hoffset =>
    startOf?_eq_iff hs he hm hoffset
  obtain ⟨⟨hwhole, hoffset⟩, hwhole', hoffset'⟩ := isWholeMilli_startOf?_endOf? ht hs he
  have hbetween := (hiff t ht rfl).1 hs
  have hordered : e.before s = false := by
    obtain ⟨hlow, hhigh⟩ := hbetween
    rw [← Bool.not_eq_true, before_iff] at hlow hhigh ⊢
    omega
  have hstart : s.startOf? u = some s := (hiff s hwhole hoffset).2 ⟨before_irrefl s, hordered⟩
  refine ⟨hbetween, ⟨hstart, (hiff e hwhole' hoffset').2 ⟨hordered, before_irrefl e⟩⟩, ?_, ?_, hiff⟩
  · by_cases hu : u = .millisecond
    · subst hu
      obtain rfl : t = s := Option.some.inj hs
      exact he
    · rw [endOf?_congr hu (hstart.trans hs.symm), he]
  · intro n hn hday
    by_cases hu : u = .millisecond
    · rw [hu]
      rfl
    · exact startOf?_next hu he hn hday

/-- The last day of 2024 lies in the week from December 30th to January 5th, and behind it the week
from January 6th starts. -/
theorem startOf?_endOf?_spec_newYear :
    let t := twoHoursAhead ⟨2024, 12, 31⟩ 43200
    let s := twoHoursAhead ⟨2024, 12, 30⟩ 0
    let e := { twoHoursAhead ⟨2025, 1, 5⟩ 86399 with nanos := 999000000 }
    let n := twoHoursAhead ⟨2025, 1, 6⟩ 0
    t.IsWholeMilli ∧ t.startOf? .week = some s ∧ t.endOf? .week = some e ∧
      e.add? 1 .millisecond = some n ∧ Date.inRange n.dayNumber = true ∧
      (t.before s = false ∧ e.before t = false) ∧
      (s.startOf? .week = some s ∧ e.startOf? .week = some s) ∧ s.endOf? .week = some e ∧
      n.startOf? .week = some n := by
  intro t s e n
  have ht : t.IsWholeMilli := ⟨by decide, by decide⟩
  have hs : t.startOf? .week = some s := by decide +kernel
  have he : t.endOf? .week = some e := by decide +kernel
  have hn : e.add? 1 .millisecond = some n := by decide +kernel
  have hday : Date.inRange n.dayNumber = true := by decide
  obtain ⟨hbetween, hstart, hend, hnext, -⟩ := startOf?_endOf?_spec ht hs he
  exact ⟨ht, hs, he, hn, hday, hbetween, hstart, hend, hnext n hn hday⟩

end DateTime

end TemplateExpr
