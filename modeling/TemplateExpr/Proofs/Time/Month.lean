import TemplateExpr.Proofs.Number.Integer
import TemplateExpr.Proofs.Time.Calendar

/-!
# Months between moments

The difference of two moments in months counts the whole months between them, toward zero: as many
can be added to the one without passing the other, and one more cannot
(`DateTime.diff_month_spec`). Where a month does not have the day, its last one stands for it.
-/

namespace TemplateExpr.DateTime

variable {a b s t : DateTime} {k day offset : Int} {second nanos : Nat}

/-! ### Order -/

theorem before_iff :
    a.before b = true ↔ a.seconds < b.seconds ∨ a.seconds = b.seconds ∧ a.nanos < b.nanos := by
  simp [before]

theorem before_asymm (h : a.before b = true) : b.before a = false := by
  rw [before_iff] at h
  rw [← Bool.not_eq_true, before_iff]
  omega

theorem before_irrefl (t : DateTime) : t.before t = false := by
  rw [← Bool.not_eq_true, before_iff]
  omega

/-! ### Local days -/

/-- What the local calendar and clock show at the moment that they are turned to. -/
theorem ofLocal?_eq_some (h : ofLocal? day second nanos offset = some t) :
    t.localSeconds = day * secondsPerDay + second ∧ t.nanos = nanos ∧ t.offset = offset := by
  rw [ofLocal?, ofSeconds?] at h
  split_ifs at h
  obtain rfl := Option.some.inj h
  exact ⟨Int.sub_add_cancel _ _, rfl, rfl⟩

theorem secondOfDay_lt (t : DateTime) : (t.secondOfDay : Int) < secondsPerDay := by
  rw [secondOfDay, secondsPerDay]
  omega

/-- The month of a moment on the local calendar. -/
def monthOf (t : DateTime) : Int := Date.monthOf t.dayNumber

/-- Where the clocks are the same, a moment in an earlier month is earlier. -/
theorem before_of_monthOf_lt (hoffset : a.offset = b.offset) (h : a.monthOf < b.monthOf) :
    a.before b = true := by
  have hday : a.dayNumber < b.dayNumber := Date.lt_of_monthOf_lt h
  rw [dayNumber, dayNumber, localSeconds, localSeconds, secondsPerDay, hoffset] at hday
  rw [before_iff]
  omega

/-- A moment that is moved by months is in the month that is meant. -/
theorem addMonths?_spec (h : t.addMonths? k = some s) :
    s.offset = t.offset ∧ s.monthOf = t.monthOf + k := by
  unfold addMonths? at h
  dsimp only at h
  split_ifs at h
  · obtain rfl := Option.some.inj h
    exact ⟨rfl, by omega⟩
  · obtain ⟨hlocal, -, hoffset⟩ := ofLocal?_eq_some h
    have hsecond := t.secondOfDay_lt
    have hday : s.dayNumber = (t.date.addMonths k).dayNumber := by
      rw [dayNumber, hlocal]
      rw [secondsPerDay] at hsecond ⊢
      omega
    have hpos : 1 ≤ t.date.day := (Date.ofDayNumber_spec t.dayNumber).2.2.1
    exact ⟨hoffset, by rw [monthOf, hday, Date.monthOf_addMonths hpos]; rfl⟩

/-! ### Whole months -/

/-- What counts is the number of months between the months of the two moments, unless the last one
of them is not complete. -/
theorem monthsSince_cases (hk : k = a.monthOf - b.monthOf) :
    b.addMonths? k = none ∧ a.monthsSince b = k ∨
      ∃ shifted, b.addMonths? k = some shifted ∧
        ((0 < k ∧ a.before shifted = true) ∧ a.monthsSince b = k - 1 ∨
          (k < 0 ∧ shifted.before a = true) ∧ a.monthsSince b = k + 1 ∨
          ¬(0 < k ∧ a.before shifted = true) ∧ ¬(k < 0 ∧ shifted.before a = true) ∧
            a.monthsSince b = k) := by
  have hmonths : (a.date.year - b.date.year) * 12 + a.date.month - b.date.month = k := by
    rw [hk]
    show _ = Date.monthIndex a.date - Date.monthIndex b.date
    rw [Date.monthIndex, Date.monthIndex]
    omega
  cases hshifted : b.addMonths? k with
  | none =>
    refine .inl ⟨rfl, ?_⟩
    simp only [monthsSince, hmonths, hshifted]
  | some shifted =>
    refine .inr ⟨shifted, rfl, ?_⟩
    simp only [monthsSince, hmonths, hshifted]
    split_ifs with hpassed hearlier
    · exact .inl ⟨hpassed, rfl⟩
    · exact .inr (.inl ⟨hearlier, rfl⟩)
    · exact .inr (.inr ⟨hpassed, hearlier, rfl⟩)

theorem addMonths?_zero (t : DateTime) : t.addMonths? 0 = some t := rfl

section

variable (hoffset : a.offset = b.offset)

include hoffset

/-- Moved by fewer months than there are between the two, `b` stays in front of `a`. -/
theorem before_of_addMonths?_lt (h : b.addMonths? k = some s) (hk : b.monthOf + k < a.monthOf) :
    s.before a = true := by
  obtain ⟨hsame, hmonth⟩ := addMonths?_spec h
  exact before_of_monthOf_lt (hsame.trans hoffset.symm) (hmonth ▸ hk)

/-- Moved by more months than there are between the two, `b` gets behind `a`. -/
theorem before_of_lt_addMonths? (h : b.addMonths? k = some s) (hk : a.monthOf < b.monthOf + k) :
    a.before s = true := by
  obtain ⟨hsame, hmonth⟩ := addMonths?_spec h
  exact before_of_monthOf_lt (hoffset.trans hsame.symm) (hmonth ▸ hk)

/-- From an earlier moment on, as many months as are counted do not pass the later one, and one more
does. -/
theorem monthsSince_of_not_before (hab : a.before b = false) {lo hi : DateTime}
    (hlo : b.addMonths? (a.monthsSince b) = some lo)
    (hhi : b.addMonths? (a.monthsSince b + 1) = some hi) :
    a.before lo = false ∧ a.before hi = true := by
  obtain ⟨k, hk⟩ : ∃ k, k = a.monthOf - b.monthOf := ⟨_, rfl⟩
  have hmonth : a.monthOf = b.monthOf + k := by omega
  have hpos : 0 ≤ k := by
    by_contra hlt
    rw [before_of_monthOf_lt hoffset (by omega)] at hab
    cases hab
  obtain ⟨hnone, hm⟩ | ⟨shifted, hshifted, ⟨hpassed, hm⟩ | ⟨hearlier, hm⟩ | ⟨hpassed, -, hm⟩⟩ :=
    monthsSince_cases hk <;> rw [hm] at hlo hhi
  · rw [hnone] at hlo
    cases hlo
  · -- the last month is not complete
    rw [Int.sub_add_cancel, hshifted] at hhi
    obtain rfl := Option.some.inj hhi
    have hless : b.monthOf + (k - 1) < a.monthOf := by omega
    exact ⟨before_asymm (before_of_addMonths?_lt hoffset hlo hless), hpassed.2⟩
  · omega
  · have hmore : a.monthOf < b.monthOf + (k + 1) := by omega
    refine ⟨?_, before_of_lt_addMonths? hoffset hhi hmore⟩
    obtain rfl | hpos : k = 0 ∨ 0 < k := by omega
    · rw [addMonths?_zero] at hlo
      rwa [← Option.some.inj hlo]
    · rw [hshifted] at hlo
      obtain rfl := Option.some.inj hlo
      exact Bool.eq_false_iff.2 fun h => hpassed ⟨hpos, h⟩

/-- From a later moment back, as many months as are counted do not pass the earlier one, and one
more does. -/
theorem monthsSince_of_before (hab : a.before b = true) {lo hi : DateTime}
    (hlo : b.addMonths? (a.monthsSince b - 1) = some lo)
    (hhi : b.addMonths? (a.monthsSince b) = some hi) :
    lo.before a = true ∧ hi.before a = false := by
  obtain ⟨k, hk⟩ : ∃ k, k = a.monthOf - b.monthOf := ⟨_, rfl⟩
  have hmonth : a.monthOf = b.monthOf + k := by omega
  have hneg : k ≤ 0 := by
    by_contra hlt
    rw [before_asymm (before_of_monthOf_lt hoffset.symm (by omega))] at hab
    cases hab
  obtain ⟨hnone, hm⟩ | ⟨shifted, hshifted, ⟨hlater, hm⟩ | ⟨hpassed, hm⟩ | ⟨-, hpassed, hm⟩⟩ :=
    monthsSince_cases hk <;> rw [hm] at hlo hhi
  · rw [hnone] at hhi
    cases hhi
  · omega
  · -- the last month is not complete
    rw [Int.add_sub_cancel, hshifted] at hlo
    obtain rfl := Option.some.inj hlo
    have hmore : a.monthOf < b.monthOf + (k + 1) := by omega
    exact ⟨hpassed.2, before_asymm (before_of_lt_addMonths? hoffset hhi hmore)⟩
  · have hless : b.monthOf + (k - 1) < a.monthOf := by omega
    refine ⟨before_of_addMonths?_lt hoffset hlo hless, ?_⟩
    obtain rfl | hneg : k = 0 ∨ k < 0 := by omega
    · rw [addMonths?_zero] at hhi
      rw [← Option.some.inj hhi]
      exact before_asymm hab
    · rw [hshifted] at hhi
      obtain rfl := Option.some.inj hhi
      exact Bool.eq_false_iff.2 fun h => hpassed ⟨hneg, h⟩

end

/-! ### Numbers of months -/

/-- A moment that can be represented, at an offset of less than a day. -/
structure IsProper (t : DateTime) : Prop where
  inRange : inRange t.seconds = true
  offset_lt : t.offset.natAbs < 86400

/-- All months that moments lie in are counted by numbers of a few digits. -/
theorem IsProper.natAbs_monthOf_le (h : t.IsProper) : t.monthOf.natAbs ≤ 3145728 := by
  obtain ⟨hrange, hoffset⟩ := h
  rw [DateTime.inRange, Date.inRange, Bool.and_eq_true, decide_eq_true_eq, decide_eq_true_eq,
    secondsPerDay] at hrange
  have hday : Date.minDayNumber - 1 ≤ t.dayNumber ∧ t.dayNumber ≤ Date.maxDayNumber + 1 := by
    rw [dayNumber, localSeconds, secondsPerDay]
    omega
  have hbounds := Date.monthOf_bounds hday.1 hday.2
  rw [Date.minYear, Date.maxYear] at hbounds
  rw [monthOf]
  omega

theorem monthsSince_bounds (ha : a.IsProper) (hb : b.IsProper) :
    -6291457 ≤ a.monthsSince b ∧ a.monthsSince b ≤ 6291457 := by
  obtain ⟨k, hk⟩ : ∃ k, k = a.monthOf - b.monthOf := ⟨_, rfl⟩
  have hsmall : -6291456 ≤ k ∧ k ≤ 6291456 := by
    have hmonth := ha.natAbs_monthOf_le
    have hmonth' := hb.natAbs_monthOf_le
    omega
  obtain ⟨-, hm⟩ | ⟨-, -, ⟨-, hm⟩ | ⟨-, hm⟩ | ⟨-, -, hm⟩⟩ := monthsSince_cases hk <;> omega

/-- A number of months that is an integer is added as it is. -/
theorem add?_month (t : DateTime) (hk : k.natAbs ≤ 2 ^ 53) :
    t.add? (Number.ofInt k) .month = t.addMonths? k := by
  show t.addMonths? (Number.toInt64 (Number.ofInt k)) = _
  rw [Number.toInt64_ofInt hk]

theorem diff_month (a b : DateTime) : a.diff b .month = Number.ofInt (a.monthsSince b) := by
  simp [diff, TimeUnit.millis?]

/-- The difference in months is the number of whole months from `b` to `a`, toward zero. -/
theorem diff_month_spec (ha : a.IsProper) (hb : b.IsProper) (hoffset : a.offset = b.offset) :
    ∃ m : Int, a.diff b .month = Number.ofInt m ∧
      (a.before b = false → ∀ lo hi, b.add? (Number.ofInt m) .month = some lo →
        b.add? (Number.ofInt (m + 1)) .month = some hi →
          a.before lo = false ∧ a.before hi = true) ∧
      (a.before b = true → ∀ lo hi, b.add? (Number.ofInt (m - 1)) .month = some lo →
        b.add? (Number.ofInt m) .month = some hi →
          lo.before a = true ∧ hi.before a = false) := by
  have hsmall := monthsSince_bounds ha hb
  have hadd {k : Int} (hk : -6291458 ≤ k ∧ k ≤ 6291458) :
      b.add? (Number.ofInt k) .month = b.addMonths? k := add?_month b (by omega)
  refine ⟨a.monthsSince b, a.diff_month b, fun hab lo hi hlo hhi => ?_, fun hab lo hi hlo hhi => ?_⟩
  · rw [hadd (by omega)] at hlo hhi
    exact monthsSince_of_not_before hoffset hab hlo hhi
  · rw [hadd (by omega)] at hlo hhi
    exact monthsSince_of_before hoffset hab hlo hhi

/-- The start of the day with a date, `second` seconds later, where the clock is two hours ahead. -/
def twoHoursAhead (date : Date) (second : Nat) : DateTime :=
  ⟨date.dayNumber * secondsPerDay + second - 7200, 0, 7200⟩

/-- From the end of January in a leap year to a morning in March: February is passed, although it
has no such day, and March is not, whose last day has not come. -/
theorem diff_month_spec_leapYear :
    let b := twoHoursAhead ⟨2024, 1, 31⟩ 0
    let a := twoHoursAhead ⟨2024, 3, 30⟩ 30000
    a.IsProper ∧ b.IsProper ∧ a.offset = b.offset ∧ a.before b = false ∧
      b.add? (Number.ofInt 1) .month = some (twoHoursAhead ⟨2024, 2, 29⟩ 0) ∧
      b.add? (Number.ofInt (1 + 1)) .month = some (twoHoursAhead ⟨2024, 3, 31⟩ 0) ∧
      a.diff b .month = Number.ofInt 1 ∧
      ∃ m : Int, a.diff b .month = Number.ofInt m ∧
        ∀ lo hi, b.add? (Number.ofInt m) .month = some lo →
          b.add? (Number.ofInt (m + 1)) .month = some hi →
            a.before lo = false ∧ a.before hi = true := by
  intro b a
  have ha : a.IsProper := ⟨by decide, by decide⟩
  have hb : b.IsProper := ⟨by decide, by decide⟩
  have hoffset : a.offset = b.offset := rfl
  have hab : a.before b = false := by decide
  have hlo : b.add? (Number.ofInt 1) .month = some (twoHoursAhead ⟨2024, 2, 29⟩ 0) := by
    rw [add?_month b (by decide)]
    decide
  have hhi : b.add? (Number.ofInt (1 + 1)) .month = some (twoHoursAhead ⟨2024, 3, 31⟩ 0) := by
    rw [add?_month b (by decide)]
    decide
  have hdiff : a.diff b .month = Number.ofInt 1 := by
    rw [diff_month, show a.monthsSince b = 1 by decide]
  obtain ⟨m, hm, hspec, -⟩ := diff_month_spec ha hb hoffset
  exact ⟨ha, hb, hoffset, hab, hlo, hhi, hdiff, m, hm, hspec hab⟩

end TemplateExpr.DateTime
