import Mathlib.Data.Int.ConditionallyCompleteOrder
import Mathlib.Order.Monotone.Basic
import Mathlib.Order.Monotone.Defs
import Mathlib.Order.SuccPred.Archimedean
import Mathlib.Tactic.IntervalCases
import TemplateExpr.Time.DateTime

/-!
# Months and the numbers of days

Months are counted from January of the year zero on (`Date.monthIndex`), and `Date.firstOfMonth` is
the number of the first day of each. It is strictly increasing, so every day lies in one month: the
one of its date (`Date.monthOf_eq_iff`). With that a date and the number of its day determine each
other (`Date.dayNumber_ofDayNumber`, `Date.ofDayNumber_dayNumber`), and a date that is moved by
months is in the month that is meant (`Date.monthOf_addMonths`).
-/

namespace TemplateExpr.Date

variable {d : Date} {k n : Int}

/-- The number of the month of a date, counted from January of the year zero. -/
def monthIndex (d : Date) : Int := d.year * 12 + d.month - 1

/-- The number of the first day of a month. -/
def firstOfMonth (k : Int) : Int := dayNumber ⟨k / 12, (k % 12).toNat + 1, 1⟩

/-- The number of days of a month. -/
def lengthOfMonth (k : Int) : Nat := daysInMonth (k / 12) ((k % 12).toNat + 1)

/-! ### First days -/

theorem dayNumber_eq (hpos : 1 ≤ d.month) (hle : d.month ≤ 12) :
    d.dayNumber = firstOfMonth d.monthIndex + d.day - 1 := by
  have hyear : d.monthIndex / 12 = d.year := by
    rw [monthIndex]
    omega
  have hmonth : (d.monthIndex % 12).toNat + 1 = d.month := by
    rw [monthIndex]
    omega
  rw [firstOfMonth, hyear, hmonth]
  simp only [dayNumber]
  omega

theorem dayNumber_first (hpos : 1 ≤ d.month) (hle : d.month ≤ 12) :
    dayNumber ⟨d.year, d.month, 1⟩ = firstOfMonth d.monthIndex := by
  have hfirst := @dayNumber_eq ⟨d.year, d.month, 1⟩ hpos hle
  rw [hfirst]
  exact Int.add_sub_cancel _ _

theorem dayNumber_newYear (year : Int) : dayNumber ⟨year, 1, 1⟩ = firstOfMonth (year * 12) := by
  have hindex : monthIndex ⟨year, 1, 1⟩ = year * 12 := Int.add_sub_cancel _ _
  rw [dayNumber_eq (Nat.le_refl 1) (by simp), hindex]
  exact Int.add_sub_cancel _ _

theorem isLeap_iff (year : Int) :
    isLeap year = true ↔ year % 4 = 0 ∧ (year % 100 ≠ 0 ∨ year % 400 = 0) := by
  simp [isLeap]

theorem firstOfMonth_succ (k : Int) : firstOfMonth (k + 1) = firstOfMonth k + lengthOfMonth k := by
  have hleap := isLeap_iff (k / 12)
  obtain ⟨m, hm⟩ : ∃ m, m = (k % 12).toNat := ⟨_, rfl⟩
  have hlt : m < 12 := by omega
  by_cases hdec : m = 11
  · have hyear : (k + 1) / 12 = k / 12 + 1 := by omega
    have hmonth : ((k + 1) % 12).toNat = 0 := by omega
    rw [firstOfMonth, firstOfMonth, lengthOfMonth, hyear, hmonth, ← hm, hdec]
    simp [dayNumber, daysInMonth]
    omega
  · have hyear : (k + 1) / 12 = k / 12 := by omega
    have hmonth : ((k + 1) % 12).toNat = m + 1 := by omega
    rw [firstOfMonth, firstOfMonth, lengthOfMonth, hyear, hmonth, ← hm]
    simp only [dayNumber, daysInMonth]
    interval_cases m <;> cases hl : isLeap (k / 12) <;> simp [hl] at hleap ⊢ <;> omega

theorem lengthOfMonth_bounds (k : Int) : 28 ≤ lengthOfMonth k ∧ lengthOfMonth k ≤ 31 := by
  rw [lengthOfMonth, daysInMonth]
  split_ifs <;> omega

theorem strictMono_firstOfMonth : StrictMono firstOfMonth := by
  refine strictMono_int_of_lt_succ fun k => ?_
  have hlength := lengthOfMonth_bounds k
  rw [firstOfMonth_succ]
  omega

/-! ### Years of an era -/

/-- The number of days of an era, which starts in March, in front of a year. -/
def yearStart (year : Nat) : Nat := 365 * year + year / 4 - year / 100 + year / 400

/-- The year of an era that a day lies in. -/
def yearOfEra (day : Nat) : Nat := (day - day / 1460 + day / 36524 - day / 146096) / 365

theorem monotone_yearOfEra : Monotone yearOfEra := by
  refine monotone_nat_of_le_succ fun day => Nat.div_le_div_right ?_
  omega

theorem yearOfEra_yearStart : ∀ year < 400,
    yearOfEra (yearStart year) = year ∧ yearOfEra (yearStart (year + 1) - 1) = year := by
  decide +kernel

/-- A day of an era lies in its year. -/
theorem yearStart_yearOfEra {day : Nat} (hday : day < 146097) :
    yearOfEra day < 400 ∧ yearStart (yearOfEra day) ≤ day ∧
      day < yearStart (yearOfEra day + 1) := by
  obtain ⟨year, hyear⟩ : ∃ year, year = yearOfEra day := ⟨_, rfl⟩
  have hlast : yearOfEra 146096 = 399 := by decide
  have hlt : year < 400 := by
    have hle := monotone_yearOfEra (show day ≤ 146096 by omega)
    omega
  rw [← hyear]
  refine ⟨hlt, ?_, ?_⟩
  · by_contra hbefore
    obtain _ | year := year
    · exact hbefore (Nat.zero_le _)
    have hle := monotone_yearOfEra (show day ≤ yearStart (year + 1) - 1 by omega)
    rw [(yearOfEra_yearStart year (by omega)).2] at hle
    omega
  · by_contra hbehind
    have hend : yearStart 400 = 146097 := by decide
    have hnext : year + 1 < 400 := by
      by_contra h400
      rw [show year + 1 = 400 by omega] at hbehind
      omega
    have hle := monotone_yearOfEra (show yearStart (year + 1) ≤ day by omega)
    rw [(yearOfEra_yearStart (year + 1) hnext).1] at hle
    omega

/-! ### Dates of days -/

/-- The number of days between the first of March of the year zero and that of another year. -/
def marchStart (year : Int) : Int := 365 * year + year / 4 - year / 100 + year / 400

theorem marchStart_era (era : Int) (year : Nat) :
    marchStart (400 * era + year) = 146097 * era + yearStart year := by
  rw [marchStart, yearStart]
  omega

/-- Counted from March on, the months of a year have 153 days in groups of five. -/
theorem firstOfMonth_eq (k : Int) : firstOfMonth k =
    marchStart ((k - 2) / 12) + (153 * ((k - 2) % 12) + 2) / 5 - epochShift := by
  rw [firstOfMonth]
  simp only [dayNumber]
  by_cases hmonth : (k % 12).toNat + 1 ≤ 2
  · have hyear : (k - 2) / 12 = k / 12 - 1 := by omega
    rw [if_pos hmonth, if_pos hmonth, hyear, marchStart]
    omega
  · have hyear : (k - 2) / 12 = k / 12 := by omega
    rw [if_neg hmonth, if_neg hmonth, hyear, marchStart]
    omega

/-- The date of a day, and the first day of the month behind it. -/
theorem ofDayNumber_spec (n : Int) :
    1 ≤ (ofDayNumber n).month ∧ (ofDayNumber n).month ≤ 12 ∧ 1 ≤ (ofDayNumber n).day ∧
      n = firstOfMonth (ofDayNumber n).monthIndex + (ofDayNumber n).day - 1 ∧
      n < firstOfMonth ((ofDayNumber n).monthIndex + 1) := by
  obtain ⟨era, hera⟩ : ∃ era, era = (n + epochShift) / 146097 := ⟨_, rfl⟩
  obtain ⟨day, hday⟩ : ∃ day, day = ((n + epochShift) % 146097).toNat := ⟨_, rfl⟩
  obtain ⟨year, hyear⟩ : ∃ year, year = yearOfEra day := ⟨_, rfl⟩
  obtain ⟨hlt, hlow, hhigh⟩ := yearStart_yearOfEra (show day < 146097 by omega)
  rw [← hyear] at hlt hlow hhigh
  obtain ⟨rest, hrest⟩ : ∃ rest, rest = day - yearStart year := ⟨_, rfl⟩
  obtain ⟨month, hmonth⟩ : ∃ month, month = (5 * rest + 2) / 153 := ⟨_, rfl⟩
  have hlength : rest < 366 := by
    rw [yearStart] at hlow hrest hhigh
    omega
  have hdate : ofDayNumber n =
      if month < 10 then ⟨400 * era + year, month + 3, rest - (153 * month + 2) / 5 + 1⟩
      else ⟨400 * era + year + 1, month - 9, rest - (153 * month + 2) / 5 + 1⟩ := by
    have hsame : day - (365 * year + year / 4 - year / 100) = rest := by
      rw [hrest, yearStart]
      omega
    rw [yearOfEra] at hyear
    rw [ofDayNumber]
    simp only [← hera, ← hday, ← hyear, hsame, ← hmonth]
  have hn : n = marchStart (400 * era + year) + rest - epochShift := by
    rw [marchStart_era]
    omega
  have hindex : (ofDayNumber n).monthIndex = 12 * (400 * era + year) + month + 2 := by
    rw [hdate]
    split <;> dsimp only [monthIndex] <;> omega
  have hdayOf : (ofDayNumber n).day = rest - (153 * month + 2) / 5 + 1 := by
    rw [hdate]
    split <;> rfl
  have hfirst : firstOfMonth (ofDayNumber n).monthIndex =
      marchStart (400 * era + year) + ((153 * month + 2) / 5 : Nat) - epochShift := by
    rw [firstOfMonth_eq, hindex,
      show (12 * (400 * era + year) + month + 2 - 2) / 12 = 400 * era + year by omega]
    omega
  refine ⟨?_, ?_, by omega, by omega, ?_⟩
  · rw [hdate]
    split <;> dsimp only <;> omega
  · rw [hdate]
    split <;> dsimp only <;> omega
  · rw [firstOfMonth_eq, hindex]
    by_cases hlast : month = 11
    · rw [show (12 * (400 * era + year) + month + 2 + 1 - 2) / 12 =
        400 * era + (year + 1 : Nat) by omega, marchStart_era]
      omega
    · have hmod : (12 * (400 * era + year) + month + 2 + 1 - 2) % 12 = (month + 1 : Int) := by omega
      rw [show (12 * (400 * era + year) + month + 2 + 1 - 2) / 12 = 400 * era + year by omega, hmod]
      omega

theorem dayNumber_ofDayNumber (n : Int) : (ofDayNumber n).dayNumber = n := by
  obtain ⟨hpos, hle, -, hday, -⟩ := ofDayNumber_spec n
  rw [dayNumber_eq hpos hle]
  exact hday.symm

/-! ### Months of days -/

/-- The month that a day lies in. -/
def monthOf (n : Int) : Int := (ofDayNumber n).monthIndex

theorem firstOfMonth_monthOf (n : Int) :
    firstOfMonth (monthOf n) ≤ n ∧ n < firstOfMonth (monthOf n + 1) := by
  obtain ⟨-, -, hpos, hday, hnext⟩ := ofDayNumber_spec n
  exact ⟨by rw [monthOf]; omega, hnext⟩

/-- Every day lies in one month only. -/
theorem monthOf_eq_iff : monthOf n = k ↔ firstOfMonth k ≤ n ∧ n < firstOfMonth (k + 1) := by
  constructor
  · rintro rfl
    exact firstOfMonth_monthOf n
  · rintro ⟨hlow, hhigh⟩
    obtain ⟨hlow', hhigh'⟩ := firstOfMonth_monthOf n
    have hle := strictMono_firstOfMonth.lt_iff_lt.1 (hlow.trans_lt hhigh')
    have hge := strictMono_firstOfMonth.lt_iff_lt.1 (hlow'.trans_lt hhigh)
    omega

theorem monthOf_dayNumber (hpos : 1 ≤ d.month) (hle : d.month ≤ 12) (hday : 1 ≤ d.day)
    (hlast : d.day ≤ lengthOfMonth d.monthIndex) : monthOf d.dayNumber = d.monthIndex := by
  rw [dayNumber_eq hpos hle, monthOf_eq_iff, firstOfMonth_succ]
  omega

/-- Two dates are the same if they are the same day of the same month. -/
theorem eq_of_monthIndex {d e : Date} (hd : 1 ≤ d.month ∧ d.month ≤ 12)
    (he : 1 ≤ e.month ∧ e.month ≤ 12) (hmonth : d.monthIndex = e.monthIndex)
    (hday : d.day = e.day) : d = e := by
  obtain ⟨year, month, day⟩ := d
  obtain ⟨year', month', day'⟩ := e
  simp only [monthIndex] at hmonth hd he
  rw [mk.injEq]
  exact ⟨by omega, by omega, hday⟩

/-- A date that exists is the date of its day. -/
theorem ofDayNumber_dayNumber (hpos : 1 ≤ d.month) (hle : d.month ≤ 12) (hday : 1 ≤ d.day)
    (hlast : d.day ≤ lengthOfMonth d.monthIndex) : ofDayNumber d.dayNumber = d := by
  have hmonth : (ofDayNumber d.dayNumber).monthIndex = d.monthIndex :=
    monthOf_dayNumber hpos hle hday hlast
  obtain ⟨hpos', hle', hday', hnumber, -⟩ := ofDayNumber_spec d.dayNumber
  have hsame := dayNumber_eq hpos hle
  rw [hmonth] at hnumber
  exact eq_of_monthIndex ⟨hpos', hle'⟩ ⟨hpos, hle⟩ hmonth (by omega)

/-- A day of an earlier month is earlier. -/
theorem lt_of_monthOf_lt {m : Int} (h : monthOf m < monthOf n) : m < n := by
  have hbehind := (firstOfMonth_monthOf m).2
  have hfront := (firstOfMonth_monthOf n).1
  have hmono := strictMono_firstOfMonth.monotone (show monthOf m + 1 ≤ monthOf n by omega)
  omega

/-- The day before the first month that can be represented, and the day behind the last one, lie in
the months next to them. -/
theorem monthOf_bounds (hlow : minDayNumber - 1 ≤ n) (hhigh : n ≤ maxDayNumber + 1) :
    minYear * 12 - 1 ≤ monthOf n ∧ monthOf n ≤ maxYear * 12 + 12 := by
  obtain ⟨hfirst, hnext⟩ := firstOfMonth_monthOf n
  have hmin : firstOfMonth (minYear * 12 - 1) ≤ minDayNumber - 1 := by decide
  have hmax : maxDayNumber + 1 < firstOfMonth (maxYear * 12 + 13) := by decide
  have hle := strictMono_firstOfMonth.lt_iff_lt.1 (show firstOfMonth (minYear * 12 - 1) <
    firstOfMonth (monthOf n + 1) by omega)
  have hge := strictMono_firstOfMonth.lt_iff_lt.1 (show firstOfMonth (monthOf n) <
    firstOfMonth (maxYear * 12 + 13) by omega)
  omega

/-! ### Moving by months -/

/-- A date that is moved by months is the last day of the month if it is not in it. -/
theorem dayNumber_addMonths (d : Date) (months : Int) :
    (d.addMonths months).dayNumber = firstOfMonth (d.monthIndex + months) +
      min d.day (lengthOfMonth (d.monthIndex + months)) - 1 := by
  have hdate : d.addMonths months = ⟨(d.monthIndex + months) / 12,
      ((d.monthIndex + months) % 12).toNat + 1,
      min d.day (lengthOfMonth (d.monthIndex + months))⟩ := rfl
  have hindex : (d.addMonths months).monthIndex = d.monthIndex + months := by
    rw [hdate]
    dsimp only [monthIndex]
    omega
  rw [dayNumber_eq, hindex, hdate]
  · rw [hdate]
    exact Nat.le_add_left 1 _
  · rw [hdate]
    dsimp only
    omega

theorem monthOf_addMonths (hday : 1 ≤ d.day) (months : Int) :
    monthOf (d.addMonths months).dayNumber = d.monthIndex + months := by
  have hlength := lengthOfMonth_bounds (d.monthIndex + months)
  rw [dayNumber_addMonths, monthOf_eq_iff, firstOfMonth_succ]
  omega

end TemplateExpr.Date
