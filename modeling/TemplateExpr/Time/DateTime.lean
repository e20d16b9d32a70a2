import TemplateExpr.Number.Dyadic
import TemplateExpr.Text.Case
import TemplateExpr.Text.Search

/-!
# Moments

A `DateTime` is an instant together with the offset of the place where it is read. Two moments are
compared by their instants. Months and years are counted on the local calendar, all other units are
fixed spans of time. Within a leap second the fraction runs from one to two seconds.
-/

/-!
## Calendar dates

Days of the Gregorian calendar, extended in both directions. A date and the number of its day,
counted from 1970-01-01, determine each other (`Date.dayNumber`, `Date.ofDayNumber`). Both count
years from March on, so that the day that leap years add is the last one of such a year.
-/

namespace TemplateExpr

/-- A year, a month from 1 to 12 and a day of the month from 1 on. -/
structure Date where
  year : Int
  month : Nat
  day : Nat
deriving Repr, DecidableEq

namespace Date

/-! ### Years and months -/

/-- Whether February has 29 days in a year. -/
def isLeap (year : Int) : Bool := year % 4 == 0 && (year % 100 != 0 || year % 400 == 0)

/-- The number of days of a month. -/
def daysInMonth (year : Int) (month : Nat) : Nat :=
  if month = 2 then (if isLeap year then 29 else 28)
  else if month = 4 ∨ month = 6 ∨ month = 9 ∨ month = 11 then 30
  else 31

/-- The first year of the dates that can be represented. -/
def minYear : Int := -262143

/-- The last year of the dates that can be represented. -/
def maxYear : Int := 262142

/-- Whether the month and the day exist and the year can be represented. -/
def isValid (d : Date) : Bool :=
  minYear ≤ d.year && d.year ≤ maxYear && 1 ≤ d.month && d.month ≤ 12 &&
    1 ≤ d.day && d.day ≤ daysInMonth d.year d.month

/-! ### Numbers of days -/

/-- The number of the day 1970-01-01 when 0000-03-01 has the number zero. -/
def epochShift : Int := 719468

/-- The number of the day, counted from 1970-01-01. -/
def dayNumber (d : Date) : Int :=
  let year := if d.month ≤ 2 then d.year - 1 else d.year
  let month : Nat := if d.month ≤ 2 then d.month + 9 else d.month - 3
  365 * year + year / 4 - year / 100 + year / 400 + ((153 * month + 2) / 5 : Nat) + d.day - 1 -
    epochShift

/-- The date of the day with a number. -/
def ofDayNumber (n : Int) : Date :=
  let z := n + epochShift
  let era := z / 146097
  let dayOfEra := (z % 146097).toNat
  let yearOfEra :=
    (dayOfEra - dayOfEra / 1460 + dayOfEra / 36524 - dayOfEra / 146096) / 365
  let dayOfYear := dayOfEra - (365 * yearOfEra + yearOfEra / 4 - yearOfEra / 100)
  let month := (5 * dayOfYear + 2) / 153
  let day := dayOfYear - (153 * month + 2) / 5 + 1
  let year := 400 * era + yearOfEra
  if month < 10 then ⟨year, month + 3, day⟩ else ⟨year + 1, month - 9, day⟩

/-- The number of the first day that can be represented. -/
def minDayNumber : Int := dayNumber ⟨minYear, 1, 1⟩

/-- The number of the last day that can be represented. -/
def maxDayNumber : Int := dayNumber ⟨maxYear, 12, 31⟩

/-- Whether the day with this number can be represented. -/
def inRange (dayNumber : Int) : Bool := minDayNumber ≤ dayNumber && dayNumber ≤ maxDayNumber

/-! ### Weeks and years -/

/-- The day of the week of the day with a number, from 0 for Monday to 6 for Sunday. -/
def weekdayOf (dayNumber : Int) : Nat := ((dayNumber + 3) % 7).toNat

/-- The day of the week, from 0 for Monday to 6 for Sunday. -/
def weekday (d : Date) : Nat := weekdayOf d.dayNumber

/-- The number of the day in its year, from 1 on. -/
def dayOfYear (d : Date) : Nat := (d.dayNumber - dayNumber ⟨d.year, 1, 1⟩).toNat + 1

/-- The number of the week, which starts on a Monday and belongs to the year of its Thursday. -/
def week (d : Date) : Nat :=
  let thursday := ofDayNumber (d.dayNumber - d.weekday + 3)
  (thursday.dayOfYear - 1) / 7 + 1

/-! ### Moving by months -/

/-- The date `months` later; a day that the month does not have becomes its last one. -/
def addMonths (d : Date) (months : Int) : Date :=
  let n := d.year * 12 + d.month - 1 + months
  let year := n / 12
  let month := (n % 12).toNat + 1
  ⟨year, month, min d.day (daysInMonth year month)⟩

/-! ### Names -/

/-- The names of the months. -/
def monthNames : List String :=
  ["January", "February", "March", "April", "May", "June", "July", "August", "September",
   "October", "November", "December"]

/-- The names of the days of the week. -/
def weekdayNames : List String :=
  ["Monday", "Tuesday", "Wednesday", "Thursday", "Friday", "Saturday", "Sunday"]

/-- The first three letters of a name. -/
def shortName (name : String) : String := String.ofList (name.toList.take 3)

example : dayNumber ⟨1970, 1, 1⟩ = 0 := by decide
example : ofDayNumber (dayNumber ⟨2024, 2, 29⟩) = ⟨2024, 2, 29⟩ := by decide
example : (Date.mk 2024 3 5).weekday = 1 := by decide

end Date

end TemplateExpr

/-! ## Instants -/

namespace TemplateExpr

/-- An instant and an offset, both in seconds. -/
structure DateTime where
  /-- Seconds since the start of 1970 at offset zero. -/
  seconds : Int
  /-- Nanoseconds since that second, up to two seconds within a leap second. -/
  nanos : Nat
  /-- How far the local clock is ahead. -/
  offset : Int
deriving Repr, DecidableEq, Inhabited

namespace DateTime

/-- The number of nanoseconds in a second. -/
def nanosPerSecond : Nat := 1000000000

/-- The number of nanoseconds in a millisecond. -/
def nanosPerMilli : Nat := 1000000

/-- The number of seconds in a day. -/
def secondsPerDay : Int := 86400

/-! ### Order -/

/-- Whether two moments are the same instant. -/
def sameInstant (a b : DateTime) : Bool := a.seconds == b.seconds && a.nanos == b.nanos

/-- Whether `a` is earlier than `b`. -/
def before (a b : DateTime) : Bool :=
  a.seconds < b.seconds || (a.seconds == b.seconds && a.nanos < b.nanos)

/-! ### Local time -/

/-- Seconds since the start of 1970 on the local clock. -/
def localSeconds (t : DateTime) : Int := t.seconds + t.offset

/-- The number of the local day. -/
def dayNumber (t : DateTime) : Int := t.localSeconds / secondsPerDay

/-- The local date. -/
def date (t : DateTime) : Date := Date.ofDayNumber t.dayNumber

/-- The local second of the day. -/
def secondOfDay (t : DateTime) : Nat := (t.localSeconds % secondsPerDay).toNat

/-- The local hour. -/
def hour (t : DateTime) : Nat := t.secondOfDay / 3600

/-- The local minute of the hour. -/
def minute (t : DateTime) : Nat := t.secondOfDay / 60 % 60

/-- The local second of the minute; 59 in a leap second. -/
def second (t : DateTime) : Nat := t.secondOfDay % 60

/-- The millisecond of the second; from 1000 on in a leap second. -/
def milli (t : DateTime) : Nat := t.nanos / nanosPerMilli

/-- Whether the day of the instant can be represented. -/
def inRange (seconds : Int) : Bool := Date.inRange (seconds / secondsPerDay)

/-- The moment of a second, if its day can be represented. -/
def ofSeconds? (seconds : Int) (nanos : Nat) (offset : Int) : Option DateTime :=
  if inRange seconds then some ⟨seconds, nanos, offset⟩ else none

/-- The moment at which the local calendar and clock show a day and a second. -/
def ofLocal? (day : Int) (secondOfDay : Nat) (nanos : Nat) (offset : Int) : Option DateTime :=
  if Date.inRange day then ofSeconds? (day * secondsPerDay + secondOfDay - offset) nanos offset
  else none

/-- The same instant at offset zero. -/
def toUtc (t : DateTime) : DateTime := { t with offset := 0 }

/-! ### Milliseconds -/

/-- Milliseconds since the start of 1970. -/
def toMillis (t : DateTime) : Int := t.seconds * 1000 + t.milli

/-- The moment at offset zero that is `ms` milliseconds after the start of 1970. -/
def ofMillis? (ms : Int) : Option DateTime :=
  ofSeconds? (ms / 1000) ((ms % 1000).toNat * nanosPerMilli) 0

/-- The moment at offset zero of a number of milliseconds, of which the integer part counts. -/
def ofNumber? (x : Float) : Option DateTime :=
  if Number.isFinite x then ofMillis? (Number.toInt64 x) else none

/-- The longest span that can be added, in milliseconds. -/
def maxSpan : Int := (UInt64.size / 2 - 1 : Nat)

/-- The moment `ms` milliseconds later. A leap second lasts as long as the result lies within it. -/
def addMillis? (t : DateTime) (ms : Int) : Option DateTime :=
  if ms < -maxSpan then none
  else
    let whole := Int.tdiv ms 1000
    let part := Int.tmod ms 1000 * nanosPerMilli
    let nanos : Int := t.nanos
    let finish (seconds nanos : Int) : Option DateTime :=
      let carry := nanos / nanosPerSecond
      ofSeconds? (seconds + whole + carry) (nanos - carry * nanosPerSecond).toNat t.offset
    if t.nanos < nanosPerSecond then finish t.seconds (nanos + part)
    else if 0 < whole ∨ (0 < part ∧ 2 * nanosPerSecond ≤ nanos + part) then
      finish t.seconds (nanos - nanosPerSecond + part)
    else if whole < 0 then finish (t.seconds + 1) (nanos - nanosPerSecond + part)
    else some { t with nanos := (nanos + part).toNat }

/-- The time from `b` to `a` in milliseconds, rounded toward zero. A leap second in between counts
if the seconds of the day are in order. -/
def millisSince (a b : DateTime) : Int :=
  let secondOf (t : DateTime) : Int := t.seconds % secondsPerDay
  let leap : Int :=
    if secondOf b < secondOf a ∧ nanosPerSecond ≤ b.nanos then 1
    else if secondOf a < secondOf b ∧ nanosPerSecond ≤ a.nanos then -1
    else 0
  Int.tdiv ((a.seconds - b.seconds + leap) * nanosPerSecond + a.nanos - b.nanos) nanosPerMilli

/-! ### Months -/

/-- The largest number of months that a date can be moved by. -/
def maxMonths : Nat := UInt32.size / 2 - 1

/-- The moment `months` later on the local calendar, at the same time of the day. -/
def addMonths? (t : DateTime) (months : Int) : Option DateTime :=
  if months = 0 then some t
  else if maxMonths < months.natAbs then none
  else
    let date := t.date.addMonths months
    if date.isValid then ofLocal? date.dayNumber t.secondOfDay t.nanos t.offset else none

/-- The number of months from `b` to `a`, rounded toward zero. -/
def monthsSince (a b : DateTime) : Int :=
  let x := a.date
  let y := b.date
  let months : Int := (x.year - y.year) * 12 + x.month - y.month
  match b.addMonths? months with
  | none => months
  | some shifted =>
    if 0 < months ∧ a.before shifted then months - 1
    else if months < 0 ∧ shifted.before a then months + 1
    else months

end DateTime

/-! ### Units -/

/-- Units of time. -/
inductive TimeUnit where
  | year
  | month
  | week
  | day
  | hour
  | minute
  | second
  | millisecond
deriving Repr, DecidableEq

namespace TimeUnit

/-- The names of the units in the singular. -/
def names : List (String × TimeUnit) :=
  [("year", year), ("y", year), ("month", month), ("week", week), ("w", week), ("day", day),
   ("d", day), ("hour", hour), ("h", hour), ("minute", minute), ("min", minute),
   ("second", second), ("sec", second), ("millisecond", millisecond), ("milli", millisecond)]

/-- The unit with a name, in the singular or the plural and in any case of letters. -/
def ofName? (name : String) : Option TimeUnit :=
  let cs := Text.lowerAscii (Text.trim name.toList)
  if cs = ['m', 's'] then some millisecond
  else names.lookup (String.ofList ((Text.stripEnd? ['s'] cs).getD cs))

/-- The length of a unit in milliseconds; months and years have none. -/
def millis? : TimeUnit → Option Nat
  | year | month => none
  | week => some 604800000
  | day => some 86400000
  | hour => some 3600000
  | minute => some 60000
  | second => some 1000
  | millisecond => some 1

end TimeUnit

namespace DateTime

/-- The moment `amount` units later. Of months and years the integer part counts; a number of months
that does not fit a word of 64 bits wraps around. -/
def add? (t : DateTime) (amount : Float) (unit : TimeUnit) : Option DateTime :=
  match unit.millis? with
  | some factor =>
    t.addMillis? (Number.toInt64 (Number.roundHalfAway (amount * Number.ofNat factor)))
  | none =>
    let n := Number.toInt64 amount
    t.addMonths? (if unit = .year then Int.bmod (n * 12) UInt64.size else n)

/-- The start of the unit that the moment lies in. -/
def startOf? (t : DateTime) (unit : TimeUnit) : Option DateTime :=
  let d := t.date
  let at_ (day : Int) (second : Nat) : Option DateTime := ofLocal? day second 0 t.offset
  match unit with
  | .year => at_ (Date.dayNumber ⟨d.year, 1, 1⟩) 0
  | .month => at_ (Date.dayNumber ⟨d.year, d.month, 1⟩) 0
  | .week => at_ (t.dayNumber - Date.weekdayOf t.dayNumber) 0
  | .day => at_ t.dayNumber 0
  | .hour => at_ t.dayNumber (t.hour * 3600)
  | .minute => at_ t.dayNumber (t.hour * 3600 + t.minute * 60)
  | .second => at_ t.dayNumber t.secondOfDay
  | .millisecond => some t

/-- The last millisecond of the unit that the moment lies in. -/
def endOf? (t : DateTime) (unit : TimeUnit) : Option DateTime :=
  if unit = .millisecond then some t
  else do
    let start ← t.startOf? unit
    let next ← start.add? 1 unit
    next.addMillis? (-1)

/-- The time from `b` to `a` in a unit. Years are twelfths of whole months. -/
def diff (a b : DateTime) (unit : TimeUnit) : Float :=
  match unit.millis? with
  | some factor => Number.ofInt (a.millisSince b) / Number.ofNat factor
  | none =>
    let months := Number.ofInt (a.monthsSince b)
    if unit = .year then months / 12 else months

/-- A part of the local date or time. -/
def component (t : DateTime) (unit : TimeUnit) : Float :=
  match unit with
  | .year => Number.ofInt t.date.year
  | .month => Number.ofNat t.date.month
  | .week => Number.ofNat t.date.week
  | .day => Number.ofNat t.date.day
  | .hour => Number.ofNat t.hour
  | .minute => Number.ofNat t.minute
  | .second => Number.ofNat t.second
  | .millisecond => Number.ofNat t.milli

end DateTime

end TemplateExpr
