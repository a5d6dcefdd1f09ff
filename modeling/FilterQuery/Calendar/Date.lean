/-!
# Calendar dates

Dates of the Gregorian calendar, extended backwards to years before its introduction, from the first
day of year `-262143` to the last day of year `262142`. Days are numbered from the first day of year
one; `ofDayNumber?` takes a number apart by cycles of 400, 100, 4 and single years.
-/

namespace FilterQuery

namespace Calendar

/-- A year of 366 days. -/
def isLeapYear (year : Int) : Bool := year % 4 == 0 && (year % 100 != 0 || year % 400 == 0)

/-- The lengths of the months of a year. -/
def monthLengths (year : Int) : List Nat :=
  [31, if isLeapYear year then 29 else 28, 31, 30, 31, 30, 31, 31, 30, 31, 30, 31]

/-- The number of days of a month; zero where there is no such month. -/
def daysInMonth (year : Int) (month : Nat) : Nat :=
  match month with
  | 0 => 0
  | month + 1 => (monthLengths year)[month]?.getD 0

/-- The first year with dates. -/
def firstYear : Int := -262143

/-- The last year with dates. -/
def lastYear : Int := 262142

/-- The years, months and days that make a date. -/
def IsDate (year : Int) (month day : Nat) : Prop :=
  firstYear ≤ year ∧ year ≤ lastYear ∧ 1 ≤ day ∧ day ≤ daysInMonth year month

instance (year : Int) (month day : Nat) : Decidable (IsDate year month day) :=
  inferInstanceAs (Decidable (_ ∧ _))

end Calendar

open Calendar

/-- A date of the calendar. -/
structure Date where
  /-- The year, where zero is the year before year one. -/
  year : Int
  /-- The month, from one. -/
  month : Nat
  /-- The day of the month, from one. -/
  day : Nat
  /-- The day exists. -/
  isDate : IsDate year month day
  deriving DecidableEq

namespace Date

/-- The date of a year, month and day, if there is one. -/
def of? (year : Int) (month day : Nat) : Option Date :=
  if h : IsDate year month day then some ⟨year, month, day, h⟩ else none

/-- The first day of year one. -/
def dayOne : Date := ⟨1, 1, 1, by decide⟩

/-- The number of days before a year, counted from the first day of year one. -/
def daysBeforeYear (year : Int) : Int :=
  let past := year - 1
  365 * past + past / 4 - past / 100 + past / 400

/-- The number of days of some months together. -/
def totalDays : List Nat → Nat
  | [] => 0
  | length :: rest => length + totalDays rest

/-- The number of days of a year before a month. -/
def daysBeforeMonth (year : Int) (month : Nat) : Nat :=
  totalDays ((monthLengths year).take (month - 1))

/-- The number of days between a date and the first day of year one. -/
def dayNumber (d : Date) : Int :=
  daysBeforeYear d.year + daysBeforeMonth d.year d.month + d.day - 1

/-- The month and the day of the month that a number of days into months of given lengths
reaches. -/
def monthAndDay (month days : Nat) : List Nat → Nat × Nat
  | [] => (month, days + 1)
  | length :: rest =>
    if days < length then (month, days + 1) else monthAndDay (month + 1) (days - length) rest

/-- The year of a day number and the number of days before it in that year. -/
def yearAndDays (number : Int) : Int × Nat :=
  let cycle := number / 146097
  let inCycle := (number % 146097).toNat
  let centuries := min (inCycle / 36524) 3
  let inCentury := inCycle - 36524 * centuries
  let leaps := inCentury / 1461
  let inLeap := inCentury - 1461 * leaps
  let years := min (inLeap / 365) 3
  (400 * cycle + (100 * centuries + 4 * leaps + years : Nat) + 1, inLeap - 365 * years)

/-- The date of a day number, if the calendar reaches that far. -/
def ofDayNumber? (number : Int) : Option Date :=
  let (year, days) := yearAndDays number
  let (month, day) := monthAndDay 1 days (monthLengths year)
  of? year month day

end Date

end FilterQuery
