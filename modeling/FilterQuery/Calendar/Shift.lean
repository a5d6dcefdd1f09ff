import FilterQuery.Calendar.Date
import FilterQuery.Word

/-!
# Moving dates

`shift?` moves a date by days, months or years. A month or year that is too short for the day takes
its last day instead. The result is missing when it leaves the calendar or when the count of months
in a number of years is no word.
-/

namespace FilterQuery

namespace Calendar

/-- The units in which a date is moved. -/
inductive Span where
  /-- Single days. -/
  | days
  /-- Months of the calendar. -/
  | months
  /-- Years of twelve months. -/
  | years
  deriving DecidableEq, Repr

/-- The largest step of days or months that is tried; every larger one leaves the calendar. -/
def largestStep : Nat := 0x7fffffff

end Calendar

namespace Date

open Calendar

/-- The date some days later, or earlier for a negative count. -/
def addDays? (d : Date) (n : Int) : Option Date :=
  if n.natAbs ≤ largestStep then ofDayNumber? (d.dayNumber + n) else none

/-- The date some months later, or earlier for a negative count, on the same day of the month or the
last one before it. -/
def addMonths? (d : Date) (n : Int) : Option Date :=
  if n.natAbs ≤ largestStep then
    let index := 12 * d.year + (d.month - 1 : Nat) + n
    let year := index / 12
    let month := (index % 12).toNat + 1
    of? year month (min d.day (daysInMonth year month))
  else none

/-- The date some days, months or years later, or earlier for a negative count. -/
def shift? (d : Date) : Span → Word → Option Date
  | .days, n => d.addDays? n.toInt
  | .months, n => d.addMonths? n.toInt
  | .years, n => (n.times? 12).bind fun months => d.addMonths? months.toInt

end Date

end FilterQuery
