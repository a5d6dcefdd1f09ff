import FilterQuery.Calendar.Shift
import FilterQuery.Proofs.Calendar.Succession

/-!
# Where dates are moved

Days are counted one by one. Months are counted from one month to another, and the day stays the
same as far as the month is long enough. A date is moved to the one that lies so far away, wherever
there is one: every count that is refused, because it is too large for a step or for a word once its
years are taken as months, leads out of the calendar.
-/

namespace FilterQuery

namespace Date

open Calendar

variable {d e : Date} {n : Int}

/-! ## How far dates lie apart -/

/-- The number of months between the first one of the year zero and that of a date. -/
def monthIndex (d : Date) : Int := 12 * d.year + (d.month - 1 : Nat)

/-- A number of months leads from one date to another, which is the same day of its month or the
last one of a month that is too short. -/
structure MonthsTo (d : Date) (n : Int) (e : Date) : Prop where
  /-- So many months lie between them. -/
  monthIndex_eq : e.monthIndex = d.monthIndex + n
  /-- The day is kept as far as the month has it. -/
  day_eq : e.day = min d.day (monthLength e.year e.month)

/-- A number of days, months or years leads from one date to another. -/
def Reaches (d : Date) : Span → Int → Date → Prop
  | .days, n, e => d.DaysTo n e
  | .months, n, e => d.MonthsTo n e
  | .years, n, e => d.MonthsTo (12 * n) e

/-- Between two dates there are not more days than may be tried. -/
theorem DaysTo.natAbs_le (h : d.DaysTo n e) : n.natAbs ≤ largestStep := by
  have hnumber := daysTo_iff.mp h
  have hd := d.dayNumber_range
  have he := e.dayNumber_range
  have hfirst : daysBeforeYear firstYear = -95746130 := by decide
  have hlast : daysBeforeYear (lastYear + 1) = 95745399 := by decide
  rw [hfirst, hlast] at hd he
  rw [largestStep]
  omega

theorem monthIndex_range (d : Date) :
    12 * firstYear ≤ d.monthIndex ∧ d.monthIndex < 12 * (lastYear + 1) := by
  have hyear := d.isDate
  have hmonth := d.month_bounds
  rw [monthIndex]
  simp only [IsDate] at hyear
  omega

/-- Between two dates there are not more months than may be tried. -/
theorem MonthsTo.natAbs_le (h : d.MonthsTo n e) : n.natAbs ≤ largestStep := by
  have hindex := h.monthIndex_eq
  have hd := d.monthIndex_range
  have he := e.monthIndex_range
  rw [firstYear, lastYear] at hd he
  rw [largestStep]
  omega

/-- Between two dates there are not more days, months or years than may be tried. -/
theorem Reaches.natAbs_le {span : Span} (h : d.Reaches span n e) : n.natAbs ≤ largestStep := by
  cases span with
  | days => exact DaysTo.natAbs_le h
  | months => exact MonthsTo.natAbs_le h
  | years =>
    have hmonths : (12 * n).natAbs ≤ largestStep := MonthsTo.natAbs_le h
    omega

/-- A word holds every count that may be tried. -/
theorem isWord_of_natAbs_le (h : n.natAbs ≤ largestStep) : IsWord n := by
  rw [largestStep] at h
  simp only [IsWord]
  omega

/-! ## What moving gives -/

theorem addDays?_eq_some_iff : d.addDays? n = some e ↔ d.DaysTo n e := by
  rw [addDays?]
  split
  · rw [ofDayNumber?_eq_some_iff, daysTo_iff]
  · rename_i hlarge
    exact ⟨nofun, fun h => absurd h.natAbs_le hlarge⟩

theorem addMonths?_eq_some_iff : d.addMonths? n = some e ↔ d.MonthsTo n e := by
  have hmonth := e.month_bounds
  rw [addMonths?]
  split
  · rw [of?_eq_some_iff]
    constructor
    · rintro ⟨hyear, hindex, hday⟩
      rw [← hyear, ← hindex, daysInMonth_eq _ hmonth.1 hmonth.2] at hday
      refine ⟨?_, hday⟩
      simp only [monthIndex]
      omega
    · rintro ⟨hindex, hday⟩
      simp only [monthIndex] at hindex
      have hyear : e.year = (12 * d.year + (d.month - 1 : Nat) + n) / 12 := by omega
      have hmonthOf : e.month = ((12 * d.year + (d.month - 1 : Nat) + n) % 12).toNat + 1 := by omega
      refine ⟨hyear, hmonthOf, ?_⟩
      rw [← hyear, ← hmonthOf, daysInMonth_eq _ hmonth.1 hmonth.2]
      exact hday
  · rename_i hlarge
    exact ⟨nofun, fun h => absurd h.natAbs_le hlarge⟩

/-- A date is moved to the one that lies so far away, if there is one. -/
theorem shift?_eq_some_iff {span : Span} {w : Word} :
    d.shift? span w = some e ↔ d.Reaches span w.toInt e := by
  cases span with
  | days => exact addDays?_eq_some_iff
  | months => exact addMonths?_eq_some_iff
  | years =>
    simp only [shift?, Reaches, Option.bind_eq_some_iff, Word.times?, Word.of?_eq_some_iff,
      addMonths?_eq_some_iff]
    constructor
    · rintro ⟨months, hmonths, h⟩
      rwa [hmonths, Int.mul_comm] at h
    · intro h
      have hword : IsWord (12 * w.toInt) := isWord_of_natAbs_le (MonthsTo.natAbs_le h)
      exact ⟨⟨12 * w.toInt, hword⟩, Int.mul_comm _ _, h⟩

/-- Multiplying the count before keeps to this: a product that is no word leads nowhere. -/
theorem times?_bind_shift?_eq_some_iff {span : Span} {w : Word} {k : Int} :
    (w.times? k).bind (d.shift? span) = some e ↔ d.Reaches span (w.toInt * k) e := by
  simp only [Option.bind_eq_some_iff, Word.times?, Word.of?_eq_some_iff, shift?_eq_some_iff]
  constructor
  · rintro ⟨product, hproduct, h⟩
    rwa [hproduct] at h
  · intro h
    exact ⟨⟨w.toInt * k, isWord_of_natAbs_le h.natAbs_le⟩, rfl, h⟩

end Date

end FilterQuery
