import FilterQuery.Proofs.Calendar.Text
import Mathlib.Data.Int.Basic
import Mathlib.Tactic.IntervalCases

/-!
# The Gregorian calendar

The lengths of months by the rule that the calendar is known by, and the numbers of its days. Later
dates have greater numbers, the numbers leave no gap, and each of them is taken apart into the one
date that has it.
-/

namespace FilterQuery

namespace Calendar

/-! ## The rule -/

/-- Every fourth year has a leap day, but of the years that end a century only every fourth. -/
def IsLeap (year : Int) : Prop := 4 ∣ year ∧ (100 ∣ year → 400 ∣ year)

instance (year : Int) : Decidable (IsLeap year) := inferInstanceAs (Decidable (_ ∧ _))

/-- The length of a month by the rule: thirty days have April, June, September and November, the
second month has 28 or 29, and all others have 31. -/
def monthLength (year : Int) (month : Nat) : Nat :=
  if month = 2 then if IsLeap year then 29 else 28
  else if month ∈ [4, 6, 9, 11] then 30
  else 31

theorem one_le_monthLength (year : Int) (month : Nat) : 1 ≤ monthLength year month := by
  simp only [monthLength]
  split_ifs <;> omega

theorem isLeapYear_iff (year : Int) : isLeapYear year = true ↔ IsLeap year := by
  simp only [isLeapYear, IsLeap, Bool.and_eq_true, Bool.or_eq_true, beq_iff_eq, bne_iff_ne]
  omega

/-- The months have the lengths of the rule. -/
theorem daysInMonth_eq (year : Int) {month : Nat} (hfirst : 1 ≤ month) (hlast : month ≤ 12) :
    daysInMonth year month = monthLength year month := by
  by_cases hleap : IsLeap year <;> interval_cases month <;>
    simp [daysInMonth, monthLengths, monthLength, isLeapYear_iff, hleap]

/-- A year, a month and a day make a date when the year is one of the calendar and the rule has such
a day. -/
theorem isDate_iff (year : Int) (month day : Nat) :
    IsDate year month day ↔ firstYear ≤ year ∧ year ≤ lastYear ∧ 1 ≤ month ∧ month ≤ 12 ∧
      1 ≤ day ∧ day ≤ monthLength year month := by
  by_cases hmonth : 1 ≤ month ∧ month ≤ 12
  · rw [IsDate, daysInMonth_eq year hmonth.1 hmonth.2]
    simp [hmonth]
  · have hnone : daysInMonth year month = 0 := by
      rcases Nat.eq_zero_or_pos month with rfl | hpos
      · rfl
      · exact daysInMonth_eq_zero year (by omega)
    simp only [IsDate, hnone]
    omega

/-! ## Days of a year -/

/-- The length of a year. -/
def yearLength (year : Int) : Nat := if IsLeap year then 366 else 365

/-- A month begins where the one before it ends. -/
theorem daysBeforeMonth_succ (year : Int) {month : Nat} (hfirst : 1 ≤ month) (hlast : month ≤ 12) :
    Date.daysBeforeMonth year (month + 1) =
      Date.daysBeforeMonth year month + monthLength year month := by
  by_cases hleap : IsLeap year <;> interval_cases month <;>
    simp [Date.daysBeforeMonth, Date.totalDays, monthLengths, monthLength, isLeapYear_iff, hleap]

theorem daysBeforeMonth_one (year : Int) : Date.daysBeforeMonth year 1 = 0 := rfl

/-- The months fill the year. -/
theorem totalDays_monthLengths (year : Int) :
    Date.totalDays (monthLengths year) = yearLength year := by
  by_cases hleap : IsLeap year <;>
    simp [Date.totalDays, monthLengths, yearLength, isLeapYear_iff, hleap]

/-- Behind the twelfth month the year ends. -/
theorem daysBeforeMonth_end (year : Int) : Date.daysBeforeMonth year 13 = yearLength year := by
  rw [← totalDays_monthLengths]
  rfl

/-- A year begins where the one before it ends. -/
theorem daysBeforeYear_succ (year : Int) :
    Date.daysBeforeYear (year + 1) = Date.daysBeforeYear year + yearLength year := by
  by_cases hleap : IsLeap year
  · rw [yearLength, if_pos hleap]
    simp only [IsLeap] at hleap
    simp only [Date.daysBeforeYear]
    omega
  · rw [yearLength, if_neg hleap]
    simp only [IsLeap] at hleap
    simp only [Date.daysBeforeYear]
    omega

theorem daysBeforeYear_le {year later : Int} (h : year ≤ later) :
    Date.daysBeforeYear year ≤ Date.daysBeforeYear later := by
  simp only [Date.daysBeforeYear]
  omega

theorem lt_of_daysBeforeYear_lt {year later : Int}
    (h : Date.daysBeforeYear year < Date.daysBeforeYear later) : year < later :=
  not_le.mp fun hle => (daysBeforeYear_le hle).not_gt h

end Calendar

namespace Date

open Calendar

/-! ## Later dates have greater numbers -/

/-- The number of days before a date in its year. -/
def dayInYear (d : Date) : Nat := daysBeforeMonth d.year d.month + d.day - 1

theorem month_bounds (d : Date) : 1 ≤ d.month ∧ d.month ≤ 12 := by
  have h := (isDate_iff d.year d.month d.day).mp d.isDate
  exact ⟨h.2.2.1, h.2.2.2.1⟩

theorem day_bounds (d : Date) : 1 ≤ d.day ∧ d.day ≤ monthLength d.year d.month :=
  ((isDate_iff d.year d.month d.day).mp d.isDate).2.2.2.2

theorem dayNumber_eq (d : Date) : d.dayNumber = daysBeforeYear d.year + d.dayInYear := by
  have hday := d.day_bounds.1
  simp only [dayNumber, dayInYear]
  omega

theorem daysBeforeMonth_le (year : Int) {month later : Nat} (hfirst : 1 ≤ month)
    (h : month ≤ later) (hlast : later ≤ 13) :
    daysBeforeMonth year month ≤ daysBeforeMonth year later := by
  induction later, h using Nat.le_induction with
  | base => exact Nat.le_refl _
  | succ later h ih =>
    have hprevious := ih (by omega)
    rw [daysBeforeMonth_succ year (by omega) (by omega)]
    omega

/-- A day lies between the beginning of its month and that of the next one. -/
theorem dayInYear_bounds (d : Date) :
    daysBeforeMonth d.year d.month ≤ d.dayInYear ∧
      d.dayInYear < daysBeforeMonth d.year (d.month + 1) := by
  obtain ⟨hfirst, hlast⟩ := d.month_bounds
  obtain ⟨hday, hlength⟩ := d.day_bounds
  rw [daysBeforeMonth_succ d.year hfirst hlast, dayInYear]
  omega

theorem dayInYear_lt (d : Date) : d.dayInYear < yearLength d.year := by
  obtain ⟨hfirst, hlast⟩ := d.month_bounds
  have hend := daysBeforeMonth_le d.year (by omega : 1 ≤ d.month + 1) (by omega) (Nat.le_refl 13)
  have hday := d.dayInYear_bounds.2
  rw [daysBeforeMonth_end] at hend
  omega

/-- The numbers of a year lie before those of the next one. -/
theorem dayNumber_bounds (d : Date) :
    daysBeforeYear d.year ≤ d.dayNumber ∧ d.dayNumber < daysBeforeYear (d.year + 1) := by
  have hday := d.dayInYear_lt
  rw [daysBeforeYear_succ, dayNumber_eq]
  omega

theorem dayNumber_lt_of_year_lt {d e : Date} (h : d.year < e.year) : d.dayNumber < e.dayNumber := by
  have hle : daysBeforeYear (d.year + 1) ≤ daysBeforeYear e.year := daysBeforeYear_le (by omega)
  have hd := d.dayNumber_bounds.2
  have he := e.dayNumber_bounds.1
  omega

theorem dayNumber_lt_of_month_lt {d e : Date} (hyear : d.year = e.year) (h : d.month < e.month) :
    d.dayNumber < e.dayNumber := by
  have hle := daysBeforeMonth_le d.year (by omega : 1 ≤ d.month + 1) h
    (by have := e.month_bounds.2; omega)
  have hd := d.dayInYear_bounds.2
  have he := e.dayInYear_bounds.1
  rw [dayNumber_eq, dayNumber_eq, ← hyear]
  rw [← hyear] at he
  omega

theorem dayNumber_lt_of_day_lt {d e : Date} (hyear : d.year = e.year) (hmonth : d.month = e.month)
    (h : d.day < e.day) : d.dayNumber < e.dayNumber := by
  have hday := d.day_bounds.1
  rw [dayNumber_eq, dayNumber_eq, dayInYear, dayInYear, ← hyear, ← hmonth]
  omega

/-- No two dates share a number. -/
theorem dayNumber_injective {d e : Date} (h : d.dayNumber = e.dayNumber) : d = e := by
  have hyear : d.year = e.year :=
    le_antisymm (not_lt.mp fun hlt => (dayNumber_lt_of_year_lt hlt).ne' h)
      (not_lt.mp fun hlt => (dayNumber_lt_of_year_lt hlt).ne h)
  have hmonth : d.month = e.month :=
    le_antisymm (not_lt.mp fun hlt => (dayNumber_lt_of_month_lt hyear.symm hlt).ne' h)
      (not_lt.mp fun hlt => (dayNumber_lt_of_month_lt hyear hlt).ne h)
  have hday : d.day = e.day :=
    le_antisymm (not_lt.mp fun hlt => (dayNumber_lt_of_day_lt hyear.symm hmonth.symm hlt).ne' h)
      (not_lt.mp fun hlt => (dayNumber_lt_of_day_lt hyear hmonth hlt).ne h)
  exact eq_of_parts hyear hmonth hday

/-! ## Numbers are taken apart -/

/-- The days before a year by cycles of 400, 100, 4 and single years. -/
theorem daysBeforeYear_cycles (cycle : Int) {centuries leaps years : Nat} (hcenturies : centuries ≤ 3)
    (hleaps : leaps ≤ 24) (hyears : years ≤ 3) :
    daysBeforeYear (400 * cycle + (100 * centuries + 4 * leaps + years : Nat) + 1) =
      146097 * cycle + 36524 * centuries + 1461 * leaps + 365 * years := by
  simp only [daysBeforeYear]
  omega

/-- A number is taken apart into a year and the days before it in that year. -/
theorem yearAndDays_spec (number : Int) :
    daysBeforeYear (yearAndDays number).1 + (yearAndDays number).2 = number ∧
      (yearAndDays number).2 < yearLength (yearAndDays number).1 := by
  obtain ⟨cycle, hcycle⟩ : ∃ c, c = number / 146097 := ⟨_, rfl⟩
  obtain ⟨inCycle, hinCycle⟩ : ∃ n, n = (number % 146097).toNat := ⟨_, rfl⟩
  obtain ⟨centuries, hcenturies⟩ : ∃ n, n = min (inCycle / 36524) 3 := ⟨_, rfl⟩
  obtain ⟨inCentury, hinCentury⟩ : ∃ n, n = inCycle - 36524 * centuries := ⟨_, rfl⟩
  obtain ⟨leaps, hleaps⟩ : ∃ n, n = inCentury / 1461 := ⟨_, rfl⟩
  obtain ⟨inLeap, hinLeap⟩ : ∃ n, n = inCentury - 1461 * leaps := ⟨_, rfl⟩
  obtain ⟨years, hyears⟩ : ∃ n, n = min (inLeap / 365) 3 := ⟨_, rfl⟩
  have hsplit : yearAndDays number =
      (400 * cycle + (100 * centuries + 4 * leaps + years : Nat) + 1, inLeap - 365 * years) := by
    subst_vars
    rfl
  rw [hsplit]
  dsimp only
  constructor
  · rw [daysBeforeYear_cycles cycle (by omega) (by omega) (by omega)]
    omega
  · rw [yearLength]
    split
    · omega
    · rename_i hleap
      -- A last day beyond 365 falls into the fourth year of a group, which has one.
      simp only [IsLeap] at hleap
      omega

/-- Days into some months are taken apart into a month and a day of it. -/
theorem monthAndDay_spec {lengths : List Nat} {days : Nat} (h : days < totalDays lengths)
    (month : Nat) :
    ∃ before, ∃ hbefore : before < lengths.length,
      (monthAndDay month days lengths).1 = month + before ∧
        totalDays (lengths.take before) + (monthAndDay month days lengths).2 = days + 1 ∧
        1 ≤ (monthAndDay month days lengths).2 ∧
        (monthAndDay month days lengths).2 ≤ lengths[before] := by
  induction lengths generalizing month days with
  | nil => exact absurd h (Nat.not_lt_zero _)
  | cons length rest ih =>
    rw [monthAndDay]
    split
    · rename_i hshort
      exact ⟨0, by simp, rfl, by simp [totalDays], by simp, hshort⟩
    · rename_i hlong
      have hrest : days - length < totalDays rest := by
        rw [totalDays] at h
        omega
      obtain ⟨before, hbefore, hmonth, hsum, hfirst, hlast⟩ := ih hrest (month + 1)
      refine ⟨before + 1, by simpa using hbefore, by omega, ?_, hfirst, by simpa using hlast⟩
      rw [List.take_succ_cons, totalDays]
      omega

/-- A number is taken apart into a year, a month and a day of it. -/
theorem exists_ofDayNumber?_eq (number : Int) :
    ∃ year month day, ofDayNumber? number = of? year month day ∧
      1 ≤ day ∧ day ≤ daysInMonth year month ∧
      daysBeforeYear year + daysBeforeMonth year month + day - 1 = number ∧
      daysBeforeYear year ≤ number ∧ number < daysBeforeYear (year + 1) := by
  obtain ⟨hnumber, hdays⟩ := yearAndDays_spec number
  obtain ⟨year, days, hyear⟩ : ∃ y k, yearAndDays number = (y, k) := ⟨_, _, rfl⟩
  rw [hyear] at hnumber hdays
  dsimp only at hnumber hdays
  obtain ⟨before, hbefore, hmonth, hsum, hfirst, hlast⟩ :=
    monthAndDay_spec (by rw [totalDays_monthLengths]; exact hdays) 1
  obtain ⟨month, day, hmonthDay⟩ : ∃ m k, monthAndDay 1 days (monthLengths year) = (m, k) :=
    ⟨_, _, rfl⟩
  rw [hmonthDay] at hmonth hsum hfirst hlast
  dsimp only at hmonth hsum hfirst hlast
  have hlength : daysInMonth year month = (monthLengths year)[before] := by
    rw [hmonth, Nat.add_comm, daysInMonth, List.getElem?_eq_getElem hbefore, Option.getD_some]
  have hbeforeMonth : daysBeforeMonth year month = totalDays ((monthLengths year).take before) := by
    rw [daysBeforeMonth, hmonth, Nat.add_sub_cancel_left]
  refine ⟨year, month, day, ?_, hfirst, hlength ▸ hlast, ?_, ?_, ?_⟩
  · simp only [ofDayNumber?, hyear, hmonthDay]
  · rw [hbeforeMonth]
    omega
  · omega
  · rw [daysBeforeYear_succ]
    omega

/-- The numbers of a year are those of no other. -/
theorem year_eq_of_bounds {year : Int} {d : Date} (hfirst : daysBeforeYear year ≤ d.dayNumber)
    (hlast : d.dayNumber < daysBeforeYear (year + 1)) : year = d.year := by
  obtain ⟨hstart, hend⟩ := d.dayNumber_bounds
  have hle := lt_of_daysBeforeYear_lt (hfirst.trans_lt hend)
  have hge := lt_of_daysBeforeYear_lt (hstart.trans_lt hlast)
  omega

/-- The date of a number is the one that has it. -/
theorem ofDayNumber?_eq_some_iff {number : Int} {d : Date} :
    ofDayNumber? number = some d ↔ d.dayNumber = number := by
  obtain ⟨year, month, day, hread, hfirst, hlast, hnumber, hstart, hend⟩ :=
    exists_ofDayNumber?_eq number
  rw [hread]
  constructor
  · intro h
    obtain ⟨rfl, rfl, rfl⟩ := of?_eq_some_iff.mp h
    exact hnumber
  · rintro rfl
    have hyear : year = d.year := year_eq_of_bounds hstart hend
    have hdate : IsDate year month day :=
      ⟨hyear ▸ d.isDate.1, hyear ▸ d.isDate.2.1, hfirst, hlast⟩
    have hsame : (⟨year, month, day, hdate⟩ : Date) = d := dayNumber_injective hnumber
    rw [← hsame]
    exact of?_eq_some_iff.mpr ⟨rfl, rfl, rfl⟩

/-- The numbers of the dates lie between those of the first day and the last. -/
theorem dayNumber_range (d : Date) :
    daysBeforeYear firstYear ≤ d.dayNumber ∧ d.dayNumber < daysBeforeYear (lastYear + 1) := by
  obtain ⟨hstart, hend⟩ := d.dayNumber_bounds
  have hfirst := daysBeforeYear_le d.isDate.1
  have hlast : daysBeforeYear (d.year + 1) ≤ daysBeforeYear (lastYear + 1) :=
    daysBeforeYear_le (Int.add_le_add_right d.isDate.2.1 1)
  omega

/-- Each of these numbers is that of a date. -/
theorem exists_dayNumber_eq {number : Int} (hfirst : daysBeforeYear firstYear ≤ number)
    (hlast : number < daysBeforeYear (lastYear + 1)) : ∃ d : Date, d.dayNumber = number := by
  obtain ⟨year, month, day, -, hday, hlength, hnumber, hstart, hend⟩ :=
    exists_ofDayNumber?_eq number
  have hbelow := lt_of_daysBeforeYear_lt (hfirst.trans_lt hend)
  have habove := lt_of_daysBeforeYear_lt (hstart.trans_lt hlast)
  exact ⟨⟨year, month, day, by omega, by omega, hday, hlength⟩, hnumber⟩

end Date

end FilterQuery
