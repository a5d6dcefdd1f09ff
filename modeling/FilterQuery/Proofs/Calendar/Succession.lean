import FilterQuery.Proofs.Calendar.Gregorian

/-!
# One day after another

The day after a date is the next one of its month, the first of the next month or the first of the
next year. Some days lead from one date to another when going on from each day to the one after it,
or back, that many times does. Numbers of days count just that.
-/

namespace FilterQuery.Date

open Calendar

variable {d e f : Date} {n : Int}

/-- One date is the day after another. -/
inductive Follows (e d : Date) : Prop where
  /-- The month goes on. -/
  | sameMonth (hyear : e.year = d.year) (hmonth : e.month = d.month) (hday : e.day = d.day + 1)
  /-- The next month of the year begins behind the last day of one. -/
  | nextMonth (hlast : d.day = monthLength d.year d.month) (hyear : e.year = d.year)
      (hmonth : e.month = d.month + 1) (hday : e.day = 1)
  /-- The next year begins behind the last day of the last month. -/
  | nextYear (hlast : d.month = 12 ∧ d.day = 31) (hyear : e.year = d.year + 1)
      (hmonth : e.month = 1) (hday : e.day = 1)

/-- The last day of a year has the last number before the next year. -/
theorem dayNumber_of_lastDay (hmonth : d.month = 12) (hday : d.day = 31) :
    d.dayNumber + 1 = daysBeforeYear (d.year + 1) := by
  have hsucc := daysBeforeMonth_succ d.year (by decide : 1 ≤ 12) (Nat.le_refl 12)
  have hlength : monthLength d.year 12 = 31 := rfl
  rw [daysBeforeMonth_end, hlength] at hsucc
  simp only [dayNumber, hmonth, hday, daysBeforeYear_succ]
  omega

/-- The day after another has the next number. -/
theorem dayNumber_of_follows (h : e.Follows d) : e.dayNumber = d.dayNumber + 1 := by
  cases h with
  | sameMonth hyear hmonth hday =>
    simp only [dayNumber, hyear, hmonth, hday]
    omega
  | nextMonth hlast hyear hmonth hday =>
    have hsucc := daysBeforeMonth_succ d.year d.month_bounds.1 d.month_bounds.2
    simp only [dayNumber, hyear, hmonth, hday, hsucc, hlast]
    omega
  | nextYear hlast hyear hmonth hday =>
    rw [dayNumber_of_lastDay hlast.1 hlast.2]
    simp only [dayNumber, hyear, hmonth, hday, daysBeforeMonth_one]
    omega

/-- There is a day after each but the last. -/
theorem exists_follows (h : d.dayNumber + 1 < daysBeforeYear (lastYear + 1)) :
    ∃ e : Date, e.Follows d := by
  obtain ⟨hfirst, hlast, hmonth, hmonth', hday, hday'⟩ :=
    (isDate_iff d.year d.month d.day).mp d.isDate
  by_cases hend : d.day < monthLength d.year d.month
  · have hdate : IsDate d.year d.month (d.day + 1) :=
      (isDate_iff _ _ _).mpr ⟨hfirst, hlast, hmonth, hmonth', by omega, by omega⟩
    exact ⟨⟨d.year, d.month, d.day + 1, hdate⟩, .sameMonth rfl rfl rfl⟩
  have hdayEnd : d.day = monthLength d.year d.month := by omega
  by_cases hnext : d.month < 12
  · have hdate : IsDate d.year (d.month + 1) 1 :=
      (isDate_iff _ _ _).mpr ⟨hfirst, hlast, by omega, by omega, by omega, one_le_monthLength _ _⟩
    exact ⟨⟨d.year, d.month + 1, 1, hdate⟩, .nextMonth hdayEnd rfl rfl rfl⟩
  have hmonthEnd : d.month = 12 := by omega
  rw [hmonthEnd] at hdayEnd
  have hyear : d.year + 1 ≤ lastYear := by
    rw [dayNumber_of_lastDay hmonthEnd hdayEnd] at h
    have hlt := lt_of_daysBeforeYear_lt h
    omega
  have hdate : IsDate (d.year + 1) 1 1 :=
    (isDate_iff _ _ _).mpr ⟨by omega, hyear, by omega, by omega, by omega, one_le_monthLength _ _⟩
  exact ⟨⟨d.year + 1, 1, 1, hdate⟩, .nextYear ⟨hmonthEnd, hdayEnd⟩ rfl rfl rfl⟩

/-- The days after others are those with the next numbers. -/
theorem follows_iff : e.Follows d ↔ e.dayNumber = d.dayNumber + 1 := by
  constructor
  · exact dayNumber_of_follows
  · intro h
    obtain ⟨f, hf⟩ := exists_follows (d := d) (h ▸ e.dayNumber_range.2)
    have hsame : f = e := dayNumber_injective ((dayNumber_of_follows hf).trans h.symm)
    exact hsame ▸ hf

/-! ## Going on and back -/

/-- A number of days leads from one date to another. -/
inductive DaysTo (d : Date) : Int → Date → Prop where
  /-- No day has to pass. -/
  | here : d.DaysTo 0 d
  /-- One day more leads to the day after. -/
  | later {n : Int} {e f : Date} (h : d.DaysTo n e) (hf : f.Follows e) : d.DaysTo (n + 1) f
  /-- One day less leads to the day before. -/
  | earlier {n : Int} {e f : Date} (h : d.DaysTo n e) (hf : e.Follows f) : d.DaysTo (n - 1) f

/-- As many days lead from one date to another as their numbers differ by. -/
theorem daysTo_iff : d.DaysTo n e ↔ e.dayNumber = d.dayNumber + n := by
  constructor
  · intro h
    induction h with
    | here => omega
    | later _ hf ih =>
      rw [dayNumber_of_follows hf, ih]
      omega
    | earlier _ hf ih =>
      have hnext := dayNumber_of_follows hf
      omega
  · intro h
    -- Whichever way the days lead, every number on the way is that of a date.
    induction n using Int.induction_on generalizing e with
    | zero =>
      obtain rfl : e = d := dayNumber_injective (by omega)
      exact .here
    | succ days ih =>
      obtain ⟨f, hf⟩ : ∃ f : Date, f.dayNumber = e.dayNumber - 1 :=
        exists_dayNumber_eq (by have := d.dayNumber_range.1; omega)
          (by have := e.dayNumber_range.2; omega)
      exact .later (ih (by omega)) (follows_iff.mpr (by omega) : e.Follows f)
    | pred days ih =>
      obtain ⟨f, hf⟩ : ∃ f : Date, f.dayNumber = e.dayNumber + 1 :=
        exists_dayNumber_eq (by have := e.dayNumber_range.1; omega)
          (by have := d.dayNumber_range.2; omega)
      exact .earlier (ih (by omega)) (follows_iff.mpr (by omega) : f.Follows e)

end FilterQuery.Date
