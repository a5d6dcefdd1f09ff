import FilterQuery.Proofs.Calendar.Shift

/-!
# How moving dates composes

Dates are ordered by year, month and day, and so are their numbers. A greater count leads to a later
date, and the same count never leads from a later date to an earlier one. Days compose and can be
taken back. Months can be taken back as well, but a day that the month in between does not have is
lost on the way.
-/

namespace FilterQuery.Date

open Calendar

variable {d d' e e' f : Date} {n m : Int}

/-! ## The order of dates -/

/-- One date is before another when its year is, or in the same year its month, or in the same month
its day. -/
instance : LT Date where
  lt d e := d.year < e.year ∨
    d.year = e.year ∧ (d.month < e.month ∨ d.month = e.month ∧ d.day < e.day)

instance : LE Date where
  le d e := d < e ∨ d = e

theorem lt_def : d < e ↔ d.year < e.year ∨
    d.year = e.year ∧ (d.month < e.month ∨ d.month = e.month ∧ d.day < e.day) :=
  Iff.rfl

theorem le_def : d ≤ e ↔ d < e ∨ d = e := Iff.rfl

instance (d e : Date) : Decidable (d < e) := decidable_of_iff' _ lt_def

instance (d e : Date) : Decidable (d ≤ e) := decidable_of_iff' _ le_def

theorem dayNumber_lt_of_lt (h : d < e) : d.dayNumber < e.dayNumber := by
  rcases lt_def.mp h with hyear | ⟨hyear, hmonth | ⟨hmonth, hday⟩⟩
  · exact dayNumber_lt_of_year_lt hyear
  · exact dayNumber_lt_of_month_lt hyear hmonth
  · exact dayNumber_lt_of_day_lt hyear hmonth hday

/-- Two dates are the same unless one of them is before the other. -/
theorem lt_trichotomy (d e : Date) : d < e ∨ d = e ∨ e < d := by
  rw [lt_def, lt_def]
  by_cases hsame : d.year = e.year ∧ d.month = e.month ∧ d.day = e.day
  · exact .inr (.inl (eq_of_parts hsame.1 hsame.2.1 hsame.2.2))
  · omega

/-- The order of dates is that of their numbers. -/
theorem lt_iff_dayNumber_lt : d < e ↔ d.dayNumber < e.dayNumber := by
  refine ⟨dayNumber_lt_of_lt, fun h => ?_⟩
  rcases lt_trichotomy d e with hlt | rfl | hgt
  · exact hlt
  · exact absurd h (lt_irrefl _)
  · exact absurd h (dayNumber_lt_of_lt hgt).not_gt

theorem le_iff_dayNumber_le : d ≤ e ↔ d.dayNumber ≤ e.dayNumber := by
  rw [le_def, lt_iff_dayNumber_lt, le_iff_lt_or_eq]
  exact or_congr_right ⟨congrArg dayNumber, dayNumber_injective⟩

/-- Dates of different months are ordered by their months, and those of one month by their days. -/
theorem lt_iff_monthIndex_lt_or : d < e ↔
    d.monthIndex < e.monthIndex ∨ d.monthIndex = e.monthIndex ∧ d.day < e.day := by
  have hd := d.month_bounds
  have he := e.month_bounds
  rw [lt_def, monthIndex, monthIndex]
  omega

theorem monthIndex_eq_iff : d.monthIndex = e.monthIndex ↔ d.year = e.year ∧ d.month = e.month := by
  have hd := d.month_bounds
  have he := e.month_bounds
  rw [monthIndex, monthIndex]
  omega

/-! ## Greater counts and later dates -/

/-- More days lead to a later date. -/
theorem DaysTo.lt_of_lt (he : d.DaysTo n e) (hf : d.DaysTo m f) (h : n < m) : e < f := by
  rw [lt_iff_dayNumber_lt, daysTo_iff.mp he, daysTo_iff.mp hf]
  omega

/-- More months lead to a later date, however the days are cut. -/
theorem MonthsTo.lt_of_lt (he : d.MonthsTo n e) (hf : d.MonthsTo m f) (h : n < m) : e < f := by
  rw [lt_iff_monthIndex_lt_or, he.monthIndex_eq, hf.monthIndex_eq]
  omega

theorem Reaches.lt_of_lt {span : Span} (he : d.Reaches span n e) (hf : d.Reaches span m f)
    (h : n < m) : e < f := by
  cases span with
  | days => exact DaysTo.lt_of_lt he hf h
  | months => exact MonthsTo.lt_of_lt he hf h
  | years => exact MonthsTo.lt_of_lt he hf (by omega : 12 * n < 12 * m)

theorem DaysTo.le_of_le (he : d.DaysTo n e) (he' : d'.DaysTo n e') (h : d ≤ d') : e ≤ e' := by
  rw [le_iff_dayNumber_le] at h ⊢
  rw [daysTo_iff.mp he, daysTo_iff.mp he']
  omega

/-- So many months lead two days of one month into one month, where they are cut at the same day. -/
theorem MonthsTo.le_of_le (he : d.MonthsTo n e) (he' : d'.MonthsTo n e') (h : d ≤ d') :
    e ≤ e' := by
  have hindex := he.monthIndex_eq
  have hindex' := he'.monthIndex_eq
  rw [le_def] at h
  rcases h with h | rfl
  · rcases lt_iff_monthIndex_lt_or.mp h with hmonth | ⟨hmonth, hday⟩
    · exact .inl (lt_iff_monthIndex_lt_or.mpr (.inl (by omega)))
    · have hsame : e.monthIndex = e'.monthIndex := by omega
      obtain ⟨hyear, hmonth⟩ := monthIndex_eq_iff.mp hsame
      have hcut : e.day ≤ e'.day := by
        rw [he.day_eq, he'.day_eq, hyear, hmonth]
        omega
      rcases hcut.lt_or_eq with hlt | heq
      · exact .inl (lt_iff_monthIndex_lt_or.mpr (.inr ⟨hsame, hlt⟩))
      · exact .inr (eq_of_parts hyear hmonth heq)
  · obtain ⟨hyear, hmonth⟩ := monthIndex_eq_iff.mp (hindex.trans hindex'.symm)
    refine .inr (eq_of_parts hyear hmonth ?_)
    rw [he.day_eq, he'.day_eq, hyear, hmonth]

theorem Reaches.le_of_le {span : Span} (he : d.Reaches span n e) (he' : d'.Reaches span n e')
    (h : d ≤ d') : e ≤ e' := by
  cases span with
  | days => exact DaysTo.le_of_le he he' h
  | months => exact MonthsTo.le_of_le he he' h
  | years => exact MonthsTo.le_of_le he he' h

/-! ## On and back -/

/-- No days, months or years lead nowhere else. -/
theorem Reaches.zero (span : Span) (d : Date) : d.Reaches span 0 d := by
  have hmonths : d.MonthsTo 0 d := ⟨by omega, (min_eq_left d.day_bounds.2).symm⟩
  cases span with
  | days => exact DaysTo.here
  | months => exact hmonths
  | years => exact hmonths

/-- Days that follow days add up. -/
theorem DaysTo.trans_iff (h : d.DaysTo n e) : e.DaysTo m f ↔ d.DaysTo (n + m) f := by
  rw [daysTo_iff, daysTo_iff, daysTo_iff.mp h, Int.add_assoc]

/-- Days are taken back. -/
theorem DaysTo.back (h : d.DaysTo n e) : e.DaysTo (-n) d := by
  rw [daysTo_iff, daysTo_iff.mp h, Int.add_neg_cancel_right]

/-- Months that are taken back lead into the month where they began. The day is the one that the
month in between has left of it. -/
theorem MonthsTo.exists_back (h : d.MonthsTo n e) :
    ∃ b : Date, e.MonthsTo (-n) b ∧ b.year = d.year ∧ b.month = d.month ∧ b.day = e.day := by
  have hday := d.day_bounds
  have hlength := e.day_bounds
  have hcut := h.day_eq
  have hdate : IsDate d.year d.month e.day := by
    obtain ⟨hfirst, hlast, hmonth, hmonths, -, -⟩ := (isDate_iff _ _ _).mp d.isDate
    exact (isDate_iff _ _ _).mpr ⟨hfirst, hlast, hmonth, hmonths, hlength.1, by omega⟩
  refine ⟨⟨d.year, d.month, e.day, hdate⟩, ⟨?_, ?_⟩, rfl, rfl, rfl⟩
  · rw [h.monthIndex_eq, Int.add_neg_cancel_right]
    rfl
  · change e.day = min e.day (monthLength d.year d.month)
    omega

/-- The day is kept exactly where the month in between has it. -/
theorem MonthsTo.day_eq_iff (h : d.MonthsTo n e) :
    e.day = d.day ↔ IsDate e.year e.month d.day := by
  have hday := d.day_bounds
  obtain ⟨hfirst, hlast, hmonth, hmonths, -, -⟩ := (isDate_iff _ _ _).mp e.isDate
  have hcut := h.day_eq
  rw [isDate_iff]
  omega

end FilterQuery.Date
