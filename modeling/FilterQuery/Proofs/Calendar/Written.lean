import FilterQuery.Proofs.Calendar.Gregorian

/-!
# Dates as they are written

Four digits, two and two with hyphens between them spell a date when the rule of the calendar has
that day. These are the texts that are read as dates, and each of them is the text of the date that
is read from it.
-/

namespace FilterQuery.Date

open Calendar
open Text (isDigit readDigits)

/-- The parts of a date that is written between hyphens. -/
structure Written where
  /-- The digits of the year. -/
  year : List Char
  /-- The digits of the month. -/
  month : List Char
  /-- The digits of the day. -/
  day : List Char

namespace Written

variable (w : Written)

/-- The parts with their hyphens. -/
def chars : List Char := w.year ++ '-' :: w.month ++ '-' :: w.day

/-- The parts have four digits, two and two. -/
structure Shaped : Prop where
  /-- The year has four characters. -/
  length_year : w.year.length = 4
  /-- The month has two. -/
  length_month : w.month.length = 2
  /-- So has the day. -/
  length_day : w.day.length = 2
  /-- All of them are digits. -/
  digits : (w.year ++ w.month ++ w.day).all isDigit

/-- The parts make up a text of ten characters. -/
structure Spells (s : String) : Prop where
  /-- The parts have the digits of a date. -/
  shaped : w.Shaped
  /-- With hyphens between them they are the text. -/
  chars_eq : w.chars = s.toList

/-- The month is one of the twelve, and the rule of the calendar gives it such a day. -/
structure IsDay : Prop where
  /-- Months are counted from one. -/
  one_le_month : 1 ≤ readDigits w.month
  /-- There are twelve of them. -/
  month_le : readDigits w.month ≤ 12
  /-- Days are counted from one. -/
  one_le_day : 1 ≤ readDigits w.day
  /-- The month is long enough. -/
  day_le : readDigits w.day ≤ monthLength (readDigits w.year) (readDigits w.month)

/-- The parts are those of a date. -/
structure Denotes (d : Date) : Prop where
  /-- The year is that of the date. -/
  year_eq : d.year = readDigits w.year
  /-- So is the month. -/
  month_eq : d.month = readDigits w.month
  /-- And the day. -/
  day_eq : d.day = readDigits w.day

variable {w}

/-- Of each part, the digits. -/
theorem Shaped.all_isDigit (hw : w.Shaped) :
    w.year.all isDigit ∧ w.month.all isDigit ∧ w.day.all isDigit := by
  have hdigits := hw.digits
  simp only [List.all_append, Bool.and_eq_true] at hdigits
  exact ⟨hdigits.1.1, hdigits.1.2, hdigits.2⟩

theorem Shaped.hasDateShape (hw : w.Shaped) : hasDateShape w.chars := by
  rw [chars, hasDateShape_append hw.length_year hw.length_month hw.length_day]
  exact hw.digits

/-- Nothing but digits and hyphens is in such a text, a digit is in front and a hyphen follows. -/
theorem Shaped.chars_spec (hw : w.Shaped) :
    (∀ c ∈ w.chars, isDigit c ∨ c = '-') ∧ (∀ c ∈ w.chars.head?, isDigit c) ∧
      '-' ∈ w.chars := by
  obtain ⟨hyear, hmonth, hday⟩ := hw.all_isDigit
  rw [List.all_eq_true] at hyear hmonth hday
  refine ⟨?_, ?_, by simp [chars]⟩
  · intro c hc
    simp only [chars, List.mem_append, List.mem_cons] at hc
    rcases hc with (hc | hc | hc) | hc | hc
    · exact .inl (hyear c hc)
    · exact .inr hc
    · exact .inl (hmonth c hc)
    · exact .inr hc
    · exact .inl (hday c hc)
  · intro c hc
    cases hdigits : w.year with
    | nil =>
      have hlength := hw.length_year
      simp [hdigits] at hlength
    | cons y ys =>
      rw [chars, hdigits] at hc
      obtain rfl : y = c := by simpa using hc
      exact hyear y (by simp [hdigits])

/-- The parts are read as three numbers. -/
theorem Shaped.ofChars?_chars (hw : w.Shaped) :
    ofChars? w.chars = of? (readDigits w.year) (readDigits w.month) (readDigits w.day) := by
  obtain ⟨hyear, hmonth, hday⟩ := hw.all_isDigit
  have hnumber {cs : List Char} {n : Nat} (hlength : cs.length = n + 1)
      (hdigits : cs.all isDigit) : Text.natural? cs = some (readDigits cs) :=
    Text.natural?_eq_some_iff.mpr ⟨List.ne_nil_of_length_eq_add_one hlength, hdigits, rfl⟩
  exact ofChars?_append hw.length_year hw.length_month hw.length_day
    (hnumber hw.length_year hyear) (hnumber hw.length_month hmonth) (hnumber hw.length_day hday)

/-- Four digits hold no year beyond the calendar, so its rule alone decides on the day. -/
theorem Shaped.isDate_iff (hw : w.Shaped) :
    IsDate (readDigits w.year) (readDigits w.month) (readDigits w.day) ↔ w.IsDay := by
  have hyear : readDigits w.year < 10000 := by
    have hlt := Text.readDigits_lt hw.all_isDigit.1
    rwa [hw.length_year] at hlt
  rw [Calendar.isDate_iff, firstYear, lastYear]
  constructor
  · rintro ⟨-, -, hmonth, hmonths, hday, hdays⟩
    exact ⟨hmonth, hmonths, hday, hdays⟩
  · rintro ⟨hmonth, hmonths, hday, hdays⟩
    exact ⟨by omega, by omega, hmonth, hmonths, hday, hdays⟩

theorem denotes_iff {d : Date} :
    of? (readDigits w.year) (readDigits w.month) (readDigits w.day) = some d ↔ w.Denotes d := by
  rw [of?_eq_some_iff]
  exact ⟨fun ⟨hyear, hmonth, hday⟩ => ⟨hyear, hmonth, hday⟩,
    fun ⟨hyear, hmonth, hday⟩ => ⟨hyear, hmonth, hday⟩⟩

/-- A day of the calendar is the date of its parts. -/
theorem Shaped.exists_denotes_iff (hw : w.Shaped) : (∃ d, w.Denotes d) ↔ w.IsDay := by
  simp only [← denotes_iff]
  rw [← hw.isDate_iff]
  constructor
  · rintro ⟨d, hd⟩
    obtain ⟨hyear, hmonth, hday⟩ := of?_eq_some_iff.mp hd
    rw [← hyear, ← hmonth, ← hday]
    exact d.isDate
  · intro hdate
    exact ⟨_, dif_pos hdate⟩

/-- The date of some parts is written in them. -/
theorem Shaped.chars_eq (hw : w.Shaped) {d : Date} (hd : w.Denotes d) : d.chars = w.chars := by
  obtain ⟨hyear, hmonth, hday⟩ := hw.all_isDigit
  have hplain : d.HasPlainYear :=
    hasPlainYear_of_ofChars?_eq_some (hw.ofChars?_chars.trans (denotes_iff.mpr hd))
  have hpadded {cs : List Char} {n : Nat} (hlength : cs.length = n + 1)
      (hdigits : cs.all isDigit) : Text.paddedDigits (n + 1) (readDigits cs) = cs := by
    rw [← hlength]
    exact Text.paddedDigits_readDigits (List.ne_nil_of_length_eq_add_one hlength) hdigits
  rw [chars_of_hasPlainYear hplain, hd.year_eq, hd.month_eq, hd.day_eq, Int.toNat_natCast,
    hpadded hw.length_year hyear, hpadded hw.length_month hmonth, hpadded hw.length_day hday,
    chars]

end Written

/-- The texts of the shape of a date are those of parts with hyphens between them. -/
theorem hasDateShape_iff {cs : List Char} :
    hasDateShape cs ↔ ∃ w : Written, w.Shaped ∧ w.chars = cs := by
  constructor
  · intro h
    rw [Date.hasDateShape.eq_def] at h
    split at h
    · rename_i y₁ y₂ y₃ y₄ m₁ m₂ d₁ d₂
      exact ⟨⟨[y₁, y₂, y₃, y₄], [m₁, m₂], [d₁, d₂]⟩, ⟨rfl, rfl, rfl, h⟩, rfl⟩
    · cases h
  · rintro ⟨w, hw, rfl⟩
    exact hw.hasDateShape

/-- Other texts are not read as dates. -/
theorem hasDateShape_of_ofChars?_eq_some {cs : List Char} {d : Date}
    (h : ofChars? cs = some d) : hasDateShape cs := by
  obtain ⟨ys, ms, ds, hys, hms, hds, rfl, year, month, day, hyear, hmonth, hday, -⟩ :=
    exists_parts_of_ofChars? h
  rw [hasDateShape_append hys hms hds, List.all_append, List.all_append,
    (Text.natural?_eq_some_iff.mp hyear).2.1, (Text.natural?_eq_some_iff.mp hmonth).2.1,
    (Text.natural?_eq_some_iff.mp hday).2.1]
  rfl

/-- What is read as a date is spelled by its parts. -/
theorem ofChars?_eq_some_iff {cs : List Char} {d : Date} :
    ofChars? cs = some d ↔ ∃ w : Written, w.Shaped ∧ w.chars = cs ∧ w.Denotes d := by
  constructor
  · intro h
    obtain ⟨w, hw, rfl⟩ := hasDateShape_iff.mp (hasDateShape_of_ofChars?_eq_some h)
    exact ⟨w, hw, rfl, Written.denotes_iff.mp (hw.ofChars?_chars.symm.trans h)⟩
  · rintro ⟨w, hw, rfl, hd⟩
    exact hw.ofChars?_chars.trans (Written.denotes_iff.mpr hd)

/-- What is read as a date is the text of that date. -/
theorem chars_of_ofChars?_eq_some {cs : List Char} {d : Date} (h : ofChars? cs = some d) :
    d.chars = cs := by
  obtain ⟨w, hw, rfl, hd⟩ := ofChars?_eq_some_iff.mp h
  exact hw.chars_eq hd

end FilterQuery.Date
