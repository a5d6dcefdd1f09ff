import FilterQuery.Proofs.Calendar.Movement
import FilterQuery.Proofs.Operator.Relative

/-!
# The algebra of relative dates

What holds of the ways between dates holds of moving them: the order of counts and of dates is kept,
days compose, and months are taken back as far as the month in between is long enough. The operators
that count from today mirror each other, and twelve months are a year: both sides find the same
date, or none of them does, up to the limits of words and decimals.
-/

namespace FilterQuery

/-- The number with the other sign, which a zero changes as well. -/
def Decimal.negated (n : Decimal) : Decimal := { n with negative := !n.negative }

theorem Decimal.value_negated (n : Decimal) : n.negated.value = -n.value := by
  have hmagnitude : n.negated.magnitude = n.magnitude := rfl
  rw [value_eq, value_eq, hmagnitude, negated]
  cases n.negative <;> simp

/-! ## Moving on and back -/

namespace Date

variable {d e f : Date} {v w : Word}

/-- The second of two moves by days leads where one move by both of them leads, if there is one. -/
theorem shift?_days_shift?_iff (h : d.shift? .days v = some e) :
    e.shift? .days w = some f ↔
      ∃ both : Word, both.toInt = v.toInt + w.toInt ∧ d.shift? .days both = some f := by
  have hfirst : d.DaysTo v.toInt e := shift?_eq_some_iff.mp h
  simp only [shift?_eq_some_iff, Reaches, hfirst.trans_iff]
  constructor
  · intro hboth
    exact ⟨⟨v.toInt + w.toInt, isWord_of_natAbs_le hboth.natAbs_le⟩, rfl, hboth⟩
  · rintro ⟨both, hsum, hboth⟩
    rwa [hsum] at hboth

/-- A count that leads to a date has a word for the way back. -/
theorem exists_word_neg {span : Calendar.Span} (h : d.shift? span w = some e) :
    ∃ back : Word, back.toInt = -w.toInt := by
  have hcount := (shift?_eq_some_iff.mp h).natAbs_le
  have hback : (-w.toInt).natAbs ≤ Calendar.largestStep := by rwa [Int.natAbs_neg]
  exact ⟨⟨-w.toInt, isWord_of_natAbs_le hback⟩, rfl⟩

/-- As many days back lead to where they began. -/
theorem shift?_days_back (h : d.shift? .days w = some e) :
    ∃ back : Word, back.toInt = -w.toInt ∧ e.shift? .days back = some d := by
  obtain ⟨back, hback⟩ := exists_word_neg h
  have hdays : d.DaysTo w.toInt e := shift?_eq_some_iff.mp h
  exact ⟨back, hback, shift?_eq_some_iff.mpr (hback ▸ hdays.back)⟩

/-- As many months back lead into the month where they began, to the same day of it if the month in
between has that day, and otherwise to an earlier one. -/
theorem shift?_months_back (h : d.shift? .months w = some e) :
    ∃ (back : Word) (b : Date), back.toInt = -w.toInt ∧ e.shift? .months back = some b ∧
      b.year = d.year ∧ b.month = d.month ∧ b.day ≤ d.day ∧
        (b = d ↔ Calendar.IsDate e.year e.month d.day) := by
  obtain ⟨back, hback⟩ := exists_word_neg h
  have hmonths : d.MonthsTo w.toInt e := shift?_eq_some_iff.mp h
  obtain ⟨b, hb, hyear, hmonth, hday⟩ := hmonths.exists_back
  refine ⟨back, b, hback, shift?_eq_some_iff.mpr (hback ▸ hb), hyear, hmonth, ?_, ?_⟩
  · have hcut := hmonths.day_eq
    omega
  · rw [← hmonths.day_eq_iff, ← hday]
    constructor
    · rintro rfl
      rfl
    · exact eq_of_parts hyear hmonth

end Date

/-! ## Operators that mirror each other -/

namespace Operator

open Calendar (Span)

/-- Two applications make the same comparison, or both of them fail. -/
inductive SameOutcome : Except QueryError Comparison → Except QueryError Comparison → Prop where
  /-- The same comparison. -/
  | made (c : Comparison) : SameOutcome (.ok c) (.ok c)
  /-- No comparison, for whatever reasons. -/
  | failed (e e' : QueryError) : SameOutcome (.error e) (.error e')

theorem sameOutcome_of_iff {x y : Except QueryError Comparison}
    (h : ∀ c, x = .ok c ↔ y = .ok c) : SameOutcome x y := by
  cases x with
  | ok c =>
    rw [(h c).mp rfl]
    exact .made c
  | error e =>
    cases y with
    | ok c => cases (h c).mpr rfl
    | error e' => exact .failed e e'

variable {span : Span} {direction : Direction} {name : String} {column : String} {today : Date}
  {n m : Decimal} {c : Comparison}

/-- A number leads from today to a date exactly when it is a whole one that reaches it. -/
theorem relativeDate_numeric_eq_ok_iff :
    relativeDate name span direction ⟨column, .numeric n, today⟩ = .ok c ↔
      ∃ (k : ℤ) (e : Date), n.value = (k : ℤ) ∧ today.Reaches span (k * direction.sign) e ∧
        c = ⟨column, .dateEq, .date e⟩ := by
  simp [relativeDate_eq_ok_iff]

/-- Counting on from today by a number is counting back by its negative. -/
theorem relativeDate_before_iff_after {before after : String} (h : m.value = -n.value) :
    relativeDate before span .before ⟨column, .numeric n, today⟩ = .ok c ↔
      relativeDate after span .after ⟨column, .numeric m, today⟩ = .ok c := by
  rw [relativeDate_numeric_eq_ok_iff, relativeDate_numeric_eq_ok_iff, h]
  constructor
  · rintro ⟨k, e, hk, hreaches, hc⟩
    refine ⟨-k, e, by rw [hk, Int.cast_neg], ?_, hc⟩
    simpa [Direction.sign] using hreaches
  · rintro ⟨k, e, hk, hreaches, hc⟩
    refine ⟨-k, e, by rw [Int.cast_neg, ← hk, neg_neg], ?_, hc⟩
    simpa [Direction.sign] using hreaches

/-- A whole number of years is twelve times as many months. -/
theorem relativeDate_years_iff_months {years months : String} (hwhole : n.isWhole = true)
    (h : m.value = 12 * n.value) :
    relativeDate years .years direction ⟨column, .numeric n, today⟩ = .ok c ↔
      relativeDate months .months direction ⟨column, .numeric m, today⟩ = .ok c := by
  have hn : n.value = (n.truncate : ℤ) := Decimal.value_eq_int_iff.mpr ⟨hwhole, rfl⟩
  rw [relativeDate_numeric_eq_ok_iff, relativeDate_numeric_eq_ok_iff, h, hn]
  constructor
  · rintro ⟨k, e, hk, hreaches, hc⟩
    refine ⟨12 * k, e, by rw [hk]; push_cast; rfl, ?_, hc⟩
    rwa [Int.mul_assoc]
  · rintro ⟨k, e, hk, hreaches, hc⟩
    have hmonths : k = 12 * n.truncate := by exact_mod_cast hk.symm
    refine ⟨n.truncate, e, rfl, ?_, hc⟩
    rwa [hmonths, Int.mul_assoc] at hreaches

/-- Dates that are moved keep the order of the counts and that of the dates. Moves by days add up,
and as many days back lead to the start. As many months back lead into the month of the start, to
its day exactly if the month in between has that day, and otherwise to an earlier one. Counting on
from today is counting back by the negative number, and counting years is counting twelve times as
many months, wherever these numbers are decimals. -/
theorem shift_algebra :
    (∀ (d : Date) (span : Span) (v w : Word) (e f : Date), d.shift? span v = some e →
      d.shift? span w = some f → v.toInt < w.toInt → e < f) ∧
    (∀ (d d' : Date) (span : Span) (w : Word) (e e' : Date), d.shift? span w = some e →
      d'.shift? span w = some e' → d ≤ d' → e ≤ e') ∧
    (∀ (d : Date) (v w : Word) (e f : Date), d.shift? .days v = some e →
      (e.shift? .days w = some f ↔
        ∃ both : Word, both.toInt = v.toInt + w.toInt ∧ d.shift? .days both = some f)) ∧
    (∀ (d : Date) (w : Word) (e : Date), d.shift? .days w = some e →
      ∃ back : Word, back.toInt = -w.toInt ∧ e.shift? .days back = some d) ∧
    (∀ (d : Date) (w : Word) (e : Date), d.shift? .months w = some e →
      ∃ (back : Word) (b : Date), back.toInt = -w.toInt ∧ e.shift? .months back = some b ∧
        b.year = d.year ∧ b.month = d.month ∧ b.day ≤ d.day ∧
          (b = d ↔ Calendar.IsDate e.year e.month d.day)) ∧
    (∀ span : Span, ∃ before after : Operator,
      Catalog.builtin.find? (relativeName span .before) = some before ∧
      Catalog.builtin.find? (relativeName span .after) = some after ∧
        ∀ (column : String) (today : Date) (n : Decimal),
          SameOutcome (before.apply ⟨column, .numeric n, today⟩)
            (after.apply ⟨column, .numeric n.negated, today⟩)) ∧
    ∀ direction : Direction, ∃ years months : Operator,
      Catalog.builtin.find? (relativeName .years direction) = some years ∧
      Catalog.builtin.find? (relativeName .months direction) = some months ∧
        ∀ (column : String) (today : Date) (n twelvefold : Decimal), n.isWhole = true →
          twelvefold.value = 12 * n.value →
            SameOutcome (years.apply ⟨column, .numeric n, today⟩)
              (months.apply ⟨column, .numeric twelvefold, today⟩) := by
  refine ⟨?later, ?monotone, ?add, ?daysBack, ?monthsBack, ?mirror, ?years⟩
  case later =>
    intro d span v w e f he hf hlt
    exact (Date.shift?_eq_some_iff.mp he).lt_of_lt (Date.shift?_eq_some_iff.mp hf) hlt
  case monotone =>
    intro d d' span w e e' he he' hle
    exact (Date.shift?_eq_some_iff.mp he).le_of_le (Date.shift?_eq_some_iff.mp he') hle
  case add => exact fun d v w e f h => Date.shift?_days_shift?_iff h
  case daysBack => exact fun d w e h => Date.shift?_days_back h
  case monthsBack => exact fun d w e h => Date.shift?_months_back h
  case mirror =>
    intro span
    obtain ⟨_, hbefore⟩ := exists_find?_relativeName span .before
    obtain ⟨_, hafter⟩ := exists_find?_relativeName span .after
    refine ⟨_, _, hbefore, hafter, fun column today n => ?_⟩
    exact sameOutcome_of_iff fun c => relativeDate_before_iff_after n.value_negated
  case years =>
    intro direction
    obtain ⟨_, hyears⟩ := exists_find?_relativeName .years direction
    obtain ⟨_, hmonths⟩ := exists_find?_relativeName .months direction
    refine ⟨_, _, hyears, hmonths, fun column today n twelvefold hwhole htwelve => ?_⟩
    exact sameOutcome_of_iff fun c => relativeDate_years_iff_months hwhole htwelve

/-- The last day of January in a leap year does not come back from February; the least word finds no
date in either direction, though its negative is a decimal. -/
theorem shift_algebra_month_end :
    let start : Date := ⟨2024, 1, 31, by decide⟩
    let between : Date := ⟨2024, 2, 29, by decide⟩
    let one : Word := ⟨1, by decide⟩
    let least : Word := ⟨-0x8000000000000000, by decide⟩
    start.shift? .months one = some between ∧
    (∃ (back : Word) (b : Date), back.toInt = -1 ∧ between.shift? .months back = some b ∧
      b.year = 2024 ∧ b.month = 1 ∧ b.day ≤ 31 ∧ (b = start ↔ Calendar.IsDate 2024 2 31)) ∧
    ∃ before after : Operator, Catalog.builtin.find? "daysBefore" = some before ∧
      Catalog.builtin.find? "daysAfter" = some after ∧
        SameOutcome (before.apply ⟨"d", .numeric (.ofWord least), start⟩)
          (after.apply ⟨"d", .numeric (Decimal.ofWord least).negated, start⟩) := by
  intro start between one least
  have hmove : start.shift? .months one = some between := by decide +kernel
  obtain ⟨-, -, -, -, hmonthsBack, hmirror, -⟩ := shift_algebra
  obtain ⟨before, after, hbefore, hafter, hsame⟩ := hmirror .days
  exact ⟨hmove, hmonthsBack start one between hmove, before, after, hbefore, hafter,
    hsame "d" start (.ofWord least)⟩

end Operator

end FilterQuery
