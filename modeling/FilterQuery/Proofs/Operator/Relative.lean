import FilterQuery.Operator.Builtin
import FilterQuery.Proofs.Calendar.Shift
import FilterQuery.Proofs.Decimal.Whole
import FilterQuery.Proofs.Outcome

/-!
# Dates relative to today

An operator that counts from today makes a comparison with a date exactly when its value is a whole
number and there is a date so many days, months or years from today. Words bound the value, its
negation and the months of its years, but nothing that a word does not hold leads to a date.
-/

namespace FilterQuery.Operator

open Calendar (Span)

namespace Input

variable {input : Input} {operator : String}

/-- A value that is required to be a whole number is one, and a word holds it. -/
theorem requireWhole_eq_ok_iff {w : Word} :
    input.requireWhole operator = .ok w ↔ ∃ d, input.value = .numeric d ∧ d.value = w.toInt := by
  cases hvalue : input.value with
  | numeric d =>
    simp only [requireWhole, hvalue, Scalar.numeric.injEq, exists_eq_left',
      Decimal.value_eq_int_iff, eq_comm (a := d.truncate), ← Word.of?_eq_some_iff]
    cases d.isWhole <;> cases Word.of? d.truncate <;> simp
  | _ => simp [requireWhole, hvalue]

/-- Every other value is rejected with the column. -/
theorem requireWhole_eq_error {e : QueryError} (h : input.requireWhole operator = .error e) :
    ∃ reason, e = input.rejected .numeric reason := by
  unfold requireWhole at h
  split at h
  · split at h
    · split at h
      · cases h
      · cases h
        exact ⟨_, rfl⟩
    · cases h
      exact ⟨_, rfl⟩
  · cases h
    exact ⟨_, rfl⟩

end Input

variable {span : Span} {direction : Direction} {name : String} {input : Input}

/-- A date is found from today exactly for a whole number that leads to one. -/
theorem relativeDate_eq_ok_iff {c : Comparison} :
    relativeDate name span direction input = .ok c ↔
      ∃ d n e, input.value = .numeric d ∧ d.value = (n : ℤ) ∧
        input.today.Reaches span (n * direction.sign) e ∧ c = ⟨input.column, .dateEq, .date e⟩ := by
  rw [relativeDate, bind_eq_ok_iff]
  constructor
  · rintro ⟨w, hwhole, hc⟩
    obtain ⟨d, hvalue, hd⟩ := Input.requireWhole_eq_ok_iff.mp hwhole
    split at hc
    · rename_i e he
      cases hc
      exact ⟨d, w.toInt, e, hvalue, hd, Date.times?_bind_shift?_eq_some_iff.mp he, rfl⟩
    · cases hc
  · rintro ⟨d, n, e, hvalue, hd, hreaches, rfl⟩
    -- A count that leads to a date is a word, and so it is with the other sign.
    have hcount := hreaches.natAbs_le
    have hsign : (n * direction.sign).natAbs = n.natAbs := by
      cases direction <;> simp [Direction.sign]
    let w : Word := ⟨n, Date.isWord_of_natAbs_le (hsign ▸ hcount)⟩
    refine ⟨w, Input.requireWhole_eq_ok_iff.mpr ⟨d, hvalue, hd⟩, ?_⟩
    rw [(Date.times?_bind_shift?_eq_some_iff (w := w)).mpr hreaches]
    rfl

/-- Every failure is a rejection of the value with the column. -/
theorem relativeDate_eq_error {e : QueryError} (h : relativeDate name span direction input = .error e) :
    ∃ reason, e = input.rejected .numeric reason := by
  rw [relativeDate, bind_eq_error_iff] at h
  obtain hwhole | ⟨w, -, hshift⟩ := h
  · exact Input.requireWhole_eq_error hwhole
  · split at hshift
    · cases hshift
    · cases hshift
      exact ⟨_, rfl⟩

/-! ## The built-in operators -/

/-- The name of the operator that counts in a unit from today. -/
def relativeName : Span → Direction → String
  | .days, .before => "daysBefore"
  | .days, .after => "daysAfter"
  | .months, .before => "monthsBefore"
  | .months, .after => "monthsAfter"
  | .years, .before => "yearsBefore"
  | .years, .after => "yearsAfter"

/-- The name finds an operator that counts in the unit and the direction. -/
theorem exists_find?_relativeName (span : Span) (direction : Direction) :
    ∃ description, Catalog.builtin.find? (relativeName span direction) =
      some (counting (relativeName span direction) span direction description) := by
  cases span <;> cases direction <;> exact ⟨_, rfl⟩

/-- Each operator that counts from today asks for the date so many days, months or years after it or
before it, whenever the value is a whole number and the calendar has that date, and rejects the
value with the column in every other case. -/
theorem relative_asks_for_reached (span : Span) (direction : Direction) (input : Input) :
    ∃ op, Catalog.builtin.find? (relativeName span direction) = some op ∧
      (∀ c, op.apply input = .ok c ↔
        ∃ d n e, input.value = .numeric d ∧ d.value = (n : ℤ) ∧
          input.today.Reaches span (n * direction.sign) e ∧
            c = ⟨input.column, .dateEq, .date e⟩) ∧
      ∀ error, op.apply input = .error error →
        ∃ reason, error = .coercion input.value.text .numeric (some input.column) reason := by
  obtain ⟨description, hfind⟩ := exists_find?_relativeName span direction
  exact ⟨_, hfind, fun c => relativeDate_eq_ok_iff, fun error => relativeDate_eq_error⟩

/-- A year before a leap day lies the last day of a shorter month; a number of days that no word
takes with the other sign is rejected. -/
theorem relative_asks_for_reached_leap_day :
    let leapDay : Date := ⟨2024, 2, 29, by decide⟩
    let least : Word := ⟨-0x8000000000000000, by decide⟩
    (∃ op, Catalog.builtin.find? "yearsAfter" = some op ∧
      op.apply ⟨"d", .numeric ⟨false, 100, 2, by decide, by decide⟩, leapDay⟩ =
        .ok ⟨"d", .dateEq, .date ⟨2023, 2, 28, by decide⟩⟩) ∧
    ∃ op error, Catalog.builtin.find? "daysAfter" = some op ∧
      op.apply ⟨"d", .numeric (.ofWord least), leapDay⟩ = .error error ∧
        ∃ reason, error = .coercion "-9223372036854775808" .numeric (some "d") reason := by
  intro leapDay least
  constructor
  · obtain ⟨op, hfind, hok, -⟩ := relative_asks_for_reached .years .after
      ⟨"d", .numeric ⟨false, 100, 2, by decide, by decide⟩, leapDay⟩
    refine ⟨op, hfind, (hok _).mpr ⟨_, 1, _, rfl, ?_, ?_, rfl⟩⟩
    · rw [Decimal.value_eq_int_iff]
      decide
    · exact ⟨by decide, by decide⟩
  · obtain ⟨op, hfind, -, herror⟩ := relative_asks_for_reached .days .after
      ⟨"d", .numeric (.ofWord least), leapDay⟩
    obtain ⟨description, hcounting⟩ := exists_find?_relativeName .days .after
    obtain rfl := Option.some.inj (hfind.symm.trans hcounting)
    have happly : relativeDate "daysAfter" .days .after ⟨"d", .numeric (.ofWord least), leapDay⟩ =
        .error (.coercion "-9223372036854775808" .numeric (some "d")
          (.leavesCalendar "daysAfter")) := by
      decide +kernel
    obtain ⟨reason, hreason⟩ := herror _ happly
    have htext : (Scalar.numeric (.ofWord least)).text = "-9223372036854775808" := by
      decide +kernel
    refine ⟨_, _, hfind, happly, reason, ?_⟩
    rw [hreason, htext]

end FilterQuery.Operator
