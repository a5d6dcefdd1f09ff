import FilterQuery.Proofs.Calendar.Written
import FilterQuery.Proofs.Scalar.Coercion

/-!
# Strings where a date is asked for

A string whose text is of the shape of a date is that date, or it is refused when the calendar has
no such day. Only a text of another shape may be the count that an operator takes from a date.
-/

namespace FilterQuery.Scalar

/-- A text of the shape of a date is that date, or refused. -/
theorem coerce_date_of_hasDateShape {s : String}
    (h : Date.hasDateShape (Text.trimChars s.toList)) :
    coerce (.string s) .date =
      match Date.ofChars? (Text.trimChars s.toList) with
      | some d => .ok (.date d)
      | none => .error (.rejected (Json.string s).text .date .noSuchDay) :=
  if_pos h

/-- A text of another shape is a number, or refused. -/
theorem coerce_date_of_not_hasDateShape {s : String}
    (h : Date.hasDateShape (Text.trimChars s.toList) = false) :
    coerce (.string s) .date =
      match Decimal.ofChars? (Text.trimChars s.toList) with
      | some d => .ok (.numeric d)
      | none => .error (.rejected (Json.string s).text .date .notDateOrNumber) :=
  if_neg (ne_true_of_eq_false h)

/-- A date is coerced from the strings that are read as it. -/
theorem coerce_string_eq_date_iff {s : String} {d : Date} :
    coerce (.string s) .date = .ok (.date d) ↔ Date.ofText? (Text.trim s) = some d := by
  rw [Date.ofText?, Text.toList_trim]
  constructor
  · intro h
    cases hshape : Date.hasDateShape (Text.trimChars s.toList) with
    | false =>
      rw [coerce_date_of_not_hasDateShape hshape] at h
      split at h <;> cases h
    | true =>
      rw [coerce_date_of_hasDateShape hshape] at h
      split at h
      · rename_i hread
        cases h
        exact hread
      · cases h
  · intro h
    rw [coerce_date_of_hasDateShape (Date.hasDateShape_of_ofChars?_eq_some h), h]

/-- A text of the shape of a date is refused when the calendar has no such day. -/
theorem coerce_of_spells {s : String} {w : Date.Written} (hw : w.Spells (Text.trim s))
    (hday : ¬ w.IsDay) :
    coerce (.string s) .date = .error (.rejected (Json.string s).text .date .noSuchDay) := by
  have hchars : w.chars = Text.trimChars s.toList := by rw [hw.chars_eq, Text.toList_trim]
  have hread : Date.ofChars? (Text.trimChars s.toList) = none := by
    rw [Option.eq_none_iff_forall_ne_some]
    intro d hd
    rw [← hchars, hw.shaped.ofChars?_chars, Date.Written.denotes_iff] at hd
    exact hday (hw.shaped.exists_denotes_iff.mp ⟨d, hd⟩)
  rw [coerce_date_of_hasDateShape (hchars ▸ hw.shaped.hasDateShape), hread]

/-- The texts that are read as dates are those of ten characters `YYYY-MM-DD` whose day the calendar
has. Each of them is the text of the date that it is read as, and the date of a year from 0 to 9999
is read back from its text. Where a date is asked for, the strings around such texts give dates, and
the others of that shape give errors, never numbers. -/
theorem date_text_strict_and_reversible (s : String) (d : Date) :
    (Date.ofText? s = some d ↔ ∃ w : Date.Written, w.Spells s ∧ w.Denotes d) ∧
    ((∃ e, Date.ofText? s = some e) ↔ ∃ w : Date.Written, w.Spells s ∧ w.IsDay) ∧
    (Date.ofText? s = some d → d.text = s) ∧
    (Date.ofText? d.text = some d ↔ d.HasPlainYear) ∧
    (coerce (.string s) .date = .ok (.date d) ↔
      ∃ w : Date.Written, w.Spells (Text.trim s) ∧ w.Denotes d) ∧
    ∀ w : Date.Written, w.Spells (Text.trim s) → ¬ w.IsDay →
      coerce (.string s) .date = .error (.rejected (Json.string s).text .date .noSuchDay) := by
  have hread (s : String) (d : Date) :
      Date.ofText? s = some d ↔ ∃ w : Date.Written, w.Spells s ∧ w.Denotes d := by
    rw [Date.ofText?, Date.ofChars?_eq_some_iff]
    constructor
    · rintro ⟨w, hw, hchars, hd⟩
      exact ⟨w, ⟨hw, hchars⟩, hd⟩
    · rintro ⟨w, ⟨hw, hchars⟩, hd⟩
      exact ⟨w, hw, hchars, hd⟩
  refine ⟨hread s d, ?_, ?_, Date.ofText?_text_iff d, ?_, fun w => coerce_of_spells⟩
  · simp only [hread]
    constructor
    · rintro ⟨e, w, hw, he⟩
      exact ⟨w, hw, hw.shaped.exists_denotes_iff.mp ⟨e, he⟩⟩
    · rintro ⟨w, hw, hday⟩
      obtain ⟨e, he⟩ := hw.shaped.exists_denotes_iff.mpr hday
      exact ⟨e, w, hw, he⟩
  · intro h
    rw [Date.text, Date.chars_of_ofChars?_eq_some h, String.ofList_toList]
  · rw [coerce_string_eq_date_iff, hread]

/-- The leap day of a year that ends a century, and the one that such a year lacks. -/
theorem date_text_strict_and_reversible_century :
    let leapDay : Date := ⟨2000, 2, 29, by decide⟩
    let noDay : Date.Written := ⟨['1', '9', '0', '0'], ['0', '2'], ['2', '9']⟩
    leapDay.text = "2000-02-29" ∧
      coerce (.string " 2000-02-29 ") .date = .ok (.date leapDay) ∧
      noDay.Spells (Text.trim "1900-02-29 ") ∧
      coerce (.string "1900-02-29 ") .date =
        .error (.rejected (Json.string "1900-02-29 ").text .date .noSuchDay) := by
  intro leapDay noDay
  let leap : Date.Written := ⟨['2', '0', '0', '0'], ['0', '2'], ['2', '9']⟩
  have hleap : leap.Spells "2000-02-29" := ⟨⟨rfl, rfl, rfl, by decide⟩, by decide⟩
  have hdenotes : leap.Denotes leapDay := ⟨by decide, by decide, by decide⟩
  have hspells : noDay.Spells (Text.trim "1900-02-29 ") :=
    ⟨⟨rfl, rfl, rfl, by decide⟩, by decide⟩
  have hnone : ¬ noDay.IsDay := fun h => absurd h.day_le (by decide)
  obtain ⟨hread, -, htext, -, -, -⟩ := date_text_strict_and_reversible "2000-02-29" leapDay
  obtain ⟨-, -, -, -, hcoerce, -⟩ := date_text_strict_and_reversible " 2000-02-29 " leapDay
  obtain ⟨-, -, -, -, -, hrefused⟩ := date_text_strict_and_reversible "1900-02-29 " leapDay
  have htrim : Text.trim " 2000-02-29 " = "2000-02-29" := by decide
  exact ⟨htext (hread.mpr ⟨leap, hleap, hdenotes⟩),
    hcoerce.mpr ⟨leap, htrim ▸ hleap, hdenotes⟩, hspells, hrefused noDay hspells hnone⟩

end FilterQuery.Scalar
