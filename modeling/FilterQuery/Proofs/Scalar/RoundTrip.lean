import FilterQuery.Proofs.Decimal.Printing
import FilterQuery.Proofs.Scalar.Numbers

/-!
# Values that are coerced again

A value that has been coerced and is then written as JSON gives itself when that JSON is coerced to
the same type. Only a zero with a minus sign comes back without the sign: the power of ten that left
the sign behind is not written, and a plain zero has none.
-/

namespace FilterQuery

/-- A decimal is written as a numeral without a power of ten. -/
theorem Decimal.spells_text (d : Decimal) : Decimal.Numeral.Spells ⟨d.plain, none⟩ d.text where
  wellFormed := ⟨d.wellFormed_plain, nofun⟩
  chars_eq := by
    rw [Decimal.text, String.toList_ofList, ← d.chars_plain]
    exact List.append_nil _

/-- No blank stands in the text of a date. -/
theorem Date.trim_text (d : Date) : Text.trim d.text = d.text := by
  apply Text.trim_of_not_isBlank
  intro c hc
  rw [Date.text, String.toList_ofList] at hc
  rcases isDigit_or_sign_of_mem_chars hc with h | rfl | rfl
  · exact Text.isBlank_of_isDigit h
  all_goals decide

namespace Scalar

/-- A date of four digits for the year is coerced from its own text. -/
theorem coerce_text_date {d : Date} (h : d.HasPlainYear) :
    coerce (.string d.text) .date = .ok (.date d) := by
  rw [coerce_string_eq_date_iff, d.trim_text, Date.ofText?_text_iff]
  exact h

/-- A number is coerced from its own text, but for the sign of a zero. -/
theorem coerce_text_numeric {t : ScalarType} (ht : t = .date ∨ t = .numeric) (d : Decimal) :
    coerce (.string d.text) t = .ok (.numeric d.unsignedZero) := by
  rcases ht with rfl | rfl
  · rw [coerce_date_of_spells d.spells_text, d.ofText?_text]
  · rw [coerce_numeric_of_spells d.spells_text, d.ofText?_text]

/-- A value without the minus sign of a zero. -/
def unsignedZero : Scalar → Scalar
  | .numeric d => .numeric d.unsignedZero
  | v => v

/-- Only a zero with a minus sign is changed, and keeps its digits. -/
theorem unsignedZero_eq_self_or (v : Scalar) : v.unsignedZero = v ∨
    ∃ d : Decimal, v = .numeric d ∧ d.negative = true ∧ d.coefficient = 0 ∧
      v.unsignedZero = .numeric { d with negative := false } := by
  cases v with
  | numeric d =>
    rcases d.unsignedZero_eq_self_or with hsame | ⟨hnegative, hzero, hunsigned⟩
    · exact .inl (congrArg Scalar.numeric hsame)
    · exact .inr ⟨d, rfl, hnegative, hzero, congrArg Scalar.numeric hunsigned⟩
  | _ => exact .inl rfl

/-- A value that has been coerced is given again by its own JSON, but for the sign of a zero: a zero
with a minus sign comes back with the same digits and without the sign. -/
theorem coerce_toJson_stable {raw : Json} {t : ScalarType} {v : Scalar}
    (h : coerce raw t = .ok v) :
    coerce v.toJson t = .ok v.unsignedZero ∧
      (v.unsignedZero = v ∨ ∃ d : Decimal, v = .numeric d ∧ d.negative = true ∧
        d.coefficient = 0 ∧ v.unsignedZero = .numeric { d with negative := false }) := by
  refine ⟨?_, v.unsignedZero_eq_self_or⟩
  cases yields_of_coerce h with
  | null => rfl
  | count d => exact coerce_text_numeric (.inl rfl) d
  | own htype =>
    cases v with
    | null => cases htype
    | bool b =>
      cases htype
      rfl
    | string s =>
      cases htype
      rfl
    | date d =>
      cases htype
      exact coerce_text_date (hasPlainYear_of_coerce h)
    | numeric d =>
      cases htype
      exact coerce_text_numeric (.inr rfl) d

/-- A number that is asked for as a date is no date the second time, and keeps the zero at its
end. -/
theorem coerce_toJson_stable_count :
    let count : Decimal := ⟨true, 150, 2, by decide, by decide⟩
    coerce (.string " -1.50 ") .date = .ok (.numeric count) ∧
      count.text = "-1.50" ∧ coerce (.string count.text) .date = .ok (.numeric count) := by
  intro count
  have hread : coerce (.string " -1.50 ") .date = .ok (.numeric count) := by decide +kernel
  exact ⟨hread, by decide +kernel, (coerce_toJson_stable hread).1⟩

/-- A power of ten that rounds all digits away leaves a sign, and the second time it is gone. -/
theorem coerce_toJson_drops_sign_of_zero :
    let zero : Decimal := ⟨true, 0, 28, by decide, by decide⟩
    coerce (.string "-0.1e-28") .numeric = .ok (.numeric zero) ∧
      (Scalar.numeric zero).toJson = .string "-0.0000000000000000000000000000" ∧
      coerce (Scalar.numeric zero).toJson .numeric =
        .ok (.numeric { zero with negative := false }) ∧
      coerce (Scalar.numeric zero).toJson .numeric ≠ .ok (.numeric zero) := by
  intro zero
  have htext : zero.text = "-0.0000000000000000000000000000" := by decide +kernel
  have hagain : coerce (Scalar.numeric zero).toJson .numeric =
      .ok (.numeric { zero with negative := false }) := by decide +kernel
  refine ⟨by decide +kernel, congrArg Json.string htext, hagain, ?_⟩
  rw [hagain]
  simp [zero]

end Scalar

end FilterQuery
