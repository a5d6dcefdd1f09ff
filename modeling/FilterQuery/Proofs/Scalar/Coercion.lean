import FilterQuery.Proofs.Calendar.Text
import FilterQuery.Scalar.Coercion

/-!
# What coercion gives

A value that has been coerced is null or of the type that was asked for, with one exception: where a
date is asked for, the count that an operator takes from a date passes as well. A date that coercion
gives has been read from ten characters, so its year has four digits.
-/

namespace FilterQuery

/-- The values that coercion to a type can give. -/
inductive ScalarType.Yields : ScalarType → Scalar → Prop where
  /-- Null is a value of every type. -/
  | null (t : ScalarType) : t.Yields .null
  /-- A value of the type itself. -/
  | own {t : ScalarType} {v : Scalar} (h : v.type? = some t) : t.Yields v
  /-- A number of something to count from a date. -/
  | count (n : Decimal) : ScalarType.date.Yields (.numeric n)

/-- Only coercion to a date gives dates. -/
theorem ScalarType.Yields.eq_date {t : ScalarType} {d : Date} (h : t.Yields (.date d)) :
    t = .date := by
  cases h with
  | own htype => exact (Option.some.inj htype).symm

namespace Scalar

/-- A value is coerced, or rejected as what it is for the type that was asked for. -/
theorem coerce_eq_ok_or_rejected (raw : Json) (t : ScalarType) :
    (∃ v, coerce raw t = .ok v) ∨ ∃ why, coerce raw t = .error (.rejected raw.text t why) := by
  cases raw with
  | null => exact .inl ⟨_, rfl⟩
  | bool b => cases t <;> first | exact .inl ⟨_, rfl⟩ | exact .inr ⟨_, rfl⟩
  | array items => exact .inr ⟨_, rfl⟩
  | object members => exact .inr ⟨_, rfl⟩
  | number n =>
    cases hread : n.decimal? <;> cases t <;> simp [coerce, coerceBoolean, coerceDate,
      coerceNumeric, hread]
  | string s =>
    cases t with
    | string => exact .inl ⟨_, rfl⟩
    | boolean =>
      simp only [coerce, coerceBoolean]
      split_ifs <;> simp
    | date =>
      simp only [coerce, coerceDate]
      split_ifs <;> split <;> simp
    | numeric =>
      simp only [coerce, coerceNumeric]
      split <;> simp

theorem yields_of_coerceBoolean {raw : Json} {v : Scalar} (h : coerceBoolean raw = .ok v) :
    ScalarType.boolean.Yields v := by
  unfold coerceBoolean at h
  split at h
  · cases h
    exact .own rfl
  · dsimp only at h
    split at h
    · cases h
      exact .own rfl
    · split at h
      · cases h
        exact .own rfl
      · split at h
        · cases h
          exact .null _
        · cases h
  · cases h

/-- Coercion to a date gives a date that it has read, or a count. -/
theorem eq_of_coerceDate {raw : Json} {v : Scalar} (h : coerceDate raw = .ok v) :
    (∃ cs d, Date.ofChars? cs = some d ∧ v = .date d) ∨ ∃ n, v = .numeric n := by
  unfold coerceDate at h
  split at h
  · dsimp only at h
    split at h
    · split at h
      · rename_i d hd
        exact .inl ⟨_, d, hd, (Except.ok.inj h).symm⟩
      · cases h
    · split at h
      · exact .inr ⟨_, (Except.ok.inj h).symm⟩
      · cases h
  · split at h
    · exact .inr ⟨_, (Except.ok.inj h).symm⟩
    · cases h
  · cases h

theorem yields_of_coerceNumeric {raw : Json} {v : Scalar} (h : coerceNumeric raw = .ok v) :
    ScalarType.numeric.Yields v := by
  unfold coerceNumeric at h
  split at h
  · split at h
    · cases h
      exact .own rfl
    · cases h
  · split at h
    · cases h
      exact .own rfl
    · cases h
  · cases h

/-- Coercion to a type gives one of the values that it can give. -/
theorem yields_of_coerce {raw : Json} {t : ScalarType} {v : Scalar} (h : coerce raw t = .ok v) :
    t.Yields v := by
  unfold coerce at h
  split at h
  · cases h
    exact .null t
  · cases h
  · cases h
  · cases t with
    | string =>
      cases h
      exact .own rfl
    | boolean => exact yields_of_coerceBoolean h
    | date =>
      rcases eq_of_coerceDate h with ⟨_, d, -, rfl⟩ | ⟨n, rfl⟩
      · exact .own rfl
      · exact .count n
    | numeric => exact yields_of_coerceNumeric h

/-- A date that has been coerced is of the years 0 to 9999. -/
theorem hasPlainYear_of_coerce {raw : Json} {t : ScalarType} {d : Date}
    (h : coerce raw t = .ok (.date d)) : d.HasPlainYear := by
  obtain rfl := (yields_of_coerce h).eq_date
  unfold coerce at h
  split at h
  · cases h
  · cases h
  · cases h
  · rcases eq_of_coerceDate h with ⟨cs, d', hread, hd⟩ | ⟨n, hn⟩
    · cases hd
      exact Date.hasPlainYear_of_ofChars?_eq_some hread
    · cases hn

end Scalar

end FilterQuery
