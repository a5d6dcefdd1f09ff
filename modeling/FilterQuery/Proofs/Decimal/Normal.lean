import FilterQuery.Proofs.Decimal.Printing

/-!
# The normal form of a decimal

Many decimals denote one number: zeros at the end of the fraction change the scale only, and a zero
may carry a sign. Normalizing leaves exactly one of them, so normal forms and their texts are equal
where the numbers are.
-/

namespace FilterQuery.Decimal

/-- Multiplying across the scales compares the numbers. -/
theorem sameValue_iff (a b : Decimal) : a.sameValue b = true ↔ a.value = b.value := by
  rw [sameValue, beq_iff_eq, value, value, div_eq_div_iff (by positivity) (by positivity),
    Text.placeWeight_eq, Text.placeWeight_eq]
  exact_mod_cast Iff.rfl

/-- No zero stands at the end of the fraction, and zero has no sign. -/
structure IsNormal (d : Decimal) : Prop where
  /-- The last digit behind the point is not zero. -/
  last : d.scale = 0 ∨ d.coefficient % 10 ≠ 0
  /-- Only a number other than zero is negative. -/
  sign : d.negative = true → d.coefficient ≠ 0

/-! ## Zeros at the end -/

/-- What is dropped are powers of ten, as many as places of the scale. -/
theorem trimZeros_mul_pow (coefficient scale : ℕ) :
    ∃ dropped, (trimZeros coefficient scale).2 + dropped = scale ∧
      (trimZeros coefficient scale).1 * 10 ^ dropped = coefficient := by
  induction scale generalizing coefficient with
  | zero => exact ⟨0, rfl, Nat.mul_one _⟩
  | succ scale ih =>
    rw [trimZeros]
    split
    · rename_i hzero
      obtain ⟨dropped, hscale, hcoefficient⟩ := ih (coefficient / 10)
      refine ⟨dropped + 1, by omega, ?_⟩
      rw [Nat.pow_succ, ← Nat.mul_assoc, hcoefficient]
      omega
    · exact ⟨0, rfl, Nat.mul_one _⟩

/-- Zeros are dropped until another digit or the point is reached. -/
theorem trimZeros_last (coefficient scale : ℕ) :
    (trimZeros coefficient scale).2 = 0 ∨ (trimZeros coefficient scale).1 % 10 ≠ 0 := by
  induction scale generalizing coefficient with
  | zero => exact .inl rfl
  | succ scale ih =>
    rw [trimZeros]
    split
    · exact ih _
    · rename_i hlast
      exact .inr hlast

theorem trimZeros_eq_zero_iff (coefficient scale : ℕ) :
    (trimZeros coefficient scale).1 = 0 ↔ coefficient = 0 := by
  obtain ⟨dropped, -, hcoefficient⟩ := trimZeros_mul_pow coefficient scale
  have hpos : 10 ^ dropped ≠ 0 := by positivity
  calc (trimZeros coefficient scale).1 = 0
      ↔ (trimZeros coefficient scale).1 * 10 ^ dropped = 0 := by
        rw [Nat.mul_eq_zero, or_iff_left hpos]
    _ ↔ coefficient = 0 := by rw [hcoefficient]

/-! ## Normalizing -/

theorem isNormal_normalize (d : Decimal) : d.normalize.IsNormal where
  last := trimZeros_last d.coefficient d.scale
  sign := by
    intro h hzero
    have hzero' := (trimZeros_eq_zero_iff _ _).mp hzero
    simp [normalize, hzero'] at h

theorem magnitude_normalize (d : Decimal) : d.normalize.magnitude = d.magnitude := by
  obtain ⟨dropped, hscale, hcoefficient⟩ := trimZeros_mul_pow d.coefficient d.scale
  have hcoefficient' : (d.coefficient : ℚ) = d.normalize.coefficient * 10 ^ dropped := by
    exact_mod_cast hcoefficient.symm
  have hscale' : d.scale = d.normalize.scale + dropped := hscale.symm
  rw [magnitude, magnitude, hcoefficient', hscale', pow_add, mul_div_mul_right _ _ (by positivity)]

/-- Normalizing keeps the number. -/
theorem value_normalize (d : Decimal) : d.normalize.value = d.value := by
  rw [value_eq, value_eq, magnitude_normalize]
  by_cases hzero : d.coefficient = 0
  · simp [magnitude, hzero]
  · simp [normalize, hzero]

theorem IsNormal.unsignedZero_eq {d : Decimal} (h : d.IsNormal) : d.unsignedZero = d := by
  rcases d.unsignedZero_eq_self_or with hsame | ⟨hnegative, hzero, -⟩
  · exact hsame
  · exact absurd hzero (h.sign hnegative)

/-- Of two normal decimals of one magnitude neither has more places than the other. -/
theorem IsNormal.scale_le {a b : Decimal} (ha : a.IsNormal) (h : a.magnitude = b.magnitude) :
    a.scale ≤ b.scale := by
  refine Nat.le_of_not_lt fun hlt => ?_
  obtain ⟨extra, hextra⟩ := Nat.exists_eq_add_of_lt hlt
  have hdigits : (a.coefficient : ℚ) = (b.coefficient * 10 ^ extra * 10 : ℕ) := by
    rw [← magnitude_mul_pow, h, hextra, pow_succ, pow_add]
    push_cast
    rw [← magnitude_mul_pow b]
    ring
  have hdigits' : a.coefficient = b.coefficient * 10 ^ extra * 10 := by exact_mod_cast hdigits
  -- The last of the places that `b` has not got would be a zero.
  rcases ha.last with hscale | hlast
  · omega
  · exact hlast (by rw [hdigits', Nat.mul_mod_left])

/-- Each number has one normal form. -/
theorem IsNormal.eq_of_value_eq {a b : Decimal} (ha : a.IsNormal) (hb : b.IsNormal)
    (h : a.value = b.value) : a = b := by
  have hmagnitude : a.magnitude = b.magnitude := by rw [← abs_value, ← abs_value, h]
  have hscale : a.scale = b.scale :=
    Nat.le_antisymm (ha.scale_le hmagnitude) (hb.scale_le hmagnitude.symm)
  have hcoefficient : a.coefficient = b.coefficient := by
    have hdigits : (a.coefficient : ℚ) = b.coefficient := by
      rw [← magnitude_mul_pow, ← magnitude_mul_pow, hmagnitude, hscale]
    exact_mod_cast hdigits
  have hsigned : a.signed = b.signed := by
    have hdigits : (a.signed : ℚ) = b.signed := by
      rw [value, value, hscale, div_left_inj' (by positivity)] at h
      exact h
    exact_mod_cast hdigits
  -- A coefficient other than zero shows its sign, and zero has none.
  have hnegative : a.negative = b.negative := by
    have hasign := ha.sign
    have hbsign := hb.sign
    simp only [signed, hcoefficient] at hsigned hasign
    cases hna : a.negative <;> cases hnb : b.negative <;> simp_all
  cases a
  cases b
  exact (Decimal.mk.injEq ..).mpr ⟨hnegative, hcoefficient, hscale⟩

/-- Texts of normal forms are equal exactly where the numbers are. -/
theorem text_normalize_eq_iff (a b : Decimal) :
    a.normalize.text = b.normalize.text ↔ a.value = b.value := by
  constructor
  · intro h
    have hread : some a.normalize.unsignedZero = some b.normalize.unsignedZero := by
      rw [← ofText?_text, ← ofText?_text, h]
    rw [a.isNormal_normalize.unsignedZero_eq, b.isNormal_normalize.unsignedZero_eq] at hread
    rw [← value_normalize a, ← value_normalize b, Option.some.inj hread]
  · intro h
    have hvalue : a.normalize.value = b.normalize.value := by
      rw [value_normalize, value_normalize, h]
    rw [a.isNormal_normalize.eq_of_value_eq b.isNormal_normalize hvalue]

end FilterQuery.Decimal
