import FilterQuery.Proofs.Decimal.Rounding

/-!
# Whole numbers among the decimals

A decimal is a whole number when nothing but zeros stands behind its point, however many they are,
and then the digits before the point are that number.
-/

namespace FilterQuery.Decimal

variable {d : Decimal} {n : ℤ}

theorem truncate_eq (d : Decimal) :
    d.truncate = if d.negative then -((d.coefficient / 10 ^ d.scale : ℕ) : ℤ)
      else (d.coefficient / 10 ^ d.scale : ℕ) := by
  simp only [truncate, Text.placeWeight_eq]

theorem isWhole_iff_dvd (d : Decimal) : d.isWhole = true ↔ 10 ^ d.scale ∣ d.coefficient := by
  rw [isWhole, Text.placeWeight_eq, beq_iff_eq, Nat.dvd_iff_mod_eq_zero]

/-- The coefficient of a whole number is the number with zeros behind it. -/
theorem coefficient_eq_of_value_eq (h : d.value = n) : d.coefficient = n.natAbs * 10 ^ d.scale := by
  have hmagnitude : d.magnitude = (n.natAbs : ℚ) := by
    rw [← abs_value, h, Nat.cast_natAbs, Int.cast_abs]
  have hcoefficient : (d.coefficient : ℚ) = (n.natAbs * 10 ^ d.scale : ℕ) := by
    rw [← magnitude_mul_pow, hmagnitude]
    push_cast
    rfl
  exact_mod_cast hcoefficient

/-- A decimal is a whole number when its fraction is none, and its whole part is that number. -/
theorem value_eq_int_iff : d.value = n ↔ d.isWhole = true ∧ d.truncate = n := by
  have hpos : 0 < 10 ^ d.scale := by positivity
  constructor
  · intro h
    have hcoefficient := coefficient_eq_of_value_eq h
    have hquotient : d.coefficient / 10 ^ d.scale = n.natAbs := by
      rw [hcoefficient, Nat.mul_div_cancel _ hpos]
    refine ⟨d.isWhole_iff_dvd.mpr (hcoefficient ▸ Nat.dvd_mul_left _ _), ?_⟩
    have hvalue := d.value_eq
    have hnonneg := d.magnitude_nonneg
    rw [truncate_eq, hquotient]
    rw [h] at hvalue
    split at hvalue
    · rename_i hnegative
      have hle : (n : ℚ) ≤ 0 := by linarith
      have hle' : n ≤ 0 := by exact_mod_cast hle
      rw [if_pos hnegative]
      omega
    · rename_i hnegative
      have hge : (0 : ℚ) ≤ n := by linarith
      have hge' : 0 ≤ n := by exact_mod_cast hge
      rw [if_neg hnegative]
      omega
  · rintro ⟨hwhole, rfl⟩
    obtain ⟨k, hk⟩ := d.isWhole_iff_dvd.mp hwhole
    have hmagnitude : d.magnitude = k := by
      rw [magnitude, hk, div_eq_iff (by positivity)]
      push_cast
      ring
    rw [value_eq, truncate_eq, hmagnitude, hk, Nat.mul_div_cancel_left _ hpos]
    split <;> push_cast <;> rfl

end FilterQuery.Decimal
