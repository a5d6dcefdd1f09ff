import FilterQuery.Proofs.Decimal.Numeral

/-!
# Decimals that are read back

A decimal is written as a plain number that has every digit of its scale, and reading that number
rounds nothing away. Only the sign of a zero is not read back: a plain zero has none.
-/

namespace FilterQuery.Decimal

open Text (isDigit readDigits)

/-- Digits for which there is room are all read into the coefficient. -/
theorem readFraction_eq {cs : List Char} {c s : ℕ}
    (hcoefficient : c * 10 ^ cs.length + readDigits cs < coefficientBound)
    (hscale : s + cs.length ≤ maxScale) :
    readFraction c s cs = some (c * 10 ^ cs.length + readDigits cs, s + cs.length) := by
  induction cs generalizing c s with
  | nil => simp [readFraction, readDigits]
  | cons d cs ih =>
    have hlength : (d :: cs).length = cs.length + 1 := rfl
    have hvalue : c * 10 ^ (d :: cs).length + readDigits (d :: cs) =
        (10 * c + Text.digitValue d) * 10 ^ cs.length + readDigits cs := by
      have hdigit : readDigits [d] = Text.digitValue d := by simp [readDigits]
      rw [← List.singleton_append, Text.readDigits_append, hdigit, List.singleton_append, hlength,
        Nat.pow_succ]
      ring
    rw [hvalue] at hcoefficient ⊢
    -- The digits so far denote no more than all of them.
    have hnext : 10 * c + Text.digitValue d < coefficientBound := by
      refine Nat.lt_of_le_of_lt ?_ hcoefficient
      exact Nat.le_add_right_of_le (Nat.le_mul_of_pos_right _ (by positivity))
    have hroom : s < maxScale := by omega
    rw [readFraction, if_pos ⟨hroom, hnext⟩, ih hcoefficient (by omega), hlength,
      Nat.add_right_comm, ← Nat.add_assoc]

variable (d : Decimal)

/-- The digits of a number, at least one of them before the point. -/
def digits : List Char := Text.paddedDigits (d.scale + 1) d.coefficient

/-- A number as it is written. -/
def plain : Plain where
  sign := if d.negative then .minus else .absent
  whole := d.digits.take (d.digits.length - d.scale)
  fraction :=
    if d.scale = 0 then none else some (d.digits.drop (d.digits.length - d.scale))

theorem chars_plain : d.plain.chars = d.chars := by
  simp only [Plain.chars, Plain.body, plain, chars, digits]
  cases d.negative <;> split_ifs <;> simp [Sign.chars]

/-- The digits behind the point are those that the whole part leaves. -/
theorem behind_plain : d.plain.behind = d.digits.drop (d.digits.length - d.scale) := by
  simp only [Plain.behind, plain]
  split_ifs with hscale
  · simp [hscale]
  · rfl

theorem scale_lt_length_digits : d.scale < d.digits.length :=
  Text.le_length_paddedDigits (d.scale + 1) d.coefficient

theorem length_behind_plain : d.plain.behind.length = d.scale := by
  have hlength := d.scale_lt_length_digits
  rw [behind_plain, List.length_drop]
  omega

theorem wellFormed_plain : d.plain.WellFormed := by
  have hdigits : ∀ c ∈ d.digits, isDigit c := List.all_eq_true.mp (Text.all_isDigit_paddedDigits ..)
  have hlength := d.scale_lt_length_digits
  refine ⟨?_, ?_, ?_⟩
  · rw [List.all_eq_true]
    intro c hc
    exact hdigits c (List.mem_of_mem_take hc)
  · rw [behind_plain, List.all_eq_true]
    intro c hc
    exact hdigits c (List.mem_of_mem_drop hc)
  · have hwhole : d.plain.whole ≠ [] := by
      rw [← List.length_pos_iff, plain, List.length_take]
      omega
    simp [hwhole]

/-- The digits around the point denote the coefficient. -/
theorem readDigits_plain :
    readDigits d.plain.whole * 10 ^ d.scale + readDigits d.plain.behind = d.coefficient := by
  have hsplit : d.plain.whole ++ d.plain.behind = d.digits := by
    rw [behind_plain]
    exact List.take_append_drop ..
  calc readDigits d.plain.whole * 10 ^ d.scale + readDigits d.plain.behind
      = readDigits (d.plain.whole ++ d.plain.behind) := by
        rw [Text.readDigits_append, length_behind_plain]
    _ = d.coefficient := by rw [hsplit, digits, Text.readDigits_paddedDigits]

/-- The number without the sign of a zero. -/
def unsignedZero : Decimal := { d with negative := d.negative && d.coefficient != 0 }

/-- Nothing else than the sign of a zero is lost. -/
theorem unsignedZero_eq_self_or :
    d.unsignedZero = d ∨
      d.negative = true ∧ d.coefficient = 0 ∧ d.unsignedZero = { d with negative := false } := by
  obtain ⟨negative, coefficient, scale, _, _⟩ := d
  by_cases hzero : coefficient = 0 <;> cases negative <;> simp [unsignedZero, hzero]

/-- A number is read back from its own characters, but for the sign of a zero. -/
theorem ofPlain?_chars : ofPlain? d.chars = some d.unsignedZero := by
  have hvalue := d.readDigits_plain
  have hcoefficient := d.coefficient_lt
  have hscale := d.scale_le
  have hwhole : readDigits d.plain.whole < coefficientBound := by
    have hle : readDigits d.plain.whole ≤ readDigits d.plain.whole * 10 ^ d.scale :=
      Nat.le_mul_of_pos_right _ (by positivity)
    omega
  have hread : readFraction (readDigits d.plain.whole) 0 d.plain.behind =
      some (d.coefficient, d.scale) := by
    rw [readFraction_eq, length_behind_plain, hvalue, Nat.zero_add] <;>
      rw [length_behind_plain] <;> omega
  have hsign : decide (d.plain.sign = .minus) = d.negative := by
    cases hnegative : d.negative <;> simp [plain, hnegative]
  rw [← chars_plain, d.wellFormed_plain.ofPlain?_chars, if_pos hwhole, hread, hsign]
  exact dif_pos ⟨hcoefficient, hscale⟩

/-- A number is read back from its text, but for the sign of a zero. -/
theorem ofText?_text : ofText? d.text = some d.unsignedZero := by
  rw [ofText?, text, String.toList_ofList, ofChars?, ofPlain?_chars]
  rfl

end FilterQuery.Decimal
