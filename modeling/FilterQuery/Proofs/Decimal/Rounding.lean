import FilterQuery.Decimal.Text
import FilterQuery.Proofs.Text.Digits
import Mathlib.Algebra.Order.Field.Power
import Mathlib.Tactic.FieldSimp
import Mathlib.Tactic.Linarith
import Mathlib.Tactic.NormNum.Ineq
import Mathlib.Tactic.Positivity

/-!
# What becomes of digits that find no room

A decimal keeps as many digits of a fraction as there is room for, and the rest rounds the last one
of them. What is so read is the exact number wherever that is a decimal at all. Moving the point
afterwards rounds once more, where it moves digits beyond the greatest scale.
-/

namespace FilterQuery.Decimal

open Text (isDigit digitValue readDigits)

/-! ## Values -/

/-- The number that a decimal is. -/
def value (d : Decimal) : ℚ := d.signed / 10 ^ d.scale

/-- The number without its sign. -/
def magnitude (d : Decimal) : ℚ := d.coefficient / 10 ^ d.scale

/-- A number is one of the decimals. -/
def Fits (q : ℚ) : Prop := ∃ d : Decimal, d.value = q

theorem value_eq (d : Decimal) : d.value = if d.negative then -d.magnitude else d.magnitude := by
  rw [value, magnitude, signed]
  split
  · rw [Int.cast_neg, Int.cast_natCast, neg_div]
  · rw [Int.cast_natCast]

theorem magnitude_nonneg (d : Decimal) : 0 ≤ d.magnitude := by
  rw [magnitude]
  positivity

theorem abs_value (d : Decimal) : |d.value| = d.magnitude := by
  rw [value_eq]
  split
  · rw [abs_neg, abs_of_nonneg d.magnitude_nonneg]
  · exact abs_of_nonneg d.magnitude_nonneg

theorem magnitude_mul_pow (d : Decimal) : d.magnitude * 10 ^ d.scale = d.coefficient := by
  rw [magnitude, div_mul_cancel₀ _ (by positivity)]

theorem coefficientBound_eq : coefficientBound = 79228162514264337593543950336 := rfl

theorem div_pow_mul_pow (x : ℚ) (s k : ℕ) : x / 10 ^ s * 10 ^ (s + k) = x * 10 ^ k := by
  rw [pow_add, ← mul_assoc, div_mul_cancel₀ _ (by positivity)]

/-! ## Digits behind the point -/

/-- What digits behind the point come to. -/
def fractionValue (cs : List Char) : ℚ := readDigits cs / 10 ^ cs.length

theorem fractionValue_cons (c : Char) (cs : List Char) :
    fractionValue (c :: cs) = (digitValue c + fractionValue cs) / 10 := by
  have h := Text.readDigits_append [c] cs
  rw [List.singleton_append] at h
  have hone : readDigits [c] = digitValue c := by
    rw [readDigits, List.foldl_cons, List.foldl_nil, Nat.mul_zero, Nat.zero_add]
  rw [fractionValue, fractionValue, h, hone, List.length_cons,
    pow_succ]
  push_cast
  field_simp

theorem fractionValue_nonneg (cs : List Char) : 0 ≤ fractionValue cs := by
  rw [fractionValue]
  positivity

theorem fractionValue_lt_one {cs : List Char} (h : cs.all isDigit) : fractionValue cs < 1 := by
  have hlt := Text.readDigits_lt h
  rw [Text.placeWeight_eq] at hlt
  rw [fractionValue, div_lt_one (by positivity)]
  exact_mod_cast hlt

/-! ## Rounding a fraction -/

/-- A number rounded to the nearest at a scale, a half upwards. Digits are dropped only where the
scale is the greatest or the coefficient has no room for one more. -/
structure Rounds (x : ℚ) (coefficient scale : ℕ) : Prop where
  /-- The number is no more than one half below. -/
  lower : (coefficient : ℚ) - 1 / 2 ≤ x * 10 ^ scale
  /-- The number is less than one half above. -/
  upper : x * 10 ^ scale < coefficient + 1 / 2
  /-- Unless nothing is dropped there is no room. -/
  full : x * 10 ^ scale = coefficient ∨ scale = maxScale ∨
    (coefficientBound : ℚ) - 1 / 2 ≤ x * 10 ^ (scale + 1)

namespace Rounds

variable {x : ℚ} {c s : ℕ}

/-- What is rounded at all has a coefficient of 96 bits after rounding to a whole number. -/
theorem lt_bound (hx : 0 ≤ x) (h : Rounds x c s) (hc : c < coefficientBound) :
    x < coefficientBound - 1 / 2 := by
  have hle : x ≤ x * 10 ^ s := le_mul_of_one_le_right hx (one_le_pow₀ (by norm_num))
  have hc' : (c : ℚ) + 1 ≤ coefficientBound := by exact_mod_cast hc
  linarith [h.upper]

/-- A whole number of units of the last place is not rounded. -/
theorem eq_of_whole {n : ℕ} (h : Rounds x c s) (hn : x * 10 ^ s = n) : c = n := by
  have hlower := h.lower
  have hupper := h.upper
  rw [hn] at hlower hupper
  have hle : (c : ℚ) < n + 1 := by linarith
  have hge : (n : ℚ) < c + 1 := by linarith
  have hle' : c < n + 1 := by exact_mod_cast hle
  have hge' : n < c + 1 := by exact_mod_cast hge
  omega

/-- A number that is a decimal is not rounded. -/
theorem exact_of_fits (h : Rounds x c s) {m t : ℕ} (hm : m < coefficientBound)
    (ht : t ≤ maxScale) (hx : x = m / 10 ^ t) : x * 10 ^ s = c := by
  have hwhole (k : ℕ) : x * 10 ^ (t + k) = (m * 10 ^ k : ℕ) := by
    rw [hx, div_pow_mul_pow]
    push_cast
    rfl
  by_cases hts : t ≤ s
  · -- The last place reaches as far as the digits do.
    obtain ⟨k, rfl⟩ := Nat.exists_eq_add_of_le hts
    rw [h.eq_of_whole (hwhole k), hwhole k]
  · rcases h.full with hexact | hmax | hfull
    · exact hexact
    · omega
    · -- One digit more has no room, and `t` digits would have to have it.
      have hpow : x * 10 ^ (s + 1) ≤ x * 10 ^ t := by
        have hpos : 0 ≤ x := by
          rw [hx]
          positivity
        exact mul_le_mul_of_nonneg_left (pow_le_pow_right₀ (by norm_num) (by omega)) hpos
      have hmx := hwhole 0
      rw [Nat.add_zero, pow_zero, Nat.mul_one] at hmx
      have hm' : (m : ℚ) + 1 ≤ coefficientBound := by exact_mod_cast hm
      linarith

end Rounds

/-- Where the greatest coefficient is rounded up, its last digit goes as well. -/
theorem rounds_greatest {tail : ℚ} (htail : 1 / 2 ≤ tail) (htail' : tail < 1) (s : ℕ) :
    Rounds (((coefficientBound : ℚ) - 1 + tail) / 10 ^ (s + 1)) ((coefficientBound + 4) / 10) s := by
  have hunit : ((coefficientBound : ℚ) - 1 + tail) / 10 ^ (s + 1) * 10 ^ s =
      (coefficientBound - 1 + tail) / 10 := by
    rw [pow_succ]
    field_simp
  have hnext := div_pow_mul_pow ((coefficientBound : ℚ) - 1 + tail) (s + 1) 0
  rw [Nat.add_zero, pow_zero, mul_one] at hnext
  refine ⟨?_, ?_, .inr (.inr ?_)⟩
  · rw [hunit, coefficientBound_eq]
    norm_num
    linarith
  · rw [hunit, coefficientBound_eq]
    norm_num
    linarith
  · rw [hnext]
    linarith

/-- Rounding by the first digit without room keeps to the nearest. -/
theorem rounds_roundBy {digit c s c' s' : ℕ} {f : ℚ} (hdigit : digit < 10) (hf : 0 ≤ f)
    (hf' : f < 1) (hc : c < coefficientBound) (hs : s ≤ maxScale)
    (hroom : ¬(s < maxScale ∧ 10 * c + digit < coefficientBound))
    (h : roundBy digit c s = some (c', s')) :
    Rounds ((c + (digit + f) / 10) / 10 ^ s) c' s' ∧ c' < coefficientBound ∧ s' ≤ maxScale := by
  have hdigit' : (digit : ℚ) ≤ 9 := by exact_mod_cast Nat.le_of_lt_succ hdigit
  have hunit := div_pow_mul_pow (c + ((digit : ℚ) + f) / 10) s 0
  rw [Nat.add_zero, pow_zero, mul_one] at hunit
  -- Where the place is not the last one, the next digit makes the coefficient too large.
  have hfull : s = maxScale ∨ (coefficientBound : ℚ) - 1 / 2 ≤
      (c + ((digit : ℚ) + f) / 10) / 10 ^ s * 10 ^ (s + 1) := by
    by_cases hmax : s = maxScale
    · exact .inl hmax
    · have hbound : coefficientBound ≤ 10 * c + digit :=
        Nat.le_of_not_lt fun hlt => hroom ⟨Nat.lt_of_le_of_ne hs hmax, hlt⟩
      have hbound' : (coefficientBound : ℚ) ≤ 10 * c + digit := by exact_mod_cast hbound
      rw [div_pow_mul_pow]
      exact .inr (by linarith)
  rw [roundBy.eq_def] at h
  split at h
  · rename_i hlow
    obtain ⟨rfl, rfl⟩ := Prod.mk.inj (Option.some.inj h)
    have hlow' : (digit : ℚ) ≤ 4 := by exact_mod_cast Nat.le_of_lt_succ hlow
    exact ⟨⟨by rw [hunit]; linarith, by rw [hunit]; linarith, .inr hfull⟩, hc, hs⟩
  · rename_i hhigh
    have hhigh' : (5 : ℚ) ≤ digit := by exact_mod_cast Nat.le_of_not_lt hhigh
    split at h
    · rename_i hfits
      obtain ⟨rfl, rfl⟩ := Prod.mk.inj (Option.some.inj h)
      refine ⟨⟨?_, ?_, .inr hfull⟩, hfits, hs⟩ <;> rw [hunit] <;> push_cast <;> linarith
    · rename_i hover
      have hgreatest : coefficientBound = c + 1 := by omega
      have hc' : (c : ℚ) = coefficientBound - 1 := by
        rw [hgreatest]
        push_cast
        ring
      cases s with
      | zero => cases h
      | succ s =>
        obtain ⟨rfl, rfl⟩ := Prod.mk.inj (Option.some.inj h)
        have hcoefficient : (c + 5) / 10 = (coefficientBound + 4) / 10 := by rw [hgreatest]
        rw [hc', hcoefficient]
        exact ⟨rounds_greatest (by linarith) (by linarith) s, by decide, by omega⟩

/-- Rounding comes to nothing only where the whole part is the greatest and rounds up. -/
theorem roundBy_eq_none {digit c s : ℕ} (h : roundBy digit c s = none) :
    s = 0 ∧ 5 ≤ digit ∧ coefficientBound ≤ c + 1 := by
  rw [roundBy.eq_def] at h
  split at h
  · cases h
  · split at h
    · cases h
    · cases s with
      | zero => exact ⟨rfl, by omega, by omega⟩
      | succ s => cases h

/-- The digits of a fraction behind those that are read already are read to the nearest. -/
theorem rounds_readFraction {cs : List Char} (hcs : cs.all isDigit) {c s c' s' : ℕ}
    (hc : c < coefficientBound) (hs : s ≤ maxScale) (h : readFraction c s cs = some (c', s')) :
    Rounds ((c + fractionValue cs) / 10 ^ s) c' s' ∧ c' < coefficientBound ∧ s' ≤ maxScale := by
  induction cs generalizing c s with
  | nil =>
    obtain ⟨rfl, rfl⟩ := Prod.mk.inj (Option.some.inj h)
    have hexact : ((c : ℚ) + fractionValue []) / 10 ^ s * 10 ^ s = c := by
      rw [div_mul_cancel₀ _ (by positivity), fractionValue]
      simp [readDigits]
    exact ⟨⟨by rw [hexact]; linarith, by rw [hexact]; linarith, .inl hexact⟩, hc, hs⟩
  | cons d cs ih =>
    rw [List.all_cons, Bool.and_eq_true] at hcs
    rw [readFraction] at h
    rw [fractionValue_cons]
    split at h
    · rename_i hroom
      have hshift : ((c : ℚ) + (digitValue d + fractionValue cs) / 10) / 10 ^ s =
          ((10 * c + digitValue d : ℕ) + fractionValue cs) / 10 ^ (s + 1) := by
        push_cast
        rw [pow_succ]
        field_simp
        ring
      rw [hshift]
      exact ih hcs.2 hroom.2 hroom.1 h
    · rename_i hroom
      exact rounds_roundBy (Text.digitValue_lt hcs.1) (fractionValue_nonneg cs)
        (fractionValue_lt_one hcs.2) hc hs hroom h

/-- A fraction is refused only where the whole part is the greatest and would be rounded up. -/
theorem le_of_readFraction_eq_none {cs : List Char} {c s : ℕ} (h : readFraction c s cs = none) :
    s = 0 ∧ (coefficientBound : ℚ) - 1 / 2 ≤ c + fractionValue cs := by
  induction cs generalizing c s with
  | nil => cases h
  | cons d cs ih =>
    rw [readFraction] at h
    split at h
    · exact absurd (ih h).1 (Nat.succ_ne_zero s)
    · obtain ⟨hs, hdigit, hc⟩ := roundBy_eq_none h
      have hdigit' : (5 : ℚ) ≤ digitValue d := by exact_mod_cast hdigit
      have hc' : (coefficientBound : ℚ) ≤ c + 1 := by exact_mod_cast hc
      refine ⟨hs, ?_⟩
      rw [fractionValue_cons]
      linarith [fractionValue_nonneg cs]

/-! ## Moving the point -/

theorem of?_eq_some_iff {negative : Bool} {c s : ℕ} {d : Decimal} :
    of? negative c s = some d ↔ d.negative = negative ∧ d.coefficient = c ∧ d.scale = s := by
  rw [of?]
  constructor
  · intro h
    split at h
    · cases h
      exact ⟨rfl, rfl, rfl⟩
    · cases h
  · rintro ⟨rfl, rfl, rfl⟩
    rw [dif_pos ⟨d.coefficient_lt, d.scale_le⟩]

theorem isSome_of? {negative : Bool} {c s : ℕ} (hc : c < coefficientBound) (hs : s ≤ maxScale) :
    (of? negative c s).isSome := by
  rw [of?, dif_pos ⟨hc, hs⟩, Option.isSome_some]

/-- Dropping digits rounds to the nearest, a half upwards. -/
theorem dropDigits_eq (c n : ℕ) : dropDigits c (n + 1) = (c + 5 * 10 ^ n) / 10 ^ (n + 1) := by
  induction n generalizing c with
  | zero => rfl
  | succ n ih =>
    have hfive : c + 5 * 10 ^ (n + 1) = c + 5 * 10 ^ n * 10 := by ring
    have hten : 10 ^ (n + 2) = 10 * 10 ^ (n + 1) := by ring
    rw [dropDigits, ih, hfive, hten, ← Nat.div_div_eq_div_mul,
      Nat.add_mul_div_right _ _ (by decide)]

theorem dropDigits_bounds (c n : ℕ) :
    ((dropDigits c (n + 1) : ℚ) - 1 / 2) * 10 ^ (n + 1) ≤ c ∧
      (c : ℚ) < (dropDigits c (n + 1) + 1 / 2) * 10 ^ (n + 1) := by
  rw [dropDigits_eq]
  have hpos : 0 < 10 ^ (n + 1) := by positivity
  have hlow := Nat.div_mul_le_self (c + 5 * 10 ^ n) (10 ^ (n + 1))
  have hhigh := Nat.lt_div_mul_add (a := c + 5 * 10 ^ n) hpos
  generalize (c + 5 * 10 ^ n) / 10 ^ (n + 1) = q at *
  have hlow' : (q : ℚ) * 10 ^ (n + 1) ≤ c + 5 * 10 ^ n := by exact_mod_cast hlow
  have hhigh' : (c : ℚ) + 5 * 10 ^ n < q * 10 ^ (n + 1) + 10 ^ (n + 1) := by exact_mod_cast hhigh
  have hten : (10 : ℚ) ^ (n + 1) = 10 * 10 ^ n := by ring
  rw [hten] at hlow' hhigh' ⊢
  constructor <;> linarith

/-- Digits that are zeros are dropped without any rounding. -/
theorem dropDigits_mul_pow (m n : ℕ) : dropDigits (m * 10 ^ (n + 1)) (n + 1) = m := by
  have hfive : 5 * 10 ^ n < 10 ^ (n + 1) := by
    rw [pow_succ]
    have : 0 < 10 ^ n := by positivity
    omega
  rw [dropDigits_eq, Nat.add_comm, Nat.add_mul_div_right _ _ (by positivity),
    Nat.div_eq_of_lt hfive, Nat.zero_add]

theorem dropDigits_lt {c : ℕ} (hc : c < coefficientBound) (n : ℕ) :
    dropDigits c (n + 1) < coefficientBound := by
  have hpos : 0 < 10 ^ n := by positivity
  have hle : c ≤ c * 10 ^ n := Nat.le_mul_of_pos_right c hpos
  have hlt : (c + 5) * 10 ^ n < coefficientBound * 10 * 10 ^ n :=
    Nat.mul_lt_mul_of_pos_right (by rw [coefficientBound_eq] at *; omega) hpos
  rw [dropDigits_eq, Nat.div_lt_iff_lt_mul (by positivity), pow_succ]
  calc c + 5 * 10 ^ n ≤ (c + 5) * 10 ^ n := by rw [Nat.add_mul]; omega
    _ < coefficientBound * 10 * 10 ^ n := hlt
    _ = coefficientBound * (10 ^ n * 10) := by ring

/-- What moving the point of a number by a power of ten gives. -/
inductive Moves (b : Decimal) (e : ℤ) (d : Decimal) : Prop where
  /-- The digits are kept, and the scale has room. -/
  | kept (hc : d.coefficient = b.coefficient) (hs : e + d.scale = b.scale)
  /-- Zeros are put behind the digits. -/
  | widened {k : ℕ} (hmax : e ≤ maxScale) (hk : e = b.scale + (k + 1 : ℕ))
      (hc : d.coefficient = b.coefficient * 10 ^ (k + 1)) (hs : d.scale = 0)
  /-- Digits beyond the greatest scale are dropped. -/
  | dropped {k : ℕ} (hk : e + maxScale + (k + 1 : ℕ) = b.scale)
      (hc : d.coefficient = dropDigits b.coefficient (k + 1)) (hs : d.scale = maxScale)

theorem moves_of_shiftRight? {b d : Decimal} {power : ℕ} (h : b.shiftRight? power = some d) :
    d.negative = b.negative ∧ b.Moves (-power) d := by
  rw [shiftRight?] at h
  split at h
  · cases h
  · split at h
    · rename_i hscale
      obtain ⟨hneg, hc, hs⟩ := of?_eq_some_iff.mp h
      obtain ⟨k, hk⟩ : ∃ k, b.scale + power - maxScale = k + 1 :=
        ⟨b.scale + power - maxScale - 1, by omega⟩
      rw [hk] at hc
      exact ⟨hneg, .dropped (by omega) hc hs⟩
    · obtain ⟨hneg, hc, hs⟩ := of?_eq_some_iff.mp h
      exact ⟨hneg, .kept hc (by omega)⟩

theorem moves_of_shiftLeft? {b d : Decimal} {power : ℕ} (h : b.shiftLeft? power = some d) :
    d.negative = b.negative ∧ b.Moves power d := by
  rw [shiftLeft?] at h
  split at h
  · obtain ⟨hneg, hc, hs⟩ := of?_eq_some_iff.mp h
    exact ⟨hneg, .kept hc (by omega)⟩
  · split at h
    · cases h
    · obtain ⟨hneg, hc, hs⟩ := of?_eq_some_iff.mp h
      obtain ⟨k, hk⟩ : ∃ k, power - b.scale = k + 1 := ⟨power - b.scale - 1, by omega⟩
      rw [hk, Text.placeWeight_eq] at hc
      exact ⟨hneg, .widened (by omega) (by omega) hc hs⟩

/-- To the right the point moves by any power up to the greatest scale. -/
theorem isSome_shiftRight? (b : Decimal) {power : ℕ} (h : power ≤ maxScale) :
    (b.shiftRight? power).isSome := by
  rw [shiftRight?, if_neg (Nat.not_lt.mpr h)]
  split
  · obtain ⟨k, hk⟩ : ∃ k, b.scale + power - maxScale = k + 1 :=
      ⟨b.scale + power - maxScale - 1, by omega⟩
    rw [hk]
    exact isSome_of? (dropDigits_lt b.coefficient_lt k) (Nat.le_refl _)
  · exact isSome_of? b.coefficient_lt (by omega)

/-- To the left the point moves by any such power, as far as the coefficient has room for zeros. -/
theorem isSome_shiftLeft? (b : Decimal) {power : ℕ} (h : power ≤ maxScale)
    (hroom : b.magnitude * 10 ^ power < coefficientBound) : (b.shiftLeft? power).isSome := by
  rw [shiftLeft?, if_neg (Nat.not_lt.mpr h)]
  split
  · exact isSome_of? b.coefficient_lt (by have := b.scale_le; omega)
  · obtain ⟨k, rfl⟩ := Nat.exists_eq_add_of_le (by omega : b.scale ≤ power)
    rw [pow_add, ← mul_assoc, magnitude_mul_pow] at hroom
    rw [Nat.add_sub_cancel_left, Text.placeWeight_eq]
    exact isSome_of? (by exact_mod_cast hroom) (Nat.zero_le _)

theorem zpow_mul_pow {e : ℤ} {s t : ℕ} (h : e + s = t) : (10 : ℚ) ^ e * 10 ^ s = 10 ^ t := by
  rw [← zpow_natCast, ← zpow_natCast, ← zpow_add₀ (by norm_num), h]

namespace Moves

variable {x : ℚ} {b d : Decimal} {e : ℤ} {k : ℕ}

/-! Before and after, a number is counted in units of the last place. -/

theorem units_of_kept (hs : e + d.scale = b.scale) (x : ℚ) :
    x * 10 ^ e * 10 ^ d.scale = x * 10 ^ b.scale := by
  rw [mul_assoc, zpow_mul_pow hs]

theorem units_of_widened (hk : e = b.scale + (k + 1 : ℕ)) (x : ℚ) :
    x * 10 ^ e = x * 10 ^ b.scale * 10 ^ (k + 1) := by
  have hpow : (10 : ℚ) ^ e * 10 ^ 0 = 10 ^ (b.scale + (k + 1)) := zpow_mul_pow (by omega)
  rw [pow_zero, mul_one] at hpow
  rw [hpow, pow_add, ← mul_assoc]

theorem units_of_dropped (hk : e + maxScale + (k + 1 : ℕ) = b.scale) (x : ℚ) :
    x * 10 ^ e * 10 ^ maxScale * 10 ^ (k + 1) = x * 10 ^ b.scale := by
  have hpow : (10 : ℚ) ^ e * 10 ^ (maxScale + (k + 1)) = 10 ^ b.scale := zpow_mul_pow (by omega)
  rw [← hpow, pow_add]
  ring

/-- A coefficient that had to be rounded for want of room has none for zeros. -/
theorem exact_of_widened (hb : Rounds x b.coefficient b.scale) (hmax : e ≤ maxScale)
    (hk : e = b.scale + (k + 1 : ℕ)) (hc : d.coefficient = b.coefficient * 10 ^ (k + 1)) :
    x * 10 ^ b.scale = b.coefficient := by
  rcases hb.full with hexact | hscale | hfull
  · exact hexact
  · omega
  · have hten : b.coefficient * 10 ≤ b.coefficient * 10 ^ (k + 1) := by
      rw [pow_succ, ← Nat.mul_assoc]
      exact Nat.mul_le_mul_right 10 (Nat.le_mul_of_pos_right _ (by positivity))
    have hlt : b.coefficient * 10 < coefficientBound := by
      have := d.coefficient_lt
      omega
    have hupper := hb.upper
    rw [pow_succ, ← mul_assoc] at hfull
    have hge : (coefficientBound : ℚ) < b.coefficient * 10 + 6 := by linarith
    have hge' : coefficientBound < b.coefficient * 10 + 6 := by exact_mod_cast hge
    -- No multiple of ten lies between.
    rw [coefficientBound_eq] at hlt hge'
    omega

/-- What is left of a rounded number once the point has moved is near it. -/
theorem near (hb : Rounds x b.coefficient b.scale) (h : b.Moves e d) :
    |x * 10 ^ e * 10 ^ d.scale - d.coefficient| ≤ 11 / 20 := by
  have hlower := hb.lower
  have hupper := hb.upper
  cases h with
  | kept hc hs =>
    rw [units_of_kept hs, hc, abs_le]
    constructor <;> linarith
  | widened hmax hk hc hs =>
    rw [hs, units_of_widened hk, exact_of_widened hb hmax hk hc, hc]
    push_cast
    rw [pow_zero, mul_one, sub_self, abs_zero]
    norm_num
  | @dropped k hk hc hs =>
    obtain ⟨hlow, hhigh⟩ := dropDigits_bounds b.coefficient k
    rw [← units_of_dropped hk] at hlower hupper
    -- The first rounding was half a unit at most of a place that is worth a tenth now.
    have hten : (10 : ℚ) ≤ 10 ^ (k + 1) := by
      rw [pow_succ]
      linarith [one_le_pow₀ (n := k) (by norm_num : (1 : ℚ) ≤ 10)]
    rw [hs, hc, abs_le]
    constructor
    · by_contra hlt
      nlinarith
    · by_contra hlt
      nlinarith

/-- A number of which a decimal is left is below the first one that rounds to 97 bits. -/
theorem lt_bound (hb : Rounds x b.coefficient b.scale) (hx : 0 ≤ x) (h : b.Moves e d) :
    x * 10 ^ e < coefficientBound - 1 / 2 := by
  have hbound : (d.coefficient : ℚ) + 1 ≤ coefficientBound := by exact_mod_cast d.coefficient_lt
  have hnonneg : 0 ≤ x * 10 ^ e := by positivity
  have hnear := (abs_le.mp (h.near hb)).2
  cases h with
  | kept hc hs =>
    have hle : x * 10 ^ e ≤ x * 10 ^ e * 10 ^ d.scale :=
      le_mul_of_one_le_right hnonneg (one_le_pow₀ (by norm_num))
    rw [units_of_kept hs] at hle
    rw [hc] at hbound
    linarith [hb.upper]
  | widened hmax hk hc hs =>
    rw [units_of_widened hk, exact_of_widened hb hmax hk hc]
    rw [hc] at hbound
    push_cast at hbound
    linarith
  | dropped hk hc hs =>
    have hwide : x * 10 ^ e * 10 ≤ x * 10 ^ e * 10 ^ d.scale := by
      rw [hs]
      exact mul_le_mul_of_nonneg_left (by norm_num [maxScale]) hnonneg
    rw [coefficientBound_eq] at *
    push_cast at *
    linarith

/-- Nothing is lost in the end only if nothing was lost before. -/
theorem exact_before (hb : Rounds x b.coefficient b.scale) (h : b.Moves e d)
    (hexact : x * 10 ^ e * 10 ^ d.scale = d.coefficient) : x * 10 ^ b.scale = b.coefficient := by
  cases h with
  | kept hc hs => rw [← hc, ← hexact, units_of_kept hs]
  | widened hmax hk hc hs => exact exact_of_widened hb hmax hk hc
  | @dropped k hk hc hs =>
    have hwhole : x * 10 ^ b.scale = (d.coefficient * 10 ^ (k + 1) : ℕ) := by
      rw [hs] at hexact
      rw [← units_of_dropped hk, hexact]
      push_cast
      rfl
    rw [hwhole, hb.eq_of_whole hwhole]

/-- Nothing is lost on the way to a decimal. -/
theorem exact_after (h : b.Moves e d) (hexact : x * 10 ^ b.scale = b.coefficient) {m t : ℕ}
    (ht : t ≤ maxScale) (hx : x * 10 ^ e = m / 10 ^ t) :
    x * 10 ^ e * 10 ^ d.scale = d.coefficient := by
  cases h with
  | kept hc hs => rw [hc, ← hexact, units_of_kept hs]
  | widened hmax hk hc hs =>
    rw [hs, units_of_widened hk, hexact, hc]
    push_cast
    rw [pow_zero, mul_one]
  | @dropped k hk hc hs =>
    obtain ⟨j, hj⟩ := Nat.exists_eq_add_of_le ht
    have hunits : x * 10 ^ e * 10 ^ maxScale = (m * 10 ^ j : ℕ) := by
      rw [hx, hj, div_pow_mul_pow]
      push_cast
      rfl
    have hcoefficient : (b.coefficient : ℚ) = (m * 10 ^ j * 10 ^ (k + 1) : ℕ) := by
      rw [← hexact, ← units_of_dropped hk, hunits]
      push_cast
      rfl
    rw [hs, hunits, hc, Nat.cast_inj.mp hcoefficient, dropDigits_mul_pow]

/-- Moving nothing but zeros gives zero. -/
theorem coefficient_eq_zero (h : b.Moves e d) (hb : b.coefficient = 0) : d.coefficient = 0 := by
  cases h with
  | kept hc hs => rw [hc, hb]
  | widened hmax hk hc hs => rw [hc, hb, Nat.zero_mul]
  | @dropped k hk hc hs =>
    have hzero := dropDigits_mul_pow 0 k
    rw [Nat.zero_mul] at hzero
    rw [hc, hb, hzero]

end Moves

end FilterQuery.Decimal
