import FilterQuery.Binary64.Shortest
import FilterQuery.Proofs.Binary64.Rounding

/-!
# The shortest decimal lies in the interval

The tests of `readsBack` decide exactly whether a decimal lies in the interval of a number. The
search goes from coarse grids to fine ones, and it ends: seventeen digits leave a step between two
decimals that is smaller than the interval, so one of the two next to the number lies in it.
-/

namespace FilterQuery.Binary64

/-- The number that a decimal denotes. -/
def Decimal.value (d : Decimal) : ℚ := d.digits * 10 ^ d.exponent

/-- The magnitude of a number. -/
def magnitude (x : Binary64) : ℚ := x.significand * 2 ^ x.exponent

/-! ### Comparing -/

theorem compare_mul_right {a b c : ℚ} (hc : 0 < c) : compare (a * c) (b * c) = compare a b := by
  rcases lt_trichotomy a b with h | h | h
  · rw [compare_lt_iff_lt.mpr h, compare_lt_iff_lt]
    gcongr
  · rw [h, compare_eq_iff_eq.mpr rfl, compare_eq_iff_eq.mpr rfl]
  · rw [compare_gt_iff_gt.mpr h, compare_gt_iff_gt]
    exact mul_lt_mul_of_pos_right h hc

theorem compare_natCast (a b : ℕ) : compare (a : ℚ) (b : ℚ) = compare a b := by
  rcases lt_trichotomy a b with h | h | h
  · rw [compare_lt_iff_lt.mpr h, compare_lt_iff_lt]
    exact_mod_cast h
  · rw [h, compare_eq_iff_eq.mpr rfl, compare_eq_iff_eq.mpr rfl]
  · rw [compare_gt_iff_gt.mpr h, compare_gt_iff_gt]
    exact_mod_cast h

/-- The comparison on natural numbers is the one of what is compared. -/
theorem compareScaled_eq (a : ℕ) (k : ℤ) (b : ℕ) (p : ℤ) :
    compareScaled a k b p = compare ((a : ℚ) * 10 ^ k) (b * 2 ^ p) := by
  have hten := zpow_mul_toNat (b := 10) (by norm_num) k
  have htwo := zpow_mul_toNat (two_ne_zero' ℚ) p
  have hpos : (0 : ℚ) < 10 ^ (-k).toNat * 2 ^ (-p).toNat := by positivity
  rw [compareScaled, ← compare_natCast]
  refine Eq.trans ?_ (compare_mul_right hpos)
  simp only [Nat.shiftLeft_eq, Text.placeWeight_eq, Nat.cast_mul, Nat.cast_pow, Nat.cast_ofNat]
  congr 1
  · rw [← hten]
    ring
  · rw [← htwo]
    ring

/-! ### Reading back -/

theorem low_eq {x : Binary64} (hx : 0 < x.significand) :
    (x.roundingInterval.1 : ℚ) * 2 ^ (x.exponent - 2) =
      (x.significand - x.reach) * 2 ^ x.exponent := by
  rw [roundingInterval, reach, zpow_sub₀ two_ne_zero]
  split
  · rw [Nat.cast_sub (by omega)]
    push_cast
    norm_num
    ring
  · rw [Nat.cast_sub (by omega)]
    push_cast
    norm_num
    ring

theorem high_eq (x : Binary64) :
    (x.roundingInterval.2.1 : ℚ) * 2 ^ (x.exponent - 2) =
      (x.significand + 1 / 2) * 2 ^ x.exponent := by
  rw [roundingInterval, zpow_sub₀ two_ne_zero]
  push_cast
  norm_num
  ring

/-- The test decides whether a decimal lies in the interval of a number. -/
theorem readsBack_iff {x : Binary64} (hx : 0 < x.significand) (d : Decimal) :
    x.readsBack d = true ↔ x.Covers d.value := by
  have hpow : (0 : ℚ) < 2 ^ x.exponent := by positivity
  have hlow : compareScaled d.digits d.exponent x.roundingInterval.1 (x.exponent - 2) =
      compare (d.value / 2 ^ x.exponent) (x.significand - x.reach) := by
    rw [compareScaled_eq, low_eq hx]
    refine Eq.trans ?_ (compare_mul_right hpow)
    rw [div_mul_cancel₀ _ hpow.ne']
    rfl
  have hhigh : compareScaled d.digits d.exponent x.roundingInterval.2.1 (x.exponent - 2) =
      compare (d.value / 2 ^ x.exponent) (x.significand + 1 / 2) := by
    rw [compareScaled_eq, high_eq]
    refine Eq.trans ?_ (compare_mul_right hpow)
    rw [div_mul_cancel₀ _ hpow.ne']
    rfl
  have hreach := x.reach_pos
  have hclosed : x.roundingInterval.2.2 = true ↔ x.significand % 2 = 0 := by
    rw [roundingInterval]
    exact beq_iff_eq
  rw [readsBack]
  simp only [hlow, hhigh]
  rcases lt_trichotomy (d.value / 2 ^ x.exponent) (x.significand - x.reach) with h | h | h
  · have h' : d.value / 2 ^ x.exponent < x.significand + 1 / 2 := by linarith
    rw [compare_lt_iff_lt.mpr h, compare_lt_iff_lt.mpr h']
    constructor
    · intro hfalse
      cases hfalse
    · intro hcovers
      exact absurd hcovers.lower (not_le.mpr h)
  · rw [compare_eq_iff_eq.mpr h]
    change x.roundingInterval.2.2 = true ↔ _
    rw [hclosed]
    constructor
    · intro heven
      exact ⟨h.ge, by linarith, fun _ => heven⟩
    · intro hcovers
      exact hcovers.tie (.inl h)
  · rw [compare_gt_iff_gt.mpr h]
    rcases lt_trichotomy (d.value / 2 ^ x.exponent) (x.significand + 1 / 2) with h' | h' | h'
    · rw [compare_lt_iff_lt.mpr h']
      simp only [true_iff]
      exact covers_of_lt h h'
    · rw [compare_eq_iff_eq.mpr h']
      change x.roundingInterval.2.2 = true ↔ _
      rw [hclosed]
      constructor
      · intro heven
        exact ⟨h.le, h'.le, fun _ => heven⟩
      · intro hcovers
        exact hcovers.tie (.inr h')
    · rw [compare_gt_iff_gt.mpr h']
      constructor
      · intro hfalse
        cases hfalse
      · intro hcovers
        exact absurd hcovers.upper (not_le.mpr h')

/-! ### Grids -/

/-- The quotient of a number is its magnitude. -/
theorem div_quotient (x : Binary64) :
    (x.quotient.1 : ℚ) / x.quotient.2 = x.magnitude := by
  have h := zpow_mul_toNat (two_ne_zero' ℚ) x.exponent
  have hpow : (2 : ℚ) ^ (-x.exponent).toNat ≠ 0 := by positivity
  rw [quotient, magnitude]
  simp only [Nat.shiftLeft_eq, one_mul, Nat.cast_mul, Nat.cast_pow, Nat.cast_ofNat]
  rw [div_eq_iff hpow, mul_assoc, h]

theorem quotient_pos {x : Binary64} (hx : 0 < x.significand) :
    0 < x.quotient.1 ∧ 0 < x.quotient.2 := by
  rw [quotient, Nat.shiftLeft_eq, Nat.shiftLeft_eq]
  constructor <;> positivity

/-- The first significant digit of a quotient stands on no place above it. -/
theorem zpow_leadingPlace_le {num den : ℕ} (hnum : 0 < num) (hden : 0 < den) :
    (10 : ℚ) ^ leadingPlace num den ≤ num / den := by
  have hden' : (0 : ℚ) < den := by exact_mod_cast hden
  rw [le_div_iff₀ hden', leadingPlace]
  split
  · rename_i hle
    have hpos : 0 < num / den := Nat.div_pos hle hden
    have hlen := List.length_pos_iff.mpr (Text.naturalDigits_ne_nil (num / den))
    have hpow := Text.pow_length_naturalDigits_le hpos
    have hmul : 10 ^ ((Text.naturalDigits (num / den)).length - 1) * den ≤ num :=
      (Nat.le_div_iff_mul_le hden).mp hpow
    have hexp : ((Text.naturalDigits (num / den)).length : ℤ) - 1 =
        ((Text.naturalDigits (num / den)).length - 1 : ℕ) := by omega
    rw [hexp, zpow_natCast]
    exact_mod_cast hmul
  · rename_i hlt
    dsimp only
    have hlen := List.length_pos_iff.mpr (Text.naturalDigits_ne_nil (den / num))
    have hbelow := Text.lt_pow_length_naturalDigits (den / num)
    generalize (Text.naturalDigits (den / num)).length = width at *
    split
    · rename_i hle
      have hexp : (1 : ℤ) - width = -((width - 1 : ℕ) : ℤ) := by omega
      have hpow : (0 : ℚ) < 10 ^ (width - 1) := by positivity
      rw [hexp, zpow_neg, zpow_natCast, inv_mul_le_iff₀ hpow]
      rw [Text.placeWeight_eq, mul_comm] at hle
      exact_mod_cast hle
    · have hpow : (0 : ℚ) < 10 ^ width := by positivity
      have hle : den < 10 ^ width * num := (Nat.div_lt_iff_lt_mul hnum).mp hbelow
      rw [zpow_neg, zpow_natCast, inv_mul_le_iff₀ hpow]
      exact_mod_cast hle.le

/-- The steps below a quotient leave less than one of them, and nothing when they reach it. -/
theorem stepsBelow_bounds (num : ℕ) {den : ℕ} (hden : 0 < den) (place : ℤ) :
    ((stepsBelow num den place).1 : ℚ) * 10 ^ place ≤ num / den ∧
      (num : ℚ) / den < ((stepsBelow num den place).1 + 1) * 10 ^ place ∧
      ((stepsBelow num den place).2 = true →
        ((stepsBelow num den place).1 : ℚ) * 10 ^ place = num / den) := by
  have hten := zpow_mul_toNat (b := 10) (by norm_num) place
  have hpos : (0 : ℚ) < 10 ^ place := by positivity
  have hden' : (0 : ℚ) < den := by exact_mod_cast hden
  simp only [stepsBelow, Text.placeWeight_eq]
  have hd : 0 < den * 10 ^ place.toNat := by positivity
  have hratio : ((num * 10 ^ (-place).toNat : ℕ) : ℚ) / (den * 10 ^ place.toNat : ℕ) * 10 ^ place =
      num / den := by
    push_cast
    rw [← hten]
    field_simp
  generalize num * 10 ^ (-place).toNat = n at *
  generalize den * 10 ^ place.toNat = d at *
  obtain ⟨hsplit, hrest, hrest'⟩ := div_eq_whole_add_rest n hd
  rw [← hratio, hsplit]
  refine ⟨?_, ?_, ?_⟩
  · gcongr
    linarith
  · gcongr
  · intro hexact
    rw [beq_iff_eq.mp hexact, Nat.cast_zero, zero_div, add_zero]

/-- The magnitude of a number lies in its interval. -/
theorem covers_magnitude (x : Binary64) : x.Covers x.magnitude := by
  have hpow : (2 : ℚ) ^ x.exponent ≠ 0 := by positivity
  have hreach := x.reach_pos
  have hself : x.magnitude / 2 ^ x.exponent = x.significand := mul_div_cancel_right₀ _ hpow
  apply covers_of_lt
  · rw [hself]
    linarith
  · rw [hself]
    linarith

/-- What a grid gives lies in the interval. -/
theorem covers_of_onGrid? {x : Binary64} (hx : 0 < x.significand) {place : ℤ} {d : Decimal}
    (h : x.onGrid? place = some d) : x.Covers d.value := by
  obtain ⟨-, -, hexact⟩ := stepsBelow_bounds x.quotient.1 (quotient_pos hx).2 place
  simp only [onGrid?] at h
  split at h
  · rename_i hreached
    cases h
    have heq := hexact hreached
    rw [div_quotient] at heq
    change x.Covers (_ * _)
    rw [heq]
    exact x.covers_magnitude
  · split at h
    · rename_i hlower _
      cases h
      exact (readsBack_iff hx _).mp hlower
    · rename_i _ hupper
      cases h
      exact (readsBack_iff hx _).mp hupper
    · cases h
    · rename_i hlower hupper
      split at h
      · cases h
        exact (readsBack_iff hx _).mp hlower
      · cases h
        exact (readsBack_iff hx _).mp hupper
      · split at h
        · cases h
          exact (readsBack_iff hx _).mp hlower
        · cases h
          exact (readsBack_iff hx _).mp hupper

/-- A grid whose steps are smaller than the interval of a number, and where the number does not lie
in its middle, smaller than the upper half of it. -/
def IsFine (x : Binary64) (place : ℤ) : Prop :=
  (10 : ℚ) ^ place / 2 ^ x.exponent < 1 ∧
    (x.reach = 1 / 2 ∨ (10 : ℚ) ^ place / 2 ^ x.exponent < 1 / 2)

/-- Of the two decimals next to a number on a fine grid one lies in its interval. -/
theorem covers_or_covers {x : Binary64} {place : ℤ} (hfine : x.IsFine place) {below : ℕ}
    (hbelow : (below : ℚ) * 10 ^ place ≤ x.magnitude)
    (habove : x.magnitude < (below + 1) * 10 ^ place) :
    x.Covers (Decimal.value ⟨below, place⟩) ∨ x.Covers (Decimal.value ⟨below + 1, place⟩) := by
  obtain ⟨hstep, hhalf⟩ := hfine
  have hpow : (0 : ℚ) < 2 ^ x.exponent := by positivity
  have hreach := x.reach_pos
  have hlower : (Decimal.value ⟨below, place⟩) / 2 ^ x.exponent ≤ x.significand :=
    (div_le_iff₀ hpow).mpr hbelow
  have hupper : x.significand < (Decimal.value ⟨below + 1, place⟩) / 2 ^ x.exponent := by
    rw [lt_div_iff₀ hpow, Decimal.value]
    push_cast
    exact habove
  have hnext : (Decimal.value ⟨below + 1, place⟩) / 2 ^ x.exponent =
      (Decimal.value ⟨below, place⟩) / 2 ^ x.exponent + 10 ^ place / 2 ^ x.exponent := by
    rw [← add_div, Decimal.value, Decimal.value]
    push_cast
    ring
  by_cases hnear : (Decimal.value ⟨below + 1, place⟩) / 2 ^ x.exponent < x.significand + 1 / 2
  · exact .inr (covers_of_lt (by linarith) hnear)
  · left
    rcases hhalf with hhalf | hhalf
    · apply covers_of_lt <;> linarith
    · linarith

/-- A fine grid gives a decimal. -/
theorem onGrid?_ne_none {x : Binary64} (hx : 0 < x.significand) {place : ℤ}
    (hfine : x.IsFine place) : x.onGrid? place ≠ none := by
  obtain ⟨hbelow, habove, -⟩ := stepsBelow_bounds x.quotient.1 (quotient_pos hx).2 place
  rw [div_quotient] at hbelow habove
  simp only [onGrid?]
  generalize (stepsBelow x.quotient.1 x.quotient.2 place).1 = below at *
  have hsome : x.readsBack ⟨below, place⟩ = true ∨ x.readsBack ⟨below + 1, place⟩ = true := by
    rw [readsBack_iff hx, readsBack_iff hx]
    exact covers_or_covers hfine hbelow habove
  split
  · simp
  · split
    · simp
    · simp
    · rename_i hlower hupper
      rw [hlower, hupper] at hsome
      simp at hsome
    · split
      · simp
      · simp
      · split <;> simp

/-! ### The search -/

/-- A search that reaches a fine grid ends in a decimal in the interval. -/
theorem covers_search {x : Binary64} (hx : 0 < x.significand) (finer : ℕ) (place : ℤ)
    (hfine : x.IsFine (place - finer)) : x.Covers (x.search place (finer + 1)).value := by
  induction finer generalizing place with
  | zero =>
    rw [Nat.cast_zero, sub_zero] at hfine
    obtain ⟨d, hd⟩ := Option.ne_none_iff_exists'.mp (onGrid?_ne_none hx hfine)
    rw [search, hd]
    exact covers_of_onGrid? hx hd
  | succ finer ih =>
    rw [search]
    cases hd : x.onGrid? place with
    | some d => exact covers_of_onGrid? hx hd
    | none =>
      refine ih (place - 1) ?_
      rw [Nat.cast_succ] at hfine
      rwa [sub_sub, add_comm]

/-- Seventeen digits make a fine grid. -/
theorem isFine_leadingPlace {x : Binary64} (hx : 0 < x.significand) :
    x.IsFine (leadingPlace x.quotient.1 x.quotient.2 - (16 : ℕ)) := by
  have hpow : (0 : ℚ) < 2 ^ x.exponent := by positivity
  have hleading := zpow_leadingPlace_le (quotient_pos hx).1 (quotient_pos hx).2
  rw [div_quotient, magnitude] at hleading
  generalize leadingPlace x.quotient.1 x.quotient.2 = leading at *
  have hplace : (10 : ℚ) ^ (leading - (16 : ℕ)) / 2 ^ x.exponent ≤ x.significand / 10 ^ 16 := by
    rw [zpow_sub₀ (by norm_num), zpow_natCast, div_right_comm]
    gcongr
    exact (div_le_iff₀ hpow).mpr hleading
  have hsig : (x.significand : ℚ) < 2 ^ 53 := by
    have hlt := x.canonical.1
    rw [leastNormal_eq] at hlt
    exact_mod_cast hlt
  refine ⟨by linarith, ?_⟩
  rw [reach]
  split
  · rename_i hpower
    right
    rw [hpower.1, leastNormal_eq] at hplace
    push_cast at hplace
    linarith
  · exact .inl rfl

/-- Zeros at the end of the digits move into the exponent. -/
theorem value_trimZeros (d : Decimal) (fuel : ℕ) : (d.trimZeros fuel).value = d.value := by
  induction fuel generalizing d with
  | zero => rfl
  | succ fuel ih =>
    rw [Decimal.trimZeros]
    split
    · rename_i hzero
      have hdigits : (d.digits : ℚ) = (d.digits / 10 : ℕ) * 10 := by
        exact_mod_cast (Nat.div_mul_cancel (Nat.dvd_of_mod_eq_zero hzero.2)).symm
      rw [ih, Decimal.value, Decimal.value, zpow_add_one₀ (by norm_num), hdigits]
      ring
    · rfl

/-- The shortest decimal of a number lies in its interval. -/
theorem covers_shortest {x : Binary64} (hx : 0 < x.significand) : x.Covers x.shortest.value := by
  rw [shortest, if_neg hx.ne', value_trimZeros]
  exact covers_search hx 16 _ (isFine_leadingPlace hx)

/-- A number is read back from its shortest decimal, and from any other of the same value. -/
theorem ofDecimal?_eq_of_value {x : Binary64} {digits : ℕ} {exponent : ℤ}
    (h : (digits : ℚ) * 10 ^ exponent = x.shortest.value) :
    ofDecimal? x.negative digits exponent = some x := by
  by_cases hx : x.significand = 0
  · have hpow : (10 : ℚ) ^ exponent ≠ 0 := by positivity
    have hzero : x.shortest.value = 0 := by
      rw [shortest, if_pos hx, Decimal.value]
      simp
    have hdigits : digits = 0 := by
      rw [hzero, mul_eq_zero, or_iff_left hpow] at h
      exact_mod_cast h
    rw [hdigits]
    exact ofDecimal?_zero hx exponent
  · have hpos := Nat.pos_of_ne_zero hx
    refine ofDecimal?_eq_some hpos ?_
    rw [h]
    exact covers_shortest hpos

end FilterQuery.Binary64
