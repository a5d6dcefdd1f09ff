import FilterQuery.Binary64.Basic
import FilterQuery.Proofs.Text.Digits
import Mathlib.Algebra.Order.Field.Power
import Mathlib.Tactic.FieldSimp
import Mathlib.Tactic.Linarith
import Mathlib.Tactic.Positivity

/-!
# What rounding gives

Around each binary number lies an interval of magnitudes that are nearer to it than to any other
one; an end of the interval belongs to it when the significand is even. Rounding a magnitude gives
the number in whose interval it lies, whether the magnitude comes as a quotient or as a decimal.
-/

namespace FilterQuery.Binary64

/-! ### Powers of two and of ten -/

/-- A power is the quotient of the two natural powers that its sign picks. -/
theorem zpow_mul_toNat {b : ℚ} (hb : b ≠ 0) (k : ℤ) : b ^ k * b ^ (-k).toNat = b ^ k.toNat := by
  rw [← zpow_natCast, ← zpow_natCast, ← zpow_add₀ hb]
  congr 1
  omega

/-- Scaling a quotient divides it by the power of two. -/
theorem div_scaleByTwo (num den : ℕ) (k : ℤ) :
    ((scaleByTwo num den k).1 : ℚ) / (scaleByTwo num den k).2 = num / den / 2 ^ k := by
  have h := zpow_mul_toNat (two_ne_zero' ℚ) k
  rw [scaleByTwo]
  split
  · have hzero : k.toNat = 0 := by omega
    rw [hzero, pow_zero] at h
    have hpow : (2 : ℚ) ^ (-k).toNat = (2 ^ k)⁻¹ := eq_inv_of_mul_eq_one_right h
    simp only [Nat.shiftLeft_eq, Nat.cast_mul, Nat.cast_pow, Nat.cast_ofNat, hpow]
    ring
  · have hzero : (-k).toNat = 0 := by omega
    rw [hzero, pow_zero, mul_one] at h
    simp only [Nat.shiftLeft_eq, Nat.cast_mul, Nat.cast_pow, Nat.cast_ofNat, ← h]
    rw [div_div]

theorem scaleByTwo_snd_pos (num : ℕ) {den : ℕ} (hden : 0 < den) (k : ℤ) :
    0 < (scaleByTwo num den k).2 := by
  rw [scaleByTwo]
  split
  · exact hden
  · rw [Nat.shiftLeft_eq]
    positivity

/-! ### The nearest whole number -/

/-- A quotient is its whole part and a rest below one. -/
theorem div_eq_whole_add_rest (num : ℕ) {den : ℕ} (hden : 0 < den) :
    (num : ℚ) / den = (num / den : ℕ) + (num % den : ℕ) / den ∧
      (0 : ℚ) ≤ (num % den : ℕ) / den ∧ ((num % den : ℕ) : ℚ) / den < 1 := by
  have hden' : (0 : ℚ) < den := by exact_mod_cast hden
  have hrest : num % den < den := Nat.mod_lt num hden
  refine ⟨?_, by positivity, (div_lt_one hden').mpr (by exact_mod_cast hrest)⟩
  have hnat : num = num / den * den + num % den := (Nat.div_add_mod' num den).symm
  have hrat : (num : ℚ) = (num / den : ℕ) * den + (num % den : ℕ) := by exact_mod_cast hnat
  rw [div_eq_iff hden'.ne', add_mul, div_mul_cancel₀ _ hden'.ne']
  exact hrat

/-- The whole number within one half of a quotient, the even one of two. -/
theorem divideToEven_eq {num den m : ℕ} (hden : 0 < den)
    (hnear : |(num : ℚ) / den - m| ≤ 1 / 2)
    (htie : |(num : ℚ) / den - m| = 1 / 2 → m % 2 = 0) : divideToEven num den = m := by
  have hden' : (0 : ℚ) < den := by exact_mod_cast hden
  obtain ⟨hsplit, hfrac', hfrac⟩ := div_eq_whole_add_rest num hden
  rw [hsplit] at hnear htie
  have hless : 2 * (num % den) < den ↔ ((num % den : ℕ) : ℚ) / den < 1 / 2 := by
    rw [div_lt_iff₀ hden', ← Nat.cast_lt (α := ℚ)]
    push_cast
    constructor <;> intro h <;> linarith
  have hmore : den < 2 * (num % den) ↔ (1 / 2 : ℚ) < (num % den : ℕ) / den := by
    rw [lt_div_iff₀ hden', ← Nat.cast_lt (α := ℚ)]
    push_cast
    constructor <;> intro h <;> linarith
  simp only [divideToEven, hless, hmore]
  clear hless hmore hsplit
  generalize num / den = whole at *
  generalize ((num % den : ℕ) : ℚ) / den = frac at *
  obtain ⟨hlow, hhigh⟩ := abs_le.mp hnear
  have habove : (m : ℚ) < whole + 2 := by linarith
  have hbelow : (whole : ℚ) < m + 1 := by linarith
  have hcases : m = whole ∨ m = whole + 1 := by
    have h1 : m < whole + 2 := by exact_mod_cast habove
    have h2 : whole < m + 1 := by exact_mod_cast hbelow
    omega
  rcases hcases with rfl | rfl
  · rw [add_sub_cancel_left, abs_of_nonneg hfrac'] at hnear htie
    by_cases hhalf : frac = 1 / 2
    · have heven := htie hhalf
      simp [hhalf, heven]
    · rw [if_pos (lt_of_le_of_ne hnear hhalf)]
  · push_cast at hlow htie
    have hge : 1 / 2 ≤ frac := by linarith
    by_cases hhalf : frac = 1 / 2
    · have hodd := htie (by rw [hhalf]; norm_num [abs_of_neg])
      have hone : whole % 2 = 1 := by omega
      simp [hhalf, hone]
    · rw [if_neg (not_lt.mpr hge), if_pos (lt_of_le_of_ne hge (Ne.symm hhalf))]

/-! ### The grid of a quotient -/

theorem leastNormal_eq : leastNormal = 2 ^ 52 := by decide

/-- A natural number lies between the powers of two next to it. -/
theorem zpow_log2_le {n : ℕ} (hn : 0 < n) :
    (2 : ℚ) ^ (n.log2 : ℤ) ≤ n ∧ (n : ℚ) < 2 ^ ((n.log2 : ℤ) + 1) := by
  constructor
  · rw [zpow_natCast]
    exact_mod_cast Nat.log2_self_le hn.ne'
  · have h : n < 2 ^ (n.log2 + 1) := Nat.lt_log2_self
    rw [← Nat.cast_succ, zpow_natCast]
    exact_mod_cast h

/-- The first guess at the exponent is one too large at most. -/
theorem guess_bounds {num den : ℕ} (hnum : 0 < num) (hden : 0 < den) :
    let guess : ℤ := num.log2 - den.log2 - 52
    (2 : ℚ) ^ 51 * 2 ^ guess ≤ num / den ∧ (num : ℚ) / den < 2 ^ 53 * 2 ^ guess := by
  intro guess
  obtain ⟨hnumLow, hnumHigh⟩ := zpow_log2_le hnum
  obtain ⟨hdenLow, hdenHigh⟩ := zpow_log2_le hden
  have hden' : (0 : ℚ) < den := by exact_mod_cast hden
  have hpow : (0 : ℚ) < 2 ^ guess := by positivity
  have hden2 : (0 : ℚ) < 2 ^ (den.log2 : ℤ) := by positivity
  have hlog : (2 : ℚ) ^ (num.log2 : ℤ) = 2 ^ 52 * 2 ^ guess * 2 ^ (den.log2 : ℤ) := by
    have h52 : (2 : ℚ) ^ 52 = 2 ^ (52 : ℤ) := by norm_cast
    rw [h52, ← zpow_add₀ two_ne_zero, ← zpow_add₀ two_ne_zero]
    congr 1
    omega
  rw [zpow_add_one₀ two_ne_zero] at hnumHigh hdenHigh
  constructor
  · rw [le_div_iff₀ hden']
    calc (2 : ℚ) ^ 51 * 2 ^ guess * den
        ≤ 2 ^ 51 * 2 ^ guess * (2 ^ (den.log2 : ℤ) * 2) := by gcongr
      _ = 2 ^ (num.log2 : ℤ) := by rw [hlog]; ring
      _ ≤ num := hnumLow
  · rw [div_lt_iff₀ hden']
    calc (num : ℚ) < 2 ^ (num.log2 : ℤ) * 2 := hnumHigh
      _ = 2 ^ 53 * 2 ^ guess * 2 ^ (den.log2 : ℤ) := by rw [hlog]; ring
      _ ≤ 2 ^ 53 * 2 ^ guess * den := by gcongr

/-- The grid on which a quotient has 53 significant bits, or the finest one. -/
theorem gridExponent_eq {num den : ℕ} (hnum : 0 < num) (hden : 0 < den) {k : ℤ}
    (hk : -1074 ≤ k) (hhigh : (num : ℚ) / den < 2 ^ 53 * 2 ^ k)
    (hlow : (2 : ℚ) ^ 52 * 2 ^ k ≤ num / den ∨ k = -1074) : gridExponent num den = k := by
  obtain ⟨hguessLow, hguessHigh⟩ := guess_bounds hnum hden
  simp only [gridExponent]
  generalize hguess : (num.log2 : ℤ) - den.log2 - 52 = guess at *
  have hsnd : (0 : ℚ) < (scaleByTwo num den guess).2 := by
    exact_mod_cast scaleByTwo_snd_pos num hden guess
  have hpow : (0 : ℚ) < 2 ^ guess := by positivity
  have hless : (scaleByTwo num den guess).1 < leastNormal * (scaleByTwo num den guess).2 ↔
      (num : ℚ) / den < 2 ^ 52 * 2 ^ guess := by
    rw [← div_lt_iff₀ hpow, ← div_scaleByTwo, div_lt_iff₀ hsnd, leastNormal_eq,
      ← Nat.cast_lt (α := ℚ)]
    push_cast
    rfl
  -- The exponent of the grid before the least one is looked at.
  have hexact : ∃ exact : ℤ, (if (scaleByTwo num den guess).1 <
      leastNormal * (scaleByTwo num den guess).2 then guess - 1 else guess) = exact ∧
        (2 : ℚ) ^ 52 * 2 ^ exact ≤ num / den ∧ (num : ℚ) / den < 2 ^ 53 * 2 ^ exact := by
    refine ⟨_, rfl, ?_⟩
    simp only [hless]
    split
    · rename_i hlt
      rw [zpow_sub_one₀ two_ne_zero]
      constructor <;> linarith
    · rename_i hge
      exact ⟨not_lt.mp hge, hguessHigh⟩
  obtain ⟨exact, heq, hexactLow, hexactHigh⟩ := hexact
  rw [heq]
  have hupper : exact ≤ k := by
    have h : (2 : ℚ) ^ 52 * 2 ^ exact < 2 ^ 53 * 2 ^ k := lt_of_le_of_lt hexactLow hhigh
    have h' : (2 : ℚ) ^ exact < 2 ^ (k + 1) := by
      rw [zpow_add_one₀ two_ne_zero]
      linarith
    have := (zpow_lt_zpow_iff_right₀ one_lt_two).mp h'
    omega
  rcases hlow with hlow | rfl
  · have h : (2 : ℚ) ^ 52 * 2 ^ k < 2 ^ 53 * 2 ^ exact := lt_of_le_of_lt hlow hexactHigh
    have h' : (2 : ℚ) ^ k < 2 ^ (exact + 1) := by
      rw [zpow_add_one₀ two_ne_zero]
      linarith
    have := (zpow_lt_zpow_iff_right₀ one_lt_two).mp h'
    omega
  · omega

/-! ### Intervals -/

/-- How far the interval of a number reaches down, in units of its last place: below a power of two
the next number is only half a unit away. -/
def reach (x : Binary64) : ℚ :=
  if x.significand = leastNormal ∧ -1074 < x.exponent then 1 / 4 else 1 / 2

/-- A magnitude lies in the interval of a number. -/
structure Covers (x : Binary64) (r : ℚ) : Prop where
  /-- It is not below the interval. -/
  lower : x.significand - x.reach ≤ r / 2 ^ x.exponent
  /-- It is not above the interval. -/
  upper : r / 2 ^ x.exponent ≤ x.significand + 1 / 2
  /-- The ends belong to the numbers with an even significand. -/
  tie : r / 2 ^ x.exponent = x.significand - x.reach ∨
    r / 2 ^ x.exponent = x.significand + 1 / 2 → x.significand % 2 = 0

theorem reach_pos (x : Binary64) : 0 < x.reach := by
  rw [reach]
  split <;> norm_num

theorem reach_le_half (x : Binary64) : x.reach ≤ 1 / 2 := by
  rw [reach]
  split <;> norm_num

/-- A magnitude between the ends lies in the interval. -/
theorem covers_of_lt {x : Binary64} {r : ℚ} (hlower : x.significand - x.reach < r / 2 ^ x.exponent)
    (hupper : r / 2 ^ x.exponent < x.significand + 1 / 2) : x.Covers r := by
  refine ⟨hlower.le, hupper.le, ?_⟩
  rintro (heq | heq)
  · exact absurd heq hlower.ne'
  · exact absurd heq hupper.ne

/-- Within one half of the significand, and nearer than that unless the significand is even. -/
theorem Covers.near {x : Binary64} {r : ℚ} (h : x.Covers r) :
    |r / 2 ^ x.exponent - x.significand| ≤ 1 / 2 ∧
      (|r / 2 ^ x.exponent - x.significand| = 1 / 2 → x.significand % 2 = 0) := by
  have hreach := x.reach_le_half
  have hlower := h.lower
  have hupper := h.upper
  refine ⟨abs_le.mpr ⟨by linarith, by linarith⟩, fun heq => h.tie ?_⟩
  rcases (abs_eq (by norm_num)).mp heq with habove | hbelow
  · exact .inr (by linarith)
  · exact .inl (by linarith)

theorem of?_self (x : Binary64) : of? x.negative x.significand x.exponent = some x := by
  rw [of?, dif_pos x.canonical]

/-- Below the grid of a number its interval holds only what is nearest to a power of two. -/
theorem Covers.significand_eq {x : Binary64} {r : ℚ} (h : x.Covers r)
    (hlow : r / 2 ^ x.exponent < 2 ^ 52) (hexp : -1074 < x.exponent) :
    x.significand = leastNormal ∧ 2 ^ 52 - 1 / 4 ≤ r / 2 ^ x.exponent := by
  have hnormal : leastNormal ≤ x.significand := by
    rcases x.canonical.2.2.2 with hnormal | hleast
    · exact hnormal
    · omega
  have hlower := h.lower
  have hreach := x.reach_le_half
  have hlt : (x.significand : ℚ) < 2 ^ 52 + 1 := by linarith
  have heq : x.significand = leastNormal := by
    have h' : x.significand < 2 ^ 52 + 1 := by exact_mod_cast hlt
    rw [leastNormal_eq] at hnormal ⊢
    omega
  refine ⟨heq, ?_⟩
  rw [reach, if_pos ⟨heq, hexp⟩, heq, leastNormal_eq] at hlower
  push_cast at hlower
  exact hlower

/-- A positive quotient is rounded to the number in whose interval it lies. -/
theorem ofQuotient?_eq_some {x : Binary64} {num den : ℕ} (hnum : 0 < num) (hden : 0 < den)
    (h : x.Covers (num / den)) : ofQuotient? x.negative num den = some x := by
  have hpow : (0 : ℚ) < 2 ^ x.exponent := by positivity
  have hleast : -1074 ≤ x.exponent := x.canonical.2.1
  have hsig : x.significand < 2 * leastNormal := x.canonical.1
  have hupper : (num : ℚ) / den / 2 ^ x.exponent < 2 ^ 53 := by
    have hle : (x.significand : ℚ) + 1 ≤ 2 ^ 53 := by
      rw [leastNormal_eq] at hsig
      exact_mod_cast hsig
    have := h.upper
    linarith
  by_cases hgrid : (2 : ℚ) ^ 52 ≤ num / den / 2 ^ x.exponent ∨ x.exponent = -1074
  · have hexp : gridExponent num den = x.exponent := by
      refine gridExponent_eq hnum hden hleast ((div_lt_iff₀ hpow).mp hupper) ?_
      exact hgrid.imp_left (le_div_iff₀ hpow).mp
    have hround : divideToEven (scaleByTwo num den x.exponent).1
        (scaleByTwo num den x.exponent).2 = x.significand := by
      refine divideToEven_eq (scaleByTwo_snd_pos num hden _) ?_ ?_
      · rw [div_scaleByTwo]
        exact h.near.1
      · rw [div_scaleByTwo]
        exact h.near.2
    simp only [ofQuotient?, hexp, hround]
    rw [if_neg hsig.ne, of?_self]
  · obtain ⟨hlow, hexp⟩ := not_or.mp hgrid
    have hbelow := not_le.mp hlow
    obtain ⟨hpower, hge⟩ := h.significand_eq hbelow (by omega)
    have hhalf : (num : ℚ) / den / 2 ^ (x.exponent - 1) = 2 * (num / den / 2 ^ x.exponent) := by
      rw [zpow_sub_one₀ two_ne_zero]
      field_simp
    have hpow' : (0 : ℚ) < 2 ^ (x.exponent - 1) := by positivity
    have hgridExp : gridExponent num den = x.exponent - 1 := by
      refine gridExponent_eq hnum hden (by omega) ?_ (.inl ?_)
      · rw [← div_lt_iff₀ hpow', hhalf]
        linarith
      · rw [← le_div_iff₀ hpow', hhalf]
        linarith
    have hround : divideToEven (scaleByTwo num den (x.exponent - 1)).1
        (scaleByTwo num den (x.exponent - 1)).2 = 2 * leastNormal := by
      refine divideToEven_eq (scaleByTwo_snd_pos num hden _) ?_ (fun _ => by decide)
      rw [div_scaleByTwo, hhalf, leastNormal_eq, abs_le]
      push_cast
      constructor <;> linarith
    simp only [ofQuotient?, hgridExp, hround]
    rw [if_pos trivial, ← hpower, sub_add_cancel, of?_self]

/-- The magnitudes around a number that is not zero are far from the ends of what decimals are
looked at. -/
theorem Covers.bounds {x : Binary64} {r : ℚ} (h : x.Covers r) (hx : 0 < x.significand) :
    (2 : ℚ) ^ (-1075 : ℤ) ≤ r ∧ r < 2 ^ (1024 : ℤ) := by
  have hpow : (0 : ℚ) < 2 ^ x.exponent := by positivity
  have hone : (1 : ℚ) ≤ x.significand := by exact_mod_cast hx
  have hsig : (x.significand : ℚ) + 1 ≤ 2 ^ 53 := by
    have hlt := x.canonical.1
    rw [leastNormal_eq] at hlt
    exact_mod_cast hlt
  have hreach := x.reach_le_half
  have hlower := h.lower
  have hupper := h.upper
  constructor
  · have hleast : (2 : ℚ) ^ (-1074 : ℤ) ≤ 2 ^ x.exponent :=
      zpow_le_zpow_right₀ one_le_two x.canonical.2.1
    have hhalf : (2 : ℚ) ^ (-1075 : ℤ) = 1 / 2 * 2 ^ (-1074 : ℤ) := by
      rw [one_div, mul_comm, ← zpow_sub_one₀ two_ne_zero]
      rfl
    calc (2 : ℚ) ^ (-1075 : ℤ) ≤ 1 / 2 * 2 ^ x.exponent := by
          rw [hhalf]
          gcongr
      _ ≤ r := by
          rw [← le_div_iff₀ hpow]
          linarith
  · have hmost : (2 : ℚ) ^ x.exponent ≤ 2 ^ (971 : ℤ) :=
      zpow_le_zpow_right₀ one_le_two x.canonical.2.2.1
    have hproduct : (2 : ℚ) ^ (1024 : ℤ) = 2 ^ 53 * 2 ^ (971 : ℤ) := by
      rw [← zpow_ofNat, ← zpow_add₀ two_ne_zero]
      rfl
    calc r < 2 ^ 53 * 2 ^ x.exponent := by
          rw [← div_lt_iff₀ hpow]
          linarith
      _ ≤ 2 ^ (1024 : ℤ) := by
          rw [hproduct]
          gcongr

/-- A power of ten is not above the one of two when it is below one. -/
theorem ten_zpow_le_two_zpow {k : ℤ} (hk : k ≤ 0) : (10 : ℚ) ^ k ≤ 2 ^ k := by
  obtain ⟨n, rfl⟩ : ∃ n : ℕ, k = -n := ⟨(-k).toNat, by omega⟩
  rw [zpow_neg, zpow_neg, zpow_natCast, zpow_natCast]
  gcongr
  norm_num

/-- A decimal is rounded to the number in whose interval it lies. -/
theorem ofDecimal?_eq_some {x : Binary64} (hx : 0 < x.significand) {digits : ℕ} {exponent : ℤ}
    (h : x.Covers (digits * 10 ^ exponent)) :
    ofDecimal? x.negative digits exponent = some x := by
  obtain ⟨hlow, hhigh⟩ := h.bounds hx
  have hpos : (0 : ℚ) < digits * 10 ^ exponent := lt_of_lt_of_le (by positivity) hlow
  have hdigits : 0 < digits := by
    refine Nat.pos_of_ne_zero ?_
    rintro rfl
    simp at hpos
  have hnotLarge : ¬ 400 < exponent := by
    intro hlarge
    have hpow : (10 : ℚ) ^ (401 : ℤ) ≤ 10 ^ exponent := zpow_le_zpow_right₀ (by norm_num) hlarge
    have hone : (1 : ℚ) ≤ digits := by exact_mod_cast hdigits
    have hle : (10 : ℚ) ^ exponent ≤ digits * 10 ^ exponent :=
      le_mul_of_one_le_left (by positivity) hone
    have hbig : (2 : ℚ) ^ (1024 : ℤ) ≤ 10 ^ (401 : ℤ) := by
      calc (2 : ℚ) ^ (1024 : ℤ) ≤ 2 ^ (3 * 401 : ℤ) := zpow_le_zpow_right₀ one_le_two (by decide)
        _ = (2 ^ (3 : ℤ)) ^ (401 : ℤ) := zpow_mul 2 3 401
        _ ≤ 10 ^ (401 : ℤ) := zpow_le_zpow_left₀ (by decide) (by norm_num) (by norm_num)
    exact absurd hhigh (not_lt.mpr (hbig.trans (hpow.trans hle)))
  have hnotSmall : ¬ exponent + (Nat.log2 digits : ℤ) < -1400 := by
    intro hsmall
    have hlog := (zpow_log2_le hdigits).2
    have hlt : (digits : ℚ) * 10 ^ exponent < 2 ^ (-1075 : ℤ) := by
      calc (digits : ℚ) * 10 ^ exponent
          < 2 ^ ((digits.log2 : ℤ) + 1) * 10 ^ exponent := by gcongr
        _ ≤ 2 ^ ((digits.log2 : ℤ) + 1) * 2 ^ exponent := by
            gcongr
            exact ten_zpow_le_two_zpow (by omega)
        _ = 2 ^ ((digits.log2 : ℤ) + 1 + exponent) := (zpow_add₀ two_ne_zero _ _).symm
        _ ≤ 2 ^ (-1075 : ℤ) := zpow_le_zpow_right₀ one_le_two (by omega)
    exact absurd hlow (not_le.mpr hlt)
  have hten := zpow_mul_toNat (b := 10) (by norm_num) exponent
  have hweight (place : ℕ) : (Text.placeWeight place : ℚ) = 10 ^ place := by
    rw [Text.placeWeight_eq, Nat.cast_pow, Nat.cast_ofNat]
  rw [ofDecimal?, if_neg hdigits.ne', if_neg hnotLarge, if_neg hnotSmall]
  split
  · have hzero : exponent.toNat = 0 := by omega
    rw [hzero, pow_zero] at hten
    refine ofQuotient?_eq_some hdigits (Text.placeWeight_pos _) ?_
    rwa [hweight, div_eq_mul_inv, ← eq_inv_of_mul_eq_one_left hten]
  · have hzero : (-exponent).toNat = 0 := by omega
    rw [hzero, pow_zero, mul_one] at hten
    refine ofQuotient?_eq_some (Nat.mul_pos hdigits (Text.placeWeight_pos _)) one_pos ?_
    rwa [Nat.cast_mul, hweight, Nat.cast_one, div_one, ← hten]

/-- Zero with its sign is read from the decimals of zero. -/
theorem ofDecimal?_zero {x : Binary64} (hx : x.significand = 0) (exponent : ℤ) :
    ofDecimal? x.negative 0 exponent = some x := by
  obtain ⟨negative, significand, exponent', canonical⟩ := x
  subst hx
  have hleast : exponent' = -1074 := by
    rcases canonical.2.2.2 with hnormal | hleast
    · cases hnormal
    · exact hleast
  subst hleast
  rfl

end FilterQuery.Binary64
