import FilterQuery.Proofs.Decimal.Numeral
import FilterQuery.Scalar.Coercion

/-!
# How exactly numbers are read

A text that is read as a decimal denotes that very number wherever the number, and the number in
front of its power of ten, are decimals. Elsewhere it is rounded: the digits that are lost come to
about half a unit of the last place, and a number that is too large for that is refused.
-/

namespace FilterQuery.Decimal

open Text (readDigits)

/-! ## Numbers that are decimals -/

/-- Without its sign, a decimal is a coefficient over a power of ten. -/
theorem Fits.exists_abs_eq {q : ℚ} (h : Fits q) :
    ∃ m t : ℕ, m < coefficientBound ∧ t ≤ maxScale ∧ |q| = m / 10 ^ t := by
  obtain ⟨d, rfl⟩ := h
  exact ⟨d.coefficient, d.scale, d.coefficient_lt, d.scale_le, d.abs_value⟩

theorem Fits.abs_add_one_le {q : ℚ} (h : Fits q) : |q| + 1 ≤ coefficientBound := by
  obtain ⟨m, t, hm, -, hq⟩ := h.exists_abs_eq
  have hle : (m : ℚ) / 10 ^ t ≤ m :=
    div_le_self (Nat.cast_nonneg m) (one_le_pow₀ (by norm_num))
  have hm' : (m : ℚ) + 1 ≤ coefficientBound := by exact_mod_cast hm
  linarith

/-! ## Plain numbers -/

namespace Plain

variable {p : Plain}

theorem magnitude_nonneg (p : Plain) : 0 ≤ p.magnitude := by
  rw [magnitude]
  positivity

theorem abs_value (p : Plain) : |p.value| = p.magnitude := by
  rw [value, abs_mul, p.sign.abs_factor, one_mul, abs_of_nonneg p.magnitude_nonneg]

/-- The digits behind the point are added to those before it. -/
theorem magnitude_eq (p : Plain) :
    p.magnitude = readDigits p.whole + fractionValue p.behind := by
  rw [magnitude, fractionValue, Text.readDigits_append]
  push_cast
  rw [add_div, mul_div_cancel_right₀ _ (by positivity)]

/-- A plain number is read to the nearest, and zero loses its sign. -/
theorem WellFormed.rounds (hp : p.WellFormed) {d : Decimal} (h : ofPlain? p.chars = some d) :
    d.negative = (decide (p.sign = .minus) && d.coefficient != 0) ∧
      Rounds p.magnitude d.coefficient d.scale := by
  rw [hp.ofPlain?_chars] at h
  split at h
  · rename_i hwhole
    obtain ⟨⟨c, s⟩, hread, hof⟩ := Option.bind_eq_some_iff.mp h
    obtain ⟨hneg, rfl, rfl⟩ := of?_eq_some_iff.mp hof
    obtain ⟨hrounds, -, -⟩ := rounds_readFraction hp.behind_digits hwhole (Nat.zero_le _) hread
    rw [pow_zero, div_one, ← magnitude_eq] at hrounds
    exact ⟨hneg, hrounds⟩
  · cases h

/-- A plain number is read unless it rounds to one of more than 96 bits. -/
theorem WellFormed.isSome_ofPlain? (hp : p.WellFormed)
    (h : p.magnitude < coefficientBound - 1 / 2) : (ofPlain? p.chars).isSome := by
  rw [magnitude_eq] at h
  have hwhole : readDigits p.whole < coefficientBound := by
    have hlt : (readDigits p.whole : ℚ) < coefficientBound := by
      linarith [fractionValue_nonneg p.behind]
    exact_mod_cast hlt
  rw [hp.ofPlain?_chars, if_pos hwhole]
  cases hread : readFraction (readDigits p.whole) 0 p.behind with
  | none => linarith [(le_of_readFraction_eq_none hread).2]
  | some parts =>
    obtain ⟨c, s⟩ := parts
    obtain ⟨-, hc, hs⟩ := rounds_readFraction hp.behind_digits hwhole (Nat.zero_le _) hread
    exact isSome_of? hc hs

end Plain

/-! ## Numerals -/

namespace Numeral

variable {n : Numeral} {d : Decimal}

/-- A text is that of a numeral. -/
structure Spells (n : Numeral) (text : String) : Prop where
  /-- The parts of the numeral are well-formed. -/
  wellFormed : n.WellFormed
  /-- They make up the text. -/
  chars_eq : n.chars = text.toList

/-- A number is a decimal, and so is the one in front of its power of ten. -/
structure Lossless (n : Numeral) : Prop where
  /-- The number in front of the power of ten is a decimal. -/
  base : Fits n.base.value
  /-- The number is a decimal. -/
  value : Fits n.value

/-- How much of a number can be lost, in units of the last place. A power of ten may cost a second
rounding, and half a unit of the first one is worth a tenth of that afterwards. -/
def tolerance (n : Numeral) : ℚ := if n.power.isNone then 1 / 2 else 11 / 20

theorem value_eq (n : Numeral) :
    n.value = n.base.sign.factor * (n.base.magnitude * 10 ^ n.exponent) := by
  rw [value, Plain.value, mul_assoc]

theorem abs_value (n : Numeral) : |n.value| = n.base.magnitude * 10 ^ n.exponent := by
  rw [value, abs_mul, Plain.abs_value, abs_of_pos (zpow_pos (by norm_num) _)]

/-- Behind a number, its power of ten moves the point by the exponent. -/
theorem moves_of_shift? {b : Decimal} (h : n.shift? b = some d) :
    d.negative = b.negative ∧ b.Moves n.exponent d := by
  obtain ⟨base, power⟩ := n
  cases power with
  | none =>
    obtain rfl := Option.some.inj h
    exact ⟨rfl, .kept rfl (zero_add _)⟩
  | some p =>
    rw [exponent, Option.map_some, Option.getD_some, Power.exponent]
    have hp : p.shift? b = some d := h
    rw [Power.shift?] at hp
    cases hnegative : p.negative with
    | true =>
      rw [hnegative] at hp
      exact moves_of_shiftRight? hp
    | false =>
      rw [hnegative] at hp
      exact moves_of_shiftLeft? hp

/-- What a numeral is read as: the number in front of the power of ten is rounded, its point is
moved, and the sign stays. -/
theorem WellFormed.exists_base (hn : n.WellFormed) (h : ofChars? n.chars = some d) :
    ∃ b : Decimal, Rounds n.base.magnitude b.coefficient b.scale ∧ n.shift? b = some d ∧
      b.Moves n.exponent d ∧ d.value = n.base.sign.factor * d.magnitude := by
  rw [hn.ofChars?_chars] at h
  obtain ⟨b, hb, hshift⟩ := Option.bind_eq_some_iff.mp h
  obtain ⟨hbneg, hrounds⟩ := hn.base.rounds hb
  obtain ⟨hdneg, hmoves⟩ := moves_of_shift? hshift
  refine ⟨b, hrounds, hshift, hmoves, ?_⟩
  rw [Decimal.value_eq, hdneg, hbneg, Sign.factor]
  by_cases hzero : b.coefficient = 0
  · have hd : d.magnitude = 0 := by
      rw [magnitude, hmoves.coefficient_eq_zero hzero, Nat.cast_zero, zero_div]
    rw [hd]
    simp
  · by_cases hsign : n.base.sign = .minus <;> simp [hsign, hzero]

/-- The magnitude that is read is the one that is written when no unit of it is lost. -/
theorem value_eq_iff (hsign : d.value = n.base.sign.factor * d.magnitude) :
    d.value = n.value ↔
      n.base.magnitude * 10 ^ n.exponent * 10 ^ d.scale = d.coefficient := by
  rw [hsign, value_eq, mul_right_inj' n.base.sign.factor_ne_zero, magnitude,
    div_eq_iff (by positivity), eq_comm]

/-- What is read is exact just where the number and the one in front of its power of ten are
decimals. -/
theorem WellFormed.exact_iff_lossless (hn : n.WellFormed) (h : ofChars? n.chars = some d) :
    d.value = n.value ↔ n.Lossless := by
  obtain ⟨b, hrounds, -, hmoves, hsign⟩ := hn.exists_base h
  constructor
  · intro hexact
    refine ⟨?_, d, hexact⟩
    have hbase := hmoves.exact_before hrounds ((value_eq_iff hsign).mp hexact)
    -- Up to the sign, the number in front of the power of ten is the decimal `b`.
    refine ⟨⟨decide (n.base.sign = .minus), b.coefficient, b.scale, b.coefficient_lt,
      b.scale_le⟩, ?_⟩
    have hmagnitude : n.base.magnitude = b.magnitude := by
      rw [magnitude, ← hbase, mul_div_cancel_right₀ _ (by positivity)]
    rw [Decimal.value_eq, Plain.value, hmagnitude, Sign.factor]
    by_cases hminus : n.base.sign = .minus <;> simp [hminus, magnitude]
  · rintro ⟨hbase, hvalue⟩
    obtain ⟨m, t, hm, ht, hx⟩ := hbase.exists_abs_eq
    obtain ⟨m', t', -, ht', hx'⟩ := hvalue.exists_abs_eq
    rw [Plain.abs_value] at hx
    rw [abs_value] at hx'
    exact (value_eq_iff hsign).mpr
      (hmoves.exact_after (hrounds.exact_of_fits hm ht hx) ht' hx')

/-- What is lost is less than a unit of the last place. -/
theorem WellFormed.abs_sub_le (hn : n.WellFormed) (h : ofChars? n.chars = some d) :
    |d.value - n.value| ≤ n.tolerance / 10 ^ d.scale := by
  obtain ⟨b, hrounds, hshift, hmoves, hsign⟩ := hn.exists_base h
  have hunits : |n.base.magnitude * 10 ^ n.exponent * 10 ^ d.scale - d.coefficient| ≤
      n.tolerance := by
    rw [tolerance]
    cases hpower : n.power with
    | none =>
      have hd : b = d := by
        rw [shift?, hpower] at hshift
        exact Option.some.inj hshift
      have he : n.exponent = 0 := by rw [exponent, hpower]; rfl
      rw [he, zpow_zero, mul_one, ← hd, Option.isNone_none, if_pos rfl, abs_le]
      constructor <;> linarith [hrounds.lower, hrounds.upper]
    | some p => exact hmoves.near hrounds
  have hpos : (0 : ℚ) < 10 ^ d.scale := by positivity
  rw [hsign, value_eq, ← mul_sub, abs_mul, Sign.abs_factor, one_mul, le_div_iff₀ hpos]
  calc |d.magnitude - n.base.magnitude * 10 ^ n.exponent| * 10 ^ d.scale
      = |(d.magnitude - n.base.magnitude * 10 ^ n.exponent) * 10 ^ d.scale| := by
        rw [abs_mul, abs_of_pos hpos]
    _ = |n.base.magnitude * 10 ^ n.exponent * 10 ^ d.scale - d.coefficient| := by
        rw [sub_mul, magnitude_mul_pow, abs_sub_comm]
    _ ≤ n.tolerance := hunits

/-- What is read does not round to a number of more than 96 bits. -/
theorem WellFormed.abs_value_lt (hn : n.WellFormed) (h : ofChars? n.chars = some d) :
    |n.value| < coefficientBound - 1 / 2 := by
  obtain ⟨b, hrounds, -, hmoves, -⟩ := hn.exists_base h
  rw [abs_value]
  exact hmoves.lt_bound hrounds n.base.magnitude_nonneg

/-- A number that is read without loss is read, unless its exponent is beyond the scales. -/
theorem WellFormed.isSome_ofChars? (hn : n.WellFormed) (hlossless : n.Lossless)
    (hexponent : n.exponent.natAbs ≤ maxScale) : (ofChars? n.chars).isSome := by
  have hbase := hlossless.base.abs_add_one_le
  rw [Plain.abs_value] at hbase
  obtain ⟨b, hb⟩ := Option.isSome_iff_exists.mp (hn.base.isSome_ofPlain? (by linarith))
  rw [hn.ofChars?_chars, hb, Option.bind_some]
  have hvalue := hlossless.value.abs_add_one_le
  rw [abs_value] at hvalue
  rw [shift?]
  rw [exponent] at hexponent hvalue
  cases hpower : n.power with
  | none => rfl
  | some p =>
    rw [hpower, Option.map_some, Option.getD_some, Power.exponent] at hexponent hvalue
    dsimp only
    rw [Power.shift?]
    cases hnegative : p.negative with
    | true =>
      rw [hnegative, if_pos rfl, Int.natAbs_neg, Int.natAbs_natCast] at hexponent
      exact isSome_shiftRight? b hexponent
    | false =>
      rw [hnegative, if_neg Bool.false_ne_true] at hexponent hvalue
      rw [Int.natAbs_natCast] at hexponent
      refine isSome_shiftLeft? b hexponent ?_
      obtain ⟨m, t, hm, ht, hx⟩ := hlossless.base.exists_abs_eq
      rw [Plain.abs_value] at hx
      have hexact := (hn.base.rounds hb).2.exact_of_fits hm ht hx
      have hmagnitude : b.magnitude = n.base.magnitude := by
        rw [magnitude, ← hexact, mul_div_cancel_right₀ _ (by positivity)]
      rw [hmagnitude, ← zpow_natCast]
      linarith

end Numeral

/-! ## Texts -/

/-- A number that a string is coerced to is the one that its text is read as, but for blanks. -/
theorem ofText?_of_coerce {raw : String} {target : ScalarType} {d : Decimal}
    (h : Scalar.coerce (.string raw) target = .ok (.numeric d)) :
    ofText? (Text.trim raw) = some d := by
  rw [ofText?, Text.toList_trim]
  cases target with
  | string => cases h
  | boolean =>
    simp only [Scalar.coerce, Scalar.coerceBoolean] at h
    split_ifs at h <;> cases h
  | date =>
    simp only [Scalar.coerce, Scalar.coerceDate] at h
    split at h
    · split at h <;> cases h
    · split at h
      · rename_i hread
        cases h
        exact hread
      · cases h
  | numeric =>
    simp only [Scalar.coerce, Scalar.coerceNumeric] at h
    split at h
    · rename_i hread
      cases h
      exact hread
    · cases h

/-- What a text is read as is the number that it denotes just where that number and the one in front
of its power of ten are decimals, and otherwise lies within a place of it. A text that is refused
denotes no number, one that is not such a decimal, or one with an exponent beyond the scales. No
number is coerced from a string that is not read from its text. -/
theorem ofText?_exact_iff_lossless (text : String) :
    (match ofText? text with
      | some d => (∃ n : Numeral, n.Spells text) ∧ ∀ n : Numeral, n.Spells text →
          (d.value = n.value ↔ n.Lossless) ∧
            |d.value - n.value| ≤ n.tolerance / 10 ^ d.scale ∧
              |n.value| < coefficientBound - 1 / 2
      | none => ∀ n : Numeral, n.Spells text → n.Lossless → maxScale < n.exponent.natAbs) ∧
    ∀ target d, Scalar.coerce (.string text) target = .ok (.numeric d) →
      ofText? (Text.trim text) = some d := by
  refine ⟨?_, fun target d => ofText?_of_coerce⟩
  cases h : ofText? text with
  | some d =>
    obtain ⟨n, hn, hchars⟩ := exists_numeral_of_ofChars? h
    refine ⟨⟨n, hn, hchars⟩, fun n hspells => ?_⟩
    have hread : ofChars? n.chars = some d := by
      rw [hspells.chars_eq]
      exact h
    have hn := hspells.wellFormed
    exact ⟨hn.exact_iff_lossless hread, hn.abs_sub_le hread, hn.abs_value_lt hread⟩
  | none =>
    intro n hspells hlossless
    by_contra hexponent
    have hread := hspells.wellFormed.isSome_ofChars? hlossless (Nat.le_of_not_lt hexponent)
    rw [hspells.chars_eq, ← ofText?, h] at hread
    cases hread

/-- A number with a sign, zeros at its end and a power of ten is read without loss. -/
theorem ofText?_exact_iff_lossless_power :
    let n : Numeral := ⟨⟨.minus, ['1', '2'], some ['5', '0']⟩, some ⟨'e', true, false, ['1']⟩⟩
    n.Spells "-12.50e-1" ∧ n.Lossless ∧
      ∃ d, ofText? "-12.50e-1" = some d ∧ d.value = -5 / 4 := by
  intro n
  have hspells : n.Spells "-12.50e-1" :=
    ⟨⟨⟨rfl, rfl, rfl⟩, by rintro _ ⟨⟩; exact ⟨rfl, by simp, rfl⟩⟩, by decide⟩
  have hlossless : n.Lossless :=
    ⟨⟨⟨true, 1250, 2, by decide, by decide⟩, by decide +kernel⟩,
      ⟨true, 1250, 3, by decide, by decide⟩, by decide +kernel⟩
  have hread : ofText? "-12.50e-1" = some ⟨true, 1250, 3, by decide, by decide⟩ := by
    decide +kernel
  have h := (ofText?_exact_iff_lossless "-12.50e-1").1
  rw [hread] at h
  refine ⟨hspells, hlossless, _, hread, ?_⟩
  rw [(h.2 n hspells).1.mpr hlossless]
  decide +kernel

/-- A digit behind the greatest scale is lost, and half a unit of the last place becomes a whole
one. In front of a power of ten it is lost as well, even if the number itself has room for it. -/
theorem coerce_rounds_behind_greatest_scale :
    let plain : Numeral := ⟨⟨.absent, ['0'], some (List.replicate 28 '0' ++ ['5'])⟩, none⟩
    let scientific : Numeral := { plain with power := some ⟨'e', false, false, ['5']⟩ }
    (plain.Spells "0.00000000000000000000000000005" ∧ plain.value = 5 / 10 ^ 29 ∧
      ∃ d, Scalar.coerce (.string "0.00000000000000000000000000005") .numeric =
        .ok (.numeric d) ∧ d.value = 1 / 10 ^ 28) ∧
    scientific.Spells "0.00000000000000000000000000005e5" ∧ scientific.value = 5 / 10 ^ 24 ∧
      ∃ d, Scalar.coerce (.string "0.00000000000000000000000000005e5") .numeric =
        .ok (.numeric d) ∧ d.value = 1 / 10 ^ 23 := by
  intro plain scientific
  have hbase : plain.base.WellFormed := ⟨rfl, by decide, rfl⟩
  have hpower : ∀ p ∈ scientific.power, p.WellFormed := by
    rintro _ ⟨⟩
    exact ⟨rfl, by simp, rfl⟩
  constructor
  · refine ⟨⟨⟨hbase, nofun⟩, by decide⟩, by decide +kernel,
      ⟨false, 1, 28, by decide, by decide⟩, ?_, by decide +kernel⟩
    decide +kernel
  · refine ⟨⟨⟨hbase, hpower⟩, by decide⟩, by decide +kernel,
      ⟨false, 1, 23, by decide, by decide⟩, ?_, by decide +kernel⟩
    decide +kernel

end FilterQuery.Decimal
