import FilterQuery.Text.Digits

/-!
# Binary floating point of 64 bits

A finite number is a sign, a significand of at most 53 bits and a power of two. Arithmetic on it is
exact arithmetic on natural numbers: `ofDecimal?` rounds a decimal to the nearest such number, a
tie to the even significand, and refuses what lies beyond the largest one.
-/

namespace FilterQuery

/-- The least significand of a normalized number, whose first of 53 bits is set. -/
def Binary64.leastNormal : Nat := 0x10000000000000

/-- The pairs of significand and exponent that stand for one number each: the significand is
normalized unless the exponent is the least one. -/
def IsBinary64 (significand : Nat) (exponent : Int) : Prop :=
  significand < 2 * Binary64.leastNormal ∧ -1074 ≤ exponent ∧ exponent ≤ 971 ∧
    (Binary64.leastNormal ≤ significand ∨ exponent = -1074)

instance (significand : Nat) (exponent : Int) : Decidable (IsBinary64 significand exponent) :=
  inferInstanceAs (Decidable (_ ∧ _))

/-- A finite number `±significand · 2 ^ exponent`. Zero keeps its sign. -/
structure Binary64 where
  /-- The sign bit. -/
  negative : Bool
  /-- The significand, below `2 ^ 53`. -/
  significand : Nat
  /-- The power of two, at least `-1074`. -/
  exponent : Int
  /-- No other pair stands for the same magnitude. -/
  canonical : IsBinary64 significand exponent
  deriving DecidableEq

namespace Binary64

/-- The number of a canonical pair. -/
def of? (negative : Bool) (significand : Nat) (exponent : Int) : Option Binary64 :=
  if h : IsBinary64 significand exponent then some ⟨negative, significand, exponent, h⟩ else none

/-- Zero with a sign. -/
def zero (negative : Bool) : Binary64 := ⟨negative, 0, -1074, by decide⟩

/-- The quotient of two numbers rounded to the nearest whole number, a tie to the even one. -/
def divideToEven (num den : Nat) : Nat :=
  let whole := num / den
  let rest := 2 * (num % den)
  if rest < den then whole
  else if den < rest then whole + 1
  else whole + whole % 2

/-- `num · 2 ^ (-exponent) / den` as a pair of natural numbers. -/
def scaleByTwo (num den : Nat) (exponent : Int) : Nat × Nat :=
  if exponent < 0 then (num <<< (-exponent).toNat, den) else (num, den <<< exponent.toNat)

/-- The exponent of the grid on which a positive quotient has 53 significant bits, or the least
exponent when the quotient is below the normalized range. -/
def gridExponent (num den : Nat) : Int :=
  let guess : Int := (Nat.log2 num : Int) - (Nat.log2 den : Int) - 52
  let (n, d) := scaleByTwo num den guess
  let exact := if n < leastNormal * d then guess - 1 else guess
  max exact (-1074)

/-- The nearest number to a positive quotient, `none` beyond the largest one. -/
def ofQuotient? (negative : Bool) (num den : Nat) : Option Binary64 :=
  let exponent := gridExponent num den
  let (n, d) := scaleByTwo num den exponent
  let significand := divideToEven n d
  if significand = 2 * leastNormal then of? negative leastNormal (exponent + 1)
  else of? negative significand exponent

/-- The nearest number to `±digits · 10 ^ exponent`. Beyond a power of 400 every digit but zero is
too large, and with a power so low that no digits of this length reach the least number the result
is zero; neither needs the power itself. -/
def ofDecimal? (negative : Bool) (digits : Nat) (exponent : Int) : Option Binary64 :=
  if digits = 0 then some (zero negative)
  else if 400 < exponent then none
  else if exponent + (Nat.log2 digits : Int) < -1400 then some (zero negative)
  else if exponent < 0 then ofQuotient? negative digits (Text.placeWeight (-exponent).toNat)
  else ofQuotient? negative (digits * Text.placeWeight exponent.toNat) 1

end Binary64

end FilterQuery
