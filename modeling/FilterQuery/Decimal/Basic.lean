import FilterQuery.Text.Digits
import FilterQuery.Word

/-!
# Decimal numbers

A number is a sign, a coefficient of 96 bits and a scale: the count of digits behind the point, at
most 28. The scale is kept, so `1.50` and `1.5` are two numbers that compare equal; `normalize`
drops the zeros at the end. Only rounding an exponent away can leave a zero with a sign.
-/

namespace FilterQuery

/-- A coefficient is below this bound, the first number that 96 bits do not hold. -/
def Decimal.coefficientBound : Nat := 0x1000000000000000000000000

/-- The most digits behind the point. -/
def Decimal.maxScale : Nat := 28

/-- The number `±coefficient / 10 ^ scale`. -/
structure Decimal where
  /-- Whether the number carries a minus sign. -/
  negative : Bool
  /-- The digits of the number without the point. -/
  coefficient : Nat
  /-- The number of digits behind the point. -/
  scale : Nat
  /-- The coefficient has 96 bits. -/
  coefficient_lt : coefficient < Decimal.coefficientBound
  /-- At most 28 digits stand behind the point. -/
  scale_le : scale ≤ Decimal.maxScale
  deriving DecidableEq

namespace Decimal

/-- The number of a coefficient and a scale that fit. -/
def of? (negative : Bool) (coefficient scale : Nat) : Option Decimal :=
  if h : coefficient < coefficientBound ∧ scale ≤ maxScale then
    some ⟨negative, coefficient, scale, h.1, h.2⟩
  else none

/-- Like `of?`, but zero has no sign. -/
def ofUnsignedZero? (negative : Bool) (coefficient scale : Nat) : Option Decimal :=
  of? (negative && coefficient != 0) coefficient scale

/-- A whole number of at most 96 bits, with scale zero. -/
def ofInt? (n : Int) : Option Decimal := of? (n < 0) n.natAbs 0

/-- The number of a word, with scale zero. -/
def ofWord (w : Word) : Decimal where
  negative := w.toInt < 0
  coefficient := w.toInt.natAbs
  scale := 0
  coefficient_lt := by
    have h := w.isWord
    unfold IsWord at h
    show w.toInt.natAbs < 0x1000000000000000000000000
    omega
  scale_le := by decide

/-- The zero of scale zero. -/
def zero : Decimal := ⟨false, 0, 0, by decide, by decide⟩

/-- The coefficient with its sign. -/
def signed (d : Decimal) : Int := if d.negative then -(d.coefficient : Int) else d.coefficient

/-- Two numbers of one value, whatever their scales. -/
def sameValue (a b : Decimal) : Bool :=
  a.signed * Text.placeWeight b.scale == b.signed * Text.placeWeight a.scale

/-- A coefficient and a scale without the zeros at the end of the fraction. -/
def trimZeros (coefficient : Nat) : Nat → Nat × Nat
  | 0 => (coefficient, 0)
  | scale + 1 =>
    if coefficient % 10 = 0 then trimZeros (coefficient / 10) scale else (coefficient, scale + 1)

theorem trimZeros_fst_le (coefficient scale : Nat) :
    (trimZeros coefficient scale).1 ≤ coefficient := by
  induction scale generalizing coefficient with
  | zero => exact Nat.le_refl _
  | succ scale ih =>
    rw [trimZeros]
    split
    · exact Nat.le_trans (ih _) (Nat.div_le_self _ _)
    · exact Nat.le_refl _

theorem trimZeros_snd_le (coefficient scale : Nat) : (trimZeros coefficient scale).2 ≤ scale := by
  induction scale generalizing coefficient with
  | zero => exact Nat.le_refl _
  | succ scale ih =>
    rw [trimZeros]
    split
    · exact Nat.le_trans (ih _) (Nat.le_succ _)
    · exact Nat.le_refl _

/-- The number of the same value without zeros at the end of its fraction; zero loses its sign. -/
def normalize (d : Decimal) : Decimal where
  negative := d.negative && d.coefficient != 0
  coefficient := (trimZeros d.coefficient d.scale).1
  scale := (trimZeros d.coefficient d.scale).2
  coefficient_lt := Nat.lt_of_le_of_lt (trimZeros_fst_le _ _) d.coefficient_lt
  scale_le := Nat.le_trans (trimZeros_snd_le _ _) d.scale_le

/-- Whether no digit but zero stands behind the point. -/
def isWhole (d : Decimal) : Bool := d.coefficient % Text.placeWeight d.scale == 0

/-- The whole part, with the sign of the number. -/
def truncate (d : Decimal) : Int :=
  let n : Int := (d.coefficient / Text.placeWeight d.scale : Nat)
  if d.negative then -n else n

end Decimal

end FilterQuery
