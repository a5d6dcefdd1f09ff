import FilterQuery.Binary64.Basic
import FilterQuery.Text.Digits

/-!
# The shortest decimal that reads back

Every binary number is the nearest one to all decimals of an interval around it. `shortest` takes
the decimal of that interval with the fewest digits, and of two with equally few the nearer one.
`text` writes it: positionally when the point falls within sixteen digits or less than five zeros
precede the first one, and with a power of ten otherwise.
-/

namespace FilterQuery.Binary64

/-- The decimal `digits · 10 ^ exponent`. -/
structure Decimal where
  /-- The digits, read as a whole number. -/
  digits : Nat
  /-- The power of ten. -/
  exponent : Int
  deriving DecidableEq, Repr

/-- Which of `a · 10 ^ k` and `b · 2 ^ p` is larger, decided on natural numbers. -/
def compareScaled (a : Nat) (k : Int) (b : Nat) (p : Int) : Ordering :=
  compare ((a * Text.placeWeight k.toNat) <<< (-p).toNat)
    ((b * Text.placeWeight (-k).toNat) <<< p.toNat)

/-- The interval of magnitudes that round to a number, in quarters of its last place: the lower end,
the upper end, and whether the ends belong to it. -/
def roundingInterval (x : Binary64) : Nat × Nat × Bool :=
  let step := if x.significand = leastNormal ∧ -1074 < x.exponent then 1 else 2
  (4 * x.significand - step, 4 * x.significand + 2, x.significand % 2 == 0)

/-- Whether a decimal rounds to the magnitude of a number. -/
def readsBack (x : Binary64) (d : Decimal) : Bool :=
  let (low, high, closed) := x.roundingInterval
  match compareScaled d.digits d.exponent low (x.exponent - 2),
      compareScaled d.digits d.exponent high (x.exponent - 2) with
  | .gt, .lt => true
  | .eq, _ => closed
  | _, .eq => closed
  | _, _ => false

/-- The magnitude of a number as a quotient. -/
def quotient (x : Binary64) : Nat × Nat :=
  (x.significand <<< x.exponent.toNat, 1 <<< (-x.exponent).toNat)

/-- The power of ten of the first significant digit of a positive quotient. -/
def leadingPlace (num den : Nat) : Int :=
  if den ≤ num then ((Text.naturalDigits (num / den)).length : Int) - 1
  else
    let width := (Text.naturalDigits (den / num)).length
    if den ≤ num * Text.placeWeight (width - 1) then 1 - (width : Int) else -(width : Int)

/-- The whole number of steps of `10 ^ place` below a quotient, and whether they reach it. -/
def stepsBelow (num den : Nat) (place : Int) : Nat × Bool :=
  let n := num * Text.placeWeight (-place).toNat
  let d := den * Text.placeWeight place.toNat
  (n / d, n % d == 0)

/-- The decimal nearest to a number on the grid of `10 ^ place`, if one there reads back. Exactly
between two of them the even one is taken. -/
def onGrid? (x : Binary64) (place : Int) : Option Decimal :=
  let (num, den) := x.quotient
  let (below, exact) := stepsBelow num den place
  let lower : Decimal := ⟨below, place⟩
  let upper : Decimal := ⟨below + 1, place⟩
  if exact then some lower
  else match x.readsBack lower, x.readsBack upper with
    | true, false => some lower
    | false, true => some upper
    | false, false => none
    | true, true =>
      match compareScaled (2 * below + 1) place x.significand (x.exponent + 1) with
      | .gt => some lower
      | .lt => some upper
      | .eq => if below % 2 = 0 then some lower else some upper

/-- The first grid with a decimal that reads back, from coarse to fine. -/
def search (x : Binary64) (place : Int) : Nat → Decimal
  | 0 => ⟨(stepsBelow x.quotient.1 x.quotient.2 place).1, place⟩
  | finer + 1 => (x.onGrid? place).getD (x.search (place - 1) finer)

/-- A decimal without zeros at the end of its digits. -/
def Decimal.trimZeros (d : Decimal) : Nat → Decimal
  | 0 => d
  | fuel + 1 =>
    if d.digits ≠ 0 ∧ d.digits % 10 = 0 then
      Decimal.trimZeros ⟨d.digits / 10, d.exponent + 1⟩ fuel
    else d

/-- The shortest decimal that reads back as the magnitude of a number. Seventeen digits always
suffice. -/
def shortest (x : Binary64) : Decimal :=
  if x.significand = 0 then ⟨0, 0⟩
  else
    let (num, den) := x.quotient
    (x.search (leadingPlace num den) 17).trimZeros 20

/-- Where positional writing ends: the point falls behind at most `widest` digits, and fewer than
`zeros` zeros stand between the point and the first digit. -/
structure PlainRange where
  /-- The most digits before the point. -/
  widest : Int
  /-- The least number of zeros behind the point that calls for a power of ten. -/
  zeros : Int

/-- Numbers from `1e-5` up to `1e16` are written positionally. -/
def plainRange : PlainRange := ⟨16, 5⟩

/-- A power of ten with its sign always written. -/
def powerText (n : Int) : List Char :=
  'e' :: (if n < 0 then '-' else '+') :: Text.naturalDigits n.natAbs

/-- A decimal written positionally or with a power of ten; a positional whole number ends in
`.0`. -/
def Decimal.text (d : Decimal) : List Char :=
  let ds := Text.naturalDigits d.digits
  let point : Int := ds.length + d.exponent
  if 0 ≤ d.exponent ∧ point ≤ plainRange.widest then
    ds ++ List.replicate d.exponent.toNat '0' ++ ['.', '0']
  else if 0 < point ∧ point ≤ plainRange.widest then
    ds.take point.toNat ++ '.' :: ds.drop point.toNat
  else if -plainRange.zeros < point ∧ point ≤ 0 then
    '0' :: '.' :: List.replicate (-point).toNat '0' ++ ds
  else
    ds.take 1 ++ (if ds.length = 1 then [] else '.' :: ds.drop 1) ++ powerText (point - 1)

/-- A number in decimal. -/
def text (x : Binary64) : String :=
  String.ofList ((if x.negative then ['-'] else []) ++ x.shortest.text)

end FilterQuery.Binary64
