import FilterQuery.Decimal.Basic
import FilterQuery.Text.Digits

/-!
# Decimal numbers as text

`text` writes every digit of the scale. `ofText?` reads plain numbers such as `-1.50` and scientific
ones such as `2.5e-3`. Digits of a fraction beyond the coefficient or the scale are rounded by the
first of them alone; whole numbers never are.

The digit that rounds does not end a number. Those behind it are not looked into, but digits they
must be: `0.00000000000000000000000000005e5`, whose 29th digit behind the point rounds, is no plain
number. It is a scientific one with a rounded number in front of its power, so it is read as `1e-23`
and not as `1e-28`.
-/

namespace FilterQuery.Decimal

/-- A number with all digits of its scale. -/
def chars (d : Decimal) : List Char :=
  let digits := Text.paddedDigits (d.scale + 1) d.coefficient
  let whole := digits.take (digits.length - d.scale)
  let fraction := digits.drop (digits.length - d.scale)
  (if d.negative then ['-'] else []) ++ whole ++ (if d.scale = 0 then [] else '.' :: fraction)

/-- The text of a number. -/
def text (d : Decimal) : String := String.ofList d.chars

/-- The sign in front of a text and what follows it. -/
def readSign : List Char → Bool × List Char
  | '-' :: cs => (true, cs)
  | '+' :: cs => (false, cs)
  | cs => (false, cs)

/-- A coefficient and a scale after rounding by the first digit that found no room. Where rounding
up leaves the coefficient too large, its last digit goes as well. -/
def roundBy (digit coefficient scale : Nat) : Option (Nat × Nat) :=
  if digit < 5 then some (coefficient, scale)
  else if coefficient + 1 < coefficientBound then some (coefficient + 1, scale)
  else match scale with
    | 0 => none
    | scale + 1 => some ((coefficient + 5) / 10, scale)

/-- A coefficient and a scale after the digits of a fraction, as many as there is room for. -/
def readFraction (coefficient scale : Nat) : List Char → Option (Nat × Nat)
  | [] => some (coefficient, scale)
  | c :: cs =>
    let next := 10 * coefficient + Text.digitValue c
    if scale < maxScale ∧ next < coefficientBound then readFraction next (scale + 1) cs
    else roundBy (Text.digitValue c) coefficient scale

/-- The digits before and behind the point of a text that holds nothing else, however few of them
there is room for. -/
def splitPoint? (cs : List Char) : Option (List Char × List Char) :=
  let whole := cs.takeWhile Text.isDigit
  match cs.dropWhile Text.isDigit with
  | [] => some (whole, [])
  | '.' :: fraction => if fraction.all Text.isDigit then some (whole, fraction) else none
  | _ => none

/-- A plain number: a sign, digits, and at most one point before, among or behind them. -/
def ofPlain? (cs : List Char) : Option Decimal := do
  let (negative, cs) := readSign cs
  let (whole, fraction) ← splitPoint? cs
  if whole.isEmpty && fraction.isEmpty then none
  else
    let n := Text.readDigits whole
    if n < coefficientBound then
      let (coefficient, scale) ← readFraction n 0 fraction
      ofUnsignedZero? negative coefficient scale
    else none

/-- A coefficient without its last digits, rounded to the nearest and a half away from zero. -/
def dropDigits (coefficient : Nat) : Nat → Nat
  | 0 => coefficient
  | 1 => (coefficient + 5) / 10
  | n + 2 => dropDigits (coefficient / 10) (n + 1)

/-- A number divided by a power of ten of at most the greatest scale. The scale grows by the power,
and digits beyond the greatest scale are rounded away. -/
def shiftRight? (d : Decimal) (power : Nat) : Option Decimal :=
  if maxScale < power then none
  else if maxScale < d.scale + power then
    of? d.negative (dropDigits d.coefficient (d.scale + power - maxScale)) maxScale
  else of? d.negative d.coefficient (d.scale + power)

/-- A number multiplied by a power of ten of at most the greatest scale. -/
def shiftLeft? (d : Decimal) (power : Nat) : Option Decimal :=
  if power ≤ d.scale then of? d.negative d.coefficient (d.scale - power)
  else if maxScale < power then none
  else of? d.negative (d.coefficient * Text.placeWeight (power - d.scale)) 0

/-- A power of ten: digits with an optional plus sign in front. -/
def readPower? : List Char → Option Nat
  | '+' :: cs => Text.natural? cs
  | cs => Text.natural? cs

/-- A letter that introduces a power of ten. -/
def isPowerMark (c : Char) : Bool := c = 'e' || c = 'E'

/-- A scientific number: a plain one, `e` or `E`, and a power of ten. -/
def ofScientific? (cs : List Char) : Option Decimal :=
  match cs.dropWhile (!isPowerMark ·) with
  | [] => none
  | _ :: power => do
    let base ← ofPlain? (cs.takeWhile (!isPowerMark ·))
    match power with
    | '-' :: power => base.shiftRight? (← readPower? power)
    | power => base.shiftLeft? (← readPower? power)

/-- The number that some characters denote. -/
def ofChars? (cs : List Char) : Option Decimal := ofPlain? cs <|> ofScientific? cs

/-- The number that a text denotes. -/
def ofText? (s : String) : Option Decimal := ofChars? s.toList

end FilterQuery.Decimal
