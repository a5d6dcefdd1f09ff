import FilterQuery.Binary64.Basic
import FilterQuery.Json.Reader
import FilterQuery.Toml.Basic
import FilterQuery.Toml.Line
import FilterQuery.Toml.Moment

/-!
# Words of TOML

A value without quotes or brackets is one word: a truth value, a number, a date or a time. Numbers
may have underscores between two digits. A whole number has to fit 128 bits, with or without a sign,
and a floating point number must not lie beyond the largest double. Only between a date and a time
does a word hold a blank.
-/

namespace FilterQuery.Toml

/-- A character of a key without quotes. -/
def isKeyChar (c : Char) : Bool := c.isAlphanum || c = '_' || c = '-'

/-- A character of a word. -/
def isWordChar (c : Char) : Bool := isKeyChar c || c = '+' || c = '.' || c = ':'

/-- The word at the start of a text, and the rest. A date takes in the time behind a blank. -/
def readWord (cs : List Char) : List Char × List Char :=
  let word := cs.takeWhile isWordChar
  match cs.dropWhile isWordChar with
  | ' ' :: c :: rest =>
    if Date.hasDateShape word && Text.isDigit c then
      (word ++ ' ' :: (c :: rest).takeWhile isWordChar, (c :: rest).dropWhile isWordChar)
    else (word, ' ' :: c :: rest)
  | rest => (word, rest)

/-- Digits without the underscores that stand between two of them. -/
def digits? (isDigit : Char → Bool) : List Char → Option (List Char)
  | [] => none
  | [c] => if isDigit c then some [c] else none
  | c :: '_' :: rest => if isDigit c then (digits? isDigit rest).map (c :: ·) else none
  | c :: rest => if isDigit c then (digits? isDigit rest).map (c :: ·) else none

/-- Digits that do not start with a zero, unless it is the only one. -/
def plainDigits? (cs : List Char) : Option (List Char) :=
  match digits? Text.isDigit cs with
  | some ('0' :: _ :: _) => none
  | digits => digits

/-- The number of digits in a base, read from the left. -/
def inBase? (base : Nat) (cs : List Char) : Option Int := do
  let digits ← digits? (fun c => (Json.hexValue? c).any (· < base)) cs
  return (digits.foldl (fun n c => base * n + (Json.hexValue? c).getD 0) 0 : Nat)

/-- A sign and what follows it. -/
def readSign : List Char → Bool × List Char
  | '-' :: cs => (true, cs)
  | '+' :: cs => (false, cs)
  | cs => (false, cs)

/-- The number that a sign gives some digits. -/
def signed (negative : Bool) (digits : List Char) : Int :=
  if negative then -(Text.readDigits digits : Int) else Text.readDigits digits

/-- The whole number of a word. -/
def integer? (cs : List Char) : Option Int :=
  match cs with
  | '0' :: 'x' :: cs => inBase? 16 cs
  | '0' :: 'o' :: cs => inBase? 8 cs
  | '0' :: 'b' :: cs => inBase? 2 cs
  | cs => (plainDigits? (readSign cs).2).map (signed (readSign cs).1)

/-- Whole numbers that 128 bits hold, with or without a sign. -/
def fits (n : Int) : Bool :=
  -0x80000000000000000000000000000000 ≤ n && n ≤ 0xffffffffffffffffffffffffffffffff

/-- A letter before a power of ten. -/
def isPowerMark (c : Char) : Bool := c = 'e' || c = 'E'

/-- The digits behind a point; none without a point. -/
def fractionDigits? : List Char → Option (List Char)
  | [] => some []
  | _ :: fraction => digits? Text.isDigit fraction

/-- The exponent behind its letter; zero where none is written. -/
def exponent? : List Char → Option Int
  | [] => some 0
  | _ :: cs => (digits? Text.isDigit (readSign cs).2).map (signed (readSign cs).1)

/-- Whether a word is a floating point number: digits with a fraction, a power of ten or both, or
one of the names for what has no digits. -/
def isFloat (cs : List Char) : Bool :=
  let cs := (readSign cs).2
  if cs = "inf".toList || cs = "nan".toList then true
  else
    let base := cs.takeWhile (!isPowerMark ·)
    let value := do
      let whole ← plainDigits? (base.takeWhile (· ≠ '.'))
      let fraction ← fractionDigits? (base.dropWhile (· ≠ '.'))
      let exponent ← exponent? (cs.dropWhile (!isPowerMark ·))
      Binary64.ofDecimal? false (Text.readDigits (whole ++ fraction)) (exponent - fraction.length)
    value.isSome

/-- The value of a word. -/
def ofWord? (cs : List Char) : Option Toml :=
  if cs = "true".toList then some (.boolean true)
  else if cs = "false".toList then some (.boolean false)
  else match integer? cs with
    | some n => if fits n then some (.integer n) else none
    | none =>
      if isFloat cs then some (.float (String.ofList cs))
      else if isMoment cs then some (.moment (String.ofList cs))
      else none

end FilterQuery.Toml
