import FilterQuery.Json.Basic
import FilterQuery.Text.Digits

/-!
# Reading JSON

`parse?` accepts the JSON of RFC 8259 and nothing else: no trailing commas, no leading zeros, no raw
control characters inside strings, no unpaired surrogates, nothing after the value. Containers nest
at most `maxNesting` deep, and a number beyond the largest floating point number is refused.

A number that is no whole one of 64 bits becomes the floating point number nearest to it. A reader
that does not look at all digits, but scales the first of them by a power of ten in floating point,
may miss that one by a unit of the last place.
-/

namespace FilterQuery.Json

/-- The most containers that may stand inside each other. -/
def maxNesting : Nat := 127

/-- The characters that may stand between tokens. -/
def isSpace (c : Char) : Bool := c = ' ' || c = '\t' || c = '\n' || c = '\r'

/-- The text behind the space at its start. -/
def skipSpace (cs : List Char) : List Char := cs.dropWhile isSpace

/-- The value of a hexadecimal digit. -/
def hexValue? (c : Char) : Option Nat :=
  if Text.isDigit c then some (Text.digitValue c)
  else if 'a' ≤ c && c ≤ 'f' then some (c.toNat - 'a'.toNat + 10)
  else if 'A' ≤ c && c ≤ 'F' then some (c.toNat - 'A'.toNat + 10)
  else none

/-- The number of four hexadecimal digits. -/
def hexUnit? (a b c d : Char) : Option Nat := do
  return 4096 * (← hexValue? a) + 256 * (← hexValue? b) + 16 * (← hexValue? c) + (← hexValue? d)

/-- The character that a letter behind a backslash stands for. -/
def unescape? (c : Char) : Option Char :=
  if c = '\x22' || c = '\\' || c = '/' then some c
  else if c = 'b' then some '\x08'
  else if c = 'f' then some '\x0c'
  else if c = 'n' then some '\n'
  else if c = 'r' then some '\r'
  else if c = 't' then some '\t'
  else none

/-- The first half of a pair of units for a character beyond the first plane. -/
def isHighUnit (n : Nat) : Bool := 0xd800 ≤ n && n ≤ 0xdbff

/-- The second half of such a pair. -/
def isLowUnit (n : Nat) : Bool := 0xdc00 ≤ n && n ≤ 0xdfff

/-- The character of a pair of units. -/
def pairedChar (high low : Nat) : Char :=
  Char.ofNat (0x10000 + (high - 0xd800) * 0x400 + (low - 0xdc00))

/-- The rest of a string behind its opening quote, with the characters read so far in reverse. -/
def readString (read : List Char) : List Char → Option (String × List Char)
  | [] => none
  | '\x22' :: rest => some (String.ofList read.reverse, rest)
  | '\\' :: 'u' :: a :: b :: c :: d :: rest =>
    match hexUnit? a b c d with
    | none => none
    | some high =>
      if isHighUnit high then
        match rest with
        | '\\' :: 'u' :: e :: f :: g :: h :: rest =>
          match hexUnit? e f g h with
          | none => none
          | some low =>
            if isLowUnit low then readString (pairedChar high low :: read) rest else none
        | _ => none
      else if isLowUnit high then none
      else readString (Char.ofNat high :: read) rest
  | '\\' :: c :: rest =>
    match unescape? c with
    | none => none
    | some c => readString (c :: read) rest
  | c :: rest => if c.toNat < 0x20 then none else readString (c :: read) rest

/-- The digits of a whole part: a zero alone, or digits that do not start with one. -/
def readWhole (cs : List Char) : Option (List Char × List Char) :=
  match cs.takeWhile Text.isDigit, cs.dropWhile Text.isDigit with
  | [], _ => none
  | ['0'], rest => some (['0'], rest)
  | '0' :: _, _ => none
  | digits, rest => some (digits, rest)

/-- The digits behind a point; none without a point. -/
def readFraction : List Char → Option (List Char × List Char)
  | '.' :: cs =>
    match cs.takeWhile Text.isDigit, cs.dropWhile Text.isDigit with
    | [], _ => none
    | digits, rest => some (digits, rest)
  | cs => some ([], cs)

/-- A minus sign, and the text behind it. -/
def readMinus : List Char → Bool × List Char
  | '-' :: cs => (true, cs)
  | cs => (false, cs)

/-- A sign that may be a plus. -/
def readSign : List Char → Bool × List Char
  | '+' :: cs => (false, cs)
  | cs => readMinus cs

/-- The digits of a power of ten, behind its sign. -/
def readPowerDigits (negative : Bool) (cs : List Char) : Option (Option Int × List Char) :=
  match cs.takeWhile Text.isDigit, cs.dropWhile Text.isDigit with
  | [], _ => none
  | digits, rest =>
    let n : Int := Text.readDigits digits
    some (some (if negative then -n else n), rest)

/-- A power of ten, `none` inside where none is written. -/
def readPower : List Char → Option (Option Int × List Char)
  | [] => some (none, [])
  | c :: cs =>
    if c = 'e' || c = 'E' then readPowerDigits (readSign cs).1 (readSign cs).2
    else some (none, c :: cs)

/-- The whole number of some digits behind a sign, if 64 bits hold it. A negative zero is none. -/
def wholeNumber? (negative : Bool) (digits : Nat) : Option Number :=
  let n : Int := if negative then -(digits : Int) else digits
  if IsWhole n ∧ ¬(negative ∧ digits = 0) then some (.whole n) else none

/-- The number of a whole part, a fraction and a power of ten. Without the last two it is a whole
number if 64 bits hold it, and otherwise the nearest floating point number. -/
def numberOf? (negative : Bool) (whole fraction : List Char) (power : Option Int) :
    Option Number :=
  let digits := Text.readDigits (whole ++ fraction)
  let exponent : Int := power.getD 0 - fraction.length
  let double := (Binary64.ofDecimal? negative digits exponent).map Number.double
  if fraction.isEmpty && power.isNone then wholeNumber? negative digits <|> double else double

/-- The number whose digits start a text, with its sign in front of it. -/
def readMagnitude (negative : Bool) (cs : List Char) : Option (Number × List Char) := do
  let (whole, cs) ← readWhole cs
  let (fraction, cs) ← readFraction cs
  let (power, rest) ← readPower cs
  let n ← numberOf? negative whole fraction power
  return (n, rest)

/-- A number at the start of a text. -/
def readNumber (cs : List Char) : Option (Number × List Char) :=
  readMagnitude (readMinus cs).1 (readMinus cs).2

mutual

/-- A value at the start of a text, at most `room` containers deep. -/
def readValue (fuel room : Nat) (cs : List Char) : Option (Json × List Char) :=
  match fuel with
  | 0 => none
  | fuel + 1 =>
    match cs with
    | 'n' :: 'u' :: 'l' :: 'l' :: rest => some (.null, rest)
    | 't' :: 'r' :: 'u' :: 'e' :: rest => some (.bool true, rest)
    | 'f' :: 'a' :: 'l' :: 's' :: 'e' :: rest => some (.bool false, rest)
    | '\x22' :: rest => (readString [] rest).map fun (s, rest) => (.string s, rest)
    | '[' :: rest =>
      match room with
      | 0 => none
      | room + 1 =>
        match skipSpace rest with
        | ']' :: rest => some (.array [], rest)
        | rest => (readItems fuel room rest).map fun (items, rest) => (.array items, rest)
    | '\x7b' :: rest =>
      match room with
      | 0 => none
      | room + 1 =>
        match skipSpace rest with
        | '\x7d' :: rest => some (.object [], rest)
        | rest => (readMembers fuel room rest).map fun (members, rest) => (ofMembers members, rest)
    | cs => (readNumber cs).map fun (n, rest) => (.number n, rest)

/-- The items of a nonempty array up to its closing bracket. -/
def readItems (fuel room : Nat) (cs : List Char) : Option (List Json × List Char) :=
  match fuel with
  | 0 => none
  | fuel + 1 =>
    match readValue fuel room cs with
    | none => none
    | some (item, rest) =>
      match skipSpace rest with
      | ']' :: rest => some ([item], rest)
      | ',' :: rest =>
        (readItems fuel room (skipSpace rest)).map fun (items, rest) => (item :: items, rest)
      | _ => none

/-- The members of a nonempty object up to its closing brace, in the order they stand. -/
def readMembers (fuel room : Nat) (cs : List Char) : Option (List (String × Json) × List Char) :=
  match fuel with
  | 0 => none
  | fuel + 1 =>
    match cs with
    | '\x22' :: rest =>
      match readString [] rest with
      | none => none
      | some (key, rest) =>
        match skipSpace rest with
        | ':' :: rest =>
          match readValue fuel room (skipSpace rest) with
          | none => none
          | some (value, rest) =>
            match skipSpace rest with
            | '\x7d' :: rest => some ([(key, value)], rest)
            | ',' :: rest =>
              (readMembers fuel room (skipSpace rest)).map fun (members, rest) =>
                ((key, value) :: members, rest)
            | _ => none
        | _ => none
    | _ => none

end

/-- The value of a whole text. Reading spends at most two steps of fuel on each character. -/
def parse? (s : String) : Option Json :=
  let cs := s.toList
  match readValue (2 * cs.length + 2) maxNesting (skipSpace cs) with
  | some (j, rest) => if (skipSpace rest).isEmpty then some j else none
  | none => none

end FilterQuery.Json
