import FilterQuery.Text.Digits

/-!
# Strings of TOML

A string is written in the first form that shows it without escapes: between double quotes, between
single quotes, and in the forms for several lines. Where none does, what has to be escaped is.
-/

namespace FilterQuery.Toml

/-- What decides about the form of a string. -/
structure Shape where
  /-- It holds a backslash. -/
  backslash : Bool
  /-- It holds a line feed. -/
  lineFeed : Bool
  /-- It holds a control character other than the tab and the line feed. -/
  control : Bool
  /-- The most double quotes in a row. -/
  doubleQuotes : Nat
  /-- The most single quotes in a row. -/
  singleQuotes : Nat

/-- A control character that no form shows. -/
def needsEscape (c : Char) : Bool := (c.toNat < 0x20 && c ≠ '\t' && c ≠ '\n') || c = '\x7f'

/-- The most occurrences of a character in a row, with those that stand just before. -/
def longestRun (x : Char) (before : Nat) : List Char → Nat
  | [] => before
  | c :: cs => if c = x then longestRun x (before + 1) cs else max before (longestRun x 0 cs)

/-- The shape of a string. -/
def Shape.of (cs : List Char) : Shape :=
  ⟨cs.contains '\\', cs.contains '\n', cs.any needsEscape, longestRun '\x22' 0 cs,
    longestRun '\x27' 0 cs⟩

/-- The number of a character in four hexadecimal digits. -/
def fourDigits (c : Char) : List Char :=
  [4096, 256, 16, 1].map fun unit =>
    let d := c.toNat / unit % 16
    if d < 10 then Text.digitChar d else Char.ofNat ('A'.toNat + (d - 10))

/-- The escape of a character. -/
def escape (c : Char) : List Char :=
  if c = '\x08' then ['\\', 'b']
  else if c = '\t' then ['\\', 't']
  else if c = '\n' then ['\\', 'n']
  else if c = '\x0c' then ['\\', 'f']
  else if c = '\r' then ['\\', 'r']
  else if c = '\x22' || c = '\\' then ['\\', c]
  else '\\' :: 'u' :: fourDigits c

/-- The inside of a string with escapes, where `quotes` double quotes may stand in a row and `run`
of them stand just before. Line feeds stand as they are where several lines are allowed. -/
def escaped (several : Bool) (quotes run : Nat) : List Char → List Char
  | [] => []
  | c :: cs =>
    if c = '\x22' then
      if run < quotes then c :: escaped several quotes (run + 1) cs
      else escape c ++ escaped several quotes 0 cs
    else if (c = '\n' && several) || (c.toNat ≥ 0x20 && c ≠ '\\' && c ≠ '\x7f') then
      c :: escaped several quotes 0 cs
    else escape c ++ escaped several quotes 0 cs

/-- A string between double quotes, with escapes. -/
def basicChars (cs : List Char) : List Char := '\x22' :: escaped false 0 0 cs ++ ['\x22']

/-- A string of several lines between double quotes, with escapes. A break behind the opening quotes
is no part of the string, so one is written where the string has lines. -/
def basicLinesChars (lineFeed : Bool) (cs : List Char) : List Char :=
  let quotes := List.replicate 3 '\x22'
  quotes ++ (if lineFeed then ['\n'] else []) ++ escaped true 2 0 cs ++ quotes

/-- A string between single quotes. -/
def literalChars (cs : List Char) : List Char := '\x27' :: cs ++ ['\x27']

/-- A string of several lines between single quotes. -/
def literalLinesChars (lineFeed : Bool) (cs : List Char) : List Char :=
  let quotes := List.replicate 3 '\x27'
  quotes ++ (if lineFeed then ['\n'] else []) ++ cs ++ quotes

/-- A string in the first form that fits. -/
def stringText (s : String) : String :=
  let cs := s.toList
  let shape := Shape.of cs
  let chars :=
    if !shape.control && !shape.backslash && shape.doubleQuotes = 0 && !shape.lineFeed then
      basicChars cs
    else if !shape.control && shape.singleQuotes = 0 && !shape.lineFeed then literalChars cs
    else if !shape.control && !shape.backslash && shape.doubleQuotes ≤ 2 then
      basicLinesChars shape.lineFeed cs
    else if !shape.control && shape.singleQuotes ≤ 2 then literalLinesChars shape.lineFeed cs
    else if shape.lineFeed then basicLinesChars true cs
    else basicChars cs
  String.ofList chars

end FilterQuery.Toml
