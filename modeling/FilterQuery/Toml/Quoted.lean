import FilterQuery.Json.Reader
import FilterQuery.Toml.Line

/-!
# Reading strings of TOML

A string stands between double quotes, where a backslash starts an escape, or between single quotes,
where it does not; three quotes of either kind hold several lines. Every reader takes the text
behind the opening quotes and gives the string with what follows the closing ones.
-/

namespace FilterQuery.Toml

/-- The character that so many hexadecimal digits at the start of a text number, and the rest. -/
def readNumbered (width : Nat) (cs : List Char) : Option (Char × List Char) := do
  let digits := cs.take width
  let n ← digits.foldlM (fun n c => (Json.hexValue? c).map (16 * n + ·)) 0
  if digits.length = width ∧ n.isValidChar then some (Char.ofNat n, cs.drop width) else none

/-- The character behind a backslash, and the rest. -/
def readEscape : List Char → Option (Char × List Char)
  | 'b' :: cs => some ('\x08', cs)
  | 't' :: cs => some ('\t', cs)
  | 'n' :: cs => some ('\n', cs)
  | 'f' :: cs => some ('\x0c', cs)
  | 'r' :: cs => some ('\r', cs)
  | 'e' :: cs => some ('\x1b', cs)
  | '\x22' :: cs => some ('\x22', cs)
  | '\\' :: cs => some ('\\', cs)
  | 'x' :: cs => readNumbered 2 cs
  | 'u' :: cs => readNumbered 4 cs
  | 'U' :: cs => readNumbered 8 cs
  | _ => none

/-- The text behind the blanks and breaks that a backslash at the end of a line joins, if it stands
there. -/
def readJoint (cs : List Char) : Option (List Char) := (readBreak (skipGap cs)).map skipBlank

/-- A string of one line with escapes, read so far in reverse. -/
def readBasic (fuel : Nat) (read : List Char) (cs : List Char) : Option (String × List Char) :=
  match fuel, cs with
  | 0, _ | _, [] => none
  | _ + 1, '\x22' :: rest => some (String.ofList read.reverse, rest)
  | fuel + 1, '\\' :: rest =>
    (readEscape rest).bind fun (c, rest) => readBasic fuel (c :: read) rest
  | fuel + 1, c :: rest => if isControl c then none else readBasic fuel (c :: read) rest

/-- A character that a string of one line shows between single quotes. -/
def isLiteralChar (c : Char) : Bool := c ≠ '\x27' && !isControl c

/-- A string of one line without escapes. -/
def readLiteral (cs : List Char) : Option (String × List Char) :=
  match cs.dropWhile isLiteralChar with
  | '\x27' :: rest => some (String.ofList (cs.takeWhile isLiteralChar), rest)
  | _ => none

/-- The end of a string of several lines: three quotes, with at most two more before them that
belong to the string. -/
def readClosing (quote : Char) (cs : List Char) : Option (List Char × List Char) :=
  let n := (cs.takeWhile (· = quote)).length
  if 3 ≤ n ∧ n ≤ 5 then some (List.replicate (n - 3) quote, cs.drop n) else none

/-- A string of several lines, read so far in reverse. -/
def readLines (quote : Char) (escapes : Bool) (fuel : Nat) (read : List Char) (cs : List Char) :
    Option (String × List Char) :=
  match fuel, cs with
  | 0, _ | _, [] => none
  | fuel + 1, c :: rest =>
    match readClosing quote cs with
    | some (quotes, rest) => some (String.ofList (read.reverse ++ quotes), rest)
    | none =>
      if c = quote && (rest.take 2).all (· = quote) && rest.length ≥ 2 then none
      else if c = '\\' && escapes then
        match readJoint rest with
        | some rest => readLines quote escapes fuel read rest
        | none =>
          (readEscape rest).bind fun (c, rest) => readLines quote escapes fuel (c :: read) rest
      else match readBreak cs with
        | some after =>
          let taken := cs.take (cs.length - after.length)
          readLines quote escapes fuel (taken.reverse ++ read) after
        | none => if isControl c then none else readLines quote escapes fuel (c :: read) rest

/-- A string of any form, with its opening quotes. A break behind three of them is no part of the
string. -/
def readString (cs : List Char) : Option (String × List Char) :=
  match cs with
  | '\x22' :: '\x22' :: '\x22' :: rest =>
    readLines '\x22' true (rest.length + 1) [] (skipBreak rest)
  | '\x27' :: '\x27' :: '\x27' :: rest =>
    readLines '\x27' false (rest.length + 1) [] (skipBreak rest)
  | '\x22' :: rest => readBasic (rest.length + 1) [] rest
  | '\x27' :: rest => readLiteral rest
  | _ => none

end FilterQuery.Toml
