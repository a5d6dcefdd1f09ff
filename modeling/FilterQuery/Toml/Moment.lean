import FilterQuery.Calendar.Text

/-!
# Dates and times of TOML

A moment is a date, a time of day, or a date with a time of day behind it, which may say how far it
is from universal time. `isMoment` accepts the moments that exist: days of the calendar, hours to
23, minutes to 59, and seconds to 60, because a leap second may end any minute.
-/

namespace FilterQuery.Toml

/-- The text behind two digits whose number is no greater than a bound. -/
def readPair? (bound : Nat) : List Char → Option (List Char)
  | tens :: ones :: rest =>
    (Text.natural? [tens, ones]).bind fun n => if n ≤ bound then some rest else none
  | _ => none

/-- The text behind hours and minutes. -/
def readMinutes? (cs : List Char) : Option (List Char) :=
  match readPair? 23 cs with
  | some (':' :: rest) => readPair? 59 rest
  | _ => none

/-- The text behind a fraction, if there is one; a point needs digits. -/
def readFraction? : List Char → Option (List Char)
  | '.' :: rest => if rest.head?.any Text.isDigit then some (rest.dropWhile Text.isDigit) else none
  | rest => some rest

/-- The text behind a time of day. Seconds may be left out, and only they have a fraction. -/
def readClock? (cs : List Char) : Option (List Char) :=
  match readMinutes? cs with
  | some (':' :: rest) => (readPair? 60 rest).bind readFraction?
  | rest => rest

/-- Whether a text is a distance from universal time, or nothing. -/
def isOffset : List Char → Bool
  | [] | ['Z'] | ['z'] => true
  | sign :: rest => (sign = '+' || sign = '-') && readMinutes? rest = some []

/-- What stands between a date and a time of day. -/
def isDelimiter (c : Char) : Bool := c = 'T' || c = 't' || c = ' '

/-- The number of characters of a date. -/
def dateLength : Nat := 10

/-- Whether a text is a date, a time of day, or both. -/
def isMoment (cs : List Char) : Bool :=
  match Date.ofChars? (cs.take dateLength), cs.drop dateLength with
  | some _, [] => true
  | some _, c :: clock => isDelimiter c && (readClock? clock).any isOffset
  | none, _ => readClock? cs = some []

end FilterQuery.Toml
