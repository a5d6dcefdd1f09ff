import FilterQuery.Json.Printer
import FilterQuery.QueryError

/-!
# Raw JSON as typed values

`Scalar.coerce` turns a JSON value into one of the type that is asked for, and nothing is guessed:
a text of the shape of a date is a date or an error, a number keeps its digits, and null stays null
for every type. A date may also be given as a number, which operators take as a count.
-/

namespace FilterQuery

/-- The decimal of a JSON number. A floating point number is read from its own text, so `99.99` is
the decimal `99.99`. -/
def Json.Number.decimal? : Json.Number → Option Decimal
  | .whole n => Decimal.ofInt? n
  | .double x => Decimal.ofText? x.text

namespace Scalar

/-- A scalar as text: the content of a string, the JSON of anything else. -/
def plainText : Json → String
  | .string s => s
  | j => j.text

/-- A truth value, or a word for one with blanks around it and letters of any case. -/
def coerceBoolean (raw : Json) : Except QueryError Scalar :=
  match raw with
  | .bool b => .ok (.bool b)
  | .string s =>
    let word := (Text.trim s).toLower
    if word = "true" then .ok (.bool true)
    else if word = "false" then .ok (.bool false)
    else if word = "null" then .ok .null
    else .error (.rejected raw.text .boolean .notTruthWord)
  | _ => .error (.rejected raw.text .boolean .notBoolean)

/-- A date, or the number of something to count from a date. -/
def coerceDate (raw : Json) : Except QueryError Scalar :=
  match raw with
  | .string s =>
    let cs := Text.trimChars s.toList
    if Date.hasDateShape cs then
      match Date.ofChars? cs with
      | some d => .ok (.date d)
      | none => .error (.rejected raw.text .date .noSuchDay)
    else match Decimal.ofChars? cs with
      | some d => .ok (.numeric d)
      | none => .error (.rejected raw.text .date .notDateOrNumber)
  | .number n =>
    match n.decimal? with
    | some d => .ok (.numeric d)
    | none => .error (.rejected raw.text .date .numberOutOfRange)
  | _ => .error (.rejected raw.text .date .notDateOrNumber)

/-- A number, or a text that denotes one. -/
def coerceNumeric (raw : Json) : Except QueryError Scalar :=
  match raw with
  | .number n =>
    match n.decimal? with
    | some d => .ok (.numeric d)
    | none => .error (.rejected raw.text .numeric .numberOutOfRange)
  | .string s =>
    match Decimal.ofChars? (Text.trimChars s.toList) with
    | some d => .ok (.numeric d)
    | none => .error (.rejected raw.text .numeric .notDecimal)
  | _ => .error (.rejected raw.text .numeric .notNumber)

/-- The value of a type that a JSON value stands for. -/
def coerce (raw : Json) (target : ScalarType) : Except QueryError Scalar :=
  match raw with
  | .null => .ok .null
  | .array _ | .object _ => .error (.rejected raw.text target .notScalar)
  | raw =>
    match target with
    | .string => .ok (.string (plainText raw))
    | .boolean => coerceBoolean raw
    | .date => coerceDate raw
    | .numeric => coerceNumeric raw

end Scalar

end FilterQuery
