import FilterQuery.Calendar.Text
import FilterQuery.Decimal.Text
import FilterQuery.Json.Basic
import FilterQuery.Text.Blank

/-!
# Scalars and their types

A query speaks about values of four types. The same types describe columns, where they are declared
with the leaf of a query, and values, where they say what raw JSON has to become. A column of one
type may be compared with a value of another: a date with a count of days.
-/

namespace FilterQuery

/-- The type of a column or of a value. -/
inductive ScalarType where
  /-- Text. -/
  | string
  /-- `true` and `false`. -/
  | boolean
  /-- Days of the calendar. -/
  | date
  /-- Decimal numbers. -/
  | numeric
  deriving DecidableEq, Repr

namespace ScalarType

/-- Every type, in the order in which they are listed. -/
def all : List ScalarType := [.string, .boolean, .date, .numeric]

/-- The name of a type. -/
def name : ScalarType → String
  | .string => "STRING"
  | .boolean => "BOOLEAN"
  | .date => "DATE"
  | .numeric => "NUMERIC"

/-- The type of a name in letters of any case with blanks around it; `BOOL` is short for
`BOOLEAN`. -/
def ofName? (s : String) : Option ScalarType :=
  let name := (Text.trim s).toUpper
  if name = "BOOL" then some .boolean else all.find? (·.name = name)

/-- What is said of a name that belongs to no type. -/
def unknownName (s : String) : String :=
  "unknown type tag '" ++ s ++ "', expected one of " ++ ", ".intercalate (all.map name)

end ScalarType

/-- A value of one of the four types, or null. -/
inductive Scalar where
  /-- No value. -/
  | null
  /-- A truth value. -/
  | bool (b : Bool)
  /-- A text. -/
  | string (s : String)
  /-- A day of the calendar. -/
  | date (d : Date)
  /-- A decimal number, with its scale. -/
  | numeric (d : Decimal)
  deriving DecidableEq

namespace Scalar

/-- The type of a value; null belongs to all of them and has none of its own. -/
def type? : Scalar → Option ScalarType
  | .null => none
  | .bool _ => some .boolean
  | .string _ => some .string
  | .date _ => some .date
  | .numeric _ => some .numeric

/-- The name of the kind of a value. -/
def kindName : Scalar → String
  | .null => "null"
  | .bool _ => "boolean"
  | .string _ => "string"
  | .date _ => "date"
  | .numeric _ => "numeric"

/-- A value as text, without any quotes. -/
def text : Scalar → String
  | .null => "null"
  | .bool true => "true"
  | .bool false => "false"
  | .string s => s
  | .date d => d.text
  | .numeric d => d.text

/-- A value as JSON. Dates and numbers travel as strings, so that no digit is lost. -/
def toJson : Scalar → Json
  | .null => .null
  | .bool b => .bool b
  | .string s => .string s
  | .date d => .string d.text
  | .numeric d => .string d.text

end Scalar

end FilterQuery
