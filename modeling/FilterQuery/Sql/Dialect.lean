import FilterQuery.Scalar.Basic
import FilterQuery.Text.Quoted

/-!
# Dialects of SQL

Dialects differ in the quotes around identifiers, in how truth values and dates are written, and in
how the components of a date are taken.
-/

namespace FilterQuery.Sql

/-- A dialect of SQL. -/
inductive Dialect where
  /-- The dialect of PostgreSQL. -/
  | postgres
  /-- The dialect of Microsoft SQL Server. -/
  | sqlServer
  deriving DecidableEq, Repr

namespace Dialect

/-- Every dialect. -/
def all : List Dialect := [.postgres, .sqlServer]

/-- The name of a dialect. -/
def name : Dialect → String
  | .postgres => "postgres"
  | .sqlServer => "sqlserver"

/-- The dialect of a name in letters of any case; each dialect goes by two names. -/
def ofName? (s : String) : Option Dialect :=
  let word := s.toLower
  if word = "postgres" || word = "postgresql" then some .postgres
  else if word = "sqlserver" || word = "mssql" then some .sqlServer
  else none

/-- What is said of a name that belongs to no dialect. -/
def unknownName (s : String) : String :=
  "unknown SQL dialect '" ++ s ++ "', expected postgres or sqlserver"

/-- One segment of an identifier in quotes. -/
def quoteSegment (d : Dialect) (segment : String) : String :=
  match d with
  | .postgres => Text.enclose '\x22' '\x22' segment
  | .sqlServer => Text.enclose '[' ']' segment

/-- The segments of an identifier: what stands between its dots. -/
def segments (identifier : String) : List String :=
  (identifier.toList.splitOn '.').map String.ofList

/-- An identifier with each of its segments in quotes. -/
def quote (d : Dialect) (identifier : String) : String :=
  ".".intercalate ((segments identifier).map d.quoteSegment)

/-- A text as a literal. -/
def stringLiteral (s : String) : String := Text.enclose '\x27' '\x27' s

/-- A truth value as a literal. -/
def boolLiteral : Dialect → Bool → String
  | .postgres, true => "TRUE"
  | .postgres, false => "FALSE"
  | .sqlServer, true => "1"
  | .sqlServer, false => "0"

/-- A date as a literal. -/
def dateLiteral : Dialect → Date → String
  | .postgres, d => "DATE '" ++ d.text ++ "'"
  | .sqlServer, d => "CAST('" ++ d.text ++ "' AS DATE)"

/-- A value as a literal. Numbers lose the zeros at the end of their fraction. -/
def literal (d : Dialect) : Scalar → String
  | .null => "NULL"
  | .bool b => d.boolLiteral b
  | .string s => stringLiteral s
  | .date date => d.dateLiteral date
  | .numeric n => n.normalize.text

/-- The day of the month of a column. -/
def dayOfMonth : Dialect → String → String
  | .postgres, column => "EXTRACT(DAY FROM " ++ column ++ ")"
  | .sqlServer, column => "DAY(" ++ column ++ ")"

/-- The month of a column. -/
def month : Dialect → String → String
  | .postgres, column => "EXTRACT(MONTH FROM " ++ column ++ ")"
  | .sqlServer, column => "MONTH(" ++ column ++ ")"

/-- The year of a column. -/
def year : Dialect → String → String
  | .postgres, column => "EXTRACT(YEAR FROM " ++ column ++ ")"
  | .sqlServer, column => "YEAR(" ++ column ++ ")"

/-- The day of the week of a column, from one for Monday, whatever day a session starts its weeks
on. -/
def dayOfWeek : Dialect → String → String
  | .postgres, column => "EXTRACT(ISODOW FROM " ++ column ++ ")"
  | .sqlServer, column => "((DATEPART(WEEKDAY, " ++ column ++ ") + @@DATEFIRST - 2) % 7) + 1"

end Dialect

end FilterQuery.Sql
