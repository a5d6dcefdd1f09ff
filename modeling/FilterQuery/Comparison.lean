import FilterQuery.Scalar.Basic

/-!
# Comparisons

What a leaf of a query comes to: one relation between a column and a value. Conditions are built of
comparisons and of nothing else.
-/

namespace FilterQuery

/-- The relations that a condition may ask for. -/
inductive Relation where
  /-- The column equals the value. -/
  | eq
  /-- The column differs from the value. -/
  | ne
  /-- The column is greater than the value. -/
  | gt
  /-- The column is greater than the value or equals it. -/
  | ge
  /-- The column is less than the value. -/
  | lt
  /-- The column is less than the value or equals it. -/
  | le
  /-- The column matches a pattern. -/
  | like
  /-- The column is null. -/
  | isNull
  /-- The column is not null. -/
  | isNotNull
  /-- The day of the month of the column equals the value. -/
  | dayEq
  /-- The month of the column equals the value. -/
  | monthEq
  /-- The year of the column equals the value. -/
  | yearEq
  /-- The day of the week of the column equals the value, from one for Monday. -/
  | dayOfWeekEq
  /-- The column falls on a date. -/
  | dateEq
  deriving DecidableEq, Repr

namespace Relation

/-- Every relation. -/
def all : List Relation :=
  [.eq, .ne, .gt, .ge, .lt, .le, .like, .isNull, .isNotNull, .dayEq, .monthEq, .yearEq,
    .dayOfWeekEq, .dateEq]

/-- The name of a relation. -/
def name : Relation → String
  | .eq => "eq"
  | .ne => "ne"
  | .gt => "gt"
  | .ge => "ge"
  | .lt => "lt"
  | .le => "le"
  | .like => "like"
  | .isNull => "isNull"
  | .isNotNull => "isNotNull"
  | .dayEq => "dayEq"
  | .monthEq => "monthEq"
  | .yearEq => "yearEq"
  | .dayOfWeekEq => "dayOfWeekEq"
  | .dateEq => "dateEq"

/-- The relation of a name. -/
def ofName? (s : String) : Option Relation := all.find? (·.name = s)

/-- A relation that speaks about the column alone. -/
def isUnary : Relation → Bool
  | .isNull | .isNotNull => true
  | _ => false

end Relation

/-- A relation between a column and a value. -/
structure Comparison where
  /-- The column, as the query names it. -/
  column : String
  /-- The relation. -/
  relation : Relation
  /-- The value; null where the relation takes none. -/
  value : Scalar
  deriving DecidableEq

namespace Comparison

/-- A relation that takes no value. -/
def unary (column : String) (relation : Relation) : Comparison := ⟨column, relation, .null⟩

/-- A comparison in one line. -/
def text (c : Comparison) : String :=
  if c.relation.isUnary then c.column ++ " " ++ c.relation.name
  else c.column ++ " " ++ c.relation.name ++ " " ++ c.value.text

/-- A comparison as JSON. -/
def toJson (c : Comparison) : Json :=
  .object [("column", .string c.column), ("op", .string c.relation.name), ("value", c.value.toJson)]

end Comparison

end FilterQuery
