import FilterQuery.Comparison
import FilterQuery.QueryError

/-!
# Operators

An operator has the name that leaves use, the types of columns and values it takes, and the rule by
which it turns a column and a value into a comparison.
-/

namespace FilterQuery

/-- What an operator is applied to. -/
structure Operator.Input where
  /-- The column of the leaf. -/
  column : String
  /-- The value, already of the type that the operator asked for. -/
  value : Scalar
  /-- The date that counts as today. -/
  today : Date

/-- A named way to compare a column with a value. -/
structure Operator where
  /-- The name in queries. -/
  name : String
  /-- The types of columns that it takes. -/
  fieldTypes : List ScalarType
  /-- The types of values that it takes; the first is the one for columns whose own type is not
  among them. -/
  valueTypes : List ScalarType
  /-- What it checks, for people who list operators. -/
  description : String
  /-- It looks at the column alone. -/
  ignoresValue : Bool
  /-- The comparison for a column and a value. -/
  apply : Operator.Input → Except QueryError Comparison

namespace Operator

/-- Whether an operator takes a column of one type with a value of another. -/
def supports (op : Operator) (fieldType valueType : ScalarType) : Bool :=
  op.fieldTypes.contains fieldType && op.valueTypes.contains valueType

namespace Input

/-- The rejection of a value, with its column. -/
def rejected (input : Input) (target : ScalarType) (reason : Rejection) : QueryError :=
  .coercion input.value.text target (some input.column) reason

end Input

end Operator

end FilterQuery
