import FilterQuery.Operator.Catalog

/-!
# Resolving operators

A leaf names an operator and the type of its column. Resolution finds the operator and settles the
type that the value has to become: the type of the column where the operator takes values of it, and
otherwise the first type that the operator declares.
-/

namespace FilterQuery

/-- An operator with the type that its value has to have. -/
structure Operator.Resolved where
  /-- The operator. -/
  operator : Operator
  /-- The type of the value. -/
  valueType : ScalarType

namespace Catalog

/-- The operator of a name that takes a column of one type with a value of another. -/
def bind (c : Catalog) (name : String) (fieldType valueType : ScalarType) :
    Except QueryError Operator.Resolved :=
  match c.lookup? name fieldType valueType with
  | some op => .ok ⟨op, valueType⟩
  | none => .error (.typeMismatch name fieldType valueType)

/-- The type that the value for a column of a type takes, if values of any type are taken. -/
def preferredType? (fieldType : ScalarType) (valueTypes : List ScalarType) : Option ScalarType :=
  if valueTypes.contains fieldType then some fieldType else valueTypes.head?

/-- The operator of a name for columns of a type. -/
def resolve (c : Catalog) (name : String) (fieldType : ScalarType) :
    Except QueryError Operator.Resolved :=
  match preferredType? fieldType (c.valueTypes name) with
  | some valueType => c.bind name fieldType valueType
  | none => .error (.unknownOperator name)

/-- The operator of a name for columns of one type and values of another. -/
def resolveAs (c : Catalog) (name : String) (fieldType valueType : ScalarType) :
    Except QueryError Operator.Resolved :=
  if c.contains name then c.bind name fieldType valueType else .error (.unknownOperator name)

end Catalog

end FilterQuery
