import FilterQuery.Json.Pretty
import FilterQuery.Operator.Catalog

/-!
# Lists of operators

Operators are listed for people, one a line in columns, or as JSON.
-/

namespace FilterQuery.CommandLine

/-- A text with spaces behind it up to a width. -/
def padEnd (width : Nat) (s : String) : String :=
  s ++ String.ofList (List.replicate (width - s.length) ' ')

/-- The width of the columns of types. -/
def typesWidth : Nat := 30

/-- The names of some types. -/
def typeNames (types : List ScalarType) : List String := types.map (·.name)

/-- The line of an operator behind a column of names. -/
def operatorLine (width : Nat) (op : Operator) : String :=
  padEnd width op.name ++
    "  fields: " ++ padEnd typesWidth (",".intercalate (typeNames op.fieldTypes)) ++
    "  values: " ++ padEnd typesWidth (",".intercalate (typeNames op.valueTypes)) ++
    "  " ++ op.description ++ "\n"

/-- Operators in columns. -/
def operatorTable (ops : List Operator) : String :=
  let width := (ops.map (·.name.length)).foldl max 0
  String.join (ops.map (operatorLine width))

/-- An operator as JSON. -/
def operatorJson (op : Operator) : Json :=
  .object [
    ("name", .string op.name),
    ("field_types", .array ((typeNames op.fieldTypes).map .string)),
    ("value_types", .array ((typeNames op.valueTypes).map .string)),
    ("description", .string op.description),
    ("ignores_value", .bool op.ignoresValue)]

/-- Operators as JSON. -/
def operatorsJson (ops : List Operator) : String :=
  (Json.array (ops.map operatorJson)).pretty ++ "\n"

end FilterQuery.CommandLine
