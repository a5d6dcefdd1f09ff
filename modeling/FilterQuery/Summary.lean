import FilterQuery.Engine
import FilterQuery.Sql.Rendering

/-!
# Summaries

One-line summaries of operators, catalogs and engines for logs and failed checks. A summary names
what it shows and lists the fields that can be shown; two dots stand for those that cannot.
-/

namespace FilterQuery

namespace Summary

/-- Some summaries between brackets. -/
def list (items : List String) : String := "[" ++ ", ".intercalate items ++ "]"

/-- The summary of a record: its name and its fields. -/
def record (name : String) (fields : List (String × String)) (complete : Bool) : String :=
  let shown := fields.map fun (field, value) => field ++ ": " ++ value
  let all := if complete then shown else shown ++ [".."]
  name ++ " \x7b " ++ ", ".intercalate all ++ " \x7d"

/-- The summary of a truth value. -/
def flag (b : Bool) : String := if b then "true" else "false"

end Summary

open Summary

/-- The summary of a type. -/
def ScalarType.summary : ScalarType → String
  | .string => "String"
  | .boolean => "Boolean"
  | .date => "Date"
  | .numeric => "Numeric"

/-- The summary of a policy. -/
def Placeholder.Policy.summary : Policy → String
  | .strict => "Strict"
  | .lenient => "Lenient"

/-- The summary of a dialect. -/
def Sql.Dialect.summary : Dialect → String
  | .postgres => "Postgres"
  | .sqlServer => "SqlServer"

namespace Operator

/-- What an operator declares: its name and the types it takes. -/
def declared (op : Operator) : List (String × String) := [
  ("name", Text.display op.name),
  ("field_types", list (op.fieldTypes.map (·.summary))),
  ("value_types", list (op.valueTypes.map (·.summary)))]

/-- The summary of an operator in a catalog. -/
def summary (op : Operator) : String :=
  record "OperatorDescriptor"
    (op.declared ++ [("description", Text.display op.description),
      ("ignores_value", flag op.ignoresValue)]) false

/-- The summary of an operator before it is registered. -/
def registrationSummary (op : Operator) : String := record "OperatorRegistration" op.declared false

/-- The summary of an operator resolved for a leaf. -/
def Resolved.summary (r : Resolved) : String :=
  record "ResolvedOperator"
    [("value_type", r.valueType.summary), ("ignores_value", flag r.operator.ignoresValue)] false

end Operator

/-- The summary of a catalog. -/
def Catalog.summary (c : Catalog) : String :=
  record "OperatorCatalog" [("operators", Text.naturalText c.size ++ " operators")] true

/-- The summary of the registered placeholders. -/
def Placeholder.Registry.summary (r : Registry) : String :=
  record "PlaceholderRegistry" [("placeholders", list (r.names.map Text.display))] true

/-- The summary of a registry with its policy. -/
def Placeholder.Substitution.summary (p : Substitution) : String :=
  record "PlaceholderResolver"
    [("registry", p.registry.summary), ("policy", p.policy.summary)] true

/-- The summary of an engine. -/
def Engine.summary {m : Type → Type} {Condition : Type} (e : Engine m Condition) : String :=
  record "QueryEngine"
    [("catalog", e.catalog.summary), ("placeholders", e.substitution.summary)] false

end FilterQuery
