import FilterQuery.Json.Nesting
import FilterQuery.Json.Reader
import FilterQuery.Query.Reading
import FilterQuery.Query.Validation

/-!
# From text to query

`ofJson` bounds the nesting of a JSON value before it looks at it, reads the query, and checks that
it is well formed. `parse` does the same for text.
-/

namespace FilterQuery.Query

/-- The deepest JSON that can hold a query: each level of a query takes an object, and each level
but the last an array for its children. -/
def maxNesting : Nat := 2 * maxDepth

/-- The query of a JSON value. -/
def ofJson (j : Json) : Except QueryError Query :=
  if Json.nestsWithin maxNesting [(j, 1)] then
    match read j with
    | .error e => .error (.malformed e)
    | .ok q => (q.validate).map fun _ => q
  else .error (.malformed (.tooDeep maxDepth))

/-- The JSON of a text that is not blank. -/
def decode (text : String) : Except QueryError Json :=
  if Text.isBlankText text then .error (.malformed .blankText)
  else match Json.parse? text with
    | some j => .ok j
    | none => .error (.malformed .notJson)

/-- The query of a text. -/
def parse (text : String) : Except QueryError Query := do
  ofJson (← decode text)

end FilterQuery.Query
