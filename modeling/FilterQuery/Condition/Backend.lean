import FilterQuery.Comparison
import FilterQuery.Query.Basic

/-!
# Backends

A backend makes conditions: one of each comparison, and one of each two that are joined. What a
condition is stays its own affair. Making one may have effects, which run in the order in which the
backend is asked.
-/

namespace FilterQuery

/-- Something that makes conditions. -/
structure Backend (m : Type → Type) (Condition : Type) where
  /-- The condition of a comparison. -/
  compare : Comparison → m Condition
  /-- The condition that joins two. -/
  join : Connective → Condition → Condition → m Condition
  /-- A condition in the words of the backend. -/
  render : Condition → String

end FilterQuery
