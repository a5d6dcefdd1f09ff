import FilterQuery.Placeholder.Context

/-!
# Registered placeholders

A registry gives placeholders a value for every context. What a context pins to a placeholder wins
over the registry.
-/

namespace FilterQuery.Placeholder

/-- How a placeholder gets its value. -/
abbrev Resolver := Context → String

/-- The placeholders that have a value, by name. -/
structure Registry where
  /-- The resolvers in the order of the names. -/
  resolvers : List (String × Resolver)

namespace Registry

/-- The registry without placeholders. -/
def empty : Registry := ⟨[]⟩

/-- The registry with one more placeholder, or with another resolver for it. -/
def register (r : Registry) (name : String) (resolver : Resolver) : Registry :=
  ⟨Dictionary.insert name resolver r.resolvers⟩

/-- The registry of `me`, the user, and `today`, the day of the request. -/
def builtin : Registry :=
  (empty.register "me" (·.user)).register todayName (·.today.text)

/-- Whether a placeholder is registered. -/
def contains (r : Registry) (name : String) : Bool := Dictionary.contains name r.resolvers

/-- The registered names in their order. -/
def names (r : Registry) : List String := Dictionary.keys r.resolvers

/-- The value of a placeholder in a context. -/
def lookup? (r : Registry) (c : Context) (name : String) : Option String :=
  c.override? name <|> (Dictionary.find? name r.resolvers).map (· c)

end Registry

end FilterQuery.Placeholder
