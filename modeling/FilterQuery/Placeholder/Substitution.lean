import FilterQuery.Placeholder.Registry

/-!
# Substituting placeholders

A string is a placeholder when it is one bracketed name and nothing else. Substitution replaces
every placeholder among the strings of a JSON value, never a key, by its value, and does not look at
the value again. A policy tells what becomes of a placeholder without value.
-/

namespace FilterQuery.Placeholder

/-- A character that ends a bracketed name. -/
def isBracket (c : Char) : Bool := c = '[' || c = ']'

/-- The name of a placeholder. -/
def name? (s : String) : Option String :=
  match s.toList with
  | '[' :: cs =>
    let name := cs.takeWhile (!isBracket ·)
    if name.isEmpty then none
    else match cs.dropWhile (!isBracket ·) with
      | [']'] => some (String.ofList name)
      | _ => none
  | _ => none

/-- What becomes of a placeholder without value. -/
inductive Policy where
  /-- It is an error. -/
  | strict
  /-- It stays. -/
  | lenient
  deriving DecidableEq, Repr

namespace Policy

/-- The name of a policy. -/
def name : Policy → String
  | .strict => "strict"
  | .lenient => "lenient"

/-- The policy of a name in letters of any case. -/
def ofName? (s : String) : Option Policy :=
  let word := s.toLower
  if word = "strict" then some .strict else if word = "lenient" then some .lenient else none

/-- What is said of a name that belongs to no policy. -/
def unknownName (s : String) : String :=
  "unknown placeholder policy '" ++ s.toLower ++ "', expected strict or lenient"

end Policy

/-- A registry with a policy. -/
structure Substitution where
  /-- The placeholders that have a value. -/
  registry : Registry
  /-- What becomes of the others. -/
  policy : Policy

namespace Substitution

/-- What stands for a string. -/
def ofString (p : Substitution) (c : Context) (s : String) : Except QueryError String :=
  match name? s with
  | none => .ok s
  | some name =>
    match p.registry.lookup? c name with
    | some value => .ok value
    | none =>
      match p.policy with
      | .strict => .error (.unresolvedPlaceholder name)
      | .lenient => .ok s

mutual

/-- A JSON value with the values of its placeholders. -/
def apply (p : Substitution) (c : Context) : Json → Except QueryError Json
  | .string s => (p.ofString c s).map .string
  | .array items => (p.applyToItems c items).map .array
  | .object members => (p.applyToMembers c members).map .object
  | .null => .ok .null
  | .bool b => .ok (.bool b)
  | .number n => .ok (.number n)

/-- The items of an array with the values of their placeholders. -/
def applyToItems (p : Substitution) (c : Context) : List Json → Except QueryError (List Json)
  | [] => .ok []
  | j :: rest => do
    let j ← p.apply c j
    return j :: (← p.applyToItems c rest)

/-- The members of an object with the values of their placeholders. -/
def applyToMembers (p : Substitution) (c : Context) :
    List (String × Json) → Except QueryError (List (String × Json))
  | [] => .ok []
  | (key, j) :: rest => do
    let j ← p.apply c j
    return (key, j) :: (← p.applyToMembers c rest)

end

end Substitution

end FilterQuery.Placeholder
