import FilterQuery.Calendar.Text
import FilterQuery.Dictionary
import FilterQuery.QueryError

/-!
# The context of a request

What a request knows about itself: who asks, which day it is, and the values that it pins to
placeholders. A value pinned to `today` is also the date from which relative operators count.
-/

namespace FilterQuery.Placeholder

/-- The placeholder whose value is a date to count from. -/
def todayName : String := "today"

/-- The context of a request. -/
structure Context where
  /-- The user who asks. -/
  user : String
  /-- The day of the request. -/
  today : Date
  /-- The values pinned to placeholders, by name. -/
  overrides : List (String × String)

namespace Context

/-- A context in which nothing is pinned. -/
def of (user : String) (today : Date) : Context := ⟨user, today, []⟩

/-- The context with a value pinned to a placeholder. -/
def withOverride (c : Context) (name value : String) : Context :=
  { c with overrides := Dictionary.insert name value c.overrides }

/-- The value pinned to a placeholder. -/
def override? (c : Context) (name : String) : Option String := Dictionary.find? name c.overrides

/-- The date from which relative operators count. -/
def evaluationDate (c : Context) : Except QueryError Date :=
  match c.override? todayName with
  | none => .ok c.today
  | some text =>
    match Date.ofText? text with
    | some d => .ok d
    | none => .error (.rejected text .date .todayNotDate)

end Context

end FilterQuery.Placeholder
