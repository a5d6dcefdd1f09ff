import FilterQuery.Placeholder.Substitution
import FilterQuery.Sql.Dialect

/-!
# Settings

What a settings file may fix for every command: the user, the policy for unknown placeholders, how
conditions are written, and how much is logged.
-/

namespace FilterQuery

/-- The settings. -/
structure Settings where
  /-- The user of requests that name none. -/
  defaultUser : String
  /-- What becomes of unknown placeholders. -/
  policy : Placeholder.Policy
  /-- The dialect of conditions. -/
  dialect : Sql.Dialect
  /-- The table of statements; without one a condition stands alone. -/
  table : Option String
  /-- Whether conditions are written as an outline. -/
  pretty : Bool
  /-- How much is logged. -/
  verbosity : Nat
  deriving DecidableEq

namespace Settings

/-- The settings where no file says otherwise. -/
def standard : Settings := ⟨"anonymous", .strict, .postgres, none, false, 0⟩

/-- The highest verbosity that means something. -/
def maxVerbosity : Nat := 3

/-- What makes settings unusable. -/
inductive Flaw where
  /-- The default user is blank. -/
  | blankUser
  /-- The verbosity is too high. -/
  | verbosityTooHigh (verbosity : Nat)
  /-- The table is blank. -/
  | blankTable
  deriving DecidableEq

/-- A flaw in words. -/
def Flaw.message : Flaw → String
  | .blankUser => "placeholders.default_user cannot be empty"
  | .verbosityTooHigh verbosity =>
    "debug.verbosity must be between 0 and " ++ Text.naturalText maxVerbosity ++ ", got " ++
      Text.naturalText verbosity
  | .blankTable => "output.table cannot be blank; remove it to print bare conditions"

/-- The first flaw of settings. -/
def flaw? (s : Settings) : Option Flaw :=
  if Text.isBlankText s.defaultUser then some .blankUser
  else if maxVerbosity < s.verbosity then some (.verbosityTooHigh s.verbosity)
  else match s.table with
    | some table => if Text.isBlankText table then some .blankTable else none
    | none => none

end Settings

end FilterQuery
