import FilterQuery.Operator.Registration
import FilterQuery.Operator.Rule

/-!
# The built-in operators

Twenty-one operators: equality and order, patterns, null tests, components of dates, and dates
relative to today. `Catalog.builtin` holds all of them.
-/

namespace FilterQuery

namespace Operator

/-- All types, in the order in which equality declares them. -/
def anyType : List ScalarType := [.string, .numeric, .boolean, .date]

/-- The types whose values have an order. -/
def orderedTypes : List ScalarType := [.numeric, .date]

/-- An operator that compares columns of some types with values of the same types. -/
def comparing (name : String) (types : List ScalarType) (relation : Relation)
    (description : String) : Operator :=
  ⟨name, types, types, description, false, direct relation⟩

/-- An operator that matches text against a pattern. -/
def matching (name : String) (make : String → String) (description : String) : Operator :=
  ⟨name, [.string], [.string], description, false, pattern name make⟩

/-- An operator that looks at the column alone. -/
def testing (name : String) (relation : Relation) (description : String) : Operator :=
  ⟨name, anyType, anyType, description, true, ofColumn relation⟩

/-- An operator that compares a component of a date. -/
def extracting (name : String) (relation : Relation) (bounds : Option Bounds)
    (description : String) : Operator :=
  ⟨name, [.date], [.numeric], description, false, component name relation bounds⟩

/-- An operator that counts days, months or years between today and a date. -/
def counting (name : String) (span : Calendar.Span) (direction : Direction)
    (description : String) : Operator :=
  ⟨name, [.date], [.numeric], description, false, relativeDate name span direction⟩

/-- The built-in operators in the order in which they are listed. -/
def builtin : List Operator := [
  comparing "equals" anyType .eq "Checks if a field equals the given value",
  comparing "notEquals" anyType .ne "Checks if a field does not equal the given value",
  comparing "greaterThan" orderedTypes .gt
    "Checks if a field is strictly greater than the given value",
  comparing "greaterThanEqual" orderedTypes .ge
    "Checks if a field is greater than or equal to the given value",
  comparing "lessThan" orderedTypes .lt "Checks if a field is strictly less than the given value",
  comparing "lessThanEqual" orderedTypes .le
    "Checks if a field is less than or equal to the given value",
  matching "like" id "Checks if a string field matches the given pattern",
  matching "startsWith" (· ++ "%") "Checks if a string field starts with a given pattern",
  matching "endsWith" ("%" ++ ·) "Checks if a string field ends with a given pattern",
  testing "isNull" .isNull "Checks if a field is null",
  testing "isNotNull" .isNotNull "Checks if a field is not null",
  extracting "dayEqual" .dayEq (some ⟨1, 31⟩)
    "Checks if the day component of a date field equals the specified day of the month",
  extracting "monthEqual" .monthEq (some ⟨1, 12⟩)
    "Checks if the month component of a date field equals the specified month",
  extracting "yearEqual" .yearEq none
    "Checks if the year component of a date field equals the specified year",
  extracting "dayOfWeek" .dayOfWeekEq (some ⟨1, 7⟩)
    ("Checks if the day component of a date field equals the specified day of the week, " ++
      "where Monday=1 and Sunday=7"),
  counting "daysBefore" .days .before
    "Checks if today is a given number of days before a date field",
  counting "daysAfter" .days .after
    "Checks if today is a given number of days after a date field",
  counting "monthsBefore" .months .before
    "Checks if today is a given number of months before a date field",
  counting "monthsAfter" .months .after
    "Checks if today is a given number of months after a date field",
  counting "yearsBefore" .years .before
    "Checks if today is a given number of years before a date field",
  counting "yearsAfter" .years .after
    "Checks if today is a given number of years after a date field"]

end Operator

/-- The catalog of the built-in operators. -/
def Catalog.builtin : Catalog := Operator.builtin.foldl register empty

/-- None of the built-in operators has a flaw. -/
theorem Catalog.registerAll_builtin : empty.registerAll Operator.builtin = .ok builtin := by
  have h : Operator.builtin.findSome? RegistrationError.of? = none := by decide +kernel
  rw [registerAll, h]
  rfl

end FilterQuery
