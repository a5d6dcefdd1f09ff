import FilterQuery.Operator.Catalog

/-!
# Registering operators together

A list of operators enters a catalog as a whole: every one of them is checked before the first is
registered, so that a flaw in one leaves the catalog as it was.
-/

namespace FilterQuery

/-- What makes an operator unfit for a catalog. -/
inductive Operator.Flaw where
  /-- The name is blank. -/
  | blankName
  /-- The name holds a blank. -/
  | blankInName
  /-- No type is declared for a role: `field` or `value`. -/
  | noTypes (role : String)
  /-- A type is declared twice for a role. -/
  | repeatedType (role : String) (type : ScalarType)
  deriving DecidableEq

/-- A flaw in words. -/
def Operator.Flaw.message : Operator.Flaw → String
  | .blankName => "name cannot be empty"
  | .blankInName => "name cannot contain whitespace"
  | .noTypes role => "no supported " ++ role ++ " types declared"
  | .repeatedType role type => role ++ " type " ++ type.name ++ " declared twice"

/-- The first type in a list that occurs among those before it. -/
def ScalarType.firstRepeated? (seen : List ScalarType) : List ScalarType → Option ScalarType
  | [] => none
  | t :: rest => if seen.contains t then some t else firstRepeated? (t :: seen) rest

namespace Operator

/-- The flaw of a list of types declared for a role. -/
def typesFlaw? (role : String) (types : List ScalarType) : Option Flaw :=
  if types.isEmpty then some (.noTypes role)
  else (ScalarType.firstRepeated? [] types).map (.repeatedType role)

/-- The first flaw of an operator: of its name, of the types of columns, of the types of values. -/
def flaw? (op : Operator) : Option Flaw :=
  if Text.isBlankText op.name then some .blankName
  else if op.name.toList.any Text.isBlank then some .blankInName
  else typesFlaw? "field" op.fieldTypes <|> typesFlaw? "value" op.valueTypes

end Operator

/-- An operator that no catalog takes, and why. -/
structure RegistrationError where
  /-- The name of the operator. -/
  operator : String
  /-- Its first flaw. -/
  flaw : Operator.Flaw
  deriving DecidableEq

namespace RegistrationError

/-- The error of an operator with a flaw. -/
def of? (op : Operator) : Option RegistrationError := op.flaw?.map (⟨op.name, ·⟩)

/-- An error in words. -/
def message (e : RegistrationError) : String :=
  "Operator '" ++ e.operator ++ "' cannot be registered: " ++ e.flaw.message

end RegistrationError

/-- The catalog with all of some operators, or the first one that has a flaw. -/
def Catalog.registerAll (c : Catalog) (ops : List Operator) : Except RegistrationError Catalog :=
  match ops.findSome? RegistrationError.of? with
  | some e => .error e
  | none => .ok (ops.foldl register c)

end FilterQuery
