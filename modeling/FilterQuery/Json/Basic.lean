import FilterQuery.Binary64.Basic
import FilterQuery.Dictionary

/-!
# JSON values

The tree that query texts decode to. A number is a whole number of 64 bits or a binary floating
point number. An object that is read from a text lists its members by ascending key, one member a
key; `ofMembers` is the way to make such an object.
-/

namespace FilterQuery

/-- A JSON number. Whole numbers written without fraction and exponent stay exact as long as they
fit 64 bits, the negative ones with a sign bit; every other number is binary floating point. -/
inductive Json.Number where
  /-- A whole number. -/
  | whole (n : Int)
  /-- A floating point number. -/
  | double (x : Binary64)
  deriving DecidableEq

/-- A JSON value. -/
inductive Json where
  /-- `null`. -/
  | null
  /-- `true` or `false`. -/
  | bool (b : Bool)
  /-- A number. -/
  | number (n : Json.Number)
  /-- A text. -/
  | string (s : String)
  /-- The items of an array. -/
  | array (items : List Json)
  /-- The members of an object. -/
  | object (members : List (String × Json))
  deriving Inhabited, BEq

namespace Json

/-- The whole numbers that a JSON number holds exactly. -/
def IsWhole (n : Int) : Prop := -0x8000000000000000 ≤ n ∧ n ≤ 0xffffffffffffffff

instance (n : Int) : Decidable (IsWhole n) := inferInstanceAs (Decidable (_ ∧ _))

/-- An object from members in any order. Of two members of one key the later one counts. -/
def ofMembers (members : List (String × Json)) : Json := .object (Dictionary.ofList members)

/-- A value that is neither an array nor an object. -/
def isScalar : Json → Bool
  | .array _ | .object _ => false
  | _ => true

end Json

end FilterQuery
