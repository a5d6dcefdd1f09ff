import FilterQuery.Scalar.Basic

/-!
# Why a query is refused

Every failure is a fault of the request: of the JSON, of the tree it holds, of an operator's name or
types, or of a value. An error records its cause; `message` is the one place where causes are put
into words.
-/

namespace FilterQuery

/-- Why a text or a JSON value is not a query. -/
inductive Malformation where
  /-- The text holds nothing but blanks. -/
  | blankText
  /-- The text is not JSON. -/
  | notJson
  /-- The tree is deeper than a limit. -/
  | tooDeep (limit : Nat)
  /-- A value of the wrong kind stands in a place. -/
  | wrongKind (found expected : String)
  /-- A value of the right kind has the wrong content. -/
  | wrongContent (found expected : String)
  /-- A member that a node needs is missing. -/
  | missingMember (name : String)
  /-- A member is given twice, under two of its names. -/
  | repeatedMember (name : String)
  /-- A name is none of the known ones. -/
  | unknownName (name : String) (known : List String)
  /-- An array has too few or too many items. -/
  | wrongLength (found : Nat) (expected : String)
  /-- The column of a leaf is blank. -/
  | blankColumn (kind : String)
  /-- The operator of a leaf is blank. -/
  | blankOperator (kind column : String)
  /-- The value of a leaf is an array or an object. -/
  | valueNotScalar (kind column : String)
  /-- A reason in words of its own. -/
  | stated (reason : String)
  deriving DecidableEq

/-- A cause in words. -/
def Malformation.message : Malformation → String
  | .blankText => "query JSON cannot be empty"
  | .notJson => "the text is not valid JSON"
  | .tooDeep limit => "query nesting exceeds " ++ Text.naturalText limit ++ " levels"
  | .wrongKind found expected => "invalid type: " ++ found ++ ", expected " ++ expected
  | .wrongContent found expected => "invalid value: " ++ found ++ ", expected " ++ expected
  | .missingMember name => "missing field `" ++ name ++ "`"
  | .repeatedMember name => "duplicate field `" ++ name ++ "`"
  | .unknownName name known =>
    "unknown variant `" ++ name ++ "`, expected one of " ++
      ", ".intercalate (known.map fun k => "`" ++ k ++ "`")
  | .wrongLength found expected =>
    "invalid length " ++ Text.naturalText found ++ ", expected " ++ expected
  | .blankColumn kind => kind ++ ": column cannot be empty"
  | .blankOperator kind column => kind ++ " on column '" ++ column ++ "': operator cannot be empty"
  | .valueNotScalar kind column =>
    kind ++ " on column '" ++ column ++ "': value must be a scalar or null"
  | .stated reason => reason

/-- Why a value does not become one of the type that is asked for. -/
inductive Rejection where
  /-- An array or an object stands where a single value belongs. -/
  | notScalar
  /-- A text is not one of the words for a truth value. -/
  | notTruthWord
  /-- A value is no truth value at all. -/
  | notBoolean
  /-- A text looks like a date, but there is no such day. -/
  | noSuchDay
  /-- A value is neither a date nor a number. -/
  | notDateOrNumber
  /-- A number is too large for a decimal. -/
  | numberOutOfRange
  /-- A text does not denote a decimal. -/
  | notDecimal
  /-- A value is not a number. -/
  | notNumber
  /-- The date that a request gives for today is not one. -/
  | todayNotDate
  /-- An operator takes only text. -/
  | textRequired (operator : String)
  /-- An operator takes only numbers. -/
  | numberRequired (operator : String)
  /-- An operator takes only whole numbers. -/
  | wholeRequired (operator : String)
  /-- A number is too large for an operator. -/
  | outOfRange (operator : String)
  /-- A number lies outside the bounds of an operator. -/
  | outOfBounds (operator : String) (least greatest : Int)
  /-- An operator leaves the calendar. -/
  | leavesCalendar (operator : String)
  /-- A reason in words of its own. -/
  | stated (reason : String)
  deriving DecidableEq

/-- A reason in words. -/
def Rejection.message : Rejection → String
  | .notScalar => "expected a scalar value"
  | .notTruthWord => "expected true, false or null"
  | .notBoolean => "expected a boolean"
  | .noSuchDay => "not a valid calendar date"
  | .notDateOrNumber => "expected YYYY-MM-DD or a number"
  | .numberOutOfRange => "number out of range"
  | .notDecimal => "not a decimal number"
  | .notNumber => "expected a number"
  | .todayNotDate => "the today override is not a YYYY-MM-DD date"
  | .textRequired operator => operator ++ " requires a text value"
  | .numberRequired operator => operator ++ " requires a number"
  | .wholeRequired operator => operator ++ " requires a whole number"
  | .outOfRange operator => operator ++ " value is out of range"
  | .outOfBounds operator least greatest =>
    operator ++ " expects a value between " ++ Text.integerText least ++ " and " ++
      Text.integerText greatest
  | .leavesCalendar operator => operator ++ " moves the date out of range"
  | .stated reason => reason

/-- Why a query gives no condition. -/
inductive QueryError where
  /-- The input is not a query. -/
  | malformed (cause : Malformation)
  /-- No operator has the name. -/
  | unknownOperator (operator : String)
  /-- An operator does not take a column of one type with a value of another. -/
  | typeMismatch (operator : String) (fieldType valueType : ScalarType)
  /-- A node that joins others has none to join. -/
  | emptyComposite (node : String)
  /-- A value does not become one of the type that is asked for; the column is named where it is
  known. -/
  | coercion (value : String) (target : ScalarType) (column : Option String) (reason : Rejection)
  /-- A placeholder has no value. -/
  | unresolvedPlaceholder (name : String)
  deriving DecidableEq

namespace QueryError

/-- A rejected value whose column is not known yet. -/
def rejected (value : String) (target : ScalarType) (reason : Rejection) : QueryError :=
  .coercion value target none reason

/-- The error with a column, where it needs one and has none. -/
def withColumn (column : String) : QueryError → QueryError
  | .coercion value target none reason => .coercion value target (some column) reason
  | e => e

/-- An error in words. -/
def message : QueryError → String
  | .malformed cause => "Malformed query: " ++ cause.message
  | .unknownOperator operator => "Unknown operator '" ++ operator ++ "'"
  | .typeMismatch operator fieldType valueType =>
    "Operator '" ++ operator ++ "' does not support field type " ++ fieldType.name ++
      " with value type " ++ valueType.name
  | .emptyComposite node => node ++ " requires at least one child"
  | .coercion value target column reason =>
    let place := match column with
      | some column => " for column '" ++ column ++ "'"
      | none => ""
    "Cannot coerce " ++ value ++ " to " ++ target.name ++ place ++ ": " ++ reason.message
  | .unresolvedPlaceholder name => "No resolver registered for placeholder '[" ++ name ++ "]'"

/-- The first column given to an error stays. -/
theorem withColumn_withColumn (e : QueryError) (first second : String) :
    (e.withColumn first).withColumn second = e.withColumn first := by
  cases e with
  | coercion value target column reason => cases column <;> rfl
  | _ => rfl

end QueryError

end FilterQuery
