import FilterQuery.Calendar.Shift
import FilterQuery.Operator.Basic

/-!
# Rules of operators

The ways in which operators make comparisons: of the value as it is, of a pattern around a text, of
a component of a date, of a date some time from today. Each rule names the operator it belongs to,
because its rejections do.
-/

namespace FilterQuery.Operator

namespace Input

/-- The value as text. -/
def requireText (input : Input) (operator : String) : Except QueryError String :=
  match input.value with
  | .string s => .ok s
  | _ => .error (input.rejected .string (.textRequired operator))

/-- The value as a whole number of 64 bits. -/
def requireWhole (input : Input) (operator : String) : Except QueryError Word :=
  match input.value with
  | .numeric d =>
    if d.isWhole then
      match Word.of? d.truncate with
      | some n => .ok n
      | none => .error (input.rejected .numeric (.outOfRange operator))
    else .error (input.rejected .numeric (.wholeRequired operator))
  | _ => .error (input.rejected .numeric (.numberRequired operator))

end Input

/-- Bounds for the component of a date. -/
structure Bounds where
  /-- The least value. -/
  least : Int
  /-- The greatest value. -/
  greatest : Int

/-- Whether a number keeps within bounds. -/
def Bounds.contain (b : Bounds) (n : Int) : Bool := b.least ≤ n && n ≤ b.greatest

/-- Compares the column with the value as it is. -/
def direct (relation : Relation) (input : Input) : Except QueryError Comparison :=
  .ok ⟨input.column, relation, input.value⟩

/-- Asks for a property of the column alone. -/
def ofColumn (relation : Relation) (input : Input) : Except QueryError Comparison :=
  .ok (.unary input.column relation)

/-- Matches the column against a pattern made of the value. -/
def pattern (operator : String) (make : String → String) (input : Input) :
    Except QueryError Comparison := do
  let text ← input.requireText operator
  return ⟨input.column, .like, .string (make text)⟩

/-- Compares a component of the column with a whole number, within bounds where there are any. -/
def component (operator : String) (relation : Relation) (bounds : Option Bounds)
    (input : Input) : Except QueryError Comparison := do
  let n ← input.requireWhole operator
  let comparison : Comparison := ⟨input.column, relation, .numeric (.ofWord n)⟩
  match bounds with
  | none => return comparison
  | some b =>
    if b.contain n.toInt then return comparison
    else throw (input.rejected .numeric (.outOfBounds operator b.least b.greatest))

/-- In which direction a count leads from today. -/
inductive Direction where
  /-- Today comes before the date. -/
  | before
  /-- Today comes after the date. -/
  | after
  deriving DecidableEq, Repr

/-- The sign of a direction. -/
def Direction.sign : Direction → Int
  | .before => 1
  | .after => -1

/-- Asks for the date that lies the value's number of days, months or years from today. -/
def relativeDate (operator : String) (span : Calendar.Span) (direction : Direction)
    (input : Input) : Except QueryError Comparison := do
  let n ← input.requireWhole operator
  match (n.times? direction.sign).bind (input.today.shift? span) with
  | some d => return ⟨input.column, .dateEq, .date d⟩
  | none => throw (input.rejected .numeric (.leavesCalendar operator))

end FilterQuery.Operator
