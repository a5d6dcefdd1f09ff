import FilterQuery.Sql.Condition

/-!
# Conditions as text

A comparison is written by a template of the dialect. Every operand of a join stands in parentheses,
and operands associate to the left: three of them under AND are `((a) AND (b)) AND (c)`. The writer
is a machine with a list of steps and a stack of finished texts.
-/

namespace FilterQuery.Sql

namespace Dialect

/-- A comparison as text. Equality with null asks whether the column is null. -/
def renderComparison (d : Dialect) (c : Comparison) : String :=
  let column := d.quote c.column
  let literal := d.literal c.value
  match c.relation with
  | .eq => if c.value = .null then column ++ " IS NULL" else column ++ " = " ++ literal
  | .ne => if c.value = .null then column ++ " IS NOT NULL" else column ++ " <> " ++ literal
  | .gt => column ++ " > " ++ literal
  | .ge => column ++ " >= " ++ literal
  | .lt => column ++ " < " ++ literal
  | .le => column ++ " <= " ++ literal
  | .like => column ++ " LIKE " ++ literal
  | .isNull => column ++ " IS NULL"
  | .isNotNull => column ++ " IS NOT NULL"
  | .dayEq => d.dayOfMonth column ++ " = " ++ literal
  | .monthEq => d.month column ++ " = " ++ literal
  | .yearEq => d.year column ++ " = " ++ literal
  | .dayOfWeekEq => d.dayOfWeek column ++ " = " ++ literal
  | .dateEq => "CAST(" ++ column ++ " AS DATE) = " ++ literal

end Dialect

/-- Two operands in parentheses with a keyword between them. -/
def joinTexts (keyword left right : String) : String :=
  "(" ++ left ++ ") " ++ keyword ++ " (" ++ right ++ ")"

/-- Operands joined one by one from the left: one alone stands as it is, and none give the empty
text. -/
def foldTexts (keyword : String) : List String → String
  | [] => ""
  | first :: rest => rest.foldl (joinTexts keyword) first

/-- The operands behind the first one. Each but the last ends a join that is itself an operand. -/
def followers (keyword : String) : List String → List String
  | [] => []
  | [last] => [" " ++ keyword ++ " (" ++ last ++ ")"]
  | operand :: rest => (" " ++ keyword ++ " (" ++ operand ++ "))") :: followers keyword rest

/-- Operands joined from the left in one pass: the parentheses that open joins all stand in
front. -/
def chainTexts (keyword : String) : List String → String
  | [] => ""
  | [only] => only
  | first :: rest =>
    String.join (List.replicate rest.length "(") ++ first ++ ")" ++
      String.join (followers keyword rest)

/-- Writing a chain of joins in one pass gives what joining one by one does. -/
theorem chainTexts_eq_foldTexts (keyword : String) (texts : List String) :
    chainTexts keyword texts = foldTexts keyword texts := by
  have hclose : (") " : String) = ")" ++ " " := by decide
  have htwo : ("))" : String) = ")" ++ ")" := by decide
  cases texts with
  | nil => rfl
  | cons first rest =>
    induction rest generalizing first with
    | nil => rfl
    | cons operand rest ih =>
      cases rest with
      | nil =>
        simp only [chainTexts, foldTexts, followers, joinTexts, hclose, String.join_cons,
          String.join_nil, String.append_assoc, List.length_cons, List.length_nil,
          List.replicate_succ, List.replicate_zero, List.foldl_cons, List.foldl_nil,
          String.append_empty]
      | cons next rest =>
        rw [foldTexts, List.foldl_cons, ← foldTexts, ← ih]
        simp only [chainTexts, followers, joinTexts, hclose, htwo, String.join_cons,
          String.join_append, String.join_nil, List.length_cons, List.replicate_succ',
          String.append_assoc, String.empty_append]

/-- A step of the writer. -/
inductive Step where
  /-- Write a condition. -/
  | visit (c : Condition)
  /-- Join the last texts, so many of them, by a keyword. -/
  | join (keyword : String) (count : Nat)

/-- The number of steps that a step comes to, with itself. -/
def Step.cost : Step → Nat
  | .visit c => 2 * c.size
  | .join _ _ => 1

/-- The number of steps that some steps come to. -/
def Step.costOfAll : List Step → Nat
  | [] => 0
  | s :: rest => s.cost + costOfAll rest

/-- The steps that write some conditions. -/
def Step.visits (cs : List Condition) : List Step := cs.map .visit

theorem Step.costOfAll_append (xs ys : List Step) :
    costOfAll (xs ++ ys) = costOfAll xs + costOfAll ys := by
  induction xs with
  | nil => simp [costOfAll]
  | cons x xs ih => simp [costOfAll, ih, Nat.add_assoc]

theorem Step.costOfAll_visits (cs : List Condition) :
    costOfAll (visits cs) = 2 * Condition.sizeOfAll cs := by
  induction cs with
  | nil => rfl
  | cons c cs ih =>
    rw [visits, List.map_cons, costOfAll, ← visits, ih]
    simp [cost, Condition.sizeOfAll, Nat.mul_add]

namespace Dialect

/-- Takes steps until none is left; the last finished text comes first. -/
def runSteps (d : Dialect) : List Step → List String → List String
  | [], texts => texts
  | .visit (.compare c) :: steps, texts => d.runSteps steps (d.renderComparison c :: texts)
  | .visit (.join connective operands) :: steps, texts =>
    d.runSteps (Step.visits operands ++ .join connective.keyword operands.length :: steps) texts
  | .join keyword count :: steps, texts =>
    d.runSteps steps (chainTexts keyword (texts.take count).reverse :: texts.drop count)
termination_by steps => Step.costOfAll steps
decreasing_by
  · simp [Step.costOfAll, Step.cost, Condition.size]
  · simp only [Step.costOfAll_append, Step.costOfAll_visits, Step.costOfAll, Step.cost,
      Condition.size]
    omega
  · simp [Step.costOfAll, Step.cost]

/-- A condition as text. -/
def render (d : Dialect) (c : Condition) : String := (d.runSteps [.visit c] []).head?.getD ""

/-- The statement that selects the rows of a table by a condition. -/
def renderSelect (d : Dialect) (table : String) (c : Condition) : String :=
  "SELECT * FROM " ++ d.quote table ++ " WHERE " ++ d.render c

mutual

/-- A condition as text, by its structure. -/
def text (d : Dialect) : Condition → String
  | .compare c => d.renderComparison c
  | .join connective operands => foldTexts connective.keyword (d.textOfAll operands)

/-- Some conditions as texts, by their structure. -/
def textOfAll (d : Dialect) : List Condition → List String
  | [] => []
  | c :: rest => d.text c :: d.textOfAll rest

end

/-- The backend that makes conditions of SQL. -/
def backend (d : Dialect) : Backend Id Condition where
  compare := fun c => Condition.compare c
  join := fun connective left right => Condition.joined connective left right
  render := d.render

end Dialect

end FilterQuery.Sql
