import FilterQuery.Sql.Rendering

/-!
# Walks over conditions

The walks keep a list of what is left to visit. Each of them computes what the structure of a
condition says: `comparisons` its leaves, `render` its text.
-/

namespace FilterQuery.Sql

namespace Condition

/-- A condition counts one more than its operands together. -/
theorem size_eq (c : Condition) : c.size = 1 + sizeOfAll c.operands := by
  cases c <;> simp [size, operands, sizeOfAll]

theorem leavesOfAll_append (xs ys : List Condition) :
    leavesOfAll (xs ++ ys) = leavesOfAll xs ++ leavesOfAll ys := by
  induction xs with
  | nil => rfl
  | cons x xs ih => rw [List.cons_append, leavesOfAll, ih, leavesOfAll, List.append_assoc]

/-- Pending conditions give their leaves in the order in which they stand. -/
theorem collect_eq_leavesOfAll (pending : List Condition) :
    collect pending = leavesOfAll pending := by
  induction pending using collect.induct with
  | case1 => rw [collect, leavesOfAll]
  | case2 comparison pending ih => rw [collect, ih, leavesOfAll, leaves]; rfl
  | case3 k operands pending ih => rw [collect, ih, leavesOfAll_append, leavesOfAll, leaves]

/-- The comparisons of a condition are its leaves. -/
theorem comparisons_eq_leaves (c : Condition) : c.comparisons = c.leaves := by
  rw [comparisons, collect_eq_leavesOfAll, leavesOfAll, leavesOfAll, List.append_nil]

end Condition

namespace Dialect

theorem length_textOfAll (d : Dialect) (cs : List Condition) :
    (d.textOfAll cs).length = cs.length := by
  induction cs with
  | nil => rfl
  | cons c cs ih => rw [textOfAll, List.length_cons, ih, List.length_cons]

/-- What steps leave on the stack, by the structure of the conditions that they visit. -/
def settle (d : Dialect) : List Step → List String → List String
  | [], texts => texts
  | .visit c :: steps, texts => d.settle steps (d.text c :: texts)
  | .join keyword count :: steps, texts =>
    d.settle steps (foldTexts keyword (texts.take count).reverse :: texts.drop count)

/-- Visiting conditions puts their texts on the stack, the last one's on top. -/
theorem settle_visits_append (d : Dialect) (cs : List Condition) (steps : List Step)
    (texts : List String) :
    d.settle (Step.visits cs ++ steps) texts =
      d.settle steps ((d.textOfAll cs).reverse ++ texts) := by
  induction cs generalizing texts with
  | nil => rfl
  | cons c cs ih =>
    rw [Step.visits, List.map_cons, List.cons_append, settle, ← Step.visits, ih, textOfAll,
      List.reverse_cons, List.append_assoc]
    rfl

/-- The writer leaves on the stack what the structure of its steps says: a join finds the texts of
all its operands there. -/
theorem runSteps_eq_settle (d : Dialect) (steps : List Step) (texts : List String) :
    d.runSteps steps texts = d.settle steps texts := by
  induction steps, texts using runSteps.induct d with
  | case1 texts => rw [runSteps, settle]
  | case2 c steps texts ih => rw [runSteps, ih, settle, text]
  | case3 k operands steps texts ih =>
    have hlength : ((d.textOfAll operands).reverse).length = operands.length := by
      rw [List.length_reverse, length_textOfAll]
    rw [runSteps, ih, settle_visits_append, settle, settle, text, ← hlength,
      List.take_left, List.drop_left, List.reverse_reverse]
  | case4 keyword count steps texts ih => rw [runSteps, ih, settle, chainTexts_eq_foldTexts]

/-- The writer writes the text of a condition. -/
theorem render_eq_text (d : Dialect) (c : Condition) : d.render c = d.text c := by
  rw [render, runSteps_eq_settle, settle, settle]
  rfl

end Dialect

end FilterQuery.Sql
