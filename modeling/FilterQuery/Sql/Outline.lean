import FilterQuery.Sql.Rendering

/-!
# Conditions as an outline

The readable form of a condition has one line for each join and each comparison. A join's line holds
its keyword, and its operands follow one step further in.
-/

namespace FilterQuery.Sql

/-- A line some steps in. -/
def indented (level : Nat) (line : String) : String :=
  String.join (List.replicate level "  ") ++ line

namespace Dialect

/-- The lines of pending conditions, each with its level, the first one's first. -/
def outlineOf (d : Dialect) : List (Condition × Nat) → List String
  | [] => []
  | (.compare c, level) :: pending => indented level (d.render (.compare c)) :: d.outlineOf pending
  | (.join connective operands, level) :: pending =>
    indented level connective.keyword ::
      d.outlineOf (Condition.onLevel (level + 1) operands ++ pending)
termination_by pending => Condition.sizeOfAll (pending.map (·.1))
decreasing_by
  · simp [Condition.sizeOfAll, Condition.size]
  · simp only [List.map_append, List.map_cons, Condition.map_fst_onLevel,
      Condition.sizeOfAll_append, Condition.sizeOfAll, Condition.size]
    omega

/-- The lines of a condition whose first one stands on a level. -/
def outline (d : Dialect) (level : Nat) (c : Condition) : List String := d.outlineOf [(c, level)]

mutual

/-- The lines of a condition, by its structure. -/
def lines (d : Dialect) (level : Nat) : Condition → List String
  | .compare c => [indented level (d.renderComparison c)]
  | .join connective operands =>
    indented level connective.keyword :: d.linesOfAll (level + 1) operands

/-- The lines of some conditions, by their structure. -/
def linesOfAll (d : Dialect) (level : Nat) : List Condition → List String
  | [] => []
  | c :: rest => d.lines level c ++ d.linesOfAll level rest

end

end Dialect

end FilterQuery.Sql
