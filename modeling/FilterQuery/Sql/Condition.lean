import FilterQuery.Condition.Backend
import FilterQuery.Sql.Dialect

/-!
# Conditions of SQL

A condition is a comparison or a join of any number of operands. Joining a condition once more with
the connective it already has adds an operand, so a node with many children stays one level deep.
The walks over a condition keep a list of what is left to visit: the depth of a condition does not
become the depth of their own calls.
-/

namespace FilterQuery.Sql

/-- A condition. -/
inductive Condition where
  /-- A comparison. -/
  | compare (comparison : Comparison)
  /-- Operands under one connective, which associates to the left. -/
  | join (connective : Connective) (operands : List Condition)

namespace Condition

/-- The operands of a join; a comparison has none. -/
def operands : Condition → List Condition
  | .compare _ => []
  | .join _ operands => operands

/-- The connective of a join. -/
def connective? : Condition → Option Connective
  | .compare _ => none
  | .join connective _ => some connective

/-- A join of two conditions. Operands under the same connective on the left take the right one
in. -/
def joined (connective : Connective) (left right : Condition) : Condition :=
  match left with
  | .join c operands =>
    if c = connective then .join c (operands ++ [right]) else .join connective [left, right]
  | .compare _ => .join connective [left, right]

mutual

/-- The number of comparisons and joins. -/
def size : Condition → Nat
  | .compare _ => 1
  | .join _ operands => 1 + sizeOfAll operands

/-- The number of comparisons and joins of some conditions. -/
def sizeOfAll : List Condition → Nat
  | [] => 0
  | c :: rest => size c + sizeOfAll rest

end

mutual

/-- The comparisons from left to right. -/
def leaves : Condition → List Comparison
  | .compare comparison => [comparison]
  | .join _ operands => leavesOfAll operands

/-- The comparisons of some conditions from left to right. -/
def leavesOfAll : List Condition → List Comparison
  | [] => []
  | c :: rest => leaves c ++ leavesOfAll rest

end

mutual

/-- The number of levels; a comparison and a join without operands have one. -/
def height : Condition → Nat
  | .compare _ => 1
  | .join _ operands => 1 + heightOfAll operands

/-- The number of levels of the highest of some conditions. -/
def heightOfAll : List Condition → Nat
  | [] => 0
  | c :: rest => max (height c) (heightOfAll rest)

end

theorem sizeOfAll_append (xs ys : List Condition) :
    sizeOfAll (xs ++ ys) = sizeOfAll xs + sizeOfAll ys := by
  induction xs with
  | nil => simp [sizeOfAll]
  | cons x xs ih => simp [sizeOfAll, ih, Nat.add_assoc]

theorem sizeOfAll_reverse (xs : List Condition) : sizeOfAll xs.reverse = sizeOfAll xs := by
  induction xs with
  | nil => rfl
  | cons x xs ih => simp [sizeOfAll_append, sizeOfAll, ih, Nat.add_comm]

/-- The comparisons of pending conditions, the first one's first. -/
def collect : List Condition → List Comparison
  | [] => []
  | .compare comparison :: pending => comparison :: collect pending
  | .join _ operands :: pending => collect (operands ++ pending)
termination_by pending => sizeOfAll pending
decreasing_by
  all_goals simp only [sizeOfAll, size, sizeOfAll_append]
  all_goals omega

/-- The comparisons of a condition from left to right. -/
def comparisons (c : Condition) : List Comparison := collect [c]

/-- Some conditions on one level. -/
def onLevel (level : Nat) (cs : List Condition) : List (Condition × Nat) := cs.map (·, level)

theorem map_fst_onLevel (level : Nat) (cs : List Condition) :
    (onLevel level cs).map (·.1) = cs := by
  induction cs with
  | nil => rfl
  | cons c cs ih => rw [onLevel, List.map_cons, List.map_cons, ← onLevel, ih]

/-- The deepest level among pending conditions, each with its level, and the levels seen so far. -/
def deepest (seen : Nat) : List (Condition × Nat) → Nat
  | [] => seen
  | (c, level) :: pending =>
    deepest (max seen level) ((onLevel (level + 1) c.operands).reverse ++ pending)
termination_by pending => sizeOfAll (pending.map (·.1))
decreasing_by
  simp only [List.map_append, List.map_reverse, List.map_cons, map_fst_onLevel, sizeOfAll_append,
    sizeOfAll_reverse, sizeOfAll]
  cases c <;> simp [operands, size, sizeOfAll]

/-- The number of levels of a condition. -/
def depth (c : Condition) : Nat := deepest 0 [(c, 1)]

end Condition

end FilterQuery.Sql
