import FilterQuery.Operator.Builtin
import FilterQuery.Proofs.Condition.Truth
import FilterQuery.Proofs.Sql.Walks

/-!
# What a condition says

A condition gets its truth from its comparisons, as a query does from its leaves. Taking an operand
into a join on the left changes neither the truth nor the order of the comparisons, so a build keeps
the meaning of its query and loses none of its leaves.
-/

namespace FilterQuery.Sql

namespace Condition

mutual

/-- The truth of a condition whose comparisons have truth values. -/
def truth (v : Comparison → Truth) : Condition → Truth
  | .compare comparison => v comparison
  | .join connective operands => connective.truthOfAll (truths v operands)

/-- The truth of some conditions whose comparisons have truth values. -/
def truths (v : Comparison → Truth) : List Condition → List Truth
  | [] => []
  | c :: rest => truth v c :: truths v rest

end

theorem truths_append (v : Comparison → Truth) (xs ys : List Condition) :
    truths v (xs ++ ys) = truths v xs ++ truths v ys := by
  induction xs with
  | nil => rfl
  | cons x xs ih => rw [List.cons_append, truths, ih, truths, List.cons_append]

/-- A join has the truth of its two sides under the connective. -/
theorem truth_joined (v : Comparison → Truth) (k : Connective) (left right : Condition) :
    (joined k left right).truth v = k.truth (left.truth v) (right.truth v) := by
  have htwo : (Condition.join k [left, right]).truth v =
      k.truth (left.truth v) (right.truth v) := by
    rw [truth, truths, truths, truths, ← Connective.foldl_truth]
    rfl
  cases left with
  | compare comparison => exact htwo
  | join c operands =>
    rw [joined]
    split
    · rename_i hc
      rw [truth, truths_append, truths, truths, Connective.truthOfAll_append_singleton, truth, hc]
    · exact htwo

/-- A join has the comparisons of its left side before those of its right side. -/
theorem leaves_joined (k : Connective) (left right : Condition) :
    (joined k left right).leaves = left.leaves ++ right.leaves := by
  have htwo : (Condition.join k [left, right]).leaves = left.leaves ++ right.leaves := by
    rw [leaves, leavesOfAll, leavesOfAll, leavesOfAll, List.append_nil]
  cases left with
  | compare comparison => exact htwo
  | join c operands =>
    rw [joined]
    split
    · rw [leaves, leavesOfAll_append, leavesOfAll, leavesOfAll, List.append_nil, leaves]
    · exact htwo

end Condition

namespace Dialect

open Condition

/-- The condition made of a tree has the truth of the tree. -/
theorem truth_make (d : Dialect) (v : Comparison → Truth) (t : JoinTree Comparison) :
    (d.backend.make t).truth v = t.truth v := by
  induction t with
  | leaf comparison => rfl
  | join k left right ihLeft ihRight =>
    show (joined k (d.backend.make left) (d.backend.make right)).truth v = _
    rw [truth_joined, ihLeft, ihRight]
    rfl

/-- The condition made of a tree has the entries of the tree as its comparisons. -/
theorem leaves_make (d : Dialect) (t : JoinTree Comparison) :
    (d.backend.make t).leaves = t.entries := by
  induction t with
  | leaf comparison => rfl
  | join k left right ihLeft ihRight =>
    show (joined k (d.backend.make left) (d.backend.make right)).leaves = _
    rw [leaves_joined, ihLeft, ihRight]
    rfl

/-- A condition that is built lists the comparisons of the query's leaves in their order, as many
as there are leaves, and is true, false or unknown whenever the query is. -/
theorem build_preserves_meaning (d : Dialect) (env : Environment) (q : Query) (c : Condition)
    (h : (d.backend.build env q).run = Except.ok c) :
    q.leaves.map (·.comparison env) = c.comparisons.map .ok ∧
    c.comparisons.length = q.leafCount ∧
    ∀ v : Comparison → Truth, c.truth v = q.truth (·.truth env v) := by
  rw [Backend.run_build_eq_tree] at h
  obtain ⟨t, ht, rfl⟩ : ∃ t, q.tree env = .ok t ∧ d.backend.make t = c := by
    cases ht : q.tree env with
    | error e => rw [ht] at h; cases h
    | ok t =>
      rw [ht] at h
      exact ⟨t, rfl, Except.ok.inj h⟩
  have hleaves : q.leaves.map (·.comparison env) = (d.backend.make t).comparisons.map .ok := by
    rw [comparisons_eq_leaves, leaves_make]
    exact Query.comparison_leaves_of_tree q ht
  refine ⟨hleaves, ?_, ?_⟩
  · have hlength := congrArg List.length hleaves
    rw [List.length_map, List.length_map, Query.length_leaves] at hlength
    exact hlength.symm
  · intro v
    rw [truth_make]
    exact Query.truth_of_tree v q ht

/-- A join of an only child within a join of the same connective is built, and keeps its meaning. -/
theorem build_preserves_meaning_nested :
    let env : Environment := ⟨.builtin, .dayOne⟩
    let leaf (column : String) : Query := .leaf ⟨.string, column, "isNull", .null, none⟩
    let q : Query := .join .and [.join .and [leaf "a", leaf "b"], .join .or [leaf "c"]]
    let isNull (column : String) : Condition := .compare (.unary column .isNull)
    let c : Condition := .join .and [isNull "a", isNull "b", isNull "c"]
    (postgres.backend.build env q).run = Except.ok c ∧
      q.leaves.map (·.comparison env) = c.comparisons.map .ok ∧
        c.comparisons.length = q.leafCount ∧
          ∀ v : Comparison → Truth, c.truth v = q.truth (·.truth env v) :=
  ⟨rfl, postgres.build_preserves_meaning _ _ _ rfl⟩

end Dialect

end FilterQuery.Sql
