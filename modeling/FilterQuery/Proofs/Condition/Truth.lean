import FilterQuery.Proofs.Condition.Tree

/-!
# Truth of queries

Comparisons with null are neither true nor false, so a condition has one of three truth values. A
join of many operands fails, or holds, as soon as one of them decides it, holds, or fails, when none
stands in the way, and is unknown otherwise. A query whose leaves have truth values gets its own from
them, and its tree has the same one.
-/

namespace FilterQuery

/-- The truth of a condition for a row. -/
inductive Truth where
  /-- The row does not meet the condition. -/
  | fails
  /-- A null leaves the condition open. -/
  | unknown
  /-- The row meets the condition. -/
  | holds
  deriving DecidableEq, Repr

namespace Truth

/-- Both conditions at once: one that fails decides. -/
def and : Truth → Truth → Truth
  | .fails, _ => .fails
  | _, .fails => .fails
  | .holds, .holds => .holds
  | _, _ => .unknown

/-- One condition or the other: one that holds decides. -/
def or : Truth → Truth → Truth
  | .holds, _ => .holds
  | _, .holds => .holds
  | .fails, .fails => .fails
  | _, _ => .unknown

end Truth

namespace Connective

/-- The truth of two conditions under a connective. -/
def truth : Connective → Truth → Truth → Truth
  | .and => Truth.and
  | .or => Truth.or

/-- The truth value that decides a join alone. -/
def deciding : Connective → Truth
  | .and => .fails
  | .or => .holds

/-- The truth value that leaves a join to the other operands. -/
def neutral : Connective → Truth
  | .and => .holds
  | .or => .fails

/-- The truth of any number of conditions under a connective. -/
def truthOfAll (k : Connective) (ts : List Truth) : Truth := ts.foldr k.truth k.neutral

theorem truth_assoc (k : Connective) (a b c : Truth) :
    k.truth (k.truth a b) c = k.truth a (k.truth b c) := by
  cases k <;> cases a <;> cases b <;> cases c <;> rfl

theorem truth_neutral (k : Connective) (a : Truth) : k.truth a k.neutral = a := by
  cases k <;> cases a <;> rfl

theorem neutral_truth (k : Connective) (a : Truth) : k.truth k.neutral a = a := by
  cases k <;> cases a <;> rfl

private theorem truth_eq_deciding_iff (k : Connective) (a b : Truth) :
    k.truth a b = k.deciding ↔ a = k.deciding ∨ b = k.deciding := by
  cases k <;> cases a <;> cases b <;> decide

private theorem truth_eq_neutral_iff (k : Connective) (a b : Truth) :
    k.truth a b = k.neutral ↔ a = k.neutral ∧ b = k.neutral := by
  cases k <;> cases a <;> cases b <;> decide

/-- A join is decided exactly by an operand that decides it. -/
theorem truthOfAll_eq_deciding_iff (k : Connective) (ts : List Truth) :
    k.truthOfAll ts = k.deciding ↔ k.deciding ∈ ts := by
  induction ts with
  | nil => cases k <;> decide
  | cons t ts ih =>
    rw [truthOfAll, List.foldr_cons, truth_eq_deciding_iff, ← truthOfAll, ih, List.mem_cons,
      eq_comm]

/-- A join comes to the other definite value exactly when all operands do. -/
theorem truthOfAll_eq_neutral_iff (k : Connective) (ts : List Truth) :
    k.truthOfAll ts = k.neutral ↔ ∀ t ∈ ts, t = k.neutral := by
  induction ts with
  | nil => exact ⟨fun _ => nofun, fun _ => rfl⟩
  | cons t ts ih =>
    rw [truthOfAll, List.foldr_cons, truth_eq_neutral_iff, ← truthOfAll, ih, List.forall_mem_cons]

/-- Joining from the left comes to the truth of all operands. -/
theorem foldl_truth (k : Connective) (t : Truth) (ts : List Truth) :
    ts.foldl k.truth t = k.truthOfAll (t :: ts) := by
  induction ts generalizing t with
  | nil => exact (k.truth_neutral t).symm
  | cons u ts ih =>
    rw [List.foldl_cons, ih, truthOfAll, List.foldr_cons, truth_assoc]
    rfl

/-- One more operand joins the truth of the others. -/
theorem truthOfAll_append_singleton (k : Connective) (ts : List Truth) (t : Truth) :
    k.truthOfAll (ts ++ [t]) = k.truth (k.truthOfAll ts) t := by
  induction ts with
  | nil =>
    rw [List.nil_append, truthOfAll, List.foldr_cons, List.foldr_nil, truth_neutral, truthOfAll,
      List.foldr_nil, neutral_truth]
  | cons u ts ih => rw [List.cons_append, truthOfAll, List.foldr_cons, ← truthOfAll, ih,
      ← truth_assoc, truthOfAll, truthOfAll, List.foldr_cons]

end Connective

/-- The truth of a leaf, where comparisons have truth values; a leaf that comes to no comparison has
an unknown one. -/
def Leaf.truth (env : Environment) (v : Comparison → Truth) (l : Leaf) : Truth :=
  match l.comparison env with
  | .ok comparison => v comparison
  | .error _ => .unknown

namespace Query

mutual

/-- The truth of a query whose leaves have truth values. -/
def truth (v : Leaf → Truth) : Query → Truth
  | .leaf l => v l
  | .join connective children => connective.truthOfAll (truths v children)

/-- The truth of some queries whose leaves have truth values. -/
def truths (v : Leaf → Truth) : List Query → List Truth
  | [] => []
  | q :: rest => truth v q :: truths v rest

end

end Query

/-- The truth of a tree whose entries have truth values. -/
def JoinTree.truth {α : Type} (v : α → Truth) : JoinTree α → Truth := fold v Connective.truth

namespace Query

mutual

/-- The tree of a query has the truth of the query. -/
theorem truth_of_tree {env : Environment} (v : Comparison → Truth) : (q : Query) →
    {t : JoinTree Comparison} → q.tree env = .ok t → t.truth v = q.truth (·.truth env v)
  | .leaf l, t, h => by
    obtain ⟨c, hc, rfl⟩ := tree_leaf_eq_ok h
    rw [truth, Leaf.truth, hc]
    rfl
  | .join k children, t, h => by
    obtain ⟨first, rest, hts, rfl⟩ := tree_join_eq_ok h
    rw [truth, ← truth_of_trees v children hts, JoinTree.truth, JoinTree.fold_joinAll,
      Connective.foldl_truth]
    rfl

theorem truth_of_trees {env : Environment} (v : Comparison → Truth) : (qs : List Query) →
    {ts : List (JoinTree Comparison)} → trees env qs = .ok ts →
      ts.map (JoinTree.truth v) = truths (·.truth env v) qs
  | [], ts, h => by
    obtain rfl : [] = ts := Except.ok.inj (by rw [← h, trees])
    rfl
  | q :: qs, ts, h => by
    obtain ⟨t, rest, ht, hrest, rfl⟩ := trees_cons_eq_ok h
    rw [truths, List.map_cons, truth_of_tree v q ht, truth_of_trees v qs hrest]

end

end Query

end FilterQuery
