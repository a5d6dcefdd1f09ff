import FilterQuery.Proofs.Condition.Steps

/-!
# Conditions as binary trees

A backend only ever compares and joins two conditions, so what it makes of a query is told by a
binary tree of comparisons. `Query.tree` is that tree, or the error that ends the build, and
`Backend.run_build_eq_tree` says that every backend without effects makes its condition of it.
-/

namespace FilterQuery

/-- A binary tree of joins. -/
inductive JoinTree (α : Type) where
  /-- A single entry. -/
  | leaf (entry : α)
  /-- Two trees under a connective. -/
  | join (connective : Connective) (left right : JoinTree α)
  deriving DecidableEq

namespace JoinTree

variable {α β γ : Type}

/-- The entries from left to right. -/
def entries : JoinTree α → List α
  | .leaf entry => [entry]
  | .join _ left right => left.entries ++ right.entries

/-- What a tree comes to when entries are made into something and joins join it. -/
def fold (make : α → β) (join : Connective → β → β → β) : JoinTree α → β
  | .leaf entry => make entry
  | .join connective left right => join connective (left.fold make join) (right.fold make join)

/-- The tree of the same joins over other entries. -/
def map (f : α → β) : JoinTree α → JoinTree β := fold (fun entry => .leaf (f entry)) .join

/-- Trees joined one by one from the left. -/
def joinAll (connective : Connective) (first : JoinTree α) (rest : List (JoinTree α)) :
    JoinTree α :=
  rest.foldl (.join connective) first

/-- Folding over a tree into the same trees changes nothing. -/
theorem fold_leaf_join (t : JoinTree α) : t.fold .leaf .join = t := by
  induction t with
  | leaf entry => rfl
  | join k left right ihLeft ihRight => rw [fold, ihLeft, ihRight]

/-- A fold passes through joins from the left. -/
theorem fold_joinAll (make : α → β) (join : Connective → β → β → β) (k : Connective)
    (first : JoinTree α) (rest : List (JoinTree α)) :
    (joinAll k first rest).fold make join =
      (rest.map (fold make join)).foldl (join k) (first.fold make join) := by
  induction rest generalizing first with
  | nil => rfl
  | cons next rest ih => exact ih (.join k first next)

/-- Joins from the left keep the entries in order. -/
theorem entries_joinAll (k : Connective) (first : JoinTree α) (rest : List (JoinTree α)) :
    (joinAll k first rest).entries = first.entries ++ rest.flatMap entries := by
  induction rest generalizing first with
  | nil => simp only [joinAll, List.foldl_nil, List.flatMap_nil, List.append_nil]
  | cons next rest ih =>
    have hnext := ih (.join k first next)
    rw [entries, List.append_assoc] at hnext
    exact hnext

/-- The backend that makes plain binary trees. -/
def backend : Backend Id (JoinTree Comparison) where
  compare := fun comparison => JoinTree.leaf comparison
  join := fun connective left right => JoinTree.join connective left right
  render := fold Comparison.text fun k left right =>
    "(" ++ left ++ " " ++ k.keyword ++ " " ++ right ++ ")"

end JoinTree

namespace Query

mutual

/-- The tree of a query's comparisons, joined from the left, or the first error on the way. -/
def tree (env : Environment) : Query → Except QueryError (JoinTree Comparison)
  | .leaf l => (l.comparison env).map .leaf
  | .join connective children => do
    match ← trees env children with
    | [] => .error (.emptyComposite connective.nodeName)
    | first :: rest => .ok (JoinTree.joinAll connective first rest)

/-- The trees of some queries, or the first error on the way. -/
def trees (env : Environment) : List Query → Except QueryError (List (JoinTree Comparison))
  | [] => .ok []
  | q :: rest => do
    let t ← tree env q
    return t :: (← trees env rest)

end

/-- A leaf has a tree when it comes to a comparison. -/
theorem tree_leaf_eq_ok {env : Environment} {l : Leaf} {t : JoinTree Comparison}
    (h : (Query.leaf l).tree env = .ok t) : ∃ c, l.comparison env = .ok c ∧ t = .leaf c := by
  rw [tree] at h
  cases hc : l.comparison env with
  | error e => rw [hc] at h; cases h
  | ok c =>
    rw [hc] at h
    exact ⟨c, rfl, (Except.ok.inj h).symm⟩

/-- A node that joins others has a tree when it has children and all of them have one. -/
theorem tree_join_eq_ok {env : Environment} {k : Connective} {children : List Query}
    {t : JoinTree Comparison} (h : (Query.join k children).tree env = .ok t) :
    ∃ first rest, trees env children = .ok (first :: rest) ∧ t = .joinAll k first rest := by
  rw [tree] at h
  cases hts : trees env children with
  | error e => rw [hts] at h; cases h
  | ok ts =>
    rw [hts] at h
    cases ts with
    | nil => cases h
    | cons first rest => exact ⟨first, rest, rfl, (Except.ok.inj h).symm⟩

/-- Queries in a row have trees when each of them has one. -/
theorem trees_cons_eq_ok {env : Environment} {q : Query} {qs : List Query}
    {ts : List (JoinTree Comparison)} (h : trees env (q :: qs) = .ok ts) :
    ∃ t rest, q.tree env = .ok t ∧ trees env qs = .ok rest ∧ ts = t :: rest := by
  rw [trees] at h
  cases ht : q.tree env with
  | error e => rw [ht] at h; cases h
  | ok t =>
    rw [ht] at h
    cases hrest : trees env qs with
    | error e => rw [hrest] at h; cases h
    | ok rest =>
      rw [hrest] at h
      exact ⟨t, rest, rfl, rfl, (Except.ok.inj h).symm⟩

/-- Only no queries have no trees. -/
theorem eq_nil_of_trees_eq_nil {env : Environment} {qs : List Query}
    (h : trees env qs = .ok []) : qs = [] := by
  cases qs with
  | nil => rfl
  | cons q qs =>
    obtain ⟨t, rest, _, _, hts⟩ := trees_cons_eq_ok h
    cases hts

mutual

/-- The entries of a query's tree are the comparisons of its leaves. -/
theorem comparison_leaves_of_tree {env : Environment} : (q : Query) → {t : JoinTree Comparison} →
    q.tree env = .ok t → q.leaves.map (·.comparison env) = t.entries.map .ok
  | .leaf l, t, h => by
    obtain ⟨c, hc, rfl⟩ := tree_leaf_eq_ok h
    rw [leaves, List.map_singleton, hc]
    rfl
  | .join k children, t, h => by
    obtain ⟨first, rest, hts, rfl⟩ := tree_join_eq_ok h
    rw [leaves, comparison_leaves_of_trees children hts, JoinTree.entries_joinAll,
      List.flatMap_cons]

theorem comparison_leaves_of_trees {env : Environment} : (qs : List Query) →
    {ts : List (JoinTree Comparison)} → trees env qs = .ok ts →
      (leavesOfAll qs).map (·.comparison env) = (ts.flatMap JoinTree.entries).map .ok
  | [], ts, h => by
    obtain rfl : [] = ts := Except.ok.inj (by rw [← h, trees])
    rfl
  | q :: qs, ts, h => by
    obtain ⟨t, rest, ht, hrest, rfl⟩ := trees_cons_eq_ok h
    rw [leavesOfAll, List.map_append, comparison_leaves_of_tree q ht,
      comparison_leaves_of_trees qs hrest, List.flatMap_cons, List.map_append]

end

end Query

namespace Backend

variable {Condition : Type}

/-- The condition that a backend without effects makes of a tree. -/
def make (b : Backend Id Condition) : JoinTree Comparison → Condition :=
  JoinTree.fold (fun comparison => (b.compare comparison).run) fun k left right =>
    (b.join k left right).run

theorem make_joinAll (b : Backend Id Condition) (k : Connective) (first : JoinTree Comparison)
    (rest : List (JoinTree Comparison)) :
    b.make (.joinAll k first rest) =
      (rest.map b.make).foldl (fun left right => (b.join k left right).run) (b.make first) :=
  JoinTree.fold_joinAll _ (fun k left right => (b.join k left right).run) k first rest

/-- Joins without effects are a fold. -/
theorem foldlM_join_run (b : Backend Id Condition) (k : Connective) (first : Condition)
    (rest : List Condition) :
    rest.foldlM (b.join k) first =
      rest.foldl (fun left right => (b.join k left right).run) first := by
  induction rest generalizing first with
  | nil => rfl
  | cons next rest ih => exact ih (b.join k first next).run

/-- The conditions that a backend without effects can make: of comparisons, and of two that it has
made before. -/
inductive Made (b : Backend Id Condition) : Condition → Prop where
  /-- The condition of a comparison. -/
  | compare (comparison : Comparison) : b.Made (b.compare comparison).run
  /-- The condition that joins two. -/
  | join (connective : Connective) {left right : Condition} (hleft : b.Made left)
      (hright : b.Made right) : b.Made (b.join connective left right).run

/-- What a backend can make is what it makes of trees. -/
theorem made_iff_exists_tree (b : Backend Id Condition) (c : Condition) :
    b.Made c ↔ ∃ t, b.make t = c := by
  constructor
  · intro h
    induction h with
    | compare comparison => exact ⟨.leaf comparison, rfl⟩
    | join k _ _ ihLeft ihRight =>
      obtain ⟨left, rfl⟩ := ihLeft
      obtain ⟨right, rfl⟩ := ihRight
      exact ⟨.join k left right, rfl⟩
  · rintro ⟨t, rfl⟩
    induction t with
    | leaf comparison => exact .compare comparison
    | join k left right ihLeft ihRight => exact .join k ihLeft ihRight

mutual

/-- A backend without effects makes its condition of the tree of the query, and fails with the same
error when there is none. -/
theorem run_build_eq_tree (b : Backend Id Condition) (env : Environment) :
    (q : Query) → (b.build env q).run = (q.tree env).map b.make
  | .leaf l => by
    rw [run_build_leaf, Query.tree]
    cases l.comparison env <;> rfl
  | .join k children => by
    rw [run_build_join, run_buildAll_eq_trees b env children, Query.tree]
    cases Query.trees env children with
    | error e => rfl
    | ok ts =>
      cases ts with
      | nil => rfl
      | cons first rest =>
        show (b.joinAll k (b.make first :: rest.map b.make)).run = _
        rw [run_joinAll_cons, foldlM_join_run, ← make_joinAll]
        rfl

/-- Queries in a row come to the conditions of their trees. -/
theorem run_buildAll_eq_trees (b : Backend Id Condition) (env : Environment) :
    (qs : List Query) → (b.buildAll env qs).run = (Query.trees env qs).map (·.map b.make)
  | [] => by
    rw [buildAll, Query.trees]
    rfl
  | q :: rest => by
    rw [run_buildAll_cons, run_build_eq_tree b env q, run_buildAll_eq_trees b env rest, Query.trees]
    cases Query.tree env q with
    | error e => rfl
    | ok t => cases Query.trees env rest <;> rfl

end

end Backend

/-- The backend of plain trees makes the tree of a query. -/
theorem JoinTree.run_build_backend (env : Environment) (q : Query) :
    (JoinTree.backend.build env q).run = q.tree env := by
  have hmake : JoinTree.backend.make = id := funext JoinTree.fold_leaf_join
  rw [Backend.run_build_eq_tree, hmake]
  cases q.tree env <;> rfl

end FilterQuery
