import FilterQuery.Proofs.Condition.Tree

/-!
# Nodes and their faults

A node is at fault by itself when it joins nothing, or when it is a leaf that comes to no
comparison. The error of a query's tree is the fault of its first such node in depth-first order.
Only nodes without children have faults, so it makes no difference whether an order names a node
before its children or behind them.
-/

namespace FilterQuery.Query

mutual

/-- The nodes in depth-first order, each as soon as it is done with: behind its children. -/
def nodes : Query → List Query
  | .leaf l => [.leaf l]
  | .join connective children => nodesOfAll children ++ [.join connective children]

/-- The nodes of some queries, each behind its children. -/
def nodesOfAll : List Query → List Query
  | [] => []
  | q :: rest => nodes q ++ nodesOfAll rest

end

mutual

/-- The nodes in depth-first order, each as soon as it is met: before its children. -/
def preorder : Query → List Query
  | .leaf l => [.leaf l]
  | .join connective children => .join connective children :: preorderOfAll children

/-- The nodes of some queries, each before its children. -/
def preorderOfAll : List Query → List Query
  | [] => []
  | q :: rest => preorder q ++ preorderOfAll rest

end

/-- What is wrong with a node, whatever stands below it. -/
def fault? (env : Environment) : Query → Option QueryError
  | .leaf l =>
    match l.comparison env with
    | .error e => some e
    | .ok _ => none
  | .join connective [] => some (.emptyComposite connective.nodeName)
  | .join _ (_ :: _) => none

theorem fault?_leaf_eq_some_iff {env : Environment} {l : Leaf} {e : QueryError} :
    fault? env (.leaf l) = some e ↔ l.comparison env = .error e := by
  rw [fault?]
  cases l.comparison env <;> simp

/-- A leaf without fault comes to a comparison. -/
theorem fault?_leaf_eq_none_iff {env : Environment} {l : Leaf} :
    fault? env (.leaf l) = none ↔ ∃ comparison, l.comparison env = .ok comparison := by
  rw [fault?]
  cases l.comparison env <;> simp

/-- A query whose composites have children and whose leaves come to comparisons. -/
structure Buildable (env : Environment) (q : Query) : Prop where
  /-- Every node that joins others has some to join. -/
  composite : ∀ connective, .join connective [] ∉ q.nodes
  /-- Every leaf comes to a comparison on its own. -/
  leaf : ∀ l, .leaf l ∈ q.nodes → ∃ comparison, l.comparison env = .ok comparison

/-- A query can be built exactly when no node of it has a fault. -/
theorem buildable_iff (env : Environment) (q : Query) :
    q.Buildable env ↔ q.nodes.findSome? (fault? env) = none := by
  rw [List.findSome?_eq_none_iff]
  constructor
  · intro h n hn
    match n with
    | .leaf l => exact fault?_leaf_eq_none_iff.mpr (h.leaf l hn)
    | .join k [] => exact absurd hn (h.composite k)
    | .join k (_ :: _) => rfl
  · intro h
    constructor
    · intro k hk
      exact absurd (h _ hk) (Option.some_ne_none _)
    · exact fun l hl => fault?_leaf_eq_none_iff.mp (h _ hl)

/-- The error of a result, if it is one. -/
def errorOf? {α : Type} : Except QueryError α → Option QueryError
  | .error e => some e
  | .ok _ => none

mutual

/-- The first fault of a query is the error of its tree. -/
theorem findSome?_fault_nodes (env : Environment) :
    (q : Query) → q.nodes.findSome? (fault? env) = errorOf? (q.tree env)
  | .leaf l => by
    rw [nodes, List.findSome?_singleton, fault?, tree]
    cases l.comparison env <;> rfl
  | .join k children => by
    rw [nodes, List.findSome?_append, findSome?_fault_nodesOfAll env children, tree]
    cases hts : trees env children with
    | error e => rfl
    | ok ts =>
      cases children with
      | nil =>
        obtain rfl : [] = ts := Except.ok.inj (by rw [← hts, trees])
        rfl
      | cons q qs =>
        obtain ⟨t, rest, _, _, rfl⟩ := trees_cons_eq_ok hts
        rfl

theorem findSome?_fault_nodesOfAll (env : Environment) :
    (qs : List Query) → (nodesOfAll qs).findSome? (fault? env) = errorOf? (trees env qs)
  | [] => rfl
  | q :: qs => by
    rw [nodesOfAll, List.findSome?_append, findSome?_fault_nodes env q,
      findSome?_fault_nodesOfAll env qs, trees]
    cases q.tree env with
    | error e => rfl
    | ok t => cases trees env qs <;> rfl

end

/-- Whether a node is at fault. -/
def isFaulty (env : Environment) (n : Query) : Bool := (fault? env n).isSome

/-- A node with children has no fault, so it may stand on either side of them. -/
private theorem find?_isFaulty_cons_join (env : Environment) (k : Connective)
    (children ns : List Query) (h : children = [] → ns = []) :
    (Query.join k children :: ns).find? (isFaulty env) =
      (ns ++ [Query.join k children]).find? (isFaulty env) := by
  cases children with
  | nil => rw [h rfl]; rfl
  | cons q qs =>
    have hnot : ¬ isFaulty env (.join k (q :: qs)) = true := Bool.false_ne_true
    rw [List.find?_append, List.find?_cons_of_neg hnot, List.find?_cons_of_neg hnot]
    exact Option.or_none.symm

mutual

/-- The first node at fault is the same in both orders. -/
theorem find?_isFaulty_preorder (env : Environment) :
    (q : Query) → q.preorder.find? (isFaulty env) = q.nodes.find? (isFaulty env)
  | .leaf _ => rfl
  | .join k children => by
    have hempty : children = [] → preorderOfAll children = [] := by
      rintro rfl
      rw [preorderOfAll]
    rw [preorder, nodes, find?_isFaulty_cons_join env k children _ hempty,
      List.find?_append, List.find?_append, find?_isFaulty_preorderOfAll env children]

theorem find?_isFaulty_preorderOfAll (env : Environment) : (qs : List Query) →
    (preorderOfAll qs).find? (isFaulty env) = (nodesOfAll qs).find? (isFaulty env)
  | [] => rfl
  | q :: qs => by
    rw [preorderOfAll, nodesOfAll, List.find?_append, List.find?_append,
      find?_isFaulty_preorder env q, find?_isFaulty_preorderOfAll env qs]

end

end FilterQuery.Query
