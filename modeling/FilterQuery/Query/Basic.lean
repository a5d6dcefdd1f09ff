import FilterQuery.Scalar.Basic

/-!
# Queries

A query is a tree. Its leaves compare a column with a value; its inner nodes ask for all or for any
of their children. A leaf keeps the JSON of its value as it stands: what it has to become is settled
only when the operator is known.
-/

namespace FilterQuery

/-- How a node joins its children. -/
inductive Connective where
  /-- All of them must hold. -/
  | and
  /-- One of them must hold. -/
  | or
  deriving DecidableEq, Repr

namespace Connective

/-- The name of a node that joins others. -/
def nodeName : Connective → String
  | .and => "AndQuery"
  | .or => "OrQuery"

/-- The word between the operands of a condition. -/
def keyword : Connective → String
  | .and => "AND"
  | .or => "OR"

end Connective

/-- The name of a leaf whose column has a type. -/
def ScalarType.nodeName : ScalarType → String
  | .string => "StringQuery"
  | .boolean => "BoolQuery"
  | .date => "DateQuery"
  | .numeric => "NumericQuery"

/-- A leaf of a query. -/
structure Leaf where
  /-- The type of the column. -/
  fieldType : ScalarType
  /-- The column. -/
  column : String
  /-- The name of the operator. -/
  operator : String
  /-- The value as it stands in the query. -/
  value : Json
  /-- The type of the value, where the query fixes it. -/
  valueType : Option ScalarType

/-- A query. -/
inductive Query where
  /-- A comparison. -/
  | leaf (l : Leaf)
  /-- Several queries at once. -/
  | join (connective : Connective) (children : List Query)

namespace Query

/-- The most levels that a query may have. -/
def maxDepth : Nat := 63

mutual

/-- The leaves of a query from left to right. -/
def leaves : Query → List Leaf
  | .leaf l => [l]
  | .join _ children => leavesOfAll children

/-- The leaves of some queries from left to right. -/
def leavesOfAll : List Query → List Leaf
  | [] => []
  | q :: rest => leaves q ++ leavesOfAll rest

end

mutual

/-- The number of leaves. -/
def leafCount : Query → Nat
  | .leaf _ => 1
  | .join _ children => leafCountOfAll children

/-- The number of leaves of some queries. -/
def leafCountOfAll : List Query → Nat
  | [] => 0
  | q :: rest => leafCount q + leafCountOfAll rest

end

mutual

/-- The number of levels; a leaf and a node without children have one. -/
def depth : Query → Nat
  | .leaf _ => 1
  | .join _ children => 1 + depthOfAll children

/-- The number of levels of the deepest of some queries. -/
def depthOfAll : List Query → Nat
  | [] => 0
  | q :: rest => max (depth q) (depthOfAll rest)

end

mutual

theorem length_leaves : (q : Query) → q.leaves.length = q.leafCount
  | .leaf _ => rfl
  | .join _ children => by rw [leaves, leafCount, length_leavesOfAll children]

theorem length_leavesOfAll : (qs : List Query) → (leavesOfAll qs).length = leafCountOfAll qs
  | [] => rfl
  | q :: rest => by
    rw [leavesOfAll, leafCountOfAll, List.length_append, length_leaves q, length_leavesOfAll rest]

end

end Query

end FilterQuery
