import FilterQuery.Query.Basic
import FilterQuery.QueryError

/-!
# Well-formed queries

A query is well formed when it has at most `maxDepth` levels and every leaf names a column and an
operator and has a single value. `validate` reports the first offence in reading order. A node
without children is no offence here.
-/

namespace FilterQuery

/-- What is wrong with a leaf: with its column, its operator or its value, in this order. -/
def Leaf.malformation? (l : Leaf) : Option Malformation :=
  let kind := l.fieldType.nodeName
  if Text.isBlankText l.column then some (.blankColumn kind)
  else if Text.isBlankText l.operator then some (.blankOperator kind l.column)
  else if !l.value.isScalar then some (.valueNotScalar kind l.column)
  else none

namespace Query

mutual

/-- The first offence of a query whose root stands on a level. -/
def malformationAt? (level : Nat) : Query → Option Malformation
  | .leaf l => if maxDepth < level then some (.tooDeep maxDepth) else l.malformation?
  | .join _ children =>
    if maxDepth < level then some (.tooDeep maxDepth)
    else malformationOfAllAt? (level + 1) children

/-- The first offence of some queries on a level. -/
def malformationOfAllAt? (level : Nat) : List Query → Option Malformation
  | [] => none
  | q :: rest =>
    match malformationAt? level q with
    | some m => some m
    | none => malformationOfAllAt? level rest

end

/-- Accepts well-formed queries and reports the first offence of others. -/
def validate (q : Query) : Except QueryError Unit :=
  match q.malformationAt? 1 with
  | some m => .error (.malformed m)
  | none => .ok ()

end Query

end FilterQuery
