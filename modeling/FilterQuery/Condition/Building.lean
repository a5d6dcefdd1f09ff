import FilterQuery.Condition.Backend
import FilterQuery.Operator.Resolution
import FilterQuery.Scalar.Coercion

/-!
# From query to condition

The leaves of a query become comparisons and its inner nodes joins. Children are built in order
before they are joined, joins associate to the left, an only child needs none, and the first error
ends the work.
-/

namespace FilterQuery

/-- What leaves are looked up in. -/
structure Environment where
  /-- The operators. -/
  catalog : Catalog
  /-- The date that counts as today. -/
  today : Date

namespace Leaf

/-- The operator of a leaf and the type that its value has to have. -/
def resolve (l : Leaf) (catalog : Catalog) : Except QueryError Operator.Resolved :=
  match l.valueType with
  | some valueType => catalog.resolveAs l.operator l.fieldType valueType
  | none => catalog.resolve l.operator l.fieldType

/-- The value of a leaf for an operator. -/
def operand (l : Leaf) (resolved : Operator.Resolved) : Except QueryError Scalar :=
  if resolved.operator.ignoresValue then .ok .null
  else (Scalar.coerce l.value resolved.valueType).mapError (·.withColumn l.column)

/-- The comparison that a leaf comes to. -/
def comparison (l : Leaf) (env : Environment) : Except QueryError Comparison := do
  let resolved ← l.resolve env.catalog
  let value ← l.operand resolved
  resolved.operator.apply ⟨l.column, value, env.today⟩

end Leaf

namespace Backend

variable {m : Type → Type} [Monad m] {Condition : Type}

/-- The join of some conditions, from the left. -/
def joinAll (b : Backend m Condition) (connective : Connective) :
    List Condition → ExceptT QueryError m Condition
  | [] => throw (.emptyComposite connective.nodeName)
  | first :: rest => rest.foldlM (fun joined next => b.join connective joined next) first

mutual

/-- The condition of a query. -/
def build (b : Backend m Condition) (env : Environment) : Query → ExceptT QueryError m Condition
  | .leaf l => do
    let comparison ← (l.comparison env : Except QueryError Comparison)
    b.compare comparison
  | .join connective children => do
    let conditions ← b.buildAll env children
    b.joinAll connective conditions

/-- The conditions of some queries. -/
def buildAll (b : Backend m Condition) (env : Environment) :
    List Query → ExceptT QueryError m (List Condition)
  | [] => return []
  | q :: rest => do
    let condition ← b.build env q
    return condition :: (← b.buildAll env rest)

end

end Backend

end FilterQuery
