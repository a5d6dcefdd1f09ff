import FilterQuery.Condition.Building
import FilterQuery.Operator.Builtin
import FilterQuery.Placeholder.Substitution
import FilterQuery.Query.Parsing

/-!
# The engine

One request takes four steps: its text is decoded, placeholders get their values, the query is read
and checked, and its condition is built. An engine holds what requests share and nothing of any one
of them.
-/

namespace FilterQuery

/-- What requests share. -/
structure Engine (m : Type → Type) (Condition : Type) where
  /-- The operators. -/
  catalog : Catalog
  /-- The placeholders. -/
  substitution : Placeholder.Substitution
  /-- What makes the conditions. -/
  backend : Backend m Condition

namespace Engine

variable {m : Type → Type} [Monad m] {Condition : Type}

/-- An engine of the built-in operators and placeholders that accepts no unknown placeholder. -/
def builtin (backend : Backend m Condition) : Engine m Condition :=
  ⟨.builtin, ⟨.builtin, .strict⟩, backend⟩

/-- The query of a JSON value in a context. -/
def ofJson (e : Engine m Condition) (c : Placeholder.Context) (j : Json) :
    Except QueryError Query := do
  Query.ofJson (← e.substitution.apply c j)

/-- The query of a text in a context. -/
def parse (e : Engine m Condition) (c : Placeholder.Context) (text : String) :
    Except QueryError Query := do
  e.ofJson c (← Query.decode text)

/-- The condition of a query in a context. -/
def build (e : Engine m Condition) (c : Placeholder.Context) (q : Query) :
    ExceptT QueryError m Condition := do
  let today ← (c.evaluationDate : Except QueryError Date)
  e.backend.build ⟨e.catalog, today⟩ q

/-- The condition of a JSON value in a context. -/
def compileJson (e : Engine m Condition) (c : Placeholder.Context) (j : Json) :
    ExceptT QueryError m Condition := do
  e.build c (← (e.ofJson c j : Except QueryError Query))

/-- The condition of a text in a context. -/
def compile (e : Engine m Condition) (c : Placeholder.Context) (text : String) :
    ExceptT QueryError m Condition := do
  e.build c (← (e.parse c text : Except QueryError Query))

/-- The condition of a text in the words of the backend. -/
def render (e : Engine m Condition) (c : Placeholder.Context) (text : String) :
    ExceptT QueryError m String := do
  return e.backend.render (← e.compile c text)

end Engine

/-- Why a request for rows fails. -/
inductive RequestError (ε : Type) where
  /-- The query gives no condition. -/
  | query (e : QueryError)
  /-- The condition gives no rows. -/
  | execution (e : ε)

/-- The rows of a table that a query selects, as an executor finds them by a condition. -/
def Engine.execute {m : Type → Type} [Monad m] {Condition ε Rows : Type} (e : Engine m Condition)
    (executor : String → Condition → Except ε Rows) (c : Placeholder.Context)
    (table text : String) : ExceptT (RequestError ε) m Rows := do
  let condition ← (e.compile c text).adapt RequestError.query
  MonadExcept.ofExcept ((executor table condition).mapError RequestError.execution)

end FilterQuery
