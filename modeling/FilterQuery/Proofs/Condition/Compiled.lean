import FilterQuery.Engine
import FilterQuery.Proofs.Condition.Operand
import FilterQuery.Proofs.Condition.Tree
import FilterQuery.Proofs.Operator.Typing
import FilterQuery.Proofs.Query.Reading

/-!
# Where comparisons come from

The comparisons of a compiled text are those of the leaves of a well-formed query, each made by an
operator of the catalog from the column of its leaf, a coerced value and the context's date. For
the built-in operators this settles what a comparison looks like.
-/

namespace FilterQuery

namespace Leaf

/-- The comparison of a leaf is made by a built-in operator of the leaf's column, a value that the
operator takes, and today. -/
theorem sound_of_comparison {l : Leaf} {today : Date} {c : Comparison}
    (h : l.comparison ⟨.builtin, today⟩ = .ok c) :
    ∃ v : Scalar, Operator.Sound ⟨l.column, v, today⟩ c ∧ ∀ d, v = .date d → d.HasPlainYear := by
  obtain ⟨r, hr, h⟩ := bind_eq_ok_iff.mp h
  obtain ⟨v, hv, happly⟩ := bind_eq_ok_iff.mp h
  obtain ⟨hfind, htype⟩ := find?_of_resolve_eq_ok hr
  have hmem := Catalog.mem_builtin_of_mem (Catalog.find?_eq_some_iff.mp hfind).1
  have htyped := Operator.wellTyped_builtin r.operator hmem
  rcases operand_eq_ok hv with rfl | hcoerce
  · exact ⟨.null, htyped _ r.valueType c htype (.null _) happly, fun _ hd => nomatch hd⟩
  · refine ⟨v, htyped _ r.valueType c htype (Scalar.yields_of_coerce hcoerce) happly, ?_⟩
    rintro d rfl
    exact Scalar.hasPlainYear_of_coerce hcoerce

end Leaf

namespace Engine

/-- The query of a JSON value is well formed. -/
theorem wellFormed_of_ofJson {m : Type → Type} {Condition : Type} {e : Engine m Condition}
    {c : Placeholder.Context} {j : Json} {q : Query} (h : e.ofJson c j = .ok q) :
    q.WellFormed := by
  obtain ⟨substituted, -, h⟩ := bind_eq_ok_iff.mp h
  exact (Query.ofJson_eq_ok_iff.mp h).2.2

/-- The query of a text is well formed. -/
theorem wellFormed_of_parse {m : Type → Type} {Condition : Type} {e : Engine m Condition}
    {c : Placeholder.Context} {text : String} {q : Query} (h : e.parse c text = .ok q) :
    q.WellFormed := by
  obtain ⟨j, -, h⟩ := bind_eq_ok_iff.mp h
  exact wellFormed_of_ofJson h

variable {m : Type → Type} [Monad m] [LawfulMonad m] {Condition : Type}

/-- A fallible step without effects either ends a request or lets it go on. -/
theorem run_except_bind {α β : Type} (x : Except QueryError α) (f : α → ExceptT QueryError m β) :
    ((x : ExceptT QueryError m α) >>= f).run =
      match x with
      | .error error => pure (.error error)
      | .ok a => (f a).run := by
  cases x <;> simp [liftM, monadLift, MonadLift.monadLift, ExceptT.run_bind]

/-- A query is built on the date of the context, if it has one. -/
theorem run_build (e : Engine m Condition) (c : Placeholder.Context) (q : Query) :
    (e.build c q).run =
      match c.evaluationDate with
      | .error error => pure (.error error)
      | .ok today => (e.backend.build ⟨e.catalog, today⟩ q).run := by
  rw [build, run_except_bind]
  cases c.evaluationDate <;> rfl

/-- The query of a text is built where the text is a query and the context has a date. -/
theorem run_compile (e : Engine m Condition) (c : Placeholder.Context) (text : String) :
    (e.compile c text).run =
      match e.parse c text with
      | .error error => pure (.error error)
      | .ok q =>
        match c.evaluationDate with
        | .error error => pure (.error error)
        | .ok today => (e.backend.build ⟨e.catalog, today⟩ q).run := by
  rw [compile, run_except_bind]
  cases e.parse c text with
  | error error => rfl
  | ok q => exact e.run_build c q

/-- What a backend without effects compiles a text to is made of the tree of a well-formed query. -/
theorem compile_eq_ok {e : Engine Id Condition} {c : Placeholder.Context} {text : String}
    {condition : Condition} (h : (e.compile c text).run = Except.ok condition) :
    ∃ (q : Query) (today : Date) (t : JoinTree Comparison), q.WellFormed ∧
      c.evaluationDate = .ok today ∧ q.tree ⟨e.catalog, today⟩ = .ok t ∧
        e.backend.make t = condition := by
  rw [run_compile] at h
  cases hq : e.parse c text with
  | error error =>
    rw [hq] at h
    cases h
  | ok q =>
    cases hdate : c.evaluationDate with
    | error error =>
      simp only [hq, hdate] at h
      cases h
    | ok today =>
      simp only [hq, hdate, Backend.run_build_eq_tree] at h
      obtain ⟨t, ht, hmake⟩ := map_eq_ok_iff.mp h
      exact ⟨q, today, t, wellFormed_of_parse hq, rfl, ht, hmake⟩

end Engine

end FilterQuery
