import FilterQuery.Proofs.Condition.Evaluation
import FilterQuery.Proofs.Condition.Operand
import FilterQuery.Proofs.Operator.Rejection

/-!
# Rejected values

A leaf comes to no comparison when its operator is unknown or does not fit, when its value does not
become what the operator asks for, or when the operator rejects the value. The last two name the
column of the leaf, and a build passes on the error of the first leaf that fails. So a rejected
value is always reported with the column that it was meant for.
-/

namespace FilterQuery

namespace Catalog

variable {c : Catalog} {name : String} {fieldType valueType : ScalarType} {e : QueryError}

/-- A name that is bound to nothing has no operator for the two types. -/
theorem bind_eq_error (h : c.bind name fieldType valueType = .error e) :
    e = .typeMismatch name fieldType valueType := by
  rw [bind] at h
  split at h
  · cases h
  · exact (Except.error.inj h).symm

end Catalog

namespace Leaf

variable {l : Leaf} {env : Environment} {e : QueryError}

/-- A leaf is not resolved where its operator is unknown or does not take its types. -/
theorem resolve_eq_error {c : Catalog} (h : l.resolve c = .error e) :
    e = .unknownOperator l.operator ∨ ∃ t, e = .typeMismatch l.operator l.fieldType t := by
  rw [resolve] at h
  split at h
  · rw [Catalog.resolveAs] at h
    split at h
    · exact .inr ⟨_, Catalog.bind_eq_error h⟩
    · exact .inl (Except.error.inj h).symm
  · rw [Catalog.resolve] at h
    split at h
    · exact .inr ⟨_, Catalog.bind_eq_error h⟩
    · exact .inl (Except.error.inj h).symm

/-- The ways in which the value of a leaf is rejected, each of which names the column. -/
inductive Rejected (env : Environment) (l : Leaf) : QueryError → Prop
  /-- The value does not become one of the type that its operator asks for. -/
  | coerced {r : Operator.Resolved} {reason : Rejection}
    (hresolve : l.resolve env.catalog = .ok r)
    (h : Scalar.coerce l.value r.valueType = .error (.rejected l.value.text r.valueType reason)) :
    l.Rejected env (.coercion l.value.text r.valueType (some l.column) reason)
  /-- It does, and the operator rejects it. -/
  | applied {op : Operator} {v : Scalar} {target : ScalarType} {reason : Rejection}
    (happlies : l.Applies env op v)
    (h : op.apply ⟨l.column, v, env.today⟩ =
      .error (.coercion v.text target (some l.column) reason)) :
    l.Rejected env (.coercion v.text target (some l.column) reason)

theorem Rejected.column_eq {value : String} {target : ScalarType} {column : Option String}
    {reason : Rejection} (h : l.Rejected env (.coercion value target column reason)) :
    column = some l.column := by
  cases h <;> rfl

/-- A value that an operator is not given has been rejected by coercion. -/
theorem rejected_of_operand_eq_error {r : Operator.Resolved}
    (hresolve : l.resolve env.catalog = .ok r) (h : l.operand r = .error e) :
    l.Rejected env e := by
  rw [operand] at h
  split at h
  · cases h
  · obtain ⟨v, hv⟩ | ⟨reason, hreason⟩ := Scalar.coerce_eq_ok_or_rejected l.value r.valueType
    · rw [hv] at h
      cases h
    · rw [hreason] at h
      cases h
      exact .coerced hresolve hreason

/-- With operators that name the column, a leaf fails to resolve, or its value is rejected. -/
theorem resolve_eq_error_or_rejected (hnames : ∀ op ∈ env.catalog.operators, op.NamesColumn)
    (h : l.comparison env = .error e) : l.resolve env.catalog = .error e ∨ l.Rejected env e := by
  obtain hresolve | ⟨r, hresolve, h⟩ := bind_eq_error_iff.mp h
  · exact .inl hresolve
  · refine .inr ?_
    obtain hoperand | ⟨v, hoperand, happly⟩ := bind_eq_error_iff.mp h
    · exact rejected_of_operand_eq_error hresolve hoperand
    · have hfind := (find?_of_resolve_eq_ok hresolve).1
      have hmem : r.operator ∈ env.catalog.operators := (Catalog.find?_eq_some_iff.mp hfind).1
      obtain ⟨target, reason, rfl⟩ := hnames r.operator hmem _ _ happly
      exact .applied ⟨r.valueType, hresolve, hoperand⟩ happly

/-- A coercion error of a leaf is the rejection of its value. -/
theorem rejected_of_comparison {today : Date} {value : String} {target : ScalarType}
    {column : Option String} {reason : Rejection}
    (h : l.comparison ⟨.builtin, today⟩ = .error (.coercion value target column reason)) :
    l.Rejected ⟨.builtin, today⟩ (.coercion value target column reason) := by
  have hnames : ∀ op ∈ Catalog.builtin.operators, op.NamesColumn :=
    fun op hop => Operator.namesColumn_builtin op (Catalog.mem_builtin_of_mem hop)
  obtain hresolve | hrejected := resolve_eq_error_or_rejected hnames h
  · obtain herror | ⟨t, herror⟩ := resolve_eq_error hresolve
    · cases herror
    · cases herror
  · exact hrejected

end Leaf

namespace Query

variable {env : Environment} {q : Query} {e : QueryError}

/-- A leaf of a query comes to no comparison, and all leaves before it come to one. -/
structure FailsFirst (env : Environment) (q : Query) (l : Leaf) (e : QueryError) : Prop where
  /-- The error of the leaf. -/
  error : l.comparison env = .error e
  /-- The leaves before it. -/
  first : ∃ before after, q.leaves = before ++ l :: after ∧
    ∀ x ∈ before, ∃ comparison, x.comparison env = .ok comparison

/-- A query without tree has the error of its first leaf that fails, unless it has a node that joins
nothing. -/
theorem exists_failsFirst (h : errorOf? (q.tree env) = some e)
    (hcomposite : ∀ node, e ≠ .emptyComposite node) : ∃ l, q.FailsFirst env l e := by
  rw [← findSome?_fault_nodes] at h
  obtain ⟨before, n, after, hnodes, hn, hbefore⟩ := List.findSome?_eq_some_iff.mp h
  match n with
  | .join k [] =>
    cases hn
    exact absurd rfl (hcomposite k.nodeName)
  | .join k (_ :: _) => cases hn
  | .leaf l =>
    refine ⟨l, fault?_leaf_eq_some_iff.mp hn, before.filterMap leaf?, after.filterMap leaf?, ?_, ?_⟩
    · rw [← filterMap_leaf_nodes q, hnodes, List.filterMap_append]
      rfl
    · intro x hx
      obtain ⟨node, hnode, hleaf⟩ := List.mem_filterMap.mp hx
      match node with
      | .join _ _ => cases hleaf
      | .leaf _ =>
        cases hleaf
        exact fault?_leaf_eq_none_iff.mp (hbefore _ hnode)

end Query

namespace Backend

variable {m : Type → Type} [Monad m] [LawfulMonad m] {Condition : Type}

/-- With the built-in operators a coercion error of a build is that of the first leaf which fails.
It names the column of that leaf, whether the value was rejected by coercion or by the operator, and
keeps it whatever other column it is given. -/
theorem build_names_rejected_column (b : Backend m Condition) (today : Date) (q : Query) :
    Always (b.build ⟨.builtin, today⟩ q).run fun result => ∀ value target column reason,
      result = .error (.coercion value target column reason) →
        ∃ l, q.FailsFirst ⟨.builtin, today⟩ l (.coercion value target column reason) ∧
          l.Rejected ⟨.builtin, today⟩ (.coercion value target column reason) ∧
          column = some l.column ∧
          ∀ other, (QueryError.coercion value target column reason).withColumn other =
            .coercion value target column reason := by
  refine (b.always_errorOf_build ⟨.builtin, today⟩ q).imp ?_
  rintro _ htree value target column reason rfl
  obtain ⟨l, hl⟩ := Query.exists_failsFirst htree.symm fun _ => nofun
  have hrejected := Leaf.rejected_of_comparison hl.error
  obtain rfl := hrejected.column_eq
  exact ⟨l, hl, hrejected, rfl, fun _ => rfl⟩

/-- A null that an operator on texts rejects, and a text that is no number: whichever comes first is
reported, and a node that joins nothing is not met any more. -/
theorem build_names_rejected_column_twice :
    let env : Environment := ⟨.builtin, .dayOne⟩
    let text : Leaf := ⟨.string, "b", "like", .null, none⟩
    let number : Leaf := ⟨.numeric, "n", "equals", .string "x", none⟩
    let q (l l' : Leaf) := Query.join .or [.leaf ⟨.date, "a", "isNull", .array [], none⟩,
      .join .and [.leaf l, .leaf l'], .join .or []]
    let byOperator := QueryError.coercion "null" .string (some "b") (.textRequired "like")
    let byCoercion := QueryError.coercion (Json.string "x").text .numeric (some "n") .notDecimal
    (JoinTree.backend.build env (q text number)).run = Except.error byOperator ∧
    (∃ l, (q text number).FailsFirst env l byOperator ∧ l.Rejected env byOperator ∧
      some "b" = some l.column ∧ ∀ other, byOperator.withColumn other = byOperator) ∧
    (JoinTree.backend.build env (q number text)).run = Except.error byCoercion ∧
    ∃ l, (q number text).FailsFirst env l byCoercion ∧ l.Rejected env byCoercion ∧
      some "n" = some l.column ∧ ∀ other, byCoercion.withColumn other = byCoercion := by
  intro env text number q byOperator byCoercion
  have hoperator := (build_names_rejected_column JoinTree.backend .dayOne (q text number)).of_id
  have hcoercion := (build_names_rejected_column JoinTree.backend .dayOne (q number text)).of_id
  exact ⟨rfl, hoperator _ _ _ _ rfl, rfl, hcoercion _ _ _ _ rfl⟩

end Backend

end FilterQuery
