import FilterQuery.Query.Validation

/-!
# What validation accepts

A query is well formed when no way down from its root passes more than `maxDepth` nodes and each of
its leaves is well formed by itself. `validate` reports an offence exactly where that fails, so the
level which it carries down and its checks of single leaves do not get into each other's way.
-/

namespace FilterQuery

/-- A leaf that names a column and an operator and has a single value. -/
structure Leaf.WellFormed (l : Leaf) : Prop where
  /-- The column is not blank. -/
  column : Text.isBlankText l.column = false
  /-- The operator is not blank. -/
  operator : Text.isBlankText l.operator = false
  /-- The value is neither an array nor an object. -/
  value : l.value.isScalar

/-- Nothing is wrong exactly with well-formed leaves. -/
theorem Leaf.malformation?_eq_none_iff (l : Leaf) : l.malformation? = none ↔ l.WellFormed := by
  rw [malformation?]
  constructor
  · intro h
    split at h
    · cases h
    · rename_i hcolumn
      split at h
      · cases h
      · rename_i hoperator
        split at h
        · cases h
        · rename_i hvalue
          exact ⟨by simpa using hcolumn, by simpa using hoperator, by simpa using hvalue⟩
  · rintro ⟨hcolumn, hoperator, hvalue⟩
    simp [hcolumn, hoperator, hvalue]

namespace Query

/-- A query of at most `maxDepth` levels whose leaves are well formed. -/
structure WellFormed (q : Query) : Prop where
  /-- No node stands on a level beyond the last. -/
  depth_le : q.depth ≤ maxDepth
  /-- Each leaf is well formed by itself. -/
  leaf : ∀ l ∈ q.leaves, l.WellFormed

mutual

/-- A query whose root stands on a level has no offence exactly when it ends within the levels and
its leaves are well formed. -/
theorem malformationAt?_eq_none_iff : (level : Nat) → (q : Query) →
    (malformationAt? level q = none ↔
      level + q.depth ≤ maxDepth + 1 ∧ ∀ l ∈ q.leaves, l.WellFormed)
  | level, .leaf l => by
    rw [malformationAt?, depth, leaves, List.forall_mem_singleton]
    by_cases hlevel : maxDepth < level
    · simp only [hlevel, ite_true, reduceCtorEq, false_iff, not_and]
      omega
    · rw [if_neg hlevel, l.malformation?_eq_none_iff]
      simp only [iff_and_self]
      omega
  | level, .join k children => by
    rw [malformationAt?, depth, leaves]
    by_cases hlevel : maxDepth < level
    · simp only [hlevel, ite_true, reduceCtorEq, false_iff, not_and]
      omega
    · rw [if_neg hlevel, malformationOfAllAt?_eq_none_iff (level + 1) (by omega) children,
        Nat.add_assoc]

/-- Queries in a row on a level have no offence exactly when all of them end within the levels and
their leaves are well formed. -/
theorem malformationOfAllAt?_eq_none_iff : (level : Nat) → level ≤ maxDepth + 1 →
    (qs : List Query) → (malformationOfAllAt? level qs = none ↔
      level + depthOfAll qs ≤ maxDepth + 1 ∧ ∀ l ∈ leavesOfAll qs, l.WellFormed)
  | level, hlevel, [] => by
    simp only [malformationOfAllAt?, depthOfAll, leavesOfAll, List.not_mem_nil, true_iff]
    exact ⟨hlevel, nofun⟩
  | level, hlevel, q :: qs => by
    have hq := malformationAt?_eq_none_iff level q
    have hqs := malformationOfAllAt?_eq_none_iff level hlevel qs
    have hmax : level + max q.depth (depthOfAll qs) ≤ maxDepth + 1 ↔
        level + q.depth ≤ maxDepth + 1 ∧ level + depthOfAll qs ≤ maxDepth + 1 := by omega
    rw [malformationOfAllAt?, depthOfAll, leavesOfAll, hmax, List.forall_mem_append]
    cases hfirst : malformationAt? level q with
    | some m =>
      simp only [hfirst, reduceCtorEq, false_iff] at hq ⊢
      rintro ⟨⟨hdepth, -⟩, hleaves, -⟩
      exact hq ⟨hdepth, hleaves⟩
    | none =>
      obtain ⟨hdepth, hleaves⟩ := hq.mp hfirst
      simp only [hqs]
      constructor
      · rintro ⟨hrest, hrestLeaves⟩
        exact ⟨⟨hdepth, hrest⟩, hleaves, hrestLeaves⟩
      · rintro ⟨⟨-, hrest⟩, -, hrestLeaves⟩
        exact ⟨hrest, hrestLeaves⟩

end

/-- Validation accepts exactly the well-formed queries. -/
theorem validate_eq_ok_iff (q : Query) : q.validate = .ok () ↔ q.WellFormed := by
  have hnone := malformationAt?_eq_none_iff 1 q
  rw [validate]
  cases h : q.malformationAt? 1 with
  | some m =>
    simp only [h, reduceCtorEq, false_iff] at hnone ⊢
    intro hq
    exact hnone ⟨by have := hq.depth_le; omega, hq.leaf⟩
  | none =>
    obtain ⟨hdepth, hleaves⟩ := hnone.mp h
    simp only [true_iff]
    exact ⟨by omega, hleaves⟩

/-- What validation does not accept is malformed. -/
theorem validate_eq_ok_or_malformed (q : Query) :
    q.validate = .ok () ∨ ∃ m, q.validate = .error (.malformed m) := by
  rw [validate]
  cases q.malformationAt? 1 with
  | some m => exact .inr ⟨m, rfl⟩
  | none => exact .inl rfl

end Query

end FilterQuery
