import FilterQuery.Condition.Building
import FilterQuery.Proofs.Operator.Resolution
import FilterQuery.Proofs.Outcome
import FilterQuery.Proofs.Scalar.Coercion

/-!
# What operators are applied to

Resolution looks at the types that an operator declares, and coercion comes behind it. A value that
has been coerced is null or of the declared type, but a count passes for a date, and nothing checks
that the operator has declared numbers as well. It matters to no operator that declares numbers
beside dates, as the built-in ones do, and to every other one that takes dates.
-/

namespace FilterQuery

/-- The values of the types that an operator declares, and null. -/
def Operator.Declares (op : Operator) (v : Scalar) : Prop :=
  v = .null ∨ ∃ t ∈ op.valueTypes, v.type? = some t

/-- An operator that declares dates, and not the numbers that pass for them. -/
def Operator.MissesCounts (op : Operator) : Prop :=
  .date ∈ op.valueTypes ∧ .numeric ∉ op.valueTypes

instance (op : Operator) : Decidable op.MissesCounts := inferInstanceAs (Decidable (_ ∧ _))

/-- What coercion to a declared type gives has been declared, unless it is a count and the
operator takes dates without counts. -/
theorem Operator.declares_or_missesCounts {op : Operator} {t : ScalarType} {v : Scalar}
    (htype : t ∈ op.valueTypes) (h : t.Yields v) :
    op.Declares v ∨ (op.MissesCounts ∧ t = .date ∧ ∃ n, v = .numeric n) := by
  cases h with
  | null => exact .inl (.inl rfl)
  | own hv => exact .inl (.inr ⟨t, htype, hv⟩)
  | count n =>
    by_cases hnumeric : .numeric ∈ op.valueTypes
    · exact .inl (.inr ⟨.numeric, hnumeric, rfl⟩)
    · exact .inr ⟨⟨htype, hnumeric⟩, rfl, n, rfl⟩

namespace Leaf

variable {l : Leaf} {env : Environment} {op : Operator} {v : Scalar}

/-- A leaf is resolved to the operator that it names and a type that this one declares. -/
theorem find?_of_resolve_eq_ok {c : Catalog} {r : Operator.Resolved} (h : l.resolve c = .ok r) :
    c.find? l.operator = some r.operator ∧ r.valueType ∈ r.operator.valueTypes := by
  have hr : c.find? l.operator = some r.operator ∧
      r.operator.supports l.fieldType r.valueType = true := by
    rw [resolve] at h
    split at h
    · exact Catalog.find?_of_resolveAs h
    · exact Catalog.find?_of_resolve h
  refine ⟨hr.1, ?_⟩
  simpa [Operator.supports] using (Bool.and_eq_true_iff.mp hr.2).2

/-- The value that an operator is given is null or has been coerced to the type of the operator. -/
theorem operand_eq_ok {r : Operator.Resolved} (h : l.operand r = .ok v) :
    v = .null ∨ Scalar.coerce l.value r.valueType = .ok v := by
  rw [operand] at h
  split at h
  · exact .inl (Except.ok.inj h).symm
  · exact .inr (mapError_eq_ok_iff.mp h)

/-- A leaf has an operator applied to a value. -/
def Applies (l : Leaf) (env : Environment) (op : Operator) (v : Scalar) : Prop :=
  ∃ t, l.resolve env.catalog = .ok ⟨op, t⟩ ∧ l.operand ⟨op, t⟩ = .ok v

/-- The comparison of a leaf is the one that its operator makes of the value. -/
theorem Applies.comparison_eq (h : l.Applies env op v) :
    l.comparison env = op.apply ⟨l.column, v, env.today⟩ := by
  obtain ⟨t, hresolve, hoperand⟩ := h
  simp only [comparison, hresolve, hoperand, bind, Except.bind]

/-- An operator is applied to a value of the type that it chooses, or that the leaf fixes alike. -/
theorem applies_of_coerce {t : ScalarType} (hfind : env.catalog.find? l.operator = some op)
    (hfield : l.fieldType ∈ op.fieldTypes) (hchooses : op.Chooses l.fieldType t)
    (htype : l.valueType = none ∨ l.valueType = some t) (huses : op.ignoresValue = false)
    (hcoerce : Scalar.coerce l.value t = .ok v) : l.Applies env op v := by
  have hsupports : op.supports l.fieldType t = true := by
    simp [Operator.supports, hfield, hchooses.mem]
  refine ⟨t, ?_, ?_⟩
  · rcases htype with hnone | hsome
    · rw [resolve, hnone]
      exact (Catalog.resolve_eq hfind hchooses).trans (if_pos hfield)
    · rw [resolve, hsome]
      exact (Catalog.resolveAs_eq hfind).trans (if_pos hsupports)
  · rw [operand, if_neg (by simp [huses]), hcoerce]
    rfl

/-- The operator that is applied is the one that the leaf names. -/
theorem Applies.find?_eq (h : l.Applies env op v) : env.catalog.find? l.operator = some op := by
  obtain ⟨t, hresolve, -⟩ := h
  exact (find?_of_resolve_eq_ok hresolve).1

/-- An operator is applied to a declared value, or to a count that it misses. -/
theorem Applies.declares_or_count (h : l.Applies env op v) :
    op.Declares v ∨
      (op.MissesCounts ∧ (∃ n, v = .numeric n) ∧ Scalar.coerce l.value .date = .ok v) := by
  obtain ⟨t, hresolve, hoperand⟩ := h
  have htype : t ∈ op.valueTypes := (find?_of_resolve_eq_ok hresolve).2
  rcases operand_eq_ok hoperand with rfl | hcoerce
  · exact .inl (.inl rfl)
  · have hvalue := Operator.declares_or_missesCounts htype (Scalar.yields_of_coerce hcoerce)
    rcases hvalue with hdeclares | ⟨hmisses, rfl, hcount⟩
    · exact .inl hdeclares
    · exact .inr ⟨hmisses, hcount, hcoerce⟩

/-- An operator that looks at the column alone is applied to null. -/
theorem Applies.eq_null (h : l.Applies env op v) (hignores : op.ignoresValue = true) :
    v = .null := by
  obtain ⟨t, -, hoperand⟩ := h
  rw [operand, if_pos hignores] at hoperand
  exact (Except.ok.inj hoperand).symm

/-- A leaf that has no operator applied is an error. -/
theorem comparison_of_not_applies (h : ∀ op v, ¬ l.Applies env op v) :
    ∃ e, l.comparison env = .error e := by
  cases hresolve : l.resolve env.catalog with
  | error e => exact ⟨e, by simp only [comparison, hresolve, bind, Except.bind]⟩
  | ok r =>
    cases hoperand : l.operand r with
    | error e => exact ⟨e, by simp only [comparison, hresolve, hoperand, bind, Except.bind]⟩
    | ok v => exact absurd ⟨r.valueType, hresolve, hoperand⟩ (h r.operator v)

/-- A leaf that asks for a date of an operator and gives it a number. -/
def counting (op : Operator) (fieldType : ScalarType) : Leaf :=
  ⟨fieldType, "d", op.name, .number (.whole 5), some .date⟩

/-- The number reaches an operator that takes dates. -/
theorem applies_counting {fieldType : ScalarType} (hfind : env.catalog.find? op.name = some op)
    (hfield : fieldType ∈ op.fieldTypes) (hdate : .date ∈ op.valueTypes)
    (hvalue : op.ignoresValue = false) :
    ∃ n, (counting op fieldType).Applies env op (.numeric n) := by
  have hsupports : op.supports fieldType .date = true := by
    simp [Operator.supports, hfield, hdate]
  refine ⟨⟨false, 5, 0, by decide, by decide⟩, .date, ?_, ?_⟩
  · change env.catalog.resolveAs op.name fieldType .date = _
    rw [Catalog.resolveAs_eq hfind, if_pos hsupports]
  · rw [operand, hvalue]
    rfl

end Leaf

/-- What the operators of a catalog are applied to by leaves. -/
structure Environment.AppliesDeclared (env : Environment) : Prop where
  /-- The value has been declared, or it is a count and the operator misses counts. -/
  of_applies : ∀ (l : Leaf) op v, l.Applies env op v →
    env.catalog.find? l.operator = some op ∧
      l.comparison env = op.apply ⟨l.column, v, env.today⟩ ∧ (op.Declares v ∨
        (op.MissesCounts ∧ (∃ n, v = .numeric n) ∧ Scalar.coerce l.value .date = .ok v))
  /-- A leaf that has no operator applied is an error. -/
  of_not_applies : ∀ l : Leaf, (∀ op v, ¬ l.Applies env op v) → ∃ e, l.comparison env = .error e
  /-- An operator sees declared values alone exactly when it looks at none, or misses no
  counts. -/
  declares_iff : ∀ op ∈ env.catalog.operators,
    (∀ (l : Leaf) v, l.Applies env op v → op.Declares v) ↔
      (op.ignoresValue = true ∨ ¬ op.MissesCounts)

/-- In a filled catalog undeclared values are counts, and they reach the operators that miss
counts. -/
theorem Catalog.applies_declared_or_count {c : Catalog} (h : c.Filled) (today : Date) :
    Environment.AppliesDeclared ⟨c, today⟩ := by
  refine ⟨?of_applies, ?of_not_applies, ?declares_iff⟩
  case of_applies =>
    intro l op v happlies
    exact ⟨happlies.find?_eq, happlies.comparison_eq, happlies.declares_or_count⟩
  case of_not_applies => exact fun l hnot => Leaf.comparison_of_not_applies hnot
  case declares_iff =>
    intro op hop
    constructor
    · intro hdeclares
      by_contra! hnot
      obtain ⟨hvalue, hdate, hnumeric⟩ := hnot
      obtain ⟨fieldType, hfield⟩ := List.exists_mem_of_ne_nil _ (h.fit op hop).fieldTypes_ne_nil
      have hfind : c.find? op.name = some op := find?_eq_some_iff.mpr ⟨hop, rfl⟩
      obtain ⟨n, hcount⟩ :
          ∃ n, (Leaf.counting op fieldType).Applies ⟨c, today⟩ op (.numeric n) :=
        Leaf.applies_counting hfind hfield hdate (Bool.eq_false_iff.mpr hvalue)
      rcases hdeclares _ _ hcount with hnull | ⟨t, ht, htype⟩
      · cases hnull
      · cases htype
        exact hnumeric ht
    · rintro (hignores | hnot) l v happlies
      · exact .inl (happlies.eq_null hignores)
      · exact happlies.declares_or_count.resolve_right fun hcount => hnot hcount.1

/-- Equality of days, which takes dates and no numbers. -/
def Operator.onDay : Operator := .comparing "onDay" [.date] .eq ""

theorem Catalog.registerAll_onDay : empty.registerAll [.onDay] = .ok (empty.register .onDay) := rfl

/-- A leaf that asks for one of the days with a number, and not for a type of values. -/
def Leaf.onDayFive : Leaf := ⟨.date, "d", "onDay", .number (.whole 5), none⟩

/-- The number passes for a date and reaches an operator that has not declared it. -/
theorem Leaf.onDayFive_applies_undeclared :
    let env : Environment := ⟨Catalog.empty.register .onDay, ⟨2025, 8, 21, by decide⟩⟩
    let five : Scalar := .numeric ⟨false, 5, 0, by decide, by decide⟩
    Catalog.empty.registerAll [.onDay] = .ok env.catalog ∧
      Leaf.onDayFive.Applies env .onDay five ∧ ¬ Operator.onDay.Declares five ∧
        Leaf.onDayFive.comparison env = .ok ⟨"d", .eq, five⟩ := by
  intro env five
  have hdeclares : ¬ Operator.onDay.Declares five := by
    simp [Operator.Declares, Operator.onDay, Operator.comparing, five, Scalar.type?]
  exact ⟨Catalog.registerAll_onDay, ⟨.date, rfl, rfl⟩, hdeclares, rfl⟩

/-- In a catalog with that operator alone, what it is applied to need not have been declared. -/
theorem Catalog.applies_declared_or_count_onDay :
    let c := empty.register .onDay
    c.Filled ∧ Environment.AppliesDeclared ⟨c, ⟨2025, 8, 21, by decide⟩⟩ ∧
      ¬ ∀ (l : Leaf) v, l.Applies ⟨c, ⟨2025, 8, 21, by decide⟩⟩ .onDay v →
        Operator.onDay.Declares v := by
  intro c
  have hfilled : c.Filled := .registerAll .empty registerAll_onDay
  have happlies := applies_declared_or_count hfilled ⟨2025, 8, 21, by decide⟩
  have hmisses : Operator.onDay.MissesCounts := by decide
  refine ⟨hfilled, happlies, fun hdeclares => ?_⟩
  rcases (happlies.declares_iff .onDay (List.mem_singleton.mpr rfl)).mp hdeclares with h | h
  · cases h
  · exact h hmisses

end FilterQuery
