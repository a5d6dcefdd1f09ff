import FilterQuery.Proofs.Operator.Relative

/-!
# What operators reject

An operator that is given a value it cannot use rejects the value, and says for which column. There
is no other error that a built-in operator makes, so nothing behind it has to name the column.
-/

namespace FilterQuery.Operator

/-- A value that is no text is rejected with the column. -/
theorem Input.requireText_eq_error {input : Input} {operator : String} {e : QueryError}
    (h : input.requireText operator = .error e) : ∃ reason, e = input.rejected .string reason := by
  unfold requireText at h
  split at h
  · cases h
  · cases h
    exact ⟨_, rfl⟩

/-- An operator whose errors are rejections of its value for its column. -/
def NamesColumn (op : Operator) : Prop :=
  ∀ input error, op.apply input = .error error →
    ∃ target reason, error = .coercion input.value.text target (some input.column) reason

theorem namesColumn_comparing (name : String) (types : List ScalarType) (relation : Relation)
    (description : String) : (comparing name types relation description).NamesColumn := by
  intro input error h
  cases h

theorem namesColumn_testing (name : String) (relation : Relation) (description : String) :
    (testing name relation description).NamesColumn := by
  intro input error h
  cases h

theorem namesColumn_matching (name : String) (make : String → String) (description : String) :
    (matching name make description).NamesColumn := by
  intro input error h
  obtain htext | ⟨text, -, hmade⟩ := bind_eq_error_iff.mp h
  · obtain ⟨reason, rfl⟩ := Input.requireText_eq_error htext
    exact ⟨.string, reason, rfl⟩
  · cases hmade

/-- A component is rejected where it is no whole number, and outside the bounds. -/
theorem namesColumn_extracting (name : String) (relation : Relation) (bounds : Option Bounds)
    (description : String) : (extracting name relation bounds description).NamesColumn := by
  intro input error h
  obtain hwhole | ⟨n, -, hbounds⟩ := bind_eq_error_iff.mp h
  · obtain ⟨reason, rfl⟩ := Input.requireWhole_eq_error hwhole
    exact ⟨.numeric, reason, rfl⟩
  · cases bounds with
    | none => cases hbounds
    | some b =>
      dsimp only at hbounds
      split at hbounds
      · cases hbounds
      · cases hbounds
        exact ⟨.numeric, _, rfl⟩

theorem namesColumn_counting (name : String) (span : Calendar.Span) (direction : Direction)
    (description : String) : (counting name span direction description).NamesColumn := by
  intro input error h
  obtain ⟨reason, rfl⟩ := relativeDate_eq_error h
  exact ⟨.numeric, reason, rfl⟩

/-- Every built-in operator names the column of a value that it rejects. -/
theorem namesColumn_builtin : ∀ op ∈ builtin, op.NamesColumn := by
  simp only [builtin, List.forall_mem_cons]
  refine ⟨?equals, ?notEquals, ?greaterThan, ?greaterThanEqual, ?lessThan, ?lessThanEqual, ?like,
    ?startsWith, ?endsWith, ?isNull, ?isNotNull, ?dayEqual, ?monthEqual, ?yearEqual, ?dayOfWeek,
    ?daysBefore, ?daysAfter, ?monthsBefore, ?monthsAfter, ?yearsBefore, ?yearsAfter,
    List.forall_mem_nil _⟩
  case equals | notEquals | greaterThan | greaterThanEqual | lessThan | lessThanEqual =>
    exact namesColumn_comparing _ _ _ _
  case like | startsWith | endsWith => exact namesColumn_matching _ _ _
  case isNull | isNotNull => exact namesColumn_testing _ _ _
  case dayEqual | monthEqual | yearEqual | dayOfWeek => exact namesColumn_extracting _ _ _ _
  case daysBefore | daysAfter | monthsBefore | monthsAfter | yearsBefore | yearsAfter =>
    exact namesColumn_counting _ _ _ _

end FilterQuery.Operator
