import FilterQuery.Operator.Resolution
import FilterQuery.Proofs.Operator.Registration

/-!
# Complete resolution

A name for columns of a type is unknown, resolved or mismatched, and which of the three depends on
the operator of that name alone. The type of the value never makes a mismatch by itself, since it
is chosen among those that the operator declares, and lists that fill a catalog declare some for
every operator. So the operators listed for a type are those that resolve for it.
-/

namespace FilterQuery

/-- The type that the value of a column has to have: the type of the column if the operator takes
values of it, and the first that it declares if not. -/
def Operator.Chooses (op : Operator) (fieldType valueType : ScalarType) : Prop :=
  (fieldType ∈ op.valueTypes ∧ valueType = fieldType) ∨
    (fieldType ∉ op.valueTypes ∧ op.valueTypes.head? = some valueType)

theorem Operator.Chooses.mem {op : Operator} {fieldType valueType : ScalarType}
    (h : op.Chooses fieldType valueType) : valueType ∈ op.valueTypes := by
  rcases h with ⟨hmem, rfl⟩ | ⟨-, hhead⟩
  · exact hmem
  · exact List.mem_of_head? hhead

namespace Catalog

variable {c : Catalog} {name : String} {fieldType valueType : ScalarType} {op : Operator}

/-- A type is preferred exactly when the operator chooses it. -/
theorem preferredType?_eq_some_iff :
    preferredType? fieldType op.valueTypes = some valueType ↔ op.Chooses fieldType valueType := by
  rw [preferredType?, Operator.Chooses]
  by_cases h : fieldType ∈ op.valueTypes
  · simp [h, eq_comm]
  · simp [h]

/-- An operator that takes values of some type chooses one. -/
theorem exists_chooses (h : op.valueTypes ≠ []) (fieldType : ScalarType) :
    ∃ valueType, op.Chooses fieldType valueType := by
  by_cases hmem : fieldType ∈ op.valueTypes
  · exact ⟨fieldType, .inl ⟨hmem, rfl⟩⟩
  · exact ⟨op.valueTypes.head h, .inr ⟨hmem, List.head?_eq_some_head h⟩⟩

/-- A name is bound to its operator if the operator takes both types. -/
theorem bind_eq (hfind : c.find? name = some op) :
    c.bind name fieldType valueType =
      if op.supports fieldType valueType then .ok ⟨op, valueType⟩
      else .error (.typeMismatch name fieldType valueType) := by
  rw [bind, lookup?_eq, hfind]
  by_cases h : op.supports fieldType valueType = true
  · simp [h, Option.filter]
  · simp [h, Option.filter]

/-- What a name is bound to is its operator, which takes both types. -/
theorem find?_of_bind {r : Operator.Resolved} (h : c.bind name fieldType valueType = .ok r) :
    c.find? name = some r.operator ∧ r.operator.supports fieldType r.valueType = true := by
  rw [bind] at h
  split at h
  · rename_i op hop
    cases h
    rw [lookup?_eq] at hop
    exact Option.filter_eq_some_iff.mp hop
  · cases h

/-- What a name resolves to is its operator, which takes both types. -/
theorem find?_of_resolve {r : Operator.Resolved} (h : c.resolve name fieldType = .ok r) :
    c.find? name = some r.operator ∧ r.operator.supports fieldType r.valueType = true := by
  rw [resolve] at h
  split at h
  · exact find?_of_bind h
  · cases h

/-- What a name for two types resolves to is its operator, which takes both. -/
theorem find?_of_resolveAs {r : Operator.Resolved}
    (h : c.resolveAs name fieldType valueType = .ok r) :
    c.find? name = some r.operator ∧ r.operator.supports fieldType r.valueType = true := by
  rw [resolveAs] at h
  split at h
  · exact find?_of_bind h
  · cases h

/-- A name for two types resolves to its operator if the operator takes both. -/
theorem resolveAs_eq (hfind : c.find? name = some op) :
    c.resolveAs name fieldType valueType =
      if op.supports fieldType valueType then .ok ⟨op, valueType⟩
      else .error (.typeMismatch name fieldType valueType) := by
  rw [resolveAs, contains_eq_isSome, hfind, bind_eq hfind]
  rfl

/-- A name without operator is unknown. -/
theorem resolve_of_find?_eq_none (hfind : c.find? name = none) :
    c.resolve name fieldType = .error (.unknownOperator name) := by
  rw [resolve, valueTypes, hfind]
  rfl

/-- Once the operator has chosen, only the type of the column decides. -/
theorem resolve_eq (hfind : c.find? name = some op) (hchooses : op.Chooses fieldType valueType) :
    c.resolve name fieldType =
      if fieldType ∈ op.fieldTypes then .ok ⟨op, valueType⟩
      else .error (.typeMismatch name fieldType valueType) := by
  have hsupports : op.supports fieldType valueType = true ↔ fieldType ∈ op.fieldTypes := by
    simp [Operator.supports, hchooses.mem]
  rw [resolve, valueTypes, hfind]
  simp only [preferredType?_eq_some_iff.mpr hchooses, bind_eq hfind, hsupports]

/-- What resolving a name for columns of a type comes to. -/
structure Resolves (c : Catalog) (name : String) (fieldType : ScalarType) : Prop where
  /-- The name is unknown exactly when no operator is registered under it. -/
  unknown_iff : c.resolve name fieldType = .error (.unknownOperator name) ↔ name ∉ c.names
  /-- It resolves exactly when its operator takes columns of the type. -/
  ok_iff : (∃ r, c.resolve name fieldType = .ok r) ↔
    ∃ op, c.find? name = some op ∧ fieldType ∈ op.fieldTypes
  /-- It then resolves to its operator and the type that this one chooses, and to the same if that
  type is asked for. -/
  of_ok : ∀ r, c.resolve name fieldType = .ok r → c.find? name = some r.operator ∧
    r.operator.Chooses fieldType r.valueType ∧ c.resolveAs name fieldType r.valueType = .ok r
  /-- It is mismatched, with the type that the operator chooses, if this one does not take columns
  of the type. -/
  mismatched : ∀ op, c.find? name = some op → fieldType ∉ op.fieldTypes → ∃ valueType,
    op.Chooses fieldType valueType ∧
      c.resolve name fieldType = .error (.typeMismatch name fieldType valueType)

/-- Resolution is complete in a catalog whose operators take values of some type. -/
theorem resolves_of_fit (h : ∀ op ∈ c.operators, op.Fit) (name : String)
    (fieldType : ScalarType) : c.Resolves name fieldType := by
  have hlisted : name ∈ c.names ↔ (c.find? name).isSome = true := by
    rw [← contains_eq_isSome, contains, List.contains_iff_mem]
  cases hfind : c.find? name with
  | none =>
    have hunknown : c.resolve name fieldType = .error (.unknownOperator name) :=
      resolve_of_find?_eq_none hfind
    have hnot : name ∉ c.names := by simp [hlisted, hfind]
    constructor
    · exact ⟨fun _ => hnot, fun _ => hunknown⟩
    · simp [hunknown, hfind]
    · simp [hunknown]
    · simp [hfind]
  | some op =>
    have hmem : name ∈ c.names := by simp [hlisted, hfind]
    obtain ⟨valueType, hchooses⟩ :=
      exists_chooses (h op (find?_eq_some_iff.mp hfind).1).valueTypes_ne_nil fieldType
    have hresolve := resolve_eq hfind hchooses
    by_cases hfield : fieldType ∈ op.fieldTypes
    · rw [if_pos hfield] at hresolve
      have hsupports : op.supports fieldType valueType = true := by
        simp [Operator.supports, hfield, hchooses.mem]
      have has : c.resolveAs name fieldType valueType = .ok ⟨op, valueType⟩ := by
        rw [resolveAs_eq hfind, if_pos hsupports]
      constructor
      · simp [hresolve, hmem]
      · exact ⟨fun _ => ⟨op, hfind, hfield⟩, fun _ => ⟨_, hresolve⟩⟩
      · intro r hr
        obtain rfl := Except.ok.inj (hresolve.symm.trans hr)
        exact ⟨hfind, hchooses, has⟩
      · intro other hother hnot
        obtain rfl := Option.some.inj (hfind.symm.trans hother)
        exact absurd hfield hnot
    · rw [if_neg hfield] at hresolve
      constructor
      · simp [hresolve, hmem]
      · simp [hresolve, hfind, hfield]
      · simp [hresolve]
      · intro other hother _
        obtain rfl := Option.some.inj (hfind.symm.trans hother)
        exact ⟨valueType, hchooses, hresolve⟩

/-- In a filled catalog every name resolves for columns of every type as its operator declares, and
the operators that are listed for a type are those that resolve for it. -/
theorem resolve_complete (h : c.Filled) (fieldType : ScalarType) :
    (∀ name, c.Resolves name fieldType) ∧
      c.forFieldType fieldType = c.operators.filter (fun op => (c.resolve op.name fieldType).isOk) ∧
        ∀ name, name ∈ (c.forFieldType fieldType).map (·.name) ↔
          ∃ r, c.resolve name fieldType = .ok r := by
  have hresolves (name : String) : c.Resolves name fieldType := resolves_of_fit h.fit name fieldType
  refine ⟨hresolves, ?_, ?_⟩
  · refine List.filter_congr fun op hop => ?_
    have hfind : c.find? op.name = some op := find?_eq_some_iff.mpr ⟨hop, rfl⟩
    obtain ⟨valueType, hchooses⟩ := exists_chooses (h.fit op hop).valueTypes_ne_nil fieldType
    rw [resolve_eq hfind hchooses]
    by_cases hfield : fieldType ∈ op.fieldTypes
    · simp [hfield, Except.isOk, Except.toBool]
    · simp [hfield, Except.isOk, Except.toBool]
  · intro name
    rw [(hresolves name).ok_iff, List.mem_map]
    simp only [forFieldType, List.mem_filter, List.contains_iff_mem, find?_eq_some_iff]
    constructor
    · rintro ⟨op, ⟨hop, hfield⟩, hname⟩
      exact ⟨op, ⟨hop, hname⟩, hfield⟩
    · rintro ⟨op, ⟨hop, hname⟩, hfield⟩
      exact ⟨op, ⟨hop, hfield⟩, hname⟩

/-- An operator on dates that counts resolves to numbers, and not for texts. -/
theorem resolve_complete_counting :
    builtin.Filled ∧ (∀ name, builtin.Resolves name .date) ∧
      builtin.forFieldType .date =
        builtin.operators.filter (fun op => (builtin.resolve op.name .date).isOk) ∧
      (∀ name, name ∈ (builtin.forFieldType .date).map (·.name) ↔
        ∃ r, builtin.resolve name .date = .ok r) ∧
      "daysBefore" ∈ (builtin.forFieldType .date).map (·.name) := by
  obtain ⟨hresolves, hlisted, hnames⟩ := resolve_complete filled_builtin .date
  exact ⟨filled_builtin, hresolves, hlisted, hnames, by decide +kernel⟩

end Catalog

end FilterQuery
