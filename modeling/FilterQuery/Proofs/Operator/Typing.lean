import FilterQuery.Operator.Builtin
import FilterQuery.Proofs.Outcome
import FilterQuery.Proofs.Scalar.Coercion

/-!
# Types of comparisons

Every relation says which values it takes. An operator is well typed when, whatever value of its own
types it is applied to, it keeps the column and makes a comparison whose relation takes its value.
All built-in operators are, so nothing has to be checked about a comparison that one of them made.
-/

namespace FilterQuery

/-- A decimal number that is a whole one, whatever its scale. -/
def Decimal.IsInt (d : Decimal) (n : Int) : Prop := d.signed = n * Text.placeWeight d.scale

/-- The decimal of a word is the word. -/
theorem Decimal.isInt_ofWord (w : Word) : (ofWord w).IsInt w.toInt := by
  change (if decide (w.toInt < 0) = true then -(w.toInt.natAbs : Int) else w.toInt.natAbs) =
    w.toInt * (1 : Nat)
  by_cases h : w.toInt < 0
  · simp only [h, decide_true, ite_true]
    omega
  · simp only [h, decide_false, Bool.false_eq_true, ite_false]
    omega

namespace Scalar

/-- The values that are whole numbers between two bounds, which count among them. -/
def IsWholeWithin (v : Scalar) (least greatest : Int) : Prop :=
  ∃ d n, v = .numeric d ∧ d.IsInt n ∧ least ≤ n ∧ n ≤ greatest

/-- The values that have an order: numbers, dates, and null. -/
def IsOrdered (v : Scalar) : Prop := v = .null ∨ (∃ d, v = .numeric d) ∨ ∃ d, v = .date d

end Scalar

/-- The values that a relation takes. -/
def Relation.Takes : Relation → Scalar → Prop
  | .eq, _ | .ne, _ => True
  | .gt, v | .ge, v | .lt, v | .le, v => v.IsOrdered
  | .like, v => ∃ s, v = .string s
  | .isNull, v | .isNotNull, v => v = .null
  | .dayEq, v => v.IsWholeWithin 1 31
  | .monthEq, v => v.IsWholeWithin 1 12
  | .yearEq, v => v.IsWholeWithin (-0x8000000000000000) 0x7fffffffffffffff
  | .dayOfWeekEq, v => v.IsWholeWithin 1 7
  | .dateEq, v => ∃ d, v = .date d

namespace Operator

/-- What holds of every comparison that an operator makes of values of its own types. -/
structure Sound (input : Input) (c : Comparison) : Prop where
  /-- The column is the one that the operator was given. -/
  column : c.column = input.column
  /-- The relation takes the value. -/
  takes : c.relation.Takes c.value
  /-- A date has been counted from today, or it is the value that the operator was given. -/
  date : ∀ d, c.value = .date d →
    (c.relation = .dateEq ∧ ∃ span n, input.today.shift? span n = some d) ∨
      (c.relation ≠ .dateEq ∧ input.value = .date d)

/-- An operator that is sound for all values of its types. -/
def WellTyped (op : Operator) : Prop :=
  ∀ (input : Input) (t : ScalarType) (c : Comparison), t ∈ op.valueTypes → t.Yields input.value →
    op.apply input = .ok c → Sound input c

theorem wellTyped_comparing {name : String} {types : List ScalarType} {relation : Relation}
    {description : String} (hdate : relation ≠ .dateEq)
    (h : ∀ t ∈ types, ∀ v, t.Yields v → relation.Takes v) :
    (comparing name types relation description).WellTyped := by
  rintro input t c ht hvalue ⟨⟩
  exact ⟨rfl, h t ht _ hvalue, fun d hd => .inr ⟨hdate, hd⟩⟩

theorem wellTyped_matching (name : String) (make : String → String) (description : String) :
    (matching name make description).WellTyped := by
  intro input t c _ _ happly
  obtain ⟨text, -, hc⟩ := bind_eq_ok_iff.mp happly
  cases hc
  exact ⟨rfl, ⟨_, rfl⟩, fun _ hd => nomatch hd⟩

theorem wellTyped_testing {name : String} {relation : Relation} {description : String}
    (h : relation.Takes .null) : (testing name relation description).WellTyped := by
  rintro input t c - - ⟨⟩
  exact ⟨rfl, h, fun _ hd => nomatch hd⟩

/-- A component is compared with a whole number of 64 bits, within its bounds where it has any. -/
theorem wellTyped_extracting {name : String} {relation : Relation} {bounds : Option Bounds}
    {description : String}
    (h : ∀ n : Word, (∀ b, bounds = some b → b.contain n.toInt) →
      relation.Takes (.numeric (.ofWord n))) :
    (extracting name relation bounds description).WellTyped := by
  intro input t c _ _ happly
  obtain ⟨n, -, hc⟩ := bind_eq_ok_iff.mp happly
  have hsound (hn : ∀ b, bounds = some b → b.contain n.toInt) :
      Sound input ⟨input.column, relation, .numeric (.ofWord n)⟩ :=
    ⟨rfl, h n hn, fun _ hd => nomatch hd⟩
  cases bounds with
  | none =>
    cases hc
    exact hsound nofun
  | some b =>
    dsimp only at hc
    split at hc
    · rename_i hb
      cases hc
      refine hsound ?_
      rintro _ ⟨⟩
      exact hb
    · cases hc

theorem wellTyped_counting (name : String) (span : Calendar.Span) (direction : Direction)
    (description : String) : (counting name span direction description).WellTyped := by
  intro input t c _ _ happly
  obtain ⟨n, -, hc⟩ := bind_eq_ok_iff.mp happly
  split at hc
  · rename_i d hd
    cases hc
    obtain ⟨steps, -, hshift⟩ := Option.bind_eq_some_iff.mp hd
    refine ⟨rfl, ⟨d, rfl⟩, ?_⟩
    rintro _ ⟨⟩
    exact .inl ⟨rfl, span, steps, hshift⟩
  · cases hc

/-- Numbers, dates and what coercion to them gives have an order. -/
theorem isOrdered_of_yields {t : ScalarType} (ht : t ∈ orderedTypes) {v : Scalar}
    (h : t.Yields v) : v.IsOrdered := by
  cases h with
  | null => exact .inl rfl
  | count n => exact .inr (.inl ⟨n, rfl⟩)
  | own htype =>
    simp only [orderedTypes, List.mem_cons, List.not_mem_nil, or_false] at ht
    cases v with
    | numeric n => exact .inr (.inl ⟨n, rfl⟩)
    | date d => exact .inr (.inr ⟨d, rfl⟩)
    | _ => rcases ht with rfl | rfl <;> cases htype

/-- A whole number between bounds, as the decimal of a word. -/
theorem isWholeWithin_ofWord {n : Word} {b : Bounds} (h : b.contain n.toInt) :
    (Scalar.numeric (.ofWord n)).IsWholeWithin b.least b.greatest := by
  rw [Bounds.contain, Bool.and_eq_true, decide_eq_true_eq, decide_eq_true_eq] at h
  exact ⟨_, _, rfl, Decimal.isInt_ofWord n, h.1, h.2⟩

/-- Every built-in operator is well typed. -/
theorem wellTyped_builtin : ∀ op ∈ builtin, op.WellTyped := by
  have hordered : ∀ t ∈ orderedTypes, ∀ v, t.Yields v → v.IsOrdered :=
    fun t ht v hv => isOrdered_of_yields ht hv
  have hbounded (b : Bounds) (n : Word) (hn : ∀ b', some b = some b' → b'.contain n.toInt) :
      (Scalar.numeric (.ofWord n)).IsWholeWithin b.least b.greatest :=
    isWholeWithin_ofWord (hn b rfl)
  have hword (n : Word) : Relation.yearEq.Takes (.numeric (.ofWord n)) :=
    ⟨_, _, rfl, Decimal.isInt_ofWord n, n.isWord.1, n.isWord.2⟩
  simp only [builtin, List.forall_mem_cons]
  refine ⟨?equals, ?notEquals, ?greaterThan, ?greaterThanEqual, ?lessThan, ?lessThanEqual, ?like,
    ?startsWith, ?endsWith, ?isNull, ?isNotNull, ?dayEqual, ?monthEqual, ?yearEqual, ?dayOfWeek,
    ?daysBefore, ?daysAfter, ?monthsBefore, ?monthsAfter, ?yearsBefore, ?yearsAfter,
    List.forall_mem_nil _⟩
  case equals | notEquals => exact wellTyped_comparing (by decide) fun _ _ _ _ => trivial
  case greaterThan | greaterThanEqual | lessThan | lessThanEqual =>
    exact wellTyped_comparing (by decide) hordered
  case like | startsWith | endsWith => exact wellTyped_matching _ _ _
  case isNull | isNotNull => exact wellTyped_testing rfl
  -- The bounds that an operator checks are those that its relation asks for.
  case dayEqual => exact wellTyped_extracting (hbounded ⟨1, 31⟩)
  case monthEqual => exact wellTyped_extracting (hbounded ⟨1, 12⟩)
  case dayOfWeek => exact wellTyped_extracting (hbounded ⟨1, 7⟩)
  case yearEqual => exact wellTyped_extracting fun n _ => hword n
  case daysBefore | daysAfter | monthsBefore | monthsAfter | yearsBefore | yearsAfter =>
    exact wellTyped_counting _ _ _ _

end Operator

end FilterQuery
