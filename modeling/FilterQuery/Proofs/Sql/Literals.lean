import FilterQuery.Proofs.Calendar.Text
import FilterQuery.Proofs.Decimal.Normal
import FilterQuery.Proofs.Sql.Contents
import FilterQuery.Proofs.Sql.Walks

/-!
# Literals and the values they stand for

Equal values have one literal, and two values of one type that differ never share one. Numbers are
equal by what they denote, so the scale of a number and the sign of a zero are not to be seen in its
literal. Conditions that are equal in this sense are therefore written alike.
-/

namespace FilterQuery

/-- Whether two values are equal: numbers by what they denote, whatever their scales. -/
def Scalar.same : Scalar → Scalar → Bool
  | .null, .null => true
  | .bool a, .bool b => a == b
  | .string a, .string b => a == b
  | .date a, .date b => a == b
  | .numeric a, .numeric b => a.sameValue b
  | _, _ => false

/-- Whether two comparisons ask for one relation between one column and equal values. -/
def Comparison.same (x y : Comparison) : Bool :=
  x.column == y.column && x.relation == y.relation && x.value.same y.value

namespace Scalar

theorem same_numeric_iff (a b : Decimal) :
    same (.numeric a) (.numeric b) = true ↔ a.value = b.value := a.sameValue_iff b

/-- Equal values are of one type. -/
theorem type?_eq_of_same {a b : Scalar} (h : a.same b) : a.type? = b.type? := by
  cases a <;> cases b <;> first | rfl | cases h

/-- Null is the only value without a type. -/
theorem type?_eq_none_iff {a : Scalar} : a.type? = none ↔ a = .null := by
  cases a <;> simp [type?]

end Scalar

namespace Sql

mutual

/-- Whether two conditions are built alike of equal comparisons. -/
def Condition.same : Condition → Condition → Bool
  | .compare x, .compare y => x.same y
  | .join k operands, .join k' operands' => k == k' && sameAll operands operands'
  | _, _ => false

/-- Whether some conditions are equal one by one. -/
def Condition.sameAll : List Condition → List Condition → Bool
  | [], [] => true
  | c :: rest, c' :: rest' => c.same c' && sameAll rest rest'
  | _, _ => false

end

namespace Dialect

variable (d : Dialect)

/-! ## Values -/

/-- Equal values have one literal. -/
theorem literal_eq_of_same {a b : Scalar} (h : a.same b) : d.literal a = d.literal b := by
  cases a <;> cases b <;> try cases h
  case null.null => rfl
  case bool.bool a b => rw [beq_iff_eq.mp h]
  case string.string a b => rw [beq_iff_eq.mp h]
  case date.date a b => rw [beq_iff_eq.mp h]
  case numeric.numeric a b =>
    exact (Decimal.text_normalize_eq_iff a b).mpr ((Scalar.same_numeric_iff a b).mp h)

/-- Values of one literal put the same text into quotes. -/
theorem quoted?_eq_of_literal_eq {a b : Scalar} (h : d.literal a = d.literal b) :
    a.quoted? = b.quoted? := by
  have htokens : d.valueTokens a = d.valueTokens b := by
    have hread := d.tokens?_literal b
    rw [← h, d.tokens?_literal a] at hread
    exact Option.some.inj hread
  have hquoted := (d.filterMap_valueTokens a).2.1
  rw [htokens, (d.filterMap_valueTokens b).2.1] at hquoted
  rw [← Option.head?_toList (o := a.quoted?), ← hquoted, Option.head?_toList]

theorem boolLiteral_inj {a b : Bool} (h : d.boolLiteral a = d.boolLiteral b) : a = b := by
  cases d <;> cases a <;> cases b <;> first | rfl | exact absurd h (by decide)

/-- Values of one type and one literal are equal. -/
theorem same_of_literal_eq {a b : Scalar} (htype : a.type? = b.type?)
    (h : d.literal a = d.literal b) : a.same b := by
  have hquoted := d.quoted?_eq_of_literal_eq h
  cases a <;> cases b <;> try cases htype
  case null.null => rfl
  case bool.bool a b => exact beq_iff_eq.mpr (d.boolLiteral_inj h)
  case string.string a b => exact beq_iff_eq.mpr (Option.some.inj hquoted)
  case date.date a b => exact beq_iff_eq.mpr (Date.text_inj (Option.some.inj hquoted))
  case numeric.numeric a b =>
    exact (Scalar.same_numeric_iff a b).mpr ((Decimal.text_normalize_eq_iff a b).mp h)

/-! ## Conditions -/

/-- Equal comparisons are written alike. -/
theorem renderComparison_eq_of_same {x y : Comparison} (h : x.same y) :
    d.renderComparison x = d.renderComparison y := by
  obtain ⟨column, relation, a⟩ := x
  obtain ⟨column', relation', b⟩ := y
  simp only [Comparison.same, Bool.and_eq_true, beq_iff_eq] at h
  obtain ⟨⟨rfl, rfl⟩, hvalue⟩ := h
  have hnull : a = .null ↔ b = .null := by
    rw [← Scalar.type?_eq_none_iff, ← Scalar.type?_eq_none_iff, Scalar.type?_eq_of_same hvalue]
  simp only [renderComparison, hnull, d.literal_eq_of_same hvalue]

mutual

/-- Equal conditions are written alike. -/
theorem text_eq_of_same : (c c' : Condition) → c.same c' → d.text c = d.text c'
  | .compare _, .compare _, h => d.renderComparison_eq_of_same h
  | .join k operands, .join k' operands', h => by
    rw [Condition.same, Bool.and_eq_true, beq_iff_eq] at h
    rw [text, text, h.1, textOfAll_eq_of_sameAll operands operands' h.2]
  | .compare _, .join _ _, h => absurd h (by simp [Condition.same])
  | .join _ _, .compare _, h => absurd h (by simp [Condition.same])

/-- Conditions that are equal one by one are written alike. -/
theorem textOfAll_eq_of_sameAll : (cs cs' : List Condition) → Condition.sameAll cs cs' →
    d.textOfAll cs = d.textOfAll cs'
  | [], [], _ => rfl
  | c :: rest, c' :: rest', h => by
    rw [Condition.sameAll, Bool.and_eq_true] at h
    rw [textOfAll, textOfAll, text_eq_of_same c c' h.1, textOfAll_eq_of_sameAll rest rest' h.2]
  | [], _ :: _, h => absurd h (by simp [Condition.sameAll])
  | _ :: _, [], h => absurd h (by simp [Condition.sameAll])

end

/-- A literal is faithful to its value: equal values share it, and of the values of one type no
others do. Here numbers are equal where they denote one number, so equal conditions are written
alike. -/
theorem literal_faithful :
    (∀ a b : Decimal, Scalar.same (.numeric a) (.numeric b) ↔ a.value = b.value) ∧
    (∀ a b : Scalar, a.same b → d.literal a = d.literal b) ∧
    (∀ a b : Scalar, a.type? = b.type? → d.literal a = d.literal b → a.same b) ∧
    ∀ c c' : Condition, c.same c' → d.render c = d.render c' := by
  refine ⟨Scalar.same_numeric_iff, ?_, ?_, ?_⟩
  · exact fun a b h => d.literal_eq_of_same h
  · exact fun a b htype h => d.same_of_literal_eq htype h
  · intro c c' h
    rw [render_eq_text, render_eq_text, d.text_eq_of_same c c' h]

/-- One number with two scales, a zero with a sign and one without, and two dates of which the
later year has more digits. -/
theorem literal_faithful_scales :
    let one : Decimal := ⟨false, 10, 1, by decide, by decide⟩
    let same : Decimal := ⟨false, 100, 2, by decide, by decide⟩
    let zero : Decimal := ⟨true, 0, 28, by decide, by decide⟩
    let condition (n : Decimal) : Condition :=
      .join .or [.join .and [], .compare ⟨"c", .dayEq, .numeric n⟩]
    one.value = same.value ∧ postgres.literal (.numeric one) = postgres.literal (.numeric same) ∧
      sqlServer.literal (.numeric zero) = sqlServer.literal (.numeric .zero) ∧
      Scalar.same (.string "it's") (.string "it's") ∧
      postgres.render (condition one) = postgres.render (condition same) := by
  intro one same zero condition
  obtain ⟨hvalue, hliteral, hsame, hrender⟩ := postgres.literal_faithful
  obtain ⟨-, hliteral', -, -⟩ := sqlServer.literal_faithful
  refine ⟨(hvalue one same).mp (by decide +kernel), hliteral _ _ (by decide +kernel),
    hliteral' _ _ (by decide +kernel), hsame _ _ rfl rfl, hrender _ _ (by decide +kernel)⟩

end Dialect

end Sql

end FilterQuery
