import FilterQuery.Proofs.Operator.Relative

/-!
# Components of dates

An operator that takes a whole number asks what number its value is, not how it is written: `3.00`
is three, and a fraction of any size is refused. The operators that compare a component of a date
take the whole numbers within their bounds, and the comparison that they make holds the number
without digits behind the point.
-/

namespace FilterQuery

/-- The plain form of a whole number: scale zero, and no sign unless the number is below zero. -/
structure Decimal.IsPlain (d : Decimal) (n : ℤ) : Prop where
  /-- No digits stand behind the point. -/
  scale_eq : d.scale = 0
  /-- The decimal is the number. -/
  value_eq : d.value = n
  /-- Zero has no sign. -/
  negative_iff : d.negative = true ↔ n < 0

namespace Decimal

theorem isPlain_ofWord (w : Word) : (ofWord w).IsPlain w.toInt := by
  have hsign : (ofWord w).negative = true ↔ w.toInt < 0 := decide_eq_true_iff
  refine ⟨rfl, ?_, hsign⟩
  have hwhole : (ofWord w).isWhole = true := by
    rw [isWhole_iff_dvd]
    exact one_dvd _
  have htruncate : (ofWord w).truncate = w.toInt := by
    have hquotient : (ofWord w).coefficient / 10 ^ (ofWord w).scale = w.toInt.natAbs := Nat.div_one _
    rw [truncate_eq, hquotient]
    split
    · rename_i hnegative
      have hlt := hsign.mp hnegative
      omega
    · rename_i hnegative
      have hge := mt hsign.mpr hnegative
      omega
  exact value_eq_int_iff.mpr ⟨hwhole, htruncate⟩

/-- A word has one plain form. -/
theorem isPlain_iff_eq_ofWord {d : Decimal} {w : Word} : d.IsPlain w.toInt ↔ d = ofWord w := by
  constructor
  · intro h
    obtain ⟨hscale, hvalue, hnegative⟩ := h
    have hcoefficient : d.coefficient = w.toInt.natAbs := by
      rw [coefficient_eq_of_value_eq hvalue, hscale, pow_zero, mul_one]
    have hsign : d.negative = decide (w.toInt < 0) := by
      rw [Bool.eq_iff_iff, hnegative, decide_eq_true_iff]
    obtain ⟨negative, coefficient, scale, _, _⟩ := d
    subst hscale hcoefficient hsign
    rfl
  · rintro rfl
    exact isPlain_ofWord w

end Decimal

namespace Operator

/-- Why a value is no whole number of 64 bits, as an operator says it. -/
inductive NotWhole : Scalar → (String → Rejection) → Prop where
  /-- It is no number. -/
  | notNumber {value : Scalar} (h : ∀ d, value ≠ .numeric d) : NotWhole value .numberRequired
  /-- It is no whole number. -/
  | fraction {d : Decimal} (h : ∀ n : ℤ, d.value ≠ n) : NotWhole (.numeric d) .wholeRequired
  /-- It is a whole number that 64 bits do not hold. -/
  | outOfRange {d : Decimal} {n : ℤ} (hvalue : d.value = n) (hword : ¬ IsWord n) :
    NotWhole (.numeric d) .outOfRange

section

variable {input : Input}

/-- What is refused as a whole number of 64 bits is none. -/
theorem Input.exists_notWhole_of_requireWhole_eq_error {operator : String} {e : QueryError}
    (h : input.requireWhole operator = .error e) :
    ∃ reason, NotWhole input.value reason ∧ e = input.rejected .numeric (reason operator) := by
  unfold requireWhole at h
  split at h
  · rename_i d hvalue
    rw [hvalue]
    split at h
    · rename_i hwhole
      split at h
      · cases h
      · rename_i hnone
        cases h
        have hword : ¬ IsWord d.truncate := by
          intro hword
          have hsome : Word.of? d.truncate = some ⟨_, hword⟩ := Word.of?_eq_some_iff.mpr rfl
          rw [hnone] at hsome
          cases hsome
        exact ⟨_, .outOfRange (Decimal.value_eq_int_iff.mpr ⟨hwhole, rfl⟩) hword, rfl⟩
    · rename_i hwhole
      cases h
      exact ⟨_, .fraction fun n hn => hwhole (Decimal.value_eq_int_iff.mp hn).1, rfl⟩
  · rename_i hnumber
    cases h
    exact ⟨_, .notNumber hnumber, rfl⟩

/-- What is no whole number of 64 bits is refused for what it is. -/
theorem NotWhole.requireWhole_eq_error {reason : String → Rejection}
    (h : NotWhole input.value reason) (operator : String) :
    input.requireWhole operator = .error (input.rejected .numeric (reason operator)) := by
  rw [Input.requireWhole]
  generalize input.value = value at h ⊢
  cases h with
  | notNumber h =>
    cases value with
    | numeric d => exact absurd rfl (h d)
    | _ => rfl
  | @fraction d h =>
    have hwhole : ¬ d.isWhole = true :=
      fun hwhole => h d.truncate (Decimal.value_eq_int_iff.mpr ⟨hwhole, rfl⟩)
    simp only [hwhole, Bool.false_eq_true, ite_false]
  | outOfRange hvalue hword =>
    obtain ⟨hwhole, rfl⟩ := Decimal.value_eq_int_iff.mp hvalue
    simp only [hwhole, ite_true, Word.of?, dif_neg hword]

/-- A value is refused for what keeps it from being a whole number of 64 bits. -/
theorem Input.requireWhole_eq_error_iff {operator : String} {e : QueryError} :
    input.requireWhole operator = .error e ↔
      ∃ reason, NotWhole input.value reason ∧ e = input.rejected .numeric (reason operator) := by
  constructor
  · exact exists_notWhole_of_requireWhole_eq_error
  · rintro ⟨reason, h, rfl⟩
    exact h.requireWhole_eq_error operator

variable {name : String} {relation : Relation} {bounds : Option Bounds}

/-- A component is compared with a whole number of 64 bits that keeps within the bounds. -/
theorem component_eq_ok_iff {c : Comparison} :
    component name relation bounds input = .ok c ↔
      ∃ w, input.requireWhole name = .ok w ∧ bounds.all (·.contain w.toInt) = true ∧
        c = ⟨input.column, relation, .numeric (.ofWord w)⟩ := by
  rw [component, bind_eq_ok_iff]
  refine exists_congr fun w => and_congr_right fun _ => ?_
  cases bounds with
  | none =>
    simp only [Option.all_none, true_and]
    exact ⟨fun h => (Except.ok.inj h).symm, fun h => congrArg Except.ok h.symm⟩
  | some b =>
    simp only [Option.all_some]
    cases b.contain w.toInt with
    | false => exact ⟨nofun, nofun⟩
    | true =>
      simp only [ite_true, true_and]
      exact ⟨fun h => (Except.ok.inj h).symm, fun h => congrArg Except.ok h.symm⟩

/-- A component is rejected for a value that is no whole number of 64 bits, or with the bounds that
the number does not keep. -/
theorem component_eq_error_iff {e : QueryError} :
    component name relation bounds input = .error e ↔ input.requireWhole name = .error e ∨
      ∃ w, input.requireWhole name = .ok w ∧ ∃ b, bounds = some b ∧ b.contain w.toInt = false ∧
        e = input.rejected .numeric (.outOfBounds name b.least b.greatest) := by
  rw [component, bind_eq_error_iff]
  refine or_congr_right (exists_congr fun w => and_congr_right fun _ => ?_)
  cases bounds with
  | none => exact ⟨nofun, nofun⟩
  | some b =>
    simp only [Option.some.injEq, exists_eq_left']
    cases b.contain w.toInt with
    | true => exact ⟨nofun, nofun⟩
    | false =>
      simp only [true_and]
      exact ⟨fun h => (Except.error.inj h).symm, fun h => congrArg Except.error h.symm⟩

end

/-! ## The built-in operators -/

/-- A component of a date that an operator compares. -/
inductive DatePart where
  /-- The day of the month. -/
  | day
  /-- The month. -/
  | month
  /-- The year. -/
  | year
  /-- The day of the week, from one for Monday. -/
  | dayOfWeek

namespace DatePart

/-- The name of the operator that compares a component. -/
def operator : DatePart → String
  | .day => "dayEqual"
  | .month => "monthEqual"
  | .year => "yearEqual"
  | .dayOfWeek => "dayOfWeek"

/-- The relation of its comparisons. -/
def relation : DatePart → Relation
  | .day => .dayEq
  | .month => .monthEq
  | .year => .yearEq
  | .dayOfWeek => .dayOfWeekEq

/-- The bounds that its operator checks. -/
def check : DatePart → Option Bounds
  | .day => some ⟨1, 31⟩
  | .month => some ⟨1, 12⟩
  | .year => none
  | .dayOfWeek => some ⟨1, 7⟩

/-- The least and the greatest number of a component. Years have the bounds of 64 bits. -/
def bounds (part : DatePart) : Bounds := part.check.getD ⟨-2 ^ 63, 2 ^ 63 - 1⟩

/-- The name finds an operator that compares the component. -/
theorem exists_find?_operator (part : DatePart) :
    ∃ description, Catalog.builtin.find? part.operator =
      some (extracting part.operator part.relation part.check description) := by
  cases part <;> exact ⟨_, rfl⟩

/-- The bounds of a component are those of 64 bits, or closer. -/
theorem isWord_of_bounds {part : DatePart} {n : ℤ} (hleast : part.bounds.least ≤ n)
    (hgreatest : n ≤ part.bounds.greatest) : IsWord n := by
  cases part <;> simp only [bounds, check, Option.getD_some, Option.getD_none] at hleast hgreatest <;>
    unfold IsWord <;> omega

/-- A word keeps within the bounds that are checked exactly when it keeps within those of the
component. -/
theorem all_contain_check_iff (part : DatePart) (w : Word) :
    part.check.all (·.contain w.toInt) = true ↔
      part.bounds.least ≤ w.toInt ∧ w.toInt ≤ part.bounds.greatest := by
  have hword := w.isWord
  unfold IsWord at hword
  cases part with
  | year =>
    simp only [check, bounds, Option.all_none, Option.getD_none, true_iff]
    omega
  | _ => simp [check, bounds, Bounds.contain]

/-- Why an operator does not compare a component with a value. -/
inductive Rejects (part : DatePart) : Scalar → Rejection → Prop where
  /-- The value is no whole number of 64 bits. -/
  | notWhole {value : Scalar} {reason : String → Rejection} (h : NotWhole value reason) :
    Rejects part value (reason part.operator)
  /-- The number does not keep the bounds. -/
  | outOfBounds {d : Decimal} {n : ℤ} (hvalue : d.value = n) (hword : IsWord n)
    (hbounds : ¬ (part.bounds.least ≤ n ∧ n ≤ part.bounds.greatest)) :
    Rejects part (.numeric d)
      (.outOfBounds part.operator part.bounds.least part.bounds.greatest)

variable {part : DatePart} {input : Input}

/-- A component is compared with the plain form of the value's number. -/
theorem component_eq_ok_iff {c : Comparison} :
    component part.operator part.relation part.check input = .ok c ↔
      ∃ d n e, input.value = .numeric d ∧ d.value = (n : ℤ) ∧ part.bounds.least ≤ n ∧
        n ≤ part.bounds.greatest ∧ e.IsPlain n ∧
          c = ⟨input.column, part.relation, .numeric e⟩ := by
  simp only [Operator.component_eq_ok_iff, Input.requireWhole_eq_ok_iff, all_contain_check_iff]
  constructor
  · rintro ⟨w, ⟨d, hvalue, hd⟩, ⟨hleast, hgreatest⟩, rfl⟩
    exact ⟨d, w.toInt, .ofWord w, hvalue, hd, hleast, hgreatest, Decimal.isPlain_ofWord w, rfl⟩
  · rintro ⟨d, n, e, hvalue, hd, hleast, hgreatest, hplain, rfl⟩
    let w : Word := ⟨n, isWord_of_bounds hleast hgreatest⟩
    have he : e = .ofWord w := Decimal.isPlain_iff_eq_ofWord.mp hplain
    exact ⟨w, ⟨d, hvalue, hd⟩, ⟨hleast, hgreatest⟩, he ▸ rfl⟩

/-- A value is rejected for a component in every other case. -/
theorem component_eq_error_iff {e : QueryError} :
    component part.operator part.relation part.check input = .error e ↔
      ∃ reason, part.Rejects input.value reason ∧ e = input.rejected .numeric reason := by
  rw [Operator.component_eq_error_iff, Input.requireWhole_eq_error_iff]
  constructor
  · rintro (⟨reason, hreason, rfl⟩ | ⟨w, hwhole, b, hcheck, hcontain, rfl⟩)
    · exact ⟨_, .notWhole hreason, rfl⟩
    · obtain ⟨d, hvalue, hd⟩ := Input.requireWhole_eq_ok_iff.mp hwhole
      have hb : part.bounds = b := by rw [bounds, hcheck, Option.getD_some]
      have hout : ¬ (part.bounds.least ≤ w.toInt ∧ w.toInt ≤ part.bounds.greatest) := by
        rw [← all_contain_check_iff, hcheck, Option.all_some, hcontain]
        exact Bool.false_ne_true
      have hreject := Rejects.outOfBounds hd w.isWord hout
      rw [hb, ← hvalue] at hreject
      exact ⟨_, hreject, rfl⟩
  · rintro ⟨_, hreason, rfl⟩
    generalize hvalue : input.value = value at hreason
    cases hreason with
    | notWhole h => exact .inl ⟨_, h, rfl⟩
    | @outOfBounds d n hd hword hout =>
      let w : Word := ⟨n, hword⟩
      have hcontain : ¬ part.check.all (·.contain w.toInt) = true :=
        fun h => hout ((part.all_contain_check_iff w).mp h)
      -- Without bounds every word is within them.
      cases hcheck : part.check with
      | none =>
        rw [hcheck] at hcontain
        exact absurd Option.all_none hcontain
      | some b =>
        rw [hcheck, Option.all_some, Bool.not_eq_true] at hcontain
        have hb : part.bounds = b := by rw [bounds, hcheck, Option.getD_some]
        exact .inr ⟨w, Input.requireWhole_eq_ok_iff.mpr ⟨d, hvalue, hd⟩, b, rfl, hcontain, by rw [hb]⟩

end DatePart

/-- A value passes as a whole number exactly when it is a decimal of that value which 64 bits hold,
whatever its coefficient and its scale, and every other value is refused for what it is. So each
operator that compares a component of a date takes just the whole numbers within the bounds of the
component, and compares with the number in its plain form. -/
theorem whole_number_exact (input : Input) :
    (∀ operator (n : ℤ), (∃ w, input.requireWhole operator = .ok w ∧ w.toInt = n) ↔
      -2 ^ 63 ≤ n ∧ n ≤ 2 ^ 63 - 1 ∧ ∃ d, input.value = .numeric d ∧ d.value = n) ∧
    (∀ operator error, input.requireWhole operator = .error error ↔
      ∃ reason, NotWhole input.value reason ∧
        error = .coercion input.value.text .numeric (some input.column) (reason operator)) ∧
    ∀ part : DatePart, ∃ op, Catalog.builtin.find? part.operator = some op ∧
      (∀ c, op.apply input = .ok c ↔
        ∃ d n e, input.value = .numeric d ∧ d.value = (n : ℤ) ∧ part.bounds.least ≤ n ∧
          n ≤ part.bounds.greatest ∧ e.IsPlain n ∧
            c = ⟨input.column, part.relation, .numeric e⟩) ∧
      ∀ error, op.apply input = .error error ↔
        ∃ reason, part.Rejects input.value reason ∧
          error = .coercion input.value.text .numeric (some input.column) reason := by
  refine ⟨?_, fun operator error => Input.requireWhole_eq_error_iff, ?_⟩
  · intro operator n
    simp only [Input.requireWhole_eq_ok_iff]
    constructor
    · rintro ⟨w, ⟨d, hvalue, hd⟩, rfl⟩
      exact ⟨w.isWord.1, w.isWord.2, d, hvalue, hd⟩
    · rintro ⟨hleast, hgreatest, hd⟩
      exact ⟨⟨n, hleast, hgreatest⟩, hd, rfl⟩
  · intro part
    obtain ⟨description, hfind⟩ := part.exists_find?_operator
    exact ⟨_, hfind, fun c => DatePart.component_eq_ok_iff,
      fun error => DatePart.component_eq_error_iff⟩

example : (⟨"d", .numeric ⟨false, 300, 2, by decide, by decide⟩, .dayOne⟩ : Input).requireWhole
    "dayEqual" = .ok ⟨3, by decide⟩ := by
  rfl

end Operator

end FilterQuery
