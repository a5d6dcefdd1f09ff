import FilterQuery.Proofs.Calendar.Movement
import FilterQuery.Proofs.Condition.Compiled
import FilterQuery.Proofs.Condition.Steps
import FilterQuery.Proofs.Operator.Relative
import FilterQuery.Proofs.Query.Filling
import FilterQuery.Proofs.Scalar.RoundTrip
import FilterQuery.Sql.Rendering

/-!
# The date of a request

The placeholder `[today]` reaches a leaf as text, is trimmed and read as a date; relative operators
are given a date that was read from what is pinned to `today`, or is the day of the request. In the
years 0 to 9999 both are one date: equality with `[today]` and a relative operator that counts zero
ask for the same day. Where what is pinned is no date, no query of the request gives a condition.
-/

namespace FilterQuery

open Operator (relativeName)
open Placeholder (Context)

namespace Placeholder

variable {c : Context} {d : Date}

/-- The text behind `[today]` is that of the date from which relative operators count. -/
theorem lookup?_today (h : c.evaluationDate = .ok d) :
    Registry.builtin.lookup? c todayName = some d.text := by
  rw [Context.evaluationDate] at h
  rw [Registry.lookup?]
  split at h
  · rename_i hpinned
    cases h
    rw [hpinned]
    rfl
  · rename_i text hpinned
    split at h
    · rename_i hread
      cases h
      -- Only the ten characters of the date itself are read as it.
      have htext : d.text = text := by
        rw [Date.text, Date.chars_of_ofChars?_eq_some hread, String.ofList_toList]
      rw [hpinned, htext]
      rfl
    · cases h

theorem isPlaceholder_today : IsPlaceholder "[today]" todayName :=
  name?_eq_some_iff.mp (by decide)

theorem unresolved?_today (h : c.evaluationDate = .ok d) :
    unresolved? (Registry.builtin.lookup? c) "[today]" = none := by
  rw [unresolved?, name?_eq_some_iff.mpr isPlaceholder_today]
  simp [Option.filter, lookup?_today h]

/-- A request has no date only where what is pinned to `today` is none. -/
theorem evaluationDate_eq_error {error : QueryError} (h : c.evaluationDate = .error error) :
    ∃ text, c.override? todayName = some text ∧ Date.ofText? text = none ∧
      error = .rejected text .date .todayNotDate := by
  rw [Context.evaluationDate] at h
  split at h
  · cases h
  · rename_i text hpinned
    split at h
    · cases h
    · rename_i hread
      cases h
      exact ⟨text, hpinned, hread, rfl⟩

end Placeholder

/-! ## Leaves -/

namespace Leaf

variable {l : Leaf} {d : Date}

/-- A leaf that compares a date with the placeholder of today. -/
structure AsksForToday (l : Leaf) : Prop where
  /-- The column is a date. -/
  fieldType : l.fieldType = .date
  /-- The operator is equality. -/
  operator : l.operator = "equals"
  /-- The value is the placeholder. -/
  value : l.value = .string "[today]"
  /-- The value is to become a date. -/
  valueType : l.valueType = none ∨ l.valueType = some .date

/-- A leaf that asks for a date zero days, months or years from today, once its strings are
filled. -/
structure CountsZero (filling : String → String) (l : Leaf) : Prop where
  /-- The column is a date. -/
  fieldType : l.fieldType = .date
  /-- The operator counts from today. -/
  operator : ∃ span direction, l.operator = relativeName span direction
  /-- The value becomes zero, in whatever way it is written. -/
  value : ∃ n : Decimal,
    Scalar.coerce (l.value.mapStrings filling) .numeric = .ok (.numeric n) ∧ n.value = 0
  /-- The value is to become a number. -/
  valueType : l.valueType = none ∨ l.valueType = some .numeric

/-- Equality with `[today]` compares with the date whose text the placeholder has. -/
theorem AsksForToday.comparison_eq (h : l.AsksForToday) {f : String → String}
    (hequals : f "equals" = "equals") (htoday : f "[today]" = d.text) (hyear : d.HasPlainYear) :
    (l.mapStrings f).comparison ⟨.builtin, d⟩ = .ok ⟨f l.column, .eq, .date d⟩ := by
  obtain ⟨description, hfind⟩ : ∃ description, Catalog.builtin.find? "equals" =
      some (.comparing "equals" Operator.anyType .eq description) := ⟨_, rfl⟩
  have hany : l.fieldType ∈ Operator.anyType := by
    rw [h.fieldType]
    decide
  have hvalue : Scalar.coerce (l.mapStrings f).value .date = .ok (.date d) := by
    rw [mapStrings, h.value, Json.mapStrings, htoday]
    exact Scalar.coerce_text_date hyear
  have happlies : (l.mapStrings f).Applies ⟨.builtin, d⟩
      (.comparing "equals" Operator.anyType .eq description) (.date d) := by
    refine applies_of_coerce ?_ hany (.inl ⟨hany, h.fieldType.symm⟩) h.valueType rfl hvalue
    rw [mapStrings, h.operator, hequals]
    exact hfind
  rw [happlies.comparison_eq]
  rfl

/-- Zero days, months or years before or after today is today. -/
theorem CountsZero.comparison_eq {f : String → String} (h : l.CountsZero f)
    (hf : ∀ span direction, f (relativeName span direction) = relativeName span direction) :
    (l.mapStrings f).comparison ⟨.builtin, d⟩ = .ok ⟨f l.column, .dateEq, .date d⟩ := by
  obtain ⟨span, direction, hname⟩ := h.operator
  obtain ⟨n, hcoerce, hzero⟩ := h.value
  obtain ⟨description, hfind⟩ := Operator.exists_find?_relativeName span direction
  have happlies : (l.mapStrings f).Applies ⟨.builtin, d⟩
      (.counting (relativeName span direction) span direction description) (.numeric n) := by
    have hnumeric : l.fieldType ∉ [ScalarType.numeric] := by
      rw [h.fieldType]
      decide
    refine applies_of_coerce ?_ (List.mem_singleton.mpr h.fieldType) (.inr ⟨hnumeric, rfl⟩)
      h.valueType rfl hcoerce
    rw [mapStrings, hname, hf]
    exact hfind
  have hreaches : d.Reaches span (0 * direction.sign) d := by
    rw [Int.zero_mul]
    exact Date.Reaches.zero span d
  rw [happlies.comparison_eq]
  refine Operator.relativeDate_eq_ok_iff.mpr ⟨n, 0, d, rfl, ?_, hreaches, rfl⟩
  exact_mod_cast hzero

end Leaf

/-! ## Requests -/

/-- A text that can name an operator as it stands. -/
def Operator.IsPlainName (name : String) : Prop :=
  Placeholder.name? name = none ∧ Text.isBlankText name = false

theorem Operator.isPlainName_relativeName (span : Calendar.Span) (direction : Direction) :
    IsPlainName (relativeName span direction) := by
  cases span <;> cases direction <;> exact ⟨by decide, by decide⟩

namespace Engine

variable {m : Type → Type} {Condition : Type} (e : Engine m Condition) {c : Context} {d : Date}

theorem filling_today (hregistry : e.substitution.registry = .builtin)
    (hdate : c.evaluationDate = .ok d) : e.filling c "[today]" = d.text := by
  rw [filling, hregistry]
  exact Placeholder.fill_of_value Placeholder.isPlaceholder_today (Placeholder.lookup?_today hdate)

variable [Monad m]

/-- A request means one date, by `[today]` and by relative operators that count zero. -/
structure SharesDate (c : Context) (d : Date) : Prop where
  /-- A text that compares a column with `[today]` gives equality with the date. -/
  today : ∀ text l, Query.parse text = .ok (.leaf l) → l.AsksForToday → e.Fills c text →
    Text.isBlankText (e.filling c l.column) = false →
      (e.compile c text).run = Except.ok <$> e.backend.compare ⟨e.filling c l.column, .eq, .date d⟩
  /-- A text that counts zero from today asks for the date. -/
  relative : ∀ text l, Query.parse text = .ok (.leaf l) → l.CountsZero (e.filling c) →
    e.Fills c text → Text.isBlankText (e.filling c l.column) = false →
      (e.compile c text).run =
        Except.ok <$> e.backend.compare ⟨e.filling c l.column, .dateEq, .date d⟩
  /-- Inside a larger query such leaves come to the same comparisons. -/
  inside : ∀ text q q', Query.parse text = .ok q → e.parse c text = .ok q' →
    (e.compile c text).run = (e.backend.build ⟨e.catalog, d⟩ q').run ∧
    q'.leaves = q.leaves.map (Leaf.mapStrings (e.filling c)) ∧
    ∀ l ∈ q.leaves,
      (l.AsksForToday → (l.mapStrings (e.filling c)).comparison ⟨e.catalog, d⟩ =
        .ok ⟨e.filling c l.column, .eq, .date d⟩) ∧
      (l.CountsZero (e.filling c) → (l.mapStrings (e.filling c)).comparison ⟨e.catalog, d⟩ =
        .ok ⟨e.filling c l.column, .dateEq, .date d⟩)
  /-- With a column that is no placeholder both kinds of texts are always compiled. -/
  plain : ∀ column, Text.isBlankText column = false → Placeholder.name? column = none →
    (e.compile c (Leaf.encode ⟨.date, column, "equals", .string "[today]", none⟩).text).run =
      Except.ok <$> e.backend.compare ⟨column, .eq, .date d⟩ ∧
    ∀ span direction, (e.compile c (Leaf.encode
        ⟨.date, column, relativeName span direction, .number (.whole 0), none⟩).text).run =
      Except.ok <$> e.backend.compare ⟨column, .dateEq, .date d⟩

variable [LawfulMonad m]

/-- The text of a leaf is compiled to the comparison that the filled leaf comes to. -/
theorem run_compile_leaf {text : String} {l : Leaf} {x : Comparison}
    (hparse : Query.parse text = .ok (.leaf l)) (hfills : e.Fills c text)
    (hcolumn : Text.isBlankText (e.filling c l.column) = false)
    (hoperator : Text.isBlankText (e.filling c l.operator) = false)
    (hdate : c.evaluationDate = .ok d)
    (hx : (l.mapStrings (e.filling c)).comparison ⟨e.catalog, d⟩ = .ok x) :
    (e.compile c text).run = Except.ok <$> e.backend.compare x := by
  obtain ⟨j, -, hj⟩ := bind_eq_ok_iff.mp hparse
  have hl : l.WellFormed := (Query.ofJson_eq_ok_iff.mp hj).2.2.leaf l (List.mem_singleton.mpr rfl)
  have hfilled : (l.mapStrings (e.filling c)).WellFormed :=
    ⟨hcolumn, hoperator, (Json.isScalar_mapStrings l.value).trans hl.value⟩
  have hrequest : e.parse c text = .ok (.leaf (l.mapStrings (e.filling c))) :=
    (e.parse_eq_ok_iff c hparse).mpr ⟨hfills, rfl, List.forall_mem_singleton.mpr hfilled⟩
  rw [run_compile, hrequest, hdate]
  dsimp only
  rw [Backend.run_build_leaf, hx]

/-- With a column that is no placeholder the canonical form of a leaf is always compiled. -/
theorem run_compile_encode {l : Leaf} {x : Comparison} (hl : l.WellFormed)
    (hopen : l.valueType = none) (hvalue : l.value.WellFormed)
    (hcolumn : Placeholder.name? l.column = none) (hoperator : Placeholder.name? l.operator = none)
    (htexts : ∀ t ∈ l.value.texts,
      Placeholder.unresolved? (e.substitution.registry.lookup? c) t.2 = none)
    (hdate : c.evaluationDate = .ok d)
    (hx : (l.mapStrings (e.filling c)).comparison ⟨e.catalog, d⟩ = .ok x) :
    (e.compile c l.encode.text).run = Except.ok <$> e.backend.compare x := by
  have hj := Leaf.wellFormed_encode hopen hvalue
  refine e.run_compile_leaf (Query.parse_text_encode_leaf hl hj)
    (e.fills_encode hl hopen hvalue hcolumn hoperator htexts) ?_ ?_ hdate hx
  · rw [e.filling_eq_self c hcolumn]
    exact hl.column
  · rw [e.filling_eq_self c hoperator]
    exact hl.operator

/-- Without a date no query gives a condition, and the error is that of the date. -/
theorem run_compile_of_evaluationDate_eq_error {error : QueryError}
    (hdate : c.evaluationDate = .error error) {text : String} {q : Query}
    (hq : e.parse c text = .ok q) : (e.compile c text).run = pure (.error error) := by
  rw [run_compile, hq, hdate]

variable {e}

theorem sharesDate (hcatalog : e.catalog = .builtin)
    (hregistry : e.substitution.registry = .builtin) (hdate : c.evaluationDate = .ok d)
    (hyear : d.HasPlainYear) : e.SharesDate c d := by
  have hequals : Operator.IsPlainName "equals" := ⟨by decide, by decide⟩
  have hzero : (Json.number (.whole 0)).WellFormed := by
    change Json.IsWhole 0
    decide
  have htoday {l : Leaf} (h : l.AsksForToday) :
      (l.mapStrings (e.filling c)).comparison ⟨e.catalog, d⟩ =
        .ok ⟨e.filling c l.column, .eq, .date d⟩ := by
    rw [hcatalog]
    exact h.comparison_eq (e.filling_eq_self c hequals.1) (e.filling_today hregistry hdate) hyear
  have hrelative {l : Leaf} (h : l.CountsZero (e.filling c)) :
      (l.mapStrings (e.filling c)).comparison ⟨e.catalog, d⟩ =
        .ok ⟨e.filling c l.column, .dateEq, .date d⟩ := by
    rw [hcatalog]
    exact h.comparison_eq fun span direction =>
      e.filling_eq_self c (Operator.isPlainName_relativeName span direction).1
  refine ⟨?today, ?relative, ?inside, ?plain⟩
  case today =>
    intro text l hparse h hfills hcolumn
    refine e.run_compile_leaf hparse hfills hcolumn ?_ hdate (htoday h)
    rw [h.operator, e.filling_eq_self c hequals.1]
    exact hequals.2
  case relative =>
    intro text l hparse h hfills hcolumn
    refine e.run_compile_leaf hparse hfills hcolumn ?_ hdate (hrelative h)
    obtain ⟨span, direction, hname⟩ := h.operator
    have hplain := Operator.isPlainName_relativeName span direction
    rw [hname, e.filling_eq_self c hplain.1]
    exact hplain.2
  case inside =>
    intro text q q' hparse hq'
    obtain ⟨-, rfl, -⟩ := (e.parse_eq_ok_iff c hparse).mp hq'
    refine ⟨?_, Query.leaves_mapLeaves q, fun l _ => ⟨htoday, hrelative⟩⟩
    rw [run_compile, hq', hdate]
  case plain =>
    intro column hcolumn hname
    have hsame := e.filling_eq_self c hname
    constructor
    · have hasks : Leaf.AsksForToday ⟨.date, column, "equals", .string "[today]", none⟩ :=
        ⟨rfl, rfl, rfl, .inl rfl⟩
      have hx := htoday hasks
      rw [hsame] at hx
      refine e.run_compile_encode ⟨hcolumn, hequals.2, rfl⟩ rfl trivial hname hequals.1 ?_ hdate hx
      refine List.forall_mem_singleton.mpr ?_
      rw [hregistry]
      exact Placeholder.unresolved?_today hdate
    · intro span direction
      have hcounts : Leaf.CountsZero (e.filling c)
          ⟨.date, column, relativeName span direction, .number (.whole 0), none⟩ :=
        ⟨rfl, ⟨span, direction, rfl⟩, ⟨_, rfl, by simp [Decimal.value, Decimal.signed]⟩, .inl rfl⟩
      have hx := hrelative hcounts
      rw [hsame] at hx
      have hplain := Operator.isPlainName_relativeName span direction
      exact e.run_compile_encode ⟨hcolumn, hplain.2, rfl⟩ rfl hzero hname hplain.1
        (fun t ht => absurd ht List.not_mem_nil) hdate hx

/-- With the built-in operators and placeholders a request means one date. Where that is a date of
the years 0 to 9999, equality with `[today]` is equality with it and relative operators that count
zero ask for it. Where there is none, because what is pinned to `today` is no date, every query
fails with that error. -/
theorem compile_shares_date (e : Engine m Condition) (hcatalog : e.catalog = .builtin)
    (hregistry : e.substitution.registry = .builtin) (c : Context) :
    (∀ d, c.evaluationDate = .ok d → d.HasPlainYear → e.SharesDate c d) ∧
    ∀ error, c.evaluationDate = .error error →
      (∃ text, c.override? Placeholder.todayName = some text ∧
        error = .rejected text .date .todayNotDate) ∧
      ∀ text q, e.parse c text = .ok q → (e.compile c text).run = pure (.error error) := by
  refine ⟨fun d => sharesDate hcatalog hregistry, fun error herror => ⟨?_, ?_⟩⟩
  · obtain ⟨text, hpinned, -, hreason⟩ := Placeholder.evaluationDate_eq_error herror
    exact ⟨text, hpinned, hreason⟩
  · exact fun text q hq => e.run_compile_of_evaluationDate_eq_error herror hq

/-- A leap day pinned to `today`, for a column that is a placeholder itself, and the same day in
another spelling, which is none. -/
theorem compile_shares_date_leap_day :
    let leapDay : Date := ⟨2024, 2, 29, by decide⟩
    let e : Engine Id Sql.Condition := .builtin Sql.Dialect.postgres.backend
    let c := (Context.of "due" .dayOne).withOverride "today" "2024-02-29"
    let c' := (Context.of "due" .dayOne).withOverride "today" "2024-2-29"
    let l : Leaf := ⟨.date, "[me]", "equals", .string "[today]", none⟩
    let error := QueryError.rejected "2024-2-29" .date .todayNotDate
    e.catalog = .builtin ∧ e.substitution.registry = .builtin ∧
    (c.evaluationDate = .ok leapDay ∧ leapDay.HasPlainYear ∧
      (e.compile c l.encode.text).run =
        Except.ok (Sql.Condition.compare ⟨"due", .eq, .date leapDay⟩)) ∧
    c'.evaluationDate = .error error ∧ (e.compile c' l.encode.text).run = Except.error error := by
  intro leapDay e c c' l error
  have hl : l.WellFormed := ⟨by decide, by decide, rfl⟩
  have hj : l.encode.WellFormed := Leaf.wellFormed_encode rfl trivial
  have hparse := Query.parse_text_encode_leaf hl hj
  have hdecode := Query.decode_text_encode_leaf hl hj
  have hfills : e.Fills c l.encode.text := by
    obtain ⟨j', hj'⟩ := e.substitution.exists_apply (c := c) (j := l.encode) (by decide)
    exact ⟨_, j', hdecode, hj'⟩
  have hfills' : e.Fills c' l.encode.text := by
    obtain ⟨j', hj'⟩ := e.substitution.exists_apply (c := c') (j := l.encode) (by decide)
    exact ⟨_, j', hdecode, hj'⟩
  have hyear : leapDay.HasPlainYear := by decide
  have hq : e.parse c' l.encode.text = .ok (.leaf (l.mapStrings (e.filling c'))) := by
    refine (e.parse_eq_ok_iff c' hparse).mpr ⟨hfills', rfl, ?_⟩
    exact List.forall_mem_singleton.mpr ⟨by decide, by decide, rfl⟩
  obtain ⟨hshares, -⟩ := compile_shares_date e rfl rfl c
  obtain ⟨-, hfails⟩ := compile_shares_date e rfl rfl c'
  refine ⟨rfl, rfl, ⟨rfl, hyear, ?_⟩, rfl, (hfails error rfl).2 _ _ hq⟩
  have hcolumn : e.filling c l.column = "due" := by decide
  have hrun := (hshares leapDay rfl hyear).today _ l hparse ⟨rfl, rfl, rfl, .inl rfl⟩ hfills
    (by decide)
  rw [hcolumn] at hrun
  exact hrun

end Engine

end FilterQuery
