import FilterQuery.Operator.Builtin
import FilterQuery.Proofs.Condition.Operand
import FilterQuery.Proofs.Condition.Tree

/-!
# Tests for null

A build looks at a leaf through its comparison alone, so leaves that come to the same comparisons,
or to the same errors, may stand for each other anywhere in a query. An operator that tests its
column makes its comparison whatever the value of the leaf is and whatever type the leaf fixes for
it, so neither of them makes a difference to what is built.
-/

namespace FilterQuery

/-! ### Queries of one shape -/

namespace Query

mutual

/-- Two queries of one shape whose leaves are related place by place. -/
inductive Leafwise (R : Leaf → Leaf → Prop) : Query → Query → Prop
  /-- Two leaves. -/
  | leaf {l l' : Leaf} (h : R l l') : Leafwise R (.leaf l) (.leaf l')
  /-- Two nodes that join their children alike. -/
  | join (connective : Connective) {children children' : List Query}
    (h : LeafwiseAll R children children') :
    Leafwise R (.join connective children) (.join connective children')

/-- As many queries on either side, each of the shape of its counterpart. -/
inductive LeafwiseAll (R : Leaf → Leaf → Prop) : List Query → List Query → Prop
  /-- None. -/
  | nil : LeafwiseAll R [] []
  /-- One more on either side. -/
  | cons {q q' : Query} {rest rest' : List Query} (hfirst : Leafwise R q q')
    (hrest : LeafwiseAll R rest rest') : LeafwiseAll R (q :: rest) (q' :: rest')

end

end Query

namespace Backend

variable {m : Type → Type} [Monad m] {Condition : Type} (b : Backend m Condition)
  {env : Environment} {R : Leaf → Leaf → Prop}

mutual

/-- Queries of one shape are built alike when related leaves come to the same. -/
theorem build_eq_of_leafwise (hR : ∀ l l', R l l' → l.comparison env = l'.comparison env) :
    {q q' : Query} → q.Leafwise R q' → b.build env q = b.build env q'
  | _, _, .leaf h => by rw [build, build, hR _ _ h]
  | _, _, .join _ h => by rw [build, build, buildAll_eq_of_leafwise hR h]

theorem buildAll_eq_of_leafwise (hR : ∀ l l', R l l' → l.comparison env = l'.comparison env) :
    {qs qs' : List Query} → Query.LeafwiseAll R qs qs' → b.buildAll env qs = b.buildAll env qs'
  | _, _, .nil => rfl
  | _, _, .cons hfirst hrest => by
    rw [buildAll, buildAll, build_eq_of_leafwise hR hfirst, buildAll_eq_of_leafwise hR hrest]

end

end Backend

/-! ### Operators that test their column -/

theorem Operator.mem_anyType (t : ScalarType) : t ∈ anyType := by
  cases t <;> decide

namespace Leaf

variable {l l' : Leaf} {env : Environment} {name description : String} {relation : Relation}

/-- An operator that tests its column is applied to every leaf that names it, and makes the same
comparison for all values. -/
theorem comparison_of_testing
    (hfind : env.catalog.find? l.operator = some (.testing name relation description)) :
    l.comparison env = .ok (.unary l.column relation) := by
  let op : Operator := .testing name relation description
  have hsupports (t : ScalarType) : op.supports l.fieldType t = true :=
    Bool.and_eq_true_iff.mpr ⟨List.contains_iff_mem.mpr (Operator.mem_anyType _),
      List.contains_iff_mem.mpr (Operator.mem_anyType t)⟩
  have happlies : l.Applies env op .null := by
    cases htype : l.valueType with
    | some t =>
      refine ⟨t, ?_, rfl⟩
      rw [resolve, htype]
      exact (Catalog.resolveAs_eq hfind).trans (if_pos (hsupports t))
    | none =>
      refine ⟨l.fieldType, ?_, rfl⟩
      have hmem : l.fieldType ∈ op.valueTypes := Operator.mem_anyType _
      rw [resolve, htype]
      exact (Catalog.resolve_eq hfind (.inl ⟨hmem, rfl⟩)).trans (if_pos hmem)
  exact happlies.comparison_eq

/-- A leaf that tests its column for null. -/
def TestsNull (l : Leaf) : Prop := l.operator = "isNull" ∨ l.operator = "isNotNull"

/-- Two leaves that have all in common, or else test for null and have all in common but the value
and the type that is fixed for it. -/
structure SameButTested (l l' : Leaf) : Prop where
  /-- The type of the column. -/
  fieldType : l.fieldType = l'.fieldType
  /-- The column. -/
  column : l.column = l'.column
  /-- The operator. -/
  operator : l.operator = l'.operator
  /-- The value and its type, unless they test for null. -/
  value : l.TestsNull ∨ (l.value = l'.value ∧ l.valueType = l'.valueType)

/-- A leaf that names a test for null comes to that test of its column. -/
theorem comparison_of_isUnary (r : Relation) (hr : r.isUnary = true) (h : l.operator = r.name)
    (today : Date) : l.comparison ⟨.builtin, today⟩ = .ok (.unary l.column r) := by
  obtain ⟨description, hfind⟩ : ∃ description, Catalog.builtin.find? r.name =
      some (.testing r.name r description) := by
    cases r <;> first | exact ⟨_, rfl⟩ | cases hr
  rw [← h] at hfind
  exact comparison_of_testing hfind

/-- Leaves that differ in what a test for null ignores come to the same. -/
theorem SameButTested.comparison_eq (h : l.SameButTested l') (today : Date) :
    l.comparison ⟨.builtin, today⟩ = l'.comparison ⟨.builtin, today⟩ := by
  rcases h.value with (hnull | hnotNull) | ⟨hvalue, htype⟩
  · rw [comparison_of_isUnary .isNull rfl hnull,
      comparison_of_isUnary .isNull rfl (h.operator ▸ hnull), h.column]
  · rw [comparison_of_isUnary .isNotNull rfl hnotNull,
      comparison_of_isUnary .isNotNull rfl (h.operator ▸ hnotNull), h.column]
  · have heq : l = l' := by
      cases l
      cases l'
      cases h.fieldType
      cases h.column
      cases h.operator
      cases hvalue
      cases htype
      rfl
    rw [heq]

end Leaf

namespace Backend

variable {m : Type → Type} [Monad m] {Condition : Type}

/-- With the built-in operators a test for null asks for its column to be null, or not to be null,
and for nothing else. So two queries that differ only in the values of such leaves, and in the
types that are fixed for these values, are built alike: to one condition, or to one error. -/
theorem build_ignores_tested_values (b : Backend m Condition) (today : Date) :
    (∀ l : Leaf,
      (l.operator = "isNull" →
        l.comparison ⟨.builtin, today⟩ = .ok (.unary l.column .isNull)) ∧
      (l.operator = "isNotNull" →
        l.comparison ⟨.builtin, today⟩ = .ok (.unary l.column .isNotNull))) ∧
    ∀ q q', q.Leafwise Leaf.SameButTested q' →
      b.build ⟨.builtin, today⟩ q = b.build ⟨.builtin, today⟩ q' := by
  constructor
  · exact fun l => ⟨fun h => Leaf.comparison_of_isUnary .isNull rfl h today,
      fun h => Leaf.comparison_of_isUnary .isNotNull rfl h today⟩
  · exact fun q q' h => b.build_eq_of_leafwise (fun _ _ hl => hl.comparison_eq today) h

/-- Two tests with values that no other operator takes and types that go with no such value, beside
a leaf that is compared, and then beside one that fails. -/
theorem build_ignores_tested_values_nested :
    let env : Environment := ⟨.builtin, .dayOne⟩
    let third (operator : String) : Leaf := ⟨.string, "s", operator, .string "x", none⟩
    let q (l : Leaf) (value value' : Json) (t t' : Option ScalarType) := Query.join .or [
      .leaf ⟨.string, "email", "isNull", value, t⟩,
      .join .and [.leaf ⟨.boolean, "b", "isNotNull", value', t'⟩, .leaf l]]
    let tests (l : Leaf) := JoinTree.backend.build env
      (q l (.array [.null]) (.string "x") (some .date) none)
    let tests' (l : Leaf) := JoinTree.backend.build env
      (q l .null (.object []) none (some .numeric))
    (Leaf.mk .string "email" "isNull" (.array [.null]) (some .date)).comparison env =
      .ok (.unary "email" .isNull) ∧
    (Leaf.mk .boolean "b" "isNotNull" (.object []) (some .numeric)).comparison env =
      .ok (.unary "b" .isNotNull) ∧
    (∀ l, tests l = tests' l) ∧
    (tests (third "equals")).run = Except.ok (JoinTree.join .or (.leaf (.unary "email" .isNull))
      (.join .and (.leaf (.unary "b" .isNotNull)) (.leaf ⟨"s", .eq, .string "x"⟩))) ∧
    (tests (third "dayEqual")).run =
      Except.error (.typeMismatch "dayEqual" .string .numeric) := by
  intro env third q tests tests'
  obtain ⟨hleaf, hquery⟩ := build_ignores_tested_values JoinTree.backend .dayOne
  refine ⟨(hleaf _).1 rfl, (hleaf _).2 rfl, fun l => hquery _ _ ?_, rfl, rfl⟩
  have hnull (value value' : Json) (t t' : Option ScalarType) : Leaf.SameButTested
      ⟨.string, "email", "isNull", value, t⟩ ⟨.string, "email", "isNull", value', t'⟩ :=
    ⟨rfl, rfl, rfl, .inl (.inl rfl)⟩
  have hnotNull (value value' : Json) (t t' : Option ScalarType) : Leaf.SameButTested
      ⟨.boolean, "b", "isNotNull", value, t⟩ ⟨.boolean, "b", "isNotNull", value', t'⟩ :=
    ⟨rfl, rfl, rfl, .inl (.inr rfl)⟩
  have hsame : l.SameButTested l := ⟨rfl, rfl, rfl, .inr ⟨rfl, rfl⟩⟩
  exact .join .or (.cons (.leaf (hnull _ _ _ _)) (.cons
    (.join .and (.cons (.leaf (hnotNull _ _ _ _)) (.cons (.leaf hsame) .nil))) .nil))

end Backend

end FilterQuery
