import FilterQuery.Proofs.Sql.Template

/-!
# What the tokens of a comparison hold

The identifiers of a comparison are the segments of its column, and its literals the text of its
value where the relation takes one. Parentheses are those of the template, which the relation and
the type of the value tell; neither a column nor a value adds one, or a word between operands.
-/

namespace FilterQuery

/-- The text that a value puts into quotes. -/
def Scalar.quoted? : Scalar → Option String
  | .string s => some s
  | .date d => some d.text
  | _ => none

/-- The texts that a comparison puts into quotes as literals. -/
def Comparison.quoted (x : Comparison) : List String :=
  if x.relation.isUnary then [] else x.value.quoted?.toList

namespace Sql.Dialect

open Token

/-- The parentheses of a relation's template. -/
def relationMarks (d : Dialect) : Relation → List Token
  | .dayEq | .monthEq | .yearEq | .dateEq => [.mark '(', .mark ')']
  | .dayOfWeekEq =>
    match d with
    | .postgres => [.mark '(', .mark ')']
    | .sqlServer => [.mark '(', .mark '(', .mark '(', .mark ')', .mark ')', .mark ')']
  | _ => []

/-- The parentheses of the literals of a type. -/
def literalMarks (d : Dialect) (type? : Option ScalarType) : List Token :=
  match d, type? with
  | .sqlServer, some .date => [.mark '(', .mark ')']
  | _, _ => []

/-- The parentheses of a comparison's template. -/
def comparisonMarks (d : Dialect) (x : Comparison) : List Token :=
  d.relationMarks x.relation ++
    if x.relation.isUnary then [] else d.literalMarks x.value.type?

/-- The fixed texts of a template have the parentheses of the relation and quote nothing. -/
theorem filterMap_fixed_templateOf (d : Dialect) (x : Comparison) :
    (d.fixed (d.templateOf x).before ++ d.fixed (d.templateOf x).after).filterMap structural? =
      d.relationMarks x.relation ∧
    ∀ t ∈ d.fixed (d.templateOf x).before ++ d.fixed (d.templateOf x).after,
      t.identifier? = none ∧ t.literal? = none := by
  rw [templateOf]
  generalize x.relation = relation
  generalize decide (x.value = .null) = isNull
  cases d <;> cases relation <;> cases isNull <;> decide +kernel

/-- A value is written where the relation takes one, unless null is asked for by name. -/
theorem ite_hasValue_templateOf {β : Type} (d : Dialect) (x : Comparison) (f : Scalar → List β)
    (hnull : f .null = []) :
    (if (d.templateOf x).hasValue then f x.value else []) =
      if x.relation.isUnary then [] else f x.value := by
  obtain ⟨column, relation, value⟩ := x
  cases relation with
  | eq | ne =>
    by_cases hvalue : value = .null
    · simp [templateOf, template, hvalue, hnull]
    · simp [templateOf, template, hvalue, Relation.isUnary]
  | _ => cases d <;> rfl

/-- What is taken of a column's tokens is taken of its segments. -/
theorem filterMap_columnTokens {β : Type} (f : Token → Option β) (hdot : f (.mark '.') = none)
    (column : String) : (columnTokens column).filterMap f =
      (segments column).filterMap fun segment => f (.identifier segment.toList) := by
  rw [columnTokens]
  induction segments column with
  | nil => rfl
  | cons name names ih =>
    cases names with
    | nil => rfl
    | cons next names =>
      rw [List.map_cons] at ih ⊢
      rw [List.map_cons, List.intercalate_cons_cons, List.append_assoc, List.filterMap_append,
        List.filterMap_append, ih, List.filterMap_cons_none hdot, List.filterMap_nil,
        List.nil_append]
      cases hname : f (.identifier name.toList) <;> simp only [List.filterMap_cons, hname] <;> rfl

/-- What is taken of a comparison's tokens is taken of its template, its column and its value. -/
theorem filterMap_comparisonTokens {β : Type} (d : Dialect) (x : Comparison)
    (f : Token → Option β) (hdot : f (.mark '.') = none) (hnull : f (.word "NULL".toList) = none) :
    (d.comparisonTokens x).filterMap f =
      (d.fixed (d.templateOf x).before).filterMap f ++
        ((segments x.column).filterMap fun segment => f (.identifier segment.toList)) ++
          (d.fixed (d.templateOf x).after).filterMap f ++
            if x.relation.isUnary then [] else (d.valueTokens x.value).filterMap f := by
  rw [← d.ite_hasValue_templateOf x (fun value => (d.valueTokens value).filterMap f)
    (List.filterMap_cons_none hnull), ← filterMap_columnTokens f hdot]
  rw [comparisonTokens, List.filterMap_append, List.filterMap_append, List.filterMap_append]
  congr 1
  split <;> rfl

/-- A run of digits is no word between operands. -/
private theorem structural?_word_of_isDigit {cs : List Char} (h : ∀ c ∈ cs, Text.isDigit c) :
    structural? (.word cs) = none := by
  rw [structural?, if_neg]
  intro hword
  rw [Bool.or_eq_true, decide_eq_true_eq, decide_eq_true_eq] at hword
  rcases hword with rfl | rfl
  · exact absurd (h 'A' (by decide)) (by decide)
  · exact absurd (h 'O' (by decide)) (by decide)

/-- A number quotes nothing and has no parentheses. -/
theorem numberTokens_plain (n : Decimal) : ∀ t ∈ numberTokens n,
    t.identifier? = none ∧ t.literal? = none ∧ structural? t = none := by
  have hdigit : ∀ c ∈ Text.paddedDigits (n.scale + 1) n.coefficient, Text.isDigit c :=
    List.all_eq_true.mp (Text.all_isDigit_paddedDigits _ _)
  have hword (cs : List Char) (h : ∀ c ∈ cs, Text.isDigit c) : (Token.word cs).identifier? = none ∧
      (Token.word cs).literal? = none ∧ structural? (.word cs) = none :=
    ⟨rfl, rfl, structural?_word_of_isDigit h⟩
  intro t ht
  rw [numberTokens, List.mem_append, List.mem_cons] at ht
  rcases ht with ht | rfl | ht
  · split at ht
    · obtain rfl := List.mem_singleton.mp ht
      decide
    · cases ht
  · exact hword _ fun c hc => hdigit c (List.mem_of_mem_take hc)
  · split at ht
    · cases ht
    · rcases List.mem_cons.mp ht with rfl | ht
      · decide
      · obtain rfl := List.mem_singleton.mp ht
        exact hword _ fun c hc => hdigit c (List.mem_of_mem_drop hc)

/-- A value quotes no identifier, its text as a literal if it is a text or a date, and has the
parentheses of its type. -/
theorem filterMap_valueTokens (d : Dialect) (value : Scalar) :
    (d.valueTokens value).filterMap identifier? = [] ∧
    (d.valueTokens value).filterMap literal? = value.quoted?.toList ∧
    (d.valueTokens value).filterMap structural? = d.literalMarks value.type? := by
  cases value with
  | null => cases d <;> exact ⟨rfl, rfl, rfl⟩
  | bool b => cases d <;> cases b <;> exact ⟨rfl, rfl, rfl⟩
  | string s =>
    refine ⟨rfl, ?_, ?_⟩
    · exact congrArg (fun text => [text]) (String.ofList_toList)
    · cases d <;> rfl
  | date date => cases d <;> exact ⟨rfl, rfl, rfl⟩
  | numeric n =>
    have hplain := numberTokens_plain n.normalize
    refine ⟨?_, ?_, ?_⟩
    · exact List.filterMap_eq_nil_iff.mpr fun t ht => (hplain t ht).1
    · exact List.filterMap_eq_nil_iff.mpr fun t ht => (hplain t ht).2.1
    · refine (List.filterMap_eq_nil_iff.mpr fun t ht => (hplain t ht).2.2).trans ?_
      cases d <;> rfl

/-- The identifiers of a comparison are the segments of its column. -/
theorem identifiers_comparisonTokens (d : Dialect) (x : Comparison) :
    (d.comparisonTokens x).filterMap identifier? = segments x.column := by
  have hfixed := (d.filterMap_fixed_templateOf x).2
  have hname (segment : String) : (Token.identifier segment.toList).identifier? = some segment :=
    congrArg some String.ofList_toList
  rw [filterMap_comparisonTokens d x identifier? rfl rfl, (d.filterMap_valueTokens x.value).1,
    ite_self, List.append_nil,
    List.filterMap_eq_nil_iff.mpr fun t ht => (hfixed t (List.mem_append_left _ ht)).1,
    List.filterMap_eq_nil_iff.mpr fun t ht => (hfixed t (List.mem_append_right _ ht)).1,
    List.nil_append, List.append_nil]
  simp only [hname, List.filterMap_some]

/-- The literals of a comparison are the text of its value, where the relation takes one. -/
theorem literals_comparisonTokens (d : Dialect) (x : Comparison) :
    (d.comparisonTokens x).filterMap literal? = x.quoted := by
  have hfixed := (d.filterMap_fixed_templateOf x).2
  have hcolumn : ((segments x.column).filterMap fun segment =>
      (Token.identifier segment.toList).literal?) = [] :=
    List.filterMap_eq_nil_iff.mpr fun _ _ => rfl
  rw [filterMap_comparisonTokens d x literal? rfl rfl, (d.filterMap_valueTokens x.value).2.1,
    List.filterMap_eq_nil_iff.mpr fun t ht => (hfixed t (List.mem_append_left _ ht)).2,
    List.filterMap_eq_nil_iff.mpr fun t ht => (hfixed t (List.mem_append_right _ ht)).2, hcolumn]
  rfl

/-- The parentheses of a comparison are those of its template, and no word of it stands between
operands. -/
theorem marks_comparisonTokens (d : Dialect) (x : Comparison) :
    (d.comparisonTokens x).filterMap structural? = d.comparisonMarks x := by
  have hfixed := (d.filterMap_fixed_templateOf x).1
  have hcolumn : ((segments x.column).filterMap fun segment =>
      structural? (.identifier segment.toList)) = [] :=
    List.filterMap_eq_nil_iff.mpr fun _ _ => rfl
  rw [filterMap_comparisonTokens d x structural? rfl rfl, (d.filterMap_valueTokens x.value).2.2,
    hcolumn, List.append_nil, ← List.filterMap_append, hfixed]
  rfl

end Sql.Dialect

end FilterQuery
