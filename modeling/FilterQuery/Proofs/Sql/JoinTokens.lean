import FilterQuery.Proofs.Condition.Tree
import FilterQuery.Proofs.Sql.Parentheses

/-!
# Joins as tokens

A join puts the tokens of its operands into parentheses with a keyword between them. The parenthesis
that closes the left operand is found by counting, and the keyword behind it tells a join from a
comparison, so the tokens of a tree tell its joins and the texts of its comparisons.
-/

namespace FilterQuery

open Sql Token

namespace Connective

/-- The tokens between two operands. -/
def between (k : Connective) : List Token :=
  [.mark ')', .mark ' ', .word k.keyword.toList, .mark ' ', .mark '(']

/-- The tokens of two operands in parentheses with the keyword between them. -/
def joinTokens (k : Connective) (left right : List Token) : List Token :=
  .mark '(' :: left ++ k.between ++ right ++ [.mark ')']

/-- The parentheses and the keyword of a join around those of its operands. -/
def joinMarks (k : Connective) (left right : List Token) : List Token :=
  .mark '(' :: left ++ [.mark ')', .word k.keyword.toList, .mark '('] ++ right ++ [.mark ')']

/-- Joins have the structure of their operands within their own. -/
theorem filterMap_structural_joinTokens (k : Connective) (left right : List Token) :
    (k.joinTokens left right).filterMap structural? =
      k.joinMarks (left.filterMap structural?) (right.filterMap structural?) := by
  have hbetween : k.between.filterMap structural? =
      [.mark ')', .word k.keyword.toList, .mark '('] := by cases k <;> rfl
  rw [joinTokens, List.filterMap_append, List.filterMap_append, List.filterMap_append, hbetween]
  rfl

/-- Joins quote what their operands quote. -/
theorem filterMap_joinTokens {f : Token → Option String} (hmark : ∀ c, f (.mark c) = none)
    (hword : ∀ letters, f (.word letters) = none) (k : Connective) (left right : List Token) :
    (k.joinTokens left right).filterMap f = left.filterMap f ++ right.filterMap f := by
  have hbetween : k.between.filterMap f = [] := by
    simp only [between, List.filterMap_cons, hmark, hword, List.filterMap_nil]
  rw [joinTokens, List.filterMap_append, List.filterMap_append, List.filterMap_append, hbetween,
    List.filterMap_cons_none (hmark _), List.filterMap_cons_none (hmark _), List.filterMap_nil,
    List.append_nil, List.append_nil]

/-- Joins of balanced operands are balanced. -/
theorem balanced_joinTokens (k : Connective) {left right : List Token} (hleft : Balanced left)
    (hright : Balanced right) : Balanced (k.joinTokens left right) := by
  have hkeyword : Balanced [.mark ' ', .word k.keyword.toList, .mark ' '] :=
    fun _ => by cases k <;> rfl
  have hsplit : k.joinTokens left right = (.mark '(' :: left ++ [.mark ')']) ++
      ([.mark ' ', .word k.keyword.toList, .mark ' '] ++ (.mark '(' :: right ++ [.mark ')'])) := by
    simp only [joinTokens, between, List.cons_append, List.append_assoc, List.nil_append]
  rw [hsplit]
  exact hleft.enclosed.append (hkeyword.append hright.enclosed)

/-- What stands behind the left operand of a join. -/
theorem afterClose_joinTokens (k : Connective) {left : List Token} (hleft : Balanced left)
    (right : List Token) : afterClose 0 (k.joinTokens left right).tail =
      some (.mark ' ' :: .word k.keyword.toList :: .mark ' ' :: .mark '(' :: right ++
        [.mark ')']) := by
  have hsplit : (k.joinTokens left right).tail = left ++ .mark ')' :: (.mark ' ' ::
      .word k.keyword.toList :: .mark ' ' :: .mark '(' :: right ++ [.mark ')']) := by
    simp only [joinTokens, between, List.cons_append, List.append_assoc, List.nil_append,
      List.tail_cons]
  rw [hsplit, hleft.afterClose_eq]

/-- A join of balanced operands tells its connective and both of them. -/
theorem joinTokens_inj {k k' : Connective} {left right left' right' : List Token}
    (hleft : Balanced left) (hleft' : Balanced left')
    (h : k.joinTokens left right = k'.joinTokens left' right') :
    k = k' ∧ left = left' ∧ right = right' := by
  have hbehind := k.afterClose_joinTokens hleft right
  rw [h, k'.afterClose_joinTokens hleft' right'] at hbehind
  simp only [Option.some.injEq, List.cons_append, List.cons.injEq, Token.word.injEq, true_and,
    List.append_cancel_right_eq] at hbehind
  obtain ⟨hkeyword, hright⟩ := hbehind
  have hk : k = k' := by
    cases k <;> cases k' <;> first | rfl | exact absurd hkeyword (by decide)
  subst hk hright
  refine ⟨rfl, ?_, rfl⟩
  simp only [joinTokens, List.cons_append, List.cons.injEq, List.append_assoc, true_and,
    List.append_cancel_right_eq] at h
  exact h

end Connective

namespace Sql.Dialect

/-- The tokens of a tree: those of its comparisons with those of the joins around them. -/
def treeTokens (d : Dialect) : JoinTree Comparison → List Token :=
  JoinTree.fold d.comparisonTokens Connective.joinTokens

theorem balanced_treeTokens (d : Dialect) (t : JoinTree Comparison) : Balanced (d.treeTokens t) := by
  induction t with
  | leaf x => exact d.balanced_comparisonTokens x
  | join k left right ihLeft ihRight => exact k.balanced_joinTokens ihLeft ihRight

/-- A column starts with an identifier. -/
theorem head?_columnTokens (column : String) :
    ∃ name, (columnTokens column).head? = some (.identifier name) := by
  obtain ⟨name, names, hsegments⟩ := List.exists_cons_of_ne_nil (segments_ne_nil column)
  refine ⟨name.toList, ?_⟩
  rw [columnTokens, hsegments]
  cases names <;> rfl

theorem balanced_columnTokens (column : String) : Balanced (columnTokens column) := by
  have hplain : (columnTokens column).filterMap structural? = [] := by
    rw [filterMap_columnTokens structural? rfl]
    exact List.filterMap_eq_nil_iff.mpr fun _ _ => rfl
  rw [balanced_iff_structural, hplain]
  exact fun _ => rfl

/-- The only comparison that starts with a parenthesis goes on with a sum behind its partner. -/
theorem afterClose_dayOfWeek (column : String) (value : Scalar) :
    afterClose 0 (sqlServer.comparisonTokens ⟨column, .dayOfWeekEq, value⟩).tail =
      some (sqlServer.fixed " + 1 = " ++ sqlServer.valueTokens value) := by
  have hdepth : depthAfter 0 ((sqlServer.fixed "((DATEPART(WEEKDAY, ").tail ++
      columnTokens column) = some 2 := by
    rw [depthAfter_append]
    exact balanced_columnTokens column 2
  have hsplit : (sqlServer.comparisonTokens ⟨column, .dayOfWeekEq, value⟩).tail =
      ((sqlServer.fixed "((DATEPART(WEEKDAY, ").tail ++ columnTokens column) ++
        (sqlServer.fixed ") + @@DATEFIRST - 2) % 7) + 1 = " ++ sqlServer.valueTokens value) := by
    have hbefore : sqlServer.fixed "((DATEPART(WEEKDAY, " ≠ [] := by decide
    show (sqlServer.fixed "((DATEPART(WEEKDAY, " ++ columnTokens column ++
      sqlServer.fixed ") + @@DATEFIRST - 2) % 7) + 1 = " ++ sqlServer.valueTokens value).tail = _
    rw [List.append_assoc, List.append_assoc, List.tail_append_of_ne_nil hbefore,
      List.append_assoc]
  rw [hsplit, afterClose_append hdepth]
  rfl

/-- Other comparisons start with a word or with their column. -/
theorem head?_comparisonTokens (d : Dialect) (x : Comparison)
    (h : ¬ (d = .sqlServer ∧ x.relation = .dayOfWeekEq)) :
    (d.comparisonTokens x).head? ≠ some (.mark '(') := by
  obtain ⟨name, hname⟩ := head?_columnTokens x.column
  have hbefore : (d.fixed (d.templateOf x).before).head? ≠ some (.mark '(') := by
    rw [templateOf]
    generalize x.relation = relation at h ⊢
    generalize decide (x.value = .null) = isNull
    cases d <;> cases relation <;> cases isNull <;> first | decide | exact absurd ⟨rfl, rfl⟩ h
  rw [comparisonTokens, List.append_assoc, List.append_assoc, List.head?_append, List.head?_append,
    hname]
  intro hhead
  rcases Option.or_eq_some_iff.mp hhead with hhead | ⟨-, hhead⟩
  · exact hbefore hhead
  · cases hhead

/-- No comparison reads like a join. -/
theorem comparisonTokens_ne_joinTokens (d : Dialect) (x : Comparison) (k : Connective)
    {left : List Token} (hleft : Balanced left) (right : List Token) :
    d.comparisonTokens x ≠ k.joinTokens left right := by
  intro h
  by_cases hweekday : d = .sqlServer ∧ x.relation = .dayOfWeekEq
  · obtain ⟨rfl, hrelation⟩ := hweekday
    obtain ⟨column, relation, value⟩ := x
    subst hrelation
    have hbehind := afterClose_dayOfWeek column value
    rw [h, k.afterClose_joinTokens hleft right] at hbehind
    cases hbehind
  · refine d.head?_comparisonTokens x hweekday ?_
    rw [h]
    rfl

/-- Trees with the same tokens have the same joins of comparisons with the same texts. -/
theorem map_renderComparison_eq_of_treeTokens_eq (d : Dialect) {t t' : JoinTree Comparison}
    (h : d.treeTokens t = d.treeTokens t') :
    t.map d.renderComparison = t'.map d.renderComparison := by
  induction t generalizing t' with
  | leaf x =>
    cases t' with
    | leaf x' =>
      have htokens : d.tokens? (d.renderComparison x') = some (d.comparisonTokens x) := by
        rw [tokens?_renderComparison]
        exact congrArg some h.symm
      exact congrArg JoinTree.leaf (tokens?_inj (d.tokens?_renderComparison x) htokens)
    | join k' left' right' =>
      exact absurd h (d.comparisonTokens_ne_joinTokens x k' (d.balanced_treeTokens left') _)
  | join k left right ihLeft ihRight =>
    cases t' with
    | leaf x' =>
      exact absurd h.symm (d.comparisonTokens_ne_joinTokens x' k (d.balanced_treeTokens left) _)
    | join k' left' right' =>
      obtain ⟨rfl, hleft, hright⟩ := Connective.joinTokens_inj (d.balanced_treeTokens left)
        (d.balanced_treeTokens left') h
      have hmapped : left.map d.renderComparison = left'.map d.renderComparison := ihLeft hleft
      show JoinTree.join k (left.map d.renderComparison) (right.map d.renderComparison) = _
      rw [hmapped, ihRight hright]
      rfl

end Sql.Dialect

end FilterQuery
