import FilterQuery.Proofs.Sql.Flattening
import FilterQuery.Proofs.Sql.JoinTokens
import FilterQuery.Proofs.Sql.Walks

/-!
# Reading conditions back

The text of a condition is split into the tokens of its comparisons, with the parentheses and the
words of its joins between them. Nothing that a column or a value holds changes that, so the text
tells the tree of the condition and the text of every comparison in it.
-/

namespace FilterQuery

open Sql Token

namespace Sql.Dialect

/-- A join is read as its operands in parentheses. -/
theorem tokens?_joinTexts (d : Dialect) (k : Connective) {left right : String}
    {leftTokens rightTokens : List Token} (hleft : d.tokens? left = some leftTokens)
    (hright : d.tokens? right = some rightTokens) :
    d.tokens? (joinTexts k.keyword left right) = some (k.joinTokens leftTokens rightTokens) := by
  have hopening : d.isBreak '(' := by cases d <;> rfl
  have hclosing : d.isBreak ')' := by cases d <;> rfl
  have hbetween : d.tokens? (") " ++ k.keyword ++ " (") = some k.between := by
    cases d <;> cases k <;> rfl
  have hhead (rest : String) :
      (") " ++ k.keyword ++ " (" ++ rest).toList.head? = some ')' := by
    rw [String.append_assoc, String.append_assoc, String.toList_append]
    rfl
  have hlast : (") " ++ k.keyword ++ " (").toList.getLast? = some '(' := by
    cases k <;> rfl
  have hbehind : d.tokens? (right ++ ")") = some (rightTokens ++ [.mark ')']) :=
    tokens?_append hright (by cases d <;> rfl) (.of_head hclosing)
  have hrest : d.tokens? (") " ++ k.keyword ++ " (" ++ (right ++ ")")) =
      some (k.between ++ (rightTokens ++ [.mark ')'])) :=
    tokens?_append hbetween hbehind (.of_getLast (by rw [hlast]; exact hopening))
  have hall : d.tokens? (left ++ (") " ++ k.keyword ++ " (" ++ (right ++ ")"))) =
      some (leftTokens ++ (k.between ++ (rightTokens ++ [.mark ')']))) :=
    tokens?_append hleft hrest (.of_head (by rw [hhead]; exact hclosing))
  have hsplit : joinTexts k.keyword left right =
      "(" ++ (left ++ (") " ++ k.keyword ++ " (" ++ (right ++ ")"))) := by
    simp only [joinTexts, String.append_assoc]
  have htokens : k.joinTokens leftTokens rightTokens =
      [.mark '('] ++ (leftTokens ++ (k.between ++ (rightTokens ++ [.mark ')']))) := by
    simp only [Connective.joinTokens, List.cons_append, List.append_assoc, List.nil_append]
  rw [hsplit, htokens]
  exact tokens?_append (by cases d <;> rfl) hall (.of_getLast hopening)

/-- The text of a tree: its comparisons in the parentheses of its joins. -/
def treeText (d : Dialect) : JoinTree Comparison → String :=
  JoinTree.fold d.renderComparison fun k => joinTexts k.keyword

/-- The text of a tree is read as the tokens of the tree. -/
theorem tokens?_treeText (d : Dialect) (t : JoinTree Comparison) :
    d.tokens? (d.treeText t) = some (d.treeTokens t) := by
  induction t with
  | leaf x => exact d.tokens?_renderComparison x
  | join k left right ihLeft ihRight => exact d.tokens?_joinTexts k ihLeft ihRight

/-- What joins leave alone is found in a tree as it is found in its comparisons. -/
theorem filterMap_treeTokens (d : Dialect) {f : Token → Option String}
    (hmark : ∀ c, f (.mark c) = none) (hword : ∀ letters, f (.word letters) = none)
    {g : Comparison → List String} (hg : ∀ x, (d.comparisonTokens x).filterMap f = g x)
    (t : JoinTree Comparison) : (d.treeTokens t).filterMap f = t.entries.flatMap g := by
  induction t with
  | leaf x =>
    rw [JoinTree.entries, List.flatMap_singleton]
    exact hg x
  | join k left right ihLeft ihRight =>
    rw [JoinTree.entries, List.flatMap_append, ← ihLeft, ← ihRight]
    exact k.filterMap_joinTokens hmark hword _ _

/-- The identifiers of a tree are the segments of its columns in order. -/
theorem identifiers_treeTokens (d : Dialect) (t : JoinTree Comparison) :
    (d.treeTokens t).filterMap identifier? = t.entries.flatMap fun x => segments x.column :=
  d.filterMap_treeTokens (fun _ => rfl) (fun _ => rfl) d.identifiers_comparisonTokens t

/-- The literals of a tree are the texts that its comparisons quote in order. -/
theorem literals_treeTokens (d : Dialect) (t : JoinTree Comparison) :
    (d.treeTokens t).filterMap literal? = t.entries.flatMap Comparison.quoted :=
  d.filterMap_treeTokens (fun _ => rfl) (fun _ => rfl) d.literals_comparisonTokens t

/-- The structure of a tree is that of its joins around the templates of its comparisons. -/
theorem marks_treeTokens (d : Dialect) (t : JoinTree Comparison) :
    (d.treeTokens t).filterMap structural? = t.fold d.comparisonMarks Connective.joinMarks := by
  induction t with
  | leaf x => exact d.marks_comparisonTokens x
  | join k left right ihLeft ihRight =>
    rw [JoinTree.fold, ← ihLeft, ← ihRight]
    exact k.filterMap_structural_joinTokens _ _

end Sql.Dialect

namespace Sql.Condition

mutual

/-- Whether some join of a condition has no operands. -/
def hasEmptyJoin : Condition → Bool
  | .compare _ => false
  | .join _ operands => operands.isEmpty || anyHasEmptyJoin operands

/-- Whether some join of some conditions has no operands. -/
def anyHasEmptyJoin : List Condition → Bool
  | [] => false
  | c :: rest => hasEmptyJoin c || anyHasEmptyJoin rest

end

mutual

/-- A condition without empty join has a tree, whose entries are its comparisons and whose text is
its own. -/
theorem exists_tree_of_hasEmptyJoin (d : Dialect) : (c : Condition) → c.hasEmptyJoin = false →
    ∃ t, c.tree? = some t ∧ t.entries = c.leaves ∧ d.treeText t = d.text c
  | .compare x, _ => ⟨.leaf x, rfl, rfl, rfl⟩
  | .join k operands, h => by
    rw [hasEmptyJoin, Bool.or_eq_false_iff] at h
    obtain ⟨ts, htrees, hentries, htexts⟩ := exists_trees_of_anyHasEmptyJoin d operands h.2
    cases ts with
    | nil =>
      cases operands with
      | nil => cases h.1
      | cons c cs => cases htexts
    | cons first rest =>
      refine ⟨.joinAll k first rest, ?_, ?_, ?_⟩
      · rw [tree?, htrees]
      · rw [JoinTree.entries_joinAll, leaves, ← hentries, List.flatMap_cons]
      · rw [Dialect.text, ← htexts]
        exact JoinTree.fold_joinAll _ (fun k => joinTexts k.keyword) k first rest

theorem exists_trees_of_anyHasEmptyJoin (d : Dialect) : (cs : List Condition) →
    anyHasEmptyJoin cs = false → ∃ ts : List (JoinTree Comparison), treesOfAll? cs = some ts ∧
      ts.flatMap JoinTree.entries = leavesOfAll cs ∧ ts.map d.treeText = d.textOfAll cs
  | [], _ => ⟨[], rfl, rfl, rfl⟩
  | c :: cs, h => by
    rw [anyHasEmptyJoin, Bool.or_eq_false_iff] at h
    obtain ⟨t, htree, hentries, htext⟩ := exists_tree_of_hasEmptyJoin d c h.1
    obtain ⟨ts, htrees, hall, htexts⟩ := exists_trees_of_anyHasEmptyJoin d cs h.2
    refine ⟨t :: ts, ?_, ?_, ?_⟩
    · rw [treesOfAll?, htree, htrees]
    · rw [List.flatMap_cons, hentries, hall, leavesOfAll]
    · rw [List.map_cons, htext, htexts, Dialect.textOfAll]

end

mutual

/-- A condition that has a tree has no empty join. -/
theorem hasEmptyJoin_of_tree? : (c : Condition) → {t : JoinTree Comparison} → c.tree? = some t →
    c.hasEmptyJoin = false
  | .compare _, _, _ => rfl
  | .join k operands, _, h => by
    rw [tree?] at h
    split at h
    · rename_i first rest htrees
      have hsome : operands.isEmpty = false := by
        cases operands with
        | nil => cases htrees
        | cons c cs => rfl
      rw [hasEmptyJoin, hsome, anyHasEmptyJoin_of_treesOfAll? operands htrees, Bool.or_false]
    · cases h

theorem anyHasEmptyJoin_of_treesOfAll? : (cs : List Condition) →
    {ts : List (JoinTree Comparison)} → treesOfAll? cs = some ts → anyHasEmptyJoin cs = false
  | [], _, _ => rfl
  | c :: cs, _, h => by
    rw [treesOfAll?] at h
    split at h
    · rename_i htree htrees
      rw [anyHasEmptyJoin, hasEmptyJoin_of_tree? c htree, anyHasEmptyJoin_of_treesOfAll? cs htrees,
        Bool.or_false]
    · cases h

end

end Sql.Condition

namespace Sql.Dialect

open Condition

/-- What is found in the text of a condition that stands for a tree. -/
structure Reading (d : Dialect) (c : Condition) (t : JoinTree Comparison) (tokens : List Token) :
    Prop where
  /-- The tree is that of the condition, with every join from the left. -/
  tree : c.tree? = some t
  /-- The comparisons of the condition stand in the tree from left to right. -/
  entries : t.entries = c.comparisons
  /-- The text of the condition is split into the tokens. -/
  split : d.tokens? (d.render c) = some tokens
  /-- They are the tokens of the comparisons within those of the joins. -/
  parts : tokens = t.fold d.comparisonTokens Connective.joinTokens
  /-- The identifiers are the segments of the columns. -/
  identifiers : tokens.filterMap identifier? = c.comparisons.flatMap fun x => segments x.column
  /-- The literals are the values that relations take. -/
  literals : tokens.filterMap literal? = c.comparisons.flatMap Comparison.quoted
  /-- The parentheses and the words between operands are those of templates and joins. -/
  marks : tokens.filterMap structural? = t.fold d.comparisonMarks Connective.joinMarks

/-- A condition without empty join is read as its tree. -/
theorem exists_reading (d : Dialect) {c : Condition} (h : c.hasEmptyJoin = false) :
    ∃ t, d.Reading c t (d.treeTokens t) := by
  obtain ⟨t, htree, hentries, htext⟩ := exists_tree_of_hasEmptyJoin d c h
  rw [← comparisons_eq_leaves] at hentries
  refine ⟨t, ?_⟩
  constructor
  · exact htree
  · exact hentries
  · rw [render_eq_text, ← htext, tokens?_treeText]
  · rfl
  · rw [← hentries, identifiers_treeTokens]
  · rw [← hentries, literals_treeTokens]
  · exact d.marks_treeTokens t

/-- Whatever the columns and the values of a condition hold, its text is split into the tokens of
its comparisons and of its joins. Each comparison has an identifier for every segment of its column,
a literal for the value that its relation takes, and the parentheses of its template. The same text
is only that of the same joins of comparisons with the same texts. -/
theorem render_reads_back (d : Dialect) (c : Condition) (h : c.hasEmptyJoin = false) :
    (∃ t tokens, d.Reading c t tokens) ∧
    (∀ x : Comparison, d.tokens? (d.renderComparison x) = some (d.comparisonTokens x) ∧
      (d.comparisonTokens x).filterMap identifier? = segments x.column ∧
      (d.comparisonTokens x).filterMap literal? = x.quoted ∧
      (d.comparisonTokens x).filterMap structural? = d.comparisonMarks x) ∧
    ∀ c' : Condition, c'.hasEmptyJoin = false → d.render c' = d.render c →
      c'.tree?.map (JoinTree.map d.renderComparison) =
        c.tree?.map (JoinTree.map d.renderComparison) := by
  obtain ⟨t, hreading⟩ := d.exists_reading h
  refine ⟨⟨t, d.treeTokens t, hreading⟩, ?_, ?_⟩
  · intro x
    exact ⟨d.tokens?_renderComparison x, d.identifiers_comparisonTokens x,
      d.literals_comparisonTokens x, d.marks_comparisonTokens x⟩
  · intro c' h' hrender
    obtain ⟨t', hreading'⟩ := d.exists_reading h'
    have htokens : d.treeTokens t' = d.treeTokens t := by
      have hsplit := hreading'.split
      rw [hrender, hreading.split] at hsplit
      exact (Option.some.inj hsplit).symm
    rw [hreading.tree, hreading'.tree, Option.map_some, Option.map_some,
      d.map_renderComparison_eq_of_treeTokens_eq htokens]

/-- Quotes, brackets and keywords in a column and in a value stay within their tokens, and a join
around one operand leaves no trace. -/
theorem render_reads_back_quotes :
    let x : Comparison := ⟨"a\x22].(b", .eq, .string "x' OR (1 = 1"⟩
    let y : Comparison := ⟨"c", .dayOfWeekEq, .string "'"⟩
    let c : Condition := .join .or [.compare x, .compare y]
    let c' : Condition := .join .or [.join .and [.compare x], .compare y]
    c.hasEmptyJoin = false ∧ c'.hasEmptyJoin = false ∧
      sqlServer.render c' = sqlServer.render c ∧
        (∃ t tokens, sqlServer.Reading c t tokens) ∧
          c'.tree?.map (JoinTree.map sqlServer.renderComparison) =
            c.tree?.map (JoinTree.map sqlServer.renderComparison) := by
  intro x y c c'
  have hrender : sqlServer.render c' = sqlServer.render c := by
    rw [render_eq_text, render_eq_text]
    rfl
  obtain ⟨hreading, -, hsame⟩ := sqlServer.render_reads_back c rfl
  exact ⟨rfl, rfl, hrender, hreading, hsame c' rfl hrender⟩

/-- The value of a relation that speaks about the column alone is not written, even if it is a
text. -/
theorem not_all_values_read_back :
    ¬ ∀ (d : Dialect) (c : Condition) (tokens : List Token), c.hasEmptyJoin = false →
      d.tokens? (d.render c) = some tokens → ∀ x ∈ c.comparisons, ∀ s, x.value = .string s →
        s ∈ tokens.filterMap literal? := by
  intro h
  let x : Comparison := ⟨"c", .isNull, .string "x"⟩
  have hrender : postgres.tokens? (postgres.render (.compare x)) =
      some (postgres.comparisonTokens x) := by
    rw [render_eq_text]
    exact postgres.tokens?_renderComparison x
  have hmem : x ∈ (Condition.compare x).comparisons := by
    rw [comparisons_eq_leaves]
    exact List.mem_singleton.mpr rfl
  have hliteral := h postgres (.compare x) _ rfl hrender x hmem "x" rfl
  rw [literals_comparisonTokens] at hliteral
  cases hliteral

end Sql.Dialect

end FilterQuery
