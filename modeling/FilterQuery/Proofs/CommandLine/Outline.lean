import FilterQuery.CommandLine.Run
import FilterQuery.Proofs.Sql.Contents
import FilterQuery.Proofs.Sql.Outline

/-!
# The written outline

The compile command writes an outline as one text. A line break in a column or a value stands in
quotes, so the quoting rules of the dialect still tell where the lines of the outline end: no token
of a line is a break, and splitting the tokens of the text at the breaks gives the lines back.
-/

namespace FilterQuery

theorem CommandLine.unlines_cons (line : String) (lines : List String) :
    unlines (line :: lines) = line ++ ("\n" ++ unlines lines) := by
  rw [unlines, List.map_cons, String.join_cons, String.append_assoc, ← unlines]

namespace Sql

open CommandLine (unlines unlines_cons present)

namespace Dialect

/-- The token that ends a line. -/
def lineBreak : Token := .mark '\n'

/-- A text that reads as one line: its quoted parts end, and no break stands outside of them. -/
def IsLine (d : Dialect) (s : String) : Prop :=
  ∃ tokens, d.tokens? s = some tokens ∧ lineBreak ∉ tokens

/-- The lines of a text, where breaks in quotes end no line. -/
def linesOf? (d : Dialect) (text : String) : Option (List String) :=
  (d.tokens? text).map fun tokens =>
    (tokens.splitOn lineBreak).dropLast.map fun line => String.ofList (line.flatMap d.print)

/-! ## Lines of an outline -/

/-- A token that ends a line. -/
def lineBreak? (t : Token) : Option Token := if t = lineBreak then some t else none

theorem lineBreak_notMem_iff (tokens : List Token) :
    lineBreak ∉ tokens ↔ tokens.filterMap lineBreak? = [] := by
  rw [List.filterMap_eq_nil_iff]
  constructor
  · intro h t ht
    exact if_neg fun heq : t = lineBreak => h (heq ▸ ht)
  · intro h hmem
    exact absurd ((if_pos rfl).symm.trans (h _ hmem)) (Option.some_ne_none _)

/-- A number has no break. -/
theorem lineBreak_notMem_numberTokens (n : Decimal) : lineBreak ∉ numberTokens n := by
  intro h
  rw [numberTokens, List.mem_append, List.mem_cons] at h
  rcases h with h | h | h
  · split at h <;> simp [lineBreak] at h
  · cases h
  · split at h <;> simp [lineBreak] at h

/-- A value has no break outside of its quotes. -/
theorem lineBreak_notMem_valueTokens (d : Dialect) (value : Scalar) :
    lineBreak ∉ d.valueTokens value := by
  cases value with
  | null => cases d <;> decide
  | bool b => cases d <;> cases b <;> decide
  | string s => exact List.not_mem_cons_of_ne_of_not_mem nofun List.not_mem_nil
  | date date =>
    rw [lineBreak_notMem_iff]
    cases d <;> rfl
  | numeric n => exact lineBreak_notMem_numberTokens n.normalize

/-- The fixed texts of a template have no break. -/
theorem lineBreak_notMem_fixed_templateOf (d : Dialect) (x : Comparison) :
    lineBreak ∉ d.fixed (d.templateOf x).before ∧ lineBreak ∉ d.fixed (d.templateOf x).after := by
  rw [templateOf]
  generalize x.relation = relation
  generalize decide (x.value = .null) = isNull
  cases d <;> cases relation <;> cases isNull <;> decide +kernel

/-- A comparison is one line, whatever its column and its value hold. -/
theorem isLine_renderComparison (d : Dialect) (x : Comparison) :
    d.IsLine (d.renderComparison x) := by
  refine ⟨_, d.tokens?_renderComparison x, ?_⟩
  have hfixed := d.lineBreak_notMem_fixed_templateOf x
  have hvalue := d.lineBreak_notMem_valueTokens x.value
  have hcolumn : (segments x.column).filterMap
      (fun segment => lineBreak? (.identifier segment.toList)) = [] :=
    List.filterMap_eq_nil_iff.mpr fun _ _ => rfl
  rw [lineBreak_notMem_iff] at hvalue ⊢
  rw [lineBreak_notMem_iff, lineBreak_notMem_iff] at hfixed
  rw [d.filterMap_comparisonTokens x lineBreak? rfl rfl, hfixed.1, hfixed.2, hcolumn, hvalue,
    ite_self]
  rfl

theorem isLine_keyword (d : Dialect) (k : Connective) : d.IsLine k.keyword :=
  ⟨[.word k.keyword.toList], by cases d <;> cases k <;> rfl, by cases k <;> decide⟩

/-- Indenting adds no break. -/
theorem IsLine.indented {d : Dialect} {text : String} (h : d.IsLine text) (level : ℕ) :
    d.IsLine (indented level text) := by
  obtain ⟨tokens, htokens, hbreak⟩ := h
  have hspace : d.isBreak ' ' := by cases d <;> rfl
  induction level with
  | zero =>
    rw [Sql.indented, List.replicate_zero, String.join_nil, String.empty_append]
    exact ⟨tokens, htokens, hbreak⟩
  | succ level ih =>
    obtain ⟨tokens, htokens, hbreak⟩ := ih
    have hstep : Sql.indented (level + 1) text = "  " ++ Sql.indented level text := by
      rw [Sql.indented, List.replicate_succ, String.join_cons, String.append_assoc, Sql.indented]
    have hspaces : d.tokens? "  " = some [.mark ' ', .mark ' '] := by cases d <;> rfl
    refine ⟨[.mark ' ', .mark ' '] ++ tokens, ?_, ?_⟩
    · rw [hstep]
      exact tokens?_append hspaces htokens (.of_getLast hspace)
    · exact List.not_mem_append (by decide) hbreak

mutual

theorem isLine_of_mem_lines (d : Dialect) : (level : ℕ) → (c : Condition) →
    ∀ line ∈ d.lines level c, d.IsLine line
  | level, .compare x => by
    rw [lines, List.forall_mem_singleton]
    exact (d.isLine_renderComparison x).indented level
  | level, .join k operands => by
    rw [lines, List.forall_mem_cons]
    exact ⟨(d.isLine_keyword k).indented level, isLine_of_mem_linesOfAll d (level + 1) operands⟩

theorem isLine_of_mem_linesOfAll (d : Dialect) : (level : ℕ) → (cs : List Condition) →
    ∀ line ∈ d.linesOfAll level cs, d.IsLine line
  | _, [] => List.forall_mem_nil _
  | level, c :: cs => by
    rw [linesOfAll, List.forall_mem_append]
    exact ⟨isLine_of_mem_lines d level c, isLine_of_mem_linesOfAll d level cs⟩

end

/-! ## The text -/

/-- Lines are found in the text that is written of them. -/
theorem linesOf?_unlines (d : Dialect) {lines : List String} (h : ∀ line ∈ lines, d.IsLine line) :
    d.linesOf? (unlines lines) = some lines := by
  have hbreak : d.isBreak '\n' := by cases d <;> rfl
  induction lines with
  | nil => rfl
  | cons line lines ih =>
    obtain ⟨⟨tokens, htokens, hline⟩, hlines⟩ := List.forall_mem_cons.mp h
    obtain ⟨rest, hrest, hsplit⟩ := Option.map_eq_some_iff.mp (ih hlines)
    have hend : d.tokens? "\n" = some [lineBreak] := by cases d <;> rfl
    have hnext : d.tokens? ("\n" ++ unlines lines) = some (lineBreak :: rest) :=
      tokens?_append hend hrest (.of_getLast hbreak)
    have hall : d.tokens? (unlines (line :: lines)) = some (tokens ++ lineBreak :: rest) := by
      rw [unlines_cons]
      refine tokens?_append htokens hnext (.of_head ?_)
      rw [String.toList_append]
      exact hbreak
    have hprint : String.ofList (tokens.flatMap d.print) = line := by
      rw [flatMap_print_of_lex _ htokens, String.ofList_toList]
    rw [linesOf?, hall, Option.map_some, List.splitOn_append_cons_self_of_not_mem hline,
      List.dropLast_cons_of_ne_nil (List.splitOn_ne_nil lineBreak rest), List.map_cons, hprint,
      hsplit]

/-- The tree that an outline shows, with the level of its root. -/
def outlined? (d : Dialect) (text : String) : Option (ℕ × TextTree) :=
  (d.linesOf? text).bind TextTree.ofLines?

theorem outlined?_unlines_outline (d : Dialect) (level : ℕ) (c : Condition) :
    d.outlined? (unlines (d.outline level c)) = some (level, d.textTree c) := by
  have hlines : ∀ line ∈ d.outline level c, d.IsLine line := by
    rw [outline_eq_lines]
    exact d.isLine_of_mem_lines level c
  rw [outlined?, d.linesOf?_unlines hlines, Option.bind_some, ofLines?_outline]

/-- The same outline is that of the same tree on the same level. -/
theorem textTree_eq_of_unlines_outline_eq {d : Dialect} {level level' : ℕ} {c c' : Condition}
    (h : unlines (d.outline level c) = unlines (d.outline level' c')) :
    level = level' ∧ d.textTree c = d.textTree c' := by
  have hshown := d.outlined?_unlines_outline level c
  rw [h, d.outlined?_unlines_outline] at hshown
  obtain ⟨hlevel, htree⟩ := Prod.mk.inj (Option.some.inj hshown)
  exact ⟨hlevel.symm, htree.symm⟩

/-- The line of a table in front hides nothing of an outline. -/
theorem textTree_eq_of_present_eq {d : Dialect} {table : Option String} {c c' : Condition}
    (h : present d table true c = present d table true c') : d.textTree c = d.textTree c' := by
  cases table with
  | none => exact (textTree_eq_of_unlines_outline_eq h).2
  | some table =>
    simp only [present, unlines_cons, String.append_right_inj] at h
    exact (textTree_eq_of_unlines_outline_eq h).2

/-- The walk that writes an outline ends after as many turns as the condition has parts. The outline
of a comparison is its text on the given level, and that of a join its keyword with the outlines of
its operands one level deeper. Its entries are the texts of the comparisons in order, and the text
that is written of it shows the level and the tree, so two conditions have the same one only if they
have the same joins of comparisons with the same texts. Nothing is asked of the conditions: a join
without operands has a line of its own, no comparison is a keyword, and breaks within them stand in
quotes. -/
theorem outline_tells_condition (d : Dialect) :
    (∀ level c, d.outlining.turn^[c.size] ([(c, level)], []) = ([], d.outline level c)) ∧
    (∀ level x, d.outline level (.compare x) = [indented level (d.render (.compare x))]) ∧
    (∀ level k operands, d.outline level (.join k operands) =
      indented level k.keyword :: operands.flatMap (d.outline (level + 1))) ∧
    (∀ level c, (d.outline level c).filterMap entryText? =
      c.comparisons.map fun x => d.render (.compare x)) ∧
    (∀ level c, d.outlined? (unlines (d.outline level c)) = some (level, d.textTree c)) ∧
    (∀ level level' c c', unlines (d.outline level c) = unlines (d.outline level' c') →
      level = level' ∧ d.textTree c = d.textTree c') ∧
    ∀ table c c', present d table true c = present d table true c' →
      d.textTree c = d.textTree c' := by
  have hrender : (fun x => d.render (.compare x)) = d.renderComparison :=
    funext fun x => d.render_eq_text (.compare x)
  refine ⟨?turns, ?compare, ?join, ?entries, d.outlined?_unlines_outline,
    fun _ _ _ _ => textTree_eq_of_unlines_outline_eq, fun _ _ _ => textTree_eq_of_present_eq⟩
  case turns =>
    intro level c
    exact d.comesTo_outlining.iterate_turn [] (Nat.le_refl c.size)
  case compare =>
    intro level x
    rw [outline_eq_lines, lines, ← hrender]
  case join =>
    intro level k operands
    rw [outline_eq_lines, lines, linesOfAll_eq_flatMap]
  case entries =>
    intro level c
    rw [outline_eq_lines, filterMap_entryText?_lines, Condition.comparisons_eq_leaves, hrender]

/-- Two conditions that differ in a scale alone, with a break in a value that looks like the end of
its line. -/
theorem outline_tells_condition_scales :
    let condition (n : Decimal) : Condition :=
      .join .and [.compare ⟨"s", .eq, .string "x\n  OR"⟩,
        .join .or [.compare ⟨"n", .eq, .numeric n⟩, .join .and []]]
    let long : Decimal := ⟨false, 150, 2, by decide, by decide⟩
    let short : Decimal := ⟨false, 15, 1, by decide, by decide⟩
    (unlines (postgres.outline 1 (condition long)) =
      unlines (postgres.outline 1 (condition short)) ∧
        postgres.textTree (condition long) = postgres.textTree (condition short)) ∧
    present postgres (some "t") true (condition long) =
      present postgres (some "t") true (condition short) ∧
        postgres.textTree (condition long) = postgres.textTree (condition short) := by
  intro condition long short
  have hnormal : long.normalize = short.normalize := by decide
  have hline : postgres.renderComparison ⟨"n", .eq, .numeric long⟩ =
      postgres.renderComparison ⟨"n", .eq, .numeric short⟩ := by
    simp only [renderComparison, literal, hnormal, reduceCtorEq, ite_false]
  have houtline : postgres.outline 1 (condition long) = postgres.outline 1 (condition short) := by
    simp only [outline_eq_lines, condition, lines, linesOfAll, hline]
  have htext := congrArg unlines houtline
  have hpresent : present postgres (some "t") true (condition long) =
      present postgres (some "t") true (condition short) := by
    simp only [present, houtline]
  obtain ⟨-, -, -, -, -, htree, hpresented⟩ := postgres.outline_tells_condition
  exact ⟨⟨htext, (htree 1 1 _ _ htext).2⟩, hpresent, hpresented _ _ _ hpresent⟩

end Dialect

end Sql

end FilterQuery
