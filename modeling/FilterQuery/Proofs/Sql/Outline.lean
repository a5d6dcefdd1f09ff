import FilterQuery.Proofs.Sql.Template
import FilterQuery.Proofs.Sql.Walks
import FilterQuery.Proofs.Text.Digits
import FilterQuery.Proofs.Walk.Basic
import FilterQuery.Sql.Outline

/-!
# What an outline tells

The outline of a condition lists its joins and comparisons, each before its operands. A line tells
how far in it stands and what stands there, because no text of a comparison starts with a space or
is a keyword. So the comparisons are found among the lines, and the tree is read back from the last
line to the first: a keyword takes the trees that follow it one step further in.
-/

namespace FilterQuery

/-- The connective of a keyword. -/
def Connective.ofKeyword? (text : String) : Option Connective :=
  [Connective.and, Connective.or].find? (·.keyword = text)

theorem Connective.ofKeyword?_keyword (k : Connective) : ofKeyword? k.keyword = some k := by
  cases k <;> decide

namespace Sql

/-- The joins of a condition over the texts of its comparisons. -/
inductive TextTree where
  /-- The text of a comparison. -/
  | entry (text : String)
  /-- Operands under one connective. -/
  | join (connective : Connective) (operands : List TextTree)

/-- How many steps in a line stands, and what stands there. -/
def readLine (line : String) : ℕ × String :=
  ((line.toList.takeWhile (· = ' ')).length / 2, String.ofList (line.toList.dropWhile (· = ' ')))

theorem toList_indented (level : ℕ) (text : String) :
    (indented level text).toList = List.replicate (2 * level) ' ' ++ text.toList := by
  rw [indented]
  induction level with
  | zero => simp
  | succ level ih =>
    rw [List.replicate_succ, String.join_cons, String.append_assoc, String.toList_append, ih,
      Nat.mul_succ, Nat.add_comm, ← List.replicate_append_replicate, List.append_assoc]
    rfl

/-- A line is read as it was indented, unless its text starts with a space. -/
theorem readLine_indented (level : ℕ) {text : String} (h : text.toList.head? ≠ some ' ') :
    readLine (indented level text) = (level, text) := by
  have hspaces : ∀ c ∈ List.replicate (2 * level) ' ', decide (c = ' ') = true := by
    intro c hc
    exact decide_eq_true (List.eq_of_mem_replicate hc)
  have hstart : ∀ c ∈ text.toList.head?, decide (c = ' ') = false := by
    intro c hc
    exact decide_eq_false fun hspace => h (hspace ▸ hc)
  obtain ⟨htake, hdrop⟩ := Text.span_append hspaces hstart
  rw [readLine, toList_indented, htake, hdrop, List.length_replicate, String.ofList_toList,
    Nat.mul_div_cancel_left _ Nat.two_pos]

/-- The text of a comparison that stands on a line; a line with a keyword has none. -/
def entryText? (line : String) : Option String :=
  let text := (readLine line).2
  if (Connective.ofKeyword? text).isSome then none else some text

namespace TextTree

/-- A line in front of the trees of those that follow, each with its level. A keyword takes the
trees one step further in. -/
def plant (line : String) (trees : List (ℕ × TextTree)) : List (ℕ × TextTree) :=
  let (level, text) := readLine line
  match Connective.ofKeyword? text with
  | none => (level, .entry text) :: trees
  | some k =>
    (level, .join k ((trees.takeWhile (·.1 = level + 1)).map (·.2))) ::
      trees.dropWhile (·.1 = level + 1)

/-- The tree that some lines list, with the level of its root. -/
def ofLines? (lines : List String) : Option (ℕ × TextTree) :=
  match lines.foldr plant [] with
  | [root] => some root
  | _ => none

end TextTree

namespace Dialect

open Condition

/-! ## Turns of the walk -/

/-- The walk that writes an outline line by line. -/
def outlining (d : Dialect) : Walk (Condition × ℕ) (List String) where
  visit
    | (.compare x, level), written => written ++ [indented level (d.render (.compare x))]
    | (.join k _, level), written => written ++ [indented level k.keyword]
  parts p := some (onLevel (p.2 + 1) p.1.operands)

theorem comesTo_outlining (d : Dialect) : d.outlining.ComesTo
    (fun pending => sizeOfAll (pending.map (·.1)))
    fun pending written => written ++ d.outlineOf pending where
  load_nil := rfl
  load_turn_lt := by
    rintro ⟨c, level⟩ pending written
    simp only [Walk.turn, outlining, List.map_append, map_fst_onLevel, sizeOfAll_append,
      List.map_cons, sizeOfAll, size_eq c]
    omega
  answer_nil written := by rw [outlineOf, List.append_nil]
  answer_turn := by
    rintro ⟨x | ⟨k, operands⟩, level⟩ pending written
    · simp only [Walk.turn, outlining, Condition.operands, onLevel, List.map_nil, List.nil_append,
        outlineOf, List.append_assoc, List.singleton_append]
    · simp only [Walk.turn, outlining, Condition.operands, outlineOf, List.append_assoc,
        List.singleton_append]

/-! ## Lines by recursion -/

theorem flatMap_lines_onLevel (d : Dialect) (level : ℕ) (cs : List Condition) :
    ((onLevel level cs).flatMap fun p => d.lines p.2 p.1) = d.linesOfAll level cs := by
  induction cs with
  | nil => rfl
  | cons c cs ih => rw [onLevel, List.map_cons, List.flatMap_cons, ← onLevel, ih, linesOfAll]

/-- Pending conditions have their lines in the order in which they stand. -/
theorem outlineOf_eq_flatMap (d : Dialect) (pending : List (Condition × ℕ)) :
    d.outlineOf pending = pending.flatMap fun p => d.lines p.2 p.1 := by
  induction pending using outlineOf.induct with
  | case1 => rw [outlineOf, List.flatMap_nil]
  | case2 x level pending ih =>
    rw [outlineOf, ih, List.flatMap_cons, lines, render_eq_text, text, List.singleton_append]
  | case3 k operands level pending ih =>
    rw [outlineOf, ih, List.flatMap_append, flatMap_lines_onLevel, List.flatMap_cons, lines,
      List.cons_append]

theorem outline_eq_lines (d : Dialect) (level : ℕ) (c : Condition) :
    d.outline level c = d.lines level c := by
  rw [outline, outlineOf_eq_flatMap, List.flatMap_singleton]

theorem linesOfAll_eq_flatMap (d : Dialect) (level : ℕ) (cs : List Condition) :
    d.linesOfAll level cs = cs.flatMap (d.outline level) := by
  induction cs with
  | nil => rfl
  | cons c cs ih => rw [linesOfAll, ih, List.flatMap_cons, outline_eq_lines]

/-! ## Texts of comparisons -/

/-- A column starts with the delimiter that opens its first segment. -/
theorem exists_toList_quote (d : Dialect) (column : String) :
    ∃ rest, (d.quote column).toList = d.opening :: rest := by
  obtain ⟨name, names, hsegments⟩ := List.exists_cons_of_ne_nil (segments_ne_nil column)
  have hname : (d.quoteSegment name).toList =
      d.opening :: (Text.double d.closing name.toList ++ [d.closing]) := by
    rw [quoteSegment_eq, Text.enclose, String.toList_ofList, List.cons_append]
  rw [quote, hsegments, List.map_cons]
  cases names with
  | nil => exact ⟨_, (congrArg _ String.intercalate_singleton).trans hname⟩
  | cons next names =>
    rw [List.map_cons, String.intercalate_cons_cons, String.toList_append, String.toList_append,
      hname]
    exact ⟨_, rfl⟩

/-- The text of a comparison starts with its column or with a word of its template, which is no
space and no letter that a keyword starts with. -/
theorem exists_toList_renderComparison (d : Dialect) (x : Comparison) :
    ∃ c rest, (d.renderComparison x).toList = c :: rest ∧ c ∉ [' ', 'A', 'O'] := by
  have hstart : ∃ c rest, (d.templateOf x).before.toList ++ [d.opening] = c :: rest ∧
      c ∉ [' ', 'A', 'O'] := by
    rw [templateOf]
    generalize x.relation = relation
    generalize decide (x.value = .null) = isNull
    cases d <;> cases relation <;> cases isNull <;> exact ⟨_, _, rfl, by decide⟩
  obtain ⟨c, rest, hbefore, hc⟩ := hstart
  obtain ⟨behind, hquote⟩ := d.exists_toList_quote x.column
  rw [renderComparison_eq_template, String.toList_append, String.toList_append,
    String.toList_append, hquote, List.append_cons, hbefore]
  exact ⟨c, _, rfl, hc⟩

/-- No comparison is a keyword. -/
theorem ofKeyword?_renderComparison (d : Dialect) (x : Comparison) :
    Connective.ofKeyword? (d.renderComparison x) = none := by
  obtain ⟨c, rest, hchars, hc⟩ := d.exists_toList_renderComparison x
  rw [Connective.ofKeyword?, List.find?_eq_none]
  intro k _ hk
  rw [decide_eq_true_iff] at hk
  rw [← hk] at hchars
  cases k <;> cases hchars <;> exact hc (by decide)

/-- The line of a comparison is read as its text. -/
theorem readLine_renderComparison (d : Dialect) (level : ℕ) (x : Comparison) :
    readLine (indented level (d.renderComparison x)) = (level, d.renderComparison x) := by
  obtain ⟨c, rest, hchars, hc⟩ := d.exists_toList_renderComparison x
  refine readLine_indented level ?_
  rw [hchars, List.head?_cons]
  rintro ⟨⟩
  exact hc (by decide)

/-- The line of a join is read as its keyword. -/
theorem readLine_keyword (level : ℕ) (k : Connective) :
    readLine (indented level k.keyword) = (level, k.keyword) :=
  readLine_indented level (by cases k <;> decide)

mutual

/-- The comparisons are found among the lines of a condition, from left to right. -/
theorem filterMap_entryText?_lines (d : Dialect) : (level : ℕ) → (c : Condition) →
    (d.lines level c).filterMap entryText? = c.leaves.map d.renderComparison
  | level, .compare x => by
    have hentry : entryText? (indented level (d.renderComparison x)) = some (d.renderComparison x) := by
      simp only [entryText?, readLine_renderComparison, ofKeyword?_renderComparison]
      rfl
    rw [lines, leaves, List.filterMap_cons_some hentry]
    rfl
  | level, .join k operands => by
    have hentry : entryText? (indented level k.keyword) = none := by
      simp only [entryText?, readLine_keyword, Connective.ofKeyword?_keyword]
      rfl
    rw [lines, leaves, List.filterMap_cons_none hentry]
    exact filterMap_entryText?_linesOfAll d (level + 1) operands

theorem filterMap_entryText?_linesOfAll (d : Dialect) : (level : ℕ) → (cs : List Condition) →
    (d.linesOfAll level cs).filterMap entryText? = (leavesOfAll cs).map d.renderComparison
  | _, [] => rfl
  | level, c :: cs => by
    rw [linesOfAll, List.filterMap_append, filterMap_entryText?_lines d level c,
      filterMap_entryText?_linesOfAll d level cs, leavesOfAll, List.map_append]

end

/-! ## The tree -/

mutual

/-- The joins of a condition over the texts of its comparisons. -/
def textTree (d : Dialect) : Condition → TextTree
  | .compare x => .entry (d.renderComparison x)
  | .join k operands => .join k (d.textTrees operands)

/-- The trees of some conditions. -/
def textTrees (d : Dialect) : List Condition → List TextTree
  | [] => []
  | c :: rest => d.textTree c :: d.textTrees rest

end

mutual

/-- The lines of a condition put its tree in front of those that are no further in. -/
theorem foldr_plant_lines (d : Dialect) : (level : ℕ) → (c : Condition) →
    {trees : List (ℕ × TextTree)} → (∀ t ∈ trees.head?, t.1 ≤ level) →
      (d.lines level c).foldr TextTree.plant trees = (level, d.textTree c) :: trees
  | level, .compare x, trees, _ => by
    simp only [lines, List.foldr_cons, List.foldr_nil, TextTree.plant, readLine_renderComparison,
      ofKeyword?_renderComparison, textTree]
  | level, .join k operands, trees, htrees => by
    have hdeeper : ∀ t ∈ trees.head?, t.1 ≤ level + 1 :=
      fun t ht => Nat.le_succ_of_le (htrees t ht)
    have hoperands := foldr_plant_linesOfAll d (level + 1) operands hdeeper
    have hall : ∀ t ∈ (d.textTrees operands).map (level + 1, ·), decide (t.1 = level + 1) = true := by
      intro t ht
      obtain ⟨tree, -, rfl⟩ := List.mem_map.mp ht
      exact decide_eq_true rfl
    -- The trees behind are not further in than the join, so it takes none of them.
    have hnone : ∀ t ∈ trees.head?, decide (t.1 = level + 1) = false :=
      fun t ht => decide_eq_false (Nat.ne_of_lt (Nat.lt_succ_of_le (htrees t ht)))
    obtain ⟨htake, hdrop⟩ := Text.span_append hall hnone
    simp only [lines, List.foldr_cons, hoperands, TextTree.plant, readLine_keyword,
      Connective.ofKeyword?_keyword, textTree, htake, hdrop, List.map_map]
    have hsnd : ((fun t : ℕ × TextTree => t.2) ∘ fun tree => (level + 1, tree)) = id := rfl
    rw [hsnd, List.map_id]

theorem foldr_plant_linesOfAll (d : Dialect) : (level : ℕ) → (cs : List Condition) →
    {trees : List (ℕ × TextTree)} → (∀ t ∈ trees.head?, t.1 ≤ level) →
      (d.linesOfAll level cs).foldr TextTree.plant trees =
        (d.textTrees cs).map (level, ·) ++ trees
  | _, [], _, _ => rfl
  | level, c :: cs, trees, htrees => by
    have hhead : ∀ t ∈ ((d.textTrees cs).map (level, ·) ++ trees).head?, t.1 ≤ level := by
      cases cs with
      | nil => exact htrees
      | cons next cs =>
        rintro _ ⟨⟩
        exact Nat.le_refl level
    rw [linesOfAll, List.foldr_append, foldr_plant_linesOfAll d level cs htrees,
      foldr_plant_lines d level c hhead]
    rfl

end

/-- The lines of an outline tell the level and the tree of the condition. -/
theorem ofLines?_outline (d : Dialect) (level : ℕ) (c : Condition) :
    TextTree.ofLines? (d.outline level c) = some (level, d.textTree c) := by
  have hnone : ∀ t ∈ ([] : List (ℕ × TextTree)).head?, t.1 ≤ level := by
    rintro _ ⟨⟩
  rw [TextTree.ofLines?, outline_eq_lines, d.foldr_plant_lines level c hnone]

end Dialect

end Sql

end FilterQuery
