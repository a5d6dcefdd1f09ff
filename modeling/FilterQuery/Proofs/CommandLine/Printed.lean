import FilterQuery.Proofs.CommandLine.Outline
import FilterQuery.Proofs.Sql.ReadBack

/-!
# What the compile command writes

A condition is written in one line or as an outline, behind a selection if there is a table. Either
text shows the condition to a reader who knows the quoting rules of the dialect: the line has the
tokens of its tree, and the outline the tree itself. Both can be counted: the joins of a line have
one keyword less than there are comparisons, and an outline has an entry for each.
-/

namespace FilterQuery

open Sql Token

namespace Sql.Token

/-- The connective that a token stands for. -/
def connective? : Token → Option Connective
  | .word letters => Connective.ofKeyword? (String.ofList letters)
  | _ => none

/-- Only words between operands stand for connectives. -/
theorem bind_structural?_connective? (t : Token) :
    (structural? t).bind connective? = connective? t := by
  cases t with
  | word letters =>
    by_cases hkeyword : letters = "AND".toList ∨ letters = "OR".toList
    · rcases hkeyword with rfl | rfl <;> rfl
    · have hstructural : structural? (.word letters) = none := by
        rw [structural?, if_neg]
        rwa [Bool.or_eq_true, decide_eq_true_eq, decide_eq_true_eq]
      have hnone : Connective.ofKeyword? (String.ofList letters) = none := by
        rw [Connective.ofKeyword?, List.find?_eq_none]
        intro k _ hk
        rw [decide_eq_true_iff, ← String.toList_inj, String.toList_ofList] at hk
        refine hkeyword ?_
        cases k with
        | and => exact .inl hk.symm
        | or => exact .inr hk.symm
      rw [hstructural, connective?, hnone]
      rfl
  | mark c =>
    rw [structural?]
    split <;> rfl
  | identifier name => rfl
  | literal text => rfl

end Sql.Token

namespace Connective

/-- A join stands for its connective between those of its operands. -/
theorem filterMap_connective?_joinTokens (k : Connective) (left right : List Token) :
    (k.joinTokens left right).filterMap connective? =
      left.filterMap connective? ++ k :: right.filterMap connective? := by
  have hbetween : k.between.filterMap connective? = [k] := by cases k <;> rfl
  have hmark (c : Char) : connective? (.mark c) = none := rfl
  rw [joinTokens, List.filterMap_append, List.filterMap_append, List.filterMap_append, hbetween,
    List.filterMap_cons_none (hmark _), List.filterMap_cons_none (hmark _), List.filterMap_nil,
    List.append_nil, List.append_assoc, List.singleton_append]

end Connective

namespace Sql.Dialect

/-- No connective stands in a comparison, whatever its column and its value hold. -/
theorem filterMap_connective?_comparisonTokens (d : Dialect) (x : Comparison) :
    (d.comparisonTokens x).filterMap connective? = [] := by
  have hrelation : (d.relationMarks x.relation).filterMap connective? = [] := by
    generalize x.relation = relation
    cases d <;> cases relation <;> rfl
  have hliteral : (d.literalMarks x.value.type?).filterMap connective? = [] := by
    cases d with
    | postgres => rfl
    | sqlServer => rcases x.value.type? with _ | _ | _ | _ | _ <;> rfl
  have hmarks : (d.comparisonMarks x).filterMap connective? = [] := by
    rw [comparisonMarks, List.filterMap_append, hrelation, List.nil_append]
    split
    · rfl
    · exact hliteral
  rw [← funext bind_structural?_connective?, ← List.filterMap_filterMap, d.marks_comparisonTokens x,
    hmarks]

/-- The joins of a tree are one less than its comparisons. -/
theorem length_connectives_treeTokens (d : Dialect) (t : JoinTree Comparison) :
    ((d.treeTokens t).filterMap connective?).length + 1 = t.entries.length := by
  induction t with
  | leaf x =>
    have hnone := d.filterMap_connective?_comparisonTokens x
    rw [show d.treeTokens (.leaf x) = d.comparisonTokens x from rfl, hnone]
    rfl
  | join k left right ihLeft ihRight =>
    have hjoin := k.filterMap_connective?_joinTokens (d.treeTokens left) (d.treeTokens right)
    rw [show d.treeTokens (.join k left right) =
      k.joinTokens (d.treeTokens left) (d.treeTokens right) from rfl, hjoin, JoinTree.entries,
      List.length_append, List.length_append, List.length_cons, ← ihLeft, ← ihRight]
    omega

/-! ## Selections -/

/-- What stands in front of a condition that selects the rows of a table. -/
def selection (d : Dialect) (table : String) : String :=
  "SELECT * FROM " ++ d.quote table ++ " WHERE"

/-- The tokens of a selection. -/
def selectionTokens (d : Dialect) (table : String) : List Token :=
  d.fixed "SELECT * FROM " ++ columnTokens table ++ d.fixed " WHERE"

/-- Quotes keep a selection together, whatever the name of its table. -/
theorem tokens?_selection (d : Dialect) (table : String) :
    d.tokens? (d.selection table) = some (d.selectionTokens table) := by
  have hfrom : (d.tokens? "SELECT * FROM ").isSome := by cases d <;> rfl
  have hwhere : (d.tokens? " WHERE").isSome := by cases d <;> rfl
  have hspace : d.isBreak ' ' := by cases d <;> rfl
  have hfront : d.tokens? ("SELECT * FROM " ++ d.quote table) =
      some (d.fixed "SELECT * FROM " ++ columnTokens table) :=
    tokens?_append (tokens?_eq_fixed hfrom) (d.tokens?_quote table) (.of_getLast hspace)
  exact tokens?_append hfront (tokens?_eq_fixed hwhere) (.of_head hspace)

/-- What is in neither fixed text nor in a dot between segments is in no selection. -/
theorem filterMap_selectionTokens {β : Type} (d : Dialect) (table : String) {f : Token → Option β}
    (hfixed : ∀ t ∈ d.fixed "SELECT * FROM " ++ d.fixed " WHERE", f t = none)
    (hdot : f (.mark '.') = none) (hname : ∀ name, f (.identifier name) = none) :
    (d.selectionTokens table).filterMap f = [] := by
  have hfront : (d.fixed "SELECT * FROM ").filterMap f = [] :=
    List.filterMap_eq_nil_iff.mpr fun t ht => hfixed t (List.mem_append_left _ ht)
  have hbehind : (d.fixed " WHERE").filterMap f = [] :=
    List.filterMap_eq_nil_iff.mpr fun t ht => hfixed t (List.mem_append_right _ ht)
  have hcolumn : (columnTokens table).filterMap f = [] := by
    rw [filterMap_columnTokens f hdot]
    exact List.filterMap_eq_nil_iff.mpr fun _ _ => hname _
  rw [selectionTokens, List.filterMap_append, List.filterMap_append, hfront, hbehind, hcolumn]
  rfl

/-- A selection is one line. -/
theorem isLine_selection (d : Dialect) (table : String) : d.IsLine (d.selection table) := by
  refine ⟨_, d.tokens?_selection table, ?_⟩
  rw [lineBreak_notMem_iff]
  exact d.filterMap_selectionTokens table (by cases d <;> decide) rfl fun _ => rfl

/-- No connective stands in a selection. -/
theorem filterMap_connective?_selectionTokens (d : Dialect) (table : String) :
    (d.selectionTokens table).filterMap connective? = [] :=
  d.filterMap_selectionTokens table (by cases d <;> decide) rfl fun _ => rfl

end Sql.Dialect

namespace CommandLine

open Sql.Dialect

/-- The tokens in front of a condition that is written in one line. -/
def openingTokens (d : Dialect) (table : Option String) : List Token :=
  table.toList.flatMap fun table => d.selectionTokens table ++ [.mark ' ']

theorem filterMap_connective?_openingTokens (d : Dialect) (table : Option String) :
    (openingTokens d table).filterMap connective? = [] := by
  cases table with
  | none => rfl
  | some table =>
    rw [openingTokens, Option.toList_some, List.flatMap_singleton, List.filterMap_append,
      filterMap_connective?_selectionTokens]
    rfl

/-- The lines in front of a condition that is written as an outline. -/
def openingLines (d : Dialect) (table : Option String) : List String :=
  table.toList.map d.selection

/-- How many comparisons are found in what the compile command has written: in an outline the lines
behind the selection that are no keyword, and in one line one more than there are keywords. -/
def shownComparisons? (d : Dialect) (table : Option String) (pretty : Bool) (text : String) :
    Option ℕ :=
  if pretty then
    (d.linesOf? text).map fun lines =>
      ((lines.drop table.toList.length).filterMap entryText?).length
  else (d.tokens? text).map fun tokens => (tokens.filterMap connective?).length + 1

/-- What the compile command has written shows a condition. -/
structure Shows (d : Dialect) (table : Option String) (pretty : Bool) (c : Condition)
    (text : String) : Prop where
  /-- One line has the tokens of the condition behind those of the selection. -/
  line : pretty = false → ∃ t tokens, d.Reading c t tokens ∧
    d.tokens? text = some (openingTokens d table ++ tokens ++ [lineBreak])
  /-- An outline has the tree of the condition behind the selection, one level further in if there
  is one. -/
  outline : pretty = true → ∃ lines, d.linesOf? text = some (openingLines d table ++ lines) ∧
    TextTree.ofLines? lines = some (table.toList.length, d.textTree c)
  /-- As many comparisons are found as the condition has. -/
  count : shownComparisons? d table pretty text = some c.comparisons.length

/-- One line is read as its selection, its condition and its end. -/
theorem tokens?_present {d : Dialect} {c : Condition} {tokens : List Token}
    (h : d.tokens? (d.render c) = some tokens) (table : Option String) :
    d.tokens? (present d table false c) = some (openingTokens d table ++ tokens ++ [lineBreak]) := by
  have hspace : d.isBreak ' ' := by cases d <;> rfl
  have hbreak : d.isBreak '\n' := by cases d <;> rfl
  have hend : d.tokens? "\n" = some [lineBreak] := by cases d <;> rfl
  have hline : d.tokens? (d.render c ++ "\n") = some (tokens ++ [lineBreak]) :=
    tokens?_append h hend (.of_head hbreak)
  cases table with
  | none => exact hline
  | some table =>
    have hblank : d.tokens? " " = some [.mark ' '] := by cases d <;> rfl
    have hopening : d.tokens? (d.selection table ++ " ") =
        some (d.selectionTokens table ++ [.mark ' ']) :=
      tokens?_append (d.tokens?_selection table) hblank (.of_head hspace)
    have hwhere : "SELECT * FROM " ++ d.quote table ++ " WHERE " = d.selection table ++ " " := by
      have hblanks : (" WHERE " : String) = " WHERE" ++ " " := by decide
      exact (congrArg ("SELECT * FROM " ++ d.quote table ++ ·) hblanks).trans
        String.append_assoc.symm
    have hsplit : present d (some table) false c =
        (d.selection table ++ " ") ++ (d.render c ++ "\n") := by
      rw [← hwhere, ← String.append_assoc]
      rfl
    have hlast : (d.selection table ++ " ").toList.getLast? = some ' ' := by
      rw [String.toList_append, List.getLast?_append]
      rfl
    rw [hsplit, openingTokens, Option.toList_some, List.flatMap_singleton, List.append_assoc]
    exact tokens?_append hopening hline (.of_getLast (by rw [hlast]; exact hspace))

/-- An outline is read as its selection and the lines of the condition. -/
theorem linesOf?_present (d : Dialect) (table : Option String) (c : Condition) :
    d.linesOf? (present d table true c) =
      some (openingLines d table ++ d.outline table.toList.length c) := by
  have hpresent : present d table true c =
      unlines (openingLines d table ++ d.outline table.toList.length c) := by
    cases table <;> rfl
  rw [hpresent]
  refine d.linesOf?_unlines (List.forall_mem_append.mpr ⟨?_, ?_⟩)
  · intro line hline
    obtain ⟨name, -, rfl⟩ := List.mem_map.mp hline
    exact d.isLine_selection name
  · rw [outline_eq_lines]
    exact d.isLine_of_mem_lines _ c

/-- What is written of a condition without empty join shows it. -/
theorem shows_present (d : Dialect) (table : Option String) (pretty : Bool) {c : Condition}
    (h : c.hasEmptyJoin = false) : Shows d table pretty c (present d table pretty c) := by
  obtain ⟨t, hreading⟩ := d.exists_reading h
  cases pretty with
  | false =>
    have hsplit := tokens?_present hreading.split table
    refine ⟨fun _ => ⟨t, _, hreading, hsplit⟩, nofun, ?_⟩
    have hend : [lineBreak].filterMap connective? = [] := rfl
    rw [shownComparisons?, if_neg Bool.false_ne_true, hsplit, Option.map_some,
      List.filterMap_append, List.filterMap_append, filterMap_connective?_openingTokens, hend,
      List.nil_append, List.append_nil, d.length_connectives_treeTokens, hreading.entries]
  | true =>
    have hsplit := linesOf?_present d table c
    refine ⟨nofun, fun _ => ⟨_, hsplit, d.ofLines?_outline _ c⟩, ?_⟩
    have hlength : (openingLines d table).length = table.toList.length := List.length_map _
    rw [shownComparisons?, if_pos rfl, hsplit, Option.map_some, ← hlength, List.drop_left,
      outline_eq_lines, filterMap_entryText?_lines, List.length_map,
      ← Condition.comparisons_eq_leaves]

end CommandLine

end FilterQuery
