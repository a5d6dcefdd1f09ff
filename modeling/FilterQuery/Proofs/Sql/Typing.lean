import FilterQuery.Proofs.Condition.Compiled
import FilterQuery.Proofs.Sql.Meaning

/-!
# Compiled conditions are well typed

Whatever a text says and whatever stands for its placeholders: if it is compiled at all, every
comparison of its condition names a column and has a value that its relation takes.
-/

namespace FilterQuery.Sql

namespace Dialect

/-- Every comparison of a compiled condition is that of a well-formed leaf on the date of the
context. -/
theorem exists_leaf_of_compile {d : Dialect} {catalog : Catalog} {p : Placeholder.Substitution}
    {ctx : Placeholder.Context} {text : String} {c : Condition}
    (h : (Engine.compile ⟨catalog, p, d.backend⟩ ctx text).run = Except.ok c) {x : Comparison}
    (hx : x ∈ c.comparisons) :
    ∃ (l : Leaf) (today : Date), l.WellFormed ∧ ctx.evaluationDate = .ok today ∧
      l.comparison ⟨catalog, today⟩ = .ok x := by
  obtain ⟨q, today, t, hq, hdate, ht, rfl⟩ := Engine.compile_eq_ok h
  rw [Condition.comparisons_eq_leaves, leaves_make] at hx
  have hmem : Except.ok x ∈ q.leaves.map (·.comparison ⟨catalog, today⟩) := by
    rw [Query.comparison_leaves_of_tree q ht]
    exact List.mem_map_of_mem hx
  obtain ⟨l, hl, hcomparison⟩ := List.mem_map.mp hmem
  exact ⟨l, today, hq.leaf l hl, hdate, hcomparison⟩

/-- Every comparison of a compiled condition has a column that is not blank and a value that its
relation takes. -/
theorem compile_well_typed (d : Dialect) (p : Placeholder.Substitution)
    (ctx : Placeholder.Context) (text : String) (c : Condition)
    (h : (Engine.compile ⟨.builtin, p, d.backend⟩ ctx text).run = Except.ok c) :
    ∀ x ∈ c.comparisons, Text.isBlankText x.column = false ∧ x.relation.Takes x.value := by
  intro x hx
  obtain ⟨l, today, hl, -, hcomparison⟩ := exists_leaf_of_compile h hx
  obtain ⟨v, hsound, -⟩ := Leaf.sound_of_comparison hcomparison
  exact ⟨hsound.column ▸ hl.column, hsound.takes⟩

/-- A day of the month with zeros behind its point, and a placeholder for a date. -/
theorem compile_well_typed_mixed :
    let leaf := "\x7b\"type\":\"DateQuery\",\"column\":\"d\","
    let text := "\x7b\"type\":\"OrQuery\",\"children\":[" ++
      leaf ++ "\"operator\":\"dayEqual\",\"value\":\"31.00\"\x7d," ++
      leaf ++ "\"operator\":\"equals\",\"value\":\"[today]\"\x7d]\x7d"
    let e : Engine Id Condition := .builtin postgres.backend
    ∃ c, (e.compile (.of "u-1" .dayOne) text).run = Except.ok c ∧
      c.leaves = [⟨"d", .dayEq, .numeric ⟨false, 31, 0, by decide, by decide⟩⟩,
        ⟨"d", .eq, .date .dayOne⟩] ∧
      ∀ x ∈ c.comparisons, Text.isBlankText x.column = false ∧ x.relation.Takes x.value := by
  intro leaf text e
  have h : ((e.compile (.of "u-1" .dayOne) text).run : Except QueryError Condition).map
      Condition.leaves = .ok [⟨"d", .dayEq, .numeric ⟨false, 31, 0, by decide, by decide⟩⟩,
        ⟨"d", .eq, .date .dayOne⟩] := by
    decide +kernel
  obtain ⟨c, hc, hleaves⟩ := map_eq_ok_iff.mp h
  exact ⟨c, hc, hleaves, postgres.compile_well_typed _ _ text c hc⟩

end Dialect

end FilterQuery.Sql
