import FilterQuery.Proofs.Sql.Contents
import FilterQuery.Proofs.Sql.Typing

/-!
# Literals of dates

A literal reads back as its date exactly for the years 0 to 9999. Dates that a text or a placeholder
spells out are of these years. A relative operator may leave them, on either side, from every date:
the calendar that bounds its count has years of six digits.
-/

namespace FilterQuery.Sql.Dialect

open Token

/-- What stands between the quotes of a date's literal is a text of ten characters `YYYY-MM-DD` that
reads back as the date. -/
def QuotesDate (d : Dialect) (date : Date) : Prop :=
  ∃ tokens text, d.tokens? (d.literal (.date date)) = some tokens ∧
    tokens.filterMap literal? = [text] ∧ text.length = 10 ∧ Date.hasDateShape text.toList ∧
      Date.ofText? text = some date

/-- A literal reads back in the years that four digits hold. -/
theorem quotesDate_iff (d : Dialect) (date : Date) : d.QuotesDate date ↔ date.HasPlainYear := by
  have htokens := d.tokens?_literal (.date date)
  have hquoted : (d.valueTokens (.date date)).filterMap literal? = [date.text] :=
    (d.filterMap_valueTokens (.date date)).2.1
  constructor
  · rintro ⟨tokens, text, hlex, htext, -, -, hread⟩
    obtain rfl := Option.some.inj (htokens.symm.trans hlex)
    obtain rfl := List.singleton_inj.mp (hquoted.symm.trans htext)
    exact date.ofText?_text_iff.mp hread
  · intro hyear
    obtain ⟨hlength, hshape, -⟩ := Date.ofChars?_chars hyear
    refine ⟨_, date.text, htokens, hquoted, ?_, ?_, date.ofText?_text_iff.mpr hyear⟩
    · rw [Date.text, String.length_ofList, hlength]
    · rw [Date.text, String.toList_ofList, hshape]

/-- A date of a compiled condition has a literal that reads back exactly in the years 0 to 9999. A
date that no relative operator made is always of these years; one that a relative operator made is
the date of the context moved by a count. -/
theorem compile_date_literals (d : Dialect) (p : Placeholder.Substitution)
    (ctx : Placeholder.Context) (text : String) (c : Condition)
    (h : (Engine.compile ⟨.builtin, p, d.backend⟩ ctx text).run = Except.ok c) :
    ∀ x ∈ c.comparisons, ∀ date, x.value = .date date →
      (d.QuotesDate date ↔ 0 ≤ date.year ∧ date.year ≤ 9999) ∧
      (x.relation ≠ .dateEq → d.QuotesDate date) ∧
      (x.relation = .dateEq → ∃ today span n, ctx.evaluationDate = .ok today ∧
        today.shift? span n = some date) := by
  intro x hx date hvalue
  obtain ⟨l, today, -, htoday, hcomparison⟩ := exists_leaf_of_compile h hx
  obtain ⟨v, hsound, hplain⟩ := Leaf.sound_of_comparison hcomparison
  refine ⟨d.quotesDate_iff date, ?_, ?_⟩
  · intro hrelation
    rcases hsound.date date hvalue with ⟨hdateEq, -⟩ | ⟨-, hv⟩
    · exact absurd hdateEq hrelation
    · exact (d.quotesDate_iff date).mpr (hplain date hv)
  · intro hrelation
    rcases hsound.date date hvalue with ⟨-, span, n, hshift⟩ | ⟨hne, -⟩
    · exact ⟨today, span, n, htoday, hshift⟩
    · exact absurd hrelation hne

/-- A placeholder's date and one that is counted from it. -/
theorem compile_date_literals_today :
    let ctx := Placeholder.Context.of "u-1" ⟨2025, 8, 21, by decide⟩
    let leaf := "\x7b\"type\":\"DateQuery\",\"column\":\"d\","
    let text := "\x7b\"type\":\"AndQuery\",\"children\":[" ++
      leaf ++ "\"operator\":\"lessThan\",\"value\":\"[today]\"\x7d," ++
      leaf ++ "\"operator\":\"yearsAfter\",\"value\":2025\x7d]\x7d"
    let e : Engine Id Condition := .builtin sqlServer.backend
    ∃ c, (e.compile ctx text).run = Except.ok c ∧
      c.leaves = [⟨"d", .lt, .date ⟨2025, 8, 21, by decide⟩⟩,
        ⟨"d", .dateEq, .date ⟨0, 8, 21, by decide⟩⟩] ∧
      ∀ x ∈ c.comparisons, ∀ date, x.value = .date date →
        (sqlServer.QuotesDate date ↔ 0 ≤ date.year ∧ date.year ≤ 9999) ∧
        (x.relation ≠ .dateEq → sqlServer.QuotesDate date) ∧
        (x.relation = .dateEq → ∃ today span n, ctx.evaluationDate = .ok today ∧
          today.shift? span n = some date) := by
  intro ctx leaf text e
  have h : ((e.compile ctx text).run : Except QueryError Condition).map Condition.leaves =
      .ok [⟨"d", .lt, .date ⟨2025, 8, 21, by decide⟩⟩,
        ⟨"d", .dateEq, .date ⟨0, 8, 21, by decide⟩⟩] := by
    decide +kernel
  obtain ⟨c, hc, hleaves⟩ := map_eq_ok_iff.mp h
  exact ⟨c, hc, hleaves, sqlServer.compile_date_literals _ ctx text c hc⟩

/-- Eight thousand years from a date of four digits there is a literal that does not read back. -/
theorem compile_far_date_not_quoted :
    let today : Date := ⟨2025, 8, 21, by decide⟩
    let date : Date := ⟨10025, 8, 21, by decide⟩
    let ctx := Placeholder.Context.of "u-1" today
    let text := "\x7b\"type\":\"DateQuery\",\"column\":\"d\"," ++
      "\"operator\":\"yearsBefore\",\"value\":8000\x7d"
    let e : Engine Id Condition := .builtin postgres.backend
    ctx.evaluationDate = .ok today ∧ today.HasPlainYear ∧
      ∃ c, (e.compile ctx text).run = Except.ok c ∧ c.comparisons = [⟨"d", .dateEq, .date date⟩] ∧
        postgres.literal (.date date) = "DATE '+10025-08-21'" ∧ ¬ postgres.QuotesDate date := by
  intro today date ctx text e
  refine ⟨rfl, by decide, ?_⟩
  have h : ((e.compile ctx text).run : Except QueryError Condition).map Condition.leaves =
      .ok [⟨"d", .dateEq, .date date⟩] := by
    decide +kernel
  obtain ⟨c, hc, hleaves⟩ := map_eq_ok_iff.mp h
  refine ⟨c, hc, (c.comparisons_eq_leaves).trans hleaves, by decide +kernel, ?_⟩
  rw [quotesDate_iff]
  decide

end FilterQuery.Sql.Dialect
