import FilterQuery.Proofs.CommandLine.Printed
import FilterQuery.Proofs.CommandLine.Steps
import FilterQuery.Proofs.Condition.Compiled
import FilterQuery.Proofs.Sql.Meaning

/-!
# What is said of queries

Both commands that take a query come down to the condition that it compiles to: `compile` writes it
and `validate` counts its comparisons. The dialect has no part in whether there is a condition, so
the two agree whatever the dialects are, and settings stand for no more than the options that they
fill in.
-/

namespace FilterQuery.CommandLine

/-! ## The condition of a query -/

theorem substitution_engine (d : Sql.Dialect) (policy : Placeholder.Policy) :
    (engine d policy).substitution = ⟨.builtin, policy⟩ := rfl

theorem catalog_engine (d : Sql.Dialect) (policy : Placeholder.Policy) :
    (engine d policy).catalog = .builtin := rfl

theorem backend_engine (d : Sql.Dialect) (policy : Placeholder.Policy) :
    (engine d policy).backend = d.backend := rfl

/-- The dialect has no part in how a text is read. -/
theorem parse_engine (d d' : Sql.Dialect) (policy : Placeholder.Policy)
    (c : Placeholder.Context) (text : String) :
    (engine d policy).parse c text = (engine d' policy).parse c text := by
  simp only [Engine.parse, Engine.ofJson, substitution_engine]

/-- What a text compiles to is the same in every dialect. -/
theorem compile_engine (d d' : Sql.Dialect) (policy : Placeholder.Policy)
    (c : Placeholder.Context) (text : String) :
    ((engine d policy).compile c text).run = ((engine d' policy).compile c text).run := by
  have hmake : d.backend.make = d'.backend.make := rfl
  have hbuild (env : Environment) (q : Query) :
      (d.backend.build env q).run = (d'.backend.build env q).run := by
    rw [Backend.run_build_eq_tree, Backend.run_build_eq_tree, hmake]
  simp only [Engine.run_compile, parse_engine d d', backend_engine, catalog_engine, hbuild]

/-- A condition that is built has as many comparisons as its query has leaves. -/
theorem length_comparisons_of_build {d : Sql.Dialect} {env : Environment} {q : Query}
    {c : Sql.Condition} (h : (d.backend.build env q).run = Except.ok c) :
    c.comparisons.length = q.leafCount := by
  rw [Backend.run_build_eq_tree] at h
  obtain ⟨t, ht, rfl⟩ := map_eq_ok_iff.mp h
  have hleaves := congrArg List.length (Query.comparison_leaves_of_tree q ht)
  rw [List.length_map, List.length_map, Query.length_leaves] at hleaves
  rw [Sql.Condition.comparisons_eq_leaves, Sql.Dialect.leaves_make, hleaves]

/-- No join of a compiled condition is empty. -/
theorem hasEmptyJoin_of_compile {d : Sql.Dialect} {policy : Placeholder.Policy}
    {context : Placeholder.Context} {text : String} {c : Sql.Condition}
    (h : ((engine d policy).compile context text).run = Except.ok c) : c.hasEmptyJoin = false := by
  obtain ⟨q, today, t, -, -, -, rfl⟩ := Engine.compile_eq_ok h
  exact Sql.Condition.hasEmptyJoin_of_tree? _ (d.tree?_make t)

/-- The compile command presents the condition of a query. -/
theorem compileText_eq (s : Settings) (table : Option String) (dialect : Option Sql.Dialect)
    (pretty : Bool) (o : ContextOptions) (date : Date) (text : String) :
    compileText s table dialect pretty o date text =
      ((engine (dialect.getD s.dialect) (o.policyIn s)).compile (o.contextIn s date)
        text).run.map (present (dialect.getD s.dialect) (table <|> s.table) (pretty || s.pretty)) := by
  rw [compileText]
  cases ((engine (dialect.getD s.dialect) (o.policyIn s)).compile (o.contextIn s date) text).run
    with
  | error e => rfl
  | ok c => rfl

/-- What the validate command says of a query with so many comparisons. -/
def validText (path : String) (comparisons : Nat) : String :=
  "Query is valid: " ++ path ++ " (" ++ Text.naturalText comparisons ++ " comparisons)\n"

/-- The validate command refuses what the compile command refuses, in any dialect, and counts the
comparisons of the condition. -/
theorem validateText_eq (s : Settings) (path : String) (o : ContextOptions) (date : Date)
    (text : String) (d : Sql.Dialect) :
    validateText s path o date text =
      ((engine d (o.policyIn s)).compile (o.contextIn s date) text).run.map fun c =>
        validText path c.comparisons.length := by
  rw [compile_engine d s.dialect, Engine.run_compile, validateText]
  cases (engine s.dialect (o.policyIn s)).parse (o.contextIn s date) text with
  | error e => rfl
  | ok q =>
    change ((engine s.dialect (o.policyIn s)).build (o.contextIn s date) q).run.bind
      (fun _ => .ok (validText path q.leafCount)) = _
    rw [Engine.run_build, catalog_engine, backend_engine]
    cases (o.contextIn s date).evaluationDate with
    | error e => rfl
    | ok today =>
      dsimp only
      cases hbuild : (s.dialect.backend.build ⟨.builtin, today⟩ q).run with
      | error e => rfl
      | ok c =>
        change Except.ok (validText path q.leafCount) =
          Except.ok (validText path c.comparisons.length)
        rw [length_comparisons_of_build hbuild]

/-- With a date of its own a query has the same context on every date. -/
theorem contextIn_of_today {o : ContextOptions} (htoday : o.today.isSome) (s : Settings)
    (date date' : Date) : o.contextIn s date = o.contextIn s date' := by
  obtain ⟨today, htoday⟩ := Option.isSome_iff_exists.mp htoday
  rw [ContextOptions.contextIn, ContextOptions.contextIn, htoday]
  rfl

/-! ## Two commands on one query -/

/-- On the same files and the same input, and with a date given, both commands fail alike where the
query cannot be read. Otherwise they refuse it with the same error, or else `compile` writes a text
that shows a condition, and `validate` counts as many comparisons as the condition has and as are
found in that text, whatever the table, the dialect and the layout. -/
theorem validate_agrees_with_compile (w : World) (later : Date) (s : Settings)
    (settingsPath : Option String) (input : String) (table : Option String)
    (dialect : Option Sql.Dialect) (pretty : Bool) (o : ContextOptions)
    (htoday : o.today.isSome) :
    let compiled :=
      w.run (perform World.host s settingsPath (.compile input table dialect pretty o))
    let validated :=
      { w with today := later }.run (perform World.host s settingsPath (.validate input o))
    let d := dialect.getD s.dialect
    match (w.run (readQuery World.host input)).1 with
    | .error f => compiled.1 = .error f ∧ validated.1 = .error f
    | .ok text =>
      match ((engine d (o.policyIn s)).compile (o.contextIn s w.today) text).run with
      | .error e =>
        compiled.1 = .error [.compile input, .query e] ∧
          validated.1 = .error [.validate input, .query e]
      | .ok c => ∃ printed,
        compiled.1 = .ok printed ∧
          printed = present d (table <|> s.table) (pretty || s.pretty) c ∧
            Shows d (table <|> s.table) (pretty || s.pretty) c printed ∧
              validated.1 = .ok (validText input c.comparisons.length) := by
  intro compiled validated d
  have hcompiled : compiled.1 = _ := congrArg Prod.fst
    (w.run_query input (.compile input) (compileText s table dialect pretty o))
  have hvalidated : validated.1 = _ := congrArg Prod.fst
    ({ w with today := later }.run_query input (.validate input) (validateText s input o))
  have hread : { w with today := later }.run (readQuery World.host input) =
      ((w.run (readQuery World.host input)).1, { w with today := later }) := by
    rw [World.run_readQuery, World.run_readQuery]
  rw [hcompiled, hvalidated, hread]
  cases (w.run (readQuery World.host input)).1 with
  | error f => exact ⟨rfl, rfl⟩
  | ok text =>
    dsimp only [Except.bind]
    rw [compileText_eq, validateText_eq s input o later text d,
      contextIn_of_today htoday s later w.today]
    cases hrun : ((engine d (o.policyIn s)).compile (o.contextIn s w.today) text).run with
    | error e => exact ⟨rfl, rfl⟩
    | ok c =>
      exact ⟨_, rfl, rfl, shows_present d _ _ (hasEmptyJoin_of_compile hrun), rfl⟩

/-- A condition for one dialect is counted under settings for the other, a day later. -/
theorem validate_agrees_with_compile_a_day_later :
    let text := "\x7b\"type\":\"DateQuery\",\"column\":\"d\",\"operator\":\"daysAfter\",\"value\":1\x7d"
    let w : World := ⟨⟨"/work", [], []⟩, text, [], ⟨2025, 8, 21, by decide⟩, none, ""⟩
    let o : ContextOptions := ⟨none, some ⟨2025, 8, 21, by decide⟩, none, []⟩
    o.today.isSome ∧ ∃ (c : Sql.Condition) (printed : String),
      c.leaves = [⟨"d", .dateEq, .date ⟨2025, 8, 20, by decide⟩⟩] ∧
      (w.run (perform World.host .standard none
        (.compile "-" (some "t]") (some .sqlServer) true o))).1 = .ok printed ∧
      shownComparisons? .sqlServer (some "t]") true printed = some 1 ∧
      ({ w with today := ⟨2025, 8, 22, by decide⟩ }.run (perform World.host .standard none
        (.validate "-" o))).1 = .ok (validText "-" 1) := by
  intro text w o
  have hcompile : (((engine ((some Sql.Dialect.sqlServer).getD Settings.standard.dialect)
      (o.policyIn .standard)).compile (o.contextIn .standard w.today) text).run :
        Except QueryError Sql.Condition).map Sql.Condition.leaves =
        .ok [⟨"d", .dateEq, .date ⟨2025, 8, 20, by decide⟩⟩] := by
    decide +kernel
  obtain ⟨c, hc, hleaves⟩ := map_eq_ok_iff.mp hcompile
  have hread : (w.run (readQuery World.host "-")).1 = .ok text := by
    rw [World.run_readQuery, if_pos (by decide)]
  have h := validate_agrees_with_compile w ⟨2025, 8, 22, by decide⟩ .standard none "-" (some "t]")
    (some .sqlServer) true o rfl
  simp only [hread, hc] at h
  obtain ⟨printed, hprinted, -, hshows, hvalidated⟩ := h
  have hlength : c.comparisons.length = 1 := by
    rw [Sql.Condition.comparisons_eq_leaves, hleaves]
    rfl
  refine ⟨rfl, c, printed, hleaves, hprinted, ?_, ?_⟩
  · exact hshows.count.trans (congrArg some hlength)
  · rw [hvalidated, hlength]

end FilterQuery.CommandLine
