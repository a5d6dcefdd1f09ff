import FilterQuery.Proofs.CommandLine.Queries

/-!
# Settings as options

Settings say what a command about a query leaves open. Running it under them is running it under the
standard settings with options in their place, and what the command says itself they do not change.
-/

namespace FilterQuery.CommandLine

/-- Options with the user and the policy of settings where none is given. -/
def ContextOptions.filledFrom (o : ContextOptions) (s : Settings) : ContextOptions :=
  { o with user := o.user <|> some s.defaultUser, policy := o.policy <|> some s.policy }

namespace Command

/-- The options about the context, of a command about a query. -/
def context? : Command → Option ContextOptions
  | .compile _ _ _ _ o | .validate _ o => some o
  | _ => none

/-- A command about a query that says itself what settings say where it leaves something open. -/
def filledFrom (s : Settings) : Command → Command
  | .compile input table dialect pretty o =>
    .compile input (table <|> s.table) (dialect <|> some s.dialect) (pretty || s.pretty)
      (o.filledFrom s)
  | .validate input o => .validate input (o.filledFrom s)
  | command => command

end Command

/-- Options that say themselves in which user or policy settings differ. -/
structure ContextOptions.Covers (o : ContextOptions) (s s' : Settings) : Prop where
  /-- The user is given or the same. -/
  user : o.user = none → s.defaultUser = s'.defaultUser
  /-- The policy is given or the same. -/
  policy : o.policy = none → s.policy = s'.policy

/-- A command about a query that says itself whatever settings differ in. -/
def Command.Covers (s s' : Settings) : Command → Prop
  | .compile _ table dialect pretty o =>
    o.Covers s s' ∧ (table = none → s.table = s'.table) ∧
      (dialect = none → s.dialect = s'.dialect) ∧ (pretty = false → s.pretty = s'.pretty)
  | .validate _ o => o.Covers s s'
  | _ => False

/-! ## Filling in -/

theorem orElse_some_eq {α : Type} {o : Option α} {a b : α} (h : o = none → a = b) :
    (o <|> some a) = (o <|> some b) := by
  cases o with
  | none => rw [h rfl]
  | some _ => rfl

theorem ContextOptions.filledFrom_eq_of_covers {o : ContextOptions} {s s' : Settings}
    (h : o.Covers s s') : o.filledFrom s = o.filledFrom s' := by
  rw [filledFrom, filledFrom, orElse_some_eq h.user, orElse_some_eq h.policy]

/-- What a command leaves open is all that settings fill in. -/
theorem Command.filledFrom_eq_of_covers {c : Command} {s s' : Settings} (h : c.Covers s s') :
    c.filledFrom s = c.filledFrom s' := by
  cases c with
  | compile input table dialect pretty o =>
    obtain ⟨ho, htable, hdialect, hpretty⟩ := h
    have htables : (table <|> s.table) = (table <|> s'.table) := by
      cases table with
      | none => exact htable rfl
      | some _ => rfl
    have hlayouts : (pretty || s.pretty) = (pretty || s'.pretty) := by
      cases pretty with
      | false => exact hpretty rfl
      | true => rfl
    rw [filledFrom, filledFrom, htables, hlayouts, orElse_some_eq hdialect,
      o.filledFrom_eq_of_covers ho]
  | validate input o => rw [filledFrom, filledFrom, ContextOptions.filledFrom_eq_of_covers h]
  | _ => exact absurd h id

theorem contextIn_filledFrom (o : ContextOptions) (s : Settings) (date : Date) :
    (o.filledFrom s).contextIn .standard date = o.contextIn s date := by
  rw [ContextOptions.contextIn, ContextOptions.contextIn, ContextOptions.filledFrom]
  cases o.user <;> rfl

theorem policyIn_filledFrom (o : ContextOptions) (s : Settings) :
    (o.filledFrom s).policyIn .standard = o.policyIn s := by
  rw [ContextOptions.policyIn, ContextOptions.policyIn, ContextOptions.filledFrom]
  cases o.policy <;> rfl

/-- The compile command says the same with its options filled in. -/
theorem compileText_filledFrom (s : Settings) (table : Option String)
    (dialect : Option Sql.Dialect) (pretty : Bool) (o : ContextOptions) :
    compileText .standard (table <|> s.table) (dialect <|> some s.dialect) (pretty || s.pretty)
      (o.filledFrom s) = compileText s table dialect pretty o := by
  funext date text
  have hdialect : (dialect <|> some s.dialect).getD Settings.standard.dialect =
      dialect.getD s.dialect := by
    cases dialect <;> rfl
  have htable : ((table <|> s.table) <|> Settings.standard.table) = (table <|> s.table) := by
    cases table <;> cases s.table <;> rfl
  have hpretty : ((pretty || s.pretty) || Settings.standard.pretty) = (pretty || s.pretty) :=
    Bool.or_false _
  rw [compileText_eq, compileText_eq, policyIn_filledFrom, contextIn_filledFrom, hdialect, htable,
    hpretty]

/-- The validate command says the same with its options filled in, though the dialect of its
settings is not among them. -/
theorem validateText_filledFrom (s : Settings) (path : String) (o : ContextOptions) :
    validateText .standard path (o.filledFrom s) = validateText s path o := by
  funext date text
  rw [validateText_eq _ _ _ _ _ s.dialect, validateText_eq _ _ _ _ _ s.dialect,
    policyIn_filledFrom, contextIn_filledFrom]

/-- On every host, a command about a query does under settings what it does under the standard ones
with its options filled in. -/
theorem perform_filledFrom {m : Type → Type} [Monad m] (host : Host m) (s : Settings)
    (path path' : Option String) {c : Command} {o : ContextOptions} (hc : c.context? = some o) :
    perform host .standard path' (c.filledFrom s) = perform host s path c := by
  cases c with
  | compile input table dialect pretty o =>
    rw [Command.filledFrom, perform, perform, compileText_filledFrom]
  | validate input o => rw [Command.filledFrom, perform, perform, validateText_filledFrom]
  | _ => cases hc

/-! ## The date -/

/-- A command about a query with a date of its own says the same on every date. -/
theorem run_perform_of_today (w : World) (later : Date) (s : Settings) (path : Option String)
    {c : Command} {o : ContextOptions} (hc : c.context? = some o) (htoday : o.today.isSome) :
    ({ w with today := later }.run (perform World.host s path c)).1 =
      (w.run (perform World.host s path c)).1 := by
  have hquery (input : String) (doing : Cause) {answer : Date → String → Except QueryError String}
      (hanswer : ∀ text, answer later text = answer w.today text) :
      ({ w with today := later }.run (do
        let text ← readQuery World.host input
        let date ← World.host.today
        answered doing (answer date text))).1 =
      (w.run (do
        let text ← readQuery World.host input
        let date ← World.host.today
        answered doing (answer date text))).1 := by
    rw [World.run_query, World.run_query, World.run_readQuery, World.run_readQuery]
    simp only [hanswer]
  cases c with
  | compile input table dialect pretty o' =>
    obtain rfl : o' = o := Option.some.inj hc
    refine hquery input _ fun text => ?_
    rw [compileText_eq, compileText_eq, contextIn_of_today htoday s later w.today]
  | validate input o' =>
    obtain rfl : o' = o := Option.some.inj hc
    refine hquery input _ fun text => ?_
    rw [validateText_eq _ _ _ _ _ s.dialect, validateText_eq _ _ _ _ _ s.dialect,
      contextIn_of_today htoday s later w.today]
  | _ => cases hc

/-- A command about a query, with a date of its own, says under settings what it says under the
standard ones with its options filled in from them, and the same again under settings that differ
only in what the command says itself. -/
theorem settings_stand_for_options (w : World) (later : Date) (s : Settings)
    (path path' : Option String) (c : Command) (o : ContextOptions) (hc : c.context? = some o)
    (htoday : o.today.isSome) :
    ({ w with today := later }.run (perform World.host .standard path' (c.filledFrom s))).1 =
        (w.run (perform World.host s path c)).1 ∧
      ∀ s', c.Covers s s' →
        ({ w with today := later }.run (perform World.host s' path' c)).1 =
          (w.run (perform World.host s path c)).1 := by
  refine ⟨?_, fun s' h => ?_⟩
  · rw [perform_filledFrom World.host s path path' hc, run_perform_of_today w later s path hc htoday]
  · rw [← perform_filledFrom World.host s' path' path' hc, ← Command.filledFrom_eq_of_covers h,
      perform_filledFrom World.host s path path' hc, run_perform_of_today w later s path hc htoday]

/-- The table and the dialect come from the settings, and their user counts for nothing where the
command names one. -/
theorem settings_stand_for_options_table_dialect :
    let text := "\x7b\"type\":\"StringQuery\",\"column\":\"owner\",\"operator\":\"equals\"," ++
      "\"value\":\"[me]\"\x7d"
    let statement := "SELECT * FROM [orders] WHERE [owner] = 'u-7'\n"
    let w : World := ⟨⟨"/work", [], []⟩, text, [], .dayOne, none, ""⟩
    let o : ContextOptions := ⟨some "u-7", some ⟨2025, 8, 21, by decide⟩, none, []⟩
    let c : Command := .compile "-" none none false o
    let s : Settings :=
      { Settings.standard with defaultUser := "u-1", table := some "orders", dialect := .sqlServer }
    c.context? = some o ∧ o.today.isSome ∧ c.Covers s { s with defaultUser := "u-2" } ∧
      (w.run (perform World.host s none c)).1 = .ok statement ∧
        (w.run (perform World.host .standard none (c.filledFrom s))).1 = .ok statement ∧
          (w.run (perform World.host { s with defaultUser := "u-2" } none c)).1 = .ok statement := by
  intro text statement w o c s
  have hcovers : c.Covers s { s with defaultUser := "u-2" } :=
    ⟨⟨nofun, fun _ => rfl⟩, fun _ => rfl, fun _ => rfl, fun _ => rfl⟩
  have hsaid : (w.run (perform World.host s none c)).1 = .ok statement := by
    decide +kernel
  obtain ⟨hfilled, hcovered⟩ := settings_stand_for_options w .dayOne s none none c o rfl rfl
  exact ⟨rfl, rfl, hcovers, hsaid, hfilled.trans hsaid, (hcovered _ hcovers).trans hsaid⟩

end FilterQuery.CommandLine
