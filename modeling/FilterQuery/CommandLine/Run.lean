import FilterQuery.CommandLine.Failure
import FilterQuery.CommandLine.Host
import FilterQuery.CommandLine.Invocation
import FilterQuery.CommandLine.Listing
import FilterQuery.Engine
import FilterQuery.Settings.Text
import FilterQuery.Sql.Outline

/-!
# Running commands

A run loads the settings and then does what the command asks for. A command first finds out all that
it has to say, and says it at the end; only `config init` changes files.
-/

namespace FilterQuery.CommandLine

/-! ## What commands say -/

/-- The policy for unknown placeholders: the one given, or the one of the settings. -/
def ContextOptions.policyIn (o : ContextOptions) (s : Settings) : Placeholder.Policy :=
  o.policy.getD s.policy

/-- The context of a query, on a date that counts where none is given. -/
def ContextOptions.contextIn (o : ContextOptions) (s : Settings) (date : Date) :
    Placeholder.Context :=
  o.overrides.foldl (fun c (name, value) => c.withOverride name value)
    (.of (o.user.getD s.defaultUser) (o.today.getD date))

/-- The engine for a dialect and a policy. -/
def engine (d : Sql.Dialect) (policy : Placeholder.Policy) : Engine Id Sql.Condition :=
  { Engine.builtin d.backend with substitution := ⟨.builtin, policy⟩ }

/-- Lines, each with its end. -/
def unlines (lines : List String) : String := String.join (lines.map (· ++ "\n"))

/-- A condition as the compile command writes it. -/
def present (d : Sql.Dialect) (table : Option String) (pretty : Bool) (c : Sql.Condition) :
    String :=
  match table, pretty with
  | none, false => d.render c ++ "\n"
  | some table, false => d.renderSelect table c ++ "\n"
  | none, true => unlines (d.outline 0 c)
  | some table, true =>
    unlines (("SELECT * FROM " ++ d.quote table ++ " WHERE") :: d.outline 1 c)

/-- What the compile command says of a query. -/
def compileText (s : Settings) (table : Option String) (dialect : Option Sql.Dialect)
    (pretty : Bool) (o : ContextOptions) (date : Date) (text : String) :
    Except QueryError String := do
  let d := dialect.getD s.dialect
  let condition ← ((engine d (o.policyIn s)).compile (o.contextIn s date) text).run
  return present d (table <|> s.table) (pretty || s.pretty) condition

/-- What the validate command says of the query of a path. -/
def validateText (s : Settings) (path : String) (o : ContextOptions) (date : Date)
    (text : String) : Except QueryError String := do
  let e := engine s.dialect (o.policyIn s)
  let c := o.contextIn s date
  let query ← e.parse c text
  let _ ← (e.build c query).run
  return "Query is valid: " ++ path ++ " (" ++ Text.naturalText query.leafCount ++
    " comparisons)\n"

/-- What the command that lists operators says. -/
def operatorsText (fieldType : Option ScalarType) (json : Bool) : String :=
  let ops := match fieldType with
    | some t => Catalog.builtin.forFieldType t
    | none => Catalog.builtin.operators
  if json then operatorsJson ops else operatorTable ops

/-- What the command that shows settings says of those that a file holds. -/
def settingsText (s : Settings) (path : Option String) : String :=
  (match path with
    | some path => "# loaded from " ++ path ++ "\n"
    | none => "# defaults (no config file found)\n") ++ s.text

/-! ## Doing it -/

/-- Whether a path stands for the standard input: a hyphen is all that it leads through, and not from
the root of the system. -/
def readsInput (path : String) : Bool := !Path.isRooted path && Path.names path = [inputPath]

example : readsInput "-/." = true ∧ readsInput "./-" = false ∧ readsInput "//-" = false := by
  decide

section

variable {m : Type → Type} [Monad m] (host : Host m)

/-- Does something with a file, or fails with what was being done. -/
def attempt {α : Type} (doing : Cause) (act : m (Except FileError α)) :
    ExceptT Failure m α := do
  match ← act with
  | .ok a => return a
  | .error e => throw [doing, .file e]

/-- The text of the query of a path. -/
def readQuery (path : String) : ExceptT Failure m String :=
  if readsInput path then attempt .readInput host.readInput
  else attempt (.readQuery path) (host.read path)

/-- The settings in a file, whatever they are. -/
def readSettings (path : String) : ExceptT Failure m Settings := do
  let text ← attempt (.readSettings path) (host.read path)
  match Settings.ofText? text with
  | some s => return s
  | none => throw [.parseSettings path, .notSettings]

/-- The settings in a file, which must not have a flaw. -/
def readUsableSettings (path : String) : ExceptT Failure m Settings := do
  let s ← readSettings host path
  match s.flaw? with
  | none => return s
  | some f => throw [.invalidSettings path, .flaw f]

/-- A path that has to lead to something. -/
def existing (missing : Cause) (path : String) : ExceptT Failure m String := do
  if ← host.hasPath path then return path else throw [missing]

/-- The path of the settings file in force: the one given, else the one of the variable unless it is
blank, else the user's if it exists. -/
def findSettings (given : Option String) : ExceptT Failure m (Option String) := do
  match given with
  | some path => return some (← existing host (.settingsMissing path) path)
  | none =>
    match (← host.environment settingsVariable).filter (!Text.isBlankText ·) with
    | some path => return some (← existing host (.settingsMissingFromVariable path) path)
    | none =>
      match ← host.userSettings? with
      | none => return none
      | some path => if ← host.hasPath path then return some path else return none

/-- The settings in force, and the path of their file. -/
def loadSettings (given : Option String) : ExceptT Failure m (Settings × Option String) := do
  match ← findSettings host given with
  | none => return (.standard, none)
  | some path => return (← readUsableSettings host path, some path)

/-- Makes a directory and those on the way to it, at most so many of them. A directory that is there
already is left alone. -/
def makeDirectories (path : String) : Nat → m (Except FileError Unit)
  | 0 => return .ok ()
  | fuel + 1 => do
    if path = "" then return .ok ()
    let orThere (e : FileError) : m (Except FileError Unit) := do
      if ← host.hasDirectory path then return .ok () else return .error e
    match ← host.makeDirectory path with
    | .ok () => return .ok ()
    | .error .notFound =>
      match Path.parent? path with
      | none => return .error .notFound
      | some parent =>
        match ← makeDirectories parent fuel with
        | .error e => return .error e
        | .ok () =>
          match ← host.makeDirectory path with
          | .ok () => return .ok ()
          | .error e => orThere e
    | .error e => orThere e

/-- Writes the standard settings to a file. -/
def writeSettings (path : String) : ExceptT Failure m Unit := do
  match (Path.parent? path).filter (· ≠ "") with
  | some parent =>
    attempt (.makeDirectory parent) (makeDirectories host parent (parent.length + 1))
  | none => pure ()
  attempt (.writeSettings path) (host.write path Settings.standard.text)

/-- The answer to a query, or the failure of what was being done with it. -/
def answered {α : Type} (doing : Cause) (r : Except QueryError α) : ExceptT Failure m α :=
  match r with
  | .ok a => return a
  | .error e => throw [doing, .query e]

/-- Does what a command asks for and finds out what it has to say. -/
def perform (s : Settings) (settingsPath : Option String) :
    Command → ExceptT Failure m String
  | .compile input table dialect pretty context => do
    let text ← readQuery host input
    let date ← host.today
    answered (.compile input) (compileText s table dialect pretty context date text)
  | .validate input context => do
    let text ← readQuery host input
    let date ← host.today
    answered (.validate input) (validateText s input context date text)
  | .operators fieldType json => return operatorsText fieldType json
  | .showSettings => return settingsText s settingsPath
  | .initSettings path force => do
    let user ← host.userSettings?
    match path <|> user with
    | none => throw [.noSettingsDirectory]
    | some path =>
      if !force && (← host.hasPath path) then throw [.settingsExist path]
      writeSettings host path
      return "Created config file: " ++ path ++ "\n"
  | .checkSettings path => do
    match path <|> settingsPath with
    | none => throw [.nothingToCheck]
    | some path =>
      let _ ← readUsableSettings host path
      return "Configuration is valid: " ++ path ++ "\n"

/-- Runs what a command line asks for. The result is how much was to be logged. -/
def Invocation.run (i : Invocation) : ExceptT Failure m Nat := do
  let (s, path) ← loadSettings host i.settings
  let text ← perform host s path i.command
  host.print text
  return max i.verbose s.verbosity

end

end FilterQuery.CommandLine
