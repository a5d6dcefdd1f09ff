import FilterQuery.Calendar.Text
import FilterQuery.CommandLine.Arguments
import FilterQuery.Settings.Basic

/-!
# What a command line asks for

`Invocation.ofArguments` reads the arguments of the program: options that every command has, and one
command with options of its own. Values are checked while the arguments are read.
-/

namespace FilterQuery.CommandLine

/-- Options about the context of a query. -/
structure ContextOptions where
  /-- The user who asks. -/
  user : Option String
  /-- The date that counts as today. -/
  today : Option Date
  /-- What becomes of unknown placeholders. -/
  policy : Option Placeholder.Policy
  /-- The values pinned to placeholders, in the order given. -/
  overrides : List (String × String)

/-- A command. -/
inductive Command where
  /-- Writes the condition of a query. -/
  | compile (input : String) (table : Option String) (dialect : Option Sql.Dialect)
      (pretty : Bool) (context : ContextOptions)
  /-- Lists operators. -/
  | operators (fieldType : Option ScalarType) (json : Bool)
  /-- Checks a query. -/
  | validate (input : String) (context : ContextOptions)
  /-- Shows the settings in force. -/
  | showSettings
  /-- Writes a settings file. -/
  | initSettings (path : Option String) (force : Bool)
  /-- Checks a settings file. -/
  | checkSettings (path : Option String)

/-- What a command line asks for. -/
structure Invocation where
  /-- How often more logging is asked for. -/
  verbose : Nat
  /-- The settings file. -/
  settings : Option String
  /-- The command. -/
  command : Command

/-! ## The values of options -/

/-- Accepts what a reading makes sense of. -/
def checkBy {α : Type} (read : String → Option α) (s : String) : Verdict :=
  if (read s).isSome then .accepted else .wrong

/-- Accepts every value. -/
def anyValue (_ : String) : Verdict := .accepted

/-- Accepts paths, which are not empty. -/
def pathValue (s : String) : Verdict := if s = "" then .empty else .accepted

/-- A name and a value with an equals sign between them. The name has no blanks at its ends and is
not blank. -/
def readOverride (s : String) : Option (String × String) :=
  match cutAtEquals s with
  | (name, some value) => if Text.isBlankText name then none else some (Text.trim name, value)
  | (_, none) => none

/-! ## The grammar -/

/-- Options that every command has. -/
def commonOptions : List OptionSpec := [
  ⟨"verbose", some 'v', .counter, anyValue⟩,
  ⟨"config", none, .single, pathValue⟩,
  ⟨"help", some 'h', .help, anyValue⟩,
  ⟨"version", some 'V', .version, anyValue⟩]

/-- Options about the context of a query. -/
def contextOptions : List OptionSpec := [
  ⟨"user", none, .single, anyValue⟩,
  ⟨"today", none, .single, checkBy Date.ofLooseText?⟩,
  ⟨"policy", none, .single, checkBy Placeholder.Policy.ofName?⟩,
  ⟨"set", none, .several, checkBy readOverride⟩]

/-- The place of an argument that is a path. -/
def pathArgument : OptionSpec := ⟨"path", none, .single, pathValue⟩

/-- What the program understands. -/
def grammar : Grammar :=
  .group commonOptions [
    ("compile", .command ([
        ⟨"table", some 't', .single, anyValue⟩,
        ⟨"dialect", some 'd', .single, checkBy Sql.Dialect.ofName?⟩,
        ⟨"pretty", some 'p', .flag, anyValue⟩] ++ contextOptions ++ commonOptions)
      (some pathArgument)),
    ("operators", .command ([
        ⟨"field-type", none, .single, checkBy ScalarType.ofName?⟩,
        ⟨"json", none, .flag, anyValue⟩] ++ commonOptions)
      none),
    ("validate", .command (contextOptions ++ commonOptions) (some pathArgument)),
    ("config", .group commonOptions [
      ("show", .command commonOptions none),
      ("init", .command (⟨"force", some 'f', .flag, anyValue⟩ :: commonOptions)
        (some pathArgument)),
      ("check", .command commonOptions (some pathArgument))])]

/-! ## Reading -/

/-- The most verbosity that is counted. -/
def maxVerbose : Nat := 255

/-- The options about the context among those of a command. -/
def ContextOptions.ofLevel (l : Level) : ContextOptions where
  user := l.value? "user"
  today := (l.value? "today").bind Date.ofLooseText?
  policy := (l.value? "policy").bind Placeholder.Policy.ofName?
  overrides := (l.values "set").filterMap readOverride

/-- The path that stands for standard input. -/
def inputPath : String := "-"

/-- The command of the innermost level of its name. -/
def Command.ofLevel? (l : Level) : Option Command :=
  let path := l.value? pathArgument.name
  match l.name with
  | "compile" =>
    some (.compile (path.getD inputPath) (l.value? "table")
      ((l.value? "dialect").bind Sql.Dialect.ofName?) (l.has "pretty") (.ofLevel l))
  | "operators" =>
    some (.operators ((l.value? "field-type").bind ScalarType.ofName?) (l.has "json"))
  | "validate" => some (.validate (path.getD inputPath) (.ofLevel l))
  | "show" => some .showSettings
  | "init" => some (.initSettings path (l.has "force"))
  | "check" => some (.checkSettings path)
  | _ => none

/-- What some levels ask for. Of an option that every command has, the innermost use counts. -/
def Invocation.ofLevels? (levels : List Level) : Option Invocation := do
  let inwards := levels.reverse
  let command ← inwards.head?.bind Command.ofLevel?
  let counts := inwards.map fun l => (l.values "verbose").length
  let verbose := min ((counts.find? (0 < ·)).getD 0) maxVerbose
  return ⟨verbose, inwards.findSome? (·.value? "config"), command⟩

/-- What arguments ask for. -/
def Invocation.ofArguments (args : List String) : Except UsageError Invocation := do
  let levels ← parse grammar "" .start false args
  match ofLevels? levels with
  | some invocation => return invocation
  | none => throw .missingCommand

end FilterQuery.CommandLine
