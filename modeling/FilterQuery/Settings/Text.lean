import FilterQuery.Settings.Basic
import FilterQuery.Toml.Printer
import FilterQuery.Toml.Reader

/-!
# Settings files

A settings file is a TOML document with the sections `placeholders`, `output` and `debug`. Whatever
is not in it stays as in `Settings.standard`, and entries that no setting goes by are ignored.
-/

namespace FilterQuery.Settings

/-- Reads the entry of a key into settings, if there is one; a value of the wrong type makes the
file invalid. -/
def readEntry (key : String) (entries : Toml.Entries)
    (read : Toml → Settings → Option Settings) (s : Settings) : Option Settings :=
  match Dictionary.find? key entries with
  | some value => read value s
  | none => some s

/-- The word of a choice: a string, or the only key of a table with nothing under it. -/
def choice? : Toml → Option String
  | .string s => some s
  | .table _ [(key, .table _ [])] | .table _ [(key, .array [])] => some key
  | _ => none

/-- Reads the default user. -/
def readUser : Toml → Settings → Option Settings
  | .string user, s => some { s with defaultUser := user }
  | _, _ => none

/-- Reads the policy, whose name has to be exact. -/
def readPolicy (value : Toml) (s : Settings) : Option Settings := do
  let word ← choice? value
  let policy ← [Placeholder.Policy.strict, .lenient].find? (·.name = word)
  return { s with policy }

/-- Reads the dialect, whose name has to be exact. -/
def readDialect (value : Toml) (s : Settings) : Option Settings := do
  let word ← choice? value
  let dialect ← Sql.Dialect.all.find? (·.name = word)
  return { s with dialect }

/-- Reads the table. -/
def readTable : Toml → Settings → Option Settings
  | .string table, s => some { s with table := some table }
  | _, _ => none

/-- Reads whether conditions are written as an outline. -/
def readPretty : Toml → Settings → Option Settings
  | .boolean pretty, s => some { s with pretty }
  | _, _ => none

/-- Reads the verbosity, which has eight bits. -/
def readVerbosity : Toml → Settings → Option Settings
  | .integer (.ofNat n), s => if n < 256 then some { s with verbosity := n } else none
  | _, _ => none

/-- A setting of a section: its key, and how its value is read. -/
abbrev Entry := String × (Toml → Settings → Option Settings)

/-- The items of an array, however it is written. -/
def items? : Toml → Option (List Toml)
  | .array items => some items
  | .tables before last => some ((before.reverse ++ [last]).map (.table .header))
  | _ => none

/-- Reads a section: a table of its settings by key, or an array of them in their order. A moment
counts as a table that has none of them. -/
def readSection (known : List Entry) (value : Toml) (s : Settings) : Option Settings :=
  match value with
  | .table _ entries => known.foldlM (fun s (key, read) => readEntry key entries read s) s
  | .moment _ => some s
  | value => do (known.zip (← items? value)).foldlM (fun s (entry, item) => entry.2 item s) s

/-- The sections of a settings file with their settings. -/
def sections : List (String × List Entry) := [
  ("placeholders", [("default_user", readUser), ("policy", readPolicy)]),
  ("output", [("dialect", readDialect), ("table", readTable), ("pretty", readPretty)]),
  ("debug", [("verbosity", readVerbosity)])]

/-- The settings of a document. -/
def ofEntries? (entries : Toml.Entries) : Option Settings :=
  sections.foldlM (fun s (key, known) => readEntry key entries (readSection known) s) standard

/-- The settings of a text. -/
def ofText? (text : String) : Option Settings := (Toml.parse? text).bind ofEntries?

/-- Settings as a settings file. -/
def text (s : Settings) : String :=
  String.join [
    "[placeholders]\n",
    "default_user = ", Toml.stringText s.defaultUser, "\n",
    "policy = ", Toml.stringText s.policy.name, "\n",
    "\n[output]\n",
    "dialect = ", Toml.stringText s.dialect.name, "\n",
    (match s.table with
      | some table => "table = " ++ Toml.stringText table ++ "\n"
      | none => ""),
    "pretty = ", if s.pretty then "true" else "false", "\n",
    "\n[debug]\n",
    "verbosity = ", Text.naturalText s.verbosity, "\n"]

end FilterQuery.Settings
