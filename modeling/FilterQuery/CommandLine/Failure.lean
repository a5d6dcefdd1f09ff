import FilterQuery.Files.Tree
import FilterQuery.QueryError
import FilterQuery.Settings.Basic

/-!
# Why a command fails

A failure is a chain of causes: what was being done, and why it could not be done.
-/

namespace FilterQuery.CommandLine

/-- The variable that names a settings file. -/
def settingsVariable : String := "QCOND_CONFIG"

/-- One cause of a failure. -/
inductive Cause where
  /-- The query on standard input cannot be read. -/
  | readInput
  /-- The query in a file cannot be read. -/
  | readQuery (path : String)
  /-- The query of a path does not compile. -/
  | compile (path : String)
  /-- The query of a path is not valid. -/
  | validate (path : String)
  /-- A query is refused. -/
  | query (e : QueryError)
  /-- Something cannot be done with a file. -/
  | file (e : FileError)
  /-- The settings file of an option is missing. -/
  | settingsMissing (path : String)
  /-- The settings file of the variable is missing. -/
  | settingsMissingFromVariable (path : String)
  /-- A settings file cannot be read. -/
  | readSettings (path : String)
  /-- A settings file holds no settings. -/
  | parseSettings (path : String)
  /-- A text is no settings file. -/
  | notSettings
  /-- The settings of a file cannot be used. -/
  | invalidSettings (path : String)
  /-- Settings have a flaw. -/
  | flaw (f : Settings.Flaw)
  /-- A directory cannot be made. -/
  | makeDirectory (path : String)
  /-- A settings file cannot be written. -/
  | writeSettings (path : String)
  /-- A settings file that is not to be overwritten exists. -/
  | settingsExist (path : String)
  /-- There is no directory for the user's settings. -/
  | noSettingsDirectory
  /-- There is no settings file to check. -/
  | nothingToCheck
  deriving DecidableEq

/-- A cause in words. -/
def Cause.message : Cause → String
  | .readInput => "Failed to read query from stdin"
  | .readQuery path => "Failed to read query file " ++ path
  | .compile path => "Failed to compile " ++ path
  | .validate path => "Invalid query " ++ path
  | .query e => e.message
  | .file e => e.message
  | .settingsMissing path => "Config file not found: " ++ path
  | .settingsMissingFromVariable path =>
    "Config file from $" ++ settingsVariable ++ " not found: " ++ path
  | .readSettings path => "Failed to read config file " ++ path
  | .parseSettings path => "Invalid TOML config " ++ path
  | .notSettings => "the text does not hold settings"
  | .invalidSettings path => "Invalid configuration in " ++ path
  | .flaw f => f.message
  | .makeDirectory path => "Failed to create " ++ path
  | .writeSettings path => "Failed to write config file " ++ path
  | .settingsExist path =>
    "Config file already exists: " ++ path ++
      "\n\nUse --force to overwrite:\n  qcond config init " ++ path ++ " --force"
  | .noSettingsDirectory => "Cannot determine the config directory"
  | .nothingToCheck => "No config file to check; pass a path or run `qcond config init`"

/-- The causes of a failure, the outermost first. -/
abbrev Failure := List Cause

end FilterQuery.CommandLine
