import FilterQuery.Calendar.Date
import FilterQuery.Files.Tree

/-!
# What commands run on

A host is what a command may ask of the system around it. `World` is a host that is a plain value:
files, an input, variables, and the output written so far.

Paths, variables and contents are texts: a variable that holds no text counts as missing, and the
name of a file that is none cannot be asked for. Standard output takes whatever is written to it. A
system may refuse that, but only when the command has done its work: a settings file stays written
if the line that says so does not get out.
-/

namespace FilterQuery.CommandLine

/-- What a command may ask of the system. -/
structure Host (m : Type → Type) where
  /-- The content of a file. -/
  read : String → m (Except FileError String)
  /-- Writes the content of a file. -/
  write : String → String → m (Except FileError Unit)
  /-- Makes a directory. -/
  makeDirectory : String → m (Except FileError Unit)
  /-- Whether a path leads to something. -/
  hasPath : String → m Bool
  /-- Whether a path leads to a directory. -/
  hasDirectory : String → m Bool
  /-- The whole standard input. -/
  readInput : m (Except FileError String)
  /-- The value of a variable. -/
  environment : String → m (Option String)
  /-- The date of the system. -/
  today : m Date
  /-- The path of the user's settings file, if the user has a place for it. -/
  userSettings? : m (Option String)
  /-- Writes to standard output. -/
  print : String → m Unit

/-- A system as a value. -/
structure World where
  /-- The files. -/
  files : FileTree
  /-- The standard input. -/
  input : String
  /-- The variables. -/
  environment : List (String × String)
  /-- The date. -/
  today : Date
  /-- The path of the user's settings file. -/
  userSettings : Option String
  /-- What has been written to standard output. -/
  output : String

namespace World

/-- Changes the files, unless that is an error. -/
def change (f : FileTree → Except FileError FileTree) : StateM World (Except FileError Unit) := do
  match f (← get).files with
  | .ok files =>
    modify ({ · with files })
    return .ok ()
  | .error e => return .error e

/-- The host that a world is. -/
def host : Host (StateM World) where
  read := fun path => return (← get).files.read path
  write := fun path content => change (·.write path content)
  makeDirectory := fun path => change (·.makeDirectory path)
  hasPath := fun path => return (← get).files.hasPath path
  hasDirectory := fun path => return (← get).files.hasDirectory path
  readInput := return .ok (← get).input
  environment := fun name => return (← get).environment.lookup name
  today := return (← get).today
  userSettings? := return (← get).userSettings
  print := fun text => modify fun w => { w with output := w.output ++ text }

end World

end FilterQuery.CommandLine
