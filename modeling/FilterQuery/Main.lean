import FilterQuery.CommandLine.Run
import FilterQuery.CommandLine.Usage
import Std.Time.Zoned

/-!
# The program

Runs command lines on the real system: its files, its standard streams, its variables and its date.
-/

namespace FilterQuery.CommandLine

/-- A failure of the system as the error of a file. -/
def fileError : IO.Error → FileError
  | .noFileOrDirectory .. => .notFound
  | .alreadyExists .. => .alreadyExists
  | .inappropriateType _ 21 _ => .isDirectory
  | .inappropriateType _ 20 _ => .notDirectory
  | e => .other (toString e)

/-- What an action gives, or the error of a file. -/
def guarded {α : Type} (act : IO α) : IO (Except FileError α) :=
  try return .ok (← act) catch e => return .error (fileError e)

/-- The date of the system; the first day of year one if the calendar does not reach it. -/
def systemDate : IO Date := do
  let now ← Std.Time.PlainDate.now
  return (Date.of? now.year.toInt now.month.val.toNat now.day.val.toNat).getD .dayOne

/-- The path of the user's settings file. -/
def userSettings : IO (Option String) := do
  let directory ← match ← IO.getEnv "XDG_CONFIG_HOME" with
    | some dir =>
      if dir.startsWith "/" then pure (some dir)
      else pure ((← IO.getEnv "HOME").map (· ++ "/.config"))
    | none => pure ((← IO.getEnv "HOME").map (· ++ "/.config"))
  return directory.map (· ++ "/qcond/config.toml")

/-- The host that the real system is. -/
def system : Host IO where
  read := fun path => guarded (IO.FS.readFile path)
  write := fun path content => guarded (IO.FS.writeFile path content)
  makeDirectory := fun path => guarded (IO.FS.createDir path)
  hasPath := fun path => do ((← IO.currentDir) / path).pathExists
  hasDirectory := fun path => do ((← IO.currentDir) / path).isDir
  readInput := guarded do (← IO.getStdin).readToEnd
  environment := fun name => IO.getEnv name
  today := systemDate
  userSettings? := userSettings
  print := fun text => do (← IO.getStdout).putStr text

/-- Runs arguments and gives the code to end with. -/
def runArguments (args : List String) : IO UInt32 := do
  match Invocation.ofArguments args with
  | .error e =>
    match e with
    | .help | .version =>
      IO.print e.message
      return 0
    | _ =>
      IO.eprintln ("error: " ++ e.message)
      return 2
  | .ok invocation =>
    match ← (invocation.run system).run with
    | .ok _ => return 0
    | .error failure =>
      IO.eprintln ("Error: " ++ ": ".intercalate (failure.map (·.message)))
      return 1

end FilterQuery.CommandLine

/-- The program. -/
def main (args : List String) : IO UInt32 := FilterQuery.CommandLine.runArguments args
