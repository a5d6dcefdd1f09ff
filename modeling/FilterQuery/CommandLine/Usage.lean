import FilterQuery.CommandLine.Invocation

/-!
# Words about usage

What the program says when its arguments name no command that it can run.
-/

namespace FilterQuery.CommandLine

/-- The name and the version of the program. -/
def versionText : String := "qcond 0.1.0\n"

/-- How the program is called. -/
def helpText : String :=
  String.join [
    "Compile JSON filter queries into SQL conditions\n\n",
    "Usage: qcond [OPTIONS] <COMMAND>\n\n",
    "Commands:\n",
    "  compile [INPUT]      Compile a JSON query into SQL\n",
    "  operators            List registered operators\n",
    "  validate [INPUT]     Check that a query compiles, without printing it\n",
    "  config show          Show the effective configuration\n",
    "  config init [PATH]   Create a default configuration file\n",
    "  config check [PATH]  Validate a configuration file\n\n",
    "Options:\n",
    "  -v, --verbose        Increase verbosity\n",
    "      --config FILE    Configuration file to use\n",
    "  -h, --help           Print help\n",
    "  -V, --version        Print version\n\n",
    "Options of compile and validate:\n",
    "      --user ID        Value of the [me] placeholder\n",
    "      --today DATE     Evaluation date, YYYY-MM-DD\n",
    "      --policy POLICY  What to do with unknown placeholders: strict or lenient\n",
    "      --set NAME=VALUE Override a placeholder\n\n",
    "Options of compile:\n",
    "  -t, --table TABLE    Render a full SELECT over this table\n",
    "  -d, --dialect NAME   SQL dialect: postgres or sqlserver\n",
    "  -p, --pretty         Print the condition as an indented tree\n\n",
    "Options of operators:\n",
    "      --field-type TYPE  Only operators that accept this field type\n",
    "      --json           Print as JSON\n\n",
    "Options of config init:\n",
    "  -f, --force          Overwrite the file if it exists\n"]

/-- What is wrong with arguments, in words. -/
def UsageError.message : UsageError → String
  | .noValue option => "a value is required for '" ++ option ++ "' but none was supplied"
  | .emptyValue option => "a value is required for '" ++ option ++ "' but an empty one was supplied"
  | .badValue option value => "invalid value '" ++ value ++ "' for '" ++ option ++ "'"
  | .unknown argument => "unexpected argument '" ++ argument ++ "' found"
  | .unknownCommand word => "unrecognized subcommand '" ++ word ++ "'"
  | .repeated option => "the argument '" ++ option ++ "' cannot be used multiple times"
  | .valueForFlag option => "the argument '" ++ option ++ "' takes no value"
  | .help | .noCommand => helpText
  | .version => versionText
  | .missingCommand => "a subcommand is required but none was provided"

end FilterQuery.CommandLine
