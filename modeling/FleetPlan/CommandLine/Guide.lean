import FleetPlan.CommandLine.Arguments

/-!
# The guide to the command line

The help, the version and the completions of the program, and what is said of a
command line that is not understood.
-/

namespace FleetPlan.CommandLine

/-- The name of the program. -/
def programName : String := "converge"

/-- The version of the program. -/
def programVersion : String := "0.1.0"

/-- The name of the program, or of one of its commands. -/
def fullName : Option CommandName → String
  | none => programName
  | some command => programName ++ "-" ++ command.text

/-- What the version is told by. -/
def versionLine (command : Option CommandName) : String :=
  fullName command ++ " " ++ programVersion ++ "\n"

/-- The words that a command line may begin with. -/
def commandWords : List String := ["plan", "status", "completions", "help"]

/-- The long options of the commands. -/
def optionWords : List String :=
  ["--deploy", "--target", "--host", "--jobs", "--json", "--verbose", "--quiet", "--help",
    "--version"]

/-- How the program is called. -/
def usage : String :=
  "\n".intercalate [
    "Plan idempotent changes for a fleet of hosts",
    "",
    "Usage: converge [OPTIONS] <COMMAND>",
    "",
    "Commands:",
    "  plan         Print the commands each host needs",
    "  status       Show which hosts already match the deploy",
    "  completions  Generate shell completions",
    "",
    "Options:",
    "  -v, --verbose...       Verbosity level",
    "  -q, --quiet            Suppress non-essential output",
    "  -d, --deploy <DEPLOY>  Deploy file (defaults to the user config directory)",
    "  -t, --target <TARGET>  Only plan operations of this kind (e.g. packages, service.nginx)",
    "      --host <HOST>      Only plan this host",
    "  -j, --jobs <JOBS>      Number of hosts planned in parallel",
    "      --json             Print a JSON report",
    "  -h, --help             Print help",
    "  -V, --version          Print version",
    ""]

/-- What makes a shell complete the words of the command line. -/
def completionScript (shell : String) : String :=
  let words := " ".intercalate (commandWords ++ optionWords)
  match shell with
  | "bash" => s!"complete -W '{words}' {programName}\n"
  | "fish" => s!"complete -c {programName} -f -a '{words}'\n"
  | "zsh" => s!"#compdef {programName}\ncompadd -- {words}\n"
  | "elvish" =>
    s!"set edit:completion:arg-completer[{programName}] = \x7b|@words| put {words} \x7d\n"
  | _ =>
    let listed := ", ".intercalate ((commandWords ++ optionWords).map fun word => s!"'{word}'")
    s!"Register-ArgumentCompleter -Native -CommandName {programName} " ++
      "-ScriptBlock \x7b " ++ listed ++ " \x7d\n"

/-- What is said of a command line that is not carried out. -/
def UsageError.text : UsageError → String
  | .help | .nothingGiven => usage
  | .version command => versionLine command
  | .missingCommand => "error: a command is required\n"
  | .unknownCommand => "error: there is no such command\n"
  | .unknownArgument => "error: an argument is not known\n"
  | .invalidValue => "error: an option has no value or one that it cannot have\n"
  | .notANumber => "error: a value is not a number\n"
  | .repeated => "error: an option is given more than once\n"
  | .surplusValue => "error: an option with a value takes none\n"
  | .missingArgument => "error: an argument is missing\n"

/-- Whether what is said was asked for, and is not a mistake. -/
def UsageError.isAnswer : UsageError → Bool
  | .help | .version _ => true
  | _ => false

end FleetPlan.CommandLine
