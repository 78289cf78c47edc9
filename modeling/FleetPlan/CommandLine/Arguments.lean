import FleetPlan.Deploy.Loading

/-!
# The arguments of the command line

A command line is a command with options before and after it. Options are written
with two dashes or with one and a letter, letters without a value may stand
together, and a value follows its option after `=`, at once after a letter, or as
the next argument, which then does not look like an option itself. After `--` no
argument is an option. The value of an option is checked when the next option is
met or the command line ends, so an option that is not known is reported before
it.
-/

namespace FleetPlan.CommandLine

/-- The commands. -/
inductive CommandName where
  | plan
  | status
  | completions
  deriving DecidableEq, Repr

/-- The word for a command. -/
def CommandName.text : CommandName → String
  | .plan => "plan"
  | .status => "status"
  | .completions => "completions"

/-- The command with a word. -/
def CommandName.ofText? (text : String) : Option CommandName :=
  [CommandName.plan, .status, .completions].find? fun command => command.text = text

/-- The shells that completions can be made for. -/
def shells : List String := ["bash", "elvish", "fish", "powershell", "zsh"]

/-- Why a command line is not carried out. Help and versions are asked for, the rest are mistakes. -/
inductive UsageError where
  | help
  /-- The version is asked for, of the program or of a command. -/
  | version (command : Option CommandName)
  /-- Neither a command nor an option is given. -/
  | nothingGiven
  | missingCommand
  | unknownCommand
  | unknownArgument
  /-- An option without its value, or with a value it does not have. -/
  | invalidValue
  /-- A value that is not a number as it should be. -/
  | notANumber
  /-- An option that is given twice. -/
  | repeated
  /-- An option with a value that it does not take. -/
  | surplusValue
  | missingArgument
  deriving DecidableEq, Repr

/-- The name of the kind of an error. -/
def UsageError.kind : UsageError → String
  | .help => "DisplayHelp"
  | .version _ => "DisplayVersion"
  | .nothingGiven => "DisplayHelpOnMissingArgumentOrSubcommand"
  | .missingCommand => "MissingSubcommand"
  | .unknownCommand => "InvalidSubcommand"
  | .unknownArgument => "UnknownArgument"
  | .invalidValue => "InvalidValue"
  | .notANumber => "ValueValidation"
  | .repeated => "ArgumentConflict"
  | .surplusValue => "TooManyValues"
  | .missingArgument => "MissingRequiredArgument"

/-- Options without a value. -/
inductive Switch where
  | verbose
  | quiet
  | json
  | help
  | version
  deriving DecidableEq, Repr

/-- Options with a value, and the one argument that is a value itself. -/
inductive Slot where
  | deploy
  | target
  | host
  | jobs
  | shell
  deriving DecidableEq, Repr

/-- An option. -/
inductive Flag where
  | switch (switch : Switch)
  | slot (slot : Slot)
  deriving DecidableEq, Repr

/-- Whether an option belongs to a command, or to the program where there is no command. -/
def Flag.fits (command : Option CommandName) : Flag → Bool
  | .switch .json => command = some .plan
  | .switch _ => true
  | .slot .jobs => command = some .plan
  | .slot .shell => false
  | .slot _ => command = some .plan || command = some .status

/-- The option with a long name. -/
def Flag.ofLong? (command : Option CommandName) (name : String) : Option Flag :=
  let flag : Option Flag :=
    match name with
    | "verbose" => some (.switch .verbose)
    | "quiet" => some (.switch .quiet)
    | "json" => some (.switch .json)
    | "help" => some (.switch .help)
    | "version" => some (.switch .version)
    | "deploy" => some (.slot .deploy)
    | "target" => some (.slot .target)
    | "host" => some (.slot .host)
    | "jobs" => some (.slot .jobs)
    | _ => none
  flag.filter (Flag.fits command)

/-- The option with a letter. -/
def Flag.ofLetter? (command : Option CommandName) (letter : Char) : Option Flag :=
  let flag : Option Flag :=
    match letter with
    | 'v' => some (.switch .verbose)
    | 'q' => some (.switch .quiet)
    | 'h' => some (.switch .help)
    | 'V' => some (.switch .version)
    | 'd' => some (.slot .deploy)
    | 't' => some (.slot .target)
    | 'j' => some (.slot .jobs)
    | _ => none
  flag.filter (Flag.fits command)

/-- What has been read of the options of the program or of a command. -/
structure Options where
  verbose : Nat
  quiet : Bool
  json : Bool
  deploy : Option String
  target : Option String
  host : Option String
  jobs : Option Nat
  shell : Option String
  /-- An option that waits for its value, or whose value waits to be checked. -/
  pending : Option (Slot × Option String)
  /-- Whether any option was read. -/
  given : Bool
  /-- Whether the argument that is a value was read. -/
  shellGiven : Bool
  /-- Whether no further argument is an option. -/
  ended : Bool
  deriving DecidableEq, Repr, Inhabited

namespace Options

/-- No options. -/
def none : Options :=
  ⟨0, false, false, .none, .none, .none, .none, .none, .none, false, false, false⟩

/-- The most that the verbosity is counted to. -/
def mostVerbose : Nat := 255

/-- The largest number of jobs. -/
def mostJobs : Nat := UInt64.size - 1

/-- The number of jobs that a value writes. -/
def jobs? (value : String) : Option Nat :=
  let digits :=
    match value.toList with
    | '+' :: digits => digits
    | digits => digits
  if Decimal.isDigits digits && Decimal.ofDigits digits ≤ mostJobs then
    some (Decimal.ofDigits digits)
  else .none

/-- Whether an option with a value was read. -/
def has (options : Options) : Slot → Bool
  | .deploy => options.deploy.isSome
  | .target => options.target.isSome
  | .host => options.host.isSome
  | .jobs => options.jobs.isSome
  | .shell => options.shell.isSome

/-- Keep the value of an option. -/
def store (options : Options) (slot : Slot) (value : String) : Except UsageError Options :=
  let options := { options with pending := .none, given := true }
  if options.has slot then .error .repeated
  else
    match slot with
    | .deploy =>
      if value.isEmpty then .error .invalidValue else .ok { options with deploy := some value }
    | .target => .ok { options with target := some value }
    | .host => .ok { options with host := some value }
    | .jobs =>
      match jobs? value with
      | some jobs => .ok { options with jobs := some jobs }
      | .none => .error .notANumber
    | .shell =>
      if shells.contains value then .ok { options with shell := some value }
      else .error .invalidValue

/-- Check the value that waits. -/
def settle (options : Options) : Except UsageError Options :=
  match options.pending with
  | .none => .ok options
  | some (_, .none) => .error .invalidValue
  | some (slot, some value) => options.store slot value

/-- Set an option without a value. -/
def set (command : Option CommandName) (options : Options) (switch : Switch) :
    Except UsageError Options := do
  let options ← options.settle
  let options := { options with given := true }
  match switch with
  | .verbose => return { options with verbose := min mostVerbose (options.verbose + 1) }
  | .quiet => if options.quiet then throw .repeated else return { options with quiet := true }
  | .json => if options.json then throw .repeated else return { options with json := true }
  | .help => throw .help
  | .version => throw (.version command)

/-- Read an option with a value, which may be attached to it. -/
def begin (options : Options) (slot : Slot) (attached : Option String) :
    Except UsageError Options := do
  let options ← options.settle
  match attached with
  | some value => options.store slot value
  | .none => return { options with pending := some (slot, .none) }

/-- Read what follows two dashes. -/
def readLong (command : Option CommandName) (options : Options) (text : List Char) :
    Except UsageError Options :=
  let (name, attached) :=
    match Text.cutFirst? ['='] text with
    | some (name, value) => (name, some (String.ofList value))
    | .none => (text, .none)
  match Flag.ofLong? command (String.ofList name), attached with
  | .none, _ => .error .unknownArgument
  | some (.slot slot), attached => options.begin slot attached
  | some (.switch _), some _ => .error .surplusValue
  | some (.switch switch), .none => options.set command switch

/-- Read what follows one dash: letters without a value, then perhaps one with a value. -/
def readLetters (command : Option CommandName) (options : Options) :
    List Char → Except UsageError Options
  | [] => .ok options
  | letter :: rest =>
    match Flag.ofLetter? command letter with
    | .none => .error .unknownArgument
    | some (.switch switch) => do
      let options ← options.set command switch
      readLetters command options rest
    | some (.slot slot) =>
      match rest with
      | [] => options.begin slot .none
      | '=' :: value => options.begin slot (some (String.ofList value))
      | value => options.begin slot (some (String.ofList value))

/-- Read an argument that is no option: a value that an option waits for, or a value by itself. -/
def readPlain (command : Option CommandName) (options : Options) (argument : String) :
    Except UsageError Options :=
  match options.pending, options.ended with
  | some (slot, .none), false => .ok { options with pending := some (slot, some argument) }
  | _, _ =>
    match command with
    | .none =>
      if options.ended && ((CommandName.ofText? argument).isSome || argument = "help") then
        .error .unknownArgument
      else .error .unknownCommand
    | some .completions =>
      if options.shellGiven then .error .unknownArgument
      else do
        let options ← options.settle
        return { options with pending := some (.shell, some argument), shellGiven := true }
    | some _ => .error .unknownArgument

/-- Read one argument. -/
def read (command : Option CommandName) (options : Options) (argument : String) :
    Except UsageError Options :=
  if options.ended then options.readPlain command argument
  else
    match argument.toList with
    | ['-', '-'] => .ok { options with ended := true }
    | '-' :: '-' :: text => options.readLong command text
    | '-' :: first :: letters => options.readLetters command (first :: letters)
    | _ => options.readPlain command argument

end Options

/-- The options of the program, and the command with the arguments after it. -/
def readProgram (options : Options) :
    List String → Except UsageError (Options × Option (CommandName × List String))
  | [] => .ok (options, none)
  | argument :: rest =>
    let options? := options.read none argument
    if options.ended then options?.bind fun options => readProgram options rest
    else
      match CommandName.ofText? argument with
      | some command => .ok (options, some (command, rest))
      | none =>
        if argument = "help" then .error (helpFor rest)
        else options?.bind fun options => readProgram options rest
where
  /-- What comes of asking for help on some commands. -/
  helpFor : List String → UsageError
    | [] => .help
    | [command] =>
      if (CommandName.ofText? command).isSome || command = "help" then .help else .unknownCommand
    | _ => .unknownCommand

/-- What is told of a deploy. -/
inductive Account where
  /-- The commands of each host, as one document or not. The hosts share nothing, so that the number
  of those that are planned at the same time changes nothing. -/
  | plan (jobs : Option Nat) (json : Bool)
  /-- Which hosts are as declared. -/
  | status
  deriving DecidableEq, Repr

/-- What the program is asked to do. -/
inductive Command where
  /-- Tell of a deploy, whose file may be named, or of a part of it. -/
  | tell (account : Account) (deploy : Option String) (selection : Selection)
  | completions (shell : String)
  deriving DecidableEq, Repr

/-- A command line that can be carried out. -/
structure Invocation where
  verbose : Nat
  quiet : Bool
  command : Command
  deriving DecidableEq, Repr

/-- The command that options ask for; a deploy file that the environment names is used where no
other is given. -/
def Options.command (options : Options) (environmentDeploy : Option String) (name : CommandName) :
    Except UsageError Command := do
  let options ← options.settle
  let deploy ←
    match options.deploy, environmentDeploy with
    | some deploy, _ => .ok (some deploy)
    | .none, some deploy =>
      if deploy.isEmpty then .error UsageError.invalidValue else .ok (some deploy)
    | .none, .none => .ok .none
  let selection : Selection := ⟨options.target, options.host⟩
  match name with
  | .plan => return .tell (.plan options.jobs options.json) deploy selection
  | .status => return .tell .status deploy selection
  | .completions =>
    match options.shell with
    | some shell => return .completions shell
    | .none => throw .missingArgument

/-- Read a command line. The verbosity after a command counts before that in front of it. -/
def Invocation.ofArguments (environmentDeploy : Option String) (arguments : List String) :
    Except UsageError Invocation := do
  let (program, rest) ← readProgram Options.none arguments
  match rest with
  | none =>
    let program ← program.settle
    throw (if program.given then .missingCommand else .nothingGiven)
  | some (name, rest) =>
    let options ← rest.foldlM (Options.read (some name)) Options.none
    let named := if name = .completions then none else environmentDeploy
    let command ← options.command named name
    return {
      verbose := if 0 < options.verbose then options.verbose else program.verbose
      quiet := program.quiet || options.quiet
      command }

end FleetPlan.CommandLine
