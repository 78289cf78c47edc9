import FleetPlan.CommandLine.Environment
import FleetPlan.CommandLine.Findings
import FleetPlan.CommandLine.Guide
import FleetPlan.Document.Json.Writing
import FleetPlan.Journal
import FleetPlan.Text.Controls

/-!
# Responses

A response is all that a command line comes to: the output, what is written
beside it, and the exit code. It is a function of the arguments, the environment,
the time and what files hold; `respond_congr` says that `fileOf?` names the only
file that matters. The journal is written before the errors of the messages.
-/

namespace FleetPlan.CommandLine

/-- What a command line comes to. -/
structure Response where
  exitCode : Nat
  output : String
  errors : String
  deriving DecidableEq, Repr, Inhabited

/-- The level from which on the journal is shown. -/
def Invocation.threshold (invocation : Invocation) : JournalLevel :=
  if invocation.quiet then .error
  else
    match invocation.verbose with
    | 0 => .warning
    | 1 => .info
    | 2 => .debug
    | _ => .trace

/-- What turns on the style of a level. -/
def levelStart : JournalLevel → String
  | .error => Style.bold.start ++ Style.red.start
  | .warning => Style.yellow.start
  | .info => Style.green.start
  | .debug => Style.blue.start
  | .trace => "\x1b[36m"

/-- What turns on the style of the brackets of a journal line. -/
def bracketStart : String := "\x1b[90m"

/-- The width of the longest word for a level. -/
def levelWidth : Nat := 5

/-- The word for a level, filled up with blanks. -/
def levelColumn (level : JournalLevel) : String :=
  level.name ++ "".pushn ' ' (levelWidth - level.name.length)

/-- A text whose lines after the first are indented. -/
def indentLines (text : String) : String :=
  String.ofList (Text.replaceAll ['\n'] "\n    ".toList text.toList)

/-- A line of the journal as it is written: the level, the topic and the text. -/
def writeJournalLine (styled : Bool) (line : JournalLine) : String :=
  let text := " " ++ indentLines line.text
  if styled then
    bracketStart ++ "[" ++ Style.reset ++ levelStart line.level ++ levelColumn line.level ++
      Style.reset ++ " " ++ line.topic.name ++ bracketStart ++ "]" ++ Style.reset ++ text
  else "[" ++ levelColumn line.level ++ " " ++ line.topic.name ++ "]" ++ text

/-- A line of the journal with its end. Where no styles are shown, what its text has of control
characters is left out, and a string that is not ended takes the end of the line with it. -/
def writeJournalEntry (styled : Bool) (line : JournalLine) : String :=
  let written := writeJournalLine styled line ++ "\n"
  if styled then written else Text.withoutControls written

/-- The lines of the journal that are shown, as they are written. -/
def Invocation.writeJournal (invocation : Invocation) (environment : Environment)
    (lines : List JournalLine) : String :=
  String.join
    ((lines.filter (·.isShown invocation.threshold)).map
      (writeJournalEntry environment.stylesJournal))

/-- What the journal tells first: what was found in the deploy file. -/
def loadedLine (deploy : Deploy) (path : String) : JournalLine :=
  ⟨.debug, .loading,
    s!"loaded {deploy.hosts.size} host(s) and {deploy.operations.length} operation(s) from " ++
      path⟩

/-- The report of an error: what failed, and its causes, indented. -/
def errorReport (error : LoadError) : String :=
  match error.chain with
  | [] => ""
  | context :: causes =>
    "Error: " ++ context ++ "\n" ++
      if causes.isEmpty then ""
      else
        "\nCaused by:\n" ++
          Message.writeLines (causes.map fun cause => "    " ++ indentLines cause)

/-- The response to an error: nothing but its report after the journal. -/
def Response.ofError (journal : String) (error : LoadError) : Response :=
  ⟨1, "", journal ++ errorReport error⟩

/-- The response to a command line that is not carried out. -/
def Response.ofUsageError (error : UsageError) : Response :=
  if error.isAnswer then ⟨0, error.text, ""⟩ else ⟨2, "", error.text⟩

/-- The response of some messages. -/
def Response.ofMessages (styled : Bool) (exitCode : Nat) (journal : String)
    (messages : List Message) : Response :=
  ⟨exitCode, Message.output styled messages, journal ++ Message.errors styled messages⟩

namespace Invocation

/-- The response that tells of a deploy which was narrowed to what is asked for. -/
def present (invocation : Invocation) (environment : Environment) (time journal : String)
    (account : Account) (deploy : LoadedDeploy) : Response :=
  let reports := deploy.reports
  let styled := environment.stylesMessages
  match account with
  | .plan _ true =>
    ⟨0, Json.writeLines 0 (planDocument time deploy.path reports) ++ "\n", journal⟩
  | .plan _ false => .ofMessages styled 0 journal (planMessages invocation.quiet reports)
  | .status =>
    .ofMessages styled (Summary.ofReports reports).exitCode journal
      (statusMessages invocation.quiet (0 < invocation.verbose) deploy.path reports)

/-- The response that tells of the deploy in a file. -/
def tell (invocation : Invocation) (environment : Environment) (time : String)
    (account : Account) (path : String) (selection : Selection)
    (content : Except FileFault String) : Response :=
  match Deploy.load path content with
  | .error error => .ofError "" error
  | .ok deploy =>
    let loaded := loadedLine deploy path
    match deploy.narrow path selection with
    | .error error => .ofError (invocation.writeJournal environment [loaded]) error
    | .ok narrowed =>
      let journal := loaded :: narrowed.plan.journal narrowed.inputs
      invocation.present environment time (invocation.writeJournal environment journal) account
        narrowed

/-- The response to a command line that is understood. -/
def respond (invocation : Invocation) (environment : Environment) (time : String)
    (files : String → Except FileFault String) : Response :=
  match invocation.command with
  | .tell account named selection =>
    let path := environment.deployPath named
    invocation.tell environment time account path selection (files path)
  | .completions shell => ⟨0, completionScript shell, ""⟩

end Invocation

/-- The response to a command line, given the time and what files hold. -/
def respond (environment : Environment) (time : String) (files : String → Except FileFault String)
    (arguments : List String) : Response :=
  match Invocation.ofArguments environment.deploy arguments with
  | .error error => .ofUsageError error
  | .ok invocation => invocation.respond environment time files

/-- The only file that the response to a command line depends on, if it depends on one. -/
def fileOf? (environment : Environment) (arguments : List String) : Option String :=
  match (Invocation.ofArguments environment.deploy arguments).map Invocation.command with
  | .ok (.tell _ named _) => some (environment.deployPath named)
  | _ => none

/-- Two readings of the files lead to one response if they agree on the file that it depends on. -/
theorem respond_congr {environment : Environment} {time : String}
    {left right : String → Except FileFault String} {arguments : List String}
    (agree : ∀ path, fileOf? environment arguments = some path → left path = right path) :
    respond environment time left arguments = respond environment time right arguments := by
  unfold respond
  unfold fileOf? at agree
  cases read : Invocation.ofArguments environment.deploy arguments with
  | error error => rfl
  | ok invocation =>
    rw [read] at agree
    simp only [Invocation.respond]
    cases asked : invocation.command with
    | completions shell => rfl
    | tell account named selection =>
      have same := agree (environment.deployPath named) (by simp [Except.map, asked])
      simp only [same]

end FleetPlan.CommandLine
