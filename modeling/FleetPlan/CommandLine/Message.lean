import FleetPlan.Text.Search

/-!
# Messages

What a command tells its reader is a list of messages. Errors are written beside
the output, all other messages are the output itself. On a reader that shows
styles, marks and headings stand out by their colour or weight.
-/

namespace FleetPlan.CommandLine

/-- How a text stands out. -/
inductive Style where
  | bold
  | dim
  | red
  | green
  | yellow
  | blue
  | boldCyan
  | boldGreen
  deriving DecidableEq, Repr

namespace Style

/-- The codes of the terminal that turn a style on. -/
def codes : Style → String
  | .bold => "1"
  | .dim => "2"
  | .red => "31"
  | .green => "32"
  | .yellow => "33"
  | .blue => "34"
  | .boldCyan => "1;36"
  | .boldGreen => "1;32"

/-- What turns every style off. -/
def reset : String := "\x1b[0m"

/-- What turns a style on. -/
def start (style : Style) : String := "\x1b[" ++ style.codes ++ "m"

/-- A text in a style. A text that turns styles off itself goes on in the style. -/
def apply (style : Style) (text : String) : String :=
  let kept := Text.replaceAll reset.toList (reset ++ style.start).toList text.toList
  style.start ++ String.ofList kept ++ reset

/-- A text in a style where styles are shown, and as it is elsewhere. -/
def applyIf (styled : Bool) (style : Style) (text : String) : String :=
  if styled then style.apply text else text

end Style

/-- Something that a command tells its reader. -/
inductive Message where
  | information (text : String)
  | success (text : String)
  | warning (text : String)
  | error (text : String)
  /-- Something said in passing. -/
  | remark (text : String)
  /-- The heading of a host. -/
  | title (text : String)
  /-- The heading of a part that belongs to no host. -/
  | heading (text : String)
  | entry (key value : String)
  /-- A command that a host needs. -/
  | command (text : String)
  deriving DecidableEq, Repr

namespace Message

/-- Whether a message is written beside the output. -/
def isError : Message → Bool
  | .error _ => true
  | _ => false

/-- The lines of a message. -/
def lines (styled : Bool) : Message → List String
  | .information text => [Style.blue.applyIf styled "ℹ" ++ " " ++ text]
  | .success text => [Style.green.applyIf styled "✓" ++ " " ++ text]
  | .warning text => [Style.yellow.applyIf styled "⚠" ++ " " ++ text]
  | .error text => [Style.red.applyIf styled "✗" ++ " " ++ text]
  | .remark text => ["  " ++ Style.dim.applyIf styled text]
  | .title text =>
    ["", Style.bold.applyIf styled text,
      Style.dim.applyIf styled ("".pushn '─' text.length)]
  | .heading text => ["", Style.boldCyan.applyIf styled text]
  | .entry key value => ["  " ++ Style.dim.applyIf styled key ++ ": " ++ value]
  | .command text => ["  " ++ Style.boldGreen.applyIf styled "$" ++ " " ++ text]

/-- Lines as they are written, each with its end. -/
def writeLines (lines : List String) : String :=
  String.join (lines.map (· ++ "\n"))

/-- The output of some messages. -/
def output (styled : Bool) (messages : List Message) : String :=
  writeLines ((messages.filter (!·.isError)).flatMap (lines styled))

/-- What some messages write beside the output. -/
def errors (styled : Bool) (messages : List Message) : String :=
  writeLines ((messages.filter (·.isError)).flatMap (lines styled))

end Message

end FleetPlan.CommandLine
