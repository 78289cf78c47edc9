import Std.Time.Format
import FleetPlan.CommandLine.Response

/-!
# The program

The only part that does anything: it asks for the arguments, the environment, the
deploy file and the time, and writes the response.
-/

namespace FleetPlan.CommandLine

/-- Ask for the environment. -/
def Environment.current : IO Environment := do
  return {
    home := ← IO.getEnv "HOME"
    configuration := ← IO.getEnv "XDG_CONFIG_HOME"
    deploy := ← IO.getEnv "CONVERGE_DEPLOY"
    forceColor := ← IO.getEnv "CLICOLOR_FORCE"
    noColor := ← IO.getEnv "NO_COLOR" }

/-- The fault that an error of the system stands for. -/
def faultOf : IO.Error → FileFault
  | .noFileOrDirectory .. => .notFound
  | .inappropriateType .. => .isADirectory
  | error => .other error.toString

/-- Read a file that holds text. -/
def readText (path : String) : IO (Except FileFault String) := do
  match ← (IO.FS.readBinFile path).toBaseIO with
  | .error error => return .error (faultOf error)
  | .ok bytes => return (String.fromUTF8? bytes).elim (.error .notText) .ok

/-- The present time, as it is written in documents. -/
def currentTime : IO String := do
  let now ← Std.Time.Timestamp.now
  return (Std.Time.PlainDateTime.ofWallTime (now.toWallTime .zero)).toLeanDateTimeString ++ "Z"

/-- Write a response. -/
def Response.write (response : Response) : IO UInt32 := do
  (← IO.getStderr).putStr response.errors
  (← IO.getStdout).putStr response.output
  return response.exitCode.toUInt32

/-- Carry out a command line. -/
def run (arguments : List String) : IO UInt32 := do
  let environment ← Environment.current
  let content ←
    match fileOf? environment arguments with
    | some path => readText path
    | none => pure (.error .notFound)
  (respond environment (← currentTime) (fun _ => content) arguments).write

end FleetPlan.CommandLine

/-- Carry out the command line of the program. -/
def main (arguments : List String) : IO UInt32 := FleetPlan.CommandLine.run arguments
