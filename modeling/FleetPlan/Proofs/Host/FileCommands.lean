import FleetPlan.Host.FileWork
import FleetPlan.Proofs.Shell.Words
import Mathlib.Logic.Function.Basic

/-!
# What the commands of file work do

`FileCommand.ofLine?` reads a planned command as a shell does, and
`FileSystem.run?` carries the commands of a plan out on the files of a host. Every
command of file work is read as what it was made for (`FileCommand.ofLine?_line`).
Commands are taken to succeed, and paths are taken as they are written.
-/

namespace FleetPlan

/-- The files of a host: what is at each path, if there is something. -/
abbrev FileSystem := String → Option String

/-- A command of file work. -/
inductive FileCommand where
  /-- Get what is at an address. -/
  | fetch (source destination : String)
  | write (contents destination : String)
  | remove (path : String)
  deriving DecidableEq, Repr

namespace FileCommand

/-- The line that a command is written as. -/
def line : FileCommand → String
  | fetch source destination => FileWork.downloadCommand source destination
  | write contents destination => FileWork.putCommand contents destination
  | remove path => FileWork.removeCommand path

/-- The command that a shell runs for a line, if it is one of file work. -/
def ofLine? (line : String) : Option FileCommand :=
  match Shell.tokens? line with
  | some [.word "curl", .word "-sSLf", .word source, .word "-o", .word destination] =>
    some (.fetch source destination)
  | some [.word "printf", .word "%s", .word contents, .into, .word destination] =>
    some (.write contents destination)
  | some [.word "rm", .word "-f", .word path] => some (.remove path)
  | _ => none

/-- The only path at which a command changes something. -/
def path : FileCommand → String
  | fetch _ destination => destination
  | write _ destination => destination
  | remove path => path

/-- What is at its path after a command, with what is at each address. -/
def leaves (remote : String → String) : FileCommand → Option String
  | fetch source _ => some (remote source)
  | write contents _ => some contents
  | remove _ => none

/-- A download is read as the address and the file, each as it is given. -/
theorem tokens?_downloadCommand (source destination : String) :
    Shell.tokens? (FileWork.downloadCommand source destination) =
      some [.word "curl", .word "-sSLf", .word source, .word "-o", .word destination] := by
  have parts : FileWork.downloadCommand source destination =
      "curl -sSLf" ++ " " ++ Shell.quote source ++ " " ++
        ("-o" ++ " " ++ Shell.quote destination) := by
    apply String.toList_injective
    simp [FileWork.downloadCommand]
  have front : Shell.tokens? "curl -sSLf" = some [.word "curl", .word "-sSLf"] := by decide
  have option : Shell.tokens? "-o" = some [.word "-o"] := by decide
  rw [parts]
  exact Shell.tokens?_append_space (Shell.tokens?_append_space front (Shell.tokens?_quote source))
    (Shell.tokens?_append_space option (Shell.tokens?_quote destination))

/-- Writing a file is read as the contents and the file, each as it is given. -/
theorem tokens?_putCommand (contents destination : String) :
    Shell.tokens? (FileWork.putCommand contents destination) =
      some [.word "printf", .word "%s", .word contents, .into, .word destination] := by
  have parts : FileWork.putCommand contents destination =
      "printf '%s'" ++ " " ++ Shell.quote contents ++ " " ++
        (">" ++ " " ++ Shell.quote destination) := by
    apply String.toList_injective
    simp [FileWork.putCommand]
  have front : Shell.tokens? "printf '%s'" = some [.word "printf", .word "%s"] := by decide
  have redirection : Shell.tokens? ">" = some [.into] := by decide
  rw [parts]
  exact Shell.tokens?_append_space (Shell.tokens?_append_space front (Shell.tokens?_quote contents))
    (Shell.tokens?_append_space redirection (Shell.tokens?_quote destination))

/-- A removal is read as the path that is given. -/
theorem tokens?_removeCommand (path : String) :
    Shell.tokens? (FileWork.removeCommand path) =
      some [.word "rm", .word "-f", .word path] := by
  have parts : FileWork.removeCommand path = "rm -f" ++ " " ++ Shell.quote path := by
    apply String.toList_injective
    simp [FileWork.removeCommand]
  have front : Shell.tokens? "rm -f" = some [.word "rm", .word "-f"] := by decide
  rw [parts]
  exact Shell.tokens?_append_space front (Shell.tokens?_quote path)

/-- A command is read as what it was made for. -/
theorem ofLine?_line (command : FileCommand) : ofLine? command.line = some command := by
  cases command with
  | fetch source destination =>
    rw [ofLine?, line, tokens?_downloadCommand]
    rfl
  | write contents destination =>
    rw [ofLine?, line, tokens?_putCommand]
    rfl
  | remove path =>
    rw [ofLine?, line, tokens?_removeCommand]
    rfl

end FileCommand

namespace FileSystem

variable (remote : String → String)

/-- The files after a command. -/
def after (files : FileSystem) (command : FileCommand) : FileSystem :=
  Function.update files command.path (command.leaves remote)

/-- The files after commands that run one after the other. -/
def afterAll (files : FileSystem) (commands : List FileCommand) : FileSystem :=
  commands.foldl (after remote) files

/-- The files after the commands of some lines, if a shell can run them all. -/
def run? (files : FileSystem) (lines : List String) : Option FileSystem :=
  (lines.mapM FileCommand.ofLine?).map (files.afterAll remote)

/-- The lines of commands run as these commands. -/
theorem run?_map_line (files : FileSystem) (commands : List FileCommand) :
    files.run? remote (commands.map FileCommand.line) = some (files.afterAll remote commands) := by
  have read : (commands.map FileCommand.line).mapM FileCommand.ofLine? = some commands := by
    induction commands with
    | nil => rfl
    | cons command commands inductionHypothesis =>
      simp [FileCommand.ofLine?_line, inductionHypothesis]
  rw [run?, read, Option.map_some]

/-- Commands run after others find the files as those left them. -/
theorem afterAll_append (files : FileSystem) (first second : List FileCommand) :
    files.afterAll remote (first ++ second) = (files.afterAll remote first).afterAll remote second :=
  List.foldl_append

/-- What no command is about stays as it is. -/
theorem afterAll_of_spared {commands : List FileCommand} {path : String}
    (spared : ∀ command ∈ commands, command.path ≠ path) (files : FileSystem) :
    files.afterAll remote commands path = files path := by
  induction commands generalizing files with
  | nil => rfl
  | cons command commands inductionHypothesis =>
    have others := inductionHypothesis (fun later member => spared later (.tail _ member))
      (files.after remote command)
    exact others.trans (Function.update_of_ne (spared command (.head _)).symm _ _)

/-- At each path is what the last command about it leaves. -/
theorem afterAll_of_last (files : FileSystem) (before : List FileCommand) (command : FileCommand)
    {later : List FileCommand} (spared : ∀ other ∈ later, other.path ≠ command.path) :
    files.afterAll remote (before ++ command :: later) command.path = command.leaves remote := by
  rw [afterAll_append]
  exact (afterAll_of_spared remote spared _).trans (Function.update_self ..)

end FileSystem

/-- Facts that tell what the files of a host are. Whether a file exists is always known, but not what
it holds. -/
structure Facts.AreTruthful (facts : Facts) (files : FileSystem) : Prop where
  fileExists : ∀ path, facts.fileExists path = .ok (files path).isSome
  fileDigest : ∀ path, facts.fileDigest path = .ok .none ∨
    ∃ contents, files path = some contents ∧
      facts.fileDigest path = .ok (some (contentDigest contents))

namespace Facts.AreTruthful

variable {facts : Facts} {files : FileSystem} {path : String}

/-- What is known of the existence of a file is so. -/
theorem isSome (truthful : facts.AreTruthful files) {there : Bool}
    (known : facts.fileExists path = .ok there) : (files path).isSome = there := by
  rw [truthful.fileExists] at known
  exact Except.ok.inj known

/-- A digest that is known is that of the contents. -/
theorem exists_contents (truthful : facts.AreTruthful files) {digest : String}
    (known : facts.fileDigest path = .ok (some digest)) :
    ∃ contents, files path = some contents ∧ contentDigest contents = digest := by
  rcases truthful.fileDigest path with unknown | ⟨contents, held, told⟩
  · rw [unknown] at known
    cases known
  · rw [told] at known
    exact ⟨contents, held, Option.some.inj (Except.ok.inj known)⟩

end Facts.AreTruthful

end FleetPlan
