import FleetPlan.Deploy.Reading
import FleetPlan.Report

/-!
# Loading deploys

A deploy is loaded from a file whose format its extension tells. Its declarations
become a plan, and the plan and the hosts are narrowed to those that are asked
for. What a host's record says becomes the session and the collaborators that its
plan is made with.
-/

namespace FleetPlan

/-- Why a file cannot be read. -/
inductive FileFault where
  | notFound
  | notADirectory
  | isADirectory
  | notText
  | other (message : String)
  deriving DecidableEq, Repr

/-- The words of the system for a fault. -/
def FileFault.message : FileFault → String
  | .notFound => "No such file or directory (os error 2)"
  | .notADirectory => "Not a directory (os error 20)"
  | .isADirectory => "Is a directory (os error 21)"
  | .notText => "stream did not contain valid UTF-8"
  | .other message => message

/-- Why a deploy cannot be loaded. -/
inductive LoadError where
  /-- The file cannot be read. -/
  | unreadable (path : String) (fault : FileFault)
  /-- The file does not hold a deploy. -/
  | invalidFile (path : String)
  /-- A declaration cannot be used. -/
  | invalidDeclaration (invalid : InvalidDeclaration)
  /-- The host that is asked for is not declared. -/
  | unknownHost (host path : String)
  deriving DecidableEq, Repr

/-- What is reported of an error first, and then the causes that are told. -/
def LoadError.chain : LoadError → List String
  | .unreadable path fault => ["Could not read " ++ path, fault.message]
  | .invalidFile path => ["Invalid deploy file " ++ path]
  | .invalidDeclaration invalid => [invalid.context, invalid.error.message]
  | .unknownHost host path => [s!"Host '{host}' is not declared in {path}"]

/-- The report of an error on one line. -/
def LoadError.message (error : LoadError) : String := ": ".intercalate error.chain

/-- What of a deploy is asked for. -/
structure Selection where
  target : Option String
  host : Option String
  deriving DecidableEq, Repr, Inhabited

/-- A deploy whose plan is made and which is narrowed to what is asked for. -/
structure LoadedDeploy where
  path : String
  settings : Settings
  plan : Plan
  hosts : List (String × HostRecord)
  deriving Inhabited

/-- The providers that a host's record lists. -/
def Providers.ofRecord (record : HostRecord) : Providers :=
  .ofTable (record.provides.mapValues
    (List.map (Package.ofEntry (some Package.plainSeparator))))

/-- The collaborators that answer from a host's record. -/
def Collaborators.ofRecord (record : HostRecord) : Collaborators :=
  let facts := Facts.ofRecord record
  ⟨facts, .shell facts, .ofRecord record⟩

/-- A host as its record describes it. -/
def HostInput.ofRecord (temporaryDirectory host : String) (record : HostRecord) : HostInput where
  session :=
    (Session.start host ⟨record.packages⟩ ⟨record.services⟩).withTemporaryDirectory
      temporaryDirectory
  collaborators := .ofRecord record

namespace Deploy

/-- The last component of a path that names a file. -/
def fileName? (path : List Char) : Option (List Char) :=
  let components := (Text.splitAt '/' path).filter fun part => part != [] && part != ['.']
  match components.reverse with
  | [] => none
  | last :: _ => if last = ['.', '.'] then none else some last

/-- What follows the last dot of a file name, unless that dot is its first character. -/
def extension? (path : String) : Option String := do
  let name ← fileName? path.toList
  let (front, extension) ← Text.cutLast? ['.'] name
  if front.isEmpty then none else some (String.ofList extension)

/-- The format of a file, which is JSON only where the extension says so. -/
def Format.ofPath (path : String) : Format :=
  if extension? path = some "json" then .json else .toml

/-- A path in which a leading `~` stands for the home directory. -/
def expandHome (home path : String) : String :=
  match path.toList with
  | ['~'] => home
  | '~' :: '/' :: rest => home ++ String.ofList ('/' :: rest)
  | _ => path

/-- The path of a name in a directory. A directory that ends in a slash, or has no name, is not
given another slash. -/
def joinPath (directory name : String) : String :=
  if directory = "" || directory.endsWith "/" then directory ++ name else directory ++ "/" ++ name

/-- The file that is loaded where no other is named, in the directory for configuration. -/
def plainPath (configuration : String) : String :=
  joinPath (joinPath configuration "converge") "deploy.toml"

/-- The deploy in a file. -/
def load (path : String) (content : Except FileFault String) : Except LoadError Deploy :=
  match content with
  | .error fault => .error (.unreadable path fault)
  | .ok text =>
    match ofText? (.ofPath path) text with
    | some deploy => .ok deploy
    | none => .error (.invalidFile path)

/-- The hosts that are asked for. -/
def hostsFor (host : Option String) (deploy : Deploy) : List (String × HostRecord) :=
  match host with
  | none => deploy.hosts.entries
  | some wanted => deploy.hosts.entries.filter fun entry => entry.1 = wanted

/-- The deploy narrowed to what is asked for. All its declarations have to be usable, also those
that are not asked for. -/
def narrow (deploy : Deploy) (path : String) (selection : Selection) :
    Except LoadError LoadedDeploy :=
  match Plan.ofDeclarations deploy.operations with
  | .error invalid => .error (.invalidDeclaration invalid)
  | .ok plan =>
    let hosts := deploy.hostsFor selection.host
    match selection.host, hosts with
    | some host, [] => .error (.unknownHost host path)
    | _, hosts => .ok ⟨path, deploy.settings, plan.select selection.target, hosts⟩

end Deploy

namespace LoadedDeploy

/-- How many hosts are planned at the same time where nothing else is said. -/
def plainJobs : Nat := 4

/-- How many hosts are planned at the same time: as asked for, or as the deploy says. -/
def jobs (deploy : LoadedDeploy) (requested : Option Nat) : Nat :=
  max 1 ((requested <|> deploy.settings.jobs).getD plainJobs)

/-- The directory for downloads on the hosts. -/
def temporaryDirectory (deploy : LoadedDeploy) : String :=
  deploy.settings.temporaryDirectory.getD Session.plainTemporaryDirectory

/-- The hosts as their records describe them. -/
def inputs (deploy : LoadedDeploy) : List HostInput :=
  deploy.hosts.map fun host => .ofRecord deploy.temporaryDirectory host.1 host.2

/-- The reports of the hosts, in ascending order of their names. -/
def reports (deploy : LoadedDeploy) : List HostReport := deploy.plan.reports deploy.inputs

end LoadedDeploy

end FleetPlan
