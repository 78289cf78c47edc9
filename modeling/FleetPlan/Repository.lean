import FleetPlan.Host.FileWork
import FleetPlan.Url

/-!
# Package repositories

A repository is a file in a directory of the host. It is declared by name, and
then its file is written from the declaration, or by the URL of a finished file,
and then that file is downloaded once. The file's name is the repository's name,
which for a URL is the last segment of its path as it is written.
-/

namespace FleetPlan

/-- A package repository as it is declared. -/
structure Repository where
  /-- The name, or the URL of a finished repository file. -/
  identifier : String
  /-- Where the packages are; a repository declared by name needs it. -/
  baseUrl : Option String
  present : Bool
  /-- The name for readers; the repository's name if there is none. -/
  description : Option String
  enabled : Bool
  /-- Whether signatures are checked. -/
  signed : Bool
  /-- Where the key for signatures is. -/
  key : Option String
  /-- Where the host keeps its repository files. -/
  directory : String
  /-- The layout of the repository. -/
  layout : Option String
  deriving DecidableEq, Repr, Inhabited

namespace Repository

/-- The directory of repository files where nothing else is said. -/
def plainDirectory : String := "/etc/yum.repos.d"

/-- A repository that is present and enabled, and whose signatures are checked. -/
def ofIdentifier (identifier : String) : Repository :=
  ⟨identifier, none, true, none, true, true, none, plainDirectory, none⟩

/-- The extension of repository files. -/
def extension : String := ".repo"

/-- The file of a repository. -/
structure Target where
  /-- The name of the repository. -/
  name : String
  /-- Where the file is downloaded from, for a repository declared by URL. -/
  url : Option String
  path : String
  deriving DecidableEq, Repr, Inhabited

/-- The last segment of the path of a URL as it is written: before the first `?` or `#`, after the
first `://`, after the next `/`, and after the last `/`. It is empty where one is missing. -/
def lastSegment (url : List Char) : List Char :=
  let place := url.takeWhile fun character => character ≠ '?' && character ≠ '#'
  match Text.cutFirst? "://".toList place with
  | none => []
  | some (_, rest) =>
    match Text.cutFirst? ['/'] rest with
    | none => []
    | some (_, path) => (path.reverse.takeWhile (· ≠ '/')).reverse

/-- The name of the repository whose file is at a URL. -/
def nameOfUrl (url : String) : String :=
  let segment := lastSegment url.toList
  String.ofList ((Text.dropEnd? extension.toList segment).getD segment)

/-- The path of the file of a named repository. -/
def pathOf (directory name : String) : String :=
  String.ofList (Text.trimEnd '/' directory.toList) ++ "/" ++ name ++ extension

/-- The file of the repository with an identifier. -/
def target (identifier directory : String) : Except ReconcileError Target :=
  if Url.isHierarchical identifier then
    let name := nameOfUrl identifier
    if name.isEmpty then .error (.invalidRepository identifier .noFileName)
    else .ok ⟨name, some identifier, pathOf directory name⟩
  else .ok ⟨identifier, none, pathOf directory identifier⟩

/-- A switch as it is written in a repository file. -/
def switch (on : Bool) : String := if on then "1" else "0"

/-- The lines of a repository file. -/
def lines (repository : Repository) (name baseUrl : String) : List String :=
  ["[" ++ name ++ "]",
    "name=" ++ repository.description.getD name,
    "baseurl=" ++ baseUrl,
    "enabled=" ++ switch repository.enabled,
    "gpgcheck=" ++ switch repository.signed] ++
    (repository.layout.map fun layout => "type=" ++ layout).toList ++
    (repository.key.map fun key => "gpgkey=" ++ key).toList

/-- The contents of a repository file, each line of which is ended. -/
def contents (repository : Repository) (name baseUrl : String) : String :=
  String.join ((repository.lines name baseUrl).map (· ++ "\n"))

/-- Plan the file work that makes a repository present or absent. A downloaded file is not looked
into once it exists. -/
def reconcile (repository : Repository) (facts : Facts) (files : FileWork) :
    Except ReconcileError Outcome := do
  let target ← target repository.identifier repository.directory
  if !repository.present then files.ensureAbsent target.path
  else
    match target.url with
    | some url =>
      if ← facts.fileExists target.path then return .ofObservation (.fileExists target.path)
      else files.download url target.path
    | none =>
      match repository.baseUrl with
      | none => throw (.invalidRepository repository.identifier .noBaseUrl)
      | some baseUrl => files.put (repository.contents target.name baseUrl) target.path

end Repository

end FleetPlan
