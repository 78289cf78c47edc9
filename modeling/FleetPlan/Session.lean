import FleetPlan.Package.Goal
import FleetPlan.Repository
import FleetPlan.Rpm
import FleetPlan.Service.Goal

/-!
# Sessions

A session holds what the items of one plan share on one host: the packages that
are installed and the services whose state is known, each as the commands planned
so far leave it.
-/

namespace FleetPlan

/-- The state of one host while a plan is made for it. -/
structure Session where
  host : String
  packages : Inventory
  services : ServiceStates
  /-- The directory for downloads, without trailing slashes where it was set. -/
  temporaryDirectory : String
  deriving DecidableEq, Repr, Inhabited

namespace Session

/-- The directory for downloads where nothing else is said. -/
def plainTemporaryDirectory : String := "/tmp"

/-- The session at the start of a plan. -/
def start (host : String) (packages : Inventory) (services : ServiceStates) : Session :=
  ⟨host, packages, services, plainTemporaryDirectory⟩

/-- The session with another directory for downloads. -/
def withTemporaryDirectory (session : Session) (directory : String) : Session :=
  { session with temporaryDirectory := String.ofList (Text.trimEnd '/' directory.toList) }

/-- A path for what is downloaded from one place, which is the same each time. -/
def temporaryPath (session : Session) (source : String) : String :=
  session.temporaryDirectory ++ "/converge-" ++ contentDigest source

/-- The path that a package file is downloaded to. -/
def rpmPath (session : Session) (source : String) : String :=
  session.temporaryPath source ++ ".rpm"

end Session

end FleetPlan
