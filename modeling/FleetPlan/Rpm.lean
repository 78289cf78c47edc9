import FleetPlan.Host.FileWork
import FleetPlan.Package.Inventory
import FleetPlan.Url

/-!
# Packages given as files

A package may be declared by its file, which is on the host or at a URL. The file
tells which package it holds; where it cannot be looked into yet, the host has to
check for itself whether the package is installed.
-/

namespace FleetPlan

/-- A package file whose package should be installed or removed. -/
structure RpmGoal where
  /-- A path on the host, or a URL to download. -/
  source : String
  present : Bool
  /-- The program that removes packages. -/
  remover : String
  deriving DecidableEq, Repr, Inhabited

namespace RpmGoal

/-- The command that installs a package file. -/
def installCommand (path : String) : String := "rpm -i " ++ path

/-- The command that installs a package file unless its package is installed. -/
def guardedCommand (path : String) : String :=
  "rpm -q `rpm -qp " ++ path ++ "` 2> /dev/null || rpm -i " ++ path

/-- The command that removes a package. -/
def removeCommand (remover name : String) : String := remover ++ " remove -y " ++ name

/-- The download of the file, if it is at a URL, and the path where the file then is. -/
def fetch (goal : RpmGoal) (temporaryPath : String) (files : FileWork) :
    Except ReconcileError (Outcome × String) := do
  if Url.isUrl goal.source then
    return (← files.download goal.source temporaryPath, temporaryPath)
  else
    return (.empty, goal.source)

/-- What is planned once it is known which package the file at a path holds, if any. -/
def settle (goal : RpmGoal) (path : String) (info : Option RpmInfo) (inventory : Inventory) :
    Outcome × Inventory :=
  let report := Outcome.ofObservation (.rpmState goal.source goal.present)
  match info with
  | some info =>
    match goal.present, inventory.has info.name (some info.version) with
    | true, false =>
      (.ofCommand (installCommand path), inventory.record info.name (some info.version))
    | false, true =>
      (.ofCommand (removeCommand goal.remover info.name), inventory.remove info.name)
    | _, _ => (report, inventory)
  | none =>
    if goal.present then (.ofCommand (guardedCommand path), inventory) else (report, inventory)

/-- Plan the commands that install or remove the package of a file, and predict the inventory they
leave. -/
def reconcile (goal : RpmGoal) (temporaryPath : String) (facts : Facts) (files : FileWork)
    (inventory : Inventory) : Except ReconcileError (Outcome × Inventory) := do
  let (fetched, path) ← goal.fetch temporaryPath files
  let info ← facts.rpmPackage path
  let (planned, inventory) := goal.settle path info inventory
  return (fetched ++ planned, inventory)

end RpmGoal

end FleetPlan
