import FleetPlan.Digest.Blake3
import FleetPlan.Host.Facts
import FleetPlan.Shell

/-!
# File work on a host

Downloads, file contents and removals are planned by a collaborator of the
reconcilers. `FileWork.shell` writes them as shell commands, and leaves out what
the facts say is already done.
-/

namespace FleetPlan

/-- Plans for work on the files of a host. -/
structure FileWork where
  /-- Fetch what is at an address into a file. -/
  download : (source destination : String) → Except ReconcileError Outcome
  /-- Make a file hold exactly some contents. -/
  put : (contents destination : String) → Except ReconcileError Outcome
  /-- Make sure that nothing is at a path. -/
  ensureAbsent : (path : String) → Except ReconcileError Outcome

namespace FileWork

/-- The command that fetches a file. -/
def downloadCommand (source destination : String) : String :=
  "curl -sSLf " ++ Shell.quote source ++ " -o " ++ Shell.quote destination

/-- The command that writes a file. -/
def putCommand (contents destination : String) : String :=
  "printf '%s' " ++ Shell.quote contents ++ " > " ++ Shell.quote destination

/-- The command that removes a file. -/
def removeCommand (path : String) : String := "rm -f " ++ Shell.quote path

/-- File work as shell commands. A file with the digest of the wanted contents is left as it is, and
so is the place of a file that does not exist. -/
def shell (facts : Facts) : FileWork where
  download source destination := .ok (.ofCommand (downloadCommand source destination))
  put contents destination := do
    let digest ← facts.fileDigest destination
    if digest = some (contentDigest contents) then
      return .ofObservation (.fileUpToDate destination)
    else
      return .ofCommand (putCommand contents destination)
  ensureAbsent path := do
    if ← facts.fileExists path then
      return .ofCommand (removeCommand path)
    else
      return .ofObservation (.fileAbsent path)

end FileWork

end FleetPlan
