import FleetPlan.Text.Quoted

/-!
# Why an item cannot be reconciled

Packages and services can always be reconciled. Failures come from the
collaborators that are asked for facts and file work, and from templates and
repositories that cannot be used as they are declared.
-/

namespace FleetPlan

/-- The places that an action template has to have. -/
inductive Placeholder where
  | name
  | action
  deriving DecidableEq, Repr

/-- A placeholder as it is written in a template. -/
def Placeholder.text : Placeholder → String
  | .name => "{name}"
  | .action => "{action}"

/-- What makes a repository declaration unusable. -/
inductive RepositoryFault where
  /-- It is a URL whose path does not end in a name. -/
  | noFileName
  /-- It is a name, and no base URL is given for it. -/
  | noBaseUrl
  deriving DecidableEq, Repr

/-- The sentence that explains a repository fault. -/
def RepositoryFault.message : RepositoryFault → String
  | .noFileName => "URL does not end in a file name"
  | .noBaseUrl => "baseurl is required unless the repository is a URL"

/-- A failure while an item is reconciled. -/
inductive ReconcileError where
  /-- A fact about the host could not be gathered. -/
  | factUnavailable (fact detail : String)
  /-- A download could not be planned. -/
  | downloadFailed (source destination detail : String)
  /-- A file could not be written or removed. -/
  | fileWorkFailed (path detail : String)
  /-- An action template lacks a placeholder. -/
  | invalidTemplate (template : String) (missing : Placeholder)
  /-- A repository cannot be made into a repository file. -/
  | invalidRepository (identifier : String) (fault : RepositoryFault)
  deriving DecidableEq, Repr

/-- The sentence that reports a failure. -/
def ReconcileError.message : ReconcileError → String
  | .factUnavailable fact detail => s!"failed to gather fact {fact}: {detail}"
  | .downloadFailed source destination detail =>
    s!"failed to download {source} to {destination}: {detail}"
  | .fileWorkFailed path detail => s!"file operation on {path} failed: {detail}"
  | .invalidTemplate template missing =>
    "invalid command template " ++ Text.quoted template ++ ": missing " ++ missing.text ++
      " placeholder"
  | .invalidRepository identifier fault =>
    s!"invalid repository {identifier}: " ++ fault.message

/-- What goes on after a request has a result only if the request has one. -/
theorem exists_of_bind_eq_ok {α β : Type} {request : Except ReconcileError α}
    {next : α → Except ReconcileError β} {result : β} (done : request >>= next = .ok result) :
    ∃ value, request = .ok value ∧ next value = .ok result := by
  cases request with
  | error failure => cases done
  | ok value => exact ⟨value, rfl, done⟩

end FleetPlan
