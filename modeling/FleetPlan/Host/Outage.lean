import FleetPlan.Host.FileWork

/-!
# Outages

Collaborators may fail. An outage lists which requests fail and leaves all others
to the collaborators it is put in front of; a request that fails does nothing.
-/

namespace FleetPlan

/-- The requests that fail. -/
structure Outage where
  fileExists : (path : String) → Bool
  fileDigest : (path : String) → Bool
  rpmPackage : (path : String) → Bool
  download : (source : String) → Bool
  put : (path : String) → Bool
  ensureAbsent : (path : String) → Bool

/-- No request fails. -/
def Outage.none : Outage :=
  ⟨fun _ => false, fun _ => false, fun _ => false, fun _ => false, fun _ => false, fun _ => false⟩

/-- The failure of a fact about a path. -/
def Outage.unreachable (fact path : String) : ReconcileError :=
  .factUnavailable fact ("unreachable: " ++ path)

/-- The given facts, except where there is an outage. -/
def Facts.under (outage : Outage) (facts : Facts) : Facts where
  fileExists path :=
    if outage.fileExists path then .error (Outage.unreachable "file_exists" path)
    else facts.fileExists path
  fileDigest path :=
    if outage.fileDigest path then .error (Outage.unreachable "file_hash" path)
    else facts.fileDigest path
  rpmPackage path :=
    if outage.rpmPackage path then .error (Outage.unreachable "rpm_package" path)
    else facts.rpmPackage path

/-- The given file work, except where there is an outage. -/
def FileWork.under (outage : Outage) (files : FileWork) : FileWork where
  download source destination :=
    if outage.download source then .error (.downloadFailed source destination "offline")
    else files.download source destination
  put contents destination :=
    if outage.put destination then .error (.fileWorkFailed destination "read-only")
    else files.put contents destination
  ensureAbsent path :=
    if outage.ensureAbsent path then .error (.fileWorkFailed path "read-only")
    else files.ensureAbsent path

end FleetPlan
