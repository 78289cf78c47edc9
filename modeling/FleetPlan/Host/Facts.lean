import FleetPlan.Outcome
import FleetPlan.ReconcileError
import FleetPlan.SortedMap

/-!
# Facts about a host

What reconciliation asks of a host beyond its packages and services: which files
exist, what they hold, and which packages the package files on it contain. A fact
that cannot be gathered is an error, which is different from a negative answer.
-/

namespace FleetPlan

/-- The name and version of the package in a package file. -/
structure RpmInfo where
  name : String
  version : String
  deriving DecidableEq, Repr, Inhabited

/-- The facts of a host that are looked up on demand. -/
structure Facts where
  /-- Whether there is a file at a path. -/
  fileExists : (path : String) → Except ReconcileError Bool
  /-- The digest of the contents of a file; `none` if it is missing or its contents are not known. -/
  fileDigest : (path : String) → Except ReconcileError (Option String)
  /-- The package in a package file; `none` if the file or its package is not known. -/
  rpmPackage : (path : String) → Except ReconcileError (Option RpmInfo)

namespace Facts

/-- Facts of a host of which nothing is known. -/
def none : Facts where
  fileExists _ := .ok false
  fileDigest _ := .ok .none
  rpmPackage _ := .ok .none

end Facts

/-- What is recorded of a host: its files and packages at the time it was looked at. -/
structure HostRecord where
  /-- Files that exist. -/
  files : SortedSet
  /-- Digests of the contents of files; such a file exists too. -/
  fileDigests : SortedMap String
  /-- Installed packages. -/
  packages : SortedMap SortedSet
  /-- Services that run or are stopped. -/
  services : SortedMap Bool
  /-- The packages in package files, by path. -/
  rpms : SortedMap RpmInfo
  /-- Entries of the packages that provide a capability. -/
  provides : SortedMap (List String)
  deriving DecidableEq, Inhabited

/-- The record of a host of which nothing is known. -/
def HostRecord.empty : HostRecord := ⟨.empty, .empty, .empty, .empty, .empty, .empty⟩

/-- The facts that a record answers. -/
def Facts.ofRecord (record : HostRecord) : Facts where
  fileExists path := .ok (record.files.contains path || record.fileDigests.contains path)
  fileDigest path := .ok (record.fileDigests.get? path)
  rpmPackage path := .ok (record.rpms.get? path)

end FleetPlan
