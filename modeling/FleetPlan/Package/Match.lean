import FleetPlan.Package
import FleetPlan.Package.Inventory

/-!
# Matching declared packages against an inventory

A declared name may stand for a capability that other packages provide.
`Providers` expands such a name into the packages that count for it, and a match
asks whether every one of their names is installed (to ensure presence) or at
least one (to ensure absence). Providers of one name are one identity, which is
installed when any of its versions is.
-/

namespace FleetPlan

/-- The packages that provide a capability; none for a name that stands for itself. -/
abbrev Providers := String → List Package

namespace Providers

/-- No name stands for others. -/
def none : Providers := fun _ => []

/-- Providers listed in a table. -/
def ofTable (table : SortedMap (List Package)) : Providers :=
  fun name => (table.get? name).getD []

end Providers

namespace Package

/-- How the identities of a package are combined into one answer. -/
inductive MatchRule where
  /-- Every identity has to be installed. -/
  | all
  /-- One installed identity is enough. -/
  | any
  deriving DecidableEq, Repr

/-- The name of a concrete package with the versions it may have; with none listed, any version
counts. -/
structure Identity where
  name : String
  versions : SortedSet
  deriving DecidableEq, Repr, Inhabited

/-- Whether the inventory has the identity at one of its versions. -/
def Identity.isInstalled (inventory : Inventory) (identity : Identity) : Bool :=
  if identity.versions.isEmpty then inventory.contains identity.name
  else identity.versions.elements.any fun version =>
    inventory.has identity.name (some version)

/-- An identity with the version of one more candidate of its name. -/
def Identity.add (identity : Identity) (version : Option String) : Identity :=
  match version with
  | some version => { identity with versions := identity.versions.insert version }
  | none => identity

/-- Add a candidate to the identity of its name, or as a new identity at the end. -/
def addCandidate (candidate : Package) : List Identity → List Identity
  | [] => [(Identity.mk candidate.name .empty).add candidate.version]
  | identity :: rest =>
    if identity.name = candidate.name then identity.add candidate.version :: rest
    else identity :: addCandidate candidate rest

/-- The identities of a list of candidates, in the order of their first candidates. -/
def identitiesOf (candidates : List Package) : List Identity :=
  candidates.foldl (fun identities candidate => addCandidate candidate identities) []

/-- The identities of candidates with one more at the end are the identities of the others, and the
last one added. -/
theorem identitiesOf_concat (candidates : List Package) (candidate : Package) :
    identitiesOf (candidates ++ [candidate]) = addCandidate candidate (identitiesOf candidates) := by
  rw [identitiesOf, List.foldl_append]
  rfl

/-- The packages that count for a declared one: its providers, or itself if it has none. -/
def candidates (providers : Providers) (package : Package) : List Package :=
  match providers package.name with
  | [] => [package]
  | candidates => candidates

/-- The identities that count for a declared package. -/
def identities (providers : Providers) (package : Package) : List Identity :=
  identitiesOf (package.candidates providers)

/-- Whether the identities of a declared package are installed, under a rule. -/
def isSatisfied (rule : MatchRule) (inventory : Inventory) (providers : Providers)
    (package : Package) : Bool :=
  match rule with
  | .all => (package.identities providers).all (·.isInstalled inventory)
  | .any => (package.identities providers).any (·.isInstalled inventory)

end Package

end FleetPlan
