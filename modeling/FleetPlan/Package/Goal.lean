import FleetPlan.Outcome
import FleetPlan.Package.Manager
import FleetPlan.Package.Match
import FleetPlan.Shell

/-!
# Reconciling a set of packages

A package goal asks for packages to be present or absent. The packages that do
not match are `pending` and go into one command; the others are observed, and
those that match without a pinned version may be upgraded by a second command.
All matching looks at the inventory as it was before the goal; the effect of the
first command is then recorded, so asking again needs no such command.
-/

namespace FleetPlan

/-- Packages that should be present or absent. -/
structure PackageGoal where
  packages : List Package
  present : Bool
  /-- Bring packages that are installed and not pinned up to date. -/
  latest : Bool
  deriving DecidableEq, Repr, Inhabited

namespace PackageGoal

/-- A goal to have the packages of the written entries. -/
def ofEntries (verbs : PackageVerbs) (entries : List String) : PackageGoal :=
  ⟨entries.map (Package.ofEntry verbs.separator), true, false⟩

/-- Presence takes every identity of a package, absence is broken by one. -/
def rule (goal : PackageGoal) : Package.MatchRule :=
  if goal.present then .all else .any

/-- Whether a package has to be installed or removed. -/
def isPending (goal : PackageGoal) (inventory : Inventory) (providers : Providers)
    (package : Package) : Bool :=
  package.isSatisfied goal.rule inventory providers != goal.present

/-- The packages to install or remove, in the order they are declared. -/
def pending (goal : PackageGoal) (inventory : Inventory) (providers : Providers) : List Package :=
  goal.packages.filter (goal.isPending inventory providers)

/-- The packages that are as wanted, in the order they are declared. -/
def settled (goal : PackageGoal) (inventory : Inventory) (providers : Providers) : List Package :=
  goal.packages.filter fun package => !goal.isPending inventory providers package

/-- The command that installs or removes the pending packages, if there are any. -/
def command? (goal : PackageGoal) (verbs : PackageVerbs) (inventory : Inventory)
    (providers : Providers) : Option String :=
  match goal.pending inventory providers with
  | [] => none
  | pending =>
    let verb := if goal.present then verbs.install else verbs.uninstall
    some (verb ++ " " ++ Shell.join (pending.map (Package.token verbs.separator)))

/-- The installed packages that an upgrade brings up to date. -/
def upgradable (goal : PackageGoal) (inventory : Inventory) (providers : Providers) :
    List Package :=
  if goal.present then
    (goal.settled inventory providers).filter fun package => !package.isPinned
  else []

/-- The command that brings installed packages up to date, if it is asked for and there are any. -/
def upgradeCommand? (goal : PackageGoal) (verbs : PackageVerbs) (inventory : Inventory)
    (providers : Providers) : Option String :=
  match goal.latest, verbs.upgrade, goal.upgradable inventory providers with
  | true, some upgrade, first :: rest =>
    some (upgrade ++ " " ++ Shell.join ((first :: rest).map (·.name)))
  | _, _, _ => none

/-- What is reported of one package that is as wanted. A present package that is to be kept up to
date is not reported. -/
def observation? (goal : PackageGoal) (verbs : PackageVerbs) (inventory : Inventory)
    (package : Package) : Option Observation :=
  if goal.present then
    if goal.latest then none
    else some (.packageInstalled (package.token verbs.separator) (inventory.versionsOf package.name))
  else some (.packageNotInstalled (package.token verbs.separator))

/-- Record one identity as installed: at each of its versions, or at an unknown version if it lists
none and is not installed. -/
def recordIdentity (inventory : Inventory) (identity : Package.Identity) : Inventory :=
  if identity.versions.isEmpty then
    if inventory.contains identity.name then inventory
    else inventory.record identity.name none
  else
    identity.versions.elements.foldl
      (fun inventory version => inventory.record identity.name (some version)) inventory

/-- The inventory after an identity was installed or removed. -/
def apply (goal : PackageGoal) (inventory : Inventory) (identity : Package.Identity) : Inventory :=
  if goal.present then recordIdentity inventory identity else inventory.remove identity.name

/-- The inventory that the planned command leaves behind. -/
def inventoryAfter (goal : PackageGoal) (inventory : Inventory) (providers : Providers) :
    Inventory :=
  ((goal.pending inventory providers).flatMap (Package.identities providers)).foldl goal.apply
    inventory

/-- Plan the commands that bring an inventory to a goal, and predict the inventory they leave. -/
def reconcile (goal : PackageGoal) (verbs : PackageVerbs) (providers : Providers)
    (inventory : Inventory) : Outcome × Inventory :=
  (⟨(goal.command? verbs inventory providers).toList ++
      (goal.upgradeCommand? verbs inventory providers).toList,
    (goal.settled inventory providers).filterMap (goal.observation? verbs inventory)⟩,
    goal.inventoryAfter inventory providers)

end PackageGoal

end FleetPlan
