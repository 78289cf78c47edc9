import FleetPlan.Proofs.Package.Opposites

/-!
# Packages that stand for themselves

A package without providers is matched by its own name and version. What is pending
for such packages is read off the inventory (`PackageGoal.isPending_of_unexpanded`),
and so is what a request for them plans, where all of them are installed
(`PackageGoal.requests_of_installed`) and where none is
(`PackageGoal.requests_of_absent`). Goals on identities of other names keep what is
known of a package (`PackageGoal.has_inventoryAfter`).
-/

namespace FleetPlan

namespace Inventory

variable {inventory : Inventory} {name other : String} {asked : Option String}

/-- A package that is not installed is not installed at any version. -/
theorem has_eq_false_of_contains (absent : inventory.contains name = false) :
    inventory.has name asked = false := by
  unfold contains SortedMap.contains at absent
  unfold has
  cases recorded : inventory.versions.get? name with
  | none => rfl
  | some versions => simp [recorded] at absent

/-- A package that is installed at a version is installed. -/
theorem has_none_of_has (installed : inventory.has name asked = true) :
    inventory.has name none = true := by
  rw [← contains_eq_has]
  cases contained : inventory.contains name with
  | true => rfl
  | false => exact (has_eq_false_of_contains contained).symm.trans installed

/-- Recording another package keeps what is known of a package. -/
theorem has_record_of_ne (different : other ≠ name) (version : Option String) :
    (inventory.record other version).has name asked = inventory.has name asked := by
  have same : (inventory.record other version).has name asked = true ↔
      inventory.has name asked = true := by
    rw [has_record_iff]
    exact or_iff_right fun here => different here.1
  exact Bool.eq_iff_iff.mpr same

/-- Removing another package keeps what is known of a package. -/
theorem has_remove_of_ne (different : other ≠ name) :
    (inventory.remove other).has name asked = inventory.has name asked := by
  have same : (inventory.remove other).has name asked = true ↔
      inventory.has name asked = true := by
    rw [has_remove_iff]
    exact and_iff_right different
  exact Bool.eq_iff_iff.mpr same

end Inventory

namespace PackageGoal

variable (goal : PackageGoal) {name : String} {asked : Option String}

/-- Recording an identity of another name keeps what is known of a package. -/
theorem has_recordIdentity {identity : Package.Identity} (different : identity.name ≠ name)
    (inventory : Inventory) :
    (recordIdentity inventory identity).has name asked = inventory.has name asked := by
  unfold recordIdentity
  split
  · split
    · rfl
    · exact Inventory.has_record_of_ne different none
  · induction identity.versions.elements generalizing inventory with
    | nil => rfl
    | cons version versions inductionHypothesis =>
      rw [List.foldl_cons, inductionHypothesis]
      exact Inventory.has_record_of_ne different (some version)

/-- Carrying out a goal on identities of other names keeps what is known of a package. -/
theorem has_foldl_apply {identities : List Package.Identity}
    (different : ∀ identity ∈ identities, identity.name ≠ name) (inventory : Inventory) :
    (identities.foldl goal.apply inventory).has name asked = inventory.has name asked := by
  induction identities generalizing inventory with
  | nil => rfl
  | cons identity identities inductionHypothesis =>
    obtain ⟨here, others⟩ := List.forall_mem_cons.mp different
    rw [List.foldl_cons, inductionHypothesis others]
    unfold apply
    split
    · exact has_recordIdentity here inventory
    · exact Inventory.has_remove_of_ne here

/-- A goal on packages of other names keeps what is known of a package. -/
theorem has_inventoryAfter {providers : Providers}
    (different : ∀ package ∈ goal.packages, ∀ identity ∈ package.identities providers,
      identity.name ≠ name) (inventory : Inventory) :
    (goal.inventoryAfter inventory providers).has name asked = inventory.has name asked := by
  refine goal.has_foldl_apply ?_ inventory
  intro identity member
  obtain ⟨package, waiting, counted⟩ := List.mem_flatMap.mp member
  exact different package (List.mem_filter.mp waiting).1 identity counted

end PackageGoal

namespace Package

variable {package : Package} {providers : Providers}

/-- A package that stands for itself has one identity, at its own version. -/
theorem identities_of_unexpanded (unexpanded : providers package.name = []) :
    package.identities providers =
      [(Identity.mk package.name .empty).add package.version] := by
  simp [identities, candidates, unexpanded, identitiesOf, addCandidate]

/-- An identity keeps its name when a version is added. -/
theorem Identity.name_add (identity : Identity) (version : Option String) :
    (identity.add version).name = identity.name := by
  cases version <;> rfl

/-- An identity of one candidate is installed where the candidate is. -/
theorem Identity.isInstalled_add (name : String) (version : Option String)
    (inventory : Inventory) :
    ((Identity.mk name .empty).add version).isInstalled inventory = inventory.has name version := by
  cases version with
  | none => exact inventory.contains_eq_has name
  | some version => simp [Identity.add, isInstalled, SortedSet.insert, SortedSet.insertIn,
      SortedSet.empty, SortedSet.isEmpty]

end Package

namespace PackageGoal

variable (goal : PackageGoal) {providers : Providers} {inventory : Inventory}

/-- Nothing is upgraded for a goal of absence. -/
theorem upgradeCommand?_of_absent (verbs : PackageVerbs) (absent : goal.present = false) :
    goal.upgradeCommand? verbs inventory providers = none := by
  have nothing : goal.upgradable inventory providers = [] := by simp [upgradable, absent]
  unfold upgradeCommand?
  rw [nothing]
  cases goal.latest <;> cases verbs.upgrade <;> rfl

/-- A package that stands for itself is pending where the inventory does not have it as wanted. -/
theorem isPending_of_unexpanded {package : Package} (unexpanded : providers package.name = []) :
    goal.isPending inventory providers package =
      (inventory.has package.name package.version != goal.present) := by
  have one : package.isSatisfied goal.rule inventory providers =
      inventory.has package.name package.version := by
    unfold Package.isSatisfied
    rw [Package.identities_of_unexpanded unexpanded]
    cases goal.rule <;> simp [Package.Identity.isInstalled_add]
  rw [isPending, one]

/-- Nothing is pending where the inventory has all packages as wanted. -/
theorem pending_eq_nil_of_has
    (unexpanded : ∀ package ∈ goal.packages, providers package.name = [])
    (asWanted : ∀ package ∈ goal.packages,
      inventory.has package.name package.version = goal.present) :
    goal.pending inventory providers = [] := by
  rw [pending, List.filter_eq_nil_iff]
  intro package declared
  rw [goal.isPending_of_unexpanded (unexpanded package declared), asWanted package declared]
  simp

/-- All packages are pending where the inventory has none of them as wanted. -/
theorem pending_eq_packages_of_has
    (unexpanded : ∀ package ∈ goal.packages, providers package.name = [])
    (otherwise : ∀ package ∈ goal.packages,
      inventory.has package.name package.version = !goal.present) :
    goal.pending inventory providers = goal.packages := by
  rw [pending, List.filter_eq_self]
  intro package declared
  rw [goal.isPending_of_unexpanded (unexpanded package declared), otherwise package declared]
  simp

/-- A package that stands for itself is not installed any more once a goal of absence, for which all
packages were pending, was planned. -/
theorem has_inventoryAfter_of_absent (absent : goal.present = false)
    (pending : goal.pending inventory providers = goal.packages) {package : Package}
    (declared : package ∈ goal.packages) (unexpanded : providers package.name = [])
    (asked : Option String) :
    (goal.inventoryAfter inventory providers).has package.name asked = false := by
  have counted : (Package.Identity.mk package.name .empty).add package.version ∈
      package.identities providers := by
    rw [Package.identities_of_unexpanded unexpanded]
    exact List.mem_singleton.mpr rfl
  have removed := contains_inventoryAfter providers absent pending declared counted
  rw [Package.Identity.name_add] at removed
  exact Inventory.has_eq_false_of_contains removed

variable {packages : List Package} (verbs : PackageVerbs) (latest : Bool)

/-- Where packages are installed, asking for presence needs at most an upgrade, and asking for absence
removes all of them. -/
theorem requests_of_installed
    (unexpanded : ∀ package ∈ packages, providers package.name = [])
    (installed : ∀ package ∈ packages, inventory.has package.name package.version = true) :
    let presence := PackageGoal.mk packages true latest
    let removal := (PackageGoal.mk packages false latest).reconcile verbs providers inventory
    (presence.reconcile verbs providers inventory).1.commands =
        (presence.upgradeCommand? verbs inventory providers).toList ∧
      (packages ≠ [] → removal.1.commands =
        [verbs.uninstall ++ " " ++ Shell.join (packages.map (Package.token verbs.separator))]) ∧
      ∀ package ∈ packages, ∀ asked, removal.2.has package.name asked = false := by
  intro presence removal
  have settled := presence.pending_eq_nil_of_has unexpanded installed
  have waiting := (PackageGoal.mk packages false latest).pending_eq_packages_of_has unexpanded
    installed
  refine ⟨presence.commands_reconcile_of_pending_eq_nil providers verbs settled, ?_, ?_⟩
  · intro nonempty
    exact commands_reconcile_of_pending_eq_packages verbs providers nonempty waiting
  · intro package declared asked
    exact has_inventoryAfter_of_absent _ rfl waiting declared (unexpanded package declared) asked

/-- Where packages are not installed, asking for presence installs all of them, and asking for absence
needs no command. -/
theorem requests_of_absent
    (unexpanded : ∀ package ∈ packages, providers package.name = [])
    (absent : ∀ package ∈ packages, inventory.has package.name package.version = false) :
    (packages ≠ [] →
      ((PackageGoal.mk packages true latest).reconcile verbs providers inventory).1.commands =
        [verbs.install ++ " " ++ Shell.join (packages.map (Package.token verbs.separator))]) ∧
      ((PackageGoal.mk packages false latest).reconcile verbs providers inventory).1.commands =
        [] := by
  have waiting := (PackageGoal.mk packages true latest).pending_eq_packages_of_has unexpanded absent
  have settled := (PackageGoal.mk packages false latest).pending_eq_nil_of_has unexpanded absent
  constructor
  · intro nonempty
    exact commands_reconcile_of_pending_eq_packages verbs providers nonempty waiting
  · have commands := commands_reconcile_of_pending_eq_nil _ providers verbs settled
    rw [upgradeCommand?_of_absent _ verbs rfl] at commands
    exact commands

end PackageGoal

end FleetPlan
