import FleetPlan.Package.Goal

/-!
# Inventories that move one way

A goal that asks for presence only ever records packages, and a goal that asks
for absence only ever removes them. `Inventory.MovesToward` says both at once:
what is already as wanted stays so. A goal leaves nothing pending behind
(`PackageGoal.pending_inventoryAfter`), and as long as the inventory moves the
same way nothing becomes pending again
(`PackageGoal.pending_eq_nil_of_movesToward`).
-/

namespace FleetPlan

namespace Inventory

/-- Whatever is installed, or not installed, as wanted before is so after. -/
def MovesToward (present : Bool) (before after : Inventory) : Prop :=
  ∀ name version, before.has name version = present → after.has name version = present

/-- An inventory that stays as it is moves either way. -/
theorem MovesToward.refl (present : Bool) (inventory : Inventory) :
    MovesToward present inventory inventory :=
  fun _ _ asWanted => asWanted

/-- Moves of one direction compose. -/
theorem MovesToward.trans {present : Bool} {before between after : Inventory}
    (first : MovesToward present before between) (second : MovesToward present between after) :
    MovesToward present before after :=
  fun name version asWanted => second name version (first name version asWanted)

/-- Recording a package moves toward presence. -/
theorem movesToward_record (inventory : Inventory) (name : String) (version : Option String) :
    MovesToward true inventory (inventory.record name version) :=
  fun _ _ installed => has_record_iff.mpr (Or.inr installed)

/-- Removing a package moves toward absence. -/
theorem movesToward_remove (inventory : Inventory) (name : String) :
    MovesToward false inventory (inventory.remove name) := by
  intro wanted asked absent
  rw [Bool.eq_false_iff] at absent ⊢
  intro installed
  exact absent (has_remove_iff.mp installed).2

end Inventory

namespace Package

/-- An identity without versions is installed exactly if its name is. -/
theorem Identity.isInstalled_of_isEmpty {identity : Identity} (inventory : Inventory)
    (unversioned : identity.versions.isEmpty = true) :
    identity.isInstalled inventory = inventory.has identity.name none := by
  rw [isInstalled, if_pos unversioned, Inventory.contains_eq_has]

/-- An identity with versions is installed exactly if one of them is. -/
theorem Identity.isInstalled_iff {identity : Identity} {inventory : Inventory}
    (versioned : ¬ identity.versions.isEmpty = true) :
    identity.isInstalled inventory = true ↔
      ∃ version ∈ identity.versions.elements,
        inventory.has identity.name (some version) = true := by
  rw [isInstalled, if_neg versioned, List.any_eq_true]

/-- An identity that is installed, or not installed, as wanted stays so while the inventory moves
that way. -/
theorem Identity.isInstalled_of_movesToward {present : Bool} {before after : Inventory}
    (moves : before.MovesToward present after) {identity : Identity}
    (asWanted : identity.isInstalled before = present) :
    identity.isInstalled after = present := by
  by_cases unversioned : identity.versions.isEmpty = true
  · rw [isInstalled_of_isEmpty _ unversioned] at asWanted ⊢
    exact moves identity.name none asWanted
  · cases present with
    | true =>
      obtain ⟨version, member, installed⟩ := (isInstalled_iff unversioned).mp asWanted
      exact (isInstalled_iff unversioned).mpr
        ⟨version, member, moves identity.name (some version) installed⟩
    | false =>
      rw [Bool.eq_false_iff] at asWanted ⊢
      intro installed
      obtain ⟨version, member, found⟩ := (isInstalled_iff unversioned).mp installed
      have absent : before.has identity.name (some version) = false := by
        rw [Bool.eq_false_iff]
        exact fun earlier => asWanted ((isInstalled_iff unversioned).mpr ⟨version, member, earlier⟩)
      rw [moves identity.name (some version) absent] at found
      exact Bool.false_ne_true found

end Package

namespace PackageGoal

/-- Recording versions of one name one by one moves toward presence. -/
theorem movesToward_foldl_record (name : String) (versions : List String)
    (inventory : Inventory) :
    inventory.MovesToward true
      (versions.foldl (fun inventory version => inventory.record name (some version))
        inventory) := by
  induction versions generalizing inventory with
  | nil => exact .refl true inventory
  | cons version versions inductionHypothesis =>
    have recorded := inventory.movesToward_record name (some version)
    exact recorded.trans (inductionHypothesis (inventory.record name (some version)))

/-- Recording an identity moves toward presence. -/
theorem movesToward_recordIdentity (inventory : Inventory) (identity : Package.Identity) :
    inventory.MovesToward true (recordIdentity inventory identity) := by
  unfold recordIdentity
  split
  · split
    · exact .refl true inventory
    · exact inventory.movesToward_record identity.name none
  · exact movesToward_foldl_record identity.name identity.versions.elements inventory

/-- An identity that was recorded is installed. -/
theorem isInstalled_recordIdentity (inventory : Inventory) (identity : Package.Identity) :
    identity.isInstalled (recordIdentity inventory identity) = true := by
  by_cases unversioned : identity.versions.isEmpty = true
  · rw [Package.Identity.isInstalled_of_isEmpty _ unversioned, recordIdentity, if_pos unversioned]
    split
    · next contained => rwa [Inventory.contains_eq_has] at contained
    · exact Inventory.has_record_iff.mpr (Or.inl ⟨rfl, by simp⟩)
  · rw [Package.Identity.isInstalled_iff unversioned, recordIdentity, if_neg unversioned]
    -- The first version is recorded first, and the others keep it.
    cases versions : identity.versions.elements with
    | nil => exact absurd (by simp [SortedSet.isEmpty, versions]) unversioned
    | cons version rest =>
      refine ⟨version, List.mem_cons_self .., ?_⟩
      have recorded : (inventory.record identity.name (some version)).has identity.name
          (some version) = true :=
        Inventory.has_record_iff.mpr (Or.inl ⟨rfl, by simp⟩)
      exact movesToward_foldl_record identity.name rest _ _ _ recorded

/-- An identity whose name was removed is not installed. -/
theorem isInstalled_remove (inventory : Inventory) (identity : Package.Identity) :
    identity.isInstalled (inventory.remove identity.name) = false := by
  have gone : ∀ version, (inventory.remove identity.name).has identity.name version = false := by
    intro version
    rw [Bool.eq_false_iff]
    exact fun installed => (Inventory.has_remove_iff.mp installed).1 rfl
  by_cases unversioned : identity.versions.isEmpty = true
  · rw [Package.Identity.isInstalled_of_isEmpty _ unversioned]
    exact gone none
  · rw [Bool.eq_false_iff]
    intro installed
    obtain ⟨version, _, found⟩ := (Package.Identity.isInstalled_iff unversioned).mp installed
    rw [gone (some version)] at found
    exact Bool.false_ne_true found

variable (goal : PackageGoal) (providers : Providers)

/-- Carrying out a goal on an identity moves the inventory the way of the goal. -/
theorem movesToward_apply (inventory : Inventory) (identity : Package.Identity) :
    inventory.MovesToward goal.present (goal.apply inventory identity) := by
  cases wanted : goal.present with
  | true => simpa [apply, wanted] using movesToward_recordIdentity inventory identity
  | false => simpa [apply, wanted] using inventory.movesToward_remove identity.name

/-- An identity that a goal was carried out on is as wanted. -/
theorem isInstalled_apply (inventory : Inventory) (identity : Package.Identity) :
    identity.isInstalled (goal.apply inventory identity) = goal.present := by
  cases wanted : goal.present with
  | true => simpa [apply, wanted] using isInstalled_recordIdentity inventory identity
  | false => simpa [apply, wanted] using isInstalled_remove inventory identity

/-- Carrying out a goal on several identities moves the inventory the way of the goal. -/
theorem movesToward_foldl_apply (identities : List Package.Identity) (inventory : Inventory) :
    inventory.MovesToward goal.present (identities.foldl goal.apply inventory) := by
  induction identities generalizing inventory with
  | nil => exact .refl goal.present inventory
  | cons identity identities inductionHypothesis =>
    have first := goal.movesToward_apply inventory identity
    exact first.trans (inductionHypothesis (goal.apply inventory identity))

/-- Each of several identities that a goal was carried out on is as wanted in the end. -/
theorem isInstalled_foldl_apply {identities : List Package.Identity} {identity : Package.Identity}
    (member : identity ∈ identities) (inventory : Inventory) :
    identity.isInstalled (identities.foldl goal.apply inventory) = goal.present := by
  induction identities generalizing inventory with
  | nil => exact absurd member List.not_mem_nil
  | cons first rest inductionHypothesis =>
    rw [List.foldl_cons]
    rcases List.mem_cons.mp member with rfl | later
    · have moves := goal.movesToward_foldl_apply rest (goal.apply inventory identity)
      exact Package.Identity.isInstalled_of_movesToward moves
        (goal.isInstalled_apply inventory identity)
    · exact inductionHypothesis later (goal.apply inventory first)

/-- A package is not pending exactly if each of its identities is as wanted. -/
theorem isPending_eq_false_iff {inventory : Inventory} {package : Package} :
    goal.isPending inventory providers package = false ↔
      ∀ identity ∈ package.identities providers, identity.isInstalled inventory = goal.present := by
  cases wanted : goal.present <;>
    simp [isPending, rule, wanted, Package.isSatisfied]

/-- Nothing is pending exactly if each identity of each package is as wanted. -/
theorem pending_eq_nil_iff {inventory : Inventory} :
    goal.pending inventory providers = [] ↔
      ∀ package ∈ goal.packages, ∀ identity ∈ package.identities providers,
        identity.isInstalled inventory = goal.present := by
  rw [pending, List.filter_eq_nil_iff]
  constructor
  · intro settled package declared
    exact (goal.isPending_eq_false_iff providers).mp
      (Bool.eq_false_iff.mpr (settled package declared))
  · intro asWanted package declared
    exact Bool.eq_false_iff.mp
      ((goal.isPending_eq_false_iff providers).mpr (asWanted package declared))

/-- A goal moves the inventory its own way. -/
theorem movesToward_inventoryAfter (inventory : Inventory) :
    inventory.MovesToward goal.present (goal.inventoryAfter inventory providers) :=
  goal.movesToward_foldl_apply _ inventory

/-- Nothing is pending once a goal was planned. -/
theorem pending_inventoryAfter (inventory : Inventory) :
    goal.pending (goal.inventoryAfter inventory providers) providers = [] := by
  rw [pending_eq_nil_iff]
  intro package declared identity counted
  cases waiting : goal.isPending inventory providers package with
  | true =>
    have planned : identity ∈
        (goal.pending inventory providers).flatMap (Package.identities providers) :=
      List.mem_flatMap.mpr ⟨package, List.mem_filter.mpr ⟨declared, waiting⟩, counted⟩
    exact goal.isInstalled_foldl_apply planned inventory
  | false =>
    have asWanted := (goal.isPending_eq_false_iff providers).mp waiting identity counted
    exact Package.Identity.isInstalled_of_movesToward
      (goal.movesToward_inventoryAfter providers inventory) asWanted

/-- Nothing becomes pending while the inventory moves the way of the goal. -/
theorem pending_eq_nil_of_movesToward {before after : Inventory}
    (moves : before.MovesToward goal.present after)
    (settled : goal.pending before providers = []) : goal.pending after providers = [] := by
  rw [pending_eq_nil_iff] at settled ⊢
  intro package declared identity counted
  exact Package.Identity.isInstalled_of_movesToward moves
    (settled package declared identity counted)

/-- A goal with nothing pending plans at most an upgrade. -/
theorem commands_reconcile_of_pending_eq_nil (verbs : PackageVerbs) {inventory : Inventory}
    (settled : goal.pending inventory providers = []) :
    (goal.reconcile verbs providers inventory).1.commands =
      (goal.upgradeCommand? verbs inventory providers).toList := by
  simp [reconcile, command?, settled]

/-- A goal with nothing pending leaves the inventory as it is. -/
theorem inventoryAfter_of_pending_eq_nil {inventory : Inventory}
    (settled : goal.pending inventory providers = []) :
    goal.inventoryAfter inventory providers = inventory := by
  simp [inventoryAfter, settled]

end PackageGoal

end FleetPlan
