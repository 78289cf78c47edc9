import FleetPlan.Proofs.Package.OneWay
import FleetPlan.Rpm

/-!
# Package files that are as wanted

A package file is settled when the package that it is known to hold is installed,
or not installed, as wanted. Planning a file settles it
(`RpmGoal.isSettled_of_reconcile`), and a settled file changes no inventory: what
is still planned for it is the download, and the host's own check where the file
cannot be looked into (`RpmGoal.reconcile_of_isSettled`).
-/

namespace FleetPlan.RpmGoal

variable (goal : RpmGoal) (temporaryPath : String) (facts : Facts) (files : FileWork)

/-- Planning succeeds exactly if the file can be fetched and asked for its package. -/
theorem reconcile_eq_ok_iff {inventory after : Inventory} {outcome : Outcome} :
    goal.reconcile temporaryPath facts files inventory = .ok (outcome, after) ↔
      ∃ fetched path info, goal.fetch temporaryPath files = .ok (fetched, path) ∧
        facts.rpmPackage path = .ok info ∧
        outcome = fetched ++ (goal.settle path info inventory).1 ∧
        after = (goal.settle path info inventory).2 := by
  unfold reconcile
  constructor
  · intro planned
    obtain ⟨⟨fetched, path⟩, fetching, planned⟩ := exists_of_bind_eq_ok planned
    obtain ⟨info, asked, planned⟩ := exists_of_bind_eq_ok planned
    cases planned
    exact ⟨fetched, path, info, fetching, asked, rfl, rfl⟩
  · rintro ⟨fetched, path, info, fetching, asked, rfl, rfl⟩
    simp [fetching, asked, bind, Except.bind, pure, Except.pure]

/-- The package that the file is known to hold, if any, is as wanted. -/
def IsSettled (inventory : Inventory) : Prop :=
  ∀ fetched path info, goal.fetch temporaryPath files = .ok (fetched, path) →
    facts.rpmPackage path = .ok (some info) →
      inventory.has info.name (some info.version) = goal.present

/-- The commands of a file that is settled: the download, and the check on the host where it is not
known which package the file holds. -/
def checkCommands : List String :=
  match goal.fetch temporaryPath files with
  | .error _ => []
  | .ok (fetched, path) =>
    match facts.rpmPackage path with
    | .error _ => []
    | .ok (some _) => fetched.commands
    | .ok none => fetched.commands ++ if goal.present then [guardedCommand path] else []

/-- A file whose package is not known leaves the inventory as it is. -/
theorem inventory_settle_none (path : String) (inventory : Inventory) :
    (goal.settle path none inventory).2 = inventory := by
  unfold settle
  cases goal.present <;> rfl

/-- A file whose package is known changes the inventory where the package is not as wanted. -/
theorem inventory_settle_some (path : String) (info : RpmInfo) (inventory : Inventory) :
    (goal.settle path (some info) inventory).2 =
      if inventory.has info.name (some info.version) = goal.present then inventory
      else if goal.present then inventory.record info.name (some info.version)
      else inventory.remove info.name := by
  simp only [settle]
  cases goal.present <;> cases inventory.has info.name (some info.version) <;> rfl

/-- Whatever is planned for a file moves the inventory the way of the goal. -/
theorem movesToward_settle (path : String) (info : Option RpmInfo) (inventory : Inventory) :
    inventory.MovesToward goal.present (goal.settle path info inventory).2 := by
  cases info with
  | none =>
    rw [inventory_settle_none]
    exact .refl goal.present inventory
  | some info =>
    rw [inventory_settle_some]
    split
    · exact .refl goal.present inventory
    · cases goal.present with
      | true => exact inventory.movesToward_record info.name (some info.version)
      | false => exact inventory.movesToward_remove info.name

/-- Once a file was planned, its package is as wanted. -/
theorem has_settle (path : String) (info : RpmInfo) (inventory : Inventory) :
    (goal.settle path (some info) inventory).2.has info.name (some info.version) =
      goal.present := by
  rw [inventory_settle_some]
  split
  · next asWanted => exact asWanted
  · cases goal.present with
    | true => exact Inventory.has_record_iff.mpr (Or.inl ⟨rfl, by simp⟩)
    | false =>
      refine Bool.eq_false_iff.mpr fun installed => ?_
      exact (Inventory.has_remove_iff.mp installed).1 rfl

variable {goal temporaryPath facts files}

/-- A file that was planned moves the inventory the way of the goal. -/
theorem movesToward_of_reconcile {inventory after : Inventory} {outcome : Outcome}
    (planned : goal.reconcile temporaryPath facts files inventory = .ok (outcome, after)) :
    inventory.MovesToward goal.present after := by
  obtain ⟨_, path, info, _, _, _, rfl⟩ :=
    (goal.reconcile_eq_ok_iff temporaryPath facts files).mp planned
  exact goal.movesToward_settle path info inventory

/-- A file that was planned is settled. -/
theorem isSettled_of_reconcile {inventory after : Inventory} {outcome : Outcome}
    (planned : goal.reconcile temporaryPath facts files inventory = .ok (outcome, after)) :
    goal.IsSettled temporaryPath facts files after := by
  obtain ⟨fetched, path, info, fetching, asked, _, rfl⟩ :=
    (goal.reconcile_eq_ok_iff temporaryPath facts files).mp planned
  intro fetchedAgain pathAgain known fetchingAgain askedAgain
  rw [fetching, Except.ok.injEq, Prod.mk.injEq] at fetchingAgain
  obtain ⟨rfl, rfl⟩ := fetchingAgain
  rw [asked, Except.ok.injEq] at askedAgain
  subst askedAgain
  exact goal.has_settle path known inventory

/-- A file that cannot be planned is not known to hold a package. -/
theorem isSettled_of_error {inventory : Inventory} {failure : ReconcileError}
    (failed : goal.reconcile temporaryPath facts files inventory = .error failure) :
    goal.IsSettled temporaryPath facts files inventory := by
  intro fetched path info fetching asked
  have planned : goal.reconcile temporaryPath facts files inventory = .ok _ :=
    (goal.reconcile_eq_ok_iff temporaryPath facts files).mpr
      ⟨fetched, path, some info, fetching, asked, rfl, rfl⟩
  rw [failed] at planned
  cases planned

/-- Nothing is planned for a file that cannot be planned. -/
theorem checkCommands_of_error {inventory : Inventory} {failure : ReconcileError}
    (failed : goal.reconcile temporaryPath facts files inventory = .error failure) :
    goal.checkCommands temporaryPath facts files = [] := by
  cases fetching : goal.fetch temporaryPath files with
  | error cause => rw [checkCommands, fetching]
  | ok found =>
    obtain ⟨fetched, path⟩ := found
    cases asked : facts.rpmPackage path with
    | error cause => simp only [checkCommands, fetching, asked]
    | ok info =>
      have planned : goal.reconcile temporaryPath facts files inventory = .ok _ :=
        (goal.reconcile_eq_ok_iff temporaryPath facts files).mpr
          ⟨fetched, path, info, fetching, asked, rfl, rfl⟩
      rw [failed] at planned
      cases planned

/-- A settled file stays settled while the inventory moves the way of the goal. -/
theorem IsSettled.of_movesToward {before after : Inventory}
    (settled : goal.IsSettled temporaryPath facts files before)
    (moves : before.MovesToward goal.present after) :
    goal.IsSettled temporaryPath facts files after :=
  fun fetched path info fetching asked =>
    moves info.name (some info.version) (settled fetched path info fetching asked)

/-- A settled file that is planned again leaves the inventory as it is. -/
theorem reconcile_of_isSettled {inventory after : Inventory} {outcome : Outcome}
    (settled : goal.IsSettled temporaryPath facts files inventory)
    (planned : goal.reconcile temporaryPath facts files inventory = .ok (outcome, after)) :
    outcome.commands = goal.checkCommands temporaryPath facts files ∧ after = inventory := by
  obtain ⟨fetched, path, info, fetching, asked, rfl, rfl⟩ :=
    (goal.reconcile_eq_ok_iff temporaryPath facts files).mp planned
  rw [checkCommands, fetching, Outcome.commands_append]
  cases info with
  | none =>
    simp only [asked, settle]
    cases goal.present <;> simp [Outcome.ofCommand, Outcome.ofObservation]
  | some info =>
    have asWanted := settled fetched path info fetching asked
    simp only [asked, settle, asWanted]
    cases goal.present <;> simp [Outcome.ofObservation]

end FleetPlan.RpmGoal
