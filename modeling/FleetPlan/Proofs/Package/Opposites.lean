import FleetPlan.Proofs.Package.OneWay

/-!
# Presence and absence of packages

To be present takes every identity of a package and to be absent none, and every
package has at least one (`Package.identities_ne_nil`). So a package that is as one
goal wants it is pending for the opposite goal
(`PackageGoal.isPending_of_opposite`), and after a goal was planned the opposite
goal lists all packages in its one command (`PackageGoal.commands_opposites`).
-/

namespace FleetPlan

namespace Package

/-- A candidate is not lost when it is added. -/
theorem addCandidate_ne_nil (candidate : Package) (identities : List Identity) :
    addCandidate candidate identities ≠ [] := by
  cases identities with
  | nil => exact List.cons_ne_nil _ _
  | cons identity rest =>
    unfold addCandidate
    split
    · exact List.cons_ne_nil _ _
    · exact List.cons_ne_nil _ _

/-- Every package has something that counts for it. -/
theorem candidates_ne_nil (providers : Providers) (package : Package) :
    package.candidates providers ≠ [] := by
  unfold candidates
  split
  · exact List.cons_ne_nil _ _
  · next provided => exact provided

/-- Every package has an identity. -/
theorem identities_ne_nil (providers : Providers) (package : Package) :
    package.identities providers ≠ [] := by
  have counted := package.candidates_ne_nil providers
  rw [identities, ← List.dropLast_concat_getLast counted, identitiesOf_concat]
  exact addCandidate_ne_nil _ _

/-- A package all of whose identities are installed has one that is. -/
theorem isSatisfied_any_of_all {inventory : Inventory} {providers : Providers} {package : Package}
    (all : package.isSatisfied .all inventory providers = true) :
    package.isSatisfied .any inventory providers = true := by
  obtain ⟨identity, counted⟩ := List.exists_mem_of_ne_nil _ (package.identities_ne_nil providers)
  have installed := List.all_eq_true.mp all identity counted
  exact List.any_eq_true.mpr ⟨identity, counted, installed⟩

end Package

namespace PackageGoal

variable {goal opposite : PackageGoal} (verbs : PackageVerbs) (providers : Providers)

/-- The line of the command that installs or removes some packages. -/
def line (goal : PackageGoal) (verbs : PackageVerbs) (packages : List Package) : String :=
  (if goal.present then verbs.install else verbs.uninstall) ++ " " ++
    Shell.join (packages.map (Package.token verbs.separator))

/-- A package that is as one goal wants it is pending for the opposite goal. -/
theorem isPending_of_opposite (opposed : opposite.present = !goal.present) {inventory : Inventory}
    {package : Package} (asWanted : goal.isPending inventory providers package = false) :
    opposite.isPending inventory providers package = true := by
  rw [isPending_eq_false_iff] at asWanted
  obtain ⟨identity, counted⟩ := List.exists_mem_of_ne_nil _ (package.identities_ne_nil providers)
  cases waiting : opposite.isPending inventory providers package with
  | true => rfl
  | false =>
    rw [isPending_eq_false_iff] at waiting
    have same := (asWanted identity counted).symm.trans (waiting identity counted)
    rw [opposed] at same
    cases wanted : goal.present <;> simp [wanted] at same

/-- Where nothing is pending for a goal, all packages are pending for the opposite goal. -/
theorem pending_of_opposite (opposed : opposite.present = !goal.present)
    (samePackages : opposite.packages = goal.packages) {inventory : Inventory}
    (settled : goal.pending inventory providers = []) :
    opposite.pending inventory providers = opposite.packages := by
  rw [pending, List.filter_eq_self]
  intro package declared
  rw [samePackages] at declared
  have asWanted := List.filter_eq_nil_iff.mp settled package declared
  rw [Bool.not_eq_true] at asWanted
  exact isPending_of_opposite providers opposed asWanted

/-- A goal for which all packages are pending plans one command, which lists them all. -/
theorem commands_reconcile_of_pending_eq_packages {inventory : Inventory}
    (nonempty : goal.packages ≠ []) (pending : goal.pending inventory providers = goal.packages) :
    (goal.reconcile verbs providers inventory).1.commands = [goal.line verbs goal.packages] := by
  have nothingSettled : goal.settled inventory providers = [] := by
    rw [settled, List.filter_eq_nil_iff]
    intro package declared
    have waiting := List.filter_eq_self.mp pending package declared
    simp [waiting]
  have noUpgrade : goal.upgradeCommand? verbs inventory providers = none := by
    have nothingToUpgrade : goal.upgradable inventory providers = [] := by
      simp [upgradable, nothingSettled]
    unfold upgradeCommand?
    rw [nothingToUpgrade]
    cases goal.latest <;> cases verbs.upgrade <;> rfl
  have oneCommand : goal.command? verbs inventory providers =
      some (goal.line verbs goal.packages) := by
    unfold command?
    rw [pending]
    cases listed : goal.packages with
    | nil => exact absurd listed nonempty
    | cons package packages => rfl
  simp [reconcile, oneCommand, noUpgrade]

/-- What a goal of absence was carried out on is not installed at any version. -/
theorem contains_foldl_apply (absent : goal.present = false) {identities : List Package.Identity}
    {identity : Package.Identity} (member : identity ∈ identities) (inventory : Inventory) :
    (identities.foldl goal.apply inventory).contains identity.name = false := by
  obtain ⟨front, back, rfl⟩ := List.append_of_mem member
  have removed : (goal.apply (front.foldl goal.apply inventory) identity).has identity.name none =
      false := by
    simp only [apply, absent, Bool.false_eq_true, if_false]
    rw [Bool.eq_false_iff]
    exact fun installed => (Inventory.has_remove_iff.mp installed).1 rfl
  have moves := goal.movesToward_foldl_apply back
    (goal.apply (front.foldl goal.apply inventory) identity)
  rw [absent] at moves
  rw [Inventory.contains_eq_has, List.foldl_append, List.foldl_cons]
  exact moves identity.name none removed

/-- After a goal of absence for which all packages were pending, nothing of them is installed. -/
theorem contains_inventoryAfter (absent : goal.present = false) {inventory : Inventory}
    (pending : goal.pending inventory providers = goal.packages) {package : Package}
    (declared : package ∈ goal.packages) {identity : Package.Identity}
    (counted : identity ∈ package.identities providers) :
    (goal.inventoryAfter inventory providers).contains identity.name = false := by
  rw [← pending] at declared
  exact contains_foldl_apply absent (List.mem_flatMap.mpr ⟨package, declared, counted⟩) inventory

/-- Presence and absence of packages are opposites.

Once packages were made present, making them absent takes one command that lists all of them, and
leaves no identity of any of them installed at whatever version. Once they were made absent, making
them present takes one command that lists all of them. No package counts as installed where it should
be present and as not installed where it should be absent. -/
theorem commands_opposites {packages : List Package} (nonempty : packages ≠ []) (verbs : PackageVerbs)
    (providers : Providers) (inventory : Inventory) (latest latestAgain : Bool) :
    let presence := PackageGoal.mk packages true latest
    let absence := PackageGoal.mk packages false latestAgain
    let tokens := packages.map (Package.token verbs.separator)
    let removal := absence.reconcile verbs providers (presence.reconcile verbs providers inventory).2
    let install := presence.reconcile verbs providers (absence.reconcile verbs providers inventory).2
    removal.1.commands = [verbs.uninstall ++ " " ++ Shell.join tokens] ∧
      (∀ package ∈ packages, ∀ identity ∈ package.identities providers,
        removal.2.contains identity.name = false) ∧
      install.1.commands = [verbs.install ++ " " ++ Shell.join tokens] ∧
      ∀ package : Package, ¬ (package.isSatisfied .all inventory providers = true ∧
        package.isSatisfied .any inventory providers = false) := by
  intro presence absence tokens removal install
  have opposed : absence.present = !presence.present := rfl
  have opposedToo : presence.present = !absence.present := rfl
  have allPresent := pending_of_opposite providers opposed rfl
    (presence.pending_inventoryAfter providers inventory)
  have allAbsent := pending_of_opposite providers opposedToo rfl
    (absence.pending_inventoryAfter providers inventory)
  have absent : absence.present = false := rfl
  refine ⟨?_, ?_, ?_, ?_⟩
  · exact commands_reconcile_of_pending_eq_packages verbs providers nonempty allPresent
  · intro package declared identity counted
    exact contains_inventoryAfter providers absent allPresent declared counted
  · exact commands_reconcile_of_pending_eq_packages verbs providers nonempty allAbsent
  · rintro package ⟨all, none⟩
    rw [Package.isSatisfied_any_of_all all] at none
    cases none

/-- Two capabilities of which one package is installed, at another version than one of them asks for.
-/
def editorProviders : Providers
  | "editor" => [⟨"vim", none⟩, ⟨"nano", some "7"⟩]
  | "pager" => [⟨"vim", some "9"⟩, ⟨"less", none⟩]
  | _ => []

/-- Packages that share an identity, one of them declared twice, are all removed and all installed. -/
theorem commands_opposites_editor :
    let packages : List Package := [⟨"editor", none⟩, ⟨"pager", none⟩, ⟨"editor", none⟩]
    let verbs := PackageManager.apk.verbs
    let inventory := Inventory.ofList [("vim", ["8"]), ("git", ["2"])]
    ((PackageGoal.mk packages false false).reconcile verbs editorProviders
        ((PackageGoal.mk packages true true).reconcile verbs editorProviders
          inventory).2).1.commands = ["apk del editor pager editor"] ∧
      ((PackageGoal.mk packages true true).reconcile verbs editorProviders
        ((PackageGoal.mk packages false false).reconcile verbs editorProviders
          inventory).2).1.commands = ["apk add editor pager editor"] := by
  intro packages verbs inventory
  have nonempty : packages ≠ [] := List.cons_ne_nil _ _
  obtain ⟨removal, -, install, -⟩ :=
    commands_opposites nonempty verbs editorProviders inventory true false
  have tokens : Shell.join (packages.map (Package.token verbs.separator)) =
      "editor pager editor" := by decide
  rw [removal, install, tokens]
  exact ⟨rfl, rfl⟩

end PackageGoal

end FleetPlan
