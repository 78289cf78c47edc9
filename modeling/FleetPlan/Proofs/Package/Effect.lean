import FleetPlan.Proofs.Package.StandAlone

/-!
# What a package goal leaves in the inventory

Recording identities adds their names and versions to an inventory and nothing else
(`Inventory.Gains`), but for the unknown version: it is recorded for a package that
was not installed and whose first identity lists no version. Removing identities
takes their names away and keeps all else (`Inventory.Loses`). A goal does the one or
the other to the identities of the packages in its command
(`PackageGoal.changes_exactly`), whatever that command looks like.
-/

namespace FleetPlan

namespace Package

variable {identity : Identity} {identities : List Identity} {name version : String}

/-- Some identity of a name lists a version. -/
def ListsVersion (identities : List Identity) (name version : String) : Prop :=
  ∃ identity ∈ identities, identity.name = name ∧ version ∈ identity.versions

/-- The first identity of a name lists no version. -/
def StartsUnversioned (identities : List Identity) (name : String) : Prop :=
  ∃ identity, identities.find? (fun identity => identity.name = name) = some identity ∧
    identity.versions.isEmpty = true

/-- The first of some identities lists its versions for its own name. -/
theorem listsVersion_cons :
    ListsVersion (identity :: identities) name version ↔
      identity.name = name ∧ version ∈ identity.versions ∨ ListsVersion identities name version := by
  simp [ListsVersion]

/-- The first of some identities is the first one of its own name. -/
theorem startsUnversioned_cons :
    StartsUnversioned (identity :: identities) name ↔
      if identity.name = name then identity.versions.isEmpty = true
      else StartsUnversioned identities name := by
  by_cases here : identity.name = name <;> simp [StartsUnversioned, here]

end Package

open Package (Identity ListsVersion StartsUnversioned)

namespace Inventory

variable {before after other : Inventory} {identities : List Identity}

/-- The versions of a package are those that it is installed at. -/
theorem mem_versionsOf_iff {inventory : Inventory} {name version : String} :
    version ∈ inventory.versionsOf name ↔ inventory.has name (some version) = true := by
  unfold versionsOf has
  cases inventory.versions.get? name with
  | none => simp [SortedSet.empty]
  | some versions => simp [SortedSet.contains, SortedSet.mem_def]

/-- Where the same is installed of a package, its versions are the same. -/
theorem versionsOf_congr {name : String}
    (same : ∀ asked, after.has name asked = before.has name asked) :
    after.versionsOf name = before.versionsOf name := by
  refine congrArg SortedSet.elements (SortedSet.ext_mem fun text => ?_)
  have here : after.has name (some text) = true ↔ before.has name (some text) = true := by
    rw [same]
  exact mem_versionsOf_iff.trans (here.trans mem_versionsOf_iff.symm)

/-- Two inventories in which the same is installed are the same. -/
theorem ext_has (same : ∀ name asked, before.has name asked = after.has name asked) :
    before = after := by
  obtain ⟨left⟩ := before
  obtain ⟨right⟩ := after
  refine congrArg Inventory.mk (SortedMap.ext_get? fun name => ?_)
  have here := same name
  unfold has at here
  cases leftFound : left.get? name with
  | none =>
    cases rightFound : right.get? name with
    | none => rfl
    | some versions => simpa [leftFound, rightFound] using here none
  | some leftVersions =>
    cases rightFound : right.get? name with
    | none => simpa [leftFound, rightFound] using here none
    | some rightVersions =>
      refine congrArg some (SortedSet.ext_mem fun text => ?_)
      simpa [leftFound, rightFound, SortedSet.contains] using here (some text)

/-- An inventory has what it had before and the identities, and nothing else. The unknown version is
new for a package that was not installed and whose first identity lists no version. -/
structure Gains (before : Inventory) (identities : List Identity) (after : Inventory) : Prop where
  contains_iff : ∀ name, after.contains name = true ↔
    before.contains name = true ∨ name ∈ identities.map Identity.name
  mem_versionsOf : ∀ name version, version ∈ after.versionsOf name ↔
    version ∈ before.versionsOf name ∨ ListsVersion identities name version ∨
      version = unknownVersion ∧ before.contains name = false ∧ StartsUnversioned identities name

/-- An inventory has what it had before without the names of the identities, and nothing else. -/
structure Loses (before : Inventory) (identities : List Identity) (after : Inventory) : Prop where
  contains_iff : ∀ name, after.contains name = true ↔
    before.contains name = true ∧ name ∉ identities.map Identity.name
  versionsOf_eq : ∀ name, after.contains name = true →
    after.versionsOf name = before.versionsOf name

/-- The order of the identities that are gained counts for the unknown version only. -/
theorem Gains.agree_of_perm {reordered : List Identity} (gains : before.Gains identities after)
    (otherGains : before.Gains reordered other) (order : reordered.Perm identities) :
    (∀ name, other.contains name = after.contains name) ∧
      ∀ name version, version ≠ unknownVersion →
        (version ∈ other.versionsOf name ↔ version ∈ after.versionsOf name) := by
  constructor
  · intro name
    rw [Bool.eq_iff_iff, otherGains.contains_iff, gains.contains_iff, (order.map _).mem_iff]
  · intro name version known
    have listed : ListsVersion reordered name version ↔ ListsVersion identities name version :=
      exists_congr fun identity => and_congr_left fun _ => order.mem_iff
    rw [otherGains.mem_versionsOf, gains.mem_versionsOf, listed]
    simp [known]

/-- The order of the identities that are lost does not count. -/
theorem Loses.eq_of_perm {reordered : List Identity} (loses : before.Loses identities after)
    (otherLoses : before.Loses reordered other) (order : reordered.Perm identities) :
    other = after := by
  have contained : ∀ name, other.contains name = after.contains name := by
    intro name
    rw [Bool.eq_iff_iff, otherLoses.contains_iff, loses.contains_iff, (order.map _).mem_iff]
  refine ext_has fun name asked => ?_
  cases found : after.contains name with
  | false =>
    rw [has_eq_false_of_contains found, has_eq_false_of_contains ((contained name).trans found)]
  | true =>
    have otherFound := (contained name).trans found
    cases asked with
    | none => rw [← contains_eq_has, ← contains_eq_has, contained]
    | some version =>
      rw [Bool.eq_iff_iff, ← mem_versionsOf_iff, ← mem_versionsOf_iff,
        loses.versionsOf_eq name found, otherLoses.versionsOf_eq name otherFound]

end Inventory

namespace PackageGoal

open Inventory (unknownVersion)

variable {identity : Identity} {identities : List Identity} {inventory : Inventory}
  {name : String} {asked : Option String}

/-- Recording versions of a package one by one installs exactly these, beside what was installed. -/
theorem has_foldl_record_iff {own : String} {versions : List String} :
    (versions.foldl (fun inventory version => inventory.record own (some version)) inventory).has
        name asked = true ↔
      inventory.has name asked = true ∨
        own = name ∧ versions ≠ [] ∧ ∀ text ∈ asked, text ∈ versions := by
  induction versions generalizing inventory with
  | nil => simp
  | cons version versions inductionHypothesis =>
    rw [List.foldl_cons, inductionHypothesis, Inventory.has_record_iff]
    cases asked with
    | none =>
      simp only [Option.not_mem_none, false_imp_iff, implies_true, and_true, ne_eq, reduceCtorEq,
        not_false_eq_true]
      constructor
      · rintro ((same | found) | ⟨same, -⟩)
        · exact Or.inr same
        · exact Or.inl found
        · exact Or.inr same
      · rintro (found | same)
        · exact Or.inl (Or.inr found)
        · exact Or.inl (Or.inl same)
    | some text =>
      simp only [Option.mem_some_iff, forall_eq', Option.getD_some, ne_eq, reduceCtorEq,
        not_false_eq_true, true_and, List.mem_cons]
      constructor
      · rintro ((⟨same, here⟩ | found) | ⟨same, -, later⟩)
        · exact Or.inr ⟨same, Or.inl here⟩
        · exact Or.inl found
        · exact Or.inr ⟨same, Or.inr later⟩
      · rintro (found | ⟨same, here | later⟩)
        · exact Or.inl (Or.inr found)
        · exact Or.inl (Or.inl ⟨same, here⟩)
        · exact Or.inr ⟨same, List.ne_nil_of_mem later, later⟩

/-- Recording an identity installs its name, at its versions or, if the name is new and it has none, at
the unknown version. -/
theorem has_recordIdentity_iff :
    (recordIdentity inventory identity).has name asked = true ↔
      inventory.has name asked = true ∨
        identity.name = name ∧ ∀ text ∈ asked, text ∈ identity.versions ∨
          text = unknownVersion ∧ inventory.contains name = false ∧
            identity.versions.isEmpty = true := by
  unfold recordIdentity
  split
  · next unversioned =>
    have unlisted : ∀ text, text ∉ identity.versions := by
      intro text listed
      rw [SortedSet.mem_def, List.isEmpty_iff.mp unversioned] at listed
      exact List.not_mem_nil listed
    split
    · next contained =>
      refine (or_iff_left_of_imp ?_).symm
      rintro ⟨rfl, alike⟩
      cases asked with
      | none => rwa [← Inventory.contains_eq_has]
      | some text => simp [unlisted, contained] at alike
    · next absent =>
      rw [Inventory.has_record_iff, or_comm]
      refine or_congr_right (and_congr_right fun same => ?_)
      subst same
      simp [unlisted, absent, unversioned]
  · next versioned =>
    have nonempty : identity.versions.elements ≠ [] := fun none =>
      versioned (List.isEmpty_iff.mpr none)
    rw [has_foldl_record_iff]
    simp [nonempty, versioned, SortedSet.mem_def]

/-- Recording identities one after the other adds them to an inventory. -/
theorem gains_foldl_recordIdentity (identities : List Identity) (before : Inventory) :
    before.Gains identities (identities.foldl recordIdentity before) := by
  induction identities generalizing before with
  | nil => exact ⟨fun _ => by simp, fun _ _ => by simp [ListsVersion, StartsUnversioned]⟩
  | cons identity identities inductionHypothesis =>
    obtain ⟨containsLater, versionsLater⟩ :=
      inductionHypothesis (recordIdentity before identity)
    have contained : ∀ name, (recordIdentity before identity).contains name = true ↔
        before.contains name = true ∨ identity.name = name := by
      intro name
      simp [Inventory.contains_eq_has, has_recordIdentity_iff]
    constructor
    · intro name
      rw [List.foldl_cons, containsLater, contained, List.map_cons, List.mem_cons, or_assoc,
        eq_comm (a := name)]
    · intro name version
      rw [List.foldl_cons, versionsLater, Inventory.mem_versionsOf_iff,
        Inventory.mem_versionsOf_iff, has_recordIdentity_iff, Package.listsVersion_cons,
        Package.startsUnversioned_cons]
      by_cases here : identity.name = name
      · -- The name is installed from here on, so only this identity decides on the unknown version.
        have installed := (contained name).mpr (Or.inr here)
        simp only [here, installed, if_true, Option.mem_some_iff, forall_eq']
        grind
      · have untouched : (recordIdentity before identity).contains name =
            before.contains name := by
          rw [Bool.eq_iff_iff, contained]
          exact or_iff_left here
        simp [here, untouched]

/-- Removing identities one after the other takes their names away and keeps all else. -/
theorem has_foldl_remove_iff :
    (identities.foldl (fun inventory identity => inventory.remove identity.name) inventory).has
        name asked = true ↔
      name ∉ identities.map Identity.name ∧ inventory.has name asked = true := by
  induction identities generalizing inventory with
  | nil => simp
  | cons identity identities inductionHypothesis =>
    rw [List.foldl_cons, inductionHypothesis, Inventory.has_remove_iff, List.map_cons,
      List.mem_cons, not_or, and_left_comm, and_assoc, ne_comm]

/-- Removing identities one after the other takes them from an inventory. -/
theorem loses_foldl_remove (identities : List Identity) (before : Inventory) :
    before.Loses identities
      (identities.foldl (fun inventory identity => inventory.remove identity.name) before) := by
  constructor
  · intro name
    rw [Inventory.contains_eq_has, Inventory.contains_eq_has, has_foldl_remove_iff, and_comm]
  · intro name contained
    rw [Inventory.contains_eq_has, has_foldl_remove_iff] at contained
    have kept : ∀ asked, (identities.foldl (fun inventory identity =>
        inventory.remove identity.name) before).has name asked = before.has name asked := by
      intro asked
      rw [Bool.eq_iff_iff, has_foldl_remove_iff]
      exact and_iff_right contained.1
    exact Inventory.versionsOf_congr kept

variable (goal : PackageGoal) (verbs : PackageVerbs) (providers : Providers)

/-- A goal to have packages records the identities of the pending ones. -/
theorem gains_inventoryAfter (wanted : goal.present = true) (inventory : Inventory) :
    inventory.Gains ((goal.pending inventory providers).flatMap (Package.identities providers))
      (goal.inventoryAfter inventory providers) := by
  have records : goal.apply = recordIdentity := by
    funext inventory identity
    rw [apply, if_pos wanted]
  rw [inventoryAfter, records]
  exact gains_foldl_recordIdentity _ inventory

/-- A goal not to have packages removes the identities of the pending ones. -/
theorem loses_inventoryAfter (unwanted : goal.present = false) (inventory : Inventory) :
    inventory.Loses ((goal.pending inventory providers).flatMap (Package.identities providers))
      (goal.inventoryAfter inventory providers) := by
  have removes : goal.apply = fun inventory identity => inventory.remove identity.name := by
    funext inventory identity
    rw [apply, unwanted]
    rfl
  rw [inventoryAfter, removes]
  exact loses_foldl_remove _ inventory

/-- The pending packages of reordered ones are the pending packages reordered. -/
theorem pending_perm {packages : List Package} (order : packages.Perm goal.packages)
    (inventory : Inventory) :
    ({ goal with packages }.pending inventory providers).Perm (goal.pending inventory providers) :=
  order.filter _

/-- The order of the packages of a goal counts for the unknown version only, and only where they should
be present. -/
theorem inventoryAfter_of_perm {packages : List Package} (order : packages.Perm goal.packages)
    (inventory : Inventory) :
    let after := goal.inventoryAfter inventory providers
    let reordered := { goal with packages }.inventoryAfter inventory providers
    (∀ name, reordered.contains name = after.contains name) ∧
      (∀ name version, version ≠ unknownVersion →
        (version ∈ reordered.versionsOf name ↔ version ∈ after.versionsOf name)) ∧
      (goal.present = false → reordered = after) := by
  intro after reordered
  have matchedOrder := (goal.pending_perm providers order inventory).flatMap_right
    (Package.identities providers)
  cases wanted : goal.present with
  | true =>
    have gains := goal.gains_inventoryAfter providers wanted inventory
    have otherGains := { goal with packages }.gains_inventoryAfter providers wanted inventory
    obtain ⟨names, versions⟩ := gains.agree_of_perm otherGains matchedOrder
    exact ⟨names, versions, fun unwanted => by cases unwanted⟩
  | false =>
    have loses := goal.loses_inventoryAfter providers wanted inventory
    have otherLoses := { goal with packages }.loses_inventoryAfter providers wanted inventory
    have same : reordered = after := loses.eq_of_perm otherLoses matchedOrder
    rw [same]
    exact ⟨fun _ => rfl, fun _ _ _ => Iff.rfl, fun _ => rfl⟩

/-- The command of a goal lists its pending packages. -/
theorem commands_reconcile (inventory : Inventory) :
    (goal.reconcile verbs providers inventory).1.commands =
      (if (goal.pending inventory providers).isEmpty then []
        else [goal.line verbs (goal.pending inventory providers)]) ++
        (goal.upgradeCommand? verbs inventory providers).toList := by
  unfold reconcile command?
  cases goal.pending inventory providers <;> rfl

/-- What a goal leaves in the inventory is told by the packages of its command and what they match, and
by whether they should be present. Those that should be are gained, and no other name or version is
lost or new, but for the unknown version of a package whose first identity lists none; those that
should not be are lost with all their versions. Neither keeping packages up to date nor the words of
the package manager count, and the order of the packages counts for the unknown version only. -/
theorem changes_exactly (inventory : Inventory) :
    let changed := goal.pending inventory providers
    let matched := changed.flatMap (Package.identities providers)
    let outcome := (goal.reconcile verbs providers inventory).1
    let after := (goal.reconcile verbs providers inventory).2
    outcome.commands = (if changed.isEmpty then [] else [goal.line verbs changed]) ++
        (goal.upgradeCommand? verbs inventory providers).toList ∧
      (goal.present = true → inventory.Gains matched after ∧
        ∀ name asked, inventory.has name asked = true → after.has name asked = true) ∧
      (goal.present = false → inventory.Loses matched after) ∧
      (∀ latest otherVerbs,
        ({ goal with latest }.reconcile otherVerbs providers inventory).2 = after) ∧
      ∀ packages, packages.Perm goal.packages →
        let reordered := ({ goal with packages }.reconcile verbs providers inventory).2
        (∀ name, reordered.contains name = after.contains name) ∧
          (∀ name version, version ≠ unknownVersion →
            (version ∈ reordered.versionsOf name ↔ version ∈ after.versionsOf name)) ∧
          (goal.present = false → reordered = after) := by
  intro changed matched outcome after
  refine ⟨goal.commands_reconcile verbs providers inventory, fun wanted => ⟨?_, ?_⟩, ?_, ?_, ?_⟩
  · exact goal.gains_inventoryAfter providers wanted inventory
  · have moves := goal.movesToward_inventoryAfter providers inventory
    rw [wanted] at moves
    exact moves
  · exact fun unwanted => goal.loses_inventoryAfter providers unwanted inventory
  · exact fun latest otherVerbs => rfl
  · exact fun packages order => goal.inventoryAfter_of_perm providers order inventory

/-- Two capabilities share a package, which one of them asks for without a version. Named first it is
also recorded at an unknown version; both are removed whole. -/
theorem changes_exactly_editor :
    let packages : List Package := [⟨"editor", none⟩, ⟨"pager", none⟩]
    let matched := packages.flatMap (Package.identities editorProviders)
    let after (packages : List Package) (present : Bool) (inventory : Inventory) :=
      ((PackageGoal.mk packages present false).reconcile PackageManager.apk.verbs editorProviders
        inventory).2
    let known := Inventory.ofList [("vim", ["8", "9"]), ("git", ["2"])]
    Inventory.empty.Gains matched (after packages true .empty) ∧
      (after packages true .empty).versionsOf "vim" = ["9", "unknown"] ∧
      (after packages.reverse true .empty).versionsOf "vim" = ["9"] ∧
      (∀ version, version ≠ unknownVersion →
        (version ∈ (after packages.reverse true .empty).versionsOf "vim" ↔
          version ∈ (after packages true .empty).versionsOf "vim")) ∧
      known.Loses matched (after packages false known) ∧
      after packages.reverse false known = after packages false known := by
  intro packages matched after known
  have order : packages.reverse.Perm packages := packages.reverse_perm
  obtain ⟨-, gains, -, -, reorders⟩ := changes_exactly
    (PackageGoal.mk packages true false) PackageManager.apk.verbs editorProviders .empty
  obtain ⟨-, -, loses, -, reordersToo⟩ := changes_exactly
    (PackageGoal.mk packages false false) PackageManager.apk.verbs editorProviders known
  refine ⟨(gains rfl).1, by decide, by decide, ?_, loses rfl, ?_⟩
  · exact (reorders packages.reverse order).2.1 "vim"
  · exact (reordersToo packages.reverse order).2.2 rfl

end PackageGoal

end FleetPlan
