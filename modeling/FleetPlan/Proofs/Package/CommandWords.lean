import FleetPlan.Operation
import FleetPlan.Proofs.Package.Entries
import FleetPlan.Proofs.Shell.Words

/-!
# The words of package commands

Entries are read, matched, written again and quoted on their way into a command.
`Operation.words_commands` follows them to the end: what a shell reads there is the
verb of the package manager and after it the entries as they were declared, those
that have to change in one command and those that may be upgraded in another. The
verb may be any text that is read as words (`PackageVerbs.ReadAs`), as those of
every known manager are (`PackageManager.exists_readAs`).
-/

namespace FleetPlan

namespace Package

/-- An entry without a version is a name. -/
theorem name_ofEntry_of_not_isPinned {separator : Option String} {entry : String}
    (free : (ofEntry separator entry).isPinned = false) :
    (ofEntry separator entry).name = entry := by
  have written := token_ofEntry separator entry
  unfold token at written
  split at written
  · next version pinned => simp [isPinned, pinned] at free
  · exact written

/-- Whether a package that should be present lacks one of its identities, or one that should be absent
has one. -/
def isMisplaced (present : Bool) (inventory : Inventory) (providers : Providers)
    (package : Package) : Bool :=
  if present then !package.isSatisfied .all inventory providers
  else package.isSatisfied .any inventory providers

end Package

/-- The words that a shell reads in the texts of a package manager. -/
structure VerbWords where
  install : List String
  uninstall : List String
  upgrade : Option (List String)
  deriving DecidableEq, Repr

/-- The words that come before packages that have to change. -/
def VerbWords.change (words : VerbWords) (present : Bool) : List String :=
  if present then words.install else words.uninstall

/-- The words of the commands for entries that have to change and for entries that may be upgraded. -/
def VerbWords.commands (words : VerbWords) (present latest : Bool)
    (misplaced unpinned : List String) : List (List String) :=
  (if misplaced.isEmpty then [] else [words.change present ++ misplaced]) ++
    match words.upgrade with
    | some upgrade => if present && latest && !unpinned.isEmpty then [upgrade ++ unpinned] else []
    | none => []

/-- Each text of a package manager is read as some words. -/
structure PackageVerbs.ReadAs (verbs : PackageVerbs) (words : VerbWords) : Prop where
  install : Shell.words? verbs.install = some words.install
  uninstall : Shell.words? verbs.uninstall = some words.uninstall
  upgrade : verbs.upgrade.map Shell.words? = words.upgrade.map some

/-- The verb of a change is read as its words. -/
theorem PackageVerbs.ReadAs.change {verbs : PackageVerbs} {words : VerbWords}
    (read : verbs.ReadAs words) (present : Bool) :
    Shell.words? (if present then verbs.install else verbs.uninstall) =
      some (words.change present) := by
  cases present with
  | true => exact read.install
  | false => exact read.uninstall

/-- The texts of every known manager are read as words. -/
theorem PackageManager.exists_readAs (manager : PackageManager) :
    ∃ words, manager.verbs.ReadAs words := by
  have install : (Shell.words? manager.verbs.install).isSome := by cases manager <;> decide
  have uninstall : (Shell.words? manager.verbs.uninstall).isSome := by cases manager <;> decide
  have upgrade : (manager.verbs.upgrade.all fun text => (Shell.words? text).isSome) := by
    cases manager <;> decide
  obtain ⟨installWords, install⟩ := Option.isSome_iff_exists.mp install
  obtain ⟨uninstallWords, uninstall⟩ := Option.isSome_iff_exists.mp uninstall
  cases written : manager.verbs.upgrade with
  | none => exact ⟨⟨installWords, uninstallWords, none⟩, install, uninstall, by rw [written]; rfl⟩
  | some text =>
    rw [written, Option.all_some] at upgrade
    obtain ⟨upgradeWords, upgrade⟩ := Option.isSome_iff_exists.mp upgrade
    exact ⟨⟨installWords, uninstallWords, some upgradeWords⟩, install, uninstall,
      by rw [written, Option.map_some, upgrade]; rfl⟩

/-- Whether what an entry declares is out of place. -/
def PackageVerbs.isMisplaced (verbs : PackageVerbs) (present : Bool) (inventory : Inventory)
    (providers : Providers) (entry : String) : Bool :=
  (Package.ofEntry verbs.separator entry).isMisplaced present inventory providers

/-- The entries in place that declare no version. -/
def PackageVerbs.unpinned (verbs : PackageVerbs) (present : Bool) (inventory : Inventory)
    (providers : Providers) (entries : List String) : List String :=
  entries.filter fun entry => !(Package.ofEntry verbs.separator entry).isPinned &&
    !verbs.isMisplaced present inventory providers entry

/-- What is reported of an entry that is in place. -/
def PackageVerbs.observation (verbs : PackageVerbs) (present : Bool) (inventory : Inventory)
    (entry : String) : Observation :=
  if present then
    .packageInstalled entry (inventory.versionsOf (Package.ofEntry verbs.separator entry).name)
  else .packageNotInstalled entry

namespace Operation

variable {verbs : PackageVerbs} {words : VerbWords} {entries : List String}
  {present latest : Bool} {inventory : Inventory} {providers : Providers}

/-- A package is pending exactly if it is out of place. -/
theorem isPending_packageGoal :
    (packageGoal entries present latest verbs).isPending inventory providers =
      Package.isMisplaced present inventory providers := by
  funext package
  cases present <;> simp [packageGoal, PackageGoal.isPending, PackageGoal.rule, Package.isMisplaced]

/-- The pending packages are those of the entries that are out of place. -/
theorem pending_packageGoal :
    (packageGoal entries present latest verbs).pending inventory providers =
      (entries.filter (verbs.isMisplaced present inventory providers)).map
        (Package.ofEntry verbs.separator) := by
  rw [PackageGoal.pending, isPending_packageGoal]
  exact List.filter_map ..

/-- The settled packages are those of the other entries. -/
theorem settled_packageGoal :
    (packageGoal entries present latest verbs).settled inventory providers =
      (entries.filter fun entry => !verbs.isMisplaced present inventory providers entry).map
        (Package.ofEntry verbs.separator) := by
  rw [PackageGoal.settled, isPending_packageGoal]
  exact List.filter_map ..

/-- Declared entries are written as they are declared. -/
theorem map_token_ofEntry (separator : Option String) (entries : List String) :
    (entries.map (Package.ofEntry separator)).map (Package.token separator) = entries := by
  rw [List.map_map]
  exact (List.map_congr_left fun entry _ => Package.token_ofEntry separator entry).trans
    (List.map_id entries)

/-- The first command has the entries that are out of place. -/
theorem command?_packageGoal :
    (packageGoal entries present latest verbs).command? verbs inventory providers =
      let misplaced := entries.filter (verbs.isMisplaced present inventory providers)
      if misplaced.isEmpty then none
      else some ((if present then verbs.install else verbs.uninstall) ++ " " ++
        Shell.join misplaced) := by
  rw [PackageGoal.command?, pending_packageGoal]
  cases entries.filter (verbs.isMisplaced present inventory providers) with
  | nil => rfl
  | cons first rest =>
    -- The tokens are made of the packages that were read from the entries.
    change some (_ ++ " " ++ Shell.join
      (((first :: rest).map (Package.ofEntry verbs.separator)).map
        (Package.token verbs.separator))) = _
    rw [map_token_ofEntry]
    rfl

/-- The first command is read as its verb and the entries that are out of place. -/
theorem map_words?_command? (read : verbs.ReadAs words) :
    ((packageGoal entries present latest verbs).command? verbs inventory providers).toList.map
        Shell.words? =
      let misplaced := entries.filter (verbs.isMisplaced present inventory providers)
      (if misplaced.isEmpty then [] else [words.change present ++ misplaced]).map some := by
  rw [command?_packageGoal]
  dsimp only
  split
  · rfl
  · exact congrArg (fun line => [line]) (Shell.words?_append_join (read.change present) _)

/-- The packages that may be upgraded are those of the entries in place without a version. -/
theorem upgradable_packageGoal :
    (packageGoal entries present latest verbs).upgradable inventory providers =
      if present then (verbs.unpinned present inventory providers entries).map
        (Package.ofEntry verbs.separator) else [] := by
  rw [PackageGoal.upgradable, settled_packageGoal, PackageVerbs.unpinned, List.filter_map,
    List.filter_filter]
  rfl

/-- The names of entries without a version are these entries. -/
theorem map_name_unpinned (verbs : PackageVerbs) (present : Bool) (inventory : Inventory)
    (providers : Providers) (entries : List String) :
    ((verbs.unpinned present inventory providers entries).map
      (Package.ofEntry verbs.separator)).map Package.name =
        verbs.unpinned present inventory providers entries := by
  rw [List.map_map]
  refine (List.map_congr_left fun entry member => ?_).trans (List.map_id _)
  obtain ⟨-, suits⟩ := List.mem_filter.mp member
  have unpinned := (Bool.and_eq_true_iff.mp suits).1
  exact Package.name_ofEntry_of_not_isPinned (by simpa using unpinned)

/-- The second command has the entries in place that have no version. -/
theorem upgradeCommand?_packageGoal :
    (packageGoal entries present latest verbs).upgradeCommand? verbs inventory providers =
      let unpinned := verbs.unpinned present inventory providers entries
      verbs.upgrade.bind fun upgrade =>
        if present && latest && !unpinned.isEmpty then
          some (upgrade ++ " " ++ Shell.join unpinned)
        else none := by
  have names := map_name_unpinned verbs present inventory providers entries
  rw [PackageGoal.upgradeCommand?, upgradable_packageGoal]
  cases verbs.upgrade with
  | none => simp
  | some upgrade =>
    cases present with
    | false => cases latest <;> rfl
    | true =>
      cases latest with
      | false => rfl
      | true =>
        cases waiting : verbs.unpinned true inventory providers entries with
        | nil => rfl
        | cons first rest =>
          rw [waiting] at names
          change some (upgrade ++ " " ++ Shell.join
            (((first :: rest).map (Package.ofEntry verbs.separator)).map Package.name)) = _
          rw [names]
          rfl

/-- The second command is read as its verb and the entries in place that have no version. -/
theorem map_words?_upgradeCommand? (read : verbs.ReadAs words) :
    ((packageGoal entries present latest verbs).upgradeCommand? verbs inventory
        providers).toList.map Shell.words? =
      let unpinned := verbs.unpinned present inventory providers entries
      (match words.upgrade with
        | some upgrade =>
          if present && latest && !unpinned.isEmpty then [upgrade ++ unpinned] else []
        | none => []).map some := by
  have upgrades := read.upgrade
  rw [upgradeCommand?_packageGoal]
  cases text : verbs.upgrade with
  | none =>
    rw [text, Option.map_none, eq_comm, Option.map_eq_none_iff] at upgrades
    rw [upgrades]
    rfl
  | some verb =>
    rw [text, Option.map_some, eq_comm, Option.map_eq_some_iff] at upgrades
    obtain ⟨upgrade, known, same⟩ := upgrades
    rw [known]
    dsimp only [Option.bind_some]
    split
    · exact congrArg (fun line => [line]) (Shell.words?_append_join same.symm _)
    · rfl

/-- An entry in place is reported as it is declared, unless it is to be kept up to date. -/
theorem observation?_ofEntry (entry : String) :
    (packageGoal entries present latest verbs).observation? verbs inventory
        (Package.ofEntry verbs.separator entry) =
      if present && latest then none else some (verbs.observation present inventory entry) := by
  rw [PackageGoal.observation?, Package.token_ofEntry]
  cases present <;> cases latest <;> rfl

/-- Whatever verbs a package manager is driven with, a shell reads in the commands that are planned for
entries exactly these entries: first those that are out of place, if there are any, and then, where
packages are to be kept up to date, those in place that have no version. Both are in the order they are
declared, and as often. Every other entry is reported. -/
theorem words_commands (read : verbs.ReadAs words) (entries : List String) (present latest : Bool)
    (inventory : Inventory) (providers : Providers) :
    let outcome :=
      ((packageGoal entries present latest verbs).reconcile verbs providers inventory).1
    outcome.commands.map Shell.words? =
        (words.commands present latest
          (entries.filter (verbs.isMisplaced present inventory providers))
          (verbs.unpinned present inventory providers entries)).map some ∧
      outcome.observations =
        if present && latest then []
        else (entries.filter fun entry => !verbs.isMisplaced present inventory providers entry).map
          (verbs.observation present inventory) := by
  constructor
  · rw [PackageGoal.reconcile, List.map_append, map_words?_command? read,
      map_words?_upgradeCommand? read, ← List.map_append]
    rfl
  · rw [PackageGoal.reconcile, settled_packageGoal, List.filterMap_map]
    simp only [Function.comp_def, observation?_ofEntry]
    cases present && latest <;> simp

/-- Yum upgrades a package that is declared twice and installs packages with odd names. -/
theorem words_commands_oddNames :
    ((packageGoal ["vim", "it's=1", "two words", "vim"] true true
        PackageManager.yum.verbs).reconcile PackageManager.yum.verbs .none
        (.ofList [("vim", ["9"])])).1.commands.map Shell.words? =
      [some ["yum", "install", "-y", "it's=1", "two words"],
        some ["yum", "update", "-y", "vim", "vim"]] := by
  have read : PackageManager.yum.verbs.ReadAs
      ⟨["yum", "install", "-y"], ["yum", "remove", "-y"], some ["yum", "update", "-y"]⟩ :=
    ⟨by decide, by decide, by decide⟩
  exact (words_commands read ["vim", "it's=1", "two words", "vim"] true true
    (.ofList [("vim", ["9"])]) .none).1.trans (by decide)

end Operation

end FleetPlan
