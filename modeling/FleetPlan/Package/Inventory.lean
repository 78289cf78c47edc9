import FleetPlan.SortedMap

/-!
# The packages installed on a host

An inventory records for each installed package the versions that are installed.
It starts from gathered facts and is then kept up to date with the predicted
effect of each planned command. A package may be recorded without any version.
What is installed after an update is said by `has_record_iff` and
`has_remove_iff`, and what removing a package tells by `takeOut_eq`.
-/

namespace FleetPlan

/-- Installed packages: for each name the set of installed versions. -/
structure Inventory where
  versions : SortedMap SortedSet
  deriving DecidableEq, Repr, Inhabited

namespace Inventory

/-- The version recorded for a package that was installed without naming one. -/
def unknownVersion : String := "unknown"

/-- The inventory of a host with no packages. -/
def empty : Inventory := ⟨.empty⟩

/-- The inventory with the listed packages; of two entries for one name the later counts. -/
def ofList (packages : List (String × List String)) : Inventory :=
  ⟨.ofList (packages.map fun package => (package.1, SortedSet.ofList package.2))⟩

/-- Whether any version of a package is installed. -/
def contains (inventory : Inventory) (name : String) : Bool :=
  inventory.versions.contains name

/-- Whether a package is installed and, if a version is given, whether that version is. -/
def has (inventory : Inventory) (name : String) (version : Option String) : Bool :=
  match inventory.versions.get? name, version with
  | none, _ => false
  | some _, none => true
  | some versions, some version => versions.contains version

/-- The installed versions of a package in ascending order. -/
def versionsOf (inventory : Inventory) (name : String) : List String :=
  ((inventory.versions.get? name).getD .empty).elements

/-- Record that a package is installed, at a version or at `unknownVersion`. -/
def record (inventory : Inventory) (name : String) (version : Option String) : Inventory :=
  let recorded := (inventory.versions.get? name).getD .empty
  ⟨inventory.versions.insert name (recorded.insert (version.getD unknownVersion))⟩

/-- Forget every installed version of a package. -/
def remove (inventory : Inventory) (name : String) : Inventory :=
  ⟨inventory.versions.erase name⟩

/-- Forget every installed version of a package, and tell whether the package was there. -/
def takeOut (inventory : Inventory) (name : String) : Bool × Inventory :=
  let (versions, others) := inventory.versions.takeOut name
  (versions.isSome, ⟨others⟩)

/-- The number of installed packages. -/
def size (inventory : Inventory) : Nat := inventory.versions.size

/-- Whether no package is installed. -/
def isEmpty (inventory : Inventory) : Bool := inventory.versions.isEmpty

/-- A package is contained exactly if it is installed at any version. -/
theorem contains_eq_has (inventory : Inventory) (name : String) :
    inventory.contains name = inventory.has name none := by
  unfold contains has SortedMap.contains
  cases inventory.versions.get? name <;> rfl

/-- Recording adds one version of one package and keeps everything else. -/
theorem has_record_iff {inventory : Inventory} {name wanted : String}
    {version asked : Option String} :
    (inventory.record name version).has wanted asked = true ↔
      (name = wanted ∧ ∀ text ∈ asked, text = version.getD unknownVersion) ∨
        inventory.has wanted asked = true := by
  by_cases here : name = wanted
  · subst here
    cases asked with
    | none => simp [has, record]
    | some text =>
      cases found : inventory.versions.get? name <;>
        simp [has, record, found, SortedSet.contains]
  · simp [has, record, here]

/-- Removing takes away every version of one package and keeps everything else. -/
theorem has_remove_iff {inventory : Inventory} {name wanted : String} {asked : Option String} :
    (inventory.remove name).has wanted asked = true ↔
      name ≠ wanted ∧ inventory.has wanted asked = true := by
  by_cases here : name = wanted
  · subst here
    simp [has, remove]
  · simp [has, remove, here]

/-- Taking a package out removes it and tells whether it was contained. -/
theorem takeOut_eq (inventory : Inventory) (name : String) :
    inventory.takeOut name = (inventory.contains name, inventory.remove name) := by
  rw [takeOut, SortedMap.takeOut_eq]
  rfl

end Inventory

end FleetPlan
