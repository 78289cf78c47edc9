import Mathlib.Data.Finset.Card
import Mathlib.Data.List.Nodup
import FleetPlan.Proofs.Package.Effect
import FleetPlan.Proofs.Text.ByteOrder

/-!
# What an inventory remembers of its history

An inventory is changed by recording and removing packages. What is installed after
any sequence of such changes is told by the sequence and by what was installed before it
(`Inventory.afterAll_exactly`): a version is installed if it was recorded and its package
not removed since (`Inventory.IsRecordedIn`), or if it was installed at first and its
package never removed.
-/

namespace FleetPlan.Inventory

/-- A change of what is installed. -/
inductive Change where
  | record (name : String) (version : Option String)
  | remove (name : String)

/-- The inventory after a change. -/
def after (inventory : Inventory) : Change → Inventory
  | .record name version => inventory.record name version
  | .remove name => inventory.remove name

/-- The inventory after several changes, one after the other. -/
def afterAll (inventory : Inventory) (history : List Change) : Inventory :=
  history.foldl after inventory

/-- A change records a package, and if a version is asked for, at this version. -/
def Change.Records (change : Change) (name : String) (asked : Option String) : Prop :=
  ∃ version, change = .record name version ∧ ∀ text ∈ asked, text = version.getD unknownVersion

/-- A package was recorded, and if a version is asked for, at this version, and not removed since. -/
def IsRecordedIn (history : List Change) (name : String) (asked : Option String) : Prop :=
  ∃ before change later, history = before ++ change :: later ∧
    change.Records name asked ∧ .remove name ∉ later

variable {inventory : Inventory} {history : List Change} {change : Change} {name : String}
  {asked : Option String}

/-- A package is installed after a change that records it, or if it was installed before a change that
does not remove it. -/
theorem has_after_iff :
    (inventory.after change).has name asked = true ↔
      change.Records name asked ∨ inventory.has name asked = true ∧ change ≠ .remove name := by
  cases change with
  | record own version =>
    rw [after, has_record_iff]
    refine or_congr ?_ (and_iff_left nofun).symm
    constructor
    · rintro ⟨rfl, alike⟩
      exact ⟨version, rfl, alike⟩
    · rintro ⟨version, same, alike⟩
      cases same
      exact ⟨rfl, alike⟩
  | remove own =>
    have other : own ≠ name ↔ Change.remove own ≠ .remove name := by simp
    rw [after, has_remove_iff, other, and_comm, or_iff_right]
    rintro ⟨version, same, -⟩
    cases same

/-- Nothing was recorded in a history without changes. -/
theorem not_isRecordedIn_nil : ¬ IsRecordedIn [] name asked := by
  rintro ⟨before, change, later, parts, -⟩
  exact List.append_ne_nil_of_right_ne_nil before (List.cons_ne_nil change later) parts.symm

/-- A package was recorded and not removed since if it was so after the first change, or if the first
change recorded it and no later one removed it. -/
theorem isRecordedIn_cons_iff :
    IsRecordedIn (change :: history) name asked ↔
      IsRecordedIn history name asked ∨ change.Records name asked ∧ .remove name ∉ history := by
  constructor
  · rintro ⟨before, own, later, parts, records, kept⟩
    rcases List.cons_eq_append_iff.mp parts with ⟨rfl, first⟩ | ⟨others, rfl, rest⟩
    · obtain ⟨rfl, rfl⟩ := List.cons.inj first
      exact Or.inr ⟨records, kept⟩
    · exact Or.inl ⟨others, own, later, rest, records, kept⟩
  · rintro (⟨before, own, later, rfl, records, kept⟩ | ⟨records, kept⟩)
    · exact ⟨change :: before, own, later, rfl, records, kept⟩
    · exact ⟨[], change, history, rfl, records, kept⟩

/-- A package is installed after some changes if it was recorded and not removed since, or if it was
installed before them and none of them removed it. -/
theorem has_afterAll_iff :
    (inventory.afterAll history).has name asked = true ↔
      IsRecordedIn history name asked ∨
        inventory.has name asked = true ∧ .remove name ∉ history := by
  induction history generalizing inventory with
  | nil => simp [afterAll, not_isRecordedIn_nil]
  | cons change history inductionHypothesis =>
    have later : ((inventory.after change).afterAll history).has name asked = true ↔ _ :=
      inductionHypothesis
    rw [afterAll, List.foldl_cons, ← afterAll, later, has_after_iff, isRecordedIn_cons_iff,
      List.mem_cons, not_or, or_and_right, or_assoc, and_assoc, ne_comm]

/-- The versions of a package are listed in the order of their bytes. -/
theorem pairwise_bytes_versionsOf (inventory : Inventory) (name : String) :
    (inventory.versionsOf name).Pairwise fun first second =>
      Text.bytes first < Text.bytes second :=
  ((inventory.versions.get? name).getD .empty).ascending.imp Text.bytes_lt_iff.mpr

/-- The packages that an inventory contains are as many as its size. -/
theorem exists_names (inventory : Inventory) :
    ∃ names : Finset String, (∀ name, name ∈ names ↔ inventory.contains name = true) ∧
      inventory.size = names.card := by
  have distinct : inventory.versions.keys.Nodup :=
    SortedMap.nodup_of_ascending inventory.versions.ascending
  refine ⟨⟨inventory.versions.keys, distinct⟩, fun name => ?_, ?_⟩
  · have absent : inventory.contains name = false ↔ name ∉ inventory.versions.keys := by
      rw [contains, SortedMap.contains, Option.isSome_eq_false_iff, Option.isNone_iff_eq_none]
      exact SortedMap.lookupIn_eq_none_iff
    rw [← Bool.not_eq_false, absent, not_not]
    rfl
  · exact (List.length_map _).symm

/-- After any changes of an inventory, a package is installed, or installed at a version, if it was
recorded so and not removed since, or if it was so before and was never removed. Its versions are listed
in the order of their bytes; removing it tells whether it was there, and the size of the inventory is
the number of packages that are there. -/
theorem afterAll_exactly (initial : Inventory) (history : List Change) :
    let final := initial.afterAll history
    (∀ name version, final.has name (some version) = true ↔
        IsRecordedIn history name (some version) ∨
          initial.has name (some version) = true ∧ .remove name ∉ history) ∧
      (∀ name, final.contains name = true ↔
        IsRecordedIn history name none ∨
          initial.contains name = true ∧ .remove name ∉ history) ∧
      (∀ name, (∀ version, version ∈ final.versionsOf name ↔ final.has name (some version) = true) ∧
        (final.versionsOf name).Pairwise fun first second =>
          Text.bytes first < Text.bytes second) ∧
      (∀ name, final.takeOut name = (final.contains name, final.after (.remove name))) ∧
      ∃ names : Finset String, (∀ name, name ∈ names ↔ final.contains name = true) ∧
        final.size = names.card := by
  intro final
  refine ⟨fun name version => has_afterAll_iff, fun name => ?_, fun name => ⟨fun version => ?_, ?_⟩,
    fun name => final.takeOut_eq name, final.exists_names⟩
  · rw [contains_eq_has, contains_eq_has]
    exact has_afterAll_iff
  · exact mem_versionsOf_iff
  · exact final.pairwise_bytes_versionsOf name

/-- A package that is there without a version is contained until it is removed, and what is recorded
after a removal stays. -/
example :
    let initial := Inventory.ofList [("curl", []), ("git", ["2"])]
    let final := initial.afterAll [.record "git" none, .remove "git", .record "git" (some "3")]
    final.contains "curl" = true ∧ final.versionsOf "curl" = [] ∧ final.versionsOf "git" = ["3"] ∧
      (final.takeOut "curl").1 = true ∧ (final.takeOut "vim").1 = false ∧ final.size = 2 := by
  decide

end FleetPlan.Inventory
