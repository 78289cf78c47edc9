import FleetPlan.Proofs.Package.StandAlone
import Mathlib.Data.List.Induction

/-!
# Candidates and their identities

The candidates of one name are summed up in one identity, which lists the versions
that they name (`Package.sumsUp_identitiesOf`). An identity that lists versions no
longer tells that one of its candidates would take any version. So the identities
are installed exactly as the candidates are that count
(`Package.isSatisfied_iff_candidates`), and a candidate without a version counts
only where no candidate of its name has one.
-/

namespace FleetPlan.Package

variable {identity : Identity} {identities : List Identity} {candidate : Package}
  {candidates : List Package} {version : String} {inventory : Inventory}

/-- A version is listed after one was added if it is the added one or was listed before. -/
theorem Identity.mem_versions_add {added : Option String} :
    version ∈ (identity.add added).versions ↔ added = some version ∨ version ∈ identity.versions := by
  cases added with
  | none => simp [Identity.add]
  | some text => simp [Identity.add, eq_comm]

/-- Each name of some candidates stands once among the identities, with the versions of its
candidates. -/
structure SumsUp (identities : List Identity) (candidates : List Package) : Prop where
  distinct : (identities.map Identity.name).Nodup
  mem_names : ∀ name, name ∈ identities.map Identity.name ↔ name ∈ candidates.map Package.name
  mem_versions : ∀ identity ∈ identities, ∀ version,
    version ∈ identity.versions ↔ ⟨identity.name, some version⟩ ∈ candidates

/-- The names after a candidate was added are the old ones and its own, which comes last if it is
new. -/
theorem map_name_addCandidate (candidate : Package) (identities : List Identity) :
    (addCandidate candidate identities).map Identity.name =
      if candidate.name ∈ identities.map Identity.name then identities.map Identity.name
      else identities.map Identity.name ++ [candidate.name] := by
  induction identities with
  | nil => simp [addCandidate, Identity.name_add]
  | cons identity rest inductionHypothesis =>
    unfold addCandidate
    split
    · next same => simp [Identity.name_add, same]
    · next other =>
      have notHere : candidate.name ≠ identity.name := fun same => other same.symm
      rw [List.map_cons, inductionHypothesis]
      by_cases later : candidate.name ∈ rest.map Identity.name
      · rw [if_pos later, List.map_cons, if_pos (List.mem_cons_of_mem _ later)]
      · rw [if_neg later, List.map_cons, if_neg, List.cons_append]
        exact fun member => (List.mem_cons.mp member).elim notHere later

/-- An identity after a candidate was added is an old one of another name, or the one of its name
with its version. -/
theorem eq_or_eq_of_mem_addCandidate (distinct : (identities.map Identity.name).Nodup)
    (member : identity ∈ addCandidate candidate identities) :
    identity ∈ identities ∧ identity.name ≠ candidate.name ∨
      (∃ old ∈ identities, old.name = candidate.name ∧ identity = old.add candidate.version) ∨
      candidate.name ∉ identities.map Identity.name ∧
        identity = (Identity.mk candidate.name .empty).add candidate.version := by
  induction identities with
  | nil => exact Or.inr (Or.inr ⟨List.not_mem_nil, List.mem_singleton.mp member⟩)
  | cons first rest inductionHypothesis =>
    obtain ⟨absent, restDistinct⟩ := List.nodup_cons.mp distinct
    unfold addCandidate at member
    split at member
    · next same =>
      rcases List.mem_cons.mp member with rfl | later
      · exact Or.inr (Or.inl ⟨first, .head _, same, rfl⟩)
      · refine Or.inl ⟨.tail _ later, fun again => absent ?_⟩
        exact List.mem_map.mpr ⟨identity, later, again.trans same.symm⟩
    · next other =>
      rcases List.mem_cons.mp member with rfl | later
      · exact Or.inl ⟨.head _, other⟩
      · rcases inductionHypothesis restDistinct later with
          ⟨kept, different⟩ | ⟨old, listed, same, rfl⟩ | ⟨fresh, rfl⟩
        · exact Or.inl ⟨.tail _ kept, different⟩
        · exact Or.inr (Or.inl ⟨old, .tail _ listed, same, rfl⟩)
        · refine Or.inr (Or.inr ⟨fun listed => ?_, rfl⟩)
          exact (List.mem_cons.mp listed).elim (fun same => other same.symm) fresh

/-- Adding a candidate to the identities adds it to what they sum up. -/
theorem SumsUp.addCandidate (sums : SumsUp identities candidates) (candidate : Package) :
    SumsUp (addCandidate candidate identities) (candidates ++ [candidate]) where
  distinct := by
    rw [map_name_addCandidate]
    split
    · exact sums.distinct
    · next fresh =>
      refine List.nodup_append.mpr ⟨sums.distinct, List.pairwise_singleton _ _, ?_⟩
      intro name listed other new same
      exact fresh (List.mem_singleton.mp new ▸ same ▸ listed)
  mem_names := by
    intro name
    rw [map_name_addCandidate, List.map_append, List.mem_append, ← sums.mem_names]
    split
    · next known =>
      refine ⟨Or.inl, fun listed => listed.elim id fun same => ?_⟩
      rwa [List.mem_singleton.mp same]
    · rw [List.mem_append]
      rfl
  mem_versions := by
    intro identity member version
    rw [List.mem_append, List.mem_singleton]
    rcases eq_or_eq_of_mem_addCandidate sums.distinct member with
      ⟨kept, different⟩ | ⟨old, listed, same, rfl⟩ | ⟨fresh, rfl⟩
    · rw [sums.mem_versions identity kept]
      refine (or_iff_left fun here => different ?_).symm
      rw [← here]
    · rw [Identity.mem_versions_add, sums.mem_versions old listed, Identity.name_add,
        or_comm]
      refine or_congr_right ⟨fun named => ?_, fun here => ?_⟩
      · rw [same, ← named]
      · rw [← here]
    · have unlisted : ⟨candidate.name, some version⟩ ∉ candidates := fun listed =>
        fresh ((sums.mem_names _).mpr (List.mem_map.mpr ⟨_, listed, rfl⟩))
      rw [Identity.mem_versions_add, Identity.name_add,
        or_iff_left (SortedSet.not_mem_empty version), or_iff_right unlisted]
      exact ⟨fun named => by rw [← named], fun here => by rw [← here]⟩

/-- The identities of some candidates sum them up. -/
theorem sumsUp_identitiesOf (candidates : List Package) :
    SumsUp (identitiesOf candidates) candidates := by
  induction candidates using List.reverseRecOn with
  | nil => exact ⟨List.nodup_nil, fun _ => Iff.rfl, fun _ member => nomatch member⟩
  | append_singleton candidates candidate inductionHypothesis =>
    rw [identitiesOf_concat]
    exact inductionHypothesis.addCandidate candidate

/-- A candidate passes if its name is installed, and its version if it has one. -/
def passes (inventory : Inventory) (candidate : Package) : Bool :=
  inventory.has candidate.name candidate.version

/-- A candidate counts if it has a version, or if no candidate of its name has one. -/
def CountsAmong (candidates : List Package) (candidate : Package) : Prop :=
  candidate.isPinned = true ∨
    ∀ other ∈ candidates, other.name = candidate.name → other.isPinned = false

/-- An identity is installed exactly if one of its candidates counts and passes. -/
theorem SumsUp.isInstalled_iff (sums : SumsUp identities candidates)
    (member : identity ∈ identities) :
    identity.isInstalled inventory = true ↔
      ∃ candidate ∈ candidates, candidate.name = identity.name ∧
        candidate.CountsAmong candidates ∧ candidate.passes inventory = true := by
  have versions := sums.mem_versions identity member
  by_cases unversioned : identity.versions.isEmpty = true
  · have unpinned : ∀ other ∈ candidates, other.name = identity.name → other.version = none := by
      rintro ⟨name, version⟩ listed same
      cases version with
      | none => rfl
      | some version =>
        obtain rfl : name = identity.name := same
        have found := (versions version).mpr listed
        rw [SortedSet.mem_def, List.isEmpty_iff.mp unversioned] at found
        exact absurd found List.not_mem_nil
    rw [Identity.isInstalled_of_isEmpty inventory unversioned]
    constructor
    · intro installed
      obtain ⟨candidate, listed, same⟩ := List.mem_map.mp
        ((sums.mem_names identity.name).mp (List.mem_map.mpr ⟨identity, member, rfl⟩))
      refine ⟨candidate, listed, same, Or.inr fun other otherListed otherSame => ?_, ?_⟩
      · rw [isPinned, unpinned other otherListed (otherSame.trans same)]
        rfl
      · rwa [passes, same, unpinned candidate listed same]
    · rintro ⟨candidate, listed, same, -, found⟩
      rwa [passes, same, unpinned candidate listed same] at found
  · rw [Identity.isInstalled_iff unversioned]
    constructor
    · rintro ⟨version, listed, installed⟩
      exact ⟨⟨identity.name, some version⟩, (versions version).mp listed, rfl, Or.inl rfl, installed⟩
    · rintro ⟨⟨name, version⟩, listed, rfl, counts, found⟩
      cases version with
      | some version => exact ⟨version, (versions version).mpr listed, found⟩
      | none =>
        -- A listed version comes from a candidate with this version, so this one does not count.
        obtain ⟨version, versionListed⟩ := List.exists_mem_of_ne_nil identity.versions.elements
          fun empty => unversioned (List.isEmpty_iff.mpr empty)
        rcases counts with pinned | alone
        · cases pinned
        · cases alone _ ((versions version).mp versionListed) rfl

/-- Whether a package is satisfied, told by its candidates one by one: for presence every name among
the candidates has one that counts and passes, and for absence some candidate counts and passes. -/
theorem isSatisfied_iff_candidates (inventory : Inventory) (providers : Providers)
    (package : Package) :
    let candidates := package.candidates providers
    (package.isSatisfied .all inventory providers = true ↔
      ∀ name ∈ candidates.map Package.name, ∃ candidate ∈ candidates, candidate.name = name ∧
        candidate.CountsAmong candidates ∧ candidate.passes inventory = true) ∧
    (package.isSatisfied .any inventory providers = true ↔
      ∃ candidate ∈ candidates,
        candidate.CountsAmong candidates ∧ candidate.passes inventory = true) := by
  intro candidates
  have sums : SumsUp (package.identities providers) candidates := sumsUp_identitiesOf candidates
  constructor
  · rw [isSatisfied, List.all_eq_true]
    constructor
    · intro all name named
      obtain ⟨identity, member, rfl⟩ := List.mem_map.mp ((sums.mem_names name).mpr named)
      exact (sums.isInstalled_iff member).mp (all identity member)
    · intro each identity member
      refine (sums.isInstalled_iff member).mpr (each identity.name ?_)
      exact (sums.mem_names identity.name).mp (List.mem_map.mpr ⟨identity, member, rfl⟩)
  · rw [isSatisfied, List.any_eq_true]
    constructor
    · rintro ⟨identity, member, installed⟩
      obtain ⟨candidate, listed, -, counts, found⟩ := (sums.isInstalled_iff member).mp installed
      exact ⟨candidate, listed, counts, found⟩
    · rintro ⟨candidate, listed, counts, found⟩
      obtain ⟨identity, member, same⟩ := List.mem_map.mp
        ((sums.mem_names candidate.name).mpr (List.mem_map.mpr ⟨candidate, listed, rfl⟩))
      exact ⟨identity, member,
        (sums.isInstalled_iff member).mpr ⟨candidate, listed, same.symm, counts, found⟩⟩

/-- A capability that any version of one package provides, and also a certain version of it. -/
def mixedEditor : Providers := fun name =>
  if name = "editor" then [⟨"vim", none⟩, ⟨"vim", some "8.0"⟩] else []

/-- Where another version is installed, the candidate without a version passes, but no rule is
satisfied. -/
theorem not_isSatisfied_mixedEditor :
    let inventory := Inventory.ofList [("vim", ["9.0"])]
    let editor : Package := ⟨"editor", none⟩
    let candidates := editor.candidates mixedEditor
    (∀ name ∈ candidates.map Package.name, ∃ candidate ∈ candidates,
        candidate.name = name ∧ candidate.passes inventory = true) ∧
      editor.isSatisfied .all inventory mixedEditor = false ∧
      (∃ candidate ∈ candidates, candidate.passes inventory = true) ∧
      editor.isSatisfied .any inventory mixedEditor = false := by
  decide

end FleetPlan.Package
