import Mathlib.Data.List.Nodup
import FleetPlan.Proofs.Package.Candidates

/-!
# What grouping keeps of the candidates

Grouping candidates by name loses nothing and invents nothing: the identities stand
in the order in which their names first occur, and each has the versions that were
given for its name (`Package.identities_exactly`). They depend on which candidates
there are and on where a name first occurs, and on nothing else: a candidate that is
repeated changes nothing, and other orders only reorder the identities
(`Package.SumsUp.perm`), so that no rule tells them apart.
-/

namespace FleetPlan.Package

variable {identity : Identity} {identities others : List Identity} {candidate : Package}
  {candidates reordered : List Package}

/-- Adding a version that is listed changes nothing. -/
theorem Identity.add_of_listed {version : Option String}
    (listed : ∀ text ∈ version, text ∈ identity.versions) : identity.add version = identity := by
  cases version with
  | none => rfl
  | some text => rw [Identity.add, SortedSet.insert_of_mem (listed text rfl)]

/-- Adding a candidate whose name and version are listed changes nothing. -/
theorem addCandidate_of_listed (known : candidate.name ∈ identities.map Identity.name)
    (listed : ∀ identity ∈ identities, identity.name = candidate.name →
      ∀ text ∈ candidate.version, text ∈ identity.versions) :
    addCandidate candidate identities = identities := by
  induction identities with
  | nil => exact absurd known List.not_mem_nil
  | cons first rest inductionHypothesis =>
    obtain ⟨listedFirst, listedRest⟩ := List.forall_mem_cons.mp listed
    unfold addCandidate
    split
    · next same => rw [Identity.add_of_listed (listedFirst same)]
    · next other =>
      have knownLater : candidate.name ∈ rest.map Identity.name :=
        (List.mem_cons.mp known).resolve_left fun same => other same.symm
      rw [inductionHypothesis knownLater listedRest]

/-- Adding a candidate again changes nothing. -/
theorem SumsUp.addCandidate_of_mem (sums : SumsUp identities candidates)
    (repeated : candidate ∈ candidates) :
    Package.addCandidate candidate identities = identities := by
  obtain ⟨name, version⟩ := candidate
  refine addCandidate_of_listed ?_ ?_
  · exact (sums.mem_names name).mpr (List.mem_map_of_mem repeated)
  · rintro identity member rfl text rfl
    exact (sums.mem_versions identity member text).mpr repeated

/-- An identity that sums up some candidates is also there where the same candidates are summed up in
another order. -/
theorem SumsUp.mem_of_mem (sums : SumsUp identities candidates)
    (otherSums : SumsUp others reordered)
    (same : ∀ candidate, candidate ∈ reordered ↔ candidate ∈ candidates)
    (member : identity ∈ identities) : identity ∈ others := by
  have named : identity.name ∈ others.map Identity.name := by
    obtain ⟨candidate, listed, here⟩ := List.mem_map.mp
      ((sums.mem_names identity.name).mp (List.mem_map_of_mem member))
    exact (otherSums.mem_names identity.name).mpr
      (List.mem_map.mpr ⟨candidate, (same candidate).mpr listed, here⟩)
  obtain ⟨other, otherMember, sameName⟩ := List.mem_map.mp named
  have sameVersions : other.versions = identity.versions := by
    refine SortedSet.ext_mem fun version => ?_
    rw [otherSums.mem_versions other otherMember, sums.mem_versions identity member, sameName,
      same]
  have equal : other = identity := by
    cases other
    cases identity
    congr
  rwa [← equal]

/-- The identities depend, up to their order, only on which candidates there are. -/
theorem SumsUp.perm (sums : SumsUp identities candidates) (otherSums : SumsUp others reordered)
    (same : ∀ candidate, candidate ∈ reordered ↔ candidate ∈ candidates) :
    others.Perm identities := by
  have distinct : identities.Nodup := sums.distinct.of_map Identity.name
  have otherDistinct : others.Nodup := otherSums.distinct.of_map Identity.name
  rw [List.perm_ext_iff_of_nodup otherDistinct distinct]
  intro identity
  constructor
  · exact otherSums.mem_of_mem sums fun candidate => (same candidate).symm
  · exact sums.mem_of_mem otherSums same

/-- A candidate that is repeated behind its first occurrence changes nothing. -/
theorem identitiesOf_insert_of_mem {before : List Package} (repeated : candidate ∈ before)
    (after : List Package) :
    identitiesOf (before ++ candidate :: after) = identitiesOf (before ++ after) := by
  have same : addCandidate candidate (identitiesOf before) = identitiesOf before :=
    (sumsUp_identitiesOf before).addCandidate_of_mem repeated
  unfold identitiesOf at same ⊢
  rw [List.foldl_append, List.foldl_cons, same, List.foldl_append]

/-- The names of the identities stand in the order in which they first occur among the candidates. -/
theorem pairwise_name_identitiesOf (candidates : List Package) :
    ((identitiesOf candidates).map Identity.name).Pairwise fun first second =>
      (candidates.map Package.name).idxOf first < (candidates.map Package.name).idxOf second := by
  induction candidates using List.reverseRecOn with
  | nil => exact List.Pairwise.nil
  | append_singleton candidates candidate inductionHypothesis =>
    have named := (sumsUp_identitiesOf candidates).mem_names
    have kept : ((identitiesOf candidates).map Identity.name).Pairwise fun first second =>
        ((candidates ++ [candidate]).map Package.name).idxOf first <
          ((candidates ++ [candidate]).map Package.name).idxOf second := by
      refine inductionHypothesis.imp_of_mem fun firstListed secondListed earlier => ?_
      rwa [List.map_append, List.idxOf_append_of_mem ((named _).mp firstListed),
        List.idxOf_append_of_mem ((named _).mp secondListed)]
    rw [identitiesOf_concat, map_name_addCandidate]
    split
    · exact kept
    · next fresh =>
      refine List.pairwise_append.mpr ⟨kept, List.pairwise_singleton _ _, ?_⟩
      rintro first firstListed second secondNew
      rw [List.mem_singleton.mp secondNew, List.map_append,
        List.idxOf_append_of_mem ((named _).mp firstListed),
        List.idxOf_append_of_notMem fun listed => fresh ((named _).mpr listed)]
      exact Nat.lt_of_lt_of_le (List.idxOf_lt_length_of_mem ((named _).mp firstListed))
        (Nat.le_add_right _ _)

/-- A package with the same identities in another order is satisfied under the same rules. -/
theorem isSatisfied_of_perm {providers otherProviders : Providers} {package : Package}
    (order : (package.identities otherProviders).Perm (package.identities providers))
    (rule : MatchRule) (inventory : Inventory) :
    package.isSatisfied rule inventory otherProviders =
      package.isSatisfied rule inventory providers := by
  cases rule with
  | all => exact order.all_eq
  | any => exact order.any_eq

/-- The identities that are checked for a package sum up its candidates, in the order in which their
names first occur. A candidate that is repeated changes nothing, and another order of the candidates
changes at most the order of the identities, and under no rule and for no inventory the answer. -/
theorem identities_exactly (providers : Providers) (package : Package) :
    let candidates := package.candidates providers
    let names := candidates.map Package.name
    let identities := package.identities providers
    SumsUp identities candidates ∧
      ((identities.map Identity.name).Pairwise fun first second =>
        names.idxOf first < names.idxOf second) ∧
      (∀ others before repeated after, candidates = before ++ after → repeated ∈ before →
        package.candidates others = before ++ repeated :: after →
          package.identities others = identities) ∧
      ∀ others, (package.candidates others).Perm candidates →
        (package.identities others).Perm identities ∧
          ∀ rule inventory, package.isSatisfied rule inventory others =
            package.isSatisfied rule inventory providers := by
  intro candidates names identities
  have sums : SumsUp identities candidates := sumsUp_identitiesOf candidates
  refine ⟨sums, pairwise_name_identitiesOf candidates, ?_, ?_⟩
  · intro others before repeated after parts listed offered
    calc package.identities others
        = identitiesOf (before ++ repeated :: after) := congrArg identitiesOf offered
      _ = identitiesOf (before ++ after) := identitiesOf_insert_of_mem listed after
      _ = identities := congrArg identitiesOf parts.symm
  · intro others order
    have alike : (package.identities others).Perm identities :=
      sums.perm (sumsUp_identitiesOf _) fun _ => order.mem_iff
    exact ⟨alike, isSatisfied_of_perm alike⟩

/-- Any declared name stands for these candidates. -/
def offering (candidates : List Package) : Providers := fun _ => candidates

/-- A package offered at two versions, with another one between them: to repeat it changes nothing, and
turning the candidates round turns the identities round. -/
theorem identities_exactly_editors :
    let editor : Package := ⟨"editor", none⟩
    let front : List Package := [⟨"vim", some "9"⟩, ⟨"nano", none⟩]
    let back : List Package := [⟨"vim", some "8"⟩, ⟨"emacs", some "30"⟩]
    let identities := editor.identities (offering (front ++ back))
    let turned := editor.identities (offering (front ++ back).reverse)
    ⟨"vim", some "9"⟩ ∈ front ∧
      editor.identities (offering (front ++ ⟨"vim", some "9"⟩ :: back)) = identities ∧
      (front ++ back).reverse.Perm (front ++ back) ∧
      turned.Perm identities ∧ turned ≠ identities ∧
      ∀ rule inventory, editor.isSatisfied rule inventory (offering (front ++ back).reverse) =
        editor.isSatisfied rule inventory (offering (front ++ back)) := by
  intro editor front back identities turned
  have listed : ⟨"vim", some "9"⟩ ∈ front := by decide
  have order : (front ++ back).reverse.Perm (front ++ back) := List.reverse_perm _
  obtain ⟨-, -, repeats, reorders⟩ := identities_exactly (offering (front ++ back)) editor
  obtain ⟨alike, agree⟩ := reorders (offering (front ++ back).reverse) order
  exact ⟨listed, repeats _ front _ back rfl listed rfl, order, alike, by decide, agree⟩

end FleetPlan.Package
