import FleetPlan.Package

/-!
# Entries and the packages they declare

An entry is cut at the rightmost occurrence of the separator, also where occurrences
overlap (`Package.ofEntry_eq_pinned_iff`). What is read from an entry is written as
this entry again (`Package.token_ofEntry`). What is written of a package is read as
this package again exactly if nothing else could be meant by it
(`Package.IsUnambiguous`): a name must not contain the separator, and behind the
separator that is put in no other occurrence may start.
-/

namespace FleetPlan.Package

/-- A name and a version are what an entry has before and after the rightmost occurrence of a
separator. -/
structure IsLastCut (mark entry name version : String) : Prop where
  whole : entry = name ++ mark ++ version
  last : ∀ front rest, entry = front ++ mark ++ rest → front.length ≤ name.length

/-- A separator occurs in a text nowhere but at its beginning. -/
def OccursOnlyAtStart (mark text : String) : Prop :=
  ∀ front rest, text = front ++ mark ++ rest → front = ""

/-- A package that its entry tells: without a version its name does not contain a separator that cuts,
and with a version there is such a separator, which does not occur again behind its beginning. -/
def IsUnambiguous (separator : Option String) (package : Package) : Prop :=
  match package.version with
  | none => ∀ mark ∈ separator, mark = "" ∨ ∀ front rest, package.name ≠ front ++ mark ++ rest
  | some version => ∃ mark ∈ separator, mark ≠ "" ∧ OccursOnlyAtStart mark (mark ++ version)

variable {mark entry name version : String} {separator : Option String}

/-- An entry is written again as it was read. -/
theorem token_ofEntry (separator : Option String) (entry : String) :
    (ofEntry separator entry).token separator = entry := by
  unfold ofEntry
  split
  · rfl
  · next written =>
    split
    · rfl
    · split
      · next name version cut =>
        apply String.toList_injective
        simpa [token] using (Text.append_of_cutLast? cut).symm
      · rfl

/-- Either there is a separator that cuts, or no entry is cut. -/
theorem uncut_or_cuts (separator : Option String) :
    (∀ mark ∈ separator, mark = "") ∨ ∃ mark, separator = some mark ∧ mark ≠ "" := by
  cases separator with
  | none => exact Or.inl fun mark given => nomatch given
  | some mark =>
    by_cases empty : mark = ""
    · exact Or.inl fun _ given => (Option.some.inj given).symm.trans empty
    · exact Or.inr ⟨mark, rfl, empty⟩

/-- Without a separator that cuts, an entry is a name. -/
theorem ofEntry_of_no_mark (uncut : ∀ mark ∈ separator, mark = "") (entry : String) :
    ofEntry separator entry = ⟨entry, none⟩ := by
  unfold ofEntry
  split
  · rfl
  · next mark =>
    obtain rfl : mark = "" := uncut mark rfl
    rfl

/-- The rightmost occurrence is where the characters of an entry are cut. -/
theorem cutLast?_eq_some_iff_isLastCut :
    Text.cutLast? mark.toList entry.toList = some (name.toList, version.toList) ↔
      IsLastCut mark entry name version := by
  rw [Text.cutLast?_eq_some_iff]
  constructor
  · rintro ⟨whole, last⟩
    refine ⟨String.toList_injective (by simpa using whole), fun front rest other => ?_⟩
    rw [← String.length_toList, ← String.length_toList]
    exact last front.toList rest.toList (by simp [other])
  · rintro ⟨rfl, last⟩
    refine ⟨by simp, fun front rest other => ?_⟩
    rw [String.length_toList, ← String.length_ofList]
    exact last (String.ofList front) (String.ofList rest)
      (String.toList_injective (by simpa using other))

/-- With a separator, a name and a version are read exactly from the entries that have them around
the rightmost occurrence of the separator. -/
theorem ofEntry_eq_pinned_iff (cuts : mark ≠ "") :
    ofEntry (some mark) entry = ⟨name, some version⟩ ↔ IsLastCut mark entry name version := by
  have nonempty : mark.isEmpty = false := by simpa using cuts
  simp only [ofEntry, nonempty, ← cutLast?_eq_some_iff_isLastCut]
  cases cut : Text.cutLast? mark.toList entry.toList with
  | none => simp
  | some parts =>
    obtain ⟨front, rest⟩ := parts
    simp only [Bool.false_eq_true, if_false, Package.mk.injEq, Option.some.injEq, Prod.mk.injEq]
    rw [← String.toList_inj, ← String.toList_inj, String.toList_ofList, String.toList_ofList]

/-- With a separator, an entry is read as a name exactly if it does not contain the separator. -/
theorem ofEntry_eq_unpinned_iff (cuts : mark ≠ "") :
    ofEntry (some mark) entry = ⟨entry, none⟩ ↔ ∀ front rest, entry ≠ front ++ mark ++ rest := by
  have nonempty : mark.isEmpty = false := by simpa using cuts
  have apart : Text.cutLast? mark.toList entry.toList = none ↔
      ∀ front rest, entry ≠ front ++ mark ++ rest := by
    rw [Text.cutLast?_eq_none_iff]
    constructor
    · intro apart front rest whole
      exact apart front.toList rest.toList (by simp [whole])
    · intro apart front rest whole
      exact apart (String.ofList front) (String.ofList rest)
        (String.toList_injective (by simpa using whole))
  rw [← apart]
  simp only [ofEntry, nonempty]
  cases Text.cutLast? mark.toList entry.toList <;> simp

/-- Behind a name, a separator and a version follow its rightmost occurrence exactly if it occurs
again nowhere behind its own beginning. -/
theorem isLastCut_append_iff :
    IsLastCut mark (name ++ mark ++ version) name version ↔
      OccursOnlyAtStart mark (mark ++ version) := by
  constructor
  · rintro ⟨-, last⟩ front rest other
    have within := last (name ++ front) rest
      (by rw [String.append_assoc, other]; simp only [String.append_assoc])
    rw [String.length_append] at within
    exact String.length_eq_zero_iff.mp (by omega)
  · intro onlyAtStart
    refine ⟨rfl, fun front rest other => ?_⟩
    have chars : name.toList ++ (mark ++ version).toList = front.toList ++ (mark ++ rest).toList := by
      simpa [String.append_assoc] using congrArg String.toList other
    rcases List.append_eq_append_iff.mp chars with ⟨between, longer, tail⟩ | ⟨between, shorter, -⟩
    · -- A later occurrence lies within the separator and the version.
      have atStart := onlyAtStart (String.ofList between) rest
        (String.toList_injective (by simpa using tail))
      have same : front.toList = name.toList := by
        rw [longer, show between = [] by simpa using congrArg String.toList atStart, List.append_nil]
      exact Nat.le_of_eq (congrArg String.length (String.toList_injective same))
    · rw [← String.length_toList, ← String.length_toList, shorter]
      simp

/-- The entry of a package is read as this package exactly if it is unambiguous. -/
theorem ofEntry_token_iff (separator : Option String) (package : Package) :
    ofEntry separator (package.token separator) = package ↔ package.IsUnambiguous separator := by
  obtain ⟨name, version⟩ := package
  rcases uncut_or_cuts separator with uncut | ⟨mark, rfl, cuts⟩
  · rw [ofEntry_of_no_mark uncut]
    cases version with
    | none => simpa [token, IsUnambiguous] using fun mark given => Or.inl (uncut mark given)
    | some version =>
      refine iff_of_false (by simp) ?_
      rintro ⟨mark, given, cuts, -⟩
      exact cuts (uncut mark given)
  · cases version with
    | none => simpa [token, IsUnambiguous, cuts] using ofEntry_eq_unpinned_iff cuts
    | some version =>
      simp only [token, Option.getD_some, IsUnambiguous]
      rw [ofEntry_eq_pinned_iff cuts, isLastCut_append_iff]
      simp [cuts]

/-- Whatever the separator, an entry is written again as it was read, a package is read again as it
was written exactly if its entry is unambiguous, and a version is what follows the rightmost
occurrence of a separator. -/
theorem entries_round_trip (separator : Option String) :
    (∀ entry, (ofEntry separator entry).token separator = entry) ∧
      (∀ package : Package,
        ofEntry separator (package.token separator) = package ↔
          package.IsUnambiguous separator) ∧
      ∀ entry name version, ofEntry separator entry = ⟨name, some version⟩ ↔
        ∃ mark ∈ separator, mark ≠ "" ∧ IsLastCut mark entry name version := by
  refine ⟨token_ofEntry separator, ofEntry_token_iff separator, fun entry name version => ?_⟩
  rcases uncut_or_cuts separator with uncut | ⟨mark, rfl, cuts⟩
  · rw [ofEntry_of_no_mark uncut]
    refine iff_of_false (by simp) ?_
    rintro ⟨mark, given, cuts, -⟩
    exact cuts (uncut mark given)
  · simpa [cuts] using ofEntry_eq_pinned_iff cuts

/-- Where occurrences of the separator overlap, the rightmost one counts, so a version that starts with
a part of the separator is not read again as it was written. -/
example :
    ofEntry (some "==") "a===1" = ⟨"a=", some "1"⟩ ∧
      ofEntry (some "==") ((Package.mk "a" (some "=1")).token (some "==")) ≠ ⟨"a", some "=1"⟩ := by
  decide

end FleetPlan.Package
