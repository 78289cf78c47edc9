import FleetPlan.Document.Record
import Mathlib.Data.List.Perm.Basic

/-!
# Other ways to write a value

The same record can be written in many ways: the entries of a table stand in any
order, and a field may be left out where its value is the one that is meant by
leaving it out. A rewriting says which values may be written for a value, and
rewritings of compound values are put together from rewritings of their parts. A
reader reads a value back when it finds the same meaning in all that may be
written for it (`Rewriting.ReadsBack`).

What a record needs to know of its rewritten fields is `FieldRules.Allows`: no
name stands twice, and at the name of each field there is a value that may be
written for its value, or nothing where that may be left out.
-/

namespace FleetPlan

open Value

/-- Which values may be written for a value. -/
structure Rewriting where
  relates : Value → Value → Prop
  /-- A value may be written as it is. -/
  refl (value : Value) : relates value value

namespace Rewriting

variable {α : Type}

/-- All that may be written for a value is read with one meaning. -/
def ReadsBack (rewriting : Rewriting) (read? : Value → Option α) (value : Value) (meant : α) :
    Prop :=
  ∀ other, rewriting.relates value other → read? other = some meant

/-- What is read back is read from the value itself. -/
theorem ReadsBack.self {rewriting : Rewriting} {read? : Value → Option α} {value : Value}
    {meant : α} (reads : rewriting.ReadsBack read? value meant) : read? value = some meant :=
  reads value (rewriting.refl value)

/-- Values that are written in one way only. -/
def exact : Rewriting where
  relates value other := other = value
  refl _ := rfl

/-- Reading back what is written in one way only is reading it. -/
theorem readsBack_exact_iff {read? : Value → Option α} {value : Value} {meant : α} :
    exact.ReadsBack read? value meant ↔ read? value = some meant := by
  constructor
  · exact ReadsBack.self
  · rintro reads other rfl
    exact reads

/-- Arrays, each item of which is rewritten where it stands. -/
def items (item : Rewriting) : Rewriting where
  relates value other :=
    match value with
    | .array items => ∃ others, other = .array others ∧ List.Forall₂ item.relates items others
    | _ => other = value
  refl value := by
    cases value with
    | array items => exact ⟨items, rfl, List.forall₂_same.mpr fun item' _ => item.refl item'⟩
    | _ => rfl

/-- Tables from keys to values of one type. Each value is rewritten, and the keys stand in any
order. -/
def entries (value : Rewriting) : Rewriting where
  relates whole other :=
    match whole with
    | .table entries =>
      ∃ rewritten others, other = .table others ∧
        List.Forall₂ (fun entry new => new.1 = entry.1 ∧ value.relates entry.2 new.2)
          entries rewritten ∧
        others.Perm rewritten
    | _ => other = whole
  refl whole := by
    cases whole with
    | table entries =>
      exact ⟨entries, entries, rfl,
        List.forall₂_same.mpr fun entry _ => ⟨rfl, value.refl entry.2⟩, .refl entries⟩
    | _ => rfl

end Rewriting

/-- What may become of a field of a record. -/
structure FieldRule where
  /-- The value that is meant where the field is left out, if it may be. -/
  default : Option Value
  rewriting : Rewriting

namespace FieldRule

/-- A field that is always there, written in one way only. -/
def fixed : FieldRule := ⟨none, .exact⟩

/-- A field that may be left out, and is else written in one way only. -/
def omittable (default : Value) : FieldRule := ⟨some default, .exact⟩

/-- What may be found at the name of a field that has a value. -/
inductive Allows (rule : FieldRule) (value : Value) : Option Value → Prop
  | kept {other : Value} (related : rule.rewriting.relates value other) :
      Allows rule value (some other)
  | leftOut (default : rule.default = some value) : Allows rule value none

end FieldRule

/-- What may become of the fields of a record, by name. Fields that are not named are fixed. -/
abbrev FieldRules := List (String × FieldRule)

namespace FieldRules

/-- The rule for a field. -/
def of (name : String) : FieldRules → FieldRule
  | [] => .fixed
  | rule :: rules => if rule.1 = name then rule.2 else of name rules

/-- Whether fields are some fields in their order, each rewritten or left out. -/
inductive Rewrites (rules : FieldRules) : Fields → Fields → Prop
  | nil : Rewrites rules [] []
  | keep {name : String} {value other : Value} {entries others : Fields}
      (related : (rules.of name).rewriting.relates value other)
      (rest : Rewrites rules entries others) :
      Rewrites rules ((name, value) :: entries) ((name, other) :: others)
  | leaveOut {name : String} {value : Value} {entries others : Fields}
      (default : (rules.of name).default = some value) (rest : Rewrites rules entries others) :
      Rewrites rules ((name, value) :: entries) others

/-- Fields may stay as they are. -/
theorem Rewrites.refl (rules : FieldRules) : ∀ entries : Fields, rules.Rewrites entries entries
  | [] => .nil
  | (name, value) :: entries => .keep ((rules.of name).rewriting.refl value) (.refl rules entries)

end FieldRules

namespace Rewriting

/-- Records: fields are rewritten or left out by their rules, and stand in any order. -/
def record (rules : FieldRules) : Rewriting where
  relates value other :=
    match value with
    | .table entries =>
      ∃ rewritten others, other = .table others ∧ rules.Rewrites entries rewritten ∧
        others.Perm rewritten
    | _ => other = value
  refl value := by
    cases value with
    | table entries => exact ⟨entries, entries, rfl, .refl rules entries, .refl entries⟩
    | _ => rfl

/-- The text in the field that tells which of several a record is. -/
def tagOf (tagName : String) : Value → Option String
  | .table entries => (Value.entry? tagName entries).bind asText?
  | _ => none

/-- Records that tell by a field which of several they are. That decides the rules for the others,
and is itself a field like them. -/
def tagged (tagName : String) (rules : Option String → FieldRules) : Rewriting where
  relates value := (record (rules (tagOf tagName value))).relates value
  refl value := (record (rules (tagOf tagName value))).refl value

end Rewriting

/-! ### Looking up in tables -/

namespace Value

/-- Tables are looked up as maps are. -/
theorem entry?_eq_lookupIn (key : String) (entries : Fields) :
    entry? key entries = SortedMap.lookupIn key entries := by
  induction entries with
  | nil => rfl
  | cons first rest hypothesis => simp only [Value.entry?, SortedMap.lookupIn, hypothesis]

/-- Among entries chosen by their keys, a chosen key is found as among all. -/
theorem entry?_filter {key : String} {entries : Fields} (isChosen : String → Bool)
    (chosen : isChosen key = true) :
    entry? key (entries.filter fun entry => isChosen entry.1) = entry? key entries := by
  induction entries with
  | nil => rfl
  | cons first rest hypothesis =>
    by_cases here : first.1 = key
    · simp [Value.entry?, here, chosen]
    · by_cases kept : isChosen first.1 = true <;> simp [Value.entry?, here, kept, hypothesis]

/-- Choosing entries repeats no key. -/
theorem nodup_filter {entries : Fields} (distinct : (entries.map (·.1)).Nodup)
    (isChosen : String × Value → Bool) : ((entries.filter isChosen).map (·.1)).Nodup :=
  distinct.sublist ((List.filter_sublist ..).map _)

end Value

namespace Fields

/-- The check for repeated names. -/
theorem areDistinct_iff {names : List String} : areDistinct names = true ↔ names.Nodup := by
  induction names with
  | nil => simp [areDistinct]
  | cons name names hypothesis => simp [areDistinct, hypothesis]

end Fields

/-! ### Rewritten fields -/

namespace FieldRules

/-- What a record needs to know of its fields after they were rewritten. -/
structure Allows (rules : FieldRules) (entries others : Fields) : Prop where
  distinct : (others.map (·.1)).Nodup
  found : ∀ entry ∈ entries, (rules.of entry.1).Allows entry.2 (Value.entry? entry.1 others)

variable {rules : FieldRules} {entries others : Fields}

/-- Where each rule leaves fields out or keeps them as they are, so does the rule of a name. -/
theorem of_rewriting_eq_exact (plain : ∀ rule ∈ rules, rule.2.rewriting = .exact)
    (name : String) : (rules.of name).rewriting = .exact := by
  induction rules with
  | nil => rfl
  | cons first rules hypothesis =>
    simp only [of]
    split
    · exact plain first (List.mem_cons_self ..)
    · exact hypothesis fun rule member => plain rule (List.mem_cons_of_mem _ member)

/-- Rewriting adds no names. -/
theorem Rewrites.sublist (rewrites : rules.Rewrites entries others) :
    (others.map (·.1)).Sublist (entries.map (·.1)) := by
  induction rewrites with
  | nil => exact .slnil
  | keep _ _ hypothesis => exact hypothesis.cons_cons _
  | leaveOut _ _ hypothesis => exact hypothesis.cons _

/-- What rewriting makes of the fields of a record is allowed. -/
theorem Rewrites.allows (rewrites : rules.Rewrites entries others)
    (distinct : (entries.map (·.1)).Nodup) : rules.Allows entries others := by
  refine ⟨distinct.sublist rewrites.sublist, ?_⟩
  induction rewrites with
  | nil => simp
  | @keep name value other entries others related rest hypothesis =>
    obtain ⟨absent, restDistinct⟩ := List.nodup_cons.mp distinct
    intro entry member
    rcases List.mem_cons.mp member with rfl | inside
    · simpa [Value.entry?] using FieldRule.Allows.kept related
    · have different : name ≠ entry.1 := fun same =>
        absent (List.mem_map.mpr ⟨entry, inside, same.symm⟩)
      simpa [Value.entry?, different] using hypothesis restDistinct entry inside
  | @leaveOut name value entries others default rest hypothesis =>
    obtain ⟨absent, restDistinct⟩ := List.nodup_cons.mp distinct
    intro entry member
    rcases List.mem_cons.mp member with rfl | inside
    · have missing : entry? name others = none := by
        rw [Value.entry?_eq_lookupIn, SortedMap.lookupIn_eq_none_iff]
        exact fun present => absent (rest.sublist.subset present)
      rw [missing]
      exact .leftOut default
    · exact hypothesis restDistinct entry inside

/-- What is allowed stays allowed in any order. -/
theorem Allows.perm {ordered : Fields} (allows : rules.Allows entries ordered)
    (order : others.Perm ordered) : rules.Allows entries others where
  distinct := (order.map _).nodup_iff.mpr allows.distinct
  found entry member := by
    have found := allows.found entry member
    rw [Value.entry?_eq_lookupIn] at found ⊢
    rwa [SortedMap.lookupIn_eq_of_perm allows.distinct order]

/-- Where fields are left out or kept as they are, every field left is one that was there. -/
theorem Rewrites.subset (rewrites : rules.Rewrites entries others)
    (plain : ∀ rule ∈ rules, rule.2.rewriting = .exact) : others ⊆ entries := by
  induction rewrites with
  | nil => exact fun _ member => member
  | @keep name value other entries others related rest hypothesis =>
    rw [of_rewriting_eq_exact plain] at related
    cases related
    exact List.cons_subset_cons _ hypothesis
  | leaveOut _ _ hypothesis => exact List.subset_cons_of_subset _ hypothesis

/-- The fields of a rewritten record can be read by the names that they are written with, and hold
what is allowed. -/
theorem Allows.ofValue? (allows : rules.Allows entries others) (strictness : Strictness) :
    ∃ known, Fields.ofValue? strictness (entries.map (·.1)) (.table others) = some known ∧
      ∀ entry ∈ entries, (rules.of entry.1).Allows entry.2 (Value.entry? entry.1 known) := by
  let names := entries.map (·.1)
  let known := others.filter fun entry => names.contains entry.1
  have distinct : Fields.areDistinct (known.map (·.1)) = true :=
    Fields.areDistinct_iff.mpr (nodup_filter allows.distinct _)
  refine ⟨known, if_pos distinct, fun entry member => ?_⟩
  have chosen : names.contains entry.1 = true :=
    List.contains_iff_mem.mpr (List.mem_map_of_mem member)
  rw [Value.entry?_filter names.contains chosen]
  exact allows.found entry member

/-- What may be written for a record has the fields of a record, with what is allowed in them. -/
theorem exists_fields_of_relates (strictness : Strictness) {other : Value}
    (distinct : (entries.map (·.1)).Nodup)
    (related : (Rewriting.record rules).relates (.table entries) other) :
    ∃ known, Fields.ofValue? strictness (entries.map (·.1)) other = some known ∧
      ∀ entry ∈ entries, (rules.of entry.1).Allows entry.2 (Value.entry? entry.1 known) := by
  obtain ⟨rewritten, others, rfl, rewrites, order⟩ := related
  exact ((rewrites.allows distinct).perm order).ofValue? strictness

/-- The tag of a rewritten record is found wherever it stands, and leaves the other fields. -/
theorem Allows.asTagged? {tagName tag : String}
    (allows : rules.Allows ((tagName, .text tag) :: entries) others)
    (always : rules.of tagName = .fixed) (apart : tagName ∉ entries.map (·.1)) :
    ∃ rest, (Value.table others).asTagged? tagName = some (tag, .table rest) ∧
      rules.Allows entries rest := by
  have tagFound : entry? tagName others = some (.text tag) := by
    have found := allows.found (tagName, .text tag) (List.mem_cons_self ..)
    rw [always] at found
    generalize entry? tagName others = written at found
    cases found with
    | kept related => exact congrArg some related
    | leftOut default => cases default
  have onlyTag : (others.filter fun entry => entry.1 = tagName) = [(tagName, .text tag)] := by
    rw [SortedMap.filter_key_eq allows.distinct, ← entry?_eq_lookupIn, tagFound]
    rfl
  refine ⟨others.filter fun entry => entry.1 ≠ tagName, ?_, nodup_filter allows.distinct _, ?_⟩
  · simp [Value.asTagged?, onlyTag]
  · intro entry member
    have different : entry.1 ≠ tagName := fun same =>
      apart (same ▸ List.mem_map_of_mem member)
    rw [Value.entry?_filter (· ≠ tagName) (by simpa using different)]
    exact allows.found entry (List.mem_cons_of_mem _ member)

end FieldRules

end FleetPlan
