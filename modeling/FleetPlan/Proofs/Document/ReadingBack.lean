import FleetPlan.Deploy.Writing
import FleetPlan.Proofs.Document.Rewriting

/-!
# Reading back what may be written

A reader for each kind of value reads back all that may be written for it, when
the readers of its parts do: arrays item by item, tables of keys and values in
whichever order they stand, and the fields of a record, required or with a
meaning of their own when they are left out.

Some readers first look whether the whole value can be read. That is settled for
the values that have no arrays or tables inside each other (`Value.IsPlain`).
-/

namespace FleetPlan

open Value

section Reading

variable {α : Type}

/-- A list is read when each of its items is. -/
theorem mapM_eq_some_of_forall₂ {β : Type} {read? : β → Option α} {items : List β}
    {meanings : List α}
    (reads : List.Forall₂ (fun item meaning => read? item = some meaning) items meanings) :
    items.mapM read? = some meanings := by
  induction reads with
  | nil => rfl
  | cons first _ hypothesis => simp [List.mapM_cons, first, hypothesis]

/-- An array is read back when each of its items is. -/
theorem Rewriting.readsBack_items {item : Rewriting} {read? : Value → Option α} {write : α → Value}
    (reads : ∀ meaning, item.ReadsBack read? (write meaning) meaning) (meanings : List α) :
    item.items.ReadsBack (asList? read?) (.array (meanings.map write)) meanings := by
  rintro other ⟨others, rfl, related⟩
  refine mapM_eq_some_of_forall₂ (List.Forall₂.flip ?_)
  exact (List.forall₂_map_left_iff.mp related).imp fun meaning item' written =>
    reads meaning item' written

/-- A table from keys to values is read back when each of the values is. -/
theorem Rewriting.readsBack_entries {value : Rewriting} {read? : Value → Option α}
    {write : α → Value} (reads : ∀ meaning, value.ReadsBack read? (write meaning) meaning)
    (map : SortedMap α) :
    value.entries.ReadsBack (asMap? read?)
      (.table (map.entries.map fun entry => (entry.1, write entry.2))) map := by
  rintro other ⟨rewritten, others, rfl, related, order⟩
  let readEntry : String × Value → Option (String × α) := fun entry =>
    (read? entry.2).map fun meaning => (entry.1, meaning)
  have readRewritten :
      List.Forall₂ (fun entry meaning => readEntry entry = some meaning) rewritten map.entries := by
    refine List.Forall₂.flip ((List.forall₂_map_left_iff.mp related).imp ?_)
    rintro entry new ⟨sameKey, written⟩
    simp [flip, readEntry, sameKey, reads entry.2 new.2 written]
  -- The readings follow the entries into their new order.
  obtain ⟨listed, readOthers, listedOrder⟩ :
      Relation.Comp (List.Forall₂ fun entry meaning => readEntry entry = some meaning) List.Perm
        others map.entries := by
    rw [List.forall₂_comp_perm_eq_perm_comp_forall₂]
    exact ⟨rewritten, order, readRewritten⟩
  calc (others.mapM readEntry).bind (fun listed => some (SortedMap.ofList listed))
    _ = some (SortedMap.ofList listed) := by
        rw [mapM_eq_some_of_forall₂ readOthers, Option.bind_some]
    _ = some map := by rw [SortedMap.ofList_eq_of_perm listedOrder]

namespace FieldRule.Allows

variable {rule : FieldRule} {value : Value} {fields : Fields} {name : String}
  {read? : Value → Option α} {meant : α}

/-- A field that is always there is read back. -/
theorem required (allowed : rule.Allows value (Value.entry? name fields))
    (always : rule.default = none) (reads : rule.rewriting.ReadsBack read? value meant) :
    fields.required name read? = some meant := by
  unfold Fields.required
  generalize entry? name fields = written at allowed ⊢
  cases allowed with
  | kept related => exact reads _ related
  | leftOut default =>
    rw [always] at default
    cases default

/-- A field that may be left out is read back, where its reader knows the meaning of that. -/
theorem withDefault {default : α} (allowed : rule.Allows value (Value.entry? name fields))
    (declared : rule.default.bind read? = some default)
    (reads : rule.rewriting.ReadsBack read? value meant) :
    fields.withDefault name default read? = some meant := by
  unfold Fields.withDefault
  generalize entry? name fields = written at allowed ⊢
  cases allowed with
  | kept related => exact reads _ related
  | leftOut leftOutAt =>
    -- Both readings are of the value that the field had.
    rw [leftOutAt] at declared
    exact declared.symm.trans reads.self

end FieldRule.Allows

end Reading

/-! ### Values of each type -/

namespace Value

/-- A text is read back. -/
@[simp] theorem asText?_text (content : String) : asText? (.text content) = some content := rfl

/-- A truth value is read back. -/
@[simp] theorem asBool?_bool (truth : Bool) : asBool? (.bool truth) = some truth := rfl

/-- A count that fits into a word of the machine is read back. -/
theorem asCount?_integer {count : Nat} (bounded : count < UInt64.size) :
    asCount? (.integer count) = some count := by
  have inRange : 0 ≤ (count : Int) ∧ (count : Int) < (UInt64.size : Int) := by omega
  rw [asCount?, if_pos inRange, Int.toNat_natCast]

/-- Items that are written in one way are read back. -/
theorem asList?_map {α : Type} {read? : Value → Option α} {write : α → Value}
    (reads : ∀ meaning, read? (write meaning) = some meaning) (meanings : List α) :
    asList? read? (.array (meanings.map write)) = some meanings :=
  (Rewriting.readsBack_items (fun meaning => Rewriting.readsBack_exact_iff.mpr (reads meaning))
    meanings).self

/-- Texts are read back. -/
@[simp] theorem asList?_ofTexts (texts : List String) :
    asList? asText? (ofTexts texts) = some texts :=
  asList?_map asText?_text texts

/-- A set is read back. -/
@[simp] theorem asSet?_ofSet (set : SortedSet) : asSet? (ofSet set) = some set := by
  simp [asSet?, ofSet]

/-- A map with values that are written in one way is read back from any order. -/
theorem readsBack_ofMap {α : Type} {read? : Value → Option α} {write : α → Value}
    (reads : ∀ meaning, read? (write meaning) = some meaning) (map : SortedMap α) :
    Rewriting.exact.entries.ReadsBack (asMap? read?) (ofMap write map) map :=
  Rewriting.readsBack_entries (fun meaning => Rewriting.readsBack_exact_iff.mpr (reads meaning))
    map

end Value

namespace FieldRule.Allows

variable {fields : Fields} {name : String}

/-- A text that is always there. -/
theorem text {content : String}
    (allowed : FieldRule.fixed.Allows (.text content) (Value.entry? name fields)) :
    fields.required name asText? = some content :=
  allowed.required rfl (Rewriting.readsBack_exact_iff.mpr rfl)

/-- Texts that are always there. -/
theorem texts {contents : List String}
    (allowed : FieldRule.fixed.Allows (ofTexts contents) (Value.entry? name fields)) :
    fields.required name (asList? asText?) = some contents :=
  allowed.required rfl (Rewriting.readsBack_exact_iff.mpr (asList?_ofTexts contents))

/-- A text that may be left out for another. -/
theorem textOr {content default : String}
    (allowed :
      (FieldRule.omittable (.text default)).Allows (.text content) (Value.entry? name fields)) :
    fields.withDefault name default asText? = some content :=
  allowed.withDefault rfl (Rewriting.readsBack_exact_iff.mpr rfl)

/-- A truth value that may be left out. -/
theorem truth {truth default : Bool}
    (allowed :
      (FieldRule.omittable (.bool default)).Allows (.bool truth) (Value.entry? name fields)) :
    fields.withDefault name default asBool? = some truth :=
  allowed.withDefault rfl (Rewriting.readsBack_exact_iff.mpr rfl)

/-- A value that may be nothing, and may be left out then. -/
theorem optional {α : Type} {value : Value} {read? : Value → Option α} {meant : Option α}
    (allowed : (FieldRule.omittable .null).Allows value (Value.entry? name fields))
    (reads : asOptional? read? value = some meant) : fields.optional name read? = some meant :=
  allowed.withDefault rfl (Rewriting.readsBack_exact_iff.mpr reads)

/-- A text that may be left out. -/
theorem optionalText {content : Option String}
    (allowed :
      (FieldRule.omittable .null).Allows (ofOptionalText content) (Value.entry? name fields)) :
    fields.optional name asText? = some content :=
  allowed.optional (by cases content <;> rfl)

/-- A truth value that may be left out without having a default. -/
theorem optionalTruth {truth : Option Bool}
    (allowed :
      (FieldRule.omittable .null).Allows (ofOptionalBool truth) (Value.entry? name fields)) :
    fields.optional name asBool? = some truth :=
  allowed.optional (by cases truth <;> rfl)

end FieldRule.Allows

/-! ### Plain values -/

namespace Value

/-- A value that can be read, and has no array or table inside an array or table. -/
structure IsPlain (value : Value) : Prop where
  readable : value.isReadable = true
  shallow (depth : Nat) : value.nestsWithin (depth + 1) = true

/-- Truth values are plain. -/
@[simp] theorem isPlain_bool (truth : Bool) : (Value.bool truth).IsPlain := ⟨rfl, fun _ => rfl⟩

/-- Texts are plain. -/
@[simp] theorem isPlain_text (content : String) : (Value.text content).IsPlain :=
  ⟨rfl, fun _ => rfl⟩

/-- Texts that may be nothing are plain. -/
@[simp] theorem isPlain_ofOptionalText (content : Option String) :
    (ofOptionalText content).IsPlain := by
  cases content <;> exact ⟨rfl, fun _ => rfl⟩

/-- Truth values that may be nothing are plain. -/
@[simp] theorem isPlain_ofOptionalBool (truth : Option Bool) : (ofOptionalBool truth).IsPlain := by
  cases truth <;> exact ⟨rfl, fun _ => rfl⟩

/-- An array of texts is plain. -/
@[simp] theorem isPlain_ofTexts (contents : List String) : (ofTexts contents).IsPlain := by
  constructor
  · induction contents with
    | nil => rfl
    | cons first rest hypothesis => exact hypothesis
  · intro depth
    induction contents with
    | nil => rfl
    | cons first rest hypothesis => exact hypothesis

/-- A table can be read when all its values can. -/
theorem isReadable_table_iff {entries : Fields} :
    (Value.table entries).isReadable = true ↔ ∀ entry ∈ entries, entry.2.isReadable = true := by
  change areEntriesReadable entries = true ↔ _
  induction entries with
  | nil => simp [areEntriesReadable]
  | cons first rest hypothesis => simp [areEntriesReadable, hypothesis]

/-- A table is one deeper than its values. -/
theorem nestsWithin_table_iff {entries : Fields} {depth : Nat} :
    (Value.table entries).nestsWithin (depth + 1) = true ↔
      ∀ entry ∈ entries, entry.2.nestsWithin depth = true := by
  change entriesNestWithin depth entries = true ↔ _
  induction entries with
  | nil => simp [entriesNestWithin]
  | cons first rest hypothesis => simp [entriesNestWithin, hypothesis]

end Value

end FleetPlan
