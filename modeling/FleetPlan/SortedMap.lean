/-!
# Maps and sets ordered by their keys

`SortedMap α` is a finite map from text to `α` whose entries stand in ascending
order of their keys, and `SortedSet` is a finite set of texts in ascending order.
The order is that of the code points, which is also the order of the UTF-8 bytes
(`Text.bytes_lt_iff`).
The order is part of each type, so a map is determined by its look-ups
(`SortedMap.ext_get?`) and a set by its members (`SortedSet.ext_mem`).
-/

namespace FleetPlan

universe u v

/-- A finite map from text whose entries ascend strictly by key. -/
structure SortedMap (α : Type u) where
  entries : List (String × α)
  ascending : entries.Pairwise fun left right => left.1 < right.1

namespace SortedMap

variable {α : Type u} {β : Type v}

/-- Two maps with the same entries are the same map, as the order is a mere property of them. -/
@[ext] theorem ext_entries {left right : SortedMap α} (same : left.entries = right.entries) :
    left = right := by
  cases left; cases right; cases same; rfl

instance [DecidableEq α] : DecidableEq (SortedMap α) := fun left right =>
  decidable_of_iff (left.entries = right.entries)
    ⟨ext_entries, fun same => congrArg entries same⟩

instance [Repr α] : Repr (SortedMap α) where
  reprPrec map := reprPrec map.entries

/-- The map with no entries. -/
def empty : SortedMap α := ⟨[], List.Pairwise.nil⟩

instance : EmptyCollection (SortedMap α) := ⟨empty⟩
instance : Inhabited (SortedMap α) := ⟨empty⟩

/-- The keys in ascending order. -/
def keys (map : SortedMap α) : List String := map.entries.map (·.1)

/-- The number of keys. -/
def size (map : SortedMap α) : Nat := map.entries.length

/-- Whether the map has no entries. -/
def isEmpty (map : SortedMap α) : Bool := map.entries.isEmpty

/-- The first value listed for a key. -/
def lookupIn (key : String) : List (String × α) → Option α
  | [] => none
  | entry :: rest => if entry.1 = key then some entry.2 else lookupIn key rest

/-- The value stored for a key. -/
def get? (map : SortedMap α) (key : String) : Option α := lookupIn key map.entries

/-- Whether a key has a value. -/
def contains (map : SortedMap α) (key : String) : Bool := (map.get? key).isSome

/-- Put an entry at its place in an ascending list, replacing the entry with its key. -/
def insertIn (key : String) (value : α) : List (String × α) → List (String × α)
  | [] => [(key, value)]
  | entry :: rest =>
    if key < entry.1 then (key, value) :: entry :: rest
    else if key = entry.1 then (key, value) :: rest
    else entry :: insertIn key value rest

/-- The keys after an insertion are the old ones and the new one. -/
theorem mem_insertIn {key : String} {value : α} {entries : List (String × α)}
    {entry : String × α} (member : entry ∈ insertIn key value entries) :
    entry = (key, value) ∨ entry ∈ entries := by
  induction entries with
  | nil => simpa [insertIn] using member
  | cons first rest hypothesis =>
    simp only [insertIn] at member
    split at member
    · simpa using member
    · split at member
      · rcases List.mem_cons.mp member with same | inside
        · exact Or.inl same
        · exact Or.inr (List.mem_cons_of_mem _ inside)
      · rcases List.mem_cons.mp member with same | inside
        · exact Or.inr (by simp [same])
        · rcases hypothesis inside with same | inside
          · exact Or.inl same
          · exact Or.inr (List.mem_cons_of_mem _ inside)

/-- Insertion keeps the entries in ascending order. -/
theorem pairwise_insertIn {key : String} {value : α} {entries : List (String × α)}
    (ascending : entries.Pairwise fun left right => left.1 < right.1) :
    (insertIn key value entries).Pairwise fun left right => left.1 < right.1 := by
  induction entries with
  | nil => simp [insertIn]
  | cons first rest hypothesis =>
    obtain ⟨below, restAscending⟩ := List.pairwise_cons.mp ascending
    simp only [insertIn]
    split
    · next before =>
      refine List.pairwise_cons.mpr ⟨?_, ascending⟩
      intro entry member
      rcases List.mem_cons.mp member with rfl | inside
      · exact before
      · exact String.lt_trans before (below entry inside)
    · next notBefore =>
      split
      · next same =>
        subst same
        exact List.pairwise_cons.mpr ⟨below, restAscending⟩
      · next different =>
        refine List.pairwise_cons.mpr ⟨?_, hypothesis restAscending⟩
        intro entry member
        rcases mem_insertIn member with rfl | inside
        · have atMost : first.1 ≤ key := String.not_lt.mp notBefore
          exact String.not_le.mp fun back =>
            different (String.le_antisymm back atMost)
        · exact below entry inside

/-- Store a value for a key, replacing what was stored for it. -/
def insert (map : SortedMap α) (key : String) (value : α) : SortedMap α :=
  ⟨insertIn key value map.entries, pairwise_insertIn map.ascending⟩

/-- Forget a key and its value. -/
def erase (map : SortedMap α) (key : String) : SortedMap α :=
  ⟨map.entries.filter fun entry => entry.1 ≠ key, map.ascending.filter _⟩

/-- Take a key out of a map: what was stored for it, and the map without its entry. -/
def takeOut (map : SortedMap α) (key : String) : Option α × SortedMap α :=
  ((map.entries.find? fun entry => entry.1 = key).map (·.2),
    ⟨map.entries.eraseP fun entry => entry.1 = key, map.ascending.sublist List.eraseP_sublist⟩)

/-- The map with the listed entries, the last one counting where a key is repeated. -/
def ofList (entries : List (String × α)) : SortedMap α :=
  entries.foldl (fun map entry => map.insert entry.1 entry.2) empty

/-- The map with each value transformed. -/
def mapValues (transform : α → β) (map : SortedMap α) : SortedMap β :=
  ⟨map.entries.map fun entry => (entry.1, transform entry.2),
    List.pairwise_map.mpr map.ascending⟩

/-- Nothing is found exactly for a key that is not listed. -/
theorem lookupIn_eq_none_iff {key : String} {entries : List (String × α)} :
    lookupIn key entries = none ↔ key ∉ entries.map (·.1) := by
  induction entries with
  | nil => simp [lookupIn]
  | cons first rest hypothesis =>
    by_cases here : first.1 = key
    · simp [lookupIn, here]
    · have other : key ≠ first.1 := fun same => here same.symm
      simpa [lookupIn, here, other] using hypothesis

/-- Below the first key there is nothing to find. -/
theorem lookupIn_eq_none_of_below {key : String} {entries : List (String × α)}
    (below : ∀ entry ∈ entries, key < entry.1) : lookupIn key entries = none := by
  rw [lookupIn_eq_none_iff]
  intro listed
  obtain ⟨entry, member, rfl⟩ := List.mem_map.mp listed
  exact String.lt_irrefl entry.1 (below entry member)

/-- Looking up after an insertion finds the new value at its key and the old values elsewhere. -/
theorem lookupIn_insertIn {key wanted : String} {value : α} {entries : List (String × α)} :
    lookupIn wanted (insertIn key value entries) =
      if key = wanted then some value else lookupIn wanted entries := by
  induction entries with
  | nil => simp [insertIn, lookupIn]
  | cons first rest hypothesis =>
    simp only [insertIn]
    split
    · simp [lookupIn]
    · split
      · next same =>
        subst same
        by_cases here : first.1 = wanted <;> simp [lookupIn, here]
      · next different =>
        by_cases here : first.1 = wanted
        · have other : key ≠ wanted := fun same => different (same.trans here.symm)
          simp [lookupIn, here, other]
        · simp [lookupIn, here, hypothesis]

/-- Insertion changes the value of its own key only. -/
@[simp] theorem get?_insert (map : SortedMap α) (key wanted : String) (value : α) :
    (map.insert key value).get? wanted = if key = wanted then some value else map.get? wanted :=
  lookupIn_insertIn

/-- Looking up in a list without one key. -/
theorem lookupIn_filter {key wanted : String} {entries : List (String × α)} :
    lookupIn wanted (entries.filter fun entry => entry.1 ≠ key) =
      if key = wanted then none else lookupIn wanted entries := by
  induction entries with
  | nil => simp [lookupIn]
  | cons first rest hypothesis =>
    by_cases dropped : first.1 = key
    · by_cases here : key = wanted
      · simp_all
      · have other : first.1 ≠ wanted := fun same => here (dropped.symm.trans same)
        simp_all [lookupIn]
    · by_cases here : first.1 = wanted
      · have other : key ≠ wanted := fun same => dropped (here.trans same.symm)
        simp_all [lookupIn]
      · simp_all [lookupIn]

/-- Erasing removes the value of its own key only. -/
@[simp] theorem get?_erase (map : SortedMap α) (key wanted : String) :
    (map.erase key).get? wanted = if key = wanted then none else map.get? wanted :=
  lookupIn_filter

/-- Nothing is stored in the empty map. -/
@[simp] theorem get?_empty (key : String) : (empty : SortedMap α).get? key = none := rfl

/-- No key stands twice in an ascending list. -/
theorem nodup_of_ascending {entries : List (String × α)}
    (ascending : entries.Pairwise fun left right => left.1 < right.1) :
    (entries.map (·.1)).Nodup :=
  List.pairwise_map.mpr (ascending.imp String.ne_of_lt)

/-- An entry of a list in which no key stands twice is what a look-up of its key finds. -/
theorem lookupIn_eq_some_iff {entries : List (String × α)} {key : String} {value : α}
    (distinct : (entries.map (·.1)).Nodup) :
    lookupIn key entries = some value ↔ (key, value) ∈ entries := by
  induction entries with
  | nil => simp [lookupIn]
  | cons first rest hypothesis =>
    obtain ⟨absent, restDistinct⟩ := List.nodup_cons.mp distinct
    obtain ⟨firstKey, firstValue⟩ := first
    by_cases here : firstKey = key
    · subst here
      have notAgain : (firstKey, value) ∉ rest := fun inside =>
        absent (List.mem_map.mpr ⟨_, inside, rfl⟩)
      simp [lookupIn, notAgain, eq_comm]
    · have other : key ≠ firstKey := fun same => here same.symm
      simp [lookupIn, here, other, hypothesis restDistinct]

/-- Where no key stands twice, look-ups do not depend on the order. -/
theorem lookupIn_eq_of_perm {entries others : List (String × α)}
    (distinct : (entries.map (·.1)).Nodup) (order : others.Perm entries) (key : String) :
    lookupIn key others = lookupIn key entries := by
  have othersDistinct : (others.map (·.1)).Nodup := (order.map _).nodup_iff.mpr distinct
  refine Option.ext fun value => ?_
  rw [lookupIn_eq_some_iff othersDistinct, lookupIn_eq_some_iff distinct, order.mem_iff]

/-- A map stores exactly the values that its entries list. -/
theorem get?_eq_some_iff {map : SortedMap α} {key : String} {value : α} :
    map.get? key = some value ↔ (key, value) ∈ map.entries :=
  lookupIn_eq_some_iff (nodup_of_ascending map.ascending)

/-- The entries with one key are what a look-up of the key finds. -/
theorem filter_key_eq {entries : List (String × α)} {key : String}
    (distinct : (entries.map (·.1)).Nodup) :
    (entries.filter fun entry => entry.1 = key) = (lookupIn key entries).toList.map (key, ·) := by
  induction entries with
  | nil => rfl
  | cons first rest hypothesis =>
    obtain ⟨absent, restDistinct⟩ := List.nodup_cons.mp distinct
    have restOnly := hypothesis restDistinct
    by_cases here : first.1 = key
    · obtain ⟨firstKey, firstValue⟩ := first
      subst here
      rw [lookupIn_eq_none_iff.mpr absent] at restOnly
      simp [lookupIn, restOnly]
    · simp [lookupIn, here, restOnly]

/-- A map has one entry for a key that it stores a value for. -/
theorem filter_entries_of_get? {map : SortedMap α} {key : String} {value : α}
    (stored : map.get? key = some value) :
    (map.entries.filter fun entry => entry.1 = key) = [(key, value)] := by
  have found : lookupIn key map.entries = some value := stored
  rw [filter_key_eq (nodup_of_ascending map.ascending), found]
  rfl

/-- A look-up finds the value of the first entry with the key. -/
theorem map_find?_eq_lookupIn {entries : List (String × α)} {key : String} :
    (entries.find? fun entry => entry.1 = key).map (·.2) = lookupIn key entries := by
  induction entries with
  | nil => rfl
  | cons first rest hypothesis =>
    by_cases here : first.1 = key <;> simp [lookupIn, here, hypothesis]

/-- Where no key stands twice, none of the entries behind the first one with a key has that key. -/
theorem eraseP_key_eq_filter {entries : List (String × α)} {key : String}
    (distinct : (entries.map (·.1)).Nodup) :
    (entries.eraseP fun entry => entry.1 = key) = entries.filter fun entry => entry.1 ≠ key := by
  induction entries with
  | nil => rfl
  | cons first rest hypothesis =>
    obtain ⟨absent, restDistinct⟩ := List.nodup_cons.mp distinct
    by_cases here : first.1 = key
    · have notAgain : (rest.filter fun entry => entry.1 ≠ key) = rest := by
        refine List.filter_eq_self.mpr fun entry member => decide_eq_true fun same => absent ?_
        exact List.mem_map.mpr ⟨entry, member, same.trans here.symm⟩
      rw [List.eraseP_cons_of_pos (by simp [here]), List.filter_cons_of_neg (by simp [here]),
        notAgain]
    · rw [List.eraseP_cons_of_neg (by simp [here]), List.filter_cons_of_pos (by simp [here]),
        hypothesis restDistinct]

/-- Taking a key out gives what a look-up finds for it, and forgets it. -/
theorem takeOut_eq (map : SortedMap α) (key : String) :
    map.takeOut key = (map.get? key, map.erase key) := by
  refine Prod.ext map_find?_eq_lookupIn (ext_entries ?_)
  exact eraseP_key_eq_filter (nodup_of_ascending map.ascending)

/-- Ascending lists with the same look-ups are equal. -/
theorem eq_of_lookupIn_eq {left right : List (String × α)}
    (leftAscending : left.Pairwise fun first second => first.1 < second.1)
    (rightAscending : right.Pairwise fun first second => first.1 < second.1)
    (same : ∀ key, lookupIn key left = lookupIn key right) : left = right := by
  induction left generalizing right with
  | nil =>
    cases right with
    | nil => rfl
    | cons first rest => simpa [lookupIn] using same first.1
  | cons first rest hypothesis =>
    cases right with
    | nil => simpa [lookupIn] using same first.1
    | cons other others =>
      obtain ⟨below, restAscending⟩ := List.pairwise_cons.mp leftAscending
      obtain ⟨otherBelow, othersAscending⟩ := List.pairwise_cons.mp rightAscending
      have inRight : first ∈ other :: others :=
        (lookupIn_eq_some_iff (nodup_of_ascending rightAscending)).mp
          (by rw [← same first.1]; simp [lookupIn])
      have inLeft : other ∈ first :: rest :=
        (lookupIn_eq_some_iff (nodup_of_ascending leftAscending)).mp
          (by rw [same other.1]; simp [lookupIn])
      have heads : first = other := by
        rcases List.mem_cons.mp inRight with equal | inside
        · exact equal
        · rcases List.mem_cons.mp inLeft with equal | otherInside
          · exact equal.symm
          · exact absurd (String.lt_trans (below _ otherInside) (otherBelow _ inside))
              (String.lt_irrefl _)
      subst heads
      congr 1
      refine hypothesis restAscending othersAscending fun key => ?_
      by_cases here : first.1 = key
      · rw [lookupIn_eq_none_of_below fun entry member => here ▸ below entry member,
          lookupIn_eq_none_of_below fun entry member => here ▸ otherBelow entry member]
      · simpa [lookupIn, here] using same key

/-- A map is determined by its look-ups. -/
theorem ext_get? {left right : SortedMap α} (same : ∀ key, left.get? key = right.get? key) :
    left = right :=
  ext_entries (eq_of_lookupIn_eq left.ascending right.ascending same)

/-- Entries without a repeated key that are inserted one by one are found at their keys, and what
was stored for other keys is kept. -/
theorem get?_foldl_insert {entries : List (String × α)} {map : SortedMap α} {key : String}
    {value : α} (distinct : (entries.map (·.1)).Nodup) :
    (entries.foldl (fun map entry => map.insert entry.1 entry.2) map).get? key = some value ↔
      (key, value) ∈ entries ∨ key ∉ entries.map (·.1) ∧ map.get? key = some value := by
  induction entries generalizing map with
  | nil => simp
  | cons first rest hypothesis =>
    obtain ⟨absent, restDistinct⟩ := List.nodup_cons.mp distinct
    obtain ⟨firstKey, firstValue⟩ := first
    rw [List.foldl_cons, hypothesis restDistinct, get?_insert]
    by_cases here : firstKey = key
    · subst here
      have notAgain : (firstKey, value) ∉ rest := fun inside =>
        absent (List.mem_map.mpr ⟨_, inside, rfl⟩)
      simp [absent, notAgain, eq_comm]
    · have other : key ≠ firstKey := fun same => here same.symm
      simp [here, other]

/-- The entries of a map are a listing of it, in whichever order they stand. -/
theorem ofList_eq_of_perm {entries : List (String × α)} {map : SortedMap α}
    (listed : entries.Perm map.entries) : ofList entries = map := by
  have distinct : (entries.map (·.1)).Nodup :=
    (listed.map _).nodup_iff.mpr (nodup_of_ascending map.ascending)
  refine ext_get? fun key => Option.ext fun value => ?_
  rw [ofList, get?_foldl_insert distinct, listed.mem_iff, ← get?_eq_some_iff]
  simp

/-- Transforming the values commutes with looking up. -/
@[simp] theorem get?_mapValues (transform : α → β) (map : SortedMap α) (key : String) :
    (map.mapValues transform).get? key = (map.get? key).map transform := by
  obtain ⟨entries, ascending⟩ := map
  simp only [mapValues, get?]
  clear ascending
  induction entries with
  | nil => rfl
  | cons first rest hypothesis =>
    by_cases here : first.1 = key <;> simp [lookupIn, here, hypothesis]

end SortedMap

/-- A finite set of texts in strictly ascending order. -/
structure SortedSet where
  elements : List String
  ascending : elements.Pairwise (· < ·)

namespace SortedSet

/-- Two sets with the same elements in order are the same set. -/
@[ext] theorem ext_elements {left right : SortedSet} (same : left.elements = right.elements) :
    left = right := by
  cases left; cases right; cases same; rfl

instance : DecidableEq SortedSet := fun left right =>
  decidable_of_iff (left.elements = right.elements)
    ⟨ext_elements, fun same => congrArg elements same⟩

instance : Repr SortedSet where
  reprPrec set := reprPrec set.elements

/-- The set with no elements. -/
def empty : SortedSet := ⟨[], List.Pairwise.nil⟩

instance : EmptyCollection SortedSet := ⟨empty⟩
instance : Inhabited SortedSet := ⟨empty⟩

instance : Membership String SortedSet := ⟨fun set text => text ∈ set.elements⟩

instance (text : String) (set : SortedSet) : Decidable (text ∈ set) :=
  inferInstanceAs (Decidable (text ∈ set.elements))

/-- Membership is membership in the list of elements. -/
theorem mem_def {text : String} {set : SortedSet} : text ∈ set ↔ text ∈ set.elements := Iff.rfl

/-- Whether a text is an element. -/
def contains (set : SortedSet) (text : String) : Bool := decide (text ∈ set)

/-- Whether the set has no elements. -/
def isEmpty (set : SortedSet) : Bool := set.elements.isEmpty

/-- Put a text at its place in an ascending list, unless it is there. -/
def insertIn (text : String) : List String → List String
  | [] => [text]
  | first :: rest =>
    if text < first then text :: first :: rest
    else if text = first then first :: rest
    else first :: insertIn text rest

/-- The members after an insertion are the old ones and the new one. -/
theorem mem_insertIn {text wanted : String} {elements : List String} :
    wanted ∈ insertIn text elements ↔ wanted = text ∨ wanted ∈ elements := by
  induction elements with
  | nil => simp [insertIn]
  | cons first rest hypothesis =>
    simp only [insertIn]
    split
    · simp
    · split
      · next same => subst same; simp
      · simp only [List.mem_cons, hypothesis]
        constructor <;> rintro (same | same | same) <;> simp [same]

/-- Insertion keeps the elements in ascending order. -/
theorem pairwise_insertIn {text : String} {elements : List String}
    (ascending : elements.Pairwise (· < ·)) : (insertIn text elements).Pairwise (· < ·) := by
  induction elements with
  | nil => simp [insertIn]
  | cons first rest hypothesis =>
    obtain ⟨below, restAscending⟩ := List.pairwise_cons.mp ascending
    simp only [insertIn]
    split
    · next before =>
      refine List.pairwise_cons.mpr ⟨?_, ascending⟩
      intro other member
      rcases List.mem_cons.mp member with rfl | inside
      · exact before
      · exact String.lt_trans before (below other inside)
    · next notBefore =>
      split
      · exact ascending
      · next different =>
        refine List.pairwise_cons.mpr ⟨?_, hypothesis restAscending⟩
        intro other member
        rcases mem_insertIn.mp member with rfl | inside
        · have atMost : first ≤ other := String.not_lt.mp notBefore
          exact String.not_le.mp fun back => different (String.le_antisymm back atMost)
        · exact below other inside

/-- The set with one more text. -/
def insert (set : SortedSet) (text : String) : SortedSet :=
  ⟨insertIn text set.elements, pairwise_insertIn set.ascending⟩

/-- The set of the listed texts. -/
def ofList (texts : List String) : SortedSet := texts.foldl insert empty

/-- The members after an insertion are the old ones and the new one. -/
@[simp] theorem mem_insert {set : SortedSet} {text wanted : String} :
    wanted ∈ set.insert text ↔ wanted = text ∨ wanted ∈ set :=
  mem_insertIn

/-- The empty set has no members. -/
@[simp] theorem not_mem_empty (text : String) : ¬ text ∈ (empty : SortedSet) := by
  simp [mem_def, empty]

/-- Inserting texts one by one adds exactly those texts. -/
theorem mem_foldl_insert {texts : List String} {set : SortedSet} {wanted : String} :
    wanted ∈ texts.foldl insert set ↔ wanted ∈ texts ∨ wanted ∈ set := by
  induction texts generalizing set with
  | nil => simp
  | cons first rest hypothesis =>
    simp only [List.foldl_cons, hypothesis, mem_insert, List.mem_cons]
    constructor
    · rintro (inside | same | inside) <;> simp [*]
    · rintro ((same | inside) | inside) <;> simp [*]

/-- The members of a listed set are the listed texts. -/
@[simp] theorem mem_ofList {texts : List String} {wanted : String} :
    wanted ∈ ofList texts ↔ wanted ∈ texts := by
  simp [ofList, mem_foldl_insert]

/-- Ascending lists with the same members are equal. -/
theorem eq_of_mem_iff {left right : List String} (leftAscending : left.Pairwise (· < ·))
    (rightAscending : right.Pairwise (· < ·)) (same : ∀ text, text ∈ left ↔ text ∈ right) :
    left = right := by
  induction left generalizing right with
  | nil =>
    cases right with
    | nil => rfl
    | cons first rest => simpa using same first
  | cons first rest hypothesis =>
    cases right with
    | nil => simpa using same first
    | cons other others =>
      obtain ⟨below, restAscending⟩ := List.pairwise_cons.mp leftAscending
      obtain ⟨otherBelow, othersAscending⟩ := List.pairwise_cons.mp rightAscending
      have heads : first = other := by
        rcases List.mem_cons.mp ((same first).mp (List.mem_cons_self ..)) with equal | inside
        · exact equal
        · rcases List.mem_cons.mp ((same other).mpr (List.mem_cons_self ..)) with
            equal | otherInside
          · exact equal.symm
          · exact absurd (String.lt_trans (below _ otherInside) (otherBelow _ inside))
              (String.lt_irrefl _)
      subst heads
      congr 1
      refine hypothesis restAscending othersAscending fun text => ?_
      have notHere : ∀ list : List String, (∀ other ∈ list, first < other) → first ∉ list :=
        fun list all inside => String.lt_irrefl first (all first inside)
      by_cases here : text = first
      · subst here
        exact ⟨fun inside => absurd inside (notHere _ below),
          fun inside => absurd inside (notHere _ otherBelow)⟩
      · simpa [here] using same text

/-- A set is determined by its members. -/
theorem ext_mem {left right : SortedSet} (same : ∀ text, text ∈ left ↔ text ∈ right) :
    left = right :=
  ext_elements (eq_of_mem_iff left.ascending right.ascending same)

/-- Inserting a member again changes nothing. -/
theorem insert_of_mem {set : SortedSet} {text : String} (member : text ∈ set) :
    set.insert text = set := by
  refine ext_mem fun wanted => ?_
  rw [mem_insert]
  exact or_iff_right_of_imp fun same => same ▸ member

/-- The elements of a set are a listing of it. -/
@[simp] theorem ofList_elements (set : SortedSet) : ofList set.elements = set :=
  ext_mem fun _ => mem_ofList

end SortedSet

end FleetPlan
