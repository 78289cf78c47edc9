import FleetPlan.Document.Value
import FleetPlan.SortedMap

/-!
# Reading records from document values

A record is read from a table by the names of its fields, whose order does not
matter, or from an array that lists its fields in order. Fields that are not known
are passed over; a known field that is listed twice, and a value of another type,
make the record unreadable. What is read is given by functions on values, with
`none` for a value of another type.
-/

namespace FleetPlan

/-- How strictly values are taken. -/
structure Strictness where
  /-- An array with more items than the record has fields is refused. -/
  refuseSurplus : Bool
  /-- The choice of a named alternative may be written as a table with an empty table in it. -/
  allowEmptyTable : Bool
  deriving DecidableEq, Repr

namespace Strictness

/-- Values that are read where they stand. -/
def direct : Strictness := ⟨true, false⟩

/-- Values in a document whose arrays may be longer than needed. -/
def tolerant : Strictness := ⟨false, false⟩

/-- Values that are collected before it is known what they are for. -/
def collected : Strictness := ⟨true, true⟩

end Strictness

namespace Value

/-- A text. -/
def asText? : Value → Option String
  | .text content => some content
  | _ => none

/-- A truth value. -/
def asBool? : Value → Option Bool
  | .bool truth => some truth
  | _ => none

/-- A count of at most 64 bits. -/
def asCount? : Value → Option Nat
  | .integer value => if 0 ≤ value ∧ value < (UInt64.size : Int) then some value.toNat else none
  | _ => none

/-- An array with items of one type. -/
def asList? {α : Type} (item? : Value → Option α) : Value → Option (List α)
  | .array items => items.mapM item?
  | _ => none

/-- A set of texts. -/
def asSet? (value : Value) : Option SortedSet :=
  (value.asList? asText?).map SortedSet.ofList

/-- A table with values of one type; of several entries for a key the last counts. -/
def asMap? {α : Type} (value? : Value → Option α) : Value → Option (SortedMap α)
  | .table entries => do
    let read ← entries.mapM fun entry => (value? entry.2).map fun value => (entry.1, value)
    return .ofList read
  | _ => none

/-- A value that may be nothing. -/
def asOptional? {α : Type} (value? : Value → Option α) : Value → Option (Option α)
  | .null => some none
  | value => (value? value).map some

/-- A named alternative: its name, or a table with nothing at the name. -/
def asChoice? {α : Type} (strictness : Strictness) (ofName? : String → Option α) :
    Value → Option α
  | .text name => ofName? name
  | .table [(name, .null)] => ofName? name
  | .table [(name, .table [])] => if strictness.allowEmptyTable then ofName? name else none
  | _ => none

end Value

/-- The fields of a record that is being read, by name. -/
abbrev Fields := List (String × Value)

namespace Fields

/-- Whether no name stands twice in a list. -/
def areDistinct : List String → Bool
  | [] => true
  | name :: names => !names.contains name && areDistinct names

/-- The fields with the given names in a value that writes a record. -/
def ofValue? (strictness : Strictness) (names : List String) : Value → Option Fields
  | .table entries =>
    let known := entries.filter fun entry => names.contains entry.1
    if areDistinct (known.map (·.1)) then some known else none
  | .array items =>
    if names.length < items.length && strictness.refuseSurplus then none
    else some (names.zip items)
  | _ => none

/-- A field that has to be there. -/
def required {α : Type} (fields : Fields) (name : String) (value? : Value → Option α) :
    Option α :=
  (Value.entry? name fields).bind value?

/-- A field that has a value when it is left out. -/
def withDefault {α : Type} (fields : Fields) (name : String) (default : α)
    (value? : Value → Option α) : Option α :=
  match Value.entry? name fields with
  | some value => value? value
  | none => some default

/-- A field that may be left out or be nothing. -/
def optional {α : Type} (fields : Fields) (name : String) (value? : Value → Option α) :
    Option (Option α) :=
  fields.withDefault name none (Value.asOptional? value?)

end Fields

/-- Read a record that says by a field which of several it is. The field is the first item where the
record is written as an array; what is left is the record itself. -/
def Value.asTagged? (tagName : String) : Value → Option (String × Value)
  | .table entries =>
    match entries.filter fun entry => entry.1 = tagName with
    | [(_, .text tag)] => some (tag, .table (entries.filter fun entry => entry.1 ≠ tagName))
    | _ => none
  | .array (.text tag :: items) => some (tag, .array items)
  | _ => none

end FleetPlan
