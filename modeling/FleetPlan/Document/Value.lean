/-!
# Document values

Deploy files and reports are trees of values: nothing, truth values, numbers,
texts, arrays, and tables whose entries stand in the order they are written and
may repeat a key. What a text format can write but no program can use, such as a
number beyond every float, is `unreadable`; it does no harm where nobody looks.
-/

namespace FleetPlan

/-- A tree of values, as documents write them. -/
inductive Value where
  | null
  | bool (value : Bool)
  | integer (value : Int)
  /-- A number with a fraction or an exponent, as it is written. -/
  | float (written : String)
  | text (text : String)
  | array (items : List Value)
  | table (entries : List (String × Value))
  | unreadable
  deriving Inhabited, Repr, BEq

namespace Value

mutual

/-- Whether a value can be read throughout, with integers of 64 bits. -/
def isReadable : Value → Bool
  | .array items => areItemsReadable items
  | .table entries => areEntriesReadable entries
  | .integer value => Int64.minValue.toInt ≤ value && value < (UInt64.size : Int)
  | .unreadable => false
  | _ => true

/-- Whether all items of an array can be read throughout. -/
def areItemsReadable : List Value → Bool
  | [] => true
  | item :: items => isReadable item && areItemsReadable items

/-- Whether all entries of a table can be read throughout. -/
def areEntriesReadable : List (String × Value) → Bool
  | [] => true
  | entry :: entries => isReadable entry.2 && areEntriesReadable entries

end

mutual

/-- Whether at most `depth` arrays and tables of a value stand inside each other. -/
def nestsWithin (depth : Nat) : Value → Bool
  | .array items =>
    match depth with
    | 0 => false
    | inner + 1 => itemsNestWithin inner items
  | .table entries =>
    match depth with
    | 0 => false
    | inner + 1 => entriesNestWithin inner entries
  | _ => true

/-- Whether each item of an array nests within a depth. -/
def itemsNestWithin (depth : Nat) : List Value → Bool
  | [] => true
  | item :: items => nestsWithin depth item && itemsNestWithin depth items

/-- Whether each entry of a table nests within a depth. -/
def entriesNestWithin (depth : Nat) : List (String × Value) → Bool
  | [] => true
  | entry :: entries => nestsWithin depth entry.2 && entriesNestWithin depth entries

end

/-- The first value listed for a key. -/
def entry? (key : String) : List (String × Value) → Option Value
  | [] => none
  | entry :: entries => if entry.1 = key then some entry.2 else entry? key entries

/-- The entries of a table in which the last of several entries for a key counts; the key keeps the
place of the first. -/
def settleEntries (entries : List (String × Value)) : List (String × Value) :=
  entries.foldl
    (fun settled entry =>
      if settled.any (·.1 = entry.1) then
        settled.map fun other => if other.1 = entry.1 then entry else other
      else settled ++ [entry])
    []

mutual

/-- The value in which the last of several entries for a key counts, in every table. -/
def settle : Value → Value
  | .array items => .array (settleItems items)
  | .table entries => .table (settleEntries (settleTable entries))
  | value => value

/-- The items of an array, each of them settled. -/
def settleItems : List Value → List Value
  | [] => []
  | item :: items => settle item :: settleItems items

/-- The entries of a table, each of them settled. -/
def settleTable : List (String × Value) → List (String × Value)
  | [] => []
  | entry :: entries => (entry.1, settle entry.2) :: settleTable entries

end

end Value

end FleetPlan
