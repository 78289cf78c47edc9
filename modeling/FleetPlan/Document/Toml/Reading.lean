import FleetPlan.Document.Toml.Statement

/-!
# Reading TOML

The statements of a document are put into one tree of tables, and no table may be
defined twice: a header defines its table and may add to one that exists only
because a longer header passed through it, a dotted key may add to tables that
dotted keys made, and what is written as a value is closed.
-/

namespace FleetPlan.Toml

/-- How a table came to be. -/
inductive Origin where
  /-- By its own header. -/
  | header
  /-- Because the path of a header passed through it. -/
  | passed
  /-- By a dotted key. -/
  | dotted
  deriving DecidableEq

/-- A table that is being put together. -/
inductive Node where
  /-- A closed value. -/
  | leaf (value : Value)
  | table (origin : Origin) (entries : List (String × Node))
  /-- An array of tables, of which the last one is open. -/
  | elements (closed : List (List (String × Node))) (last : List (String × Node))
  deriving Inhabited

/-- The entries of a table under construction. -/
abbrev Entries := List (String × Node)

/-- The node of a key. -/
def node? (key : String) : Entries → Option Node
  | [] => none
  | entry :: entries => if entry.1 = key then some entry.2 else node? key entries

/-- Put a node at its key, or at the end if the key is new. -/
def setNode (key : String) (node : Node) : Entries → Entries
  | [] => [(key, node)]
  | entry :: entries =>
    if entry.1 = key then (key, node) :: entries else entry :: setNode key node entries

/-- Give a value to a dotted key, inside the table whose entries are given. -/
def assign (node : Node) : Path → Entries → Option Entries
  | [], _ => none
  | [key], entries => if (node? key entries).isSome then none else some (setNode key node entries)
  | key :: next :: path, entries =>
    match node? key entries with
    | none =>
      (assign node (next :: path) []).map fun inner => setNode key (.table .dotted inner) entries
    | some (.table .dotted inner) =>
      (assign node (next :: path) inner).map fun inner => setNode key (.table .dotted inner) entries
    | some (.table .passed inner) =>
      if path.isEmpty then none
      else
        (assign node (next :: path) inner).map fun inner =>
          setNode key (.table .passed inner) entries
    | _ => none

/-- Change the entries of the table that a path leads to, making the tables on the way. -/
def update (change : Entries → Option Entries) : Path → Entries → Option Entries
  | [], entries => change entries
  | key :: path, entries =>
    match node? key entries with
    | none => (update change path []).map fun inner => setNode key (.table .passed inner) entries
    | some (.table origin inner) =>
      (update change path inner).map fun inner => setNode key (.table origin inner) entries
    | some (.elements closed last) =>
      (update change path last).map fun last => setNode key (.elements closed last) entries
    | some (.leaf _) => none

/-- Define a table by its header, inside the table before it on the path. -/
def defineTable (key : String) (entries : Entries) : Option Entries :=
  match node? key entries with
  | none => some (setNode key (.table .header []) entries)
  | some (.table .passed inner) => some (setNode key (.table .header inner) entries)
  | _ => none

/-- Add a table to an array of tables by its header. -/
def defineElement (key : String) (entries : Entries) : Option Entries :=
  match node? key entries with
  | none => some (setNode key (.elements [] []) entries)
  | some (.elements closed last) => some (setNode key (.elements (closed ++ [last]) []) entries)
  | _ => none

mutual

/-- The value of a node. -/
def Node.value : Node → Value
  | .leaf value => value
  | .table _ entries => .table (entryValues entries)
  | .elements closed last =>
    .array (elementValues closed ++ [.table (entryValues last)])

/-- The values of the entries of a table. -/
def entryValues : List (String × Node) → List (String × Value)
  | [] => []
  | entry :: entries => (entry.1, entry.2.value) :: entryValues entries

/-- The values of tables in an array. -/
def elementValues : List (List (String × Node)) → List Value
  | [] => []
  | entries :: elements => .table (entryValues entries) :: elementValues elements

end

mutual

/-- The value of a tree, if no key of its inline tables is defined twice. -/
def Tree.value? : Tree → Option Value
  | .leaf value => some value
  | .array items => (itemValues? items).map .array
  | .inline assignments => (inlineEntries? assignments []).map fun entries =>
    .table (entryValues entries)

/-- The values of the items of an array. -/
def itemValues? : List Tree → Option (List Value)
  | [] => some []
  | item :: items => do
    let value ← item.value?
    let values ← itemValues? items
    return value :: values

/-- The entries of an inline table after those that are given. -/
def inlineEntries? : List (Path × Tree) → Entries → Option Entries
  | [], entries => some entries
  | assignment :: assignments, entries => do
    let value ← assignment.2.value?
    let entries ← assign (.leaf value) assignment.1 entries
    inlineEntries? assignments entries

end

/-- A document under construction: its entries, and the path of the table that assignments go to. -/
structure Document where
  entries : Entries
  current : Path

/-- Follow one statement. -/
def Document.follow (document : Document) (statement : Statement) : Option Document :=
  let define := fun (path : Path) (change : String → Entries → Option Entries) =>
    match path.getLast? with
    | none => none
    | some key =>
      (update (change key) path.dropLast document.entries).map fun entries => ⟨entries, path⟩
  match statement with
  | .table path => define path defineTable
  | .element path => define path defineElement
  | .assign path tree => do
    let value ← tree.value?
    let entries ← update (assign (.leaf value) path) document.current document.entries
    return { document with entries }

/-- The table that a document writes. -/
def parse? (document : String) : Option Value := do
  let statements ← statements? document
  let final ← statements.foldlM Document.follow ⟨[], []⟩
  return .table (entryValues final.entries)

end FleetPlan.Toml
