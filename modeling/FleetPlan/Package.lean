import FleetPlan.Text.Search

/-!
# Packages as they are declared

A package is asked for by name, or by name and version. One written entry holds
both, with the separator of the package manager between them; the rightmost
separator divides them, so a name may contain it.
-/

namespace FleetPlan

/-- A package name with an optional version that it is pinned to. -/
structure Package where
  name : String
  version : Option String
  deriving DecidableEq, Repr, Inhabited

namespace Package

/-- The separator that is written where a package manager has none. -/
def plainSeparator : String := "="

/-- Read an entry `name` or `name<separator>version`. Without a separator, or with an empty one,
the whole entry is a name. -/
def ofEntry (separator : Option String) (entry : String) : Package :=
  match separator with
  | none => ⟨entry, none⟩
  | some separator =>
    if separator.isEmpty then ⟨entry, none⟩
    else
      match Text.cutLast? separator.toList entry.toList with
      | some (name, version) => ⟨String.ofList name, some (String.ofList version)⟩
      | none => ⟨entry, none⟩

/-- Whether a version is asked for. -/
def isPinned (package : Package) : Bool := package.version.isSome

/-- The entry that names the package in a command. -/
def token (separator : Option String) (package : Package) : String :=
  match package.version with
  | some version => package.name ++ separator.getD plainSeparator ++ version
  | none => package.name

/-- The package as it is shown to a reader. -/
def display (package : Package) : String := package.token none

end Package

end FleetPlan
