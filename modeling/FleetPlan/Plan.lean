import FleetPlan.Operation

/-!
# Plans and targets

A plan is a list of operations in the order they are declared. A target narrows a
plan to the operations of one kind and, if it has a name after its first dot, to
those whose identifier contains that name.
-/

namespace FleetPlan

/-- Operations in the order they are declared. -/
structure Plan where
  operations : List Operation
  deriving DecidableEq, Repr, Inhabited

/-- The operations that are asked for. -/
structure Target where
  /-- The word for a kind, or another word for it. -/
  kind : String
  /-- A part of the identifier; any will do if there is none. -/
  name : Option String
  deriving DecidableEq, Repr

namespace Target

/-- Read a target `kind` or `kind.name`; the first dot divides them. -/
def ofText (text : String) : Target :=
  match Text.cutFirst? ['.'] text.toList with
  | some (kind, name) => ⟨String.ofList kind, some (String.ofList name)⟩
  | none => ⟨text, none⟩

/-- The kind that a word stands for, if it stands for one. -/
def kind? (word : String) : Option OperationKind :=
  if word = "packages" ∨ word = "pkg" then some .packages
  else if word = "service" ∨ word = "services" then some .service
  else if word = "rpm" ∨ word = "rpms" then some .rpm
  else if word = "repo" ∨ word = "repos" ∨ word = "repositories" then some .repository
  else none

/-- Whether a target asks for an operation. -/
def selects (target : Target) (operation : Operation) : Bool :=
  kind? target.kind = some operation.kind &&
    match target.name with
    | some name => Text.occurs name.toList operation.identifier.toList
    | none => true

end Target

namespace Plan

/-- The number of operations. -/
def size (plan : Plan) : Nat := plan.operations.length

/-- Whether there are no operations. -/
def isEmpty (plan : Plan) : Bool := plan.operations.isEmpty

/-- The operations that a target asks for, in the order of the plan; without a target, all. -/
def select (target : Option String) (plan : Plan) : Plan :=
  match target with
  | none => plan
  | some text => ⟨plan.operations.filter (Target.ofText text).selects⟩

end Plan

end FleetPlan
