import FleetPlan.Session

/-!
# Operations

An operation is one item of a plan: a set of packages, a service, a package file
or a repository. It is named by its kind and its identifier, and reconciling it
plans the commands for one host and moves the session of that host along.
-/

namespace FleetPlan

/-- What kind of item an operation is about. -/
inductive OperationKind where
  | packages
  | service
  | rpm
  | repository
  deriving DecidableEq, Repr

/-- The word for a kind. -/
def OperationKind.name : OperationKind → String
  | .packages => "packages"
  | .service => "service"
  | .rpm => "rpm"
  | .repository => "repo"

/-- The collaborators that are asked while a plan is made for one host. -/
structure Collaborators where
  facts : Facts
  files : FileWork
  providers : Providers

/-- One item of a plan. -/
inductive Operation where
  /-- Packages, by their entries, that are present or absent. -/
  | packages (entries : List String) (present latest : Bool) (verbs : PackageVerbs)
  /-- The state of one service. -/
  | service (name : String) (template : ActionTemplate) (goal : ServiceGoal)
  /-- A package given by its file. -/
  | rpm (goal : RpmGoal)
  /-- A package repository. -/
  | repository (repository : Repository)
  deriving DecidableEq, Repr

namespace Operation

/-- The kind of an operation. -/
def kind : Operation → OperationKind
  | .packages .. => .packages
  | .service .. => .service
  | .rpm .. => .rpm
  | .repository .. => .repository

/-- What tells an operation from others of its kind. -/
def identifier : Operation → String
  | .packages entries .. => ",".intercalate entries
  | .service name .. => name
  | .rpm goal => goal.source
  | .repository declared => declared.identifier

/-- What is wanted of a service, in words. -/
def serviceWishes (goal : ServiceGoal) : List String :=
  (match goal.running with
    | some true => ["running"]
    | some false => ["stopped"]
    | none => []) ++
    (if goal.restarted then ["restarted"] else []) ++
    (if goal.reloaded then ["reloaded"] else [])

/-- What an operation does, in words. -/
def description : Operation → String
  | .packages entries present latest _ =>
    let verb := if present then if latest then "Install latest" else "Install" else "Remove"
    verb ++ " " ++ ", ".intercalate entries
  | .service name _ goal =>
    match serviceWishes goal with
    | [] => "Control " ++ name
    | wishes => "Ensure " ++ name ++ " " ++ ", ".intercalate wishes
  | .rpm goal => (if goal.present then "Install " else "Remove ") ++ goal.source
  | .repository declared =>
    (if declared.present then "Add repository " else "Remove repository ") ++
      declared.identifier

/-- The goal of an operation on packages. -/
def packageGoal (entries : List String) (present latest : Bool) (verbs : PackageVerbs) :
    PackageGoal :=
  { PackageGoal.ofEntries verbs entries with present, latest }

/-- Plan the commands of an operation on one host, and predict the session they leave. -/
def reconcile (operation : Operation) (collaborators : Collaborators) (session : Session) :
    Except ReconcileError (Outcome × Session) :=
  match operation with
  | .packages entries present latest verbs =>
    let planned :=
      (packageGoal entries present latest verbs).reconcile verbs collaborators.providers
        session.packages
    .ok (planned.1, { session with packages := planned.2 })
  | .service name template goal =>
    let planned := goal.reconcile template name session.services
    .ok (planned.1, { session with services := planned.2 })
  | .rpm goal => do
    let planned ←
      goal.reconcile (session.rpmPath goal.source) collaborators.facts collaborators.files
        session.packages
    return (planned.1, { session with packages := planned.2 })
  | .repository declared => do
    let outcome ← declared.reconcile collaborators.facts collaborators.files
    return (outcome, session)

end Operation

end FleetPlan
