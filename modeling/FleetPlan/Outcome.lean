import FleetPlan.Text.Search

/-!
# What a reconciliation plans

Reconciling a declared item gives the commands that have to run on the host, in
order, and observations about what already is as declared. Nothing is run.
-/

namespace FleetPlan

/-- A report that a host already has a declared item in the wanted state. -/
inductive Observation where
  | packageInstalled (package : String) (versions : List String)
  | packageNotInstalled (package : String)
  | serviceRunning (name : String)
  | serviceStopped (name : String)
  /-- A package file is (not) installed, as wanted. -/
  | rpmState (source : String) (installed : Bool)
  | fileExists (path : String)
  | fileAbsent (path : String)
  /-- A file holds exactly the wanted contents. -/
  | fileUpToDate (path : String)
  deriving DecidableEq, Repr, Inhabited

/-- The sentence that shows an observation. -/
def Observation.display : Observation → String
  | .packageInstalled package [] => s!"package {package} is installed"
  | .packageInstalled package versions =>
    s!"package {package} is installed (" ++ ", ".intercalate versions ++ ")"
  | .packageNotInstalled package => s!"package {package} is not installed"
  | .serviceRunning name => s!"service {name} is running"
  | .serviceStopped name => s!"service {name} is stopped"
  | .rpmState source true => s!"rpm {source} is installed"
  | .rpmState source false => s!"rpm {source} is not installed"
  | .fileExists path => s!"file {path} already exists"
  | .fileAbsent path => s!"file {path} does not exist"
  | .fileUpToDate path => s!"file {path} is up to date"

/-- Commands to run, in order, and observations about what needs none. -/
structure Outcome where
  commands : List String
  observations : List Observation
  deriving DecidableEq, Repr, Inhabited

namespace Outcome

/-- Nothing to run and nothing to report. -/
def empty : Outcome := ⟨[], []⟩

/-- A single command. -/
def ofCommand (command : String) : Outcome := ⟨[command], []⟩

/-- A single observation. -/
def ofObservation (observation : Observation) : Outcome := ⟨[], [observation]⟩

/-- One outcome after another. -/
def append (first second : Outcome) : Outcome :=
  ⟨first.commands ++ second.commands, first.observations ++ second.observations⟩

instance : Append Outcome := ⟨append⟩

/-- Whether nothing has to run. -/
def isNoop (outcome : Outcome) : Bool := outcome.commands.isEmpty

/-- The commands of two outcomes run one after the other. -/
@[simp] theorem commands_append (first second : Outcome) :
    (first ++ second).commands = first.commands ++ second.commands := rfl

/-- The observations of two outcomes follow each other. -/
@[simp] theorem observations_append (first second : Outcome) :
    (first ++ second).observations = first.observations ++ second.observations := rfl

end Outcome

end FleetPlan
