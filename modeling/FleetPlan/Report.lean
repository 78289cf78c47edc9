import FleetPlan.Plan

/-!
# Reports

Planning a host reconciles the operations of the plan one after the other, each
on the session that the one before it left. The report has a step for every
operation; an operation that fails is reported with its error and changes
nothing. Hosts share nothing, so the reports of several hosts are made host by
host.
-/

namespace FleetPlan

/-- What was planned for one operation on one host. -/
structure StepReport where
  identifier : String
  kind : String
  description : String
  outcome : Outcome
  /-- Why the operation could not be planned. -/
  error : Option String
  deriving DecidableEq, Repr, Inhabited

namespace StepReport

/-- Whether the operation could not be planned. -/
def isFailed (step : StepReport) : Bool := step.error.isSome

/-- Whether the operation needs a command. -/
def isChange (step : StepReport) : Bool := !step.outcome.isNoop

/-- A step is a change when it has a command. -/
theorem isChange_iff (step : StepReport) :
    step.isChange = true ↔ step.outcome.commands ≠ [] := by
  simp [isChange, Outcome.isNoop]

end StepReport

/-- What was planned for one host. -/
structure HostReport where
  host : String
  steps : List StepReport
  deriving DecidableEq, Repr, Inhabited

namespace HostReport

/-- The commands for the host, in the order they have to run. -/
def commands (report : HostReport) : List String :=
  report.steps.flatMap fun step => step.outcome.commands

/-- Whether the host needs a command. -/
def hasChanges (report : HostReport) : Bool := report.steps.any (·.isChange)

/-- Whether an operation could not be planned for the host. -/
def hasFailures (report : HostReport) : Bool := report.steps.any (·.isFailed)

/-- A report has changes when it has commands. -/
theorem hasChanges_eq (report : HostReport) :
    report.hasChanges = decide (report.commands ≠ []) := by
  rw [Bool.eq_iff_iff, decide_eq_true_iff]
  simp [hasChanges, commands, StepReport.isChange_iff]

end HostReport

namespace Operation

/-- The result of planning one operation on a session. -/
def attempt (operation : Operation) (collaborators : Collaborators) (session : Session) :
    Except ReconcileError Outcome × Session :=
  match operation.reconcile collaborators session with
  | .ok (outcome, after) => (.ok outcome, after)
  | .error error => (.error error, session)

/-- Packages are always planned, and change only what is known of packages. -/
theorem attempt_packages (entries : List String) (present latest : Bool) (verbs : PackageVerbs)
    (collaborators : Collaborators) (session : Session) :
    (Operation.packages entries present latest verbs).attempt collaborators session =
      let planned :=
        (packageGoal entries present latest verbs).reconcile verbs collaborators.providers
          session.packages
      (.ok planned.1, { session with packages := planned.2 }) :=
  rfl

/-- A service is always planned, and changes only what is known of services. -/
theorem attempt_service (name : String) (template : ActionTemplate) (goal : ServiceGoal)
    (collaborators : Collaborators) (session : Session) :
    (Operation.service name template goal).attempt collaborators session =
      let planned := goal.reconcile template name session.services
      (.ok planned.1, { session with services := planned.2 }) :=
  rfl

/-- A package file that is planned changes only what is known of packages. -/
theorem attempt_rpm_of_ok {goal : RpmGoal} {collaborators : Collaborators} {session : Session}
    {outcome : Outcome} {after : Inventory}
    (planned : goal.reconcile (session.rpmPath goal.source) collaborators.facts
      collaborators.files session.packages = .ok (outcome, after)) :
    (Operation.rpm goal).attempt collaborators session =
      (.ok outcome, { session with packages := after }) := by
  simp [attempt, reconcile, planned, bind, Except.bind, pure, Except.pure]

/-- A package file that cannot be planned changes nothing. -/
theorem attempt_rpm_of_error {goal : RpmGoal} {collaborators : Collaborators} {session : Session}
    {failure : ReconcileError}
    (failed : goal.reconcile (session.rpmPath goal.source) collaborators.facts
      collaborators.files session.packages = .error failure) :
    (Operation.rpm goal).attempt collaborators session = (.error failure, session) := by
  simp [attempt, reconcile, failed, bind, Except.bind]

/-- A repository is planned without a look at the session. -/
theorem attempt_repository (declared : Repository) (collaborators : Collaborators)
    (session : Session) :
    (Operation.repository declared).attempt collaborators session =
      (declared.reconcile collaborators.facts collaborators.files, session) := by
  cases planned : declared.reconcile collaborators.facts collaborators.files <;>
    simp [attempt, reconcile, planned, bind, Except.bind, pure, Except.pure]

/-- A repository changes nothing that is known of the host. -/
theorem session_attempt_repository (declared : Repository) (collaborators : Collaborators)
    (session : Session) :
    ((Operation.repository declared).attempt collaborators session).2 = session := by
  rw [attempt_repository]

/-- An operation changes nothing but what is known of packages and services. -/
theorem session_attempt (operation : Operation) (collaborators : Collaborators)
    (session : Session) :
    ∃ packages services, (operation.attempt collaborators session).2 =
      { session with packages := packages, services := services } := by
  cases operation with
  | packages entries present latest verbs => exact ⟨_, session.services, rfl⟩
  | service name template goal => exact ⟨session.packages, _, rfl⟩
  | rpm goal =>
    cases planned : goal.reconcile (session.rpmPath goal.source) collaborators.facts
        collaborators.files session.packages with
    | error failure =>
      rw [attempt_rpm_of_error planned]
      exact ⟨session.packages, session.services, rfl⟩
    | ok result =>
      rw [attempt_rpm_of_ok planned]
      exact ⟨result.2, session.services, rfl⟩
  | repository declared =>
    rw [session_attempt_repository]
    exact ⟨session.packages, session.services, rfl⟩

/-- No operation changes where downloads go. -/
theorem temporaryDirectory_attempt (operation : Operation) (collaborators : Collaborators)
    (session : Session) :
    (operation.attempt collaborators session).2.temporaryDirectory =
      session.temporaryDirectory := by
  obtain ⟨packages, services, after⟩ := operation.session_attempt collaborators session
  rw [after]

/-- No operation changes which path a package file is downloaded to. -/
theorem rpmPath_attempt (operation : Operation) (collaborators : Collaborators)
    (session : Session) (source : String) :
    (operation.attempt collaborators session).2.rpmPath source = session.rpmPath source := by
  simp only [Session.rpmPath, Session.temporaryPath, temporaryDirectory_attempt]

/-- The report of the result of planning an operation. -/
def report (operation : Operation) (result : Except ReconcileError Outcome) : StepReport where
  identifier := operation.identifier
  kind := operation.kind.name
  description := operation.description
  outcome := result.toOption.getD .empty
  error :=
    match result with
    | .ok _ => none
    | .error error => some error.message

end Operation

/-- The reports of operations planned one after the other, and the session they leave. -/
def planSteps (collaborators : Collaborators) :
    List Operation → Session → List StepReport × Session
  | [], session => ([], session)
  | operation :: operations, session =>
    let (result, after) := operation.attempt collaborators session
    let (steps, final) := planSteps collaborators operations after
    (operation.report result :: steps, final)

/-- One host to plan: its session at the start, and whom to ask about it. -/
structure HostInput where
  session : Session
  collaborators : Collaborators

namespace Plan

/-- Plan every operation on one host. -/
def runOn (plan : Plan) (input : HostInput) : HostReport × Session :=
  let (steps, session) := planSteps input.collaborators plan.operations input.session
  (⟨input.session.host, steps⟩, session)

/-- The report of one host. -/
def reportFor (plan : Plan) (input : HostInput) : HostReport := (plan.runOn input).1

/-- The reports of several hosts, in their order. -/
def reports (plan : Plan) (hosts : List HostInput) : List HostReport :=
  hosts.map plan.reportFor

end Plan

/-- What is told while several hosts are planned. -/
inductive Progress where
  /-- Planning starts for a number of hosts. -/
  | start (hosts : Nat)
  /-- A host was planned, and needs a command or not. -/
  | host (name : String) (changed : Bool)
  /-- All hosts were planned. -/
  | finish
  deriving DecidableEq, Repr

/-- What is told while the hosts of some reports are planned. -/
def Progress.ofReports (reports : List HostReport) : List Progress :=
  .start reports.length ::
    reports.map (fun report => .host report.host report.hasChanges) ++ [.finish]

end FleetPlan
