import FleetPlan.Host.Outage
import FleetPlan.Report

/-!
# Failures while a plan is made

An operation that cannot be planned leaves no trace but the error in its step.
`Operation.inPlace` plans an operation on a session that is changed as the work
goes on, so that a failure would keep what was changed before it. It comes to the
same as planning the operation at once (`Operation.on_inPlace`), since whatever
may fail is asked before the first change. A plan without the operations that
fail therefore has the other steps, and leaves the same session
(`Plan.failures_leave_no_trace`).
-/

namespace FleetPlan

/-- Work on a session that is changed in place: what is changed before a failure stays changed. -/
abbrev SessionWork (α : Type) := ExceptT ReconcileError (StateM Session) α

namespace SessionWork

variable {α β : Type}

/-- The result of some work on a session, and the session as it is then. -/
def on (work : SessionWork α) (session : Session) : Except ReconcileError α × Session :=
  (ExceptT.run work).run session

/-- A value is given without a change. -/
@[simp] theorem on_pure (value : α) (session : Session) :
    (pure value : SessionWork α).on session = (.ok value, session) := rfl

/-- Looking at the session changes nothing. -/
@[simp] theorem on_get (session : Session) :
    (get : SessionWork Session).on session = (.ok session, session) := rfl

/-- A change of the session is there at once. -/
@[simp] theorem on_modify (change : Session → Session) (session : Session) :
    (modify change : SessionWork Unit).on session = (.ok (), change session) := rfl

/-- A request to a collaborator changes nothing, whether it fails or not. -/
@[simp] theorem on_liftM (request : Except ReconcileError α) (session : Session) :
    (liftM request : SessionWork α).on session = (request, session) := rfl

/-- Work goes on with the session as the work before it left it, unless that failed. -/
@[simp] theorem on_bind (work : SessionWork α) (next : α → SessionWork β) (session : Session) :
    (work >>= next).on session =
      match work.on session with
      | (.ok value, after) => (next value).on after
      | (.error failure, after) => (.error failure, after) := by
  have unfolded : (work >>= next).on session =
      (ExceptT.bindCont next (work.on session).1) (work.on session).2 := rfl
  rw [unfolded]
  rcases work.on session with ⟨value | failure, after⟩ <;> rfl

end SessionWork

namespace PackageGoal

/-- Carry out a goal on one identity after the other. -/
def carryOut (goal : PackageGoal) (identities : List Package.Identity) : SessionWork Unit :=
  identities.forM fun identity =>
    modify fun session => { session with packages := goal.apply session.packages identity }

/-- Carrying out a goal never fails, and leaves each identity as it is wanted. -/
theorem on_carryOut (goal : PackageGoal) (identities : List Package.Identity)
    (session : Session) :
    (goal.carryOut identities).on session =
      (.ok (),
        { session with packages := identities.foldl goal.apply session.packages }) := by
  induction identities generalizing session with
  | nil => rfl
  | cons identity identities inductionHypothesis => exact inductionHypothesis _

end PackageGoal

namespace Operation

variable (operation : Operation) (collaborators : Collaborators) (session : Session)

/-- Plan an operation on a session that is changed as the work goes on. -/
def inPlace : Operation → SessionWork Outcome
  | .packages entries present latest verbs => do
    let goal := packageGoal entries present latest verbs
    let before := (← get).packages
    let pending := goal.pending before collaborators.providers
    goal.carryOut (pending.flatMap (Package.identities collaborators.providers))
    return (goal.reconcile verbs collaborators.providers before).1
  | .service name template goal => do
    let (outcome, services) := goal.reconcile template name (← get).services
    modify fun session => { session with services }
    return outcome
  | .rpm goal => do
    let (fetched, path) ← goal.fetch ((← get).rpmPath goal.source) collaborators.files
    let info ← collaborators.facts.rpmPackage path
    let (planned, inventory) := goal.settle path info (← get).packages
    modify fun session => { session with packages := inventory }
    return fetched ++ planned
  | .repository declared => declared.reconcile collaborators.facts collaborators.files

/-- Planning an operation in place comes to the same as planning it at once: no session is left half
changed. -/
theorem on_inPlace :
    (operation.inPlace collaborators).on session = operation.attempt collaborators session := by
  cases operation with
  | packages entries present latest verbs =>
    simp only [inPlace, SessionWork.on_bind, SessionWork.on_get, PackageGoal.on_carryOut,
      SessionWork.on_pure]
    rfl
  | service name template goal => rfl
  | rpm goal =>
    simp only [inPlace, SessionWork.on_bind, SessionWork.on_get, SessionWork.on_liftM]
    cases fetching : goal.fetch (session.rpmPath goal.source) collaborators.files with
    | error failure =>
      have failed : goal.reconcile (session.rpmPath goal.source) collaborators.facts
          collaborators.files session.packages = .error failure := by
        simp [RpmGoal.reconcile, fetching, bind, Except.bind]
      rw [attempt_rpm_of_error failed]
    | ok found =>
      obtain ⟨fetched, path⟩ := found
      cases asked : collaborators.facts.rpmPackage path with
      | error failure =>
        -- A download may be planned already, but nothing was changed for it.
        have failed : goal.reconcile (session.rpmPath goal.source) collaborators.facts
            collaborators.files session.packages = .error failure := by
          simp [RpmGoal.reconcile, fetching, asked, bind, Except.bind]
        rw [attempt_rpm_of_error failed]
        simp [asked]
      | ok info =>
        have planned : goal.reconcile (session.rpmPath goal.source) collaborators.facts
            collaborators.files session.packages =
              .ok (fetched ++ (goal.settle path info session.packages).1,
                (goal.settle path info session.packages).2) := by
          simp [RpmGoal.reconcile, fetching, asked, bind, Except.bind, pure, Except.pure]
        rw [attempt_rpm_of_ok planned]
        simp [asked]
  | repository declared => rw [inPlace, SessionWork.on_liftM, attempt_repository]

variable {operation collaborators session}

/-- An operation that cannot be planned leaves the session as it is. -/
theorem session_attempt_of_error {failure : ReconcileError}
    (failed : (operation.attempt collaborators session).1 = .error failure) :
    (operation.attempt collaborators session).2 = session := by
  unfold attempt at failed ⊢
  cases planned : operation.reconcile collaborators session with
  | error cause => rfl
  | ok result =>
    rw [planned] at failed
    cases failed

/-- The step of an operation is failed exactly if the operation could not be planned. -/
theorem isFailed_report_iff {result : Except ReconcileError Outcome} :
    (operation.report result).isFailed = true ↔ ∃ failure, result = .error failure := by
  cases result <;> simp [report, StepReport.isFailed]

end Operation

section Runs

variable (collaborators : Collaborators)

/-- Every operation has one step. -/
theorem length_planSteps (operations : List Operation) (session : Session) :
    (planSteps collaborators operations session).1.length = operations.length := by
  induction operations generalizing session with
  | nil => rfl
  | cons operation operations inductionHypothesis =>
    exact congrArg (· + 1) (inductionHypothesis (operation.attempt collaborators session).2)

/-- Operations are planned on the session that those before them left. -/
theorem planSteps_append (front back : List Operation) (session : Session) :
    planSteps collaborators (front ++ back) session =
      let first := planSteps collaborators front session
      let second := planSteps collaborators back first.2
      (first.1 ++ second.1, second.2) := by
  induction front generalizing session with
  | nil => rfl
  | cons operation front inductionHypothesis =>
    simp only [List.cons_append, planSteps, inductionHypothesis]

/-- The step at a position is that of the operation there, planned on the session that the
operations before it left. -/
theorem getElem?_planSteps {operations : List Operation} {position : Nat} {operation : Operation}
    (here : operations[position]? = some operation) (session : Session) :
    let before := (planSteps collaborators (operations.take position) session).2
    let attempted := operation.attempt collaborators before
    (planSteps collaborators operations session).1[position]? =
        some (operation.report attempted.1) ∧
      (planSteps collaborators (operations.take (position + 1)) session).2 = attempted.2 := by
  obtain ⟨within, found⟩ := List.getElem?_eq_some_iff.mp here
  have upToHere : operations.take (position + 1) = operations.take position ++ [operation] := by
    rw [List.take_add_one, here]
    rfl
  have whole : operations =
      operations.take position ++ operation :: operations.drop (position + 1) := by
    rw [← found, List.getElem_cons_drop, List.take_append_drop]
  have length : (planSteps collaborators (operations.take position) session).1.length =
      position := by
    rw [length_planSteps, List.length_take, Nat.min_eq_left (Nat.le_of_lt within)]
  constructor
  · conv => lhs; rw [whole]
    simp [planSteps_append, planSteps, length]
  · rw [upToHere, planSteps_append]
    rfl

/-- The operations whose steps are not failed. -/
def plannable (operations : List Operation) (steps : List StepReport) : List Operation :=
  ((operations.zip steps).filter fun pair => !pair.2.isFailed).map (·.1)

/-- An operation with a failed step is left out. -/
theorem plannable_cons (operation : Operation) (operations : List Operation) (step : StepReport)
    (steps : List StepReport) :
    plannable (operation :: operations) (step :: steps) =
      if step.isFailed then plannable operations steps
      else operation :: plannable operations steps := by
  cases failed : step.isFailed <;> simp [plannable, failed]

/-- Without the operations that fail, the other steps and the session in the end are the same. -/
theorem planSteps_plannable (operations : List Operation) (session : Session) :
    let planned := planSteps collaborators operations session
    planSteps collaborators (plannable operations planned.1) session =
      (planned.1.filter fun step => !step.isFailed, planned.2) := by
  induction operations generalizing session with
  | nil => rfl
  | cons operation operations inductionHypothesis =>
    have others := inductionHypothesis (operation.attempt collaborators session).2
    simp only [planSteps, plannable_cons]
    cases attempted : (operation.attempt collaborators session).1 with
    | error failure =>
      have failed : (operation.report (.error failure)).isFailed = true :=
        Operation.isFailed_report_iff.mpr ⟨failure, rfl⟩
      rw [Operation.session_attempt_of_error attempted] at others ⊢
      rw [if_pos failed, others, List.filter_cons, failed]
      rfl
    | ok outcome =>
      have planned : (operation.report (.ok outcome)).isFailed = false := rfl
      rw [if_neg (Bool.eq_false_iff.mp planned), List.filter_cons, planned]
      simp only [planSteps, attempted, others]
      rfl

end Runs

namespace Plan

variable (plan : Plan) (input : HostInput)

/-- The session that the operations before a position leave. -/
def sessionAt (position : Nat) : Session :=
  (runOn ⟨plan.operations.take position⟩ input).2

/-- The plan without the operations that fail on a host. -/
def withoutFailures : Plan :=
  ⟨plannable plan.operations (plan.runOn input).1.steps⟩

/-- Failures leave no trace but the error of a step.

Every operation has one step, in the order of the plan, which reports what planning it in place
gives on the session that the operations before it left. The step carries an error exactly if that
fails; it then has no command and no observation, and the session is as it was before. Without the
operations that fail, the other steps and the session in the end are the same. -/
theorem failures_leave_no_trace :
    (plan.runOn input).1.steps.length = plan.size ∧
    (∀ position operation, plan.operations[position]? = some operation →
      let before := plan.sessionAt input position
      let performed := (operation.inPlace input.collaborators).on before
      ∃ step, (plan.runOn input).1.steps[position]? = some step ∧
        step.identifier = operation.identifier ∧ step.kind = operation.kind.name ∧
        step.description = operation.description ∧
        plan.sessionAt input (position + 1) = performed.2 ∧
        (∀ outcome, performed.1 = .ok outcome → step.outcome = outcome) ∧
        (step.isFailed = true ↔ ∃ failure, performed.1 = .error failure) ∧
        ∀ failure, performed.1 = .error failure →
          step.error = some failure.message ∧ step.outcome.commands = [] ∧
            step.outcome.observations = [] ∧ plan.sessionAt input (position + 1) = before) ∧
    (plan.withoutFailures input).runOn input =
      (⟨(plan.runOn input).1.host,
          (plan.runOn input).1.steps.filter fun step => !step.isFailed⟩,
        (plan.runOn input).2) := by
  refine ⟨length_planSteps input.collaborators plan.operations input.session, ?_, ?_⟩
  · intro position operation here before performed
    obtain ⟨stepHere, after⟩ := getElem?_planSteps input.collaborators here input.session
    have same : performed = operation.attempt input.collaborators before :=
      operation.on_inPlace input.collaborators before
    refine ⟨_, stepHere, rfl, rfl, rfl, ?_, ?_, ?_, ?_⟩
    · rw [same]
      exact after
    · intro outcome planned
      rw [same] at planned
      exact congrArg (fun result => (operation.report result).outcome) planned
    · rw [same]
      exact Operation.isFailed_report_iff
    · intro failure failed
      rw [same] at failed
      have unchanged : plan.sessionAt input (position + 1) = before :=
        after.trans (Operation.session_attempt_of_error failed)
      have report : operation.report (operation.attempt input.collaborators before).1 =
          operation.report (.error failure) :=
        congrArg operation.report failed
      refine ⟨?_, ?_, ?_, unchanged⟩
      · exact congrArg StepReport.error report
      · exact congrArg (fun step => step.outcome.commands) report
      · exact congrArg (fun step => step.outcome.observations) report
  · have others := planSteps_plannable input.collaborators plan.operations input.session
    unfold withoutFailures
    simp only [runOn, others]

/-- A plan with a package file that is downloaded and cannot be looked into, and with a repository
that does not say where its packages are. -/
def offlinePlan : Plan where
  operations :=
    [.packages ["vim"] true false PackageManager.dnf.verbs,
      .rpm ⟨"file:///mnt/foo.rpm", true, "dnf"⟩,
      .repository (.ofIdentifier "epel"),
      .packages ["vim", "git"] true false PackageManager.dnf.verbs]

/-- A host whose package files cannot be looked into. -/
def offlineHost : HostInput where
  session := .start "web1" .empty .empty
  collaborators :=
    { facts := Facts.none.under { Outage.none with rpmPackage := fun _ => true }
      files := .shell .none
      providers := .none }

/-- The package file fails after its download was planned, and leaves no trace. -/
theorem failures_leave_no_trace_offline :
    offlinePlan.operations[1]? = some (.rpm ⟨"file:///mnt/foo.rpm", true, "dnf"⟩) ∧
      (∃ download path,
        RpmGoal.fetch ⟨"file:///mnt/foo.rpm", true, "dnf"⟩ path offlineHost.collaborators.files =
            .ok (download, path) ∧ download.commands ≠ []) ∧
      (∃ step, (offlinePlan.runOn offlineHost).1.steps[1]? = some step ∧
        step.isFailed = true ∧ step.outcome.commands = [] ∧ step.outcome.observations = [] ∧
        offlinePlan.sessionAt offlineHost 2 = offlinePlan.sessionAt offlineHost 1) ∧
      (offlinePlan.withoutFailures offlineHost).runOn offlineHost =
        (⟨"web1", (offlinePlan.runOn offlineHost).1.steps.filter fun step => !step.isFailed⟩,
          (offlinePlan.runOn offlineHost).2) := by
  obtain ⟨-, eachStep, others⟩ := failures_leave_no_trace offlinePlan offlineHost
  obtain ⟨step, here, -, -, -, -, -, failedIff, traceless⟩ := eachStep 1 _ rfl
  have isUrl : Url.isUrl "file:///mnt/foo.rpm" = true := by decide
  have fetched : ∀ path,
      RpmGoal.fetch ⟨"file:///mnt/foo.rpm", true, "dnf"⟩ path offlineHost.collaborators.files =
        .ok (.ofCommand (FileWork.downloadCommand "file:///mnt/foo.rpm" path), path) := by
    intro path
    simp only [RpmGoal.fetch, isUrl, if_true]
    rfl
  have failed : ∃ failure,
      ((Operation.rpm ⟨"file:///mnt/foo.rpm", true, "dnf"⟩).inPlace
        offlineHost.collaborators).on (offlinePlan.sessionAt offlineHost 1) =
          (.error failure, offlinePlan.sessionAt offlineHost 1) := by
    simp only [Operation.inPlace, SessionWork.on_bind, SessionWork.on_get,
      SessionWork.on_liftM, fetched]
    exact ⟨_, rfl⟩
  obtain ⟨failure, failed⟩ := failed
  have failedHere := congrArg Prod.fst failed
  obtain ⟨-, noCommand, noObservation, unchanged⟩ := traceless failure failedHere
  refine ⟨rfl, ⟨_, "/tmp/foo.rpm", fetched _, List.cons_ne_nil _ _⟩, ?_, others⟩
  exact ⟨step, here, failedIff.mpr ⟨failure, failedHere⟩, noCommand, noObservation, unchanged⟩

end Plan

end FleetPlan
