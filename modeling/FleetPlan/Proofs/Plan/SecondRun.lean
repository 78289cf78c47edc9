import FleetPlan.Proofs.Rpm.Settled
import FleetPlan.Report
import Mathlib.Data.List.Forall2

/-!
# Running a plan again

A plan whose operations do not contradict each other is carried out by one run:
if it is run again on the session that the first run left, nothing is installed,
removed, started or stopped any more (`Plan.runOn_again`). The invariant is
`Operation.IsSettled`: an operation is settled by its own turn
(`Operation.isSettled_attempt`), and every later turn keeps it settled
(`Operation.IsSettled.attempt`), since packages only move one way and services
are asked for one state.
-/

namespace FleetPlan

namespace ServiceGoal

/-- A goal that asks for a running state and for nothing else. -/
def AsksOnlyForState (goal : ServiceGoal) : Prop :=
  goal.running.isSome = true ∧ goal.restarted = false ∧ goal.reloaded = false ∧
    goal.command = none

/-- A service that is known to be in the state that is asked for needs no command. -/
theorem reconcile_of_get_eq {goal : ServiceGoal} (template : ActionTemplate) {name : String}
    {states : ServiceStates} (stateOnly : goal.AsksOnlyForState)
    (settled : states.get name = .ofFound goal.running) :
    (goal.reconcile template name states).1.commands = [] ∧
      (goal.reconcile template name states).2 = states := by
  obtain ⟨asked, notRestarted, notReloaded, noCommand⟩ := stateOnly
  obtain ⟨running, wanted⟩ := Option.isSome_iff_exists.mp asked
  rw [wanted] at settled
  unfold reconcile
  cases running <;>
    simp [settled, wanted, notRestarted, notReloaded, noCommand, ServiceState.ofFound,
      ServiceState.isRunning, transition, refresh, extra, statesAfter, Outcome.ofObservation]

end ServiceGoal

namespace Operation

/-- The operation asks for the one presence of packages, or only for the state of a service. -/
def AsksFor (present : Bool) : Operation → Prop
  | .packages _ asked _ _ => asked = present
  | .service _ _ goal => goal.AsksOnlyForState
  | .rpm goal => goal.present = present
  | .repository _ => True

/-- Two operations do not ask for opposite states of one service. -/
def Agrees : Operation → Operation → Prop
  | .service name _ goal, .service other _ otherGoal =>
    name = other → goal.running = otherGoal.running
  | _, _ => True

/-- What the operation asks for is so in the session, as far as it is known. -/
def IsSettled (collaborators : Collaborators) (session : Session) : Operation → Prop
  | .packages entries present latest verbs =>
    (packageGoal entries present latest verbs).pending session.packages
      collaborators.providers = []
  | .service name _ goal => session.services.get name = .ofFound goal.running
  | .rpm goal =>
    goal.IsSettled (session.rpmPath goal.source) collaborators.facts collaborators.files
      session.packages
  | .repository _ => True

/-- The step of an operation that has nothing to change: packages are at most upgraded, a service
gets no command, and a package file is at most downloaded and left to the host's own check. -/
def RunsQuietly (collaborators : Collaborators) (session : Session) :
    Operation → StepReport → Prop
  | .packages entries present latest verbs, step =>
    step.outcome.commands =
      ((packageGoal entries present latest verbs).upgradeCommand? verbs session.packages
        collaborators.providers).toList
  | .service .., step => step.outcome.commands = []
  | .rpm goal, step =>
    step.outcome.commands =
      goal.checkCommands (session.rpmPath goal.source) collaborators.facts collaborators.files
  | .repository _, _ => True

variable {collaborators : Collaborators} {present : Bool}

/-- An operation moves the packages of the session the way that it asks for. -/
theorem movesToward_attempt {operation : Operation} (asks : operation.AsksFor present)
    (session : Session) :
    session.packages.MovesToward present
      (operation.attempt collaborators session).2.packages := by
  cases operation with
  | packages entries asked latest verbs =>
    have asks : asked = present := asks
    subst asks
    rw [attempt_packages]
    exact (packageGoal entries asked latest verbs).movesToward_inventoryAfter
      collaborators.providers session.packages
  | service name template goal => exact .refl present session.packages
  | rpm goal =>
    have asks : goal.present = present := asks
    subst asks
    cases planned : goal.reconcile (session.rpmPath goal.source) collaborators.facts
        collaborators.files session.packages with
    | error failure =>
      rw [attempt_rpm_of_error planned]
      exact .refl goal.present session.packages
    | ok result =>
      rw [attempt_rpm_of_ok planned]
      exact RpmGoal.movesToward_of_reconcile planned
  | repository declared =>
    rw [session_attempt_repository]
    exact .refl present session.packages

/-- A service that was asked for one state keeps it through operations that do not ask for the
opposite. -/
theorem get_services_attempt {name : String} {template : ActionTemplate} {goal : ServiceGoal}
    {later : Operation} {session : Session}
    (settled : session.services.get name = .ofFound goal.running)
    (agrees : (Operation.service name template goal).Agrees later) :
    (later.attempt collaborators session).2.services.get name = .ofFound goal.running := by
  cases later with
  | packages entries asked latest verbs => exact settled
  | service other otherTemplate otherGoal =>
    rw [attempt_service]
    simp only [ServiceGoal.get_reconcile]
    split
    · next here => rw [agrees here.1.symm]
    · exact settled
  | rpm otherGoal =>
    cases planned : otherGoal.reconcile (session.rpmPath otherGoal.source) collaborators.facts
        collaborators.files session.packages with
    | error failure =>
      rw [attempt_rpm_of_error planned]
      exact settled
    | ok result =>
      rw [attempt_rpm_of_ok planned]
      exact settled
  | repository declared =>
    rw [session_attempt_repository]
    exact settled

/-- An operation is settled once it was planned. -/
theorem isSettled_attempt {operation : Operation} (asks : operation.AsksFor present)
    (session : Session) :
    operation.IsSettled collaborators (operation.attempt collaborators session).2 := by
  cases operation with
  | packages entries asked latest verbs =>
    exact (packageGoal entries asked latest verbs).pending_inventoryAfter
      collaborators.providers session.packages
  | service name template goal =>
    have asked : goal.running.isSome = true := asks.1
    rw [attempt_service]
    simp only [IsSettled, ServiceGoal.get_reconcile, asked, and_self, if_true]
  | rpm goal =>
    cases planned : goal.reconcile (session.rpmPath goal.source) collaborators.facts
        collaborators.files session.packages with
    | error failure =>
      rw [attempt_rpm_of_error planned]
      exact RpmGoal.isSettled_of_error planned
    | ok result =>
      rw [attempt_rpm_of_ok planned]
      exact RpmGoal.isSettled_of_reconcile planned
  | repository declared => exact trivial

/-- A settled operation stays settled through an operation that does not contradict it. -/
theorem IsSettled.attempt {operation later : Operation} {session : Session}
    (settled : operation.IsSettled collaborators session) (asks : operation.AsksFor present)
    (laterAsks : later.AsksFor present) (agrees : operation.Agrees later) :
    operation.IsSettled collaborators (later.attempt collaborators session).2 := by
  have moves : session.packages.MovesToward present
      (later.attempt collaborators session).2.packages :=
    movesToward_attempt laterAsks session
  cases operation with
  | packages entries asked latest verbs =>
    have asks : asked = present := asks
    subst asks
    exact (packageGoal entries asked latest verbs).pending_eq_nil_of_movesToward
      collaborators.providers moves settled
  | service name template goal => exact get_services_attempt settled agrees
  | rpm goal =>
    have asks : goal.present = present := asks
    subst asks
    simp only [IsSettled]
    rw [later.rpmPath_attempt collaborators session goal.source]
    exact RpmGoal.IsSettled.of_movesToward settled moves
  | repository declared => exact trivial

/-- A settled operation that is planned again changes nothing and plans nothing new. -/
theorem attempt_of_isSettled {operation : Operation} {session : Session}
    (asks : operation.AsksFor present) (settled : operation.IsSettled collaborators session) :
    (operation.attempt collaborators session).2 = session ∧
      operation.RunsQuietly collaborators session
        (operation.report (operation.attempt collaborators session).1) := by
  cases operation with
  | packages entries asked latest verbs =>
    rw [attempt_packages]
    refine ⟨?_, ?_⟩
    · have same := (packageGoal entries asked latest verbs).inventoryAfter_of_pending_eq_nil
        collaborators.providers settled
      simp only [PackageGoal.reconcile, same]
    · exact (packageGoal entries asked latest verbs).commands_reconcile_of_pending_eq_nil
        collaborators.providers verbs settled
  | service name template goal =>
    obtain ⟨noCommands, same⟩ := ServiceGoal.reconcile_of_get_eq template asks settled
    rw [attempt_service]
    refine ⟨?_, noCommands⟩
    simp only [same]
  | rpm goal =>
    cases planned : goal.reconcile (session.rpmPath goal.source) collaborators.facts
        collaborators.files session.packages with
    | error failure =>
      rw [attempt_rpm_of_error planned]
      exact ⟨rfl, (RpmGoal.checkCommands_of_error planned).symm⟩
    | ok result =>
      obtain ⟨outcome, after⟩ := result
      obtain ⟨commands, rfl⟩ := RpmGoal.reconcile_of_isSettled settled planned
      rw [attempt_rpm_of_ok planned]
      exact ⟨rfl, commands⟩
  | repository declared =>
    exact ⟨session_attempt_repository declared collaborators session, trivial⟩

end Operation

variable {collaborators : Collaborators} {present : Bool}

/-- Operations that one run can carry out together: they all ask for one presence of packages, and
no two of them ask for opposite states of one service. -/
structure Compatible (present : Bool) (operations : List Operation) : Prop where
  asks : ∀ operation ∈ operations, operation.AsksFor present
  agrees : ∀ first ∈ operations, ∀ second ∈ operations, first.Agrees second

/-- A settled operation stays settled through operations that do not contradict it. -/
theorem Operation.IsSettled.planSteps {operation : Operation} {operations : List Operation}
    {session : Session} (settled : operation.IsSettled collaborators session)
    (asks : operation.AsksFor present) (allAsk : ∀ later ∈ operations, later.AsksFor present)
    (agrees : ∀ later ∈ operations, operation.Agrees later) :
    operation.IsSettled collaborators (planSteps collaborators operations session).2 := by
  induction operations generalizing session with
  | nil => exact settled
  | cons later operations inductionHypothesis =>
    have kept := settled.attempt asks (allAsk later (List.mem_cons_self ..))
      (agrees later (List.mem_cons_self ..))
    exact inductionHypothesis kept
      (fun other member => allAsk other (List.mem_cons_of_mem later member))
      (fun other member => agrees other (List.mem_cons_of_mem later member))

/-- A run settles each of its operations. -/
theorem isSettled_planSteps {operations : List Operation}
    (compatible : Compatible present operations) (session : Session) :
    ∀ operation ∈ operations,
      operation.IsSettled collaborators (planSteps collaborators operations session).2 := by
  induction operations generalizing session with
  | nil => exact fun operation member => absurd member List.not_mem_nil
  | cons first rest inductionHypothesis =>
    obtain ⟨asks, agrees⟩ := compatible
    have restAsks : ∀ later ∈ rest, later.AsksFor present :=
      fun later member => asks later (List.mem_cons_of_mem first member)
    have firstAsks := asks first (List.mem_cons_self ..)
    intro operation member
    rcases List.mem_cons.mp member with rfl | inRest
    · have settled : operation.IsSettled collaborators
          (operation.attempt collaborators session).2 :=
        Operation.isSettled_attempt firstAsks session
      exact settled.planSteps firstAsks restAsks fun later inside =>
        agrees operation (List.mem_cons_self ..) later (List.mem_cons_of_mem operation inside)
    · have compatibleRest : Compatible present rest :=
        ⟨restAsks, fun one inOne other inOther =>
          agrees one (List.mem_cons_of_mem first inOne) other (List.mem_cons_of_mem first inOther)⟩
      exact inductionHypothesis compatibleRest (first.attempt collaborators session).2 operation
        inRest

/-- A run of operations that are all settled changes nothing, and each of its steps is quiet. -/
theorem planSteps_of_isSettled {operations : List Operation} {session : Session}
    (asks : ∀ operation ∈ operations, operation.AsksFor present)
    (settled : ∀ operation ∈ operations, operation.IsSettled collaborators session) :
    (planSteps collaborators operations session).2 = session ∧
      List.Forall₂ (Operation.RunsQuietly collaborators session) operations
        (planSteps collaborators operations session).1 := by
  induction operations with
  | nil => exact ⟨rfl, .nil⟩
  | cons operation operations inductionHypothesis =>
    obtain ⟨same, quiet⟩ := Operation.attempt_of_isSettled
      (asks operation (List.mem_cons_self ..)) (settled operation (List.mem_cons_self ..))
    obtain ⟨restSame, restQuiet⟩ := inductionHypothesis
      (fun later member => asks later (List.mem_cons_of_mem operation member))
      (fun later member => settled later (List.mem_cons_of_mem operation member))
    simp only [planSteps, same]
    exact ⟨restSame, .cons quiet restQuiet⟩

/-- Running a plan of compatible operations again, on the session that the first run left, changes
nothing: no package or package file is installed or removed, no service gets a command, and what is
known of packages and services stays as it is. -/
theorem Plan.runOn_again {plan : Plan} (compatible : Compatible present plan.operations)
    (input : HostInput) :
    let first := plan.runOn input
    let second := plan.runOn { input with session := first.2 }
    List.Forall₂ (Operation.RunsQuietly input.collaborators first.2) plan.operations
        second.1.steps ∧
      second.2 = first.2 := by
  intro first second
  have settled : ∀ operation ∈ plan.operations,
      operation.IsSettled input.collaborators first.2 :=
    isSettled_planSteps compatible input.session
  obtain ⟨same, quiet⟩ := planSteps_of_isSettled compatible.asks settled
  exact ⟨quiet, same⟩

/-- A plan that asks for a capability, for a version, for a package file and for a service, partly
more than once. -/
def editorPlan : Plan where
  operations :=
    [.packages ["editor", "vim=9.0", "editor"] true true PackageManager.dnf.verbs,
      .rpm ⟨"/srv/foo.rpm", true, "dnf"⟩,
      .service "sshd" InitSystem.systemd.template ⟨some true, false, false, none, "is-active"⟩,
      .packages ["foo", "nano"] true false PackageManager.apt.verbs,
      .service "sshd" InitSystem.sysvinit.template ⟨some true, false, false, none, "status"⟩]

/-- A host with an old editor, where `vim` and one version of `nano` provide an editor. -/
def editorHost : HostInput where
  session := .start "db1" (.ofList [("vim", ["8.2"])]) .empty
  collaborators :=
    { facts :=
        { Facts.none with
          rpmPackage := fun path =>
            .ok (if path = "/srv/foo.rpm" then some ⟨"foo", "1.0"⟩ else none) }
      files := .shell .none
      providers := fun name =>
        if name = "editor" then [⟨"vim", none⟩, ⟨"nano", some "7.2"⟩] else [] }

/-- The plan for editors is carried out by one run. -/
theorem runOn_again_editorPlan :
    Compatible true editorPlan.operations ∧
      List.Forall₂
        (Operation.RunsQuietly editorHost.collaborators (editorPlan.runOn editorHost).2)
        editorPlan.operations
        (editorPlan.runOn
          { editorHost with session := (editorPlan.runOn editorHost).2 }).1.steps ∧
      (editorPlan.runOn { editorHost with session := (editorPlan.runOn editorHost).2 }).2 =
        (editorPlan.runOn editorHost).2 := by
  have compatible : Compatible true editorPlan.operations := by
    constructor <;>
      simp [editorPlan, Operation.AsksFor, Operation.Agrees, ServiceGoal.AsksOnlyForState]
  exact ⟨compatible, Plan.runOn_again compatible editorHost⟩

end FleetPlan
