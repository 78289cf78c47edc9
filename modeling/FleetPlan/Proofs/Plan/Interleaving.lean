import FleetPlan.Report
import Mathlib.Logic.Function.Iterate

/-!
# Planning several hosts at a time

The operations of one host are planned in the order of the plan, while those of
different hosts may take turns in any order. `HostTask` is a host between two of
its operations, and an `Interleaving` says whose turn it is. The invariant is
`HostTask.outlook`, the report that a task makes when it is left alone: no turn
changes it, so that each host ends with the report that it has on its own
(`map_report_takeTurns`), and nothing that is told depends on the order of the
turns or on the number of jobs (`Plan.planHosts_eq`).
-/

namespace FleetPlan

/-- A host that is being planned: the session so far, the operations that wait, and the steps that
are done. -/
structure HostTask where
  collaborators : Collaborators
  session : Session
  waiting : List Operation
  steps : List StepReport

namespace HostTask

/-- A host for which nothing was planned yet. -/
def start (plan : Plan) (input : HostInput) : HostTask :=
  ⟨input.collaborators, input.session, plan.operations, []⟩

/-- Plan the next operation, if one waits. -/
def advance (task : HostTask) : HostTask :=
  match task.waiting with
  | [] => task
  | operation :: operations =>
    let attempted := operation.attempt task.collaborators task.session
    { task with
      session := attempted.2
      waiting := operations
      steps := task.steps ++ [operation.report attempted.1] }

/-- The report of what is done. -/
def report (task : HostTask) : HostReport := ⟨task.session.host, task.steps⟩

/-- The report of a task when all that waits is planned without a break. -/
def outlook (task : HostTask) : HostReport :=
  ⟨task.session.host,
    task.steps ++ (planSteps task.collaborators task.waiting task.session).1⟩

/-- At the start, the outlook is the report of the host on its own. -/
theorem outlook_start (plan : Plan) (input : HostInput) :
    (start plan input).outlook = plan.reportFor input :=
  rfl

/-- Where nothing waits, the outlook is the report. -/
theorem outlook_of_waiting_eq_nil {task : HostTask} (done : task.waiting = []) :
    task.outlook = task.report := by
  rw [outlook, done, report]
  simp [planSteps]

/-- Planning an operation leaves the outlook as it is. -/
theorem outlook_advance (task : HostTask) : task.advance.outlook = task.outlook := by
  obtain ⟨collaborators, session, waiting, steps⟩ := task
  cases waiting with
  | nil => rfl
  | cons operation operations =>
    obtain ⟨packages, services, after⟩ := operation.session_attempt collaborators session
    have sameHost : (operation.attempt collaborators session).2.host = session.host := by
      rw [after]
    simp [advance, outlook, planSteps, sameHost]

/-- Planning an operation takes it from those that wait. -/
theorem waiting_advance (task : HostTask) : task.advance.waiting = task.waiting.tail := by
  obtain ⟨collaborators, session, waiting, steps⟩ := task
  cases waiting with
  | nil => rfl
  | cons operation operations => rfl

/-- Planning operations leaves the outlook as it is. -/
theorem outlook_iterate (turns : Nat) (task : HostTask) :
    (advance^[turns] task).outlook = task.outlook := by
  induction turns generalizing task with
  | zero => rfl
  | succ turns inductionHypothesis =>
    rw [Function.iterate_succ_apply, inductionHypothesis, outlook_advance]

/-- Planning operations takes as many from those that wait. -/
theorem waiting_iterate (turns : Nat) (task : HostTask) :
    (advance^[turns] task).waiting = task.waiting.drop turns := by
  induction turns generalizing task with
  | zero => rfl
  | succ turns inductionHypothesis =>
    rw [Function.iterate_succ_apply, inductionHypothesis, waiting_advance, List.drop_tail]

/-- A host that had a turn for every operation has the report that it has on its own. -/
theorem report_iterate_start (plan : Plan) (input : HostInput) :
    (advance^[plan.size] (start plan input)).report = plan.reportFor input := by
  have done : (advance^[plan.size] (start plan input)).waiting = [] := by
    rw [waiting_iterate]
    exact List.drop_length
  rw [← outlook_of_waiting_eq_nil done, outlook_iterate, outlook_start]

end HostTask

/-- The tasks after some turns. A turn is the position of the host whose next operation is
planned. -/
def takeTurns (turns : List Nat) (tasks : List HostTask) : List HostTask :=
  turns.foldl (fun current host => current.modify host HostTask.advance) tasks

/-- A turn of one host leaves the tasks of the others as they are. -/
theorem getElem?_takeTurns (turns : List Nat) (tasks : List HostTask) (host : Nat) :
    (takeTurns turns tasks)[host]? =
      tasks[host]?.map (HostTask.advance^[turns.count host]) := by
  induction turns generalizing tasks with
  | nil => simp [takeTurns]
  | cons turn turns inductionHypothesis =>
    have afterTurn : takeTurns (turn :: turns) tasks =
        takeTurns turns (tasks.modify turn HostTask.advance) := rfl
    rw [afterTurn, inductionHypothesis]
    by_cases here : turn = host
    · subst here
      rw [List.getElem?_modify_eq, List.count_cons_self]
      simp [Option.map_map, Function.iterate_succ]
    · rw [List.getElem?_modify_ne _ _ here, List.count_cons_of_ne here]

/-- An order in which the operations of several hosts are planned: every host has a turn for each of
its operations. -/
structure Interleaving (hosts operations : Nat) where
  turns : List Nat
  complete : ∀ host, turns.count host = if host < hosts then operations else 0

namespace Interleaving

/-- One host after the other. -/
def hostByHost (hosts operations : Nat) : Interleaving hosts operations where
  turns := (List.range hosts).flatMap (List.replicate operations)
  complete host := by
    induction hosts with
    | zero => simp
    | succ hosts inductionHypothesis =>
      rw [List.range_succ, List.flatMap_append, List.count_append, inductionHypothesis,
        List.flatMap_singleton, List.count_replicate]
      by_cases last : hosts = host
      · subst last
        simp
      · simp only [beq_iff_eq, last, if_false, Nat.add_zero]
        congr 1
        exact propext (by omega)

instance (hosts operations : Nat) : Inhabited (Interleaving hosts operations) :=
  ⟨hostByHost hosts operations⟩

end Interleaving

/-- In whatever order hosts take turns, each of them has the report that it has on its own. -/
theorem map_report_takeTurns (plan : Plan) (hosts : List HostInput)
    (order : Interleaving hosts.length plan.size) :
    (takeTurns order.turns (hosts.map (HostTask.start plan))).map HostTask.report =
      plan.reports hosts := by
  apply List.ext_getElem?
  intro host
  rw [List.getElem?_map, getElem?_takeTurns, order.complete, Plan.reports, List.getElem?_map,
    List.getElem?_map]
  by_cases declared : host < hosts.length
  · rw [if_pos declared, List.getElem?_eq_getElem declared]
    simp [HostTask.report_iterate_start]
  · rw [List.getElem?_eq_none (Nat.le_of_not_lt declared)]
    rfl

namespace Plan

/-- Plan several hosts: their reports, and what is told. With one job or one host, the hosts are
planned one after the other, and otherwise they take turns. -/
def planHosts (plan : Plan) (hosts : List HostInput) (jobs : Nat)
    (order : Interleaving hosts.length plan.size) : List HostReport × List Progress :=
  let reports :=
    if jobs ≤ 1 ∨ hosts.length ≤ 1 then plan.reports hosts
    else (takeTurns order.turns (hosts.map (HostTask.start plan))).map HostTask.report
  (reports,
    .start hosts.length ::
      reports.map (fun report => .host report.host report.hasChanges) ++ [.finish])

/-- The reports, and what is told, are those of the hosts on their own. -/
theorem planHosts_eq (plan : Plan) (hosts : List HostInput) (jobs : Nat)
    (order : Interleaving hosts.length plan.size) :
    plan.planHosts hosts jobs order =
      (plan.reports hosts, Progress.ofReports (plan.reports hosts)) := by
  unfold planHosts Progress.ofReports
  rw [map_report_takeTurns, ite_self]
  simp [reports]

end Plan

end FleetPlan
