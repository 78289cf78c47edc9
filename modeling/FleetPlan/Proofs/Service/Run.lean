import FleetPlan.Proofs.Service.Command
import Mathlib.Logic.Function.Basic

/-!
# Runs of service calls

`ServiceRun` holds what is recorded of services beside the host on which every
planned command is carried out at once. `ServiceCall.planned` reads the commands
of one call, and carries the proof that they are the texts that the call plans.

A record of a service is truthful when it tells what the host does. A call keeps
it so (`ServiceRun.IsTruthfulAt.next`), unless it stops and restarts the service
while it runs.
-/

namespace FleetPlan

/-- A request to move one service to a goal, with a template that was read from a text or belongs to
an init system. -/
structure ServiceCall where
  service : String
  template : ActionTemplate
  usable : template.IsUsable
  goal : ServiceGoal

/-- The commands that a call plans by what is known of the services, as the shell of a host reads
them. -/
def ServiceCall.planned (call : ServiceCall) (states : ServiceStates) :
    { commands : List ServiceCommand //
      commands.map (ServiceCommand.text call.template call.service) =
        (call.goal.reconcile call.template call.service states).1.commands } :=
  ⟨call.goal.commands (states.get call.service),
    call.goal.map_text_commands call.template call.service states⟩

/-- What is recorded of the services, and which of them run on the host. -/
structure ServiceRun where
  states : ServiceStates
  host : String → Bool

namespace ServiceRun

/-- Carrying out what a call plans. -/
def carriedOut (run : ServiceRun) (call : ServiceCall) : List ServiceAction × Bool :=
  ServiceCommand.carryOut call.template call.service (call.planned run.states).1
    (run.host call.service)

/-- The actions that are performed for a call. -/
def performed (run : ServiceRun) (call : ServiceCall) : List ServiceAction :=
  (run.carriedOut call).1

/-- What is recorded, and which services run, after a call. -/
def next (run : ServiceRun) (call : ServiceCall) : ServiceRun where
  states := (call.goal.reconcile call.template call.service run.states).2
  host := Function.update run.host call.service (run.carriedOut call).2

/-- What is recorded, and which services run, after calls. -/
def finish (run : ServiceRun) (calls : List ServiceCall) : ServiceRun :=
  calls.foldl next run

/-- The actions that are performed, call by call. -/
def performedAll : ServiceRun → List ServiceCall → List (List ServiceAction)
  | _, [] => []
  | run, call :: calls => run.performed call :: (run.next call).performedAll calls

/-- Whether a call takes its service to run. -/
def takes (run : ServiceRun) (call : ServiceCall) : Bool :=
  (run.states.get call.service).takenFor (run.host call.service)

/-- What is carried out for a call depends on what its service is taken for. -/
theorem carriedOut_eq (run : ServiceRun) (call : ServiceCall) :
    run.carriedOut call =
      (call.goal.actionsFor (run.takes call),
        call.goal.leaves (run.takes call) (run.host call.service)) :=
  ServiceCommand.carryOut_commands call.service call.usable call.goal _ _

/-- The actions that are performed for a call. -/
theorem performed_eq (run : ServiceRun) (call : ServiceCall) :
    run.performed call = call.goal.actionsFor (run.takes call) := by
  rw [performed, carriedOut_eq]

/-- Which services run after a call. -/
theorem host_next (run : ServiceRun) (call : ServiceCall) :
    (run.next call).host =
      Function.update run.host call.service
        (call.goal.leaves (run.takes call) (run.host call.service)) := by
  rw [next, carriedOut_eq]

/-- Whether the service of a call runs after it. -/
theorem host_next_self (run : ServiceRun) (call : ServiceCall) :
    (run.next call).host call.service =
      call.goal.leaves (run.takes call) (run.host call.service) := by
  rw [host_next, Function.update_self]

/-- What is known of a service after a call. -/
theorem get_states_next (run : ServiceRun) (call : ServiceCall) (service : String) :
    (run.next call).states.get service =
      if call.service = service ∧ call.goal.running.isSome then .ofFound call.goal.running
      else run.states.get service :=
  call.goal.get_reconcile call.template call.service service run.states

/-- The state that a call asks for is recorded. -/
theorem get_states_next_of_eq_some (run : ServiceRun) {call : ServiceCall} {wanted : Bool}
    (asked : call.goal.running = some wanted) :
    (run.next call).states.get call.service = .ofFound (some wanted) := by
  rw [get_states_next, asked, if_pos ⟨rfl, rfl⟩]

/-- A call that asks for no state leaves the record as it is. -/
theorem get_states_next_of_eq_none (run : ServiceRun) {call : ServiceCall}
    (notAsked : call.goal.running = none) (service : String) :
    (run.next call).states.get service = run.states.get service := by
  rw [get_states_next, notAsked]
  exact if_neg fun asked => Bool.false_ne_true asked.2

/-- The record of a service is truthful when it tells what the host does, or nothing at all. -/
def IsTruthfulAt (run : ServiceRun) (service : String) : Prop :=
  run.states.get service = .unknown ∨
    run.states.get service = .ofFound (some (run.host service))

/-- A truthful record takes a service for what it is on the host. -/
theorem takenFor_of_isTruthfulAt {run : ServiceRun} {service : String}
    (truthful : run.IsTruthfulAt service) :
    (run.states.get service).takenFor (run.host service) = run.host service := by
  rcases truthful with unknown | known
  · rw [unknown]
    rfl
  · rw [known]
    cases run.host service <;> rfl

/-- A call revives a running service when it stops the service and restarts it all the same. -/
def Revives (run : ServiceRun) (service : String) (call : ServiceCall) : Prop :=
  call.service = service ∧ call.goal.running = some false ∧ call.goal.restarted = true ∧
    run.host service = true

/-- A call for another service changes neither the record of a service nor whether it runs. -/
theorem next_of_ne (run : ServiceRun) {call : ServiceCall} {service : String}
    (other : call.service ≠ service) :
    (run.next call).states.get service = run.states.get service ∧
      (run.next call).host service = run.host service := by
  constructor
  · rw [get_states_next, if_neg fun here => other here.1]
  · rw [host_next, Function.update_of_ne other.symm]

/-- A truthful record stays truthful through a call that does not revive the service. -/
theorem IsTruthfulAt.next {run : ServiceRun} {call : ServiceCall} {service : String}
    (truthful : run.IsTruthfulAt service) (notRevived : ¬ run.Revives service call) :
    (run.next call).IsTruthfulAt service := by
  by_cases here : call.service = service
  · subst here
    have taken : run.takes call = run.host call.service := takenFor_of_isTruthfulAt truthful
    have leaves : (run.next call).host call.service =
        call.goal.running.getD (run.host call.service) := by
      rw [host_next_self, taken, call.goal.leaves_self]
      exact fun revived => notRevived ⟨rfl, revived⟩
    unfold IsTruthfulAt at truthful ⊢
    rw [leaves]
    cases asked : call.goal.running with
    | none =>
      rw [run.get_states_next_of_eq_none asked]
      exact truthful
    | some wanted => exact .inr (run.get_states_next_of_eq_some asked)
  · obtain ⟨sameRecord, sameHost⟩ := run.next_of_ne here
    unfold IsTruthfulAt
    rw [sameRecord, sameHost]
    exact truthful

end ServiceRun

/-- A request that is carried out with an init system. -/
def ServiceCall.ofInit (service : String) (init : InitSystem) (goal : ServiceGoal) : ServiceCall :=
  ⟨service, init.template, init.isUsable_template, goal⟩

/-- A host with a web server that runs and a database that does not, and a record of both. -/
def webHost : ServiceRun where
  states := (ServiceStates.empty.set "web" (some true)).set "db" (some false)
  host := fun service => service = "web"

/-- The record of the host with a web server is truthful. -/
theorem isTruthfulAt_webHost (service : String) : webHost.IsTruthfulAt service := by
  unfold ServiceRun.IsTruthfulAt webHost
  simp only [ServiceStates.get_set]
  by_cases database : "db" = service
  · subst database
    right
    simp
  · by_cases web : "web" = service
    · subst web
      right
      simp
    · left
      simp [database, web, ServiceStates.get, ServiceStates.empty, ServiceState.ofFound]

end FleetPlan
