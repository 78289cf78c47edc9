import FleetPlan.Outcome
import FleetPlan.Service.InitSystem
import FleetPlan.Service.State

/-!
# Reconciling one service

A service goal may ask for a running state, for a restart or a reload of a
service that was up, and for one more action in any case. Where the state of the
service is not known, the probe and both branches become one conditional for the
host's shell; where it is known, each action is a command of its own.
-/

namespace FleetPlan

/-- What is wanted from one service. -/
structure ServiceGoal where
  /-- The wanted state; `none` leaves it alone. -/
  running : Option Bool
  restarted : Bool
  reloaded : Bool
  /-- One more action, whatever the state. -/
  command : Option String
  /-- The action that asks for the state. -/
  probe : String
  deriving DecidableEq, Repr

namespace ServiceGoal

/-- A goal that asks for nothing. -/
def plain : ServiceGoal := ⟨none, false, false, none, InitSystem.plainProbe⟩

instance : Inhabited ServiceGoal := ⟨plain⟩

/-- An action for a branch of the conditional, where `true` stands for no action. -/
def branch (template : ActionTemplate) (name : String) (wanted : Bool) (action : String) :
    String :=
  if wanted then template.render name action else "true"

/-- The conditional that probes a service and acts on what it finds. -/
def conditional (goal : ServiceGoal) (template : ActionTemplate) (name : String) : String :=
  "if (" ++ template.render name goal.probe ++
    "); then (" ++ branch template name (goal.running = some false) "stop" ++
    "); (" ++ branch template name goal.restarted "restart" ++
    "); (" ++ branch template name goal.reloaded "reload" ++
    "); else (" ++ branch template name (goal.running = some true) "start" ++
    "); fi"

/-- What moves a service of known state to the wanted one. -/
def transition (goal : ServiceGoal) (template : ActionTemplate) (name : String)
    (wasRunning : Bool) : Outcome :=
  match goal.running, wasRunning with
  | some false, true => .ofCommand (template.render name "stop")
  | some false, false => .ofObservation (.serviceStopped name)
  | some true, false => .ofCommand (template.render name "start")
  | some true, true => .ofObservation (.serviceRunning name)
  | none, _ => .empty

/-- A restart and a reload, which apply only to a service that was up. -/
def refresh (goal : ServiceGoal) (template : ActionTemplate) (name : String)
    (wasRunning : Bool) : List String :=
  (if goal.restarted && wasRunning then [template.render name "restart"] else []) ++
    (if goal.reloaded && wasRunning then [template.render name "reload"] else [])

/-- The states known after a goal was planned for a service of known state. -/
def statesAfter (goal : ServiceGoal) (name : String) (wasRunning : Bool)
    (states : ServiceStates) : ServiceStates :=
  match goal.running with
  | some wanted => if wanted = wasRunning then states else states.set name (some wanted)
  | none => states

/-- The action that is wanted in any case. -/
def extra (goal : ServiceGoal) (template : ActionTemplate) (name : String) : List String :=
  match goal.command with
  | some action => [template.render name action]
  | none => []

/-- Plan the commands that move a service to a goal, and predict the state they leave. -/
def reconcile (goal : ServiceGoal) (template : ActionTemplate) (name : String)
    (states : ServiceStates) : Outcome × ServiceStates :=
  match states.get name with
  | .unknown =>
    (⟨goal.conditional template name :: goal.extra template name, []⟩,
      states.set name goal.running)
  | state =>
    let moved := goal.transition template name state.isRunning
    (⟨moved.commands ++ goal.refresh template name state.isRunning ++ goal.extra template name,
      moved.observations⟩,
      goal.statesAfter name state.isRunning states)

/-- Planning a goal records the state that it asks for, and changes nothing else that is known. -/
theorem get_reconcile (goal : ServiceGoal) (template : ActionTemplate) (name wanted : String)
    (states : ServiceStates) :
    (goal.reconcile template name states).2.get wanted =
      if name = wanted ∧ goal.running.isSome then .ofFound goal.running
      else states.get wanted := by
  by_cases here : name = wanted
  · subst here
    unfold reconcile
    cases known : states.get name <;> cases asked : goal.running with
    | none => simp [statesAfter, asked, known, ServiceStates.get_set, ServiceState.ofFound]
    | some running =>
      cases running <;>
        simp [statesAfter, asked, known, ServiceStates.get_set, ServiceState.ofFound,
          ServiceState.isRunning]
  · unfold reconcile
    cases known : states.get name <;> cases asked : goal.running with
    | none => simp [statesAfter, asked, here, ServiceStates.get_set]
    | some running =>
      cases running <;>
        simp [statesAfter, asked, here, ServiceStates.get_set, ServiceState.isRunning]

end ServiceGoal

end FleetPlan
