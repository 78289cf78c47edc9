import FleetPlan.Service.Goal

/-!
# Service commands on a host

The shell of a host reads a planned command as one action, or as a conditional
that probes the service and performs one of two lists of actions.
`ServiceGoal.commands` are the commands of a goal in this form, and
`ServiceGoal.map_text_commands` says that their texts are those that are planned.

The conditional and the commands for a service of known state perform the same
actions, once it is settled whether the service is taken to run
(`ServiceCommand.carryOut_commands`).
-/

namespace FleetPlan

/-- What a host can be told to do to the state of a service. -/
inductive ServiceChange where
  | stop
  | start
  | restart
  | reload
  deriving DecidableEq, Repr

namespace ServiceChange

/-- The word that a template is filled with. -/
def word : ServiceChange → String
  | .stop => "stop"
  | .start => "start"
  | .restart => "restart"
  | .reload => "reload"

/-- Whether a service runs after a change. -/
def leaves (running : Bool) : ServiceChange → Bool
  | .stop => false
  | .start | .restart => true
  | .reload => running

/-- The command for a change is never `true`, since the word of the change is in it. -/
theorem render_ne_true (change : ServiceChange) {template : ActionTemplate}
    (usable : template.IsUsable) (service : String) :
    template.render service change.word ≠ "true" := by
  apply template.render_ne usable service
  cases change <;> decide

end ServiceChange

/-- What a host can be told to do to a service. -/
inductive ServiceAction where
  | change (wanted : ServiceChange)
  /-- The action that is wanted in any case. -/
  | extra (action : String)
  deriving DecidableEq, Repr

namespace ServiceAction

/-- The word that a template is filled with. -/
def word : ServiceAction → String
  | .change wanted => wanted.word
  | .extra action => action

/-- Whether a service runs after an action. -/
def leaves (running : Bool) : ServiceAction → Bool
  | .change wanted => wanted.leaves running
  | .extra _ => running

end ServiceAction

/-- Whether a service is taken to run: as its state says, and as a probe finds it where the state is
not known. -/
def ServiceState.takenFor (found : Bool) : ServiceState → Bool
  | .unknown => found
  | state => state.isRunning

/-- A command about one service, as the shell of a host reads it. -/
inductive ServiceCommand where
  /-- One action. -/
  | act (action : ServiceAction)
  /-- Probe the service, and act on what is found. A place without a change holds `true`. -/
  | conditional (probe : String) (whenRunning whenStopped : List (Option ServiceChange))
  deriving DecidableEq, Repr

namespace ServiceCommand

variable (template : ActionTemplate) (service : String)

/-- The text of one place of a conditional. -/
def placeText : Option ServiceChange → String
  | some change => template.render service change.word
  | none => "true"

/-- The text of a command. -/
def text : ServiceCommand → String
  | .act action => template.render service action.word
  | .conditional probe whenRunning whenStopped =>
    "if (" ++ template.render service probe ++
      "); then (" ++ "); (".intercalate (whenRunning.map (placeText template service)) ++
      "); else (" ++ "); (".intercalate (whenStopped.map (placeText template service)) ++
      "); fi"

/-- What a host does at one place of a conditional: nothing where the text is `true`. -/
def performedAt (place : Option ServiceChange) : Option ServiceAction :=
  if placeText template service place = "true" then none else place.map .change

/-- The actions that a command performs on a service that runs or does not. -/
def actions (running : Bool) : ServiceCommand → List ServiceAction
  | .act action => [action]
  | .conditional _ whenRunning whenStopped =>
    (if running then whenRunning else whenStopped).filterMap (performedAt template service)

/-- Carry out commands on a service one after the other: the actions that are performed, and whether
the service runs in the end. -/
def carryOut : List ServiceCommand → Bool → List ServiceAction × Bool
  | [], running => ([], running)
  | command :: commands, running =>
    let performed := command.actions template service running
    let rest := carryOut commands (performed.foldl ServiceAction.leaves running)
    (performed ++ rest.1, rest.2)

variable {template}

/-- Only a place without a change has the text `true`. -/
theorem performedAt_eq (usable : template.IsUsable) (place : Option ServiceChange) :
    performedAt template service place = place.map .change := by
  cases place with
  | none => rfl
  | some change => exact if_neg (change.render_ne_true usable service)

end ServiceCommand

namespace ServiceGoal

variable (goal : ServiceGoal)

/-- The action that is wanted in any case. -/
def extraActions : List ServiceAction :=
  (goal.command.map ServiceAction.extra).toList

/-- The command for the action that is wanted in any case. -/
def extraCommands : List ServiceCommand := goal.extraActions.map .act

/-- The command that moves a service of known state to the wanted one. -/
def moves (wasRunning : Bool) : List ServiceCommand :=
  match goal.running, wasRunning with
  | some false, true => [.act (.change .stop)]
  | some true, false => [.act (.change .start)]
  | _, _ => []

/-- The restart and the reload of a service that was up. -/
def refreshes (wasRunning : Bool) : List ServiceCommand :=
  (if goal.restarted && wasRunning then [.act (.change .restart)] else []) ++
    (if goal.reloaded && wasRunning then [.act (.change .reload)] else [])

/-- The places of the conditional for a service that is found running. -/
def placesWhenRunning : List (Option ServiceChange) :=
  [if goal.running = some false then some .stop else none,
    if goal.restarted then some .restart else none,
    if goal.reloaded then some .reload else none]

/-- The places of the conditional for a service that is found stopped. -/
def placesWhenStopped : List (Option ServiceChange) :=
  [if goal.running = some true then some .start else none]

/-- The commands of a goal for a service, by what is known of its state. -/
def commands : ServiceState → List ServiceCommand
  | .unknown =>
    .conditional goal.probe goal.placesWhenRunning goal.placesWhenStopped :: goal.extraCommands
  | state => goal.moves state.isRunning ++ goal.refreshes state.isRunning ++ goal.extraCommands

/-- The text of the action that is wanted in any case. -/
theorem map_text_extraCommands (template : ActionTemplate) (service : String) :
    goal.extraCommands.map (ServiceCommand.text template service) =
      goal.extra template service := by
  cases wanted : goal.command <;>
    simp [extraCommands, extraActions, extra, wanted, ServiceCommand.text, ServiceAction.word]

/-- The text of a conditional. -/
theorem text_conditional (template : ActionTemplate) (service : String) :
    (ServiceCommand.conditional goal.probe goal.placesWhenRunning goal.placesWhenStopped).text
        template service =
      goal.conditional template service := by
  have place : ∀ (wanted : Prop) [Decidable wanted] (change : ServiceChange),
      ServiceCommand.placeText template service (if wanted then some change else none) =
        branch template service wanted change.word := by
    intro wanted decision change
    by_cases holds : wanted <;> simp [holds, branch, ServiceCommand.placeText]
  unfold ServiceCommand.text conditional placesWhenRunning placesWhenStopped
  simp only [List.map_cons, List.map_nil, place, ServiceChange.word,
    String.intercalate_cons_cons, String.intercalate_singleton, String.append_assoc,
    Bool.decide_eq_true]

/-- The text of the command that moves a service. -/
theorem map_text_moves (template : ActionTemplate) (service : String) (wasRunning : Bool) :
    (goal.moves wasRunning).map (ServiceCommand.text template service) =
      (goal.transition template service wasRunning).commands := by
  unfold moves transition
  cases goal.running with
  | none => rfl
  | some running => cases running <;> cases wasRunning <;> rfl

/-- The texts of a restart and a reload. -/
theorem map_text_refreshes (template : ActionTemplate) (service : String) (wasRunning : Bool) :
    (goal.refreshes wasRunning).map (ServiceCommand.text template service) =
      goal.refresh template service wasRunning := by
  unfold refreshes refresh
  cases goal.restarted <;> cases goal.reloaded <;> cases wasRunning <;> rfl

/-- The commands of a goal are the texts that are planned for it. -/
theorem map_text_commands (template : ActionTemplate) (service : String)
    (states : ServiceStates) :
    (goal.commands (states.get service)).map (ServiceCommand.text template service) =
      (goal.reconcile template service states).1.commands := by
  cases known : states.get service with
  | unknown => simp [commands, reconcile, known, text_conditional, map_text_extraCommands]
  | stopped =>
    simp [commands, reconcile, known, map_text_moves, map_text_refreshes, map_text_extraCommands]
  | running =>
    simp [commands, reconcile, known, map_text_moves, map_text_refreshes, map_text_extraCommands]

/-- The actions of a goal on a service that is taken to run or not. -/
def actionsFor (up : Bool) : List ServiceAction :=
  ((if up then goal.placesWhenRunning else goal.placesWhenStopped).filterMap id).map .change ++
    goal.extraActions

/-- Where the state of a service is known, each action is a command of its own. -/
theorem map_act_actionsFor (up : Bool) :
    (goal.actionsFor up).map .act = goal.moves up ++ goal.refreshes up ++ goal.extraCommands := by
  rw [actionsFor, List.map_append, extraCommands]
  congr 1
  unfold placesWhenRunning placesWhenStopped moves refreshes
  cases goal.running with
  | none => cases up <;> cases goal.restarted <;> cases goal.reloaded <;> rfl
  | some running =>
    cases running <;> cases up <;> cases goal.restarted <;> cases goal.reloaded <;> rfl

/-- Whether a service runs after the actions of a goal. A service that is taken to run is up again
after a restart, also where it was to be stopped. -/
def leaves (up running : Bool) : Bool :=
  if up then goal.restarted || (goal.running != some false && running)
  else goal.running == some true || running

/-- The actions of a goal leave a service in the state that is read off the goal. -/
theorem foldl_leaves_actionsFor (up running : Bool) :
    (goal.actionsFor up).foldl ServiceAction.leaves running = goal.leaves up running := by
  have extras : ∀ after, goal.extraActions.foldl ServiceAction.leaves after = after := by
    intro after
    unfold extraActions
    cases goal.command <;> rfl
  rw [actionsFor, List.foldl_append, extras]
  unfold placesWhenRunning placesWhenStopped leaves
  cases goal.running with
  | none => cases up <;> cases goal.restarted <;> cases goal.reloaded <;> rfl
  | some wanted =>
    cases wanted <;> cases up <;> cases goal.restarted <;> cases goal.reloaded <;>
      cases running <;> rfl

/-- A goal that does not stop and restart a running service leaves the service in the state that it
asks for. -/
theorem leaves_self {running : Bool}
    (notRevived : ¬ (goal.running = some false ∧ goal.restarted = true ∧ running = true)) :
    goal.leaves running running = goal.running.getD running := by
  unfold leaves
  cases asked : goal.running with
  | none => cases running <;> simp
  | some wanted => cases wanted <;> cases running <;> simp_all

end ServiceGoal

namespace ServiceCommand

variable {template : ActionTemplate} (service : String)

/-- Single actions are performed as they stand. -/
theorem carryOut_map_act (actions : List ServiceAction) (running : Bool) :
    carryOut template service (actions.map .act) running =
      (actions, actions.foldl ServiceAction.leaves running) := by
  induction actions generalizing running with
  | nil => rfl
  | cons action actions inductionHypothesis =>
    simp only [List.map_cons, carryOut, ServiceCommand.actions, inductionHypothesis]
    rfl

/-- The changes of a conditional are performed as they stand. -/
theorem filterMap_performedAt (usable : template.IsUsable) (places : List (Option ServiceChange)) :
    places.filterMap (performedAt template service) = (places.filterMap id).map .change := by
  have asTheyStand : performedAt template service = fun place => (id place).map .change :=
    funext (performedAt_eq service usable)
  rw [asTheyStand, List.map_filterMap]

/-- Carrying out the commands of a goal performs the actions for a service that is taken to run as
far as that is known, and as the probe finds it otherwise. -/
theorem carryOut_commands (usable : template.IsUsable) (goal : ServiceGoal) (state : ServiceState)
    (running : Bool) :
    carryOut template service (goal.commands state) running =
      (goal.actionsFor (state.takenFor running),
        goal.leaves (state.takenFor running) running) := by
  rw [← goal.foldl_leaves_actionsFor]
  cases state with
  | unknown =>
    rw [ServiceGoal.commands, carryOut, ServiceGoal.extraCommands, carryOut_map_act,
      ServiceCommand.actions, filterMap_performedAt service usable, ← List.foldl_append]
    rfl
  | stopped =>
    rw [ServiceGoal.commands, ← goal.map_act_actionsFor, carryOut_map_act]
    · rfl
    · exact ServiceState.noConfusion
  | running =>
    rw [ServiceGoal.commands, ← goal.map_act_actionsFor, carryOut_map_act]
    · rfl
    · exact ServiceState.noConfusion

end ServiceCommand

end FleetPlan
