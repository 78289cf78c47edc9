import FleetPlan.SortedMap

/-!
# What is known of a host's services

A service runs, is stopped, or has a state that is not known in this run and
must be probed on the host.
-/

namespace FleetPlan

/-- The state of one service as far as it is known. -/
inductive ServiceState where
  | unknown
  | stopped
  | running
  deriving DecidableEq, Repr

namespace ServiceState

/-- The state for a service that was found running, found stopped, or not looked at. -/
def ofFound : Option Bool → ServiceState
  | none => .unknown
  | some false => .stopped
  | some true => .running

/-- Whether the service is known to run. -/
def isRunning : ServiceState → Bool
  | .running => true
  | _ => false

/-- The word for a state in answers. -/
def name : ServiceState → String
  | .unknown => "unknown"
  | .stopped => "stopped"
  | .running => "running"

/-- The word for a state in messages. -/
def title : ServiceState → String
  | .unknown => "Unknown"
  | .stopped => "Stopped"
  | .running => "Running"

end ServiceState

/-- The known services of a host: running (`true`) or stopped (`false`). -/
structure ServiceStates where
  known : SortedMap Bool
  deriving DecidableEq, Repr, Inhabited

namespace ServiceStates

/-- Nothing is known. -/
def empty : ServiceStates := ⟨.empty⟩

/-- The listed states; of two entries for one service the later counts. -/
def ofList (states : List (String × Bool)) : ServiceStates := ⟨.ofList states⟩

/-- The state of a service. -/
def get (states : ServiceStates) (service : String) : ServiceState :=
  .ofFound (states.known.get? service)

/-- Record whether a service runs; `none` makes its state unknown. -/
def set (states : ServiceStates) (service : String) : Option Bool → ServiceStates
  | some running => ⟨states.known.insert service running⟩
  | none => ⟨states.known.erase service⟩

/-- Setting a state changes what is known of that service only. -/
theorem get_set (states : ServiceStates) (service wanted : String) (running : Option Bool) :
    (states.set service running).get wanted =
      if service = wanted then .ofFound running else states.get wanted := by
  cases running <;> simp only [set, get, SortedMap.get?_insert, SortedMap.get?_erase] <;>
    split <;> simp_all

end ServiceStates

end FleetPlan
