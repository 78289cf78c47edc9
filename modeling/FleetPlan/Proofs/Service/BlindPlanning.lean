import FleetPlan.Proofs.Service.Run

/-!
# Planning with less knowledge

What is not known of a service is looked up by the host itself. A planner that
has forgotten the states of some services therefore performs the same actions as
one that knows them, call by call, and leaves the same services running
(`ServiceRun.performedAll_of_forgets`). The two records are kept apart by no more
than what was forgotten, and a forgotten service is one whose full record is
still truthful (`ServiceRun.Simulates`).
-/

namespace FleetPlan

/-- A record that holds less than another: each service is unknown, or as in the other. -/
def ServiceStates.ForgetsFrom (partially fully : ServiceStates) : Prop :=
  ∀ service, partially.get service = .unknown ∨ partially.get service = fully.get service

namespace ServiceRun

/-- A run with less knowledge keeps up with one that has more: the hosts are the same, and where a
record is missing the other one is truthful. -/
structure Simulates (blind informed : ServiceRun) : Prop where
  host : blind.host = informed.host
  known : ∀ service, blind.states.get service = informed.states.get service ∨
    blind.states.get service = .unknown ∧ informed.IsTruthfulAt service

/-- A run that keeps up with another takes every service for the same. -/
theorem Simulates.takes_eq {blind informed : ServiceRun} (simulates : blind.Simulates informed)
    (call : ServiceCall) : blind.takes call = informed.takes call := by
  unfold takes
  rw [simulates.host]
  rcases simulates.known call.service with same | ⟨unknown, truthful⟩
  · rw [same]
  · rw [unknown, takenFor_of_isTruthfulAt truthful]
    rfl

/-- A run that keeps up with another does so after one more call. -/
theorem Simulates.next {blind informed : ServiceRun} (simulates : blind.Simulates informed)
    (call : ServiceCall) : (blind.next call).Simulates (informed.next call) := by
  constructor
  · rw [host_next, host_next, simulates.takes_eq, simulates.host]
  · intro service
    by_cases recorded : call.service = service ∧ call.goal.running.isSome
    · left
      rw [get_states_next, get_states_next, if_pos recorded, if_pos recorded]
    · rw [get_states_next, get_states_next, if_neg recorded, if_neg recorded]
      rcases simulates.known service with same | ⟨unknown, truthful⟩
      · exact .inl same
      · refine .inr ⟨unknown, truthful.next ?_⟩
        rintro ⟨here, stopped, -⟩
        exact recorded ⟨here, by rw [stopped]; rfl⟩

/-- A run that keeps up with another performs the same actions for every further call, and leaves
the same services running. -/
theorem Simulates.performedAll_eq {blind informed : ServiceRun}
    (simulates : blind.Simulates informed) (calls : List ServiceCall) :
    blind.performedAll calls = informed.performedAll calls ∧
      (blind.finish calls).host = (informed.finish calls).host := by
  induction calls generalizing blind informed with
  | nil => exact ⟨rfl, simulates.host⟩
  | cons call calls inductionHypothesis =>
    obtain ⟨rest, hosts⟩ := inductionHypothesis (simulates.next call)
    refine ⟨?_, hosts⟩
    rw [performedAll, performedAll, rest, performed_eq, performed_eq, simulates.takes_eq]

/-- Planning calls from a record of which some services were forgotten performs the same actions on
the host as planning them from the full record, call by call, and leaves the same services
running. -/
theorem performedAll_of_forgets {informed : ServiceRun} {partially : ServiceStates}
    (truthful : ∀ service, informed.IsTruthfulAt service)
    (forgets : partially.ForgetsFrom informed.states) (calls : List ServiceCall) :
    let blind : ServiceRun := ⟨partially, informed.host⟩
    blind.performedAll calls = informed.performedAll calls ∧
      (blind.finish calls).host = (informed.finish calls).host := by
  intro blind
  have simulates : blind.Simulates informed := by
    refine ⟨rfl, fun service => ?_⟩
    rcases forgets service with forgotten | kept
    · exact .inr ⟨forgotten, truthful service⟩
    · exact .inl kept
  exact simulates.performedAll_eq calls

end ServiceRun

/-- Calls that ask for a stop and a restart at once, for a start, and for a restart. -/
def webCalls : List ServiceCall :=
  [.ofInit "web" .systemd ⟨some false, true, true, some "enable", "is-active"⟩,
    .ofInit "db" .sysvinit ⟨some true, true, false, none, "status"⟩,
    .ofInit "web" .systemd ⟨none, true, false, none, "is-active"⟩]

/-- With and without a record of the web server and the database, the host performs the same
actions. The last restart is not among them, as the web server is taken to be stopped by then. -/
theorem performedAll_webCalls :
    (∀ service, webHost.IsTruthfulAt service) ∧
      ServiceStates.empty.ForgetsFrom webHost.states ∧
      webHost.performedAll webCalls =
        [[.change .stop, .change .restart, .change .reload, .extra "enable"],
          [.change .start], []] ∧
      (ServiceRun.mk ServiceStates.empty webHost.host).performedAll webCalls =
        webHost.performedAll webCalls ∧
      ((ServiceRun.mk ServiceStates.empty webHost.host).finish webCalls).host =
        (webHost.finish webCalls).host := by
  have forgets : ServiceStates.empty.ForgetsFrom webHost.states := fun service => .inl rfl
  exact ⟨isTruthfulAt_webHost, forgets, rfl,
    ServiceRun.performedAll_of_forgets isTruthfulAt_webHost forgets webCalls⟩

end FleetPlan
