import FleetPlan.Proofs.Service.Run
import Mathlib.Data.List.Basic
import Mathlib.Data.List.Induction

/-!
# When the record of a service is truthful

The record of a service is made from the state that calls ask for, while the
host acts on the commands, and a restart comes after a stop. A running service
that is stopped and restarted by one call runs on and is recorded as stopped, and
that stays so until a call asks for it to run. There is no other way in which a
truthful record goes wrong (`ServiceRun.isTruthfulAt_finish_iff`).
-/

namespace FleetPlan

namespace ServiceRun

/-- A service that runs while the record says that it is stopped. -/
def IsRevived (run : ServiceRun) (service : String) : Prop :=
  run.states.get service = .stopped ∧ run.host service = true

/-- Some call stops and restarts the service while it runs, and no later call asks for it to run. -/
def LeavesRevived (start : ServiceRun) (service : String) (calls : List ServiceCall) : Prop :=
  ∃ before call after, calls = before ++ call :: after ∧
    (start.finish before).Revives service call ∧
    ∀ later ∈ after, later.service = service → later.goal.running ≠ some true

variable {run : ServiceRun} {call : ServiceCall} {service : String}

/-- The record of a revived service is not truthful. -/
theorem IsRevived.not_isTruthfulAt (revived : run.IsRevived service) :
    ¬ run.IsTruthfulAt service := by
  obtain ⟨recorded, runs⟩ := revived
  rintro (unknown | known)
  · rw [recorded] at unknown
    cases unknown
  · rw [recorded, runs] at known
    cases known

/-- A service that is stopped and restarted while it runs is revived, whatever its record was. -/
theorem Revives.next (revives : run.Revives service call) : (run.next call).IsRevived service := by
  obtain ⟨rfl, stopped, restarted, runs⟩ := revives
  constructor
  · exact run.get_states_next_of_eq_some stopped
  · rw [host_next_self, runs]
    unfold ServiceGoal.leaves
    rw [stopped, restarted]
    cases run.takes call <;> rfl

/-- A revived service is taken to be stopped. -/
theorem IsRevived.takes (revived : run.IsRevived call.service) : run.takes call = false := by
  rw [ServiceRun.takes, revived.1]
  rfl

/-- A revived service stays so until a call asks for it to run. -/
theorem IsRevived.next (revived : run.IsRevived service)
    (notStarted : call.service = service → call.goal.running ≠ some true) :
    (run.next call).IsRevived service := by
  have recorded := revived.1
  have runs := revived.2
  by_cases here : call.service = service
  · have notAsked : call.goal.running ≠ some true := notStarted here
    subst here
    constructor
    · cases asked : call.goal.running with
      | none => exact (run.get_states_next_of_eq_none asked call.service).trans recorded
      | some wanted =>
        cases wanted with
        | false => exact run.get_states_next_of_eq_some asked
        | true => exact absurd asked notAsked
    · rw [host_next_self, revived.takes, runs]
      simp [ServiceGoal.leaves]
  · obtain ⟨sameRecord, sameHost⟩ := run.next_of_ne here
    exact ⟨sameRecord.trans recorded, sameHost.trans runs⟩

/-- A revived service is recorded truthfully again when a call asks for it to run. -/
theorem IsRevived.isTruthfulAt_next (revived : run.IsRevived service)
    (here : call.service = service) (started : call.goal.running = some true) :
    (run.next call).IsTruthfulAt service := by
  subst here
  right
  rw [run.get_states_next_of_eq_some started, host_next_self, revived.takes, revived.2]
  simp [ServiceGoal.leaves]

/-- Calls leave a service revived by the last one, or by earlier ones that the last one does not
make up for. -/
theorem leavesRevived_concat (start : ServiceRun) (service : String) (calls : List ServiceCall)
    (last : ServiceCall) :
    start.LeavesRevived service (calls ++ [last]) ↔
      (start.finish calls).Revives service last ∨
        start.LeavesRevived service calls ∧
          (last.service = service → last.goal.running ≠ some true) := by
  constructor
  · rintro ⟨before, call, after, split, revives, kept⟩
    rcases List.eq_nil_or_concat' after with rfl | ⟨initial, final, rfl⟩
    · obtain ⟨rfl, rfl⟩ := List.append_singleton_inj.mp split
      exact .inl revives
    · have split : calls ++ [last] = (before ++ call :: initial) ++ [final] := by
        simpa using split
      obtain ⟨rfl, rfl⟩ := List.append_singleton_inj.mp split
      refine .inr ⟨⟨before, call, initial, rfl, revives, ?_⟩, ?_⟩
      · intro later member
        exact kept later (List.mem_append_left _ member)
      · exact kept last (List.mem_append_right _ (List.mem_singleton_self last))
  · rintro (revives | ⟨⟨before, call, after, rfl, revives, kept⟩, notStarted⟩)
    · exact ⟨calls, last, [], rfl, revives, fun later member => absurd member List.not_mem_nil⟩
    · refine ⟨before, call, after ++ [last], by simp, revives, ?_⟩
      intro later member
      rcases List.mem_append.mp member with inside | atEnd
      · exact kept later inside
      · rw [List.mem_singleton.mp atEnd]
        exact notStarted

/-- What calls leave of a service whose record was truthful: it is revived, or its record is still
truthful. -/
theorem isRevived_or_isTruthfulAt_finish {start : ServiceRun}
    (truthful : start.IsTruthfulAt service) (calls : List ServiceCall) :
    (start.LeavesRevived service calls ∧ (start.finish calls).IsRevived service) ∨
      (¬ start.LeavesRevived service calls ∧ (start.finish calls).IsTruthfulAt service) := by
  induction calls using List.reverseRecOn with
  | nil =>
    refine .inr ⟨?_, truthful⟩
    rintro ⟨before, call, after, split, -⟩
    have someCall := List.append_ne_nil_of_right_ne_nil before (List.cons_ne_nil call after)
    exact absurd split.symm someCall
  | append_singleton calls last inductionHypothesis =>
    have finished : start.finish (calls ++ [last]) = (start.finish calls).next last := by
      rw [finish, finish, List.foldl_append, List.foldl_cons, List.foldl_nil]
    rw [leavesRevived_concat, finished]
    by_cases revives : (start.finish calls).Revives service last
    · exact .inl ⟨.inl revives, revives.next⟩
    · rcases inductionHypothesis with ⟨leaves, revived⟩ | ⟨spares, stillTruthful⟩
      · by_cases started : last.service = service ∧ last.goal.running = some true
        · refine .inr ⟨?_, revived.isTruthfulAt_next started.1 started.2⟩
          rintro (again | ⟨-, notStarted⟩)
          · exact revives again
          · exact notStarted started.1 started.2
        · have notStarted : last.service = service → last.goal.running ≠ some true :=
            fun here asked => started ⟨here, asked⟩
          exact .inl ⟨.inr ⟨leaves, notStarted⟩, revived.next notStarted⟩
      · refine .inr ⟨?_, stillTruthful.next revives⟩
        rintro (again | ⟨leaves, -⟩)
        · exact revives again
        · exact spares leaves

/-- Where every record was truthful at the start, the record of a service is truthful after calls
exactly when no call stopped and restarted the service while it ran, without a later call that asked
for it to run. -/
theorem isTruthfulAt_finish_iff {start : ServiceRun}
    (truthful : ∀ service, start.IsTruthfulAt service) (calls : List ServiceCall)
    (service : String) :
    (start.finish calls).IsTruthfulAt service ↔ ¬ start.LeavesRevived service calls := by
  rcases isRevived_or_isTruthfulAt_finish (truthful service) calls with
    ⟨leaves, revived⟩ | ⟨spares, stillTruthful⟩
  · exact iff_of_false revived.not_isTruthfulAt (not_not_intro leaves)
  · exact iff_of_true stillTruthful spares

end ServiceRun

/-- A call that stops the web server and restarts it. -/
def webRestart : ServiceCall :=
  .ofInit "web" .systemd ⟨some false, true, false, none, "is-active"⟩

/-- A call that asks the web server to run. -/
def webStart : ServiceCall :=
  .ofInit "web" .systemd ⟨some true, false, false, none, "is-active"⟩

/-- A web server that is stopped and restarted by one call runs on, and is recorded as stopped. -/
theorem not_isTruthfulAt_webRestart :
    (∀ service, webHost.IsTruthfulAt service) ∧
      webHost.performed webRestart = [.change .stop, .change .restart] ∧
      (webHost.finish [webRestart]).states.get "web" = .stopped ∧
      (webHost.finish [webRestart]).host "web" = true ∧
      ¬ (webHost.finish [webRestart]).IsTruthfulAt "web" := by
  have revives : webHost.Revives "web" webRestart := ⟨rfl, rfl, rfl, rfl⟩
  obtain ⟨recorded, runs⟩ := revives.next
  refine ⟨isTruthfulAt_webHost, ?_, recorded, runs, revives.next.not_isTruthfulAt⟩
  rw [ServiceRun.performed_eq]
  rfl

/-- The record of the web server is wrong after it was stopped and restarted by one call, and right
again after a call that asks for it to run. -/
theorem isTruthfulAt_finish_iff_webRestart :
    (∀ service, webHost.IsTruthfulAt service) ∧
      ((webHost.finish [webRestart]).IsTruthfulAt "web" ↔
        ¬ webHost.LeavesRevived "web" [webRestart]) ∧
      (webHost.finish [webRestart, webStart]).IsTruthfulAt "web" := by
  refine ⟨isTruthfulAt_webHost, ?_, ?_⟩
  · exact ServiceRun.isTruthfulAt_finish_iff isTruthfulAt_webHost [webRestart] "web"
  · have spares : ¬ webHost.LeavesRevived "web" ([webRestart] ++ [webStart]) := by
      rw [ServiceRun.leavesRevived_concat]
      rintro (⟨-, stopped, -⟩ | ⟨-, notStarted⟩)
      · exact absurd stopped (by decide)
      · exact notStarted rfl rfl
    exact (ServiceRun.isTruthfulAt_finish_iff isTruthfulAt_webHost [webRestart, webStart]
      "web").mpr spares

end FleetPlan
