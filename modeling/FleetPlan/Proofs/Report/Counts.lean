import FleetPlan.CommandLine.Findings
import FleetPlan.Proofs.Plan.Failures

/-!
# What the counts of a summary tell

A summary is made by counting, step after step and host after host. What it counts
is `Summary.counting`, which only depends on which hosts and steps there are, not on
their order or on how they are grouped. That a failed step has no command is no
property of a step but of planning (`Plan.isTraceless_of_mem_reports`); from it
follows that changed steps, changed hosts and commands tell the same, and that the
exit code tells of commands and failures (`Plan.summary_tells`).
-/

namespace FleetPlan

namespace Summary

/-- Whether a step counts as changed. -/
def isChanged (step : StepReport) : Bool := !step.isFailed && step.isChange

/-- Whether a step counts as unchanged. -/
def isUnchanged (step : StepReport) : Bool := !step.isFailed && !step.isChange

/-- The counts over some steps of so many hosts. -/
def counting (hosts hostsChanged : Nat) (steps : List StepReport) : Summary where
  hosts := hosts
  hostsChanged := hostsChanged
  operations := steps.length
  changed := steps.countP isChanged
  unchanged := steps.countP isUnchanged
  failed := steps.countP (·.isFailed)
  commands := (steps.flatMap fun step => step.outcome.commands).length

/-- The sum of two summaries, count by count. -/
def add (first second : Summary) : Summary where
  hosts := first.hosts + second.hosts
  hostsChanged := first.hostsChanged + second.hostsChanged
  operations := first.operations + second.operations
  changed := first.changed + second.changed
  unchanged := first.unchanged + second.unchanged
  failed := first.failed + second.failed
  commands := first.commands + second.commands

instance : Add Summary := ⟨add⟩

variable {hosts hostsChanged : Nat} {steps more : List StepReport}

/-- One more step is one more step that counts. -/
theorem addStep_counting (step : StepReport) :
    (counting hosts hostsChanged steps).addStep step =
      counting hosts hostsChanged (steps ++ [step]) := by
  simp [addStep, counting, isChanged, isUnchanged, List.countP_cons]

/-- Which of two steps is counted first makes no difference. -/
theorem addStep_comm (summary : Summary) (first second : StepReport) :
    (summary.addStep first).addStep second = (summary.addStep second).addStep first := by
  simp only [addStep, Nat.add_right_comm]

/-- Steps that are counted one after the other all count. -/
theorem foldl_addStep_counting (steps more : List StepReport) :
    more.foldl addStep (counting hosts hostsChanged steps) =
      counting hosts hostsChanged (steps ++ more) := by
  induction more generalizing steps with
  | nil => rw [List.append_nil]; rfl
  | cons step more inductionHypothesis =>
    rw [List.foldl_cons, addStep_counting, inductionHypothesis, List.append_assoc]
    rfl

/-- Hosts that are counted one after the other count with all their steps. -/
theorem foldl_addReport_counting (steps : List StepReport) (reports : List HostReport) :
    reports.foldl addReport (counting hosts hostsChanged steps) =
      counting (hosts + reports.length) (hostsChanged + reports.countP (·.hasChanges))
        (steps ++ reports.flatMap (·.steps)) := by
  induction reports generalizing hosts hostsChanged steps with
  | nil => simp
  | cons report reports inductionHypothesis =>
    have first : (counting hosts hostsChanged steps).addReport report =
        counting (hosts + 1) (hostsChanged + if report.hasChanges then 1 else 0)
          (steps ++ report.steps) :=
      foldl_addStep_counting steps report.steps
    rw [List.foldl_cons, first, inductionHypothesis, List.length_cons, List.countP_cons,
      List.flatMap_cons, List.append_assoc]
    congr 1 <;> omega

/-- A summary counts the hosts, and all their steps. -/
theorem ofReports_eq_counting (reports : List HostReport) :
    ofReports reports =
      counting reports.length (reports.countP (·.hasChanges)) (reports.flatMap (·.steps)) := by
  have none : empty = counting 0 0 [] := rfl
  rw [ofReports, none, foldl_addReport_counting]
  simp

/-- The order of steps does not count. -/
theorem counting_perm (order : steps.Perm more) :
    counting hosts hostsChanged steps = counting hosts hostsChanged more := by
  simp only [counting, order.length_eq, order.countP_eq, (order.flatMap_right _).length_eq]

/-- The order of hosts does not count. -/
theorem ofReports_perm {reports others : List HostReport} (order : reports.Perm others) :
    ofReports reports = ofReports others := by
  rw [ofReports_eq_counting, ofReports_eq_counting, order.length_eq, order.countP_eq]
  exact counting_perm (order.flatMap_right _)

/-- The counts over two lists of hosts are the sums of their counts. -/
theorem ofReports_append (reports others : List HostReport) :
    ofReports (reports ++ others) = ofReports reports + ofReports others := by
  change _ = add (ofReports reports) (ofReports others)
  simp [ofReports_eq_counting, counting, add]

/-- Every step counts once, as changed, unchanged or failed. -/
theorem length_eq_changed_add_unchanged_add_failed (steps : List StepReport) :
    steps.length =
      steps.countP isChanged + steps.countP isUnchanged + steps.countP (·.isFailed) := by
  induction steps with
  | nil => rfl
  | cons step steps inductionHypothesis =>
    simp only [List.length_cons, List.countP_cons, isChanged, isUnchanged] at *
    by_cases failed : step.isFailed = true <;> by_cases change : step.isChange = true <;>
      simp [failed, change] <;> omega

end Summary

section Groups

variable {groups : SortedMap (List StepReport)} {steps more : List StepReport}

/-- The steps of one kind, in their order. -/
def stepsOfKind (kind : String) (steps : List StepReport) : List StepReport :=
  steps.filter fun step => step.kind = kind

/-- Each kind that has steps has one group, which is made of its steps in their order, and nothing is
lost or doubled. -/
structure AreGroups (groups : SortedMap (List StepReport)) (steps : List StepReport) : Prop where
  get? : ∀ kind, groups.get? kind =
    if stepsOfKind kind steps = [] then none else some (stepsOfKind kind steps)
  perm : (groups.entries.flatMap (·.2)).Perm steps

/-- A step at the end of the group of its kind is one more step in the groups. -/
theorem perm_insertIn {entries : List (String × List StepReport)} (step : StepReport)
    (ascending : entries.Pairwise fun left right => left.1 < right.1) :
    ((SortedMap.insertIn step.kind
      ((SortedMap.lookupIn step.kind entries).getD [] ++ [step]) entries).flatMap (·.2)).Perm
        (entries.flatMap (·.2) ++ [step]) := by
  induction entries with
  | nil => exact .refl _
  | cons entry rest inductionHypothesis =>
    obtain ⟨below, restAscending⟩ := List.pairwise_cons.mp ascending
    unfold SortedMap.insertIn
    split
    · next before =>
      have absent : SortedMap.lookupIn step.kind (entry :: rest) = none :=
        SortedMap.lookupIn_eq_none_of_below (List.forall_mem_cons.mpr
          ⟨before, fun other member => String.lt_trans before (below other member)⟩)
      rw [absent, List.flatMap_cons]
      exact List.perm_append_comm
    · split
      · next same =>
        have found : SortedMap.lookupIn step.kind (entry :: rest) = some entry.2 := by
          simp [SortedMap.lookupIn, same]
        rw [found, List.flatMap_cons, List.flatMap_cons, Option.getD_some, List.append_assoc,
          List.append_assoc]
        exact List.perm_append_comm.append_left entry.2
      · next other =>
        have later : SortedMap.lookupIn step.kind (entry :: rest) =
            SortedMap.lookupIn step.kind rest := by
          simp [SortedMap.lookupIn, Ne.symm other]
        rw [later, List.flatMap_cons, List.flatMap_cons, List.append_assoc]
        exact (inductionHypothesis restAscending).append_left entry.2

/-- Adding a step to the groups adds it to the steps that are grouped. -/
theorem AreGroups.addToGroup (grouped : AreGroups groups steps) (step : StepReport) :
    AreGroups (addToGroup groups step) (steps ++ [step]) where
  get? := by
    intro kind
    have group : (groups.get? kind).getD [] = stepsOfKind kind steps := by
      rw [grouped.get?]
      split
      · next none => exact none.symm
      · rfl
    rw [FleetPlan.addToGroup, SortedMap.get?_insert]
    by_cases here : step.kind = kind
    · subst here
      simp [group, stepsOfKind]
    · simp [here, grouped.get?, stepsOfKind]
  perm := (perm_insertIn step groups.ascending).trans (grouped.perm.append_right [step])

/-- Steps that are added to the groups one after the other are all grouped. -/
theorem AreGroups.foldl_addToGroup (grouped : AreGroups groups steps) (more : List StepReport) :
    AreGroups (more.foldl FleetPlan.addToGroup groups) (steps ++ more) := by
  induction more generalizing groups steps with
  | nil => rwa [List.append_nil]
  | cons step more inductionHypothesis =>
    have next := inductionHypothesis (grouped.addToGroup step)
    rwa [List.append_assoc, List.singleton_append] at next

/-- The groups of a host are groups of its steps. -/
theorem HostReport.areGroups_groups (report : HostReport) :
    AreGroups report.groups report.steps := by
  have none : AreGroups .empty [] := ⟨fun _ => rfl, .refl _⟩
  exact none.foldl_addToGroup report.steps

/-- Counting the steps group by group makes no difference. -/
theorem AreGroups.foldl_addStep (grouped : AreGroups groups steps) (summary : Summary) :
    groups.entries.foldl (fun counts group => group.2.foldl Summary.addStep counts) summary =
      steps.foldl Summary.addStep summary := by
  rw [← List.foldl_flatMap]
  exact grouped.perm.foldl_eq' (fun first _ second _ counts => counts.addStep_comm first second)
    summary

end Groups

section Traces

/-- A step that does not leave commands behind if it failed. -/
def StepReport.IsTraceless (step : StepReport) : Prop :=
  step.isFailed = true → step.outcome.commands = []

/-- The report of an operation has no command if planning the operation failed. -/
theorem Operation.isTraceless_report (operation : Operation)
    (result : Except ReconcileError Outcome) : (operation.report result).IsTraceless := by
  intro failed
  obtain ⟨failure, rfl⟩ := isFailed_report_iff.mp failed
  rfl

/-- Planning leaves no commands in failed steps. -/
theorem isTraceless_of_mem_planSteps {collaborators : Collaborators} {operations : List Operation}
    {session : Session} {step : StepReport}
    (member : step ∈ (planSteps collaborators operations session).1) : step.IsTraceless := by
  induction operations generalizing session with
  | nil => cases member
  | cons operation operations inductionHypothesis =>
    rcases List.mem_cons.mp member with rfl | later
    · exact operation.isTraceless_report _
    · exact inductionHypothesis later

/-- No failed step of planned hosts has a command. -/
theorem Plan.isTraceless_of_mem_reports {plan : Plan} {hosts : List HostInput} {report : HostReport}
    {step : StepReport} (listed : report ∈ plan.reports hosts) (member : step ∈ report.steps) :
    step.IsTraceless := by
  obtain ⟨input, -, rfl⟩ := List.mem_map.mp listed
  exact isTraceless_of_mem_planSteps member

/-- Planned hosts have as many steps as the plan has operations for each of them. -/
theorem Plan.length_steps_reports (plan : Plan) (hosts : List HostInput) :
    ((plan.reports hosts).flatMap (·.steps)).length = hosts.length * plan.size := by
  induction hosts with
  | nil => rw [List.length_nil, Nat.zero_mul]; rfl
  | cons input hosts inductionHypothesis =>
    have first : (plan.reportFor input).steps.length = plan.size :=
      length_planSteps input.collaborators plan.operations input.session
    change ((plan.reportFor input).steps ++ (plan.reports hosts).flatMap (·.steps)).length = _
    rw [List.length_append, first, inductionHypothesis, List.length_cons, Nat.succ_mul, Nat.add_comm]

end Traces

section Verdicts

variable {reports : List HostReport}

/-- Some step of the reports failed. -/
def SomeFailed (reports : List HostReport) : Prop :=
  ∃ report ∈ reports, ∃ step ∈ report.steps, step.isFailed = true

/-- Some host of the reports has a command. -/
def SomeCommand (reports : List HostReport) : Prop :=
  ∃ report ∈ reports, report.commands ≠ []

/-- What a summary tells of the reports that it counts. -/
structure Summary.Tells (summary : Summary) (reports : List HostReport) : Prop where
  hosts : summary.hosts = reports.length
  operations : summary.operations = summary.changed + summary.unchanged + summary.failed
  commands : summary.commands = (reports.flatMap (·.commands)).length
  changed_iff : 0 < summary.changed ↔ SomeCommand reports
  hostsChanged_iff : 0 < summary.hostsChanged ↔ SomeCommand reports
  commands_iff : 0 < summary.commands ↔ SomeCommand reports
  exitCode_one_iff : summary.exitCode = 1 ↔ SomeFailed reports
  exitCode_two_iff : summary.exitCode = 2 ↔ ¬ SomeFailed reports ∧ SomeCommand reports
  exitCode_zero_iff : summary.exitCode = 0 ↔ ¬ SomeFailed reports ∧ ¬ SomeCommand reports
  upToDate_iff : summary.exitCode = 0 ↔
    ∀ report ∈ reports, CommandLine.verdict report = .success (report.host ++ ": up to date")

/-- Some host has a command exactly if some step has. -/
theorem someCommand_iff :
    SomeCommand reports ↔ ∃ step ∈ reports.flatMap (·.steps), step.outcome.commands ≠ [] := by
  simp only [SomeCommand, HostReport.commands, ne_eq, List.flatMap_eq_nil_iff, List.mem_flatMap]
  constructor
  · rintro ⟨report, listed, some⟩
    obtain ⟨step, some⟩ := Classical.not_forall.mp some
    obtain ⟨member, command⟩ := Classical.not_imp.mp some
    exact ⟨step, ⟨report, listed, member⟩, command⟩
  · rintro ⟨step, ⟨report, listed, member⟩, command⟩
    exact ⟨report, listed, fun none => command (none step member)⟩

/-- A host is told to be up to date exactly if none of its steps failed or has a command. -/
theorem CommandLine.verdict_eq_success_iff (report : HostReport) :
    CommandLine.verdict report = .success (report.host ++ ": up to date") ↔
      ∀ step ∈ report.steps, step.isFailed = false ∧ step.outcome.commands = [] := by
  simp only [CommandLine.verdict]
  split
  · next failed =>
    obtain ⟨step, member, failed⟩ := List.countP_pos_iff.mp failed
    refine iff_of_false nofun fun all => ?_
    rw [(all step member).1] at failed
    cases failed
  · next unfailed =>
    split
    · next changed =>
      obtain ⟨step, member, change⟩ := List.countP_pos_iff.mp changed
      exact iff_of_false nofun fun all => step.isChange_iff.mp change (all step member).2
    · next unchanged =>
      refine iff_of_true rfl fun step member => ⟨?_, ?_⟩
      · exact Bool.eq_false_iff.mpr fun failed =>
          unfailed (List.countP_pos_iff.mpr ⟨step, member, failed⟩)
      · exact Classical.byContradiction fun command =>
          unchanged (List.countP_pos_iff.mpr ⟨step, member, step.isChange_iff.mpr command⟩)

/-- Every host is told to be up to date exactly if no step failed and no host has a command. -/
theorem forall_verdict_iff (reports : List HostReport) :
    (∀ report ∈ reports,
        CommandLine.verdict report = .success (report.host ++ ": up to date")) ↔
      ¬ SomeFailed reports ∧ ¬ SomeCommand reports := by
  simp only [CommandLine.verdict_eq_success_iff]
  constructor
  · intro all
    refine ⟨?_, fun some => ?_⟩
    · rintro ⟨report, listed, step, member, failed⟩
      rw [(all report listed step member).1] at failed
      cases failed
    · obtain ⟨step, listed, command⟩ := someCommand_iff.mp some
      obtain ⟨report, listed, member⟩ := List.mem_flatMap.mp listed
      exact command (all report listed step member).2
  · rintro ⟨unfailed, idle⟩ report listed step member
    refine ⟨Bool.eq_false_iff.mpr fun failed => unfailed ⟨report, listed, step, member, failed⟩, ?_⟩
    exact Classical.byContradiction fun command =>
      idle (someCommand_iff.mpr ⟨step, List.mem_flatMap.mpr ⟨report, listed, member⟩, command⟩)

/-- Some step failed exactly if failures are counted. -/
theorem Summary.failed_pos_iff : 0 < (ofReports reports).failed ↔ SomeFailed reports := by
  rw [ofReports_eq_counting, counting, List.countP_pos_iff]
  simp only [SomeFailed, List.mem_flatMap]
  constructor
  · rintro ⟨step, ⟨report, listed, member⟩, failed⟩
    exact ⟨report, listed, step, member, failed⟩
  · rintro ⟨report, listed, step, member, failed⟩
    exact ⟨step, ⟨report, listed, member⟩, failed⟩

/-- Where failed steps have no commands, a host has a command exactly if changed steps are counted. -/
theorem Summary.changed_pos_iff
    (traceless : ∀ report ∈ reports, ∀ step ∈ report.steps, step.IsTraceless) :
    0 < (ofReports reports).changed ↔ SomeCommand reports := by
  rw [ofReports_eq_counting, counting, List.countP_pos_iff, someCommand_iff]
  refine exists_congr fun step => and_congr_right fun member => ?_
  obtain ⟨report, listed, member⟩ := List.mem_flatMap.mp member
  rw [isChanged, Bool.and_eq_true_iff, step.isChange_iff]
  refine and_iff_right_of_imp fun command => ?_
  rw [Bool.not_eq_true', Bool.eq_false_iff]
  exact fun failed => command (traceless report listed step member failed)

/-- A host has a command exactly if changed hosts are counted. -/
theorem Summary.hostsChanged_pos_iff :
    0 < (ofReports reports).hostsChanged ↔ SomeCommand reports := by
  rw [ofReports_eq_counting, counting, List.countP_pos_iff]
  simp only [SomeCommand, HostReport.hasChanges_eq, decide_eq_true_iff]

/-- The commands of all hosts are counted. -/
theorem Summary.commands_eq (reports : List HostReport) :
    (ofReports reports).commands = (reports.flatMap (·.commands)).length := by
  rw [ofReports_eq_counting, counting, List.flatMap_assoc]
  rfl

/-- A host has a command exactly if commands are counted. -/
theorem Summary.commands_pos_iff : 0 < (ofReports reports).commands ↔ SomeCommand reports := by
  rw [commands_eq, List.length_pos_iff, Ne, List.flatMap_eq_nil_iff]
  simp [SomeCommand]

/-- The exit code asks first for failures and then for changes. -/
theorem Summary.exitCode_cases (summary : Summary) :
    (0 < summary.failed ∧ summary.exitCode = 1) ∨
      (summary.failed = 0 ∧ 0 < summary.changed ∧ summary.exitCode = 2) ∨
      (summary.failed = 0 ∧ summary.changed = 0 ∧ summary.exitCode = 0) := by
  rcases Nat.eq_zero_or_pos summary.failed with failed | failed
  · rcases Nat.eq_zero_or_pos summary.changed with changed | changed <;>
      simp [exitCode, isSuccess, hasChanges, failed, changed]
  · exact .inl ⟨failed, by simp [exitCode, isSuccess, Nat.ne_of_gt failed]⟩

/-- A summary tells of reports in which failed steps have no commands. -/
theorem Summary.tells_ofReports
    (traceless : ∀ report ∈ reports, ∀ step ∈ report.steps, step.IsTraceless) :
    (ofReports reports).Tells reports := by
  have exitCode := (ofReports reports).exitCode_cases
  have exitCode_zero_iff : (ofReports reports).exitCode = 0 ↔
      ¬ SomeFailed reports ∧ ¬ SomeCommand reports := by
    rw [← failed_pos_iff, ← changed_pos_iff traceless]
    omega
  exact {
    hosts := by rw [ofReports_eq_counting]; rfl
    operations := by
      rw [ofReports_eq_counting]
      exact length_eq_changed_add_unchanged_add_failed _
    commands := commands_eq reports
    changed_iff := changed_pos_iff traceless
    hostsChanged_iff := hostsChanged_pos_iff
    commands_iff := commands_pos_iff
    exitCode_one_iff := by
      rw [← failed_pos_iff]
      omega
    exitCode_two_iff := by
      rw [← failed_pos_iff, ← changed_pos_iff traceless]
      omega
    exitCode_zero_iff
    upToDate_iff := exitCode_zero_iff.trans (forall_verdict_iff reports).symm }

/-- The summary of planned hosts counts as many steps for each of them as the plan has operations,
and tells of their commands and failures. It is the sum of the summaries of its parts, whatever the
order of the hosts, and the steps may as well be counted group by group. -/
theorem Plan.summary_tells (plan : Plan) (hosts : List HostInput) :
    (plan.reports hosts).length = hosts.length ∧
      (Summary.ofReports (plan.reports hosts)).operations = hosts.length * plan.size ∧
      (Summary.ofReports (plan.reports hosts)).Tells (plan.reports hosts) ∧
      (∀ others, Summary.ofReports (plan.reports hosts ++ others) =
        Summary.ofReports (plan.reports hosts) + Summary.ofReports others) ∧
      (∀ others, others.Perm (plan.reports hosts) →
        Summary.ofReports others = Summary.ofReports (plan.reports hosts)) ∧
      ∀ report ∈ plan.reports hosts, AreGroups report.groups report.steps ∧
        ∀ summary, report.groups.entries.foldl
          (fun counts group => group.2.foldl Summary.addStep counts) summary =
            report.steps.foldl Summary.addStep summary := by
  refine ⟨List.length_map plan.reportFor, ?operations, ?tells, ?append, ?order, ?groups⟩
  case operations =>
    rw [Summary.ofReports_eq_counting]
    exact plan.length_steps_reports hosts
  case tells =>
    exact Summary.tells_ofReports fun _ listed _ => plan.isTraceless_of_mem_reports listed
  case append => exact Summary.ofReports_append _
  case order => exact fun _ => Summary.ofReports_perm
  case groups =>
    exact fun report _ => ⟨report.areGroups_groups, report.areGroups_groups.foldl_addStep⟩

/-- Of a failed step with a command, which planning never makes, the counts tell different things. -/
example :
    let step : StepReport := ⟨"web", "service", "Start web", ⟨["systemctl start web"], []⟩, some ""⟩
    let summary := Summary.ofReports [⟨"shop", [step]⟩]
    summary.changed = 0 ∧ summary.hostsChanged = 1 := by
  decide

end Verdicts
end FleetPlan
