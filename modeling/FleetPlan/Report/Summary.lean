import FleetPlan.Report

/-!
# Summaries of reports

Counts over the reports of several hosts, and the steps of one host by kind.
-/

namespace FleetPlan

/-- Counts over the reports of several hosts. -/
structure Summary where
  hosts : Nat
  /-- Hosts that need a command. -/
  hostsChanged : Nat
  /-- Steps of all hosts. -/
  operations : Nat
  /-- Steps that need a command. -/
  changed : Nat
  /-- Steps that need none. -/
  unchanged : Nat
  /-- Steps that could not be planned. -/
  failed : Nat
  commands : Nat
  deriving DecidableEq, Repr, Inhabited

namespace Summary

/-- Nothing was counted. -/
def empty : Summary := ⟨0, 0, 0, 0, 0, 0, 0⟩

/-- Count one step; a failed step counts as failed only, apart from its commands. -/
def addStep (summary : Summary) (step : StepReport) : Summary :=
  { summary with
    operations := summary.operations + 1
    commands := summary.commands + step.outcome.commands.length
    failed := summary.failed + if step.isFailed then 1 else 0
    changed := summary.changed + if !step.isFailed && step.isChange then 1 else 0
    unchanged := summary.unchanged + if !step.isFailed && !step.isChange then 1 else 0 }

/-- Count one host and its steps. -/
def addReport (summary : Summary) (report : HostReport) : Summary :=
  report.steps.foldl addStep
    { summary with
      hosts := summary.hosts + 1
      hostsChanged := summary.hostsChanged + if report.hasChanges then 1 else 0 }

/-- The counts over some reports. -/
def ofReports (reports : List HostReport) : Summary :=
  reports.foldl addReport empty

/-- Whether some step needs a command. -/
def hasChanges (summary : Summary) : Bool := 0 < summary.changed

/-- Whether every operation could be planned. -/
def isSuccess (summary : Summary) : Bool := summary.failed = 0

/-- The exit code that tells whether hosts are as declared: failures before pending changes. -/
def exitCode (summary : Summary) : Nat :=
  if !summary.isSuccess then 1 else if summary.hasChanges then 2 else 0

end Summary

/-- Add a step at the end of the group of its kind. -/
def addToGroup (groups : SortedMap (List StepReport)) (step : StepReport) :
    SortedMap (List StepReport) :=
  groups.insert step.kind ((groups.get? step.kind).getD [] ++ [step])

/-- The steps of a host by kind, the kinds in ascending order and the steps in theirs. -/
def HostReport.groups (report : HostReport) : SortedMap (List StepReport) :=
  report.steps.foldl addToGroup .empty

end FleetPlan
