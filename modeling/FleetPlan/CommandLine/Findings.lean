import FleetPlan.CommandLine.Message
import FleetPlan.Report.Document

/-!
# Findings

What the commands tell of the reports: the plan of each host with the counts over
all of them, the status of each host, or the whole as one document. An error is
told in place of what an operation needs, and a host that needs nothing says so.
-/

namespace FleetPlan

/-- A count and its noun, which takes an `s` for every number but one: `1 host`, `3 hosts`. -/
def Text.counted (number : Nat) (noun : String) : String :=
  if number = 1 then s!"{number} {noun}" else s!"{number} {noun}s"

namespace CommandLine

/-- What is told of a step: its error, or its commands and, unless only what matters is asked
for, what was observed. -/
def stepMessages (quiet : Bool) (step : StepReport) : List Message :=
  match step.error with
  | some error => [.error (step.description ++ ": " ++ error)]
  | none =>
    step.outcome.commands.map Message.command ++
      if quiet then []
      else step.outcome.observations.map fun observation => .remark observation.display

/-- What is told of the plan for one host. -/
def hostMessages (quiet : Bool) (report : HostReport) : List Message :=
  .title report.host :: report.steps.flatMap (stepMessages quiet) ++
    if report.hasChanges || report.hasFailures then [] else [.remark "nothing to do"]

/-- What is told of the counts over all hosts. -/
def summaryMessages (summary : Summary) : List Message :=
  [.heading "Summary",
    .entry "hosts" s!"{summary.hosts} ({summary.hostsChanged} changed)",
    .entry "operations" s!"{summary.changed} changed, {summary.unchanged} unchanged",
    .entry "commands" (toString summary.commands)] ++
    if summary.isSuccess then []
    else [.warning (Text.counted summary.failed "operation" ++ " could not be planned")]

/-- What is told of a plan. -/
def planMessages (quiet : Bool) (reports : List HostReport) : List Message :=
  reports.flatMap (hostMessages quiet) ++ summaryMessages (Summary.ofReports reports)

/-- A plan as one document. -/
def planDocument (time path : String) (reports : List HostReport) : Value :=
  .table [
    ("generated_at", .text time),
    ("deploy", .text path),
    ("summary", (Summary.ofReports reports).toValue),
    ("hosts", .array (reports.map HostReport.toValue))]

/-- The one line that tells the status of a host. -/
def verdict (report : HostReport) : Message :=
  let failed := report.steps.countP (·.isFailed)
  let changed := report.steps.countP (·.isChange)
  if 0 < failed then
    .error (report.host ++ ": " ++ Text.counted failed "operation" ++ " failed")
  else if 0 < changed then
    .warning (report.host ++ ": " ++ Text.counted changed "operation" ++ " out of date")
  else .success (report.host ++ ": up to date")

/-- The steps of a host that need a command or failed, by kind. -/
def pendingMessages (report : HostReport) : List Message :=
  report.groups.entries.flatMap fun group =>
    (group.2.filter fun step => step.isChange || step.isFailed).map fun step =>
      .remark (group.1 ++ ": " ++ step.description)

/-- What is told of the status of the hosts, in detail or not. -/
def statusMessages (quiet details : Bool) (path : String) (reports : List HostReport) :
    List Message :=
  (if quiet then []
    else [.information (path ++ " against " ++ Text.counted reports.length "host")]) ++
    reports.flatMap fun report =>
      verdict report :: if details then pendingMessages report else []

end CommandLine

end FleetPlan
