import FleetPlan.Deploy.Writing
import FleetPlan.Document.Record
import FleetPlan.Report.Summary

/-!
# Reports as documents

Observations, outcomes and reports are written as tables and read back. An
observation tells by its `kind` which it is, and the error of a step is left out
where there is none.
-/

namespace FleetPlan

open Value

namespace Observation

/-- The `kind` that an observation is written with. -/
def kind : Observation → String
  | .packageInstalled .. => "package_installed"
  | .packageNotInstalled _ => "package_not_installed"
  | .serviceRunning _ => "service_running"
  | .serviceStopped _ => "service_stopped"
  | .rpmState .. => "rpm_state"
  | .fileExists _ => "file_exists"
  | .fileAbsent _ => "file_absent"
  | .fileUpToDate _ => "file_up_to_date"

/-- The fields of an observation other than its kind. -/
def fields : Observation → Fields
  | .packageInstalled package versions =>
    [("package", .text package), ("versions", ofTexts versions)]
  | .packageNotInstalled package => [("package", .text package)]
  | .serviceRunning name | .serviceStopped name => [("name", .text name)]
  | .rpmState source installed => [("source", .text source), ("installed", .bool installed)]
  | .fileExists path | .fileAbsent path | .fileUpToDate path => [("path", .text path)]

/-- An observation, with the `kind` that tells which one it is. -/
def toValue (observation : Observation) : Value :=
  withTag "kind" observation.kind (.table observation.fields)

/-- The text in the only field of a record. -/
def onlyText? (name : String) (value : Value) : Option String := do
  let fields ← Fields.ofValue? .collected [name] value
  fields.required name asText?

/-- An observation. -/
def ofValue? (value : Value) : Option Observation := do
  let (tag, rest) ← value.asTagged? "kind"
  match tag with
  | "package_installed" =>
    let fields ← Fields.ofValue? .collected ["package", "versions"] rest
    let package ← fields.required "package" asText?
    let versions ← fields.required "versions" (asList? asText?)
    return .packageInstalled package versions
  | "package_not_installed" => (onlyText? "package" rest).map .packageNotInstalled
  | "service_running" => (onlyText? "name" rest).map .serviceRunning
  | "service_stopped" => (onlyText? "name" rest).map .serviceStopped
  | "rpm_state" =>
    let fields ← Fields.ofValue? .collected ["source", "installed"] rest
    let source ← fields.required "source" asText?
    let installed ← fields.required "installed" asBool?
    return .rpmState source installed
  | "file_exists" => (onlyText? "path" rest).map .fileExists
  | "file_absent" => (onlyText? "path" rest).map .fileAbsent
  | "file_up_to_date" => (onlyText? "path" rest).map .fileUpToDate
  | _ => none

end Observation

/-- An outcome. -/
def Outcome.toValue (outcome : Outcome) : Value :=
  .table [
    ("commands", ofTexts outcome.commands),
    ("observations", .array (outcome.observations.map Observation.toValue))]

/-- An outcome. -/
def Outcome.ofValue? (strictness : Strictness) (value : Value) : Option Outcome := do
  let fields ← Fields.ofValue? strictness ["commands", "observations"] value
  let commands ← fields.required "commands" (asList? asText?)
  let observations ← fields.required "observations" (asList? Observation.ofValue?)
  return ⟨commands, observations⟩

/-- The report of a step, without an error where there is none. -/
def StepReport.toValue (step : StepReport) : Value :=
  .table ([
    ("id", .text step.identifier),
    ("operation_type", .text step.kind),
    ("description", .text step.description),
    ("outcome", step.outcome.toValue)] ++
    (step.error.map fun error => ("error", Value.text error)).toList)

/-- The report of a step. -/
def StepReport.ofValue? (strictness : Strictness) (value : Value) : Option StepReport := do
  let fields ← Fields.ofValue? strictness
    ["id", "operation_type", "description", "outcome", "error"] value
  let identifier ← fields.required "id" asText?
  let kind ← fields.required "operation_type" asText?
  let description ← fields.required "description" asText?
  let outcome ← fields.required "outcome" (Outcome.ofValue? strictness)
  let error ← fields.optional "error" asText?
  return ⟨identifier, kind, description, outcome, error⟩

/-- The report of a host. -/
def HostReport.toValue (report : HostReport) : Value :=
  .table [
    ("host", .text report.host),
    ("steps", .array (report.steps.map StepReport.toValue))]

/-- The report of a host. -/
def HostReport.ofValue? (strictness : Strictness) (value : Value) : Option HostReport := do
  let fields ← Fields.ofValue? strictness ["host", "steps"] value
  let host ← fields.required "host" asText?
  let steps ← fields.required "steps" (asList? (StepReport.ofValue? strictness))
  return ⟨host, steps⟩

/-- The counts of a summary. -/
def Summary.toValue (summary : Summary) : Value :=
  .table [
    ("hosts", .integer summary.hosts),
    ("hosts_changed", .integer summary.hostsChanged),
    ("operations", .integer summary.operations),
    ("changed", .integer summary.changed),
    ("unchanged", .integer summary.unchanged),
    ("failed", .integer summary.failed),
    ("commands", .integer summary.commands)]

end FleetPlan
