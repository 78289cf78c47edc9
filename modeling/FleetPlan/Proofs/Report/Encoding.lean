import FleetPlan.Proofs.Document.ReadingBack
import FleetPlan.Report.Document

/-!
# Reports survive being written

Observations, outcomes, the reports of steps and those of hosts are read back as
they were written, a step with its error or without one.
-/

namespace FleetPlan

open Value

/-- An observation is read back by its kind. -/
@[simp] theorem Observation.ofValue?_toValue (observation : Observation) :
    ofValue? observation.toValue = some observation := by
  cases observation <;>
    simp [toValue, kind, fields, withTag, ofValue?, onlyText?, asTagged?, Fields.ofValue?,
      Fields.areDistinct, Fields.required, Value.entry?]

/-- An outcome is read back. -/
@[simp] theorem Outcome.ofValue?_toValue (strictness : Strictness) (outcome : Outcome) :
    ofValue? strictness outcome.toValue = some outcome := by
  have observationsRead :
      asList? Observation.ofValue? (.array (outcome.observations.map Observation.toValue)) =
        some outcome.observations :=
    asList?_map Observation.ofValue?_toValue _
  simp [ofValue?, toValue, Fields.ofValue?, Fields.areDistinct, Fields.required, Value.entry?,
    observationsRead]

/-- The report of a step is read back, with its error or without one. -/
@[simp] theorem StepReport.ofValue?_toValue (strictness : Strictness) (step : StepReport) :
    ofValue? strictness step.toValue = some step := by
  obtain ⟨identifier, kind, description, outcome, error⟩ := step
  cases error <;>
    simp [ofValue?, toValue, Fields.ofValue?, Fields.areDistinct, Fields.required,
      Fields.optional, Fields.withDefault, asOptional?, Value.entry?]

/-- The report of a host is read back. -/
@[simp] theorem HostReport.ofValue?_toValue (strictness : Strictness) (report : HostReport) :
    ofValue? strictness report.toValue = some report := by
  have stepsRead :
      asList? (StepReport.ofValue? strictness) (.array (report.steps.map StepReport.toValue)) =
        some report.steps :=
    asList?_map (StepReport.ofValue?_toValue strictness) _
  simp [ofValue?, toValue, Fields.ofValue?, Fields.areDistinct, Fields.required, Value.entry?,
    stepsRead]

end FleetPlan
