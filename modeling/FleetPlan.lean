import FleetPlan.Main
import FleetPlan.Host.Outage
import FleetPlan.Proofs.Package.OneWay
import FleetPlan.Proofs.Rpm.Settled
import FleetPlan.Proofs.Plan.SecondRun
import FleetPlan.Proofs.Service.BlindPlanning
import FleetPlan.Proofs.Service.Record
import FleetPlan.Proofs.Deploy.Isolation
import FleetPlan.Proofs.Plan.Failures
import FleetPlan.Proofs.Plan.Independence
import FleetPlan.Proofs.Package.CommandWords
import FleetPlan.Proofs.Package.Opposites
import FleetPlan.Proofs.Package.StandAlone
import FleetPlan.Proofs.Host.FileCommands
import FleetPlan.Proofs.Repository.Planned
import FleetPlan.Proofs.Repository.LastRequest
import FleetPlan.Proofs.Repository.Convergence
import FleetPlan.Proofs.Rpm.SharedInventory
import FleetPlan.Proofs.Document.Rewriting
import FleetPlan.Proofs.Deploy.Encoding
import FleetPlan.Proofs.Package.Candidates
import FleetPlan.Proofs.Package.Effect
import FleetPlan.Proofs.Rpm.Reports
import FleetPlan.Proofs.Rpm.DownloadedFile
import FleetPlan.Proofs.Package.Entries
import FleetPlan.Proofs.Repository.FileName
import FleetPlan.Proofs.Repository.PlainName
import FleetPlan.Proofs.Report.Counts
import FleetPlan.Proofs.Deploy.Acceptance
import FleetPlan.Proofs.Plan.Targets
import FleetPlan.Proofs.Repository.FileContents
import FleetPlan.Proofs.Service.Substitution
import FleetPlan.Proofs.Shell.Joined
import FleetPlan.Proofs.Package.Grouping
import FleetPlan.Proofs.Package.History
