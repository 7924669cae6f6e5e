import CloudInventory.Main
import CloudInventory.Pool.Session
import CloudInventory.Proofs.CommandLine.Saved
import CloudInventory.Proofs.Listing.Walks
import CloudInventory.Proofs.Pool.Stopping
import CloudInventory.Proofs.Pool.Batch
import CloudInventory.Proofs.Pool.Projection
import CloudInventory.Proofs.Resource.RoundTrip
import CloudInventory.Proofs.Scan.Refusals
import CloudInventory.Proofs.Scan.Completeness
import CloudInventory.Proofs.Scan.Cancellation
import CloudInventory.Proofs.Scan.Determinism
import CloudInventory.Proofs.Scan.Finality
import CloudInventory.Proofs.Scan.Identity
import CloudInventory.Proofs.Text.Percent
import CloudInventory.Proofs.Template.Substitution
import CloudInventory.Proofs.Template.Paths
import CloudInventory.Proofs.Scan.Records
import CloudInventory.Proofs.CommandLine.Checks
import CloudInventory.Proofs.Client.Queries
import CloudInventory.Proofs.Client.Aggregated
import CloudInventory.Proofs.Scan.Nested
import CloudInventory.Proofs.Scan.Identified
import CloudInventory.Proofs.Resource.Conforming
import CloudInventory.Proofs.Resource.Agreeing
import CloudInventory.Proofs.Resource.RecordSetId
import CloudInventory.Proofs.Project.Resolution
import CloudInventory.Proofs.Project.Contents
import CloudInventory.Proofs.CommandLine.Accepted
import CloudInventory.Proofs.Listing.Cycles
import CloudInventory.Proofs.Client.Outcomes
import CloudInventory.Proofs.Alerts.Shared
import CloudInventory.Proofs.Error
import CloudInventory.Proofs.Report.Summary
import CloudInventory.Proofs.State.Updates
