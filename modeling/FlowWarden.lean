import FlowWarden.Cluster.Credentials
import FlowWarden.Main
import FlowWarden.Reaper.Cycle
import FlowWarden.Reaper.Schedule
import FlowWarden.Reaper.Setup
import FlowWarden.Proofs.Autoscaler.Effects
import FlowWarden.Proofs.Autoscaler.Foreseen
import FlowWarden.Proofs.Autoscaler.Headroom
import FlowWarden.Proofs.Autoscaler.Launches
import FlowWarden.Proofs.Autoscaler.Lookup
import FlowWarden.Proofs.Autoscaler.Policies
import FlowWarden.Proofs.Cluster.Deletion
import FlowWarden.Proofs.Execution.Table
import FlowWarden.Proofs.Log.Attempt
import FlowWarden.Proofs.Quantity.Canonical
import FlowWarden.Proofs.Quantity.Exact
import FlowWarden.Proofs.Reaper.Escape
import FlowWarden.Proofs.Reaper.Isolation
import FlowWarden.Proofs.Reaper.Pace
import FlowWarden.Proofs.Reaper.Recurrence
import FlowWarden.Proofs.Reaper.Workers
import FlowWarden.Proofs.Settings.Conversion
