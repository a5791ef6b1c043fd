import ApprovalFlow.Logging
import ApprovalFlow.Main
import ApprovalFlow.Pool.Turns
import ApprovalFlow.Proofs.Audit.Transparency
import ApprovalFlow.Proofs.ByName
import ApprovalFlow.Proofs.Calls.Authorization
import ApprovalFlow.Proofs.Calls.Evidence
import ApprovalFlow.Proofs.Calls.Instances
import ApprovalFlow.Proofs.Calls.Release
import ApprovalFlow.Proofs.Calls.Service
import ApprovalFlow.Proofs.Config.Layers
import ApprovalFlow.Proofs.Contributions
import ApprovalFlow.Proofs.Pool.Shift
import ApprovalFlow.Proofs.Replay.Approvers
import ApprovalFlow.Proofs.Replay.Authority
import ApprovalFlow.Proofs.Replay.Groups
import ApprovalFlow.Proofs.Replay.Recorded
import ApprovalFlow.Proofs.Replay.RowTypes
import ApprovalFlow.Proofs.Replay.Shape
import ApprovalFlow.Proofs.Row.RoundTrip
import ApprovalFlow.Proofs.Scenario.Acceptance
import ApprovalFlow.Proofs.Scenario.Runs
import ApprovalFlow.Proofs.Store.History
import ApprovalFlow.Proofs.Tasks.Completion
import ApprovalFlow.Proofs.Tasks.Decision
import ApprovalFlow.Proofs.Tasks.Entering
import ApprovalFlow.Proofs.Tasks.Params
import ApprovalFlow.Proofs.Tasks.Registrations
import ApprovalFlow.Proofs.Tasks.Views
import ApprovalFlow.Proofs.Text.Truncation
import ApprovalFlow.Proofs.Walk.Entries
import ApprovalFlow.Proofs.Walk.Finishing
import ApprovalFlow.Store.Refusing
