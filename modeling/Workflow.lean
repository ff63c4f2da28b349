import Workflow.Main
import Workflow.Proofs.Graph.Journey
import Workflow.Proofs.OutOfReach
import Workflow.Proofs.Recording
import Workflow.Proofs.Refusal
import Workflow.Proofs.Pattern.Anchored
import Workflow.Proofs.Fatality
import Workflow.Proofs.Validation
import Workflow.Proofs.Influence
import Workflow.Proofs.Rearrangement
import Workflow.Proofs.PruningInParts
import Workflow.Proofs.Store.History
import Workflow.Proofs.Store.Listing
import Workflow.Proofs.Store.Rebuild
import Workflow.Proofs.Calendar
import Workflow.Proofs.Uuid
import Workflow.Proofs.Instant
import Workflow.Proofs.SwitchCondition
import Workflow.Proofs.Json.ReadsBack
import Workflow.Proofs.Json.Record
import Workflow.Proofs.RoundTrip
import Workflow.Proofs.Graph.Removal
import Workflow.Proofs.Graph.Dot
import Workflow.Proofs.Selection
import Workflow.Proofs.CommandLine.ExitCode
