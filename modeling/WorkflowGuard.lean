import WorkflowGuard.Document.Edit
import WorkflowGuard.Main
import WorkflowGuard.Proofs.Check.Arguments
import WorkflowGuard.Proofs.Check.Status
import WorkflowGuard.Proofs.Coordinator.Calls
import WorkflowGuard.Proofs.Coordinator.History
import WorkflowGuard.Proofs.Coordinator.SkipUnchanged
import WorkflowGuard.Proofs.Document.Canonical
import WorkflowGuard.Proofs.Document.FirstViolation
import WorkflowGuard.Proofs.Document.Numbers
import WorkflowGuard.Proofs.Document.Places
import WorkflowGuard.Proofs.Document.Spelling
import WorkflowGuard.Proofs.Document.Validity
import WorkflowGuard.Proofs.Document.Violations
import WorkflowGuard.Proofs.Engine.Decisions
import WorkflowGuard.Proofs.Engine.Dependence
import WorkflowGuard.Proofs.Engine.Groups
import WorkflowGuard.Proofs.Engine.InMemory
import WorkflowGuard.Proofs.Engine.LoadedRevision
import WorkflowGuard.Proofs.Engine.Roles
import WorkflowGuard.Proofs.Engine.Service
import WorkflowGuard.Proofs.Instant.Shift
import WorkflowGuard.Proofs.Json.Data
import WorkflowGuard.Proofs.Json.ReadBack
import WorkflowGuard.Proofs.Json.Records
import WorkflowGuard.Proofs.Json.WrittenNumber
import WorkflowGuard.Proofs.Json.WrittenText
import WorkflowGuard.Proofs.Registry.Building
import WorkflowGuard.Proofs.Registry.Contents
import WorkflowGuard.Proofs.Registry.Lookup
import WorkflowGuard.Proofs.Registry.Nulls
import WorkflowGuard.Proofs.Registry.UnknownOperator
import WorkflowGuard.Proofs.Rule.Complements
import WorkflowGuard.Proofs.Rule.Composition
import WorkflowGuard.Proofs.Rule.Faults
import WorkflowGuard.Proofs.Rule.Inversion
import WorkflowGuard.Proofs.Rule.Meaning
import WorkflowGuard.Proofs.Rule.WellFormed
import WorkflowGuard.Proofs.Text.CaseInsensitive
import WorkflowGuard.Proofs.Ticket.Payload
import WorkflowGuard.Proofs.Watch.Debounce
import WorkflowGuard.Proofs.Watch.Edits
import WorkflowGuard.Proofs.Watch.Notifications
import WorkflowGuard.Proofs.Watch.Runs
