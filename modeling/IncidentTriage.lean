import IncidentTriage.Agents.ChatCalls
import IncidentTriage.Agents.Claude
import IncidentTriage.Agents.Compaction
import IncidentTriage.Agents.Engine
import IncidentTriage.Agents.Handed
import IncidentTriage.Agents.Model
import IncidentTriage.Agents.OpenAICompatible
import IncidentTriage.Agents.Toolset
import IncidentTriage.Agents.Transcript
import IncidentTriage.Agents.Workers
import IncidentTriage.Api.Alerts
import IncidentTriage.Domain.Correlation
import IncidentTriage.Domain.Enums
import IncidentTriage.Domain.Idempotency
import IncidentTriage.Domain.Investigation
import IncidentTriage.Domain.Remediation
import IncidentTriage.Domain.Turns
import IncidentTriage.Domain.Verification
import IncidentTriage.Evaluation.Grading
import IncidentTriage.Evaluation.Recording
import IncidentTriage.Evaluation.Scrubbing
import IncidentTriage.Events.Consumer
import IncidentTriage.Events.Pipeline
import IncidentTriage.Events.Relay
import IncidentTriage.Events.Streams
import IncidentTriage.Evidence.Changes
import IncidentTriage.Evidence.Git
import IncidentTriage.Evidence.Hashing
import IncidentTriage.Evidence.Loki
import IncidentTriage.Evidence.Sanitize
import IncidentTriage.Evidence.Scope
import IncidentTriage.Evidence.Service
import IncidentTriage.Evidence.Telemetry
import IncidentTriage.Evidence.Tempo
import IncidentTriage.Incident.Columns
import IncidentTriage.Incident.Deliveries
import IncidentTriage.Incident.Investigations
import IncidentTriage.Incident.Locking
import IncidentTriage.Incident.Models
import IncidentTriage.Incident.Observations
import IncidentTriage.Incident.Queries
import IncidentTriage.Incident.Remediations
import IncidentTriage.Incident.Repository
import IncidentTriage.Incident.Service
import IncidentTriage.Incident.Sweeps
import IncidentTriage.Incident.System
import IncidentTriage.Incident.Verifications
import IncidentTriage.Library.Batches
import IncidentTriage.Library.Choices
import IncidentTriage.Library.Dialogues
import IncidentTriage.Library.FixedWidth
import IncidentTriage.Library.Groups
import IncidentTriage.Library.Keys
import IncidentTriage.Library.Locks
import IncidentTriage.Library.Logs
import IncidentTriage.Library.Places
import IncidentTriage.Library.Races
import IncidentTriage.Library.Redactions
import IncidentTriage.Library.Runs
import IncidentTriage.Library.Schedules
import IncidentTriage.Library.Scripts
import IncidentTriage.Library.Settling
import IncidentTriage.Library.Tables
import IncidentTriage.Library.Trails
import IncidentTriage.Library.Walks
import IncidentTriage.Lifecycle.Case
import IncidentTriage.Lifecycle.Onward
import IncidentTriage.Policy.Engine
import IncidentTriage.Python.Datetimes
import IncidentTriage.Python.Decimals
import IncidentTriage.Python.Floats
import IncidentTriage.Python.Json
import IncidentTriage.Python.Text
import IncidentTriage.Python.Uuids
import IncidentTriage.Remediation.Catalog
import IncidentTriage.Remediation.Executor
import IncidentTriage.Remediation.Planner
import IncidentTriage.Remediation.Runner
import IncidentTriage.Tools.Executor
import IncidentTriage.Verified.AlertLifecycle
import IncidentTriage.Verified.AlertTransactions
import IncidentTriage.Verified.Answerable
import IncidentTriage.Verified.Answers
import IncidentTriage.Verified.ApprovalTimeout
import IncidentTriage.Verified.Attempts
import IncidentTriage.Verified.Authorisation
import IncidentTriage.Verified.Baselines
import IncidentTriage.Verified.Batching
import IncidentTriage.Verified.Bounds
import IncidentTriage.Verified.Budgets
import IncidentTriage.Verified.CommitLookup
import IncidentTriage.Verified.Compaction
import IncidentTriage.Verified.Conditions
import IncidentTriage.Verified.Consumer
import IncidentTriage.Verified.Correlation
import IncidentTriage.Verified.CorrelationOrder
import IncidentTriage.Verified.Courses
import IncidentTriage.Verified.Currency
import IncidentTriage.Verified.Deliveries
import IncidentTriage.Verified.DeliveryOrder
import IncidentTriage.Verified.Diagnosis
import IncidentTriage.Verified.EngineRuns
import IncidentTriage.Verified.ErrorProtocol
import IncidentTriage.Verified.EvidenceHashes
import IncidentTriage.Verified.EvidenceService
import IncidentTriage.Verified.Fencing
import IncidentTriage.Verified.GitLogs
import IncidentTriage.Verified.Histories
import IncidentTriage.Verified.HourlyLimit
import IncidentTriage.Verified.Hypotheses
import IncidentTriage.Verified.HypothesisStore
import IncidentTriage.Verified.Identity
import IncidentTriage.Verified.IncidentScopes
import IncidentTriage.Verified.InvestigationTransactions
import IncidentTriage.Verified.Justification
import IncidentTriage.Verified.Ledger
import IncidentTriage.Verified.Leftovers
import IncidentTriage.Verified.Lifecycle
import IncidentTriage.Verified.Liveness
import IncidentTriage.Verified.LockOrder
import IncidentTriage.Verified.LogLines
import IncidentTriage.Verified.LoopDetection
import IncidentTriage.Verified.LostAlerts
import IncidentTriage.Verified.MalformedEntries
import IncidentTriage.Verified.Moves
import IncidentTriage.Verified.OpenItems
import IncidentTriage.Verified.Openings
import IncidentTriage.Verified.Outbox
import IncidentTriage.Verified.Passing
import IncidentTriage.Verified.PendingJobs
import IncidentTriage.Verified.Pickup
import IncidentTriage.Verified.Pipeline
import IncidentTriage.Verified.Planning
import IncidentTriage.Verified.Polls
import IncidentTriage.Verified.Providers
import IncidentTriage.Verified.PublishOrder
import IncidentTriage.Verified.QueryScopes
import IncidentTriage.Verified.RawTraces
import IncidentTriage.Verified.Readings
import IncidentTriage.Verified.Rechecks
import IncidentTriage.Verified.Reconciliation
import IncidentTriage.Verified.Reinvestigation
import IncidentTriage.Verified.Relay
import IncidentTriage.Verified.RemediationTransactions
import IncidentTriage.Verified.Requests
import IncidentTriage.Verified.Resolution
import IncidentTriage.Verified.Resumption
import IncidentTriage.Verified.RetrySafety
import IncidentTriage.Verified.Revision
import IncidentTriage.Verified.Rollback
import IncidentTriage.Verified.Scrubs
import IncidentTriage.Verified.SecretShapes
import IncidentTriage.Verified.Serial
import IncidentTriage.Verified.SpanTrees
import IncidentTriage.Verified.Spoken
import IncidentTriage.Verified.Staleness
import IncidentTriage.Verified.StatusHistory
import IncidentTriage.Verified.SteadyPaths
import IncidentTriage.Verified.Storable
import IncidentTriage.Verified.Termination
import IncidentTriage.Verified.Thinking
import IncidentTriage.Verified.Tickets
import IncidentTriage.Verified.TimeScope
import IncidentTriage.Verified.TimelineOrder
import IncidentTriage.Verified.ToolCalls
import IncidentTriage.Verified.Transactions
import IncidentTriage.Verified.Verdicts
import IncidentTriage.Verified.VerificationTransactions
import IncidentTriage.Verified.Webhook
import IncidentTriage.Verified.WindowBounds
import IncidentTriage.Verified.WorkItems
