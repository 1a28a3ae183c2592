import IncidentTriage.Library.Tables
import IncidentTriage.Domain.Correlation
import IncidentTriage.Domain.Investigation
import IncidentTriage.Policy.Engine

/-! # The tables of incident-core

One structure per row type, and the `Store` that holds the tables, grouped by
the service that writes them.  Every table is an append-only list of rows and a
row made by a service is named by its position.  `Env` is what the services are
configured with.
-/

namespace IncidentTriage.Incident

open IncidentTriage.Python IncidentTriage.Domain IncidentTriage.PolicyEngine

/-- The configuration of the services, and the functions of the environment. -/
structure Env where
  sha256 : String → String
  /-- `uuid5(NAMESPACE_URL, "kill-switch:" + scope)`. -/
  killSwitchId : String → Uuid
  /-- The service catalog: known services, and those near a service. -/
  services : List String
  neighborhood : String → List String
  policy : Policy
  approvalTimeout : Int
  verificationTimeScale : ℚ
  maxInvestigationAttempts : Nat
  criteria : StoppingCriteria
  correlationEngine : CorrelationEngine
  candidateLookbackSeconds : Nat

/-! ## Incidents and alerts -/

structure IncidentRow where
  status : IncidentStatus
  severity : AlertSeverity
  service : String
  environment : String
  correlationKey : String
  attemptCount : Nat
  version : Nat
  createdAt : Time
  updatedAt : Time
  closedAt : Option Time

structure AlertRow where
  externalId : Option String
  source : AlertSource
  fingerprint : String
  labels : Labels
  severity : AlertSeverity
  status : AlertStatus
  receivedAt : Time
  resolvedAt : Option Time
  incidentId : Option Uuid

structure EvidenceRefRow where
  id : Uuid
  incidentId : Uuid
  investigationId : Option Uuid
  evidenceType : String
  contentHash : String
  sourceSystem : String
  collectedAt : Time

structure AlertReceivedResult where
  alertId : Uuid
  incidentId : Option Uuid
  incidentCreated : Bool
  incidentStatus : Option IncidentStatus

/-- The ledger of the `AlertReceivedCommand`s already processed. -/
structure ProcessedCommandRow where
  idempotencyKey : String
  result : AlertReceivedResult

/-! ## Investigations -/

/-- The terminal document of an investigation. -/
inductive FinalResult where
  | rootCauseIdentified (rcaReportId : Uuid) (selectedHypothesisKey : String)
      (confidence : Fraction)
  | incomplete (outcome : InvestigationStatus) (reasonCode detail : String)
      (evidenceGaps : List String) (leadingHypothesis : Option HypothesisSnapshot)
      (hypotheses : List HypothesisSnapshot) (evidenceIds : List String)

structure InvestigationRow where
  incidentId : Uuid
  attemptNumber : Nat
  status : InvestigationStatus
  modelProvider : String
  modelName : String
  modelConfig : Dict
  budget : InvestigationBudget
  iterationCount : Nat
  toolCallCount : Nat
  evidenceCount : Nat
  inputTokens : Nat
  outputTokens : Nat
  cacheReadTokens : Nat
  cacheCreationTokens : Nat
  leaseOwner : Option String
  leaseExpiresAt : Option Time
  lastAction : Option String
  failureReason : Option String
  escalationReason : Option String
  inconclusiveReason : Option String
  selectedHypothesisId : Option Uuid
  finalResult : Option FinalResult
  createdAt : Time
  startedAt : Option Time
  completedAt : Option Time
  updatedAt : Time

/-- One applied update as the trace reports it. -/
structure AppliedUpdate where
  key : String
  causeCategory : Option CauseCategory
  component : Option String
  fromStatus : Option HypothesisStatus
  toStatus : HypothesisStatus
  confidence : Option Fraction
  addedSupporting : List Uuid
  addedContradicting : List Uuid
  rationale : String

structure RejectedUpdate where
  key : String
  problems : List String

/-- The payload of a trace step: the worker's own document, of which
`evidence_ids` is read back, or one of the documents incident-core writes. -/
inductive StepPayload where
  | worker (evidenceIds : List Uuid) (fields : Dict)
  | hypothesisUpdate (applied : List AppliedUpdate) (rejected : List RejectedUpdate)
      (hypotheses : List HypothesisSnapshot)
  | conclusionRejected (unmetCriteria : List String) (proposed : FinalInvestigationResult)
  | completed (rcaReportId : Uuid)
  | ended (status : InvestigationStatus) (reasonCode detail : String)

/-- `payload.get("evidence_ids", [])`. -/
def StepPayload.evidenceIds : StepPayload → List Uuid
  | .worker ids _ => ids
  | _ => []

/-- `payload.get(name)` for the other fields of a worker's document. -/
def StepPayload.field (payload : StepPayload) (name : String) : Option Json :=
  match payload with
  | .worker _ fields => fields.get? name
  | _ => none

structure InvestigationStepRow where
  investigationId : Uuid
  sequence : Nat
  iteration : Nat
  kind : StepKind
  callId : Option String
  payload : StepPayload
  latencyMs : Option Nat
  createdAt : Time

structure HypothesisRow where
  investigationId : Uuid
  key : String
  description : String
  status : HypothesisStatus
  confidence : Option ℚ
  missingEvidence : List String
  causeCategory : Option CauseCategory
  component : Option String
  createdAt : Time
  updatedAt : Time

inductive EvidenceRelation where
  | supports | contradicts
  deriving DecidableEq

structure HypothesisEvidenceLinkRow where
  hypothesisId : Uuid
  evidenceId : Uuid
  relation : EvidenceRelation
  linkedAt : Time
  deriving DecidableEq

/-- What the investigation did, read back from its trace. -/
structure InvestigationAction where
  iteration : Nat
  tool : Option Json
  arguments : Option Json
  ok : Option Json
  evidenceIds : List Uuid
  summary : Option Json

/-- The report document of an accepted conclusion. -/
structure RcaReport where
  rca : RcaDraft
  confidence : Fraction
  selectedKey : String
  selectedDescription : String
  causeCategory : Option CauseCategory
  component : Option String
  supportingEvidence : List Uuid
  investigationActions : List InvestigationAction
  competingHypotheses : List HypothesisSnapshot

structure RcaReportRow where
  incidentId : Uuid
  investigationId : Uuid
  rootCauseHypothesisId : Uuid
  report : RcaReport
  generatedAt : Time

/-! ## Remediations -/

structure RemediationRow where
  incidentId : Uuid
  investigationId : Option Uuid
  idempotencyKey : String
  actionId : String
  catalogVersion : String
  parameters : Dict
  targetService : String
  environment : String
  reason : String
  expectedEffect : String
  blastRadiusTier : Option Nat
  proposalHash : String
  source : ProposalSource
  proposedBy : String
  status : RemediationStatus
  policyDecisionId : Option Uuid
  approvalStatus : Option String
  executionStatus : Option ExecutionStatus
  executionAttempts : Nat
  executorResult : Option Dict
  failureReason : Option String
  verificationRef : Option Uuid
  leaseOwner : Option String
  leaseExpiresAt : Option Time
  correlationId : Uuid
  version : Nat
  createdAt : Time
  updatedAt : Time
  completedAt : Option Time

structure RemediationPolicyDecisionRow where
  remediationId : Uuid
  proposalHash : String
  policyVersion : String
  catalogVersion : Option String
  decision : PolicyVerdict
  blastRadiusTier : Option Nat
  requiredApproverRoles : List String
  rules : List RuleResult
  reasons : List String
  policyContext : PolicyEvaluationContext
  evaluatedAt : Time

inductive ApprovalDecision where
  | approved | rejected | timedOut
  deriving DecidableEq

def ApprovalDecision.value : ApprovalDecision → String
  | .approved => "approved"
  | .rejected => "rejected"
  | .timedOut => "timed_out"

structure RemediationApprovalRow where
  remediationId : Uuid
  policyDecisionId : Option Uuid
  proposalHash : String
  decision : ApprovalDecision
  approver : String
  approverRole : Option String
  comment : Option String
  decidedAt : Time

structure RemediationExecutionRow where
  remediationId : Uuid
  attemptNumber : Nat
  idempotencyKey : String
  status : ExecutionStatus
  executor : String
  owner : String
  startedAt : Time
  deadlineAt : Time
  completedAt : Option Time
  result : Option Dict
  error : Option String

structure RemediationTimelineRow where
  remediationId : Uuid
  sequence : Nat
  event : String
  fromStatus : Option RemediationStatus
  toStatus : Option RemediationStatus
  actor : String
  correlationId : Uuid
  actionId : String
  catalogVersion : String
  policyVersion : Option String
  occurredAt : Time

structure RemediationBaselineRow where
  remediationId : Uuid
  values : Dict
  evidenceIds : List Uuid
  capturedAt : Time

structure KillSwitchRow where
  scope : String
  engaged : Bool
  changedBy : String
  reason : Option String
  changedAt : Time

/-! ## Verifications -/

structure VerificationRow where
  incidentId : Uuid
  remediationId : Uuid
  verificationType : String
  policyVersion : String
  spec : VerificationSpec
  baseline : Option RemediationBaselineRow
  status : VerificationStatus
  consecutiveSuccesses : Nat
  observationCount : Nat
  conclusiveCount : Nat
  knownAlertIds : Option (List Uuid)
  graceUntil : Option Time
  deadlineAt : Option Time
  nextPollAt : Option Time
  leaseOwner : Option String
  leaseExpiresAt : Option Time
  claimAttempt : Nat
  result : Option VerificationStatus
  failureReason : Option String
  nextAction : Option String
  correlationId : Uuid
  startedAt : Option Time
  completedAt : Option Time
  createdAt : Time
  updatedAt : Time

structure VerificationObservationRow where
  verificationId : Uuid
  sequence : Nat
  claimAttempt : Nat
  observedAt : Time
  passed : Bool
  conclusive : Bool
  checks : List CheckResult
  errors : List String
  evidenceIds : List Uuid

inductive EvidenceRole where
  | baseline | observation
  deriving DecidableEq

structure VerificationEvidenceRow where
  verificationId : Uuid
  evidenceId : Uuid
  pollSequence : Nat
  role : EvidenceRole
  collectedAt : Time

/-! ## Outbox -/

inductive AggregateType where
  | alert | incident | investigation | remediation | killSwitch | verification
  deriving DecidableEq

/-- The domain events, each with its payload. -/
inductive OutboxPayload where
  | alertReceived (alertId : Uuid) (fingerprint : String) (source : AlertSource)
      (incidentId : Uuid)
  | alertResolved (alertId incidentId : Uuid) (firingAlertsRemaining : Nat)
  | alertCorrelated (alertId incidentId : Uuid) (score : ℚ) (matchedSignals : List String)
  | incidentCreated (incidentId : Uuid) (correlationKey : String)
      (initialSeverity : AlertSeverity) (service environment : String)
      (bestCandidateScore : ℚ) (matchedSignals : List String)
  | incidentStatusChanged (incidentId : Uuid) (fromStatus toStatus : IncidentStatus)
      (reason : String) (version : Nat)
  | evidenceRefRegistered (evidenceId incidentId : Uuid)
      (evidenceType sourceSystem contentHash : String)
  | investigationStarted (investigationId incidentId : Uuid) (attemptNumber : Nat)
      (modelProvider modelName : String)
  | investigationCompleted (investigationId incidentId selectedHypothesisId rcaReportId : Uuid)
  | investigationFailed (investigationId incidentId : Uuid) (outcome : InvestigationStatus)
      (reasonCode : String)
  | remediation (eventType : String) (remediationId incidentId : Uuid)
      (actionId catalogVersion : String) (status : RemediationStatus) (proposalHash : String)
      (actor : String) (policyVersion : Option String)
      (policyDecision : Option PolicyVerdict) (failureReason : Option String)
  | verificationRequested (verificationId remediationId incidentId : Uuid)
      (actionId targetService : String) (requirements : List VerificationSpec)
  | killSwitchChanged (scope : String) (engaged : Bool) (actor : String)
      (reason : Option String)
  | verificationStarted (verificationId incidentId remediationId : Uuid)
      (status : VerificationStatus) (policyVersion : String) (claimAttempt : Nat)
  | verificationCompleted (verificationId incidentId remediationId : Uuid)
      (status : VerificationStatus) (policyVersion : String) (claimAttempt : Nat)
      (result : Option VerificationStatus) (reason nextAction : Option String)
  | incidentResolved (incidentId : Uuid) (status : IncidentStatus) (reason : String)
      (verificationId remediationId : Uuid)
  | incidentEscalated (incidentId : Uuid) (status : IncidentStatus) (reason : String)
      (verificationId remediationId : Uuid)

structure OutboxEventRow where
  aggregateType : AggregateType
  aggregateId : Uuid
  correlationId : Option Uuid
  payload : OutboxPayload
  occurredAt : Time

/-! ## The store -/

structure AlertTables where
  alerts : List AlertRow := []
  evidenceRefs : List EvidenceRefRow := []
  processedCommands : List ProcessedCommandRow := []

structure InvestigationTables where
  investigations : List InvestigationRow := []
  steps : List InvestigationStepRow := []
  hypotheses : List HypothesisRow := []
  links : List HypothesisEvidenceLinkRow := []
  rcaReports : List RcaReportRow := []

structure RemediationTables where
  remediations : List RemediationRow := []
  policyDecisions : List RemediationPolicyDecisionRow := []
  approvals : List RemediationApprovalRow := []
  executions : List RemediationExecutionRow := []
  baselines : List RemediationBaselineRow := []
  killSwitches : List KillSwitchRow := []

structure VerificationTables where
  verifications : List VerificationRow := []
  observations : List VerificationObservationRow := []
  evidence : List VerificationEvidenceRow := []

/-- What is written for the record: no command bases a decision on it. -/
structure AuditTables where
  timeline : List RemediationTimelineRow := []
  outbox : List OutboxEventRow := []

structure Store where
  incidents : List IncidentRow := []
  alert : AlertTables := {}
  investigation : InvestigationTables := {}
  remediation : RemediationTables := {}
  verification : VerificationTables := {}
  audit : AuditTables := {}

end IncidentTriage.Incident
