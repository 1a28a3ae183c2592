import IncidentTriage.Domain.Enums

/-! # Remediation domain

A remediation is one proposed catalog action against one target.  Its proposal
is immutable once recorded and fingerprinted (`proposalHash`); an approval binds
to that fingerprint and to the policy decision it approved.
-/

namespace IncidentTriage.Domain

open IncidentTriage.Python

inductive RemediationStatus where
  | proposed | policyRejected | awaitingApproval | approved | executing | executed | failed
  | cancelled
  deriving DecidableEq, Repr

def RemediationStatus.value : RemediationStatus → String
  | .proposed => "PROPOSED"
  | .policyRejected => "POLICY_REJECTED"
  | .awaitingApproval => "AWAITING_APPROVAL"
  | .approved => "APPROVED"
  | .executing => "EXECUTING"
  | .executed => "EXECUTED"
  | .failed => "FAILED"
  | .cancelled => "CANCELLED"

def terminalRemediationStatuses : List RemediationStatus :=
  [.policyRejected, .executed, .failed, .cancelled]

/-- Statuses that count as "a remediation was actually attempted". -/
def attemptedRemediationStatuses : List RemediationStatus :=
  [.executing, .executed, .failed]

def allowedTransitions : RemediationStatus → List RemediationStatus
  | .proposed => [.policyRejected, .awaitingApproval]
  | .awaitingApproval => [.approved, .cancelled]
  | .approved => [.executing, .cancelled, .failed]
  | .executing => [.executed, .failed, .executing, .cancelled]
  | _ => []

def canTransition (fromStatus toStatus : RemediationStatus) : Bool :=
  (allowedTransitions fromStatus).contains toStatus

inductive ExecutionStatus where
  | running | succeeded | failed | timedOut
  /-- The worker died mid-call; reconciled, never assumed. -/
  | unknown
  deriving DecidableEq, Repr

inductive ProposalSource where
  | planner | operator | model
  deriving DecidableEq, Repr

def ProposalSource.value : ProposalSource → String
  | .planner => "planner"
  | .operator => "operator"
  | .model => "model"

/-- What any proposer submits. -/
structure RemediationProposal where
  incidentId : Uuid
  investigationId : Option Uuid := none
  actionId : String
  parameters : Dict
  reason : String
  expectedEffect : String
  source : ProposalSource
  proposedBy : String
  deriving Repr

/-- The length bounds of the proposal's fields. -/
def RemediationProposal.Valid (p : RemediationProposal) : Prop :=
  (1 ≤ p.actionId.length ∧ p.actionId.length ≤ 64) ∧
  (1 ≤ p.reason.length ∧ p.reason.length ≤ 1000) ∧
  (1 ≤ p.expectedEffect.length ∧ p.expectedEffect.length ≤ 1000) ∧
  (1 ≤ p.proposedBy.length ∧ p.proposedBy.length ≤ 128)

instance (p : RemediationProposal) : Decidable p.Valid :=
  inferInstanceAs (Decidable (_ ∧ _))

def RemediationProposal.targetService (p : RemediationProposal) : Option String :=
  match p.parameters.get? "service" with
  | some (.str s) => some s
  | _ => none

/-- The identity an approval binds to: exactly what would run, where. -/
def proposalHash (sha256 : String → String) (incidentId : Uuid) (investigationId : Option Uuid)
    (actionId catalogVersion : String) (parameters : Dict) (environment : String) : String :=
  let body := Json.object
    [("incident_id", .str (uuidStr incidentId)),
     ("investigation_id", match investigationId with
        | some id => .str (uuidStr id)
        | none => .null),
     ("action_id", .str actionId),
     ("catalog_version", .str catalogVersion),
     ("parameters", .object parameters),
     ("environment", .str environment)]
  "sha256:" ++ sha256 body.dumps

/-! ## Policy evaluation -/

/-- Every dynamic fact a policy rule may condition on. -/
structure PolicyEvaluationContext where
  capturedAt : Time
  incidentId : Uuid
  incidentEnvironment : String
  incidentSeverity : AlertSeverity
  incidentService : String
  incidentStatus : IncidentStatus
  rcaAvailable : Bool
  rcaCauseCategory : Option String
  rcaComponent : Option String
  targetService : Option String
  targetKnown : Bool
  targetInIncidentScope : Bool
  actionBlastRadiusTier : Option Nat
  attemptedRemediationsThisIncident : Nat
  remediationExecutionsLastHourForTarget : Nat
  globalKillSwitchEngaged : Bool
  serviceKillSwitchEngaged : Bool
  proposalSource : ProposalSource
  deriving DecidableEq, Repr

inductive RuleOutcome where
  | pass | deny | requireApproval
  deriving DecidableEq, Repr

structure RuleResult where
  ruleId : String
  outcome : RuleOutcome
  detail : String
  deriving DecidableEq, Repr

inductive PolicyVerdict where
  | allow | deny | requireApproval
  deriving DecidableEq, Repr

structure PolicyDecision where
  decision : PolicyVerdict
  policyVersion : String
  catalogVersion : Option String
  blastRadiusTier : Option Nat
  requiredApproverRoles : List String
  rules : List RuleResult
  deriving DecidableEq, Repr

def PolicyDecision.reasons (d : PolicyDecision) : List String :=
  (d.rules.filter (fun r => r.outcome != .pass)).map (·.detail)

def PolicyDecision.denyingRules (d : PolicyDecision) : List String :=
  (d.rules.filter (fun r => r.outcome == .deny)).map (·.ruleId)

end IncidentTriage.Domain
