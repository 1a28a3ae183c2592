import IncidentTriage.Incident.System
import IncidentTriage.Verified.AlertTransactions

/-! # What a remediation transaction can do

`RemediationEffect env now c s s'` lists what one committed transaction of a
remediation command `c` does to the incidents, to the tables of the service, and to
the verifications; `RemediationStep` adds that the alert and investigation tables
stay as they were.  The constructors say under which guards each effect happens, and
name the command where only one can cause it.
-/

namespace IncidentTriage.Verified

open IncidentTriage.Python IncidentTriage.Domain IncidentTriage.Incident
open IncidentTriage.Remediation IncidentTriage.PolicyEngine

/-- The columns of a remediation that are fixed once the proposal is recorded. -/
structure SameProposal (row row' : RemediationRow) : Prop where
  incidentId : row'.incidentId = row.incidentId
  investigationId : row'.investigationId = row.investigationId
  idempotencyKey : row'.idempotencyKey = row.idempotencyKey
  actionId : row'.actionId = row.actionId
  catalogVersion : row'.catalogVersion = row.catalogVersion
  parameters : row'.parameters = row.parameters
  targetService : row'.targetService = row.targetService
  environment : row'.environment = row.environment
  proposalHash : row'.proposalHash = row.proposalHash
  source : row'.source = row.source
  proposedBy : row'.proposedBy = row.proposedBy
  policyDecisionId : row'.policyDecisionId = row.policyDecisionId
  createdAt : row'.createdAt = row.createdAt

theorem SameProposal.refl (row : RemediationRow) : SameProposal row row :=
  ⟨rfl, rfl, rfl, rfl, rfl, rfl, rfl, rfl, rfl, rfl, rfl, rfl, rfl⟩

theorem SameProposal.trans {a b c : RemediationRow} (first : SameProposal a b)
    (second : SameProposal b c) : SameProposal a c := by
  constructor <;> simp [first.incidentId, first.investigationId, first.idempotencyKey,
    first.actionId, first.catalogVersion, first.parameters, first.targetService,
    first.environment, first.proposalHash, first.source, first.proposedBy,
    first.policyDecisionId, first.createdAt, second.incidentId, second.investigationId,
    second.idempotencyKey, second.actionId, second.catalogVersion, second.parameters,
    second.targetService, second.environment, second.proposalHash, second.source,
    second.proposedBy, second.policyDecisionId, second.createdAt]

/-- A proposal that was just recorded, with the decision it points at. -/
structure FreshProposal (env : Env) (s : Store) (now : Time) (row : RemediationRow)
    (decision : RemediationPolicyDecisionRow) : Prop where
  attempts : row.executionAttempts = 0
  createdAt : row.createdAt = now
  pointer : row.policyDecisionId = some s.remediation.policyDecisions.length
  remediationId : decision.remediationId = s.remediation.remediations.length
  proposalHash : decision.proposalHash = row.proposalHash
  hashed : row.proposalHash = Domain.proposalHash env.sha256 row.incidentId row.investigationId
    row.actionId row.catalogVersion row.parameters row.environment

/-- The caller claims an execution, and no attempt of the remediation is running. -/
def ClaimedIdle (c : Command) (s : Store) (id : Uuid) : Prop :=
  (∃ owner leaseSeconds, c = .claimExecution id owner leaseSeconds) ∧
    ∀ x e, latestExecution s id = some (x, e) → e.status ≠ .running

/-- An execution attempt that has not been settled. -/
def isUnsettled (e : RemediationExecutionRow) : Bool :=
  e.status == .running || e.status == .unknown

/-- A verification that was just requested. -/
structure FreshVerification (id : Uuid) (row : RemediationRow) (v : VerificationRow) : Prop where
  incidentId : v.incidentId = row.incidentId
  remediationId : v.remediationId = id
  status : v.status = .pending
  observationCount : v.observationCount = 0
  conclusiveCount : v.conclusiveCount = 0
  consecutiveSuccesses : v.consecutiveSuccesses = 0
  claimAttempt : v.claimAttempt = 0
  leaseOwner : v.leaseOwner = none
  pollInterval : 0 ≤ v.spec.pollIntervalSeconds

/-- The remediation of the incident that holds the idempotency key. -/
def proposedUnder (s : Store) (incidentId : Uuid) (key : String) : Option (Uuid × RemediationRow) :=
  Table.first (fun r => r.incidentId == incidentId && r.idempotencyKey == key)
    s.remediation.remediations

/-- The row records this proposal. -/
structure Records (s : Store) (row : RemediationRow) (proposal : RemediationProposal)
    (key : String) : Prop where
  incidentId : row.incidentId = proposal.incidentId
  investigationId : row.investigationId = proposal.investigationId
  actionId : row.actionId = proposal.actionId
  targetService : row.targetService = proposal.targetService.getD ""
  fresh : proposedUnder s proposal.incidentId key = none

/-- The command proposes this row, or revises another one into it. -/
def ProposedBy (c : Command) (s : Store) (row : RemediationRow) : Prop :=
  match c with
  | .propose proposal key _ => Records s row proposal key
  | .revise .. => True
  | _ => False

/-- Where its action requires an RCA, the row rests on one that stands, and its target is the
component the RCA names. -/
def RestsOnRca (s : Store) (row : RemediationRow) : Prop :=
  ∀ entry, getEntry row.actionId = some entry → entry.requiresRca = true →
    ∃ v report, rcaInvestigation s row.incidentId row.investigationId = some v ∧
      v.2.status = .completed ∧
      s.investigation.rcaReports.find? (fun r => r.investigationId == v.1) = some report ∧
      (entry.targetMustMatchRootCause = true →
        report.report.component = some row.targetService)

theorem RestsOnRca.of_investigation {s s' : Store} {row : RemediationRow} (rests : RestsOnRca s row)
    (investigation : s'.investigation = s.investigation) : RestsOnRca s' row := by
  intro entry known requires
  obtain ⟨v, report, named, completed, found, component⟩ := rests entry known requires
  refine ⟨v, report, ?_, completed, ?_, component⟩
  · rw [← named]
    simp only [rcaInvestigation, investigation]
  · rw [investigation]
    exact found

/-- A baseline is captured by the worker that holds the executing remediation, where there is
none yet. -/
def CapturesBaseline (now : Time) (c : Command) (s : Store)
    (baselines : List RemediationBaselineRow) : Prop :=
  ∃ id row owner values evidenceIds, c = .recordBaseline id owner values evidenceIds ∧
    s.remediation.remediations[id]? = some row ∧ row.leaseOwner = some owner ∧
    row.status = .executing ∧ baselineOf s id = none ∧
    baselines = s.remediation.baselines ++
      [{ remediationId := id, values, evidenceIds, capturedAt := now }]

inductive RemediationEffect (env : Env) (now : Time) (c : Command) (s s' : Store) : Prop
  /-- Policy denies a new proposal. -/
  | rejected (incident : IncidentRow) (row : RemediationRow)
      (decision : RemediationPolicyDecisionRow)
      (found : s.incidents[row.incidentId]? = some incident)
      (fresh : FreshProposal env s now row decision)
      (status : row.status = .policyRejected) (denies : decision.decision = .deny)
      (incidents : s'.incidents =
        movedIf s.incidents now row.incidentId incident [.rcaReady] .escalated)
      (tables : s'.remediation = { s.remediation with
        remediations := s.remediation.remediations ++ [row]
        policyDecisions := s.remediation.policyDecisions ++ [decision] })
      (verification : s'.verification = s.verification)
      (origin : ProposedBy c s row)
  /-- A new proposal waits for a human. -/
  | requested (incident : IncidentRow) (row : RemediationRow)
      (decision : RemediationPolicyDecisionRow)
      (found : s.incidents[row.incidentId]? = some incident)
      (fresh : FreshProposal env s now row decision)
      (status : row.status = .awaitingApproval) (permits : decision.decision ≠ .deny)
      (remediable : incident.status ∈ env.policy.remediableIncidentStatuses)
      (attempted : attemptedRemediations s row.incidentId <
        env.policy.maxAttemptedRemediationsPerIncident)
      (incidents : s'.incidents =
        movedIf s.incidents now row.incidentId incident [.rcaReady] .awaitingApproval)
      (tables : s'.remediation = { s.remediation with
        remediations := s.remediation.remediations ++ [row]
        policyDecisions := s.remediation.policyDecisions ++ [decision] })
      (verification : s'.verification = s.verification)
      (origin : ProposedBy c s row) (rca : RestsOnRca s row)
      (recent : recentExecutions s now row.targetService <
        env.policy.maxExecutionsPerServicePerHour)
  /-- A human approves. -/
  | approved (id : Uuid) (row row' : RemediationRow) (incident : IncidentRow)
      (decision : RemediationPolicyDecisionRow) (approval : RemediationApprovalRow)
      (approver role hash : String) (roles : List String) (decisionId : Uuid)
      (comment : Option String)
      (command : c = .decideApproval id approver roles true hash decisionId comment)
      (found : s.remediation.remediations[id]? = some row)
      (incidentFound : s.incidents[row.incidentId]? = some incident)
      (awaiting : row.status = .awaitingApproval) (undecided : approvalOf s id = none)
      (agreed : hash = row.proposalHash ∧ row.policyDecisionId = some decisionId)
      (decisionFound : s.remediation.policyDecisions[decisionId]? = some decision)
      (held : role ∈ roles) (eligible : role ∈ decision.requiredApproverRoles)
      (notSelf : ¬ (row.source = .operator ∧ row.proposedBy = approver))
      (approvalRow : approval = humanApproval now id row true approver
        (roles.filter (fun r => decision.requiredApproverRoles.contains r)) comment)
      (same : SameProposal row row') (status : row'.status = .approved)
      (attempts : row'.executionAttempts = row.executionAttempts)
      (verificationRef : row'.verificationRef = row.verificationRef)
      (incidents : s'.incidents = movedIf s.incidents now row.incidentId incident
        [.awaitingApproval] .remediationInProgress)
      (tables : s'.remediation = { s.remediation with
        remediations := s.remediation.remediations.set id row'
        approvals := s.remediation.approvals ++ [approval] })
      (verification : s'.verification = s.verification)
  /-- Rejected by a human, timed out, withdrawn, or stopped by a kill switch. -/
  | withdrawn (id : Uuid) (row row' : RemediationRow) (incident : IncidentRow)
      (decided : List RemediationApprovalRow) (incidentTo : IncidentStatus)
      (found : s.remediation.remediations[id]? = some row)
      (incidentFound : s.incidents[row.incidentId]? = some incident)
      (before : row.status = .awaitingApproval ∨ row.status = .approved ∨
        (row.status = .executing ∧ incidentTo = .escalated ∧ ClaimedIdle c s id))
      (destination : incidentTo = .escalated ∨ incidentTo = .rcaReady)
      (notApproved : ∀ a ∈ decided, a.remediationId = id ∧ a.decision ≠ .approved)
      (same : SameProposal row row') (status : row'.status = .cancelled)
      (attempts : row'.executionAttempts = row.executionAttempts)
      (verificationRef : row'.verificationRef = row.verificationRef)
      (incidents : s'.incidents = movedIf s.incidents now row.incidentId incident
        [.awaitingApproval, .remediationInProgress] incidentTo)
      (tables : s'.remediation = { s.remediation with
        remediations := s.remediation.remediations.set id row'
        approvals := s.remediation.approvals ++ decided })
      (verification : s'.verification = s.verification)
  /-- A check at execution time fails. -/
  | blocked (id : Uuid) (row row' : RemediationRow) (incident : IncidentRow)
      (found : s.remediation.remediations[id]? = some row)
      (incidentFound : s.incidents[row.incidentId]? = some incident)
      (before : row.status = .approved ∨ row.status = .executing)
      (idle : ClaimedIdle c s id)
      (same : SameProposal row row') (status : row'.status = .failed)
      (attempts : row'.executionAttempts = row.executionAttempts)
      (verificationRef : row'.verificationRef = row.verificationRef)
      (incidents : s'.incidents = movedIf s.incidents now row.incidentId incident
        [.remediationInProgress, .awaitingApproval] .escalated)
      (tables : s'.remediation = { s.remediation with
        remediations := s.remediation.remediations.set id row' })
      (verification : s'.verification = s.verification)
  /-- A new attempt starts. -/
  | started (id : Uuid) (row row' : RemediationRow) (owner : String) (leaseSeconds : Int)
      (entry : ActionCatalogEntry)
      (command : c = .claimExecution id owner leaseSeconds)
      (found : s.remediation.remediations[id]? = some row)
      (before : row.status = .approved ∨ row.status = .executing)
      (notRunning : ∀ x e, latestExecution s id = some (x, e) → e.status ≠ .running)
      (known : getEntry row.actionId = some entry)
      (clear : executionBlocker env s id row (getEntry row.actionId) = none)
      (same : SameProposal row row') (status : row'.status = .executing)
      (attempts : row'.executionAttempts = row.executionAttempts + 1)
      (verificationRef : row'.verificationRef = row.verificationRef)
      (incidents : s'.incidents = s.incidents)
      (tables : s'.remediation = { s.remediation with
        remediations := s.remediation.remediations.set id row'
        executions := s.remediation.executions ++
          [newExecution now id (row.executionAttempts + 1) owner entry.timeoutSeconds] })
      (verification : s'.verification = s.verification)
  /-- A worker died mid-call: its attempt is `UNKNOWN` and handed on. -/
  | interrupted (id : Uuid) (row row' : RemediationRow) (x : Uuid)
      (e e' : RemediationExecutionRow)
      (found : s.remediation.remediations[id]? = some row)
      (before : row.status = .approved ∨ row.status = .executing)
      (claimed : ∃ owner leaseSeconds, c = .claimExecution id owner leaseSeconds)
      (latest : latestExecution s id = some (x, e))
      (running : e.status = .running) (unknown : e'.status = .unknown)
      (remediationId : e'.remediationId = e.remediationId)
      (attemptNumber : e'.attemptNumber = e.attemptNumber)
      (startedAt : e'.startedAt = e.startedAt)
      (same : SameProposal row row') (status : row'.status = row.status)
      (attempts : row'.executionAttempts = row.executionAttempts)
      (verificationRef : row'.verificationRef = row.verificationRef)
      (incidents : s'.incidents = s.incidents)
      (tables : s'.remediation = { s.remediation with
        remediations := s.remediation.remediations.set id row'
        executions := s.remediation.executions.set x e' })
      (verification : s'.verification = s.verification)
  /-- An attempt succeeded: the verification is created with it. -/
  | executed (x : Uuid) (e e' : RemediationExecutionRow) (row row' : RemediationRow)
      (incident : IncidentRow) (v : VerificationRow) (links : List VerificationEvidenceRow)
      (owner : String) (outcome : AttemptOutcome) (executor : String) (result : Option Dict)
      (error : Option String) (retryable : Bool)
      (command : c = .completeExecution x owner outcome executor result error retryable)
      (execution : s.remediation.executions[x]? = some e)
      (found : s.remediation.remediations[e.remediationId]? = some row)
      (incidentFound : s.incidents[row.incidentId]? = some incident)
      (executing : row.status = .executing)
      (unsettled : isUnsettled e = true) (settled : isUnsettled e' = false)
      (remediationId : e'.remediationId = e.remediationId)
      (attemptNumber : e'.attemptNumber = e.attemptNumber)
      (startedAt : e'.startedAt = e.startedAt)
      (same : SameProposal row row') (status : row'.status = .executed)
      (attempts : row'.executionAttempts = row.executionAttempts)
      (verificationRef : row'.verificationRef = some s.verification.verifications.length)
      (fresh : FreshVerification e.remediationId row v)
      (incidents : s'.incidents = movedIf s.incidents now row.incidentId incident
        [.remediationInProgress] .verifying)
      (tables : s'.remediation = { s.remediation with
        remediations := s.remediation.remediations.set e.remediationId row'
        executions := s.remediation.executions.set x e' })
      (verification : s'.verification = { s.verification with
        verifications := s.verification.verifications ++ [v]
        evidence := s.verification.evidence ++ links })
      (baseline : v.baseline = baselineOf s e.remediationId)
  /-- An attempt did not succeed and there is no further one. -/
  | attemptFailed (x : Uuid) (e e' : RemediationExecutionRow) (row row' : RemediationRow)
      (incident : IncidentRow) (owner : String) (outcome : AttemptOutcome) (executor : String)
      (result : Option Dict) (error : Option String) (retryable : Bool)
      (command : c = .completeExecution x owner outcome executor result error retryable)
      (execution : s.remediation.executions[x]? = some e)
      (found : s.remediation.remediations[e.remediationId]? = some row)
      (incidentFound : s.incidents[row.incidentId]? = some incident)
      (executing : row.status = .executing)
      (unsettled : isUnsettled e = true) (settled : isUnsettled e' = false)
      (remediationId : e'.remediationId = e.remediationId)
      (attemptNumber : e'.attemptNumber = e.attemptNumber)
      (startedAt : e'.startedAt = e.startedAt)
      (same : SameProposal row row') (status : row'.status = .failed)
      (attempts : row'.executionAttempts = row.executionAttempts)
      (verificationRef : row'.verificationRef = row.verificationRef)
      (incidents : s'.incidents = movedIf s.incidents now row.incidentId incident
        [.remediationInProgress, .awaitingApproval] .escalated)
      (tables : s'.remediation = { s.remediation with
        remediations := s.remediation.remediations.set e.remediationId row'
        executions := s.remediation.executions.set x e' })
      (verification : s'.verification = s.verification)
  /-- An attempt did not succeed and another one may follow. -/
  | retriable (x : Uuid) (e e' : RemediationExecutionRow) (row row' : RemediationRow)
      (owner : String) (outcome : AttemptOutcome) (executor : String) (result : Option Dict)
      (error : Option String) (retryable : Bool)
      (command : c = .completeExecution x owner outcome executor result error retryable)
      (execution : s.remediation.executions[x]? = some e)
      (found : s.remediation.remediations[e.remediationId]? = some row)
      (executing : row.status = .executing)
      (unsettled : isUnsettled e = true) (settled : isUnsettled e' = false)
      (remediationId : e'.remediationId = e.remediationId)
      (attemptNumber : e'.attemptNumber = e.attemptNumber)
      (startedAt : e'.startedAt = e.startedAt)
      (same : SameProposal row row') (status : row'.status = .executing)
      (attempts : row'.executionAttempts = row.executionAttempts)
      (verificationRef : row'.verificationRef = row.verificationRef)
      (incidents : s'.incidents = s.incidents)
      (tables : s'.remediation = { s.remediation with
        remediations := s.remediation.remediations.set e.remediationId row'
        executions := s.remediation.executions.set x e' })
      (verification : s'.verification = s.verification)
  /-- A baseline is captured, or a kill switch is set. -/
  | configured (baselines : List RemediationBaselineRow) (killSwitches : List KillSwitchRow)
      (incidents : s'.incidents = s.incidents)
      (tables : s'.remediation = { s.remediation with baselines, killSwitches })
      (verification : s'.verification = s.verification)
      (captured : baselines = s.remediation.baselines ∨ CapturesBaseline now c s baselines)

structure RemediationStep (env : Env) (now : Time) (c : Command) (s s' : Store) : Prop where
  effect : RemediationEffect env now c s s'
  alert : s'.alert = s.alert
  investigation : s'.investigation = s.investigation

/-! ## The rows -/

/-- The executions keep their attempts: at most the state of one of them changes. -/
inductive ExecutionsKept (s s' : Store) : Prop
  | same (executions : s'.remediation.executions = s.remediation.executions)
  | changed (x : Uuid) (e e' : RemediationExecutionRow)
      (found : s.remediation.executions[x]? = some e)
      (remediationId : e'.remediationId = e.remediationId)
      (attemptNumber : e'.attemptNumber = e.attemptNumber)
      (startedAt : e'.startedAt = e.startedAt)
      (executions : s'.remediation.executions = s.remediation.executions.set x e')

/-- What an effect does to the remediations and their attempts: one is recorded, one
changes, one starts an attempt, or none is touched. -/
inductive RowsEffect (env : Env) (now : Time) (c : Command) (s s' : Store) : Prop
  | inserted (row : RemediationRow) (decision : RemediationPolicyDecisionRow)
      (fresh : FreshProposal env s now row decision)
      (status : row.status = .policyRejected ∧ decision.decision = .deny ∨
        row.status = .awaitingApproval ∧ decision.decision ≠ .deny)
      (remediations : s'.remediation.remediations = s.remediation.remediations ++ [row])
      (decisions : s'.remediation.policyDecisions = s.remediation.policyDecisions ++ [decision])
      (executions : s'.remediation.executions = s.remediation.executions)
      (recent : row.status ≠ .policyRejected → recentExecutions s now row.targetService <
        env.policy.maxExecutionsPerServicePerHour)
  | changed (id : Uuid) (row row' : RemediationRow)
      (found : s.remediation.remediations[id]? = some row)
      (same : SameProposal row row')
      (settled : row.status ≠ .policyRejected)
      (status : row'.status ≠ .policyRejected)
      (attempts : row'.executionAttempts = row.executionAttempts)
      (remediations : s'.remediation.remediations = s.remediation.remediations.set id row')
      (decisions : s'.remediation.policyDecisions = s.remediation.policyDecisions)
      (executions : ExecutionsKept s s')
  | started (id : Uuid) (row row' : RemediationRow) (owner : String) (leaseSeconds : Int)
      (entry : ActionCatalogEntry)
      (command : c = .claimExecution id owner leaseSeconds)
      (found : s.remediation.remediations[id]? = some row)
      (before : row.status = .approved ∨ row.status = .executing)
      (known : getEntry row.actionId = some entry)
      (clear : executionBlocker env s id row (getEntry row.actionId) = none)
      (same : SameProposal row row') (status : row'.status = .executing)
      (attempts : row'.executionAttempts = row.executionAttempts + 1)
      (remediations : s'.remediation.remediations = s.remediation.remediations.set id row')
      (decisions : s'.remediation.policyDecisions = s.remediation.policyDecisions)
      (executions : s'.remediation.executions = s.remediation.executions ++
        [newExecution now id (row.executionAttempts + 1) owner entry.timeoutSeconds])
  | untouched
      (remediations : s'.remediation.remediations = s.remediation.remediations)
      (decisions : s'.remediation.policyDecisions = s.remediation.policyDecisions)
      (executions : s'.remediation.executions = s.remediation.executions)

theorem RemediationEffect.rows {env : Env} {now : Time} {c : Command} {s s' : Store}
    (effect : RemediationEffect env now c s s') : RowsEffect env now c s s' := by
  cases effect with
  | rejected incident row decision _ fresh status denies _ tables _ =>
    exact .inserted row decision fresh (.inl ⟨status, denies⟩) (by rw [tables]) (by rw [tables])
      (by rw [tables]) (fun admitted => absurd status admitted)
  | requested incident row decision _ fresh status permits _ _ _ tables _ _ _ recent =>
    exact .inserted row decision fresh (.inr ⟨status, permits⟩) (by rw [tables]) (by rw [tables])
      (by rw [tables]) (fun _ => recent)
  | approved id row row' _ _ _ _ _ _ _ _ _ _ found _ awaiting _ _ _ _ _ _ _ same status attempts
      _ _ tables _ =>
    exact .changed id row row' found same (by simp [awaiting]) (by simp [status]) attempts
      (by rw [tables]) (by rw [tables]) (.same (by rw [tables]))
  | withdrawn id row row' _ _ _ found _ before _ _ same status attempts _ _ tables _ =>
    refine .changed id row row' found same ?_ (by simp [status]) attempts
      (by rw [tables]) (by rw [tables]) (.same (by rw [tables]))
    rcases before with before | before | ⟨before, _⟩ <;> simp [before]
  | blocked id row row' _ found _ before _ same status attempts _ _ tables _ =>
    refine .changed id row row' found same ?_ (by simp [status]) attempts
      (by rw [tables]) (by rw [tables]) (.same (by rw [tables]))
    rcases before with before | before <;> simp [before]
  | started id row row' owner leaseSeconds entry command found before _ known clear same status
      attempts _ _ tables _ =>
    exact .started id row row' owner leaseSeconds entry command found before known clear same
      status attempts (by rw [tables]) (by rw [tables]) (by rw [tables])
  | interrupted id row row' x e e' found before _ latest _ _ remediationId attemptNumber startedAt
      same status attempts _ _ tables _ =>
    have unsettled : row.status ≠ .policyRejected := by
      rcases before with before | before <;> simp [before]
    exact .changed id row row' found same unsettled (by rwa [status]) attempts (by rw [tables])
      (by rw [tables]) (.changed x e e' (Table.latest_some latest).1 remediationId attemptNumber
        startedAt (by rw [tables]))
  | executed x e e' row row' _ _ _ _ _ _ _ _ _ _ execution found _ executing _ _ remediationId
      attemptNumber startedAt same status attempts _ _ _ tables _ =>
    exact .changed _ row row' found same (by simp [executing]) (by simp [status]) attempts
      (by rw [tables]) (by rw [tables]) (.changed x e e' execution remediationId attemptNumber
        startedAt (by rw [tables]))
  | attemptFailed x e e' row row' _ _ _ _ _ _ _ _ execution found _ executing _ _ remediationId
      attemptNumber startedAt same status attempts _ _ tables _ =>
    exact .changed _ row row' found same (by simp [executing]) (by simp [status]) attempts
      (by rw [tables]) (by rw [tables]) (.changed x e e' execution remediationId attemptNumber
        startedAt (by rw [tables]))
  | retriable x e e' row row' _ _ _ _ _ _ _ execution found executing _ _ remediationId
      attemptNumber startedAt same status attempts _ _ tables _ =>
    exact .changed _ row row' found same (by simp [executing]) (by simp [status]) attempts
      (by rw [tables]) (by rw [tables]) (.changed x e e' execution remediationId attemptNumber
        startedAt (by rw [tables]))
  | configured baselines killSwitches _ tables _ =>
    exact .untouched (by rw [tables]) (by rw [tables]) (by rw [tables])

/-! ## The verifications -/

/-- What an effect does to the verifications: it requests one, or leaves them alone. -/
inductive VerificationsEffect (s s' : Store) : Prop
  | same (verification : s'.verification = s.verification)
  | requested (id : Uuid) (row : RemediationRow) (v : VerificationRow)
      (found : s.remediation.remediations[id]? = some row) (fresh : FreshVerification id row v)
      (verifications : s'.verification.verifications = s.verification.verifications ++ [v])
      (observations : s'.verification.observations = s.verification.observations)

theorem RemediationEffect.verifications {env : Env} {now : Time} {c : Command} {s s' : Store}
    (effect : RemediationEffect env now c s s') : VerificationsEffect s s' := by
  cases effect with
  | rejected _ _ _ _ _ _ _ _ _ verification => exact .same verification
  | requested _ _ _ _ _ _ _ _ _ _ _ verification => exact .same verification
  | approved _ _ _ _ _ _ _ _ _ _ _ _ _ _ _ _ _ _ _ _ _ _ _ _ _ _ _ _ _ verification =>
    exact .same verification
  | withdrawn _ _ _ _ _ _ _ _ _ _ _ _ _ _ _ _ _ verification => exact .same verification
  | blocked _ _ _ _ _ _ _ _ _ _ _ _ _ _ verification => exact .same verification
  | started _ _ _ _ _ _ _ _ _ _ _ _ _ _ _ _ _ _ verification => exact .same verification
  | interrupted _ _ _ _ _ _ _ _ _ _ _ _ _ _ _ _ _ _ _ _ _ verification =>
    exact .same verification
  | attemptFailed _ _ _ _ _ _ _ _ _ _ _ _ _ _ _ _ _ _ _ _ _ _ _ _ _ _ _ _ verification =>
    exact .same verification
  | retriable _ _ _ _ _ _ _ _ _ _ _ _ _ _ _ _ _ _ _ _ _ _ _ _ _ _ verification =>
    exact .same verification
  | configured _ _ _ _ verification => exact .same verification
  | executed _ _ _ row _ _ v _ _ _ _ _ _ _ _ _ found _ _ _ _ _ _ _ _ _ _ _ fresh _ _
      verification =>
    exact .requested _ row v found fresh (by rw [verification]) (by rw [verification])

/-! ## Rows that stay -/

/-- Remediations keep their proposals, and decisions are only added. -/
structure ProposalsKept (s s' : Store) : Prop where
  remediations : Table.Evolves SameProposal s.remediation.remediations s'.remediation.remediations
  decisions : Table.Evolves Eq s.remediation.policyDecisions s'.remediation.policyDecisions

theorem ProposalsKept.of_same {s s' : Store} (same : s'.remediation = s.remediation) :
    ProposalsKept s s' := by
  constructor <;> rw [same]
  · exact Table.Evolves.refl SameProposal.refl _
  · exact Table.Evolves.refl (fun _ => rfl) _

theorem RowsEffect.proposalsKept {env : Env} {now : Time} {c : Command} {s s' : Store}
    (effect : RowsEffect env now c s s') : ProposalsKept s s' := by
  cases effect with
  | inserted row decision _ _ remediations decisions =>
    constructor
    · rw [remediations]
      exact Table.Evolves.insert SameProposal.refl _ _
    · rw [decisions]
      exact Table.Evolves.insert (fun _ => rfl) _ _
  | changed id row row' found same _ _ _ remediations decisions =>
    constructor
    · rw [remediations]
      exact Table.Evolves.put SameProposal.refl found same
    · rw [decisions]
      exact Table.Evolves.refl (fun _ => rfl) _
  | started id row row' _ _ _ _ found _ _ _ same _ _ remediations decisions =>
    constructor
    · rw [remediations]
      exact Table.Evolves.put SameProposal.refl found same
    · rw [decisions]
      exact Table.Evolves.refl (fun _ => rfl) _
  | untouched remediations decisions =>
    constructor
    · rw [remediations]
      exact Table.Evolves.refl SameProposal.refl _
    · rw [decisions]
      exact Table.Evolves.refl (fun _ => rfl) _

/-! ## The helpers -/

theorem transition_eq_ok {s s' : Store} {now : Time} {id : Uuid} {row row' : RemediationRow}
    {toStatus : RemediationStatus} {event actor : String} {version : Option String}
    (done : transition s now id row toStatus event actor version = .ok (row', s')) :
    canTransition row.status toStatus = true ∧
      row' = { row with status := toStatus, version := row.version + 1, updatedAt := now } ∧
      ∃ audit, s' = { s with audit := audit } := by
  simp only [transition, bind_eq_ok, ensure_eq_ok, pure_eq_ok] at done
  obtain ⟨_, allowed, done⟩ := done
  cases done
  exact ⟨allowed, rfl, _, rfl⟩

theorem moveIncident_eq_ok {s s' : Store} {now : Time} {i : Uuid} {incident : IncidentRow}
    {fromStatuses : List IncidentStatus} {toStatus : IncidentStatus} {reason : String}
    (done : moveIncident s now i incident fromStatuses toStatus reason = .ok s')
    (row : s.incidents[i]? = some incident) :
    ∃ audit, s' = { s with
      incidents := movedIf s.incidents now i incident fromStatuses toStatus
      audit := audit } := by
  unfold moveIncident at done
  unfold movedIf
  split_ifs at done ⊢ with within
  · simp only [bind_eq_ok, found_eq_ok, pure_eq_ok] at done
    obtain ⟨⟨moved, s₁⟩, transitioned, rfl⟩ := done
    cases eq_of_transitionIncidentStatus transitioned row
    exact ⟨_, rfl⟩
  · cases done
    exact ⟨_, rfl⟩

/-- The row a finished remediation becomes, whatever is recorded as the reason. -/
structure Finished (row row' : RemediationRow) (status : RemediationStatus) : Prop where
  same : SameProposal row row'
  status : row'.status = status
  attempts : row'.executionAttempts = row.executionAttempts
  verificationRef : row'.verificationRef = row.verificationRef

theorem finishFailed_eq_ok {s s' : Store} {now : Time} {id : Uuid} {row row' : RemediationRow}
    {incident : IncidentRow} {code text actor : String}
    (done : finishFailed s now id row incident code text actor = .ok (row', s'))
    (incidentFound : s.incidents[row.incidentId]? = some incident) :
    Finished row row' .failed ∧ ∃ audit, s' = { s with
      incidents := movedIf s.incidents now row.incidentId incident
        [.remediationInProgress, .awaitingApproval] .escalated
      audit := audit } := by
  simp only [finishFailed, bind_eq_ok, pure_eq_ok] at done
  obtain ⟨⟨moved, s₁⟩, transitioned, s₂, left, done⟩ := done
  obtain ⟨_, rfl, audit, rfl⟩ := transition_eq_ok transitioned
  cases done
  obtain ⟨audit', rfl⟩ := moveIncident_eq_ok left incidentFound
  exact ⟨⟨by constructor <;> rfl, rfl, rfl, rfl⟩, _, rfl⟩

theorem finishCancelled_eq_ok {s s' : Store} {now : Time} {id : Uuid}
    {row row' : RemediationRow} {incident : IncidentRow} {event actor reason : String}
    {incidentTo : IncidentStatus} {eventType : String}
    {decision : Option RemediationPolicyDecisionRow}
    (done : finishCancelled s now id row incident event actor reason incidentTo eventType
      decision = .ok (row', s'))
    (incidentFound : s.incidents[row.incidentId]? = some incident) :
    Finished row row' .cancelled ∧ ∃ audit, s' = { s with
      incidents := movedIf s.incidents now row.incidentId incident
        [.awaitingApproval, .remediationInProgress] incidentTo
      audit := audit } := by
  simp only [finishCancelled, bind_eq_ok, pure_eq_ok] at done
  obtain ⟨⟨moved, s₁⟩, transitioned, s₂, left, done⟩ := done
  obtain ⟨_, rfl, audit, rfl⟩ := transition_eq_ok transitioned
  cases done
  obtain ⟨audit', rfl⟩ := moveIncident_eq_ok left incidentFound
  exact ⟨⟨by constructor <;> rfl, rfl, rfl, rfl⟩, _, rfl⟩

theorem lockIncident_eq_ok {s : Store} {i : Uuid} {incident : IncidentRow} :
    lockIncident s i = .ok incident ↔ s.incidents[i]? = some incident :=
  found_eq_ok

theorem lockRemediation_eq_ok {s : Store} {id : Uuid} {row : RemediationRow} :
    lockRemediation s id = .ok row ↔ s.remediation.remediations[id]? = some row :=
  found_eq_ok

/-! ## The commands -/

theorem routeProposal_eq_ok {s s' : Store} {now : Time} {id : Uuid} {row : RemediationRow}
    {incident : IncidentRow} {decision : PolicyDecision}
    {decisionRow : RemediationPolicyDecisionRow} {view : RemediationView}
    (done : routeProposal s now id row incident decision decisionRow = .ok (view, s'))
    (incidentFound : s.incidents[row.incidentId]? = some incident) :
    ∃ row' audit, SameProposal row row' ∧ row'.executionAttempts = row.executionAttempts ∧
      ((decision.decision = .deny ∧ row'.status = .policyRejected ∧
        s' = { s with
          incidents := movedIf s.incidents now row.incidentId incident [.rcaReady] .escalated
          remediation := { s.remediation with
            remediations := s.remediation.remediations.set id row' }
          audit := audit }) ∨
      (decision.decision ≠ .deny ∧ row'.status = .awaitingApproval ∧
        s' = { s with
          incidents := movedIf s.incidents now row.incidentId incident [.rcaReady]
            .awaitingApproval
          remediation := { s.remediation with
            remediations := s.remediation.remediations.set id row' }
          audit := audit })) := by
  unfold routeProposal at done
  split_ifs at done with denies
  · simp only [bind_eq_ok, pure_eq_ok] at done
    obtain ⟨⟨moved, s₁⟩, transitioned, s₂, left, done⟩ := done
    obtain ⟨_, rfl, audit, rfl⟩ := transition_eq_ok transitioned
    obtain ⟨audit', rfl⟩ := moveIncident_eq_ok left incidentFound
    cases done
    refine ⟨_, _, ?_, ?_, .inl ⟨denies, ?_, rfl⟩⟩
    · constructor <;> rfl
    · rfl
    · rfl
  · simp only [bind_eq_ok, pure_eq_ok] at done
    obtain ⟨⟨moved, s₁⟩, transitioned, s₂, left, done⟩ := done
    obtain ⟨_, rfl, audit, rfl⟩ := transition_eq_ok transitioned
    obtain ⟨audit', rfl⟩ := moveIncident_eq_ok left incidentFound
    cases done
    refine ⟨_, _, ?_, ?_, .inr ⟨denies, ?_, rfl⟩⟩
    · constructor <;> rfl
    · rfl
    · rfl

/-- What policy permits rests on an RCA, where the action requires one. -/
theorem restsOnRca_of_permitted {env : Env} {now : Time} {s : Store}
    {proposal : RemediationProposal} {incident : IncidentRow} {tier : Option Nat}
    {row : RemediationRow}
    (permits : (evaluate proposal (getEntry proposal.actionId) env.policy
      (policyContext env s now proposal.incidentId incident proposal tier)).decision ≠ .deny)
    (incidentId : row.incidentId = proposal.incidentId)
    (investigationId : row.investigationId = proposal.investigationId)
    (actionId : row.actionId = proposal.actionId)
    (targetService : row.targetService = proposal.targetService.getD "") : RestsOnRca s row := by
  intro entry known requires
  rw [actionId] at known
  rw [known] at permits
  have available := rca_of_permitted permits requires
  simp only [policyContext, Bool.and_eq_true, Option.isSome_iff_exists,
    Option.bind_eq_some_iff] at available
  obtain ⟨⟨report, v, rests, found⟩, completed⟩ := available
  rw [rests] at completed
  rw [incidentId, investigationId]
  refine ⟨v, report, rests, beq_iff_eq.mp completed, found, fun matched => ?_⟩
  have known := target_of_permitted permits
  have component := component_of_permitted permits requires matched
  simp only [policyContext, rests, Option.bind_some, found] at known component
  rw [targetService, ← component]
  cases target : proposal.targetService with
  | none =>
    rw [target] at known
    cases known
  | some service => rfl

/-- More remediations make no attempt one on another service. -/
theorem recentExecutions_le {s s' : Store} {now : Time} {target : String}
    (kept : ∀ (id : Uuid) (row : RemediationRow), s.remediation.remediations[id]? = some row →
      s'.remediation.remediations[id]? = some row)
    (executions : s'.remediation.executions = s.remediation.executions) :
    recentExecutions s now target ≤ recentExecutions s' now target := by
  rw [recentExecutions, recentExecutions, executions]
  refine List.countP_mono_left fun e _ counted => ?_
  simp only [Bool.and_eq_true] at counted ⊢
  refine ⟨counted.1, ?_⟩
  cases found : s.remediation.remediations[e.remediationId]? with
  | none =>
    rw [found] at counted
    exact absurd counted.2 Bool.false_ne_true
  | some row =>
    rw [found] at counted
    rw [kept _ row found]
    exact counted.2

theorem propose_step {env : Env} {now : Time} {c : Command} {s s' : Store}
    {proposal : RemediationProposal} {key : String} {correlationId : Option Uuid}
    {view : RemediationView}
    (origin : ∀ row, Records s row proposal key → ProposedBy c s row)
    (done : propose env now s proposal key correlationId = .ok (view, s')) :
    s' = s ∨ RemediationStep env now c s s' := by
  simp only [propose, bind_eq_ok, lockIncident_eq_ok] at done
  obtain ⟨incident, incidentFound, done⟩ := done
  split at done
  · cases done
    exact .inl rfl
  · rename_i unused
    right
    simp only [bind_eq_ok, ensure_eq_ok] at done
    obtain ⟨_, _, done⟩ := done
    obtain ⟨row, audit, same, attempts, routed⟩ := routeProposal_eq_ok done incidentFound
    have records : Records s row proposal key :=
      ⟨same.incidentId, same.investigationId, same.actionId, same.targetService, unused⟩
    have fresh : ∀ decision, decision.remediationId = s.remediation.remediations.length →
        decision.proposalHash = row.proposalHash → FreshProposal env s now row decision := by
      intro decision remediationId hash
      refine ⟨attempts, same.createdAt, same.policyDecisionId, remediationId, hash, ?_⟩
      rw [same.proposalHash, same.incidentId, same.investigationId, same.actionId,
        same.catalogVersion, same.parameters, same.environment]
      rfl
    have placed : s.incidents[row.incidentId]? = some incident := by
      rw [same.incidentId]
      exact incidentFound
    have tables : ∀ (first : RemediationRow) (decisions : List RemediationPolicyDecisionRow),
        ({ s.remediation with
          remediations := (s.remediation.remediations ++ [first]).set
            s.remediation.remediations.length row
          policyDecisions := decisions } : RemediationTables) =
        { s.remediation with
          remediations := s.remediation.remediations ++ [row]
          policyDecisions := decisions } := by
      simp only [Table.set_new, implies_true]
    rcases routed with ⟨denies, status, rfl⟩ | ⟨permits, status, rfl⟩
    · refine ⟨.rejected incident row _ placed (fresh _ rfl same.proposalHash.symm) status denies
        ?_ (tables _ _) rfl (origin row records), rfl, rfl⟩
      rw [same.incidentId]
      rfl
    · have remediable := remediable_of_permitted permits
      have attempted := attempts_of_permitted permits
      have recent := recent_of_permitted permits
      have rests := restsOnRca_of_permitted permits same.incidentId same.investigationId
        same.actionId same.targetService
      refine ⟨.requested incident row _ placed (fresh _ rfl same.proposalHash.symm) status permits
        remediable ?_ ?_ (tables _ _) rfl (origin row records) ?_ ?_, rfl, rfl⟩
      · rw [same.incidentId]
        refine Nat.lt_of_le_of_lt ?_ attempted
        -- The count is taken with the new row already in the table.
        refine Nat.le_trans (Nat.le_add_right _ _) (Nat.le_of_eq List.countP_append.symm)
      · rw [same.incidentId]
        rfl
      · exact rests.of_investigation rfl
      · rw [same.targetService]
        refine Nat.lt_of_le_of_lt ?_ recent
        exact recentExecutions_le (fun _ _ found => Table.get_insert.mpr (.inl found)) rfl

theorem decideApproval_step {env : Env} {now : Time} {s s' : Store} {id : Uuid}
    {approver : String} {roles : List String} {approve : Bool} {hash : String}
    {decisionId : Uuid} {comment : Option String} {view : RemediationView}
    (done : decideApproval now s id approver roles approve hash decisionId comment =
      .ok (view, s')) :
    s' = s ∨ RemediationStep env now
      (.decideApproval id approver roles approve hash decisionId comment) s s' := by
  simp only [decideApproval, bind_eq_ok, lockRemediation_eq_ok] at done
  obtain ⟨row, found, done⟩ := done
  split at done
  · split_ifs at done <;> cases done <;> exact .inl rfl
  · rename_i undecided
    right
    simp only [bind_eq_ok, ensure_eq_ok, found_eq_ok, lockIncident_eq_ok] at done
    obtain ⟨_, awaiting, _, agreed, decision, decided, _, eligible, _, notSelf, incident,
      incidentFound, done⟩ := done
    have decisionFound : s.remediation.policyDecisions[decisionId]? = some decision := by
      simpa [decisionOf, agreed.2] using decided
    cases approve with
    | true =>
      simp only [if_true, bind_eq_ok, pure_eq_ok] at done
      obtain ⟨⟨moved, s₁⟩, transitioned, s₂, left, done⟩ := done
      obtain ⟨_, rfl, audit, rfl⟩ := transition_eq_ok transitioned
      obtain ⟨audit', rfl⟩ := moveIncident_eq_ok left incidentFound
      cases done
      obtain ⟨role, member⟩ := List.exists_mem_of_ne_nil _ (eligible rfl)
      obtain ⟨held, listed⟩ := List.mem_filter.mp member
      refine ⟨.approved id row _ incident decision _ approver role hash roles decisionId comment
        rfl found incidentFound awaiting undecided agreed decisionFound held (by simpa using listed)
        (by simpa using notSelf) rfl ?_ ?_ ?_ ?_ rfl rfl rfl, rfl, rfl⟩
      · constructor <;> rfl
      · rfl
      · rfl
      · rfl
    | false =>
      simp only [Bool.false_eq_true, if_false, bind_eq_ok, pure_eq_ok] at done
      obtain ⟨⟨moved, s₁⟩, finished, done⟩ := done
      obtain ⟨ended, audit, rfl⟩ := finishCancelled_eq_ok finished incidentFound
      cases done
      refine ⟨.withdrawn id row moved incident [_] .escalated found incidentFound (.inl awaiting)
        (.inl rfl) ?_ (.trans (by constructor <;> rfl) ended.same) ended.status ended.attempts
        ended.verificationRef rfl rfl rfl, rfl, rfl⟩
      simp [humanApproval]

theorem expireApproval_step {env : Env} {now : Time} {c : Command} {s s' : Store} {id : Uuid}
    {expired : Bool} (done : expireApproval env now s id = .ok (expired, s')) :
    s' = s ∨ RemediationStep env now c s s' := by
  simp only [expireApproval, bind_eq_ok, lockRemediation_eq_ok] at done
  obtain ⟨row, found, done⟩ := done
  split_ifs at done with awaiting
  · cases done
    exact .inl rfl
  · right
    simp only [bind_eq_ok, lockIncident_eq_ok, pure_eq_ok] at done
    obtain ⟨incident, incidentFound, ⟨moved, s₁⟩, finished, done⟩ := done
    obtain ⟨ended, audit, rfl⟩ := finishCancelled_eq_ok finished incidentFound
    cases done
    refine ⟨.withdrawn id row moved incident [_] .escalated found incidentFound
      (.inl (not_not.mp awaiting)) (.inl rfl) ?_ (.trans (by constructor <;> rfl) ended.same)
      ended.status ended.attempts ended.verificationRef rfl rfl rfl, rfl, rfl⟩
    simp

theorem cancel_step {env : Env} {now : Time} {c : Command} {s s' : Store} {id : Uuid}
    {actor reason : String} {view : RemediationView}
    (done : cancel now s id actor reason = .ok (view, s')) : RemediationStep env now c s s' := by
  simp only [cancel, bind_eq_ok, lockRemediation_eq_ok, ensure_eq_ok, lockIncident_eq_ok,
    pure_eq_ok] at done
  obtain ⟨row, found, _, status, incident, incidentFound, ⟨moved, s₁⟩, finished, done⟩ := done
  obtain ⟨ended, audit, rfl⟩ := finishCancelled_eq_ok finished incidentFound
  cases done
  have before : row.status = .awaitingApproval ∨ row.status = .approved ∨
      (row.status = .executing ∧ IncidentStatus.rcaReady = .escalated ∧ ClaimedIdle c s id) :=
    status.imp (fun h => h) .inl
  exact ⟨.withdrawn id row moved incident [] .rcaReady found incidentFound before (.inr rfl)
    (by simp) ended.same ended.status ended.attempts ended.verificationRef rfl (by simp)
    rfl, rfl, rfl⟩

/-! ### Execution -/

theorem catalogBlocker_eq_none {env : Env} {row : RemediationRow}
    {entry : Option ActionCatalogEntry} (clear : catalogBlocker env row entry = none) :
    ∃ e, entry = some e ∧ row.catalogVersion = catalogVersion ∧
      (e.validate row.parameters).2 = [] ∧ row.targetService ∈ env.services ∧
      row.executionAttempts < e.maxAttempts := by
  cases entry with
  | none => cases clear
  | some e =>
    simp only [catalogBlocker] at clear
    split_ifs at clear with changed invalid unknown exhausted
    exact ⟨e, rfl, not_not.mp changed, not_not.mp invalid,
      unknown,
      Nat.lt_of_not_le exhausted⟩

theorem executionBlocker_eq_none {env : Env} {s : Store} {id : Uuid} {row : RemediationRow}
    {entry : Option ActionCatalogEntry}
    (clear : executionBlocker env s id row entry = none) :
    globalScope ∉ engagedScopes s ∧ serviceScope row.targetService ∉ engagedScopes s ∧
      approvalBinds s id row = true ∧ catalogBlocker env row entry = none := by
  unfold executionBlocker at clear
  split_ifs at clear with switched unbound
  exact ⟨fun global => switched (.inl global), fun service => switched (.inr service),
    by simpa using unbound, clear⟩

theorem startAttempt_step {env : Env} {now : Time} {s s' : Store} {id : Uuid}
    {row : RemediationRow} {owner : String} {leaseSeconds : Int}
    {ticket : Option ExecutionTicket}
    (done : startAttempt env now s id row owner leaseSeconds = .ok (ticket, s'))
    (found : s.remediation.remediations[id]? = some row)
    (before : row.status = .approved ∨ row.status = .executing)
    (notRunning : ∀ x e, latestExecution s id = some (x, e) → e.status ≠ .running) :
    RemediationStep env now (.claimExecution id owner leaseSeconds) s s' := by
  simp only [startAttempt, bind_eq_ok, lockIncident_eq_ok] at done
  obtain ⟨incident, incidentFound, done⟩ := done
  have idle : ClaimedIdle (.claimExecution id owner leaseSeconds) s id :=
    ⟨⟨owner, leaseSeconds, rfl⟩, notRunning⟩
  split at done
  · split_ifs at done
    · simp only [bind_eq_ok, pure_eq_ok] at done
      obtain ⟨⟨moved, s₁⟩, finished, done⟩ := done
      obtain ⟨ended, audit, rfl⟩ := finishCancelled_eq_ok finished incidentFound
      cases done
      have stopped : row.status = .awaitingApproval ∨ row.status = .approved ∨
          (row.status = .executing ∧ IncidentStatus.escalated = .escalated ∧
            ClaimedIdle (.claimExecution id owner leaseSeconds) s id) :=
        .inr (before.imp (fun h => h) (fun executing => ⟨executing, rfl, idle⟩))
      exact ⟨.withdrawn id row moved incident [] .escalated found incidentFound stopped
        (.inl rfl) (by simp) ended.same ended.status ended.attempts ended.verificationRef rfl
        (by simp [commitRemediation]) rfl, rfl, rfl⟩
    · simp only [bind_eq_ok, pure_eq_ok] at done
      obtain ⟨⟨moved, s₁⟩, finished, done⟩ := done
      obtain ⟨ended, audit, rfl⟩ := finishFailed_eq_ok finished incidentFound
      cases done
      exact ⟨.blocked id row moved incident found incidentFound before idle ended.same ended.status
        ended.attempts ended.verificationRef rfl rfl rfl, rfl, rfl⟩
  · rename_i clear
    simp only [bind_eq_ok, found_eq_ok, pure_eq_ok] at done
    obtain ⟨entry, known, ⟨moved, s₁⟩, transitioned, done⟩ := done
    obtain ⟨_, rfl, audit, rfl⟩ := transition_eq_ok transitioned
    cases done
    refine ⟨.started id row _ owner leaseSeconds entry rfl found before notRunning known clear
      ?_ ?_ ?_ ?_ rfl rfl rfl, rfl, rfl⟩
    · constructor <;> rfl
    · rfl
    · rfl
    · rfl

theorem claimExecution_step {env : Env} {now : Time} {s s' : Store} {id : Uuid}
    {owner : String} {leaseSeconds : Int} {ticket : Option ExecutionTicket}
    (done : claimExecution env now s id owner leaseSeconds = .ok (ticket, s')) :
    s' = s ∨ RemediationStep env now (.claimExecution id owner leaseSeconds) s s' := by
  simp only [claimExecution, bind_eq_ok, lockRemediation_eq_ok] at done
  obtain ⟨row, found, done⟩ := done
  by_cases idle : row.status ≠ .approved ∧ row.status ≠ .executing
  · rw [if_pos idle] at done
    cases done
    exact .inl rfl
  · rw [if_neg idle] at done
    have before : row.status = .approved ∨ row.status = .executing := by tauto
    split at done
    · rename_i x latest last
      by_cases running : latest.status = .running
      · rw [if_pos running] at done
        split_ifs at done
        · cases done
          exact .inl rfl
        · cases done
          right
          refine ⟨.interrupted id row _ x latest _ found before ⟨_, _, rfl⟩ last running ?_ ?_ ?_ ?_ ?_ ?_ ?_ ?_ rfl
            rfl rfl, rfl, rfl⟩
          · rfl
          · rfl
          · rfl
          · rfl
          · constructor <;> rfl
          · rfl
          · rfl
          · rfl
      · rw [if_neg running] at done
        refine .inr (startAttempt_step done found before ?_)
        intro y e last'
        rw [last] at last'
        cases last'
        exact running
    · rename_i last
      refine .inr (startAttempt_step done found before ?_)
      intro y e last'
      rw [last] at last'
      cases last'

theorem buildSpec_pollInterval {policy : VerificationPolicy} {actionId : String}
    {parameters : Dict} {baseline : Option Dict} {timeScale : ℚ} {spec : VerificationSpec}
    (built : buildSpec policy actionId parameters baseline timeScale = .ok spec) :
    0 ≤ spec.pollIntervalSeconds := by
  simp only [buildSpec, bind_eq_ok, pure_eq_ok] at built
  obtain ⟨checks, _, rfl⟩ := built
  exact mul_nonneg (Nat.cast_nonneg _) (le_max_right _ _)

theorem requestVerification_eq_ok {env : Env} {s s' : Store} {now : Time} {id : Uuid}
    {row row' : RemediationRow} {entry : Option ActionCatalogEntry}
    (done : requestVerification env s now id row entry = .ok (row', s')) :
    row' = { row with verificationRef := some s.verification.verifications.length } ∧
    ∃ v links audit, FreshVerification id row v ∧ v.baseline = baselineOf s id ∧
      s' = { s with
        verification := { s.verification with
          verifications := s.verification.verifications ++ [v]
          evidence := s.verification.evidence ++ links }
        audit := audit } := by
  simp only [requestVerification, bind_eq_ok, pure_eq_ok] at done
  obtain ⟨spec, built, s₁, inserted, done⟩ := done
  cases insertVerificationEvidence_eq_ok inserted
  cases done
  exact ⟨rfl, _, _, _, ⟨rfl, rfl, rfl, rfl, rfl, rfl, rfl, rfl, buildSpec_pollInterval built⟩, rfl,
    rfl⟩

theorem completeExecution_step {env : Env} {now : Time} {s s' : Store} {x : Uuid}
    {owner : String} {outcome : AttemptOutcome} {executor : String} {result : Option Dict}
    {error : Option String} {retryable : Bool} {view : RemediationView}
    (done : completeExecution env now s x owner outcome executor result error retryable =
      .ok (view, s')) :
    s' = s ∨ RemediationStep env now
      (.completeExecution x owner outcome executor result error retryable) s s' := by
  simp only [completeExecution, bind_eq_ok, found_eq_ok, lockRemediation_eq_ok] at done
  obtain ⟨e, execution, row, found, done⟩ := done
  by_cases executing : row.status ≠ .executing
  · rw [if_pos executing] at done
    cases done
    exact .inl rfl
  rw [if_neg executing] at done
  replace executing := not_not.mp executing
  simp only [bind_eq_ok, ensure_eq_ok] at done
  obtain ⟨_, _, done⟩ := done
  by_cases finished : e.status ≠ .running ∧ e.status ≠ .unknown
  · rw [if_pos finished] at done
    cases done
    exact .inl rfl
  rw [if_neg finished] at done
  right
  have unsettled : isUnsettled e = true := by
    simp only [isUnsettled, Bool.or_eq_true, beq_iff_eq]
    tauto
  have settled : isUnsettled (e.settled now outcome executor result error) = false := by
    cases outcome <;> rfl
  simp only [bind_eq_ok, lockIncident_eq_ok] at done
  obtain ⟨incident, incidentFound, done⟩ := done
  by_cases succeeded : outcome = .succeeded
  · rw [if_pos succeeded] at done
    simp only [recordSuccess, bind_eq_ok, pure_eq_ok] at done
    obtain ⟨⟨moved, s₁⟩, transitioned, ⟨verified, s₂⟩, requested, s₃, left, done⟩ := done
    obtain ⟨_, rfl, audit, rfl⟩ := transition_eq_ok transitioned
    obtain ⟨rfl, v, links, audit', fresh, baseline, rfl⟩ := requestVerification_eq_ok requested
    obtain ⟨audit'', rfl⟩ := moveIncident_eq_ok left incidentFound
    cases done
    refine ⟨.executed x e _ row _ incident v links owner outcome executor result error retryable
      rfl execution found incidentFound executing unsettled settled ?_ ?_ ?_ ?_ ?_ ?_ ?_ ?_
      rfl rfl rfl baseline, rfl, rfl⟩
    · rfl
    · rfl
    · rfl
    · constructor <;> rfl
    · rfl
    · rfl
    · rfl
    · exact ⟨fresh.incidentId, fresh.remediationId, fresh.status, fresh.observationCount,
        fresh.conclusiveCount, fresh.consecutiveSuccesses, fresh.claimAttempt,
        fresh.leaseOwner, fresh.pollInterval⟩
  · rw [if_neg succeeded] at done
    simp only [recordFailure] at done
    split_ifs at done
    · cases done
      refine ⟨.retriable x e _ row _ owner outcome executor result error retryable rfl execution
        found executing unsettled settled ?_ ?_ ?_ ?_ ?_ ?_ ?_ rfl rfl rfl, rfl, rfl⟩
      · rfl
      · rfl
      · rfl
      · constructor <;> rfl
      · exact executing
      · rfl
      · rfl
    · simp only [bind_eq_ok, pure_eq_ok] at done
      obtain ⟨⟨moved, s₁⟩, failed, done⟩ := done
      obtain ⟨ended, audit, rfl⟩ := finishFailed_eq_ok failed incidentFound
      cases done
      refine ⟨.attemptFailed x e _ row moved incident owner outcome executor result error
        retryable rfl execution found incidentFound executing unsettled settled ?_ ?_ ?_
        (.trans (by constructor <;> rfl) ended.same) ended.status ended.attempts
        ended.verificationRef rfl rfl rfl, rfl, rfl⟩
      · rfl
      · rfl
      · rfl

theorem recordBaseline_step {env : Env} {now : Time} {s s' : Store} {id : Uuid}
    {owner : String} {values : Dict} {evidenceIds : List Uuid} {u : Unit}
    (done : recordBaseline now s id owner values evidenceIds = .ok (u, s')) :
    s' = s ∨ RemediationStep env now (.recordBaseline id owner values evidenceIds) s s' := by
  simp only [recordBaseline, bind_eq_ok, ensure_eq_ok, lockRemediation_eq_ok] at done
  obtain ⟨row, found, _, held, done⟩ := done
  split_ifs at done with captured
  · cases done
    exact .inl rfl
  · cases done
    refine .inr ⟨.configured _ _ rfl rfl rfl (.inr ?_), rfl, rfl⟩
    exact ⟨id, row, owner, values, evidenceIds, rfl, found, held.1, held.2,
      Option.not_isSome_iff_eq_none.mp captured, rfl⟩

theorem setKillSwitch_step {env : Env} {now : Time} {c : Command} {s s' : Store}
    {scope : String} {engaged : Bool} {actor : String} {reason : Option String} {u : Unit}
    (done : setKillSwitch env now s scope engaged actor reason = .ok (u, s')) :
    RemediationStep env now c s s' := by
  simp only [setKillSwitch, bind_eq_ok, ensure_eq_ok, pure_eq_ok] at done
  obtain ⟨_, _, done⟩ := done
  cases done
  exact ⟨.configured _ _ rfl rfl rfl (.inl rfl), rfl, rfl⟩

end IncidentTriage.Verified
