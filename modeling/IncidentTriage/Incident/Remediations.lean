import IncidentTriage.Incident.Repository

/-! # Remediation commands

The only writer of remediations, policy decisions, approvals, executions, the
remediation timeline and kill switches.  Every command is one transaction.  The
remediation a command works on is a local value, as the mapped object is in the
source, and is written with the commit (`commitRemediation`); the helpers in
between write the incident, the timeline and the outbox.
-/

namespace IncidentTriage.Incident

open IncidentTriage.Python IncidentTriage.Domain IncidentTriage.Remediation
open IncidentTriage.PolicyEngine (proposalTier evaluate)

def globalScope : String := "global"

def serviceScope (service : String) : String := "service:" ++ service

/-! ## Locks and views -/

def lockRemediation (s : Store) (id : Uuid) : Except DomainError RemediationRow :=
  found s.remediation.remediations[id]? (.remediationNotFound (uuidStr id))

def lockIncident (s : Store) (id : Uuid) : Except DomainError IncidentRow :=
  found s.incidents[id]? (.incidentNotFound (uuidStr id))

/-- The policy decision a remediation points at. -/
def decisionOf (s : Store) (row : RemediationRow) : Option RemediationPolicyDecisionRow :=
  row.policyDecisionId.bind (fun id => s.remediation.policyDecisions[id]?)

/-- A remediation as it is returned: its row, its id, and what policy decided. -/
structure RemediationView where
  id : Uuid
  row : RemediationRow
  policyDecision : Option PolicyVerdict

def viewRemediation (s : Store) (id : Uuid) (row : RemediationRow) : RemediationView :=
  { id, row, policyDecision := (decisionOf s row).map (·.decision) }

/-- The row is written, and returned as a view. -/
def commitRemediation (s : Store) (id : Uuid) (row : RemediationRow) :
    RemediationView × Store :=
  let s := { s with remediation := { s.remediation with
    remediations := s.remediation.remediations.set id row } }
  (viewRemediation s id row, s)

/-! ## Timeline, events and transitions -/

def insertTimeline (s : Store) (now : Time) (id : Uuid) (row : RemediationRow) (event : String)
    (fromStatus toStatus : Option RemediationStatus) (actor : String)
    (policyVersion : Option String) : Store :=
  let sequences := (s.audit.timeline.filter (fun t => t.remediationId == id)).map (·.sequence)
  let version := match policyVersion with
    | some version => some version
    | none => (decisionOf s row).map (·.policyVersion)
  { s with audit := { s.audit with
      timeline := s.audit.timeline ++
        [{ remediationId := id
           sequence := sequences.foldl max 0 + 1
           event
           fromStatus
           toStatus
           actor
           correlationId := row.correlationId
           actionId := row.actionId
           catalogVersion := row.catalogVersion
           policyVersion := version
           occurredAt := now }] } }

def remediationEvent (s : Store) (now : Time) (id : Uuid) (row : RemediationRow)
    (eventType actor : String) (decision : Option RemediationPolicyDecisionRow := none) :
    Store :=
  let decision := match decision with
    | some decision => some decision
    | none => decisionOf s row
  insertOutboxEvent s now .remediation id (some row.correlationId)
    (.remediation eventType id row.incidentId row.actionId row.catalogVersion row.status
      row.proposalHash actor (decision.map (·.policyVersion)) (decision.map (·.decision))
      row.failureReason)

/-- Move the remediation along an allowed transition, with its timeline entry. -/
def transition (s : Store) (now : Time) (id : Uuid) (row : RemediationRow)
    (toStatus : RemediationStatus) (event actor : String)
    (policyVersion : Option String := none) : Except DomainError (RemediationRow × Store) := do
  ensure (canTransition row.status toStatus)
    (.remediationState (row.status.value ++ " -> " ++ toStatus.value ++ " is not allowed"))
  let moved := { row with status := toStatus, version := row.version + 1, updatedAt := now }
  pure (moved, insertTimeline s now id moved event (some row.status) (some toStatus) actor
    policyVersion)

/-- Move the incident only along the edges this service owns; an incident that is
elsewhere is left alone. -/
def moveIncident (s : Store) (now : Time) (incidentId : Uuid) (incident : IncidentRow)
    (fromStatuses : List IncidentStatus) (toStatus : IncidentStatus) (reason : String) :
    Except DomainError Store :=
  if incident.status ∈ fromStatuses then do
    let (moved, s) ← found (transitionIncidentStatus s now incidentId incident toStatus false)
      (.concurrentModification ("incident " ++ uuidStr incidentId ++ " changed concurrently"))
    pure (insertOutboxEvent s now .incident incidentId (some incidentId)
      (.incidentStatusChanged incidentId incident.status moved.status reason moved.version))
  else pure s

def finishFailed (s : Store) (now : Time) (id : Uuid) (row : RemediationRow)
    (incident : IncidentRow) (code text actor : String) :
    Except DomainError (RemediationRow × Store) := do
  let row := { row with
    failureReason := some (truncate (code ++ ": " ++ text) 2000)
    leaseOwner := none
    leaseExpiresAt := none
    completedAt := some now }
  let (row, s) ← transition s now id row .failed "failed" actor
  let s := remediationEvent s now id row "RemediationFailed" actor
  let s ← moveIncident s now row.incidentId incident [.remediationInProgress, .awaitingApproval]
    .escalated ("remediation_failed:" ++ code)
  pure (row, s)

def finishCancelled (s : Store) (now : Time) (id : Uuid) (row : RemediationRow)
    (incident : IncidentRow) (event actor reason : String) (incidentTo : IncidentStatus)
    (eventType : String := "RemediationCancelled")
    (decision : Option RemediationPolicyDecisionRow := none) :
    Except DomainError (RemediationRow × Store) := do
  let row := { row with
    failureReason := some (truncate reason 2000)
    leaseOwner := none
    leaseExpiresAt := none
    completedAt := some now }
  let (row, s) ← transition s now id row .cancelled event actor
  let s := remediationEvent s now id row eventType actor decision
  let s ← moveIncident s now row.incidentId incident [.awaitingApproval, .remediationInProgress]
    incidentTo ("remediation_" ++ event)
  pure (row, s)

/-! ## Proposal and policy -/

def engagedScopes (s : Store) : List String :=
  (s.remediation.killSwitches.filter (·.engaged)).map (·.scope)

/-- The investigation a proposal rests on: the named one, or the incident's latest. -/
def rcaInvestigation (s : Store) (incidentId : Uuid) (investigationId : Option Uuid) :
    Option (Uuid × InvestigationRow) :=
  match investigationId with
  | some id =>
    match s.investigation.investigations[id]? with
    | some row => if row.incidentId = incidentId then some (id, row) else none
    | none => none
  | none =>
    Table.latest (·.attemptNumber) (fun v => v.incidentId == incidentId)
      s.investigation.investigations

def isAttempted (r : RemediationRow) : Bool := attemptedRemediationStatuses.contains r.status

def attemptedRemediations (s : Store) (incidentId : Uuid) : Nat :=
  s.remediation.remediations.countP (fun r => r.incidentId == incidentId && isAttempted r)

def recentExecutions (s : Store) (now : Time) (target : String) : Nat :=
  s.remediation.executions.countP (fun e => decide (now - 3600 * 1000000 ≤ e.startedAt) &&
    (match s.remediation.remediations[e.remediationId]? with
      | some r => r.targetService == target
      | none => false))

/-- Every fact policy may use, read here and nowhere else. -/
def policyContext (env : Env) (s : Store) (now : Time) (incidentId : Uuid)
    (incident : IncidentRow) (proposal : RemediationProposal) (tier : Option Nat) :
    PolicyEvaluationContext :=
  let investigation := rcaInvestigation s incidentId proposal.investigationId
  let rca := investigation.bind (fun v =>
    s.investigation.rcaReports.find? (fun r => r.investigationId == v.1))
  let target := proposal.targetService
  let switches := engagedScopes s
  let known := fun (services : List String) =>
    match target with
    | some t => !t.isEmpty && services.contains t
    | none => false
  { capturedAt := now
    incidentId
    incidentEnvironment := incident.environment
    incidentSeverity := incident.severity
    incidentService := incident.service
    incidentStatus := incident.status
    rcaAvailable := rca.isSome &&
      (match investigation with
        | some v => v.2.status == .completed
        | none => false)
    rcaCauseCategory := (rca.bind (·.report.causeCategory)).map (·.value)
    rcaComponent := rca.bind (·.report.component)
    targetService := target
    targetKnown := known env.services
    targetInIncidentScope := known (env.neighborhood incident.service)
    actionBlastRadiusTier := tier
    attemptedRemediationsThisIncident := attemptedRemediations s incidentId
    remediationExecutionsLastHourForTarget := recentExecutions s now (target.getD "")
    globalKillSwitchEngaged := switches.contains globalScope
    serviceKillSwitchEngaged :=
      match target with
      | some t => !t.isEmpty && switches.contains (serviceScope t)
      | none => false
    proposalSource := proposal.source }

def newRemediation (env : Env) (now : Time) (incident : IncidentRow)
    (proposal : RemediationProposal) (idempotencyKey : String) (correlationId : Option Uuid) :
    RemediationRow :=
  { incidentId := proposal.incidentId
    investigationId := proposal.investigationId
    idempotencyKey
    actionId := proposal.actionId
    catalogVersion := catalogVersion
    parameters := proposal.parameters
    targetService := proposal.targetService.getD ""
    environment := incident.environment
    reason := proposal.reason
    expectedEffect := proposal.expectedEffect
    blastRadiusTier := proposalTier proposal (getEntry proposal.actionId)
    proposalHash := proposalHash env.sha256 proposal.incidentId proposal.investigationId
      proposal.actionId catalogVersion proposal.parameters incident.environment
    source := proposal.source
    proposedBy := proposal.proposedBy
    status := .proposed
    policyDecisionId := none
    approvalStatus := none
    executionStatus := none
    executionAttempts := 0
    executorResult := none
    failureReason := none
    verificationRef := none
    leaseOwner := none
    leaseExpiresAt := none
    correlationId := correlationId.getD proposal.incidentId
    version := 1
    createdAt := now
    updatedAt := now
    completedAt := none }

def newPolicyDecision (now : Time) (id : Uuid) (row : RemediationRow) (decision : PolicyDecision)
    (context : PolicyEvaluationContext) : RemediationPolicyDecisionRow :=
  { remediationId := id
    proposalHash := row.proposalHash
    policyVersion := decision.policyVersion
    catalogVersion := decision.catalogVersion
    decision := decision.decision
    blastRadiusTier := decision.blastRadiusTier
    requiredApproverRoles := decision.requiredApproverRoles
    rules := decision.rules
    reasons := decision.reasons
    policyContext := context
    evaluatedAt := now }

/-- Store the decision, and point the remediation at it. -/
def recordDecision (s : Store) (now : Time) (id : Uuid) (row : RemediationRow)
    (decision : PolicyDecision) (context : PolicyEvaluationContext) :
    RemediationPolicyDecisionRow × RemediationRow × Store :=
  let decisionRow := newPolicyDecision now id row decision context
  let row := { row with policyDecisionId := some s.remediation.policyDecisions.length }
  let s := { s with remediation := { s.remediation with
    policyDecisions := s.remediation.policyDecisions ++ [decisionRow] } }
  let s := insertTimeline s now id row "policy_evaluated" (some .proposed) (some .proposed)
    "policy-engine" (some decision.policyVersion)
  (decisionRow, row,
    remediationEvent s now id row "RemediationPolicyEvaluated" "policy-engine"
      (some decisionRow))

/-- Route an evaluated proposal: rejected, or awaiting a human.  `ALLOW` is treated
exactly like `REQUIRE_APPROVAL`. -/
def routeProposal (s : Store) (now : Time) (id : Uuid) (row : RemediationRow)
    (incident : IncidentRow) (decision : PolicyDecision)
    (decisionRow : RemediationPolicyDecisionRow) :
    Except DomainError (RemediationView × Store) :=
  if decision.decision = .deny then do
    let (row, s) ← transition s now id row .policyRejected "policy_rejected" "policy-engine"
      (some decision.policyVersion)
    let row := { row with
      failureReason := some (truncate ("; ".intercalate decision.reasons) 2000)
      completedAt := some now }
    let s := remediationEvent s now id row "RemediationFailed" "policy-engine" (some decisionRow)
    let s ← moveIncident s now row.incidentId incident [.rcaReady] .escalated
      "remediation_policy_rejected"
    pure (commitRemediation s id row)
  else do
    let (row, s) ← transition s now id row .awaitingApproval "approval_requested"
      "policy-engine" (some decision.policyVersion)
    let row := { row with approvalStatus := some "pending" }
    let s := remediationEvent s now id row "RemediationApprovalRequested" "policy-engine"
      (some decisionRow)
    let s ← moveIncident s now row.incidentId incident [.rcaReady] .awaitingApproval
      "remediation_awaiting_approval"
    pure (commitRemediation s id row)

/-- Record a proposal, evaluate policy on it, and route it.  Idempotent per incident
and idempotency key. -/
def propose (env : Env) (now : Time) (s : Store) (proposal : RemediationProposal)
    (idempotencyKey : String) (correlationId : Option Uuid) :
    Except DomainError (RemediationView × Store) := do
  let incident ← lockIncident s proposal.incidentId
  match Table.first (fun r => r.incidentId == proposal.incidentId &&
      r.idempotencyKey == idempotencyKey) s.remediation.remediations with
  | some (id, existing) => pure (viewRemediation s id existing, s)
  | none => do
    ensure (proposal.investigationId.all
        (fun id => decide (id < s.investigation.investigations.length)))
      (.integrity "remediations_investigation_id_fkey")
    let id := s.remediation.remediations.length
    let row := newRemediation env now incident proposal idempotencyKey correlationId
    let s := { s with remediation := { s.remediation with
      remediations := s.remediation.remediations ++ [row] } }
    let actor := proposal.source.value ++ ":" ++ proposal.proposedBy
    let s := insertTimeline s now id row "proposed" none (some .proposed) actor none
    let s := remediationEvent s now id row "RemediationProposed" actor
    let context := policyContext env s now proposal.incidentId incident proposal
      row.blastRadiusTier
    let decision := evaluate proposal (getEntry proposal.actionId) env.policy context
    let (decisionRow, row, s) := recordDecision s now id row decision context
    routeProposal s now id row incident decision decisionRow

/-! ## Approval -/

def approvalOf (s : Store) (id : Uuid) : Option RemediationApprovalRow :=
  s.remediation.approvals.find? (fun a => a.remediationId == id)

def insertApproval (s : Store) (approval : RemediationApprovalRow) : Store :=
  { s with remediation := { s.remediation with
      approvals := s.remediation.approvals ++ [approval] } }

def listText (items : List String) : String := (Json.list (items.map .str)).repr

/-- The approval row of a human's decision. -/
def humanApproval (now : Time) (id : Uuid) (row : RemediationRow) (approve : Bool)
    (approver : String) (eligible : List String) (comment : Option String) :
    RemediationApprovalRow :=
  { remediationId := id
    policyDecisionId := row.policyDecisionId
    proposalHash := row.proposalHash
    decision := if approve then .approved else .rejected
    approver
    approverRole := eligible.head?
    comment
    decidedAt := now }

/-- A human's decision, bound to the exact proposal and policy decision the human
saw.  A duplicate of the same decision is idempotent, a different one is refused. -/
def decideApproval (now : Time) (s : Store) (id : Uuid) (approver : String)
    (approverRoles : List String) (approve : Bool) (proposalHash : String)
    (policyDecisionId : Uuid) (comment : Option String) :
    Except DomainError (RemediationView × Store) := do
  let row ← lockRemediation s id
  let wanted : ApprovalDecision := if approve then .approved else .rejected
  match approvalOf s id with
  | some existing =>
    if existing.approver = approver ∧ existing.decision = wanted ∧
        existing.proposalHash = proposalHash then
      pure (viewRemediation s id row, s)
    else
      .error (.remediationState ("remediation " ++ uuidStr id ++ " already has a decision (" ++
        existing.decision.value ++ ")"))
  | none => do
    ensure (row.status = .awaitingApproval)
      (.remediationState ("remediation " ++ uuidStr id ++ " is " ++ row.status.value ++
        ", not awaiting approval"))
    ensure (proposalHash = row.proposalHash ∧ row.policyDecisionId = some policyDecisionId)
      (.approvalMismatch ("the approval does not match the current proposal and policy " ++
        "decision; review the current proposal and approve that"))
    let decision ← found (decisionOf s row) .assertion
    let eligible := approverRoles.filter (fun r => decision.requiredApproverRoles.contains r)
    ensure (approve = true → eligible ≠ [])
      (.approverNotAuthorized (approver ++ " holds " ++ listText (sortedStrings approverRoles) ++
        "; this remediation needs one of " ++ listText decision.requiredApproverRoles))
    ensure (¬ (approve = true ∧ row.source = .operator ∧ row.proposedBy = approver))
      (.approverNotAuthorized "a proposer cannot approve their own proposal")
    let s := insertApproval s (humanApproval now id row approve approver eligible comment)
    let incident ← lockIncident s row.incidentId
    let actor := "human:" ++ approver
    if approve then do
      let row := { row with approvalStatus := some "approved" }
      let (row, s) ← transition s now id row .approved "approved" actor
        (some decision.policyVersion)
      let s := remediationEvent s now id row "RemediationApproved" actor (some decision)
      let s ← moveIncident s now row.incidentId incident [.awaitingApproval]
        .remediationInProgress "remediation_approved"
      pure (commitRemediation s id row)
    else do
      let row := { row with approvalStatus := some "rejected" }
      let note := match comment with
        | some text => if text.isEmpty then "" else ": " ++ text
        | none => ""
      let (row, s) ← finishCancelled s now id row incident "rejected" actor
        ("approval rejected by " ++ approver ++ note) .escalated "RemediationRejected"
        (some decision)
      pure (commitRemediation s id row)

/-- One remediation past its approval timeout: cancelled, the incident escalated.
`false` when it is no longer awaiting approval. -/
def expireApproval (env : Env) (now : Time) (s : Store) (id : Uuid) :
    Except DomainError (Bool × Store) := do
  let row ← lockRemediation s id
  if row.status ≠ .awaitingApproval then pure (false, s)
  else do
    let s := insertApproval s
      { remediationId := id
        policyDecisionId := row.policyDecisionId
        proposalHash := row.proposalHash
        decision := .timedOut
        approver := "system:approval-timeout"
        approverRole := none
        comment := none
        decidedAt := now }
    let row := { row with approvalStatus := some "timed_out" }
    let incident ← lockIncident s row.incidentId
    let (row, s) ← finishCancelled s now id row incident "approval_timed_out"
      "system:approval-timeout" ("no approval within " ++ timedeltaStr env.approvalTimeout)
      .escalated
    pure (true, (commitRemediation s id row).2)

/-- One transaction per remediation; the first error ends the sweep. -/
def expireEach (env : Env) (now : Time) : List Uuid → Store → Except DomainError (List Uuid) × Store
  | [], s => (.ok [], s)
  | id :: ids, s =>
    match expireApproval env now s id with
    | .error e => (.error e, s)
    | .ok (done, s) =>
      let (rest, s) := expireEach env now ids s
      (rest.map (fun expired => if done then id :: expired else expired), s)

/-- `AWAITING_APPROVAL` past the timeout: silence is never consent. -/
def expireApprovals (env : Env) (now : Time) (s : Store) :
    Except DomainError (List Uuid) × Store :=
  let cutoff := now - env.approvalTimeout
  let ids := (Table.select (fun r => r.status == .awaitingApproval &&
    decide (r.updatedAt < cutoff)) s.remediation.remediations).map (·.1)
  expireEach env now ids s

/-- Withdraw a remediation that has not started executing; the incident goes back to
`RCA_READY`. -/
def cancel (now : Time) (s : Store) (id : Uuid) (actor reason : String) :
    Except DomainError (RemediationView × Store) := do
  let row ← lockRemediation s id
  ensure (row.status = .awaitingApproval ∨ row.status = .approved)
    (.remediationState ("cannot cancel a remediation that is " ++ row.status.value))
  let incident ← lockIncident s row.incidentId
  let (row, s) ← finishCancelled s now id row incident "cancelled" actor reason .rcaReady
  pure (commitRemediation s id row)

/-- A changed proposal is a new proposal: the old one is cancelled in a transaction
of its own, then the new one is proposed. -/
def revise (env : Env) (now : Time) (s : Store) (id : Uuid) (parameters : Dict)
    (proposedBy : String) (reason : Option String) (idempotencyKey : String) :
    Except DomainError RemediationView × Store :=
  match lockRemediation s id with
  | .error e => (.error e, s)
  | .ok old =>
    match cancel now s id ("operator:" ++ proposedBy) "superseded by revision" with
    | .error e => (.error e, s)
    | .ok (_, s) =>
      let proposal : RemediationProposal :=
        { incidentId := old.incidentId
          investigationId := old.investigationId
          actionId := old.actionId
          parameters
          reason := if hasReason reason then reason.getD old.reason else old.reason
          expectedEffect := old.expectedEffect
          source := .operator
          proposedBy }
      if proposal.Valid then
        match propose env now s proposal idempotencyKey (some old.correlationId) with
        | .error e => (.error e, s)
        | .ok (view, s) => (.ok view, s)
      else (.error (.validation "RemediationProposal"), s)
where
  /-- `bool(reason)`. -/
  hasReason (reason : Option String) : Bool :=
    match reason with
    | some text => !text.isEmpty
    | none => false

/-! ## Execution -/

inductive TicketMode where
  | execute
  /-- A previous worker died mid-call: ask the executor what happened first. -/
  | reconcile
  deriving DecidableEq

/-- What a runner needs to act on one attempt; the action, its parameters, target and
environment are those of the remediation it carries. -/
structure ExecutionTicket where
  mode : TicketMode
  remediation : RemediationView
  executionId : Uuid
  attempt : Nat
  idempotencyKey : String
  deadline : Time

def executionTicket (s : Store) (id : Uuid) (row : RemediationRow) (executionId : Uuid)
    (execution : RemediationExecutionRow) (mode : TicketMode) : ExecutionTicket :=
  { mode
    remediation := viewRemediation s id row
    executionId
    attempt := execution.attemptNumber
    idempotencyKey := execution.idempotencyKey
    deadline := execution.deadlineAt }

def latestExecution (s : Store) (id : Uuid) : Option (Uuid × RemediationExecutionRow) :=
  Table.latest (·.attemptNumber) (fun e => e.remediationId == id) s.remediation.executions

def putExecution (s : Store) (id : Uuid) (row : RemediationExecutionRow) : Store :=
  { s with remediation := { s.remediation with
      executions := s.remediation.executions.set id row } }

/-- What must hold of the approval of a remediation at execution time. -/
def approvalBinds (s : Store) (id : Uuid) (row : RemediationRow) : Bool :=
  match approvalOf s id with
  | some a => a.decision == .approved && a.proposalHash == row.proposalHash &&
      a.policyDecisionId == row.policyDecisionId
  | none => false

/-- What the catalog, the parameters, the target or the attempt limit hold against
another attempt. -/
def catalogBlocker (env : Env) (row : RemediationRow) :
    Option ActionCatalogEntry → Option (String × String)
  | none => some (changed row)
  | some entry =>
    if row.catalogVersion ≠ catalogVersion then some (changed row)
    else if (entry.validate row.parameters).2 ≠ [] then
      some ("invalid_parameters", "; ".intercalate (entry.validate row.parameters).2)
    else if row.targetService ∉ env.services then
      some ("target_invalid", "target " ++ row.targetService ++ " is no longer a known service")
    else if entry.maxAttempts ≤ row.executionAttempts then
      some ("attempts_exhausted", toString row.executionAttempts ++ " attempt(s) already made")
    else none
where
  changed (row : RemediationRow) : String × String :=
    ("catalog_changed", "catalog entry " ++ row.actionId ++ " (" ++ row.catalogVersion ++
      ") is no longer current")

/-- Why an attempt may not start now, as a code and a text. -/
def executionBlocker (env : Env) (s : Store) (id : Uuid) (row : RemediationRow)
    (entry : Option ActionCatalogEntry) : Option (String × String) :=
  if globalScope ∈ engagedScopes s ∨ serviceScope row.targetService ∈ engagedScopes s then
    some ("kill_switch", "remediation kill switch engaged before execution")
  else if approvalBinds s id row = false then
    some ("approval_invalid", "no approval bound to this exact proposal")
  else catalogBlocker env row entry

def newExecution (now : Time) (id : Uuid) (attempt : Nat) (owner : String)
    (timeoutSeconds : Nat) : RemediationExecutionRow :=
  { remediationId := id
    attemptNumber := attempt
    idempotencyKey := uuidStr id ++ ":" ++ toString attempt
    status := .running
    executor := "pending"
    owner
    startedAt := now
    deadlineAt := now + timeoutSeconds * 1000000
    completedAt := none
    result := none
    error := none }

/-- The attempt of a worker that died mid-call: what happened is unknown, and the
caller is to reconcile it. -/
def interruptAttempt (now : Time) (s : Store) (id : Uuid) (row : RemediationRow)
    (executionId : Uuid) (latest : RemediationExecutionRow) (owner : String)
    (leaseSeconds : Int) : Option ExecutionTicket × Store :=
  let latest := { latest with
    status := .unknown
    error := some ("worker " ++ latest.owner ++ " lost its lease mid-execution")
    completedAt := some now }
  let moved := { row with
    executionStatus := some .unknown
    leaseOwner := some owner
    leaseExpiresAt := some (now + leaseSeconds * 1000000) }
  let s := putExecution s executionId latest
  let s := insertTimeline s now id moved "execution_interrupted" (some row.status)
    (some row.status) ("worker:" ++ owner) none
  let s := (commitRemediation s id moved).2
  (some (executionTicket s id moved executionId latest .reconcile), s)

/-- A new attempt, after the checks at execution time. -/
def startAttempt (env : Env) (now : Time) (s : Store) (id : Uuid) (row : RemediationRow)
    (owner : String) (leaseSeconds : Int) :
    Except DomainError (Option ExecutionTicket × Store) := do
  let incident ← lockIncident s row.incidentId
  let entry := getEntry row.actionId
  match executionBlocker env s id row entry with
  | some (code, text) =>
    if code = "kill_switch" then
      let (row, s) ← finishCancelled s now id row incident "cancelled" "system:kill-switch" text
        .escalated
      pure (none, (commitRemediation s id row).2)
    else
      let (row, s) ← finishFailed s now id row incident code text "system:pre-execution"
      pure (none, (commitRemediation s id row).2)
  | none => do
    let entry ← found entry .assertion
    let attempt := row.executionAttempts + 1
    let execution := newExecution now id attempt owner entry.timeoutSeconds
    let executionId := s.remediation.executions.length
    let s := { s with remediation := { s.remediation with
      executions := s.remediation.executions ++ [execution] } }
    let row := { row with
      executionAttempts := attempt
      executionStatus := some .running
      leaseOwner := some owner
      leaseExpiresAt := some (now + max leaseSeconds (entry.timeoutSeconds + 30) * 1000000) }
    let (row, s) ← transition s now id row .executing "execution_started" ("worker:" ++ owner)
    let s := remediationEvent s now id row "RemediationStarted" ("worker:" ++ owner)
    let s := (commitRemediation s id row).2
    pure (some (executionTicket s id row executionId execution .execute), s)

/-- Start, or recover, one execution attempt.  `none` if there is nothing to do or
another worker holds it. -/
def claimExecution (env : Env) (now : Time) (s : Store) (id : Uuid) (owner : String)
    (leaseSeconds : Int) : Except DomainError (Option ExecutionTicket × Store) := do
  let row ← lockRemediation s id
  if row.status ≠ .approved ∧ row.status ≠ .executing then pure (none, s)
  else
    match latestExecution s id with
    | some (executionId, latest) =>
      if latest.status = .running then
        if leaseLive now row.leaseExpiresAt then pure (none, s)
        else pure (interruptAttempt now s id row executionId latest owner leaseSeconds)
      else startAttempt env now s id row owner leaseSeconds
    | none => startAttempt env now s id row owner leaseSeconds

inductive AttemptOutcome where
  | succeeded | failed | timedOut
  deriving DecidableEq

def AttemptOutcome.value : AttemptOutcome → String
  | .succeeded => "succeeded"
  | .failed => "failed"
  | .timedOut => "timed_out"

def AttemptOutcome.executionStatus : AttemptOutcome → ExecutionStatus
  | .succeeded => .succeeded
  | .failed => .failed
  | .timedOut => .timedOut

def baselineOf (s : Store) (id : Uuid) : Option RemediationBaselineRow :=
  s.remediation.baselines.find? (fun b => b.remediationId == id)

def newVerification (now : Time) (id : Uuid) (row : RemediationRow)
    (baseline : Option RemediationBaselineRow) (spec : VerificationSpec) : VerificationRow :=
  { incidentId := row.incidentId
    remediationId := id
    verificationType := row.actionId
    policyVersion := spec.policyVersion
    spec
    baseline
    status := .pending
    consecutiveSuccesses := 0
    observationCount := 0
    conclusiveCount := 0
    knownAlertIds := none
    graceUntil := none
    deadlineAt := none
    nextPollAt := none
    leaseOwner := none
    leaseExpiresAt := none
    claimAttempt := 0
    result := none
    failureReason := none
    nextAction := none
    correlationId := row.correlationId
    startedAt := none
    completedAt := none
    createdAt := now
    updatedAt := now }

/-- Create the verification in the transaction that records the execution. -/
def requestVerification (env : Env) (s : Store) (now : Time) (id : Uuid) (row : RemediationRow)
    (entry : Option ActionCatalogEntry) : Except DomainError (RemediationRow × Store) := do
  let verificationId := s.verification.verifications.length
  let row := { row with verificationRef := some verificationId }
  let baseline := baselineOf s id
  let policy := match entry with
    | some entry => entry.verification
    | none => ⟨0, 0, 1, 1, false, []⟩
  let spec ← buildSpec policy row.actionId row.parameters (baseline.map (·.values))
    env.verificationTimeScale
  let s := { s with verification := { s.verification with
    verifications := s.verification.verifications ++
      [newVerification now id row baseline spec] } }
  let s ← insertVerificationEvidence s (match baseline with
    | some b => b.evidenceIds.map (fun evidenceId =>
        { verificationId, evidenceId, pollSequence := 0, role := .baseline,
          collectedAt := b.capturedAt })
    | none => [])
  let s := insertTimeline s now id row "verification_requested" (some .executed)
    (some .executed) "incident-core" none
  pure (row, insertOutboxEvent s now .remediation id (some row.correlationId)
    (.verificationRequested verificationId id row.incidentId row.actionId row.targetService
      [spec]))

/-- The execution row with what the executor reported. -/
def RemediationExecutionRow.settled (execution : RemediationExecutionRow) (now : Time)
    (outcome : AttemptOutcome) (executor : String) (result : Option Dict)
    (error : Option String) : RemediationExecutionRow :=
  { execution with
    status := outcome.executionStatus
    executor
    completedAt := some now
    result
    error :=
      match error with
      | some text => if text.isEmpty then none else some (truncate text 2000)
      | none => none }

def recordSuccess (env : Env) (now : Time) (s : Store) (id : Uuid) (row : RemediationRow)
    (incident : IncidentRow) (entry : Option ActionCatalogEntry) (actor : String) :
    Except DomainError (RemediationView × Store) := do
  let row := { row with
    executionStatus := some .succeeded
    leaseOwner := none
    leaseExpiresAt := none
    completedAt := some now }
  let (row, s) ← transition s now id row .executed "executed" actor
  let s := remediationEvent s now id row "RemediationExecuted" actor
  let (row, s) ← requestVerification env s now id row entry
  let s ← moveIncident s now row.incidentId incident [.remediationInProgress] .verifying
    "remediation_executed"
  pure (commitRemediation s id row)

def isRetrySafe (entry : Option ActionCatalogEntry) : Bool :=
  match entry with
  | some entry => entry.retrySafe
  | none => false

/-- Another attempt may follow: the action is retry-safe, the failure retryable, and
attempts remain. -/
def canRetry (entry : Option ActionCatalogEntry) (attempts : Nat) (retryable : Bool) : Bool :=
  match entry with
  | some entry => entry.retrySafe && retryable && decide (attempts < entry.maxAttempts)
  | none => false

def failureText (entry : Option ActionCatalogEntry) (outcome : AttemptOutcome)
    (error : Option String) : String :=
  if outcome = .timedOut ∧ isRetrySafe entry = false then
    "timed out; outcome unknown and the action is not retry-safe"
  else outcome.value ++ ": " ++ error.getD "no detail"

def recordFailure (now : Time) (s : Store) (id : Uuid) (row : RemediationRow)
    (incident : IncidentRow) (entry : Option ActionCatalogEntry) (actor : String)
    (outcome : AttemptOutcome) (error : Option String) (retryable : Bool) :
    Except DomainError (RemediationView × Store) :=
  let row := { row with executionStatus := some outcome.executionStatus }
  if canRetry entry row.executionAttempts retryable then
    let row := { row with leaseOwner := none, leaseExpiresAt := none }
    let s := insertTimeline s now id row "execution_attempt_failed" (some .executing)
      (some .executing) actor none
    .ok (commitRemediation s id row)
  else do
    let (row, s) ← finishFailed s now id row incident outcome.value
      (failureText entry outcome error) actor
    pure (commitRemediation s id row)

/-- Record an attempt's outcome and move the remediation on: `EXECUTED`, another
attempt, or `FAILED`. -/
def completeExecution (env : Env) (now : Time) (s : Store) (executionId : Uuid)
    (owner : String) (outcome : AttemptOutcome) (executor : String) (result : Option Dict)
    (error : Option String) (retryable : Bool) :
    Except DomainError (RemediationView × Store) := do
  let execution ← found s.remediation.executions[executionId]?
    (.remediationNotFound ("execution " ++ uuidStr executionId))
  let id := execution.remediationId
  let row ← lockRemediation s id
  if row.status ≠ .executing then pure (viewRemediation s id row, s)
  else do
    ensure (row.leaseOwner = some owner)
      (.leaseLost (owner ++ " does not hold remediation " ++ uuidStr id))
    if execution.status ≠ .running ∧ execution.status ≠ .unknown then
      pure (viewRemediation s id row, s)
    else do
      let settled := execution.settled now outcome executor result error
      let entry := getEntry row.actionId
      let incident ← lockIncident s row.incidentId
      let actor := "executor:" ++ executor
      let row := { row with
        executorResult := some ((result.getD []).foldl (fun d f => dictSet d f.1 f.2)
          [("attempt", .int execution.attemptNumber)]) }
      let s := putExecution s executionId settled
      if outcome = .succeeded then recordSuccess env now s id row incident entry actor
      else recordFailure now s id row incident entry actor outcome settled.error retryable

/-- The state verification will compare against, captured once. -/
def recordBaseline (now : Time) (s : Store) (id : Uuid) (owner : String) (values : Dict)
    (evidenceIds : List Uuid) : Except DomainError (Unit × Store) := do
  let row ← lockRemediation s id
  ensure (row.leaseOwner = some owner ∧ row.status = .executing)
    (.leaseLost (owner ++ " does not hold remediation " ++ uuidStr id))
  if (baselineOf s id).isSome then pure ((), s)
  else
    let s := { s with remediation := { s.remediation with
      baselines := s.remediation.baselines ++
        [{ remediationId := id, values, evidenceIds, capturedAt := now }] } }
    pure ((), insertTimeline s now id row "baseline_captured" (some .executing)
      (some .executing) ("worker:" ++ owner) none)

/-! ## Kill switches -/

def setKillSwitch (env : Env) (now : Time) (s : Store) (scope : String) (engaged : Bool)
    (actor : String) (reason : Option String) : Except DomainError (Unit × Store) := do
  ensure (scope = globalScope ∨ scope.startsWith "service:")
    (.value "scope is 'global' or 'service:<name>'")
  let row : KillSwitchRow := { scope, engaged, changedBy := actor, reason, changedAt := now }
  let switches := s.remediation.killSwitches
  let switches := match Table.first (fun k => k.scope == scope) switches with
    | some (position, _) => switches.set position row
    | none => switches ++ [row]
  let s := { s with remediation := { s.remediation with killSwitches := switches } }
  pure ((), insertOutboxEvent s now .killSwitch (env.killSwitchId scope) none
    (.killSwitchChanged scope engaged actor reason))

end IncidentTriage.Incident
