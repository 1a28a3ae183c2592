import IncidentTriage.Incident.Repository

/-! # Verification commands

The only writer of verifications, their observations and evidence links, and of the
incident transitions that close the loop.  A verdict only moves the incident while
it is `VERIFYING` for this remediation; otherwise it is recorded and the incident is
left alone.
-/

namespace IncidentTriage.Incident

open IncidentTriage.Python IncidentTriage.Domain

/-- A leased ticket for one poll. -/
structure VerificationTicket where
  verificationId : Uuid
  incidentId : Uuid
  remediationId : Uuid
  spec : VerificationSpec
  owner : String
  claimAttempt : Nat

structure VerificationView where
  id : Uuid
  row : VerificationRow

def lockVerification (s : Store) (id : Uuid) : Except DomainError VerificationRow :=
  found s.verification.verifications[id]?
    (.remediationNotFound ("verification " ++ uuidStr id))

/-- The row is written, and returned as a view. -/
def commitVerification (s : Store) (id : Uuid) (row : VerificationRow) :
    VerificationView × Store :=
  ({ id, row },
    { s with verification := { s.verification with
        verifications := s.verification.verifications.set id row } })

/-! ## Starting -/

def alertsOf (s : Store) (incidentId : Uuid) : List Uuid :=
  (Table.select (fun a => a.incidentId == some incidentId) s.alert.alerts).map (·.1)

/-- The row once observation begins: the alerts known by now, the grace period and
the deadline. -/
def VerificationRow.started (row : VerificationRow) (s : Store) (now : Time) :
    VerificationRow :=
  let graceUntil := now + seconds row.spec.graceSeconds
  { row with
    status := .running
    startedAt := some now
    knownAlertIds := some (alertsOf s row.incidentId)
    graceUntil := some graceUntil
    deadlineAt := some (now + seconds row.spec.timeoutSeconds)
    nextPollAt := some graceUntil
    updatedAt := now }

def startVerification (s : Store) (now : Time) (id : Uuid) (row : VerificationRow) :
    VerificationRow × Store :=
  let row := row.started s now
  (row, insertOutboxEvent s now .verification id (some row.correlationId)
    (.verificationStarted id row.incidentId row.remediationId row.status row.policyVersion
      row.claimAttempt))

/-- `PENDING -> RUNNING`; a verification that is past it is returned as it is. -/
def start (now : Time) (s : Store) (id : Uuid) : Except DomainError (VerificationView × Store) := do
  let row ← lockVerification s id
  if row.status = .pending then
    let (row, s) := startVerification s now id row
    pure (commitVerification s id row)
  else pure ({ id, row }, s)

/-! ## Finalizing -/

/-- Why a verdict must not be applied to the incident, if there is a reason. -/
def staleness (s : Store) (id : Uuid) (row : VerificationRow) (incident : IncidentRow)
    (remediation : RemediationRow) : Option String :=
  if incident.status ≠ .verifying then
    some ("incident is " ++ incident.status.value ++ ", not VERIFYING")
  else if remediation.status ≠ .executed then
    some ("remediation is " ++ remediation.status.value)
  else if remediation.verificationRef ≠ some id then
    some "a newer verification owns this remediation"
  else if s.remediation.remediations.countP (fun r => r.incidentId == row.incidentId &&
      decide (remediation.createdAt < r.createdAt)) ≠ 0 then
    some "a newer remediation exists for the incident"
  else none

def moveVerifiedIncident (s : Store) (now : Time) (incidentId : Uuid) (incident : IncidentRow)
    (toStatus : IncidentStatus) (reason : String) : Except DomainError (IncidentRow × Store) := do
  let (moved, s) ← found (transitionIncidentStatus s now incidentId incident toStatus false)
    (.concurrentModification ("incident " ++ uuidStr incidentId ++ " changed concurrently"))
  pure (moved, insertOutboxEvent s now .incident incidentId (some incidentId)
    (.incidentStatusChanged incidentId incident.status moved.status reason moved.version))

def closureEscalated (s : Store) (now : Time) (id : Uuid) (row : VerificationRow)
    (incident : IncidentRow) (reason : String) : Store :=
  insertOutboxEvent s now .incident row.incidentId (some row.incidentId)
    (.incidentEscalated row.incidentId incident.status reason id row.remediationId)

/-- Apply a verdict to the incident; the text says what happens next. -/
def applyVerdict (env : Env) (s : Store) (now : Time) (id : Uuid) (row : VerificationRow)
    (incident : IncidentRow) (status : VerificationStatus) :
    Except DomainError (String × Store) :=
  match status with
  | .passed => do
    let (incident, s) ← moveVerifiedIncident s now row.incidentId incident .resolved
      "verification_passed"
    pure ("resolve", insertOutboxEvent s now .incident row.incidentId (some row.incidentId)
      (.incidentResolved row.incidentId incident.status "verification passed" id
        row.remediationId))
  | .timedOut => do
    let (incident, s) ← moveVerifiedIncident s now row.incidentId incident .escalated
      "verification_timed_out"
    pure ("escalate", closureEscalated s now id row incident "verification timed out")
  | _ => do
    let (incident, s) ← moveVerifiedIncident s now row.incidentId incident .verificationFailed
      "verification_failed"
    let firing := countFiringAlerts s row.incidentId
    if incident.attemptCount < env.maxInvestigationAttempts ∧ 0 < firing then
      pure ("reinvestigate", s)
    else do
      let why := if 0 < firing then
          "investigation attempts exhausted (" ++ toString incident.attemptCount ++ "/" ++
            toString env.maxInvestigationAttempts ++ ")"
        else "no alert still firing to re-investigate"
      let (incident, s) ← moveVerifiedIncident s now row.incidentId incident .escalated
        "verification_failed"
      pure ("escalate", closureEscalated s now id row incident
        ("verification failed; " ++ why))

/-- The row of a verification that reached its verdict. -/
def VerificationRow.finalized (row : VerificationRow) (now : Time) (decision : Decision) :
    VerificationRow :=
  { row with
    status := decision.status
    result := some decision.status
    failureReason :=
      match decision.reason with
      | some text => if text.isEmpty then none else some (truncate text 2000)
      | none => none
    completedAt := some now
    leaseOwner := none
    leaseExpiresAt := none
    nextPollAt := none
    updatedAt := now }

/-- The verdict is applied, or recorded with the reason it is not. -/
def settleVerdict (env : Env) (s : Store) (now : Time) (id : Uuid) (row : VerificationRow)
    (incident : IncidentRow) (remediation : RemediationRow) (status : VerificationStatus) :
    Except DomainError (VerificationRow × Store) :=
  match staleness s id row incident remediation with
  | some stale =>
    .ok ({ row with
      nextAction := some "none"
      failureReason := some ((row.failureReason.getD "" ++ " [not applied: " ++ stale ++
        "]").trimAscii.toString) }, s)
  | none => do
    let (nextAction, s) ← applyVerdict env s now id row incident status
    pure ({ row with nextAction := some nextAction }, s)

def finalize (env : Env) (s : Store) (now : Time) (id : Uuid) (row : VerificationRow)
    (decision : Decision) : Except DomainError (VerificationRow × Store) := do
  let row := row.finalized now decision
  let incident ← found s.incidents[row.incidentId]? .assertion
  let remediation ← found s.remediation.remediations[row.remediationId]? .assertion
  let (row, s) ← settleVerdict env s now id row incident remediation decision.status
  pure (row, insertOutboxEvent s now .verification id (some row.correlationId)
    (.verificationCompleted id row.incidentId row.remediationId row.status row.policyVersion
      row.claimAttempt row.result row.failureReason row.nextAction))

/-! ## Polling -/

/-- The last persisted observation, never definitive. -/
def latestResult (s : Store) (id : Uuid) : Option ObservationResult :=
  (Table.latest (·.sequence) (fun o => o.verificationId == id) s.verification.observations).map
    (fun o =>
      { passed := o.2.passed
        conclusive := o.2.conclusive
        definitiveFailure := none
        checks := o.2.checks })

/-- The row a claim leaves: the ticket's number and its lease. -/
def VerificationRow.claimed (row : VerificationRow) (now : Time) (owner : String)
    (leaseSeconds : ℚ) : VerificationRow :=
  { row with
    claimAttempt := row.claimAttempt + 1
    leaseOwner := some owner
    leaseExpiresAt := some (now + seconds leaseSeconds)
    updatedAt := now }

def leaseHeld (row : VerificationRow) (now : Time) : Bool :=
  match row.leaseOwner, row.leaseExpiresAt with
  | some _, some expires => decide (now < expires)
  | _, _ => false

def pastDeadline (row : VerificationRow) (now : Time) : Bool :=
  match row.deadlineAt with
  | some deadline => decide (deadline ≤ now)
  | none => false

def beforeNextPoll (row : VerificationRow) (now : Time) : Bool :=
  match row.nextPollAt with
  | some next => decide (now < next)
  | none => false

/-- A running verification is claimed for one poll, or its verdict is reached at the
deadline without polling. -/
def claimRunning (env : Env) (now : Time) (s : Store) (id : Uuid) (row : VerificationRow)
    (owner : String) (leaseSeconds : ℚ) :
    Except DomainError (Option VerificationTicket × Store) :=
  if leaseHeld row now then .ok (none, (commitVerification s id row).2)
  else if pastDeadline row now then do
    let decision := row.spec.decide (latestResult s id) row.consecutiveSuccesses
      row.conclusiveCount now (row.deadlineAt.getD now)
    let (row, s) ← finalize env s now id row decision
    pure (none, (commitVerification s id row).2)
  else if beforeNextPoll row now then .ok (none, (commitVerification s id row).2)
  else
    let row := row.claimed now owner leaseSeconds
    .ok (some
      { verificationId := id
        incidentId := row.incidentId
        remediationId := row.remediationId
        spec := row.spec
        owner
        claimAttempt := row.claimAttempt }, (commitVerification s id row).2)

/-- A ticket for one poll, if one is due and nobody else holds it. -/
def claimDue (env : Env) (now : Time) (s : Store) (id : Uuid) (owner : String)
    (leaseSeconds : ℚ) : Except DomainError (Option VerificationTicket × Store) := do
  let row ← lockVerification s id
  match row.status with
  | .pending =>
    let (row, s) := startVerification s now id row
    claimRunning env now s id row owner leaseSeconds
  | .running => claimRunning env now s id row owner leaseSeconds
  | _ => pure (none, s)

/-- Alerts linked to the incident since the verification began and still firing. -/
def newFiringAlerts (s : Store) (row : VerificationRow) : Nat :=
  let known := row.knownAlertIds.getD []
  ((Table.select (isFiringAlertOf row.incidentId) s.alert.alerts).filter
    (fun a => !known.contains a.1)).length

/-- The counters after one more observation, with the lease given back. -/
def VerificationRow.observed (row : VerificationRow) (now : Time) (spec : VerificationSpec)
    (result : ObservationResult) : VerificationRow :=
  { row with
    observationCount := row.observationCount + 1
    conclusiveCount := row.conclusiveCount + (if result.conclusive then 1 else 0)
    consecutiveSuccesses := if result.passed then row.consecutiveSuccesses + 1 else 0
    nextPollAt := some (now + seconds spec.pollIntervalSeconds)
    leaseOwner := none
    leaseExpiresAt := none
    updatedAt := now }

def newObservation (id : Uuid) (sequence : Nat) (ticket : VerificationTicket) (sample : Sample)
    (result : ObservationResult) (evidenceIds : List Uuid) (observedAt : Time) :
    VerificationObservationRow :=
  { verificationId := id
    sequence
    claimAttempt := ticket.claimAttempt
    observedAt
    passed := result.passed
    conclusive := result.conclusive
    checks := result.checks
    errors := sample.errors
    evidenceIds }

/-- Evaluate one poll and decide.  A worker that lost its lease, or was superseded by
a later claim, cannot record anything. -/
def recordObservation (env : Env) (now : Time) (s : Store) (ticket : VerificationTicket)
    (sample : Sample) (evidenceIds : List Uuid) (observedAt : Time) :
    Except DomainError (VerificationView × Store) := do
  let id := ticket.verificationId
  let row ← lockVerification s id
  ensure (row.status = .running ∧ row.leaseOwner = some ticket.owner ∧
      row.claimAttempt = ticket.claimAttempt)
    (.leaseLost (ticket.owner ++ " (claim " ++ toString ticket.claimAttempt ++
      ") no longer holds verification " ++ uuidStr id))
  let sample := { sample with newFiringAlerts := some (newFiringAlerts s row) }
  let result := evaluateSample ticket.spec sample
  let row := row.observed now ticket.spec result
  let s := { s with verification := { s.verification with
    observations := s.verification.observations ++
      [newObservation id row.observationCount ticket sample result evidenceIds observedAt] } }
  let s ← insertVerificationEvidence s (evidenceIds.map (fun evidenceId =>
    { verificationId := id, evidenceId, pollSequence := row.observationCount,
      role := .observation, collectedAt := observedAt }))
  let decision := ticket.spec.decide (some result) row.consecutiveSuccesses row.conclusiveCount
    now (row.deadlineAt.getD now)
  if decision.status ≠ .running then do
    let (row, s) ← finalize env s now id row decision
    pure (commitVerification s id row)
  else pure (commitVerification s id row)

end IncidentTriage.Incident
