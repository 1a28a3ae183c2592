import IncidentTriage.Incident.Repository

/-! # Alert and evidence commands

`handleAlertReceived` and `registerEvidenceRef`, each one transaction.
-/

namespace IncidentTriage.Incident

open IncidentTriage.Python IncidentTriage.Domain

/-- Record the command's result, so that a repeat of its key is a no-op. -/
def finalizeCommand (s : Store) (command : AlertReceivedCommand) (result : AlertReceivedResult) :
    Except DomainError (AlertReceivedResult × Store) :=
  match insertProcessedCommand s command.idempotencyKey result with
  | some s => .ok (result, s)
  | none => .error (.integrity "processed_commands_pkey")

def incidentStatusOf (s : Store) (incidentId : Option Uuid) : Option IncidentStatus :=
  (incidentId.bind (fun id => s.incidents[id]?)).map (·.status)

def finishResolution (s : Store) (command : AlertReceivedCommand) (alertId : Uuid)
    (alert : AlertRow) : Except DomainError (AlertReceivedResult × Store) :=
  finalizeCommand s command
    { alertId
      incidentId := alert.incidentId
      incidentCreated := false
      incidentStatus := incidentStatusOf s alert.incidentId }

/-- The alert's firing episode ends; the incident is cancelled when it is still
`TRIAGING` and no other alert fires, and is otherwise left alone. -/
def processAlertResolved (now : Time) (s : Store) (command : AlertReceivedCommand)
    (fingerprint : String) : Except DomainError (AlertReceivedResult × Store) :=
  match findAlertToResolve s command fingerprint with
  | none =>
    let row := newAlert command fingerprint now .resolved (some now)
    finishResolution (insertAlert s row) command s.alert.alerts.length row
  | some (alertId, alert) =>
    if alert.status = .resolved then finishResolution s command alertId alert
    else do
      let row := { alert with status := .resolved, resolvedAt := some now }
      let s := putAlert s alertId row
      let incidentId ← found alert.incidentId .assertion
      let incident ← found s.incidents[incidentId]? .assertion
      let remaining := countFiringAlerts s incidentId
      let s := insertOutboxEvent s now .alert alertId (some incidentId)
        (.alertResolved alertId incidentId remaining)
      if remaining = 0 ∧ incident.status = .triaging then
        let (moved, s) ← found (transitionIncidentStatus s now incidentId incident .cancelled true)
          (.concurrentModification ("incident " ++ uuidStr incidentId ++
            " changed concurrently; retry the command"))
        let s := insertOutboxEvent s now .incident incidentId (some incidentId)
          (.incidentStatusChanged incidentId incident.status moved.status
            "all_linked_alerts_resolved" moved.version)
        finishResolution s command alertId row
      else finishResolution s command alertId row

/-- The incident a new alert belongs to: the one correlation matched, or the open
incident of the alert's correlation key in this time bucket, or a new one. -/
def incidentForAlert (env : Env) (now : Time) (s : Store) (command : AlertReceivedCommand)
    (decision : CorrelationDecision) :
    Except DomainError ((Uuid × IncidentRow) × Bool × Store) :=
  match decision.decision with
  | .correlate => do
    let incidentId ← found decision.matchedIncidentId .assertion
    let incident ← found s.incidents[incidentId]? .assertion
    let touched := { incident with updatedAt := now }
    pure ((incidentId, touched), false, putIncident s incidentId touched)
  | .newIncident =>
    let bucket := now / (env.candidateLookbackSeconds * 1000000)
    .ok (getOrCreateOpenIncident s now (decision.correlationKey ++ ":" ++ toString bucket)
      command.severity command.service command.environment)

def processAlertReceived (env : Env) (now : Time) (s : Store) (command : AlertReceivedCommand)
    (fingerprint : String) : Except DomainError (AlertReceivedResult × Store) :=
  if command.status = .resolved then processAlertResolved now s command fingerprint
  else
    let ((alertId, alert), alreadyExisted, s) := insertAlertOrGetExisting s now command fingerprint
    if alreadyExisted then
      finalizeCommand s command
        { alertId
          incidentId := alert.incidentId
          incidentCreated := false
          incidentStatus := incidentStatusOf s alert.incidentId }
    else do
      let candidates := findOpenIncidentCandidates s command.service command.environment now
        env.candidateLookbackSeconds
      let decision := env.correlationEngine.decide
        { source := command.source
          fingerprint
          labels := command.labels
          service := command.service
          environment := command.environment
          receivedAt := now } candidates
      let ((incidentId, incident), incidentCreated, s) ←
        incidentForAlert env now s command decision
      let s := putAlert s alertId { alert with incidentId := some incidentId }
      let s := insertOutboxEvent s now .alert alertId (some incidentId)
        (.alertReceived alertId fingerprint command.source incidentId)
      let s := insertOutboxEvent s now .incident incidentId (some incidentId)
        (if incidentCreated then
          .incidentCreated incidentId incident.correlationKey command.severity command.service
            command.environment decision.score decision.matchedSignals
        else .alertCorrelated alertId incidentId decision.score decision.matchedSignals)
      finalizeCommand s command
        { alertId
          incidentId := some incidentId
          incidentCreated
          incidentStatus := some incident.status }

def handleAlertReceived (env : Env) (now : Time) (s : Store) (command : AlertReceivedCommand) :
    Except DomainError (AlertReceivedResult × Store) :=
  match getProcessedCommand s command.idempotencyKey with
  | some existing => .ok (existing.result, s)
  | none =>
    processAlertReceived env now s command
      (computeFingerprint env.sha256 command.source command.labels)

/-- Record a reference to an evidence record: insert-only and idempotent by id. -/
def registerEvidenceRef (now : Time) (s : Store) (command : RegisterEvidenceRefCommand) :
    Except DomainError (Bool × Store) := do
  let _ ← found s.incidents[command.incidentId]?
    (.incidentNotFound (uuidStr command.incidentId))
  match getEvidenceRef s command.evidenceId with
  | some existing =>
    if existing.contentHash ≠ command.contentHash ∨ existing.incidentId ≠ command.incidentId then
      .error (.evidenceRefConflict (uuidStr command.evidenceId))
    else pure (false, s)
  | none =>
    let row : EvidenceRefRow :=
      { id := command.evidenceId
        incidentId := command.incidentId
        investigationId := command.investigationId
        evidenceType := command.evidenceType
        contentHash := command.contentHash
        sourceSystem := command.sourceSystem
        collectedAt := command.collectedAt }
    let s := { s with alert := { s.alert with evidenceRefs := s.alert.evidenceRefs ++ [row] } }
    pure (true, insertOutboxEvent s now .incident command.incidentId (some command.incidentId)
      (.evidenceRefRegistered command.evidenceId command.incidentId command.evidenceType
        command.sourceSystem command.contentHash))

end IncidentTriage.Incident
