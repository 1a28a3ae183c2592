import IncidentTriage.Incident.Models

/-! # Persistence functions of incident-core

The reads and writes every service shares.  None of them commits: each takes the
store of the open transaction and gives it back.
-/

namespace IncidentTriage.Incident

open IncidentTriage.Python IncidentTriage.Domain

/-! ## Writing rows -/

def putIncident (s : Store) (id : Uuid) (row : IncidentRow) : Store :=
  { s with incidents := s.incidents.set id row }

def putAlert (s : Store) (id : Uuid) (row : AlertRow) : Store :=
  { s with alert := { s.alert with alerts := s.alert.alerts.set id row } }

def insertOutboxEvent (s : Store) (now : Time) (aggregateType : AggregateType)
    (aggregateId : Uuid) (correlationId : Option Uuid) (payload : OutboxPayload) : Store :=
  { s with audit := { s.audit with
      outbox := s.audit.outbox ++
        [{ aggregateType, aggregateId, correlationId, payload, occurredAt := now }] } }

/-! ## Leases -/

/-- Whether a lease that ends at `expires` is still held at `now`. -/
def leaseLive (now : Time) (expires : Option Time) : Bool :=
  match expires with
  | some expires => decide (now < expires)
  | none => false

/-! ## Processed commands -/

def getProcessedCommand (s : Store) (idempotencyKey : String) : Option ProcessedCommandRow :=
  s.alert.processedCommands.find? (fun p => p.idempotencyKey == idempotencyKey)

/-- `ON CONFLICT DO NOTHING`: `none` when the key is already there. -/
def insertProcessedCommand (s : Store) (idempotencyKey : String)
    (result : AlertReceivedResult) : Option Store :=
  match getProcessedCommand s idempotencyKey with
  | some _ => none
  | none => some { s with alert := { s.alert with
      processedCommands := s.alert.processedCommands ++ [{ idempotencyKey, result }] } }

/-! ## Alerts -/

def findExternal (s : Store) (source : AlertSource) (externalId : String) :
    Option (Uuid × AlertRow) :=
  Table.first (fun a => a.source == source && a.externalId == some externalId) s.alert.alerts

def newAlert (command : AlertReceivedCommand) (fingerprint : String) (now : Time)
    (status : AlertStatus) (resolvedAt : Option Time) : AlertRow :=
  { externalId := command.externalId
    source := command.source
    fingerprint
    labels := command.labels
    severity := command.severity
    status
    receivedAt := now
    resolvedAt
    incidentId := none }

def insertAlert (s : Store) (row : AlertRow) : Store :=
  { s with alert := { s.alert with alerts := s.alert.alerts ++ [row] } }

/-- The alert, whether it was there before, and the store with it. -/
def insertAlertOrGetExisting (s : Store) (now : Time) (command : AlertReceivedCommand)
    (fingerprint : String) : (Uuid × AlertRow) × Bool × Store :=
  let row := newAlert command fingerprint now command.status none
  let inserted := ((s.alert.alerts.length, row), false, insertAlert s row)
  match command.externalId with
  | none => inserted
  | some externalId =>
    match findExternal s command.source externalId with
    | some existing => (existing, true, s)
    | none => inserted

def isClosed (status : IncidentStatus) : Bool := closedIncidentStatuses.contains status

/-- The most recently received of some alerts. -/
def mostRecent (alerts : List (Uuid × AlertRow)) : Option (Uuid × AlertRow) :=
  alerts.find? (fun a => some a.2.receivedAt == (alerts.map (·.2.receivedAt)).max?)

/-- The alert a resolved notification refers to: by external id where it has one,
otherwise the latest firing alert of the same fingerprint on an open incident. -/
def findAlertToResolve (s : Store) (command : AlertReceivedCommand) (fingerprint : String) :
    Option (Uuid × AlertRow) :=
  match command.externalId with
  | some externalId => findExternal s command.source externalId
  | none =>
    mostRecent (Table.select (fun a => a.fingerprint == fingerprint && a.status == .firing &&
      (match a.incidentId.bind (fun id => s.incidents[id]?) with
        | some incident => !isClosed incident.status
        | none => false)) s.alert.alerts)

def isFiringAlertOf (incidentId : Uuid) (a : AlertRow) : Bool :=
  a.incidentId == some incidentId && a.status == .firing

def countFiringAlerts (s : Store) (incidentId : Uuid) : Nat :=
  s.alert.alerts.countP (isFiringAlertOf incidentId)

/-! ## Incidents -/

def selectOpenIncident (s : Store) (correlationKey : String) : Option (Uuid × IncidentRow) :=
  Table.first (fun i => i.correlationKey == correlationKey && !isClosed i.status) s.incidents

def newIncident (now : Time) (correlationKey : String) (severity : AlertSeverity)
    (service environment : String) : IncidentRow :=
  { status := .triaging
    severity
    service
    environment
    correlationKey
    attemptCount := 0
    version := 0
    createdAt := now
    updatedAt := now
    closedAt := none }

/-- The open incident of this correlation key, or a new one. -/
def getOrCreateOpenIncident (s : Store) (now : Time) (correlationKey : String)
    (severity : AlertSeverity) (service environment : String) :
    (Uuid × IncidentRow) × Bool × Store :=
  match selectOpenIncident s correlationKey with
  | some existing => (existing, false, s)
  | none =>
    let row := newIncident now correlationKey severity service environment
    ((s.incidents.length, row), true, { s with incidents := s.incidents ++ [row] })

/-- Open incidents of this service and environment, each paired with its most
recently received alerts, as far as these are within the lookback. -/
def findOpenIncidentCandidates (s : Store) (service environment : String) (now : Time)
    (lookbackSeconds : Nat) : List CorrelationCandidate :=
  let cutoff := now - lookbackSeconds * 1000000
  let open_ := Table.select (fun i => i.service == service && i.environment == environment &&
    !isClosed i.status) s.incidents
  open_.flatMap (fun (id, incident) =>
    let alerts := s.alert.alerts.filter (fun a => a.incidentId == some id)
    match (alerts.map (·.receivedAt)).max? with
    | none => []
    | some latest =>
      if latest < cutoff then []
      else (alerts.filter (fun a => a.receivedAt == latest)).map (fun a =>
        { incidentId := id
          correlationKey := incident.correlationKey
          status := incident.status
          service := incident.service
          environment := incident.environment
          mostRecentAlertReceivedAt := a.receivedAt
          mostRecentAlertLabels := a.labels
          mostRecentAlertFingerprint := a.fingerprint }))

/-- A candidate is an open incident of the service and environment asked for, under its key. -/
theorem findOpenIncidentCandidates_row {s : Store} {service environment : String} {now : Time}
    {lookbackSeconds : Nat} {c : CorrelationCandidate}
    (candidate : c ∈ findOpenIncidentCandidates s service environment now lookbackSeconds) :
    ∃ incident, s.incidents[c.incidentId]? = some incident ∧ incident.service = service ∧
      incident.environment = environment ∧ isClosed incident.status = false ∧
        c.correlationKey = incident.correlationKey := by
  simp only [findOpenIncidentCandidates, List.mem_flatMap] at candidate
  obtain ⟨⟨id, incident⟩, chosen, listed⟩ := candidate
  obtain ⟨row, matching⟩ := Table.mem_select.mp chosen
  simp only [Bool.and_eq_true, Bool.not_eq_true', beq_iff_eq] at matching
  split at listed
  · simp at listed
  · split_ifs at listed with stale
    · simp at listed
    · obtain ⟨a, _, rfl⟩ := List.mem_map.mp listed
      exact ⟨incident, row, matching.1.1, matching.1.2, matching.2, rfl⟩

theorem mem_findOpenIncidentCandidates {s : Store} {service environment : String} {now : Time}
    {lookbackSeconds : Nat} {c : CorrelationCandidate}
    (candidate : c ∈ findOpenIncidentCandidates s service environment now lookbackSeconds) :
    ∃ incident, s.incidents[c.incidentId]? = some incident ∧ isClosed incident.status = false := by
  obtain ⟨incident, row, _, _, isOpen, _⟩ := findOpenIncidentCandidates_row candidate
  exact ⟨incident, row, isOpen⟩

/-- The row an incident becomes when its status moves. -/
def IncidentRow.moved (incident : IncidentRow) (now : Time) (toStatus : IncidentStatus)
    (closes : Bool := false) : IncidentRow :=
  { incident with
    status := toStatus
    version := incident.version + 1
    updatedAt := now
    closedAt := if closes then some now else incident.closedAt }

/-- `UPDATE ... WHERE id = :id AND version = :expected`: `none` when the row's
version moved underneath the caller. -/
def transitionIncidentStatus (s : Store) (now : Time) (id : Uuid) (incident : IncidentRow)
    (toStatus : IncidentStatus) (closes : Bool) : Option (IncidentRow × Store) :=
  match s.incidents[id]? with
  | none => none
  | some stored =>
    if stored.version = incident.version then
      let row := stored.moved now toStatus closes
      some (row, putIncident s id row)
    else none

/-- On the row the caller just read the update never misses. -/
theorem transitionIncidentStatus_of_read {s : Store} {now : Time} {id : Uuid}
    {incident : IncidentRow} {toStatus : IncidentStatus} {closes : Bool}
    (row : s.incidents[id]? = some incident) :
    transitionIncidentStatus s now id incident toStatus closes =
      some (incident.moved now toStatus closes,
        putIncident s id (incident.moved now toStatus closes)) := by
  simp [transitionIncidentStatus, row]

theorem eq_of_transitionIncidentStatus {s : Store} {now : Time} {id : Uuid}
    {incident : IncidentRow} {toStatus : IncidentStatus} {closes : Bool}
    {r : IncidentRow × Store}
    (done : transitionIncidentStatus s now id incident toStatus closes = some r)
    (row : s.incidents[id]? = some incident) :
    r = (incident.moved now toStatus closes,
      putIncident s id (incident.moved now toStatus closes)) := by
  rw [transitionIncidentStatus_of_read row] at done
  exact (Option.some.inj done).symm

/-! ## Evidence references -/

def getEvidenceRef (s : Store) (id : Uuid) : Option EvidenceRefRow :=
  s.alert.evidenceRefs.find? (fun e => e.id == id)

/-! ## Verification evidence -/

/-- Insert evidence links of a verification: refused where one is there already or
its evidence is not registered. -/
def insertVerificationEvidence (s : Store) :
    List VerificationEvidenceRow → Except DomainError Store
  | [] => .ok s
  | row :: rows => do
    ensure (s.alert.evidenceRefs.any (fun e => e.id == row.evidenceId))
      (.integrity "verification_evidence_evidence_id_fkey")
    ensure (s.verification.evidence.all (fun e =>
        e.verificationId != row.verificationId || e.evidenceId != row.evidenceId))
      (.integrity "verification_evidence_pkey")
    insertVerificationEvidence { s with verification := { s.verification with
      evidence := s.verification.evidence ++ [row] } } rows

/-- Only the evidence links of the verification tables grow. -/
theorem insertVerificationEvidence_eq_ok {s s' : Store} {rows : List VerificationEvidenceRow}
    (inserted : insertVerificationEvidence s rows = .ok s') :
    s' = { s with verification := { s.verification with
      evidence := s.verification.evidence ++ rows } } := by
  induction rows generalizing s with
  | nil =>
    cases inserted
    simp
  | cons row rows ih =>
    simp only [insertVerificationEvidence, bind_eq_ok, ensure_eq_ok] at inserted
    obtain ⟨_, _, _, _, inserted⟩ := inserted
    rw [ih inserted]
    simp

end IncidentTriage.Incident
