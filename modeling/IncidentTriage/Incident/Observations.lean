import IncidentTriage.Incident.Deliveries
import IncidentTriage.Incident.Verifications

/-! # Observations beside deliveries

`record_observation` as its database sees it, next to the deliveries of alerts.  An
observation locks the row of its verification, reads the firing alerts, and, where it
reaches a verdict, locks the row of the incident; a delivery that is about to commit waits
for that row, and an observation for the rows of another.  The alerts are read without a
lock.
-/

namespace IncidentTriage.Incident

open IncidentTriage.Python IncidentTriage.Domain

/-- The store as it is, with the alerts as they were read. -/
def withAlerts (s : Store) (alerts : List AlertRow) : Store :=
  { s with alert := { s.alert with alerts } }

/-- The alerts that `newFiringAlerts` counts. -/
def newFiringIds (s : Store) (row : VerificationRow) : List Uuid :=
  ((Table.select (isFiringAlertOf row.incidentId) s.alert.alerts).map (·.1)).filter
    (fun a => !(row.knownAlertIds.getD []).contains a)

/-- `recordObservation` by a session that has seen some alerts when it counted the new
ones, and weighs the verdict with the alerts read under the lock of the incident. -/
def recordSeeing (env : Env) (now : Time) (s : Store) (ticket : VerificationTicket)
    (sample : Sample) (evidenceIds : List Uuid) (observedAt : Time)
    (seen weighed : List AlertRow) : Except DomainError (VerificationView × Store) := do
  let id := ticket.verificationId
  let row ← lockVerification s id
  ensure (row.status = .running ∧ row.leaseOwner = some ticket.owner ∧
      row.claimAttempt = ticket.claimAttempt)
    (.leaseLost (ticket.owner ++ " (claim " ++ toString ticket.claimAttempt ++
      ") no longer holds verification " ++ uuidStr id))
  let sample := { sample with newFiringAlerts := some (newFiringAlerts (withAlerts s seen) row) }
  let result := evaluateSample ticket.spec sample
  let row := row.observed now ticket.spec result
  let s := { s with verification := { s.verification with
    observations := s.verification.observations ++
      [newObservation id row.observationCount ticket sample result evidenceIds observedAt] } }
  let s ← insertVerificationEvidence s (evidenceIds.map (fun evidenceId =>
    { verificationId := id, evidenceId, pollSequence := row.observationCount,
      role := .observation, collectedAt := observedAt }))
  let decision := ticket.spec.decide (some result) row.consecutiveSuccesses row.conclusiveCount
    now (row.deadlineAt.getD now)
  if decision.status ≠ .running then do
    let (row, s') ← finalize env (withAlerts s weighed) now id row decision
    pure (commitVerification (withAlerts s' s.alert.alerts) id row)
  else pure (commitVerification s id row)

/-- The decision of an observation that has seen these alerts. -/
def observedDecision (now : Time) (s : Store) (row : VerificationRow)
    (ticket : VerificationTicket) (sample : Sample) (seen : List AlertRow) : Decision :=
  let result := evaluateSample ticket.spec
    { sample with newFiringAlerts := some (newFiringAlerts (withAlerts s seen) row) }
  let row := row.observed now ticket.spec result
  ticket.spec.decide (some result) row.consecutiveSuccesses row.conclusiveCount now
    (row.deadlineAt.getD now)

/-! ## Sessions -/

inductive ObservationPhase where
  | begun
  /-- It holds the row of the verification, and its claim is the current one. -/
  | locked
  | counted (seen : List AlertRow)
  /-- It reaches a verdict, and holds the row of the incident. -/
  | holding (seen : List AlertRow)
  | weighing (seen weighed : List AlertRow)
  | recorded
  | failed

structure Observation where
  ticket : VerificationTicket
  sample : Sample
  evidenceIds : List Uuid
  observedAt : Time
  now : Time
  phase : ObservationPhase

def Observation.row (s : Store) (o : Observation) : Option VerificationRow :=
  s.verification.verifications[o.ticket.verificationId]?

def Observation.holdsRow (o : Observation) : Bool :=
  match o.phase with
  | .begun | .recorded | .failed => false
  | _ => true

/-- The incident whose row it holds. -/
def Observation.held (s : Store) (o : Observation) : Option Uuid :=
  match o.phase with
  | .holding _ | .weighing .. => (o.row s).map (·.incidentId)
  | _ => none

/-- A verdict that closed its incident, and the new alerts it counted. -/
structure Closing where
  incidentId : Uuid
  counted : List Uuid

/-- Deliveries and observations on one store. -/
structure Meeting where
  exchange : Exchange
  observations : List Observation
  closings : List Closing

def Meeting.store (w : Meeting) : Store := w.exchange.store

def Meeting.another (w : Meeting) (k : Nat) (p : Observation → Bool) : Bool :=
  w.observations.zipIdx.any (fun o => o.2 != k && p o.1)

inductive MeetingEvent where
  | delivery (event : DeliveryEvent)
  | observe (now : Time) (ticket : VerificationTicket) (sample : Sample)
      (evidenceIds : List Uuid) (observedAt : Time)
  | advance (observation : Nat)
  | abort (observation : Nat)

def Meeting.put (w : Meeting) (k : Nat) (o : Observation) (phase : ObservationPhase) : Meeting :=
  { w with observations := w.observations.set k { o with phase } }

def closedAt (s : Store) (i : Uuid) : Bool := s.incidents[i]?.any (isClosed ·.status)

/-- The observation commits. -/
def Meeting.record (env : Env) (w : Meeting) (k : Nat) (o : Observation) (row : VerificationRow)
    (seen weighed : List AlertRow) : Meeting :=
  match recordSeeing env o.now w.store o.ticket o.sample o.evidenceIds o.observedAt seen weighed with
  | .error _ => w.put k o .failed
  | .ok (_, s) =>
    { exchange := { w.exchange with store := s }
      observations := w.observations.set k { o with phase := .recorded }
      closings :=
        if !closedAt w.store row.incidentId && closedAt s row.incidentId then
          w.closings ++ [{ incidentId := row.incidentId
                           counted := newFiringIds (withAlerts w.store seen) row }]
        else w.closings }

/-- The next step of an observation whose verification has this row. -/
def Meeting.proceed (env : Env) (w : Meeting) (k : Nat) (o : Observation)
    (row : VerificationRow) : Meeting :=
  match o.phase with
  | .begun =>
    if w.another k (fun other => other.holdsRow &&
        other.ticket.verificationId == o.ticket.verificationId) then w
    else if row.status = .running ∧ row.leaseOwner = some o.ticket.owner ∧
        row.claimAttempt = o.ticket.claimAttempt then w.put k o .locked
    else w.put k o .failed
  | .locked => w.put k o (.counted w.store.alert.alerts)
  | .counted seen =>
    if (observedDecision o.now w.store row o.ticket o.sample seen).status = .running then
      w.record env k o row seen seen
    else if w.another k (fun other => other.held w.store == some row.incidentId) then w
    else w.put k o (.holding seen)
  | .holding seen => w.put k o (.weighing seen w.store.alert.alerts)
  | .weighing seen weighed => w.record env k o row seen weighed
  | .recorded | .failed => w

def Meeting.step (env : Env) (w : Meeting) : MeetingEvent → Meeting
  | .delivery e =>
    { w with exchange := w.exchange.step env (w.observations.filterMap (·.held w.store)) e }
  | .observe now ticket sample evidenceIds observedAt =>
    { w with observations := w.observations ++
        [{ ticket, sample, evidenceIds, observedAt, now, phase := .begun }] }
  | .advance k =>
    match w.observations[k]? with
    | none => w
    | some o =>
      match o.row w.store with
      | none => w.put k o .failed
      | some row => w.proceed env k o row
  | .abort k =>
    match w.observations[k]? with
    | none => w
    | some o =>
      match o.phase with
      | .recorded => w
      | _ => w.put k o .failed

def Meeting.start (s : Store) : Meeting :=
  { exchange := .start s, observations := [], closings := [] }

def meetingFrom (env : Env) (s : Store) (events : List MeetingEvent) : Meeting :=
  Machine.run (Meeting.step env) (.start s) events

end IncidentTriage.Incident
