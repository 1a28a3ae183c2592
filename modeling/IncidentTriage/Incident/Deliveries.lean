import IncidentTriage.Incident.Service
import IncidentTriage.Library.Runs

/-! # Concurrent deliveries of alert commands

`handle_alert_received` as its database sees it: every delivery is a transaction of its
own, and an event advances one of them by one read, or commits it.  A read sees what is
committed when it is made; what a delivery writes is seen by the others once it commits.
Two deliveries wait for one another where the database makes them: for the correlation
lock of their service and environment, for a unique key that the other has inserted, and
for a row that the other has changed.
-/

namespace IncidentTriage.Incident

open IncidentTriage.Python IncidentTriage.Domain

/-! ## Reads -/

/-- The row that an insert of this alert would conflict with. -/
def existingAlert (s : Store) (command : AlertReceivedCommand) : Option (Uuid × AlertRow) :=
  command.externalId.bind (findExternal s command.source)

def correlationDecision (env : Env) (now : Time) (s : Store) (command : AlertReceivedCommand)
    (fingerprint : String) : CorrelationDecision :=
  env.correlationEngine.decide
    { source := command.source
      fingerprint
      labels := command.labels
      service := command.service
      environment := command.environment
      receivedAt := now }
    (findOpenIncidentCandidates s command.service command.environment now
      env.candidateLookbackSeconds)

/-- The correlation key of a new incident, in its time bucket. -/
def bucketKey (env : Env) (now : Time) (decision : CorrelationDecision) : String :=
  decision.correlationKey ++ ":" ++ toString (now / (env.candidateLookbackSeconds * 1000000))

/-- The row of an alert whose firing episode ended. -/
def AlertRow.ended (alert : AlertRow) (now : Time) : AlertRow :=
  { alert with status := .resolved, resolvedAt := some now }

/-- `mark_alert_resolved`: two columns of the row as it is now. -/
def markAlertResolved (s : Store) (now : Time) (alertId : Uuid) : Store :=
  match s.alert.alerts[alertId]? with
  | some alert => putAlert s alertId (alert.ended now)
  | none => s

/-- `touch_incident_updated_at`: one column of the row as it is now. -/
def touchIncident (s : Store) (now : Time) (incidentId : Uuid) : Store :=
  match s.incidents[incidentId]? with
  | some incident => putIncident s incidentId { incident with updatedAt := now }
  | none => s

/-! ## Writes -/

/-- What a delivery is about to write, with what it has read for it. -/
inductive Plan where
  /-- The alert is there already: only the command is recorded. -/
  | replay (alertId : Uuid) (incidentId : Option Uuid) (status : Option IncidentStatus)
  /-- The end of an alert that was never received. -/
  | unmatched
  | resolve (alertId incidentId : Uuid) (incident : IncidentRow) (remaining : Nat)
  /-- A new alert, for the incident read or for a new one. -/
  | link (decision : CorrelationDecision) (incident : Option (Uuid × IncidentRow))

/-- Link a new alert, and say what it was linked to. -/
def linkAlert (now : Time) (s : Store) (command : AlertReceivedCommand) (fingerprint : String)
    (decision : CorrelationDecision) (incidentId : Uuid) (incident : IncidentRow)
    (created : Bool) : AlertReceivedResult × Store :=
  let alertId := s.alert.alerts.length
  let alert := newAlert command fingerprint now command.status none
  let s := insertAlert s { alert with incidentId := some incidentId }
  let s := insertOutboxEvent s now .alert alertId (some incidentId)
    (.alertReceived alertId fingerprint command.source incidentId)
  let s := insertOutboxEvent s now .incident incidentId (some incidentId)
    (if created then
      .incidentCreated incidentId incident.correlationKey command.severity command.service
        command.environment decision.score decision.matchedSignals
    else .alertCorrelated alertId incidentId decision.score decision.matchedSignals)
  ({ alertId
     incidentId := some incidentId
     incidentCreated := created
     incidentStatus := some incident.status }, s)

/-- End an alert, and cancel its incident where that is still `TRIAGING` and no other
alert fires. -/
def resolveAlert (now : Time) (s : Store) (alertId incidentId : Uuid) (incident : IncidentRow)
    (remaining : Nat) : Except DomainError (AlertReceivedResult × Store) :=
  let s := markAlertResolved s now alertId
  let s := insertOutboxEvent s now .alert alertId (some incidentId)
    (.alertResolved alertId incidentId remaining)
  let result (status : IncidentStatus) : AlertReceivedResult :=
    { alertId
      incidentId := some incidentId
      incidentCreated := false
      incidentStatus := some status }
  if remaining = 0 ∧ incident.status = .triaging then do
    let (moved, s) ← found (transitionIncidentStatus s now incidentId incident .cancelled true)
      (.concurrentModification ("incident " ++ uuidStr incidentId ++
        " changed concurrently; retry the command"))
    pure (result moved.status, insertOutboxEvent s now .incident incidentId (some incidentId)
      (.incidentStatusChanged incidentId incident.status moved.status
        "all_linked_alerts_resolved" moved.version))
  else pure (result incident.status, s)

/-- What a delivery writes before it records its command. -/
def writePlan (env : Env) (now : Time) (s : Store) (command : AlertReceivedCommand)
    (fingerprint : String) : Plan → Except DomainError (AlertReceivedResult × Store)
  | .replay alertId incidentId status =>
    .ok ({ alertId, incidentId, incidentCreated := false, incidentStatus := status }, s)
  | .unmatched =>
    .ok ({ alertId := s.alert.alerts.length, incidentId := none, incidentCreated := false,
           incidentStatus := none },
      insertAlert s (newAlert command fingerprint now .resolved (some now)))
  | .resolve alertId incidentId incident remaining =>
    resolveAlert now s alertId incidentId incident remaining
  | .link decision (some (incidentId, incident)) =>
    let s := if decision.decision = .correlate then touchIncident s now incidentId else s
    .ok (linkAlert now s command fingerprint decision incidentId incident false)
  | .link decision none =>
    let incident := newIncident now (bucketKey env now decision) command.severity
      command.service command.environment
    let incidentId := s.incidents.length
    let s := { s with incidents := s.incidents ++ [incident] }
    .ok (linkAlert now s command fingerprint decision incidentId incident true)

/-! ## Deliveries -/

/-- How far a delivery has come. -/
inductive DeliveryPhase where
  /-- The command's key is not on record. -/
  | begun
  /-- It holds the correlation lock. -/
  | locked
  /-- The notification is about an alert that needs no change. -/
  | known (alertId : Uuid) (incidentId : Option Uuid)
  /-- The alert is inserted, and not linked yet. -/
  | inserted
  | decided (decision : CorrelationDecision)
  /-- A resolved notification found no alert. -/
  | missed
  /-- A resolved notification found an alert that fires. -/
  | found (alertId : Uuid) (alert : AlertRow)
  /-- That alert is updated. -/
  | marked (alertId : Uuid) (alert : AlertRow)
  | sawIncident (alertId incidentId : Uuid) (incident : IncidentRow)
  | ready (plan : Plan)
  | answered (result : AlertReceivedResult)
  /-- An error was raised, or the connection was lost: nothing of it remains. -/
  | failed

structure Delivery where
  command : AlertReceivedCommand
  now : Time
  phase : DeliveryPhase

def Delivery.fingerprint (env : Env) (d : Delivery) : String :=
  computeFingerprint env.sha256 d.command.source d.command.labels

/-- It holds the correlation lock of its service and environment. -/
def Delivery.holdsLock (d : Delivery) : Bool :=
  match d.phase with
  | .begun | .answered _ | .failed => false
  | _ => true

def Delivery.sameLock (d other : Delivery) : Bool :=
  d.command.service == other.command.service && d.command.environment == other.command.environment

/-- It has inserted an alert under the command's external id. -/
def Delivery.insertsAlert (d : Delivery) : Bool :=
  match d.phase with
  | .inserted | .decided _ | .ready .unmatched | .ready (.link ..) => true
  | _ => false

/-- The key of the incident it has inserted. -/
def Delivery.insertedKey (env : Env) (d : Delivery) : Option String :=
  match d.phase with
  | .ready (.link decision none) => some (bucketKey env d.now decision)
  | _ => none

/-- The alert whose row it has changed. -/
def Delivery.markedAlert (d : Delivery) : Option Uuid :=
  match d.phase with
  | .marked alertId _ => some alertId
  | .sawIncident alertId _ _ => some alertId
  | .ready (.resolve alertId _ _ _) => some alertId
  | _ => none

/-- The incident that a plan is about. -/
def Plan.incident : Plan → Option Uuid
  | .resolve _ incidentId _ _ => some incidentId
  | .link _ (some (incidentId, _)) => some incidentId
  | _ => none

/-- The incident whose row its writes lock: to cancel it, or to refer to it. -/
def Plan.locks : Plan → Option Uuid
  | .resolve _ incidentId incident remaining =>
    if remaining = 0 ∧ incident.status = .triaging then some incidentId else none
  | .link _ (some (incidentId, _)) => some incidentId
  | _ => none

/-- The store the deliveries share, the deliveries so far, and the commands in the order
in which their keys were first committed. -/
structure Exchange where
  store : Store
  deliveries : List Delivery
  order : List (Time × AlertReceivedCommand)

/-- Some other delivery satisfies `p`. -/
def Exchange.another (x : Exchange) (k : Nat) (p : Delivery → Bool) : Bool :=
  x.deliveries.zipIdx.any (fun d => d.2 != k && p d.1)

inductive DeliveryEvent where
  | deliver (now : Time) (command : AlertReceivedCommand)
  | advance (delivery : Nat)
  | abort (delivery : Nat)

def Exchange.put (x : Exchange) (k : Nat) (d : Delivery) (phase : DeliveryPhase) : Exchange :=
  { x with deliveries := x.deliveries.set k { d with phase } }

/-- The lookup of a resolved notification, and of a firing one that has an external id. -/
def Exchange.lookup (env : Env) (x : Exchange) (k : Nat) (d : Delivery) : DeliveryPhase :=
  if d.command.status = .resolved then
    match findAlertToResolve x.store d.command (d.fingerprint env) with
    | none => .missed
    | some (alertId, alert) =>
      if alert.status = .resolved then .known alertId alert.incidentId
      else .found alertId alert
  else if d.command.externalId.isSome && x.another k (fun other =>
      other.insertsAlert && other.command.source == d.command.source &&
        other.command.externalId == d.command.externalId) then d.phase
  else
    match existingAlert x.store d.command with
    | some (alertId, alert) => .known alertId alert.incidentId
    | none => .inserted

/-- The incident of a new alert is read, or a new one is inserted. -/
def Exchange.chooseIncident (env : Env) (x : Exchange) (k : Nat) (d : Delivery)
    (decision : CorrelationDecision) : DeliveryPhase :=
  match decision.decision with
  | .correlate =>
    match decision.matchedIncidentId with
    | some incidentId =>
      match x.store.incidents[incidentId]? with
      | some incident => .ready (.link decision (some (incidentId, incident)))
      | none => .failed
    | none => .failed
  | .newIncident =>
    match selectOpenIncident x.store (bucketKey env d.now decision) with
    | some existing => .ready (.link decision (some existing))
    | none =>
      if x.another k (fun other => other.insertedKey env == some (bucketKey env d.now decision))
      then d.phase
      else .ready (.link decision none)

/-- The resolved alert is inserted, unlinked: refused where its external id is there. -/
def Exchange.insertUnmatched (x : Exchange) (k : Nat) (d : Delivery) : DeliveryPhase :=
  if d.command.externalId.isSome && x.another k (fun other =>
      other.insertsAlert && other.command.source == d.command.source &&
        other.command.externalId == d.command.externalId) then d.phase
  else if (existingAlert x.store d.command).isSome then .failed
  else .ready .unmatched

/-- The next read of a delivery; where it has to wait, it stays where it is. -/
def Exchange.nextPhase (env : Env) (x : Exchange) (k : Nat) (d : Delivery) : DeliveryPhase :=
  match d.phase with
  | .begun =>
    if x.another k (fun other => other.holdsLock && other.sameLock d) then .begun else .locked
  | .locked => x.lookup env k d
  | .known alertId incidentId =>
    .ready (.replay alertId incidentId (incidentStatusOf x.store incidentId))
  | .inserted =>
    .decided (correlationDecision env d.now x.store d.command (d.fingerprint env))
  | .decided decision => x.chooseIncident env k d decision
  | .missed => x.insertUnmatched k d
  | .found alertId alert =>
    if x.another k (fun other => other.markedAlert == some alertId) then .found alertId alert
    else .marked alertId alert
  | .marked alertId alert =>
    match alert.incidentId with
    | some incidentId =>
      match x.store.incidents[incidentId]? with
      | some incident => .sawIncident alertId incidentId incident
      | none => .failed
    | none => .failed
  | .sawIncident alertId incidentId incident =>
    -- the delivery sees its own update of the alert
    .ready (.resolve alertId incidentId incident
      (countFiringAlerts (markAlertResolved x.store d.now alertId) incidentId))
  | phase => phase

/-- The delivery writes and commits; where its key was committed by another delivery
meanwhile, it leaves no trace and answers what that one answered. -/
def Exchange.commit (env : Env) (x : Exchange) (k : Nat) (d : Delivery) (plan : Plan) :
    Exchange :=
  match writePlan env d.now x.store d.command (d.fingerprint env) plan with
  | .error _ => x.put k d .failed
  | .ok (result, s) =>
    match getProcessedCommand x.store d.command.idempotencyKey with
    | some winner => x.put k d (.answered winner.result)
    | none =>
      { store := { s with alert := { s.alert with
          processedCommands := s.alert.processedCommands ++
            [{ idempotencyKey := d.command.idempotencyKey, result }] } }
        deliveries := x.deliveries.set k { d with phase := .answered result }
        order := x.order ++ [(d.now, d.command)] }

/-- One event; `held` are the incidents whose rows other transactions hold. -/
def Exchange.step (env : Env) (held : List Uuid) (x : Exchange) : DeliveryEvent → Exchange
  | .deliver now command =>
    let phase := match getProcessedCommand x.store command.idempotencyKey with
      | some existing => .answered existing.result
      | none => .begun
    { x with deliveries := x.deliveries ++ [{ command, now, phase }] }
  | .advance k =>
    match x.deliveries[k]? with
    | none => x
    | some d =>
      match d.phase with
      | .ready plan =>
        if plan.locks.any held.contains then x else x.commit env k d plan
      | _ => x.put k d (x.nextPhase env k d)
  | .abort k =>
    match x.deliveries[k]? with
    | none => x
    | some d =>
      match d.phase with
      | .answered _ => x
      | _ => x.put k d .failed

/-- No delivery yet. -/
def Exchange.start (s : Store) : Exchange :=
  { store := s, deliveries := [], order := [] }

/-- The deliveries after a run from a store, when no other transaction is open. -/
def exchangeFrom (env : Env) (s : Store) (events : List DeliveryEvent) : Exchange :=
  Machine.run (Exchange.step env []) (.start s) events

end IncidentTriage.Incident
