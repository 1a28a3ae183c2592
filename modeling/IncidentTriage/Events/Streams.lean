import IncidentTriage.Incident.Models

/-! # Streams of published events

What the relay hands to the transport and where it goes: the envelope of an outbox
row, and the sharded stream topology.  The sequence and the event id of an outbox
row are its place in the outbox.
-/

namespace IncidentTriage.Events

open IncidentTriage.Python IncidentTriage.Incident

/-! ## The envelope -/

/-- The `event_type` column of an outbox row. -/
def eventType : OutboxPayload → String
  | .alertReceived .. => "AlertReceived"
  | .alertResolved .. => "AlertResolved"
  | .alertCorrelated .. => "AlertCorrelated"
  | .incidentCreated .. => "IncidentCreated"
  | .incidentStatusChanged .. => "IncidentStatusChanged"
  | .evidenceRefRegistered .. => "EvidenceRefRegistered"
  | .investigationStarted .. => "InvestigationStarted"
  | .investigationCompleted .. => "InvestigationCompleted"
  | .investigationFailed .. => "InvestigationFailed"
  | .remediation type .. => type
  | .verificationRequested .. => "VerificationRequested"
  | .killSwitchChanged .. => "KillSwitchChanged"
  | .verificationStarted .. => "VerificationStarted"
  | .verificationCompleted .. => "VerificationCompleted"
  | .incidentResolved .. => "IncidentResolved"
  | .incidentEscalated .. => "IncidentEscalated"

structure OutboxEventEnvelope where
  eventId : Uuid
  eventType : String
  aggregateType : AggregateType
  aggregateId : Uuid
  correlationId : Option Uuid
  payload : OutboxPayload
  occurredAt : Time

def envelopeFromRow (eventId : Uuid) (row : OutboxEventRow) : OutboxEventEnvelope :=
  { eventId
    eventType := eventType row.payload
    aggregateType := row.aggregateType
    aggregateId := row.aggregateId
    correlationId := row.correlationId
    payload := row.payload
    occurredAt := row.occurredAt }

/-! ## Topology -/

/-- The streams of a deployment.  `digest` reads the first eight bytes of the hash
of a shard key as a number. -/
structure Topology where
  streamPrefix : String := "stream:events"
  shardCount : Nat := 8
  digest : String → Nat

/-- `ZeroDivisionError` without shards. -/
def shardForKey (t : Topology) (key : String) : Option Nat :=
  if t.shardCount = 0 then none else some (t.digest key % t.shardCount)

/-- The value events are sharded by: the incident, wherever it is known. -/
def shardKeyForEvent (correlationId : Option Uuid) (aggregateId : Uuid) : String :=
  match correlationId with
  | some correlationId => uuidStr correlationId
  | none => uuidStr aggregateId

def streamNameForShard (t : Topology) (shard : Nat) : String :=
  t.streamPrefix ++ ":" ++ toString shard

def streamNameForEvent (t : Topology) (correlationId : Option Uuid) (aggregateId : Uuid) :
    Option String :=
  (shardForKey t (shardKeyForEvent correlationId aggregateId)).map (streamNameForShard t)

def allStreamNames (t : Topology) : List String :=
  (List.range t.shardCount).map (streamNameForShard t)

def deadLetterStreamName (t : Topology) : String := t.streamPrefix ++ ":dlq"

/-- Events that share a correlation id share their stream. -/
theorem streamNameForEvent_of_correlation (t : Topology) (correlation one other : Uuid) :
    streamNameForEvent t (some correlation) one =
      streamNameForEvent t (some correlation) other := rfl

/-- The stream of an event is one of those the consumer groups read. -/
theorem streamNameForEvent_mem {t : Topology} {correlationId : Option Uuid} {aggregateId : Uuid}
    {name : String} (named : streamNameForEvent t correlationId aggregateId = some name) :
    name ∈ allStreamNames t := by
  unfold streamNameForEvent shardForKey at named
  by_cases empty : t.shardCount = 0
  · simp [empty] at named
  · rw [if_neg empty] at named
    apply List.mem_map.mpr
    exact ⟨_, List.mem_range.mpr (Nat.mod_lt _ (Nat.pos_of_ne_zero empty)),
      Option.some.inj named⟩

/-- What `XADD` appended, and to which stream. -/
structure StreamEntry where
  stream : String
  event : OutboxEventEnvelope

end IncidentTriage.Events
