import IncidentTriage.Events.Streams
import IncidentTriage.Library.Runs

/-! # The outbox relay

A relay reads a batch of unpublished rows, publishes them one after the other and
commits each mark on its own.  Every interaction with the database or with Redis is
a step of its own, so that relays interleave and a crash can fall between any two.
The session keeps its row objects over its commits: what a relay marks and writes
back starts from the attributes it read with its batch.
-/

namespace IncidentTriage.Events

open IncidentTriage.Python IncidentTriage.Incident

/-- A row of `outbox_events`: the event, and what the relays note on it. -/
structure OutboxRow where
  event : OutboxEventRow
  publishedAt : Option Time := none
  publishAttempts : Nat := 0
  lastPublishError : Option String := none

def newOutboxRow (event : OutboxEventRow) : OutboxRow := { event }

structure RelaySettings where
  topology : Topology
  batchSize : Nat := 100
  maxPublishAttempts : Nat := 3

/-! ## Persistence -/

def getUnpublishedOutboxEvents (rows : List OutboxRow) (limit : Nat) :
    List (Uuid × OutboxRow) :=
  (Table.select (fun row => row.publishedAt.isNone) rows).take limit

def markOutboxEventPublished (now : Time) (row : OutboxRow) : OutboxRow :=
  { row with
    publishedAt := some now
    publishAttempts := row.publishAttempts + 1
    lastPublishError := none }

def markOutboxEventPublishFailed (row : OutboxRow) (error : String) : OutboxRow :=
  { row with
    publishAttempts := row.publishAttempts + 1
    lastPublishError := some (truncate error 2000) }

/-- The `UPDATE` of a commit: it sets the columns whose attribute was changed since
the row was `loaded`. -/
def flush (loaded marked stored : OutboxRow) : OutboxRow :=
  { stored with
    publishedAt :=
      if marked.publishedAt = loaded.publishedAt then stored.publishedAt
      else marked.publishedAt
    publishAttempts :=
      if marked.publishAttempts = loaded.publishAttempts then stored.publishAttempts
      else marked.publishAttempts
    lastPublishError :=
      if marked.lastPublishError = loaded.lastPublishError then stored.lastPublishError
      else marked.lastPublishError }

/-! ## Publishing -/

/-- What becomes of an `XADD`: a connection that breaks may have delivered it. -/
inductive PublishOutcome where
  | delivered
  | lost (error : String)
  | unacknowledged (error : String)

/-- What `publish` appends, and what it raises. -/
def publish (t : Topology) (event : OutboxEventEnvelope) (outcome : PublishOutcome) :
    List StreamEntry × Option String :=
  match streamNameForEvent t event.correlationId event.aggregateId with
  | none => ([], some "integer modulo by zero")
  | some stream =>
    match outcome with
    | .delivered => ([{ stream, event }], none)
    | .lost error => ([], some error)
    | .unacknowledged error => ([{ stream, event }], some error)

/-! ## One pass -/

/-- Where a relay stands with a row of its batch. -/
inductive PublishStage where
  | publishing (attempt : Nat)
  | returned (success : Bool) (error : Option String)
  /-- Marked in the session, and not committed. -/
  | marked (row : OutboxRow)

/-- A batch being worked through: the row objects done, at hand and to come. -/
structure Pass where
  done : List (Uuid × OutboxRow)
  current : Uuid × OutboxRow
  stage : PublishStage
  rest : List (Uuid × OutboxRow)

def publishWithRetry (settings : RelaySettings) : PublishStage :=
  if settings.maxPublishAttempts = 0 then .returned false none else .publishing 1

/-- Go on with the next row of the batch, if there is one. -/
def nextRow (settings : RelaySettings) (done : List (Uuid × OutboxRow)) :
    List (Uuid × OutboxRow) → Option Pass
  | [] => none
  | current :: rest =>
    some { done, current, stage := publishWithRetry settings, rest }

/-- After an attempt: done, or again while attempts are left. -/
def afterAttempt (settings : RelaySettings) (attempt : Nat) : Option String → PublishStage
  | none => .returned true none
  | some error =>
    if attempt < settings.maxPublishAttempts then .publishing (attempt + 1)
    else .returned false (some error)

/-- The mark `relay_once` puts on a row when `_publish_with_retry` has returned. -/
def markOf (now : Time) (row : OutboxRow) (success : Bool) (error : Option String) : OutboxRow :=
  if success then markOutboxEventPublished now row
  else markOutboxEventPublishFailed row
    (match error with
      | some error => if error = "" then "unknown error" else error
      | none => "unknown error")

inductive RelayAct where
  | read
  | attempt (outcome : PublishOutcome)
  | mark (now : Time)
  | save
  | crash

/-- The database, the streams, and the passes of the relays. -/
structure Post where
  rows : List OutboxRow
  entries : List StreamEntry
  relays : List (Option Pass)

def Post.put (p : Post) (relay : Nat) (pass : Option Pass) : Post :=
  { p with relays := p.relays.set relay pass }

/-- One act of a relay that stands at `pass`. -/
def Post.act (settings : RelaySettings) (p : Post) (relay : Nat) :
    Option Pass → RelayAct → Post
  | none, .read =>
    p.put relay
      (nextRow settings [] (getUnpublishedOutboxEvents p.rows settings.batchSize))
  | none, _ => p
  | some _, .crash => p.put relay none
  | some pass, act =>
    match pass.stage, act with
    | .publishing attempt, .attempt outcome =>
      let (appended, raised) := publish settings.topology
        (envelopeFromRow pass.current.1 pass.current.2.event) outcome
      { p with entries := p.entries ++ appended }.put relay
        (some { pass with stage := afterAttempt settings attempt raised })
    | .returned success error, .mark now =>
      p.put relay (some { pass with stage := .marked (markOf now pass.current.2 success error) })
    | .marked row, .save =>
      { p with rows := p.rows.modify pass.current.1 (flush pass.current.2 row) }.put relay
        (nextRow settings (pass.done ++ [(pass.current.1, row)]) pass.rest)
    | _, _ => p

inductive PostEvent where
  /-- A transaction of incident-core commits its events. -/
  | commit (events : List OutboxEventRow)
  | relay (relay : Nat) (act : RelayAct)

def Post.step (settings : RelaySettings) (p : Post) : PostEvent → Post
  | .commit events => { p with rows := p.rows ++ events.map newOutboxRow }
  | .relay relay act =>
    match p.relays[relay]? with
    | none => p
    | some pass => p.act settings relay pass act

/-- An empty outbox, empty streams and so many idle relays. -/
def emptyPost (relays : Nat) : Post :=
  { rows := [], entries := [], relays := List.replicate relays none }

def postAfter (settings : RelaySettings) (relays : Nat) (events : List PostEvent) : Post :=
  Machine.run (Post.step settings) (emptyPost relays) events

end IncidentTriage.Events
