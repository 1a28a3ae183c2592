import IncidentTriage.Events.Streams
import IncidentTriage.Library.Runs

/-! # Consumers of one stream

The consumers of one group on one stream: every entry of an event is on the stream
its correlation and aggregate name.  The place of an entry is its message id.  The
group remembers every entry it delivered, pending with its delivery count or
acknowledged; the ledger of the group is a table.  Each call to Redis, to the ledger
or to the handler is a step of its own, and a call that raises where nothing catches
it ends the process: a crash.
-/

namespace IncidentTriage.Events

open IncidentTriage.Python

structure ConsumerSettings where
  maxDeliveries : Int := 5
  /-- Microseconds. -/
  claimMinIdle : Int := 30000000
  batchSize : Nat := 10

inductive Delivery where
  | process | poison
  deriving DecidableEq

def classifyDelivery (deliveryCount maxDeliveries : Int) : Delivery :=
  if maxDeliveries < deliveryCount then .poison else .process

/-- What a handler call ends with. -/
inductive HandlerOutcome where
  | returned
  /-- It raised `PermanentProcessingError`. -/
  | permanentError (error : String)
  | failed

/-- Where `_handle_message` stands. -/
inductive HandlingStage where
  /-- Not poison; `is_duplicate` is asked next. -/
  | undecided
  | duplicate
  | ready
  | handling
  /-- The handler returned; `mark_processed` is next. -/
  | handled
  | marked
  | deadLettering (reason : String)
  | deadLettered
  deriving DecidableEq

structure Handling where
  messageId : Nat
  event : OutboxEventEnvelope
  stage : HandlingStage

/-- What `run_once` calls when every message of its last reply is handled. -/
inductive Turn where
  | reclaim (cursor : Nat)
  | readNew
  deriving DecidableEq

structure Consumer where
  turn : Turn := .reclaim 0
  inbox : List Nat := []
  hand : Option Handling := none

structure PendingEntry where
  timesDelivered : Nat
  deliveredAt : Time

structure DeadLetter where
  event : OutboxEventEnvelope
  reason : String

/-- Calls of the handler, by event id. -/
inductive HandlerCall where
  | started (event : Uuid)
  | returned (event : Uuid)
  deriving DecidableEq

/-- The stream, what Redis and the database keep for the group, and its processes. -/
structure Group where
  /-- `none`: no envelope can be read from the fields of the entry. -/
  entries : List (Option OutboxEventEnvelope)
  /-- The entries delivered so far, in stream order; `none` once acknowledged. -/
  deliveries : List (Option PendingEntry)
  consumed : List Uuid
  deadLetters : List DeadLetter
  calls : List HandlerCall
  consumers : List Consumer

/-! ## Redis and the ledger -/

def Group.pendingEntry (g : Group) (messageId : Nat) : Option PendingEntry :=
  (g.deliveries[messageId]?).join

def deliveryCount (g : Group) (messageId : Nat) : Nat :=
  match g.pendingEntry messageId with
  | none => 1
  | some pending => pending.timesDelivered

/-- A reply of `XAUTOCLAIM`: entries from the cursor on, idle for long enough. -/
def claimable (settings : ConsumerSettings) (g : Group) (now : Time) (cursor : Nat)
    (ids : List Nat) : Bool :=
  decide (ids.length ≤ settings.batchSize) && decide (ids.Pairwise (· < ·)) &&
    ids.all (fun id => decide (cursor ≤ id) &&
      match g.pendingEntry id with
      | none => false
      | some pending => decide (settings.claimMinIdle ≤ now - pending.deliveredAt))

def redelivered (now : Time) (pending : PendingEntry) : PendingEntry :=
  { timesDelivered := pending.timesDelivered + 1, deliveredAt := now }

def redeliver (now : Time) (deliveries : List (Option PendingEntry)) (ids : List Nat) :
    List (Option PendingEntry) :=
  ids.foldl (fun deliveries id => deliveries.modify id (Option.map (redelivered now))) deliveries

/-- The entries `XREADGROUP` hands out. -/
def newIds (settings : ConsumerSettings) (g : Group) : List Nat :=
  (List.range' g.deliveries.length (g.entries.length - g.deliveries.length)).take
    settings.batchSize

def Group.ack (g : Group) (messageId : Nat) : Group :=
  { g with deliveries := g.deliveries.set messageId none }

def hasConsumedEvent (g : Group) (event : Uuid) : Bool := g.consumed.contains event

/-- `ON CONFLICT DO NOTHING`. -/
def markEventConsumed (g : Group) (event : Uuid) : Group :=
  { g with consumed := if hasConsumedEvent g event then g.consumed else g.consumed ++ [event] }

def Group.call (g : Group) (call : HandlerCall) : Group := { g with calls := g.calls ++ [call] }

def Group.deadLetter (g : Group) (letter : DeadLetter) : Group :=
  { g with deadLetters := g.deadLetters ++ [letter] }

/-! ## One consumer -/

def Group.put (g : Group) (consumer : Nat) (c : Consumer) : Group :=
  { g with consumers := g.consumers.set consumer c }

/-- `_handle_message` begins: the envelope and the delivery count are read. -/
def beginMessage (settings : ConsumerSettings) (g : Group) (c : Consumer) (messageId : Nat)
    (inbox : List Nat) : Consumer :=
  match (g.entries[messageId]?).join with
  -- the process ends with what `model_validate` raised
  | none => {}
  | some event =>
    let stage : HandlingStage :=
      match classifyDelivery (deliveryCount g messageId) settings.maxDeliveries with
      | .poison => .deadLettering "max_deliveries_exceeded"
      | .process => .undecided
    { c with inbox, hand := some { messageId, event, stage } }

/-- The next step of `_handle_message`; `outcome` is what a handler call ends with. -/
def handleMessage (g : Group) (consumer : Nat) (c : Consumer) (h : Handling)
    (outcome : HandlerOutcome) : Group :=
  let goTo := fun stage => { c with hand := some { h with stage } }
  let done := { c with hand := none }
  match h.stage with
  | .undecided =>
    g.put consumer (goTo (if hasConsumedEvent g h.event.eventId then .duplicate else .ready))
  | .duplicate => (g.ack h.messageId).put consumer done
  | .ready =>
    (g.call (.started h.event.eventId)).put consumer (goTo .handling)
  | .handling =>
    match outcome with
    | .returned =>
      (g.call (.returned h.event.eventId)).put consumer (goTo .handled)
    | .permanentError error =>
      g.put consumer (goTo (.deadLettering ("permanent_error: " ++ error)))
    -- no acknowledgement: the message stays pending
    | .failed => g.put consumer done
  | .handled => (markEventConsumed g h.event.eventId).put consumer (goTo .marked)
  | .marked => (g.ack h.messageId).put consumer done
  | .deadLettering reason =>
    (g.deadLetter { event := h.event, reason }).put consumer (goTo .deadLettered)
  | .deadLettered => (g.ack h.messageId).put consumer done

inductive ConsumerAct where
  /-- `XAUTOCLAIM`: the entries claimed, and the cursor to go on from. -/
  | claim (now : Time) (ids : List Nat) (next : Option Nat)
  | read (now : Time)
  | advance (outcome : HandlerOutcome)
  | crash

def Group.act (settings : ConsumerSettings) (g : Group) (consumer : Nat) (c : Consumer) :
    ConsumerAct → Group
  | .crash => g.put consumer {}
  | .advance outcome =>
    match c.hand, c.inbox with
    | some h, _ => handleMessage g consumer c h outcome
    | none, messageId :: inbox => g.put consumer (beginMessage settings g c messageId inbox)
    | none, [] => g
  | .claim now ids next =>
    match c.turn, c.hand, c.inbox with
    | .reclaim cursor, none, [] =>
      if claimable settings g now cursor ids then
        let turn : Turn :=
          match ids, next with
          | [], _ => .readNew
          | _, none => .readNew
          | _, some cursor => .reclaim cursor
        { g with deliveries := redeliver now g.deliveries ids }.put consumer
          { c with turn, inbox := ids }
      else g
    | _, _, _ => g
  | .read now =>
    match c.turn, c.hand, c.inbox with
    | .readNew, none, [] =>
      let ids := newIds settings g
      let pending : PendingEntry := { timesDelivered := 1, deliveredAt := now }
      { g with deliveries := g.deliveries ++ List.replicate ids.length (some pending) }.put consumer
        { c with turn := .reclaim 0, inbox := ids }
    | _, _, _ => g

inductive GroupEvent where
  | append (entry : Option OutboxEventEnvelope)
  | consumer (consumer : Nat) (act : ConsumerAct)

def Group.step (settings : ConsumerSettings) (g : Group) : GroupEvent → Group
  | .append entry => { g with entries := g.entries ++ [entry] }
  | .consumer consumer act =>
    match g.consumers[consumer]? with
    | none => g
    | some c => g.act settings consumer c act

/-- An empty stream, nothing consumed, and so many consumers that just started. -/
def emptyGroup (consumers : Nat) : Group :=
  { entries := [], deliveries := [], consumed := [], deadLetters := [], calls := [],
    consumers := List.replicate consumers {} }

def groupAfter (settings : ConsumerSettings) (consumers : Nat) (events : List GroupEvent) :
    Group :=
  Machine.run (Group.step settings) (emptyGroup consumers) events

end IncidentTriage.Events
