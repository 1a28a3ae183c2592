import IncidentTriage.Events.Consumer
import IncidentTriage.Events.Relay
import IncidentTriage.Incident.System

/-! # From a command to the handlers of its events

incident-core, the relays of its outbox and one consumer group.  A command commits its
events with its other rows; a relay appends them to the streams of their shards; the group
has consumers on the stream of every shard, and one ledger for all of them.
-/

namespace IncidentTriage.Events

open IncidentTriage.Python IncidentTriage.Incident

structure PipelineSettings where
  env : Env
  relay : RelaySettings
  consumer : ConsumerSettings

structure Pipeline where
  world : World
  post : Post
  /-- The group on the stream of each shard. -/
  shards : List Group
  /-- The rows of `consumed_events` of the group. -/
  consumed : List Uuid

inductive PipelineEvent where
  | command (event : Event)
  | relay (relay : Nat) (act : RelayAct)
  | consumer (shard consumer : Nat) (act : ConsumerAct)

/-- The entries on the stream of a shard. -/
def entriesOn (t : Topology) (entries : List StreamEntry) (shard : Nat) :
    List (Option OutboxEventEnvelope) :=
  (entries.filter (fun entry => entry.stream == streamNameForShard t shard)).map
    (fun entry => some entry.event)

def Group.receive (g : Group) (entries : List (Option OutboxEventEnvelope)) : Group :=
  { g with entries := g.entries ++ entries }

/-- The group, reading the ledger as it is now. -/
def Group.reading (g : Group) (consumed : List Uuid) : Group := { g with consumed }

def Pipeline.step (settings : PipelineSettings) (p : Pipeline) : PipelineEvent → Pipeline
  | .command event =>
    let world := Incident.step settings.env p.world event
    let committed := world.store.audit.outbox.drop p.world.store.audit.outbox.length
    { p with world, post := p.post.step settings.relay (.commit committed) }
  | .relay relay act =>
    let post := p.post.step settings.relay (.relay relay act)
    let appended := post.entries.drop p.post.entries.length
    { p with
      post
      shards := p.shards.mapIdx (fun shard g =>
        g.receive (entriesOn settings.relay.topology appended shard)) }
  | .consumer shard consumer act =>
    match p.shards[shard]? with
    | none => p
    | some g =>
      let g := (g.reading p.consumed).step settings.consumer (.consumer consumer act)
      { p with shards := p.shards.set shard g, consumed := g.consumed }

/-- So many relays, and so many consumers on every stream. -/
def emptyPipeline (settings : PipelineSettings) (clock : Time) (relays consumers : Nat) :
    Pipeline :=
  { world := emptyWorld clock
    post := emptyPost relays
    shards := List.replicate settings.relay.topology.shardCount (emptyGroup consumers)
    consumed := [] }

def pipelineAfter (settings : PipelineSettings) (clock : Time) (relays consumers : Nat)
    (events : List PipelineEvent) : Pipeline :=
  Machine.run (Pipeline.step settings) (emptyPipeline settings clock relays consumers) events

end IncidentTriage.Events
