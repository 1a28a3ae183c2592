import IncidentTriage.Events.Pipeline
import IncidentTriage.Library.Keys
import IncidentTriage.Verified.MalformedEntries
import IncidentTriage.Verified.Relay
import IncidentTriage.Verified.Transactions

/-! # Every event reaches its handler

From the command that commits an event to the handler that is called with it, nothing is lost
and nothing is made up, whatever the relays and the consumers do and wherever they crash.  On
each stream an entry that was delivered is pending until it is settled: recorded as consumed,
or dead-lettered.
-/

namespace IncidentTriage.Events

open IncidentTriage.Python IncidentTriage.Incident

/-! ## What a group settles -/

section
variable {settings : ConsumerSettings} {g : Group} {k : Nat} {c : Consumer}

def HandlerCall.event : HandlerCall → Uuid
  | .started event | .returned event => event

/-- A message is settled: its event is on record, or a dead letter is written of it. -/
def Group.settles (g : Group) (event : OutboxEventEnvelope) : Prop :=
  event.eventId ∈ g.consumed ∨ ∃ letter ∈ g.deadLetters, letter.event = event

/-- What a consumer knows of the message in hand. -/
structure HandKnows (g : Group) (h : Handling) : Prop where
  settled : h.stage.acknowledges = true → g.settles h.event
  returned : h.stage = .handled → .returned h.event.eventId ∈ g.calls

structure Accounts (g : Group) : Prop where
  retains : Retains g
  /-- What is no longer pending is settled. -/
  settled : ∀ m event, m < g.deliveries.length → g.pendingEntry m = none →
    g.entries[m]? = some (some event) → g.settles event
  hands : ∀ k h, g.handOf k = some h → HandKnows g h
  /-- The handler is called with events of the stream. -/
  calls : ∀ call ∈ g.calls, ∃ (m : Nat) (event : OutboxEventEnvelope),
    g.entries[m]? = some (some event) ∧ event.eventId = call.event

/-- What an act makes of the entries delivered so far. -/
inductive Redelivers (deliveries : List (Option PendingEntry)) (hand : Option Handling) :
    List (Option PendingEntry) → Prop where
  | same : Redelivers deliveries hand deliveries
  | claims (now : Time) (ids : List Nat) :
      Redelivers deliveries hand (redeliver now deliveries ids)
  | reads (n : Nat) (pending : PendingEntry) :
      Redelivers deliveries hand (deliveries ++ List.replicate n (some pending))
  | acks (h : Handling) (inHand : hand = some h) (stage : h.stage.acknowledges = true) :
      Redelivers deliveries hand (deliveries.set h.messageId none)

theorem act_redelivers (act : ConsumerAct) :
    Redelivers g.deliveries c.hand (g.act settings k c act).deliveries := by
  cases act with
  | crash => exact .same
  | claim now ids next =>
    simp only [Group.act]
    split
    · split_ifs
      · exact .claims now ids
      · exact .same
    · exact .same
  | read now =>
    simp only [Group.act]
    split
    · exact .reads _ _
    · exact .same
  | advance outcome =>
    obtain ⟨turn, inbox, hand⟩ := c
    cases hand with
    | none => cases inbox <;> exact .same
    | some h =>
      obtain ⟨messageId, event, stage⟩ := h
      cases stage with
      | duplicate | marked | deadLettered => exact .acks _ rfl rfl
      | handling => cases outcome <;> exact .same
      | _ => exact .same

/-- Nothing is taken out of the pending entries but what a consumer acknowledges. -/
theorem Redelivers.pending {deliveries deliveries' : List (Option PendingEntry)}
    {hand : Option Handling} (redelivers : Redelivers deliveries hand deliveries') {m : Nat}
    (inside : m < deliveries'.length) (gone : (deliveries'[m]?).join = none) :
    (m < deliveries.length ∧ (deliveries[m]?).join = none) ∨
      ∃ h, hand = some h ∧ h.stage.acknowledges = true ∧ h.messageId = m := by
  cases redelivers with
  | same => exact .inl ⟨inside, gone⟩
  | claims now ids =>
    rw [length_redeliver] at inside
    refine .inl ⟨inside, ?_⟩
    by_contra pending
    have still := isSome_redeliver now ids (Option.isSome_iff_ne_none.mpr pending)
    rw [gone] at still
    cases still
  | reads n pending =>
    by_cases old : m < deliveries.length
    · rw [List.getElem?_append_left old] at gone
      exact .inl ⟨old, gone⟩
    · -- what is handed out for the first time is pending
      rw [List.length_append, List.length_replicate] at inside
      rw [List.getElem?_append_right (by omega), List.getElem?_replicate_of_lt (by omega)] at gone
      cases gone
  | acks h inHand stage =>
    by_cases same : h.messageId = m
    · exact .inr ⟨h, inHand, stage, same⟩
    · rw [List.length_set] at inside
      rw [List.getElem?_set_ne same] at gone
      exact .inl ⟨inside, gone⟩

theorem Group.settles.mono {g' : Group} {event : OutboxEventEnvelope} (settled : g.settles event)
    (consumed : g.consumed ⊆ g'.consumed) (letters : g.deadLetters ⊆ g'.deadLetters) :
    g'.settles event :=
  settled.imp (fun known => consumed known)
    (fun ⟨letter, written, of⟩ => ⟨letter, letters written, of⟩)

theorem HandKnows.mono {g' : Group} {h : Handling} (knows : HandKnows g h)
    (consumed : g.consumed ⊆ g'.consumed) (letters : g.deadLetters ⊆ g'.deadLetters)
    (calls : g.calls ⊆ g'.calls) : HandKnows g' h :=
  ⟨fun stage => (knows.settled stage).mono consumed letters,
    fun stage => calls (knows.returned stage)⟩

/-- What an act leaves of the ledger, the dead letters and the calls. -/
theorem Moved.grows {act : ConsumerAct} {letters : List DeadLetter} {consumed : List Uuid}
    {calls : List HandlerCall} {hand : Option Handling}
    (moved : Moved settings g c act letters consumed calls hand) :
    g.consumed ⊆ consumed ∧ g.deadLetters ⊆ letters ∧ g.calls ⊆ calls := by
  cases moved with
  | starts | returns => exact ⟨List.Subset.refl _, List.Subset.refl _, List.subset_append_left _ _⟩
  | buries => exact ⟨List.Subset.refl _, List.subset_append_left _ _, List.Subset.refl _⟩
  | records h =>
    refine ⟨fun event known => ?_, List.Subset.refl _, List.Subset.refl _⟩
    exact mem_markEventConsumed.mpr (.inl known)
  | _ => exact ⟨List.Subset.refl _, List.Subset.refl _, List.Subset.refl _⟩

theorem mem_of_handOf {k : Nat} {h : Handling} (inHand : g.handOf k = some h) :
    ∃ c ∈ g.consumers, h ∈ c.hand := by
  obtain ⟨c, stands, hand⟩ := consumer_of_handOf inHand
  exact ⟨c, List.mem_of_getElem? stands, hand⟩

/-- The message in hand after an act, and what is known of it. -/
theorem Moved.hand_knows {act : ConsumerAct} {g' : Group} {hand : Option Handling}
    (moved : Moved settings g c act g'.deadLetters g'.consumed g'.calls hand)
    (before : ∀ h, c.hand = some h → HandKnows g h) : ∀ h, hand = some h → HandKnows g' h := by
  have grown := moved.grows
  generalize letters : g'.deadLetters = deadLetters at moved grown
  generalize ledger : g'.consumed = consumed at moved grown
  generalize made : g'.calls = calls at moved grown
  have fresh : ∀ h : Handling, h.stage.acknowledges = false → h.stage ≠ .handled →
      HandKnows g' h := by
    intro h early other
    refine ⟨fun late => ?_, fun stage => absurd stage other⟩
    rw [early] at late
    cases late
  cases moved with
  | waits act elsewhere =>
    intro h inHand
    exact (before h inHand).mono (ledger ▸ grown.1) (letters ▸ grown.2.1) (made ▸ grown.2.2)
  | ends | raises | leaves | settles =>
    intro h none
    cases none
  | begins messageId inbox event outcome free next read =>
    rintro h ⟨⟩
    unfold firstStage
    split
    · exact fresh _ rfl (by simp)
    · exact fresh _ rfl (by simp)
  | tests h outcome inHand stage =>
    rintro h' ⟨⟩
    split_ifs with known
    · refine ⟨fun _ => .inl ?_, fun stage => by cases stage⟩
      rw [ledger]
      exact mem_of_hasConsumedEvent.mp known
    · exact fresh _ rfl (by simp)
  | starts h outcome inHand stage =>
    rintro h' ⟨⟩
    exact fresh _ rfl (by simp)
  | returns h inHand stage =>
    rintro h' ⟨⟩
    refine ⟨fun late => (by cases late), fun _ => ?_⟩
    rw [made]
    exact List.mem_append_right _ (List.mem_singleton_self _)
  | rejects h error inHand stage =>
    rintro h' ⟨⟩
    exact fresh _ rfl (by simp)
  | records h outcome inHand stage =>
    rintro h' ⟨⟩
    refine ⟨fun _ => .inl ?_, fun stage => by cases stage⟩
    rw [ledger]
    exact mem_markEventConsumed.mpr (.inr rfl)
  | buries h reason outcome inHand stage =>
    rintro h' ⟨⟩
    refine ⟨fun _ => .inr ⟨{ event := h.event, reason }, ?_, rfl⟩, fun stage => by cases stage⟩
    rw [letters]
    exact List.mem_append_right _ (List.mem_singleton_self _)

/-- The calls an act makes are with the message in hand. -/
theorem Moved.calls_hand {act : ConsumerAct} {letters : List DeadLetter} {consumed : List Uuid}
    {calls : List HandlerCall} {hand : Option Handling}
    (moved : Moved settings g c act letters consumed calls hand) :
    ∀ call ∈ calls, call ∈ g.calls ∨ ∃ h, c.hand = some h ∧ call.event = h.event.eventId := by
  intro call made
  cases moved with
  | starts h outcome inHand stage | returns h inHand stage =>
    rcases List.mem_append.mp made with old | new
    · exact .inl old
    · rw [List.mem_singleton.mp new]
      exact .inr ⟨h, inHand, rfl⟩
  | _ => exact .inl made

/-- What an act records is an event whose handler returned. -/
theorem Moved.consumed_hand {act : ConsumerAct} {letters : List DeadLetter} {consumed : List Uuid}
    {calls : List HandlerCall} {hand : Option Handling}
    (moved : Moved settings g c act letters consumed calls hand) :
    ∀ event ∈ consumed, event ∈ g.consumed ∨
      ∃ h, c.hand = some h ∧ h.stage = .handled ∧ event = h.event.eventId := by
  intro event known
  cases moved with
  | records h outcome inHand stage =>
    exact (mem_markEventConsumed.mp known).imp_right fun same => ⟨h, inHand, stage, same⟩
  | _ => exact .inl known

theorem Accounts.act (sound : Accounts g) (stands : g.consumers[k]? = some c) (act : ConsumerAct) :
    Accounts (g.act settings k c act) := by
  obtain ⟨letters, consumed, calls, hand, moved, became⟩ := act_moved settings stands act
  obtain rfl := became.deadLetters
  obtain rfl := became.consumed
  obtain rfl := became.calls
  have grown := moved.grows
  have entries : (g.act settings k c act).entries = g.entries := act_entries act
  have redelivers : Redelivers g.deliveries c.hand (g.act settings k c act).deliveries :=
    act_redelivers act
  have mine : ∀ h, c.hand = some h → HandKnows g h := by
    intro h inHand
    exact sound.hands k h ((handOf_eq stands).trans inHand)
  refine ⟨sound.retains.act stands act, ?_, ?_, ?_⟩
  · intro m event inside gone row
    rw [entries] at row
    rcases redelivers.pending inside gone with
      ⟨old, settled⟩ | ⟨h, inHand, stage, rfl⟩
    · exact (sound.settled m event old settled row).mono grown.1 grown.2.1
    · have read := sound.retains.hands c (List.mem_of_getElem? stands) h inHand
      rw [row] at read
      cases read
      exact ((mine h inHand).settled stage).mono grown.1 grown.2.1
  · intro other h inHand
    rw [became.handOf stands] at inHand
    split_ifs at inHand
    · exact moved.hand_knows mine h inHand
    · exact (sound.hands other h inHand).mono grown.1 grown.2.1 grown.2.2
  · intro call made
    rw [entries]
    rcases moved.calls_hand call made with old | ⟨h, inHand, same⟩
    · exact sound.calls call old
    · exact ⟨h.messageId, h.event, sound.retains.hands c (List.mem_of_getElem? stands) h inHand,
        same.symm⟩

/-- What a step of a consumer leaves, and adds. -/
structure Stepped (g g' : Group) : Prop where
  accounts : Accounts g'
  entries : g'.entries = g.entries
  consumed : g.consumed ⊆ g'.consumed
  calls : g.calls ⊆ g'.calls
  /-- What is recorded has been handled. -/
  returned : ∀ event ∈ g'.consumed, event ∈ g.consumed ∨ .returned event ∈ g'.calls

theorem Accounts.step (sound : Accounts g) (k : Nat) (act : ConsumerAct) :
    Stepped g (g.step settings (.consumer k act)) := by
  simp only [Group.step]
  cases stands : g.consumers[k]? with
  | none =>
    exact ⟨sound, rfl, List.Subset.refl _, List.Subset.refl _, fun event known => .inl known⟩
  | some c =>
    obtain ⟨letters, consumed, calls, hand, moved, became⟩ := act_moved settings stands act
    obtain rfl := became.deadLetters
    obtain rfl := became.consumed
    obtain rfl := became.calls
    obtain ⟨more, _, made⟩ := moved.grows
    refine ⟨sound.act stands act, act_entries act, more, made, ?_⟩
    intro event known
    refine (moved.consumed_hand event known).imp_right ?_
    rintro ⟨h, inHand, stage, rfl⟩
    exact made ((sound.hands k h ((handOf_eq stands).trans inHand)).returned stage)

end

/-! ## The streams and the ledger grow -/

theorem Retains.receive {g : Group} (sound : Retains g)
    (entries : List (Option OutboxEventEnvelope)) : Retains (g.receive entries) := by
  induction entries generalizing g with
  | nil =>
    rw [Group.receive, List.append_nil]
    exact sound
  | cons entry entries ih =>
    have one : Retains (g.step {} (.append entry)) := sound.step (.append entry)
    have rest := ih one
    rw [Group.receive, show (g.step {} (.append entry)).entries = g.entries ++ [entry] from rfl,
      List.append_assoc] at rest
    exact rest

theorem Accounts.receive {g : Group} (sound : Accounts g)
    (entries : List (Option OutboxEventEnvelope)) : Accounts (g.receive entries) where
  retains := sound.retains.receive entries
  settled := by
    intro m event inside gone row
    have old : m < g.entries.length := Nat.lt_of_lt_of_le inside sound.retains.delivered
    rw [Group.receive, List.getElem?_append_left old] at row
    exact sound.settled m event inside gone row
  hands := fun k h inHand =>
    (sound.hands k h inHand).mono (List.Subset.refl _) (List.Subset.refl _) (List.Subset.refl _)
  calls := by
    intro call made
    obtain ⟨m, event, row, same⟩ := sound.calls call made
    refine ⟨m, event, ?_, same⟩
    rw [Group.receive, List.getElem?_append_left (Table.lt_of_row row)]
    exact row

theorem Accounts.reading {g : Group} {consumed consumed' : List Uuid}
    (sound : Accounts (g.reading consumed)) (more : consumed ⊆ consumed') :
    Accounts (g.reading consumed') where
  retains := ⟨sound.retains.delivered, sound.retains.inboxes, sound.retains.hands,
    sound.retains.pending, sound.retains.letters⟩
  settled := fun m event inside gone row =>
    (sound.settled m event inside gone row).mono more (List.Subset.refl _)
  hands := fun k h inHand =>
    (sound.hands k h inHand).mono more (List.Subset.refl _) (List.Subset.refl _)
  calls := sound.calls

theorem accounts_empty (consumers : Nat) : Accounts (emptyGroup consumers) := by
  refine ⟨groupAfter_retains {} consumers [], ?_, ?_, ?_⟩
  · intro m event inside
    cases inside
  · intro k h inHand
    obtain ⟨c, member, held⟩ := mem_of_handOf inHand
    rw [List.eq_of_mem_replicate member] at held
    cases held
  · intro call made
    cases made

theorem entriesOn_append (t : Topology) (entries more : List StreamEntry) (shard : Nat) :
    entriesOn t (entries ++ more) shard = entriesOn t entries shard ++ entriesOn t more shard := by
  simp [entriesOn]

/-! ## The outbox and the rows of the relays -/

/-- Commands only add to the outbox. -/
theorem execute_outbox (env : Env) (now : Time) (tickets : List IssuedTicket) (s : Store)
    (c : Command) : s.audit.outbox <+: (execute env now tickets s c).audit.outbox := by
  refine Machine.preserved_of_path (P := fun s' => s.audit.outbox <+: s'.audit.outbox) ?_
    (Verified.execute_path env now tickets s c) (List.prefix_refl _)
  intro s₁ s₂ transaction before
  have grows : ∀ own, Verified.Publishes own s₁ s₂ → s.audit.outbox <+: s₂.audit.outbox := by
    rintro own ⟨events, grown, _⟩
    exact before.trans ⟨events, grown.symm⟩
  cases transaction with
  | alert step publishes => exact grows _ publishes
  | investigation step => exact grows _ step.publishes
  | remediation step publishes => exact grows _ publishes
  | verification step => exact grows _ step.publishes

/-- A relay adds entries, and keeps the events of the rows. -/
theorem step_relay (settings : RelaySettings) (p : Post) (relay : Nat) (act : RelayAct) :
    p.entries <+: (p.step settings (.relay relay act)).entries ∧
      (p.step settings (.relay relay act)).rows.map (·.event) = p.rows.map (·.event) := by
  simp only [Post.step]
  cases stands : p.relays[relay]? with
  | none => exact ⟨List.prefix_refl _, rfl⟩
  | some pass =>
    obtain ⟨rows, entries, pass', acted, same⟩ :
        ∃ rows entries pass', Acted settings p.rows p.entries pass act rows entries pass' ∧
          p.act settings relay pass act = { rows, entries, relays := p.relays.set relay pass' } :=
      act_acted stands act
    simp only [same]
    cases acted with
    | attempt pass attempt outcome appended raised stage published =>
      exact ⟨List.prefix_append _ _, rfl⟩
    | save pass row stage =>
      refine ⟨List.prefix_refl _, ?_⟩
      apply List.ext_getElem?
      intro place
      rw [List.getElem?_map, List.getElem?_map, List.getElem?_modify]
      cases p.rows[place]? with
      | none => simp
      | some stored => split_ifs <;> simp [flush]
    | _ => exact ⟨List.prefix_refl _, rfl⟩

/-! ## The pipeline -/

/-- What holds of incident-core, the relays and the group together. -/
structure Conserves (settings : PipelineSettings) (p : Pipeline) : Prop where
  outbox : p.post.rows.map (·.event) = p.world.store.audit.outbox
  post : Sound settings.relay p.post
  count : p.shards.length = settings.relay.topology.shardCount
  streams : ∀ (shard : Nat) (g : Group), p.shards[shard]? = some g →
    g.entries = entriesOn settings.relay.topology p.post.entries shard
  accounts : ∀ (shard : Nat) (g : Group), p.shards[shard]? = some g →
    Accounts (g.reading p.consumed)
  recorded : ∀ event ∈ p.consumed, ∃ (shard : Nat) (g : Group), p.shards[shard]? = some g ∧
    .returned event ∈ g.calls

section
variable {settings : PipelineSettings} {p : Pipeline}

theorem Conserves.command (sound : Conserves settings p) (event : Event) :
    Conserves settings (p.step settings (.command event)) where
  outbox := by
    have grown := execute_outbox settings.env (p.world.clock + event.elapsed) p.world.tickets
      p.world.store event.command
    obtain ⟨new, grown⟩ := grown
    have stepped : (Incident.step settings.env p.world event).store.audit.outbox =
        p.world.store.audit.outbox ++ new := grown.symm
    have same : ∀ rows : List OutboxEventRow, (rows.map newOutboxRow).map (·.event) = rows := by
      intro rows
      rw [List.map_map]
      exact List.map_id rows
    simp only [Pipeline.step, Post.step, List.map_append, sound.outbox, stepped, List.drop_left,
      same]
  post := sound_step (.commit _) sound.post
  count := sound.count
  streams := sound.streams
  accounts := sound.accounts
  recorded := sound.recorded

theorem Conserves.relay (sound : Conserves settings p) (relay : Nat) (act : RelayAct) :
    Conserves settings (p.step settings (.relay relay act)) := by
  obtain ⟨⟨appended, grown⟩, kept⟩ := step_relay settings.relay p.post relay act
  have shards : (p.step settings (.relay relay act)).shards = p.shards.mapIdx (fun shard g =>
      g.receive (entriesOn settings.relay.topology appended shard)) := by
    simp only [Pipeline.step, ← grown, List.drop_left]
  have from_ : ∀ (shard : Nat) (g : Group),
      (p.step settings (.relay relay act)).shards[shard]? = some g →
      ∃ g₀, p.shards[shard]? = some g₀ ∧
        g = g₀.receive (entriesOn settings.relay.topology appended shard) := by
    intro shard g row
    rw [shards, List.getElem?_mapIdx] at row
    obtain ⟨g₀, row₀, rfl⟩ := Option.map_eq_some_iff.mp row
    exact ⟨g₀, row₀, rfl⟩
  refine ⟨kept.trans sound.outbox, sound_step (.relay relay act) sound.post, ?_, ?_, ?_, ?_⟩
  · rw [shards, List.length_mapIdx]
    exact sound.count
  · intro shard g row
    obtain ⟨g₀, row₀, rfl⟩ := from_ shard g row
    show g₀.entries ++ _ = entriesOn settings.relay.topology
      (p.post.step settings.relay (.relay relay act)).entries shard
    rw [sound.streams shard g₀ row₀, ← grown, entriesOn_append]
  · intro shard g row
    obtain ⟨g₀, row₀, rfl⟩ := from_ shard g row
    exact (sound.accounts shard g₀ row₀).receive _
  · intro event known
    obtain ⟨shard, g₀, row₀, returned⟩ := sound.recorded event known
    refine ⟨shard, g₀.receive (entriesOn settings.relay.topology appended shard), ?_, returned⟩
    rw [shards, List.getElem?_mapIdx, row₀]
    rfl

/-- The group of a shard does something, and keeps its entries. -/
theorem Conserves.put (sound : Conserves settings p) {shard : Nat} {g g' : Group}
    (row : p.shards[shard]? = some g) (stepped : Stepped (g.reading p.consumed) g') :
    Conserves settings { p with shards := p.shards.set shard g', consumed := g'.consumed } where
  outbox := sound.outbox
  post := sound.post
  count := by
    rw [List.length_set]
    exact sound.count
  streams := by
    intro other q found
    rcases (Table.get_put row).mp found with ⟨rfl, rfl⟩ | ⟨_, old⟩
    · exact stepped.entries.trans (sound.streams other g row)
    · exact sound.streams other q old
  accounts := by
    intro other q found
    rcases (Table.get_put row).mp found with ⟨rfl, rfl⟩ | ⟨_, old⟩
    · exact stepped.accounts
    · exact (sound.accounts other q old).reading stepped.consumed
  recorded := by
    intro event known
    rcases stepped.returned event known with old | returned
    · obtain ⟨other, q, found, returned⟩ := sound.recorded event old
      by_cases same : other = shard
      · subst same
        rw [row] at found
        cases found
        exact ⟨other, g', (Table.get_put row).mpr (.inl ⟨rfl, rfl⟩), stepped.calls returned⟩
      · exact ⟨other, q, (Table.get_put row).mpr (.inr ⟨same, found⟩), returned⟩
    · exact ⟨shard, g', (Table.get_put row).mpr (.inl ⟨rfl, rfl⟩), returned⟩

theorem step_conserves (sound : Conserves settings p) (e : PipelineEvent) :
    Conserves settings (p.step settings e) := by
  cases e with
  | command event => exact sound.command event
  | relay relay act => exact sound.relay relay act
  | consumer shard consumer act =>
    simp only [Pipeline.step]
    cases row : p.shards[shard]? with
    | none => exact sound
    | some g => exact sound.put row ((sound.accounts shard g row).step consumer act)

theorem pipelineAfter_conserves (settings : PipelineSettings) (clock : Time)
    (relays consumers : Nat) (events : List PipelineEvent) :
    Conserves settings (pipelineAfter settings clock relays consumers events) := by
  refine Machine.state_invariant (P := Conserves settings) ?_
    (fun _ e sound => step_conserves sound e) events
  have idle : ∀ (shard : Nat) (g : Group), (List.replicate
      settings.relay.topology.shardCount (emptyGroup consumers))[shard]? = some g →
        g = emptyGroup consumers :=
    fun shard g row => List.eq_of_mem_replicate (List.mem_of_getElem? row)
  refine ⟨rfl, sound_empty settings.relay relays, List.length_replicate, ?_, ?_, ?_⟩
  · intro shard g row
    rw [idle shard g row]
    rfl
  · intro shard g row
    rw [idle shard g row]
    exact accounts_empty consumers
  · intro event known
    cases known

end

/-! ## Every run -/

/-- The event was committed, and its stream is that of the shard. -/
def CommittedOn (settings : PipelineSettings) (p : Pipeline) (shard : Nat) (place : Uuid)
    (event : OutboxEventRow) : Prop :=
  p.world.store.audit.outbox[place]? = some event ∧
    shardForKey settings.relay.topology (shardKeyForEvent event.correlationId event.aggregateId) =
      some shard

/-- Nothing is lost between a command and the handlers of its events, and nothing is made up. -/
structure ReachesHandlers (settings : PipelineSettings) (p : Pipeline) : Prop where
  /-- A committed event waits for a relay, or is on a stream. -/
  published : ∀ (place : Uuid) (event : OutboxEventRow),
    p.world.store.audit.outbox[place]? = some event →
      (∃ row, p.post.rows[place]? = some row ∧ row.event = event ∧ row.publishedAt = none) ∨
        ∃ (shard : Nat) (g : Group) (m : Nat), p.shards[shard]? = some g ∧
          g.entries[m]? = some (some (envelopeFromRow place event))
  /-- An entry waits to be read, is pending, or is settled. -/
  settled : ∀ (shard : Nat) (g : Group) (m : Nat) (envelope : OutboxEventEnvelope),
    p.shards[shard]? = some g → g.entries[m]? = some (some envelope) →
      g.deliveries.length ≤ m ∨ (g.pendingEntry m).isSome ∨ envelope.eventId ∈ p.consumed ∨
        ∃ letter ∈ g.deadLetters, letter.event = envelope
  /-- Every entry is that of a committed event, on the stream of its shard. -/
  genuine : ∀ (shard : Nat) (g : Group) (m : Nat) (entry : Option OutboxEventEnvelope),
    p.shards[shard]? = some g → g.entries[m]? = some entry →
      ∃ place event, CommittedOn settings p shard place event ∧
        entry = some (envelopeFromRow place event)
  called : ∀ (shard : Nat) (g : Group) (call : HandlerCall), p.shards[shard]? = some g →
    call ∈ g.calls → ∃ event, CommittedOn settings p shard call.event event
  deadLettered : ∀ (shard : Nat) (g : Group) (letter : DeadLetter), p.shards[shard]? = some g →
    letter ∈ g.deadLetters → ∃ place event, CommittedOn settings p shard place event ∧
      letter.event = envelopeFromRow place event
  /-- What is on record was handled. -/
  recorded : ∀ event ∈ p.consumed, ∃ (shard : Nat) (g : Group), p.shards[shard]? = some g ∧
    .returned event ∈ g.calls

section
variable {settings : PipelineSettings} {p : Pipeline}

theorem streamNameForShard_injective (t : Topology) {shard other : Nat}
    (same : streamNameForShard t shard = streamNameForShard t other) : shard = other := by
  have listed := congrArg String.toList same
  simp only [streamNameForShard, String.toList_append] at listed
  exact Nat.repr_injective (String.toList_injective (List.append_cancel_left listed))

theorem Conserves.row (sound : Conserves settings p) {place : Nat} {event : OutboxEventRow} :
    p.world.store.audit.outbox[place]? = some event ↔
      ∃ row, p.post.rows[place]? = some row ∧ row.event = event := by
  rw [← sound.outbox, List.getElem?_map, Option.map_eq_some_iff]

theorem Conserves.genuine (sound : Conserves settings p) {shard m : Nat} {g : Group}
    {entry : Option OutboxEventEnvelope} (stands : p.shards[shard]? = some g)
    (row : g.entries[m]? = some entry) :
    ∃ place event, CommittedOn settings p shard place event ∧
      entry = some (envelopeFromRow place event) := by
  rw [sound.streams shard g stands] at row
  obtain ⟨appended, listed, rfl⟩ := List.mem_map.mp (List.mem_of_getElem? row)
  obtain ⟨member, here⟩ := List.mem_filter.mp listed
  obtain ⟨place, committed, found, is, named⟩ := sound.post.genuine appended member
  refine ⟨place, committed.event, ⟨sound.row.mpr ⟨committed, found, rfl⟩, ?_⟩, by rw [is]⟩
  obtain ⟨other, sharded, same⟩ := Option.map_eq_some_iff.mp named
  rw [sharded, streamNameForShard_injective _ (same.trans (beq_iff_eq.mp here))]

theorem Conserves.reachesHandlers (sound : Conserves settings p) : ReachesHandlers settings p where
  published := by
    intro place event committed
    obtain ⟨row, found, rfl⟩ := sound.row.mp committed
    cases published : row.publishedAt with
    | none => exact .inl ⟨row, found, rfl, published⟩
    | some at_ =>
      right
      obtain ⟨entry, member, is, named⟩ :=
        sound.post.published place row found (by simp [published])
      obtain ⟨shard, sharded, stream⟩ := Option.map_eq_some_iff.mp named
      have inside : shard < p.shards.length := by
        rw [sound.count]
        unfold shardForKey at sharded
        split_ifs at sharded with empty
        cases sharded
        exact Nat.mod_lt _ (Nat.pos_of_ne_zero empty)
      have stands : p.shards[shard]? = some p.shards[shard] := List.getElem?_eq_getElem inside
      have there : some entry.event ∈ p.shards[shard].entries := by
        rw [sound.streams shard _ stands]
        refine List.mem_map.mpr ⟨entry, List.mem_filter.mpr ⟨member, ?_⟩, rfl⟩
        exact beq_iff_eq.mpr stream.symm
      obtain ⟨m, at_⟩ := List.mem_iff_getElem?.mp there
      exact ⟨shard, _, m, stands, by rw [at_, is]⟩
  settled := by
    intro shard g m envelope stands row
    by_cases unread : g.deliveries.length ≤ m
    · exact .inl unread
    · cases pending : g.pendingEntry m with
      | some entry => exact .inr (.inl rfl)
      | none =>
        have delivered : m < g.deliveries.length := Nat.lt_of_not_le unread
        exact .inr (.inr ((sound.accounts shard g stands).settled m envelope delivered pending row))
  genuine := fun shard g m entry stands row => sound.genuine stands row
  called := by
    intro shard g call stands made
    obtain ⟨m, envelope, row, same⟩ := (sound.accounts shard g stands).calls call made
    obtain ⟨place, event, committed, is⟩ := sound.genuine stands row
    cases is
    exact ⟨event, same ▸ committed⟩
  deadLettered := by
    intro shard g letter stands written
    obtain ⟨m, row⟩ := (sound.accounts shard g stands).retains.letters letter written
    obtain ⟨place, event, committed, is⟩ := sound.genuine stands row
    exact ⟨place, event, committed, Option.some.inj is⟩
  recorded := sound.recorded

end

/-- Whatever commands run, whatever the relays and the consumers meet, and wherever they
crash. -/
theorem events_reach_handlers (settings : PipelineSettings) (clock : Time) (relays consumers : Nat)
    (events : List PipelineEvent) :
    ReachesHandlers settings (pipelineAfter settings clock relays consumers events) :=
  (pipelineAfter_conserves settings clock relays consumers events).reachesHandlers

end IncidentTriage.Events
