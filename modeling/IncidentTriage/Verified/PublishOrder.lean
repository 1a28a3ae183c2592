import IncidentTriage.Verified.Relay

/-! # The order of the published events

A batch holds every unpublished row below its last one, in sequence order: what lies
before the row at hand is on its stream, or was given up on in this pass.  So the
events of an incident come onto their stream in order exactly as long as no relay
publishes one after giving up on an earlier one of the same incident.
-/

namespace IncidentTriage.Events

open IncidentTriage.Python IncidentTriage.Incident

variable {settings : RelaySettings} {p : Post}

/-- The events of one stream, in the order they were appended. -/
def streamOf (entries : List StreamEntry) (name : String) : List OutboxEventEnvelope :=
  (entries.filter (fun entry => entry.stream == name)).map (fun entry => entry.event)

/-- The row at `earlier` has a smaller sequence than this event of the same incident. -/
def Precedes (rows : List OutboxRow) (earlier : Uuid) (event : OutboxEventEnvelope) : Prop :=
  earlier < event.eventId ∧ ∃ correlation row, event.correlationId = some correlation ∧
    rows[earlier]? = some row ∧ row.event.correlationId = some correlation

/-- On no stream does an event stand that is not preceded by every earlier event of
its incident. -/
def InOrder (p : Post) : Prop :=
  ∀ name, Log.Causal (Precedes p.rows) (fun event => event.eventId) (streamOf p.entries name)

/-- The pass gave up on an event of this incident that has not reached its stream. -/
def Pass.leftBehind (pass : Pass) (entries : List StreamEntry) : Bool :=
  pass.current.2.event.correlationId.isSome &&
    pass.done.any (fun given => given.2.publishedAt.isNone &&
      given.2.event.correlationId == pass.current.2.event.correlationId &&
      !entries.any (fun entry => entry.event.eventId == given.1))

def PublishStage.attempting : PublishStage → Bool
  | .publishing _ => true
  | _ => false

/-- A relay publishes an event past one of the same incident it gave up on. -/
def Overtakes (settings : RelaySettings) (p : Post) : PostEvent → Bool
  | .relay relay (.attempt outcome) =>
    match p.relays[relay]? with
    | some (some pass) =>
      pass.stage.attempting &&
        !(publish settings.topology (envelopeFromRow pass.current.1 pass.current.2.event)
          outcome).1.isEmpty &&
        pass.leftBehind p.entries
    | _ => false
  | _ => false

/-! ## One more entry -/

theorem streamOf_concat (entries : List StreamEntry) (entry : StreamEntry) (name : String) :
    streamOf (entries ++ [entry]) name =
      if entry.stream = name then streamOf entries name ++ [entry.event]
      else streamOf entries name := by
  unfold streamOf
  split_ifs with here
  · simp [List.filter_append, here]
  · simp [List.filter_append, here]

theorem mem_streamOf {entries : List StreamEntry} {name : String} {event : OutboxEventEnvelope} :
    event ∈ streamOf entries name ↔ ∃ entry ∈ entries, entry.stream = name ∧ entry.event = event := by
  simp [streamOf, and_assoc]

/-- An entry keeps the order where it keeps that of its own stream. -/
theorem inOrder_concat {rows : List OutboxRow} {entries : List StreamEntry}
    {relays : List (Option Pass)} {entry : StreamEntry} :
    InOrder { rows, entries := entries ++ [entry], relays } ↔
      InOrder { rows, entries, relays } ∧
        ∀ earlier, Precedes rows earlier entry.event →
          earlier ∈ (streamOf entries entry.stream).map (fun event => event.eventId) := by
  constructor
  · intro inOrder
    have own := inOrder entry.stream
    simp only [streamOf_concat, if_pos] at own
    refine ⟨?_, (Log.causal_concat.mp own).2⟩
    intro name
    have here := inOrder name
    simp only [streamOf_concat] at here
    split_ifs at here with same
    · exact (Log.causal_concat.mp here).1
    · exact here
  · rintro ⟨inOrder, met⟩ name
    simp only [streamOf_concat]
    split_ifs with same
    · subst same
      exact Log.causal_concat.mpr ⟨inOrder entry.stream, met⟩
    · exact inOrder name

/-! ## What lies before the row at hand -/

/-- The events of a batch, each with its place. -/
def eventsOf (batch : List (Uuid × OutboxRow)) : List (Uuid × OutboxEventRow) :=
  batch.map (fun row => (row.1, row.2.event))

def Pass.batch (pass : Pass) : List (Uuid × OutboxEventRow) :=
  eventsOf (pass.done ++ pass.current :: pass.rest)

/-- A batch that leaves out no unpublished row below its last one. -/
structure Complete (t : Topology) (rows : List OutboxRow) (entries : List StreamEntry)
    (batch : List (Uuid × OutboxEventRow)) : Prop where
  ascending : batch.Pairwise (fun one other => one.1 < other.1)
  known : ∀ held ∈ batch, EventAt rows held.1 held.2
  covered : ∀ held ∈ batch, ∀ place row, rows[place]? = some row → place < held.1 →
    OnStream t entries place row.event ∨ ∃ other ∈ batch, other.1 = place

/-- Where a pass stands: the rows done are published or given up, those to come were
unpublished when they were read. -/
structure Orderly (t : Topology) (rows : List OutboxRow) (entries : List StreamEntry)
    (pass : Pass) : Prop where
  complete : Complete t rows entries pass.batch
  done : ∀ given ∈ pass.done,
    given.2.publishedAt = none ∨ OnStream t entries given.1 given.2.event
  unpublished : ∀ held ∈ pass.current :: pass.rest, held.2.publishedAt = none
  marked : ∀ row, pass.stage = .marked row → row.event = pass.current.2.event

theorem Complete.mono {t : Topology} {rows rows' : List OutboxRow}
    {entries entries' : List StreamEntry} {batch : List (Uuid × OutboxEventRow)}
    (complete : Complete t rows entries batch) (grown : Table.Evolves KeepsEvent rows rows')
    (more : entries ⊆ entries') : Complete t rows' entries' batch where
  ascending := complete.ascending
  known held inside := (complete.known held inside).mono grown
  covered := by
    intro held inside place row' here below
    -- a row below one of the batch was there before
    obtain ⟨stored, at_, _⟩ := complete.known held inside
    have old : place < rows.length := by
      exact Nat.lt_trans below (Table.lt_of_row at_)
    obtain ⟨after, here', same⟩ := grown place rows[place] (List.getElem?_eq_getElem old)
    rw [here] at here'
    cases here'
    rcases complete.covered held inside place _ (List.getElem?_eq_getElem old) below with on | other
    · left
      rw [same]
      exact on.mono more
    · exact Or.inr other

theorem Orderly.mono {t : Topology} {rows rows' : List OutboxRow}
    {entries entries' : List StreamEntry} {pass : Pass} (orderly : Orderly t rows entries pass)
    (grown : Table.Evolves KeepsEvent rows rows') (more : entries ⊆ entries') :
    Orderly t rows' entries' pass where
  complete := orderly.complete.mono grown more
  done given inside := (orderly.done given inside).imp_right (fun on => on.mono more)
  unpublished := orderly.unpublished
  marked := orderly.marked

/-- What lies before a row of the first so many rows is one of them. -/
theorem mem_take_of_lt {batch : List (Uuid × OutboxRow)} {limit : Nat}
    (ascending : batch.Pairwise (fun one other => one.1 < other.1))
    {row held : Uuid × OutboxRow} (inside : row ∈ batch) (taken : held ∈ batch.take limit)
    (below : row.1 < held.1) : row ∈ batch.take limit := by
  rw [← List.take_append_drop limit batch] at ascending inside
  rcases List.mem_append.mp inside with here | beyond
  · exact here
  · have above := (List.pairwise_append.mp ascending).2.2 held taken row beyond
    exact absurd below (Nat.lt_asymm above)

/-- A batch just read leaves out no unpublished row below its last one. -/
theorem complete_read {t : Topology} {rows : List OutboxRow} {entries : List StreamEntry}
    (published : ∀ (place : Nat) (row : OutboxRow), rows[place]? = some row → row.publishedAt.isSome →
      OnStream t entries place row.event) (limit : Nat) :
    Complete t rows entries (eventsOf (getUnpublishedOutboxEvents rows limit)) where
  ascending := by
    have sorted := Table.select_sorted (fun row : OutboxRow => row.publishedAt.isNone) rows
    exact List.pairwise_map.mpr (sorted.sublist (List.take_sublist _ _))
  known := by
    intro held inside
    obtain ⟨row, read, rfl⟩ := List.mem_map.mp inside
    exact ⟨row.2, (getUnpublished_known read).1, rfl⟩
  covered := by
    intro held inside place row here below
    obtain ⟨read, inBatch, rfl⟩ := List.mem_map.mp inside
    by_cases out : row.publishedAt.isSome
    · exact Or.inl (published place row here out)
    · right
      have sorted := Table.select_sorted (fun row : OutboxRow => row.publishedAt.isNone) rows
      have chosen : (place, row) ∈ Table.select (fun row => row.publishedAt.isNone) rows :=
        Table.mem_select.mpr ⟨here, by simpa using out⟩
      have taken := mem_take_of_lt sorted chosen inBatch below
      exact ⟨_, List.mem_map_of_mem taken, rfl⟩

/-- Going on to the next row of a batch. -/
theorem orderly_nextRow {t : Topology} {rows : List OutboxRow} {entries : List StreamEntry}
    {done batch : List (Uuid × OutboxRow)} {pass : Pass}
    (next : nextRow settings done batch = some pass)
    (complete : Complete t rows entries (eventsOf (done ++ batch)))
    (settled : ∀ given ∈ done,
      given.2.publishedAt = none ∨ OnStream t entries given.1 given.2.event)
    (unpublished : ∀ held ∈ batch, held.2.publishedAt = none) : Orderly t rows entries pass := by
  cases batch with
  | nil => cases next
  | cons current rest =>
    cases next
    refine ⟨complete, settled, unpublished, ?_⟩
    intro row stage
    simp only [publishWithRetry] at stage
    split_ifs at stage

/-- A relay stays orderly with every act. -/
theorem Acted.orderly {rows rows' : List OutboxRow} {entries entries' : List StreamEntry}
    {pass pass' : Option Pass} {act : RelayAct}
    (acted : Acted settings rows entries pass act rows' entries' pass')
    (published : ∀ (place : Nat) (row : OutboxRow), rows[place]? = some row → row.publishedAt.isSome →
      OnStream settings.topology entries place row.event)
    (holds : ∀ held, pass = some held → HoldsRow settings.topology rows entries held)
    (orderly : ∀ held, pass = some held → Orderly settings.topology rows entries held) :
    ∀ held, pass' = some held → Orderly settings.topology rows' entries' held := by
  obtain ⟨grown, more, _⟩ := acted.keeps holds
  intro held next
  cases acted with
  | idle => exact orderly held next
  | read =>
    apply orderly_nextRow next
    · exact complete_read published _
    · intro given inside
      cases inside
    · intro row inside
      exact (getUnpublished_known inside).2
  | crash pass => cases next
  | attempt pass attempt outcome appended raised stage sent =>
    cases next
    have moved := (orderly pass rfl).mono grown more
    refine ⟨moved.complete, moved.done, moved.unpublished, ?_⟩
    intro row marked
    cases raised with
    | none => cases marked
    | some raised =>
      simp only [afterAttempt] at marked
      split_ifs at marked
  | mark pass success error now stage =>
    cases next
    have here := orderly pass rfl
    refine ⟨here.complete, here.done, here.unpublished, ?_⟩
    rintro row ⟨⟩
    cases success <;> rfl
  | save pass row stage =>
    have moved := (orderly pass rfl).mono grown more
    have sameEvent := moved.marked row stage
    have unset : pass.current.2.publishedAt = none := moved.unpublished _ (by simp)
    apply orderly_nextRow next
    · have same : eventsOf ((pass.done ++ [(pass.current.1, row)]) ++ pass.rest) = pass.batch := by
        simp [eventsOf, Pass.batch, sameEvent]
      rw [same]
      exact moved.complete
    · intro given inside
      rcases List.mem_append.mp inside with before | last
      · exact moved.done given before
      · obtain rfl := List.mem_singleton.mp last
        rcases (holds pass rfl).marked row stage with kept | on
        · exact Or.inl (kept.trans unset)
        · right
          rw [sameEvent]
          exact on.mono more
    · intro later inside
      exact moved.unpublished later (by simp [inside])

/-! ## The order of the streams -/

/-- An entry of an event of this incident stands on the incident's stream. -/
theorem mem_stream_of_entry {t : Topology} {entries : List StreamEntry}
    {entry mine : StreamEntry} {place other : Uuid} {event own : OutboxEventRow}
    {correlation : Uuid} (inside : entry ∈ entries) (is : IsEntryOf t place event entry)
    (isMine : IsEntryOf t other own mine) (correlated : event.correlationId = some correlation)
    (ours : own.correlationId = some correlation) :
    place ∈ (streamOf entries mine.stream).map (fun event => event.eventId) := by
  have sameStream : entry.stream = mine.stream := by
    have one := is.2
    have two := isMine.2
    rw [correlated, streamNameForEvent_of_correlation t correlation _ own.aggregateId] at one
    rw [ours, one] at two
    exact Option.some.inj two
  apply List.mem_map.mpr
  exact ⟨entry.event, mem_streamOf.mpr ⟨entry, inside, sameStream, rfl⟩, by rw [is.1]; rfl⟩

/-- An event that was left behind is missing on the stream of the row at hand. -/
theorem unmet_of_leftBehind {pass : Pass} {entry : StreamEntry}
    (orderly : Orderly settings.topology p.rows p.entries pass)
    (is : IsEntryOf settings.topology pass.current.1 pass.current.2.event entry)
    (left : pass.leftBehind p.entries = true) :
    ∃ earlier, Precedes p.rows earlier entry.event ∧
      earlier ∉ (streamOf p.entries entry.stream).map (fun event => event.eventId) := by
  simp only [Pass.leftBehind, Bool.and_eq_true, List.any_eq_true, beq_iff_eq,
    Bool.not_eq_true', List.any_eq_false] at left
  obtain ⟨known, given, inDone, ⟨unpublished, sameIncident⟩, absent⟩ := left
  obtain ⟨correlation, incident⟩ := Option.isSome_iff_exists.mp known
  have inBatch : (given.1, given.2.event) ∈ pass.batch :=
    List.mem_map.mpr ⟨given, by simp [inDone], rfl⟩
  obtain ⟨row, here, same⟩ := orderly.complete.known _ inBatch
  have below : given.1 < entry.event.eventId := by
    have ascending := orderly.complete.ascending
    simp only [Pass.batch, eventsOf, List.map_append, List.map_cons] at ascending
    rw [is.eventId]
    exact (List.pairwise_append.mp ascending).2.2 _ (List.mem_map_of_mem inDone) _
      List.mem_cons_self
  refine ⟨given.1, ⟨below, correlation, row, is.correlationId.trans incident, here, ?_⟩, ?_⟩
  · rw [same]
    exact sameIncident.trans incident
  · intro on
    obtain ⟨event, onStream, place⟩ := List.mem_map.mp on
    obtain ⟨one, inside, _, rfl⟩ := mem_streamOf.mp onStream
    exact absent one inside place

/-- What the batch holds below the row at hand was done before it. -/
theorem done_of_below {pass : Pass} {held : Uuid × OutboxEventRow}
    (ascending : pass.batch.Pairwise (fun one other => one.1 < other.1))
    (inside : held ∈ pass.batch) (before : held.1 < pass.current.1) :
    held ∈ eventsOf pass.done := by
  simp only [Pass.batch, eventsOf, List.map_append, List.map_cons] at ascending
  have split := List.pairwise_append.mp ascending
  simp only [Pass.batch, eventsOf, List.map_append, List.map_cons, List.mem_append,
    List.mem_cons] at inside
  rcases inside with done | rfl | rest
  · exact done
  · exact absurd before (Nat.lt_irrefl _)
  · have after := (List.pairwise_cons.mp split.2.1).1 held rest
    exact absurd before (Nat.lt_asymm after)

/-- An event of the incident that the pass is done with is on a stream, unless it was
left behind. -/
theorem reached_of_done {pass : Pass} {given : Uuid × OutboxRow} {correlation : Uuid}
    (done : given ∈ pass.done) (unpublished : given.2.publishedAt = none)
    (ours : given.2.event.correlationId = some correlation)
    (incident : pass.current.2.event.correlationId = some correlation)
    (none_left : pass.leftBehind p.entries = false) :
    ∃ one ∈ p.entries, one.event.eventId = given.1 := by
  have reached : p.entries.any (fun entry => entry.event.eventId == given.1) = true := by
    by_contra absent
    have left : pass.leftBehind p.entries = true := by
      simp only [Pass.leftBehind, Bool.and_eq_true, List.any_eq_true]
      refine ⟨by simp [incident], given, done, ?_⟩
      simp only [unpublished, ours, incident, Option.isNone_none, beq_self_eq_true,
        Bool.not_eq_true']
      exact ⟨⟨trivial, trivial⟩, Bool.eq_false_iff.mpr absent⟩
    rw [none_left] at left
    cases left
  obtain ⟨one, inEntries, named⟩ := List.any_eq_true.mp reached
  exact ⟨one, inEntries, beq_iff_eq.mp named⟩

/-- The entry of the row at hand has everything it needs before it unless the pass
left an event of its incident behind. -/
theorem needs_met_iff {pass : Pass} {entry : StreamEntry} (sound : Sound settings p)
    (orderly : Orderly settings.topology p.rows p.entries pass)
    (is : IsEntryOf settings.topology pass.current.1 pass.current.2.event entry) :
    (∀ earlier, Precedes p.rows earlier entry.event →
        earlier ∈ (streamOf p.entries entry.stream).map (fun event => event.eventId)) ↔
      pass.leftBehind p.entries = false := by
  constructor
  · intro met
    by_contra left
    obtain ⟨earlier, precedes, missing⟩ :=
      unmet_of_leftBehind orderly is (Bool.eq_true_of_not_eq_false left)
    exact missing (met earlier precedes)
  · intro none_left earlier precedes
    obtain ⟨below, correlation, row, incident, here, ours⟩ := precedes
    rw [is.correlationId] at incident
    rw [is.eventId] at below
    have inBatch : (pass.current.1, pass.current.2.event) ∈ pass.batch :=
      List.mem_map.mpr ⟨pass.current, by simp, rfl⟩
    rcases orderly.complete.covered _ inBatch earlier row here below with on | ⟨held, inside, rfl⟩
    · obtain ⟨one, on, isOne⟩ := on
      exact mem_stream_of_entry on isOne is ours incident
    · -- the pass is done with it: it is on its stream, or it was given up and reached it earlier
      obtain ⟨given, done, rfl⟩ :=
        List.mem_map.mp (done_of_below orderly.complete.ascending inside below)
      obtain ⟨stored, at_, same⟩ := orderly.complete.known _ inside
      rw [here] at at_
      cases at_
      have theirs : given.2.event.correlationId = some correlation :=
        (congrArg (fun event => event.correlationId) same).symm.trans ours
      rcases orderly.done given done with unpublished | ⟨one, on, isOne⟩
      · obtain ⟨one, inEntries, named⟩ := reached_of_done done unpublished theirs incident none_left
        obtain ⟨place, stored, at_, isOne⟩ := sound.genuine one inEntries
        have samePlace : place = given.1 := isOne.eventId.symm.trans named
        subst samePlace
        rw [here] at at_
        cases at_
        exact mem_stream_of_entry inEntries isOne is ours incident
      · exact mem_stream_of_entry on isOne is theirs incident

/-- The invariant of every run. -/
structure Steady (settings : RelaySettings) (p : Post) : Prop extends Sound settings p where
  orderly : ∀ (relay : Nat) (pass : Pass), p.relays[relay]? = some (some pass) →
    Orderly settings.topology p.rows p.entries pass

theorem steady_step (e : PostEvent) (steady : Steady settings p) :
    Steady settings (p.step settings e) := by
  refine ⟨sound_step e steady.toSound, ?_⟩
  cases e with
  | commit events =>
    have grown : Table.Evolves KeepsEvent p.rows (p.rows ++ events.map newOutboxRow) :=
      Table.Evolves.append keepsEvent_refl _ _
    intro relay pass stands
    exact (steady.orderly relay pass stands).mono grown (List.Subset.refl _)
  | relay relay act =>
    simp only [Post.step]
    cases stands : p.relays[relay]? with
    | none => exact steady.orderly
    | some pass =>
      obtain ⟨rows, entries, pass', acted, becomes⟩ := act_acted stands act
      have holds : ∀ held, pass = some held →
          HoldsRow settings.topology p.rows p.entries held := by
        rintro held rfl
        exact steady.holds relay held stands
      have orderly : ∀ held, pass = some held →
          Orderly settings.topology p.rows p.entries held := by
        rintro held rfl
        exact steady.orderly relay held stands
      obtain ⟨grown, more, _⟩ := acted.keeps holds
      simp only [becomes]
      intro other held here
      rcases (Table.get_put stands).mp here with ⟨_, now⟩ | ⟨_, elsewhere⟩
      · exact acted.orderly steady.published holds orderly held now.symm
      · exact (steady.orderly other held elsewhere).mono grown more

theorem steady_postAfter (settings : RelaySettings) (relays : Nat) (events : List PostEvent) :
    Steady settings (postAfter settings relays events) := by
  apply Machine.state_invariant (P := Steady settings)
  · refine ⟨sound_empty settings relays, ?_⟩
    intro relay pass here
    have idle := List.eq_of_mem_replicate (List.mem_of_getElem? here)
    cases idle
  · exact fun _ e => steady_step e

/-- Rows that are added or marked change nothing for the entries of the streams. -/
theorem inOrder_of_rows {rows : List OutboxRow} {relays : List (Option Pass)}
    (sound : Sound settings p) (grown : Table.Evolves KeepsEvent p.rows rows) :
    InOrder { rows, entries := p.entries, relays } ↔ InOrder p := by
  apply forall_congr'
  intro name
  apply Log.causal_congr
  intro event inside earlier
  obtain ⟨entry, inEntries, _, rfl⟩ := mem_streamOf.mp inside
  obtain ⟨place, stored, at_, is⟩ := sound.genuine entry inEntries
  have placed : entry.event.eventId = place := is.eventId
  constructor
  · rintro ⟨below, correlation, row', mine, here', theirs⟩
    have old : earlier < p.rows.length := by
      rw [placed] at below
      exact Nat.lt_trans below (Table.lt_of_row at_)
    obtain ⟨after, same, kept⟩ := grown earlier p.rows[earlier] (List.getElem?_eq_getElem old)
    rw [here'] at same
    cases same
    rw [kept] at theirs
    exact ⟨below, correlation, _, mine, List.getElem?_eq_getElem old, theirs⟩
  · rintro ⟨below, correlation, row, mine, here, theirs⟩
    obtain ⟨after, here', kept⟩ := grown earlier row here
    exact ⟨below, correlation, after, mine, here', by rw [kept, theirs]⟩

/-- A step keeps the order exactly when it publishes past nothing. -/
theorem inOrder_step_iff (e : PostEvent) (steady : Steady settings p) :
    InOrder (p.step settings e) ↔ InOrder p ∧ Overtakes settings p e = false := by
  cases e with
  | commit events =>
    have grown : Table.Evolves KeepsEvent p.rows (p.rows ++ events.map newOutboxRow) :=
      Table.Evolves.append keepsEvent_refl _ _
    simp only [Post.step, Overtakes, and_true]
    exact inOrder_of_rows steady.toSound grown
  | relay relay act =>
    simp only [Post.step]
    cases stands : p.relays[relay]? with
    | none => cases act <;> simp [Overtakes, stands]
    | some pass =>
      obtain ⟨rows, entries, pass', acted, becomes⟩ := act_acted stands act
      have holds : ∀ held, pass = some held →
          HoldsRow settings.topology p.rows p.entries held := by
        rintro held rfl
        exact steady.holds relay held stands
      obtain ⟨grown, more, _⟩ := acted.keeps holds
      simp only [becomes]
      cases acted with
      | attempt pass attempt outcome appended raised stage sent =>
        have overtakes : Overtakes settings p (.relay relay (.attempt outcome)) =
            (!appended.isEmpty && pass.leftBehind p.entries) := by
          simp [Overtakes, stands, stage, sent, PublishStage.attempting]
        rw [overtakes]
        rcases publish_appended sent with ⟨rfl, _⟩ | ⟨entry, rfl, is⟩
        · simp only [List.append_nil, List.isEmpty_nil, Bool.not_true, Bool.false_and, and_true]
          exact inOrder_of_rows steady.toSound grown
        · simp only [List.isEmpty_cons, Bool.not_false, Bool.true_and]
          rw [inOrder_concat, inOrder_of_rows steady.toSound grown]
          exact and_congr_right' (needs_met_iff steady.toSound
            (steady.orderly relay pass stands) is)
      | idle pass act quiet =>
        have nothing : Overtakes settings p (.relay relay act) = false := by
          cases act with
          | attempt outcome =>
            cases pass with
            | none => simp [Overtakes, stands]
            | some held =>
              have still : held.stage.attempting = false := by
                cases stage : held.stage with
                | publishing attempt => exact absurd stage (quiet held attempt outcome rfl rfl)
                | _ => rfl
              simp [Overtakes, stands, still]
          | _ => rfl
        rw [nothing, inOrder_of_rows steady.toSound grown]
        simp
      | read => simp [Overtakes, inOrder_of_rows steady.toSound grown]
      | crash pass => simp [Overtakes, inOrder_of_rows steady.toSound grown]
      | mark pass success error now stage =>
        simp [Overtakes, inOrder_of_rows steady.toSound grown]
      | save pass row stage => simp [Overtakes, inOrder_of_rows steady.toSound grown]

/-- The streams are in order exactly when no step of the run publishes an event past
an earlier one of its incident that the pass gave up on. -/
theorem inOrder_iff (settings : RelaySettings) (relays : Nat) (events : List PostEvent) :
    InOrder (postAfter settings relays events) ↔
      Machine.StepsMeet (fun p e => Overtakes settings p e = false) (Post.step settings)
        (emptyPost relays) events := by
  induction events using List.reverseRecOn with
  | nil =>
    refine ⟨fun _ => trivial, fun _ name => ?_⟩
    exact Log.Causal.nil
  | append_singleton events e ih =>
    rw [Machine.stepsMeet_concat, ← ih]
    simp only [postAfter, Machine.run_concat]
    exact inOrder_step_iff e (steady_postAfter settings relays events)

/-- Two events of one incident: the publish of the first fails on every attempt, the
second is published in the same pass. -/
theorem published_past_a_failure :
    ¬ InOrder (postAfter { topology := { digest := fun _ => 0 }, maxPublishAttempts := 1 } 1
      [.commit [⟨.incident, 7, some 7, .incidentStatusChanged 7 .triaging .investigating "first" 1, 0⟩,
          ⟨.incident, 7, some 7, .incidentStatusChanged 7 .investigating .rcaReady "second" 2, 0⟩],
        .relay 0 .read, .relay 0 (.attempt (.lost "connection refused")), .relay 0 (.mark 1),
        .relay 0 .save, .relay 0 (.attempt .delivered)]) := by
  intro inOrder
  have first := inOrder "stream:events:0" [] _ [] rfl 0
  have precedes := first ⟨by decide, 7, _, rfl, rfl, rfl⟩
  cases precedes

end IncidentTriage.Events
