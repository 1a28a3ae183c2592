import IncidentTriage.Events.Relay
import IncidentTriage.Library.Logs

/-! # What the relays keep

`Acted` says what one act of a relay can do to the rows, the streams and its pass.
From it: nothing is lost, whatever the relays do and wherever they crash; and the
events of an incident are first published in their order exactly as long as no relay
publishes past an event it gave up on.
-/

namespace IncidentTriage.Events

open IncidentTriage.Python IncidentTriage.Incident

variable {settings : RelaySettings} {p : Post} {relay : Nat}

/-! ## What an act does -/

/-- The entry of an event: its envelope, on its stream. -/
def IsEntryOf (t : Topology) (place : Uuid) (event : OutboxEventRow) (entry : StreamEntry) :
    Prop :=
  entry.event = envelopeFromRow place event ∧
    streamNameForEvent t event.correlationId event.aggregateId = some entry.stream

theorem IsEntryOf.eventId {t : Topology} {place : Uuid} {event : OutboxEventRow}
    {entry : StreamEntry} (is : IsEntryOf t place event entry) : entry.event.eventId = place := by
  rw [is.1]
  rfl

theorem IsEntryOf.correlationId {t : Topology} {place : Uuid} {event : OutboxEventRow}
    {entry : StreamEntry} (is : IsEntryOf t place event entry) :
    entry.event.correlationId = event.correlationId := by
  rw [is.1]
  rfl

/-- The act is no attempt of a relay that is about to publish. -/
def Quiet (pass : Option Pass) (act : RelayAct) : Prop :=
  ∀ held attempt outcome, pass = some held → act = .attempt outcome →
    held.stage ≠ .publishing attempt

/-- What an act makes of the rows, the entries and the relay's pass. -/
inductive Acted (settings : RelaySettings) (rows : List OutboxRow) (entries : List StreamEntry) :
    Option Pass → RelayAct → List OutboxRow → List StreamEntry → Option Pass → Prop where
  | idle (pass : Option Pass) (act : RelayAct) (quiet : Quiet pass act) :
      Acted settings rows entries pass act rows entries pass
  | read :
      Acted settings rows entries none .read rows entries
        (nextRow settings [] (getUnpublishedOutboxEvents rows settings.batchSize))
  | crash (pass : Pass) :
      Acted settings rows entries (some pass) .crash rows entries none
  | attempt (pass : Pass) (attempt : Nat) (outcome : PublishOutcome) (appended : List StreamEntry)
      (raised : Option String) (stage : pass.stage = .publishing attempt)
      (published : publish settings.topology
        (envelopeFromRow pass.current.1 pass.current.2.event) outcome = (appended, raised)) :
      Acted settings rows entries (some pass) (.attempt outcome) rows (entries ++ appended)
        (some { pass with stage := afterAttempt settings attempt raised })
  | mark (pass : Pass) (success : Bool) (error : Option String) (now : Time)
      (stage : pass.stage = .returned success error) :
      Acted settings rows entries (some pass) (.mark now) rows entries
        (some { pass with stage := .marked (markOf now pass.current.2 success error) })
  | save (pass : Pass) (row : OutboxRow) (stage : pass.stage = .marked row) :
      Acted settings rows entries (some pass) .save
        (rows.modify pass.current.1 (flush pass.current.2 row)) entries
        (nextRow settings (pass.done ++ [(pass.current.1, row)]) pass.rest)

theorem act_acted {pass : Option Pass} (stands : p.relays[relay]? = some pass) (act : RelayAct) :
    ∃ rows entries pass', Acted settings p.rows p.entries pass act rows entries pass' ∧
      p.act settings relay pass act =
        { rows, entries, relays := p.relays.set relay pass' } := by
  have kept : p = { p with relays := p.relays.set relay pass } := by
    rw [Table.set_same stands]
  have stays : Quiet pass act →
      ∃ rows entries pass', Acted settings p.rows p.entries pass act rows entries pass' ∧
        p = { rows, entries, relays := p.relays.set relay pass' } :=
    fun quiet => ⟨_, _, _, .idle pass act quiet, kept⟩
  cases pass with
  | none =>
    have unread : act ≠ .read → ∃ rows entries pass',
        Acted settings p.rows p.entries none act rows entries pass' ∧
          p.act settings relay none act =
            { rows, entries, relays := p.relays.set relay pass' } := by
      intro other
      have quiet := stays (fun _ _ _ held => by cases held)
      cases act with
      | read => exact absurd rfl other
      | _ => exact quiet
    cases act with
    | read => exact ⟨_, _, _, .read, rfl⟩
    | _ => exact unread (by simp)
  | some pass =>
    obtain ⟨done, current, stage, rest⟩ := pass
    cases act with
    | crash => exact ⟨_, _, _, .crash _, rfl⟩
    | read =>
      have quiet := stays (fun _ _ _ _ attempt => by cases attempt)
      cases stage <;> exact quiet
    | attempt outcome =>
      cases stage with
      | publishing attempt => exact ⟨_, _, _, .attempt _ attempt outcome _ _ rfl rfl, rfl⟩
      | returned success error =>
        exact stays (fun _ _ _ held _ stage => by cases held; cases stage)
      | marked row => exact stays (fun _ _ _ held _ stage => by cases held; cases stage)
    | mark now =>
      have quiet := stays (fun _ _ _ _ attempt => by cases attempt)
      cases stage with
      | publishing attempt => exact quiet
      | returned success error => exact ⟨_, _, _, .mark _ success error now rfl, rfl⟩
      | marked row => exact quiet
    | save =>
      have quiet := stays (fun _ _ _ _ attempt => by cases attempt)
      cases stage with
      | publishing attempt => exact quiet
      | returned success error => exact quiet
      | marked row => exact ⟨_, _, _, .save _ row rfl, rfl⟩

/-- `publish` returns only when it appended the entry, and appends nothing else. -/
theorem publish_appended {t : Topology} {place : Uuid} {event : OutboxEventRow}
    {outcome : PublishOutcome} {appended : List StreamEntry} {raised : Option String}
    (published : publish t (envelopeFromRow place event) outcome = (appended, raised)) :
    (appended = [] ∧ raised ≠ none) ∨
      ∃ entry, appended = [entry] ∧ IsEntryOf t place event entry := by
  simp only [publish, envelopeFromRow] at published
  cases named : streamNameForEvent t event.correlationId event.aggregateId with
  | none =>
    simp only [named, Prod.mk.injEq] at published
    obtain ⟨rfl, rfl⟩ := published
    exact Or.inl ⟨rfl, by simp⟩
  | some stream =>
    simp only [named] at published
    cases outcome with
    | lost error =>
      cases published
      exact Or.inl ⟨rfl, by simp⟩
    | delivered =>
      cases published
      exact Or.inr ⟨_, rfl, rfl, named⟩
    | unacknowledged error =>
      cases published
      exact Or.inr ⟨_, rfl, rfl, named⟩

/-! ## Nothing is lost -/

def OnStream (t : Topology) (entries : List StreamEntry) (place : Uuid) (event : OutboxEventRow) :
    Prop :=
  ∃ entry ∈ entries, IsEntryOf t place event entry

theorem OnStream.mono {t : Topology} {entries entries' : List StreamEntry} {place : Uuid}
    {event : OutboxEventRow} (on : OnStream t entries place event)
    (more : entries ⊆ entries') : OnStream t entries' place event := by
  obtain ⟨entry, inside, is⟩ := on
  exact ⟨entry, more inside, is⟩

/-- The event at this place of the outbox. -/
def EventAt (rows : List OutboxRow) (place : Uuid) (event : OutboxEventRow) : Prop :=
  ∃ row, rows[place]? = some row ∧ row.event = event

/-- Outbox rows keep their event. -/
def KeepsEvent (row row' : OutboxRow) : Prop := row'.event = row.event

theorem keepsEvent_refl (row : OutboxRow) : KeepsEvent row row := rfl

theorem EventAt.mono {rows rows' : List OutboxRow} {place : Uuid} {event : OutboxEventRow}
    (at_ : EventAt rows place event) (grown : Table.Evolves KeepsEvent rows rows') :
    EventAt rows' place event := by
  obtain ⟨row, here, rfl⟩ := at_
  obtain ⟨row', here', kept⟩ := grown place row here
  exact ⟨row', here', kept⟩

/-- What a relay knows of its row: it is the committed one, and where the relay says
it was published it is on its stream. -/
structure HoldsRow (t : Topology) (rows : List OutboxRow) (entries : List StreamEntry)
    (pass : Pass) : Prop where
  current : EventAt rows pass.current.1 pass.current.2.event
  rest : ∀ row ∈ pass.rest, EventAt rows row.1 row.2.event
  returned : ∀ error, pass.stage = .returned true error →
    OnStream t entries pass.current.1 pass.current.2.event
  marked : ∀ row, pass.stage = .marked row → row.publishedAt = pass.current.2.publishedAt ∨
    OnStream t entries pass.current.1 pass.current.2.event

theorem HoldsRow.mono {t : Topology} {rows rows' : List OutboxRow}
    {entries entries' : List StreamEntry} {pass : Pass} (holds : HoldsRow t rows entries pass)
    (grown : Table.Evolves KeepsEvent rows rows') (more : entries ⊆ entries') :
    HoldsRow t rows' entries' pass where
  current := holds.current.mono grown
  rest row inside := (holds.rest row inside).mono grown
  returned error stage := (holds.returned error stage).mono more
  marked row stage := (holds.marked row stage).imp_right (fun on => on.mono more)

theorem holdsRow_nextRow {t : Topology} {rows : List OutboxRow} {entries : List StreamEntry}
    {done batch : List (Uuid × OutboxRow)} {pass : Pass}
    (next : nextRow settings done batch = some pass)
    (known : ∀ row ∈ batch, EventAt rows row.1 row.2.event) : HoldsRow t rows entries pass := by
  cases batch with
  | nil => cases next
  | cons current rest =>
    cases next
    refine ⟨known current (by simp), fun row inside => known row (by simp [inside]), ?_, ?_⟩
    · intro error stage
      simp only [publishWithRetry] at stage
      split_ifs at stage
      cases stage
    · intro row stage
      simp only [publishWithRetry] at stage
      split_ifs at stage

/-- Every published row is on its stream, every entry is that of a row, and every
relay holds rows of the outbox. -/
structure Sound (settings : RelaySettings) (p : Post) : Prop where
  published : ∀ place row, p.rows[place]? = some row → row.publishedAt.isSome →
    OnStream settings.topology p.entries place row.event
  genuine : ∀ entry ∈ p.entries, ∃ place row, p.rows[place]? = some row ∧
    IsEntryOf settings.topology place row.event entry
  holds : ∀ (relay : Nat) (pass : Pass), p.relays[relay]? = some (some pass) →
    HoldsRow settings.topology p.rows p.entries pass

/-- A commit publishes no row but one its relay published. -/
theorem flush_published {t : Topology} {rows : List OutboxRow} {entries : List StreamEntry}
    {pass : Pass} (holds : HoldsRow t rows entries pass) {row stored : OutboxRow}
    (stage : pass.stage = .marked row)
    (published : (flush pass.current.2 row stored).publishedAt.isSome) :
    stored.publishedAt.isSome ∨ OnStream t entries pass.current.1 pass.current.2.event := by
  rcases holds.marked row stage with same | on
  · left
    simpa [flush, same] using published
  · exact Or.inr on

theorem getUnpublished_known {rows : List OutboxRow} {limit : Nat} {row : Uuid × OutboxRow}
    (read : row ∈ getUnpublishedOutboxEvents rows limit) :
    rows[row.1]? = some row.2 ∧ row.2.publishedAt = none := by
  obtain ⟨here, unpublished⟩ := Table.mem_select.mp (List.mem_of_mem_take read)
  exact ⟨here, by simpa using unpublished⟩

/-- What one act keeps of the rows, and what the pass it leaves behind holds. -/
theorem Acted.keeps {rows rows' : List OutboxRow} {entries entries' : List StreamEntry}
    {pass pass' : Option Pass} {act : RelayAct}
    (acted : Acted settings rows entries pass act rows' entries' pass')
    (holds : ∀ held, pass = some held → HoldsRow settings.topology rows entries held) :
    Table.Evolves KeepsEvent rows rows' ∧ entries ⊆ entries' ∧
      ∀ held, pass' = some held → HoldsRow settings.topology rows' entries' held := by
  have same : Table.Evolves KeepsEvent rows rows := Table.Evolves.refl keepsEvent_refl rows
  cases acted with
  | idle => exact ⟨same, List.Subset.refl _, holds⟩
  | read =>
    refine ⟨same, List.Subset.refl _, ?_⟩
    intro held next
    apply holdsRow_nextRow next
    intro row inside
    exact ⟨row.2, (getUnpublished_known inside).1, rfl⟩
  | crash pass =>
    refine ⟨same, List.Subset.refl _, ?_⟩
    intro held none
    cases none
  | attempt pass attempt outcome appended raised stage published =>
    have held := holds pass rfl
    have more : entries ⊆ entries ++ appended := List.subset_append_left _ _
    refine ⟨same, more, ?_⟩
    rintro _ ⟨⟩
    have moved := held.mono same more
    refine ⟨moved.current, moved.rest, ?_, ?_⟩
    · intro error returned
      -- only an attempt that raised nothing returns success
      cases raised with
      | none =>
        rcases publish_appended published with ⟨_, raises⟩ | ⟨entry, rfl, is⟩
        · exact absurd rfl raises
        · exact ⟨entry, by simp, is⟩
      | some raised =>
        simp only [afterAttempt] at returned
        split_ifs at returned
        cases returned
    · intro row marked
      cases raised with
      | none => cases marked
      | some raised =>
        simp only [afterAttempt] at marked
        split_ifs at marked
  | mark pass success error now stage =>
    have held := holds pass rfl
    refine ⟨same, List.Subset.refl _, ?_⟩
    rintro _ ⟨⟩
    refine ⟨held.current, held.rest, fun _ returned => (by cases returned), ?_⟩
    rintro row ⟨⟩
    cases success with
    | true => exact Or.inr (held.returned error stage)
    | false => exact Or.inl rfl
  | save pass row stage =>
    have grown : Table.Evolves KeepsEvent rows
        (rows.modify pass.current.1 (flush pass.current.2 row)) :=
      Table.Evolves.modify keepsEvent_refl (f := flush pass.current.2 row) (fun _ => rfl) _ _
    refine ⟨grown, List.Subset.refl _, ?_⟩
    intro held next
    apply holdsRow_nextRow next
    intro known inside
    exact ((holds pass rfl).rest known inside).mono grown

/-- A row that is published after an act was so before it, or is on its stream. -/
theorem Acted.published {rows rows' : List OutboxRow} {entries entries' : List StreamEntry}
    {pass pass' : Option Pass} {act : RelayAct}
    (acted : Acted settings rows entries pass act rows' entries' pass')
    (holds : ∀ held, pass = some held → HoldsRow settings.topology rows entries held)
    {place : Uuid} {row' : OutboxRow} (here : rows'[place]? = some row')
    (published : row'.publishedAt.isSome) :
    (∃ row, rows[place]? = some row ∧ row.event = row'.event ∧ row.publishedAt.isSome) ∨
      OnStream settings.topology entries' place row'.event := by
  cases acted with
  | idle => exact Or.inl ⟨row', here, rfl, published⟩
  | read => exact Or.inl ⟨row', here, rfl, published⟩
  | crash pass => exact Or.inl ⟨row', here, rfl, published⟩
  | attempt pass attempt outcome appended raised stage sent =>
    exact Or.inl ⟨row', here, rfl, published⟩
  | mark pass success error now stage => exact Or.inl ⟨row', here, rfl, published⟩
  | save pass marked stage =>
    have held := holds pass rfl
    rcases Table.get_modify.mp here with ⟨rfl, stored, known, rfl⟩ | ⟨_, known⟩
    · rcases flush_published held stage published with before | on
      · exact Or.inl ⟨stored, known, rfl, before⟩
      · right
        obtain ⟨row, found, same⟩ := held.current
        rw [known] at found
        cases found
        rw [← same] at on
        exact on
    · exact Or.inl ⟨row', known, rfl, published⟩

/-- An entry there is after an act was there before, or is that of the row at hand. -/
theorem Acted.genuine {rows rows' : List OutboxRow} {entries entries' : List StreamEntry}
    {pass pass' : Option Pass} {act : RelayAct}
    (acted : Acted settings rows entries pass act rows' entries' pass')
    (holds : ∀ held, pass = some held → HoldsRow settings.topology rows entries held)
    {entry : StreamEntry} (inside : entry ∈ entries') :
    entry ∈ entries ∨ ∃ place row, rows[place]? = some row ∧
      IsEntryOf settings.topology place row.event entry := by
  cases acted with
  | idle => exact Or.inl inside
  | read => exact Or.inl inside
  | crash pass => exact Or.inl inside
  | mark pass success error now stage => exact Or.inl inside
  | save pass marked stage => exact Or.inl inside
  | attempt pass attempt outcome appended raised stage sent =>
    rcases List.mem_append.mp inside with before | new
    · exact Or.inl before
    · right
      rcases publish_appended sent with ⟨rfl, _⟩ | ⟨only, rfl, is⟩
      · cases new
      · obtain rfl := List.mem_singleton.mp new
        obtain ⟨row, here, same⟩ := (holds pass rfl).current
        rw [← same] at is
        exact ⟨pass.current.1, row, here, is⟩

theorem getElem?_append_rows {rows new : List OutboxRow} {place : Nat} {row : OutboxRow}
    (here : (rows ++ new)[place]? = some row) : rows[place]? = some row ∨ row ∈ new := by
  rcases Nat.lt_or_ge place rows.length with old | beyond
  · exact Or.inl (by rwa [List.getElem?_append_left old] at here)
  · rw [List.getElem?_append_right beyond] at here
    exact Or.inr (List.mem_of_getElem? here)

theorem sound_commit (events : List OutboxEventRow) (sound : Sound settings p) :
    Sound settings (p.step settings (.commit events)) := by
  have grown : Table.Evolves KeepsEvent p.rows
      (p.rows ++ events.map newOutboxRow) :=
    Table.Evolves.append keepsEvent_refl _ _
  refine ⟨?_, ?_, ?_⟩
  · intro place row here published
    rcases getElem?_append_rows here with old | new
    · exact sound.published place row old published
    · -- a committed event is not published yet
      obtain ⟨event, _, rfl⟩ := List.mem_map.mp new
      cases published
  · intro entry inside
    obtain ⟨place, row, here, is⟩ := sound.genuine entry inside
    obtain ⟨row', here', same⟩ := grown place row here
    exact ⟨place, row', here', by rw [same]; exact is⟩
  · intro relay pass stands
    exact (sound.holds relay pass stands).mono grown (List.Subset.refl _)

theorem sound_step (e : PostEvent) (sound : Sound settings p) : Sound settings (p.step settings e) := by
  cases e with
  | commit events => exact sound_commit events sound
  | relay relay act =>
    simp only [Post.step]
    cases stands : p.relays[relay]? with
    | none => exact sound
    | some pass =>
      obtain ⟨rows, entries, pass', acted, becomes⟩ := act_acted stands act
      have holds : ∀ held, pass = some held →
          HoldsRow settings.topology p.rows p.entries held := by
        rintro held rfl
        exact sound.holds relay held stands
      obtain ⟨grown, more, held'⟩ := acted.keeps holds
      simp only [becomes]
      refine ⟨?_, ?_, ?_⟩
      · intro place row here published
        rcases acted.published holds here published with ⟨before, known, same, was⟩ | on
        · rw [← same]
          exact (sound.published place before known was).mono more
        · exact on
      · intro entry inside
        have known : ∃ place row, p.rows[place]? = some row ∧
            IsEntryOf settings.topology place row.event entry := by
          rcases acted.genuine holds inside with old | new
          · exact sound.genuine entry old
          · exact new
        obtain ⟨place, row, here, is⟩ := known
        obtain ⟨row', here', same⟩ := grown place row here
        exact ⟨place, row', here', by rw [same]; exact is⟩
      · intro other held here
        rcases (Table.get_put stands).mp here with ⟨_, now⟩ | ⟨_, elsewhere⟩
        · exact held' held now.symm
        · exact (sound.holds other held elsewhere).mono grown more

theorem sound_empty (settings : RelaySettings) (relays : Nat) :
    Sound settings (emptyPost relays) := by
  refine ⟨?_, ?_, ?_⟩
  · intro place row here
    simp [emptyPost] at here
  · intro entry inside
    cases inside
  · intro relay pass here
    have idle := List.eq_of_mem_replicate (List.mem_of_getElem? here)
    cases idle

theorem sound_postAfter (settings : RelaySettings) (relays : Nat) (events : List PostEvent) :
    Sound settings (postAfter settings relays events) :=
  Machine.state_invariant (sound_empty settings relays) (fun _ e => sound_step e) events

/-- What the outbox and the streams owe each other. -/
structure LosesNothing (settings : RelaySettings) (p : Post) : Prop where
  published : ∀ place row, p.rows[place]? = some row → row.publishedAt ≠ none →
    ∃ entry ∈ p.entries, IsEntryOf settings.topology place row.event entry
  offered : ∀ place row, p.rows[place]? = some row → row.publishedAt = none →
    ∃ enough, ∀ limit, enough ≤ limit → (place, row) ∈ getUnpublishedOutboxEvents p.rows limit
  genuine : ∀ entry ∈ p.entries, ∃ place row, p.rows[place]? = some row ∧
    IsEntryOf settings.topology place row.event entry

/-- A batch that is large enough offers every unpublished row. -/
theorem getUnpublished_offers {rows : List OutboxRow} {place : Uuid} {row : OutboxRow}
    (here : rows[place]? = some row) (unpublished : row.publishedAt = none) :
    ∃ enough, ∀ limit, enough ≤ limit → (place, row) ∈ getUnpublishedOutboxEvents rows limit := by
  refine ⟨(Table.select (fun row => row.publishedAt.isNone) rows).length, ?_⟩
  intro limit enough
  rw [getUnpublishedOutboxEvents, List.take_of_length_le enough]
  exact Table.mem_select.mpr ⟨here, by simp [unpublished]⟩

/-- However many relays run, whatever their publishes meet and wherever they crash. -/
theorem outbox_losesNothing (settings : RelaySettings) (relays : Nat) (events : List PostEvent) :
    LosesNothing settings (postAfter settings relays events) := by
  have sound := sound_postAfter settings relays events
  refine ⟨?_, ?_, sound.genuine⟩
  · intro place row here published
    exact sound.published place row here (Option.isSome_iff_ne_none.mpr published)
  · intro place row here unpublished
    exact getUnpublished_offers here unpublished

end IncidentTriage.Events
