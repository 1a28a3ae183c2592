import IncidentTriage.Library.Trails
import IncidentTriage.Incident.System
import IncidentTriage.Verified.Outbox

/-! # The histories of incidents and remediations

The status changes of an incident are told by its outbox events, those of a
remediation by its timeline.  `Recounts s hand s' hand'` says that what was recorded
between two stores leads every incident from where it stood to where it stands, and
every remediation from the status it had in hand to the one it has in hand now; an
incident keeps the key and the time it was opened with.  A command holds the row of its
remediation in hand until it commits, so that the status in hand runs ahead of the table
in between.
-/

namespace IncidentTriage.Verified

open IncidentTriage.Python IncidentTriage.Domain IncidentTriage.Incident

/-! ## Incidents -/

/-- What an `IncidentStatusChanged` event says. -/
structure StatusChange where
  fromStatus : IncidentStatus
  toStatus : IncidentStatus
  version : Nat

def statusChangeOf (i : Uuid) : OutboxPayload → Option StatusChange
  | .incidentStatusChanged incidentId fromStatus toStatus _ version =>
    if incidentId = i then some { fromStatus, toStatus, version } else none
  | _ => none

/-- The status changes of an incident, in sequence order. -/
def changesOf (outbox : List OutboxEventRow) (i : Uuid) : List StatusChange :=
  outbox.filterMap (fun e => statusChangeOf i e.payload)

structure Standing where
  status : IncidentStatus
  version : Nat

/-- Where a new incident begins. -/
def Standing.initial : Standing := { status := .triaging, version := 0 }

/-- Where an incident stands; before it is there, where a new one begins. -/
def standingAt (incidents : List IncidentRow) (i : Uuid) : Standing :=
  match incidents[i]? with
  | some incident => { status := incident.status, version := incident.version }
  | none => .initial

/-- A change leads on from where the incident stands, and counts the version up. -/
structure LeadsOn (before : Standing) (change : StatusChange) (after : Standing) : Prop where
  fromStatus : change.fromStatus = before.status
  toStatus : change.toStatus = after.status
  version : change.version = before.version + 1
  counted : after.version = change.version

theorem changesOf_insert (outbox : List OutboxEventRow) (e : OutboxEventRow) (i : Uuid) :
    changesOf (outbox ++ [e]) i = changesOf outbox i ++ (statusChangeOf i e.payload).toList := by
  unfold changesOf
  rw [List.filterMap_append]
  cases change : statusChangeOf i e.payload with
  | none => simp [change]
  | some c => simp [change]

section
variable {incidents : List IncidentRow} {i : Uuid} {incident row : IncidentRow}

theorem standingAt_set (found : incidents[i]? = some incident) (row : IncidentRow) (k : Uuid) :
    standingAt (incidents.set i row) k =
      if k = i then { status := row.status, version := row.version }
      else standingAt incidents k := by
  unfold standingAt
  by_cases same : k = i
  · subst same
    rw [if_pos rfl, List.getElem?_set_self (Table.lt_of_row found)]
  · rw [if_neg same, List.getElem?_set_ne (Ne.symm same)]

theorem standingAt_set_same (found : incidents[i]? = some incident)
    (status : row.status = incident.status) (version : row.version = incident.version) :
    standingAt (incidents.set i row) = standingAt incidents := by
  funext k
  rw [standingAt_set found]
  split_ifs with same
  · subst same
    simp [standingAt, found, status, version]
  · rfl

/-- A new incident stands where every incident begins. -/
theorem standingAt_append (incidents : List IncidentRow) (status : row.status = .triaging)
    (version : row.version = 0) : standingAt (incidents ++ [row]) = standingAt incidents := by
  funext k
  unfold standingAt
  rcases Nat.lt_trichotomy k incidents.length with inside | rfl | beyond
  · rw [List.getElem?_append_left inside]
  · simp [status, version, Standing.initial]
  · have outside : incidents.length ≤ k := Nat.le_of_lt beyond
    have further : (incidents ++ [row]).length ≤ k := by
      rw [List.length_append]
      exact beyond
    rw [List.getElem?_eq_none further, List.getElem?_eq_none outside]

end

/-! ## Remediations -/

/-- The status of each remediation. -/
abbrev Hand := Uuid → Option RemediationStatus

def remediationStatus (remediations : List RemediationRow) : Hand :=
  fun id => remediations[id]?.map (·.status)

/-- The entries of a remediation, in the order they were written. -/
def timelineOf (timeline : List RemediationTimelineRow) (id : Uuid) :
    List RemediationTimelineRow :=
  timeline.filter (fun t => t.remediationId == id)

/-- A remediation begins as `PROPOSED`; after that it stays, or takes an allowed
transition. -/
inductive Passes : Option RemediationStatus → Option RemediationStatus → Prop
  | created : Passes none (some .proposed)
  | stayed (status : RemediationStatus) : Passes (some status) (some status)
  | moved {fromStatus toStatus : RemediationStatus}
      (allowed : canTransition fromStatus toStatus = true) :
      Passes (some fromStatus) (some toStatus)

/-- An entry starts at the status the remediation has, and ends at the one it has then. -/
structure Follows (before : Option RemediationStatus) (entry : RemediationTimelineRow)
    (after : Option RemediationStatus) : Prop where
  fromStatus : entry.fromStatus = before
  toStatus : entry.toStatus = after
  passes : Passes before after

/-- No transition leaves a terminal status. -/
theorem Passes.terminal {status : RemediationStatus} {after : Option RemediationStatus}
    (passes : Passes (some status) after) (terminal : status ∈ terminalRemediationStatuses) :
    after = some status := by
  cases passes with
  | stayed => rfl
  | moved allowed =>
    cases status <;> first | exact absurd terminal (by decide) |
      simp [canTransition, allowedTransitions] at allowed

/-- The entries of a remediation are numbered from 1, without gaps. -/
def Numbered (timeline : List RemediationTimelineRow) : Prop :=
  ∀ id, (timelineOf timeline id).map (·.sequence) = List.range' 1 (timelineOf timeline id).length

theorem timelineOf_insert (timeline : List RemediationTimelineRow)
    (entry : RemediationTimelineRow) (id : Uuid) :
    timelineOf (timeline ++ [entry]) id =
      timelineOf timeline id ++ if id = entry.remediationId then [entry] else [] := by
  unfold timelineOf
  rw [List.filter_append]
  by_cases same : id = entry.remediationId
  · subst same
    simp
  · simp [same, Ne.symm same]

/-- The largest of the numbers `1, …, n`. -/
theorem foldl_max_range' (n : Nat) : (List.range' 1 n).foldl max 0 = n := by
  induction n with
  | zero => rfl
  | succ n ih =>
    rw [List.range'_1_concat, List.foldl_append, ih]
    simp only [List.foldl_cons, List.foldl_nil]
    omega

theorem Numbered.insert {timeline : List RemediationTimelineRow}
    {entry : RemediationTimelineRow} (numbered : Numbered timeline)
    (next : entry.sequence =
      ((timelineOf timeline entry.remediationId).map (·.sequence)).foldl max 0 + 1) :
    Numbered (timeline ++ [entry]) := by
  intro id
  rw [timelineOf_insert]
  by_cases same : id = entry.remediationId
  · subst same
    rw [numbered, foldl_max_range'] at next
    rw [if_pos rfl, List.map_append, numbered, List.length_append, List.length_singleton,
      List.range'_1_concat, List.map_singleton, next, Nat.add_comm]
  · rw [if_neg same, List.append_nil]
    exact numbered id

section
variable {remediations : List RemediationRow} {id : Uuid} {row : RemediationRow}

theorem remediationStatus_set (inside : id < remediations.length) :
    remediationStatus (remediations.set id row) =
      Function.update (remediationStatus remediations) id (some row.status) := by
  funext k
  rw [Function.update_apply]
  unfold remediationStatus
  by_cases same : k = id
  · subst same
    rw [if_pos rfl, List.getElem?_set_self inside]
    rfl
  · rw [if_neg same, List.getElem?_set_ne (Ne.symm same)]

theorem remediationStatus_append (remediations : List RemediationRow) (row : RemediationRow) :
    remediationStatus (remediations ++ [row]) =
      Function.update (remediationStatus remediations) remediations.length (some row.status) := by
  funext k
  rw [Function.update_apply]
  unfold remediationStatus
  rcases Nat.lt_trichotomy k remediations.length with inside | rfl | beyond
  · rw [if_neg (Nat.ne_of_lt inside), List.getElem?_append_left inside]
  · simp
  · have outside : remediations.length ≤ k := Nat.le_of_lt beyond
    have further : (remediations ++ [row]).length ≤ k := by
      rw [List.length_append]
      exact beyond
    rw [if_neg (Nat.ne_of_gt beyond), List.getElem?_eq_none further,
      List.getElem?_eq_none outside]

end

/-! ## What a step records -/

/-- The columns of an incident that are fixed once it is opened. -/
structure SameOrigin (row row' : IncidentRow) : Prop where
  correlationKey : row'.correlationKey = row.correlationKey
  createdAt : row'.createdAt = row.createdAt

theorem SameOrigin.refl (row : IncidentRow) : SameOrigin row row := ⟨rfl, rfl⟩

theorem SameOrigin.trans {a b c : IncidentRow} (first : SameOrigin a b) (second : SameOrigin b c) :
    SameOrigin a c :=
  ⟨second.correlationKey.trans first.correlationKey, second.createdAt.trans first.createdAt⟩

structure Recounts (s : Store) (hand : Hand) (s' : Store) (hand' : Hand) : Prop where
  origins : Table.Evolves SameOrigin s.incidents s'.incidents
  incidents : Extends LeadsOn (changesOf s.audit.outbox) (changesOf s'.audit.outbox)
    (standingAt s.incidents) (standingAt s'.incidents)
  remediations : Extends Follows (timelineOf s.audit.timeline) (timelineOf s'.audit.timeline)
    hand hand'
  numbered : Numbered s.audit.timeline → Numbered s'.audit.timeline

/-- A whole transaction: what is in hand is what the rows say. -/
def Recounted (s s' : Store) : Prop :=
  Recounts s (remediationStatus s.remediation.remediations) s'
    (remediationStatus s'.remediation.remediations)

section
variable {s s₁ s' : Store} {hand hand₁ hand' : Hand} {i id : Uuid} {incident : IncidentRow}
  {now : Time}

theorem Recounts.refl (s : Store) (hand : Hand) : Recounts s hand s hand :=
  ⟨.refl SameOrigin.refl _, .refl _ _, .refl _ _, fun numbered => numbered⟩

theorem Recounts.trans (first : Recounts s hand s₁ hand₁) (second : Recounts s₁ hand₁ s' hand') :
    Recounts s hand s' hand' :=
  ⟨first.origins.trans (R := SameOrigin) SameOrigin.trans second.origins, first.incidents.trans second.incidents,
    first.remediations.trans second.remediations,
    fun numbered => second.numbered (first.numbered numbered)⟩

/-- Rows may be written that nothing is recorded about: incidents keep their standing. -/
theorem Recounts.of_standing (origins : Table.Evolves SameOrigin s.incidents s'.incidents)
    (standing : standingAt s'.incidents = standingAt s.incidents) (audit : s'.audit = s.audit) :
    Recounts s hand s' hand := by
  constructor
  · exact origins
  · rw [standing, audit]
    exact Extends.refl _ _
  · rw [audit]
    exact Extends.refl _ _
  · rw [audit]
    exact fun numbered => numbered

theorem Recounts.of_frame (incidents : s'.incidents = s.incidents) (audit : s'.audit = s.audit) :
    Recounts s hand s' hand := by
  apply Recounts.of_standing
  · rw [incidents]
    exact .refl SameOrigin.refl _
  · rw [incidents]
  · exact audit

theorem Recounts.write (before : Recounts s hand s₁ hand₁) (incidents : s'.incidents = s₁.incidents)
    (audit : s'.audit = s₁.audit) : Recounts s hand s' hand₁ :=
  before.trans (.of_frame incidents audit)

/-- What was written before, and nothing recorded about it. -/
theorem Recounts.after (told : Recounts s₁ hand s' hand') (incidents : s₁.incidents = s.incidents)
    (audit : s₁.audit = s.audit) : Recounts s hand s' hand' :=
  (Recounts.of_frame incidents audit).trans told

/-- An event that is no status change, after a step. -/
theorem Recounts.insert {aggregateType : AggregateType} {aggregateId : Uuid}
    {correlationId : Option Uuid} {payload : OutboxPayload}
    (before : Recounts s hand s₁ hand₁) (other : isStatusChange payload = false) :
    Recounts s hand
      (insertOutboxEvent s₁ now aggregateType aggregateId correlationId payload) hand₁ := by
  apply before.trans
  refine ⟨.refl SameOrigin.refl _, ?_, .refl _ _, fun numbered => numbered⟩
  have none : ∀ i, statusChangeOf i payload = Option.none := by
    intro i
    cases payload <;> first | rfl | cases other
  intro i
  refine ⟨[], ?_, Trail.refl _⟩
  show changesOf (s₁.audit.outbox ++ [_]) i = _
  rw [changesOf_insert, none i]
  rfl

/-- A move of an incident and the event that tells it. -/
theorem Recounts.moved {toStatus : IncidentStatus} {closes : Bool} {reason : String}
    {correlationId : Option Uuid} (before : Recounts s hand s₁ hand₁)
    (found : s₁.incidents[i]? = some incident) :
    Recounts s hand (insertOutboxEvent
      { s₁ with incidents := s₁.incidents.set i (incident.moved now toStatus closes) }
      now .incident i correlationId (.incidentStatusChanged i incident.status toStatus reason
        (incident.version + 1))) hand₁ := by
  apply before.trans
  refine ⟨.put SameOrigin.refl found ⟨rfl, rfl⟩, ?_, .refl _ _, fun numbered => numbered⟩
  have moved : standingAt (s₁.incidents.set i (incident.moved now toStatus closes)) =
      Function.update (standingAt s₁.incidents) i
        { status := toStatus, version := incident.version + 1 } := by
    funext k
    rw [standingAt_set found, Function.update_apply]
    rfl
  show Extends LeadsOn _ (changesOf (s₁.audit.outbox ++ [_])) _
    (standingAt (s₁.incidents.set i (incident.moved now toStatus closes)))
  rw [moved]
  apply Extends.single (m := ⟨incident.status, toStatus, incident.version + 1⟩)
  · intro k
    rw [changesOf_insert]
    by_cases same : k = i
    · subst same
      simp [statusChangeOf]
    · simp [statusChangeOf, same, Ne.symm same]
  · constructor
    · simp [standingAt, found]
    · rfl
    · simp [standingAt, found]
    · rfl

/-- One more entry of the timeline. -/
theorem Recounts.entered {row : RemediationRow} {event actor : String}
    {fromStatus toStatus : Option RemediationStatus} {version : Option String}
    (before : Recounts s hand s₁ hand₁) (held : hand₁ id = fromStatus)
    (passes : Passes fromStatus toStatus) :
    Recounts s hand (insertTimeline s₁ now id row event fromStatus toStatus actor version)
      (Function.update hand₁ id toStatus) := by
  apply before.trans
  refine ⟨.refl SameOrigin.refl _, .refl _ _, ?_, ?_⟩
  · apply Extends.single
    · exact timelineOf_insert _ _
    · exact ⟨held.symm, rfl, by rw [held]; exact passes⟩
  · intro numbered
    exact numbered.insert rfl

/-- An entry about a remediation that stays where it is. -/
theorem Recounts.noted {row : RemediationRow} {event actor : String} {status : RemediationStatus}
    {version : Option String} (before : Recounts s hand s₁ hand₁)
    (held : hand₁ id = some status) :
    Recounts s hand (insertTimeline s₁ now id row event (some status) (some status) actor version)
      hand₁ := by
  have entered : Recounts s hand
      (insertTimeline s₁ now id row event (some status) (some status) actor version)
      (Function.update hand₁ id (some status)) := before.entered held (.stayed status)
  rw [← held, Function.update_eq_self] at entered
  rw [← held]
  exact entered

/-- The row in hand is written with the commit. -/
theorem Recounts.commit {row : RemediationRow} {status : RemediationStatus}
    (before : Recounts s hand s₁
      (Function.update (remediationStatus s₁.remediation.remediations) id (some status)))
    (inside : id < s₁.remediation.remediations.length)
    (incidents : s'.incidents = s₁.incidents) (audit : s'.audit = s₁.audit)
    (table : s'.remediation.remediations = s₁.remediation.remediations.set id row)
    (written : row.status = status) :
    Recounts s hand s' (remediationStatus s'.remediation.remediations) := by
  rw [table, remediationStatus_set inside, written]
  exact before.write incidents audit

end

end IncidentTriage.Verified
