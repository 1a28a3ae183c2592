import IncidentTriage.Evidence.Service
import IncidentTriage.Verified.EvidenceHashes
import IncidentTriage.Verified.IncidentScopes
import IncidentTriage.Verified.Rechecks

/-! # Evidence that is returned

What the evidence service returns is on record for good, incident-core refers to it, and the two
agree.  A record without a reference is one whose query has yet to register it, or whose caller
died: the registration itself cannot fail.
-/

namespace IncidentTriage.Verified

open IncidentTriage.Python IncidentTriage.Domain IncidentTriage.Incident IncidentTriage.Evaluation
open IncidentTriage.Evidence IncidentTriage.Evidence.EvidenceService
open IncidentTriage.Tools (EvidenceError)

/-! ## What a step does -/

/-- The query has not come to its end. -/
def Unfinished (phase : QueryPhase) : Prop :=
  (∀ item, phase ≠ .returned item) ∧ ∀ error, phase ≠ .failed error

inductive EvidenceMove (e : EvidenceEnv) (y y' : EvidenceSystem) : Prop
  | waits (same : y' = y)
  | asked (run : QueryRun) (fresh : run.phase = .asked)
      (moved : y' = { y with queries := y.queries ++ [run] })
  | sent (place : Nat) (run : QueryRun) (now : Time) (scope : QueryScope) (query : BackendQuery)
      (row : y.queries[place]? = some run) (phase : run.phase = .asked)
      (prepared : EvidenceSystem.prepare e y.world.store now run = .ok (scope, query))
      (moved : y' = { y.moved place run (.sent scope query) with
        requests := y.requests ++ [{ incidentId := run.incidentId, at_ := now, query }] })
  | observed (place : Nat) (run : QueryRun) (scope : QueryScope) (query : BackendQuery)
      (reply o : EvidenceService.Observation) (row : y.queries[place]? = some run)
      (phase : run.phase = .sent scope query) (accepted : run.query.accept scope reply = .ok o)
      (moved : y' = y.moved place run (.observed scope o))
  | refused (place : Nat) (run : QueryRun) (error : EvidenceError)
      (row : y.queries[place]? = some run)
      (phase : run.phase = .asked ∨ ∃ scope query, run.phase = .sent scope query)
      (moved : y' = y.moved place run (.failed error))
  | persisted (place : Nat) (run : QueryRun) (scope : QueryScope)
      (o : EvidenceService.Observation) (now : Time) (id : Fin (2 ^ 128)) (r : EvidenceRecord)
      (row : y.queries[place]? = some run)
      (phase : run.phase = .observed scope o)
      (made : recordOf e scope.incidentId o run.requestedBy run.investigationId now id
        (y.records.length + 1) = some r)
      (fresh : ∀ other ∈ y.records, other.evidenceId ≠ r.evidenceId)
      (moved : y' = { y.moved place run (.persisted r) with records := y.records ++ [r] })
  | registered (place elapsed : Nat) (run : QueryRun) (r : EvidenceRecord) (new : Bool)
      (s' : Store) (row : y.queries[place]? = some run) (phase : run.phase = .persisted r)
      (done : registerEvidenceRef (y.world.clock + elapsed) y.world.store r.registration =
        .ok (new, s'))
      (moved : y' = { y.moved place run (.returned r.toItem) with
        world := Incident.step e.core y.world
          { elapsed, command := .registerEvidenceRef r.registration } })
  | unregistered (place elapsed : Nat) (run : QueryRun) (r : EvidenceRecord) (error : DomainError)
      (row : y.queries[place]? = some run) (phase : run.phase = .persisted r)
      (raised : registerEvidenceRef (y.world.clock + elapsed) y.world.store r.registration =
        .error error)
      (moved : y' = { y.moved place run .lost with
        world := Incident.step e.core y.world
          { elapsed, command := .registerEvidenceRef r.registration } })
  | lost (place : Nat) (run : QueryRun) (row : y.queries[place]? = some run)
      (unfinished : Unfinished run.phase) (moved : y' = y.moved place run .lost)
  | commanded (event : Event) (other : ∀ c, event.command ≠ .registerEvidenceRef c)
      (moved : y' = { y with world := Incident.step e.core y.world event })

theorem insertEvidence_eq_some {records records' : List EvidenceRecord} {r : EvidenceRecord}
    (inserted : insertEvidence records r = some records') :
    records' = records ++ [r] ∧ ∀ other ∈ records, other.evidenceId ≠ r.evidenceId := by
  unfold insertEvidence at inserted
  split_ifs at inserted with refused
  simp only [Bool.or_eq_true, not_or, List.any_eq_true, not_exists, not_and, beq_iff_eq]
    at refused
  exact ⟨(Option.some.inj inserted).symm, fun other member => refused.1 other member⟩

section
variable (e : EvidenceEnv) (y : EvidenceSystem)

theorem send_move {place : Nat} {run : QueryRun} (now : Time)
    (row : y.queries[place]? = some run) (phase : run.phase = .asked) :
    EvidenceMove e y (y.send e place now run) := by
  unfold EvidenceSystem.send
  cases prepared : EvidenceSystem.prepare e y.world.store now run with
  | error error => exact .refused place run error row (.inl phase) rfl
  | ok asked => exact .sent place run now asked.1 asked.2 row phase prepared rfl

theorem answer_move {place : Nat} {run : QueryRun} {scope : QueryScope} {query : BackendQuery}
    (reply : Except EvidenceError EvidenceService.Observation) (row : y.queries[place]? = some run)
    (phase : run.phase = .sent scope query) :
    EvidenceMove e y (y.answer place run scope reply) := by
  unfold EvidenceSystem.answer
  cases reply with
  | error error => exact .refused place run error row (.inr ⟨scope, query, phase⟩) rfl
  | ok reply =>
    simp only [Except.bind]
    cases accepted : run.query.accept scope reply with
    | error error => exact .refused place run error row (.inr ⟨scope, query, phase⟩) rfl
    | ok o => exact .observed place run scope query reply o row phase accepted rfl

theorem persist_move {place : Nat} {run : QueryRun} {scope : QueryScope}
    {o : EvidenceService.Observation}
    (now : Time) (id : Fin (2 ^ 128)) (row : y.queries[place]? = some run)
    (phase : run.phase = .observed scope o) :
    EvidenceMove e y (y.persist e place now id run scope o) := by
  have lost : EvidenceMove e y (y.moved place run .lost) :=
    .lost place run row ⟨by simp [phase], by simp [phase]⟩ rfl
  unfold EvidenceSystem.persist
  cases made : recordOf e scope.incidentId o run.requestedBy run.investigationId now id
    (y.records.length + 1) with
  | none => exact lost
  | some r =>
    cases inserted : insertEvidence y.records r with
    | none => simpa [inserted] using lost
    | some records =>
      obtain ⟨rfl, fresh⟩ := insertEvidence_eq_some inserted
      simp only [inserted, Option.bind_eq_bind, Option.bind_some, Option.pure_def]
      exact .persisted place run scope o now id r row phase made fresh rfl

theorem register_move {place : Nat} {run : QueryRun} {r : EvidenceRecord} (elapsed : Nat)
    (row : y.queries[place]? = some run) (phase : run.phase = .persisted r) :
    EvidenceMove e y (y.register e place elapsed run r) := by
  unfold EvidenceSystem.register
  cases done : registerEvidenceRef (y.world.clock + elapsed) y.world.store r.registration with
  | error error => exact .unregistered place elapsed run r error row phase done rfl
  | ok result => exact .registered place elapsed run r result.1 result.2 row phase done rfl

theorem step_evidenceMove (event : EvidenceEvent) : EvidenceMove e y (y.step e event) := by
  cases event with
  | ask incidentId query requestedBy investigationId => exact .asked _ rfl rfl
  | command event other => exact .commanded event other rfl
  | send place now =>
    simp only [EvidenceSystem.step]
    split
    · rename_i run row
      split
      · exact send_move e y now row ‹_›
      · exact .waits rfl
    · exact .waits rfl
  | answer place reply =>
    simp only [EvidenceSystem.step]
    split
    · rename_i run row
      split
      · exact answer_move e y reply row ‹_›
      · exact .waits rfl
    · exact .waits rfl
  | persist place now id =>
    simp only [EvidenceSystem.step]
    split
    · rename_i run row
      split
      · exact persist_move e y now id row ‹_›
      · exact .waits rfl
    · exact .waits rfl
  | register place elapsed =>
    simp only [EvidenceSystem.step]
    split
    · rename_i run row
      split
      · exact register_move e y elapsed row ‹_›
      · exact .waits rfl
    · exact .waits rfl
  | lose place =>
    simp only [EvidenceSystem.step]
    split
    · rename_i run row
      split
      · exact .waits rfl
      · exact .waits rfl
      · rename_i unreturned unfailed
        exact .lost place run row ⟨unreturned, unfailed⟩ rfl
    · exact .waits rfl

end

/-! ## References -/

/-- The incident is there. -/
def KnownIncident (s : Store) (incidentId : Uuid) : Prop :=
  ∃ incident, s.incidents[incidentId]? = some incident

theorem KnownIncident.later {s s' : Store} {incidentId : Uuid} (known : KnownIncident s incidentId)
    (kept : ScopesKept s s') : KnownIncident s' incidentId := by
  obtain ⟨incident, found⟩ := known
  obtain ⟨incident', found', _⟩ := kept incidentId incident found
  exact ⟨incident', found'⟩

/-- The reference that a registration asks for. -/
def requestedRef (command : RegisterEvidenceRefCommand) : EvidenceRefRow :=
  { id := command.evidenceId
    incidentId := command.incidentId
    investigationId := command.investigationId
    evidenceType := command.evidenceType
    contentHash := command.contentHash
    sourceSystem := command.sourceSystem
    collectedAt := command.collectedAt }

/-- A registration finds a reference under its id, or adds its own. -/
theorem registerEvidenceRef_cases {now : Time} {s s' : Store}
    {command : RegisterEvidenceRefCommand} {new : Bool}
    (done : registerEvidenceRef now s command = .ok (new, s')) :
    (s' = s ∧ ∃ existing ∈ s.alert.evidenceRefs, existing.id = command.evidenceId) ∨
      s'.alert.evidenceRefs = s.alert.evidenceRefs ++ [requestedRef command] := by
  simp only [registerEvidenceRef, bind_eq_ok, found_eq_ok] at done
  obtain ⟨incident, found, done⟩ := done
  split at done
  · rename_i existing stored
    split_ifs at done with conflict
    cases done
    exact .inl ⟨rfl, existing, List.mem_of_find?_eq_some stored,
      beq_iff_eq.mp (List.find?_some stored :)⟩
  · cases done
    exact .inr rfl

/-- References are never taken away. -/
theorem execute_refs_grow (env : Env) (now : Time) (tickets : List IssuedTicket) (s : Store)
    (c : Command) : ∀ ref ∈ s.alert.evidenceRefs,
      ref ∈ (execute env now tickets s c).alert.evidenceRefs := by
  intro ref member
  cases c with
  | registerEvidenceRef command =>
    simp only [execute, committed]
    split
    · rename_i new s' done
      rcases registerEvidenceRef_cases done with ⟨rfl, _⟩ | added
      · exact member
      · rw [added]
        exact List.mem_append_left _ member
    · exact member
  | _ =>
    rw [execute_evidenceRefs env now tickets s (by simp)]
    exact member

/-- The reference of a record. -/
def referenceOf (r : EvidenceRecord) : EvidenceRefRow := requestedRef r.registration

/-- Records with distinct ids, each of an incident and under the hash of its response, and the
references of some of them. -/
structure RecordsSound (e : EvidenceEnv) (records : List EvidenceRecord) (s : Store) : Prop where
  unique : (records.map (·.evidenceId)).Nodup
  hashed : ∀ r ∈ records, r.contentHash = contentHash e.core.sha256 r.rawResponse
  known : ∀ r ∈ records, KnownIncident s r.incidentId
  refs : ∀ ref ∈ s.alert.evidenceRefs, ∃ r ∈ records, ref = referenceOf r

section
variable {e : EvidenceEnv} {records : List EvidenceRecord} {s s' : Store}

/-- The reference under the id of a record is that of the record. -/
theorem RecordsSound.ref_eq (sound : RecordsSound e records s) {r : EvidenceRecord}
    (member : r ∈ records) {ref : EvidenceRefRow} (listed : ref ∈ s.alert.evidenceRefs)
    (same : ref.id = r.evidenceId) : ref = referenceOf r := by
  obtain ⟨r', member', rfl⟩ := sound.refs ref listed
  rw [List.inj_on_of_nodup_map sound.unique member' member same]

/-- After its registration a record is referred to. -/
theorem RecordsSound.registered (sound : RecordsSound e records s) {r : EvidenceRecord}
    (member : r ∈ records) {now : Time} {new : Bool}
    (done : registerEvidenceRef now s r.registration = .ok (new, s')) :
    RecordsSound e records s' ∧ referenceOf r ∈ s'.alert.evidenceRefs := by
  rcases registerEvidenceRef_cases done with ⟨rfl, existing, listed, same⟩ | added
  · exact ⟨sound, sound.ref_eq member listed same ▸ listed⟩
  · have kept := (AlertStep.of_registerEvidenceRef done).scopesKept
    refine ⟨⟨sound.unique, sound.hashed, fun r' member' => (sound.known r' member').later kept,
      fun ref listed => ?_⟩, by simp [added, referenceOf]⟩
    rw [added] at listed
    rcases List.mem_append.mp listed with earlier | own
    · exact sound.refs ref earlier
    · exact ⟨r, member, List.mem_singleton.mp own⟩

/-- No registration of a record raises. -/
theorem RecordsSound.registers (sound : RecordsSound e records s) {r : EvidenceRecord}
    (member : r ∈ records) (now : Time) :
    ∃ new s', registerEvidenceRef now s r.registration = .ok (new, s') := by
  obtain ⟨incident, found⟩ := sound.known r member
  replace found : s.incidents[r.registration.incidentId]? = some incident := found
  cases stored : getEvidenceRef s r.registration.evidenceId with
  | none => exact ⟨true, _, by simp only [registerEvidenceRef, found, stored]; rfl⟩
  | some existing =>
    have listed : existing ∈ s.alert.evidenceRefs := List.mem_of_find?_eq_some stored
    have same : existing.id = r.evidenceId := beq_iff_eq.mp (List.find?_some stored :)
    have agrees : existing = referenceOf r := sound.ref_eq member listed same
    refine ⟨false, s, ?_⟩
    simp only [registerEvidenceRef, found, stored]
    rw [agrees]
    exact if_neg (by simp [referenceOf, requestedRef])

theorem RecordsSound.insert (sound : RecordsSound e records s) {r : EvidenceRecord}
    (fresh : ∀ other ∈ records, other.evidenceId ≠ r.evidenceId)
    (hashed : r.contentHash = contentHash e.core.sha256 r.rawResponse)
    (known : KnownIncident s r.incidentId) : RecordsSound e (records ++ [r]) s where
  unique := by
    rw [List.map_append, List.nodup_append']
    refine ⟨sound.unique, List.nodup_singleton _, ?_⟩
    simpa [List.Disjoint] using fresh
  hashed := List.forall_mem_append.mpr ⟨sound.hashed, List.forall_mem_singleton.mpr hashed⟩
  known := List.forall_mem_append.mpr ⟨sound.known, List.forall_mem_singleton.mpr known⟩
  refs := by
    intro ref listed
    obtain ⟨r', member, same⟩ := sound.refs ref listed
    exact ⟨r', List.mem_append_left _ member, same⟩

theorem RecordsSound.command (sound : RecordsSound e records s) {now : Time}
    {tickets : List IssuedTicket} {c : Command}
    (other : ∀ command, c ≠ .registerEvidenceRef command) :
    RecordsSound e records (execute e.core now tickets s c) where
  unique := sound.unique
  hashed := sound.hashed
  known := fun r member => (sound.known r member).later (execute_scopes e.core now tickets s c)
  refs := by
    rw [execute_evidenceRefs e.core now tickets s other]
    exact sound.refs

end

/-! ## What every state keeps -/

/-- The record is that of the query. -/
structure RecordedFor (run : QueryRun) (r : EvidenceRecord) : Prop where
  incidentId : r.incidentId = run.incidentId
  investigationId : r.investigationId = run.investigationId
  requestedBy : r.requestedBy = run.requestedBy

/-- What holds of a query, by its phase. -/
inductive QuerySound (y : EvidenceSystem) (run : QueryRun) : Prop
  | asked (phase : run.phase = .asked)
  | underway (scope : QueryScope)
      (phase : (∃ query, run.phase = .sent scope query) ∨ ∃ o, run.phase = .observed scope o)
      (same : scope.incidentId = run.incidentId)
      (known : KnownIncident y.world.store run.incidentId)
  | persisted (r : EvidenceRecord) (phase : run.phase = .persisted r) (member : r ∈ y.records)
      (recorded : RecordedFor run r)
  | returned (r : EvidenceRecord) (phase : run.phase = .returned r.toItem)
      (member : r ∈ y.records) (recorded : RecordedFor run r)
      (referenced : referenceOf r ∈ y.world.store.alert.evidenceRefs)
  | ended (phase : run.phase = .lost ∨ ∃ error, run.phase = .failed error)

/-- The query of a record without a reference is about to register it, or was lost. -/
def Unreferenced (y : EvidenceSystem) (r : EvidenceRecord) : Prop :=
  ∃ run ∈ y.queries, run.incidentId = r.incidentId ∧
    (run.phase = .persisted r ∨ run.phase = .lost)

structure EvidenceSound (e : EvidenceEnv) (y : EvidenceSystem) : Prop where
  records : RecordsSound e y.records y.world.store
  queries : ∀ run ∈ y.queries, QuerySound y run
  accounted : ∀ r ∈ y.records,
    referenceOf r ∈ y.world.store.alert.evidenceRefs ∨ Unreferenced y r

/-- Nothing is taken away. -/
structure EvidenceGrown (y y' : EvidenceSystem) : Prop where
  records : ∀ r ∈ y.records, r ∈ y'.records
  refs : ∀ ref ∈ y.world.store.alert.evidenceRefs, ref ∈ y'.world.store.alert.evidenceRefs
  scopes : ScopesKept y.world.store y'.world.store

section
variable {e : EvidenceEnv} {y y' : EvidenceSystem} {run : QueryRun}

theorem EvidenceGrown.of_world (env : Env) (event : Event)
    (records : ∀ r ∈ y.records, r ∈ y'.records)
    (world : y'.world = Incident.step env y.world event) :
    EvidenceGrown y y' := by
  refine ⟨records, ?_, ?_⟩
  · rw [world]
    exact execute_refs_grow env _ _ _ _
  · rw [world]
    exact execute_scopes env _ _ _ _

theorem EvidenceMove.grown (move : EvidenceMove e y y') : EvidenceGrown y y' := by
  have still : ∀ records, (∀ r ∈ y.records, r ∈ records) → ∀ queries requests,
      EvidenceGrown y { world := y.world, records, queries, requests } :=
    fun records more _ _ => ⟨more, fun _ member => member, .refl _⟩
  cases move with
  | waits same => rw [same]; exact still _ (fun _ member => member) _ _
  | asked _ _ moved => rw [moved]; exact still _ (fun _ member => member) _ _
  | sent _ _ _ _ _ _ _ _ moved => rw [moved]; exact still _ (fun _ member => member) _ _
  | observed _ _ _ _ _ _ _ _ _ moved => rw [moved]; exact still _ (fun _ member => member) _ _
  | refused _ _ _ _ _ moved => rw [moved]; exact still _ (fun _ member => member) _ _
  | persisted _ _ _ _ _ _ _ _ _ _ _ moved =>
    rw [moved]
    exact still _ (fun _ member => List.mem_append_left _ member) _ _
  | registered _ _ _ _ _ _ _ _ _ moved =>
    rw [moved]
    exact .of_world e.core _ (fun _ member => member) rfl
  | unregistered _ _ _ _ _ _ _ _ moved =>
    rw [moved]
    exact .of_world e.core _ (fun _ member => member) rfl
  | lost _ _ _ _ moved => rw [moved]; exact still _ (fun _ member => member) _ _
  | commanded event _ moved =>
    rw [moved]
    exact .of_world e.core event (fun _ member => member) rfl

theorem QuerySound.later (sound : QuerySound y run) (grown : EvidenceGrown y y') :
    QuerySound y' run := by
  cases sound with
  | asked phase => exact .asked phase
  | underway scope phase same known =>
    exact .underway scope phase same (known.later grown.scopes)
  | persisted r phase member recorded => exact .persisted r phase (grown.records r member) recorded
  | returned r phase member recorded referenced =>
    exact .returned r phase (grown.records r member) recorded (grown.refs _ referenced)
  | ended phase => exact .ended phase

theorem QuerySound.of_underway (sound : QuerySound y run) {scope : QueryScope}
    (underway : (∃ query, run.phase = .sent scope query) ∨ ∃ o, run.phase = .observed scope o) :
    scope.incidentId = run.incidentId ∧ KnownIncident y.world.store run.incidentId := by
  cases sound with
  | underway scope' phase same known =>
    have equal : scope' = scope := by
      rcases phase with ⟨_, phase⟩ | ⟨_, phase⟩ <;> simp [phase] at underway <;> exact underway
    exact ⟨equal ▸ same, known⟩
  | asked phase => simp [phase] at underway
  | persisted r phase => simp [phase] at underway
  | returned r phase => simp [phase] at underway
  | ended phase => rcases phase with phase | ⟨_, phase⟩ <;> simp [phase] at underway

theorem QuerySound.of_persisted (sound : QuerySound y run) {r : EvidenceRecord}
    (persisted : run.phase = .persisted r) : r ∈ y.records ∧ RecordedFor run r := by
  cases sound with
  | persisted r' phase member recorded =>
    rw [persisted] at phase
    cases phase
    exact ⟨member, recorded⟩
  | asked phase => simp [phase] at persisted
  | underway _ phase => rcases phase with ⟨_, phase⟩ | ⟨_, phase⟩ <;> simp [phase] at persisted
  | returned r phase => simp [phase] at persisted
  | ended phase => rcases phase with phase | ⟨_, phase⟩ <;> simp [phase] at persisted

end

/-! ## Steps -/

theorem prepare_eq_ok {e : EvidenceEnv} {s : Store} {now : Time} {run : QueryRun}
    {scope : QueryScope} {query : BackendQuery}
    (prepared : EvidenceSystem.prepare e s now run = .ok (scope, query)) :
    ∃ incident, s.incidents[run.incidentId]? = some incident ∧
      scope = scopeOf e.catalog s run.incidentId incident ∧
      run.query.validate = .ok () ∧ run.query.resolve e scope now = .ok query := by
  simp only [EvidenceSystem.prepare, bind_eq_ok, pure_eq_ok] at prepared
  obtain ⟨_, valid, scope', read, query', resolved, same⟩ := prepared
  cases same
  unfold resolveScope at read
  split at read
  · cases read
  · rename_i incident found
    cases read
    exact ⟨incident, found, rfl, valid, resolved⟩

theorem recordOf_eq_some {e : EvidenceEnv} {incidentId : Uuid} {o : EvidenceService.Observation}
    {requestedBy : String} {investigationId : Option Uuid} {now : Time} {id : Fin (2 ^ 128)}
    {sequence : Nat} {r : EvidenceRecord}
    (made : recordOf e incidentId o requestedBy investigationId now id sequence = some r) :
    r.incidentId = incidentId ∧ r.investigationId = investigationId ∧
      r.requestedBy = requestedBy ∧
      r.contentHash = contentHash e.core.sha256 r.rawResponse := by
  simp only [recordOf, Option.bind_eq_bind, Option.bind_eq_some_iff, Option.pure_def,
    Option.some.injEq] at made
  obtain ⟨raw, _, normalized, _, querySpec, _, sourceReference, _, rfl⟩ := made
  exact ⟨rfl, rfl, rfl, rfl⟩

section
variable {e : EvidenceEnv} {y y' : EvidenceSystem}

/-- The queries after one of them moved: what it is now has to be shown. -/
theorem EvidenceSound.put (sound : EvidenceSound e y) (grown : EvidenceGrown y y') {place : Nat}
    {run' : QueryRun} (queries : y'.queries = y.queries.set place run')
    (own : QuerySound y' run') : ∀ run ∈ y'.queries, QuerySound y' run := by
  intro run member
  rw [queries] at member
  rcases List.mem_or_eq_of_mem_set member with earlier | rfl
  · exact (sound.queries run earlier).later grown
  · exact own

/-- A record that was accounted for is so still, if its own query only moves to register it. -/
theorem EvidenceSound.accounted_put (sound : EvidenceSound e y) (grown : EvidenceGrown y y')
    {place : Nat} {run : QueryRun} {phase : QueryPhase} (row : y.queries[place]? = some run)
    (queries : y'.queries = y.queries.set place { run with phase })
    {r : EvidenceRecord} (member : r ∈ y.records)
    (stays : run.phase = .persisted r ∨ run.phase = .lost →
      referenceOf r ∈ y'.world.store.alert.evidenceRefs ∨ phase = .lost) :
    referenceOf r ∈ y'.world.store.alert.evidenceRefs ∨ Unreferenced y' r := by
  rcases sound.accounted r member with referenced | ⟨other, listed, same, unregistered⟩
  · exact .inl (grown.refs _ referenced)
  · obtain ⟨k, here⟩ := List.mem_iff_getElem?.mp listed
    by_cases at_ : k = place
    · subst at_
      rw [row] at here
      cases here
      refine (stays unregistered).imp_right fun lost =>
        ⟨{ run with phase }, ?_, same, .inr lost⟩
      rw [queries]
      exact List.mem_of_getElem? ((Table.get_put row).mpr (.inl ⟨rfl, rfl⟩))
    · refine .inr ⟨other, ?_, same, unregistered⟩
      rw [queries]
      exact List.mem_of_getElem? ((Table.get_put row).mpr (.inr ⟨at_, here⟩))

theorem EvidenceMove.sound (move : EvidenceMove e y y') (sound : EvidenceSound e y) :
    EvidenceSound e y' := by
  have grown := move.grown
  cases move with
  | waits same => rwa [same]
  | asked run fresh moved =>
    subst moved
    refine ⟨sound.records, ?_, fun r member => ?_⟩
    · refine List.forall_mem_append.mpr ⟨fun other member => ?_,
        List.forall_mem_singleton.mpr (.asked fresh)⟩
      exact (sound.queries other member).later grown
    · refine (sound.accounted r member).imp_right fun unregistered => ?_
      obtain ⟨other, listed, still⟩ := unregistered
      exact ⟨other, List.mem_append_left _ listed, still⟩
  | sent place run now scope query row phase prepared moved =>
    subst moved
    obtain ⟨incident, found, rfl, _⟩ := prepare_eq_ok prepared
    refine ⟨sound.records, sound.put grown rfl ?_, fun r member =>
      sound.accounted_put grown row rfl member fun unregistered => by simp [phase] at unregistered⟩
    exact .underway _ (.inl ⟨query, rfl⟩) rfl ⟨incident, found⟩
  | observed place run scope query reply o row phase accepted moved =>
    subst moved
    obtain ⟨same, known⟩ := (sound.queries run (List.mem_of_getElem? row)).of_underway
      (.inl ⟨query, phase⟩)
    exact ⟨sound.records, sound.put grown rfl (.underway scope (.inr ⟨o, rfl⟩) same known),
      fun r member => sound.accounted_put grown row rfl member fun unregistered => by
        simp [phase] at unregistered⟩
  | refused place run error row phase moved =>
    subst moved
    refine ⟨sound.records, sound.put grown rfl (.ended (.inr ⟨error, rfl⟩)), fun r member =>
      sound.accounted_put grown row rfl member fun unregistered => ?_⟩
    rcases phase with phase | ⟨scope, query, phase⟩ <;> simp [phase] at unregistered
  | persisted place run scope o now id r row phase made fresh moved =>
    subst moved
    obtain ⟨same, known⟩ := (sound.queries run (List.mem_of_getElem? row)).of_underway
      (.inr ⟨o, phase⟩)
    obtain ⟨incidentId, investigationId, requestedBy, hashed⟩ := recordOf_eq_some made
    rw [same] at incidentId
    have recorded : RecordedFor { run with phase := .persisted r } r :=
      ⟨incidentId, investigationId, requestedBy⟩
    refine ⟨sound.records.insert fresh hashed (incidentId ▸ known),
      sound.put grown rfl (.persisted r rfl (List.mem_append_right _ List.mem_cons_self) recorded),
      List.forall_mem_append.mpr ⟨fun r' member => ?_, List.forall_mem_singleton.mpr (.inr ?_)⟩⟩
    · exact sound.accounted_put grown row rfl member fun unregistered => by
        simp [phase] at unregistered
    · exact ⟨_, List.mem_of_getElem? ((Table.get_put row).mpr (.inl ⟨rfl, rfl⟩)),
        incidentId.symm, .inl rfl⟩
  | registered place elapsed run r new s' row phase done moved =>
    obtain ⟨member, recorded⟩ := (sound.queries run (List.mem_of_getElem? row)).of_persisted phase
    have stored : y'.world.store = s' := by
      rw [moved]
      simp only [Incident.step, execute, done, committed]
    obtain ⟨records, referenced⟩ := sound.records.registered member done
    rw [← stored] at records referenced
    have queries : y'.queries = y.queries.set place { run with phase := .returned r.toItem } := by
      rw [moved]
      rfl
    have same : y'.records = y.records := by rw [moved]; rfl
    refine ⟨same ▸ records, sound.put grown queries ?_, fun r' member' => ?_⟩
    · exact .returned r rfl (same ▸ member)
        ⟨recorded.incidentId, recorded.investigationId, recorded.requestedBy⟩ referenced
    · rw [same] at member'
      refine sound.accounted_put grown row queries member' fun unregistered => .inl ?_
      rw [phase] at unregistered
      simp only [QueryPhase.persisted.injEq, reduceCtorEq, or_false] at unregistered
      exact unregistered ▸ referenced
  | unregistered place elapsed run r error row phase raised moved =>
    obtain ⟨member, _⟩ := (sound.queries run (List.mem_of_getElem? row)).of_persisted phase
    obtain ⟨new, s', done⟩ := sound.records.registers member (y.world.clock + elapsed)
    rw [raised] at done
    cases done
  | lost place run row unfinished moved =>
    subst moved
    exact ⟨sound.records, sound.put grown rfl (.ended (.inl rfl)), fun r member =>
      sound.accounted_put grown row rfl member fun _ => .inr rfl⟩
  | commanded event other moved =>
    subst moved
    refine ⟨sound.records.command other, fun run member => (sound.queries run member).later grown,
      fun r member => ?_⟩
    exact (sound.accounted r member).imp_left (grown.refs _)

end

theorem EvidenceSound.initial (e : EvidenceEnv) (clock : Time) :
    EvidenceSound e (evidenceFrom e clock []) where
  records :=
    { unique := List.nodup_nil
      hashed := fun _ member => absurd member List.not_mem_nil
      known := fun _ member => absurd member List.not_mem_nil
      refs := fun _ member => absurd member List.not_mem_nil }
  queries := fun _ member => absurd member List.not_mem_nil
  accounted := fun _ member => absurd member List.not_mem_nil

theorem evidenceFrom_sound (e : EvidenceEnv) (clock : Time) (events : List EvidenceEvent) :
    EvidenceSound e (evidenceFrom e clock events) :=
  Machine.state_invariant (.initial e clock)
    (fun y event sound => (step_evidenceMove e y event).sound sound) events

/-! ## What is returned -/

/-- What a query that was returned amounts to: its record is found under the id of the item, and
an auditor finds the reference that agrees with it; the hash is found again where the store gives
back every number of the response as it was. -/
structure Stands (e : EvidenceEnv) (y : EvidenceSystem) (run : QueryRun) (item : EvidenceItem) :
    Prop where
  record : ∃ r, getEvidence y.records item.evidenceId = .ok r ∧ r.toItem = item ∧
    RecordedFor run r ∧ r.contentHash = contentHash e.core.sha256 r.rawResponse ∧
    ∃ report, verify e y.world.store y.records item.evidenceId = .ok report ∧
      report.refRegistered = true ∧ report.refMatches = true ∧
      (canonicalJson (storedNumbers r.rawResponse) = canonicalJson r.rawResponse →
        report.ok = true)

theorem RecordsSound.getEvidence_eq {e : EvidenceEnv} {records : List EvidenceRecord} {s : Store}
    (sound : RecordsSound e records s) {r : EvidenceRecord} (member : r ∈ records) :
    getEvidence records r.evidenceId = .ok r := by
  unfold getEvidence
  cases found : records.find? (fun other => other.evidenceId == r.evidenceId) with
  | none =>
    have absent := List.find?_eq_none.mp found r member
    simp at absent
  | some r' =>
    have same : r'.evidenceId = r.evidenceId := by simpa using List.find?_some found
    rw [List.inj_on_of_nodup_map sound.unique (List.mem_of_find?_eq_some found) member same]

theorem RecordsSound.refOf_eq {e : EvidenceEnv} {records : List EvidenceRecord} {s : Store}
    (sound : RecordsSound e records s) {r : EvidenceRecord} (member : r ∈ records)
    (referenced : referenceOf r ∈ s.alert.evidenceRefs) :
    refOf s r.incidentId r.evidenceId = some (referenceOf r) := by
  unfold refOf
  have listed : referenceOf r ∈
      s.alert.evidenceRefs.filter (fun ref => ref.incidentId == r.incidentId) :=
    List.mem_filter.mpr ⟨referenced, beq_self_eq_true _⟩
  cases found : (s.alert.evidenceRefs.filter (fun ref => ref.incidentId == r.incidentId)).find?
      (fun ref => ref.id == r.evidenceId) with
  | none =>
    have absent := List.find?_eq_none.mp found _ listed
    simp [referenceOf, requestedRef, StoredRecord.registration] at absent
  | some ref =>
    have stored := List.mem_filter.mp (List.mem_of_find?_eq_some found)
    have same : ref.id = r.evidenceId := by simpa using List.find?_some found
    rw [sound.ref_eq member stored.1 same]

theorem EvidenceSound.stands {e : EvidenceEnv} {y : EvidenceSystem} (sound : EvidenceSound e y)
    {run : QueryRun} (member : run ∈ y.queries) {item : EvidenceItem}
    (returned : run.phase = .returned item) : Stands e y run item := by
  cases sound.queries run member with
  | returned r phase stored recorded referenced =>
    rw [returned] at phase
    cases phase
    have found := sound.records.getEvidence_eq stored
    have ref := sound.records.refOf_eq stored referenced
    have hashed := sound.records.hashed r stored
    refine ⟨r, found, rfl, recorded, hashed, ?_⟩
    replace found : getEvidence y.records r.toItem.evidenceId = .ok r := found
    replace ref : refOf y.world.store r.incidentId r.toItem.evidenceId = some (referenceOf r) := ref
    have agrees : (some (referenceOf r)).any (fun ref =>
        ref.contentHash == r.contentHash && ref.incidentId == r.incidentId) = true := by
      simp [referenceOf, requestedRef, StoredRecord.registration]
    simp only [verify, found, bind, Except.bind, ref, agrees]
    refine ⟨_, rfl, rfl, rfl, fun same => ?_⟩
    simp [IntegrityReport.ok, verifyContentHash, contentHash, hashed, same]
  | asked phase => simp [phase] at returned
  | underway _ phase => rcases phase with ⟨_, phase⟩ | ⟨_, phase⟩ <;> simp [phase] at returned
  | persisted r phase => simp [phase] at returned
  | ended phase => rcases phase with phase | ⟨_, phase⟩ <;> simp [phase] at returned

/-! ## What stays -/

theorem EvidenceGrown.refl (y : EvidenceSystem) : EvidenceGrown y y :=
  ⟨fun _ member => member, fun _ member => member, .refl _⟩

theorem EvidenceGrown.trans {y y₁ y₂ : EvidenceSystem} (first : EvidenceGrown y y₁)
    (second : EvidenceGrown y₁ y₂) : EvidenceGrown y y₂ where
  records := fun r member => second.records r (first.records r member)
  refs := fun ref member => second.refs ref (first.refs ref member)
  scopes := first.scopes.trans second.scopes

/-- The query at a place was returned with an item. -/
def ReturnedAt (y : EvidenceSystem) (place : Nat) (run : QueryRun) (item : EvidenceItem) : Prop :=
  y.queries[place]? = some run ∧ run.phase = .returned item

theorem ReturnedAt.put {y y' : EvidenceSystem} {place k : Nat} {run other run' : QueryRun}
    {item : EvidenceItem} (returned : ReturnedAt y place run item)
    (row : y.queries[k]? = some other) (unfinished : other.phase ≠ .returned item)
    (queries : y'.queries = y.queries.set k run') : ReturnedAt y' place run item := by
  refine ⟨?_, returned.2⟩
  rw [queries]
  refine (Table.get_put row).mpr (.inr ⟨?_, returned.1⟩)
  rintro rfl
  rw [returned.1] at row
  cases row
  exact unfinished returned.2

/-- No step touches a query that was returned. -/
theorem EvidenceMove.returnedAt {e : EvidenceEnv} {y y' : EvidenceSystem}
    (move : EvidenceMove e y y') {place : Nat} {run : QueryRun} {item : EvidenceItem}
    (returned : ReturnedAt y place run item) : ReturnedAt y' place run item := by
  cases move with
  | waits same => rwa [same]
  | asked _ _ moved =>
    rw [moved]
    exact ⟨Table.get_insert.mpr (.inl returned.1), returned.2⟩
  | sent _ _ _ _ _ row phase _ moved =>
    exact returned.put row (by simp [phase]) (by rw [moved]; rfl)
  | observed _ _ _ _ _ _ row phase _ moved =>
    exact returned.put row (by simp [phase]) (by rw [moved]; rfl)
  | refused _ _ _ row phase moved =>
    refine returned.put row ?_ (by rw [moved]; rfl)
    rcases phase with phase | ⟨_, _, phase⟩ <;> simp [phase]
  | persisted _ _ _ _ _ _ _ row phase _ _ moved =>
    exact returned.put row (by simp [phase]) (by rw [moved]; rfl)
  | registered _ _ _ _ _ _ row phase _ moved =>
    exact returned.put row (by simp [phase]) (by rw [moved]; rfl)
  | unregistered _ _ _ _ _ row phase _ moved =>
    exact returned.put row (by simp [phase]) (by rw [moved]; rfl)
  | lost _ _ row unfinished moved =>
    exact returned.put row (unfinished.1 item) (by rw [moved]; rfl)
  | commanded _ _ moved =>
    rw [moved]
    exact returned

theorem run_grown (e : EvidenceEnv) (y : EvidenceSystem) (more : List EvidenceEvent) :
    EvidenceGrown y (Machine.run (EvidenceSystem.step e) y more) :=
  Machine.state_invariant (P := EvidenceGrown y) (.refl y)
    (fun y' event grown => grown.trans (step_evidenceMove e y' event).grown) more

theorem run_returnedAt (e : EvidenceEnv) {y : EvidenceSystem} {place : Nat} {run : QueryRun}
    {item : EvidenceItem} (returned : ReturnedAt y place run item) (more : List EvidenceEvent) :
    ReturnedAt (Machine.run (EvidenceSystem.step e) y more) place run item :=
  Machine.state_invariant (P := fun y' => ReturnedAt y' place run item) returned
    (fun y' event still => (step_evidenceMove e y' event).returnedAt still) more

/-- What may be relied on from one state of a run to a later one. -/
structure EvidenceLasts (e : EvidenceEnv) (y z : EvidenceSystem) : Prop where
  /-- What was returned stands, then and for ever after. -/
  returned : ∀ place run item, ReturnedAt y place run item →
    ReturnedAt z place run item ∧ Stands e z run item
  /-- A record is found as it was stored. -/
  found : ∀ id r, getEvidence y.records id = .ok r → getEvidence z.records id = .ok r
  /-- A reference is that of a record. -/
  referenced : ∀ ref ∈ z.world.store.alert.evidenceRefs, ∃ r,
    getEvidence z.records ref.id = .ok r ∧ ref = referenceOf r
  /-- A query that stored its record can register it. -/
  registers : ∀ run ∈ z.queries, ∀ r, run.phase = .persisted r → ∀ now, ∃ new s',
    registerEvidenceRef now z.world.store r.registration = .ok (new, s')
  /-- A record without a reference is one whose query has yet to register it, or was lost. -/
  unreferenced : ∀ r ∈ z.records,
    referenceOf r ∈ z.world.store.alert.evidenceRefs ∨ Unreferenced z r

def paymentsEvidenceEnv : EvidenceEnv :=
  { core := paymentsEnv
    catalog := { services := [("payments", ⟨"payments", ["ledger"], ["services/payments"]⟩)] }
    isoformat := fun _ => ""
    upper := id }

def paymentsErrors : EvidenceService.Observation :=
  { evidenceType := .log
    sourceSystem := "loki"
    operation := "logs"
    subjectService := "payments"
    querySpec := [("limit", .int 20)]
    sourceReference := []
    rawResponse := .object [("lines", .list [.str "timeout"]), ("count", .int 1)]
    rawTruncated := false
    normalizedPayload := [("groups", .list [])]
    summary := "1 line"
    resultCount := 1
    observedAt := 0
    windowStart := none
    windowEnd := none }

/-- An incident is opened, and its logs are asked for, stored and registered. -/
def paymentsLogs : List EvidenceEvent :=
  [.command (next (.alertReceived (paymentsAlert "k1" "a1" .firing))) (by simp [next]),
   .ask 0 (.logs none none none none none none none) "investigator" none,
   .send 0 2000000,
   .answer 0 (.ok paymentsErrors),
   .persist 0 2000000 7,
   .register 0 1000000]

def itemOf : QueryPhase → Option EvidenceItem
  | .returned item => some item
  | _ => none

theorem phase_eq_returned {phase : QueryPhase} {item : EvidenceItem}
    (found : itemOf phase = some item) : phase = .returned item := by
  cases phase <;> simp_all [itemOf]

/-- The two services as a recording reads them. -/
def servicesOf (y : EvidenceSystem) : Services :=
  { world := y.world, records := y.records.map (·.toStoredRecord) }

theorem servicesOf_persisted {y : EvidenceSystem} {r : EvidenceRecord}
    (fresh : ∀ other ∈ y.records, other.evidenceId ≠ r.evidenceId) :
    insertRecord (y.records.map (·.toStoredRecord)) r.toStoredRecord =
      (y.records ++ [r]).map (·.toStoredRecord) := by
  unfold insertRecord
  rw [if_neg, List.map_append, List.map_singleton]
  simpa [List.any_eq_true] using fresh

/-- Each step is one of the two services, or none. -/
theorem EvidenceMove.refines {e : EvidenceEnv} {y y' : EvidenceSystem}
    (move : EvidenceMove e y y') (sound : EvidenceSound e y) :
    ∃ steps, servicesOf y' = Machine.run (serviceStep e.core) (servicesOf y) steps := by
  have still : y'.world = y.world → y'.records = y.records →
      ∃ steps, servicesOf y' = Machine.run (serviceStep e.core) (servicesOf y) steps := by
    intro world records
    exact ⟨[], by rw [Machine.run_nil, servicesOf, servicesOf, world, records]⟩
  cases move with
  | waits same => exact still (by rw [same]) (by rw [same])
  | asked _ _ moved => exact still (by rw [moved]) (by rw [moved])
  | sent _ _ _ _ _ _ _ _ moved => exact still (by rw [moved]; rfl) (by rw [moved]; rfl)
  | observed _ _ _ _ _ _ _ _ _ moved => exact still (by rw [moved]; rfl) (by rw [moved]; rfl)
  | refused _ _ _ _ _ moved => exact still (by rw [moved]; rfl) (by rw [moved]; rfl)
  | lost _ _ _ _ moved => exact still (by rw [moved]; rfl) (by rw [moved]; rfl)
  | persisted _ _ _ _ _ _ r _ _ _ fresh moved =>
    refine ⟨[.persist r.toStoredRecord], ?_⟩
    rw [moved]
    simp only [Machine.run_cons, Machine.run_nil, serviceStep, servicesOf,
      servicesOf_persisted fresh]
    rfl
  | registered _ elapsed run r _ _ row phase _ moved =>
    obtain ⟨member, _⟩ := (sound.queries run (List.mem_of_getElem? row)).of_persisted phase
    obtain ⟨k, here⟩ := List.mem_iff_getElem?.mp member
    refine ⟨[.register k elapsed], ?_⟩
    rw [moved]
    simp only [Machine.run_cons, Machine.run_nil, serviceStep, servicesOf, List.getElem?_map, here,
      Option.map_some]
    rfl
  | unregistered _ elapsed run r _ row phase _ moved =>
    obtain ⟨member, _⟩ := (sound.queries run (List.mem_of_getElem? row)).of_persisted phase
    obtain ⟨k, here⟩ := List.mem_iff_getElem?.mp member
    refine ⟨[.register k elapsed], ?_⟩
    rw [moved]
    simp only [Machine.run_cons, Machine.run_nil, serviceStep, servicesOf, List.getElem?_map, here,
      Option.map_some]
    rfl
  | commanded event other moved =>
    refine ⟨[.command event other], ?_⟩
    rw [moved]
    rfl

/-- Whatever holds of the two services in every run holds of the evidence service at work. -/
theorem evidence_refines (e : EvidenceEnv) (clock : Time) (events : List EvidenceEvent) :
    ∃ trace, servicesOf (evidenceFrom e clock events) = servicesFrom e.core clock trace := by
  have followed : ∃ trace, EvidenceSound e (evidenceFrom e clock events) ∧
      servicesOf (evidenceFrom e clock events) = servicesFrom e.core clock trace := by
    refine Machine.exists_run_of_refines
      (R := fun y services => EvidenceSound e y ∧ servicesOf y = services)
      ⟨.initial e clock, rfl⟩ ?_ events
    rintro y _ event ⟨sound, rfl⟩
    have move := step_evidenceMove e y event
    obtain ⟨steps, after⟩ := move.refines sound
    exact ⟨steps, move.sound sound, after⟩
  obtain ⟨trace, _, same⟩ := followed
  exact ⟨trace, same⟩

end IncidentTriage.Verified
