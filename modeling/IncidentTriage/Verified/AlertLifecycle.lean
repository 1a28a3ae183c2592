import IncidentTriage.Verified.Deliveries

/-! # The life of an alert

An alert that fires is linked to an incident, the link is for ever, and its status
changes once at most.  An incident that is still `TRIAGING` has an alert that fires, as
long as a notification ends alerts under the correlation lock of their incident: then
nobody ends another alert of the incident between the count and the commit.
-/

namespace IncidentTriage.Verified

open IncidentTriage.Python IncidentTriage.Domain IncidentTriage.Incident

/-! ## What every commit keeps -/

/-- An alert keeps what it is about and its link; it may stop firing. -/
def AlertKept (r r' : AlertRow) : Prop :=
  r'.incidentId = r.incidentId ∧ r'.labels = r.labels ∧
    (r'.status = r.status ∨ r.status = .firing ∧ r'.status = .resolved)

theorem AlertKept.refl (r : AlertRow) : AlertKept r r := ⟨rfl, rfl, .inl rfl⟩

theorem AlertKept.trans {a b c : AlertRow} (first : AlertKept a b) (second : AlertKept b c) :
    AlertKept a c := by
  obtain ⟨link, labels, status⟩ := first
  obtain ⟨link', labels', status'⟩ := second
  refine ⟨link'.trans link, labels'.trans labels, ?_⟩
  rcases status' with same | ⟨fired, ended⟩
  · rw [same]
    exact status
  · rcases status with same | ⟨_, already⟩
    · exact .inr ⟨same ▸ fired, ended⟩
    · rw [fired] at already
      cases already

theorem AlertKept.ended (r : AlertRow) (now : Time) : AlertKept r (r.ended now) := by
  refine ⟨rfl, rfl, ?_⟩
  cases fires : r.status with
  | firing => exact .inr ⟨rfl, rfl⟩
  | resolved => exact .inl rfl

/-- An incident keeps its identity, and does not go back to `TRIAGING`. -/
def IncidentKept (r r' : IncidentRow) : Prop :=
  r'.service = r.service ∧ r'.environment = r.environment ∧
    r'.correlationKey = r.correlationKey ∧ (r'.status = .triaging → r.status = .triaging)

theorem IncidentKept.refl (r : IncidentRow) : IncidentKept r r := ⟨rfl, rfl, rfl, id⟩

theorem IncidentKept.touched (r : IncidentRow) (now : Time) : IncidentKept r (touched now r) :=
  ⟨rfl, rfl, rfl, id⟩

theorem IncidentKept.cancelled (r : IncidentRow) (now : Time) :
    IncidentKept r (r.moved now .cancelled true) :=
  ⟨rfl, rfl, rfl, fun triaging => by cases triaging⟩

structure Kept (s s' : Store) : Prop where
  alerts : Table.Evolves AlertKept s.alert.alerts s'.alert.alerts
  incidents : Table.Evolves IncidentKept s.incidents s'.incidents

theorem Kept.refl (s : Store) : Kept s s :=
  ⟨.refl AlertKept.refl _, .refl IncidentKept.refl _⟩

theorem touchedIf_kept (incidents : List IncidentRow) (now : Time)
    (decision : CorrelationDecision) (i : Uuid) :
    Table.Evolves IncidentKept incidents (touchedIf incidents now decision i) := by
  unfold touchedIf
  split_ifs
  · exact .modify IncidentKept.refl (fun r => .touched r now) incidents i
  · exact .refl IncidentKept.refl incidents

theorem PlanWritten.kept {env : Env} {now : Time} {s s' : Store} {command : AlertReceivedCommand}
    {fingerprint : String} {plan : Plan} (written : PlanWritten env now s s' command fingerprint plan) :
    Kept s s' := by
  have ends : ∀ a, Table.Evolves AlertKept s.alert.alerts
      (s.alert.alerts.modify a (·.ended now)) :=
    fun a => .modify .refl (fun r => .ended r now) _ a
  constructor
  · cases written with
    | replay a i status incidents alerts => rw [alerts]; exact .refl .refl _
    | unmatched incidents alerts => rw [alerts]; exact .insert .refl _ _
    | ended a i incident remaining stays incidents alerts => rw [alerts]; exact ends a
    | cancelled a i incident stored triaging row version incidents alerts =>
      rw [alerts]; exact ends a
    | joined decision i incident incidents alerts => rw [alerts]; exact .insert .refl _ _
    | opened decision incidents alerts => rw [alerts]; exact .insert .refl _ _
  · cases written with
    | replay a i status incidents alerts => rw [incidents]; exact .refl .refl _
    | unmatched incidents alerts => rw [incidents]; exact .refl .refl _
    | ended a i incident remaining stays incidents alerts => rw [incidents]; exact .refl .refl _
    | cancelled a i incident stored triaging row version incidents alerts =>
      rw [incidents]
      exact .modify .refl (fun r => .cancelled r now) _ i
    | joined decision i incident incidents alerts =>
      rw [incidents]
      exact touchedIf_kept _ now decision i
    | opened decision incidents alerts => rw [incidents]; exact .insert .refl _ _

theorem step_kept (env : Env) (held : List Uuid) (x : Exchange) (e : DeliveryEvent) :
    Kept x.store (x.step env held e).store := by
  cases step_move env held x e with
  | commits k d plan result s event row ready free written moved =>
    rw [moved]
    obtain ⟨alerts, incidents⟩ := (plan_written written).kept
    exact ⟨alerts, incidents⟩
  | waits same => rw [same]; exact .refl _
  | arrives d phase moved => rw [moved]; exact .refl _
  | reads k d event row moved => rw [moved]; exact .refl _
  | stops k d row unanswered moved => rw [moved]; exact .refl _
  | loses k d winner row ready taken moved => rw [moved]; exact .refl _

theorem run_kept (env : Env) (x : Exchange) (events : List DeliveryEvent) :
    Table.Evolves AlertKept x.store.alert.alerts
      (Machine.run (Exchange.step env []) x events).store.alert.alerts :=
  Machine.state_invariant (P := fun y => Table.Evolves AlertKept x.store.alert.alerts
      y.store.alert.alerts)
    (.refl .refl _)
    (fun y e kept => Table.Evolves.trans (R := AlertKept) AlertKept.trans kept
      (step_kept env [] y e).alerts) events

/-! ## Links -/

/-- The alert a delivery is about to end, and the incident it is linked to. -/
def endingOf (d : Delivery) : Option (Uuid × Uuid) :=
  match d.phase with
  | .found a alert | .marked a alert => alert.incidentId.map (a, ·)
  | .sawIncident a i _ => some (a, i)
  | .ready (.resolve a i _ _) => some (a, i)
  | _ => none

/-- What a delivery has read that stays true. -/
structure DeliveryLinks (s : Store) (d : Delivery) : Prop where
  ends : ∀ a i, endingOf d = some (a, i) →
    ∃ alert, s.alert.alerts[a]? = some alert ∧ alert.incidentId = some i
  joins : ∀ decision i incident, d.phase = .ready (.link decision (some (i, incident))) →
    ∃ stored, s.incidents[i]? = some stored

/-- An alert that fires is linked, and what it is linked to is an incident. -/
structure AlertLink (s : Store) (alert : AlertRow) : Prop where
  firing : alert.status = .firing → alert.incidentId ≠ none
  known : ∀ i, alert.incidentId = some i → ∃ incident, s.incidents[i]? = some incident

theorem AlertLink.kept {s s' : Store} {alert : AlertRow} (link : AlertLink s alert)
    (kept : Kept s s') : AlertLink s' alert := by
  refine ⟨link.firing, fun i linked => ?_⟩
  obtain ⟨incident, there⟩ := link.known i linked
  obtain ⟨incident', there', _⟩ := kept.incidents i incident there
  exact ⟨incident', there'⟩

theorem AlertLink.ended {s : Store} {alert : AlertRow} (link : AlertLink s alert) (now : Time) :
    AlertLink s (alert.ended now) :=
  ⟨fun fires => (by cases fires), link.known⟩

structure AlertsLinked (x : Exchange) : Prop where
  alerts : Table.Every (fun _ alert => AlertLink x.store alert) x.store.alert.alerts
  deliveries : Table.Every (fun _ d => DeliveryLinks x.store d) x.deliveries

theorem DeliveryLinks.kept {s s' : Store} {d : Delivery} (links : DeliveryLinks s d)
    (kept : Kept s s') : DeliveryLinks s' d := by
  constructor
  · intro a i ends
    obtain ⟨alert, row, link⟩ := links.ends a i ends
    obtain ⟨alert', row', same, _⟩ := kept.alerts a alert row
    exact ⟨alert', row', same.trans link⟩
  · intro decision i incident ready
    obtain ⟨stored, row⟩ := links.joins decision i incident ready
    obtain ⟨stored', row', _⟩ := kept.incidents i stored row
    exact ⟨stored', row'⟩

theorem endingOf_atRest {d : Delivery} (rest : AtRest d) : endingOf d = none := by
  rcases rest with phase | phase | ⟨result, phase⟩ <;> simp [endingOf, phase]

theorem not_ready_atRest {d : Delivery} {plan : Plan} (rest : AtRest d) :
    d.phase ≠ .ready plan := by
  rcases rest with phase | phase | ⟨result, phase⟩ <;> simp [phase]

theorem DeliveryLinks.atRest {s : Store} {d : Delivery} (rest : AtRest d) : DeliveryLinks s d :=
  ⟨fun _ _ ending => by simp [endingOf_atRest rest] at ending,
    fun _ _ _ ready => absurd ready (not_ready_atRest rest)⟩

theorem PhaseRead.links {env : Env} {x : Exchange} {k : Nat} {d : Delivery}
    {phase : DeliveryPhase} (read : PhaseRead env x k d d.phase phase) (links : DeliveryLinks x.store d) :
    DeliveryLinks x.store { d with phase } := by
  obtain ⟨command, now, before⟩ := d
  cases read with
  | waits => exact links
  | finds resolved a alert matched fires =>
    refine ⟨?_, fun _ _ _ ready => (by cases ready)⟩
    intro b i ends
    simp only [endingOf, Option.map_eq_some_iff, Prod.mk.injEq] at ends
    obtain ⟨i, link, rfl, rfl⟩ := ends
    exact ⟨alert, findAlertToResolve_row matched, link⟩
  | marks a alert => exact ⟨links.ends, fun _ _ _ ready => (by cases ready)⟩
  | sees a alert i incident link row =>
    refine ⟨?_, fun _ _ _ ready => (by cases ready)⟩
    intro b j ends
    exact links.ends b j (by simpa [endingOf, link] using ends)
  | counts a i incident => exact ⟨links.ends, fun _ _ _ ready => (by cases ready)⟩
  | joins decision i incident correlates named row =>
    refine ⟨fun _ _ ends => (by cases ends), ?_⟩
    intro decision' j incident' ready
    cases ready
    exact ⟨incident, row⟩
  | shares decision i incident isNew selected =>
    refine ⟨fun _ _ ends => (by cases ends), ?_⟩
    intro decision' j incident' ready
    cases ready
    exact ⟨incident, (Table.first_some selected).1⟩
  | _ => exact ⟨fun _ _ ends => (by cases ends), fun _ _ _ ready => (by cases ready)⟩

/-- A delivery that inserts an alert which fires was asked to. -/
def firesIfLinked (d : Delivery) : Prop :=
  match d.phase with
  | .inserted | .decided _ | .ready (.link ..) => d.command.status = .firing
  | _ => True

theorem PhaseRead.firesIfLinked {env : Env} {x : Exchange} {k : Nat} {d : Delivery}
    {phase : DeliveryPhase} (read : PhaseRead env x k d d.phase phase) (fires : firesIfLinked d) :
    firesIfLinked { d with phase } := by
  obtain ⟨command, now, before⟩ := d
  cases read with
  | waits => exact fires
  | inserts asked free missing => exact asked
  | decides => exact fires
  | joins => exact fires
  | shares => exact fires
  | opens => exact fires
  | _ => trivial

theorem step_firesIfLinked {env : Env} {held : List Uuid} {x : Exchange} {e : DeliveryEvent}
    (all : Table.Every (fun _ d => firesIfLinked d) x.deliveries) :
    Table.Every (fun _ d => firesIfLinked d) (x.step env held e).deliveries := by
  refine step_deliveries (P := fun _ d => firesIfLinked d) all ?_ ?_ ?_
  · intro s d rest
    rcases rest with phase | phase | ⟨result, phase⟩ <;> simp [firesIfLinked, phase]
  · exact fun k d phase event row read fires => read.firesIfLinked fires
  · exact fun k d plan result s j other event row ready free written found apart fires => fires

theorem PlanWritten.linked {env : Env} {x : Exchange} {k : Nat} {d : Delivery} {plan : Plan}
    {s : Store} (linked : AlertsLinked x) (row : x.deliveries[k]? = some d)
    (ready : d.phase = .ready plan)
    (written : PlanWritten env d.now x.store s d.command (d.fingerprint env) plan) :
    Table.Every (fun _ alert => AlertLink s alert) s.alert.alerts := by
  have kept := written.kept
  have old : Table.Every (fun _ alert => AlertLink s alert) x.store.alert.alerts :=
    linked.alerts.imp fun _ _ _ link => link.kept kept
  have ended : ∀ a, Table.Every (fun _ alert => AlertLink s alert)
      (x.store.alert.alerts.modify a (·.ended d.now)) := by
    intro a b alert found
    rcases Table.get_modify.mp found with ⟨_, before, there, rfl⟩ | ⟨_, there⟩
    · exact (old b before there).ended d.now
    · exact old b alert there
  cases written with
  | replay a i status incidents alerts => rw [alerts]; exact old
  | unmatched incidents alerts =>
    rw [alerts]
    exact old.insert ⟨fun fires => (by cases fires), fun i link => (by cases link)⟩
  | ended a i incident remaining stays incidents alerts => rw [alerts]; exact ended a
  | cancelled a i incident stored triaging row version incidents alerts =>
    rw [alerts]
    exact ended a
  | joined decision i incident incidents alerts =>
    rw [alerts]
    refine old.insert ⟨fun _ => by simp, ?_⟩
    intro j link
    cases link
    obtain ⟨stored, there⟩ := (linked.deliveries k d row).joins decision i incident ready
    obtain ⟨stored', there', _⟩ := kept.incidents i stored there
    exact ⟨stored', there'⟩
  | opened decision incidents alerts =>
    rw [alerts]
    refine old.insert ⟨fun _ => by simp, ?_⟩
    intro j link
    cases link
    exact ⟨_, by rw [incidents]; exact Table.get_insert.mpr (.inr ⟨rfl, rfl⟩)⟩

theorem step_linked {env : Env} {held : List Uuid} {x : Exchange} {e : DeliveryEvent}
    (linked : AlertsLinked x) : AlertsLinked (x.step env held e) := by
  constructor
  · cases step_move env held x e with
    | waits same => rw [same]; exact linked.alerts
    | arrives d phase moved => rw [moved]; exact linked.alerts
    | reads k d event row moved => rw [moved]; exact linked.alerts
    | stops k d row unanswered moved => rw [moved]; exact linked.alerts
    | loses k d winner row ready taken moved => rw [moved]; exact linked.alerts
    | commits k d plan result s event row ready free written moved =>
      rw [moved]
      intro a alert found
      obtain ⟨firing, known⟩ := PlanWritten.linked linked row ready (plan_written written) a alert
        found
      exact ⟨firing, known⟩
  · refine step_deliveries (P := DeliveryLinks) linked.deliveries ?_ ?_ ?_
    · exact fun s d rest => .atRest rest
    · exact fun k d phase event row read links => read.links links
    · intro k d plan result s j other event row ready free written found apart links
      obtain ⟨alerts, incidents⟩ := (plan_written written).kept
      exact links.kept ⟨alerts, incidents⟩

/-! ## Ending alerts under the lock of their incident -/

def AlertFires (s : Store) (i : Uuid) : Prop :=
  ∃ (a : Uuid) (alert : AlertRow), s.alert.alerts[a]? = some alert ∧
    isFiringAlertOf i alert = true

def AnotherFires (s : Store) (a i : Uuid) : Prop :=
  ∃ (b : Uuid) (alert : AlertRow), b ≠ a ∧ s.alert.alerts[b]? = some alert ∧ isFiringAlertOf i alert = true

/-- The incident a delivery has read for the alert it ends. -/
def sawIncidentOf (d : Delivery) : Option (Uuid × IncidentRow) :=
  match d.phase with
  | .sawIncident _ i incident => some (i, incident)
  | .ready (.resolve _ i incident _) => some (i, incident)
  | _ => none

/-- A delivery that ends an alert holds the lock of its incident, and what it has read of
the incident and of its other alerts is still so. -/
structure EndsUnderLock (s : Store) (d : Delivery) : Prop where
  scope : ∀ a i incident, endingOf d = some (a, i) → s.incidents[i]? = some incident →
    d.command.service = incident.service ∧ d.command.environment = incident.environment
  seen : ∀ i incident stored, sawIncidentOf d = some (i, incident) →
    s.incidents[i]? = some stored → stored.status = .triaging → incident.status = .triaging
  counted : ∀ a i incident remaining, d.phase = .ready (.resolve a i incident remaining) →
    remaining = 0 ∨ AnotherFires s a i

/-- A resolved notification reads the alert it ends while that fires, and carries the
service and environment of its incident. -/
def CarriesIncident (env : Env) (x : Exchange) : DeliveryEvent → Prop
  | .advance k => ∀ d a alert i incident, x.deliveries[k]? = some d → d.phase = .locked →
      d.command.status = .resolved →
      findAlertToResolve x.store d.command (d.fingerprint env) = some (a, alert) →
      alert.status = .firing → alert.incidentId = some i →
      x.store.incidents[i]? = some incident →
      d.command.service = incident.service ∧ d.command.environment = incident.environment
  | _ => True

theorem EndsUnderLock.atRest {s : Store} {d : Delivery} (rest : AtRest d) : EndsUnderLock s d := by
  refine ⟨?_, ?_, fun _ _ _ _ ready => absurd ready (not_ready_atRest rest)⟩
  · intro a i incident ending
    simp [endingOf_atRest rest] at ending
  · intro i incident stored saw
    rcases rest with phase | phase | ⟨result, phase⟩ <;> simp [sawIncidentOf, phase] at saw

theorem anotherFires_of_count {s : Store} {now : Time} {a i : Uuid}
    (some_ : countFiringAlerts (markAlertResolved s now a) i ≠ 0) : AnotherFires s a i := by
  unfold countFiringAlerts at some_
  rw [alerts_markAlertResolved] at some_
  obtain ⟨b, alert, found, fires⟩ := Table.exists_of_countP_pos (Nat.pos_of_ne_zero some_)
  rcases Table.get_modify.mp found with ⟨_, before, _, rfl⟩ | ⟨apart, there⟩
  · simp [isFiringAlertOf, AlertRow.ended] at fires
  · exact ⟨b, alert, apart, there, fires⟩

theorem PhaseRead.endsUnderLock {env : Env} {x : Exchange} {k : Nat} {d : Delivery}
    {phase : DeliveryPhase} (row : x.deliveries[k]? = some d)
    (carries : CarriesIncident env x (.advance k)) (read : PhaseRead env x k d d.phase phase)
    (ends : EndsUnderLock x.store d) : EndsUnderLock x.store { d with phase } := by
  obtain ⟨command, now, before⟩ := d
  cases read with
  | waits => exact ends
  | finds resolved a alert matched fires =>
    refine ⟨?_, fun _ _ _ saw => (by cases saw), fun _ _ _ _ ready => (by cases ready)⟩
    intro b i incident ending there
    simp only [endingOf, Option.map_eq_some_iff, Prod.mk.injEq] at ending
    obtain ⟨j, link, rfl, rfl⟩ := ending
    exact carries ⟨command, now, .locked⟩ a alert j incident row rfl resolved matched fires link there
  | marks a alert =>
    exact ⟨ends.scope, fun _ _ _ saw => (by cases saw), fun _ _ _ _ ready => (by cases ready)⟩
  | sees a alert i incident link there =>
    refine ⟨?_, ?_, fun _ _ _ _ ready => (by cases ready)⟩
    · intro b j stored ending
      exact ends.scope b j stored (by simpa [endingOf, link] using ending)
    · intro j stored stored' saw there' triaging
      cases saw
      rw [there] at there'
      cases there'
      exact triaging
  | counts a i incident =>
    refine ⟨ends.scope, ends.seen, ?_⟩
    intro b j incident' remaining ready
    cases ready
    exact (Nat.eq_zero_or_pos _).imp id fun some_ => anotherFires_of_count (Nat.ne_of_gt some_)
  | _ =>
    exact ⟨fun _ _ _ ending => (by cases ending), fun _ _ _ saw => (by cases saw),
      fun _ _ _ _ ready => (by cases ready)⟩

/-- An alert stays as it is, unless this very commit ends it. -/
theorem PlanWritten.spares {env : Env} {now : Time} {s s' : Store}
    {command : AlertReceivedCommand} {fingerprint : String} {plan : Plan}
    (written : PlanWritten env now s s' command fingerprint plan) {b : Uuid} {alert : AlertRow}
    (found : s.alert.alerts[b]? = some alert)
    (spared : ∀ j incident remaining, plan ≠ .resolve b j incident remaining) :
    s'.alert.alerts[b]? = some alert := by
  cases written with
  | replay a i status incidents alerts => rw [alerts]; exact found
  | unmatched incidents alerts => rw [alerts]; exact Table.get_insert.mpr (.inl found)
  | ended a j incident remaining stays incidents alerts =>
    rw [alerts]
    have apart : b ≠ a := fun same => spared j incident remaining (by rw [same])
    exact Table.get_modify.mpr (.inr ⟨apart, found⟩)
  | cancelled a j incident stored triaging row version incidents alerts =>
    rw [alerts]
    have apart : b ≠ a := fun same => spared j incident 0 (by rw [same])
    exact Table.get_modify.mpr (.inr ⟨apart, found⟩)
  | joined decision j incident incidents alerts =>
    rw [alerts]
    exact Table.get_insert.mpr (.inl found)
  | opened decision incidents alerts => rw [alerts]; exact Table.get_insert.mpr (.inl found)

theorem endingOf_of_saw {d : Delivery} {i : Uuid} {incident : IncidentRow}
    (saw : sawIncidentOf d = some (i, incident)) : ∃ a, endingOf d = some (a, i) := by
  obtain ⟨command, now, phase⟩ := d
  cases phase with
  | sawIncident a j seen => cases saw; exact ⟨a, rfl⟩
  | ready plan =>
    cases plan with
    | resolve a j seen remaining => cases saw; exact ⟨a, rfl⟩
    | _ => cases saw
  | _ => cases saw

theorem holdsLock_of_ending {d : Delivery} {ending : Uuid × Uuid}
    (ends : endingOf d = some ending) : d.holdsLock = true := by
  obtain ⟨command, now, phase⟩ := d
  cases phase with
  | begun => cases ends
  | answered result => cases ends
  | failed => cases ends
  | _ => rfl

theorem EndsUnderLock.kept {s s' : Store} {d : Delivery} (links : DeliveryLinks s d)
    (alerts : Table.Every (fun _ alert => AlertLink s alert) s.alert.alerts)
    (ends : EndsUnderLock s d) (kept : Kept s s')
    (counted : ∀ a i incident remaining, d.phase = .ready (.resolve a i incident remaining) →
      remaining = 0 ∨ AnotherFires s' a i) : EndsUnderLock s' d := by
  have before : ∀ {a i : Uuid} {incident' : IncidentRow}, endingOf d = some (a, i) →
      s'.incidents[i]? = some incident' →
      ∃ incident, s.incidents[i]? = some incident ∧ IncidentKept incident incident' := by
    intro a i incident' ending there'
    obtain ⟨alert, found, link⟩ := links.ends a i ending
    obtain ⟨incident, there⟩ := (alerts a alert found).known i link
    obtain ⟨moved, there'', same⟩ := kept.incidents i incident there
    rw [there'] at there''
    cases there''
    exact ⟨incident, there, same⟩
  refine ⟨?_, ?_, counted⟩
  · intro a i incident' ending there'
    obtain ⟨incident, there, service, environment, _⟩ := before ending there'
    rw [service, environment]
    exact ends.scope a i incident ending there
  · intro i incident stored' saw there' triaging
    obtain ⟨a, ending⟩ := endingOf_of_saw saw
    obtain ⟨stored, there, _, _, _, stays⟩ := before ending there'
    exact ends.seen i incident stored saw there (stays triaging)

structure TriagingAlerts (env : Env) (x : Exchange) : Prop where
  apart : Table.Exclusive (conflict env) x.deliveries
  linked : AlertsLinked x
  asked : Table.Every (fun _ d => firesIfLinked d) x.deliveries
  locks : Table.Every (fun _ d => EndsUnderLock x.store d) x.deliveries
  fires : Table.Every (fun i incident => incident.status = .triaging → AlertFires x.store i)
    x.store.incidents

/-- Two deliveries that end alerts of one incident wait for each other. -/
theorem TriagingAlerts.alone {env : Env} {x : Exchange} (sound : TriagingAlerts env x)
    {k j : Nat} {d other : Delivery} {a b i : Uuid} (row : x.deliveries[k]? = some d)
    (found : x.deliveries[j]? = some other) (different : j ≠ k)
    (ending : endingOf d = some (a, i)) : endingOf other ≠ some (b, i) := by
  intro alsoEnding
  obtain ⟨alert, there, link⟩ := (sound.linked.deliveries k d row).ends a i ending
  obtain ⟨incident, known⟩ := (sound.linked.alerts a alert there).known i link
  obtain ⟨service, environment⟩ := (sound.locks k d row).scope a i incident ending known
  obtain ⟨service', environment'⟩ := (sound.locks j other found).scope b i incident alsoEnding known
  have shared : other.sameLock d = true := by
    simp [Delivery.sameLock, service, environment, service', environment']
  exact sound.apart j k other d found row different
    (.inl ⟨holdsLock_of_ending alsoEnding, holdsLock_of_ending ending, shared⟩)

/-- A commit that ends one alert of an incident is no other delivery's business. -/
theorem TriagingAlerts.commit_locks {env : Env} {x : Exchange} (sound : TriagingAlerts env x)
    {k j : Nat} {d other : Delivery} {plan : Plan} {s : Store}
    (row : x.deliveries[k]? = some d) (ready : d.phase = .ready plan)
    (written : PlanWritten env d.now x.store s d.command (d.fingerprint env) plan)
    (found : x.deliveries[j]? = some other) (different : j ≠ k) : EndsUnderLock s other := by
  have ends := sound.locks j other found
  refine ends.kept (sound.linked.deliveries j other found) sound.linked.alerts written.kept ?_
  intro a i incident remaining waiting
  rcases ends.counted a i incident remaining waiting with none | ⟨b, alert, apart, there, fires⟩
  · exact .inl none
  · refine .inr ⟨b, alert, apart, written.spares there ?_, fires⟩
    rintro i' incident' remaining' rfl
    have ending : endingOf d = some (b, i') := by simp [endingOf, ready]
    obtain ⟨alert', there', link⟩ := (sound.linked.deliveries k d row).ends b i' ending
    rw [there] at there'
    cases there'
    have same : i' = i := by simpa [isFiringAlertOf, link] using (Bool.and_eq_true_iff.mp fires).1
    subst same
    exact sound.alone (b := a) row found different ending (by simp [endingOf, waiting])

/-- The alert that a commit ends is linked to the incident it read. -/
theorem TriagingAlerts.ended_link {env : Env} {x : Exchange} (sound : TriagingAlerts env x)
    {k : Nat} {d : Delivery} {a i : Uuid} {incident : IncidentRow} {remaining : Nat}
    (row : x.deliveries[k]? = some d) (ready : d.phase = .ready (.resolve a i incident remaining))
    {alert : AlertRow} (found : x.store.alert.alerts[a]? = some alert) {j : Uuid}
    (fires : isFiringAlertOf j alert = true) : j = i := by
  have ending : endingOf d = some (a, i) := by simp [endingOf, ready]
  obtain ⟨alert', found', link⟩ := (sound.linked.deliveries k d row).ends a i ending
  rw [found] at found'
  cases found'
  have named : alert.incidentId = some j := by
    simpa using (Bool.and_eq_true_iff.mp fires).1
  rw [link] at named
  exact (Option.some.inj named).symm

theorem TriagingAlerts.commit_fires {env : Env} {x : Exchange} (sound : TriagingAlerts env x)
    {k : Nat} {d : Delivery} {plan : Plan} {s : Store} (row : x.deliveries[k]? = some d)
    (ready : d.phase = .ready plan)
    (written : PlanWritten env d.now x.store s d.command (d.fingerprint env) plan) :
    Table.Every (fun i incident => incident.status = .triaging → AlertFires s i) s.incidents := by
  intro j incident' there' triaging'
  have spared : (∀ a i incident remaining, plan ≠ .resolve a i incident remaining) →
      AlertFires x.store j → AlertFires s j := by
    rintro other ⟨a, alert, found, fires⟩
    exact ⟨a, alert, written.spares found (other a), fires⟩
  -- where an alert is ended, the one that fires is another
  have ended : ∀ {a i : Uuid} {incident : IncidentRow} {remaining : Nat},
      plan = .resolve a i incident remaining → AnotherFires x.store a j → AlertFires s j := by
    rintro a i incident remaining rfl ⟨b, alert, apart, found, fires⟩
    refine ⟨b, alert, written.spares found ?_, fires⟩
    rintro i' incident' remaining' same
    cases same
    exact apart rfl
  cases written with
  | replay a i status incidents alerts =>
    rw [incidents] at there'
    exact spared (by simp) (sound.fires j incident' there' triaging')
  | unmatched incidents alerts =>
    rw [incidents] at there'
    exact spared (by simp) (sound.fires j incident' there' triaging')
  | ended a i incident remaining stays incidents alerts =>
    rw [incidents] at there'
    obtain ⟨b, alert, found, fires⟩ := sound.fires j incident' there' triaging'
    refine ended rfl ?_
    by_cases same : b = a
    · subst same
      have here := sound.ended_link row ready found fires
      subst here
      have ends := sound.locks k d row
      have seen : incident.status = .triaging :=
        ends.seen j incident incident' (by simp [sawIncidentOf, ready]) there' triaging'
      rcases ends.counted b j incident remaining ready with none | another
      · exact absurd ⟨none, seen⟩ stays
      · exact another
    · exact ⟨b, alert, same, found, fires⟩
  | cancelled a i incident stored triaging row' version incidents alerts =>
    rw [incidents] at there'
    rcases Table.get_modify.mp there' with ⟨_, before, _, rfl⟩ | ⟨elsewhere, there⟩
    · cases triaging'
    · obtain ⟨b, alert, found, fires⟩ := sound.fires j incident' there triaging'
      refine ended rfl ⟨b, alert, ?_, found, fires⟩
      rintro rfl
      exact elsewhere (sound.ended_link row ready found fires)
  | joined decision i incident incidents alerts =>
    rw [incidents] at there'
    obtain ⟨before, there, status⟩ : ∃ before, x.store.incidents[j]? = some before ∧
        before.status = incident'.status := by
      unfold touchedIf at there'
      split_ifs at there' with correlates
      · rcases Table.get_modify.mp there' with ⟨_, before, there, rfl⟩ | ⟨_, there⟩
        · exact ⟨before, there, rfl⟩
        · exact ⟨incident', there, rfl⟩
      · exact ⟨incident', there', rfl⟩
    exact spared (by simp) (sound.fires j before there (status.trans triaging'))
  | opened decision incidents alerts =>
    rw [incidents] at there'
    rcases Table.get_insert.mp there' with there | ⟨rfl, rfl⟩
    · exact spared (by simp) (sound.fires j incident' there triaging')
    · have asked : d.command.status = .firing := by
        have fires := sound.asked k d row
        simpa [firesIfLinked, ready] using fires
      refine ⟨x.store.alert.alerts.length, _,
        by rw [alerts]; exact Table.get_insert.mpr (.inr ⟨rfl, rfl⟩), ?_⟩
      simp [isFiringAlertOf, newAlert, asked]

theorem step_triaging {env : Env} {x : Exchange} {e : DeliveryEvent}
    (carries : CarriesIncident env x e) (sound : TriagingAlerts env x) :
    TriagingAlerts env (x.step env [] e) := by
  refine ⟨step_exclusive sound.apart, step_linked sound.linked, step_firesIfLinked sound.asked,
    ?_, ?_⟩
  · refine step_deliveries (P := EndsUnderLock) sound.locks ?_ ?_ ?_
    · exact fun s d rest => .atRest rest
    · intro k d phase event row read ends
      subst event
      exact read.endsUnderLock row carries ends
    · intro k d plan result s j other event row ready free written found different _
      obtain ⟨scope, seen, counted⟩ :=
        sound.commit_locks row ready (plan_written written) found different
      exact ⟨scope, seen, counted⟩
  · cases step_move env [] x e with
    | waits same => rw [same]; exact sound.fires
    | arrives d phase moved => rw [moved]; exact sound.fires
    | reads k d event row moved => rw [moved]; exact sound.fires
    | stops k d row unanswered moved => rw [moved]; exact sound.fires
    | loses k d winner row ready taken moved => rw [moved]; exact sound.fires
    | commits k d plan result s event row ready free written moved =>
      rw [moved]
      intro j incident there triaging
      obtain ⟨a, alert, found, fires⟩ :=
        sound.commit_fires row ready (plan_written written) j incident there triaging
      exact ⟨a, alert, found, fires⟩

/-! ## The service and environment of an alert -/

def alertService (alert : AlertRow) : String := (label? alert.labels "service").getD ""

def alertEnvironment (alert : AlertRow) : String := (label? alert.labels "environment").getD ""

/-- A resolved notification reads the alert it ends while that fires, and carries its
service and environment. -/
def CarriesAlert (env : Env) (x : Exchange) : DeliveryEvent → Prop
  | .advance k => ∀ d a alert, x.deliveries[k]? = some d → d.phase = .locked →
      d.command.status = .resolved →
      findAlertToResolve x.store d.command (d.fingerprint env) = some (a, alert) →
      alert.status = .firing →
      d.command.service = alertService alert ∧ d.command.environment = alertEnvironment alert
  | _ => True

/-- The key of an incident that a command opens, before its time bucket. -/
def correlationKeyOf (env : Env) (command : AlertReceivedCommand) : String :=
  match env.correlationEngine.newIncidentCorrelationKey with
  | some key =>
    if key.isEmpty then computeFingerprint env.sha256 command.source command.labels else key
  | none => computeFingerprint env.sha256 command.source command.labels

def inBucket (key : String) (bucket : Time) : String := key ++ ":" ++ toString bucket

/-- Commands of two services, or of two environments, open incidents of different keys. -/
def KeysTellServicesApart (env : Env) (commands : List AlertReceivedCommand) : Prop :=
  ∀ c ∈ commands, ∀ c' ∈ commands, ∀ bucket bucket',
    inBucket (correlationKeyOf env c) bucket = inBucket (correlationKeyOf env c') bucket' →
    c.service = c'.service ∧ c.environment = c'.environment

def delivered (x : Exchange) : List AlertReceivedCommand := x.deliveries.map (·.command)

theorem KeysTellServicesApart.earlier {env : Env} {commands later : List AlertReceivedCommand}
    (apart : KeysTellServicesApart env (commands ++ later)) :
    KeysTellServicesApart env commands :=
  fun c listed c' listed' => apart c (List.mem_append_left _ listed) c'
    (List.mem_append_left _ listed')

theorem delivered_put {x : Exchange} {k : Nat} {d : Delivery} {phase : DeliveryPhase}
    (row : x.deliveries[k]? = some d) :
    (x.deliveries.set k { d with phase }).map (·.command) = delivered x := by
  have same : (x.deliveries.map (·.command))[k]? = some d.command := by simp [row]
  rw [List.map_set]
  exact Table.set_same same

theorem step_delivered (env : Env) (held : List Uuid) (x : Exchange) (e : DeliveryEvent) :
    ∃ new, delivered (x.step env held e) = delivered x ++ new := by
  cases step_move env held x e with
  | waits same => exact ⟨[], by rw [same]; simp⟩
  | arrives d phase moved => exact ⟨[d.command], by rw [moved]; simp [delivered]⟩
  | reads k d event row moved => exact ⟨[], by rw [moved, List.append_nil]; exact delivered_put row⟩
  | stops k d row unanswered moved =>
    exact ⟨[], by rw [moved, List.append_nil]; exact delivered_put row⟩
  | loses k d winner row ready taken moved =>
    exact ⟨[], by rw [moved, List.append_nil]; exact delivered_put row⟩
  | commits k d plan result s event row ready free written moved =>
    exact ⟨[], by rw [moved, List.append_nil]; exact delivered_put row⟩

theorem decide_newIncident {engine : CorrelationEngine} {alert : NewAlertContext}
    {candidates : List CorrelationCandidate}
    (isNew : (engine.decide alert candidates).decision = .newIncident) :
    (engine.decide alert candidates).correlationKey =
      match engine.newIncidentCorrelationKey with
      | some key => if key.isEmpty then alert.fingerprint else key
      | none => alert.fingerprint := by
  unfold CorrelationEngine.decide at isNew ⊢
  cases chosen : engine.best alert none candidates with
  | none => rfl
  | some best =>
    simp only [chosen] at isNew ⊢
    split at isNew
    · cases isNew
    · rename_i few
      exact (congrArg CorrelationDecision.correlationKey (if_neg few)).trans rfl

/-- The incident is there, and of the command's service and environment. -/
def OfCommand (s : Store) (command : AlertReceivedCommand) (i : Uuid) : Prop :=
  ∃ incident, s.incidents[i]? = some incident ∧ incident.service = command.service ∧
    incident.environment = command.environment

theorem OfCommand.kept {s s' : Store} {command : AlertReceivedCommand} {i : Uuid}
    (own : OfCommand s command i) (kept : Kept s s') : OfCommand s' command i := by
  obtain ⟨incident, there, service, environment⟩ := own
  obtain ⟨incident', there', service', environment', _⟩ := kept.incidents i incident there
  exact ⟨incident', there', service'.trans service, environment'.trans environment⟩

/-- The incident a delivery is about to link its alert to is of its own service and
environment, or new and of its own key. -/
structure JoinsOwn (env : Env) (s : Store) (d : Delivery) : Prop where
  decided : ∀ decision, d.phase = .decided decision →
    (decision.decision = .correlate →
      ∀ i, decision.matchedIncidentId = some i → OfCommand s d.command i) ∧
    (decision.decision = .newIncident → decision.correlationKey = correlationKeyOf env d.command)
  joins : ∀ decision i incident, d.phase = .ready (.link decision (some (i, incident))) →
    OfCommand s d.command i
  opens : ∀ decision, d.phase = .ready (.link decision none) →
    decision.correlationKey = correlationKeyOf env d.command

/-- The alert's labels name the service and environment of its incident. -/
def LabelsOf (s : Store) (alert : AlertRow) : Prop :=
  ∀ i incident, alert.incidentId = some i → s.incidents[i]? = some incident →
    alertService alert = incident.service ∧ alertEnvironment alert = incident.environment

/-- One of the commands opened the incident. -/
def OpenedBy (env : Env) (commands : List AlertReceivedCommand) (incident : IncidentRow) : Prop :=
  ∃ command ∈ commands, ∃ bucket,
    incident.correlationKey = inBucket (correlationKeyOf env command) bucket ∧
    incident.service = command.service ∧ incident.environment = command.environment

structure LabelsAgree (env : Env) (x : Exchange) : Prop where
  alerts : Table.Every (fun _ alert => LabelsOf x.store alert) x.store.alert.alerts
  incidents : Table.Every (fun _ incident => OpenedBy env (delivered x) incident)
    x.store.incidents
  deliveries : Table.Every (fun _ d => JoinsOwn env x.store d) x.deliveries

theorem JoinsOwn.kept {env : Env} {s s' : Store} {d : Delivery} (own : JoinsOwn env s d)
    (kept : Kept s s') : JoinsOwn env s' d :=
  ⟨fun decision phase => ⟨fun correlates i named =>
      ((own.decided decision phase).1 correlates i named).kept kept, (own.decided decision phase).2⟩,
    fun decision i incident ready => (own.joins decision i incident ready).kept kept, own.opens⟩

theorem PhaseRead.joinsOwn {env : Env} {x : Exchange} {k : Nat} {d : Delivery}
    {phase : DeliveryPhase} (row : x.deliveries[k]? = some d) (agree : LabelsAgree env x)
    (apart : KeysTellServicesApart env (delivered x))
    (read : PhaseRead env x k d d.phase phase) : JoinsOwn env x.store { d with phase } := by
  have own := agree.deliveries k d row
  have listed : d.command ∈ delivered x := List.mem_map_of_mem (List.mem_of_getElem? row)
  obtain ⟨command, now, before⟩ := d
  cases read with
  | waits => exact own
  | decides =>
    refine ⟨?_, fun _ _ _ ready => (by cases ready), fun _ ready => (by cases ready)⟩
    intro decision decided
    cases decided
    constructor
    · intro correlates i named
      obtain ⟨c, member, matched⟩ := CorrelationEngine.decide_correlate correlates
      obtain ⟨incident, there, service, environment, _⟩ := findOpenIncidentCandidates_row member
      have same : i = c.incidentId := Option.some.inj (named.symm.trans matched)
      rw [same]
      exact ⟨incident, there, service, environment⟩
    · exact decide_newIncident
  | joins decision i incident correlates named there =>
    refine ⟨fun _ decided => (by cases decided), ?_, fun _ ready => (by cases ready)⟩
    intro decision' i' incident' ready
    cases ready
    exact (own.decided decision rfl).1 correlates i named
  | shares decision i incident isNew selected =>
    refine ⟨fun _ decided => (by cases decided), ?_, fun _ ready => (by cases ready)⟩
    intro decision' i' incident' ready
    cases ready
    obtain ⟨there, chosen⟩ := Table.first_some selected
    obtain ⟨c, listed', bucket, key, service, environment⟩ := agree.incidents i incident there
    have named : incident.correlationKey = bucketKey env now decision := by
      simpa using (Bool.and_eq_true_iff.mp chosen).1
    have own' : decision.correlationKey = correlationKeyOf env command :=
      (own.decided decision rfl).2 isNew
    unfold bucketKey at named
    rw [own', key] at named
    obtain ⟨sameService, sameEnvironment⟩ := apart c listed' command listed bucket _ named
    exact ⟨incident, there, service.trans sameService, environment.trans sameEnvironment⟩
  | opens decision isNew missing free =>
    refine ⟨fun _ decided => (by cases decided), fun _ _ _ ready => (by cases ready), ?_⟩
    intro decision' ready
    cases ready
    exact (own.decided decision rfl).2 isNew
  | _ =>
    exact ⟨fun _ decided => (by cases decided), fun _ _ _ ready => (by cases ready),
      fun _ ready => (by cases ready)⟩

theorem PlanWritten.labels {env : Env} {x : Exchange} (linked : AlertsLinked x)
    (agree : LabelsAgree env x) {k : Nat} {d : Delivery} {plan : Plan} {s : Store}
    (row : x.deliveries[k]? = some d) (ready : d.phase = .ready plan)
    (written : PlanWritten env d.now x.store s d.command (d.fingerprint env) plan) :
    Table.Every (fun _ alert => LabelsOf s alert) s.alert.alerts := by
  have kept := written.kept
  have own := (agree.deliveries k d row).joins
  intro a alert' found' i incident' link there'
  -- an alert that was there before: its incident was, and neither changed what they say
  have old : ∀ alert, x.store.alert.alerts[a]? = some alert → alertService alert' =
      incident'.service ∧ alertEnvironment alert' = incident'.environment := by
    intro alert found
    obtain ⟨alert'', found'', sameLink, labels, _⟩ := kept.alerts a alert found
    rw [found'] at found''
    cases found''
    rw [sameLink] at link
    obtain ⟨incident, there⟩ := (linked.alerts a alert found).known i link
    obtain ⟨incident'', there'', service, environment, _⟩ := kept.incidents i incident there
    rw [there'] at there''
    cases there''
    have before := agree.alerts a alert found i incident link there
    simp only [alertService, alertEnvironment, labels, service, environment] at before ⊢
    exact before
  cases written with
  | replay b j status incidents alerts =>
    rw [alerts] at found'
    exact old alert' found'
  | unmatched incidents alerts =>
    rw [alerts] at found'
    rcases Table.get_insert.mp found' with found | ⟨_, rfl⟩
    · exact old alert' found
    · cases link
  | ended b j incident remaining stays incidents alerts =>
    rw [alerts] at found'
    rcases Table.get_modify.mp found' with ⟨_, alert, found, _⟩ | ⟨_, found⟩
    · exact old alert found
    · exact old alert' found
  | cancelled b j incident stored triaging row' version incidents alerts =>
    rw [alerts] at found'
    rcases Table.get_modify.mp found' with ⟨_, alert, found, _⟩ | ⟨_, found⟩
    · exact old alert found
    · exact old alert' found
  | joined decision j incident incidents alerts =>
    rw [alerts] at found'
    rcases Table.get_insert.mp found' with found | ⟨_, rfl⟩
    · exact old alert' found
    · cases link
      obtain ⟨stored, there, service, environment⟩ :=
        (own decision _ incident ready).kept kept
      rw [there'] at there
      cases there
      exact ⟨service.symm, environment.symm⟩
  | opened decision incidents alerts =>
    rw [alerts] at found'
    rcases Table.get_insert.mp found' with found | ⟨_, rfl⟩
    · exact old alert' found
    · cases link
      rw [incidents] at there'
      rcases Table.get_insert.mp there' with there | ⟨_, rfl⟩
      · exact absurd (Table.lt_of_row there) (Nat.lt_irrefl _)
      · exact ⟨rfl, rfl⟩

theorem PlanWritten.keys {env : Env} {x : Exchange} (agree : LabelsAgree env x) {k : Nat}
    {d : Delivery} {plan : Plan} {s : Store} (row : x.deliveries[k]? = some d)
    (ready : d.phase = .ready plan)
    (written : PlanWritten env d.now x.store s d.command (d.fingerprint env) plan) :
    Table.Every (fun _ incident => OpenedBy env (delivered x) incident) s.incidents := by
  have kept := written.kept.incidents
  have old : ∀ {i : Nat} {incident : IncidentRow}, x.store.incidents[i]? = some incident →
      ∀ incident', s.incidents[i]? = some incident' → OpenedBy env (delivered x) incident' := by
    intro i incident there incident' there'
    obtain ⟨moved, there'', service, environment, key, _⟩ := kept i incident there
    rw [there'] at there''
    cases there''
    unfold OpenedBy
    rw [service, environment, key]
    exact agree.incidents i incident there
  intro i incident' there'
  rcases Nat.lt_or_ge i x.store.incidents.length with inside | outside
  · exact old (List.getElem?_eq_getElem inside) incident' there'
  · have opens := (agree.deliveries k d row).opens
    have listed : d.command ∈ delivered x := List.mem_map_of_mem (List.mem_of_getElem? row)
    -- only a new incident has a new place
    have lengths : ∀ {t : List IncidentRow}, s.incidents = t →
        t.length = x.store.incidents.length → False := by
      intro t same length
      have beyond := Table.lt_of_row there'
      rw [same, length] at beyond
      omega
    cases written with
    | replay a j status incidents alerts => exact (lengths incidents rfl).elim
    | unmatched incidents alerts => exact (lengths incidents rfl).elim
    | ended a j incident remaining stays incidents alerts => exact (lengths incidents rfl).elim
    | cancelled a j incident stored triaging row' version incidents alerts =>
      exact (lengths incidents (List.length_modify ..)).elim
    | joined decision j incident incidents alerts =>
      refine (lengths incidents ?_).elim
      unfold touchedIf
      split_ifs
      · exact List.length_modify ..
      · rfl
    | opened decision incidents alerts =>
      rw [incidents] at there'
      rcases Table.get_insert.mp there' with there | ⟨_, rfl⟩
      · exact absurd (Table.lt_of_row there) (Nat.not_lt.mpr outside)
      · refine ⟨d.command, listed, d.now / (env.candidateLookbackSeconds * 1000000), ?_, rfl, rfl⟩
        show bucketKey env d.now decision = _
        rw [bucketKey, opens decision ready]
        rfl

theorem step_labels {env : Env} {x : Exchange} {e : DeliveryEvent} (linked : AlertsLinked x)
    (apart : KeysTellServicesApart env (delivered x)) (agree : LabelsAgree env x) :
    LabelsAgree env (x.step env [] e) := by
  obtain ⟨new, grown⟩ := step_delivered env [] x e
  have widen : ∀ {incident : IncidentRow}, OpenedBy env (delivered x) incident →
      OpenedBy env (delivered (x.step env [] e)) incident := by
    rintro incident ⟨command, listed, rest⟩
    exact ⟨command, by rw [grown]; exact List.mem_append_left _ listed, rest⟩
  constructor
  · cases step_move env [] x e with
    | waits same => rw [same]; exact agree.alerts
    | arrives d phase moved => rw [moved]; exact agree.alerts
    | reads k d event row moved => rw [moved]; exact agree.alerts
    | stops k d row unanswered moved => rw [moved]; exact agree.alerts
    | loses k d winner row ready taken moved => rw [moved]; exact agree.alerts
    | commits k d plan result s event row ready free written moved =>
      rw [moved]
      have labels := PlanWritten.labels linked agree row ready (plan_written written)
      exact labels
  · refine Table.Every.imp (P := fun _ incident => OpenedBy env (delivered x) incident) ?_
      fun _ _ _ opened => widen opened
    cases step_move env [] x e with
    | waits same => rw [same]; exact agree.incidents
    | arrives d phase moved => rw [moved]; exact agree.incidents
    | reads k d event row moved => rw [moved]; exact agree.incidents
    | stops k d row unanswered moved => rw [moved]; exact agree.incidents
    | loses k d winner row ready taken moved => rw [moved]; exact agree.incidents
    | commits k d plan result s event row ready free written moved =>
      rw [moved]
      have keys := PlanWritten.keys agree row ready (plan_written written)
      exact keys
  · refine step_deliveries (P := JoinsOwn env) agree.deliveries ?_ ?_ ?_
    · intro s d rest
      refine ⟨fun decision decided => ?_, fun _ _ _ ready => absurd ready (not_ready_atRest rest),
        fun _ ready => absurd ready (not_ready_atRest rest)⟩
      rcases rest with phase | phase | ⟨result, phase⟩ <;> simp [phase] at decided
    · exact fun k d phase event row read _ => read.joinsOwn row agree apart
    · intro k d plan result s j other event row ready free written found different own
      obtain ⟨alerts, incidents⟩ := (plan_written written).kept
      exact own.kept ⟨alerts, incidents⟩

/-- What a notification carries of its alert, it carries of its incident. -/
theorem carriesIncident_of_alert {env : Env} {x : Exchange} {e : DeliveryEvent}
    (agree : LabelsAgree env x) (carries : CarriesAlert env x e) : CarriesIncident env x e := by
  cases e with
  | deliver now command => trivial
  | abort k => trivial
  | advance k =>
    intro d a alert i incident row phase resolved matched fires link there
    obtain ⟨service, environment⟩ := carries d a alert row phase resolved matched fires
    obtain ⟨service', environment'⟩ :=
      agree.alerts a alert (findAlertToResolve_row matched) i incident link there
    exact ⟨service.trans service', environment.trans environment'⟩

/-! ## Runs -/

theorem start_linked : AlertsLinked (.start {}) :=
  ⟨Table.Every.nil, Table.Every.nil⟩

theorem start_triaging (env : Env) : TriagingAlerts env (.start {}) :=
  ⟨Table.Exclusive.nil, start_linked, Table.Every.nil, Table.Every.nil, Table.Every.nil⟩

theorem start_labels (env : Env) : LabelsAgree env (.start {}) :=
  ⟨Table.Every.nil, Table.Every.nil, Table.Every.nil⟩

theorem run_linked (env : Env) (events : List DeliveryEvent) :
    AlertsLinked (exchangeFrom env {} events) :=
  Machine.state_invariant start_linked (fun _ _ linked => step_linked linked) events

/-- The alert was resolved. -/
def alertEnded (a : Uuid) (x : Exchange) : Bool :=
  x.store.alert.alerts[a]?.any (·.status == .resolved)

theorem alertEnded_eq_true {a : Uuid} {x : Exchange} :
    alertEnded a x = true ↔
      ∃ alert, x.store.alert.alerts[a]? = some alert ∧ alert.status = .resolved := by
  unfold alertEnded
  cases x.store.alert.alerts[a]? <;> simp

theorem alertEnded_stable {env : Env} {a : Uuid} {x : Exchange} {e : DeliveryEvent}
    (ended : alertEnded a x = true) : alertEnded a (x.step env [] e) = true := by
  obtain ⟨alert, found, status⟩ := alertEnded_eq_true.mp ended
  obtain ⟨alert', found', _, _, same | ⟨fires, _⟩⟩ := (step_kept env [] x e).alerts a alert found
  · exact alertEnded_eq_true.mpr ⟨alert', found', same.trans status⟩
  · rw [status] at fires
    cases fires

/-- Every `TRIAGING` incident has a linked alert that still fires. -/
def TriagingFires (s : Store) : Prop :=
  ∀ (i : Uuid) (incident : IncidentRow), s.incidents[i]? = some incident →
    incident.status = .triaging → ∃ (a : Uuid) (alert : AlertRow),
      s.alert.alerts[a]? = some alert ∧ alert.incidentId = some i ∧ alert.status = .firing

theorem TriagingAlerts.triagingFires {env : Env} {x : Exchange} (sound : TriagingAlerts env x) :
    TriagingFires x.store := by
  intro i incident there triaging
  obtain ⟨a, alert, found, fires⟩ := sound.fires i incident there triaging
  have both := Bool.and_eq_true_iff.mp fires
  exact ⟨a, alert, found, by simpa using both.1, by simpa using both.2⟩

/-- The life of the alerts and incidents of a run of deliveries from the empty store. -/
structure AlertLifecycle (env : Env) (events : List DeliveryEvent) : Prop where
  firing_linked : ∀ (a : Uuid) (alert : AlertRow),
    (exchangeFrom env {} events).store.alert.alerts[a]? = some alert → alert.status = .firing →
    ∃ i incident, alert.incidentId = some i ∧
      (exchangeFrom env {} events).store.incidents[i]? = some incident
  unlinked_resolved : ∀ (a : Uuid) (alert : AlertRow),
    (exchangeFrom env {} events).store.alert.alerts[a]? = some alert →
    alert.incidentId = none → alert.status = .resolved
  /-- From any committed state to any later one. -/
  kept : ∀ earlier later, events = earlier ++ later → ∀ (a : Uuid) (alert : AlertRow),
    (exchangeFrom env {} earlier).store.alert.alerts[a]? = some alert →
    ∃ alert', (exchangeFrom env {} events).store.alert.alerts[a]? = some alert' ∧
      alert'.incidentId = alert.incidentId ∧
      (alert'.status = alert.status ∨ alert.status = .firing ∧ alert'.status = .resolved)
  ends_once : ∀ a : Uuid,
    Machine.rises (alertEnded a) (Exchange.step env []) (.start {}) events ≤ 1
  /-- Where notifications carry the service and environment that the incident of the alert
  they end has on record. -/
  triaging : Machine.StepsMeet (CarriesIncident env) (Exchange.step env []) (.start {}) events →
    TriagingFires (exchangeFrom env {} events).store
  /-- Where they carry those of the alert's own labels, and keys tell services apart. -/
  triaging_of_labels : KeysTellServicesApart env (delivered (exchangeFrom env {} events)) →
    Machine.StepsMeet (CarriesAlert env) (Exchange.step env []) (.start {}) events →
    TriagingFires (exchangeFrom env {} events).store

theorem run_labels {env : Env} {events : List DeliveryEvent}
    (apart : KeysTellServicesApart env (delivered (exchangeFrom env {} events)))
    (carries : Machine.StepsMeet (CarriesAlert env) (Exchange.step env []) (.start {}) events) :
    LabelsAgree env (exchangeFrom env {} events) ∧ TriagingAlerts env (exchangeFrom env {} events) := by
  refine Machine.invariant_of_stepsMeet (P := fun x => KeysTellServicesApart env (delivered x) →
    LabelsAgree env x ∧ TriagingAlerts env x) (fun _ => ⟨start_labels env, start_triaging env⟩) ?_
    carries apart
  intro x e carries sound apart
  obtain ⟨new, grown⟩ := step_delivered env [] x e
  rw [grown] at apart
  obtain ⟨agree, triaging⟩ := sound apart.earlier
  exact ⟨step_labels triaging.linked apart.earlier agree,
    step_triaging (carriesIncident_of_alert agree carries) triaging⟩

/-- Over every interleaving of deliveries: an alert that fires is linked, for ever, stops
firing once at most, and a `TRIAGING` incident has an alert that fires. -/
theorem alerts_live_once (env : Env) (events : List DeliveryEvent) : AlertLifecycle env events where
  firing_linked := by
    intro a alert found fires
    obtain ⟨linked, known⟩ := (run_linked env events).alerts a alert found
    obtain ⟨i, link⟩ := Option.ne_none_iff_exists'.mp (linked fires)
    obtain ⟨incident, there⟩ := known i link
    exact ⟨i, incident, link, there⟩
  unlinked_resolved := by
    intro a alert found unlinked
    by_contra unresolved
    exact ((run_linked env events).alerts a alert found).firing (alertStatus_firing unresolved)
      unlinked
  kept := by
    rintro earlier later rfl a alert found
    have evolves := run_kept env (exchangeFrom env {} earlier) later
    obtain ⟨alert', found', link, _, status⟩ := evolves a alert found
    refine ⟨alert', ?_, link, status⟩
    rw [exchangeFrom, Machine.run_append]
    exact found'
  ends_once := by
    intro a
    rw [Machine.rises_of_stable (p := alertEnded a) (by simp [alertEnded, Exchange.start])
      fun events e ended => alertEnded_stable ended]
    exact Bool.toNat_le _
  triaging := by
    intro carries
    exact (Machine.invariant_of_stepsMeet (start_triaging env)
      (fun x e carries sound => step_triaging carries sound) carries).triagingFires
  triaging_of_labels := fun apart carries => (run_labels apart carries).2.triagingFires

end IncidentTriage.Verified
