import IncidentTriage.Domain.Idempotency
import IncidentTriage.Verified.AlertLifecycle
import IncidentTriage.Verified.Lifecycle
import IncidentTriage.Verified.Serial

/-! # The end of a condition

A resolved notification without an external id ends the alert of its label set that was
received last.  Repeats recorded before it go on firing, so one notification ends the
condition only where one alert of it fires; an incident is cancelled with the last of its
firing alerts.
-/

namespace IncidentTriage.Verified

open IncidentTriage.Python IncidentTriage.Domain IncidentTriage.Incident

/-! ## Incidents in triage -/

/-- Every case in triage has an alert firing. -/
structure TriageSound (s : Store) : Prop where
  fit : AllAttemptsFit s
  cases : ∀ i, (caseOf s i).status = some .triaging → 0 < (caseOf s i).firing

theorem Transaction.triageSound {env : Env} {now : Time} {tickets : List IssuedTicket}
    {c : Command} {s s' : Store} (transaction : Transaction env now tickets c s s')
    (sound : TriageSound s) : TriageSound s' := by
  refine ⟨transaction.attemptsFit sound.fit, fun i triaging => ?_⟩
  rcases transaction.casesStep sound.fit i with same | step
  · rw [same] at triaging ⊢
    exact sound.cases i triaging
  · exact step.triaging_fires (sound.cases i) triaging

theorem run_triagingFires (env : Env) (clock : Time) (events : List Event) :
    TriagingFires (runFrom env clock events).store := by
  have empty : TriageSound (emptyWorld clock).store := by
    refine ⟨Table.Every.nil, fun i triaging => ?_⟩
    cases triaging
  have sound : TriageSound (runFrom env clock events).store :=
    run_invariant (fun transaction => transaction.triageSound) empty events
  intro i incident there triaging
  have status : (caseOf (runFrom env clock events).store i).status = some .triaging := by
    rw [← triaging]
    exact statusAt_found there
  obtain ⟨alert, member, fires⟩ := List.countP_pos_iff.mp (sound.cases i status)
  obtain ⟨a, row⟩ := List.mem_iff_getElem?.mp member
  obtain ⟨link, firing⟩ := Bool.and_eq_true_iff.mp fires
  exact ⟨a, alert, row, beq_iff_eq.mp link, beq_iff_eq.mp firing⟩

/-! ## The alerts of a label set -/

/-- The alert fires for this fingerprint and is linked to an open incident. -/
def FiresOpen (s : Store) (fingerprint : String) (a : Uuid) : Prop :=
  ∃ alert, s.alert.alerts[a]? = some alert ∧ firesOpen s fingerprint alert = true

/-- Nothing of the label set fires on an open incident. -/
def ConditionOver (s : Store) (fingerprint : String) : Prop := ∀ a, ¬ FiresOpen s fingerprint a

/-- What a resolved notification without an external id does to its label set. -/
structure EndsLatest (now : Time) (s s' : Store) (fingerprint : String) : Prop where
  /-- The alert received last stops firing, and nothing else does. -/
  latest : ¬ ConditionOver s fingerprint → ∃ a alert,
    LatestAlert (firesOpen s fingerprint) s.alert.alerts a alert ∧
      s'.alert.alerts = s.alert.alerts.set a (alert.ended now) ∧
      ∀ b, FiresOpen s' fingerprint b ↔ FiresOpen s fingerprint b ∧ b ≠ a
  kept : ConditionOver s fingerprint → ∀ (a : Uuid) (alert : AlertRow),
    s.alert.alerts[a]? = some alert → s'.alert.alerts[a]? = some alert
  ends_iff : ConditionOver s' fingerprint ↔
    ∀ a b, FiresOpen s fingerprint a → FiresOpen s fingerprint b → a = b
  /-- An incident in triage without a firing alert is cancelled. -/
  cancelled : ∀ (i : Uuid) (incident : IncidentRow), s.incidents[i]? = some incident →
    incident.status = .triaging →
    (∀ (a : Uuid) (alert : AlertRow), s'.alert.alerts[a]? = some alert →
      alert.incidentId = some i → alert.status = .resolved) →
    ∃ incident', s'.incidents[i]? = some incident' ∧ incident'.status = .cancelled
  triaging : TriagingFires s'

section
variable {now : Time} {s s' : Store} {fingerprint : String} {a i : Uuid} {alert : AlertRow}
  {incident : IncidentRow}

/-- An alert of another row is as it was. -/
theorem getElem?_ended {b : Uuid} {other : AlertRow}
    (alerts : s'.alert.alerts = s.alert.alerts.set a (alert.ended now)) (elsewhere : b ≠ a) :
    s'.alert.alerts[b]? = some other ↔ s.alert.alerts[b]? = some other := by
  rw [alerts, List.getElem?_set_ne (Ne.symm elsewhere)]

theorem not_firesOpen_ended (row : s.alert.alerts[a]? = some alert)
    (alerts : s'.alert.alerts = s.alert.alerts.set a (alert.ended now)) :
    ¬ FiresOpen s' fingerprint a := by
  rintro ⟨other, row', fires⟩
  rw [alerts, List.getElem?_set_self (Table.lt_of_row row)] at row'
  cases row'
  obtain ⟨_, firing, _⟩ := firesOpen_eq_true.mp fires
  cases firing

/-- While the incidents stay as they are, the alert that ends is the only one to go. -/
theorem firesOpen_of_ended (row : s.alert.alerts[a]? = some alert)
    (alerts : s'.alert.alerts = s.alert.alerts.set a (alert.ended now))
    (incidents : s'.incidents = s.incidents) (b : Uuid) :
    FiresOpen s' fingerprint b ↔ FiresOpen s fingerprint b ∧ b ≠ a := by
  by_cases here : b = a
  · subst here
    simp [not_firesOpen_ended row alerts]
  · have same : firesOpen s' fingerprint = firesOpen s fingerprint := by
      unfold firesOpen
      rw [incidents]
    unfold FiresOpen
    simp only [getElem?_ended alerts here, same, ne_eq, here, not_false_eq_true, and_true]

/-- Where the incident is cancelled as well, no other alert of it fires. -/
theorem firesOpen_of_cancelled (row : s.alert.alerts[a]? = some alert)
    (there : s.incidents[i]? = some incident)
    (silent : countFiringAlerts (putAlert s a (alert.ended now)) i = 0)
    (alerts : s'.alert.alerts = s.alert.alerts.set a (alert.ended now))
    (incidents : s'.incidents = s.incidents.set i (incident.moved now .cancelled true)) (b : Uuid) :
    FiresOpen s' fingerprint b ↔ FiresOpen s fingerprint b ∧ b ≠ a := by
  by_cases here : b = a
  · subst here
    simp [not_firesOpen_ended row alerts]
  · have quiet : ∀ other, s.alert.alerts[b]? = some other → other.incidentId = some i →
        other.status ≠ .firing := by
      intro other row' link fires
      have stays : (putAlert s a (alert.ended now)).alert.alerts[b]? = some other :=
        (getElem?_ended rfl here).mpr row'
      have none := List.countP_eq_zero.mp silent other (List.mem_of_getElem? stays)
      simp [isFiringAlertOf, link, fires] at none
    have other_incident : ∀ j, j ≠ i → s'.incidents[j]? = s.incidents[j]? := by
      intro j elsewhere
      rw [incidents, List.getElem?_set_ne (Ne.symm elsewhere)]
    constructor
    · rintro ⟨other, row', fires⟩
      obtain ⟨named, firing, j, incident', link, there', isOpen⟩ := firesOpen_eq_true.mp fires
      have stayed := (getElem?_ended alerts here).mp row'
      have elsewhere : j ≠ i := by
        rintro rfl
        exact quiet other stayed link firing
      rw [other_incident j elsewhere] at there'
      exact ⟨⟨other, stayed,
        firesOpen_eq_true.mpr ⟨named, firing, j, incident', link, there', isOpen⟩⟩, here⟩
    · rintro ⟨⟨other, row', fires⟩, _⟩
      obtain ⟨named, firing, j, incident', link, there', isOpen⟩ := firesOpen_eq_true.mp fires
      have elsewhere : j ≠ i := by
        rintro rfl
        exact quiet other row' link firing
      rw [← other_incident j elsewhere] at there'
      exact ⟨other, (getElem?_ended alerts here).mpr row',
        firesOpen_eq_true.mpr ⟨named, firing, j, incident', link, there', isOpen⟩⟩

/-- One notification ends the condition exactly where one alert of it fires. -/
theorem over_iff (fires : FiresOpen s fingerprint a)
    (rest : ∀ b, FiresOpen s' fingerprint b ↔ FiresOpen s fingerprint b ∧ b ≠ a) :
    ConditionOver s' fingerprint ↔
      ∀ b c, FiresOpen s fingerprint b → FiresOpen s fingerprint c → b = c := by
  constructor
  · intro calm b c first second
    have only : ∀ b, FiresOpen s fingerprint b → b = a := by
      intro b fires
      by_contra elsewhere
      exact calm b ((rest b).mpr ⟨fires, elsewhere⟩)
    rw [only b first, only c second]
  · intro alone b still
    obtain ⟨also, elsewhere⟩ := (rest b).mp still
    exact elsewhere (alone b a also fires)

end

/-! ## The notification -/

section
variable {now : Time} {s s' : Store} {command : AlertReceivedCommand} {fingerprint : String}
  {r : AlertReceivedResult}

theorem not_over_of_latest {a : Uuid} {alert : AlertRow}
    (latest : LatestAlert (firesOpen s fingerprint) s.alert.alerts a alert) :
    FiresOpen s fingerprint a :=
  ⟨alert, latest.1, latest.2.1⟩

/-- A notification that is no repeat is processed. -/
theorem processAlertResolved_succeeds (now : Time) (fingerprint : String)
    (fresh : getProcessedCommand s command.idempotencyKey = none)
    (unnamed : command.externalId = none) :
    ∃ r s', processAlertResolved now s command fingerprint = .ok (r, s') := by
  cases matched : findAlertToResolve s command fingerprint with
  | none =>
    unfold processAlertResolved
    rw [matched]
    exact ⟨_, _, finalizeCommand_fresh
      (insertAlert s (newAlert command fingerprint now .resolved (some now))) fresh _⟩
  | some known =>
    obtain ⟨a, alert⟩ := known
    have searched := matched
    rw [findAlertToResolve_unnamed unnamed] at searched
    obtain ⟨_, fires, _⟩ := latest_of_mostRecent searched
    obtain ⟨_, firing, i, incident, link, there, _⟩ := firesOpen_eq_true.mp fires
    rw [processAlertResolved_of_firing matched firing link there]
    split_ifs
    · exact ⟨_, _, finalizeCommand_fresh
        (withCancelled now (withEnded now s a i alert) i incident) fresh _⟩
    · exact ⟨_, _, finalizeCommand_fresh (withEnded now s a i alert) fresh _⟩

/-- A notification that finds nothing to end records an alert that does not fire. -/
theorem over_of_unmatched (calm : ConditionOver s fingerprint) :
    ConditionOver (recorded (insertAlert s
      (newAlert command fingerprint now .resolved (some now))) command r) fingerprint := by
  rintro b ⟨other, row', fires⟩
  rcases (Table.get_insert).mp row' with row | ⟨_, rfl⟩
  · exact calm b ⟨other, row, fires⟩
  · obtain ⟨_, firing, _⟩ := firesOpen_eq_true.mp fires
    cases firing

/-- An incident in triage is left without a firing alert only by the end of its last one,
and is cancelled then. -/
theorem ended_of_silent {a i : Uuid} {alert : AlertRow} (before : TriagingFires s)
    (alerts : s'.alert.alerts = s.alert.alerts.set a (alert.ended now))
    {incident : IncidentRow} (there : s.incidents[i]? = some incident)
    (triaging : incident.status = .triaging)
    (silent : ∀ (b : Uuid) (other : AlertRow), s'.alert.alerts[b]? = some other →
      other.incidentId = some i → other.status = .resolved)
    (row : s.alert.alerts[a]? = some alert) : alert.incidentId = some i := by
  obtain ⟨b, other, row', link, firing⟩ := before i incident there triaging
  by_cases here : b = a
  · subst here
    rw [row] at row'
    cases row'
    exact link
  · have ended := silent b other ((getElem?_ended alerts here).mpr row') link
    rw [firing] at ended
    cases ended

theorem ResolvedNotification.endsLatest
    (resolved : ResolvedNotification now s command fingerprint r s')
    (unnamed : command.externalId = none) (before : TriagingFires s) (after : TriagingFires s') :
    EndsLatest now s s' fingerprint := by
  cases resolved with
  | unmatched missing =>
    rw [findAlertToResolve_unnamed unnamed] at missing
    have calm : ConditionOver s fingerprint := by
      rintro b ⟨other, row, fires⟩
      rw [mostRecent_none.mp missing b other row] at fires
      cases fires
    have kept : ∀ (b : Uuid) (other : AlertRow), s.alert.alerts[b]? = some other →
        (s.alert.alerts ++ [newAlert command fingerprint now .resolved (some now)])[b]? =
          some other :=
      fun b other row => Table.get_insert.mpr (.inl row)
    refine ⟨fun more => absurd calm more, fun _ => kept, ?_, ?_, after⟩
    · exact ⟨fun _ b c fires => absurd fires (calm b), fun _ => over_of_unmatched calm⟩
    · intro i incident there triaging silent
      obtain ⟨b, other, row, link, firing⟩ := before i incident there triaging
      have ended := silent b other (kept b other row) link
      rw [firing] at ended
      cases ended
  | repeated matched ended =>
    rw [findAlertToResolve_unnamed unnamed] at matched
    obtain ⟨_, firing, _⟩ := firesOpen_eq_true.mp (latest_of_mostRecent matched).2.1
    rw [ended] at firing
    cases firing
  | @ends a i alert incident matched fires link there goesOn =>
    rw [findAlertToResolve_unnamed unnamed] at matched
    have latest := latest_of_mostRecent matched
    have rest : ∀ b, FiresOpen (recorded (withEnded now s a i alert) command r) fingerprint b ↔
        FiresOpen s fingerprint b ∧ b ≠ a := firesOpen_of_ended latest.1 rfl rfl
    refine ⟨fun _ => ⟨a, alert, latest, rfl, rest⟩,
      fun calm => absurd (not_over_of_latest latest) (calm a),
      over_iff (not_over_of_latest latest) rest, ?_, after⟩
    intro j incident' there' triaging silent
    have linked : alert.incidentId = some j :=
      ended_of_silent before rfl there' triaging silent latest.1
    rw [link] at linked
    cases linked
    rw [there] at there'
    cases there'
    refine absurd ⟨?_, triaging⟩ goesOn
    apply List.countP_eq_zero.mpr
    intro other member fires'
    obtain ⟨b, row'⟩ := List.mem_iff_getElem?.mp member
    obtain ⟨linked, firing⟩ := Bool.and_eq_true_iff.mp fires'
    have ended := silent b other row' (beq_iff_eq.mp linked)
    rw [beq_iff_eq.mp firing] at ended
    cases ended
  | @cancels a i alert incident matched fires link there silent triaging =>
    rw [findAlertToResolve_unnamed unnamed] at matched
    have latest := latest_of_mostRecent matched
    have rest : ∀ b, FiresOpen
        (recorded (withCancelled now (withEnded now s a i alert) i incident) command r)
          fingerprint b ↔ FiresOpen s fingerprint b ∧ b ≠ a :=
      firesOpen_of_cancelled latest.1 there silent rfl rfl
    refine ⟨fun _ => ⟨a, alert, latest, rfl, rest⟩,
      fun calm => absurd (not_over_of_latest latest) (calm a),
      over_iff (not_over_of_latest latest) rest, ?_, after⟩
    intro j incident' there' triaging' quiet
    have linked : alert.incidentId = some j :=
      ended_of_silent before rfl there' triaging' quiet latest.1
    rw [link] at linked
    cases linked
    exact ⟨_, List.getElem?_set_self (Table.lt_of_row there), rfl⟩

end

/-- The run with one more alert command. -/
def afterAlert (env : Env) (clock : Time) (events : List Event) (elapsed : Nat)
    (command : AlertReceivedCommand) : Store :=
  (runFrom env clock (events ++ [{ elapsed, command := .alertReceived command }])).store

/-- In every run, a resolved notification without an external id ends the latest alert of
its label set that fires on an open incident; it ends the condition where there is no
other, and an incident in triage is cancelled with the last of its alerts. -/
theorem resolution_ends_latest (env : Env) (clock : Time) (events : List Event) (elapsed : Nat)
    (command : AlertReceivedCommand) (resolved : command.status = .resolved)
    (unnamed : command.externalId = none)
    (fresh : getProcessedCommand (runFrom env clock events).store command.idempotencyKey = none) :
    EndsLatest ((runFrom env clock events).clock + elapsed) (runFrom env clock events).store
      (afterAlert env clock events elapsed command)
      (computeFingerprint env.sha256 command.source command.labels) := by
  have before := run_triagingFires env clock events
  have after := run_triagingFires env clock
    (events ++ [{ elapsed, command := .alertReceived command }])
  obtain ⟨r, s', done⟩ := processAlertResolved_succeeds ((runFrom env clock events).clock + elapsed)
    (computeFingerprint env.sha256 command.source command.labels) fresh unnamed
  have handled : handleAlertReceived env ((runFrom env clock events).clock + elapsed)
      (runFrom env clock events).store command = .ok (r, s') := by
    unfold handleAlertReceived processAlertReceived
    rw [fresh]
    simp only [if_pos resolved]
    exact done
  have next : afterAlert env clock events elapsed command = s' := by
    unfold afterAlert runFrom
    rw [Machine.run_append]
    show committed (runFrom env clock events).store (handleAlertReceived env
      ((runFrom env clock events).clock + elapsed) (runFrom env clock events).store command) = s'
    rw [handled]
    rfl
  rw [next]
  rw [show (runFrom env clock (events ++ [{ elapsed, command := .alertReceived command }])).store =
    s' from next] at after
  exact (processAlertResolved_cases done).endsLatest unnamed before after

/-- A notification of a source that does not identify its alerts, with the key derived
for it. -/
def unnamedAlert (status : AlertStatus) (now : Time) : AlertReceivedCommand :=
  { idempotencyKey := (deriveAlertIdempotencyKey id .generic none [("status", .str status.value)]
      status defaultDebounceSeconds now).getD ""
    source := .generic
    labels := [("service", "payments"), ("environment", "production")]
    severity := .critical
    status }

/-- The condition is reported again two minutes later, in another debounce bucket. -/
def reportedTwice : List Event :=
  [{ elapsed := 0, command := .alertReceived (unnamedAlert .firing 0) },
   { elapsed := 120 * 1000000, command := .alertReceived (unnamedAlert .firing (120 * 1000000)) }]

theorem resolution_ends_latest_payments :
    EndsLatest ((runFrom paymentsEnv 0 reportedTwice).clock + (10 * 1000000 : Nat))
      (runFrom paymentsEnv 0 reportedTwice).store
      (afterAlert paymentsEnv 0 reportedTwice (10 * 1000000)
        (unnamedAlert .resolved (130 * 1000000)))
      (computeFingerprint paymentsEnv.sha256 .generic
        (unnamedAlert .resolved (130 * 1000000)).labels) :=
  resolution_ends_latest paymentsEnv 0 reportedTwice (10 * 1000000)
    (unnamedAlert .resolved (130 * 1000000)) rfl rfl (by decide +kernel)

/-- An alert command without an external id. -/
def IsUnnamed (e : Event) : Prop :=
  ∃ command, e.command = .alertReceived command ∧ command.externalId = none

/-- The alert of the first report fires on. -/
theorem not_condition_over :
    ¬ ∀ (env : Env) (clock : Time) (events : List Event), (∀ e ∈ events, IsUnnamed e) →
      ∀ (elapsed : Nat) (command : AlertReceivedCommand), command.status = .resolved →
        command.externalId = none →
        getProcessedCommand (runFrom env clock events).store command.idempotencyKey = none →
        ConditionOver (afterAlert env clock events elapsed command)
          (computeFingerprint env.sha256 command.source command.labels) := by
  intro ends
  have unnamed : ∀ e ∈ reportedTwice, IsUnnamed e := by
    intro e member
    rcases List.mem_cons.mp member with rfl | rest
    · exact ⟨_, rfl, rfl⟩
    · cases List.mem_singleton.mp rest
      exact ⟨_, rfl, rfl⟩
  have still : (afterAlert paymentsEnv 0 reportedTwice (10 * 1000000)
      (unnamedAlert .resolved (130 * 1000000))).alert.alerts[0]?.any
        (firesOpen (afterAlert paymentsEnv 0 reportedTwice (10 * 1000000)
          (unnamedAlert .resolved (130 * 1000000)))
          (computeFingerprint paymentsEnv.sha256 .generic
            (unnamedAlert .resolved (130 * 1000000)).labels)) = true := by
    decide +kernel
  obtain ⟨alert, row, fires⟩ := (Option.any_eq_true _ _).mp still
  exact ends paymentsEnv 0 reportedTwice unnamed (10 * 1000000)
    (unnamedAlert .resolved (130 * 1000000)) rfl rfl (by decide +kernel) 0 ⟨alert, row, fires⟩

end IncidentTriage.Verified
