import IncidentTriage.Verified.Deliveries

/-! # Concurrent deliveries and the order of their commits

`handleAlertReceived` is a plan, made of everything it reads, and the write of that plan.
A delivery makes its plan read by read; `Reads` says that what it has read so far is what
it would read now.  As long as nobody changes what another delivery has read, a commit
therefore writes what `handleAlertReceived` would write at that moment.
-/

namespace IncidentTriage.Verified

open IncidentTriage.Python IncidentTriage.Domain IncidentTriage.Incident

/-! ## A delivery in one go -/

theorem markAlertResolved_of_row {s : Store} {now : Time} {a : Uuid} {alert : AlertRow}
    (row : s.alert.alerts[a]? = some alert) :
    markAlertResolved s now a = putAlert s a (alert.ended now) := by
  simp [markAlertResolved, row]

theorem incidents_putAlert (s : Store) (a : Uuid) (row : AlertRow) :
    (putAlert s a row).incidents = s.incidents := rfl

theorem incidentStatusOf_eq {s : Store} {i : Uuid} {incident : IncidentRow}
    (there : s.incidents[i]? = some incident) :
    incidentStatusOf s (some i) = some incident.status := by
  simp [incidentStatusOf, there]

theorem finalizeCommand_fresh (s : Store) {command : AlertReceivedCommand}
    (fresh : getProcessedCommand s command.idempotencyKey = none) (result : AlertReceivedResult) :
    finalizeCommand s command result = .ok (result, recorded s command result) := by
  simp [finalizeCommand, insertProcessedCommand, fresh, recorded]

section
variable {now : Time} {s s' : Store} {command : AlertReceivedCommand} {fingerprint : String}
  {a i : Uuid} {alert : AlertRow} {incident : IncidentRow} {result : AlertReceivedResult}

/-- The alert that ends, and what is published about it. -/
def withEnded (now : Time) (s : Store) (a i : Uuid) (alert : AlertRow) : Store :=
  let s := putAlert s a (alert.ended now)
  insertOutboxEvent s now .alert a (some i) (.alertResolved a i (countFiringAlerts s i))

/-- The incident that is cancelled with it. -/
def withCancelled (now : Time) (s : Store) (i : Uuid) (incident : IncidentRow) : Store :=
  let moved := incident.moved now .cancelled true
  insertOutboxEvent (putIncident s i moved) now .incident i (some i)
    (.incidentStatusChanged i incident.status moved.status "all_linked_alerts_resolved"
      moved.version)

theorem transition_there (there : s.incidents[i]? = some incident) (row : AlertRow)
    (payload : OutboxPayload) :
    transitionIncidentStatus (insertOutboxEvent (putAlert s a row) now .alert a (some i) payload)
        now i incident .cancelled true =
      some (incident.moved now .cancelled true,
        putIncident (insertOutboxEvent (putAlert s a row) now .alert a (some i) payload) i
          (incident.moved now .cancelled true)) :=
  transitionIncidentStatus_of_read there

theorem processAlertResolved_of_firing
    (matched : findAlertToResolve s command fingerprint = some (a, alert))
    (fires : alert.status = .firing) (link : alert.incidentId = some i)
    (there : s.incidents[i]? = some incident) :
    processAlertResolved now s command fingerprint =
      if countFiringAlerts (putAlert s a (alert.ended now)) i = 0 ∧
          incident.status = .triaging then
        finishResolution (withCancelled now (withEnded now s a i alert) i incident) command a
          (alert.ended now)
      else finishResolution (withEnded now s a i alert) command a (alert.ended now) := by
  unfold processAlertResolved
  rw [matched]
  obtain ⟨externalId, source, fingerprint, labels, severity, status, receivedAt, resolvedAt,
    incidentId⟩ := alert
  cases fires
  cases link
  simp only [reduceCtorEq, if_false, found, bind, Except.bind, incidents_putAlert, there]
  rw [transition_there there]
  rfl

theorem resolveAlert_of_firing (row : s.alert.alerts[a]? = some alert)
    (there : s.incidents[i]? = some incident) :
    resolveAlert now s a i incident (countFiringAlerts (markAlertResolved s now a) i) =
      .ok (if countFiringAlerts (putAlert s a (alert.ended now)) i = 0 ∧
          incident.status = .triaging then
        ({ alertId := a, incidentId := some i, incidentCreated := false
           incidentStatus := some .cancelled },
          withCancelled now (withEnded now s a i alert) i incident)
      else
        ({ alertId := a, incidentId := some i, incidentCreated := false
           incidentStatus := some incident.status }, withEnded now s a i alert)) := by
  unfold resolveAlert
  rw [markAlertResolved_of_row row]
  simp only
  rw [transition_there there]
  split_ifs <;> rfl

theorem processAlertResolved_ends
    (fresh : getProcessedCommand s command.idempotencyKey = none)
    (matched : findAlertToResolve s command fingerprint = some (a, alert))
    (fires : alert.status = .firing) (link : alert.incidentId = some i)
    (there : s.incidents[i]? = some incident)
    (written : resolveAlert now s a i incident
      (countFiringAlerts (markAlertResolved s now a) i) = .ok (result, s')) :
    processAlertResolved now s command fingerprint = .ok (result, recorded s' command result) := by
  rw [resolveAlert_of_firing (findAlertToResolve_row matched) there] at written
  rw [processAlertResolved_of_firing matched fires link there]
  have linked : (alert.ended now).incidentId = some i := link
  unfold finishResolution
  rw [linked]
  split_ifs at written ⊢ with last
  · cases written
    have cancelled : incidentStatusOf (withCancelled now (withEnded now s a i alert) i incident)
        (some i) = some .cancelled := by
      have moved : ((withEnded now s a i alert).incidents.set i
          (incident.moved now .cancelled true))[i]? = some (incident.moved now .cancelled true) :=
        (Table.get_put there).mpr (.inl ⟨rfl, rfl⟩)
      exact incidentStatusOf_eq (s := withCancelled now (withEnded now s a i alert) i incident) moved
    rw [cancelled]
    exact finalizeCommand_fresh (withCancelled now (withEnded now s a i alert) i incident) fresh _
  · cases written
    have same : incidentStatusOf (withEnded now s a i alert) (some i) = some incident.status :=
      incidentStatusOf_eq there
    rw [same]
    exact finalizeCommand_fresh (withEnded now s a i alert) fresh _

theorem finalizeCommand_recorded {r : AlertReceivedResult}
    (done : finalizeCommand s command result = .ok (r, s')) : s' = recorded s command r := by
  unfold finalizeCommand insertProcessedCommand at done
  split at done
  · rename_i inserted
    split at inserted
    · cases inserted
    · cases inserted
      cases done
      rfl
  · cases done

/-- What a resolved notification does when it is processed. -/
inductive ResolvedNotification (now : Time) (s : Store) (command : AlertReceivedCommand)
    (fingerprint : String) (r : AlertReceivedResult) : Store → Prop
  /-- Nothing fires that it could end. -/
  | unmatched (missing : findAlertToResolve s command fingerprint = none) :
      ResolvedNotification now s command fingerprint r
        (recorded (insertAlert s (newAlert command fingerprint now .resolved (some now))) command r)
  | repeated {a : Uuid} {alert : AlertRow}
      (matched : findAlertToResolve s command fingerprint = some (a, alert))
      (ended : alert.status = .resolved) :
      ResolvedNotification now s command fingerprint r (recorded s command r)
  | ends {a i : Uuid} {alert : AlertRow} {incident : IncidentRow}
      (matched : findAlertToResolve s command fingerprint = some (a, alert))
      (fires : alert.status = .firing) (link : alert.incidentId = some i)
      (there : s.incidents[i]? = some incident)
      (goesOn : ¬ (countFiringAlerts (putAlert s a (alert.ended now)) i = 0 ∧
        incident.status = .triaging)) :
      ResolvedNotification now s command fingerprint r
        (recorded (withEnded now s a i alert) command r)
  | cancels {a i : Uuid} {alert : AlertRow} {incident : IncidentRow}
      (matched : findAlertToResolve s command fingerprint = some (a, alert))
      (fires : alert.status = .firing) (link : alert.incidentId = some i)
      (there : s.incidents[i]? = some incident)
      (silent : countFiringAlerts (putAlert s a (alert.ended now)) i = 0)
      (triaging : incident.status = .triaging) :
      ResolvedNotification now s command fingerprint r
        (recorded (withCancelled now (withEnded now s a i alert) i incident) command r)

theorem processAlertResolved_cases {r : AlertReceivedResult}
    (done : processAlertResolved now s command fingerprint = .ok (r, s')) :
    ResolvedNotification now s command fingerprint r s' := by
  cases matched : findAlertToResolve s command fingerprint with
  | none =>
    unfold processAlertResolved at done
    rw [matched] at done
    cases finalizeCommand_recorded done
    exact .unmatched matched
  | some known =>
    obtain ⟨a, alert⟩ := known
    by_cases ended : alert.status = .resolved
    · unfold processAlertResolved at done
      simp only [matched] at done
      rw [if_pos ended] at done
      cases finalizeCommand_recorded done
      exact .repeated matched ended
    · have fires := alertStatus_firing ended
      obtain ⟨i, link, incident, there⟩ : ∃ i, alert.incidentId = some i ∧
          ∃ incident, s.incidents[i]? = some incident := by
        unfold processAlertResolved at done
        simp only [matched] at done
        rw [if_neg ended] at done
        simp only [bind_eq_ok, found_eq_ok] at done
        obtain ⟨i, link, incident, there, _⟩ := done
        exact ⟨i, link, incident, there⟩
      rw [processAlertResolved_of_firing matched fires link there] at done
      split_ifs at done with last
      · cases finalizeCommand_recorded done
        exact .cancels matched fires link there last.1 last.2
      · cases finalizeCommand_recorded done
        exact .ends matched fires link there last

end

theorem insertAlertOrGetExisting_of_none {s : Store} {now : Time} {command : AlertReceivedCommand}
    {fingerprint : String} (missing : existingAlert s command = none) :
    insertAlertOrGetExisting s now command fingerprint =
      ((s.alert.alerts.length, newAlert command fingerprint now command.status none), false,
        insertAlert s (newAlert command fingerprint now command.status none)) := by
  unfold insertAlertOrGetExisting
  cases external : command.externalId with
  | none => rfl
  | some externalId =>
    have absent : findExternal s command.source externalId = none := by
      simpa [existingAlert, external] using missing
    simp only [absent]

theorem insertAlertOrGetExisting_of_some {s : Store} {now : Time} {command : AlertReceivedCommand}
    {fingerprint : String} {a : Uuid} {alert : AlertRow}
    (existing : existingAlert s command = some (a, alert)) :
    insertAlertOrGetExisting s now command fingerprint = ((a, alert), true, s) := by
  unfold insertAlertOrGetExisting
  cases external : command.externalId with
  | none => simp [existingAlert, external] at existing
  | some externalId =>
    have there : findExternal s command.source externalId = some (a, alert) := by
      simpa [existingAlert, external] using existing
    simp only [there]

/-! ## What a delivery has read -/

/-- The alert that a notification is about is there already, and stays as it is. -/
def Known (s : Store) (command : AlertReceivedCommand) (a : Uuid) (i : Option Uuid) : Prop :=
  ∃ alert, existingAlert s command = some (a, alert) ∧ alert.incidentId = i ∧
    (command.status = .resolved → alert.status = .resolved)

/-- The alert that a resolved notification ends. -/
def Ending (env : Env) (s : Store) (d : Delivery) (a : Uuid) (alert : AlertRow) : Prop :=
  d.command.status = .resolved ∧
    findAlertToResolve s d.command (d.fingerprint env) = some (a, alert) ∧ alert.status = .firing

/-- The same, with its incident. -/
def EndingOf (env : Env) (s : Store) (d : Delivery) (a i : Uuid) (incident : IncidentRow) : Prop :=
  ∃ alert, Ending env s d a alert ∧ alert.incidentId = some i ∧ s.incidents[i]? = some incident

/-- A new alert that fires, and what correlation says of it. -/
def CorrelatedNow (env : Env) (s : Store) (d : Delivery) (decision : CorrelationDecision) : Prop :=
  d.command.status = .firing ∧ existingAlert s d.command = none ∧
    decision = correlationDecision env d.now s d.command (d.fingerprint env)

/-- The incident that a new alert joins, or that there is none. -/
def Chosen (env : Env) (s : Store) (d : Delivery) (decision : CorrelationDecision) :
    Option (Uuid × IncidentRow) → Prop
  | some (i, incident) => s.incidents[i]? = some incident ∧
      ((decision.decision = .correlate ∧ decision.matchedIncidentId = some i) ∨
       (decision.decision = .newIncident ∧
        selectOpenIncident s (bucketKey env d.now decision) = some (i, incident)))
  | none => decision.decision = .newIncident ∧
      selectOpenIncident s (bucketKey env d.now decision) = none

/-- What a delivery has read so far is what it would read now. -/
def Reads (env : Env) (s : Store) (d : Delivery) : Prop :=
  match d.phase with
  | .begun | .locked | .answered _ | .failed => True
  | .known a i => Known s d.command a i
  | .inserted => d.command.status = .firing ∧ existingAlert s d.command = none
  | .decided decision => CorrelatedNow env s d decision
  -- under an external id, the insert looks again
  | .missed => d.command.status = .resolved ∧ (d.command.externalId = none →
      findAlertToResolve s d.command (d.fingerprint env) = none)
  | .found a alert | .marked a alert => Ending env s d a alert
  | .sawIncident a i incident => EndingOf env s d a i incident
  | .ready (.replay a i _) => Known s d.command a i
  | .ready .unmatched => d.command.status = .resolved ∧
      findAlertToResolve s d.command (d.fingerprint env) = none
  | .ready (.resolve a i incident remaining) => EndingOf env s d a i incident ∧
      remaining = countFiringAlerts (markAlertResolved s d.now a) i
  | .ready (.link decision chosen) => CorrelatedNow env s d decision ∧ Chosen env s d decision chosen

theorem findAlertToResolve_of_external {s : Store} {command : AlertReceivedCommand}
    (fingerprint : String) (external : command.externalId.isSome = true) :
    findAlertToResolve s command fingerprint = existingAlert s command := by
  obtain ⟨externalId, named⟩ := Option.isSome_iff_exists.mp external
  simp [findAlertToResolve, existingAlert, named]

/-- An alert found by its fingerprint fires. -/
theorem findAlertToResolve_firing {s : Store} {command : AlertReceivedCommand}
    {fingerprint : String} {a : Uuid} {alert : AlertRow} (unnamed : command.externalId = none)
    (matched : findAlertToResolve s command fingerprint = some (a, alert)) :
    alert.status = .firing := by
  simp only [findAlertToResolve, unnamed] at matched
  have chosen := (Table.mem_select.mp (List.mem_of_find?_eq_some matched)).2
  simp only [Bool.and_eq_true, beq_iff_eq] at chosen
  exact chosen.1.2

theorem PhaseRead.reads {env : Env} {x : Exchange} {k : Nat} {d : Delivery}
    {phase : DeliveryPhase} (read : PhaseRead env x k d d.phase phase)
    (reads : Reads env x.store d) : Reads env x.store { d with phase } := by
  obtain ⟨command, now, before⟩ := d
  cases read with
  | waits => exact reads
  | refused => trivial
  | locks => trivial
  | misses resolved missing => exact ⟨resolved, fun _ => missing⟩
  | findsEnded resolved a alert matched ended =>
    have external : command.externalId.isSome = true := by
      cases named : command.externalId with
      | some externalId => rfl
      | none => rw [findAlertToResolve_firing named matched] at ended; cases ended
    rw [findAlertToResolve_of_external _ external] at matched
    exact ⟨alert, matched, rfl, fun _ => ended⟩
  | finds resolved a alert matched fires => exact ⟨resolved, matched, fires⟩
  | findsExisting fires a alert existing =>
    refine ⟨alert, existing, rfl, fun resolved => ?_⟩
    rw [fires] at resolved
    cases resolved
  | inserts fires free missing => exact ⟨fires, missing⟩
  | replays a i => exact reads
  | decides => exact ⟨reads.1, reads.2, rfl⟩
  | joins decision i incident correlates named there =>
    exact ⟨reads, there, .inl ⟨correlates, named⟩⟩
  | shares decision i incident isNew selected =>
    exact ⟨reads, (Table.first_some selected).1, .inr ⟨isNew, selected⟩⟩
  | opens decision isNew missing free => exact ⟨reads, isNew, missing⟩
  | unmatched free missing =>
    refine ⟨reads.1, ?_⟩
    cases named : command.externalId with
    | none => exact reads.2 named
    | some externalId => rw [findAlertToResolve_of_external _ (by simp [named])]; exact missing
  | marks a alert => exact reads
  | sees a alert i incident link there => exact ⟨alert, reads, link, there⟩
  | counts a i incident => exact ⟨reads, rfl⟩

/-! ## What a commit writes -/

section
variable {env : Env} {now : Time} {s s' : Store} {command : AlertReceivedCommand}
  {fingerprint : String} {result : AlertReceivedResult}

theorem process_known {a : Uuid} {i : Option Uuid}
    (fresh : getProcessedCommand s command.idempotencyKey = none) (known : Known s command a i) :
    ∃ result', processAlertReceived env now s command fingerprint =
      .ok (result', recorded s command result') := by
  obtain ⟨alert, existing, rfl, ended⟩ := known
  unfold processAlertReceived
  by_cases resolved : command.status = .resolved
  · have external : command.externalId.isSome = true := by
      cases named : command.externalId with
      | some externalId => rfl
      | none => simp [existingAlert, named] at existing
    rw [if_pos resolved, processAlertResolved, findAlertToResolve_of_external _ external, existing]
    simp only
    rw [if_pos (ended resolved)]
    exact ⟨_, finalizeCommand_fresh s fresh _⟩
  · rw [if_neg resolved, insertAlertOrGetExisting_of_some existing]
    exact ⟨_, finalizeCommand_fresh s fresh _⟩

theorem process_unmatched (fresh : getProcessedCommand s command.idempotencyKey = none)
    (resolved : command.status = .resolved)
    (missing : findAlertToResolve s command fingerprint = none)
    (written : writePlan env now s command fingerprint .unmatched = .ok (result, s')) :
    processAlertReceived env now s command fingerprint =
      .ok (result, recorded s' command result) := by
  cases written
  unfold processAlertReceived
  rw [if_pos resolved, processAlertResolved, missing]
  exact finalizeCommand_fresh
    (insertAlert s (newAlert command fingerprint now .resolved (some now))) fresh _

/-- An alert that is not linked yet is no part of the candidates. -/
theorem findOpenIncidentCandidates_insertAlert {row : AlertRow} (unlinked : row.incidentId = none)
    (service environment : String) (lookback : Nat) :
    findOpenIncidentCandidates (insertAlert s row) service environment now lookback =
      findOpenIncidentCandidates s service environment now lookback := by
  unfold findOpenIncidentCandidates
  simp only [insertAlert, List.filter_append, List.filter_cons, unlinked]
  simp

theorem putAlert_new (row row' : AlertRow) :
    putAlert (insertAlert s row) s.alert.alerts.length row' = insertAlert s row' := by
  simp [putAlert, insertAlert]

theorem incidentForAlert_correlates (env : Env) (now : Time) (command : AlertReceivedCommand)
    {decision : CorrelationDecision} {i : Uuid} {incident : IncidentRow} (correlates : decision.decision = .correlate)
    (named : decision.matchedIncidentId = some i) (there : s.incidents[i]? = some incident) :
    incidentForAlert env now s command decision =
      .ok ((i, touched now incident), false, touchIncident s now i) := by
  have touches : touchIncident s now i = putIncident s i (touched now incident) := by
    simp [touchIncident, there, touched]
  unfold incidentForAlert
  rw [correlates, touches]
  simp only [named, found, bind, Except.bind, there]
  rfl

theorem incidentForAlert_new (env : Env) (now : Time) (s : Store)
    (command : AlertReceivedCommand) {decision : CorrelationDecision}
    (isNew : decision.decision = .newIncident) :
    incidentForAlert env now s command decision =
      .ok (getOrCreateOpenIncident s now (bucketKey env now decision) command.severity
        command.service command.environment) := by
  unfold incidentForAlert
  rw [isNew]
  rfl

/-- The choice of an incident has nothing to do with the alerts. -/
theorem incidentForAlert_insertAlert {decision : CorrelationDecision} {i : Uuid}
    {incident : IncidentRow} {created : Bool} {s₁ : Store}
    (chosen : incidentForAlert env now s command decision = .ok ((i, incident), created, s₁))
    (row : AlertRow) :
    incidentForAlert env now (insertAlert s row) command decision =
      .ok ((i, incident), created, insertAlert s₁ row) ∧ s₁.alert = s.alert := by
  cases verdict : decision.decision with
  | correlate =>
    have there : ∃ j stored, decision.matchedIncidentId = some j ∧
        s.incidents[j]? = some stored := by
      unfold incidentForAlert at chosen
      rw [verdict] at chosen
      simp only [bind_eq_ok, found_eq_ok] at chosen
      obtain ⟨j, named, stored, there, _⟩ := chosen
      exact ⟨j, stored, named, there⟩
    obtain ⟨j, stored, named, there⟩ := there
    rw [incidentForAlert_correlates env now command verdict named there] at chosen
    rw [incidentForAlert_correlates (s := insertAlert s row) env now command verdict named there]
    cases chosen
    refine ⟨?_, alert_touchIncident s now i⟩
    have commute : touchIncident (insertAlert s row) now i =
        insertAlert (touchIncident s now i) row := by
      have there' : (insertAlert s row).incidents[i]? = some stored := there
      simp only [touchIncident, there, there']
      rfl
    rw [commute]
  | newIncident =>
    rw [incidentForAlert_new env now _ command verdict] at chosen ⊢
    unfold getOrCreateOpenIncident at chosen ⊢
    have same : selectOpenIncident (insertAlert s row) (bucketKey env now decision) =
        selectOpenIncident s (bucketKey env now decision) := rfl
    rw [same]
    cases selected : selectOpenIncident s (bucketKey env now decision) with
    | none =>
      rw [selected] at chosen
      cases chosen
      exact ⟨rfl, rfl⟩
    | some existing =>
      rw [selected] at chosen
      cases chosen
      exact ⟨rfl, rfl⟩

theorem process_linked {decision : CorrelationDecision}
    (fresh : getProcessedCommand s command.idempotencyKey = none)
    (fires : command.status = .firing) (missing : existingAlert s command = none)
    (decided : decision = correlationDecision env now s command fingerprint)
    {i : Uuid} {incident : IncidentRow} {created : Bool} {s₁ : Store}
    (chosen : incidentForAlert env now s command decision = .ok ((i, incident), created, s₁))
    (written : linkAlert now s₁ command fingerprint decision i incident created = (result, s')) :
    processAlertReceived env now s command fingerprint =
      .ok (result, recorded s' command result) := by
  have unresolved : ¬ command.status = .resolved := by rw [fires]; simp
  obtain ⟨late, alerts⟩ := incidentForAlert_insertAlert chosen
    (newAlert command fingerprint now command.status none)
  have length : s.alert.alerts.length = s₁.alert.alerts.length := by rw [alerts]
  have fresh₁ : getProcessedCommand s₁ command.idempotencyKey = none := by
    unfold getProcessedCommand
    rw [alerts]
    exact fresh
  unfold processAlertReceived
  rw [if_neg unresolved, insertAlertOrGetExisting_of_none missing]
  simp only [Bool.false_eq_true, if_false]
  rw [findOpenIncidentCandidates_insertAlert rfl]
  rw [show env.correlationEngine.decide _ _ = decision from decided.symm, late]
  simp only [bind, Except.bind]
  rw [length, putAlert_new]
  cases written
  exact finalizeCommand_fresh (linkAlert now s₁ command fingerprint decision i incident created).2
    fresh₁ _

end

/-- A commit writes what the whole command would write at this moment. -/
theorem handle_of_reads {env : Env} {s s' : Store} {d : Delivery} {plan : Plan}
    {result : AlertReceivedResult} (reads : Reads env s d) (ready : d.phase = .ready plan)
    (fresh : getProcessedCommand s d.command.idempotencyKey = none)
    (written : writePlan env d.now s d.command (d.fingerprint env) plan = .ok (result, s')) :
    ∃ result', handleAlertReceived env d.now s d.command =
      .ok (result', recorded s' d.command result') := by
  unfold handleAlertReceived
  simp only [fresh]
  obtain ⟨command, now, phase⟩ := d
  cases ready
  cases plan with
  | replay a i status =>
    cases written
    exact process_known fresh reads
  | unmatched => exact ⟨_, process_unmatched fresh reads.1 reads.2 written⟩
  | resolve a i incident remaining =>
    obtain ⟨⟨alert, ⟨resolved, matched, fires⟩, link, there⟩, counted⟩ := reads
    refine ⟨result, ?_⟩
    unfold processAlertReceived
    rw [if_pos resolved]
    rw [counted] at written
    exact processAlertResolved_ends fresh matched fires link there written
  | link decision chosen =>
    obtain ⟨⟨fires, missing, decided⟩, chosen'⟩ := reads
    cases chosen with
    | none =>
      obtain ⟨isNew, selected⟩ := chosen'
      have opened := incidentForAlert_new env now s command isNew
      unfold getOrCreateOpenIncident at opened
      simp only [selected] at opened
      exact ⟨_, process_linked fresh fires missing decided opened (Except.ok.inj written)⟩
    | some joined =>
      obtain ⟨i, incident⟩ := joined
      obtain ⟨there, ⟨correlates, named⟩ | ⟨isNew, selected⟩⟩ := chosen'
      · have joins := incidentForAlert_correlates env now command correlates named there
        simp only [writePlan, if_pos correlates] at written
        exact ⟨_, process_linked fresh fires missing decided joins (Except.ok.inj written)⟩
      · have joins := incidentForAlert_new env now s command isNew
        unfold getOrCreateOpenIncident at joins
        simp only [selected] at joins
        have unmatched : ¬ decision.decision = .correlate := by rw [isNew]; simp
        simp only [writePlan, if_neg unmatched] at written
        exact ⟨_, process_linked fresh fires missing decided joins (Except.ok.inj written)⟩

end IncidentTriage.Verified
