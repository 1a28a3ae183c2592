import IncidentTriage.Incident.Service

/-! # What an alert transaction can do

`AlertEffect received now s s'` lists what a committed alert or evidence command does to
the incidents, the alerts and the evidence references; `received` is the status of the
notification, if the command is one.  `AlertStep` adds that the tables of the other
services stay as they were.
-/

namespace IncidentTriage.Verified

open IncidentTriage.Python IncidentTriage.Domain IncidentTriage.Incident

/-- The incidents after a guarded move: nothing happens elsewhere. -/
def movedIf (incidents : List IncidentRow) (now : Time) (i : Uuid) (incident : IncidentRow)
    (fromStatuses : List IncidentStatus) (toStatus : IncidentStatus) : List IncidentRow :=
  if incident.status ∈ fromStatuses then incidents.set i (incident.moved now toStatus)
  else incidents

/-- The alert once its firing episode ended. -/
def endedAlert (alert : AlertRow) (now : Time) : AlertRow :=
  { alert with status := .resolved, resolvedAt := some now }

inductive AlertEffect (received : Option AlertStatus) (now : Time) (s s' : Store) : Prop
  /-- Nothing but the ledger and the outbox. -/
  | replayed
      (incidents : s'.incidents = s.incidents)
      (alerts : s'.alert.alerts = s.alert.alerts)
      (evidenceRefs : s'.alert.evidenceRefs = s.alert.evidenceRefs)
  /-- A resolved notification whose firing episode was never seen. -/
  | unmatched (row : AlertRow) (unlinked : row.incidentId = none)
      (incidents : s'.incidents = s.incidents)
      (alerts : s'.alert.alerts = s.alert.alerts ++ [row])
      (evidenceRefs : s'.alert.evidenceRefs = s.alert.evidenceRefs)
  /-- A firing alert joins an open incident. -/
  | linked (i : Uuid) (incident : IncidentRow) (touchedAt : Time) (row : AlertRow)
      (found : s.incidents[i]? = some incident) (isOpen : isClosed incident.status = false)
      (link : row.incidentId = some i) (firing : row.status = .firing)
      (incidents : s'.incidents = s.incidents.set i { incident with updatedAt := touchedAt })
      (alerts : s'.alert.alerts = s.alert.alerts ++ [row])
      (evidenceRefs : s'.alert.evidenceRefs = s.alert.evidenceRefs)
  /-- A firing alert opens an incident. -/
  | opened (key : String) (severity : AlertSeverity) (service environment : String)
      (row : AlertRow) (link : row.incidentId = some s.incidents.length)
      (firing : row.status = .firing)
      (incidents : s'.incidents =
        s.incidents ++ [newIncident now key severity service environment])
      (alerts : s'.alert.alerts = s.alert.alerts ++ [row])
      (evidenceRefs : s'.alert.evidenceRefs = s.alert.evidenceRefs)
  /-- The last firing alert of a `TRIAGING` incident stops firing: cancelled. -/
  | cancelled (k : Uuid) (alert : AlertRow) (i : Uuid) (incident : IncidentRow)
      (row : s.alert.alerts[k]? = some alert) (link : alert.incidentId = some i)
      (firing : alert.status = .firing) (found : s.incidents[i]? = some incident)
      (silent : (s.alert.alerts.set k (endedAlert alert now)).countP (isFiringAlertOf i) = 0)
      (triaging : incident.status = .triaging)
      (incidents : s'.incidents = s.incidents.set i (incident.moved now .cancelled true))
      (alerts : s'.alert.alerts = s.alert.alerts.set k (endedAlert alert now))
      (evidenceRefs : s'.alert.evidenceRefs = s.alert.evidenceRefs)
      (resolution : received = some .resolved)
  /-- An alert stops firing and its incident is left alone. -/
  | resolved (k : Uuid) (alert : AlertRow) (i : Uuid) (incident : IncidentRow)
      (row : s.alert.alerts[k]? = some alert) (link : alert.incidentId = some i)
      (firing : alert.status = .firing) (found : s.incidents[i]? = some incident)
      (moves : ¬ ((s.alert.alerts.set k (endedAlert alert now)).countP (isFiringAlertOf i) = 0 ∧
        incident.status = .triaging))
      (incidents : s'.incidents = s.incidents)
      (alerts : s'.alert.alerts = s.alert.alerts.set k (endedAlert alert now))
      (evidenceRefs : s'.alert.evidenceRefs = s.alert.evidenceRefs)
      (resolution : received = some .resolved)
  /-- A new evidence reference. -/
  | registered (row : EvidenceRefRow) (fresh : ∀ e ∈ s.alert.evidenceRefs, e.id ≠ row.id)
      (known : row.incidentId < s.incidents.length)
      (incidents : s'.incidents = s.incidents)
      (alerts : s'.alert.alerts = s.alert.alerts)
      (evidenceRefs : s'.alert.evidenceRefs = s.alert.evidenceRefs ++ [row])

structure AlertStep (received : Option AlertStatus) (now : Time) (s s' : Store) : Prop where
  effect : AlertEffect received now s s'
  investigation : s'.investigation = s.investigation
  remediation : s'.remediation = s.remediation
  verification : s'.verification = s.verification

/-! ## The commands -/

theorem finalizeCommand_eq_ok {s s' : Store} {command : AlertReceivedCommand}
    {result r : AlertReceivedResult} (done : finalizeCommand s command result = .ok (r, s')) :
    ∃ processed, s' = { s with alert := { s.alert with processedCommands := processed } } := by
  unfold finalizeCommand insertProcessedCommand at done
  split at done
  · rename_i inserted
    split at inserted
    · cases inserted
    · cases inserted
      cases done
      exact ⟨_, rfl⟩
  · cases done

theorem alertStatus_firing {status : AlertStatus} (unresolved : status ≠ .resolved) :
    status = .firing := by
  cases status with
  | firing => rfl
  | resolved => exact absurd rfl unresolved

theorem findExternal_row {s : Store} {source : AlertSource} {externalId : String} {k : Uuid}
    {alert : AlertRow} (matched : findExternal s source externalId = some (k, alert)) :
    s.alert.alerts[k]? = some alert :=
  (Table.first_some matched).1

theorem findAlertToResolve_row {s : Store} {command : AlertReceivedCommand} {fingerprint : String}
    {k : Uuid} {alert : AlertRow}
    (matched : findAlertToResolve s command fingerprint = some (k, alert)) :
    s.alert.alerts[k]? = some alert := by
  unfold findAlertToResolve at matched
  split at matched
  · exact findExternal_row matched
  · exact (Table.mem_select.mp (List.mem_of_find?_eq_some matched)).1

theorem AlertStep.of_processAlertResolved {now : Time} {s s' : Store}
    {command : AlertReceivedCommand} {fingerprint : String} {r : AlertReceivedResult}
    (done : processAlertResolved now s command fingerprint = .ok (r, s')) :
    AlertStep (some .resolved) now s s' := by
  unfold processAlertResolved at done
  split at done
  · obtain ⟨processed, rfl⟩ := finalizeCommand_eq_ok done
    exact ⟨.unmatched _ rfl rfl rfl rfl, rfl, rfl, rfl⟩
  · rename_i k alert matched
    have row := findAlertToResolve_row matched
    split_ifs at done with already
    · obtain ⟨processed, rfl⟩ := finalizeCommand_eq_ok done
      exact ⟨.replayed rfl rfl rfl, rfl, rfl, rfl⟩
    · simp only [bind_eq_ok, found_eq_ok] at done
      obtain ⟨i, link, incident, found, done⟩ := done
      have firing := alertStatus_firing already
      replace found : s.incidents[i]? = some incident := found
      split_ifs at done with silent
      · simp only [bind_eq_ok, found_eq_ok] at done
        obtain ⟨⟨moved, s₁⟩, transitioned, done⟩ := done
        cases eq_of_transitionIncidentStatus transitioned found
        obtain ⟨processed, rfl⟩ := finalizeCommand_eq_ok done
        exact ⟨.cancelled k alert i incident row link firing found silent.1 silent.2 rfl rfl rfl
          rfl, rfl, rfl, rfl⟩
      · obtain ⟨processed, rfl⟩ := finalizeCommand_eq_ok done
        exact ⟨.resolved k alert i incident row link firing found silent rfl rfl rfl rfl,
          rfl, rfl, rfl⟩

theorem insertAlertOrGetExisting_cases {now : Time} {s s' : Store}
    {command : AlertReceivedCommand} {fingerprint : String} {k : Uuid} {alert : AlertRow}
    {existed : Bool}
    (inserted : insertAlertOrGetExisting s now command fingerprint = ((k, alert), existed, s')) :
    (existed = true ∧ s' = s) ∨
      (existed = false ∧ k = s.alert.alerts.length ∧
        alert = newAlert command fingerprint now command.status none ∧
        s' = insertAlert s alert) := by
  unfold insertAlertOrGetExisting at inserted
  cases external : command.externalId with
  | none =>
    simp only [external] at inserted
    cases inserted
    exact .inr ⟨rfl, rfl, rfl, rfl⟩
  | some externalId =>
    simp only [external] at inserted
    split at inserted <;> cases inserted
    · exact .inl ⟨rfl, rfl⟩
    · exact .inr ⟨rfl, rfl, rfl, rfl⟩

/-- Where a new alert goes: an open incident that was there, or a new one. -/
theorem incidentForAlert_cases {env : Env} {now : Time} {s s' : Store}
    {command : AlertReceivedCommand} {alert : NewAlertContext}
    {i : Uuid} {incident : IncidentRow} {created : Bool}
    (chosen : incidentForAlert env now s command (env.correlationEngine.decide alert
      (findOpenIncidentCandidates s command.service command.environment now
        env.candidateLookbackSeconds)) = .ok ((i, incident), created, s')) :
    (∃ stored touchedAt, s.incidents[i]? = some stored ∧ isClosed stored.status = false ∧
      s' = putIncident s i { stored with updatedAt := touchedAt }) ∨
    (i = s.incidents.length ∧ ∃ key severity service environment,
      s' = { s with incidents :=
        s.incidents ++ [newIncident now key severity service environment] }) := by
  unfold incidentForAlert at chosen
  split at chosen
  · rename_i correlates
    simp only [bind_eq_ok, found_eq_ok, pure_eq_ok] at chosen
    obtain ⟨j, matched, stored, found, chosen⟩ := chosen
    cases chosen
    obtain ⟨candidate, member, named⟩ := CorrelationEngine.decide_correlate correlates
    obtain ⟨open_, row, isOpen⟩ := mem_findOpenIncidentCandidates member
    rw [matched] at named
    cases named
    rw [found] at row
    cases row
    exact .inl ⟨stored, now, found, isOpen, rfl⟩
  · simp only [Except.ok.injEq] at chosen
    unfold getOrCreateOpenIncident at chosen
    split at chosen
    · rename_i existing selected
      cases chosen
      obtain ⟨row, open_⟩ := Table.first_some selected
      have isOpen : isClosed incident.status = false := by
        simpa using (Bool.and_eq_true_iff.mp open_).2
      refine .inl ⟨incident, incident.updatedAt, row, isOpen, ?_⟩
      have same : s.incidents.set i incident = s.incidents := Table.set_same row
      simp [putIncident, same]
    · cases chosen
      exact .inr ⟨rfl, _, _, _, _, rfl⟩

theorem AlertStep.of_handleAlertReceived {env : Env} {now : Time} {s s' : Store}
    {command : AlertReceivedCommand} {r : AlertReceivedResult}
    (done : handleAlertReceived env now s command = .ok (r, s')) :
    AlertStep (some command.status) now s s' := by
  unfold handleAlertReceived at done
  split at done
  · cases done
    exact ⟨.replayed rfl rfl rfl, rfl, rfl, rfl⟩
  · unfold processAlertReceived at done
    split_ifs at done with resolution
    · rw [resolution]
      exact .of_processAlertResolved done
    · obtain ⟨⟨⟨k, alert⟩, existed, s₁⟩, inserted⟩ :
          ∃ x, x = insertAlertOrGetExisting s now command
            (computeFingerprint env.sha256 command.source command.labels) := ⟨_, rfl⟩
      rw [← inserted] at done
      have firing : command.status = .firing := alertStatus_firing resolution
      rcases insertAlertOrGetExisting_cases inserted.symm with
        ⟨rfl, rfl⟩ | ⟨rfl, rfl, rfl, rfl⟩
      · obtain ⟨processed, rfl⟩ := finalizeCommand_eq_ok done
        exact ⟨.replayed rfl rfl rfl, rfl, rfl, rfl⟩
      · simp only [Bool.false_eq_true, if_false, bind_eq_ok] at done
        obtain ⟨⟨⟨i, incident⟩, created, s₂⟩, chosen, done⟩ := done
        obtain ⟨processed, rfl⟩ := finalizeCommand_eq_ok done
        rcases incidentForAlert_cases chosen with
          ⟨stored, touchedAt, found, isOpen, rfl⟩ | ⟨rfl, key, severity, service, environment, rfl⟩
        · exact ⟨.linked i stored touchedAt _ found isOpen rfl firing rfl (Table.set_new _ _ _) rfl,
            rfl, rfl, rfl⟩
        · exact ⟨.opened key severity service environment _ rfl firing rfl
            (Table.set_new _ _ _) rfl, rfl, rfl, rfl⟩

theorem AlertStep.of_registerEvidenceRef {now : Time} {s s' : Store}
    {command : RegisterEvidenceRefCommand} {new : Bool}
    (done : registerEvidenceRef now s command = .ok (new, s')) : AlertStep none now s s' := by
  simp only [registerEvidenceRef, bind_eq_ok, found_eq_ok] at done
  obtain ⟨incident, found, done⟩ := done
  split at done
  · split_ifs at done
    cases done
    exact ⟨.replayed rfl rfl rfl, rfl, rfl, rfl⟩
  · rename_i missing
    cases done
    refine ⟨.registered _ ?_ (Table.lt_of_row found) rfl rfl rfl, rfl, rfl, rfl⟩
    intro e member same
    have absent := List.find?_eq_none.mp missing e member
    simp [same] at absent

end IncidentTriage.Verified
