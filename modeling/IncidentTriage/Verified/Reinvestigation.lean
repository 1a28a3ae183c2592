import IncidentTriage.Verified.Lifecycle

/-! # Incidents whose verification failed

An incident is `VERIFICATION_FAILED` only with investigation attempts left, and with an
alert firing until a resolved notification ends the last one.  While one fires, the
scheduler lists the incident and a request for an investigation is accepted.
-/

namespace IncidentTriage.Verified

open IncidentTriage.Python IncidentTriage.Domain IncidentTriage.Incident

/-! ## Firing alerts -/

/-- Only a resolved notification ends a firing alert. -/
theorem AlertStep.firing_le {received : Option AlertStatus} {now : Time} {s s' : Store}
    (step : AlertStep received now s s') (other : received ≠ some .resolved) (i : Uuid) :
    countFiringAlerts s i ≤ countFiringAlerts s' i := by
  unfold countFiringAlerts
  cases step.effect with
  | replayed _ alerts => rw [alerts]
  | unmatched row _ _ alerts =>
    rw [alerts, List.countP_append]
    exact Nat.le_add_right _ _
  | linked _ _ _ row _ _ _ _ _ alerts =>
    rw [alerts, List.countP_append]
    exact Nat.le_add_right _ _
  | opened _ _ _ _ row _ _ _ alerts =>
    rw [alerts, List.countP_append]
    exact Nat.le_add_right _ _
  | cancelled _ _ _ _ _ _ _ _ _ _ _ _ _ resolution => exact absurd resolution other
  | resolved _ _ _ _ _ _ _ _ _ _ _ _ resolution => exact absurd resolution other
  | registered _ _ _ _ alerts => rw [alerts]

theorem Transaction.firing_le {env : Env} {now : Time} {tickets : List IssuedTicket}
    {c : Command} {s s' : Store} (transaction : Transaction env now tickets c s s')
    (other : receivedStatus c ≠ some .resolved) (i : Uuid) :
    countFiringAlerts s i ≤ countFiringAlerts s' i := by
  have same : s'.alert = s.alert → countFiringAlerts s i ≤ countFiringAlerts s' i := by
    intro alert
    rw [countFiringAlerts, countFiringAlerts, alert]
  cases transaction with
  | alert step => exact step.firing_le other i
  | investigation step => exact same step.alert
  | remediation step => exact same step.alert
  | verification step => exact same step.alert

/-! ## An incident left without a firing alert -/

/-- The incident is `VERIFICATION_FAILED` with this many alerts firing. -/
def FailedWith (i : Uuid) (firing : Nat) (s : Store) : Prop :=
  statusAt s.incidents i = some .verificationFailed ∧ countFiringAlerts s i = firing

theorem Transaction.failedWith {env : Env} {now : Time} {tickets : List IssuedTicket}
    {c : Command} {s s' : Store} (transaction : Transaction env now tickets c s s')
    (fit : AllAttemptsFit s) {i : Uuid} (before : ¬ FailedWith i 0 s) (after : FailedWith i 0 s') :
    FailedWith i 1 s := by
  rcases transaction.casesStep fit i with same | step
  · have status : statusAt s'.incidents i = statusAt s.incidents i := congrArg (·.status) same
    have firing : countFiringAlerts s' i = countFiringAlerts s i := congrArg (·.firing) same
    rw [FailedWith, status, firing] at after
    exact absurd after before
  · obtain ⟨status, firing⟩ := step.verificationFailed_silent after.1 after.2
    replace firing : countFiringAlerts s i ≤ 1 := firing
    have some : countFiringAlerts s i ≠ 0 := fun silent => before ⟨status, silent⟩
    exact ⟨status, by omega⟩

/-- A notification is one transaction, or none. -/
theorem execute_alertReceived (env : Env) (now : Time) (tickets : List IssuedTicket) (s : Store)
    (command : AlertReceivedCommand) :
    execute env now tickets s (.alertReceived command) = s ∨
      Transaction env now tickets (.alertReceived command) s
        (execute env now tickets s (.alertReceived command)) := by
  simp only [execute]
  cases done : handleAlertReceived env now s command with
  | error e => exact .inl rfl
  | ok r => exact .inr (.alert (.of_handleAlertReceived done) (handleAlertReceived_publishes done))

/-- The event that leaves the incident without a firing alert is a resolved
notification that ends its last one. -/
theorem step_failedWith {env : Env} {w : World} {e : Event} (fit : AllAttemptsFit w.store)
    {i : Uuid} (before : ¬ FailedWith i 0 w.store)
    (after : FailedWith i 0 (step env w e).store) :
    ∃ command, e.command = .alertReceived command ∧ command.status = .resolved ∧
      FailedWith i 1 w.store := by
  by_cases resolution : receivedStatus e.command = some .resolved
  · cases received : e.command with
    | alertReceived command =>
      rw [received] at resolution
      refine ⟨command, rfl, by simpa [receivedStatus] using resolution, ?_⟩
      simp only [step, received] at after
      rcases execute_alertReceived env (w.clock + e.elapsed) w.tickets w.store command with
        same | transaction
      · rw [same] at after
        exact absurd after before
      · exact transaction.failedWith fit before after
    | _ =>
      rw [received] at resolution
      cases resolution
  · -- No transaction of another command makes the last firing alert disappear.
    have kept := Machine.preserved_of_path (P := fun s => AllAttemptsFit s ∧ ¬ FailedWith i 0 s)
      (fun {s s'} transaction holds => by
        refine ⟨transaction.attemptsFit holds.1, fun silent => ?_⟩
        have one := transaction.failedWith holds.1 holds.2 silent
        have fewer := transaction.firing_le resolution i
        rw [one.2, silent.2] at fewer
        exact absurd fewer (by decide))
      (execute_path env (w.clock + e.elapsed) w.tickets w.store e.command) ⟨fit, before⟩
    exact absurd after kept.2

/-! ## Listed and accepted -/

/-- The scheduler lists an incident whose verification failed while an alert of it
fires, as long as its limit is no less than the number of incidents. -/
theorem mem_dueForInvestigation {s : Store} {i : Uuid} {incident : IncidentRow}
    (found : s.incidents[i]? = some incident) (failed : incident.status = .verificationFailed)
    (firing : 0 < countFiringAlerts s i) (now : Time) (debounceSeconds : Int) {limit : Nat}
    (roomy : s.incidents.length ≤ limit) :
    i ∈ dueForInvestigation now s debounceSeconds limit := by
  have some : s.alert.alerts.any (isFiringAlertOf i) = true := by
    rw [List.any_eq_true]
    exact List.countP_pos_iff.mp firing
  simp only [dueForInvestigation]
  rw [List.take_of_length_le]
  · refine List.mem_map.mpr ⟨(i, incident), ?_, rfl⟩
    rw [List.mem_insertionSort, List.mem_filter, Table.mem_select]
    exact ⟨⟨found, by simp [failed]⟩, some⟩
  · rw [List.length_map, List.length_insertionSort]
    refine Nat.le_trans (List.length_filter_le _ _) (Nat.le_trans ?_ roomy)
    rw [Table.select, List.length_map, ← s.incidents.length_zipIdx]
    exact List.length_filter_le _ _

/-- A request for an investigation of such an incident is accepted. -/
theorem requestInvestigation_accepted {env : Env} {s : Store} (sound : InvestigationsSound env s)
    {i : Uuid} {incident : IncidentRow} (found : s.incidents[i]? = some incident)
    (failed : incident.status = .verificationFailed) (firing : 0 < countFiringAlerts s i)
    (now : Time) (provider model : String) (settings : Dict) (budget : InvestigationBudget) :
    ∃ id s', requestInvestigation now s i provider model settings budget =
      .ok ({ investigationId := id, incidentId := i, created := true }, s') := by
  have idle := (sound.cases i).investigating
  rw [if_neg (by simp [caseOf, statusAt_found found, failed])] at idle
  have noneOpen : Table.first (fun v => v.incidentId == i && v.status.isOpen)
      s.investigation.investigations = none := by
    cases listed : Table.first (fun v : InvestigationRow => v.incidentId == i && v.status.isOpen)
      s.investigation.investigations with
    | none => rfl
    | some v =>
      obtain ⟨row, isOpen⟩ := Table.first_some listed
      exact absurd idle (Nat.ne_of_gt (Table.countP_pos row isOpen))
  have inside := Table.lt_of_row found
  have counted : (putIncident s i { incident with
      attemptCount := incident.attemptCount + 1 }).incidents[i]? =
      some { incident with attemptCount := incident.attemptCount + 1 } := by
    simp [putIncident, inside]
  have waiting : incident.status = .triaging ∨ incident.status = .verificationFailed := .inr failed
  have some : countFiringAlerts s i ≠ 0 := Nat.ne_of_gt firing
  simp only [requestInvestigation, Domain.found, found, bind, Except.bind, noneOpen, ensure,
    if_pos waiting, if_pos some, transitionIncidentStatus_of_read counted, pure, Except.pure]
  exact ⟨_, _, rfl⟩

/-- A failed incident of the run has attempts left; an alert of it fires unless a resolved
notification ended its last firing alert while it was `VERIFICATION_FAILED`; and while one
fires the incident is listed and a request for its investigation accepted. -/
structure NotStranded (env : Env) (clock : Time) (events : List Event) (i : Uuid)
    (incident : IncidentRow) : Prop where
  attempts : incident.attemptCount < env.maxInvestigationAttempts
  silenced : countFiringAlerts (runFrom env clock events).store i = 0 →
    ∃ earlier e later command, events = earlier ++ e :: later ∧
      e.command = .alertReceived command ∧ command.status = .resolved ∧
      FailedWith i 1 (runFrom env clock earlier).store ∧
      FailedWith i 0 (step env (runFrom env clock earlier) e).store
  listed : 0 < countFiringAlerts (runFrom env clock events).store i →
    ∀ (now : Time) (debounceSeconds : Int) (limit : Nat),
      (runFrom env clock events).store.incidents.length ≤ limit →
        i ∈ dueForInvestigation now (runFrom env clock events).store debounceSeconds limit
  accepted : 0 < countFiringAlerts (runFrom env clock events).store i →
    ∀ (now : Time) (provider model : String) (settings : Dict) (budget : InvestigationBudget),
      ∃ id s', requestInvestigation now (runFrom env clock events).store i provider model
        settings budget = .ok ({ investigationId := id, incidentId := i, created := true }, s')

end IncidentTriage.Verified
