import IncidentTriage.Library.Batches
import IncidentTriage.Verified.Conditions
import IncidentTriage.Verified.Identity
import IncidentTriage.Verified.Revision

/-! # A batch of alerts

The Alertmanager webhook hands the alerts of a payload to incident-core one by one, each in
a transaction of its own, and the first that is refused ends the request.  Other commands
may fall between two alerts, and between the reads of an alert and its update of the
incident.  What would be accepted on its own is on record afterwards exactly where no
refused alert stands before it.
-/

namespace IncidentTriage.Verified

open IncidentTriage.Python IncidentTriage.Domain IncidentTriage.Incident IncidentTriage.Api

/-! ## One alert -/

/-- The command of an alert, or why there is none. -/
def webhookCommand (env : Env) (isoStart : String → IsoStart) (now : Time)
    (alert : AlertmanagerAlert) : Except WebhookError AlertReceivedCommand :=
  match alertmanagerEpisodeId isoStart alert with
  | .error e => .error e
  | .ok externalId =>
    match alertStatus? alert.status with
    | none => .error (.refused (.unrecognizedStatus
        ("unrecognized alert status " ++ (Json.str alert.status).repr)))
    | some status =>
      match commandKey env.sha256 .prometheus externalId alert.modelDump status now none with
      | none => .error (.refused .zeroDivision)
      | some key =>
        match alertReceivedCommand key .prometheus externalId alert.labels
          ((label? alert.labels "severity").getD "") status with
        | .error e => .error (.refused e)
        | .ok command => .ok command

def refusalOf : DomainError → WebhookError
  | .concurrentModification text => .refused (.conflict text)
  | other => .refused (.failed other)

def responseOf (result : AlertReceivedResult) : AlertAcceptedResponse :=
  { alertId := result.alertId
    incidentId := result.incidentId
    incidentCreated := result.incidentCreated
    incidentStatus := result.incidentStatus }

theorem acceptWebhookAlert_eq (env : Env) (isoStart : String → IsoStart) (now : Time) (s : Store)
    (alert : AlertmanagerAlert) :
    acceptWebhookAlert env isoStart now s alert =
      (webhookCommand env isoStart now alert).bind fun command =>
        match handleAlertReceived env now s command with
        | .error e => .error (refusalOf e)
        | .ok (result, s) => .ok (responseOf result, s) := by
  unfold acceptWebhookAlert webhookCommand acceptAlert
  cases alertmanagerEpisodeId isoStart alert with
  | error e => rfl
  | ok externalId =>
    dsimp only
    cases alertStatus? alert.status with
    | none => rfl
    | some status =>
      dsimp only
      cases commandKey env.sha256 .prometheus externalId alert.modelDump status now none with
      | none => rfl
      | some key =>
        dsimp only
        cases alertReceivedCommand key .prometheus externalId alert.labels
          ((label? alert.labels "severity").getD "") status with
        | error e => rfl
        | ok command =>
          dsimp only [Except.bind]
          cases handleAlertReceived env now s command with
          | error e => cases e <;> rfl
          | ok answer => rfl

/-- An alert the webhook makes a command of. -/
structure WellFormed (isoStart : String → IsoStart) (alert : AlertmanagerAlert) : Prop where
  starts : alertmanagerEpisodeId isoStart alert ≠ .error .overflow
  status : (alertStatus? alert.status).isSome = true
  labels : missingLabels alert.labels = []
  severity : (alertSeverity? ((label? alert.labels "severity").getD "")).isSome = true

theorem alertmanagerEpisodeId_error {isoStart : String → IsoStart} {alert : AlertmanagerAlert}
    {e : WebhookError} (fails : alertmanagerEpisodeId isoStart alert = .error e) :
    e = .overflow := by
  unfold alertmanagerEpisodeId at fails
  split at fails
  · cases fails
  · cases fails
  · split at fails <;> cases fails
    rfl

/-- Every alert has a key, and it is not empty. -/
theorem commandKey_isSome (sha256 : String → String) (source : AlertSource)
    (externalId : Option String) (payload : Dict) (status : AlertStatus) (now : Time) :
    ∃ key, commandKey sha256 source externalId payload status now none = some key ∧ key ≠ "" := by
  have tagged : ∀ rest : String, source.value ++ rest ≠ "" := by
    intro rest empty
    have both := congrArg String.toList empty
    simp only [String.toList_append] at both
    cases source <;> simp [AlertSource.value] at both
  simp only [commandKey, givenId, Option.filter_none, Option.none_or]
  cases given : givenId externalId with
  | none =>
    refine ⟨_, deriveAlertIdempotencyKey_content given (by decide), ?_⟩
    simp only [String.append_assoc]
    exact tagged _
  | some id =>
    refine ⟨_, deriveAlertIdempotencyKey_given given, ?_⟩
    unfold externalKey
    split_ifs
    · simp only [String.append_assoc]
      exact tagged _
    · simp only [String.append_assoc]
      exact tagged _

theorem alertReceivedCommand_isOk_iff {key : String} (full : key ≠ "") (source : AlertSource)
    (externalId : Option String) (labels : Labels) (severity : String) (status : AlertStatus) :
    (∃ command, alertReceivedCommand key source externalId labels severity status = .ok command) ↔
      missingLabels labels = [] ∧ (alertSeverity? severity).isSome = true := by
  unfold alertReceivedCommand commandErrors
  cases known : alertSeverity? severity with
  | none => simp
  | some level =>
    by_cases missing : missingLabels labels = []
    · simp [full, missing]
    · simp [missing]

theorem webhookCommand_isOk_iff (env : Env) (isoStart : String → IsoStart) (now : Time)
    (alert : AlertmanagerAlert) :
    (∃ command, webhookCommand env isoStart now alert = .ok command) ↔
      WellFormed isoStart alert := by
  unfold webhookCommand
  cases episode : alertmanagerEpisodeId isoStart alert with
  | error e =>
    obtain rfl := alertmanagerEpisodeId_error episode
    constructor
    · rintro ⟨command, made⟩
      cases made
    · intro formed
      exact absurd episode formed.starts
  | ok externalId =>
    cases status : alertStatus? alert.status with
    | none =>
      constructor
      · rintro ⟨command, made⟩
        cases made
      · intro formed
        have known := formed.status
        rw [status] at known
        cases known
    | some status' =>
      obtain ⟨key, keyed, full⟩ := commandKey_isSome env.sha256 .prometheus externalId
        alert.modelDump status' now
      have valid := alertReceivedCommand_isOk_iff full .prometheus externalId alert.labels
        ((label? alert.labels "severity").getD "") status'
      simp only [keyed]
      constructor
      · rintro ⟨command, made⟩
        have checked : ∃ command, alertReceivedCommand key .prometheus externalId alert.labels
            ((label? alert.labels "severity").getD "") status' = .ok command := by
          split at made
          · cases made
          · exact ⟨_, ‹_›⟩
        obtain ⟨labels, severity⟩ := valid.mp checked
        exact ⟨by rw [episode]; simp, by rw [status]; rfl, labels, severity⟩
      · intro formed
        obtain ⟨command, made⟩ := valid.mpr ⟨formed.labels, formed.severity⟩
        exact ⟨command, by rw [made]⟩

/-! ## What incident-core makes of it -/

/-- Every alert that fires is linked to an incident that is there. -/
def FiringLinked (s : Store) : Prop :=
  Table.Every (fun _ alert => alert.status = .firing →
    ∃ i, alert.incidentId = some i ∧ i < s.incidents.length) s.alert.alerts

section
variable {env : Env} {now : Time} {s s' : Store} {row : AlertRow}

/-- What holds of a row goes on holding while incidents are added. -/
theorem linked_of_le (fires : row.status = .firing →
      ∃ i, row.incidentId = some i ∧ i < s.incidents.length)
    (incidents : s.incidents.length ≤ s'.incidents.length) (firing : row.status = .firing) :
    ∃ i, row.incidentId = some i ∧ i < s'.incidents.length := by
  obtain ⟨i, link, there⟩ := fires firing
  exact ⟨i, link, lt_of_lt_of_le there incidents⟩

theorem FiringLinked.grown (linked : FiringLinked s) (alerts : s'.alert.alerts = s.alert.alerts)
    (incidents : s.incidents.length ≤ s'.incidents.length) : FiringLinked s' := by
  unfold FiringLinked
  rw [alerts]
  exact Table.Every.imp linked fun _ _ _ fires => linked_of_le fires incidents

theorem FiringLinked.received (linked : FiringLinked s)
    (alerts : s'.alert.alerts = s.alert.alerts ++ [row])
    (incidents : s.incidents.length ≤ s'.incidents.length)
    (fires : row.status = .firing → ∃ i, row.incidentId = some i ∧ i < s'.incidents.length) :
    FiringLinked s' := by
  unfold FiringLinked
  rw [alerts]
  refine Table.Every.insert ?_ fires
  exact Table.Every.imp linked fun _ _ _ fires => linked_of_le fires incidents

theorem FiringLinked.ended (linked : FiringLinked s) {a : Uuid} {alert : AlertRow}
    (there : s.alert.alerts[a]? = some alert)
    (alerts : s'.alert.alerts = s.alert.alerts.set a (alert.ended now))
    (incidents : s.incidents.length ≤ s'.incidents.length) : FiringLinked s' := by
  unfold FiringLinked
  rw [alerts]
  refine Table.Every.put ?_ there (by simp [AlertRow.ended])
  exact Table.Every.imp linked fun _ _ _ fires => linked_of_le fires incidents

theorem ResolvedNotification.firingLinked {command : AlertReceivedCommand}
    {fingerprint : String} {r : AlertReceivedResult}
    (resolved : ResolvedNotification now s command fingerprint r s') (linked : FiringLinked s) :
    FiringLinked s' := by
  cases resolved with
  | unmatched missing => exact linked.received rfl le_rfl (by simp [newAlert])
  | repeated matched ended => exact linked.grown rfl le_rfl
  | ends matched fires link there goesOn =>
    exact linked.ended (findAlertToResolve_row matched) rfl le_rfl
  | cancels matched fires link there silent triaging =>
    exact linked.ended (findAlertToResolve_row matched) rfl (le_of_eq List.length_set.symm)

/-- A new alert is linked to an incident that is there. -/
theorem ChosenIncident.linked {command : AlertReceivedCommand} {i : Uuid} {created : Bool}
    {incidents : List IncidentRow}
    (chosen : ChosenIncident env now s command i created incidents) :
    i < incidents.length ∧ s.incidents.length ≤ incidents.length := by
  cases chosen with
  | matched decided named found =>
    rw [List.length_set]
    exact ⟨Table.lt_of_row found, le_rfl⟩
  | adopted decided selected =>
    exact ⟨Table.lt_of_row (Table.first_some selected).1, le_rfl⟩
  | opened decided missing => simp

theorem handleAlertReceived_firingLinked {command : AlertReceivedCommand}
    {r : AlertReceivedResult} (done : handleAlertReceived env now s command = .ok (r, s'))
    (linked : FiringLinked s) : FiringLinked s' := by
  by_cases new : NewFiring s command
  · obtain ⟨i, created, r₁, s₁, done₁, attached, _⟩ := handleAlertReceived_attached env now new
    rw [done] at done₁
    cases done₁
    obtain ⟨there, grown⟩ := attached.chosen.linked
    exact linked.received attached.alerts grown fun _ => ⟨i, rfl, there⟩
  · unfold handleAlertReceived at done
    split at done
    · cases done
      exact linked
    · rename_i unprocessed
      unfold processAlertReceived at done
      by_cases resolved : command.status = .resolved
      · rw [if_pos resolved] at done
        exact (processAlertResolved_cases done).firingLinked linked
      · rw [if_neg resolved] at done
        cases existing : existingAlert s command with
        | none => exact absurd ⟨unprocessed, alertStatus_firing resolved, existing⟩ new
        | some known =>
          obtain ⟨a, alert⟩ := known
          rw [insertAlertOrGetExisting_of_some existing] at done
          obtain ⟨processed, rfl⟩ := finalizeCommand_eq_ok done
          exact linked.grown rfl le_rfl

theorem handleAlertReceived_keeps {command : AlertReceivedCommand} {r : AlertReceivedResult}
    (done : handleAlertReceived env now s command = .ok (r, s')) {key : String}
    {row : ProcessedCommandRow} (there : getProcessedCommand s key = some row) :
    getProcessedCommand s' key = some row := by
  rcases handleAlertReceived_ledger done with rfl | ⟨result, grown⟩
  · exact there
  · unfold getProcessedCommand at there ⊢
    rw [grown, List.find?_append, there, Option.some_or]

theorem registerEvidenceRef_ledger {command : RegisterEvidenceRefCommand} {registered : Bool}
    (done : registerEvidenceRef now s command = .ok (registered, s')) :
    s'.alert.processedCommands = s.alert.processedCommands := by
  simp only [registerEvidenceRef, bind_eq_ok] at done
  obtain ⟨incident, _, done⟩ := done
  split at done
  · split_ifs at done
    cases done
    rfl
  · cases done
    rfl

theorem execute_firingLinked (tickets : List IssuedTicket) (linked : FiringLinked s)
    (c : Command) : FiringLinked (execute env now tickets s c) := by
  by_cases receipt : isReceipt c = true
  · cases c with
    | alertReceived command =>
      simp only [execute]
      cases done : handleAlertReceived env now s command with
      | error e => exact linked
      | ok answer => exact handleAlertReceived_firingLinked done linked
    | registerEvidenceRef command =>
      simp only [execute]
      cases done : registerEvidenceRef now s command with
      | error e => exact linked
      | ok answer =>
        obtain ⟨alerts, incidents⟩ := registerEvidenceRef_alerts done
        exact linked.grown alerts (le_of_eq (congrArg List.length incidents.symm))
    | _ => cases receipt
  · have quiet := execute_receivesNothing env now tickets s (c := c) (by simpa using receipt)
    exact linked.grown (by rw [quiet.alert]) (le_of_eq quiet.incidents.symm)

/-- What is on record stays on record, whatever the command. -/
theorem execute_ledger (tickets : List IssuedTicket) (c : Command) {key : String}
    {row : ProcessedCommandRow} (there : getProcessedCommand s key = some row) :
    getProcessedCommand (execute env now tickets s c) key = some row := by
  by_cases receipt : isReceipt c = true
  · cases c with
    | alertReceived command =>
      simp only [execute]
      cases done : handleAlertReceived env now s command with
      | error e => exact there
      | ok answer => exact handleAlertReceived_keeps done there
    | registerEvidenceRef command =>
      simp only [execute]
      cases done : registerEvidenceRef now s command with
      | error e => exact there
      | ok answer =>
        unfold getProcessedCommand
        simp only [committed, registerEvidenceRef_ledger done]
        exact there
    | _ => cases receipt
  · have quiet := execute_receivesNothing env now tickets s (c := c) (by simpa using receipt)
    unfold getProcessedCommand
    rw [quiet.alert]
    exact there

theorem processAlertResolved_finishes {command : AlertReceivedCommand} {fingerprint : String}
    (linked : FiringLinked s)
    (fresh : getProcessedCommand s command.idempotencyKey = none) :
    ∃ r s', processAlertResolved now s command fingerprint = .ok (r, s') := by
  cases matched : findAlertToResolve s command fingerprint with
  | none =>
    unfold processAlertResolved
    rw [matched]
    exact ⟨_, _, finalizeCommand_fresh
      (insertAlert s (newAlert command fingerprint now .resolved (some now))) fresh _⟩
  | some known =>
    obtain ⟨a, alert⟩ := known
    by_cases ended : alert.status = .resolved
    · unfold processAlertResolved
      simp only [matched, if_pos ended]
      exact ⟨_, _, finalizeCommand_fresh s fresh _⟩
    · have firing := alertStatus_firing ended
      obtain ⟨i, link, inside⟩ := linked a alert (findAlertToResolve_row matched) firing
      have there : s.incidents[i]? = some s.incidents[i] := List.getElem?_eq_getElem inside
      rw [processAlertResolved_of_firing matched firing link there]
      split_ifs
      · exact ⟨_, _, finalizeCommand_fresh
          (withCancelled now (withEnded now s a i alert) i s.incidents[i]) fresh _⟩
      · exact ⟨_, _, finalizeCommand_fresh (withEnded now s a i alert) fresh _⟩

/-- A command is handled wherever the alerts that fire are linked. -/
theorem handleAlertReceived_succeeds (env : Env) (now : Time) (linked : FiringLinked s)
    (command : AlertReceivedCommand) :
    ∃ r s', handleAlertReceived env now s command = .ok (r, s') := by
  by_cases new : NewFiring s command
  · obtain ⟨_, _, r, s', done, _⟩ := handleAlertReceived_attached env now new
    exact ⟨r, s', done⟩
  · unfold handleAlertReceived
    cases seen : getProcessedCommand s command.idempotencyKey with
    | some existing => exact ⟨_, _, rfl⟩
    | none =>
      simp only [processAlertReceived]
      by_cases resolved : command.status = .resolved
      · rw [if_pos resolved]
        exact processAlertResolved_finishes linked seen
      · rw [if_neg resolved]
        cases existing : existingAlert s command with
        | none => exact absurd ⟨seen, alertStatus_firing resolved, existing⟩ new
        | some known =>
          obtain ⟨a, alert⟩ := known
          rw [insertAlertOrGetExisting_of_some existing]
          exact ⟨_, _, finalizeCommand_fresh s seen _⟩

/-- It is on record afterwards. -/
theorem handleAlertReceived_records {command : AlertReceivedCommand} {r : AlertReceivedResult}
    (done : handleAlertReceived env now s command = .ok (r, s')) :
    ∃ row, getProcessedCommand s' command.idempotencyKey = some row := by
  cases seen : getProcessedCommand s command.idempotencyKey with
  | some existing => exact ⟨existing, handleAlertReceived_keeps done seen⟩
  | none =>
    obtain ⟨result, grown⟩ := handleAlertReceived_appends done seen
    refine ⟨{ idempotencyKey := command.idempotencyKey, result }, ?_⟩
    unfold getProcessedCommand at seen ⊢
    rw [grown, List.find?_append, seen]
    simp

end

/-! ## Alerts among other commands -/

/-- An alert of a payload: the clock reading of its handling, the commands of others since the
alert before it was answered, and those between the read of its incident and the update. -/
structure Arrival where
  alert : AlertmanagerAlert
  now : Time
  before : Interlude := {}
  during : Interlude := {}

/-- The incident that a resolution cancels, as it reads it. -/
def cancelledBy (env : Env) (now : Time) (s : Store) (command : AlertReceivedCommand) :
    Option (Uuid × IncidentRow) := do
  let fingerprint := computeFingerprint env.sha256 command.source command.labels
  guard (getProcessedCommand s command.idempotencyKey).isNone
  guard (command.status = .resolved)
  let (alertId, alert) ← findAlertToResolve s command fingerprint
  guard (alert.status = .firing)
  let incidentId ← alert.incidentId
  let incident ← s.incidents[incidentId]?
  guard (countFiringAlerts (putAlert s alertId (alert.ended now)) incidentId = 0 ∧
    incident.status = .triaging)
  pure (incidentId, incident)

/-- The conflict of a resolution whose incident others have changed by the time it updates it:
`s` is the store it reads, `s'` the one it writes to. -/
def conflict? (env : Env) (now : Time) (s s' : Store) (command : AlertReceivedCommand) :
    Option String := do
  let (incidentId, incident) ← cancelledBy env now s command
  guard (transitionIncidentStatus s' now incidentId incident .cancelled true).isNone
  pure ("incident " ++ uuidStr incidentId ++ " changed concurrently; retry the command")

section
variable (env : Env) (isoStart : String → IsoStart)

/-- The world the alert finds. -/
def Arrival.found (a : Arrival) (w : World) : World := a.before.after env w

/-- The world after a refusal: what the others did. -/
def Arrival.passed (a : Arrival) (w : World) : World := a.during.after env (a.found env w)

def Arrival.conflict? (a : Arrival) (w : World) : Option String :=
  match webhookCommand env isoStart a.now a.alert with
  | .ok command =>
    Verified.conflict? env a.now (a.found env w).store (a.passed env w).store command
  | .error _ => none

/-- One turn of the loop.  An alert that meets no conflict takes effect before what the
others do meanwhile. -/
def Arrival.handle (w : World) (a : Arrival) :
    Except WebhookError AlertAcceptedResponse × World :=
  match a.conflict? env isoStart w with
  | some text => (.error (.refused (.conflict text)), a.passed env w)
  | none =>
    match acceptWebhookAlert env isoStart a.now (a.found env w).store a.alert with
    | .error e => (.error e, a.passed env w)
    | .ok (response, s) => (.ok response, a.during.after env { a.found env w with store := s })

/-- `receive_alertmanager_webhook` among the commands of others. -/
def receiveAlertmanagerWebhook (token : String) (authorization : Option String) (w : World)
    (arrivals : List Arrival) : Except WebhookError (List AlertAcceptedResponse) × World :=
  if webhookAuthorized token authorization then
    Batch.run (Arrival.handle env isoStart) w arrivals
  else (.error .unauthorized, w)

end

theorem cancelledBy_read {env : Env} {now : Time} {s : Store} {command : AlertReceivedCommand}
    {i : Uuid} {incident : IncidentRow}
    (cancels : cancelledBy env now s command = some (i, incident)) :
    s.incidents[i]? = some incident := by
  simp only [cancelledBy, guard, Option.bind_eq_bind, Option.bind_eq_some_iff] at cancels
  obtain ⟨-, -, -, -, ⟨a, alert⟩, -, -, -, j, -, incident', there, -, -, read⟩ := cancels
  cases read
  exact there

/-- Nothing conflicts where no others are at work. -/
theorem conflict?_alone (env : Env) (now : Time) (s : Store) (command : AlertReceivedCommand) :
    conflict? env now s s command = none := by
  unfold conflict?
  cases cancels : cancelledBy env now s command with
  | none => rfl
  | some read =>
    obtain ⟨i, incident⟩ := read
    simp [transitionIncidentStatus_of_read (cancelledBy_read cancels)]

theorem Interlude.after_nil (env : Env) (w : World) : Interlude.after env {} w = w := by
  simp [Interlude.after]

/-- Where nothing falls around it, an alert is handled as `acceptWebhookAlert` does. -/
theorem Arrival.handle_alone (env : Env) (isoStart : String → IsoStart) (w : World)
    (alert : AlertmanagerAlert) (now : Time) :
    Arrival.handle env isoStart w { alert, now } =
      match acceptWebhookAlert env isoStart now w.store alert with
      | .error e => (.error e, w)
      | .ok (response, s) => (.ok response, { w with store := s }) := by
  have calm : Arrival.conflict? env isoStart { alert, now } w = none := by
    unfold Arrival.conflict?
    cases webhookCommand env isoStart now alert with
    | error e => rfl
    | ok command =>
      simp only [Arrival.passed, Arrival.found, Interlude.after_nil]
      exact conflict?_alone env now w.store command
  unfold Arrival.handle
  rw [calm]
  simp only [Arrival.passed, Arrival.found, Interlude.after_nil]

/-! ## Refusals -/

section
variable {env : Env} {isoStart : String → IsoStart} {w w' : World} {a b : Arrival}

/-- The alert is malformed, or its update of the incident conflicts. -/
def Arrival.Refused (env : Env) (isoStart : String → IsoStart) (a : Arrival) (w : World) : Prop :=
  ¬ WellFormed isoStart a.alert ∨ (a.conflict? env isoStart w).isSome = true

/-- Its command is on record. -/
def Arrival.OnRecord (env : Env) (isoStart : String → IsoStart) (a : Arrival) (w : World) : Prop :=
  ∃ command row, webhookCommand env isoStart a.now a.alert = .ok command ∧
    getProcessedCommand w.store command.idempotencyKey = some row

theorem Interlude.firingLinked (between : Interlude) (linked : FiringLinked w.store) :
    FiringLinked (between.after env w).store :=
  Machine.state_invariant (P := fun w : World => FiringLinked w.store) linked
    (fun _ e linked => execute_firingLinked _ linked e.command) between.events

theorem Interlude.onRecord (between : Interlude) (there : a.OnRecord env isoStart w) :
    a.OnRecord env isoStart (between.after env w) := by
  obtain ⟨command, row, made, recorded⟩ := there
  refine ⟨command, row, made, ?_⟩
  exact Machine.state_invariant
    (P := fun w : World => getProcessedCommand w.store command.idempotencyKey = some row)
    recorded (fun _ e recorded => execute_ledger _ e.command recorded) between.events

theorem Arrival.found_firingLinked (a : Arrival) (linked : FiringLinked w.store) :
    FiringLinked (a.found env w).store :=
  a.before.firingLinked linked

/-- An alert is refused and leaves nothing, or incident-core handles its command. -/
theorem Arrival.handle_answers (env : Env) (isoStart : String → IsoStart) (w : World)
    (a : Arrival) :
    (∃ e, a.handle env isoStart w = (.error e, a.passed env w)) ∨
      ∃ command result s', webhookCommand env isoStart a.now a.alert = .ok command ∧
        handleAlertReceived env a.now (a.found env w).store command = .ok (result, s') ∧
        a.handle env isoStart w =
          (.ok (responseOf result), a.during.after env { a.found env w with store := s' }) := by
  unfold Arrival.handle
  cases a.conflict? env isoStart w with
  | some text => exact .inl ⟨_, rfl⟩
  | none =>
    rw [acceptWebhookAlert_eq]
    cases webhookCommand env isoStart a.now a.alert with
    | error e => exact .inl ⟨e, rfl⟩
    | ok command =>
      cases done : handleAlertReceived env a.now (a.found env w).store command with
      | error e => exact .inl ⟨refusalOf e, by simp only [Except.bind, done]⟩
      | ok answer =>
        exact .inr ⟨command, answer.1, answer.2, rfl, done, by simp only [Except.bind, done]⟩

theorem Arrival.handle_firingLinked (a : Arrival) (linked : FiringLinked w.store) :
    FiringLinked (a.handle env isoStart w).2.store := by
  have here : FiringLinked (a.found env w).store := a.found_firingLinked linked
  rcases handle_answers env isoStart w a with ⟨e, fails⟩ | ⟨command, result, s', _, done, answers⟩
  · rw [fails]
    exact a.during.firingLinked here
  · rw [answers]
    exact a.during.firingLinked (handleAlertReceived_firingLinked done here)

theorem Arrival.handle_keeps (a : Arrival) (there : b.OnRecord env isoStart w) :
    b.OnRecord env isoStart (a.handle env isoStart w).2 := by
  have here : b.OnRecord env isoStart (a.found env w) := a.before.onRecord there
  rcases handle_answers env isoStart w a with ⟨e, fails⟩ | ⟨command, result, s', _, done, answers⟩
  · rw [fails]
    exact a.during.onRecord here
  · obtain ⟨other, row, own, recorded⟩ := here
    rw [answers]
    exact a.during.onRecord ⟨other, row, own, handleAlertReceived_keeps done recorded⟩

theorem Arrival.handle_records {response : AlertAcceptedResponse}
    (accepted : a.handle env isoStart w = (.ok response, w')) : a.OnRecord env isoStart w' := by
  rcases handle_answers env isoStart w a with ⟨e, fails⟩ | ⟨command, result, s', made, done, answers⟩
  · rw [fails] at accepted
    cases accepted
  · rw [answers] at accepted
    cases accepted
    obtain ⟨row, recorded⟩ := handleAlertReceived_records done
    exact a.during.onRecord ⟨command, row, made, recorded⟩

/-- The refusals of an alert are those its form and the conflict say. -/
theorem Arrival.fails_iff (linked : FiringLinked w.store) :
    (∃ e, a.handle env isoStart w = (.error e, a.passed env w)) ↔ a.Refused env isoStart w := by
  have formed := webhookCommand_isOk_iff env isoStart a.now a.alert
  unfold Arrival.handle Arrival.Refused
  cases a.conflict? env isoStart w with
  | some text => simp
  | none =>
    rw [acceptWebhookAlert_eq, ← formed]
    cases webhookCommand env isoStart a.now a.alert with
    | error e => simp [Except.bind]
    | ok command =>
      obtain ⟨result, s', done⟩ := handleAlertReceived_succeeds env a.now
        (a.found_firingLinked linked) command
      have here : handleAlertReceived env a.now (a.found env w).store command =
        .ok (result, s') := done
      simp [Except.bind, here]

end

/-! ## The batch -/

section
variable (env : Env) (isoStart : String → IsoStart) (token : String)
  (authorization : Option String) (w : World) (arrivals : List Arrival)

/-- A request with this alert alone is answered with success. -/
def AcceptedAlone (a : Arrival) : Prop :=
  ∃ responses w', receiveAlertmanagerWebhook env isoStart token authorization w [a] =
    (.ok responses, w')

/-- Every alert that would be accepted on its own is on record when the request is answered. -/
def BatchKept : Prop :=
  ∀ a ∈ arrivals, AcceptedAlone env isoStart token authorization w a →
    a.OnRecord env isoStart (receiveAlertmanagerWebhook env isoStart token authorization w arrivals).2

/-- Where an alert is refused after others were accepted, neither it nor any alert after it
would be accepted on its own, unless it is on record already. -/
def RefusedLast : Prop :=
  ∀ earlier a later responses w', arrivals = earlier ++ a :: later →
    Batch.Handled (Arrival.handle env isoStart) w earlier responses w' →
    a.Refused env isoStart w' → ∀ b ∈ a :: later,
      AcceptedAlone env isoStart token authorization w b →
        b.OnRecord env isoStart (a.passed env w')

end

theorem run_firingLinked (env : Env) (clock : Time) (events : List Event) :
    FiringLinked (runFrom env clock events).store := by
  have empty : FiringLinked (emptyWorld clock).store := Table.Every.nil
  exact Machine.state_invariant (P := fun w : World => FiringLinked w.store) empty
    (fun _ e linked => execute_firingLinked _ linked e.command) events

/-- A batch loses nothing exactly where no refusal stands before an alert that would be
accepted on its own and is not on record. -/
theorem batchKept_iff (env : Env) (isoStart : String → IsoStart) (token : String)
    (authorization : Option String) (clock : Time) (events : List Event)
    (arrivals : List Arrival) :
    BatchKept env isoStart token authorization (runFrom env clock events) arrivals ↔
      RefusedLast env isoStart token authorization (runFrom env clock events) arrivals := by
  have sound := run_firingLinked env clock events
  generalize runFrom env clock events = w at sound
  by_cases authorized : webhookAuthorized token authorization = true
  case neg =>
    -- nothing is accepted, alone or with others
    have nothing : ∀ a, ¬ AcceptedAlone env isoStart token authorization w a := by
      rintro a ⟨responses, w', accepted⟩
      simp [receiveAlertmanagerWebhook, authorized] at accepted
    exact ⟨fun _ _ _ _ _ _ _ _ _ b _ alone => absurd alone (nothing b),
      fun _ a _ alone => absurd alone (nothing a)⟩
  have linked : ∀ {earlier responses w'},
      Batch.Handled (Arrival.handle env isoStart) w earlier responses w' →
        FiringLinked w'.store := fun handled =>
    handled.invariant (P := fun w : World => FiringLinked w.store) sound
      (fun _ a => a.handle_firingLinked)
  unfold BatchKept RefusedLast receiveAlertmanagerWebhook
  simp only [authorized, if_true]
  constructor
  · rintro kept earlier a later responses w' rfl handled refused b member alone
    obtain ⟨e, fails⟩ := (Arrival.fails_iff (linked handled)).mpr refused
    have ends := kept b (List.mem_append_right _ member) alone
    rwa [handled.run_failure fails] at ends
  · intro spared a member alone
    rcases Batch.handled_or_fails (Arrival.handle env isoStart) w arrivals with
      ⟨responses, w', handled⟩ | ⟨earlier, b, later, responses, w₁, e, w₂, rfl, handled, fails⟩
    · rw [handled.run_eq]
      exact handled.achieves member Arrival.handle_records fun _ b => Arrival.handle_keeps b
    · have passes : w₂ = b.passed env w₁ := by
        rcases Arrival.handle_answers env isoStart w₁ b with ⟨e', fails'⟩ | ⟨_, _, _, _, _, answers⟩
        · rw [fails'] at fails
          cases fails
          rfl
        · rw [answers] at fails
          cases fails
      subst passes
      rw [handled.run_failure fails]
      rcases List.mem_append.mp member with before | after
      · have recorded : a.OnRecord env isoStart w₁ :=
          handled.achieves before Arrival.handle_records fun _ b => Arrival.handle_keeps b
        have kept := Arrival.handle_keeps b recorded
        rwa [fails] at kept
      · exact spared earlier b later responses w₁ rfl handled
          ((Arrival.fails_iff (linked handled)).mp ⟨e, fails⟩) a after alone

/-- An alert that pages nobody by its severity. -/
def pagedAlert : AlertmanagerAlert where
  status := "firing"
  labels := [("service", "checkout"), ("environment", "production"), ("severity", "page")]
  fingerprint := some "f1"

def criticalAlert : AlertmanagerAlert where
  status := "firing"
  labels := [("service", "payments"), ("environment", "production"), ("severity", "critical")]
  fingerprint := some "f2"

def unreadableStart (_ : String) : IsoStart := .invalid

/-- The critical alert of another service comes second and is lost. -/
theorem not_batchKept :
    ¬ BatchKept paymentsEnv unreadableStart "" none (runFrom paymentsEnv 0 [])
      [{ alert := pagedAlert, now := 0 }, { alert := criticalAlert, now := 0 }] := by
  intro kept
  obtain ⟨command, row, -, recorded⟩ := kept { alert := criticalAlert, now := 0 } (by simp)
    ⟨_, _, rfl⟩
  have nothing : (receiveAlertmanagerWebhook paymentsEnv unreadableStart "" none
      (runFrom paymentsEnv 0 []) [{ alert := pagedAlert, now := 0 },
        { alert := criticalAlert, now := 0 }]).2.store.alert.processedCommands = [] := rfl
  unfold getProcessedCommand at recorded
  rw [nothing] at recorded
  cases recorded

end IncidentTriage.Verified
