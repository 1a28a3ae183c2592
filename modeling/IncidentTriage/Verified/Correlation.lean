import IncidentTriage.Library.Keys
import IncidentTriage.Verified.DeliveryOrder
import IncidentTriage.Verified.StatusHistory

/-! # Where a new firing alert goes

A new firing alert is attached to the incident correlation matched, to the open
incident of its correlation key in this time bucket, or to a new one.  `AlertAttached`
says what the transaction leaves in each case; two results about runs follow: which
decisions are honoured, and that an incident without recent alerts absorbs nothing.
-/

namespace IncidentTriage.Verified

open IncidentTriage.Python IncidentTriage.Domain IncidentTriage.Incident

/-! ## The transaction -/

/-- A firing notification that is neither a repeat nor about a known alert. -/
structure NewFiring (s : Store) (command : AlertReceivedCommand) : Prop where
  unprocessed : getProcessedCommand s command.idempotencyKey = none
  firing : command.status = .firing
  unknown : existingAlert s command = none

/-- What the correlation engine decides about an alert. -/
def decisionOn (env : Env) (now : Time) (s : Store) (command : AlertReceivedCommand) :
    CorrelationDecision :=
  correlationDecision env now s command
    (computeFingerprint env.sha256 command.source command.labels)

/-- The incident an alert goes to, whether it is new, and the incidents afterwards. -/
inductive ChosenIncident (env : Env) (now : Time) (s : Store) (command : AlertReceivedCommand) :
    Uuid → Bool → List IncidentRow → Prop
  | matched {i : Uuid} {incident : IncidentRow}
      (decided : (decisionOn env now s command).decision = .correlate)
      (named : (decisionOn env now s command).matchedIncidentId = some i)
      (found : s.incidents[i]? = some incident) :
      ChosenIncident env now s command i false
        (s.incidents.set i { incident with updatedAt := now })
  | adopted {i : Uuid} {incident : IncidentRow}
      (decided : (decisionOn env now s command).decision = .newIncident)
      (selected : selectOpenIncident s (bucketKey env now (decisionOn env now s command)) =
        some (i, incident)) :
      ChosenIncident env now s command i false s.incidents
  | opened
      (decided : (decisionOn env now s command).decision = .newIncident)
      (missing : selectOpenIncident s (bucketKey env now (decisionOn env now s command)) = none) :
      ChosenIncident env now s command s.incidents.length true
        (s.incidents ++ [newIncident now (bucketKey env now (decisionOn env now s command))
          command.severity command.service command.environment])

/-- What is published about an alert that was attached, after `AlertReceived`. -/
def attachedEvent (env : Env) (now : Time) (s : Store) (command : AlertReceivedCommand)
    (i : Uuid) (created : Bool) : OutboxPayload :=
  let decision := decisionOn env now s command
  if created then
    .incidentCreated i (bucketKey env now decision) command.severity command.service
      command.environment decision.score decision.matchedSignals
  else .alertCorrelated s.alert.alerts.length i decision.score decision.matchedSignals

structure AlertAttached (env : Env) (now : Time) (s s' : Store) (command : AlertReceivedCommand)
    (i : Uuid) (created : Bool) : Prop where
  chosen : ChosenIncident env now s command i created s'.incidents
  alerts : s'.alert.alerts = s.alert.alerts ++
    [{ newAlert command (computeFingerprint env.sha256 command.source command.labels) now
        command.status none with incidentId := some i }]
  outbox : ∃ received published, s'.audit.outbox = s.audit.outbox ++ [received] ++ [published] ∧
    received.payload = .alertReceived s.alert.alerts.length
      (computeFingerprint env.sha256 command.source command.labels) command.source i ∧
    published.payload = attachedEvent env now s command i created
  ledger : ∃ result, s'.alert.processedCommands = s.alert.processedCommands ++
    [{ idempotencyKey := command.idempotencyKey, result }]

section
variable {s : Store} {now : Time} {key service environment : String} {severity : AlertSeverity}

theorem getOrCreateOpenIncident_some {existing : Uuid × IncidentRow}
    (selected : selectOpenIncident s key = some existing) :
    getOrCreateOpenIncident s now key severity service environment = (existing, false, s) := by
  unfold getOrCreateOpenIncident
  rw [selected]

theorem getOrCreateOpenIncident_none (missing : selectOpenIncident s key = none) :
    getOrCreateOpenIncident s now key severity service environment =
      ((s.incidents.length, newIncident now key severity service environment), true,
        { s with
          incidents := s.incidents ++ [newIncident now key severity service environment] }) := by
  unfold getOrCreateOpenIncident
  rw [missing]

end

theorem handleAlertReceived_attached (env : Env) (now : Time) {s : Store}
    {command : AlertReceivedCommand} (new : NewFiring s command) :
    ∃ i created r s', handleAlertReceived env now s command = .ok (r, s') ∧
      AlertAttached env now s s' command i created ∧ r.alertId = s.alert.alerts.length ∧
      r.incidentId = some i ∧ r.incidentCreated = created := by
  obtain ⟨unprocessed, firing, unknown⟩ := new
  unfold handleAlertReceived
  rw [unprocessed]
  cases decided : (decisionOn env now s command).decision with
  | correlate =>
    -- the engine names one of the open incidents it was shown
    obtain ⟨candidate, member, named⟩ := CorrelationEngine.decide_correlate decided
    obtain ⟨incident, row, _⟩ := mem_findOpenIncidentCandidates member
    have joins := incidentForAlert_correlates env now command decided named row
    have done := process_linked unprocessed firing unknown rfl joins rfl
    have touches : touchIncident s now candidate.incidentId =
        putIncident s candidate.incidentId { incident with updatedAt := now } := by
      simp [touchIncident, row]
    rw [touches] at done
    exact ⟨candidate.incidentId, false, _, _, done,
      ⟨.matched decided named row, rfl, ⟨_, _, rfl, rfl, rfl⟩, _, rfl⟩, rfl, rfl, rfl⟩
  | newIncident =>
    have joins := incidentForAlert_new env now s command decided
    cases selected : selectOpenIncident s (bucketKey env now (decisionOn env now s command)) with
    | some existing =>
      obtain ⟨i, incident⟩ := existing
      unfold getOrCreateOpenIncident at joins
      simp only [selected] at joins
      have done := process_linked unprocessed firing unknown rfl joins rfl
      refine ⟨i, false, _, _, done, ⟨.adopted decided selected, rfl, ⟨_, _, rfl, rfl, rfl⟩, _, rfl⟩,
        rfl, rfl, rfl⟩
    | none =>
      unfold getOrCreateOpenIncident at joins
      simp only [selected] at joins
      have done := process_linked unprocessed firing unknown rfl joins rfl
      refine ⟨s.incidents.length, true, _, _, done, ⟨.opened decided selected, rfl,
        ⟨_, _, rfl, rfl, rfl⟩, _, rfl⟩, rfl, rfl, rfl⟩

/-! ## Decisions that are honoured -/

/-- The alert is recorded, in a new incident if the engine asked for one, and in the
incident it matched otherwise. -/
def Honoured (env : Env) (now : Time) (s : Store) (command : AlertReceivedCommand) : Prop :=
  ∃ r s' alert, handleAlertReceived env now s command = .ok (r, s') ∧
    s'.alert.alerts[r.alertId]? = some alert ∧ alert.incidentId = r.incidentId ∧
    ((decisionOn env now s command).decision = .newIncident → r.incidentCreated = true ∧
      r.incidentId = some s.incidents.length ∧ s'.incidents.length = s.incidents.length + 1) ∧
    ((decisionOn env now s command).decision = .correlate → r.incidentCreated = false ∧
      r.incidentId = (decisionOn env now s command).matchedIncidentId)

/-- The engine matched an incident, or no open incident has the key of a new one. -/
def KeyFree (env : Env) (now : Time) (s : Store) (command : AlertReceivedCommand) : Prop :=
  (decisionOn env now s command).decision = .correlate ∨
    selectOpenIncident s (bucketKey env now (decisionOn env now s command)) = none

theorem honoured_iff {env : Env} {now : Time} {s : Store} {command : AlertReceivedCommand}
    (new : NewFiring s command) : Honoured env now s command ↔ KeyFree env now s command := by
  obtain ⟨i, created, r, s', done, attached, alertId, incidentId, incidentCreated⟩ :=
    handleAlertReceived_attached env now new
  have stored : ∃ alert, s'.alert.alerts[r.alertId]? = some alert ∧
      alert.incidentId = r.incidentId := by
    rw [attached.alerts, alertId, incidentId]
    exact ⟨_, List.getElem?_concat_length, rfl⟩
  obtain ⟨alert, recorded, linked⟩ := stored
  have chosen := attached.chosen
  generalize same : s'.incidents = incidents at chosen
  constructor
  · rintro ⟨r₁, s₁, _, done₁, _, _, opens, _⟩
    rw [done] at done₁
    cases done₁
    cases chosen with
    | matched decided named found => exact .inl decided
    | adopted decided selected =>
      obtain ⟨created, _, _⟩ := opens decided
      rw [incidentCreated] at created
      cases created
    | opened decided missing => exact .inr missing
  · intro free
    refine ⟨r, s', alert, done, recorded, linked, ?_, ?_⟩
    · intro isNew
      cases chosen with
      | matched decided named found =>
        rw [isNew] at decided
        cases decided
      | adopted decided selected =>
        rcases free with correlates | missing
        · rw [isNew] at correlates
          cases correlates
        · rw [missing] at selected
          cases selected
      | opened decided missing =>
        refine ⟨incidentCreated, incidentId, ?_⟩
        rw [same, List.length_append, List.length_singleton]
    · intro correlates
      cases chosen with
      | matched decided named found => exact ⟨incidentCreated, incidentId.trans named.symm⟩
      | adopted decided selected =>
        rw [correlates] at decided
        cases decided
      | opened decided missing =>
        rw [correlates] at decided
        cases decided

/-- A match reaches the threshold. -/
theorem decide_score {engine : CorrelationEngine} {alert : NewAlertContext}
    {candidates : List CorrelationCandidate}
    (correlates : (engine.decide alert candidates).decision = .correlate) :
    engine.threshold ≤ (engine.decide alert candidates).score := by
  unfold CorrelationEngine.decide at correlates ⊢
  cases chosen : engine.best alert none candidates with
  | none => simp [chosen] at correlates
  | some best =>
    obtain ⟨c, score, signals⟩ := best
    simp only [chosen] at correlates ⊢
    split at correlates
    · rename_i enough
      rw [if_pos enough]
      exact enough
    · cases correlates

/-- The score an `AlertCorrelated` event carries. -/
def correlatedScore : OutboxPayload → Option ℚ
  | .alertCorrelated _ _ score _ => some score
  | _ => none

def correlatedScores (outbox : List OutboxEventRow) : List ℚ :=
  outbox.filterMap (fun e => correlatedScore e.payload)

def uncorrelated (p : OutboxPayload) : Bool := (correlatedScore p).isNone

/-- The score of every `AlertCorrelated` event reaches the threshold. -/
def ScoresReach (threshold : ℚ) (outbox : List OutboxEventRow) : Prop :=
  ∀ score ∈ correlatedScores outbox, threshold ≤ score

theorem correlatedScores_insert (outbox : List OutboxEventRow) (e : OutboxEventRow) :
    correlatedScores (outbox ++ [e]) =
      correlatedScores outbox ++ (correlatedScore e.payload).toList := by
  unfold correlatedScores
  rw [List.filterMap_append]
  cases told : correlatedScore e.payload with
  | none => simp [told]
  | some score => simp [told]

theorem ScoresReach.of_uncorrelated {threshold : ℚ} {s s' : Store}
    (reach : ScoresReach threshold s.audit.outbox) (only : Publishes uncorrelated s s') :
    ScoresReach threshold s'.audit.outbox := by
  obtain ⟨events, grown, other⟩ := only
  have none : events.filterMap (fun e => correlatedScore e.payload) = [] := by
    apply List.filterMap_eq_nil_iff.mpr
    intro e member
    exact Option.isNone_iff_eq_none.mp (other e member)
  unfold ScoresReach correlatedScores
  rw [grown, List.filterMap_append, none, List.append_nil]
  exact reach

theorem ResolvedNotification.uncorrelated {now : Time} {s s' : Store}
    {command : AlertReceivedCommand} {fingerprint : String} {r : AlertReceivedResult}
    (resolved : ResolvedNotification now s command fingerprint r s') :
    Publishes uncorrelated s s' := by
  cases resolved with
  | unmatched missing => exact .of_audit rfl
  | repeated matched ended => exact .of_audit rfl
  | ends matched fires link there goesOn =>
    refine .trans ?_ (.of_audit rfl)
    exact .insert (.of_audit rfl) rfl
  | cancels matched fires link there silent triaging =>
    refine .trans ?_ (.of_audit rfl)
    refine .insert (.trans ?_ (.of_audit rfl)) rfl
    exact .insert (.of_audit rfl) rfl

/-- A notification that is not a new firing alert joins no incident. -/
theorem handleAlertReceived_uncorrelated {env : Env} {now : Time} {s s' : Store}
    {command : AlertReceivedCommand} {r : AlertReceivedResult}
    (done : handleAlertReceived env now s command = .ok (r, s'))
    (old : ¬ NewFiring s command) : Publishes uncorrelated s s' := by
  unfold handleAlertReceived at done
  split at done
  · cases done
    exact .refl s
  · rename_i unprocessed
    unfold processAlertReceived at done
    by_cases resolved : command.status = .resolved
    · rw [if_pos resolved] at done
      exact (processAlertResolved_cases done).uncorrelated
    · rw [if_neg resolved] at done
      cases existing : existingAlert s command with
      | none => exact absurd ⟨unprocessed, alertStatus_firing resolved, existing⟩ old
      | some known =>
        obtain ⟨a, alert⟩ := known
        rw [insertAlertOrGetExisting_of_some existing] at done
        exact .of_audit (finalizeCommand_audit done)

theorem registerEvidenceRef_uncorrelated {now : Time} {s s' : Store}
    {command : RegisterEvidenceRefCommand} {registered : Bool}
    (done : registerEvidenceRef now s command = .ok (registered, s')) :
    Publishes uncorrelated s s' := by
  simp only [registerEvidenceRef, bind_eq_ok] at done
  obtain ⟨incident, _, done⟩ := done
  split at done
  · split_ifs at done
    cases done
    exact .refl s
  · cases done
    exact .insert (.refl s) rfl

theorem handleAlertReceived_scores {env : Env} {now : Time} {s s' : Store}
    {command : AlertReceivedCommand} {r : AlertReceivedResult}
    (done : handleAlertReceived env now s command = .ok (r, s'))
    (free : NewFiring s command → KeyFree env now s command)
    (reach : ScoresReach env.correlationEngine.threshold s.audit.outbox) :
    ScoresReach env.correlationEngine.threshold s'.audit.outbox := by
  by_cases new : NewFiring s command
  · obtain ⟨i, created, r₁, s₁, done₁, ⟨chosen, _, ⟨received, published, grown, tells, told⟩, _⟩, _⟩ :=
      handleAlertReceived_attached env now new
    rw [done] at done₁
    cases done₁
    have first : correlatedScore received.payload = none := by rw [tells]; rfl
    unfold ScoresReach
    rw [grown, correlatedScores_insert, correlatedScores_insert, first, told, Option.toList_none,
      List.append_nil]
    intro score member
    rcases List.mem_append.mp member with old | last
    · exact reach score old
    · generalize s'.incidents = incidents at chosen
      cases chosen with
      | matched decided named found =>
        cases List.mem_singleton.mp last
        exact decide_score decided
      | adopted decided selected =>
        rcases free new with correlates | missing
        · rw [correlates] at decided
          cases decided
        · rw [missing] at selected
          cases selected
      | opened decided missing => cases last
  · exact reach.of_uncorrelated (handleAlertReceived_uncorrelated done new)

/-- A command executed next, where `P` holds of every new firing alert it brings. -/
def OnNewFiring (P : Time → Store → AlertReceivedCommand → Prop) (w : World) (e : Event) : Prop :=
  ∀ command, e.command = .alertReceived command → NewFiring w.store command →
    P (w.clock + e.elapsed) w.store command

/-- In a run, every decision about a new firing alert is what happens, and every alert
that joined an incident was scored at the threshold or above. -/
structure DecisionsHonoured (env : Env) (clock : Time) (events : List Event) : Prop where
  steps : Machine.StepsMeet (OnNewFiring (Honoured env)) (step env) (emptyWorld clock) events
  scores : ScoresReach env.correlationEngine.threshold
    (runFrom env clock events).store.audit.outbox

theorem step_scores {env : Env} {w : World} {e : Event}
    (free : OnNewFiring (KeyFree env) w e)
    (reach : ScoresReach env.correlationEngine.threshold w.store.audit.outbox) :
    ScoresReach env.correlationEngine.threshold (step env w e).store.audit.outbox := by
  show ScoresReach _ (execute env (w.clock + e.elapsed) w.tickets w.store e.command).audit.outbox
  cases named : e.command with
  | alertReceived command =>
    show ScoresReach _ (committed w.store
      (handleAlertReceived env (w.clock + e.elapsed) w.store command)).audit.outbox
    cases done : handleAlertReceived env (w.clock + e.elapsed) w.store command with
    | error refusal => exact reach
    | ok r => exact handleAlertReceived_scores done (free command named) reach
  | registerEvidenceRef command =>
    show ScoresReach _ (committed w.store
      (registerEvidenceRef (w.clock + e.elapsed) w.store command)).audit.outbox
    cases done : registerEvidenceRef (w.clock + e.elapsed) w.store command with
    | error refusal => exact reach
    | ok r => exact reach.of_uncorrelated (registerEvidenceRef_uncorrelated done)
  | _ =>
    refine reach.of_uncorrelated ((execute_receivesNothing env _ _ _ rfl).publishes.mono ?_)
    intro p own
    cases p <;> first | rfl | cases own

theorem decisions_honoured_iff (env : Env) (clock : Time) (events : List Event) :
    DecisionsHonoured env clock events ↔
      Machine.StepsMeet (OnNewFiring (KeyFree env)) (step env) (emptyWorld clock) events := by
  have same : OnNewFiring (Honoured env) = OnNewFiring (KeyFree env) := by
    funext w e
    apply propext
    constructor
    · exact fun honoured command named new => (honoured_iff new).mp (honoured command named new)
    · exact fun free command named new => (honoured_iff new).mpr (free command named new)
  constructor
  · intro honoured
    rw [← same]
    exact honoured.steps
  · intro free
    constructor
    · rw [same]
      exact free
    · apply Machine.invariant_of_stepsMeet (P := fun w : World =>
        ScoresReach env.correlationEngine.threshold w.store.audit.outbox) _ _ free
      · intro e member
        cases member
      · exact fun w e free reach => step_scores free reach

/-- An alert of the payments service by its name, under an id of its own. -/
def paymentsNamed (externalId name : String) : AlertReceivedCommand :=
  { idempotencyKey := externalId
    source := .prometheus
    externalId := some externalId
    labels := [("service", "payments"), ("environment", "production"), ("alertname", name)]
    severity := .critical }

/-- The error rate rises, the queue fills a minute later and joins the incident, and the
error rate is reported once more when neither is recent: too little is alike, but the
incident has the key of a new one. -/
def reportedAgain : List Event :=
  [{ elapsed := 0, command := .alertReceived (paymentsNamed "a1" "ErrorRate") },
   { elapsed := 60 * 1000000, command := .alertReceived (paymentsNamed "a2" "QueueFull") },
   { elapsed := 100 * 1000000, command := .alertReceived (paymentsNamed "a3" "ErrorRate") }]

theorem not_decisions_honoured :
    ¬ ∀ env clock events, DecisionsHonoured env clock events := by
  intro honoured
  have reach := (honoured paymentsEnv 0 reportedAgain).scores
  have joined :
      1 / 2 ∈ correlatedScores (runFrom paymentsEnv 0 reportedAgain).store.audit.outbox := by
    decide +kernel
  have below : ¬ paymentsEnv.correlationEngine.threshold ≤ 1 / 2 := by decide +kernel
  exact below (reach (1 / 2) joined)

/-! ## Incidents without recent alerts -/

/-- When the latest alert of an incident was received. -/
def latestReceived (s : Store) (i : Uuid) : Option Time :=
  ((s.alert.alerts.filter (fun a => a.incidentId == some i)).map (·.receivedAt)).max?

/-- The incident has an alert within the lookback before `now`. -/
def Active (env : Env) (now : Time) (s : Store) (i : Uuid) : Prop :=
  ∃ latest, latestReceived s i = some latest ∧
    now - env.candidateLookbackSeconds * 1000000 ≤ latest

theorem Active.of_alert {env : Env} {now : Time} {s : Store} {i k : Uuid} {alert : AlertRow}
    (row : s.alert.alerts[k]? = some alert) (link : alert.incidentId = some i)
    (recent : now - env.candidateLookbackSeconds * 1000000 ≤ alert.receivedAt) :
    Active env now s i := by
  have member : alert.receivedAt ∈
      (s.alert.alerts.filter (fun a => a.incidentId == some i)).map (·.receivedAt) := by
    apply List.mem_map_of_mem
    exact List.mem_filter.mpr ⟨List.mem_of_getElem? row, by simp [link]⟩
  unfold Active latestReceived
  cases latest : ((s.alert.alerts.filter
      (fun a => a.incidentId == some i)).map (·.receivedAt)).max? with
  | none =>
    rw [List.max?_eq_none_iff.mp latest] at member
    cases member
  | some t => exact ⟨t, rfl, recent.trans ((List.max?_eq_some_iff.mp latest).2 _ member)⟩

/-- A candidate of correlation is active. -/
theorem active_of_candidate {env : Env} {now : Time} {s : Store} {service environment : String}
    {c : CorrelationCandidate}
    (candidate : c ∈ findOpenIncidentCandidates s service environment now
      env.candidateLookbackSeconds) : Active env now s c.incidentId := by
  simp only [findOpenIncidentCandidates, List.mem_flatMap] at candidate
  obtain ⟨⟨id, incident⟩, chosen, listed⟩ := candidate
  split at listed
  · simp at listed
  · rename_i latest received
    split_ifs at listed with stale
    · simp at listed
    · obtain ⟨a, _, rfl⟩ := List.mem_map.mp listed
      exact ⟨latest, received, not_lt.mp stale⟩

/-- An incident carries the time bucket it was opened in, and an alert that was received
when it was opened, or later. -/
structure FoundedOn (env : Env) (alerts : List AlertRow) (i : Uuid) (incident : IncidentRow) :
    Prop where
  keyed : ∃ key, incident.correlationKey =
    key ++ ":" ++ toString (incident.createdAt / (env.candidateLookbackSeconds * 1000000))
  begun : ∃ (k : Uuid) (alert : AlertRow), alerts[k]? = some alert ∧
    alert.incidentId = some i ∧ incident.createdAt ≤ alert.receivedAt

def Founded (env : Env) (s : Store) : Prop :=
  Table.Every (FoundedOn env s.alert.alerts) s.incidents

/-- Times in one bucket are less than its length apart. -/
theorem lt_of_bucket_eq {now opened length : Int} (positive : 0 < length)
    (same : now / length = opened / length) : now - length < opened := by
  have above : now < (now / length + 1) * length := Int.lt_ediv_add_one_mul_self now positive
  have below : opened / length * length ≤ opened :=
    Int.ediv_mul_le opened (ne_of_gt positive)
  rw [same] at above
  linarith

/-- An open incident that has the key of the bucket of `now` is active. -/
theorem active_of_key {env : Env} (lookback : 0 < env.candidateLookbackSeconds) {now : Time}
    {s : Store} (founded : Founded env s) {key : String} {i : Uuid} {incident : IncidentRow}
    (selected : selectOpenIncident s
      (key ++ ":" ++ toString (now / (env.candidateLookbackSeconds * 1000000))) =
        some (i, incident)) : Active env now s i := by
  obtain ⟨row, matching⟩ := Table.first_some selected
  simp only [Bool.and_eq_true, beq_iff_eq] at matching
  obtain ⟨⟨key', keyed⟩, k, alert, recorded, link, later⟩ := founded i incident row
  obtain ⟨_, same⟩ := Keys.eq_of_numbered (matching.1.symm.trans keyed)
  have positive : (0 : Int) < env.candidateLookbackSeconds * 1000000 := by omega
  have recent := lt_of_bucket_eq positive same
  exact .of_alert recorded link (by linarith)

/-- The columns of an alert that are fixed once it is linked. -/
structure SameReceipt (alert alert' : AlertRow) : Prop where
  incidentId : alert'.incidentId = alert.incidentId
  receivedAt : alert'.receivedAt = alert.receivedAt

theorem SameReceipt.refl (alert : AlertRow) : SameReceipt alert alert := ⟨rfl, rfl⟩

theorem FoundedOn.kept {env : Env} {alerts alerts' : List AlertRow} {i : Uuid}
    {incident incident' : IncidentRow} (founded : FoundedOn env alerts i incident)
    (kept : Table.Evolves SameReceipt alerts alerts') (same : SameOrigin incident incident') :
    FoundedOn env alerts' i incident' := by
  obtain ⟨keyed, k, alert, row, link, later⟩ := founded
  obtain ⟨alert', row', receipt⟩ := kept k alert row
  constructor
  · rw [same.correlationKey, same.createdAt]
    exact keyed
  · refine ⟨k, alert', row', receipt.incidentId.trans link, ?_⟩
    rw [same.createdAt, receipt.receivedAt]
    exact later

theorem Founded.kept {env : Env} {s s' : Store} (founded : Founded env s)
    (alerts : Table.Evolves SameReceipt s.alert.alerts s'.alert.alerts)
    (origins : Table.Evolves SameOrigin s.incidents s'.incidents)
    (length : s'.incidents.length = s.incidents.length) : Founded env s' := by
  intro i incident' row'
  rcases origins.new_key row' with ⟨incident, row, same⟩ | beyond
  · exact (founded i incident row).kept alerts same
  · have inside := Table.lt_of_row row'
    rw [length] at inside
    exact absurd inside (Nat.not_lt.mpr beyond)

theorem ResolvedNotification.receipts {now : Time} {s s' : Store}
    {command : AlertReceivedCommand} {fingerprint : String} {r : AlertReceivedResult}
    (resolved : ResolvedNotification now s command fingerprint r s') :
    Table.Evolves SameReceipt s.alert.alerts s'.alert.alerts ∧
      s'.incidents.length = s.incidents.length := by
  cases resolved with
  | unmatched missing => exact ⟨.insert SameReceipt.refl _ _, rfl⟩
  | repeated matched ended => exact ⟨.refl SameReceipt.refl _, rfl⟩
  | ends matched fires link there goesOn =>
    exact ⟨.put SameReceipt.refl (findAlertToResolve_row matched) ⟨rfl, rfl⟩, rfl⟩
  | cancels matched fires link there silent triaging =>
    exact ⟨.put SameReceipt.refl (findAlertToResolve_row matched) ⟨rfl, rfl⟩, List.length_set⟩

theorem handleAlertReceived_receipts {env : Env} {now : Time} {s s' : Store}
    {command : AlertReceivedCommand} {r : AlertReceivedResult}
    (done : handleAlertReceived env now s command = .ok (r, s'))
    (old : ¬ NewFiring s command) :
    Table.Evolves SameReceipt s.alert.alerts s'.alert.alerts ∧
      s'.incidents.length = s.incidents.length := by
  unfold handleAlertReceived at done
  split at done
  · cases done
    exact ⟨.refl SameReceipt.refl _, rfl⟩
  · rename_i unprocessed
    unfold processAlertReceived at done
    by_cases resolved : command.status = .resolved
    · rw [if_pos resolved] at done
      exact (processAlertResolved_cases done).receipts
    · rw [if_neg resolved] at done
      cases existing : existingAlert s command with
      | none => exact absurd ⟨unprocessed, alertStatus_firing resolved, existing⟩ old
      | some known =>
        obtain ⟨a, alert⟩ := known
        rw [insertAlertOrGetExisting_of_some existing] at done
        obtain ⟨processed, rfl⟩ := finalizeCommand_eq_ok done
        exact ⟨.refl SameReceipt.refl _, rfl⟩

theorem registerEvidenceRef_alerts {now : Time} {s s' : Store}
    {command : RegisterEvidenceRefCommand} {registered : Bool}
    (done : registerEvidenceRef now s command = .ok (registered, s')) :
    s'.alert.alerts = s.alert.alerts ∧ s'.incidents = s.incidents := by
  simp only [registerEvidenceRef, bind_eq_ok] at done
  obtain ⟨incident, _, done⟩ := done
  split at done
  · split_ifs at done
    cases done
    exact ⟨rfl, rfl⟩
  · cases done
    exact ⟨rfl, rfl⟩

theorem handleAlertReceived_founded {env : Env} {now : Time} {s s' : Store}
    {command : AlertReceivedCommand} {r : AlertReceivedResult}
    (done : handleAlertReceived env now s command = .ok (r, s')) (founded : Founded env s) :
    Founded env s' := by
  by_cases new : NewFiring s command
  · obtain ⟨i, created, r₁, s₁, done₁, ⟨chosen, alerts, _⟩, _⟩ :=
      handleAlertReceived_attached env now new
    rw [done] at done₁
    cases done₁
    have grown : Table.Evolves SameReceipt s.alert.alerts s'.alert.alerts := by
      rw [alerts]
      exact .insert SameReceipt.refl _ _
    generalize same : s'.incidents = incidents at chosen
    cases chosen with
    | matched decided named row =>
      refine founded.kept grown ?_ ?_
      · rw [same]
        exact .put SameOrigin.refl row ⟨rfl, rfl⟩
      · rw [same, List.length_set]
    | adopted decided selected =>
      refine founded.kept grown ?_ ?_
      · rw [same]
        exact .refl SameOrigin.refl _
      · rw [same]
    | opened decided missing =>
      -- the incident is opened with the bucket of `now`, and its alert is received now
      have kept : Table.Every (FoundedOn env s'.alert.alerts) s.incidents :=
        founded.imp fun i incident _ on => on.kept grown (.refl incident)
      unfold Founded
      rw [same]
      obtain ⟨alert, row, link, received⟩ : ∃ alert,
          s'.alert.alerts[s.alert.alerts.length]? = some alert ∧
            alert.incidentId = some s.incidents.length ∧ alert.receivedAt = now := by
        rw [alerts]
        exact ⟨_, List.getElem?_concat_length, rfl, rfl⟩
      exact kept.insert ⟨⟨_, rfl⟩, _, alert, row, link, received.ge⟩
  · obtain ⟨receipts, length⟩ := handleAlertReceived_receipts done new
    have told : Recounts s (fun _ => none) s' (fun _ => none) := handleAlertReceived_recounts done
    exact founded.kept receipts told.origins length

theorem step_founded {env : Env} {w : World} {e : Event} (founded : Founded env w.store) :
    Founded env (step env w e).store := by
  show Founded env (execute env (w.clock + e.elapsed) w.tickets w.store e.command)
  cases named : e.command with
  | alertReceived command =>
    show Founded env (committed w.store
      (handleAlertReceived env (w.clock + e.elapsed) w.store command))
    cases done : handleAlertReceived env (w.clock + e.elapsed) w.store command with
    | error refusal => exact founded
    | ok r => exact handleAlertReceived_founded done founded
  | registerEvidenceRef command =>
    show Founded env (committed w.store
      (registerEvidenceRef (w.clock + e.elapsed) w.store command))
    cases done : registerEvidenceRef (w.clock + e.elapsed) w.store command with
    | error refusal => exact founded
    | ok r =>
      obtain ⟨alerts, incidents⟩ := registerEvidenceRef_alerts done
      unfold Founded
      rw [show (committed w.store (Except.ok r)).incidents = w.store.incidents from incidents,
        show (committed w.store (Except.ok r)).alert.alerts = w.store.alert.alerts from alerts]
      exact founded
  | _ =>
    refine founded.kept ?_ (execute_recounted env _ _ _ _).origins
      (execute_receivesNothing env _ _ _ rfl).incidents
    rw [(execute_receivesNothing env _ _ _ rfl).alert]
    exact .refl SameReceipt.refl _

theorem run_founded (env : Env) (clock : Time) (events : List Event) :
    Founded env (runFrom env clock events).store :=
  Machine.state_invariant (P := fun w : World => Founded env w.store)
    (show Founded env (emptyWorld clock).store from Table.Every.nil)
    (fun _ _ founded => step_founded founded) events

/-- An incident that is not active at `now` is no candidate of correlation, whatever the
service asked for, and is not adopted under any key in the bucket of `now`. -/
structure AbsorbsNothing (env : Env) (now : Time) (s : Store) (i : Uuid) : Prop where
  noCandidate : ∀ service environment, ∀ c ∈ findOpenIncidentCandidates s service environment now
    env.candidateLookbackSeconds, c.incidentId ≠ i
  notAdopted : ∀ key severity service environment, (getOrCreateOpenIncident s now
    (key ++ ":" ++ toString (now / (env.candidateLookbackSeconds * 1000000))) severity service
      environment).1.1 ≠ i

/-- Incidents whose latest alert was received before the lookback absorb nothing, and a
new firing alert is attached to an active incident or to a fresh one. -/
structure LooksBack (env : Env) (now : Time) (s : Store) : Prop where
  stale : ∀ i incident latest, s.incidents[i]? = some incident → latestReceived s i = some latest →
    latest < now - env.candidateLookbackSeconds * 1000000 → AbsorbsNothing env now s i
  attached : ∀ command, NewFiring s command → ∃ r s' i alert,
    handleAlertReceived env now s command = .ok (r, s') ∧
      s'.alert.alerts[s.alert.alerts.length]? = some alert ∧ alert.incidentId = some i ∧
      (i = s.incidents.length ∨ Active env now s i)

end IncidentTriage.Verified
