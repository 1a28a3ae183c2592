import IncidentTriage.Incident.Deliveries
import IncidentTriage.Verified.AlertTransactions

/-! # What a step of concurrent deliveries can do

`DeliveryMove` lists what one event does to the deliveries, and `PlanWritten` what a
commit does to the incidents and the alerts.  Two deliveries under way never hold one
correlation lock, never insert an alert under one external id and never insert an
incident of one key: `step_exclusive`.
-/

namespace IncidentTriage.Verified

open IncidentTriage.Python IncidentTriage.Domain IncidentTriage.Incident

/-! ## Steps -/

/-- The store once a command's result is on record. -/
def recorded (s : Store) (command : AlertReceivedCommand) (result : AlertReceivedResult) :
    Store :=
  { s with alert := { s.alert with
      processedCommands := s.alert.processedCommands ++
        [{ idempotencyKey := command.idempotencyKey, result }] } }

inductive DeliveryMove (env : Env) (x : Exchange) (e : DeliveryEvent) (x' : Exchange) : Prop
  | waits (same : x' = x)
  | arrives (d : Delivery)
      (phase : (d.phase = .begun ∧
          getProcessedCommand x.store d.command.idempotencyKey = none) ∨
        ∃ row, getProcessedCommand x.store d.command.idempotencyKey = some row ∧
          d.phase = .answered row.result)
      (moved : x' = { x with deliveries := x.deliveries ++ [d] })
  | reads (k : Nat) (d : Delivery) (event : e = .advance k) (row : x.deliveries[k]? = some d)
      (moved : x' = x.put k d (x.nextPhase env k d))
  | stops (k : Nat) (d : Delivery) (row : x.deliveries[k]? = some d)
      (unanswered : ∀ result, d.phase ≠ .answered result)
      (moved : x' = x.put k d .failed)
  | loses (k : Nat) (d : Delivery) (winner : ProcessedCommandRow)
      (row : x.deliveries[k]? = some d) (ready : ∃ plan, d.phase = .ready plan)
      (taken : getProcessedCommand x.store d.command.idempotencyKey = some winner)
      (moved : x' = x.put k d (.answered winner.result))
  | commits (k : Nat) (d : Delivery) (plan : Plan) (result : AlertReceivedResult) (s : Store)
      (event : e = .advance k) (row : x.deliveries[k]? = some d) (ready : d.phase = .ready plan)
      (free : getProcessedCommand x.store d.command.idempotencyKey = none)
      (written : writePlan env d.now x.store d.command (d.fingerprint env) plan =
        .ok (result, s))
      (moved : x' =
        { store := recorded s d.command result
          deliveries := x.deliveries.set k { d with phase := .answered result }
          order := x.order ++ [(d.now, d.command)] })

theorem commit_move {env : Env} {x : Exchange} {k : Nat} {d : Delivery} {plan : Plan}
    (row : x.deliveries[k]? = some d) (ready : d.phase = .ready plan) :
    DeliveryMove env x (.advance k) (x.commit env k d plan) := by
  unfold Exchange.commit
  split
  · exact .stops k d row (by simp [ready]) rfl
  · rename_i result s written
    cases taken : getProcessedCommand x.store d.command.idempotencyKey with
    | some winner => exact .loses k d winner row ⟨plan, ready⟩ taken rfl
    | none => exact .commits k d plan result s rfl row ready taken written rfl

theorem step_move (env : Env) (held : List Uuid) (x : Exchange) (e : DeliveryEvent) :
    DeliveryMove env x e (x.step env held e) := by
  cases e with
  | deliver now command =>
    refine .arrives _ ?_ rfl
    cases taken : getProcessedCommand x.store command.idempotencyKey with
    | none => exact .inl ⟨rfl, rfl⟩
    | some row => exact .inr ⟨row, rfl, rfl⟩
  | advance k =>
    simp only [Exchange.step]
    cases row : x.deliveries[k]? with
    | none => exact .waits rfl
    | some d =>
      simp only
      split
      · rename_i plan ready
        split_ifs
        · exact .waits rfl
        · exact commit_move row ready
      · exact .reads k d rfl row rfl
  | abort k =>
    simp only [Exchange.step]
    cases row : x.deliveries[k]? with
    | none => exact .waits rfl
    | some d =>
      simp only
      split
      · exact .waits rfl
      · rename_i unanswered
        exact .stops k d row unanswered rfl

/-! ## Reads -/

/-- Another delivery has inserted an alert under the command's external id. -/
def claimedElsewhere (x : Exchange) (k : Nat) (d : Delivery) : Bool :=
  d.command.externalId.isSome && x.another k (fun other =>
    other.insertsAlert && other.command.source == d.command.source &&
      other.command.externalId == d.command.externalId)

/-- What a delivery can read next, from one phase to another. -/
inductive PhaseRead (env : Env) (x : Exchange) (k : Nat) (d : Delivery) :
    DeliveryPhase → DeliveryPhase → Prop
  | waits (phase : DeliveryPhase) : PhaseRead env x k d phase phase
  | refused (phase : DeliveryPhase) : PhaseRead env x k d phase .failed
  | locks (free : x.another k (fun other => other.holdsLock && other.sameLock d) = false) :
      PhaseRead env x k d .begun .locked
  | misses (resolved : d.command.status = .resolved)
      (missing : findAlertToResolve x.store d.command (d.fingerprint env) = none) :
      PhaseRead env x k d .locked .missed
  | findsEnded (resolved : d.command.status = .resolved) (a : Uuid) (alert : AlertRow)
      (matched : findAlertToResolve x.store d.command (d.fingerprint env) = some (a, alert))
      (ended : alert.status = .resolved) :
      PhaseRead env x k d .locked (.known a alert.incidentId)
  | finds (resolved : d.command.status = .resolved) (a : Uuid) (alert : AlertRow)
      (matched : findAlertToResolve x.store d.command (d.fingerprint env) = some (a, alert))
      (fires : alert.status = .firing) : PhaseRead env x k d .locked (.found a alert)
  | findsExisting (fires : d.command.status = .firing) (a : Uuid) (alert : AlertRow)
      (existing : existingAlert x.store d.command = some (a, alert)) :
      PhaseRead env x k d .locked (.known a alert.incidentId)
  | inserts (fires : d.command.status = .firing) (free : claimedElsewhere x k d = false)
      (missing : existingAlert x.store d.command = none) :
      PhaseRead env x k d .locked .inserted
  | replays (a : Uuid) (i : Option Uuid) :
      PhaseRead env x k d (.known a i) (.ready (.replay a i (incidentStatusOf x.store i)))
  | decides :
      PhaseRead env x k d .inserted
        (.decided (correlationDecision env d.now x.store d.command (d.fingerprint env)))
  | joins (decision : CorrelationDecision) (i : Uuid) (incident : IncidentRow)
      (correlates : decision.decision = .correlate) (named : decision.matchedIncidentId = some i)
      (row : x.store.incidents[i]? = some incident) :
      PhaseRead env x k d (.decided decision) (.ready (.link decision (some (i, incident))))
  | shares (decision : CorrelationDecision) (i : Uuid) (incident : IncidentRow)
      (isNew : decision.decision = .newIncident)
      (selected : selectOpenIncident x.store (bucketKey env d.now decision) =
        some (i, incident)) :
      PhaseRead env x k d (.decided decision) (.ready (.link decision (some (i, incident))))
  | opens (decision : CorrelationDecision) (isNew : decision.decision = .newIncident)
      (missing : selectOpenIncident x.store (bucketKey env d.now decision) = none)
      (free : x.another k
        (fun other => other.insertedKey env == some (bucketKey env d.now decision)) = false) :
      PhaseRead env x k d (.decided decision) (.ready (.link decision none))
  | unmatched (free : claimedElsewhere x k d = false)
      (missing : existingAlert x.store d.command = none) :
      PhaseRead env x k d .missed (.ready .unmatched)
  | marks (a : Uuid) (alert : AlertRow) :
      PhaseRead env x k d (.found a alert) (.marked a alert)
  | sees (a : Uuid) (alert : AlertRow) (i : Uuid) (incident : IncidentRow)
      (link : alert.incidentId = some i) (row : x.store.incidents[i]? = some incident) :
      PhaseRead env x k d (.marked a alert) (.sawIncident a i incident)
  | counts (a i : Uuid) (incident : IncidentRow) :
      PhaseRead env x k d (.sawIncident a i incident)
        (.ready (.resolve a i incident
          (countFiringAlerts (markAlertResolved x.store d.now a) i)))

theorem lookup_read {env : Env} {x : Exchange} {k : Nat} {d : Delivery}
    (phase : d.phase = .locked) : PhaseRead env x k d .locked (x.lookup env k d) := by
  unfold Exchange.lookup
  split_ifs with resolved claimed
  · split
    · rename_i missing
      exact .misses resolved missing
    · rename_i a alert matched
      split_ifs with ended
      · exact .findsEnded resolved a alert matched ended
      · exact .finds resolved a alert matched (alertStatus_firing ended)
  · rw [phase]
    exact .waits .locked
  · have free : claimedElsewhere x k d = false := by simpa [claimedElsewhere] using claimed
    split
    · rename_i a alert existing
      exact .findsExisting (alertStatus_firing resolved) a alert existing
    · rename_i missing
      exact .inserts (alertStatus_firing resolved) free missing

theorem chooseIncident_read {env : Env} {x : Exchange} {k : Nat} {d : Delivery}
    {decision : CorrelationDecision} (phase : d.phase = .decided decision) :
    PhaseRead env x k d (.decided decision) (x.chooseIncident env k d decision) := by
  unfold Exchange.chooseIncident
  split
  · rename_i correlates
    split
    · rename_i i named
      split
      · rename_i incident row
        exact .joins decision i incident correlates named row
      · exact .refused _
    · exact .refused _
  · rename_i isNew
    split
    · rename_i existing selected
      exact .shares decision existing.1 existing.2 isNew selected
    · rename_i missing
      split_ifs with taken
      · rw [phase]
        exact .waits _
      · exact .opens decision isNew missing (by simpa using taken)

theorem nextPhase_read (env : Env) (x : Exchange) (k : Nat) (d : Delivery) :
    PhaseRead env x k d d.phase (x.nextPhase env k d) := by
  unfold Exchange.nextPhase
  cases phase : d.phase with
  | begun =>
    simp only
    split_ifs with taken
    · exact .waits _
    · exact .locks (by simpa using taken)
  | locked => exact lookup_read phase
  | known a i => exact .replays a i
  | inserted => exact .decides
  | decided decision => exact chooseIncident_read phase
  | missed =>
    simp only [Exchange.insertUnmatched]
    split_ifs with claimed existing
    · rw [phase]
      exact .waits _
    · exact .refused _
    · exact .unmatched (by simpa [claimedElsewhere] using claimed) (by simpa using existing)
  | found a alert =>
    simp only
    split_ifs
    · exact .waits _
    · exact .marks a alert
  | marked a alert =>
    simp only
    split
    · rename_i i link
      split
      · rename_i incident row
        exact .sees a alert i incident link row
      · exact .refused _
    · exact .refused _
  | sawIncident a i incident => exact .counts a i incident
  | ready plan => exact .waits _
  | answered result => exact .waits _
  | failed => exact .waits _

/-! ## What two deliveries exclude -/

/-- Two deliveries the database would not let run on together. -/
def conflict (env : Env) (d other : Delivery) : Prop :=
  (d.holdsLock = true ∧ other.holdsLock = true ∧ d.sameLock other = true) ∨
  (d.insertsAlert = true ∧ other.insertsAlert = true ∧ d.command.externalId.isSome = true ∧
    d.command.source = other.command.source ∧
    d.command.externalId = other.command.externalId) ∨
  (∃ key, d.insertedKey env = some key ∧ other.insertedKey env = some key)

theorem sameLock_comm (d other : Delivery) : d.sameLock other = other.sameLock d := by
  simp only [Delivery.sameLock, Bool.beq_comm]

theorem conflict_symm {env : Env} {d other : Delivery} (clash : conflict env d other) :
    conflict env other d := by
  rcases clash with ⟨mine, its, lock⟩ | ⟨mine, its, external, source, same⟩ | ⟨key, mine, its⟩
  · exact .inl ⟨its, mine, by rw [sameLock_comm]; exact lock⟩
  · exact .inr (.inl ⟨its, mine, same ▸ external, source.symm, same.symm⟩)
  · exact .inr (.inr ⟨key, its, mine⟩)

theorem another_of_row {x : Exchange} {k j : Nat} {p : Delivery → Bool} {other : Delivery}
    (row : x.deliveries[j]? = some other) (apart : j ≠ k) (holds : p other = true) :
    x.another k p = true := by
  refine List.any_eq_true.mpr ⟨(other, j), List.mem_zipIdx_iff_getElem?.mpr row, ?_⟩
  simpa [apart] using holds

/-- What holds no lock and has inserted nothing excludes nobody. -/
theorem not_conflict_of_idle {env : Env} {d other : Delivery} (unlocked : d.holdsLock = false)
    (alert : d.insertsAlert = false) (key : d.insertedKey env = none) :
    ¬ conflict env d other := by
  simp [conflict, unlocked, alert, key]

theorem not_claimed_of_free {x : Exchange} {k j : Nat} {d other : Delivery}
    (free : claimedElsewhere x k d = false) (row : x.deliveries[j]? = some other)
    (apart : j ≠ k) (inserted : other.insertsAlert = true)
    (external : d.command.externalId.isSome = true)
    (source : d.command.source = other.command.source)
    (same : d.command.externalId = other.command.externalId) : False := by
  have taken := another_of_row (p := fun other => other.insertsAlert &&
    other.command.source == d.command.source &&
    other.command.externalId == d.command.externalId) row apart (by simp [inserted, source, same])
  simp [claimedElsewhere, external, taken] at free

/-- A delivery that takes nothing new excludes nobody new. -/
theorem not_conflict_of_kept {env : Env} {d d' other : Delivery}
    (compatible : ¬ conflict env d other) (command : d'.command = d.command)
    (lock : d'.holdsLock = true → d.holdsLock = true)
    (alert : d'.insertsAlert = true → d.insertsAlert = true)
    (key : ∀ key, d'.insertedKey env = some key → d.insertedKey env = some key) :
    ¬ conflict env d' other := by
  rintro (⟨mine, its, same⟩ | ⟨mine, its, external, source, same⟩ | ⟨k, mine, its⟩)
  · have alike : d.sameLock other = d'.sameLock other := by simp [Delivery.sameLock, command]
    exact compatible (.inl ⟨lock mine, its, alike.trans same⟩)
  · rw [command] at external source same
    exact compatible (.inr (.inl ⟨alert mine, its, external, source, same⟩))
  · exact compatible (.inr (.inr ⟨k, key k mine, its⟩))

theorem nextPhase_conflict {env : Env} {x : Exchange} {k j : Nat} {d other : Delivery}
    (row : x.deliveries[j]? = some other) (apart : j ≠ k) (compatible : ¬ conflict env d other) :
    ¬ conflict env { d with phase := x.nextPhase env k d } other := by
  obtain ⟨command, now, phase⟩ := d
  have read := nextPhase_read env x k ⟨command, now, phase⟩
  generalize x.nextPhase env k ⟨command, now, phase⟩ = next at read ⊢
  -- only four reads take something that another delivery may hold
  cases read with
  | waits => exact compatible
  | locks free =>
    rintro (⟨_, its, lock⟩ | ⟨mine, _⟩ | ⟨key, mine, _⟩)
    · have taken := another_of_row
        (p := fun other => other.holdsLock && other.sameLock ⟨command, now, .begun⟩) row apart
        (Bool.and_eq_true_iff.mpr ⟨its, (sameLock_comm other _).trans lock⟩)
      simp [free] at taken
    · simp [Delivery.insertsAlert] at mine
    · simp [Delivery.insertedKey] at mine
  | inserts fires free missing =>
    rintro (⟨_, its, lock⟩ | ⟨_, its, external, source, same⟩ | ⟨key, mine, _⟩)
    · exact compatible (.inl ⟨rfl, its, lock⟩)
    · exact not_claimed_of_free free row apart its external source same
    · simp [Delivery.insertedKey] at mine
  | unmatched free missing =>
    rintro (⟨_, its, lock⟩ | ⟨_, its, external, source, same⟩ | ⟨key, mine, _⟩)
    · exact compatible (.inl ⟨rfl, its, lock⟩)
    · exact not_claimed_of_free free row apart its external source same
    · simp [Delivery.insertedKey] at mine
  | opens decision isNew missing free =>
    rintro (⟨_, its, lock⟩ | ⟨_, its, external, source, same⟩ | ⟨key, mine, its⟩)
    · exact compatible (.inl ⟨rfl, its, lock⟩)
    · exact compatible (.inr (.inl ⟨rfl, its, external, source, same⟩))
    · have taken := another_of_row
        (p := fun other => other.insertedKey env == some (bucketKey env now decision)) row apart
        (by simpa [Delivery.insertedKey] using its.trans mine.symm)
      simp [free] at taken
  | refused => exact not_conflict_of_idle rfl rfl rfl
  | _ =>
    exact not_conflict_of_kept compatible rfl (fun _ => rfl)
      (by simp [Delivery.insertsAlert]) (by simp [Delivery.insertedKey])

theorem put_exclusive {env : Env} {x : Exchange} {k : Nat} {d : Delivery} {phase : DeliveryPhase}
    (apart : Table.Exclusive (conflict env) x.deliveries) (row : x.deliveries[k]? = some d)
    (compatible : ∀ (j : Nat) (other : Delivery), j ≠ k → x.deliveries[j]? = some other →
      ¬ conflict env d other → ¬ conflict env { d with phase } other) :
    Table.Exclusive (conflict env) (x.deliveries.set k { d with phase }) :=
  apart.put conflict_symm row fun j other different found =>
    compatible j other different found (apart k j d other row found (Ne.symm different))

theorem step_exclusive {env : Env} {held : List Uuid} {x : Exchange} {e : DeliveryEvent}
    (apart : Table.Exclusive (conflict env) x.deliveries) :
    Table.Exclusive (conflict env) (x.step env held e).deliveries := by
  cases step_move env held x e with
  | waits same => rw [same]; exact apart
  | arrives d phase moved =>
    rw [moved]
    refine apart.insert conflict_symm fun j other found => ?_
    rcases phase with ⟨begun, _⟩ | ⟨row, _, answered⟩
    · exact not_conflict_of_idle (by simp [Delivery.holdsLock, begun])
        (by simp [Delivery.insertsAlert, begun]) (by simp [Delivery.insertedKey, begun])
    · exact not_conflict_of_idle (by simp [Delivery.holdsLock, answered])
        (by simp [Delivery.insertsAlert, answered]) (by simp [Delivery.insertedKey, answered])
  | reads k d event row moved =>
    rw [moved]
    exact put_exclusive apart row fun j other different found => nextPhase_conflict found different
  | stops k d row unanswered moved =>
    rw [moved]
    exact put_exclusive apart row fun _ _ _ _ _ => not_conflict_of_idle rfl rfl rfl
  | loses k d winner row ready taken moved =>
    rw [moved]
    exact put_exclusive apart row fun _ _ _ _ _ => not_conflict_of_idle rfl rfl rfl
  | commits k d plan result s event row ready free written moved =>
    rw [moved]
    exact put_exclusive apart row fun _ _ _ _ _ => not_conflict_of_idle rfl rfl rfl

/-! ## Commits -/

/-- The incident as a linked alert leaves it. -/
def touched (now : Time) (incident : IncidentRow) : IncidentRow :=
  { incident with updatedAt := now }

/-- The incidents once an alert was linked to one that is there. -/
def touchedIf (incidents : List IncidentRow) (now : Time) (decision : CorrelationDecision)
    (i : Uuid) : List IncidentRow :=
  if decision.decision = .correlate then incidents.modify i (touched now)
  else incidents

/-- What a plan does to the incidents and the alerts. -/
inductive PlanWritten (env : Env) (now : Time) (s s' : Store) (command : AlertReceivedCommand)
    (fingerprint : String) : Plan → Prop
  | replay (a : Uuid) (i : Option Uuid) (status : Option IncidentStatus)
      (incidents : s'.incidents = s.incidents) (alerts : s'.alert.alerts = s.alert.alerts) :
      PlanWritten env now s s' command fingerprint (.replay a i status)
  | unmatched (incidents : s'.incidents = s.incidents)
      (alerts : s'.alert.alerts =
        s.alert.alerts ++ [newAlert command fingerprint now .resolved (some now)]) :
      PlanWritten env now s s' command fingerprint .unmatched
  | ended (a i : Uuid) (incident : IncidentRow) (remaining : Nat)
      (stays : ¬ (remaining = 0 ∧ incident.status = .triaging))
      (incidents : s'.incidents = s.incidents)
      (alerts : s'.alert.alerts = s.alert.alerts.modify a (·.ended now)) :
      PlanWritten env now s s' command fingerprint (.resolve a i incident remaining)
  | cancelled (a i : Uuid) (incident stored : IncidentRow) (triaging : incident.status = .triaging)
      (row : s.incidents[i]? = some stored) (version : stored.version = incident.version)
      (incidents : s'.incidents = s.incidents.modify i (·.moved now .cancelled true))
      (alerts : s'.alert.alerts = s.alert.alerts.modify a (·.ended now)) :
      PlanWritten env now s s' command fingerprint (.resolve a i incident 0)
  | joined (decision : CorrelationDecision) (i : Uuid) (incident : IncidentRow)
      (incidents : s'.incidents = touchedIf s.incidents now decision i)
      (alerts : s'.alert.alerts = s.alert.alerts ++
        [{ newAlert command fingerprint now command.status none with incidentId := some i }]) :
      PlanWritten env now s s' command fingerprint (.link decision (some (i, incident)))
  | opened (decision : CorrelationDecision)
      (incidents : s'.incidents = s.incidents ++ [newIncident now (bucketKey env now decision)
        command.severity command.service command.environment])
      (alerts : s'.alert.alerts = s.alert.alerts ++
        [{ newAlert command fingerprint now command.status none with
            incidentId := some s.incidents.length }]) :
      PlanWritten env now s s' command fingerprint (.link decision none)

theorem alerts_markAlertResolved (s : Store) (now : Time) (a : Uuid) :
    (markAlertResolved s now a).alert.alerts = s.alert.alerts.modify a (·.ended now) := by
  unfold markAlertResolved
  split
  · rename_i alert row
    exact Table.put_eq_modify row (·.ended now)
  · rename_i missing
    exact (Table.modify_missing missing _).symm

theorem incidents_markAlertResolved (s : Store) (now : Time) (a : Uuid) :
    (markAlertResolved s now a).incidents = s.incidents := by
  unfold markAlertResolved
  split <;> rfl

theorem incidents_touchIncident (s : Store) (now : Time) (i : Uuid) :
    (touchIncident s now i).incidents = s.incidents.modify i (touched now) := by
  unfold touchIncident
  split
  · rename_i incident row
    exact Table.put_eq_modify row (touched now)
  · rename_i missing
    exact (Table.modify_missing missing _).symm

theorem alert_touchIncident (s : Store) (now : Time) (i : Uuid) :
    (touchIncident s now i).alert = s.alert := by
  unfold touchIncident
  split <;> rfl

theorem plan_written {env : Env} {now : Time} {s s' : Store} {command : AlertReceivedCommand}
    {fingerprint : String} {plan : Plan} {result : AlertReceivedResult}
    (written : writePlan env now s command fingerprint plan = .ok (result, s')) :
    PlanWritten env now s s' command fingerprint plan := by
  cases plan with
  | replay a i status =>
    cases written
    exact .replay a i status rfl rfl
  | unmatched =>
    cases written
    exact .unmatched rfl rfl
  | resolve a i incident remaining =>
    simp only [writePlan, resolveAlert] at written
    split_ifs at written with last
    · simp only [bind_eq_ok, found_eq_ok, pure_eq_ok] at written
      obtain ⟨⟨moved, s₁⟩, transitioned, written⟩ := written
      cases written
      obtain ⟨rfl, triaging⟩ := last
      have same : ∀ s₀ : Store, (insertOutboxEvent s₀ now .alert a (some i)
          (.alertResolved a i 0)).incidents = s₀.incidents := fun _ => rfl
      unfold transitionIncidentStatus at transitioned
      split at transitioned
      · cases transitioned
      · rename_i stored row
        rw [same, incidents_markAlertResolved] at row
        split_ifs at transitioned with version
        cases transitioned
        refine .cancelled a i incident stored triaging row version ?_ ?_
        · simp only [putIncident, insertOutboxEvent, incidents_markAlertResolved]
          exact Table.put_eq_modify row (·.moved now .cancelled true)
        · exact alerts_markAlertResolved s now a
    · cases written
      exact .ended a i incident remaining last (incidents_markAlertResolved s now a)
        (alerts_markAlertResolved s now a)
  | link decision chosen =>
    cases chosen with
    | none =>
      cases written
      exact .opened decision rfl rfl
    | some chosen =>
      obtain ⟨i, incident⟩ := chosen
      simp only [writePlan] at written
      by_cases correlates : decision.decision = .correlate
      · rw [if_pos correlates] at written
        cases written
        refine .joined decision i incident ?_ ?_
        · show (touchIncident s now i).incidents = _
          rw [incidents_touchIncident, touchedIf, if_pos correlates]
        · show (touchIncident s now i).alert.alerts ++ _ = _
          rw [alert_touchIncident]
      · rw [if_neg correlates] at written
        cases written
        refine .joined decision i incident ?_ ?_
        · show s.incidents = _
          rw [touchedIf, if_neg correlates]
        · rfl

/-! ## What a delivery knows -/

/-- It has read nothing yet, or has ended. -/
def AtRest (d : Delivery) : Prop :=
  d.phase = .begun ∨ d.phase = .failed ∨ ∃ result, d.phase = .answered result

/-- What a step makes of the deliveries, when what a delivery knows survives its own reads
and the commits of the others. -/
theorem step_deliveries {env : Env} {held : List Uuid} {x : Exchange} {e : DeliveryEvent}
    {P : Store → Delivery → Prop} (all : Table.Every (fun _ d => P x.store d) x.deliveries)
    (resting : ∀ (s : Store) (d : Delivery), AtRest d → P s d)
    (reads : ∀ (k : Nat) (d : Delivery) (phase : DeliveryPhase), e = .advance k →
      x.deliveries[k]? = some d → PhaseRead env x k d d.phase phase → P x.store d →
      P x.store { d with phase })
    (commits : ∀ (k : Nat) (d : Delivery) (plan : Plan) (result : AlertReceivedResult) (s : Store)
      (j : Nat) (other : Delivery), e = .advance k → x.deliveries[k]? = some d →
      d.phase = .ready plan → getProcessedCommand x.store d.command.idempotencyKey = none →
      writePlan env d.now x.store d.command (d.fingerprint env) plan = .ok (result, s) →
      x.deliveries[j]? = some other → j ≠ k → P x.store other →
      P (recorded s d.command result) other) :
    Table.Every (fun _ d => P (x.step env held e).store d) (x.step env held e).deliveries := by
  cases step_move env held x e with
  | waits same => rw [same]; exact all
  | arrives d phase moved =>
    rw [moved]
    refine all.insert (resting _ _ ?_)
    rcases phase with ⟨begun, _⟩ | ⟨row, _, answered⟩
    · exact .inl begun
    · exact .inr (.inr ⟨_, answered⟩)
  | reads k d event row moved =>
    rw [moved]
    exact all.put row (reads k d _ event row (nextPhase_read env x k d) (all k d row))
  | stops k d row unanswered moved =>
    rw [moved]
    exact all.put row (resting _ _ (.inr (.inl rfl)))
  | loses k d winner row ready taken moved =>
    rw [moved]
    exact all.put row (resting _ _ (.inr (.inr ⟨_, rfl⟩)))
  | commits k d plan result s event row ready free written moved =>
    rw [moved]
    intro j other found
    rcases (Table.get_put row).mp found with ⟨rfl, rfl⟩ | ⟨apart, old⟩
    · exact resting _ _ (.inr (.inr ⟨_, rfl⟩))
    · exact commits k d plan result s j other event row ready free written old apart (all j other old)

end IncidentTriage.Verified
