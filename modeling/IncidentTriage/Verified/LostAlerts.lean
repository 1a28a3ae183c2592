import IncidentTriage.Incident.Observations
import IncidentTriage.Verified.Deliveries
import IncidentTriage.Verified.Transactions

/-! # Alerts that meet a closing incident

A delivery chooses the incident of its alert while that is open, and commits later; an
observation counts the firing alerts of its incident, and closes it later.  Neither looks again.
An alert is lost in one of the two gaps, and nowhere else.
-/

namespace IncidentTriage.Verified

open IncidentTriage.Python IncidentTriage.Domain IncidentTriage.Incident

/-! ## Recording an observation -/

theorem bind_congr_ok {ε α β : Type} {x : Except ε α} {f g : α → Except ε β}
    (same : ∀ a, x = .ok a → f a = g a) : (x >>= f) = (x >>= g) := by
  cases x with
  | error e => rfl
  | ok a => exact same a rfl

/-- A session alone with its store records what the command does as one transaction. -/
theorem recordSeeing_now (env : Env) (now : Time) (s : Store) (ticket : VerificationTicket)
    (sample : Sample) (evidenceIds : List Uuid) (observedAt : Time) :
    recordSeeing env now s ticket sample evidenceIds observedAt s.alert.alerts s.alert.alerts =
      recordObservation env now s ticket sample evidenceIds observedAt := by
  have unchanged : withAlerts s s.alert.alerts = s := rfl
  simp only [recordSeeing, recordObservation, unchanged]
  refine bind_congr_ok fun row _ => bind_congr_ok fun _ _ => bind_congr_ok fun s₁ inserted => ?_
  cases insertVerificationEvidence_eq_ok inserted
  split_ifs with verdict
  · refine bind_congr_ok fun made finalized => ?_
    obtain ⟨row', s₂⟩ := made
    obtain ⟨_, _, audit, frame⟩ := finalize_eq_ok finalized
    have kept : withAlerts s₂ s.alert.alerts = s₂ := by
      rw [frame]
      rfl
    exact congrArg (fun store => Except.ok (commitVerification store _ row')) kept
  · rfl

/-- What the commit of an observation does to the incidents and the verifications. -/
structure ObservationWrote (now : Time) (s s' : Store) (row : VerificationRow)
    (ticket : VerificationTicket) (sample : Sample) (seen : List AlertRow) : Prop where
  alert : s'.alert = s.alert
  incidents : s'.incidents = s.incidents ∨
    ∃ incident incident', s.incidents[row.incidentId]? = some incident ∧
      incident.status = .verifying ∧
      s'.incidents = s.incidents.set row.incidentId incident' ∧
      (observedDecision now s row ticket sample seen).status ≠ .running
  verifications : ∃ row', row'.incidentId = row.incidentId ∧
    row'.knownAlertIds = row.knownAlertIds ∧
    s'.verification.verifications =
      s.verification.verifications.set ticket.verificationId row'

theorem VerdictEffect.incidents_moved {env : Env} {now : Time} {s : Store} {id : Uuid}
    {row : VerificationRow} {status : VerificationStatus} {incidents : List IncidentRow}
    (effect : VerdictEffect env now s id row status incidents) :
    incidents = s.incidents ∨ ∃ incident incident', s.incidents[row.incidentId]? = some incident ∧
      incident.status = .verifying ∧ incidents = s.incidents.set row.incidentId incident' := by
  cases effect with
  | stale incident remediation reason incidentFound remediationFound stale same =>
    exact .inl same
  | resolved incident remediation incidentFound remediationFound fresh passed moved =>
    exact .inr ⟨incident, _, incidentFound, (staleness_eq_none fresh).1, moved⟩
  | escalated incident incident' remediation incidentFound remediationFound fresh notPassed
      status attemptCount moved =>
    exact .inr ⟨incident, incident', incidentFound, (staleness_eq_none fresh).1, moved⟩
  | reinvestigate incident remediation incidentFound remediationFound fresh notPassed
      attemptsLeft firing moved =>
    exact .inr ⟨incident, _, incidentFound, (staleness_eq_none fresh).1, moved⟩

theorem recordSeeing_wrote {env : Env} {now : Time} {s s' : Store} {ticket : VerificationTicket}
    {sample : Sample} {evidenceIds : List Uuid} {observedAt : Time} {seen weighed : List AlertRow}
    {view : VerificationView} {row : VerificationRow}
    (found : s.verification.verifications[ticket.verificationId]? = some row)
    (done : recordSeeing env now s ticket sample evidenceIds observedAt seen weighed =
      .ok (view, s')) : ObservationWrote now s s' row ticket sample seen := by
  simp only [recordSeeing, bind_eq_ok, lockVerification_eq_ok, ensure_eq_ok] at done
  obtain ⟨row₀, found₀, _, _, s₁, inserted, done⟩ := done
  rw [found] at found₀
  cases found₀
  cases insertVerificationEvidence_eq_ok inserted
  split_ifs at done with verdict
  · simp only [bind_eq_ok, pure_eq_ok] at done
    obtain ⟨⟨row', s₂⟩, finalized, done⟩ := done
    obtain ⟨closed, effect, audit, frame⟩ := finalize_eq_ok finalized
    cases done
    rw [frame]
    refine ⟨rfl, ?_, row', closed.same.incidentId, closed.knownAlertIds, rfl⟩
    rcases effect.incidents_moved with same | ⟨incident, incident', incidentFound, verifying, moved⟩
    · exact .inl same
    · exact .inr ⟨incident, incident', incidentFound, verifying, moved, verdict⟩
  · cases done
    refine ⟨rfl, .inl rfl, _, ?incident, ?known, rfl⟩
    case incident => rfl
    case known => rfl

/-! ## What is closed stays closed -/

theorem closedAt_iff {s : Store} {i : Uuid} :
    closedAt s i = true ↔ ∃ incident, s.incidents[i]? = some incident ∧
      isClosed incident.status = true := by
  unfold closedAt
  cases s.incidents[i]? <;> simp

theorem ObservationWrote.closed {now : Time} {s s' : Store} {row : VerificationRow}
    {ticket : VerificationTicket} {sample : Sample} {seen : List AlertRow}
    (wrote : ObservationWrote now s s' row ticket sample seen) {i : Uuid}
    (closed : closedAt s i = true) : closedAt s' i = true := by
  rcases wrote.incidents with same | ⟨incident, incident', found, verifying, moved, _⟩
  · rw [closedAt, same]
    exact closed
  · obtain ⟨there, here, isClosed_⟩ := closedAt_iff.mp closed
    have other : i ≠ row.incidentId := by
      rintro rfl
      rw [found] at here
      cases here
      rw [verifying] at isClosed_
      cases isClosed_
    refine closedAt_iff.mpr ⟨there, ?_, isClosed_⟩
    rw [moved, List.getElem?_set_ne (Ne.symm other)]
    exact here

theorem PlanWritten.closed {env : Env} {now : Time} {s s' : Store}
    {command : AlertReceivedCommand} {fingerprint : String} {plan : Plan}
    (wrote : PlanWritten env now s s' command fingerprint plan) {i : Uuid}
    (closed : closedAt s i = true) : closedAt s' i = true := by
  obtain ⟨incident, found, isClosed_⟩ := closedAt_iff.mp closed
  have same : s'.incidents = s.incidents → closedAt s' i = true := by
    intro same
    exact closedAt_iff.mpr ⟨incident, by rw [same]; exact found, isClosed_⟩
  have modified : ∀ (k : Uuid) (f : IncidentRow → IncidentRow),
      (∀ row, isClosed row.status = true → isClosed (f row).status = true) →
      s'.incidents = s.incidents.modify k f → closedAt s' i = true := by
    intro k f stays modified
    refine closedAt_iff.mpr ⟨if k = i then f incident else incident, ?_, ?_⟩
    · rw [modified]
      simp [List.getElem?_modify, found]
    · split_ifs
      · exact stays incident isClosed_
      · exact isClosed_
  cases wrote with
  | replay a k status incidents alerts => exact same incidents
  | unmatched incidents alerts => exact same incidents
  | ended a k row remaining stays incidents alerts => exact same incidents
  | cancelled a k row stored triaging stored_ version incidents alerts =>
    exact modified k _ (fun _ _ => rfl) incidents
  | joined decision k row incidents alerts =>
    unfold touchedIf at incidents
    split_ifs at incidents
    · exact modified k (touched now) (fun _ held => held) incidents
    · exact same incidents
  | opened decision incidents alerts =>
    refine closedAt_iff.mpr ⟨incident, ?_, isClosed_⟩
    rw [incidents, List.getElem?_append_left (Table.lt_of_row found)]
    exact found

theorem writePlan_verification {env : Env} {now : Time} {s s' : Store}
    {command : AlertReceivedCommand} {fingerprint : String} {plan : Plan}
    {result : AlertReceivedResult}
    (written : writePlan env now s command fingerprint plan = .ok (result, s')) :
    s'.verification = s.verification := by
  have marked : ∀ a, (markAlertResolved s now a).verification = s.verification := by
    intro a
    unfold markAlertResolved
    split <;> rfl
  have touched_ : ∀ i, (touchIncident s now i).verification = s.verification := by
    intro i
    unfold touchIncident
    split <;> rfl
  cases plan with
  | replay a i status =>
    cases written
    rfl
  | unmatched =>
    cases written
    rfl
  | resolve a i incident remaining =>
    simp only [writePlan, resolveAlert] at written
    split_ifs at written with last
    · simp only [bind_eq_ok, found_eq_ok, pure_eq_ok] at written
      obtain ⟨⟨moved, s₁⟩, transitioned, written⟩ := written
      cases written
      unfold transitionIncidentStatus at transitioned
      split at transitioned
      · cases transitioned
      · split_ifs at transitioned
        cases transitioned
        exact marked a
    · cases written
      exact marked a
  | link decision chosen =>
    cases chosen with
    | none =>
      cases written
      rfl
    | some chosen =>
      simp only [writePlan] at written
      split_ifs at written
      · cases written
        exact touched_ _
      · cases written
        rfl

/-! ## The two gaps -/

/-- A delivery that is about to commit joins no incident that has been closed. -/
def joinsOpen (w : Meeting) : MeetingEvent → Bool
  | .delivery (.advance k) =>
    match w.exchange.deliveries[k]? with
    | none => true
    | some d =>
      match d.phase with
      | .ready (.link _ (some (i, _))) => !closedAt w.store i
      | _ => true
  | _ => true

/-- An observation that is about to commit its verdict has counted every alert that fires for
its incident. -/
def countsAll (w : Meeting) : MeetingEvent → Bool
  | .advance k =>
    match w.observations[k]? with
    | none => true
    | some o =>
      match o.row w.store, o.phase with
      | some row, .weighing seen _ =>
        (Table.select (isFiringAlertOf row.incidentId) w.store.alert.alerts).all
          (fun a => (seen[a.1]?).any (isFiringAlertOf row.incidentId))
      | _, _ => true
  | _ => true

/-- The verification of the incident knew the alert when it began. -/
def KnownAtStart (s : Store) (i a : Uuid) : Prop :=
  ∃ (v : Uuid) (row : VerificationRow), s.verification.verifications[v]? = some row ∧
    row.incidentId = i ∧ a ∈ row.knownAlertIds.getD []

/-- The verdict that closed an incident has seen every alert that fires for it. -/
def Seen (s : Store) (c : Closing) : Prop :=
  ∀ (a : Uuid) (alert : AlertRow), s.alert.alerts[a]? = some alert →
    isFiringAlertOf c.incidentId alert = true → a ∈ c.counted ∨ KnownAtStart s c.incidentId a

/-- What holds of the closings so far. -/
def AllSeen (w : Meeting) : Prop :=
  ∀ c ∈ w.closings, closedAt w.store c.incidentId = true ∧ Seen w.store c

theorem KnownAtStart.kept {s s' : Store} {i a : Uuid} (known : KnownAtStart s i a)
    (rows : Table.Evolves (fun row row' : VerificationRow => row'.incidentId = row.incidentId ∧
      row'.knownAlertIds = row.knownAlertIds) s.verification.verifications
        s'.verification.verifications) : KnownAtStart s' i a := by
  obtain ⟨v, row, found, incident, listed⟩ := known
  obtain ⟨row', found', incident', known'⟩ := rows v row found
  exact ⟨v, row', found', incident'.trans incident, known' ▸ listed⟩

theorem ObservationWrote.rows {now : Time} {s s' : Store} {row : VerificationRow}
    {ticket : VerificationTicket} {sample : Sample} {seen : List AlertRow}
    (found : s.verification.verifications[ticket.verificationId]? = some row)
    (wrote : ObservationWrote now s s' row ticket sample seen) :
    Table.Evolves (fun row row' : VerificationRow => row'.incidentId = row.incidentId ∧
      row'.knownAlertIds = row.knownAlertIds) s.verification.verifications
        s'.verification.verifications := by
  obtain ⟨row', incident, known, rows⟩ := wrote.verifications
  rw [rows]
  exact .put (fun _ => ⟨rfl, rfl⟩) found ⟨incident, known⟩

/-- A commit of a delivery keeps the alerts seen, where it joins an open incident. -/
theorem AllSeen.delivered {env : Env} {now : Time} {s s' : Store}
    {command : AlertReceivedCommand} {fingerprint : String} {plan : Plan}
    (wrote : PlanWritten env now s s' command fingerprint plan)
    (verification : s'.verification = s.verification)
    (joins : ∀ decision i incident, plan = .link decision (some (i, incident)) →
      closedAt s i = false) {c : Closing} (closed : closedAt s c.incidentId = true)
    (seen : Seen s c) : Seen s' c := by
  have known : ∀ a, KnownAtStart s c.incidentId a → KnownAtStart s' c.incidentId a := by
    rintro a ⟨v, row, found, incident, listed⟩
    exact ⟨v, row, by rw [verification]; exact found, incident, listed⟩
  have before : ∀ (a : Uuid) (alert : AlertRow), s.alert.alerts[a]? = some alert →
      isFiringAlertOf c.incidentId alert = true →
      a ∈ c.counted ∨ KnownAtStart s' c.incidentId a :=
    fun a alert found firing => (seen a alert found firing).imp_right (known a)
  have ended : ∀ k, s'.alert.alerts = s.alert.alerts.modify k (·.ended now) → Seen s' c := by
    intro k alerts a alert found firing
    rw [alerts] at found
    rcases Table.get_modify.mp found with ⟨_, old, _, rfl⟩ | ⟨_, here⟩
    · simp [isFiringAlertOf, AlertRow.ended] at firing
    · exact before a alert here firing
  have inserted : ∀ row : AlertRow, isFiringAlertOf c.incidentId row = false →
      s'.alert.alerts = s.alert.alerts ++ [row] → Seen s' c := by
    intro row other alerts a alert found firing
    rw [alerts] at found
    rcases Table.get_insert.mp found with old | ⟨_, rfl⟩
    · exact before a alert old firing
    · rw [other] at firing
      cases firing
  cases wrote with
  | replay a k status incidents alerts =>
    intro a alert found firing
    rw [alerts] at found
    exact before a alert found firing
  | unmatched incidents alerts => exact inserted _ (by simp [isFiringAlertOf, newAlert]) alerts
  | ended a k row remaining stays incidents alerts => exact ended a alerts
  | cancelled a k row stored triaging stored_ version incidents alerts => exact ended a alerts
  | joined decision k row incidents alerts =>
    refine inserted _ ?_ alerts
    have apart : k ≠ c.incidentId := by
      rintro rfl
      rw [joins decision _ row rfl] at closed
      cases closed
    simp [isFiringAlertOf, apart]
  | opened decision incidents alerts =>
    refine inserted _ ?_ alerts
    obtain ⟨incident, found, _⟩ := closedAt_iff.mp closed
    have apart : s.incidents.length ≠ c.incidentId :=
      Nat.ne_of_gt (Table.lt_of_row found)
    simp [isFiringAlertOf, apart]

/-- A commit of an observation keeps the alerts seen by the verdicts before it. -/
theorem AllSeen.observed {now : Time} {s s' : Store} {row : VerificationRow}
    {ticket : VerificationTicket} {sample : Sample} {alerts : List AlertRow}
    (found : s.verification.verifications[ticket.verificationId]? = some row)
    (wrote : ObservationWrote now s s' row ticket sample alerts) {c : Closing}
    (seen : Seen s c) : Seen s' c := by
  intro a alert here firing
  rw [wrote.alert] at here
  exact (seen a alert here firing).imp_right (fun known => known.kept (wrote.rows found))

/-- Where every firing alert was counted, a verdict has seen them all. -/
theorem seen_of_counted {s : Store} {row : VerificationRow} {v : Uuid} {seen : List AlertRow}
    (found : s.verification.verifications[v]? = some row)
    (counted : (Table.select (isFiringAlertOf row.incidentId) s.alert.alerts).all
      (fun a => (seen[a.1]?).any (isFiringAlertOf row.incidentId)) = true) :
    Seen s { incidentId := row.incidentId, counted := newFiringIds (withAlerts s seen) row } := by
  intro a alert here firing
  have there := List.all_eq_true.mp counted (a, alert) (Table.mem_select.mpr ⟨here, firing⟩)
  obtain ⟨read, listed, fired⟩ := (Option.any_eq_true _ _).mp there
  by_cases known : a ∈ row.knownAlertIds.getD []
  · exact .inr ⟨v, row, found, rfl, known⟩
  · left
    refine List.mem_filter.mpr ⟨List.mem_map.mpr ⟨(a, read), ?_, rfl⟩, by simpa using known⟩
    exact Table.mem_select.mpr ⟨listed, fired⟩

theorem AllSeen.same {w w' : Meeting} (all : AllSeen w) (store : w'.store = w.store)
    (closings : w'.closings = w.closings) : AllSeen w' := by
  intro c listed
  rw [closings] at listed
  rw [store]
  exact all c listed

theorem record_allSeen {env : Env} {w : Meeting} {k : Nat} {o : Observation}
    {row : VerificationRow} {seen weighed : List AlertRow} (all : AllSeen w)
    (found : o.row w.store = some row)
    (counted : (observedDecision o.now w.store row o.ticket o.sample seen).status ≠ .running →
      (Table.select (isFiringAlertOf row.incidentId) w.store.alert.alerts).all
        (fun a => (seen[a.1]?).any (isFiringAlertOf row.incidentId)) = true) :
    AllSeen (w.record env k o row seen weighed) := by
  unfold Meeting.record
  split
  · exact all.same rfl rfl
  · rename_i view s done
    have wrote := recordSeeing_wrote found done
    have earlier : ∀ c ∈ w.closings, closedAt s c.incidentId = true ∧ Seen s c := by
      intro c listed
      obtain ⟨closed, seen⟩ := all c listed
      exact ⟨wrote.closed closed, AllSeen.observed found wrote seen⟩
    intro c listed
    by_cases closes : (!closedAt w.store row.incidentId && closedAt s row.incidentId) = true
    · rw [if_pos closes] at listed
      rcases List.mem_append.mp listed with old | new
      · exact earlier c old
      · rw [List.mem_singleton.mp new]
        obtain ⟨wasOpen, closed⟩ := Bool.and_eq_true_iff.mp closes
        rcases wrote.incidents with same | ⟨_, _, _, _, _, verdict⟩
        · rw [closedAt, same] at closed
          simp [closedAt, closed] at wasOpen
        · exact ⟨closed, AllSeen.observed found wrote (seen_of_counted found (counted verdict))⟩
    · rw [if_neg closes] at listed
      exact earlier c listed

/-- One step keeps the alerts seen, outside the two gaps. -/
theorem step_allSeen {env : Env} {w : Meeting} {e : MeetingEvent} (joins : joinsOpen w e = true)
    (counts : countsAll w e = true) (all : AllSeen w) : AllSeen (w.step env e) := by
  cases e with
  | delivery e =>
    let held := w.observations.filterMap (·.held w.store)
    have idle : ∀ x, w.exchange.step env held e = x → x.store = w.store →
        AllSeen (w.step env (.delivery e)) :=
      fun x moved same => all.same ((congrArg Exchange.store moved).trans same) rfl
    cases step_move env held w.exchange e with
    | waits same => exact idle _ same rfl
    | arrives d phase moved => exact idle _ moved rfl
    | reads k d event row moved => exact idle _ moved rfl
    | stops k d row unanswered moved => exact idle _ moved rfl
    | loses k d winner row ready taken moved => exact idle _ moved rfl
    | commits k d plan result s event row ready free written moved =>
      subst event
      have wrote := plan_written written
      have stays : ∀ decision i incident, plan = .link decision (some (i, incident)) →
          closedAt w.store i = false := by
        rintro decision i incident rfl
        simpa [joinsOpen, row, ready] using joins
      have store : (w.step env (.delivery (.advance k))).store = recorded s d.command result :=
        congrArg Exchange.store moved
      intro c listed
      obtain ⟨closed, seen⟩ := all c listed
      rw [store]
      exact ⟨wrote.closed closed,
        AllSeen.delivered wrote (writePlan_verification written) stays closed seen⟩
  | observe now ticket sample evidenceIds observedAt => exact all.same rfl rfl
  | advance k =>
    cases begun : w.observations[k]? with
    | none =>
      simp only [Meeting.step, begun]
      exact all
    | some o =>
      cases found : o.row w.store with
      | none =>
        simp only [Meeting.step, begun, found]
        exact all.same rfl rfl
      | some row =>
        simp only [Meeting.step, begun, found]
        unfold Meeting.proceed
        split
        · split_ifs <;> exact all.same rfl rfl
        · exact all.same rfl rfl
        · rename_i seen phase
          split_ifs with running
          · exact record_allSeen all found (fun verdict => absurd running verdict)
          · exact all
          · exact all.same rfl rfl
        · exact all.same rfl rfl
        · rename_i seen weighed phase
          exact record_allSeen all found fun _ => by
            simpa only [countsAll, begun, found, phase] using counts
        · exact all
        · exact all
  | abort k =>
    simp only [Meeting.step]
    cases w.observations[k]? with
    | none => exact all
    | some o =>
      simp only
      split
      · exact all
      · exact all.same rfl rfl

/-- Payments is restarted, two polls have found it healthy, and a third one is due. -/
def restartPolled : World :=
  Machine.run (step paymentsEnv) { store := {}, clock := 0, tickets := [] }
    (restartVerifying ++ polled 0 paymentsHealthy ++ polled 1 paymentsHealthy ++
      [{ elapsed := 60 * 1000000, command := .claimDue 0 "poller" 30 }])

/-- The third poll begins. -/
def thirdPoll : List MeetingEvent :=
  ((restartPolled.tickets[2]?).map (fun issued =>
    .observe (restartPolled.clock + 1000000) issued.ticket paymentsHealthy [] 0)).toList

/-- A second alert of payments arrives. -/
def secondAlert : MeetingEvent :=
  .delivery (.deliver (restartPolled.clock + 1000000) (paymentsAlert "k2" "a2" .firing))

/-- The verdict commits, and then a second alert opens an incident of its own. -/
def verdictFirst : List MeetingEvent :=
  thirdPoll ++ List.replicate 5 (.advance 0) ++ [secondAlert] ++
    List.replicate 5 (.delivery (.advance 0))

/-- The alert fires for the closed incident, was not counted, and no verification knew it. -/
def lost (w : Meeting) (a : Uuid) : Bool :=
  w.closings.any (fun c => (w.store.alert.alerts[a]?).any (isFiringAlertOf c.incidentId) &&
    !c.counted.contains a &&
      w.store.verification.verifications.all (fun row => !(row.knownAlertIds.getD []).contains a))

theorem not_allSeen_of_lost {w : Meeting} {a : Uuid} (is_lost : lost w a = true) :
    ¬ AllSeen w := by
  intro all
  obtain ⟨c, listed, missed⟩ := List.any_eq_true.mp is_lost
  simp only [Bool.and_eq_true, Bool.not_eq_true', List.all_eq_true] at missed
  obtain ⟨⟨fires, uncounted⟩, unknown⟩ := missed
  obtain ⟨alert, found, firing⟩ := (Option.any_eq_true _ _).mp fires
  rcases (all c listed).2 a alert found firing with counted | ⟨v, row, there, _, known⟩
  · simp [counted] at uncounted
  · have absent := unknown row (List.mem_of_getElem? there)
    simp [known] at absent

/-- The second alert has chosen the incident, and commits after the verdict. -/
def lateLink : List MeetingEvent :=
  [secondAlert] ++ List.replicate 4 (.delivery (.advance 0)) ++ thirdPoll ++
    List.replicate 5 (.advance 0) ++ [.delivery (.advance 0)]

/-- The second alert commits after the alerts were counted, and before the verdict. -/
def lateCount : List MeetingEvent :=
  thirdPoll ++ List.replicate 2 (.advance 0) ++ [secondAlert] ++
    List.replicate 5 (.delivery (.advance 0)) ++ List.replicate 3 (.advance 0)

/-- Either gap alone loses the alert. -/
theorem not_alerts_seen :
    ¬ AllSeen (meetingFrom paymentsEnv restartPolled.store lateLink) ∧
      ¬ AllSeen (meetingFrom paymentsEnv restartPolled.store lateCount) :=
  ⟨not_allSeen_of_lost (a := 1) (by decide +kernel),
   not_allSeen_of_lost (a := 1) (by decide +kernel)⟩

end IncidentTriage.Verified
