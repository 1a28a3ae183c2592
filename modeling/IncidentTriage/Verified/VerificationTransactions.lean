import IncidentTriage.Verified.Outbox

/-! # What a verification transaction can do

`VerificationEffect env now tickets c s s'` lists what a committed verification
command `c` does to the incidents and to the tables of the service;
`VerificationStep` adds that the tables of the other services stay as they were.
What a verdict does to the incident is `VerdictEffect`.
-/

namespace IncidentTriage.Verified

open IncidentTriage.Python IncidentTriage.Domain IncidentTriage.Incident

/-- The columns of a verification that are fixed once it is requested. -/
structure SameVerification (row row' : VerificationRow) : Prop where
  incidentId : row'.incidentId = row.incidentId
  remediationId : row'.remediationId = row.remediationId
  spec : row'.spec = row.spec
  baseline : row'.baseline = row.baseline

/-- The row a transaction works on: observation begins with it, or has begun. -/
inductive Begun (s : Store) (now : Time) (row : VerificationRow) : VerificationRow → Prop
  | now (pending : row.status = .pending) : Begun s now row (row.started s now)
  | before (running : row.status = .running) : Begun s now row row

/-- A verification with its verdict: only its terminal columns changed. -/
structure Closed (row row' : VerificationRow) (status : VerificationStatus) : Prop where
  same : SameVerification row row'
  status : row'.status = status
  observationCount : row'.observationCount = row.observationCount
  conclusiveCount : row'.conclusiveCount = row.conclusiveCount
  consecutiveSuccesses : row'.consecutiveSuccesses = row.consecutiveSuccesses
  claimAttempt : row'.claimAttempt = row.claimAttempt
  graceUntil : row'.graceUntil = row.graceUntil
  knownAlertIds : row'.knownAlertIds = row.knownAlertIds
  leaseOwner : row'.leaseOwner = none

/-- What a verdict does to the incidents. -/
inductive VerdictEffect (env : Env) (now : Time) (s : Store) (id : Uuid) (row : VerificationRow)
    (status : VerificationStatus) (incidents : List IncidentRow) : Prop
  /-- The verdict is not applied. -/
  | stale (incident : IncidentRow) (remediation : RemediationRow) (reason : String)
      (incidentFound : s.incidents[row.incidentId]? = some incident)
      (remediationFound : s.remediation.remediations[row.remediationId]? = some remediation)
      (stale : staleness s id row incident remediation = some reason)
      (same : incidents = s.incidents)
  | resolved (incident : IncidentRow) (remediation : RemediationRow)
      (incidentFound : s.incidents[row.incidentId]? = some incident)
      (remediationFound : s.remediation.remediations[row.remediationId]? = some remediation)
      (fresh : staleness s id row incident remediation = none)
      (passed : status = .passed)
      (moved : incidents = s.incidents.set row.incidentId (incident.moved now .resolved))
  | escalated (incident incident' : IncidentRow) (remediation : RemediationRow)
      (incidentFound : s.incidents[row.incidentId]? = some incident)
      (remediationFound : s.remediation.remediations[row.remediationId]? = some remediation)
      (fresh : staleness s id row incident remediation = none)
      (notPassed : status ≠ .passed)
      (status : incident'.status = .escalated)
      (attemptCount : incident'.attemptCount = incident.attemptCount)
      (moved : incidents = s.incidents.set row.incidentId incident')
  | reinvestigate (incident : IncidentRow) (remediation : RemediationRow)
      (incidentFound : s.incidents[row.incidentId]? = some incident)
      (remediationFound : s.remediation.remediations[row.remediationId]? = some remediation)
      (fresh : staleness s id row incident remediation = none)
      (notPassed : status ≠ .passed)
      (attemptsLeft : incident.attemptCount < env.maxInvestigationAttempts)
      (firing : 0 < countFiringAlerts s row.incidentId)
      (moved : incidents =
        s.incidents.set row.incidentId (incident.moved now .verificationFailed))

/-- One poll's observation, as it is recorded under a ticket. -/
structure RecordedPoll (now : Time) (s : Store) (ticket : VerificationTicket)
    (row row' : VerificationRow) (observation : VerificationObservationRow)
    (result : ObservationResult) : Prop where
  found : s.verification.verifications[ticket.verificationId]? = some row
  running : row.status = .running
  owner : row.leaseOwner = some ticket.owner
  claim : row.claimAttempt = ticket.claimAttempt
  after : row' = row.observed now ticket.spec result
  verificationId : observation.verificationId = ticket.verificationId
  sequence : observation.sequence = row.observationCount + 1
  claimAttempt : observation.claimAttempt = ticket.claimAttempt
  passed : observation.passed = result.passed
  conclusive : observation.conclusive = result.conclusive
  consistent : result.passed = true → result.conclusive = true

/-- What one poll says: the ticket's sample, with the alerts that are firing now. -/
def pollResult (s : Store) (ticket : VerificationTicket) (row : VerificationRow)
    (sample : Sample) : ObservationResult :=
  evaluateSample ticket.spec { sample with newFiringAlerts := some (newFiringAlerts s row) }

inductive VerificationEffect (env : Env) (now : Time) (tickets : List IssuedTicket)
    (c : Command) (s s' : Store) : Prop
  | started (id : Uuid) (row : VerificationRow)
      (found : s.verification.verifications[id]? = some row)
      (pending : row.status = .pending)
      (incidents : s'.incidents = s.incidents)
      (tables : s'.verification = { s.verification with
        verifications := s.verification.verifications.set id (row.started s now) })
      (quiet : NoVerdict s s')
  | claimed (id : Uuid) (row row₁ : VerificationRow) (owner : String) (leaseSeconds : ℚ)
      (command : c = .claimDue id owner leaseSeconds)
      (found : s.verification.verifications[id]? = some row)
      (begun : Begun s now row row₁)
      (due : beforeNextPoll row₁ now = false)
      (incidents : s'.incidents = s.incidents)
      (tables : s'.verification = { s.verification with
        verifications := s.verification.verifications.set id
          (row₁.claimed now owner leaseSeconds) })
      (quiet : NoVerdict s s') (free : leaseHeld row₁ now = false)
      (early : pastDeadline row₁ now = false)
  /-- The deadline arrives without a poll. -/
  | closed (id : Uuid) (row row₁ row' : VerificationRow) (decision : Decision)
      (found : s.verification.verifications[id]? = some row)
      (begun : Begun s now row row₁)
      (late : pastDeadline row₁ now = true)
      (decided : decision = row₁.spec.decide (latestResult s id) row₁.consecutiveSuccesses
        row₁.conclusiveCount now (row₁.deadlineAt.getD now))
      (verdict : decision.status ≠ .pending ∧ decision.status ≠ .running)
      (closed : Closed row₁ row' decision.status)
      (effect : VerdictEffect env now s id row₁ decision.status s'.incidents)
      (tables : s'.verification = { s.verification with
        verifications := s.verification.verifications.set id row' })
      (command : ∃ owner leaseSeconds, c = .claimDue id owner leaseSeconds)
      (free : leaseHeld row₁ now = false)
      (events : VerdictPublishes s s' id row₁)
  | observed (position : Nat) (issued : IssuedTicket) (sample : Sample)
      (evidenceIds : List Uuid) (observedAt : Time) (row row' : VerificationRow)
      (observation : VerificationObservationRow) (result : ObservationResult)
      (links : List VerificationEvidenceRow)
      (command : c = .recordObservation position sample evidenceIds observedAt)
      (held : tickets[position]? = some issued)
      (recorded : RecordedPoll now s issued.ticket row row' observation result)
      (incidents : s'.incidents = s.incidents)
      (tables : s'.verification = { s.verification with
        verifications := s.verification.verifications.set issued.ticket.verificationId row'
        observations := s.verification.observations ++ [observation]
        evidence := s.verification.evidence ++ links })
      (quiet : NoVerdict s s')
  /-- The poll's observation decides. -/
  | decided (position : Nat) (issued : IssuedTicket) (sample : Sample)
      (evidenceIds : List Uuid) (observedAt : Time) (row row₁ row' : VerificationRow)
      (observation : VerificationObservationRow) (result : ObservationResult)
      (links : List VerificationEvidenceRow) (decision : Decision)
      (command : c = .recordObservation position sample evidenceIds observedAt)
      (held : tickets[position]? = some issued)
      (recorded : RecordedPoll now s issued.ticket row row₁ observation result)
      (decided : decision = issued.ticket.spec.decide (some result) row₁.consecutiveSuccesses
        row₁.conclusiveCount now (row₁.deadlineAt.getD now))
      (verdict : decision.status ≠ .pending ∧ decision.status ≠ .running)
      (closed : Closed row₁ row' decision.status)
      (effect : VerdictEffect env now s issued.ticket.verificationId row₁ decision.status
        s'.incidents)
      (tables : s'.verification = { s.verification with
        verifications := s.verification.verifications.set issued.ticket.verificationId row'
        observations := s.verification.observations ++ [observation]
        evidence := s.verification.evidence ++ links })
      (evaluated : result = pollResult s issued.ticket row sample)
      (events : VerdictPublishes s s' issued.ticket.verificationId row₁)

structure VerificationStep (env : Env) (now : Time) (tickets : List IssuedTicket) (c : Command)
    (s s' : Store) : Prop where
  effect : VerificationEffect env now tickets c s s'
  alert : s'.alert = s.alert
  investigation : s'.investigation = s.investigation
  remediation : s'.remediation = s.remediation
  publishes : Publishes ofVerifications s s'

/-! ## Reading the relations -/

theorem SameVerification.trans {a b c : VerificationRow} (first : SameVerification a b)
    (second : SameVerification b c) : SameVerification a c :=
  ⟨second.incidentId.trans first.incidentId, second.remediationId.trans first.remediationId,
    second.spec.trans first.spec, second.baseline.trans first.baseline⟩

theorem Begun.same {s : Store} {now : Time} {row row₁ : VerificationRow}
    (begun : Begun s now row row₁) : SameVerification row row₁ := by
  cases begun <;> constructor <;> rfl

theorem Begun.isOpen {s : Store} {now : Time} {row row₁ : VerificationRow}
    (begun : Begun s now row row₁) : row.status = .pending ∨ row.status = .running := by
  cases begun with
  | now pending => exact .inl pending
  | before running => exact .inr running

theorem Begun.running {s : Store} {now : Time} {row row₁ : VerificationRow}
    (begun : Begun s now row row₁) : row₁.status = .running := by
  cases begun with
  | now pending => rfl
  | before running => exact running

theorem staleness_eq_none {s : Store} {id : Uuid} {row : VerificationRow} {incident : IncidentRow}
    {remediation : RemediationRow} (fresh : staleness s id row incident remediation = none) :
    incident.status = .verifying ∧ remediation.status = .executed ∧
      remediation.verificationRef = some id ∧
      s.remediation.remediations.countP (fun r => r.incidentId == row.incidentId &&
        decide (remediation.createdAt < r.createdAt)) = 0 := by
  unfold staleness at fresh
  split_ifs at fresh with verifying executed owner newer
  exact ⟨not_not.mp verifying, not_not.mp executed, not_not.mp owner, not_not.mp newer⟩

/-! ## Verdicts -/

theorem lockVerification_eq_ok {s : Store} {id : Uuid} {row : VerificationRow} :
    lockVerification s id = .ok row ↔ s.verification.verifications[id]? = some row :=
  found_eq_ok

theorem moveVerifiedIncident_eq_ok {s s' : Store} {now : Time} {i : Uuid}
    {incident incident' : IncidentRow} {toStatus : IncidentStatus} {reason : String}
    (done : moveVerifiedIncident s now i incident toStatus reason = .ok (incident', s'))
    (row : s.incidents[i]? = some incident) :
    incident' = incident.moved now toStatus ∧ ∃ audit, s' = { s with
      incidents := s.incidents.set i (incident.moved now toStatus)
      audit := audit } := by
  simp only [moveVerifiedIncident, bind_eq_ok, found_eq_ok, pure_eq_ok] at done
  obtain ⟨⟨moved, s₁⟩, transitioned, done⟩ := done
  cases eq_of_transitionIncidentStatus transitioned row
  cases done
  exact ⟨rfl, _, rfl⟩

theorem applyVerdict_eq_ok {env : Env} {s s' : Store} {now : Time} {id : Uuid}
    {row : VerificationRow} {incident : IncidentRow} {remediation : RemediationRow}
    {status : VerificationStatus} {nextAction : String}
    (done : applyVerdict env s now id row incident status = .ok (nextAction, s'))
    (incidentFound : s.incidents[row.incidentId]? = some incident)
    (remediationFound : s.remediation.remediations[row.remediationId]? = some remediation)
    (fresh : staleness s id row incident remediation = none) :
    VerdictEffect env now s id row status s'.incidents ∧
      ∃ audit, s' = { s with incidents := s'.incidents, audit := audit } := by
  unfold applyVerdict at done
  split at done
  · simp only [bind_eq_ok, pure_eq_ok] at done
    obtain ⟨⟨moved, s₁⟩, left, done⟩ := done
    obtain ⟨rfl, audit, rfl⟩ := moveVerifiedIncident_eq_ok left incidentFound
    cases done
    exact ⟨.resolved incident remediation incidentFound remediationFound fresh rfl rfl, _, rfl⟩
  · simp only [bind_eq_ok, pure_eq_ok] at done
    obtain ⟨⟨moved, s₁⟩, left, done⟩ := done
    obtain ⟨rfl, audit, rfl⟩ := moveVerifiedIncident_eq_ok left incidentFound
    cases done
    refine ⟨.escalated incident _ remediation incidentFound remediationFound fresh (by simp)
      ?_ ?_ rfl, _, rfl⟩
    · rfl
    · rfl
  · rename_i notPassed notTimedOut
    simp only [bind_eq_ok] at done
    obtain ⟨⟨moved, s₁⟩, left, done⟩ := done
    obtain ⟨rfl, audit, rfl⟩ := moveVerifiedIncident_eq_ok left incidentFound
    replace done : (if incident.attemptCount < env.maxInvestigationAttempts ∧
        0 < countFiringAlerts s row.incidentId then _ else _) = Except.ok (nextAction, s') := done
    by_cases again : incident.attemptCount < env.maxInvestigationAttempts ∧
        0 < countFiringAlerts s row.incidentId
    · rw [if_pos again] at done
      cases done
      exact ⟨.reinvestigate incident remediation incidentFound remediationFound fresh notPassed
        again.1 again.2 rfl, _, rfl⟩
    · rw [if_neg again] at done
      simp only [bind_eq_ok, pure_eq_ok] at done
      obtain ⟨⟨moved, s₂⟩, left', done⟩ := done
      have inside := Table.lt_of_row incidentFound
      obtain ⟨rfl, audit', rfl⟩ := moveVerifiedIncident_eq_ok left' (by simp [inside])
      cases done
      refine ⟨.escalated incident _ remediation incidentFound remediationFound fresh notPassed
        ?_ ?_ (List.set_set _), _, rfl⟩
      · rfl
      · rfl

theorem finalize_eq_ok {env : Env} {s s' : Store} {now : Time} {id : Uuid}
    {row row' : VerificationRow} {decision : Decision}
    (done : finalize env s now id row decision = .ok (row', s')) :
    Closed row row' decision.status ∧ VerdictEffect env now s id row decision.status s'.incidents ∧
      ∃ audit, s' = { s with incidents := s'.incidents, audit := audit } := by
  simp only [finalize, bind_eq_ok, found_eq_ok, pure_eq_ok] at done
  obtain ⟨incident, incidentFound, remediation, remediationFound, ⟨settled, s₁⟩, settles, done⟩ :=
    done
  unfold settleVerdict at settles
  split at settles
  · rename_i reason stale
    cases settles
    cases done
    exact ⟨by constructor <;> first | rfl | (constructor <;> rfl),
      .stale incident remediation reason incidentFound remediationFound stale rfl, _, rfl⟩
  · rename_i fresh
    simp only [bind_eq_ok, pure_eq_ok] at settles
    obtain ⟨⟨nextAction, s₂⟩, applied, settles⟩ := settles
    cases settles
    cases done
    replace applied : applyVerdict env s now id (row.finalized now decision) incident
        decision.status = .ok (nextAction, s₂) := applied
    obtain ⟨effect, audit, frame⟩ := applyVerdict_eq_ok applied incidentFound remediationFound fresh
    refine ⟨by constructor <;> first | rfl | (constructor <;> rfl), ?_, ?_⟩
    · cases effect with
      | stale incident remediation reason incidentFound remediationFound stale same =>
        exact .stale incident remediation reason incidentFound remediationFound stale same
      | resolved incident remediation incidentFound remediationFound fresh passed moved =>
        exact .resolved incident remediation incidentFound remediationFound fresh passed moved
      | escalated incident incident' remediation incidentFound remediationFound fresh notPassed
          status attemptCount moved =>
        exact .escalated incident incident' remediation incidentFound remediationFound fresh
          notPassed status attemptCount moved
      | reinvestigate incident remediation incidentFound remediationFound fresh notPassed
          attemptsLeft firing moved =>
        exact .reinvestigate incident remediation incidentFound remediationFound fresh notPassed
          attemptsLeft firing moved
    · rw [frame]
      exact ⟨_, rfl⟩

/-- A verdict depends on the incidents, the alerts and the remediations only. -/
theorem VerdictEffect.frame {env : Env} {now : Time} {s s₁ : Store} {id : Uuid}
    {row : VerificationRow} {status : VerificationStatus} {incidents : List IncidentRow}
    (effect : VerdictEffect env now s₁ id row status incidents)
    (sameIncidents : s₁.incidents = s.incidents) (sameAlert : s₁.alert = s.alert)
    (sameRemediation : s₁.remediation = s.remediation) :
    VerdictEffect env now s id row status incidents := by
  cases s
  cases s₁
  cases sameIncidents
  cases sameAlert
  cases sameRemediation
  cases effect with
  | stale incident remediation reason incidentFound remediationFound stale same =>
    exact .stale incident remediation reason incidentFound remediationFound stale same
  | resolved incident remediation incidentFound remediationFound fresh passed moved =>
    exact .resolved incident remediation incidentFound remediationFound fresh passed moved
  | escalated incident incident' remediation incidentFound remediationFound fresh notPassed
      status attemptCount moved =>
    exact .escalated incident incident' remediation incidentFound remediationFound fresh
      notPassed status attemptCount moved
  | reinvestigate incident remediation incidentFound remediationFound fresh notPassed
      attemptsLeft firing moved =>
    exact .reinvestigate incident remediation incidentFound remediationFound fresh notPassed
      attemptsLeft firing moved

/-! ## The commands -/

theorem start_step {env : Env} {now : Time} {tickets : List IssuedTicket} {c : Command}
    {s s' : Store} {id : Uuid} {view : VerificationView}
    (done : start now s id = .ok (view, s')) :
    s' = s ∨ VerificationStep env now tickets c s s' := by
  simp only [start, bind_eq_ok, lockVerification_eq_ok] at done
  obtain ⟨row, found, done⟩ := done
  split_ifs at done with pending
  · cases done
    have quiet := startVerification_publishes s now id row
    exact .inr ⟨.started id row found pending rfl rfl (quiet.write rfl), rfl, rfl, rfl,
      quiet.publishes⟩
  · cases done
    exact .inl rfl

/-- At the deadline the decision is a verdict. -/
theorem decide_pastDeadline {row : VerificationRow} {now : Time}
    {latest : Option ObservationResult} {streak conclusive : Nat}
    (late : pastDeadline row now = true) :
    (row.spec.decide latest streak conclusive now (row.deadlineAt.getD now)).status ≠ .pending ∧
      (row.spec.decide latest streak conclusive now (row.deadlineAt.getD now)).status ≠
        .running := by
  refine ⟨decide_ne_pending, decide_at_deadline ?_⟩
  unfold pastDeadline at late
  cases deadline : row.deadlineAt with
  | none => simp
  | some t => simpa [deadline] using late

/-- A claim of a verification that is running, or has just begun in `s₁`. -/
theorem claimRunning_step {env : Env} {now : Time} {tickets : List IssuedTicket}
    {s s₁ s' : Store} {id : Uuid} {row row₁ : VerificationRow} {owner : String}
    {leaseSeconds : ℚ} {ticket : Option VerificationTicket}
    (done : claimRunning env now s₁ id row₁ owner leaseSeconds = .ok (ticket, s'))
    (found : s.verification.verifications[id]? = some row) (begun : Begun s now row row₁)
    (audit : ∃ audit, s₁ = { s with audit := audit }) (quiet : NoVerdict s s₁)
    (same : row.status = .running → s₁ = s) :
    s' = s ∨ VerificationStep env now tickets (.claimDue id owner leaseSeconds) s s' := by
  have unpolled : s' = (commitVerification s₁ id row₁).2 →
      s' = s ∨ VerificationStep env now tickets (.claimDue id owner leaseSeconds) s s' := by
    rintro rfl
    cases begun with
    | now pending =>
      obtain ⟨audit, rfl⟩ := audit
      exact .inr ⟨.started id row found pending rfl rfl (quiet.write rfl), rfl, rfl, rfl,
        quiet.publishes⟩
    | before running =>
      left
      rw [same running]
      simp only [commitVerification, Table.set_same found]
  obtain ⟨audit, rfl⟩ := audit
  unfold claimRunning at done
  by_cases held : leaseHeld row₁ now = true
  · rw [if_pos held] at done
    cases done
    exact unpolled rfl
  rw [if_neg held] at done
  by_cases late : pastDeadline row₁ now = true
  · rw [if_pos late] at done
    simp only [bind_eq_ok, pure_eq_ok] at done
    obtain ⟨⟨row', s₂⟩, finalized, done⟩ := done
    obtain ⟨closed, effect, audit', frame⟩ := finalize_eq_ok finalized
    have events := (finalize_publishes finalized).after quiet fun applies => applies
    cases done
    rw [frame] at events ⊢
    exact .inr ⟨.closed id row row₁ row' _ found begun late rfl (decide_pastDeadline late) closed
      (effect.frame rfl rfl rfl) rfl ⟨owner, leaseSeconds, rfl⟩ (by simpa using held)
      (events.write rfl), rfl, rfl, rfl, events.publishes⟩
  rw [if_neg late] at done
  by_cases early : beforeNextPoll row₁ now = true
  · rw [if_pos early] at done
    cases done
    exact unpolled rfl
  · rw [if_neg early] at done
    cases done
    exact .inr ⟨.claimed id row row₁ owner leaseSeconds rfl found begun (by simpa using early)
      rfl rfl (quiet.write rfl) (by simpa using held) (by simpa using late), rfl, rfl, rfl, quiet.publishes⟩

theorem claimDue_step {env : Env} {now : Time} {tickets : List IssuedTicket} {s s' : Store}
    {id : Uuid} {owner : String} {leaseSeconds : ℚ} {ticket : Option VerificationTicket}
    (done : claimDue env now s id owner leaseSeconds = .ok (ticket, s')) :
    s' = s ∨ VerificationStep env now tickets (.claimDue id owner leaseSeconds) s s' := by
  simp only [claimDue, bind_eq_ok, lockVerification_eq_ok] at done
  obtain ⟨row, found, done⟩ := done
  split at done
  · rename_i pending
    exact claimRunning_step done found (.now pending) ⟨_, rfl⟩
      (startVerification_publishes s now id row) (by simp [pending])
  · rename_i running
    exact claimRunning_step done found (.before running) ⟨_, rfl⟩ (.of_audit rfl) (fun _ => rfl)
  · cases done
    exact .inl rfl

/-- What a claim hands out, and under which row. -/
theorem claimDue_ticket {env : Env} {now : Time} {s s' : Store} {id : Uuid} {owner : String}
    {leaseSeconds : ℚ} {ticket : VerificationTicket}
    (done : claimDue env now s id owner leaseSeconds = .ok (some ticket, s')) :
    ∃ row row₁, s.verification.verifications[id]? = some row ∧ Begun s now row row₁ ∧
      beforeNextPoll row₁ now = false ∧ ticket.verificationId = id ∧ ticket.spec = row₁.spec ∧
      ticket.claimAttempt = row₁.claimAttempt + 1 ∧
      s'.verification.verifications = s.verification.verifications.set id
        (row₁.claimed now owner leaseSeconds) := by
  have running : ∀ {s₁ : Store} {row₁ : VerificationRow},
      claimRunning env now s₁ id row₁ owner leaseSeconds = .ok (some ticket, s') →
      beforeNextPoll row₁ now = false ∧ ticket.verificationId = id ∧ ticket.spec = row₁.spec ∧
        ticket.claimAttempt = row₁.claimAttempt + 1 ∧
        s'.verification.verifications = s₁.verification.verifications.set id
          (row₁.claimed now owner leaseSeconds) := by
    intro s₁ row₁ claimed
    unfold claimRunning at claimed
    split_ifs at claimed with held late early
    · cases claimed
    · simp only [bind_eq_ok, pure_eq_ok] at claimed
      obtain ⟨_, _, claimed⟩ := claimed
      cases claimed
    · cases claimed
    · cases claimed
      exact ⟨by simpa using early, rfl, rfl, rfl, rfl⟩
  simp only [claimDue, bind_eq_ok, lockVerification_eq_ok] at done
  obtain ⟨row, found, done⟩ := done
  split at done
  · rename_i pending
    have handed := running done
    exact ⟨row, _, found, .now pending, handed⟩
  · rename_i status
    exact ⟨row, row, found, .before status, running done⟩
  · cases done

theorem recordObservation_step {env : Env} {now : Time} {tickets : List IssuedTicket}
    {s s' : Store} {position : Nat} {issued : IssuedTicket} {sample : Sample}
    {evidenceIds : List Uuid} {observedAt : Time} {view : VerificationView}
    (done : recordObservation env now s issued.ticket sample evidenceIds observedAt =
      .ok (view, s'))
    (held : tickets[position]? = some issued) :
    VerificationStep env now tickets
      (.recordObservation position sample evidenceIds observedAt) s s' := by
  simp only [recordObservation, bind_eq_ok, lockVerification_eq_ok, ensure_eq_ok] at done
  obtain ⟨row, found, _, ⟨running, owner, claim⟩, s₁, inserted, done⟩ := done
  cases insertVerificationEvidence_eq_ok inserted
  generalize sampled :
    evaluateSample issued.ticket.spec { sample with newFiringAlerts := some (newFiringAlerts s row) }
      = result at done
  have consistent : result.passed = true → result.conclusive = true := by
    rw [← sampled]
    exact evaluateSample_passed
  split_ifs at done with verdict
  · simp only [bind_eq_ok, pure_eq_ok] at done
    obtain ⟨⟨row', s₂⟩, finalized, done⟩ := done
    obtain ⟨closed, effect, audit, frame⟩ := finalize_eq_ok finalized
    have events := (finalize_publishes finalized).after (s := s) (.of_audit rfl)
      fun applies => applies
    cases done
    rw [frame] at events ⊢
    refine ⟨.decided position issued sample evidenceIds observedAt row _ row' _ result _ _ rfl held
      ?recorded rfl ⟨decide_ne_pending, verdict⟩ closed (effect.frame rfl rfl rfl) rfl sampled.symm
      (events.write rfl), rfl, rfl, rfl, events.publishes⟩
    case recorded =>
      exact ⟨found, running, owner, claim, rfl, rfl, rfl, rfl, rfl, rfl, consistent⟩
  · cases done
    refine ⟨.observed position issued sample evidenceIds observedAt row ?row ?obs result ?links rfl
      held
      ?recorded rfl ?tables (.of_audit rfl), rfl, rfl, rfl, .of_audit rfl⟩
    case tables => rfl
    case recorded =>
      exact ⟨found, running, owner, claim, rfl, rfl, rfl, rfl, rfl, rfl, consistent⟩

end IncidentTriage.Verified
