import IncidentTriage.Verified.Answerable
import IncidentTriage.Verified.ApprovalTimeout
import IncidentTriage.Verified.Attempts
import IncidentTriage.Verified.Resolution

/-! # Taking up what waits

A worker that takes up a work item nobody holds is not refused, and does not leave it as it was:
the incident gets its investigation, the lease is taken, the request is withdrawn, the attempt is
started, handed on or given up, the verification begins or reaches its verdict.
-/

namespace IncidentTriage.Verified

open IncidentTriage.Python IncidentTriage.Domain IncidentTriage.Incident
open IncidentTriage.Remediation

section
variable {env : Env} {now : Time} {s s' : Store} {id : Uuid}

/-! ## Incidents that wait for an investigation -/

/-- An incident that waits, with an alert firing, gets its investigation. -/
theorem requestInvestigation_begins (sound : InvestigationsSound env s) {incident : IncidentRow}
    (found : s.incidents[id]? = some incident)
    (waiting : incident.status = .triaging ∨ incident.status = .verificationFailed)
    (firing : 0 < countFiringAlerts s id) (now : Time) (provider model : String)
    (settings : Dict) (budget : InvestigationBudget) :
    ∃ started s', requestInvestigation now s id provider model settings budget =
      .ok (started, s') ∧ statusAt s'.incidents id = some .investigating := by
  have idle := (sound.cases id).investigating
  have elsewhere : ¬ (caseOf s id).status = some .investigating := by
    rw [caseOf, statusAt_found found]
    rcases waiting with status | status <;> simp [status]
  rw [if_neg elsewhere] at idle
  have noneOpen : Table.first (fun v => v.incidentId == id && v.status.isOpen)
      s.investigation.investigations = none := by
    cases listed : Table.first (fun v : InvestigationRow => v.incidentId == id && v.status.isOpen)
      s.investigation.investigations with
    | none => rfl
    | some v =>
      obtain ⟨row, isOpen⟩ := Table.first_some listed
      exact absurd idle (Nat.ne_of_gt (Table.countP_pos row isOpen))
  have inside := Table.lt_of_row found
  have counted : (putIncident s id { incident with
      attemptCount := incident.attemptCount + 1 }).incidents[id]? =
      some { incident with attemptCount := incident.attemptCount + 1 } := by
    simp [putIncident, inside]
  have some : countFiringAlerts s id ≠ 0 := Nat.ne_of_gt firing
  simp only [requestInvestigation, Domain.found, found, bind, Except.bind, noneOpen, ensure,
    if_pos waiting, if_pos some, transitionIncidentStatus_of_read counted, pure, Except.pure]
  refine ⟨_, _, rfl, ?_⟩
  simp [statusEvent, insertOutboxEvent, putIncident, statusAt, inside, IncidentRow.moved]

/-! ## Investigations -/

/-- An open investigation without a live lease is claimed. -/
theorem claim_changes (owner : String) {leaseSeconds : Int} {row : InvestigationRow}
    (found : s.investigation.investigations[id]? = some row) (isOpen : row.status.isOpen = true)
    (free : leaseLive now row.leaseExpiresAt = false) (lasts : 0 < leaseSeconds) :
    ∃ state s', claim now s id owner leaseSeconds = .ok (state, s') ∧
      s'.investigation.investigations[id]? ≠ some row := by
  have unfinished : row.status ∉ terminalInvestigationStatuses := by
    cases status : row.status <;> simp_all [InvestigationStatus.isOpen,
      terminalInvestigationStatuses]
  let claimed : InvestigationRow := { row with
    status := .investigating
    leaseOwner := some owner
    leaseExpiresAt := some (now + leaseSeconds * 1000000)
    startedAt := some (row.startedAt.getD now)
    updatedAt := now }
  have there : (putInvestigation s id claimed).investigation.investigations[id]? =
      some claimed := by
    simp [putInvestigation, Table.lt_of_row found]
  obtain ⟨state, loaded⟩ :=
    loadState_answers (ledgerOf_eq_some (l := ⟨claimed, _⟩).mpr ⟨there, rfl⟩)
  refine ⟨some state, putInvestigation s id claimed, ?_, ?_⟩
  · simp only [claim, bind_eq_ok, lockInvestigation_eq_ok]
    refine ⟨row, found, ?_⟩
    rw [if_neg unfinished, if_neg (by simp [free])]
    exact bind_eq_ok.mpr ⟨state, loaded, rfl⟩
  · rw [there]
    intro same
    have lease : row.leaseExpiresAt = some (now + leaseSeconds * 1000000) :=
      (congrArg (·.leaseExpiresAt) (Option.some.inj same)).symm
    simp only [lease, leaseLive, decide_eq_false_iff_not] at free
    exact free (lt_add_of_pos_right now (Int.mul_pos lasts (by decide)))

/-! ## Requests for approval -/

theorem expireEach_nothingAsked (ids : List Uuid) (s : Store) :
    NothingAsked s (expireEach env now ids s).2 := by
  induction ids generalizing s with
  | nil => exact .refl s
  | cons id ids ih =>
    simp only [expireEach]
    cases outcome : expireApproval env now s id with
    | error e => exact .refl s
    | ok r => exact (expireApproval_nothingAsked outcome).trans (ih r.2)

/-- What a sweep lists does not wait after it. -/
theorem expireEach_settles (ids : List Uuid) (sound : RemediationsSound s)
    (known : ∀ k ∈ ids, ∃ row, s.remediation.remediations[k]? = some row) (member : id ∈ ids)
    {row : RemediationRow}
    (found : (expireEach env now ids s).2.remediation.remediations[id]? = some row) :
    row.status ≠ .awaitingApproval := by
  induction ids generalizing s with
  | nil => cases member
  | cons k ids ih =>
    obtain ⟨_, there⟩ := known k (.head ids)
    obtain ⟨⟨expired, s₁⟩, done⟩ := expireApproval_succeeds env now sound there
    have told := expireApproval_recounted done
    have quiet := expireApproval_nothingAsked done
    simp only [expireEach, done] at found
    rcases List.mem_cons.mp member with rfl | later
    · -- It stopped to wait in its own transaction, and nothing asks again.
      intro waits
      obtain ⟨row₁, found₁, _, same⟩ := (expireEach_nothingAsked ids s₁).rows id row found
      obtain rfl := same waits
      exact expireApproval_settles done found₁ waits
    · exact ih (sound.quiet told quiet)
        (fun j listed => told.stays (known j (.tail k listed)).choose_spec) later found

/-- After a sweep nothing waits that was past the timeout. -/
theorem expireApprovals_settles {row row' : RemediationRow} (sound : RemediationsSound s)
    (found : s.remediation.remediations[id]? = some row) (overdue : isOverdue env now row = true)
    (after : (expireApprovals env now s).2.remediation.remediations[id]? = some row') :
    row'.status ≠ .awaitingApproval := by
  refine expireEach_settles (overdueIds env now s) sound ?_ ?_ after
  · intro k listed
    obtain ⟨⟨_, row⟩, selected, rfl⟩ := List.mem_map.mp listed
    exact ⟨row, (Table.mem_select.mp selected).1⟩
  · exact List.mem_map.mpr ⟨(id, row), Table.mem_select.mpr ⟨found, overdue⟩, rfl⟩

/-! ## Executions -/

theorem finishFailed_succeeds {row : RemediationRow} {incident : IncidentRow}
    (code text actor : String) (allowed : canTransition row.status .failed = true)
    (placed : s.incidents[row.incidentId]? = some incident) :
    ∃ r, finishFailed s now id row incident code text actor = .ok r := by
  unfold finishFailed
  refine bind_succeeds ?_ ?_
  · exact bind_succeeds ⟨(), ensure_eq_ok.mpr allowed⟩ fun _ _ => ⟨_, rfl⟩
  · rintro ⟨moved, s₁⟩ transitioned
    obtain ⟨_, rfl, audit, rfl⟩ := transition_eq_ok transitioned
    refine bind_succeeds (moveIncident_succeeds ?_) fun _ _ => ⟨_, rfl⟩
    exact placed

/-- Another row than was read is committed. -/
theorem commitRemediation_changes {row row' : RemediationRow} {s₁ : Store}
    (found : s.remediation.remediations[id]? = some row)
    (kept : s₁.remediation.remediations = s.remediation.remediations) (other : row' ≠ row) :
    (commitRemediation s₁ id row').2.remediation.remediations[id]? ≠ some row := by
  simp [commitRemediation, kept, Table.lt_of_row found, other]

/-- An attempt is started, or the remediation is stopped or fails. -/
theorem startAttempt_changes (env : Env) (now : Time) (owner : String) (leaseSeconds : Int)
    {row : RemediationRow} (found : s.remediation.remediations[id]? = some row)
    (placed : ∃ incident, s.incidents[row.incidentId]? = some incident)
    (active : row.status = .approved ∨ row.status = .executing) :
    ∃ ticket s', startAttempt env now s id row owner leaseSeconds = .ok (ticket, s') ∧
      s'.remediation.remediations[id]? ≠ some row := by
  obtain ⟨incident, placed⟩ := placed
  simp only [startAttempt, bind_eq_ok, lockIncident_eq_ok]
  cases blocked : executionBlocker env s id row (getEntry row.actionId) with
  | some blocker =>
    obtain ⟨code, text⟩ := blocker
    dsimp only
    by_cases switched : code = "kill_switch"
    · have allowed : canTransition row.status .cancelled = true := by
        rcases active with status | status <;> rw [status] <;> decide
      obtain ⟨⟨moved, s₁⟩, finished⟩ : ∃ r, finishCancelled s now id row incident "cancelled"
          "system:kill-switch" text .escalated = .ok r := finishCancelled_succeeds allowed placed
      obtain ⟨ended, audit, frame⟩ := finishCancelled_eq_ok finished placed
      refine ⟨none, (commitRemediation s₁ id moved).2, ⟨incident, placed, ?_⟩, ?_⟩
      · rw [if_pos switched]
        exact bind_eq_ok.mpr ⟨_, finished, rfl⟩
      · refine commitRemediation_changes found (by rw [frame]) ?_
        rintro rfl
        rcases active with status | status <;> simp [ended.status] at status
    · have allowed : canTransition row.status .failed = true := by
        rcases active with status | status <;> rw [status] <;> decide
      obtain ⟨⟨moved, s₁⟩, finished⟩ : ∃ r, finishFailed s now id row incident code text
          "system:pre-execution" = .ok r := finishFailed_succeeds code text _ allowed placed
      obtain ⟨ended, audit, frame⟩ := finishFailed_eq_ok finished placed
      refine ⟨none, (commitRemediation s₁ id moved).2, ⟨incident, placed, ?_⟩, ?_⟩
      · rw [if_neg switched]
        exact bind_eq_ok.mpr ⟨_, finished, rfl⟩
      · refine commitRemediation_changes found (by rw [frame]) ?_
        rintro rfl
        rcases active with status | status <;> simp [ended.status] at status
  | none =>
    obtain ⟨entry, known, _⟩ := catalogBlocker_eq_none (executionBlocker_eq_none blocked).2.2.2
    have allowed : canTransition row.status .executing = true := by
      rcases active with status | status <;> rw [status] <;> decide
    simp only [known, bind_eq_ok, found_eq_ok, pure_eq_ok, transition, ensure_eq_ok]
    refine ⟨_, _, ⟨incident, placed, entry, rfl, _, ⟨(), allowed, rfl⟩, rfl⟩, ?_⟩
    refine commitRemediation_changes found rfl fun same => ?_
    have attempts := congrArg (·.executionAttempts) same
    simp at attempts

/-- An approved remediation without attempts, or an executing one whose lease ran out, is taken
up. -/
theorem claimExecution_changes (env : Env) (owner : String) {leaseSeconds : Int}
    {row : RemediationRow} (sound : RemediationsSound s)
    (found : s.remediation.remediations[id]? = some row)
    (active : row.status = .approved ∨ row.status = .executing)
    (free : ∀ x e, latestExecution s id = some (x, e) → leaseLive now row.leaseExpiresAt = false)
    (lasts : 0 < leaseSeconds) :
    ∃ ticket s', claimExecution env now s id owner leaseSeconds = .ok (ticket, s') ∧
      s'.remediation.remediations[id]? ≠ some row := by
  have placed := sound.housed id row found
  have busy : ¬ (row.status ≠ .approved ∧ row.status ≠ .executing) := by tauto
  obtain ⟨ticket, s', attempted, changed⟩ := startAttempt_changes env now owner leaseSeconds found
    placed active
  simp only [claimExecution, bind_eq_ok, lockRemediation_eq_ok]
  cases last : latestExecution s id with
  | none =>
    refine ⟨ticket, s', ⟨row, found, ?_⟩, changed⟩
    rw [if_neg busy]
    exact attempted
  | some latest =>
    obtain ⟨x, e⟩ := latest
    by_cases running : e.status = .running
    · refine ⟨(interruptAttempt now s id row x e owner leaseSeconds).1,
        (interruptAttempt now s id row x e owner leaseSeconds).2, ⟨row, found, ?_⟩, ?_⟩
      · rw [if_neg busy]
        simp only [if_pos running, free x e last]
        rfl
      · refine commitRemediation_changes found rfl fun same => ?_
        have lease := congrArg (·.leaseExpiresAt) same
        have lapsed := free x e last
        simp only [← lease, leaseLive, decide_eq_false_iff_not] at lapsed
        exact lapsed (lt_add_of_pos_right now (Int.mul_pos lasts (by decide)))
    · refine ⟨ticket, s', ⟨row, found, ?_⟩, changed⟩
      rw [if_neg busy]
      simp only [if_neg running]
      exact attempted

/-- A remediation that was approved and not taken up yet has no attempt. -/
theorem latestExecution_of_approved {row : RemediationRow} (numbered : ExecutionsNumbered s)
    (fit : AttemptsFit row) (found : s.remediation.remediations[id]? = some row)
    (approved : row.status = .approved) : latestExecution s id = none := by
  cases last : latestExecution s id with
  | none => rfl
  | some latest =>
    obtain ⟨x, e⟩ := latest
    obtain ⟨execution, of⟩ := Table.latest_some last
    obtain rfl : e.remediationId = id := by simpa using of
    have numbers := numbered.number_le execution
    rw [attemptsOf_found found, fit.none (.inr (.inl approved))] at numbers
    omega

/-! ## Verifications -/

theorem moveVerifiedIncident_succeeds {i : Uuid} {incident : IncidentRow}
    {toStatus : IncidentStatus} {reason : String} (placed : s.incidents[i]? = some incident) :
    ∃ r, moveVerifiedIncident s now i incident toStatus reason = .ok r :=
  bind_succeeds ⟨_, found_eq_ok.mpr (transitionIncidentStatus_of_read placed)⟩ fun _ _ => ⟨_, rfl⟩

theorem applyVerdict_succeeds {row : VerificationRow} {incident : IncidentRow}
    {status : VerificationStatus} (placed : s.incidents[row.incidentId]? = some incident) :
    ∃ r, applyVerdict env s now id row incident status = .ok r := by
  unfold applyVerdict
  split
  · exact bind_succeeds (moveVerifiedIncident_succeeds placed) fun _ _ => ⟨_, rfl⟩
  · exact bind_succeeds (moveVerifiedIncident_succeeds placed) fun _ _ => ⟨_, rfl⟩
  · refine bind_succeeds (moveVerifiedIncident_succeeds placed) ?_
    rintro ⟨moved, s₁⟩ left
    obtain ⟨rfl, audit, rfl⟩ := moveVerifiedIncident_eq_ok left placed
    dsimp only
    split_ifs
    · exact ⟨_, rfl⟩
    all_goals
      refine bind_succeeds (moveVerifiedIncident_succeeds ?_) fun _ _ => ⟨_, rfl⟩
      simp [Table.lt_of_row placed]

theorem finalize_succeeds (env : Env) (now : Time) (id : Uuid) (decision : Decision)
    {row : VerificationRow} {incident : IncidentRow} {remediation : RemediationRow}
    (placed : s.incidents[row.incidentId]? = some incident)
    (refers : s.remediation.remediations[row.remediationId]? = some remediation) :
    ∃ r, finalize env s now id row decision = .ok r := by
  unfold finalize
  refine bind_succeeds ⟨incident, found_eq_ok.mpr placed⟩ fun incident' there => ?_
  rw [found_eq_ok] at there
  refine bind_succeeds ⟨remediation, found_eq_ok.mpr refers⟩ fun remediation' _ => ?_
  refine bind_succeeds ?_ fun _ _ => ⟨_, rfl⟩
  unfold settleVerdict
  split
  · exact ⟨_, rfl⟩
  · exact bind_succeeds (applyVerdict_succeeds there) fun _ _ => ⟨_, rfl⟩

theorem commitVerification_status {row row' : VerificationRow}
    (found : (commitVerification s id row).2.verification.verifications[id]? = some row') :
    row'.status = row.status := by
  simp only [commitVerification, List.getElem?_set_self', Option.map_eq_map,
    Option.map_eq_some_iff] at found
  obtain ⟨_, _, rfl⟩ := found
  rfl

/-- Past its deadline, with nobody polling, a verification gets its verdict. -/
theorem claimRunning_closes (env : Env) (id : Uuid) (owner : String) (leaseSeconds : ℚ)
    {row : VerificationRow} {incident : IncidentRow} {remediation : RemediationRow}
    (placed : s.incidents[row.incidentId]? = some incident)
    (refers : s.remediation.remediations[row.remediationId]? = some remediation)
    (free : leaseHeld row now = false) (late : pastDeadline row now = true) :
    ∃ r, claimRunning env now s id row owner leaseSeconds = .ok r ∧
      ∀ row', r.2.verification.verifications[id]? = some row' →
        row'.status ≠ .pending ∧ row'.status ≠ .running := by
  obtain ⟨⟨settled, s₁⟩, finalized⟩ := finalize_succeeds env now id
    (row.spec.decide (latestResult s id) row.consecutiveSuccesses row.conclusiveCount now
      (row.deadlineAt.getD now)) placed refers
  refine ⟨(none, (commitVerification s₁ id settled).2), ?_, fun row' found => ?_⟩
  · simp only [claimRunning, free, late, Bool.false_eq_true, if_false, if_true]
    exact bind_eq_ok.mpr ⟨_, finalized, rfl⟩
  · rw [commitVerification_status found, (finalize_eq_ok finalized).1.status]
    exact decide_pastDeadline late

/-- A claim of a running verification that is not past its deadline, or is being polled. -/
theorem claimRunning_continues (env : Env) (s : Store) (id : Uuid) (owner : String)
    (leaseSeconds : ℚ) {row : VerificationRow} (running : row.status = .running)
    (early : leaseHeld row now = true ∨ pastDeadline row now = false) :
    ∃ r, claimRunning env now s id row owner leaseSeconds = .ok r ∧
      ∀ row', r.2.verification.verifications[id]? = some row' → row'.status = .running := by
  unfold claimRunning
  split_ifs with held late before
  · exact ⟨_, rfl, fun row' found => (commitVerification_status found).trans running⟩
  · simp [late] at early
    exact absurd early held
  · exact ⟨_, rfl, fun row' found => (commitVerification_status found).trans running⟩
  · exact ⟨_, rfl, fun row' found => (commitVerification_status found).trans running⟩

section
variable {row : VerificationRow} {incident : IncidentRow} {remediation : RemediationRow}

/-- A verification that waits begins when it is claimed. -/
theorem claimDue_begins (env : Env) (now : Time) (owner : String) (leaseSeconds : ℚ)
    (found : s.verification.verifications[id]? = some row)
    (placed : s.incidents[row.incidentId]? = some incident)
    (refers : s.remediation.remediations[row.remediationId]? = some remediation)
    (pending : row.status = .pending) :
    ∃ r, claimDue env now s id owner leaseSeconds = .ok r ∧
      ∀ row', r.2.verification.verifications[id]? = some row' → row'.status ≠ .pending := by
  have claimed : ∀ {r}, claimRunning env now (startVerification s now id row).2 id
      (startVerification s now id row).1 owner leaseSeconds = .ok r →
        claimDue env now s id owner leaseSeconds = .ok r := by
    intro r done
    refine bind_eq_ok.mpr ⟨row, lockVerification_eq_ok.mpr found, ?_⟩
    simp only [pending]
    exact done
  by_cases late : leaseHeld (row.started s now) now = false ∧
      pastDeadline (row.started s now) now = true
  · have placed' : (startVerification s now id row).2.incidents[(row.started s now).incidentId]? =
      some incident := placed
    obtain ⟨r, done, closed⟩ := claimRunning_closes env id owner leaseSeconds placed' refers
      late.1 late.2
    exact ⟨r, claimed done, fun row' there => (closed row' there).1⟩
  · have early : leaseHeld (row.started s now) now = true ∨
        pastDeadline (row.started s now) now = false := by
      cases held : leaseHeld (row.started s now) now <;> simp_all
    have running : (row.started s now).status = .running := rfl
    obtain ⟨r, done, runs⟩ := claimRunning_continues env (startVerification s now id row).2 id owner
      leaseSeconds running early
    exact ⟨r, claimed done, fun row' there => by simp [runs row' there]⟩

/-- A running verification past its deadline, with nobody polling, gets its verdict when it is
claimed. -/
theorem claimDue_closes (env : Env) (now : Time) (owner : String) (leaseSeconds : ℚ)
    (found : s.verification.verifications[id]? = some row)
    (placed : s.incidents[row.incidentId]? = some incident)
    (refers : s.remediation.remediations[row.remediationId]? = some remediation)
    (running : row.status = .running) (free : leaseHeld row now = false)
    (late : pastDeadline row now = true) :
    ∃ r, claimDue env now s id owner leaseSeconds = .ok r ∧
      ∀ row', r.2.verification.verifications[id]? = some row' →
        row'.status ≠ .pending ∧ row'.status ≠ .running := by
  obtain ⟨r, done, closed⟩ := claimRunning_closes env id owner leaseSeconds placed refers free late
  refine ⟨r, bind_eq_ok.mpr ⟨row, lockVerification_eq_ok.mpr found, ?_⟩, closed⟩
  simp only [running]
  exact done

end

end

end IncidentTriage.Verified
