import IncidentTriage.Lifecycle.Onward
import IncidentTriage.Verified.ApprovalTimeout
import IncidentTriage.Verified.Lifecycle

/-! # Commands that leave an incident where it was

A command other than a revision is one transaction, or none, or the transactions of a sweep of
expired approvals.  It takes an incident that somebody owes something onward; where it leaves the
status as it was, the incident had this status between its transactions too.
-/

namespace IncidentTriage.Verified

open IncidentTriage.Python IncidentTriage.Domain IncidentTriage.Incident
open IncidentTriage.Lifecycle (workLeft Onward)

def revises : Command → Bool
  | .revise .. => true
  | _ => false

/-- A revision is the two commands it consists of, or the first of them, or nothing. -/
theorem execute_revise (env : Env) (now : Time) (tickets : List IssuedTicket) (s : Store)
    (id : Uuid) (parameters : Dict) (proposedBy : String) (reason : Option String) (key : String) :
    ∃ commands : List Command, (∀ c ∈ commands, revises c = false) ∧
      execute env now tickets s (.revise id parameters proposedBy reason key) =
        commands.foldl (execute env now tickets) s := by
  simp only [execute, revise]
  cases locked : lockRemediation s id with
  | error e => exact ⟨[], by simp, rfl⟩
  | ok old =>
    dsimp only
    cases first : cancel now s id ("operator:" ++ proposedBy) "superseded by revision" with
    | error e => exact ⟨[], by simp, rfl⟩
    | ok cancelled =>
      have step : execute env now tickets s
          (.cancel id ("operator:" ++ proposedBy) "superseded by revision") = cancelled.2 := by
        simp only [execute, first, committed]
      dsimp only
      generalize RemediationProposal.mk _ _ _ _ _ _ _ _ = proposal
      by_cases valid : proposal.Valid
      · rw [if_pos valid]
        refine ⟨[.cancel id ("operator:" ++ proposedBy) "superseded by revision",
          .propose proposal key (some old.correlationId)], by simp [revises], ?_⟩
        simp only [List.foldl_cons, List.foldl_nil, step]
        simp only [execute]
        cases propose env now cancelled.2 proposal key (some old.correlationId) <;> rfl
      · rw [if_neg valid]
        exact ⟨[.cancel id ("operator:" ++ proposedBy) "superseded by revision"],
          by simp [revises], step.symm⟩

section
variable {env : Env} {now : Time} {tickets : List IssuedTicket} {c : Command} {s s' : Store}

/-! ## One transaction, or none -/

theorem committed_single {α : Type} {outcome : Except DomainError (α × Store)}
    (single : ∀ a s', outcome = .ok (a, s') → s' = s ∨ Transaction env now tickets c s s') :
    committed s outcome = s ∨ Transaction env now tickets c s (committed s outcome) := by
  cases outcome with
  | error e => exact .inl rfl
  | ok r => exact single r.1 r.2 rfl

theorem execute_single (env : Env) (now : Time) (tickets : List IssuedTicket) (s : Store)
    {c : Command} (apart : revises c = false) (sweeps : c ≠ .expireApprovals) :
    execute env now tickets s c = s ∨
      Transaction env now tickets c s (execute env now tickets s c) := by
  cases c with
  | alertReceived command =>
    exact committed_single fun _ _ done => .inr
      (.alert (.of_handleAlertReceived done) (handleAlertReceived_publishes done))
  | registerEvidenceRef command =>
    exact committed_single fun _ _ done => .inr
      (.alert (.of_registerEvidenceRef done) (registerEvidenceRef_publishes done))
  | requestInvestigation incidentId provider model settings budget =>
    exact committed_single fun _ _ done => (requestInvestigation_step done).imp_right .investigation
  | claim id owner leaseSeconds =>
    exact committed_single fun _ _ done => (claim_step done).imp_right .investigation
  | release id owner =>
    exact committed_single fun _ _ done => (release_step done).imp_right .investigation
  | recordStep id owner record =>
    exact committed_single fun _ _ done => .inr (.investigation (recordStep_step done))
  | applyHypothesisUpdates id owner iteration callId batch =>
    exact committed_single fun _ _ done => .inr (.investigation (applyHypothesisUpdates_step done))
  | complete id owner iteration callId result =>
    exact committed_single fun _ _ done => .inr (.investigation (complete_step done))
  | escalate id owner iteration e =>
    exact committed_single fun _ _ done => .inr (.investigation (escalate_step done))
  | propose proposal key correlationId =>
    exact committed_single fun _ _ done => Or.imp_right
      (fun step => .remediation step (propose_publishes done))
      (propose_step (fun _ records => records) done)
  | decideApproval id approver roles approve hash decisionId comment =>
    exact committed_single fun _ _ done => (decideApproval_step done).imp_right
      fun step => .remediation step (decideApproval_publishes done)
  | expireApprovals => exact absurd rfl sweeps
  | cancel id actor reason =>
    exact committed_single fun _ _ done => .inr
      (.remediation (cancel_step done) (cancel_publishes done))
  | revise id parameters proposedBy reason key => cases apart
  | claimExecution id owner leaseSeconds =>
    exact committed_single fun _ _ done => (claimExecution_step done).imp_right
      fun step => .remediation step (claimExecution_publishes done)
  | completeExecution executionId owner outcome executor result error retryable =>
    exact committed_single fun _ _ done => (completeExecution_step done).imp_right
      fun step => .remediation step (completeExecution_publishes done)
  | recordBaseline id owner values evidenceIds =>
    exact committed_single fun _ _ done => (recordBaseline_step done).imp_right
      fun step => .remediation step (recordBaseline_publishes done)
  | setKillSwitch scope engaged actor reason =>
    exact committed_single fun _ _ done => .inr
      (.remediation (setKillSwitch_step done) (setKillSwitch_publishes done))
  | startVerification id =>
    exact committed_single fun _ _ done => (start_step done).imp_right .verification
  | claimDue id owner leaseSeconds =>
    exact committed_single fun _ _ done => (claimDue_step done).imp_right .verification
  | recordObservation position sample evidenceIds observedAt =>
    simp only [execute]
    split
    · rename_i held
      exact committed_single fun _ _ done => .inr (.verification (recordObservation_step done held))
    · exact .inl rfl

/-! ## Steady transactions -/

/-- Transactions of one command that all leave the incident in this status. -/
abbrev SteadyPath (env : Env) (now : Time) (tickets : List IssuedTicket) (c : Command) (i : Uuid)
    (status : IncidentStatus) : Store → Store → Prop :=
  Relation.ReflTransGen fun s s' => Transaction env now tickets c s s' ∧
    statusAt s.incidents i = some status ∧ statusAt s'.incidents i = some status

variable {i : Uuid} {status : IncidentStatus}

/-- An expired request leaves the status of an incident, or escalates it. -/
theorem expireApproval_statusAt {id : Uuid} {expired : Bool}
    (done : expireApproval env now s id = .ok (expired, s')) (i : Uuid) :
    statusAt s'.incidents i = statusAt s.incidents i ∨
      statusAt s'.incidents i = some .escalated := by
  simp only [expireApproval, bind_eq_ok, lockRemediation_eq_ok] at done
  obtain ⟨row, found, done⟩ := done
  split_ifs at done with awaiting
  · cases done
    exact .inl rfl
  · simp only [bind_eq_ok, lockIncident_eq_ok, pure_eq_ok] at done
    obtain ⟨incident, incidentFound, ⟨moved, s₁⟩, finished, done⟩ := done
    obtain ⟨ended, audit, rfl⟩ := finishCancelled_eq_ok finished incidentFound
    cases done
    have there : s.incidents[row.incidentId]? = some incident := incidentFound
    simp only [commitRemediation, insertApproval, statusAt_movedIf there, Lifecycle.shift]
    split_ifs
    · exact .inr rfl
    · exact .inl rfl
    · exact .inl rfl

theorem expireEach_steady (env : Env) (now : Time) (tickets : List IssuedTicket) (ids : List Uuid)
    {s : Store} (here : statusAt s.incidents i = some status) :
    statusAt (expireEach env now ids s).2.incidents i = some .escalated ∨
      statusAt (expireEach env now ids s).2.incidents i = some status ∧
        SteadyPath env now tickets .expireApprovals i status s (expireEach env now ids s).2 := by
  induction ids generalizing s status with
  | nil => exact .inr ⟨here, .refl⟩
  | cons id ids ih =>
    simp only [expireEach]
    cases outcome : expireApproval env now s id with
    | error e => exact .inr ⟨here, .refl⟩
    | ok r =>
      obtain ⟨expired, s₁⟩ := r
      rcases expireApproval_statusAt outcome i with same | escalated
      · rw [here] at same
        rcases ih same with escalated | ⟨there, steady⟩
        · exact .inl escalated
        · refine .inr ⟨there, ?_⟩
          rcases expireApproval_step (c := .expireApprovals) outcome with rfl | step
          · exact steady
          · exact .head ⟨.remediation step (expireApproval_publishes outcome), here, same⟩ steady
      · -- What is escalated stays so to the end of the sweep.
        rcases ih escalated with there | ⟨there, _⟩
        · exact .inl there
        · exact .inl there

/-! ## Events -/

/-- A command that leaves the status of an incident has its transactions leave it. -/
theorem execute_steady (env : Env) (now : Time) (tickets : List IssuedTicket)
    (apart : revises c = false) (before : statusAt s.incidents i = some status)
    (after : statusAt (execute env now tickets s c).incidents i = some status)
    (other : status ≠ .escalated) :
    SteadyPath env now tickets c i status s (execute env now tickets s c) := by
  by_cases sweep : c = .expireApprovals
  · subst sweep
    rcases expireEach_steady env now tickets (overdueIds env now s) before with escalated | steady
    · simp only [execute, expireApprovals] at after
      exact absurd (Option.some.inj (after.symm.trans escalated)) other
    · exact steady.2
  · rcases execute_single env now tickets s apart sweep with same | transaction
    · rw [same]
    · exact .single ⟨transaction, before, after⟩

theorem expireApproval_verification {id : Uuid} {expired : Bool}
    (done : expireApproval env now s id = .ok (expired, s')) :
    s'.verification = s.verification := by
  simp only [expireApproval, bind_eq_ok, lockRemediation_eq_ok] at done
  obtain ⟨row, found, done⟩ := done
  split_ifs at done with awaiting
  · cases done
    rfl
  · simp only [bind_eq_ok, lockIncident_eq_ok, pure_eq_ok] at done
    obtain ⟨incident, incidentFound, ⟨moved, s₁⟩, finished, done⟩ := done
    obtain ⟨ended, audit, rfl⟩ := finishCancelled_eq_ok finished incidentFound
    cases done
    rfl

theorem expireEach_verification (env : Env) (now : Time) (ids : List Uuid) (s : Store) :
    (expireEach env now ids s).2.verification = s.verification := by
  induction ids generalizing s with
  | nil => rfl
  | cons id ids ih =>
    simp only [expireEach]
    cases outcome : expireApproval env now s id with
    | error e => rfl
    | ok r => exact (ih r.2).trans (expireApproval_verification outcome)

/-- A command leaves the verifications alone, or is one transaction. -/
theorem execute_verification (env : Env) (now : Time) (tickets : List IssuedTicket) (s : Store)
    {c : Command} (apart : revises c = false) :
    (execute env now tickets s c).verification = s.verification ∨
      Transaction env now tickets c s (execute env now tickets s c) := by
  by_cases sweep : c = .expireApprovals
  · subst sweep
    exact .inl (expireEach_verification env now (overdueIds env now s) s)
  · exact (execute_single env now tickets s apart sweep).imp_left (congrArg Store.verification)

/-- A command takes an incident that somebody owes something onward. -/
theorem execute_onward (env : Env) (now : Time) (tickets : List IssuedTicket)
    (fit : AllAttemptsFit s) (apart : revises c = false)
    (before : statusAt s.incidents i = some status) (working : 0 < workLeft status) :
    ∃ next, statusAt (execute env now tickets s c).incidents i = some next ∧
      Onward status next := by
  by_cases sweep : c = .expireApprovals
  · subst sweep
    rcases expireEach_steady env now tickets (overdueIds env now s) before with escalated | steady
    · exact ⟨.escalated, escalated, .inr working⟩
    · exact ⟨status, steady.1, .inl rfl⟩
  · rcases execute_single env now tickets s apart sweep with same | transaction
    · rw [same]
      exact ⟨status, before, .inl rfl⟩
    · rcases transaction.casesStep fit i with same | step
      · exact ⟨status, (congrArg (·.status) same).trans before, .inl rfl⟩
      · exact step.onward before working

end

end IncidentTriage.Verified
