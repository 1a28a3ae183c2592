import IncidentTriage.Verified.Transactions

/-! # What an incident is about

No command changes which service of which environment an incident is about, or when it was
opened.  The effects of the verification transactions do not say what row a verdict leaves
behind, so these commands are followed one write at a time.
-/

namespace IncidentTriage.Verified

open IncidentTriage.Python IncidentTriage.Domain IncidentTriage.Incident

/-- What the scope of an incident is made of. -/
structure SameScope (row row' : IncidentRow) : Prop where
  service : row'.service = row.service
  environment : row'.environment = row.environment
  createdAt : row'.createdAt = row.createdAt

theorem SameScope.refl (row : IncidentRow) : SameScope row row := ⟨rfl, rfl, rfl⟩

theorem SameScope.trans {a b c : IncidentRow} (first : SameScope a b) (second : SameScope b c) :
    SameScope a c where
  service := second.service.trans first.service
  environment := second.environment.trans first.environment
  createdAt := second.createdAt.trans first.createdAt

theorem SameScope.moved (row : IncidentRow) (now : Time) (status : IncidentStatus)
    (closes : Bool) : SameScope row (row.moved now status closes) := ⟨rfl, rfl, rfl⟩

/-- Every incident is there still, and is about the same. -/
def ScopesKept (s s' : Store) : Prop := Table.Evolves SameScope s.incidents s'.incidents

theorem ScopesKept.refl (s : Store) : ScopesKept s s := Table.Evolves.refl SameScope.refl _

theorem ScopesKept.trans {s s₁ s₂ : Store} (first : ScopesKept s s₁) (second : ScopesKept s₁ s₂) :
    ScopesKept s s₂ :=
  Table.Evolves.trans (R := SameScope) SameScope.trans first second

theorem ScopesKept.of_incidents {s s' : Store} (same : s'.incidents = s.incidents) :
    ScopesKept s s' := by
  unfold ScopesKept
  rw [same]
  exact .refl SameScope.refl _

theorem ScopesKept.put {s s' : Store} {i : Uuid} {incident incident' : IncidentRow}
    (found : s.incidents[i]? = some incident) (same : SameScope incident incident')
    (incidents : s'.incidents = s.incidents.set i incident') : ScopesKept s s' := by
  unfold ScopesKept
  rw [incidents]
  exact .put SameScope.refl found same

theorem ScopesKept.of_movedIf {s s' : Store} {now : Time} {i : Uuid} {incident : IncidentRow}
    {fromStatuses : List IncidentStatus} {toStatus : IncidentStatus}
    (found : s.incidents[i]? = some incident)
    (incidents : s'.incidents = movedIf s.incidents now i incident fromStatuses toStatus) :
    ScopesKept s s' := by
  unfold movedIf at incidents
  split_ifs at incidents
  · exact .put found (.moved incident now toStatus false) incidents
  · exact .of_incidents incidents

/-! ## Alerts, investigations and remediations -/

theorem AlertStep.scopesKept {received : Option AlertStatus} {now : Time} {s s' : Store}
    (step : AlertStep received now s s') : ScopesKept s s' := by
  cases step.effect with
  | replayed incidents => exact .of_incidents incidents
  | unmatched _ _ incidents => exact .of_incidents incidents
  | linked _ incident _ _ found _ _ _ incidents =>
    refine .put found ?_ incidents
    exact ⟨rfl, rfl, rfl⟩
  | opened _ _ _ _ _ _ _ incidents =>
    unfold ScopesKept
    rw [incidents]
    exact .insert SameScope.refl _ _
  | cancelled _ _ _ incident _ _ _ found _ _ incidents =>
    exact .put found (.moved incident now .cancelled true) incidents
  | resolved _ _ _ _ _ _ _ _ _ incidents => exact .of_incidents incidents
  | registered _ _ _ incidents => exact .of_incidents incidents

theorem InvestigationStep.scopesKept {env : Env} {now : Time} {c : Command} {s s' : Store}
    (step : InvestigationStep env now c s s') : ScopesKept s s' := by
  cases step.effect with
  | requested _ _ _ found _ _ _ _ _ _ incidents =>
    refine .put found ?_ incidents
    exact ⟨rfl, rfl, rfl⟩
  | worked _ _ _ _ _ _ _ _ incidents => exact .of_incidents incidents
  | updated _ _ _ _ _ _ _ _ _ _ incidents => exact .of_incidents incidents
  | completed _ _ _ _ _ _ _ _ _ _ incidentFound _ _ _ _ _ _ _ _ _ _ _ incidents =>
    exact .of_movedIf incidentFound incidents
  | ended _ _ _ _ _ _ incidentFound _ _ _ _ incidents => exact .of_movedIf incidentFound incidents

theorem RemediationStep.scopesKept {env : Env} {now : Time} {c : Command} {s s' : Store}
    (step : RemediationStep env now c s s') : ScopesKept s s' := by
  cases step.effect with
  | rejected _ _ _ found _ _ _ incidents => exact .of_movedIf found incidents
  | requested _ _ _ found _ _ _ _ _ incidents => exact .of_movedIf found incidents
  | approved _ _ _ _ _ _ _ _ _ _ _ _ _ _ found _ _ _ _ _ _ _ _ _ _ _ _ incidents =>
    exact .of_movedIf found incidents
  | withdrawn _ _ _ _ _ _ _ found _ _ _ _ _ _ _ incidents => exact .of_movedIf found incidents
  | blocked _ _ _ _ _ found _ _ _ _ _ _ incidents => exact .of_movedIf found incidents
  | started _ _ _ _ _ _ _ _ _ _ _ _ _ _ _ _ incidents => exact .of_incidents incidents
  | interrupted _ _ _ _ _ _ _ _ _ _ _ _ _ _ _ _ _ _ _ incidents => exact .of_incidents incidents
  | executed _ _ _ _ _ _ _ _ _ _ _ _ _ _ _ _ _ found _ _ _ _ _ _ _ _ _ _ _ incidents =>
    exact .of_movedIf found incidents
  | attemptFailed _ _ _ _ _ _ _ _ _ _ _ _ _ _ _ found _ _ _ _ _ _ _ _ _ _ incidents =>
    exact .of_movedIf found incidents
  | retriable _ _ _ _ _ _ _ _ _ _ _ _ _ _ _ _ _ _ _ _ _ _ _ _ incidents =>
    exact .of_incidents incidents
  | configured _ _ incidents => exact .of_incidents incidents

/-! ## Verifications -/

/-- The incidents after a verified incident was moved, which may be moved once more. -/
theorem moveVerifiedIncident_scopes {s s' : Store} {now : Time} {i : Uuid}
    {incident incident' : IncidentRow} {toStatus : IncidentStatus} {reason : String}
    (found : s.incidents[i]? = some incident)
    (done : moveVerifiedIncident s now i incident toStatus reason = .ok (incident', s')) :
    ScopesKept s s' ∧ s'.incidents[i]? = some incident' := by
  simp only [moveVerifiedIncident, bind_eq_ok, found_eq_ok, pure_eq_ok] at done
  obtain ⟨⟨moved, s₁⟩, transitioned, done⟩ := done
  cases eq_of_transitionIncidentStatus transitioned found
  cases done
  exact ⟨.put found (.moved incident now toStatus false) rfl,
    List.getElem?_set_self (Table.lt_of_row found)⟩

theorem applyVerdict_scopes {env : Env} {s s' : Store} {now : Time} {id : Uuid}
    {row : VerificationRow} {incident : IncidentRow} {status : VerificationStatus}
    {nextAction : String} (found : s.incidents[row.incidentId]? = some incident)
    (done : applyVerdict env s now id row incident status = .ok (nextAction, s')) :
    ScopesKept s s' := by
  unfold applyVerdict at done
  split at done
  · simp only [bind_eq_ok, pure_eq_ok] at done
    obtain ⟨⟨moved, s₁⟩, left, done⟩ := done
    cases done
    exact (moveVerifiedIncident_scopes found left).1.trans (.of_incidents rfl)
  · simp only [bind_eq_ok, pure_eq_ok] at done
    obtain ⟨⟨moved, s₁⟩, left, done⟩ := done
    cases done
    exact (moveVerifiedIncident_scopes found left).1.trans (.of_incidents rfl)
  · simp only [bind_eq_ok] at done
    obtain ⟨⟨moved, s₁⟩, left, done⟩ := done
    obtain ⟨kept, stored⟩ := moveVerifiedIncident_scopes found left
    replace done : (if moved.attemptCount < env.maxInvestigationAttempts ∧
        0 < countFiringAlerts s₁ row.incidentId then _ else _) = Except.ok (nextAction, s') := done
    by_cases again : moved.attemptCount < env.maxInvestigationAttempts ∧
        0 < countFiringAlerts s₁ row.incidentId
    · rw [if_pos again] at done
      cases done
      exact kept
    · rw [if_neg again] at done
      simp only [bind_eq_ok, pure_eq_ok] at done
      obtain ⟨⟨moved', s₂⟩, left', done⟩ := done
      cases done
      exact (kept.trans (moveVerifiedIncident_scopes stored left').1).trans (.of_incidents rfl)

theorem finalize_scopes {env : Env} {s s' : Store} {now : Time} {id : Uuid}
    {row row' : VerificationRow} {decision : Decision}
    (done : finalize env s now id row decision = .ok (row', s')) : ScopesKept s s' := by
  simp only [finalize, bind_eq_ok, found_eq_ok, pure_eq_ok] at done
  obtain ⟨incident, found, remediation, _, ⟨settled, s₁⟩, settles, done⟩ := done
  cases done
  unfold settleVerdict at settles
  split at settles
  · cases settles
    exact .of_incidents rfl
  · simp only [bind_eq_ok, pure_eq_ok] at settles
    obtain ⟨⟨nextAction, s₂⟩, applied, settles⟩ := settles
    cases settles
    exact (applyVerdict_scopes found applied).trans (.of_incidents rfl)

theorem claimRunning_scopes {env : Env} {now : Time} {s s' : Store} {id : Uuid}
    {row : VerificationRow} {owner : String} {leaseSeconds : ℚ}
    {ticket : Option VerificationTicket}
    (done : claimRunning env now s id row owner leaseSeconds = .ok (ticket, s')) :
    ScopesKept s s' := by
  unfold claimRunning at done
  split_ifs at done
  · cases done
    exact .of_incidents rfl
  · simp only [bind_eq_ok, pure_eq_ok] at done
    obtain ⟨⟨row', s₁⟩, finalized, done⟩ := done
    cases done
    exact (finalize_scopes finalized).trans (.of_incidents rfl)
  · cases done
    exact .of_incidents rfl
  · cases done
    exact .of_incidents rfl

theorem claimDue_scopes {env : Env} {now : Time} {s s' : Store} {id : Uuid} {owner : String}
    {leaseSeconds : ℚ} {ticket : Option VerificationTicket}
    (done : claimDue env now s id owner leaseSeconds = .ok (ticket, s')) : ScopesKept s s' := by
  simp only [claimDue, bind_eq_ok] at done
  obtain ⟨row, _, done⟩ := done
  split at done
  · have begun : ScopesKept s (startVerification s now id row).2 := .of_incidents rfl
    exact begun.trans (claimRunning_scopes done)
  · exact claimRunning_scopes done
  · cases done
    exact .refl s

theorem start_scopes {now : Time} {s s' : Store} {id : Uuid} {view : VerificationView}
    (done : start now s id = .ok (view, s')) : ScopesKept s s' := by
  simp only [start, bind_eq_ok] at done
  obtain ⟨row, _, done⟩ := done
  split_ifs at done <;> cases done
  · exact .of_incidents rfl
  · exact .refl s

theorem recordObservation_scopes {env : Env} {now : Time} {s s' : Store}
    {ticket : VerificationTicket} {sample : Sample} {evidenceIds : List Uuid}
    {observedAt : Time} {view : VerificationView}
    (done : recordObservation env now s ticket sample evidenceIds observedAt = .ok (view, s')) :
    ScopesKept s s' := by
  simp only [recordObservation, bind_eq_ok] at done
  obtain ⟨row, _, _, _, s₁, inserted, done⟩ := done
  cases insertVerificationEvidence_eq_ok inserted
  split_ifs at done
  · simp only [bind_eq_ok, pure_eq_ok] at done
    obtain ⟨⟨row', s₂⟩, finalized, done⟩ := done
    cases done
    have decided : ScopesKept _ s₂ := finalize_scopes finalized
    exact (ScopesKept.of_incidents rfl).trans (decided.trans (.of_incidents rfl))
  · cases done
    exact .of_incidents rfl

/-! ## Commands -/

theorem ScopesKept.of_committed {α : Type} {s : Store} {outcome : Except DomainError (α × Store)}
    (kept : ∀ a s', outcome = .ok (a, s') → ScopesKept s s') :
    ScopesKept s (committed s outcome) := by
  cases outcome with
  | error error => exact .refl s
  | ok r => exact kept r.1 r.2 rfl

theorem ScopesKept.of_investigation (env : Env) {now : Time} {c : Command} {s s' : Store}
    (step : s' = s ∨ InvestigationStep env now c s s') : ScopesKept s s' :=
  step.elim (fun same => same ▸ .refl s) (·.scopesKept)

theorem ScopesKept.of_remediation (env : Env) {now : Time} (c : Command) {s s' : Store}
    (step : s' = s ∨ RemediationStep env now c s s') : ScopesKept s s' :=
  step.elim (fun same => same ▸ .refl s) (·.scopesKept)

theorem expireEach_scopes (env : Env) (now : Time) (ids : List Uuid) (s : Store) :
    ScopesKept s (expireEach env now ids s).2 := by
  induction ids generalizing s with
  | nil => exact .refl s
  | cons id ids ih =>
    simp only [expireEach]
    split
    · exact .refl s
    · rename_i expired s₁ done
      exact (ScopesKept.of_remediation env .expireApprovals (expireApproval_step done)).trans
        (ih s₁)

theorem revise_scopes (env : Env) (now : Time) (s : Store) (id : Uuid) (parameters : Dict)
    (proposedBy : String) (reason : Option String) (key : String) :
    ScopesKept s (revise env now s id parameters proposedBy reason key).2 := by
  unfold revise
  split
  · exact .refl s
  · split
    · exact .refl s
    · rename_i view s₁ cancelled
      have first : ScopesKept s s₁ := .of_remediation env
        (.revise id parameters proposedBy reason key) (.inr (cancel_step cancelled))
      dsimp only
      generalize RemediationProposal.mk _ _ _ _ _ _ _ _ = proposal
      by_cases valid : proposal.Valid
      · rw [if_pos valid]
        split
        · exact first
        · rename_i proposed
          exact first.trans (.of_remediation env (.revise id parameters proposedBy reason key)
            (propose_step (fun _ _ => trivial) proposed))
      · rw [if_neg valid]
        exact first

theorem execute_scopes (env : Env) (now : Time) (tickets : List IssuedTicket) (s : Store)
    (c : Command) : ScopesKept s (execute env now tickets s c) := by
  cases c with
  | alertReceived command =>
    exact .of_committed fun _ _ done => (AlertStep.of_handleAlertReceived done).scopesKept
  | registerEvidenceRef command =>
    exact .of_committed fun _ _ done => (AlertStep.of_registerEvidenceRef done).scopesKept
  | requestInvestigation incidentId provider model settings budget =>
    exact .of_committed fun _ _ done =>
      .of_investigation env (requestInvestigation_step done)
  | claim id owner leaseSeconds =>
    exact .of_committed fun _ _ done => .of_investigation env (claim_step done)
  | release id owner =>
    exact .of_committed fun _ _ done => .of_investigation env (release_step done)
  | recordStep id owner record =>
    exact .of_committed fun _ _ done => .of_investigation env (.inr (recordStep_step done))
  | applyHypothesisUpdates id owner iteration callId batch =>
    exact .of_committed fun _ _ done =>
      .of_investigation env (.inr (applyHypothesisUpdates_step done))
  | complete id owner iteration callId result =>
    exact .of_committed fun _ _ done => .of_investigation env (.inr (complete_step done))
  | escalate id owner iteration e =>
    exact .of_committed fun _ _ done => .of_investigation env (.inr (escalate_step done))
  | propose proposal key correlationId =>
    exact .of_committed fun _ _ done => .of_remediation env
      (.propose proposal key correlationId) (propose_step (fun _ records => records) done)
  | decideApproval id approver roles approve hash decisionId comment =>
    exact .of_committed fun _ _ done => .of_remediation env _ (decideApproval_step done)
  | expireApprovals => exact expireEach_scopes env now _ s
  | cancel id actor reason =>
    exact .of_committed fun _ _ done => .of_remediation env
      (.cancel id actor reason) (.inr (cancel_step done))
  | revise id parameters proposedBy reason key =>
    exact revise_scopes env now s id parameters proposedBy reason key
  | claimExecution id owner leaseSeconds =>
    exact .of_committed fun _ _ done => .of_remediation env _ (claimExecution_step done)
  | completeExecution executionId owner outcome executor result error retryable =>
    exact .of_committed fun _ _ done => .of_remediation env _ (completeExecution_step done)
  | recordBaseline id owner values evidenceIds =>
    exact .of_committed fun _ _ done => .of_remediation env
      (.recordBaseline id owner values evidenceIds) (recordBaseline_step done)
  | setKillSwitch scope engaged actor reason =>
    exact .of_committed fun _ _ done => .of_remediation env
      (.setKillSwitch scope engaged actor reason) (.inr (setKillSwitch_step done))
  | startVerification id => exact .of_committed fun _ _ done => start_scopes done
  | claimDue id owner leaseSeconds => exact .of_committed fun _ _ done => claimDue_scopes done
  | recordObservation position sample evidenceIds observedAt =>
    simp only [execute]
    split
    · exact .of_committed fun _ _ done => recordObservation_scopes done
    · exact .refl s

end IncidentTriage.Verified
