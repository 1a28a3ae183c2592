import IncidentTriage.Verified.Histories
import IncidentTriage.Verified.Transactions

/-! # The status history

Each function that moves an incident or a remediation recounts it; the others write no
status and record none.  Over a run, the events of an incident and the timeline of a
remediation therefore tell the whole way to where they stand.
-/

namespace IncidentTriage.Verified

open IncidentTriage.Python IncidentTriage.Domain IncidentTriage.Incident
open IncidentTriage.Remediation (ActionCatalogEntry)

/-! ## Alerts -/

section
variable {hand : Hand}

theorem processAlertResolved_recounts {now : Time} {s s' : Store}
    {command : AlertReceivedCommand} {fingerprint : String} {r : AlertReceivedResult}
    (done : processAlertResolved now s command fingerprint = .ok (r, s')) :
    Recounts s hand s' hand := by
  unfold processAlertResolved at done
  split at done
  · obtain ⟨processed, rfl⟩ := finalizeCommand_eq_ok done
    exact .of_frame rfl rfl
  · rename_i k alert _
    split_ifs at done
    · obtain ⟨processed, rfl⟩ := finalizeCommand_eq_ok done
      exact .of_frame rfl rfl
    · simp only [bind_eq_ok, found_eq_ok] at done
      obtain ⟨i, _, incident, found, done⟩ := done
      -- the alert is over before the incident moves
      have ended : Recounts s hand (insertOutboxEvent (putAlert s k
          { alert with status := .resolved, resolvedAt := some now }) now .alert k (some i)
          (.alertResolved k i (countFiringAlerts (putAlert s k
            { alert with status := .resolved, resolvedAt := some now }) i))) hand :=
        .insert (.of_frame rfl rfl) rfl
      split_ifs at done
      · simp only [bind_eq_ok, found_eq_ok] at done
        obtain ⟨⟨moved, s₁⟩, transitioned, done⟩ := done
        cases eq_of_transitionIncidentStatus transitioned found
        obtain ⟨processed, rfl⟩ := finalizeCommand_eq_ok done
        exact .write (ended.moved found) rfl rfl
      · obtain ⟨processed, rfl⟩ := finalizeCommand_eq_ok done
        exact ended.write rfl rfl

theorem incidentForAlert_recounts {env : Env} {now : Time} {s s' : Store}
    {command : AlertReceivedCommand} {decision : CorrelationDecision}
    {chosen : Uuid × IncidentRow} {created : Bool}
    (done : incidentForAlert env now s command decision = .ok (chosen, created, s')) :
    Recounts s hand s' hand := by
  unfold incidentForAlert at done
  split at done
  · simp only [bind_eq_ok, found_eq_ok, pure_eq_ok] at done
    obtain ⟨i, _, incident, found, done⟩ := done
    cases done
    exact .of_standing (.put SameOrigin.refl found ⟨rfl, rfl⟩) (standingAt_set_same found rfl rfl)
      rfl
  · dsimp only [getOrCreateOpenIncident] at done
    split at done <;> cases done
    · exact .refl s hand
    · exact .of_standing (.insert SameOrigin.refl _ _) (standingAt_append s.incidents rfl rfl) rfl

theorem handleAlertReceived_recounts {env : Env} {now : Time} {s s' : Store}
    {command : AlertReceivedCommand} {r : AlertReceivedResult}
    (done : handleAlertReceived env now s command = .ok (r, s')) : Recounts s hand s' hand := by
  unfold handleAlertReceived at done
  split at done
  · cases done
    exact .refl s hand
  · unfold processAlertReceived at done
    split_ifs at done with resolved
    · exact processAlertResolved_recounts done
    · obtain ⟨⟨⟨k, alert⟩, existed, s₁⟩, inserted⟩ :
          ∃ x, x = insertAlertOrGetExisting s now command
            (computeFingerprint env.sha256 command.source command.labels) := ⟨_, rfl⟩
      rw [← inserted] at done
      rcases insertAlertOrGetExisting_cases inserted.symm with
        ⟨rfl, rfl⟩ | ⟨rfl, rfl, rfl, rfl⟩
      · obtain ⟨processed, rfl⟩ := finalizeCommand_eq_ok done
        exact .of_frame rfl rfl
      · simp only [Bool.false_eq_true, if_false, bind_eq_ok] at done
        obtain ⟨⟨⟨i, incident⟩, created, s₂⟩, chosen, done⟩ := done
        obtain ⟨processed, rfl⟩ := finalizeCommand_eq_ok done
        have linked : Recounts _ hand s₂ hand := incidentForAlert_recounts chosen
        replace linked : Recounts s hand s₂ hand := linked.after rfl rfl
        refine .write (.insert (.insert (linked.write rfl rfl) rfl) ?_) rfl rfl
        cases created <;> rfl

theorem registerEvidenceRef_recounts {now : Time} {s s' : Store}
    {command : RegisterEvidenceRefCommand} {registered : Bool}
    (done : registerEvidenceRef now s command = .ok (registered, s')) :
    Recounts s hand s' hand := by
  simp only [registerEvidenceRef, bind_eq_ok] at done
  obtain ⟨incident, _, done⟩ := done
  split at done
  · split_ifs at done
    cases done
    exact .refl s hand
  · cases done
    exact .insert (.of_frame rfl rfl) rfl

/-! ## Investigations -/

theorem moveInvestigatedIncident_recounts {s s' : Store} {now : Time} {i : Uuid}
    {toStatus : IncidentStatus} {reason : String}
    (done : moveInvestigatedIncident s now i toStatus reason = .ok s') :
    Recounts s hand s' hand := by
  simp only [moveInvestigatedIncident, bind_eq_ok, found_eq_ok] at done
  obtain ⟨incident, found, done⟩ := done
  split_ifs at done with investigating
  · simp only [bind_eq_ok, found_eq_ok, pure_eq_ok] at done
    obtain ⟨⟨moved, s₁⟩, transitioned, rfl⟩ := done
    cases eq_of_transitionIncidentStatus transitioned found
    rw [← investigating]
    exact .moved (.refl s hand) found
  · cases done
    exact .refl s hand

theorem requestInvestigation_recounts {now : Time} {s s' : Store} {i : Uuid}
    {provider model : String} {settings : Dict} {budget : InvestigationBudget}
    {started : StartedInvestigation}
    (done : requestInvestigation now s i provider model settings budget = .ok (started, s')) :
    Recounts s hand s' hand := by
  simp only [requestInvestigation, bind_eq_ok, found_eq_ok] at done
  obtain ⟨incident, found, done⟩ := done
  split at done
  · cases done
    exact .refl s hand
  · simp only [bind_eq_ok, ensure_eq_ok, found_eq_ok, pure_eq_ok] at done
    obtain ⟨_, _, _, _, ⟨moved, s₁⟩, transitioned, done⟩ := done
    -- the attempt is counted first: the incident stands where it stood
    have counted : Recounts s hand
        (putIncident s i { incident with attemptCount := incident.attemptCount + 1 }) hand :=
      .of_standing (.put SameOrigin.refl found ⟨rfl, rfl⟩) (standingAt_set_same found rfl rfl) rfl
    have stored : (putIncident s i
        { incident with attemptCount := incident.attemptCount + 1 }).incidents[i]? =
          some { incident with attemptCount := incident.attemptCount + 1 } :=
      List.getElem?_set_self (Table.lt_of_row found)
    cases eq_of_transitionIncidentStatus transitioned stored
    cases done
    exact .insert (.write (counted.moved stored) rfl rfl) rfl

theorem claim_recounts {now : Time} {s s' : Store} {id : Uuid} {owner : String}
    {leaseSeconds : Int} {state : Option InvestigationState}
    (done : claim now s id owner leaseSeconds = .ok (state, s')) : Recounts s hand s' hand := by
  simp only [claim, bind_eq_ok] at done
  obtain ⟨row, _, done⟩ := done
  split_ifs at done
  · cases done
    exact .refl s hand
  · cases done
    exact .refl s hand
  · simp only [bind_eq_ok, pure_eq_ok] at done
    obtain ⟨loaded, _, done⟩ := done
    cases done
    exact .of_frame rfl rfl

theorem release_recounts {now : Time} {s s' : Store} {id : Uuid} {owner : String} {u : Unit}
    (done : release now s id owner = .ok (u, s')) : Recounts s hand s' hand := by
  simp only [release, bind_eq_ok] at done
  obtain ⟨row, _, done⟩ := done
  split_ifs at done <;> cases done
  · exact .of_frame rfl rfl
  · exact .refl s hand

theorem recordStep_recounts {now : Time} {s s' : Store} {id : Uuid} {owner : String}
    {record : StepRecord} {sequence : Nat}
    (done : recordStep now s id owner record = .ok (sequence, s')) : Recounts s hand s' hand := by
  simp only [recordStep, bind_eq_ok, pure_eq_ok] at done
  obtain ⟨row, _, done⟩ := done
  cases done
  exact .of_frame rfl rfl

theorem applyHypothesisUpdates_recounts {now : Time} {s s' : Store} {id : Uuid} {owner : String}
    {iteration : Nat} {callId : String} {batch : HypothesisUpdateBatch}
    {outcome : HypothesisUpdateOutcome}
    (done : applyHypothesisUpdates now s id owner iteration callId batch = .ok (outcome, s')) :
    Recounts s hand s' hand := by
  obtain ⟨row, row', step, _, applied⟩ := applyHypothesisUpdates_eq_ok done
  have frame := applied.frame
  apply Recounts.of_frame <;> rw [frame]

theorem complete_recounts {env : Env} {now : Time} {s s' : Store} {id : Uuid} {owner : String}
    {iteration : Nat} {callId : String} {result : FinalInvestigationResult}
    {outcome : ConclusionOutcome}
    (done : complete env now s id owner iteration callId result = .ok (outcome, s')) :
    Recounts s hand s' hand := by
  simp only [complete, bind_eq_ok] at done
  obtain ⟨row, _, done⟩ := done
  split_ifs at done
  · cases done
    exact .of_frame rfl rfl
  · simp only [bind_eq_ok, pure_eq_ok] at done
    obtain ⟨⟨hypothesisId, h⟩, _, s₁, left, done⟩ := done
    cases done
    have moved : Recounts _ hand s₁ hand := moveInvestigatedIncident_recounts left
    exact .insert (moved.after rfl rfl) rfl

theorem escalate_recounts {now : Time} {s s' : Store} {id : Uuid} {owner : String}
    {iteration : Nat} {e : Escalation} {u : Unit}
    (done : escalate now s id owner iteration e = .ok (u, s')) : Recounts s hand s' hand := by
  simp only [escalate, bind_eq_ok, pure_eq_ok] at done
  obtain ⟨row, _, s₁, left, done⟩ := done
  cases done
  have moved : Recounts _ hand s₁ hand := moveInvestigatedIncident_recounts left
  exact .insert (moved.after rfl rfl) rfl

/-! ## Verifications -/

theorem moveVerifiedIncident_recounts {s s₁ s' : Store} {now : Time} {i : Uuid}
    {incident incident' : IncidentRow} {toStatus : IncidentStatus} {reason : String}
    (before : Recounts s hand s₁ hand) (found : s₁.incidents[i]? = some incident)
    (done : moveVerifiedIncident s₁ now i incident toStatus reason = .ok (incident', s')) :
    Recounts s hand s' hand ∧ s'.incidents[i]? = some incident' := by
  have inside := Table.lt_of_row found
  simp only [moveVerifiedIncident, bind_eq_ok, found_eq_ok, pure_eq_ok] at done
  obtain ⟨⟨moved, s₂⟩, transitioned, done⟩ := done
  cases eq_of_transitionIncidentStatus transitioned found
  cases done
  exact ⟨before.moved found, List.getElem?_set_self inside⟩

/-- A verdict moves the incident once, or twice in the same transaction. -/
theorem applyVerdict_recounts {env : Env} {s s' : Store} {now : Time} {id : Uuid}
    {row : VerificationRow} {incident : IncidentRow} {status : VerificationStatus}
    {nextAction : String} (found : s.incidents[row.incidentId]? = some incident)
    (done : applyVerdict env s now id row incident status = .ok (nextAction, s')) :
    Recounts s hand s' hand := by
  unfold applyVerdict at done
  split at done
  · simp only [bind_eq_ok, pure_eq_ok] at done
    obtain ⟨⟨moved, s₁⟩, left, done⟩ := done
    obtain ⟨told, _⟩ := moveVerifiedIncident_recounts (.refl s hand) found left
    cases done
    exact told.insert rfl
  · simp only [bind_eq_ok, pure_eq_ok] at done
    obtain ⟨⟨moved, s₁⟩, left, done⟩ := done
    obtain ⟨told, _⟩ := moveVerifiedIncident_recounts (.refl s hand) found left
    cases done
    exact told.insert rfl
  · simp only [bind_eq_ok] at done
    obtain ⟨⟨moved, s₁⟩, left, done⟩ := done
    obtain ⟨told, stored⟩ := moveVerifiedIncident_recounts (.refl s hand) found left
    replace done : (if moved.attemptCount < env.maxInvestigationAttempts ∧
        0 < countFiringAlerts s₁ row.incidentId then _ else _) = Except.ok (nextAction, s') := done
    by_cases again : moved.attemptCount < env.maxInvestigationAttempts ∧
        0 < countFiringAlerts s₁ row.incidentId
    · rw [if_pos again] at done
      cases done
      exact told
    · rw [if_neg again] at done
      simp only [bind_eq_ok, pure_eq_ok] at done
      obtain ⟨⟨moved', s₂⟩, left', done⟩ := done
      obtain ⟨told', _⟩ := moveVerifiedIncident_recounts told stored left'
      cases done
      exact told'.insert rfl

theorem finalize_recounts {env : Env} {s s' : Store} {now : Time} {id : Uuid}
    {row row' : VerificationRow} {decision : Decision}
    (done : finalize env s now id row decision = .ok (row', s')) : Recounts s hand s' hand := by
  simp only [finalize, bind_eq_ok, found_eq_ok, pure_eq_ok] at done
  obtain ⟨incident, found, remediation, _, ⟨settled, s₁⟩, settles, done⟩ := done
  cases done
  unfold settleVerdict at settles
  split at settles
  · cases settles
    exact .insert (.refl s hand) rfl
  · simp only [bind_eq_ok, pure_eq_ok] at settles
    obtain ⟨⟨nextAction, s₂⟩, applied, settles⟩ := settles
    cases settles
    exact (applyVerdict_recounts found applied).insert rfl

theorem start_recounts {now : Time} {s s' : Store} {id : Uuid} {view : VerificationView}
    (done : start now s id = .ok (view, s')) : Recounts s hand s' hand := by
  simp only [start, bind_eq_ok] at done
  obtain ⟨row, _, done⟩ := done
  split_ifs at done <;> cases done
  · have begun : Recounts s hand (startVerification s now id row).2 hand :=
      .insert (.refl s hand) rfl
    exact begun.write rfl rfl
  · exact .refl s hand

theorem claimRunning_recounts {env : Env} {now : Time} {s s₁ s' : Store} {id : Uuid}
    {row : VerificationRow} {owner : String} {leaseSeconds : ℚ}
    {ticket : Option VerificationTicket} (before : Recounts s hand s₁ hand)
    (done : claimRunning env now s₁ id row owner leaseSeconds = .ok (ticket, s')) :
    Recounts s hand s' hand := by
  unfold claimRunning at done
  split_ifs at done
  · cases done
    exact before.write rfl rfl
  · simp only [bind_eq_ok, pure_eq_ok] at done
    obtain ⟨⟨row', s₂⟩, finalized, done⟩ := done
    cases done
    exact (before.trans (finalize_recounts finalized)).write rfl rfl
  · cases done
    exact before.write rfl rfl
  · cases done
    exact before.write rfl rfl

theorem claimDue_recounts {env : Env} {now : Time} {s s' : Store} {id : Uuid} {owner : String}
    {leaseSeconds : ℚ} {ticket : Option VerificationTicket}
    (done : claimDue env now s id owner leaseSeconds = .ok (ticket, s')) :
    Recounts s hand s' hand := by
  simp only [claimDue, bind_eq_ok] at done
  obtain ⟨row, _, done⟩ := done
  split at done
  · have begun : Recounts s hand (startVerification s now id row).2 hand :=
      .insert (.refl s hand) rfl
    exact claimRunning_recounts begun done
  · exact claimRunning_recounts (.refl s hand) done
  · cases done
    exact .refl s hand

theorem recordObservation_recounts {env : Env} {now : Time} {s s' : Store}
    {ticket : VerificationTicket} {sample : Sample} {evidenceIds : List Uuid}
    {observedAt : Time} {view : VerificationView}
    (done : recordObservation env now s ticket sample evidenceIds observedAt = .ok (view, s')) :
    Recounts s hand s' hand := by
  simp only [recordObservation, bind_eq_ok] at done
  obtain ⟨row, _, _, _, s₁, inserted, done⟩ := done
  cases insertVerificationEvidence_eq_ok inserted
  split_ifs at done
  · simp only [bind_eq_ok, pure_eq_ok] at done
    obtain ⟨⟨row', s₂⟩, finalized, done⟩ := done
    cases done
    have observed : Recounts _ hand s₂ hand := finalize_recounts finalized
    exact .write (observed.after rfl rfl) rfl rfl
  · cases done
    exact .of_frame rfl rfl

end

/-! ## Remediations

A command reads its remediation, and what it has in hand from then on is the row it
read with the status of the last transition. -/

section
variable {hand hand₁ : Hand} {env : Env} {now : Time} {s s₁ s' : Store} {id : Uuid}
  {row row' : RemediationRow} {incident : IncidentRow}

theorem transition_recounts {toStatus : RemediationStatus} {event actor : String}
    {version : Option String}
    (done : transition s₁ now id row toStatus event actor version = .ok (row', s'))
    (before : Recounts s hand s₁ hand₁) (held : hand₁ id = some row.status) :
    Recounts s hand s' (Function.update hand₁ id (some toStatus)) := by
  simp only [transition, bind_eq_ok, ensure_eq_ok, pure_eq_ok] at done
  obtain ⟨_, allowed, done⟩ := done
  cases done
  exact before.entered held (.moved allowed)

theorem moveIncident_recounts {i : Uuid} {fromStatuses : List IncidentStatus}
    {toStatus : IncidentStatus} {reason : String}
    (done : moveIncident s₁ now i incident fromStatuses toStatus reason = .ok s')
    (before : Recounts s hand s₁ hand₁) (found : s₁.incidents[i]? = some incident) :
    Recounts s hand s' hand₁ := by
  unfold moveIncident at done
  split_ifs at done
  · simp only [bind_eq_ok, found_eq_ok, pure_eq_ok] at done
    obtain ⟨⟨moved, s₂⟩, transitioned, rfl⟩ := done
    cases eq_of_transitionIncidentStatus transitioned found
    exact before.moved found
  · cases done
    exact before

theorem finishFailed_recounts {code text actor : String}
    (done : finishFailed s₁ now id row incident code text actor = .ok (row', s'))
    (before : Recounts s hand s₁ hand₁) (held : hand₁ id = some row.status)
    (found : s₁.incidents[row.incidentId]? = some incident) :
    Recounts s hand s' (Function.update hand₁ id (some .failed)) := by
  simp only [finishFailed, bind_eq_ok, pure_eq_ok] at done
  obtain ⟨⟨moved, s₂⟩, transitioned, s₃, left, done⟩ := done
  have told := transition_recounts transitioned before held
  obtain ⟨_, rfl, audit, rfl⟩ := transition_eq_ok transitioned
  cases done
  exact moveIncident_recounts left (told.insert rfl) found

theorem finishCancelled_recounts {event actor reason : String} {incidentTo : IncidentStatus}
    {eventType : String} {decision : Option RemediationPolicyDecisionRow}
    (done : finishCancelled s₁ now id row incident event actor reason incidentTo eventType
      decision = .ok (row', s'))
    (before : Recounts s hand s₁ hand₁) (held : hand₁ id = some row.status)
    (found : s₁.incidents[row.incidentId]? = some incident) :
    Recounts s hand s' (Function.update hand₁ id (some .cancelled)) := by
  simp only [finishCancelled, bind_eq_ok, pure_eq_ok] at done
  obtain ⟨⟨moved, s₂⟩, transitioned, s₃, left, done⟩ := done
  have told := transition_recounts transitioned before held
  obtain ⟨_, rfl, audit, rfl⟩ := transition_eq_ok transitioned
  cases done
  exact moveIncident_recounts left (told.insert rfl) found

theorem remediationStatus_found (found : s.remediation.remediations[id]? = some row) :
    remediationStatus s.remediation.remediations id = some row.status := by
  unfold remediationStatus
  rw [found]
  rfl

theorem routeProposal_recounts {decision : PolicyDecision}
    {decisionRow : RemediationPolicyDecisionRow} {view : RemediationView}
    (done : routeProposal s₁ now id row incident decision decisionRow = .ok (view, s'))
    (before : Recounts s hand s₁ (remediationStatus s₁.remediation.remediations))
    (held : remediationStatus s₁.remediation.remediations id = some row.status)
    (inside : id < s₁.remediation.remediations.length)
    (found : s₁.incidents[row.incidentId]? = some incident) :
    Recounts s hand s' (remediationStatus s'.remediation.remediations) := by
  unfold routeProposal at done
  split_ifs at done
  all_goals
    simp only [bind_eq_ok, pure_eq_ok] at done
    obtain ⟨⟨moved, s₂⟩, transitioned, s₃, left, done⟩ := done
    have told := transition_recounts transitioned before held
    obtain ⟨_, rfl, audit, rfl⟩ := transition_eq_ok transitioned
    have published := moveIncident_recounts left (told.insert rfl) found
    obtain ⟨audit', rfl⟩ := moveIncident_eq_ok left found
    cases done
    exact published.commit inside rfl rfl rfl rfl

theorem recordDecision_recounts {decision : PolicyDecision} {context : PolicyEvaluationContext}
    (before : Recounts s hand s₁ hand₁) (held : hand₁ id = some .proposed) :
    Recounts s hand (recordDecision s₁ now id row decision context).2.2 hand₁ :=
  .insert (.noted (before.write rfl rfl) held) rfl

theorem propose_recounted {proposal : RemediationProposal} {key : String}
    {correlationId : Option Uuid} {view : RemediationView}
    (done : propose env now s proposal key correlationId = .ok (view, s')) : Recounted s s' := by
  simp only [propose, bind_eq_ok, lockIncident_eq_ok] at done
  obtain ⟨incident, found, done⟩ := done
  split at done
  · cases done
    exact .refl s _
  · simp only [bind_eq_ok, ensure_eq_ok] at done
    obtain ⟨_, _, done⟩ := done
    have absent : remediationStatus s.remediation.remediations
        s.remediation.remediations.length = none := by
      simp [remediationStatus]
    have appended : ∀ row : RemediationRow, remediationStatus (s.remediation.remediations ++ [row])
        s.remediation.remediations.length = some row.status := by
      simp [remediationStatus]
    refine routeProposal_recounts done ?_ (appended _) ?_ ?_
    · show Recounts s _ _ (remediationStatus (s.remediation.remediations ++
        [newRemediation env now incident proposal key correlationId]))
      rw [remediationStatus_append]
      -- the row is there as `PROPOSED`, and stays so while policy is asked
      refine recordDecision_recounts (.insert (.entered (.of_frame ?_ ?_) absent .created) rfl)
        (Function.update_self _ _ _)
      · rfl
      · rfl
    · show s.remediation.remediations.length < (s.remediation.remediations ++ [_]).length
      simp
    · exact found

theorem decideApproval_recounted {approver : String} {roles : List String} {approve : Bool}
    {hash : String} {decisionId : Uuid} {comment : Option String} {view : RemediationView}
    (done : decideApproval now s id approver roles approve hash decisionId comment =
      .ok (view, s')) : Recounted s s' := by
  simp only [decideApproval, bind_eq_ok, lockRemediation_eq_ok] at done
  obtain ⟨row, read, done⟩ := done
  have held := remediationStatus_found read
  have inside := Table.lt_of_row read
  split at done
  · split_ifs at done <;> cases done <;> exact .refl s _
  · simp only [bind_eq_ok, ensure_eq_ok, lockIncident_eq_ok] at done
    obtain ⟨_, _, _, _, decision, _, _, _, _, _, incident, found, done⟩ := done
    have decided : Recounts s (remediationStatus s.remediation.remediations) (insertApproval s
        (humanApproval now id row approve approver
          (roles.filter (fun r => decision.requiredApproverRoles.contains r)) comment))
        (remediationStatus s.remediation.remediations) := .of_frame rfl rfl
    cases approve with
    | true =>
      simp only [if_true, bind_eq_ok, pure_eq_ok] at done
      obtain ⟨⟨moved, s₁⟩, transitioned, s₂, left, done⟩ := done
      have told := transition_recounts transitioned decided held
      obtain ⟨_, rfl, audit, rfl⟩ := transition_eq_ok transitioned
      have published := moveIncident_recounts left (told.insert rfl) found
      obtain ⟨audit', rfl⟩ := moveIncident_eq_ok left found
      cases done
      exact published.commit inside rfl rfl rfl rfl
    | false =>
      simp only [Bool.false_eq_true, if_false, bind_eq_ok, pure_eq_ok] at done
      obtain ⟨⟨moved, s₁⟩, finished, done⟩ := done
      have told := finishCancelled_recounts finished decided held found
      obtain ⟨ended, audit, rfl⟩ := finishCancelled_eq_ok finished found
      cases done
      exact told.commit inside rfl rfl rfl ended.status

theorem expireApproval_recounted {expired : Bool}
    (done : expireApproval env now s id = .ok (expired, s')) : Recounted s s' := by
  simp only [expireApproval, bind_eq_ok, lockRemediation_eq_ok] at done
  obtain ⟨row, read, done⟩ := done
  have held := remediationStatus_found read
  have inside := Table.lt_of_row read
  split_ifs at done
  · cases done
    exact .refl s _
  · simp only [bind_eq_ok, pure_eq_ok, lockIncident_eq_ok] at done
    obtain ⟨incident, found, ⟨moved, s₁⟩, finished, done⟩ := done
    have told := finishCancelled_recounts finished (.refl _ _) held found
    obtain ⟨ended, audit, rfl⟩ := finishCancelled_eq_ok finished found
    cases done
    exact .after (told.commit inside rfl rfl rfl ended.status) rfl rfl

theorem Recounted.trans (first : Recounted s s₁) (second : Recounted s₁ s') : Recounted s s' :=
  Recounts.trans first second

theorem expireEach_recounted (env : Env) (now : Time) (ids : List Uuid) (s : Store) :
    Recounted s (expireEach env now ids s).2 := by
  induction ids generalizing s with
  | nil => exact .refl s _
  | cons id ids ih =>
    simp only [expireEach]
    split
    · exact .refl s _
    · rename_i expired s₁ done
      exact (expireApproval_recounted done).trans (ih s₁)

theorem cancel_recounted {actor reason : String} {view : RemediationView}
    (done : cancel now s id actor reason = .ok (view, s')) : Recounted s s' := by
  simp only [cancel, bind_eq_ok, pure_eq_ok, lockRemediation_eq_ok, lockIncident_eq_ok] at done
  obtain ⟨row, read, _, _, incident, found, ⟨moved, s₁⟩, finished, done⟩ := done
  have told := finishCancelled_recounts finished (.refl s _) (remediationStatus_found read) found
  obtain ⟨ended, audit, rfl⟩ := finishCancelled_eq_ok finished found
  cases done
  exact told.commit (Table.lt_of_row read) rfl rfl rfl ended.status

theorem revise_recounted (env : Env) (now : Time) (s : Store) (id : Uuid) (parameters : Dict)
    (proposedBy : String) (reason : Option String) (key : String) :
    Recounted s (revise env now s id parameters proposedBy reason key).2 := by
  unfold revise
  split
  · exact .refl s _
  · split
    · exact .refl s _
    · rename_i view s₁ cancelled
      have first := cancel_recounted cancelled
      dsimp only
      generalize RemediationProposal.mk _ _ _ _ _ _ _ _ = proposal
      by_cases valid : proposal.Valid
      · rw [if_pos valid]
        split
        · exact first
        · rename_i proposed
          exact first.trans (propose_recounted proposed)
      · rw [if_neg valid]
        exact first

/-- A row written with the status it had. -/
theorem Recounts.commit_same
    (before : Recounts s hand s₁ (remediationStatus s₁.remediation.remediations))
    (read : s₁.remediation.remediations[id]? = some row)
    (incidents : s'.incidents = s₁.incidents) (audit : s'.audit = s₁.audit)
    (table : s'.remediation.remediations = s₁.remediation.remediations.set id row')
    (written : row'.status = row.status) :
    Recounts s hand s' (remediationStatus s'.remediation.remediations) := by
  have held := remediationStatus_found read
  refine Recounts.commit ?_ (Table.lt_of_row read) incidents audit table written
  rw [← held, Function.update_eq_self]
  exact before

theorem startAttempt_recounted {owner : String} {leaseSeconds : Int}
    {ticket : Option ExecutionTicket} (read : s.remediation.remediations[id]? = some row)
    (done : startAttempt env now s id row owner leaseSeconds = .ok (ticket, s')) :
    Recounted s s' := by
  have held := remediationStatus_found read
  have inside := Table.lt_of_row read
  simp only [startAttempt, bind_eq_ok, lockIncident_eq_ok] at done
  obtain ⟨incident, found, done⟩ := done
  split at done
  · split_ifs at done
    · simp only [bind_eq_ok, pure_eq_ok] at done
      obtain ⟨⟨moved, s₁⟩, finished, done⟩ := done
      have told := finishCancelled_recounts finished (.refl s _) held found
      obtain ⟨ended, audit, rfl⟩ := finishCancelled_eq_ok finished found
      cases done
      exact told.commit inside rfl rfl rfl ended.status
    · simp only [bind_eq_ok, pure_eq_ok] at done
      obtain ⟨⟨moved, s₁⟩, finished, done⟩ := done
      have told := finishFailed_recounts finished (.refl s _) held found
      obtain ⟨ended, audit, rfl⟩ := finishFailed_eq_ok finished found
      cases done
      exact told.commit inside rfl rfl rfl ended.status
  · simp only [bind_eq_ok, found_eq_ok, pure_eq_ok] at done
    obtain ⟨entry, _, ⟨moved, s₁⟩, transitioned, done⟩ := done
    have told := transition_recounts transitioned (.refl _ _) held
    obtain ⟨_, rfl, audit, rfl⟩ := transition_eq_ok transitioned
    cases done
    exact .after (.commit (told.insert rfl) inside rfl rfl rfl rfl) rfl rfl

/-- The attempt of a worker that died is noted, and the lease changes hands. -/
theorem interruptAttempt_recounted {x : Uuid} {latest : RemediationExecutionRow} {owner : String}
    {leaseSeconds : Int} {ticket : Option ExecutionTicket}
    (read : s.remediation.remediations[id]? = some row)
    (done : interruptAttempt now s id row x latest owner leaseSeconds = (ticket, s')) :
    Recounted s s' := by
  unfold interruptAttempt at done
  dsimp only at done
  generalize inserted : insertTimeline _ _ _ _ _ _ _ _ _ = s₁ at done
  have noted : Recounts s (remediationStatus s.remediation.remediations) s₁
      (remediationStatus s.remediation.remediations) := by
    rw [← inserted]
    exact .noted (.of_frame rfl rfl) (remediationStatus_found read)
  subst inserted
  cases done
  exact noted.commit_same read rfl rfl rfl rfl

theorem claimExecution_recounted {owner : String} {leaseSeconds : Int}
    {ticket : Option ExecutionTicket}
    (done : claimExecution env now s id owner leaseSeconds = .ok (ticket, s')) :
    Recounted s s' := by
  simp only [claimExecution, bind_eq_ok, lockRemediation_eq_ok] at done
  obtain ⟨row, read, done⟩ := done
  by_cases idle : row.status ≠ .approved ∧ row.status ≠ .executing
  · rw [if_pos idle] at done
    cases done
    exact .refl s _
  · rw [if_neg idle] at done
    split at done
    · rename_i x latest _
      by_cases running : latest.status = .running
      · rw [if_pos running] at done
        split_ifs at done
        · cases done
          exact .refl s _
        · simp only [pure_eq_ok] at done
          exact interruptAttempt_recounted read done
      · rw [if_neg running] at done
        exact startAttempt_recounted read done
    · exact startAttempt_recounted read done

theorem requestVerification_recounts {entry : Option ActionCatalogEntry}
    (done : requestVerification env s₁ now id row entry = .ok (row', s'))
    (before : Recounts s hand s₁ hand₁) (held : hand₁ id = some .executed) :
    Recounts s hand s' hand₁ := by
  simp only [requestVerification, bind_eq_ok, pure_eq_ok] at done
  obtain ⟨spec, _, s₂, inserted, done⟩ := done
  cases insertVerificationEvidence_eq_ok inserted
  cases done
  exact .insert (.noted (before.write rfl rfl) held) rfl

theorem completeExecution_recounted {x : Uuid} {owner : String} {outcome : AttemptOutcome}
    {executor : String} {result : Option Dict} {error : Option String} {retryable : Bool}
    {view : RemediationView}
    (done : completeExecution env now s x owner outcome executor result error retryable =
      .ok (view, s')) : Recounted s s' := by
  simp only [completeExecution, bind_eq_ok, found_eq_ok, lockRemediation_eq_ok] at done
  obtain ⟨e, _, row, read, done⟩ := done
  have held := remediationStatus_found read
  have inside := Table.lt_of_row read
  by_cases executing : row.status ≠ .executing
  · rw [if_pos executing] at done
    cases done
    exact .refl s _
  rw [if_neg executing] at done
  simp only [bind_eq_ok, ensure_eq_ok] at done
  obtain ⟨_, _, done⟩ := done
  by_cases finished : e.status ≠ .running ∧ e.status ≠ .unknown
  · rw [if_pos finished] at done
    cases done
    exact .refl s _
  rw [if_neg finished] at done
  simp only [bind_eq_ok, lockIncident_eq_ok] at done
  obtain ⟨incident, found, done⟩ := done
  have settled : Recounts s (remediationStatus s.remediation.remediations)
      (putExecution s x (e.settled now outcome executor result error))
      (remediationStatus s.remediation.remediations) := .of_frame rfl rfl
  by_cases succeeded : outcome = .succeeded
  · rw [if_pos succeeded] at done
    simp only [recordSuccess, bind_eq_ok, pure_eq_ok] at done
    obtain ⟨⟨moved, s₁⟩, transitioned, ⟨verified, s₂⟩, requested, s₃, left, done⟩ := done
    have told := transition_recounts transitioned settled held
    obtain ⟨_, rfl, audit, rfl⟩ := transition_eq_ok transitioned
    have asked := requestVerification_recounts requested (told.insert rfl)
      (Function.update_self _ _ _)
    obtain ⟨rfl, v, links, audit', _, _, rfl⟩ := requestVerification_eq_ok requested
    have published := moveIncident_recounts left asked found
    obtain ⟨audit'', rfl⟩ := moveIncident_eq_ok left found
    cases done
    exact published.commit inside rfl rfl rfl rfl
  · rw [if_neg succeeded] at done
    simp only [recordFailure] at done
    split_ifs at done
    · -- the attempt failed and another may follow: the remediation goes on executing
      generalize inserted : insertTimeline _ _ _ _ _ _ _ _ _ = s₁ at done
      have noted : Recounts s (remediationStatus s.remediation.remediations) s₁
          (remediationStatus s.remediation.remediations) := by
        rw [← inserted]
        exact .noted settled (held.trans (congrArg some (not_not.mp executing)))
      subst inserted
      cases done
      exact noted.commit_same read rfl rfl rfl rfl
    · simp only [bind_eq_ok, pure_eq_ok] at done
      obtain ⟨⟨moved, s₁⟩, failed, done⟩ := done
      have told := finishFailed_recounts failed settled held found
      obtain ⟨ended, audit, rfl⟩ := finishFailed_eq_ok failed found
      cases done
      exact told.commit inside rfl rfl rfl ended.status

theorem recordBaseline_recounted {owner : String} {values : Dict} {evidenceIds : List Uuid}
    {u : Unit} (done : recordBaseline now s id owner values evidenceIds = .ok (u, s')) :
    Recounted s s' := by
  simp only [recordBaseline, bind_eq_ok, lockRemediation_eq_ok, ensure_eq_ok] at done
  obtain ⟨row, read, _, ⟨_, executing⟩, done⟩ := done
  split_ifs at done <;> cases done
  · exact .refl s _
  · have held := (remediationStatus_found read).trans (congrArg some executing)
    exact .noted (.of_frame rfl rfl) held

theorem setKillSwitch_recounted {scope : String} {engaged : Bool} {actor : String}
    {reason : Option String} {u : Unit}
    (done : setKillSwitch env now s scope engaged actor reason = .ok (u, s')) :
    Recounted s s' := by
  simp only [setKillSwitch, bind_eq_ok, pure_eq_ok] at done
  obtain ⟨_, _, done⟩ := done
  cases done
  exact .insert (.of_frame rfl rfl) rfl

end

/-! ## Runs -/

/-- A service that has no remediation in hand leaves their table alone. -/
theorem Recounted.of_kept {s s' : Store} (told : ∀ hand, Recounts s hand s' hand)
    (same : s'.remediation = s.remediation) : Recounted s s' := by
  unfold Recounted
  rw [same]
  exact told _

theorem Recounted.of_investigation (env : Env) {now : Time} {c : Command} {s s' : Store}
    (told : ∀ hand, Recounts s hand s' hand) (step : s' = s ∨ InvestigationStep env now c s s') :
    Recounted s s' := by
  rcases step with rfl | step
  · exact .refl s' _
  · exact .of_kept told step.remediation

theorem Recounted.of_verification (env : Env) (tickets : List IssuedTicket) (c : Command)
    {now : Time} {s s' : Store} (told : ∀ hand, Recounts s hand s' hand)
    (step : s' = s ∨ VerificationStep env now tickets c s s') : Recounted s s' := by
  rcases step with rfl | step
  · exact .refl s' _
  · exact .of_kept told step.remediation

theorem Recounted.of_committed {α : Type} {s : Store} {outcome : Except DomainError (α × Store)}
    (told : ∀ a s', outcome = .ok (a, s') → Recounted s s') :
    Recounted s (committed s outcome) := by
  cases outcome with
  | error e => exact .refl s _
  | ok r => exact told r.1 r.2 rfl

theorem execute_recounted (env : Env) (now : Time) (tickets : List IssuedTicket) (s : Store)
    (c : Command) : Recounted s (execute env now tickets s c) := by
  cases c with
  | alertReceived command =>
    exact .of_committed fun _ _ done => .of_kept (fun _ => handleAlertReceived_recounts done)
      (AlertStep.of_handleAlertReceived done).remediation
  | registerEvidenceRef command =>
    exact .of_committed fun _ _ done => .of_kept (fun _ => registerEvidenceRef_recounts done)
      (AlertStep.of_registerEvidenceRef done).remediation
  | requestInvestigation incidentId provider model settings budget =>
    exact .of_committed fun _ _ done => .of_investigation env
      (fun _ => requestInvestigation_recounts done) (requestInvestigation_step done)
  | claim id owner leaseSeconds =>
    exact .of_committed fun _ _ done => .of_investigation env (fun _ => claim_recounts done)
      (claim_step done)
  | release id owner =>
    exact .of_committed fun _ _ done => .of_investigation env (fun _ => release_recounts done)
      (release_step done)
  | recordStep id owner record =>
    exact .of_committed fun _ _ done => .of_investigation env (fun _ => recordStep_recounts done)
      (.inr (recordStep_step done))
  | applyHypothesisUpdates id owner iteration callId batch =>
    exact .of_committed fun _ _ done => .of_investigation env
      (fun _ => applyHypothesisUpdates_recounts done) (.inr (applyHypothesisUpdates_step done))
  | complete id owner iteration callId result =>
    exact .of_committed fun _ _ done => .of_investigation env (fun _ => complete_recounts done)
      (.inr (complete_step done))
  | escalate id owner iteration e =>
    exact .of_committed fun _ _ done => .of_investigation env (fun _ => escalate_recounts done)
      (.inr (escalate_step done))
  | propose proposal key correlationId =>
    exact .of_committed fun _ _ done => propose_recounted done
  | decideApproval id approver roles approve hash decisionId comment =>
    exact .of_committed fun _ _ done => decideApproval_recounted done
  | expireApprovals => exact expireEach_recounted env now _ s
  | cancel id actor reason => exact .of_committed fun _ _ done => cancel_recounted done
  | revise id parameters proposedBy reason key =>
    exact revise_recounted env now s id parameters proposedBy reason key
  | claimExecution id owner leaseSeconds =>
    exact .of_committed fun _ _ done => claimExecution_recounted done
  | completeExecution executionId owner outcome executor result error retryable =>
    exact .of_committed fun _ _ done => completeExecution_recounted done
  | recordBaseline id owner values evidenceIds =>
    exact .of_committed fun _ _ done => recordBaseline_recounted done
  | setKillSwitch scope engaged actor reason =>
    exact .of_committed fun _ _ done => setKillSwitch_recounted done
  | startVerification id =>
    exact .of_committed fun _ _ done => .of_verification env tickets (.startVerification id)
      (fun _ => start_recounts done) (start_step done)
  | claimDue id owner leaseSeconds =>
    exact .of_committed fun _ _ done => .of_verification env tickets _
      (fun _ => claimDue_recounts done) (claimDue_step done)
  | recordObservation position sample evidenceIds observedAt =>
    simp only [execute]
    split
    · rename_i held
      exact .of_committed fun _ _ done => .of_verification env tickets _
        (fun _ => recordObservation_recounts done) (.inr (recordObservation_step done held))
    · exact .refl s _

theorem run_recounted (env : Env) (start : World) (events : List Event) :
    Recounted start.store (Machine.run (step env) start events).store := by
  have each : ∀ (w : World) (e : Event), Recounted start.store w.store →
      Recounted start.store (step env w e).store := by
    intro w e told
    exact told.trans (execute_recounted env (w.clock + e.elapsed) w.tickets w.store e.command)
  exact Machine.state_invariant (P := fun w : World => Recounted start.store w.store)
    (Recounts.refl _ _) each events

/-- Where the changes of an incident lead. -/
def arrival (changes : List StatusChange) : Standing :=
  match changes.getLast? with
  | some change => { status := change.toStatus, version := change.version }
  | none => .initial

/-- The changes fold to where the incident stands: the first starts where an incident
begins, each starts where the one before it leads and is numbered one higher, and the
last one leads to where the incident stands. -/
structure FaithfulHistory (changes : List StatusChange) (standing : Standing) : Prop where
  chain : ∀ {before change after}, changes = before ++ change :: after →
    change.fromStatus = (arrival before).status ∧
      change.version = (arrival before).version + 1
  last : standing = arrival changes

theorem FaithfulHistory.of_trail {changes : List StatusChange} {standing : Standing}
    (trail : Trail LeadsOn .initial changes standing) : FaithfulHistory changes standing := by
  let leads := fun change : StatusChange => Standing.mk change.toStatus change.version
  have labelled : ∀ a change b, LeadsOn a change b → b = leads change := by
    intro a change b step
    cases b
    obtain ⟨_, rfl, _, rfl⟩ := step
    rfl
  have told : ∀ changes : List StatusChange,
      (changes.getLast?.map leads).getD .initial = arrival changes := by
    intro changes
    unfold arrival
    cases changes.getLast? <;> rfl
  constructor
  · rintro before change after rfl
    have step := trail.links labelled
    rw [told] at step
    exact ⟨step.fromStatus, step.version⟩
  · rw [← told]
    exact trail.arrives labelled

/-- The events of an incident tell its whole history. -/
theorem statusHistory_faithful (env : Env) (clock : Time) (events : List Event) (i : Uuid) :
    FaithfulHistory (changesOf (runFrom env clock events).store.audit.outbox i)
      (standingAt (runFrom env clock events).store.incidents i) := by
  apply FaithfulHistory.of_trail
  obtain ⟨changes, grown, trail⟩ := (run_recounted env (emptyWorld clock) events).incidents i
  rw [show (runFrom env clock events).store.audit.outbox =
    (Machine.run (step env) (emptyWorld clock) events).store.audit.outbox from rfl, grown]
  exact trail

/-- The status a timeline ends with. -/
def lastStatus (trail : List RemediationTimelineRow) : Option RemediationStatus :=
  trail.getLast?.bind (·.toStatus)

/-- The timeline of a remediation after a run: it is numbered from 1 without gaps, every
entry starts at the status the one before it ends with and changes it along an allowed
transition, the first one records the proposal, the last one ends with the status the
remediation has, and a terminal status lasts, whatever happens later. -/
structure AuditTrail (env : Env) (clock : Time) (events : List Event) (id : Uuid)
    (trail : List RemediationTimelineRow) (status : Option RemediationStatus) : Prop where
  numbered : trail.map (·.sequence) = List.range' 1 trail.length
  chain : ∀ {before entry after}, trail = before ++ entry :: after →
    entry.fromStatus = lastStatus before
  proposed : ∀ {entry}, entry ∈ trail → entry.fromStatus = none → entry.toStatus = some .proposed
  allowed : ∀ {entry fromStatus toStatus}, entry ∈ trail → entry.fromStatus = some fromStatus →
    entry.toStatus = some toStatus → fromStatus ≠ toStatus →
    canTransition fromStatus toStatus = true
  last : status = lastStatus trail
  settled : ∀ {final}, status = some final → final ∈ terminalRemediationStatuses → ∀ later,
    remediationStatus (runFrom env clock (events ++ later)).store.remediation.remediations id =
      some final

theorem timeline_complete (env : Env) (clock : Time) (events : List Event) (id : Uuid) :
    AuditTrail env clock events id
      (timelineOf (runFrom env clock events).store.audit.timeline id)
      (remediationStatus (runFrom env clock events).store.remediation.remediations id) := by
  have told := run_recounted env (emptyWorld clock) events
  have trail : Trail Follows none
      (timelineOf (runFrom env clock events).store.audit.timeline id)
      (remediationStatus (runFrom env clock events).store.remediation.remediations id) := by
    obtain ⟨entries, grown, trail⟩ := told.remediations id
    rw [show timelineOf (runFrom env clock events).store.audit.timeline id = entries from grown]
    exact trail
  have labelled : ∀ a entry b, Follows a entry b → b = entry.toStatus :=
    fun _ _ _ step => step.toStatus.symm
  have ends : ∀ entries : List RemediationTimelineRow,
      (entries.getLast?.map (·.toStatus)).getD none = lastStatus entries := by
    intro entries
    unfold lastStatus
    cases entries.getLast? <;> rfl
  have follows : ∀ {before entry after},
      timelineOf (runFrom env clock events).store.audit.timeline id = before ++ entry :: after →
      Follows (lastStatus before) entry entry.toStatus := by
    intro before entry after split
    rw [split] at trail
    have linked := trail.links labelled
    rw [ends] at linked
    exact linked
  constructor
  · exact told.numbered (fun _ => rfl) id
  · intro before entry after split
    exact (follows split).fromStatus
  · intro entry member created
    obtain ⟨before, after, split⟩ := List.append_of_mem member
    have passes := (follows split).passes
    rw [← (follows split).fromStatus, created] at passes
    generalize entry.toStatus = reached at passes
    cases passes
    rfl
  · intro entry fromStatus toStatus member left reached changed
    obtain ⟨before, after, split⟩ := List.append_of_mem member
    have passes := (follows split).passes
    rw [← (follows split).fromStatus, left, reached] at passes
    cases passes with
    | stayed => exact absurd rfl changed
    | moved allowed => exact allowed
  · rw [← ends]
    exact trail.arrives labelled
  · intro final held terminal later
    obtain ⟨entries, _, onward⟩ :=
      (run_recounted env (runFrom env clock events) later).remediations id
    rw [show runFrom env clock (events ++ later) =
      Machine.run (step env) (runFrom env clock events) later from Machine.run_append _ _]
    -- every entry of the rest of the run starts and ends at the terminal status
    have kept : ∀ {a entry b}, Follows a entry b → a = some final → b = some final := by
      rintro a entry b moved rfl
      exact moved.passes.terminal terminal
    exact onward.keeps (P := fun a => a = some final) kept held

end IncidentTriage.Verified
