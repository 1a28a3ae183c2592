import IncidentTriage.Incident.System

/-! # What is published

`published q s` counts the events of the outbox that `q` picks, and `Publishes own s s'`
says that a step only added events that `own` allows.  Each function that writes to the
outbox has one lemma here; together they say which command publishes which events.
-/

namespace IncidentTriage.Verified

open IncidentTriage.Python IncidentTriage.Domain IncidentTriage.Incident
open IncidentTriage.Remediation (ActionCatalogEntry)

/-- How many events of the outbox `q` picks. -/
def published (q : OutboxPayload → Bool) (s : Store) : Nat :=
  s.audit.outbox.countP (fun e => q e.payload)

/-- The outbox only grows, and by events that `own` allows. -/
def Publishes (own : OutboxPayload → Bool) (s s' : Store) : Prop :=
  ∃ events, s'.audit.outbox = s.audit.outbox ++ events ∧ ∀ e ∈ events, own e.payload = true

section
variable {own : OutboxPayload → Bool} {s s₁ s' : Store}

theorem Publishes.refl (s : Store) : Publishes own s s :=
  ⟨[], (List.append_nil _).symm, by simp⟩

theorem Publishes.of_outbox (same : s'.audit.outbox = s.audit.outbox) : Publishes own s s' := by
  refine ⟨[], ?_, by simp⟩
  rw [same, List.append_nil]

theorem Publishes.of_audit (same : s'.audit = s.audit) : Publishes own s s' :=
  .of_outbox (by rw [same])

theorem Publishes.trans (first : Publishes own s s₁) (second : Publishes own s₁ s') :
    Publishes own s s' := by
  obtain ⟨before, grown, allowed⟩ := first
  obtain ⟨after, grown', allowed'⟩ := second
  refine ⟨before ++ after, by rw [grown', grown, List.append_assoc], ?_⟩
  intro e member
  rcases List.mem_append.mp member with old | new
  · exact allowed e old
  · exact allowed' e new

/-- One more event, after a step that did not publish anything else. -/
theorem Publishes.insert {now : Time} {aggregateType : AggregateType} {aggregateId : Uuid}
    {correlationId : Option Uuid} {payload : OutboxPayload} (before : Publishes own s s₁)
    (allowed : own payload = true) :
    Publishes own s (insertOutboxEvent s₁ now aggregateType aggregateId correlationId payload) := by
  apply before.trans
  refine ⟨_, rfl, ?_⟩
  intro e member
  obtain rfl := List.mem_singleton.mp member
  exact allowed

theorem Publishes.mono {all : OutboxPayload → Bool} (before : Publishes own s s')
    (wider : ∀ p, own p = true → all p = true) : Publishes all s s' := by
  obtain ⟨events, grown, allowed⟩ := before
  exact ⟨events, grown, fun e member => wider _ (allowed e member)⟩

/-- Events of another kind stay as many as they were. -/
theorem Publishes.published_eq {q : OutboxPayload → Bool} (only : Publishes own s s')
    (foreign : ∀ p, own p = true → q p = false) : published q s' = published q s := by
  obtain ⟨events, grown, allowed⟩ := only
  have none : events.countP (fun e => q e.payload) = 0 := by
    apply List.countP_eq_zero.mpr
    intro e member
    simp [foreign _ (allowed e member)]
  rw [published, published, grown, List.countP_append, none, Nat.add_zero]

end

theorem published_insert (q : OutboxPayload → Bool) (s : Store) (now : Time)
    (aggregateType : AggregateType) (aggregateId : Uuid) (correlationId : Option Uuid)
    (payload : OutboxPayload) :
    published q (insertOutboxEvent s now aggregateType aggregateId correlationId payload) =
      published q s + (if q payload then 1 else 0) := by
  simp only [published, insertOutboxEvent, List.countP_append, List.countP_singleton]

/-! ## Who publishes what -/

def isStatusChange : OutboxPayload → Bool
  | .incidentStatusChanged .. => true
  | _ => false

def ofAlerts : OutboxPayload → Bool
  | .alertReceived .. | .alertResolved .. | .alertCorrelated .. | .incidentCreated ..
  | .incidentStatusChanged .. | .evidenceRefRegistered .. => true
  | _ => false

def ofInvestigations : OutboxPayload → Bool
  | .incidentStatusChanged .. | .investigationStarted .. | .investigationCompleted ..
  | .investigationFailed .. => true
  | _ => false

def ofRemediations : OutboxPayload → Bool
  | .incidentStatusChanged .. | .remediation .. | .verificationRequested ..
  | .killSwitchChanged .. => true
  | _ => false

def ofVerifications : OutboxPayload → Bool
  | .incidentStatusChanged .. | .verificationStarted .. | .verificationCompleted ..
  | .incidentResolved .. | .incidentEscalated .. => true
  | _ => false

/-- The end of one investigation. -/
def endsInvestigation (id : Uuid) : OutboxPayload → Bool
  | .investigationCompleted investigation _ _ _ => decide (investigation = id)
  | .investigationFailed investigation _ _ _ => decide (investigation = id)
  | _ => false

/-- The closure of an incident by one verification. -/
def closesIncident (id : Uuid) : OutboxPayload → Bool
  | .incidentResolved _ _ _ verification _ => decide (verification = id)
  | .incidentEscalated _ _ _ verification _ => decide (verification = id)
  | _ => false

/-- The end of one verification. -/
def endsVerification (id : Uuid) : OutboxPayload → Bool
  | .verificationCompleted verification _ _ _ _ _ _ _ _ => decide (verification = id)
  | _ => false

theorem transitionIncidentStatus_audit {s : Store} {now : Time} {i : Uuid}
    {incident : IncidentRow} {toStatus : IncidentStatus} {closes : Bool}
    {r : IncidentRow × Store}
    (done : transitionIncidentStatus s now i incident toStatus closes = some r) :
    r.2.audit = s.audit := by
  unfold transitionIncidentStatus at done
  split at done
  · cases done
  · split_ifs at done
    cases done
    rfl

/-- Of the events that `q` tells apart by what they are about, one more is published
about `which`, if it is given, and none about anything else. -/
def Announces (q : Uuid → OutboxPayload → Bool) (s s' : Store) (which : Option Uuid) : Prop :=
  ∀ id, published (q id) s' = published (q id) s + (if which = some id then 1 else 0)

section
variable {q : Uuid → OutboxPayload → Bool} {own : OutboxPayload → Bool} {s s₁ s' : Store}

theorem Announces.of_publishes (only : Publishes own s s')
    (foreign : ∀ id p, own p = true → q id p = false) : Announces q s s' none := by
  intro id
  rw [only.published_eq (foreign id)]
  simp

theorem Announces.of_audit (same : s'.audit = s.audit) : Announces q s s' none := by
  intro id
  simp [published, same]

theorem Announces.trans {which : Option Uuid} (first : Announces q s s₁ none)
    (second : Announces q s₁ s' which) : Announces q s s' which := by
  intro id
  rw [second id, first id]
  simp

/-- One more event, after a step that announced nothing. -/
theorem Announces.insert {now : Time} {aggregateType : AggregateType} {aggregateId id : Uuid}
    {correlationId : Option Uuid} {payload : OutboxPayload} (before : Announces q s s₁ none)
    (about : ∀ k, q k payload = decide (id = k)) :
    Announces q s (insertOutboxEvent s₁ now aggregateType aggregateId correlationId payload)
      (some id) := by
  intro k
  rw [published_insert, before k, about k]
  simp

/-- One more event about something else. -/
theorem Announces.insert_other {now : Time} {aggregateType : AggregateType} {aggregateId : Uuid}
    {correlationId : Option Uuid} {payload : OutboxPayload} {which : Option Uuid}
    (before : Announces q s s₁ which) (other : ∀ id, q id payload = false) :
    Announces q s (insertOutboxEvent s₁ now aggregateType aggregateId correlationId payload)
      which := by
  intro id
  rw [published_insert, other id, before id]
  simp

end

/-! ## Alerts and evidence -/

theorem finalizeCommand_audit {s s' : Store} {command : AlertReceivedCommand}
    {result r : AlertReceivedResult}
    (done : finalizeCommand s command result = .ok (r, s')) : s'.audit = s.audit := by
  unfold finalizeCommand insertProcessedCommand at done
  split at done
  · rename_i inserted
    split at inserted
    · cases inserted
    · cases inserted
      cases done
      rfl
  · cases done

theorem finishResolution_audit {s s' : Store} {command : AlertReceivedCommand} {alertId : Uuid}
    {alert : AlertRow} {r : AlertReceivedResult}
    (done : finishResolution s command alertId alert = .ok (r, s')) : s'.audit = s.audit :=
  finalizeCommand_audit done

theorem processAlertResolved_publishes {now : Time} {s s' : Store}
    {command : AlertReceivedCommand} {fingerprint : String} {r : AlertReceivedResult}
    (done : processAlertResolved now s command fingerprint = .ok (r, s')) :
    Publishes ofAlerts s s' := by
  unfold processAlertResolved at done
  split at done
  · -- an alert that was never received ends: a resolved row, and no event
    have same := finishResolution_audit done
    exact .of_audit same
  · split_ifs at done
    · exact .of_audit (finishResolution_audit done)
    · simp only [bind_eq_ok, found_eq_ok] at done
      obtain ⟨incidentId, _, incident, _, done⟩ := done
      split_ifs at done
      · simp only [bind_eq_ok, found_eq_ok] at done
        obtain ⟨⟨moved, s₁⟩, transitioned, done⟩ := done
        have same := transitionIncidentStatus_audit transitioned
        refine .trans ?_ (.of_audit (finishResolution_audit done))
        refine .insert (.trans ?_ (.of_audit same)) rfl
        exact .insert (.of_audit rfl) rfl
      · refine .trans ?_ (.of_audit (finishResolution_audit done))
        exact .insert (.of_audit rfl) rfl

theorem incidentForAlert_audit {env : Env} {now : Time} {s s' : Store}
    {command : AlertReceivedCommand} {decision : CorrelationDecision}
    {chosen : Uuid × IncidentRow} {created : Bool}
    (done : incidentForAlert env now s command decision = .ok (chosen, created, s')) :
    s'.audit = s.audit := by
  unfold incidentForAlert at done
  split at done
  · simp only [bind_eq_ok, found_eq_ok, pure_eq_ok] at done
    obtain ⟨incidentId, _, incident, _, done⟩ := done
    cases done
    rfl
  · dsimp only [getOrCreateOpenIncident] at done
    split at done <;> cases done <;> rfl

theorem insertAlertOrGetExisting_audit (s : Store) (now : Time) (command : AlertReceivedCommand)
    (fingerprint : String) :
    (insertAlertOrGetExisting s now command fingerprint).2.2.audit = s.audit := by
  unfold insertAlertOrGetExisting
  split
  · rfl
  · split <;> rfl

theorem handleAlertReceived_publishes {env : Env} {now : Time} {s s' : Store}
    {command : AlertReceivedCommand} {r : AlertReceivedResult}
    (done : handleAlertReceived env now s command = .ok (r, s')) : Publishes ofAlerts s s' := by
  unfold handleAlertReceived at done
  split at done
  · cases done
    exact .refl s
  · unfold processAlertReceived at done
    split_ifs at done with resolved
    · exact processAlertResolved_publishes done
    · have inserted := insertAlertOrGetExisting_audit s now command
        (computeFingerprint env.sha256 command.source command.labels)
      dsimp only at done
      split_ifs at done
      · exact .of_audit ((finalizeCommand_audit done).trans inserted)
      · simp only [bind_eq_ok] at done
        obtain ⟨⟨⟨incidentId, incident⟩, created, s₁⟩, chosen, done⟩ := done
        have linked : Publishes ofAlerts s s₁ :=
          .of_audit ((incidentForAlert_audit chosen).trans inserted)
        refine .trans ?_ (.of_audit (finalizeCommand_audit done))
        refine .insert (.insert (linked.trans (.of_audit rfl)) rfl) ?_
        split_ifs <;> rfl

theorem registerEvidenceRef_publishes {now : Time} {s s' : Store}
    {command : RegisterEvidenceRefCommand} {registered : Bool}
    (done : registerEvidenceRef now s command = .ok (registered, s')) :
    Publishes ofAlerts s s' := by
  simp only [registerEvidenceRef, bind_eq_ok] at done
  obtain ⟨incident, _, done⟩ := done
  split at done
  · split_ifs at done
    cases done
    exact .refl s
  · cases done
    exact .insert (.refl s) rfl

/-! ## Remediations -/

theorem transition_outbox {s s' : Store} {now : Time} {id : Uuid} {row row' : RemediationRow}
    {toStatus : RemediationStatus} {event actor : String} {version : Option String}
    (done : transition s now id row toStatus event actor version = .ok (row', s')) :
    s'.audit.outbox = s.audit.outbox := by
  simp only [transition, bind_eq_ok, ensure_eq_ok, pure_eq_ok] at done
  obtain ⟨_, _, done⟩ := done
  cases done
  rfl

theorem moveIncident_publishes {s s' : Store} {now : Time} {i : Uuid} {incident : IncidentRow}
    {fromStatuses : List IncidentStatus} {toStatus : IncidentStatus} {reason : String}
    (done : moveIncident s now i incident fromStatuses toStatus reason = .ok s') :
    Publishes ofRemediations s s' := by
  unfold moveIncident at done
  split_ifs at done
  · simp only [bind_eq_ok, found_eq_ok, pure_eq_ok] at done
    obtain ⟨⟨moved, s₁⟩, transitioned, rfl⟩ := done
    have same := transitionIncidentStatus_audit transitioned
    exact .insert (.of_audit same) rfl
  · cases done
    exact .refl s

theorem finishFailed_publishes {s s' : Store} {now : Time} {id : Uuid}
    {row row' : RemediationRow} {incident : IncidentRow} {code text actor : String}
    (done : finishFailed s now id row incident code text actor = .ok (row', s')) :
    Publishes ofRemediations s s' := by
  simp only [finishFailed, bind_eq_ok, pure_eq_ok] at done
  obtain ⟨⟨moved, s₁⟩, transitioned, s₂, left, done⟩ := done
  cases done
  have same := transition_outbox transitioned
  exact .trans (.insert (.of_outbox same) rfl) (moveIncident_publishes left)

theorem finishCancelled_publishes {s s' : Store} {now : Time} {id : Uuid}
    {row row' : RemediationRow} {incident : IncidentRow} {event actor reason : String}
    {incidentTo : IncidentStatus} {eventType : String}
    {decision : Option RemediationPolicyDecisionRow}
    (done : finishCancelled s now id row incident event actor reason incidentTo eventType
      decision = .ok (row', s')) : Publishes ofRemediations s s' := by
  simp only [finishCancelled, bind_eq_ok, pure_eq_ok] at done
  obtain ⟨⟨moved, s₁⟩, transitioned, s₂, left, done⟩ := done
  cases done
  have same := transition_outbox transitioned
  exact .trans (.insert (.of_outbox same) rfl) (moveIncident_publishes left)

theorem routeProposal_publishes {s s' : Store} {now : Time} {id : Uuid} {row : RemediationRow}
    {incident : IncidentRow} {decision : PolicyDecision}
    {decisionRow : RemediationPolicyDecisionRow} {view : RemediationView}
    (done : routeProposal s now id row incident decision decisionRow = .ok (view, s')) :
    Publishes ofRemediations s s' := by
  unfold routeProposal at done
  split_ifs at done
  all_goals
    simp only [bind_eq_ok, pure_eq_ok] at done
    obtain ⟨⟨moved, s₁⟩, transitioned, s₂, left, done⟩ := done
    cases done
    have same := transition_outbox transitioned
    have published : Publishes ofRemediations s s₂ := by
      refine .trans ?_ (moveIncident_publishes left)
      exact .insert (.of_outbox same) rfl
    exact published

theorem propose_publishes {env : Env} {now : Time} {s s' : Store}
    {proposal : RemediationProposal} {key : String} {correlationId : Option Uuid}
    {view : RemediationView}
    (done : propose env now s proposal key correlationId = .ok (view, s')) :
    Publishes ofRemediations s s' := by
  simp only [propose, bind_eq_ok] at done
  obtain ⟨incident, _, done⟩ := done
  split at done
  · cases done
    exact .refl s
  · simp only [bind_eq_ok, ensure_eq_ok] at done
    obtain ⟨_, _, done⟩ := done
    refine .trans ?_ (routeProposal_publishes done)
    exact .insert (.trans (.insert (.of_outbox rfl) rfl) (.of_outbox rfl)) rfl

theorem decideApproval_publishes {now : Time} {s s' : Store} {id : Uuid} {approver : String}
    {roles : List String} {approve : Bool} {hash : String} {decisionId : Uuid}
    {comment : Option String} {view : RemediationView}
    (done : decideApproval now s id approver roles approve hash decisionId comment =
      .ok (view, s')) : Publishes ofRemediations s s' := by
  simp only [decideApproval, bind_eq_ok] at done
  obtain ⟨row, _, done⟩ := done
  split at done
  · -- there is a decision already: given once more, or refused
    split_ifs at done <;> cases done <;> exact .refl s
  · simp only [bind_eq_ok, ensure_eq_ok] at done
    obtain ⟨_, _, _, _, decision, _, _, _, _, _, incident, _, done⟩ := done
    cases approve with
    | true =>
      simp only [if_true, bind_eq_ok, pure_eq_ok] at done
      obtain ⟨⟨moved, s₁⟩, transitioned, s₂, left, done⟩ := done
      cases done
      have same := transition_outbox transitioned
      have published : Publishes ofRemediations s s₂ := by
        refine .trans ?_ (moveIncident_publishes left)
        exact .insert (.of_outbox same) rfl
      exact published
    | false =>
      simp only [Bool.false_eq_true, if_false, bind_eq_ok, pure_eq_ok] at done
      obtain ⟨⟨moved, s₁⟩, finished, done⟩ := done
      cases done
      have published := finishCancelled_publishes finished
      exact published

theorem expireApproval_publishes {env : Env} {now : Time} {s s' : Store} {id : Uuid}
    {expired : Bool} (done : expireApproval env now s id = .ok (expired, s')) :
    Publishes ofRemediations s s' := by
  simp only [expireApproval, bind_eq_ok] at done
  obtain ⟨row, _, done⟩ := done
  split_ifs at done
  · cases done
    exact .refl s
  · simp only [bind_eq_ok, pure_eq_ok] at done
    obtain ⟨incident, _, ⟨moved, s₁⟩, finished, done⟩ := done
    cases done
    have published := finishCancelled_publishes finished
    exact published

theorem expireEach_publishes (env : Env) (now : Time) (ids : List Uuid) (s : Store) :
    Publishes ofRemediations s (expireEach env now ids s).2 := by
  induction ids generalizing s with
  | nil => exact .refl s
  | cons id ids ih =>
    simp only [expireEach]
    split
    · exact .refl s
    · rename_i expired s₁ done
      exact (expireApproval_publishes done).trans (ih s₁)

theorem cancel_publishes {now : Time} {s s' : Store} {id : Uuid} {actor reason : String}
    {view : RemediationView} (done : cancel now s id actor reason = .ok (view, s')) :
    Publishes ofRemediations s s' := by
  simp only [cancel, bind_eq_ok, pure_eq_ok] at done
  obtain ⟨row, _, _, _, incident, _, ⟨moved, s₁⟩, finished, done⟩ := done
  cases done
  have published := finishCancelled_publishes finished
  exact published

theorem revise_publishes (env : Env) (now : Time) (s : Store) (id : Uuid) (parameters : Dict)
    (proposedBy : String) (reason : Option String) (key : String) :
    Publishes ofRemediations s (revise env now s id parameters proposedBy reason key).2 := by
  unfold revise
  split
  · exact .refl s
  · split
    · exact .refl s
    · rename_i view s₁ cancelled
      have first := cancel_publishes cancelled
      dsimp only
      generalize RemediationProposal.mk _ _ _ _ _ _ _ _ = proposal
      by_cases valid : proposal.Valid
      · rw [if_pos valid]
        split
        · exact first
        · rename_i proposed
          exact first.trans (propose_publishes proposed)
      · rw [if_neg valid]
        exact first

theorem claimExecution_publishes {env : Env} {now : Time} {s s' : Store} {id : Uuid}
    {owner : String} {leaseSeconds : Int} {ticket : Option ExecutionTicket}
    (done : claimExecution env now s id owner leaseSeconds = .ok (ticket, s')) :
    Publishes ofRemediations s s' := by
  have started : ∀ {row}, startAttempt env now s id row owner leaseSeconds = .ok (ticket, s') →
      Publishes ofRemediations s s' := by
    intro row done
    simp only [startAttempt, bind_eq_ok] at done
    obtain ⟨incident, _, done⟩ := done
    split at done
    · split_ifs at done
      · simp only [bind_eq_ok, pure_eq_ok] at done
        obtain ⟨⟨moved, s₁⟩, finished, done⟩ := done
        cases done
        have published := finishCancelled_publishes finished
        exact published
      · simp only [bind_eq_ok, pure_eq_ok] at done
        obtain ⟨⟨moved, s₁⟩, finished, done⟩ := done
        cases done
        have published := finishFailed_publishes finished
        exact published
    · simp only [bind_eq_ok, found_eq_ok, pure_eq_ok] at done
      obtain ⟨entry, _, ⟨moved, s₁⟩, transitioned, done⟩ := done
      cases done
      have same := transition_outbox transitioned
      exact .trans (.insert (.of_outbox same) rfl) (.of_outbox rfl)
  simp only [claimExecution, bind_eq_ok] at done
  obtain ⟨row, _, done⟩ := done
  by_cases idle : row.status ≠ .approved ∧ row.status ≠ .executing
  · rw [if_pos idle] at done
    cases done
    exact .refl s
  · rw [if_neg idle] at done
    split at done
    · rename_i x latest _
      by_cases running : latest.status = .running
      · rw [if_pos running] at done
        -- an attempt that was interrupted is only noted in the timeline
        split_ifs at done <;> cases done <;> exact .of_outbox rfl
      · rw [if_neg running] at done
        exact started done
    · exact started done

theorem requestVerification_publishes {env : Env} {s s' : Store} {now : Time} {id : Uuid}
    {row row' : RemediationRow} {entry : Option ActionCatalogEntry}
    (done : requestVerification env s now id row entry = .ok (row', s')) :
    Publishes ofRemediations s s' := by
  simp only [requestVerification, bind_eq_ok, pure_eq_ok] at done
  obtain ⟨spec, _, s₁, inserted, done⟩ := done
  cases insertVerificationEvidence_eq_ok inserted
  cases done
  exact .insert (.of_outbox rfl) rfl

theorem completeExecution_publishes {env : Env} {now : Time} {s s' : Store} {x : Uuid}
    {owner : String} {outcome : AttemptOutcome} {executor : String} {result : Option Dict}
    {error : Option String} {retryable : Bool} {view : RemediationView}
    (done : completeExecution env now s x owner outcome executor result error retryable =
      .ok (view, s')) : Publishes ofRemediations s s' := by
  simp only [completeExecution, bind_eq_ok, found_eq_ok] at done
  obtain ⟨e, _, row, _, done⟩ := done
  by_cases executing : row.status ≠ .executing
  · rw [if_pos executing] at done
    cases done
    exact .refl s
  rw [if_neg executing] at done
  simp only [bind_eq_ok, ensure_eq_ok] at done
  obtain ⟨_, _, done⟩ := done
  by_cases finished : e.status ≠ .running ∧ e.status ≠ .unknown
  · rw [if_pos finished] at done
    cases done
    exact .refl s
  rw [if_neg finished] at done
  simp only [bind_eq_ok] at done
  obtain ⟨incident, _, done⟩ := done
  by_cases succeeded : outcome = .succeeded
  · rw [if_pos succeeded] at done
    simp only [recordSuccess, bind_eq_ok, pure_eq_ok] at done
    obtain ⟨⟨moved, s₁⟩, transitioned, ⟨verified, s₂⟩, requested, s₃, left, done⟩ := done
    cases done
    have same := transition_outbox transitioned
    have published : Publishes ofRemediations s s₃ := by
      refine .trans (.trans ?_ (requestVerification_publishes requested))
        (moveIncident_publishes left)
      exact .insert (.of_outbox same) rfl
    exact published
  · rw [if_neg succeeded] at done
    simp only [recordFailure] at done
    split_ifs at done
    · cases done
      exact .of_outbox rfl
    · simp only [bind_eq_ok, pure_eq_ok] at done
      obtain ⟨⟨moved, s₁⟩, failed, done⟩ := done
      cases done
      have published := finishFailed_publishes failed
      exact published

theorem recordBaseline_publishes {now : Time} {s s' : Store} {id : Uuid} {owner : String}
    {values : Dict} {evidenceIds : List Uuid} {u : Unit}
    (done : recordBaseline now s id owner values evidenceIds = .ok (u, s')) :
    Publishes ofRemediations s s' := by
  simp only [recordBaseline, bind_eq_ok] at done
  obtain ⟨row, _, _, _, done⟩ := done
  split_ifs at done <;> cases done <;> exact .of_outbox rfl

theorem setKillSwitch_publishes {env : Env} {now : Time} {s s' : Store} {scope : String}
    {engaged : Bool} {actor : String} {reason : Option String} {u : Unit}
    (done : setKillSwitch env now s scope engaged actor reason = .ok (u, s')) :
    Publishes ofRemediations s s' := by
  simp only [setKillSwitch, bind_eq_ok, pure_eq_ok] at done
  obtain ⟨_, _, done⟩ := done
  cases done
  exact .insert (.of_outbox rfl) rfl

/-! ## Investigations -/

theorem moveInvestigatedIncident_publishes {s s' : Store} {now : Time} {i : Uuid}
    {toStatus : IncidentStatus} {reason : String}
    (done : moveInvestigatedIncident s now i toStatus reason = .ok s') :
    Publishes isStatusChange s s' := by
  simp only [moveInvestigatedIncident, bind_eq_ok, found_eq_ok] at done
  obtain ⟨incident, _, done⟩ := done
  split_ifs at done
  · simp only [bind_eq_ok, found_eq_ok, pure_eq_ok] at done
    obtain ⟨⟨moved, s₁⟩, transitioned, rfl⟩ := done
    have same := transitionIncidentStatus_audit transitioned
    exact .insert (.of_audit same) rfl
  · cases done
    exact .refl s

theorem isStatusChange_of_investigations {p : OutboxPayload} (change : isStatusChange p = true) :
    ofInvestigations p = true := by
  cases p <;> first | rfl | cases change

theorem requestInvestigation_publishes {now : Time} {s s' : Store} {i : Uuid}
    {provider model : String} {settings : Dict} {budget : InvestigationBudget}
    {started : StartedInvestigation}
    (done : requestInvestigation now s i provider model settings budget = .ok (started, s')) :
    Publishes ofInvestigations s s' ∧ Announces endsInvestigation s s' none := by
  simp only [requestInvestigation, bind_eq_ok, found_eq_ok] at done
  obtain ⟨incident, _, done⟩ := done
  split at done
  · cases done
    exact ⟨.refl s, .of_audit rfl⟩
  · simp only [bind_eq_ok, ensure_eq_ok, found_eq_ok, pure_eq_ok] at done
    obtain ⟨_, _, _, _, ⟨moved, s₁⟩, transitioned, done⟩ := done
    have same : s₁.audit = s.audit := transitionIncidentStatus_audit transitioned
    cases done
    constructor
    · exact .insert (.insert (.of_audit same) rfl) rfl
    · refine .insert_other (.insert_other (.of_audit same) ?_) ?_ <;> exact fun _ => rfl

/-- Two events are published with an outcome: the incident's move, and the outcome. -/
theorem outcome_publishes {s₁ s₂ : Store} {now : Time} {i : Uuid} {toStatus : IncidentStatus}
    {reason : String} (s : Store) (id : Uuid) (payload : OutboxPayload)
    (left : moveInvestigatedIncident s₁ now i toStatus reason = .ok s₂)
    (same : s₁.audit = s.audit) (allowed : ofInvestigations payload = true)
    (ends : ∀ k, endsInvestigation k payload = decide (id = k)) :
    Publishes ofInvestigations s
      (insertOutboxEvent s₂ now .investigation id (some i) payload) ∧
      Announces endsInvestigation s
        (insertOutboxEvent s₂ now .investigation id (some i) payload) (some id) := by
  have moved : Publishes isStatusChange s s₂ :=
    (Publishes.of_audit same).trans (moveInvestigatedIncident_publishes left)
  constructor
  · exact .insert (moved.mono fun _ => isStatusChange_of_investigations) allowed
  · refine .insert (.of_publishes moved ?_) ends
    intro k p change
    cases p <;> first | rfl | cases change

/-! ## Verifications -/

theorem moveVerifiedIncident_publishes {s s' : Store} {now : Time} {i : Uuid}
    {incident incident' : IncidentRow} {toStatus : IncidentStatus} {reason : String}
    (done : moveVerifiedIncident s now i incident toStatus reason = .ok (incident', s')) :
    Publishes isStatusChange s s' := by
  simp only [moveVerifiedIncident, bind_eq_ok, found_eq_ok, pure_eq_ok] at done
  obtain ⟨⟨moved, s₁⟩, transitioned, done⟩ := done
  have same := transitionIncidentStatus_audit transitioned
  cases done
  exact .insert (.of_audit same) rfl

/-- What a verdict publishes: the moves of the incident, then its closure if the
incident is closed by it. -/
theorem applyVerdict_publishes {env : Env} {s s' : Store} {now : Time} {id : Uuid}
    {row : VerificationRow} {incident : IncidentRow} {status : VerificationStatus}
    {nextAction : String}
    (done : applyVerdict env s now id row incident status = .ok (nextAction, s')) :
    Publishes isStatusChange s s' ∨
      ∃ s₁ payload, Publishes isStatusChange s s₁ ∧
        s' = insertOutboxEvent s₁ now .incident row.incidentId (some row.incidentId) payload ∧
        ofVerifications payload = true ∧
        (∀ k, closesIncident k payload = decide (id = k)) ∧
        (∀ k, endsVerification k payload = false) := by
  unfold applyVerdict at done
  split at done
  · simp only [bind_eq_ok, pure_eq_ok] at done
    obtain ⟨⟨moved, s₁⟩, left, done⟩ := done
    cases done
    exact .inr ⟨s₁, _, moveVerifiedIncident_publishes left, rfl, rfl, fun _ => rfl, fun _ => rfl⟩
  · simp only [bind_eq_ok, pure_eq_ok] at done
    obtain ⟨⟨moved, s₁⟩, left, done⟩ := done
    cases done
    exact .inr ⟨s₁, _, moveVerifiedIncident_publishes left, rfl, rfl, fun _ => rfl, fun _ => rfl⟩
  · simp only [bind_eq_ok] at done
    obtain ⟨⟨moved, s₁⟩, left, done⟩ := done
    have first := moveVerifiedIncident_publishes left
    replace done : (if moved.attemptCount < env.maxInvestigationAttempts ∧
        0 < countFiringAlerts s₁ row.incidentId then _ else _) = Except.ok (nextAction, s') := done
    by_cases again : moved.attemptCount < env.maxInvestigationAttempts ∧
        0 < countFiringAlerts s₁ row.incidentId
    · rw [if_pos again] at done
      cases done
      exact .inl first
    · rw [if_neg again] at done
      simp only [bind_eq_ok, pure_eq_ok] at done
      obtain ⟨⟨moved', s₂⟩, left', done⟩ := done
      cases done
      exact .inr ⟨s₂, _, first.trans (moveVerifiedIncident_publishes left'), rfl, rfl, fun _ => rfl,
        fun _ => rfl⟩

/-- A verdict that is not stale: the incident still waits for it, and the remediation
names this verification. -/
def VerdictApplies (s : Store) (id : Uuid) (row : VerificationRow) : Prop :=
  ∃ incident remediation, s.incidents[row.incidentId]? = some incident ∧
    s.remediation.remediations[row.remediationId]? = some remediation ∧
    staleness s id row incident remediation = none

/-- No verification ends, and none closes an incident. -/
structure NoVerdict (s s' : Store) : Prop where
  publishes : Publishes ofVerifications s s'
  ends : Announces endsVerification s s' none
  closes : Announces closesIncident s s' none

theorem NoVerdict.of_audit {s s' : Store} (same : s'.audit = s.audit) : NoVerdict s s' :=
  ⟨.of_audit same, .of_audit same, .of_audit same⟩

/-- Rows of the other tables may be written afterwards. -/
theorem NoVerdict.write {s s₁ s' : Store} (quiet : NoVerdict s s₁)
    (same : s'.audit = s₁.audit) : NoVerdict s s' :=
  ⟨quiet.publishes.trans (.of_audit same), quiet.ends.trans (.of_audit same),
    quiet.closes.trans (.of_audit same)⟩

theorem startVerification_publishes (s : Store) (now : Time) (id : Uuid) (row : VerificationRow) :
    NoVerdict s (startVerification s now id row).2 :=
  ⟨.insert (.refl s) rfl, .insert_other (.of_audit rfl) fun _ => rfl,
    .insert_other (.of_audit rfl) fun _ => rfl⟩

/-- What a verdict publishes: its own end, and one closure at most, where it applies. -/
structure VerdictPublishes (s s' : Store) (id : Uuid) (row : VerificationRow) : Prop where
  publishes : Publishes ofVerifications s s'
  ends : Announces endsVerification s s' (some id)
  closes : Announces closesIncident s s' none ∨
    Announces closesIncident s s' (some id) ∧ VerdictApplies s id row

/-- A verdict after a step that only announced that the verification began. -/
theorem VerdictPublishes.after {s s₁ s' : Store} {id : Uuid} {row : VerificationRow}
    (verdict : VerdictPublishes s₁ s' id row) (quiet : NoVerdict s s₁)
    (applies : VerdictApplies s₁ id row → VerdictApplies s id row) :
    VerdictPublishes s s' id row :=
  ⟨quiet.publishes.trans verdict.publishes, quiet.ends.trans verdict.ends,
    verdict.closes.imp quiet.closes.trans fun closed =>
      ⟨quiet.closes.trans closed.1, applies closed.2⟩⟩

theorem VerdictPublishes.write {s s₁ s' : Store} {id : Uuid} {row : VerificationRow}
    (verdict : VerdictPublishes s s₁ id row) (same : s'.audit = s₁.audit) :
    VerdictPublishes s s' id row := by
  have equal : ∀ q, published q s' = published q s₁ := fun q => by rw [published, published, same]
  refine ⟨verdict.publishes.trans (.of_audit same), ?_, ?_⟩
  · intro k
    rw [equal, verdict.ends k]
  · simp only [Announces, equal]
    exact verdict.closes

theorem finalize_publishes {env : Env} {s s' : Store} {now : Time} {id : Uuid}
    {row row' : VerificationRow} {decision : Decision}
    (done : finalize env s now id row decision = .ok (row', s')) :
    VerdictPublishes s s' id row := by
  simp only [finalize, bind_eq_ok, found_eq_ok, pure_eq_ok] at done
  obtain ⟨incident, incidentFound, remediation, remediationFound, ⟨settled, s₁⟩, settles, done⟩ :=
    done
  -- the end of the verification is published last, whatever the verdict did before
  have last : ∀ {closed}, Publishes ofVerifications s s₁ → Announces endsVerification s s₁ none →
      Announces closesIncident s s₁ closed → Publishes ofVerifications s s' ∧
        Announces endsVerification s s' (some id) ∧ Announces closesIncident s s' closed := by
    intro closed publishes ends closes
    cases done
    exact ⟨publishes.insert rfl, ends.insert fun _ => rfl, closes.insert_other fun _ => rfl⟩
  have moves : ∀ {s₂}, Publishes isStatusChange s s₂ → Publishes ofVerifications s s₂ ∧
      Announces endsVerification s s₂ none ∧ Announces closesIncident s s₂ none := by
    intro s₂ changes
    refine ⟨changes.mono ?_, .of_publishes changes ?_, .of_publishes changes ?_⟩
    · intro p change
      cases p <;> first | rfl | cases change
    · intro k p change
      cases p <;> first | rfl | cases change
    · intro k p change
      cases p <;> first | rfl | cases change
  unfold settleVerdict at settles
  split at settles
  · -- the verdict is stale: only its end is published
    cases settles
    obtain ⟨publishes, ends, closes⟩ := last (.refl s) (.of_audit rfl) (.of_audit rfl)
    exact ⟨publishes, ends, .inl closes⟩
  · rename_i fresh
    simp only [bind_eq_ok, pure_eq_ok] at settles
    obtain ⟨⟨nextAction, s₂⟩, applied, settles⟩ := settles
    cases settles
    rcases applyVerdict_publishes applied with
      changes | ⟨s₃, payload, changes, rfl, allowed, closes, ends⟩
    · obtain ⟨publishes, ends, closes⟩ := moves changes
      obtain ⟨publishes, ends, closes⟩ := last publishes ends closes
      exact ⟨publishes, ends, .inl closes⟩
    · obtain ⟨before, unended, unclosed⟩ := moves changes
      obtain ⟨publishes, ends, closes⟩ := last (before.insert allowed)
        (unended.insert_other ends) (unclosed.insert closes)
      exact ⟨publishes, ends, .inr ⟨closes, incident, remediation, incidentFound,
        remediationFound, fresh⟩⟩

end IncidentTriage.Verified
