import IncidentTriage.Verified.InvestigationTransactions
import IncidentTriage.Verified.RemediationTransactions
import IncidentTriage.Verified.VerificationTransactions

/-! # Transactions of the system

Every command is a sequence of transactions of one of the four services: most are
one or none, a revision is two, and a sweep of expired approvals one for each.  What
every transaction preserves therefore holds in every state a run reaches.
-/

namespace IncidentTriage.Verified

open IncidentTriage.Python IncidentTriage.Domain IncidentTriage.Incident
open IncidentTriage.Remediation (catalogVersion)

/-- The status of the notification a command brings. -/
def receivedStatus : Command → Option AlertStatus
  | .alertReceived command => some command.status
  | _ => none

inductive Transaction (env : Env) (now : Time) (tickets : List IssuedTicket) (c : Command)
    (s s' : Store) : Prop
  | alert (step : AlertStep (receivedStatus c) now s s') (publishes : Publishes ofAlerts s s')
  | investigation (step : InvestigationStep env now c s s')
  | remediation (step : RemediationStep env now c s s')
      (publishes : Publishes ofRemediations s s')
  | verification (step : VerificationStep env now tickets c s s')

/-- A sequence of transactions of one command. -/
abbrev Path (env : Env) (now : Time) (tickets : List IssuedTicket) (c : Command) :
    Store → Store → Prop :=
  Relation.ReflTransGen (Transaction env now tickets c)

section
variable {env : Env} {now : Time} {tickets : List IssuedTicket} {c : Command}

theorem Path.of_remediation {s s' : Store} (step : s' = s ∨ RemediationStep env now c s s')
    (publishes : Publishes ofRemediations s s') : Path env now tickets c s s' := by
  rcases step with rfl | step
  · exact .refl
  · exact .single (.remediation step publishes)

theorem Path.of_investigation {s s' : Store} (step : s' = s ∨ InvestigationStep env now c s s') :
    Path env now tickets c s s' := by
  rcases step with rfl | step
  · exact .refl
  · exact .single (.investigation step)

theorem Path.of_verification {s s' : Store}
    (step : s' = s ∨ VerificationStep env now tickets c s s') :
    Path env now tickets c s s' := by
  rcases step with rfl | step
  · exact .refl
  · exact .single (.verification step)

/-- A command that raises leaves the store alone; otherwise what it did counts. -/
theorem Path.of_committed {α : Type} {s : Store} {outcome : Except DomainError (α × Store)}
    (path : ∀ a s', outcome = .ok (a, s') → Path env now tickets c s s') :
    Path env now tickets c s (committed s outcome) := by
  cases outcome with
  | error e => exact .refl
  | ok r => exact path r.1 r.2 rfl

theorem Path.of_expireEach (ids : List Uuid) (s : Store) :
    Path env now tickets c s (expireEach env now ids s).2 := by
  induction ids generalizing s with
  | nil => exact .refl
  | cons id ids ih =>
    simp only [expireEach]
    split
    · exact .refl
    · rename_i expired s₁ done
      exact (Path.of_remediation (expireApproval_step done) (expireApproval_publishes done)).trans
        (ih s₁)

theorem Path.of_revise (s : Store) (id : Uuid) (parameters : Dict) (proposedBy : String)
    (reason : Option String) (key : String) (revises : ∀ s row, ProposedBy c s row) :
    Path env now tickets c s (revise env now s id parameters proposedBy reason key).2 := by
  unfold revise
  split
  · exact .refl
  · split
    · exact .refl
    · rename_i view s₁ cancelled
      have first : Path env now tickets c s s₁ :=
        .of_remediation (.inr (cancel_step cancelled)) (cancel_publishes cancelled)
      dsimp only
      generalize RemediationProposal.mk _ _ _ _ _ _ _ _ = proposal
      by_cases valid : proposal.Valid
      · rw [if_pos valid]
        split
        · exact first
        · rename_i proposed
          exact first.trans
            (Path.of_remediation (propose_step (fun row _ => revises _ row) proposed)
              (propose_publishes proposed))
      · rw [if_neg valid]
        exact first

end

/-- Every command is a sequence of transactions. -/
theorem execute_path (env : Env) (now : Time) (tickets : List IssuedTicket) (s : Store)
    (c : Command) : Path env now tickets c s (execute env now tickets s c) := by
  cases c with
  | alertReceived command =>
    exact .of_committed fun _ _ done => .single
      (.alert (.of_handleAlertReceived done) (handleAlertReceived_publishes done))
  | registerEvidenceRef command =>
    exact .of_committed fun _ _ done => .single
      (.alert (.of_registerEvidenceRef done) (registerEvidenceRef_publishes done))
  | requestInvestigation incidentId provider model settings budget =>
    exact .of_committed fun _ _ done => .of_investigation (requestInvestigation_step done)
  | claim id owner leaseSeconds =>
    exact .of_committed fun _ _ done => .of_investigation (claim_step done)
  | release id owner =>
    exact .of_committed fun _ _ done => .of_investigation (release_step done)
  | recordStep id owner record =>
    exact .of_committed fun _ _ done => .of_investigation (.inr (recordStep_step done))
  | applyHypothesisUpdates id owner iteration callId batch =>
    exact .of_committed fun _ _ done => .of_investigation (.inr (applyHypothesisUpdates_step done))
  | complete id owner iteration callId result =>
    exact .of_committed fun _ _ done => .of_investigation (.inr (complete_step done))
  | escalate id owner iteration e =>
    exact .of_committed fun _ _ done => .of_investigation (.inr (escalate_step done))
  | propose proposal key correlationId =>
    exact .of_committed fun _ _ done => .of_remediation
      (propose_step (fun _ records => records) done)
      (propose_publishes done)
  | decideApproval id approver roles approve hash decisionId comment =>
    exact .of_committed fun _ _ done => .of_remediation (decideApproval_step done)
      (decideApproval_publishes done)
  | expireApprovals => exact .of_expireEach _ s
  | cancel id actor reason =>
    exact .of_committed fun _ _ done => .of_remediation (.inr (cancel_step done))
      (cancel_publishes done)
  | revise id parameters proposedBy reason key =>
    exact .of_revise s id parameters proposedBy reason key fun _ _ => trivial
  | claimExecution id owner leaseSeconds =>
    exact .of_committed fun _ _ done => .of_remediation (claimExecution_step done)
      (claimExecution_publishes done)
  | completeExecution executionId owner outcome executor result error retryable =>
    exact .of_committed fun _ _ done => .of_remediation (completeExecution_step done)
      (completeExecution_publishes done)
  | recordBaseline id owner values evidenceIds =>
    exact .of_committed fun _ _ done => .of_remediation (recordBaseline_step done)
      (recordBaseline_publishes done)
  | setKillSwitch scope engaged actor reason =>
    exact .of_committed fun _ _ done => .of_remediation (.inr (setKillSwitch_step done))
      (setKillSwitch_publishes done)
  | startVerification id =>
    exact .of_committed fun _ _ done => .of_verification (start_step done)
  | claimDue id owner leaseSeconds =>
    exact .of_committed fun _ _ done => .of_verification (claimDue_step done)
  | recordObservation position sample evidenceIds observedAt =>
    simp only [execute]
    split
    · rename_i held
      exact .of_committed fun _ _ done =>
        .of_verification (.inr (recordObservation_step done held))
    · exact .refl

/-! ## Commands that receive nothing -/

@[simp] theorem length_movedIf (incidents : List IncidentRow) (now : Time) (i : Uuid)
    (incident : IncidentRow) (fromStatuses : List IncidentStatus) (toStatus : IncidentStatus) :
    (movedIf incidents now i incident fromStatuses toStatus).length = incidents.length := by
  unfold movedIf
  split_ifs
  · exact List.length_set
  · rfl

theorem VerdictEffect.incidents_length {env : Env} {now : Time} {s : Store} {id : Uuid}
    {row : VerificationRow} {status : VerificationStatus} {incidents : List IncidentRow}
    (effect : VerdictEffect env now s id row status incidents) :
    incidents.length = s.incidents.length := by
  cases effect <;> simp [‹incidents = _›]

/-- The alerts stay as they are, and no incident is opened. -/
structure ReceivesNothing (own : OutboxPayload → Bool) (s s' : Store) : Prop where
  publishes : Publishes own s s'
  alert : s'.alert = s.alert
  incidents : s'.incidents.length = s.incidents.length

section
variable {now : Time} {own : OutboxPayload → Bool} {s s₁ s' : Store}

theorem ReceivesNothing.refl (s : Store) : ReceivesNothing own s s := ⟨.refl s, rfl, rfl⟩

theorem ReceivesNothing.trans (first : ReceivesNothing own s s₁)
    (second : ReceivesNothing own s₁ s') : ReceivesNothing own s s' :=
  ⟨first.publishes.trans second.publishes, second.alert.trans first.alert,
    second.incidents.trans first.incidents⟩

theorem ReceivesNothing.of_committed {α : Type} {outcome : Except DomainError (α × Store)}
    (served : ∀ a s', outcome = .ok (a, s') → ReceivesNothing own s s') :
    ReceivesNothing own s (committed s outcome) := by
  cases outcome with
  | error e => exact .refl s
  | ok r => exact served r.1 r.2 rfl

theorem ReceivesNothing.of_investigation (env : Env) {c : Command}
    (step : s' = s ∨ InvestigationStep env now c s s') : ReceivesNothing ofInvestigations s s' := by
  rcases step with rfl | step
  · exact .refl s'
  · refine ⟨step.publishes, step.alert, ?_⟩
    cases step.effect <;> simp [‹s'.incidents = _›]

theorem ReceivesNothing.of_remediation (env : Env) (c : Command)
    (step : s' = s ∨ RemediationStep env now c s s')
    (publishes : Publishes ofRemediations s s') : ReceivesNothing ofRemediations s s' := by
  rcases step with rfl | step
  · exact .refl s'
  · refine ⟨publishes, step.alert, ?_⟩
    cases step.effect <;> simp [‹s'.incidents = _›]

theorem ReceivesNothing.of_verification (env : Env) (tickets : List IssuedTicket) (c : Command)
    (step : s' = s ∨ VerificationStep env now tickets c s s') :
    ReceivesNothing ofVerifications s s' := by
  rcases step with rfl | step
  · exact .refl s'
  · refine ⟨step.publishes, step.alert, ?_⟩
    cases step.effect with
    | closed _ _ _ _ _ _ _ _ _ _ _ effect => exact effect.incidents_length
    | decided _ _ _ _ _ _ _ _ _ _ _ _ _ _ _ _ _ _ effect => exact effect.incidents_length
    | _ => simp [‹s'.incidents = _›]

theorem ReceivesNothing.of_expireEach (env : Env) (ids : List Uuid) (s : Store) :
    ReceivesNothing ofRemediations s (expireEach env now ids s).2 := by
  induction ids generalizing s with
  | nil => exact .refl s
  | cons id ids ih =>
    simp only [expireEach]
    split
    · exact .refl s
    · rename_i expired s₁ done
      exact (ReceivesNothing.of_remediation env .expireApprovals (expireApproval_step done)
        (expireApproval_publishes done)).trans (ih s₁)

theorem ReceivesNothing.of_revise (env : Env) (s : Store) (id : Uuid) (parameters : Dict)
    (proposedBy : String) (reason : Option String) (key : String) :
    ReceivesNothing ofRemediations s
      (revise env now s id parameters proposedBy reason key).2 := by
  unfold revise
  split
  · exact .refl s
  · split
    · exact .refl s
    · rename_i view s₁ cancelled
      have first := ReceivesNothing.of_remediation env
        (.revise id parameters proposedBy reason key) (.inr (cancel_step cancelled))
        (cancel_publishes cancelled)
      dsimp only
      generalize RemediationProposal.mk _ _ _ _ _ _ _ _ = proposal
      by_cases valid : proposal.Valid
      · rw [if_pos valid]
        split
        · exact first
        · rename_i proposed
          exact first.trans (.of_remediation env (.revise id parameters proposedBy reason key)
            (propose_step (fun _ _ => trivial) proposed) (propose_publishes proposed))
      · rw [if_neg valid]
        exact first

end

/-- The events of the service a command belongs to. -/
def ofService : Command → OutboxPayload → Bool
  | .alertReceived .. | .registerEvidenceRef .. => ofAlerts
  | .requestInvestigation .. | .claim .. | .release .. | .recordStep ..
  | .applyHypothesisUpdates .. | .complete .. | .escalate .. => ofInvestigations
  | .propose .. | .decideApproval .. | .expireApprovals | .cancel .. | .revise ..
  | .claimExecution .. | .completeExecution .. | .recordBaseline .. | .setKillSwitch .. =>
    ofRemediations
  | .startVerification .. | .claimDue .. | .recordObservation .. => ofVerifications

def isReceipt : Command → Bool
  | .alertReceived .. | .registerEvidenceRef .. => true
  | _ => false

/-- A command of the three other services publishes its service's events only. -/
theorem execute_receivesNothing (env : Env) (now : Time) (tickets : List IssuedTicket) (s : Store)
    {c : Command} (other : isReceipt c = false) :
    ReceivesNothing (ofService c) s (execute env now tickets s c) := by
  cases c with
  | alertReceived command => cases other
  | registerEvidenceRef command => cases other
  | requestInvestigation incidentId provider model settings budget =>
    exact .of_committed fun _ _ done => .of_investigation env (requestInvestigation_step done)
  | claim id owner leaseSeconds =>
    exact .of_committed fun _ _ done => .of_investigation env (claim_step done)
  | release id owner =>
    exact .of_committed fun _ _ done => .of_investigation env (release_step done)
  | recordStep id owner record =>
    exact .of_committed fun _ _ done => .of_investigation env (.inr (recordStep_step done))
  | applyHypothesisUpdates id owner iteration callId batch =>
    exact .of_committed fun _ _ done =>
      .of_investigation env (.inr (applyHypothesisUpdates_step done))
  | complete id owner iteration callId result =>
    exact .of_committed fun _ _ done => .of_investigation env (.inr (complete_step done))
  | escalate id owner iteration e =>
    exact .of_committed fun _ _ done => .of_investigation env (.inr (escalate_step done))
  | propose proposal key correlationId =>
    exact .of_committed fun _ _ done => .of_remediation env
      (.propose proposal key correlationId)
      (propose_step (fun _ records => records) done)
      (propose_publishes done)
  | decideApproval id approver roles approve hash decisionId comment =>
    exact .of_committed fun _ _ done => .of_remediation env _ (decideApproval_step done)
      (decideApproval_publishes done)
  | expireApprovals => exact .of_expireEach env _ s
  | cancel id actor reason =>
    exact .of_committed fun _ _ done => .of_remediation env (.cancel id actor reason)
      (.inr (cancel_step done)) (cancel_publishes done)
  | revise id parameters proposedBy reason key =>
    exact .of_revise env s id parameters proposedBy reason key
  | claimExecution id owner leaseSeconds =>
    exact .of_committed fun _ _ done => .of_remediation env _ (claimExecution_step done)
      (claimExecution_publishes done)
  | completeExecution executionId owner outcome executor result error retryable =>
    exact .of_committed fun _ _ done => .of_remediation env _ (completeExecution_step done)
      (completeExecution_publishes done)
  | recordBaseline id owner values evidenceIds =>
    exact .of_committed fun _ _ done => .of_remediation env
      (.recordBaseline id owner values evidenceIds) (recordBaseline_step done)
      (recordBaseline_publishes done)
  | setKillSwitch scope engaged actor reason =>
    exact .of_committed fun _ _ done => .of_remediation env
      (.setKillSwitch scope engaged actor reason) (.inr (setKillSwitch_step done))
      (setKillSwitch_publishes done)
  | startVerification id =>
    exact .of_committed fun _ _ done =>
      .of_verification env tickets (.startVerification id) (start_step done)
  | claimDue id owner leaseSeconds =>
    exact .of_committed fun _ _ done => .of_verification env tickets _ (claimDue_step done)
  | recordObservation position sample evidenceIds observedAt =>
    simp only [execute]
    split
    · rename_i held
      exact .of_committed fun _ _ done =>
        .of_verification env tickets _ (.inr (recordObservation_step done held))
    · exact .refl s

/-- The commands that create or settle execution attempts. -/
def handlesAttempts : Command → Bool
  | .claimExecution .. => true
  | .completeExecution .. => true
  | _ => false

/-- Those commands are one transaction each, or none. -/
theorem execute_attempts (env : Env) (now : Time) (tickets : List IssuedTicket) (s : Store)
    {c : Command} (handles : handlesAttempts c = true) :
    execute env now tickets s c = s ∨ RemediationStep env now c s (execute env now tickets s c) ∧
      Publishes ofRemediations s (execute env now tickets s c) := by
  have single : ∀ {α : Type} {outcome : Except DomainError (α × Store)},
      (∀ a s', outcome = .ok (a, s') → s' = s ∨ RemediationStep env now c s s') →
      (∀ a s', outcome = .ok (a, s') → Publishes ofRemediations s s') →
      committed s outcome = s ∨ RemediationStep env now c s (committed s outcome) ∧
        Publishes ofRemediations s (committed s outcome) := by
    intro α outcome stepped publishes
    cases outcome with
    | error e => exact .inl rfl
    | ok r => exact (stepped r.1 r.2 rfl).imp_right fun step => ⟨step, publishes r.1 r.2 rfl⟩
  cases c with
  | claimExecution id owner leaseSeconds =>
    exact single (fun _ _ done => claimExecution_step done)
      (fun _ _ done => claimExecution_publishes done)
  | completeExecution executionId owner outcome executor result error retryable =>
    exact single (fun _ _ done => completeExecution_step done)
      (fun _ _ done => completeExecution_publishes done)
  | _ => cases handles

theorem Transaction.executions_eq {env : Env} {now : Time} {tickets : List IssuedTicket}
    {c : Command} {s s' : Store} (transaction : Transaction env now tickets c s s')
    (other : handlesAttempts c = false) :
    s'.remediation.executions = s.remediation.executions := by
  cases transaction with
  | alert step => rw [step.remediation]
  | investigation step => rw [step.remediation]
  | verification step => rw [step.remediation]
  | remediation step =>
    cases step.effect with
    | rejected _ _ _ _ _ _ _ _ tables _ => rw [tables]
    | requested _ _ _ _ _ _ _ _ _ _ tables _ => rw [tables]
    | approved _ _ _ _ _ _ _ _ _ _ _ _ _ _ _ _ _ _ _ _ _ _ _ _ _ _ _ _ tables _ => rw [tables]
    | withdrawn _ _ _ _ _ _ _ _ _ _ _ _ _ _ _ _ tables _ => rw [tables]
    | blocked _ _ _ _ _ _ _ _ _ _ _ _ _ tables _ => rw [tables]
    | configured _ _ _ tables _ => rw [tables]
    | started id _ _ owner leaseSeconds _ command =>
      subst command
      cases other
    | interrupted _ _ _ _ _ _ _ _ claimed =>
      obtain ⟨owner, leaseSeconds, rfl⟩ := claimed
      cases other
    | executed _ _ _ _ _ _ _ _ _ _ _ _ _ _ command =>
      subst command
      cases other
    | attemptFailed _ _ _ _ _ _ _ _ _ _ _ _ command =>
      subst command
      cases other
    | retriable _ _ _ _ _ _ _ _ _ _ _ command =>
      subst command
      cases other

theorem execute_executions_eq (env : Env) (now : Time) (tickets : List IssuedTicket) (s : Store)
    {c : Command} (other : handlesAttempts c = false) :
    (execute env now tickets s c).remediation.executions = s.remediation.executions :=
  Machine.preserved_of_path
    (P := fun s' => s'.remediation.executions = s.remediation.executions)
    (fun transaction same => (transaction.executions_eq other).trans same)
    (execute_path env now tickets s c) rfl

/-! ## Runs -/

/-- What every transaction preserves holds in every state of every run that starts
where it holds. -/
theorem run_invariant {env : Env} {P : Store → Prop}
    (preserved : ∀ {now tickets c s s'}, Transaction env now tickets c s s' → P s → P s')
    {start : World} (initial : P start.store) (events : List Event) :
    P (Machine.run (step env) start events).store := by
  have each : ∀ (w : World) (e : Event), P w.store → P (step env w e).store := by
    intro w e holds
    have path := execute_path env (w.clock + e.elapsed) w.tickets w.store e.command
    exact Machine.preserved_of_path (P := P) preserved path holds
  exact Machine.state_invariant (P := fun w : World => P w.store) initial each events

/-! ## An incident of the payments service

A run the facts about particular states are instantiated on. -/

def paymentsEnv : Env where
  sha256 := id
  killSwitchId := String.length
  services := ["payments", "checkout"]
  neighborhood service := [service]
  policy := PolicyEngine.defaultPolicy
  approvalTimeout := 1800 * 1000000
  verificationTimeScale := 1
  maxInvestigationAttempts := 2
  criteria := {}
  correlationEngine := defaultCorrelationEngine
  candidateLookbackSeconds := 900

/-- A command one second after the one before. -/
def next (command : Command) : Event := { elapsed := 1000000, command }

def paymentsAlert (idempotencyKey externalId : String) (status : AlertStatus) :
    AlertReceivedCommand :=
  { idempotencyKey
    source := .prometheus
    externalId := some externalId
    labels := [("service", "payments"), ("environment", "production")]
    severity := .critical
    status }

def paymentsEvidence (evidenceId : Uuid) (evidenceType : String) : RegisterEvidenceRefCommand :=
  { evidenceId, incidentId := 0, evidenceType, contentHash := "digest", sourceSystem := "tools",
    collectedAt := 0 }

/-- The alert fires and evidence is collected. -/
def paymentsOpened : List Event :=
  [next (.alertReceived (paymentsAlert "k1" "a1" .firing)),
   next (.registerEvidenceRef (paymentsEvidence 1 "metrics")),
   next (.registerEvidenceRef (paymentsEvidence 2 "deployments"))]

def deploymentSupported (supporting : List Uuid) : HypothesisUpdate :=
  { key := "H1"
    description := some "the deployment broke payments"
    causeCategory := some .deployment
    component := some "payments"
    status := some .supported
    supportingEvidenceIds := supporting
    rationale := "errors began with the deployment" }

def trafficRejected (contradicting : List Uuid) : HypothesisUpdate :=
  { key := "H2"
    description := some "traffic grew"
    causeCategory := some .traffic
    component := some "payments"
    status := some .rejected
    contradictingEvidenceIds := contradicting
    rationale := "traffic is flat" }

def cites (text : String) : GroundedStatement := { text, evidenceIds := [1] }

def deploymentConclusion : FinalInvestigationResult :=
  { selectedHypothesisKey := "H1"
    confidence := ⟨9 / 10, "0.9"⟩
    rca :=
      { incidentSummary := cites "payments fails"
        impact := cites "no payments"
        affectedServices := [⟨"payments", [1]⟩]
        timeline := [⟨0, "deployed", [1]⟩]
        rootCause := cites "the deployment" } }

/-- Investigation `id` is claimed, shown the evidence, and concludes. -/
def investigated (id : Uuid) : List Event :=
  [next (.requestInvestigation 0 "provider" "model" [] {}),
   next (.claim id "investigator" 600),
   next (.recordStep id "investigator" { kind := .context, iteration := 0, evidenceIds := [1, 2] }),
   next (.applyHypothesisUpdates id "investigator" 1 "call-1"
     ⟨[deploymentSupported [1, 2], trafficRejected [1]]⟩),
   next (.complete id "investigator" 2 "call-2" deploymentConclusion)]

def restartPayments (source : ProposalSource) (proposedBy : String) : RemediationProposal :=
  { incidentId := 0
    actionId := "restart_service"
    parameters := [("service", .str "payments")]
    reason := "errors began with the deployment"
    expectedEffect := "errors end"
    source
    proposedBy }

def restartPaymentsHash : String :=
  proposalHash paymentsEnv.sha256 0 none "restart_service" catalogVersion
    [("service", .str "payments")] "production"

/-- The planner's proposal is approved by the engineer on call. -/
def restartApproved : List Event :=
  paymentsOpened ++ investigated 0 ++
  [next (.propose (restartPayments .planner "planner") "p1" none),
   next (.decideApproval 0 "ada" ["on_call_engineer"] true restartPaymentsHash 0 none)]

/-- A runner starts the first attempt. -/
def restartStarted : List Event :=
  restartApproved ++ [next (.claimExecution 0 "runner-1" 60)]

/-- The attempt succeeds, and its verification begins. -/
def restartVerifying : List Event :=
  restartStarted ++
  [next (.completeExecution 0 "runner-1" .succeeded "executor" none none false),
   next (.startVerification 0)]

def paymentsHealth (status : String) (errorRate : PyFloat) : Sample :=
  { health := some [("status", .str status),
      ("signals", .object [("error_rate", .object [("value", .float errorRate)])])] }

def paymentsHealthy : Sample := paymentsHealth "healthy" ⟨.finite (1 / 100), "0.01"⟩

def paymentsDegraded : Sample := paymentsHealth "degraded" ⟨.finite (1 / 5), "0.2"⟩

/-- The verification is polled once, under ticket `ticket`. -/
def polled (ticket : Nat) (sample : Sample) : List Event :=
  [{ elapsed := 60 * 1000000, command := .claimDue 0 "poller" 30 },
   next (.recordObservation ticket sample [] 0)]

/-- Payments stays degraded until the deadline, and the verdict is `FAILED`. -/
def restartFailed : List Event :=
  restartVerifying ++ polled 0 paymentsDegraded ++
  [{ elapsed := 400 * 1000000, command := .claimDue 0 "poller" 30 }]

/-- Three polls in a row find payments healthy, and the verdict is `PASSED`. -/
def restartPassed : List Event :=
  restartVerifying ++ polled 0 paymentsHealthy ++ polled 1 paymentsHealthy ++
  polled 2 paymentsHealthy

end IncidentTriage.Verified
