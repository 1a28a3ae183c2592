import IncidentTriage.Incident.Investigations
import IncidentTriage.Incident.Remediations
import IncidentTriage.Incident.Service
import IncidentTriage.Incident.Verifications
import IncidentTriage.Library.Runs

/-! # The system

The commands of every service as events of one machine.  An event says how much
time passed and which command is executed; a command that raises leaves the store
as it was.  Poll tickets are handed out by `claimDue` and kept in the world with the
time of their claim: an observation is recorded under one of them.
-/

namespace IncidentTriage.Incident

open IncidentTriage.Python IncidentTriage.Domain

inductive Command where
  | alertReceived (command : AlertReceivedCommand)
  | registerEvidenceRef (command : RegisterEvidenceRefCommand)
  | requestInvestigation (incidentId : Uuid) (modelProvider modelName : String)
      (modelSettings : Dict) (budget : InvestigationBudget)
  | claim (id : Uuid) (owner : String) (leaseSeconds : Int)
  | release (id : Uuid) (owner : String)
  | recordStep (id : Uuid) (owner : String) (record : StepRecord)
  | applyHypothesisUpdates (id : Uuid) (owner : String) (iteration : Nat) (callId : String)
      (batch : HypothesisUpdateBatch)
  | complete (id : Uuid) (owner : String) (iteration : Nat) (callId : String)
      (result : FinalInvestigationResult)
  | escalate (id : Uuid) (owner : String) (iteration : Nat) (escalation : Escalation)
  | propose (proposal : RemediationProposal) (idempotencyKey : String)
      (correlationId : Option Uuid)
  | decideApproval (id : Uuid) (approver : String) (approverRoles : List String)
      (approve : Bool) (proposalHash : String) (policyDecisionId : Uuid)
      (comment : Option String)
  | expireApprovals
  | cancel (id : Uuid) (actor reason : String)
  | revise (id : Uuid) (parameters : Dict) (proposedBy : String) (reason : Option String)
      (idempotencyKey : String)
  | claimExecution (id : Uuid) (owner : String) (leaseSeconds : Int)
  | completeExecution (executionId : Uuid) (owner : String) (outcome : AttemptOutcome)
      (executor : String) (result : Option Dict) (error : Option String) (retryable : Bool)
  | recordBaseline (id : Uuid) (owner : String) (values : Dict) (evidenceIds : List Uuid)
  | setKillSwitch (scope : String) (engaged : Bool) (actor : String) (reason : Option String)
  | startVerification (id : Uuid)
  | claimDue (id : Uuid) (owner : String) (leaseSeconds : ℚ)
  /-- The ticket is named by its position among those handed out. -/
  | recordObservation (ticket : Nat) (sample : Sample) (evidenceIds : List Uuid)
      (observedAt : Time)

structure Event where
  /-- Microseconds since the previous event: time does not go back. -/
  elapsed : Nat
  command : Command

structure IssuedTicket where
  ticket : VerificationTicket
  claimedAt : Time

structure World where
  store : Store
  clock : Time
  tickets : List IssuedTicket

/-- The store after a command: what it committed, or the store as it was. -/
def committed {α : Type*} (s : Store) (outcome : Except DomainError (α × Store)) : Store :=
  match outcome with
  | .ok (_, s') => s'
  | .error _ => s

/-- The store after `command` is executed at `now`. -/
def execute (env : Env) (now : Time) (tickets : List IssuedTicket) (s : Store) :
    Command → Store
  | .alertReceived command => committed s (handleAlertReceived env now s command)
  | .registerEvidenceRef command => committed s (registerEvidenceRef now s command)
  | .requestInvestigation incidentId provider model settings budget =>
    committed s (requestInvestigation now s incidentId provider model settings budget)
  | .claim id owner leaseSeconds => committed s (claim now s id owner leaseSeconds)
  | .release id owner => committed s (release now s id owner)
  | .recordStep id owner record => committed s (recordStep now s id owner record)
  | .applyHypothesisUpdates id owner iteration callId batch =>
    committed s (applyHypothesisUpdates now s id owner iteration callId batch)
  | .complete id owner iteration callId result =>
    committed s (complete env now s id owner iteration callId result)
  | .escalate id owner iteration e => committed s (escalate now s id owner iteration e)
  | .propose proposal key correlationId =>
    committed s (propose env now s proposal key correlationId)
  | .decideApproval id approver roles approve hash decisionId comment =>
    committed s (decideApproval now s id approver roles approve hash decisionId comment)
  | .expireApprovals => (expireApprovals env now s).2
  | .cancel id actor reason => committed s (cancel now s id actor reason)
  | .revise id parameters proposedBy reason key =>
    (revise env now s id parameters proposedBy reason key).2
  | .claimExecution id owner leaseSeconds =>
    committed s (claimExecution env now s id owner leaseSeconds)
  | .completeExecution executionId owner outcome executor result error retryable =>
    committed s (completeExecution env now s executionId owner outcome executor result error
      retryable)
  | .recordBaseline id owner values evidenceIds =>
    committed s (recordBaseline now s id owner values evidenceIds)
  | .setKillSwitch scope engaged actor reason =>
    committed s (setKillSwitch env now s scope engaged actor reason)
  | .startVerification id => committed s (start now s id)
  | .claimDue id owner leaseSeconds => committed s (claimDue env now s id owner leaseSeconds)
  | .recordObservation ticket sample evidenceIds observedAt =>
    match tickets[ticket]? with
    | some issued =>
      committed s (recordObservation env now s issued.ticket sample evidenceIds observedAt)
    | none => s

/-- The ticket a command hands out. -/
def issued (env : Env) (now : Time) (s : Store) : Command → List IssuedTicket
  | .claimDue id owner leaseSeconds =>
    match claimDue env now s id owner leaseSeconds with
    | .ok (some ticket, _) => [{ ticket, claimedAt := now }]
    | _ => []
  | _ => []

def step (env : Env) (w : World) (e : Event) : World :=
  let now := w.clock + e.elapsed
  { store := execute env now w.tickets w.store e.command
    clock := now
    tickets := w.tickets ++ issued env now w.store e.command }

/-- The world before anything happened, at some time. -/
def emptyWorld (clock : Time) : World :=
  { store := {}, clock, tickets := [] }

/-- The world after a run of the system from the empty store. -/
def runFrom (env : Env) (clock : Time) (events : List Event) : World :=
  Machine.run (step env) (emptyWorld clock) events

end IncidentTriage.Incident
