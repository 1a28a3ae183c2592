import IncidentTriage.Agents.Engine
import IncidentTriage.Incident.Columns

/-! # What the engine hands to incident-core

Every step of a run hands incident-core one thing at most: a step to record, hypothesis
updates, a conclusion, or the end of the investigation.  Its texts and numbers go into
columns.
-/

namespace IncidentTriage.Agents

open IncidentTriage.Python IncidentTriage.Domain IncidentTriage.Incident IncidentTriage.Tools

inductive Handed where
  | step (record : StepRecord)
  | updates (iteration : Nat) (callId : String) (batch : HypothesisUpdateBatch)
  | conclusion (iteration : Nat) (callId : String) (result : FinalInvestigationResult)
  | escalation (iteration : Nat) (escalation : Escalation)

/-! ## Its texts -/

def updateTexts (update : HypothesisUpdate) : List String :=
  [update.key, update.rationale] ++ update.description.toList ++ update.component.toList ++
    update.missingEvidence.getD []

def rcaTexts (rca : RcaDraft) : List String :=
  [rca.incidentSummary.text, rca.impact.text, rca.rootCause.text] ++
    rca.affectedServices.map (·.service) ++ rca.timeline.map (·.event) ++
    rca.contributingFactors.map (·.text) ++ rca.contradictingEvidence.map (·.explanation) ++
    rca.unresolvedQuestions ++ rca.recommendedNextDiagnosticAction.toList

/-- The texts of what is handed on, beside the payload of a step. -/
def Handed.texts : Handed → List String
  | .step record => record.callId.toList ++ record.lastAction.toList
  | .updates _ callId batch => callId :: batch.updates.flatMap updateTexts
  | .conclusion _ callId result => callId :: result.selectedHypothesisKey :: rcaTexts result.rca
  | .escalation _ e =>
    [e.reasonCode, e.detail] ++ e.inconclusiveReason.toList ++ e.evidenceGaps ++ e.callId.toList

/-- The payload of a step, as incident-core completes it with the evidence ids. -/
def Handed.fields : Handed → Dict
  | .step record => record.fields
  | _ => []

/-- The columns hold what is handed on. -/
def Handed.isStorable (handed : Handed) : Bool :=
  storable (.object handed.fields) && handed.texts.all storableText

/-- The columns hold what a tool's result adds to its step. -/
def ToolOutcome.isStorable (outcome : ToolOutcome) : Bool :=
  storableText outcome.observation && outcome.errorCode.all storableText &&
    outcome.summary.all storableText

/-! ## The turn of a model -/

/-- What one job hands on, where it executes no tool. -/
def Job.hands (turn : Turn) : Job → Option Handed
  | .noAction stopReason =>
    some (.step (feedbackRecord turn.iteration (noActionText stopReason) "no_action"))
  | .update call => some (.updates turn.iteration call.callId call.batch)
  | .invalid call => some (.step (invalidRecord turn.iteration call))
  | .request asked =>
    (turn.refusal asked).map fun refusal =>
      .step (refusedRecord turn.iteration asked refusal.1 refusal.2)
  | .conclude call => some (.conclusion turn.iteration call.callId call.result)
  | .declare call =>
    some (.escalation turn.iteration
      { outcome := .escalated
        reasonCode := "inconclusive"
        detail := call.declaration.reason
        inconclusiveReason := some call.declaration.reason
        evidenceGaps := call.declaration.evidenceGaps
        callId := some call.callId })

/-- What the jobs hand on one after the other, as long as none of them ends the run: the tools
that are executed give these outcomes. -/
def handedJobs : Turn → List Job → List ToolOutcome → List Handed
  | turn, [], _ =>
    match turn.finalReason with
    | some reason => [.escalation turn.iteration (finalTurnOver reason)]
    | none => []
  | turn, .request asked :: jobs, outcomes =>
    match (Job.request asked).hands turn, outcomes with
    | some handed, _ => handed :: handedJobs turn jobs outcomes
    | none, outcome :: outcomes =>
      .step (toolRecord turn.iteration asked outcome) ::
        handedJobs (turn.spend outcome) jobs outcomes
    | none, [] => []
  | turn, job :: jobs, outcomes => (job.hands turn).toList ++ handedJobs turn jobs outcomes

/-- What the engine hands on for one turn of the model, its record first. -/
def handedTurn (schemas : Schemas) (turn : Turn) (said : ModelTurn)
    (outcomes : List ToolOutcome) : List Handed :=
  .step (turnRecord turn.iteration said) :: handedJobs turn (decisionJobs schemas said) outcomes

/-- The outcomes that the jobs of a turn have steps for. -/
def executedOutcomes : Turn → List Job → List ToolOutcome → List ToolOutcome
  | _, [], _ => []
  | turn, .request asked :: jobs, outcomes =>
    match turn.refusal asked, outcomes with
    | some _, _ => executedOutcomes turn jobs outcomes
    | none, outcome :: outcomes =>
      outcome :: executedOutcomes (turn.spend outcome) jobs outcomes
    | none, [] => []
  | turn, _ :: jobs, outcomes => executedOutcomes turn jobs outcomes

/-! ## The commands of a run -/

/-- What the next step of the engine inside a turn hands on. -/
def Phase.hands : Phase → Option Handed
  | .acting turn [] _ =>
    turn.finalReason.map fun reason => .escalation turn.iteration (finalTurnOver reason)
  | .acting turn (job :: _) _ => job.hands turn
  | .answering turn asked outcome _ _ => some (.step (toolRecord turn.iteration asked outcome))
  | _ => none

/-- The command that what is handed on is an argument of. -/
def Desk.submit (e : EngineEnv) (d : Desk) (now : Time) (s : Store) : Handed → Store
  | .step record =>
    committed s (recordStep now s d.id d.engine.owner
      { record with leaseSeconds := d.engine.leaseSeconds })
  | .updates iteration callId batch =>
    committed s (applyHypothesisUpdates now s d.id d.engine.owner iteration callId batch)
  | .conclusion iteration callId result =>
    committed s (complete e.env now s d.id d.engine.owner iteration callId result)
  | .escalation iteration escalation =>
    committed s (Incident.escalate now s d.id d.engine.owner iteration escalation)

end IncidentTriage.Agents
