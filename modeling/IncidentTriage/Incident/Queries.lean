import IncidentTriage.Python.Datetimes
import Mathlib.Data.List.ReduceOption
import Mathlib.Data.List.Sort

/-! # Incident detail and timeline

The read model of the operations console: the dated records of an incident as one document, and
the timeline merged from them.  The document is the same with `datetime`s in it, as the records
hold them, and with texts, as the two serialisers leave them.
-/

namespace IncidentTriage.Incident

open IncidentTriage.Python

/-- A time as a JSON document holds it. -/
abbrev Text := List Char

/-! ## The document -/

structure AlertItem (τ : Type) where
  id : String
  alertname : Option String
  service : Option String
  receivedAt : τ
  resolvedAt : Option τ

structure TransitionItem (τ : Type) where
  at_ : τ
  from_ : Option String
  to_ : Option String
  reason : Option String

/-- One entry of `applied` in a hypothesis update. -/
structure AppliedItem where
  key : String
  fromStatus : Option String
  toStatus : String

/-- What the detail reads of a step's payload, by the step's kind. -/
inductive StepReading where
  | toolCall (tool : String) (ok : Bool) (summary : Option String) (evidenceIds : List String)
  | hypothesisUpdate (applied : List AppliedItem)
  | other

structure StepItem (τ : Type) where
  createdAt : τ
  payload : StepReading

structure ToolCallItem (τ : Type) where
  at_ : τ
  tool : String
  ok : Bool
  summary : Option String
  evidenceIds : List String

structure HypothesisUpdateItem (τ : Type) where
  at_ : τ
  applied : List AppliedItem

structure RcaItem where
  id : String
  causeCategory : Option String
  component : Option String

structure InvestigationItem (τ : Type) where
  attemptNumber : Nat
  modelName : String
  status : String
  startedAt : Option τ
  completedAt : Option τ
  escalationReason : Option String
  failureReason : Option String
  steps : List (StepItem τ)
  rca : Option RcaItem

structure RemediationEntry (τ : Type) where
  actionId : String
  event : String
  actor : String
  occurredAt : τ

structure RemediationItem (τ : Type) where
  id : String
  timeline : List (RemediationEntry τ)

structure ObservationItem (τ : Type) where
  sequence : Nat
  observedAt : τ
  passed : Bool
  conclusive : Bool
  evidenceIds : List String

structure VerificationItem (τ : Type) where
  id : String
  status : String
  failureReason : Option String
  completedAt : Option τ
  observations : List (ObservationItem τ)

structure Detail (τ : Type) where
  alerts : List (AlertItem τ) := []
  transitions : List (TransitionItem τ) := []
  investigations : List (InvestigationItem τ) := []
  remediations : List (RemediationItem τ) := []
  verifications : List (VerificationItem τ) := []

/-- `tool_calls` of `_investigation`. -/
def InvestigationItem.toolCalls {τ : Type} (inv : InvestigationItem τ) : List (ToolCallItem τ) :=
  inv.steps.filterMap fun s =>
    match s.payload with
    | .toolCall tool ok summary evidenceIds =>
      some { at_ := s.createdAt, tool, ok, summary, evidenceIds }
    | _ => none

/-- `hypothesis_updates` of `_investigation`. -/
def InvestigationItem.hypothesisUpdates {τ : Type} (inv : InvestigationItem τ) :
    List (HypothesisUpdateItem τ) :=
  inv.steps.filterMap fun s =>
    match s.payload with
    | .hypothesisUpdate applied => some { at_ := s.createdAt, applied }
    | _ => none

/-! ## `incident_detail` -/

def AlertItem.dumped (a : AlertItem Datetime) : AlertItem Text :=
  { a with receivedAt := a.receivedAt.isoformat, resolvedAt := a.resolvedAt.map Datetime.isoformat }

def TransitionItem.dumped (t : TransitionItem Datetime) : TransitionItem Text :=
  { t with at_ := t.at_.isoformat }

def StepItem.dumped (s : StepItem Datetime) : StepItem Text :=
  { s with createdAt := s.createdAt.modelDump }

/-- `get_trace`: the view and its steps are dumped as models. -/
def InvestigationItem.dumped (inv : InvestigationItem Datetime) : InvestigationItem Text :=
  { inv with
    startedAt := inv.startedAt.map Datetime.modelDump
    completedAt := inv.completedAt.map Datetime.modelDump
    steps := inv.steps.map .dumped }

def RemediationEntry.dumped (entry : RemediationEntry Datetime) : RemediationEntry Text :=
  { entry with occurredAt := entry.occurredAt.isoformat }

def RemediationItem.dumped (rem : RemediationItem Datetime) : RemediationItem Text :=
  { rem with timeline := rem.timeline.map .dumped }

def ObservationItem.dumped (o : ObservationItem Datetime) : ObservationItem Text :=
  { o with observedAt := o.observedAt.isoformat }

/-- The verification is dumped as a model, its observations are not. -/
def VerificationItem.dumped (v : VerificationItem Datetime) : VerificationItem Text :=
  { v with
    completedAt := v.completedAt.map Datetime.modelDump
    observations := v.observations.map .dumped }

def incidentDetail (records : Detail Datetime) : Detail Text where
  alerts := records.alerts.map .dumped
  transitions := records.transitions.map .dumped
  investigations := records.investigations.map .dumped
  remediations := records.remediations.map .dumped
  verifications := records.verifications.map .dumped

/-! ## `_timeline` -/

structure TimelineEvent where
  at_ : Text
  kind : String
  title : String
  extra : Dict

/-- `add`: what has no time is left out. -/
def addEvent (at_ : Option Text) (kind title : String) (extra : Dict) : Option TimelineEvent :=
  match at_ with
  | none => none
  | some at_ => if at_ = [] then none else some { at_, kind, title, extra }

/-- A value in an f-string. -/
def formatted (value : Option String) : String := value.getD "None"

def textOrNone (value : Option String) : Json := value.elim .null .str

/-- `first or second`. -/
def firstOf (first second : Option String) : Option String :=
  if first.getD "" = "" then second else first

def idList (ids : List String) : Json := .list (ids.map .str)

def AlertItem.fired (a : AlertItem Text) : Option TimelineEvent :=
  addEvent (some a.receivedAt) "alert"
    (formatted a.alertname ++ " fired on " ++ formatted a.service) [("ref", .str a.id)]

def AlertItem.resolved (a : AlertItem Text) : Option TimelineEvent :=
  addEvent a.resolvedAt "alert" (formatted a.alertname ++ " resolved") [("ref", .str a.id)]

def TransitionItem.entered (t : TransitionItem Text) : Option TimelineEvent :=
  addEvent (some t.at_) "state" (formatted t.from_ ++ " → " ++ formatted t.to_)
    [("detail", textOrNone t.reason)]

def InvestigationItem.started (inv : InvestigationItem Text) : Option TimelineEvent :=
  addEvent inv.startedAt "investigation"
    ("Investigation attempt " ++ toString inv.attemptNumber ++ " started")
    [("detail", .str inv.modelName)]

/-- Only a call that collected evidence is an event. -/
def ToolCallItem.collected (call : ToolCallItem Text) : Option TimelineEvent :=
  if call.ok && !call.evidenceIds.isEmpty then
    addEvent (some call.at_) "evidence"
      (truncate (call.tool ++ ": " ++ call.summary.getD "") 160)
      [("evidence_ids", idList call.evidenceIds)]
  else none

def HypothesisUpdateItem.moved (update : HypothesisUpdateItem Text) (applied : AppliedItem) :
    Option TimelineEvent :=
  addEvent (some update.at_) "hypothesis"
    (applied.key ++ ": " ++ formatted (firstOf applied.fromStatus (some "new")) ++ " → " ++
      applied.toStatus) []

/-- The report, where there is one, and else the end. -/
def InvestigationItem.ended (inv : InvestigationItem Text) : Option TimelineEvent :=
  match inv.rca with
  | some rca =>
    addEvent inv.completedAt "rca"
      ("RCA: " ++ formatted rca.causeCategory ++ " in " ++ formatted rca.component)
      [("ref", .str rca.id)]
  | none =>
    addEvent inv.completedAt "investigation" ("Investigation ended " ++ inv.status)
      [("detail", textOrNone (firstOf inv.escalationReason inv.failureReason))]

def RemediationEntry.happened (entry : RemediationEntry Text) (rem : RemediationItem Text) :
    Option TimelineEvent :=
  addEvent (some entry.occurredAt) "remediation"
    (entry.actionId ++ ": " ++ String.ofList (entry.event.toList.map fun c =>
      if c = '_' then ' ' else c))
    [("detail", .str entry.actor), ("ref", .str rem.id)]

/-- `_verdict`. -/
def ObservationItem.verdict (o : ObservationItem Text) : String :=
  if o.passed then "pass" else if o.conclusive then "fail" else "inconclusive"

def ObservationItem.observed (o : ObservationItem Text) : Option TimelineEvent :=
  addEvent (some o.observedAt) "verification"
    ("Observation " ++ toString o.sequence ++ ": " ++ o.verdict)
    [("evidence_ids", idList o.evidenceIds)]

def VerificationItem.ended (v : VerificationItem Text) : Option TimelineEvent :=
  addEvent v.completedAt "verification" ("Verification " ++ v.status)
    [("detail", textOrNone v.failureReason), ("ref", .str v.id)]

def AlertItem.events (a : AlertItem Text) : List TimelineEvent :=
  [a.fired, a.resolved].reduceOption

def InvestigationItem.events (inv : InvestigationItem Text) : List TimelineEvent :=
  [inv.started].reduceOption ++ inv.toolCalls.flatMap (fun call => [call.collected].reduceOption) ++
    inv.hypothesisUpdates.flatMap (fun update =>
      update.applied.flatMap fun applied => [update.moved applied].reduceOption) ++
    [inv.ended].reduceOption

def RemediationItem.events (rem : RemediationItem Text) : List TimelineEvent :=
  rem.timeline.flatMap fun entry => [entry.happened rem].reduceOption

def VerificationItem.events (v : VerificationItem Text) : List TimelineEvent :=
  v.observations.flatMap (fun o => [o.observed].reduceOption) ++ [v.ended].reduceOption

/-- The events in the order the loops add them. -/
def Detail.events (detail : Detail Text) : List TimelineEvent :=
  detail.alerts.flatMap AlertItem.events ++
    detail.transitions.flatMap (fun t => [t.entered].reduceOption) ++
    detail.investigations.flatMap InvestigationItem.events ++
    detail.remediations.flatMap RemediationItem.events ++
    detail.verifications.flatMap VerificationItem.events

/-- `events.sort(key=lambda e: e["at"])`: a stable sort that compares the texts. -/
def timeline (detail : Detail Text) : List TimelineEvent :=
  detail.events.insertionSort fun e f => e.at_ ≤ f.at_

end IncidentTriage.Incident
