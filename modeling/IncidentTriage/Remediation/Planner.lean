import IncidentTriage.Incident.Models

/-! # The remediation planner

From an accepted RCA to at most one catalog action, with parameters taken from the evidence
records that the RCA cites.  The planner reads stored records only.  An operation that
raises (a missing field of a change, a proposal whose texts are too long) makes the whole
plan raise: the result is `none`.
-/

namespace IncidentTriage.Remediation

open IncidentTriage.Python IncidentTriage.Domain IncidentTriage.Incident

/-! ## Stored evidence -/

inductive EvidenceType where
  | metric | log | trace | deployment | gitChange | configuration | incidentHistory
  deriving DecidableEq, Repr

/-- A stored evidence record, as far as the planner reads it. -/
structure EvidenceRecord where
  evidenceId : Uuid
  sequence : Nat
  incidentId : Uuid
  evidenceType : EvidenceType
  subjectService : String
  collectedAt : Time
  normalizedPayload : Dict

/-- Collected before, or at the same time and stored before. -/
def EvidenceRecord.notLater (a b : EvidenceRecord) : Bool :=
  decide (a.collectedAt < b.collectedAt ∨ a.collectedAt = b.collectedAt ∧ a.sequence ≤ b.sequence)

/-- Collection time, then insertion order. -/
def listIncidentRecords (records : List EvidenceRecord) (incidentId : Uuid) :
    List EvidenceRecord :=
  (records.filter (fun r => r.incidentId == incidentId)).mergeSort EvidenceRecord.notLater

/-! ## The plan -/

/-- The incident and the investigation that a plan is for, with the investigation's report. -/
structure PlanRequest where
  incidentId : Uuid
  investigationId : Uuid
  report : RcaReport

/-- The records that the RCA cites about one component. -/
def citedRecords (records : List EvidenceRecord) (report : RcaReport) (component : String) :
    List EvidenceRecord :=
  records.filter (fun r => report.supportingEvidence.contains r.evidenceId &&
    r.subjectService == component)

/-- The first cited record of a type. -/
def firstOfType (type : EvidenceType) (records : List EvidenceRecord) : Option EvidenceRecord :=
  records.find? (fun r => r.evidenceType == type)

def planReason (request : PlanRequest) (category : CauseCategory) (component : String) : String :=
  truncate ("RCA of investigation " ++ uuidStr request.investigationId ++ ": " ++ category.value ++
    " in " ++ component ++ ". " ++ request.report.rca.rootCause.text) 1000

/-- A proposal of the planner, refused by the proposal's own length bounds. -/
def plannedProposal (request : PlanRequest) (category : CauseCategory) (component action : String)
    (params : Dict) (effect : String) : Option RemediationProposal :=
  let proposal : RemediationProposal :=
    { incidentId := request.incidentId
      investigationId := some request.investigationId
      actionId := action
      parameters := ("service", .str component) :: params
      reason := planReason request category component
      expectedEffect := effect
      source := .planner
      proposedBy := "remediation-planner" }
  if proposal.Valid then some proposal else none

/-- A plan: the proposal, if there is one, and why. -/
abbrev Plan := Option RemediationProposal × String

/-- A field whose value is true. -/
def truthyField (fields : Dict) (name : String) : Option Json :=
  (Dict.get? fields name).filter Json.truthy

def planDeployment (request : PlanRequest) (component : String)
    (deployment : Option EvidenceRecord) : Option Plan :=
  let current := Json.orEmpty (deployment.bind (fun r => Dict.get? r.normalizedPayload "current"))
  match truthyField current "version", truthyField current "previous_version" with
  | some running, some previous => do
    let proposal ← plannedProposal request .deployment component "rollback_deployment"
      [("from_version", running), ("to_version", previous)]
      (component ++ " returns to " ++ previous.text ++ "; its error rate returns below 5%")
    some (some proposal, "rollback to the previously deployed version")
  | _, _ => some (none, "no cited deployment record names the running and previous versions")

/-- `payload.get("changes_in_window") or []`: its first item, if there is one. -/
def newestChange (config : Option EvidenceRecord) : Option (Option Dict) :=
  match config.bind (fun r => Dict.get? r.normalizedPayload "changes_in_window") with
  | none => some none
  | some (.list (.object change :: _)) => some (some change)
  | some value => if value.truthy then none else some none

/-- `str(key).startswith("feature.")`. -/
def isFeatureKey (key : Json) : Bool := "feature.".toList.isPrefixOf key.text.toList

/-- `value is None`, where a missing field is `None`. -/
def isNone : Option Json → Bool
  | none | some .null => true
  | some _ => false

def planChange (request : PlanRequest) (component : String) (change : Dict) : Option Plan := do
  let key ← Dict.get? change "key"
  if isFeatureKey key then
    let proposal ← plannedProposal request .configuration component "disable_feature_flag"
      [("flag", key)]
      (key.text ++ " off; " ++ component ++ " error rate returns below 5%")
    some (some proposal, "disable the feature flag that changed")
  else if isNone (Dict.get? change "old_value") then
    some (none, "the configuration change has no previous value to revert to")
  else
    let newValue ← Dict.get? change "new_value"
    let oldValue ← Dict.get? change "old_value"
    let proposal ← plannedProposal request .configuration component "revert_configuration"
      [("key", key), ("from_value", newValue), ("to_value", oldValue)]
      (key.text ++ " back to " ++ oldValue.repr ++ "; errors return below 5%")
    some (some proposal, "revert the configuration change")

def planConfiguration (request : PlanRequest) (component : String)
    (config : Option EvidenceRecord) : Option Plan := do
  match ← newestChange config with
  | none => some (none, "no cited configuration record contains the change")
  | some change => planChange request component change

/-- The proposal and why; `why` explains a missing proposal too.  The records are the
incident's, in the order of `listIncidentRecords`. -/
def plan (records : List EvidenceRecord) (request : PlanRequest) : Option Plan :=
  match request.report.causeCategory, request.report.component.filter (fun c => !c.isEmpty) with
  | some category, some component =>
    let cited := citedRecords records request.report component
    match category with
    | .deployment => planDeployment request component (firstOfType .deployment cited)
    | .configuration => planConfiguration request component (firstOfType .configuration cited)
    | .resourceMemory => do
      let proposal ← plannedProposal request category component "restart_service" []
        (component ++ " memory back to baseline")
      some (some proposal, "restart to release leaked memory")
    | .resourceCpu | .traffic => do
      let proposal ← plannedProposal request category component "scale_service"
        [("increase_by", .int 2)] (component ++ " p95 latency below 1s")
      some (some proposal, "add capacity")
    | category =>
      some (none, "no catalog action remediates a " ++ category.value ++ " cause on " ++ component)
  | _, _ => some (none, "the RCA has no structured root cause")

end IncidentTriage.Remediation
