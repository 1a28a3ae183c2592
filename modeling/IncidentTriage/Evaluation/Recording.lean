import IncidentTriage.Domain.Turns
import IncidentTriage.Incident.System
import IncidentTriage.Python.Decimals
import IncidentTriage.Python.Uuids
import IncidentTriage.Remediation.Planner

/-! # Recordings of investigations

The evidence service beside incident-core: a record is stored first, and then registered with
the incident under its own id, incident and type.  A recording reads an investigation from both,
as far as the recheck of its conclusion goes.
-/

namespace IncidentTriage.Evaluation

open IncidentTriage.Python IncidentTriage.Domain IncidentTriage.Incident IncidentTriage.Remediation

/-! ## The evidence service -/

/-- `EvidenceType.value`. -/
def evidenceTypeValue : EvidenceType → String
  | .metric => "metric"
  | .log => "log"
  | .trace => "trace"
  | .deployment => "deployment"
  | .gitChange => "git_change"
  | .configuration => "configuration"
  | .incidentHistory => "incident_history"

/-- A stored record, with what its registration says of it.  Its id is a UUID. -/
structure StoredRecord extends EvidenceRecord where
  investigationId : Option Uuid
  sourceSystem : String
  contentHash : String
  id_lt : evidenceId < 2 ^ 128

/-- `insert_record`: the id is the primary key. -/
def insertRecord (records : List StoredRecord) (record : StoredRecord) : List StoredRecord :=
  if records.any (fun r => r.evidenceId == record.evidenceId) then records
  else records ++ [record]

/-- The command of `_register`. -/
def StoredRecord.registration (r : StoredRecord) : RegisterEvidenceRefCommand :=
  { evidenceId := r.evidenceId
    incidentId := r.incidentId
    investigationId := r.investigationId
    evidenceType := evidenceTypeValue r.evidenceType
    contentHash := r.contentHash
    sourceSystem := r.sourceSystem
    collectedAt := r.collectedAt }

/-- `list_incident_records`. -/
def incidentRecords (records : List StoredRecord) (incidentId : Uuid) : List StoredRecord :=
  (records.filter (fun r => r.incidentId == incidentId)).mergeSort
    (fun a b => a.toEvidenceRecord.notLater b.toEvidenceRecord)

/-! ## Both services -/

structure Services where
  world : World
  records : List StoredRecord

/-- What happens: `_persist`, the `_register` of a record that was persisted, or a command of
anyone else. -/
inductive ServiceEvent where
  | persist (record : StoredRecord)
  | register (place elapsed : Nat)
  | command (event : Event) (other : ∀ c, event.command ≠ .registerEvidenceRef c)

def serviceStep (env : Env) (s : Services) : ServiceEvent → Services
  | .persist record => { s with records := insertRecord s.records record }
  | .register place elapsed =>
    match s.records[place]? with
    | none => s
    | some r =>
      let event : Event := { elapsed, command := .registerEvidenceRef r.registration }
      { s with world := step env s.world event }
  | .command event _ => { s with world := step env s.world event }

def servicesFrom (env : Env) (clock : Time) (events : List ServiceEvent) : Services :=
  Machine.run (serviceStep env) { world := emptyWorld clock, records := [] } events

/-! ## The recording -/

/-- `HypothesisSnapshot.to_json()`. -/
structure HypothesisJson where
  key : String
  description : String
  causeCategory : Option CauseCategory
  component : Option String
  status : String
  confidence : Option ℚ
  supportingEvidenceIds : List String
  contradictingEvidenceIds : List String
  missingEvidence : List String

def hypothesisJson (h : HypothesisSnapshot) : HypothesisJson :=
  { key := h.key
    description := h.description
    causeCategory := h.causeCategory
    component := h.component
    status := h.status.value
    confidence := h.confidence
    supportingEvidenceIds := h.supporting.map uuidStr
    contradictingEvidenceIds := h.contradicting.map uuidStr
    missingEvidence := h.missingEvidence }

/-- One entry of `evidence`. -/
structure RecordedEvidence where
  evidenceId : String
  evidenceType : String
  source : String
  service : String
  investigationId : Option String
  contentHash : String
  normalizedPayload : Dict
  shownToInvestigation : Bool

structure InvestigationRecording where
  hypotheses : List HypothesisJson
  evidence : List RecordedEvidence
  /-- The `report` of `rca`. -/
  report : Option Dict

/-- What pydantic does with the conclusion. -/
structure RcaModels where
  /-- `RcaDraft.model_dump(mode="json")`. -/
  dump : RcaDraft → Dict
  /-- `RcaDraft.model_validate`. -/
  validate : Dict → Except (List Domain.Problem) RcaDraft
  /-- `FinalInvestigationResult(...)` of a key, a confidence and a draft. -/
  result : Json → Json → RcaDraft → Except (List Domain.Problem) FinalInvestigationResult

def optionalJson (value : Option String) : Json := value.elim .null .str

def idsJson (ids : List Uuid) : Json := .list (ids.map fun e => .str (uuidStr e))

def confidenceJson (confidence : Fraction) : Json :=
  .float ⟨.finite confidence.value, confidence.text⟩

def actionJson (action : InvestigationAction) : Json :=
  .object
    [("iteration", .int action.iteration),
     ("tool", action.tool.getD .null),
     ("arguments", action.arguments.getD .null),
     ("ok", action.ok.getD .null),
     ("evidence_ids", idsJson action.evidenceIds),
     ("summary", action.summary.getD .null)]

/-- `float(value)`, as JSON. -/
def floatJson (value : ℚ) : Json :=
  .float ⟨.finite (roundDouble value), String.ofList (reprMagnitude (roundDouble value))⟩

/-- `to_json()` of a competing hypothesis. -/
def competingJson (h : HypothesisSnapshot) : Json :=
  .object
    [("key", .str h.key),
     ("description", .str h.description),
     ("cause_category", optionalJson (h.causeCategory.map (·.value))),
     ("component", optionalJson h.component),
     ("status", .str h.status.value),
     ("confidence", h.confidence.elim .null floatJson),
     ("supporting_evidence_ids", idsJson h.supporting),
     ("contradicting_evidence_ids", idsJson h.contradicting),
     ("missing_evidence", .list (h.missingEvidence.map .str))]

/-- What `complete` adds to the dumped draft. -/
def reportFields (r : RcaReport) : Dict :=
  [("confidence", confidenceJson r.confidence),
   ("root_cause_hypothesis", .object
     [("key", .str r.selectedKey),
      ("description", .str r.selectedDescription),
      ("cause_category", optionalJson (r.causeCategory.map (·.value))),
      ("component", optionalJson r.component)]),
   ("supporting_evidence", idsJson r.supportingEvidence),
   ("investigation_actions", .list (r.investigationActions.map actionJson)),
   ("competing_hypotheses", .list (r.competingHypotheses.map competingJson))]

/-- The stored report: the fields are set after those of the draft. -/
def reportJson (models : RcaModels) (r : RcaReport) : Dict :=
  (reportFields r).foldl (fun report field => dictSet report field.1 field.2) (models.dump r.rca)

inductive RecordingError where
  | domain (error : DomainError)
  /-- `scalar_one_or_none` found several reports. -/
  | multipleReports

/-- `evidence_out`. -/
def recordedEvidence (shown : List Uuid) (r : StoredRecord) : RecordedEvidence :=
  { evidenceId := uuidStr r.evidenceId
    evidenceType := evidenceTypeValue r.evidenceType
    source := r.sourceSystem
    service := r.subjectService
    investigationId := r.investigationId.map uuidStr
    contentHash := r.contentHash
    normalizedPayload := r.normalizedPayload
    shownToInvestigation := (shown.map uuidStr).contains (uuidStr r.evidenceId) }

/-- `build_recording`, as far as the conclusion is concerned. -/
def buildRecording (models : RcaModels) (services : Services) (id : Uuid) :
    Except RecordingError InvestigationRecording :=
  let s := services.world.store
  match loadState s id with
  | .error e => .error (.domain e)
  | .ok state =>
    let recording := fun report : Option Dict =>
      { hypotheses := state.hypotheses.map (fun h => hypothesisJson h.2)
        evidence := (incidentRecords services.records state.investigation.incidentId).map
          (recordedEvidence state.accessibleEvidence)
        report }
    match s.investigation.rcaReports.filter (fun r => r.investigationId == id) with
    | [] => .ok (recording none)
    | [row] => .ok (recording (some (reportJson models row.report)))
    | _ => .error .multipleReports

end IncidentTriage.Evaluation
