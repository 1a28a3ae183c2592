import IncidentTriage.Evaluation.Recording

/-! # Grading a conclusion

The stopping criteria, run again on a recording.
-/

namespace IncidentTriage.Evaluation

open IncidentTriage.Python IncidentTriage.Domain

/-- What a recording that does not hold what it should makes of the recheck. -/
inductive RecheckError where
  /-- `uuid.UUID` of another text. -/
  | badUuid (text : String)
  /-- `HypothesisStatus` of another text. -/
  | badStatus (text : String)
  | validation (problems : List Domain.Problem)

/-- `HypothesisStatus(text)`. -/
def statusOfValue (text : String) : Except RecheckError HypothesisStatus :=
  match [HypothesisStatus.active, .supported, .weakened, .rejected, .selected].find?
    (fun status => status.value == text) with
  | some status => .ok status
  | none => .error (.badStatus text)

/-- `uuid.UUID(text)`. -/
def uuidOf (text : String) : Except RecheckError Uuid :=
  match parseUuid text with
  | some id => .ok id
  | none => .error (.badUuid text)

/-- `_snapshot`. -/
def snapshotOf (h : HypothesisJson) : Except RecheckError HypothesisSnapshot := do
  let status ← statusOfValue h.status
  let supporting ← h.supportingEvidenceIds.mapM uuidOf
  let contradicting ← h.contradictingEvidenceIds.mapM uuidOf
  pure
    { key := h.key
      description := h.description
      status
      confidence := h.confidence
      supporting
      contradicting
      missingEvidence := h.missingEvidence
      causeCategory := h.causeCategory
      component := h.component }

/-- `RcaDraft.model_fields`. -/
def rcaFields : List String :=
  ["incident_summary", "impact", "affected_services", "timeline", "root_cause",
    "contributing_factors", "contradicting_evidence", "unresolved_questions",
    "recommended_next_diagnostic_action"]

/-- A dict comprehension: a later item takes the place of an earlier one with its key. -/
def dictOf {α : Type} (items : List (String × α)) : List (String × α) :=
  items.foldl (fun dict item => dictSet dict item.1 item.2) []

/-- `snapshots[key].status = SUPPORTED`, if the key is there. -/
def asSupported (key : Json) (snapshots : List (String × HypothesisSnapshot)) :
    List (String × HypothesisSnapshot) :=
  snapshots.map fun h =>
    if (Json.str h.1).eq key then (h.1, { h.2 with status := .supported }) else h

/-- `types`: of two entries with one id the later one counts. -/
def typesOf (types : List (Uuid × String)) (id : Uuid) : Option String :=
  types.reverse.lookup id

/-- `_recheck_conclusion`. -/
def recheckConclusion (models : RcaModels) (recording : InvestigationRecording)
    (criteria : StoppingCriteria) : Except RecheckError (List String) :=
  let report := recording.report.getD []
  match (Json.orEmpty (report.get? "root_cause_hypothesis")).get? "key" with
  | none | some .null => .ok ["no selected hypothesis in the RCA"]
  | some key => do
    let draft ← (models.validate (rcaFields.filterMap fun k =>
      (report.get? k).map fun value => (k, value))).mapError .validation
    let result ← (models.result key ((report.get? "confidence").getD (.int 0)) draft).mapError
      .validation
    let snapshots ← recording.hypotheses.mapM fun h => do
      let snapshot ← snapshotOf h
      pure (h.key, snapshot)
    let types ← recording.evidence.mapM fun e => do
      let id ← uuidOf e.evidenceId
      pure (id, e.evidenceType)
    pure (evaluateConclusion result (asSupported key (dictOf snapshots)) (typesOf types) criteria)

end IncidentTriage.Evaluation
