import IncidentTriage.Agents.Model
import IncidentTriage.Tools.Executor

/-! # The investigation's tool surface

The evidence tools under the names the model sees.  The listing of recorded evidence is
answered here; every other tool goes through the executor.
-/

namespace IncidentTriage.Agents

open IncidentTriage.Python IncidentTriage.Domain IncidentTriage.Incident IncidentTriage.Tools

def evidenceToolAliases : List (String × String) :=
  [("get_service_health", "get_service_health"), ("get_metric_window", "get_metrics"),
    ("get_logs", "get_logs"), ("get_traces", "get_traces"), ("get_trace", "get_trace"),
    ("get_recent_deployments", "get_deploys"), ("get_config_changes", "get_config_history"),
    ("get_code_changes", "get_git_diff"), ("get_recent_commits", "get_recent_commits"),
    ("search_similar_incidents", "search_historical_incidents")]

def getIncidentEvidence : String := "get_incident_evidence"

def evidenceToolNames : List String :=
  evidenceToolAliases.map (·.1) ++ [getIncidentEvidence]

/-- `EVIDENCE_TOOL_ALIASES.get(tool, tool)`. -/
def aliasOf (tool : String) : String := (List.lookup tool evidenceToolAliases).getD tool

structure ToolOutcome where
  ok : Bool
  observation : String
  evidenceIds : List Uuid := []
  newEvidence : Nat := 0
  errorCode : Option String := none
  summary : Option String := none
  latencyMs : Nat := 0

def itemPayload (item : EvidenceItem) : Json :=
  .object [("evidence_id", .str (uuidStr item.evidenceId)),
    ("evidence_type", .str item.evidenceType), ("source", .str item.sourceSystem),
    ("service", .str item.subjectService), ("observed_at", .str item.observedAt),
    ("summary", .str item.summary), ("data", item.data)]

def errorPayload (e : ToolErrorDetail) : Json :=
  .object [("error", .object [("code", .str e.code), ("message", .str e.message),
    ("retryable", .bool e.retryable)])]

/-- An evidence tool, through the executor. -/
def evidenceTool (compact : Json → String) (x : ToolExecutor) (backend : Backend) (tool : String)
    (arguments : Dict) : ToolOutcome × ToolExecutor :=
  match x.execute backend (aliasOf tool) arguments with
  | (.success item, x) =>
    ({ ok := true
       observation := compact (itemPayload item)
       evidenceIds := [item.evidenceId]
       newEvidence := 1
       summary := some item.summary }, x)
  | (.failure e, x) =>
    ({ ok := false
       observation := compact (errorPayload e)
       errorCode := some e.code
       summary := some (truncate e.message 300) }, x)

def listingError (compact : Json → String) (code message : String) : ToolOutcome :=
  { ok := false
    observation := compact (.object [("error", .object [("code", .str code),
      ("message", .str message)])])
    errorCode := some code }

def listedItem (item : EvidenceItem) : Json :=
  .object [("evidence_id", .str (uuidStr item.evidenceId)),
    ("evidence_type", .str item.evidenceType), ("operation", .str item.operation),
    ("service", .str item.subjectService), ("observed_at", .str item.observedAt),
    ("summary", .str (truncate item.summary 300))]

/-- The last recorded evidence of the incident; the executor does not count the call. -/
def incidentEvidence (compact : Json → String) (backend : Backend) : ToolOutcome :=
  if backend.problems ≠ [] then
    listingError compact "invalid_argument" (problemsText backend.problems)
  else
    match backend.records with
    | .error e => listingError compact e.kind.code e.message
    | .ok records =>
      let listed := records.drop (records.length - backend.limit)
      { ok := true
        observation := compact (.object [("total_recorded", .int records.length),
          ("evidence", .list (listed.map listedItem))])
        evidenceIds := listed.map (·.evidenceId)
        summary := some (toString listed.length ++ " of " ++ toString records.length ++
          " recorded evidence items listed") }

def answerTool (compact : Json → String) (x : ToolExecutor) (backend : Backend) (tool : String)
    (arguments : Dict) : ToolOutcome × ToolExecutor :=
  if tool = getIncidentEvidence then (incidentEvidence compact backend, x)
  else evidenceTool compact x backend tool arguments

/-- `InvestigationToolset.execute`. -/
def executeTool (compact : Json → String) (x : ToolExecutor) (backend : Backend) (tool : String)
    (arguments : Dict) : ToolOutcome × ToolExecutor :=
  let (outcome, x) := answerTool compact x backend tool arguments
  ({ outcome with latencyMs := backend.latencyMs }, x)

end IncidentTriage.Agents
