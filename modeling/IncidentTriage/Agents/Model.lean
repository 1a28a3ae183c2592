import IncidentTriage.Domain.Turns
import IncidentTriage.Incident.Investigations

/-! # The investigation model interface

What the engine sends to a model, what the model gives back, and how a turn is written to
the trace.
-/

namespace IncidentTriage.Agents

open IncidentTriage.Python IncidentTriage.Domain IncidentTriage.Incident

structure ToolResultEntry where
  callId : String
  content : String
  isError : Bool
  deriving DecidableEq

/-- An assistant entry replays a turn: its payload means something only to the adapter
that produced it.  An observation is everything the application says back. -/
inductive TranscriptEntry where
  | context (text : String)
  | assistant (text : String) (actions : List ModelAction) (providerPayload : Dict)
  | observation (results : List ToolResultEntry) (notices : List String)

structure DecisionRequest where
  systemPrompt : String
  transcript : List TranscriptEntry

inductive StopReason where
  | toolUse | endTurn | maxTokens | other
  deriving DecidableEq

def StopReason.value : StopReason → String
  | .toolUse => "tool_use"
  | .endTurn => "end_turn"
  | .maxTokens => "max_tokens"
  | .other => "other"

structure ModelTurn where
  text : String
  actions : List ModelAction
  stopReason : StopReason
  usage : List (String × Nat)
  providerPayload : Dict
  servedModel : String
  latencyMs : Nat
  cache : Dict

/-- A model call failed; only a retryable failure is worth another attempt. -/
structure ModelError where
  code : String
  message : String
  retryable : Bool

/-! ## A turn in the trace -/

/-- `model_dump`. -/
def modelDump (action : ModelAction) : Json :=
  .object [("call_id", .str action.callId), ("name", .str action.name),
    ("arguments", .object action.arguments)]

def modelAction? : Json → Option ModelAction
  | .object [("call_id", .str callId), ("name", .str name), ("arguments", .object arguments)] =>
    some { callId, name, arguments }
  | _ => none

def usageCount (usage : List (String × Nat)) (name : String) : Nat :=
  (List.lookup name usage).getD 0

def tokenUsage (usage : List (String × Nat)) : TokenUsage :=
  { inputTokens := usageCount usage "input_tokens"
    outputTokens := usageCount usage "output_tokens"
    cacheReadInputTokens := usageCount usage "cache_read_input_tokens"
    cacheCreationInputTokens := usageCount usage "cache_creation_input_tokens" }

/-- The payload of a `MODEL_TURN` step. -/
def ModelTurn.fields (turn : ModelTurn) : Dict :=
  [("text", .str turn.text),
    ("actions", .list (turn.actions.map modelDump)),
    ("stop_reason", .str turn.stopReason.value),
    ("usage", .object (turn.usage.map (fun u => (u.1, .int u.2)))),
    ("served_model", .str turn.servedModel),
    ("provider_payload", .object turn.providerPayload),
    ("cache", .object turn.cache)]

/-- `payload.get(name, default)` for a text. -/
def textField (payload : StepPayload) (name otherwise : String) : String :=
  match payload.field name with
  | some (.str text) => text
  | _ => otherwise

def flagField (payload : StepPayload) (name : String) : Bool :=
  ((payload.field name).map Json.truthy).getD false

def objectField (payload : StepPayload) (name : String) : Dict :=
  Json.orEmpty (payload.field name)

/-- The actions of a persisted turn.  The trace has no others than `modelDump` writes. -/
def recordedActions (payload : StepPayload) : List ModelAction :=
  match payload.field "actions" with
  | some (.list items) => items.filterMap modelAction?
  | _ => []

@[simp] theorem modelAction_modelDump (action : ModelAction) :
    modelAction? (modelDump action) = some action := rfl

@[simp] theorem recordedActions_fields (evidenceIds : List Uuid) (turn : ModelTurn) :
    recordedActions (.worker evidenceIds turn.fields) = turn.actions := by
  have read : (turn.actions.map modelDump).filterMap modelAction? =
      turn.actions := by
    rw [List.filterMap_map]
    exact (List.filterMap_congr fun action _ => modelAction_modelDump action).trans
      List.filterMap_some
  exact read

@[simp] theorem objectField_providerPayload (evidenceIds : List Uuid) (turn : ModelTurn) :
    objectField (.worker evidenceIds turn.fields) "provider_payload" = turn.providerPayload :=
  rfl

@[simp] theorem textField_text (evidenceIds : List Uuid) (turn : ModelTurn) (otherwise : String) :
    textField (.worker evidenceIds turn.fields) "text" otherwise = turn.text := rfl

@[simp] theorem textField_stopReason (evidenceIds : List Uuid) (turn : ModelTurn)
    (otherwise : String) :
    textField (.worker evidenceIds turn.fields) "stop_reason" otherwise =
      turn.stopReason.value := rfl

end IncidentTriage.Agents
