import IncidentTriage.Agents.Engine
import IncidentTriage.Agents.OpenAICompatible

/-! # What a call of the adapter raises

The response is an untrusted document.  `decide` guards some of what it reads; elsewhere Python
raises an exception of its own, which the engine does not expect.
-/

namespace IncidentTriage.Agents.OpenAICompatible

open IncidentTriage.Python IncidentTriage.Domain IncidentTriage.Incident

/-- What `decide` can end with instead of a turn. -/
inductive Raised where
  | modelError (error : ModelError)
  | escaped (exception : Escape)

/-- How `json.loads` fails: with a `ValueError`, or on a text that is nested too deep. -/
inductive LoadFault where
  | invalid
  | tooDeep
  deriving DecidableEq, Repr

section
variable (a : Adapter) (tooDeep : String → Bool)

def raisedArguments (value : Option Json) : Except Escape Dict :=
  match value with
  | some (.str text) =>
    if !(strip text).isEmpty && tooDeep text then .error .recursionError
    else .ok (parseArguments a.loads value)
  | _ => .ok (parseArguments a.loads value)

def raisedAction (i : Nat) (call : Dict) : Except Escape ModelAction := do
  let function ← dictOr (call.get? "function")
  let arguments ← raisedArguments a tooDeep (function.get? "arguments")
  return {
    callId := callIdOf i call
    name := ((function.get? "name").getD (.str "")).text
    arguments }

/-- The comprehension over the calls. -/
def raisedActions (truncated : Bool) (rawCalls : List Json) : Except Escape (List ModelAction) :=
  if truncated then .ok []
  else (objectCalls rawCalls).mapM (fun call => raisedAction a tooDeep call.1 call.2)

/-- The text of a part, as `"".join` takes it; what is no object is passed over. -/
def raisedPart : Json → Except Escape String
  | .object part =>
    match Dict.get? part "text" with
    | none => .ok ""
    | some (.str text) => .ok text
    | some _ => .error .typeError
  | _ => .ok ""

/-- `visible_text`. -/
def raisedText : Option Json → Except Escape String
  | some (.list parts) => do
    let texts ← parts.mapM raisedPart
    return strip (withoutThink (String.join texts))
  | some (.str text) => .ok (strip (withoutThink text))
  | _ => .ok ""

def isHashable : Json → Bool
  | .list _ | .object _ => false
  | _ => true

/-- The reason is looked up in a dict. -/
def raisedStop (finish : Option Json) (acts : Bool) : Except Escape StopReason :=
  match finish with
  | some value =>
    if value.truthy && !isHashable value then .error .typeError else .ok (stopReason finish acts)
  | none => .ok (stopReason finish acts)

/-- The turn in a message, read in the order of the source. -/
def raisedTurn (request : DecisionRequest) (latencyMs : Nat) (data choice message : Dict)
    (rawCalls : List Json) : Except Escape ModelTurn := do
  let finish := choice.get? "finish_reason"
  let truncated := finishedBy finish "length"
  let actions ← raisedActions a tooDeep truncated rawCalls
  let text ← raisedText (message.get? "content")
  let usage := Json.orEmpty (data.get? "usage")
  let promptDetails ← dictOr (usage.get? "prompt_tokens_details")
  let cached ← intOr (promptDetails.get? "cached_tokens")
  let written ← intOr (promptDetails.get? "cache_write_tokens")
  let stop ← raisedStop finish !actions.isEmpty
  let inputTokens ← intOr (usage.get? "prompt_tokens")
  let outputTokens ← intOr (usage.get? "completion_tokens")
  let completionDetails ← dictOr (usage.get? "completion_tokens_details")
  let reasoningTokens ← intOr (completionDetails.get? "reasoning_tokens")
  return {
    text
    actions
    stopReason := stop
    usage := [("input_tokens", inputTokens.toNat), ("output_tokens", outputTokens.toNat),
      ("cache_read_input_tokens", cached.toNat), ("cache_creation_input_tokens", written.toNat),
      ("reasoning_tokens", reasoningTokens.toNat)]
    providerPayload := [("message", .object (storedMessage a text truncated rawCalls)),
      ("generation_id", (data.get? "id").getD .null),
      ("upstream_provider", (data.get? "provider").getD .null),
      ("finish_reason", finish.getD .null),
      ("native_finish_reason", (choice.get? "native_finish_reason").getD .null),
      ("usage_reported", .bool !usage.isEmpty), ("cost", (usage.get? "cost").getD .null)]
    servedModel :=
      match data.get? "model" with
      | some served => if served.truthy then served.text else a.model
      | none => a.model
    latencyMs
    cache := a.cacheInfo request cached.toNat written.toNat }

/-- `int` of an error's code is only guarded against two exceptions: infinity raises a third. -/
def infiniteCode (data : Dict) : Bool :=
  match data.get? "error" with
  | some (.object error) =>
    match Dict.get? error "code" with
    | some (.float x) => x.value == .posInf || x.value == .negInf
    | _ => false
  | _ => false

/-- `raise self._error(status, data)`. -/
def raisedError (status : Nat) (data : Dict) : Raised :=
  if infiniteCode data then .escaped .overflowError else .modelError (a.error status data)

/-- `message.get("tool_calls") or []`, where it is a list. -/
def listedCalls (message : Dict) : List Json :=
  match message.get? "tool_calls" with
  | some (.list rawCalls) => rawCalls
  | _ => []

/-- A message: its model errors come before the first reading that may raise. -/
def raisedMessage (request : DecisionRequest) (latencyMs : Nat) (data choice message : Dict) :
    Except Raised ModelTurn :=
  match readMessage a request latencyMs data choice message with
  | .error error => .error (.modelError error)
  | .ok _ =>
    (raisedTurn a tooDeep request latencyMs data choice message (listedCalls message)).mapError
      .escaped

def raisedChoices (request : DecisionRequest) (latencyMs : Nat) (data : Dict) :
    Except Raised ModelTurn :=
  match data.get? "choices" with
  | some (.list (.object choice :: _)) =>
    if isTrue (Dict.get? choice "error") then
      .error (raisedError a 502 [("error", (Dict.get? choice "error").getD .null)])
    else
      match Dict.get? choice "message" with
      | some (.object message) => raisedMessage a tooDeep request latencyMs data choice message
      | _ => .error (.modelError (malformed "choice has no message"))
  | _ => .error (.modelError (malformed "no choices in the response"))

end

/-- `decide`, on a response that the client returned: its status, and what `response.json()`
makes of its body. -/
def Adapter.call (a : Adapter) (tooDeep : String → Bool) (request : DecisionRequest)
    (latencyMs status : Nat) (body : Except LoadFault Json) : Except Raised ModelTurn :=
  if !a.tools then
    .error (.modelError
      { code := "bad_request"
        message := "the endpoint is declared without tool calling; investigations need it"
        retryable := false })
  else
    match body with
    | .error .tooDeep => .error (.escaped .recursionError)
    | _ =>
      if 400 ≤ status then .error (raisedError a status (Json.orEmpty body.toOption))
      else
        match body with
        | .ok (.object data) =>
          if isTrue (Dict.get? data "error") then .error (raisedError a 200 data)
          else raisedChoices a tooDeep request latencyMs data
        | _ => .error (.modelError (malformed "response body is not a JSON object"))

end IncidentTriage.Agents.OpenAICompatible

namespace IncidentTriage.Agents

open IncidentTriage.Python IncidentTriage.Incident

/-- What `_call_model` makes of a call: it expects a turn or a model error, and any other
exception ends the run. -/
def Desk.hear (e : EngineEnv) (d : Desk) (now : Time) (replies : Replies) (s : Store)
    (phase : Phase) (outcome : Except OpenAICompatible.Raised ModelTurn) : Store × Phase :=
  match outcome with
  | .ok turn => d.work e now { replies with model := .ok turn } s phase
  | .error (.modelError error) => d.work e now { replies with model := .error error } s phase
  | .error (.escaped _) => (s, .ended none)

end IncidentTriage.Agents
