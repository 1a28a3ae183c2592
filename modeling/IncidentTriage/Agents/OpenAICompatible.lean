import IncidentTriage.Agents.Transcript
import IncidentTriage.Python.Floats
import IncidentTriage.Python.Text

/-! # The OpenAI-compatible adapter

Renders the neutral transcript as messages of a Chat Completions endpoint and maps one
response back.  A truncated generation never yields actions, a failed one is an error, and
hidden reasoning is not stored.
-/

namespace IncidentTriage.Agents.OpenAICompatible

open IncidentTriage.Python IncidentTriage.Domain

/-- What the adapter is configured with, `json.loads`, and the normalization of errors. -/
structure Adapter where
  tools : Bool := true
  promptCaching : Bool := false
  model : String
  stablePrefixDigest : DecisionRequest → String
  stablePrefixChars : DecisionRequest → Nat
  loads : String → Option Json
  scrub : String → String
  error : Nat → Dict → ModelError

/-- What one request comes back with. -/
inductive Reply where
  | timeout (name : String)
  | failed (name : String)
  /-- A status, and the body where it is JSON. -/
  | response (status : Nat) (body : Option Json)

/-! ## Visible text -/

/-- A character that a lower-case letter matches when case is ignored. -/
def matchesLetter (letter c : Char) : Bool :=
  c.toLower == letter || (letter == 'i' && [0x130, 0x131].contains c.toNat) ||
    (letter == 'k' && c.toNat == 0x212a)

/-- What follows a tag at the head of a text. -/
def afterTag : List Char → List Char → Option (List Char)
  | [], rest => some rest
  | _ :: _, [] => none
  | letter :: tag, c :: rest => if matchesLetter letter c then afterTag tag rest else none

/-- What follows the first tag of a text. -/
def pastTag (tag : List Char) : List Char → Option (List Char)
  | [] => none
  | c :: rest =>
    match afterTag tag (c :: rest) with
    | some after => some after
    | none => pastTag tag rest

/-- A text without its `<think>` blocks and the space after each; every match takes at least
one character, so a text needs no more steps than it is long. -/
def withoutThinking : Nat → List Char → List Char
  | 0, text => text
  | _ + 1, [] => []
  | steps + 1, c :: rest =>
    match (afterTag "<think>".toList (c :: rest)).bind (pastTag "</think>".toList) with
    | some after => withoutThinking steps (after.dropWhile isSpace)
    | none => c :: withoutThinking steps rest

def withoutThink (text : String) : String :=
  String.ofList (withoutThinking text.toList.length text.toList)

def partText : Json → String
  | .object part =>
    match Dict.get? part "text" with
    | some (.str text) => text
    | _ => ""
  | _ => ""

/-- The visible output of the model, without inline chain of thought. -/
def visibleText : Option Json → String
  | some (.list parts) => strip (withoutThink (String.join (parts.map partText)))
  | some (.str text) => strip (withoutThink text)
  | _ => ""

/-! ## The request -/

structure Message where
  role : String
  content : String
  toolCalls : Option (List Json) := none
  toolCallId : Option String := none

/-- `value.get(key) or ""` for a text. -/
def textOrEmpty (fields : Dict) (key : String) : String :=
  match fields.get? key with
  | some (.str text) => text
  | _ => ""

/-- `stored.get("tool_calls")`, where it is not empty. -/
def storedCalls (stored : Dict) : Option (List Json) :=
  match stored.get? "tool_calls" with
  | some (.list (call :: calls)) => some (call :: calls)
  | _ => none

def renderEntry : TranscriptEntry → List Message
  | .context text => [{ role := "user", content := text }]
  | .assistant _ _ providerPayload =>
    let stored := Json.orEmpty (providerPayload.get? "message")
    [{ role := "assistant"
       content := textOrEmpty stored "content"
       toolCalls := storedCalls stored }]
  | .observation results notices =>
    results.map (fun result =>
      { role := "tool", content := result.content, toolCallId := some result.callId }) ++
    if notices.isEmpty then [] else [{ role := "user", content := "\n\n".intercalate notices }]

def renderMessages (request : DecisionRequest) : List Message :=
  { role := "system", content := request.systemPrompt } :: request.transcript.flatMap renderEntry

/-! ## The response -/

def parseArguments (loads : String → Option Json) : Option Json → Dict
  | some (.object fields) => fields
  | some (.str value) =>
    if (strip value).isEmpty then []
    else
      match loads value with
      | none => [("__unparseable__", .str (truncate value 200))]
      | some (.object fields) => fields
      | some parsed => [("__value__", parsed)]
  | some .null | none => []
  | some value => [("__value__", value)]

/-- `call.get("function") or {}`. -/
def functionOf (call : Dict) : Dict := Json.orEmpty (call.get? "function")

/-- `str(call.get("id") or f"call_{i}")`. -/
def callIdOf (i : Nat) (call : Dict) : String :=
  match call.get? "id" with
  | some id => if id.truthy then id.text else "call_" ++ toString i
  | none => "call_" ++ toString i

def toolAction (loads : String → Option Json) (i : Nat) (call : Dict) : ModelAction :=
  { callId := callIdOf i call
    name := (((functionOf call).get? "name").getD (.str "")).text
    arguments := parseArguments loads ((functionOf call).get? "arguments") }

/-- The calls that are objects, each with its place in the list. -/
def objectCalls (rawCalls : List Json) : List (Nat × Dict) :=
  rawCalls.zipIdx.filterMap (fun entry =>
    match entry.1 with
    | .object call => some (entry.2, call)
    | _ => none)

/-- The arguments as they came, or an empty object. -/
def storedArguments (call : Dict) : Json :=
  match (functionOf call).get? "arguments" with
  | some arguments => if arguments.truthy then arguments else .str "\x7b\x7d"
  | none => .str "\x7b\x7d"

def storedCall (action : ModelAction) (call : Dict) : Json :=
  .object [("id", .str action.callId), ("type", .str "function"),
    ("function", .object [("name", .str action.name), ("arguments", storedArguments call)])]

def finishedBy (finish : Option Json) (reason : String) : Bool :=
  match finish with
  | some (.str text) => text == reason
  | _ => false

def stopReason (finish : Option Json) (acts : Bool) : StopReason :=
  if finishedBy finish "tool_calls" then .toolUse
  else if finishedBy finish "stop" then .endTurn
  else if finishedBy finish "length" then .maxTokens
  else if acts then .toolUse
  else .other

/-- The exceptions of Python that reading a field of another type raises. -/
inductive Escape where
  | attributeError | typeError | valueError | overflowError | recursionError
  deriving DecidableEq, Repr

/-- `(value or {})`, of which `.get` is read. -/
def dictOr : Option Json → Except Escape Dict
  | some (.object fields) => .ok fields
  | some value => if value.truthy then .error .attributeError else .ok []
  | none => .ok []

/-- `int(value)`. -/
def intOf : Json → Except Escape Int
  | .bool value => .ok (if value then 1 else 0)
  | .int n => .ok n
  | .float x =>
    match x.value with
    | .finite q => .ok (truncateFloat q)
    | .nan => .error .valueError
    | .posInf | .negInf => .error .overflowError
  | .str text =>
    match intOfText text with
    | some n => .ok n
    | none => .error .valueError
  | .null | .list _ | .object _ => .error .typeError

/-- `int(value or 0)`. -/
def intOr : Option Json → Except Escape Int
  | some value => if value.truthy then intOf value else .ok 0
  | none => .ok 0

/-- A reported count where it can be read; providers report none below zero. -/
def count (value : Option Json) : Nat :=
  match intOr value with
  | .ok n => n.toNat
  | .error _ => 0

def Adapter.cacheInfo (a : Adapter) (request : DecisionRequest) (read written : Nat) : Dict :=
  [("requested", .bool false), ("supported", .bool a.promptCaching),
    ("strategy", .str (if a.promptCaching then "provider_automatic" else "none")),
    ("note", .str
      "no cache hints are sent; cached tokens the provider reports are recorded"),
    ("prefix_digest", .str (a.stablePrefixDigest request)),
    ("prefix_chars", .int (a.stablePrefixChars request)), ("read_tokens", .int read),
    ("write_tokens", .int written), ("hit", .bool (0 < read))]

def malformed (message : String) : ModelError :=
  { code := "malformed_response", message, retryable := true }

/-- A tool call cut off by the output limit is never acted on. -/
def actionsOf (a : Adapter) (truncated : Bool) (rawCalls : List Json) : List ModelAction :=
  if truncated then []
  else (objectCalls rawCalls).map (fun call => toolAction a.loads call.1 call.2)

/-- The message as it is replayed: its text, and the calls the engine was given. -/
def storedMessage (a : Adapter) (text : String) (truncated : Bool) (rawCalls : List Json) : Dict :=
  [("content", .str text)] ++
    if rawCalls.isEmpty || truncated then []
    else [("tool_calls", .list ((objectCalls rawCalls).map (fun call =>
      storedCall (toolAction a.loads call.1 call.2) call.2)))]

/-- The turn in a message, with what the response says beside it. -/
def turnOf (a : Adapter) (request : DecisionRequest) (latencyMs : Nat) (data choice message : Dict)
    (rawCalls : List Json) : ModelTurn :=
  let finish := choice.get? "finish_reason"
  let truncated := finishedBy finish "length"
  let actions := actionsOf a truncated rawCalls
  let text := visibleText (message.get? "content")
  let usage := Json.orEmpty (data.get? "usage")
  let promptDetails := Json.orEmpty (usage.get? "prompt_tokens_details")
  let cached := count (promptDetails.get? "cached_tokens")
  let written := count (promptDetails.get? "cache_write_tokens")
  let completionDetails := Json.orEmpty (usage.get? "completion_tokens_details")
  { text
    actions
    stopReason := stopReason finish !actions.isEmpty
    usage := [("input_tokens", count (usage.get? "prompt_tokens")),
      ("output_tokens", count (usage.get? "completion_tokens")),
      ("cache_read_input_tokens", cached), ("cache_creation_input_tokens", written),
      ("reasoning_tokens", count (completionDetails.get? "reasoning_tokens"))]
    providerPayload := [("message", .object (storedMessage a text truncated rawCalls)),
      ("generation_id", (data.get? "id").getD .null),
      ("upstream_provider", (data.get? "provider").getD .null),
      ("finish_reason", finish.getD .null),
      ("native_finish_reason", (choice.get? "native_finish_reason").getD .null),
      ("usage_reported", .bool !usage.isEmpty), ("cost", (usage.get? "cost").getD .null)]
    servedModel :=
      match data.get? "model" with
      | some served => if served.truthy then served.text else a.model
      | none => a.model
    latencyMs
    cache := a.cacheInfo request cached written }

def isTrue : Option Json → Bool
  | some value => value.truthy
  | none => false

/-- A message that did not fail. -/
def readMessage (a : Adapter) (request : DecisionRequest) (latencyMs : Nat)
    (data choice message : Dict) : Except ModelError ModelTurn :=
  let finish := choice.get? "finish_reason"
  if finishedBy finish "error" then
    .error
      { code := "upstream_error"
        message := a.scrub ("generation failed upstream (provider=" ++
          textOr (data.get? "provider") ++ ", native_finish_reason=" ++
          textOr (choice.get? "native_finish_reason") ++ ")")
        retryable := true }
  else if finishedBy finish "content_filter" then
    .error
      { code := "bad_request", message := "the provider filtered the response",
        retryable := false }
  else
    match message.get? "tool_calls" with
    | some (.list rawCalls) => .ok (turnOf a request latencyMs data choice message rawCalls)
    | some calls =>
      if calls.truthy then .error (malformed "tool_calls is not a list")
      else .ok (turnOf a request latencyMs data choice message [])
    | none => .ok (turnOf a request latencyMs data choice message [])

def readChoices (a : Adapter) (request : DecisionRequest) (latencyMs : Nat) (data : Dict) :
    Except ModelError ModelTurn :=
  match data.get? "choices" with
  | some (.list (.object choice :: _)) =>
    if isTrue (Dict.get? choice "error") then
      .error (a.error 502 [("error", (Dict.get? choice "error").getD .null)])
    else
      match Dict.get? choice "message" with
      | some (.object message) => readMessage a request latencyMs data choice message
      | _ => .error (malformed "choice has no message")
  | _ => .error (malformed "no choices in the response")

/-- `decide`, from what the endpoint gives back. -/
def Adapter.decide (a : Adapter) (request : DecisionRequest) (latencyMs : Nat) (reply : Reply) :
    Except ModelError ModelTurn :=
  if !a.tools then
    .error
      { code := "bad_request"
        message := "the endpoint is declared without tool calling; investigations need it"
        retryable := false }
  else
    match reply with
    | .timeout name =>
      .error
        { code := "timeout", message := "request timed out (" ++ name ++ ")", retryable := true }
    | .failed name =>
      .error
        { code := "upstream_error", message := "connection failed (" ++ name ++ ")",
          retryable := true }
    | .response status body =>
      if 400 ≤ status then .error (a.error status (Json.orEmpty body))
      else
        match body with
        | some (.object data) =>
          if isTrue (Dict.get? data "error") then .error (a.error 200 data)
          else readChoices a request latencyMs data
        | _ => .error (malformed "response body is not a JSON object")

end IncidentTriage.Agents.OpenAICompatible
