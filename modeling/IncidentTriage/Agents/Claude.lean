import IncidentTriage.Agents.Transcript

/-! # The Claude adapter

Renders the neutral transcript as messages of the Anthropic Messages API and maps one
response back.  Assistant turns are replayed from the stored content blocks unchanged.
-/

namespace IncidentTriage.Agents.Claude

open IncidentTriage.Python IncidentTriage.Domain

/-- A content block of a response. -/
inductive Block where
  | text (text : String)
  | toolUse (id name : String) (input : Json)
  | thinking (thinking signature : String)
  | redactedThinking (data : String)
  | other (type : String)

structure Response where
  content : List Block
  stopReason : Option String
  inputTokens : Nat
  outputTokens : Nat
  cacheReadInputTokens : Option Nat
  cacheCreationInputTokens : Option Nat
  model : String
  requestId : Option String

/-- What the client raises: an error of a class that is worth another attempt, of one that
is not, or another status error. -/
inductive Failure where
  | retryable (name message : String)
  | terminal (name message : String)
  | status (code : Nat) (message : String)

/-- What the adapter is configured with, and `json.loads`. -/
structure Adapter where
  cachesStablePrefix : Bool
  promptCaching : Bool
  minCacheableTokens : Option Nat
  stablePrefixDigest : DecisionRequest → String
  stablePrefixChars : DecisionRequest → Nat
  loads : String → Option Json

/-! ## The request -/

/-- Only the fields the API accepts back, by the type of the block. -/
def blockParam : Block → Option Json
  | .text text => some (.object [("type", .str "text"), ("text", .str text)])
  | .toolUse id name input =>
    some (.object [("type", .str "tool_use"), ("id", .str id), ("name", .str name),
      ("input", input)])
  | .thinking thinking signature =>
    some (.object [("type", .str "thinking"), ("thinking", .str thinking),
      ("signature", .str signature)])
  | .redactedThinking data =>
    some (.object [("type", .str "redacted_thinking"), ("data", .str data)])
  | .other _ => none

structure Message where
  role : String
  content : Json

def toolResult (result : ToolResultEntry) : Json :=
  .object ([("type", .str "tool_result"), ("tool_use_id", .str result.callId),
    ("content", .str result.content)] ++
    if result.isError then [("is_error", .bool true)] else [])

def noticeText (notice : String) : Json :=
  .object [("type", .str "text"), ("text", .str notice)]

/-- The messages of one entry; `none` where the stored payload has no content. -/
def renderEntry : TranscriptEntry → Option (List Message)
  | .context text => some [{ role := "user", content := .str text }]
  | .assistant _ _ providerPayload =>
    (providerPayload.get? "content").map (fun content => [{ role := "assistant", content }])
  | .observation results notices =>
    let content := results.map toolResult ++ notices.map noticeText
    some (if content.isEmpty then [] else [{ role := "user", content := .list content }])

def renderMessages (request : DecisionRequest) : Option (List Message) :=
  (request.transcript.mapM renderEntry).map List.flatten

/-! ## The response -/

def arguments (loads : String → Option Json) : Json → Dict
  | .object fields => fields
  | .str value =>
    match loads value with
    | none => [("__unparseable__", .str (truncate value 200))]
    | some (.object fields) => fields
    | some parsed => [("__value__", parsed)]
  | value => [("__value__", value)]

def toolAction (loads : String → Option Json) : Block → Option ModelAction
  | .toolUse id name input => some { callId := id, name, arguments := arguments loads input }
  | _ => none

def blockText : Block → Option String
  | .text text => some text
  | _ => none

def optionalNat (value : Option Nat) : Json := (value.map (fun n => Json.int n)).getD .null

def optionalStr (value : Option String) : Json := (value.map Json.str).getD .null

def Adapter.cacheInfo (a : Adapter) (request : DecisionRequest) (read written : Nat) : Dict :=
  [("requested", .bool a.cachesStablePrefix), ("supported", .bool a.promptCaching),
    ("strategy", .str (if a.cachesStablePrefix then "stable_prefix" else "none")),
    ("breakpoints", .list (if a.cachesStablePrefix then [.str "system"] else [])),
    ("prefix_digest", .str (a.stablePrefixDigest request)),
    ("prefix_chars", .int (a.stablePrefixChars request)),
    ("min_cacheable_tokens", optionalNat a.minCacheableTokens),
    ("read_tokens", .int read), ("write_tokens", .int written), ("hit", .bool (0 < read))]

def stopReason : Option String → StopReason
  | some "tool_use" => .toolUse
  | some "end_turn" => .endTurn
  | some "max_tokens" => .maxTokens
  | _ => .other

def truncated (response : Response) : Bool := response.stopReason == some "max_tokens"

/-- A tool call cut off by the output limit is never acted on. -/
def actionsOf (a : Adapter) (response : Response) : List ModelAction :=
  if truncated response then [] else response.content.filterMap (toolAction a.loads)

def providerPayload (response : Response) : Dict :=
  [("content", .list (response.content.filterMap blockParam)),
    ("request_id", optionalStr response.requestId),
    ("stop_reason", optionalStr response.stopReason)]

def failureError : Failure → ModelError
  | .retryable name message => { code := name, message, retryable := true }
  | .terminal name message => { code := name, message, retryable := false }
  | .status code message =>
    { code := "http_" ++ toString code, message, retryable := code = 429 || 500 ≤ code }

/-- `decide`, from what the client gives back. -/
def Adapter.decide (a : Adapter) (request : DecisionRequest) (latencyMs : Nat) :
    Except Failure Response → Except ModelError ModelTurn
  | .error failure => .error (failureError failure)
  | .ok response =>
    if response.stopReason = some "refusal" then
      .error { code := "refusal", message := "the model declined the request", retryable := false }
    else
      let read := response.cacheReadInputTokens.getD 0
      let written := response.cacheCreationInputTokens.getD 0
      .ok
        { text := "\n".intercalate (response.content.filterMap blockText)
          actions := actionsOf a response
          stopReason := stopReason response.stopReason
          usage := [("input_tokens", response.inputTokens),
            ("output_tokens", response.outputTokens), ("cache_read_input_tokens", read),
            ("cache_creation_input_tokens", written)]
          providerPayload := providerPayload response
          servedModel := response.model
          latencyMs
          cache := a.cacheInfo request read written }

end IncidentTriage.Agents.Claude
