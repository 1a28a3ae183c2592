import IncidentTriage.Agents.Transcript
import IncidentTriage.Incident.System

/-! # The investigation engine

The engine owns the loop of an investigation: budgets, retries, validation of what the
model says, tools, and stopping.  `work` is what it does from one command to
incident-core to the next; what it keeps between two of them is its `Phase`, and a crash
loses that and nothing else.
-/

namespace IncidentTriage.Agents

open IncidentTriage.Python IncidentTriage.Domain IncidentTriage.Incident IncidentTriage.Tools

/-- What an engine is built with, beside its gateway and its model. -/
structure EngineEnv where
  env : Env
  schemas : Schemas
  systemPrompt : String
  promptDigest : String
  /-- `build_context` of the incident of an investigation. -/
  buildContext : Store → InvestigationRow → Time → Json
  renderContext : Json → String
  compact : Json → String

/-- A worker's engine: its name, the lease it takes, and its attempts at a model call. -/
structure Engine where
  owner : String
  leaseSeconds : Int := 180
  attempts : Nat := 3

/-! ## One turn as a list of jobs -/

/-- What `_process` does one after the other for the decision of a turn. -/
inductive Job where
  | noAction (stopReason : String)
  | update (call : HypothesisUpdateCall)
  | invalid (call : InvalidCall)
  | request (call : ToolRequest)
  | conclude (call : ConclusionCall)
  | declare (call : InconclusiveCall)

def jobsOf (d : InvestigationDecision) (stopReason : String) : List Job :=
  if d.hasActions then
    d.hypothesisUpdates.map .update ++ d.invalidCalls.map .invalid ++
      d.toolRequests.map .request ++ d.conclusion.toList.map .conclude ++
      d.inconclusive.toList.map .declare
  else [.noAction stopReason]

/-- The locals of `_process` that its loop over the tool requests reads and writes. -/
structure Turn where
  iteration : Nat
  finalReason : Option String
  maxEvidenceItems : Nat
  usedCalls : Nat
  usedEvidence : Nat

def Turn.of (row : InvestigationRow) (iteration : Nat) (finalReason : Option String) : Turn :=
  { iteration
    finalReason
    maxEvidenceItems := row.budget.maxEvidenceItems
    usedCalls := row.toolCallCount
    usedEvidence := row.evidenceCount }

/-- Why a tool request is not executed. -/
def Turn.refusal (t : Turn) (request : ToolRequest) : Option (String × String) :=
  if t.finalReason.isSome then some ("final_turn", "Final turn: evidence tools are disabled.")
  else if request.tool ≠ getIncidentEvidence ∧ t.maxEvidenceItems ≤ t.usedEvidence then
    some ("evidence_budget_exhausted", "The evidence item budget is spent.")
  else none

def ToolOutcome.counted (outcome : ToolOutcome) : Bool :=
  outcome.errorCode != some "budget_exceeded" && outcome.errorCode != some "repeated_call"

def Turn.spend (t : Turn) (outcome : ToolOutcome) : Turn :=
  { t with
    usedCalls := if outcome.counted then t.usedCalls + 1 else t.usedCalls
    usedEvidence := t.usedEvidence + outcome.newEvidence }

/-! ## Resuming -/

/-- The steps from the last model turn on, that turn first. -/
def lastTurn (steps : List InvestigationStepRow) :
    Option (InvestigationStepRow × List InvestigationStepRow) :=
  match (steps.filter isModelTurn).getLast? with
  | none => none
  | some last => some (last, steps.filter (fun s => last.sequence < s.sequence))

/-- The ids that steps after a turn answer. -/
def answeredIds (after : List InvestigationStepRow) : List (Option String) :=
  (after.filter (fun s => isActionStep s || hasText s.callId)).map (·.callId)

/-- The actions of a turn without an answer after it. -/
def pendingActions (last : InvestigationStepRow) (after : List InvestigationStepRow) :
    List ModelAction :=
  (recordedActions last.payload).filter
    (fun a => !(answeredIds after).contains (some a.callId))

/-- The jobs a crash left behind, read from the trace, and the turn they belong to. -/
def outstanding (schemas : Schemas) (steps : List InvestigationStepRow) :
    Option (InvestigationStepRow × List Job) :=
  match lastTurn steps with
  | none => none
  | some (last, after) =>
    if (recordedActions last.payload).isEmpty then
      if after.any (fun s => s.kind == .feedback) then none
      else some (last, jobsOf {} (textField last.payload "stop_reason" "end_turn"))
    else if (pendingActions last after).isEmpty then none
    else some (last, jobsOf (interpretTurn schemas (textField last.payload "text" "")
      (pendingActions last after) evidenceToolNames) "tool_use")

/-- Why a turn is the last one: decided before the turn, and again for the pending
actions of an interrupted turn, without the counters that the turn itself may have
raised. -/
def finalTurnReason (row : InvestigationRow) (iteration : Nat) (pending : Bool) :
    Option String :=
  let budget := row.budget
  if budget.maxIterations ≤ iteration then
    some ("turn budget " ++ toString budget.maxIterations ++ " reached")
  else if pending then none
  else if budget.maxToolCalls ≤ row.toolCallCount then
    some ("evidence tool call budget " ++ toString budget.maxToolCalls ++ " spent")
  else if budget.maxEvidenceItems ≤ row.evidenceCount then
    some ("evidence item budget " ++ toString budget.maxEvidenceItems ++ " spent")
  else none

/-- The reason a resumed turn is the last one; a turn without actions has none. -/
def resumedReason (row : InvestigationRow) (last : InvestigationStepRow) : Option String :=
  if (recordedActions last.payload).isEmpty then none
  else finalTurnReason row last.iteration true

/-! ## Limits -/

def budgetExhausted (detail : String) : Escalation :=
  { outcome := .escalated, reasonCode := "budget_exhausted", detail }

def finalTurnOver (reason : String) : Escalation :=
  budgetExhausted (reason ++ "; the final turn did not reach a conclusion")

def totalTokens (row : InvestigationRow) : Nat :=
  row.inputTokens + row.outputTokens + row.cacheReadTokens + row.cacheCreationTokens

def overWallClock (now : Time) (row : InvestigationRow) : Option Escalation :=
  match row.startedAt with
  | none => none
  | some started =>
    if (row.budget.maxWallClockSeconds : Int) * 1000000 < now - started then
      some (budgetExhausted ("wall clock " ++ toString ((now - started).tdiv 1000000) ++
        "s exceeded " ++ toString row.budget.maxWallClockSeconds ++ "s"))
    else none

def overTokens (row : InvestigationRow) : Option Escalation :=
  match row.budget.maxTotalTokens with
  | none => none
  | some limit =>
    if limit ≤ totalTokens row then
      some (budgetExhausted ("token budget " ++ toString limit ++ " spent (" ++
        toString (totalTokens row) ++ ")"))
    else none

def overIterations (row : InvestigationRow) : Option Escalation :=
  if row.budget.maxIterations ≤ row.iterationCount then
    some (budgetExhausted ("iteration budget " ++ toString row.budget.maxIterations ++ " spent"))
  else none

def overInvalidTurns (row : InvestigationRow) (steps : List InvestigationStepRow) :
    Option Escalation :=
  if row.budget.maxConsecutiveInvalidTurns ≤ trailingInvalidTurns steps then
    some
      { outcome := .failed
        reasonCode := "malformed_output"
        detail := toString row.budget.maxConsecutiveInvalidTurns ++
          " consecutive turns without a valid action" }
  else none

def overBackendFailures (row : InvestigationRow) (steps : List InvestigationStepRow) :
    Option Escalation :=
  if row.budget.maxConsecutiveToolFailures ≤ trailingBackendFailures steps then
    some
      { outcome := .failed
        reasonCode := "evidence_unavailable"
        detail := toString row.budget.maxConsecutiveToolFailures ++
          " consecutive evidence-service failures" }
  else none

/-- The first limit that is passed. -/
def enforceLimits (now : Time) (state : InvestigationState) : Option Escalation :=
  let row := state.investigation
  (overWallClock now row).or ((overTokens row).or ((overIterations row).or
    ((overInvalidTurns row state.steps).or (overBackendFailures row state.steps))))

/-! ## The records the engine makes -/

def contextRecord (e : EngineEnv) (s : Store) (now : Time) (row : InvestigationRow) :
    StepRecord :=
  { kind := .context
    iteration := 0
    evidenceIds := (s.alert.evidenceRefs.filter (fun r => r.incidentId == row.incidentId)).map
      (·.id)
    fields :=
      [("context", e.buildContext s row now),
        ("tools", .list ((evidenceToolNames ++ decisionTools).map .str)),
        ("system_prompt", .str e.systemPrompt),
        ("prompt_version", (row.modelConfig.get? "prompt_version").getD .null),
        ("stable_prefix_digest", .str e.promptDigest),
        ("model", .object [("provider", .str row.modelProvider), ("name", .str row.modelName)])]
    lastAction := some "context built" }

def feedbackRecord (iteration : Nat) (text reason : String) : StepRecord :=
  { kind := .feedback, iteration, fields := [("text", .str text), ("reason", .str reason)] }

def noActionText (stopReason : String) : String :=
  (if stopReason = "max_tokens" then
    "Your response was cut off by the output limit before any tool call completed."
  else "Your turn made no tool call.") ++
  " Act only through tools: gather evidence, update hypotheses, conclude_investigation, " ++
  "or declare_inconclusive."

def turnRecord (iteration : Nat) (turn : ModelTurn) : StepRecord :=
  { kind := .modelTurn
    iteration
    fields := turn.fields
    latencyMs := some turn.latencyMs
    usage := tokenUsage turn.usage
    lastAction := some ("model turn " ++ toString iteration ++ ": " ++
      toString turn.actions.length ++ " tool call(s)") }

def errorRecord (iteration attempt : Nat) (error : ModelError) : StepRecord :=
  { kind := .modelError
    iteration
    fields := [("code", .str error.code), ("retryable", .bool error.retryable),
      ("attempt", .int attempt), ("message", .str (truncate error.message 300))] }

def invalidRecord (iteration : Nat) (call : InvalidCall) : StepRecord :=
  { kind := .invalidCall
    iteration
    fields := [("tool", .str call.name), ("error", .str call.error),
      ("observation", .str ("Rejected: " ++ call.error)), ("is_error", .bool true)]
    callId := some call.callId }

def refusedRecord (iteration : Nat) (request : ToolRequest) (code text : String) : StepRecord :=
  { kind := .toolCall
    iteration
    fields := [("tool", .str request.tool), ("arguments", .object request.arguments),
      ("ok", .bool false), ("error_code", .str code),
      ("observation", .str ("Not executed: " ++ text)), ("is_error", .bool true),
      ("counted", .bool false)]
    callId := some request.callId }

def optionalText (value : Option String) : Json := (value.map .str).getD .null

def toolRecord (iteration : Nat) (request : ToolRequest) (outcome : ToolOutcome) : StepRecord :=
  { kind := .toolCall
    iteration
    evidenceIds := outcome.evidenceIds
    fields := [("tool", .str request.tool), ("arguments", .object request.arguments),
      ("ok", .bool outcome.ok), ("error_code", optionalText outcome.errorCode),
      ("summary", optionalText outcome.summary), ("observation", .str outcome.observation),
      ("is_error", .bool !outcome.ok), ("counted", .bool outcome.counted)]
    callId := some request.callId
    latencyMs := some outcome.latencyMs
    toolCall := outcome.counted
    newEvidence := outcome.newEvidence
    lastAction := some (request.tool ++ " -> " ++
      (if outcome.ok then "ok" else outcome.errorCode.getD "None")) }

/-! ## Phases -/

/-- Where a run of the engine is, and what it keeps in memory there. -/
inductive Phase where
  /-- `claim` gave it this state. -/
  | claimed (state : InvestigationState)
  /-- It has recorded the context. -/
  | contextual
  /-- The top of the loop. -/
  | looping (toolset : ToolExecutor)
  | loaded (state : InvestigationState) (toolset : ToolExecutor)
  /-- It has recorded the budget notice of a new turn. -/
  | noticed (iteration : Nat) (finalReason : Option String) (toolset : ToolExecutor)
  | asking (state : InvestigationState) (iteration : Nat) (finalReason : Option String)
      (attempt : Nat) (toolset : ToolExecutor)
  /-- It has recorded the last failure of a model call. -/
  | failing (iteration : Nat) (reason detail : String)
  | acting (turn : Turn) (jobs : List Job) (toolset : ToolExecutor)
  /-- It has executed a tool request. -/
  | answering (turn : Turn) (request : ToolRequest) (outcome : ToolOutcome) (jobs : List Job)
      (toolset : ToolExecutor)
  /-- It has returned a status, or raised. -/
  | ended (status : Option InvestigationStatus)

/-- How a model, a tool and the model factory answer, when a step of the engine asks. -/
structure Replies where
  factory : Except String Unit := .ok ()
  model : Except ModelError ModelTurn
  tool : Backend

/-- One investigation and the engine that works on it. -/
structure Desk where
  id : Uuid
  engine : Engine

/-- The executor of a run that starts from this state. -/
def liveToolset (state : InvestigationState) : ToolExecutor :=
  .seeded
    { maxCalls := state.investigation.budget.maxToolCalls
      maxIdenticalCalls := state.investigation.budget.maxIdenticalToolCalls }
    ((priorCalls state.steps).map (fun call => (aliasOf call.1, call.2)))

/-- A command to incident-core: where it raises, the run ends. -/
def ifDone {α : Type} (s : Store) (outcome : Except DomainError (α × Store))
    (next : α → Phase) : Store × Phase :=
  match outcome with
  | .error _ => (s, .ended none)
  | .ok (a, s) => (s, next a)

def Desk.record (d : Desk) (now : Time) (s : Store) (record : StepRecord) (next : Phase) :
    Store × Phase :=
  ifDone s (recordStep now s d.id d.engine.owner
    { record with leaseSeconds := d.engine.leaseSeconds }) (fun _ => next)

def Desk.escalate (d : Desk) (now : Time) (s : Store) (iteration : Nat) (e : Escalation) :
    Store × Phase :=
  ifDone s (Incident.escalate now s d.id d.engine.owner iteration e)
    (fun _ => .ended (some e.outcome.toStatus))

def Desk.load (d : Desk) (s : Store) (next : InvestigationState → Phase) : Store × Phase :=
  match loadState s d.id with
  | .error _ => (s, .ended none)
  | .ok state => (s, next state)

def stateTerminal (state : InvestigationState) : Bool :=
  terminalInvestigationStatuses.contains state.investigation.status

/-- What the evidence service has incident-core register while a tool runs. -/
def registerFound (now : Time) (s : Store) (id : Uuid) : ToolResult → Store
  | .failure _ => s
  | .success item =>
    match s.investigation.investigations[id]? with
    | none => s
    | some row =>
      committed s (registerEvidenceRef now s
        { evidenceId := item.evidenceId
          incidentId := row.incidentId
          investigationId := some id
          evidenceType := item.evidenceType
          contentHash := item.contentHash
          sourceSystem := item.sourceSystem
          collectedAt := item.collectedAt })

def Desk.registering (d : Desk) (now : Time) (s : Store) (toolset : ToolExecutor)
    (backend : Backend) (request : ToolRequest) : Store :=
  if request.tool = getIncidentEvidence then s
  else registerFound now s d.id
    (toolset.execute backend (aliasOf request.tool) request.arguments).1

/-! ## The run -/

/-- One job of a turn; where it ends without ending the run, the next one follows. -/
def Desk.process (e : EngineEnv) (d : Desk) (now : Time) (s : Store) (backend : Backend)
    (turn : Turn) (jobs : List Job) (toolset : ToolExecutor) : Job → Store × Phase
  | .noAction stopReason =>
    d.record now s (feedbackRecord turn.iteration (noActionText stopReason) "no_action")
      (.acting turn jobs toolset)
  | .update call =>
    ifDone s (applyHypothesisUpdates now s d.id d.engine.owner turn.iteration call.callId
      call.batch) (fun _ => .acting turn jobs toolset)
  | .invalid call =>
    d.record now s (invalidRecord turn.iteration call) (.acting turn jobs toolset)
  | .request request =>
    match turn.refusal request with
    | some (code, text) =>
      d.record now s (refusedRecord turn.iteration request code text) (.acting turn jobs toolset)
    | none =>
      let (outcome, used) := executeTool e.compact toolset backend request.tool request.arguments
      (d.registering now s toolset backend request, .answering turn request outcome jobs used)
  | .conclude call =>
    ifDone s (complete e.env now s d.id d.engine.owner turn.iteration call.callId call.result)
      (fun outcome => if outcome.accepted then .ended (some .completed)
        else .acting turn jobs toolset)
  | .declare call =>
    d.escalate now s turn.iteration
      { outcome := .escalated
        reasonCode := "inconclusive"
        detail := call.declaration.reason
        inconclusiveReason := some call.declaration.reason
        evidenceGaps := call.declaration.evidenceGaps
        callId := some call.callId }

/-- The top of an iteration, with the state just loaded. -/
def Desk.iterate (e : EngineEnv) (d : Desk) (now : Time) (s : Store) (state : InvestigationState)
    (toolset : ToolExecutor) : Store × Phase :=
  let row := state.investigation
  match outstanding e.schemas state.steps with
  | some (last, jobs) =>
    (s, .acting (.of row last.iteration (resumedReason row last)) jobs toolset)
  | none =>
    match enforceLimits now state with
    | some escalation => d.escalate now s row.iterationCount escalation
    | none =>
      let iteration := row.iterationCount + 1
      let finalReason := finalTurnReason row iteration false
      d.record now s (feedbackRecord iteration (budgetNotice row iteration finalReason) "budget")
        (.noticed iteration finalReason toolset)

/-- What a failed attempt leads to. -/
def Desk.afterError (d : Desk) (state : InvestigationState) (iteration : Nat)
    (finalReason : Option String) (attempt : Nat) (toolset : ToolExecutor) (error : ModelError) :
    Phase :=
  if !error.retryable || attempt == d.engine.attempts then
    .failing iteration (if error.retryable then "model_unavailable" else "model_error")
      (error.code ++ " after " ++ toString attempt ++ " attempt(s)")
  else .asking state iteration finalReason (attempt + 1) toolset

def decisionJobs (schemas : Schemas) (turn : ModelTurn) : List Job :=
  jobsOf (interpretTurn schemas turn.text turn.actions evidenceToolNames) turn.stopReason.value

/-- From one command to the next. -/
def Desk.work (e : EngineEnv) (d : Desk) (now : Time) (replies : Replies) (s : Store) :
    Phase → Store × Phase
  | .claimed state =>
    match replies.factory with
    | .error text =>
      d.escalate now s state.investigation.iterationCount
        { outcome := .failed, reasonCode := "model_config_error", detail := truncate text 300 }
    | .ok () =>
      if state.steps.any (fun step => step.kind == .context) then
        (s, .looping (liveToolset state))
      else
        match s.incidents[state.investigation.incidentId]? with
        | none => (s, .ended none)
        | some _ => d.record now s (contextRecord e s now state.investigation) .contextual
  | .contextual => d.load s (fun state => .looping (liveToolset state))
  | .looping toolset =>
    d.load s (fun state =>
      if stateTerminal state then .ended (some state.investigation.status)
      else .loaded state toolset)
  | .loaded state toolset => d.iterate e now s state toolset
  | .noticed iteration finalReason toolset =>
    d.load s (fun state => .asking state iteration finalReason 1 toolset)
  | .asking state iteration finalReason attempt toolset =>
    if d.engine.attempts < attempt then (s, .ended none)
    else
      match replies.model with
      | .error error =>
        d.record now s (errorRecord iteration attempt error)
          (d.afterError state iteration finalReason attempt toolset error)
      | .ok turn =>
        d.record now s (turnRecord iteration turn)
          (.acting (.of state.investigation iteration finalReason)
            (decisionJobs e.schemas turn) toolset)
  | .failing iteration reason detail =>
    d.escalate now s iteration { outcome := .failed, reasonCode := reason, detail }
  | .acting turn [] toolset =>
    match turn.finalReason with
    | some reason => d.escalate now s turn.iteration (finalTurnOver reason)
    | none => (s, .looping toolset)
  | .acting turn (job :: jobs) toolset =>
    d.process e now s replies.tool turn jobs toolset job
  | .answering turn request outcome jobs toolset =>
    d.record now s (toolRecord turn.iteration request outcome)
      (.acting (turn.spend outcome) jobs toolset)
  | .ended status => (s, .ended status)

/-- The request that a run in this phase sends to its model. -/
def requestOf (e : EngineEnv) (state : InvestigationState) : DecisionRequest :=
  { systemPrompt := e.systemPrompt, transcript := buildTranscript e.renderContext state.steps }

end IncidentTriage.Agents
