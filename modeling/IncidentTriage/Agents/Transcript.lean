import IncidentTriage.Agents.Toolset

/-! # The transcript and the streaks

Pure functions of the trace: what the model is shown of it, the calls it has already
made, and the streaks of bad turns and of backend failures at its end.
-/

namespace IncidentTriage.Agents

open IncidentTriage.Python IncidentTriage.Domain IncidentTriage.Incident IncidentTriage.Tools

/-- Step kinds that answer a tool call of the model. -/
def actionStepKinds : List StepKind :=
  [.toolCall, .hypothesisUpdate, .conclusionRejected, .invalidCall]

def isModelTurn (step : InvestigationStepRow) : Bool := step.kind == .modelTurn

def isActionStep (step : InvestigationStepRow) : Bool := actionStepKinds.contains step.kind

/-! ## What the model was told -/

/-- `repr` of a float with at most two digits. -/
def centsText (q : ℚ) : String :=
  let cents := (roundHalfEven (q * 100)).toNat
  let rest := cents % 100
  toString (cents / 100) ++ "." ++
    (if rest % 10 = 0 then toString (rest / 10) else twoDigits rest)

def confidenceJson (confidence : Option ℚ) : Json :=
  match confidence with
  | some q => .float { value := .finite q, text := centsText q }
  | none => .null

def appliedJson (a : AppliedUpdate) : Json :=
  .object [("key", .str a.key),
    ("from", ((a.fromStatus.map (fun status => Json.str status.value)).getD .null)),
    ("to", .str a.toStatus.value)]

def rejectedJson (r : RejectedUpdate) : Json :=
  .object [("key", .str r.key), ("problems", .list (r.problems.map .str))]

def hypothesisJson (h : HypothesisSnapshot) : Json :=
  .object [("key", .str h.key), ("status", .str h.status.value),
    ("confidence", confidenceJson h.confidence),
    ("supporting", .int h.supporting.length), ("contradicting", .int h.contradicting.length)]

/-- What the model was told for an action step, and whether as an error. -/
def observationFor (step : InvestigationStepRow) : String × Bool :=
  match step.kind, step.payload with
  | .toolCall, payload => (textField payload "observation" "", flagField payload "is_error")
  | .invalidCall, payload => (textField payload "observation" "", flagField payload "is_error")
  | .hypothesisUpdate, .hypothesisUpdate applied rejected hypotheses =>
    ("Hypothesis update result: " ++ Json.dumpsWith {} (.object
      [("applied", .list (applied.map appliedJson)),
        ("rejected", .list (rejected.map rejectedJson)),
        ("hypotheses", .list (hypotheses.map hypothesisJson))]), !rejected.isEmpty)
  | .conclusionRejected, .conclusionRejected unmet _ =>
    ("Conclusion not accepted. Unmet criteria: " ++ "; ".intercalate unmet, true)
  | _, _ => ("", false)

/-! ## The transcript -/

/-- What `build_transcript` carries: the entries, and the results and notices that wait
for the end of their observation. -/
structure TranscriptDraft where
  entries : List TranscriptEntry := []
  results : List ToolResultEntry := []
  notices : List String := []

def TranscriptDraft.flush (d : TranscriptDraft) : TranscriptDraft :=
  if d.results.isEmpty && d.notices.isEmpty then d
  else { entries := d.entries ++ [.observation d.results d.notices] }

def assistantEntry (step : InvestigationStepRow) : TranscriptEntry :=
  .assistant (textField step.payload "text" "") (recordedActions step.payload)
    (objectField step.payload "provider_payload")

def resultEntry (step : InvestigationStepRow) (callId : String) : ToolResultEntry :=
  { callId, content := (observationFor step).1, isError := (observationFor step).2 }

/-- The body of the loop over the trace. -/
def TranscriptDraft.read (renderContext : Json → String) (d : TranscriptDraft)
    (step : InvestigationStepRow) : TranscriptDraft :=
  if step.kind = .context then
    { d with entries := d.entries ++
        [.context (renderContext ((step.payload.field "context").getD .null))] }
  else if step.kind = .modelTurn then
    { d.flush with entries := d.flush.entries ++ [assistantEntry step] }
  else if isActionStep step && hasText step.callId then
    { d with results := d.results ++ [resultEntry step (step.callId.getD "")] }
  else if step.kind = .feedback then
    { d with notices := d.notices ++ [textField step.payload "text" ""] }
  else d

def buildTranscript (renderContext : Json → String) (steps : List InvestigationStepRow) :
    List TranscriptEntry :=
  (steps.foldl (TranscriptDraft.read renderContext) {}).flush.entries

/-! ## Calls already made, and streaks -/

def isCountedCall (step : InvestigationStepRow) : Bool :=
  step.kind == .toolCall && flagField step.payload "counted"

def callOf (step : InvestigationStepRow) : String × Dict :=
  (textField step.payload "tool" "", objectField step.payload "arguments")

def priorCalls (steps : List InvestigationStepRow) : List (String × Dict) :=
  (steps.filter isCountedCall).map callOf

/-- An answer other than `INVALID_CALL` was given in this iteration. -/
def answeredValidly (steps : List InvestigationStepRow) (iteration : Nat) : Bool :=
  steps.any (fun s => s.iteration == iteration && hasText s.callId && s.kind != .invalidCall)

/-- The turns without a valid action at the head of a list of turns. -/
def invalidStreak (steps : List InvestigationStepRow) : List InvestigationStepRow → Nat
  | [] => 0
  | turn :: earlier =>
    if (recordedActions turn.payload).isEmpty || !answeredValidly steps turn.iteration then
      invalidStreak steps earlier + 1
    else 0

/-- Consecutive most recent model turns that produced no valid action. -/
def trailingInvalidTurns (steps : List InvestigationStepRow) : Nat :=
  invalidStreak steps (steps.filter isModelTurn).reverse

/-- Tool failures that mean the evidence path itself is down. -/
def backendFailures : List String := ["backend_unavailable", "backend_timeout"]

def isBackendFailure (step : InvestigationStepRow) : Bool :=
  !flagField step.payload "ok" && backendFailures.contains (textField step.payload "error_code" "")

def trailingBackendFailures (steps : List InvestigationStepRow) : Nat :=
  (((steps.filter (fun s => s.kind == .toolCall)).reverse).takeWhile isBackendFailure).length

def budgetNotice (row : InvestigationRow) (iteration : Nat) (finalReason : Option String) :
    String :=
  let budget := row.budget
  "Budget: turn " ++ toString iteration ++ " of " ++ toString budget.maxIterations ++
    "; evidence tool calls " ++ toString row.toolCallCount ++ "/" ++
    toString budget.maxToolCalls ++ "; evidence items " ++ toString row.evidenceCount ++ "/" ++
    toString budget.maxEvidenceItems ++ "." ++
    (match finalReason with
      | some reason => " FINAL TURN (" ++ reason ++ "): evidence tools are disabled. Call " ++
          "conclude_investigation if the criteria are met; otherwise declare_inconclusive."
      | none => "")

end IncidentTriage.Agents
