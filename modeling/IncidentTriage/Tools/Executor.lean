import IncidentTriage.Domain.Turns

/-! # The tool executor

Runs tool calls for one investigation.  It counts the calls it made, and how often it
made each exact call; a call over one of the two budgets is refused before anything runs.
A transient failure of the backend is tried again, once.
-/

namespace IncidentTriage.Tools

open IncidentTriage.Python IncidentTriage.Domain

/-- The failures of the evidence service. -/
inductive EvidenceErrorKind where
  | evidenceError | invalidQuery | scopeViolation | incidentNotFound | evidenceNotFound
  | backendUnavailable | backendTimeout
  deriving DecidableEq

def EvidenceErrorKind.code : EvidenceErrorKind → String
  | .evidenceError => "evidence_error"
  | .invalidQuery => "invalid_argument"
  | .scopeViolation => "scope_violation"
  | .incidentNotFound => "incident_not_found"
  | .evidenceNotFound => "evidence_not_found"
  | .backendUnavailable => "backend_unavailable"
  | .backendTimeout => "backend_timeout"

def EvidenceErrorKind.retryable (kind : EvidenceErrorKind) : Bool :=
  kind == .backendUnavailable || kind == .backendTimeout

structure EvidenceError where
  kind : EvidenceErrorKind
  message : String

/-- An evidence record, and what the model is shown of it. -/
structure EvidenceItem where
  evidenceId : Uuid
  contentHash : String
  evidenceType : String
  sourceSystem : String
  subjectService : String
  observedAt : String
  collectedAt : Time
  summary : String
  data : Json
  operation : String

/-- How the evidence service behaves on one call: what the tool's schema says about the
arguments, what each attempt gives, and, for the listing of recorded evidence, the limit
it reads from the arguments and the records there are. -/
structure Backend where
  problems : List Problem := []
  attempts : Nat → Except EvidenceError EvidenceItem
  limit : Nat := 20
  records : Except EvidenceError (List EvidenceItem) := .ok []
  latencyMs : Nat := 0

structure ToolBudget where
  maxCalls : Nat := 20
  maxIdenticalCalls : Nat := 3
  maxAttemptsPerCall : Nat := 2

structure ToolErrorDetail where
  code : String
  message : String
  retryable : Bool := false

inductive ToolResult where
  | success (item : EvidenceItem)
  | failure (error : ToolErrorDetail)

/-- The names of the registered evidence tools. -/
def tools : List String :=
  ["get_metrics", "get_service_health", "get_logs", "get_trace", "get_traces", "get_deploys",
    "get_config_history", "get_git_diff", "get_recent_commits", "search_historical_incidents"]

def callKey (tool : String) (arguments : Dict) : String :=
  tool ++ ":" ++ canonicalJson (.object arguments)

/-- The counter of identical calls holds the key of every call, once for each time. -/
structure ToolExecutor where
  budget : ToolBudget
  calls : Nat := 0
  seen : List String := []

def ToolExecutor.counted (x : ToolExecutor) (tool : String) (arguments : Dict) : ToolExecutor :=
  { x with calls := x.calls + 1, seen := x.seen ++ [callKey tool arguments] }

/-- An executor that goes on from the calls already made in the investigation. -/
def ToolExecutor.seeded (budget : ToolBudget) (priorCalls : List (String × Dict)) :
    ToolExecutor :=
  priorCalls.foldl (fun x call => x.counted call.1 call.2) { budget }

/-- Why a call to a registered tool is not made, by the two budgets. -/
def ToolExecutor.overBudget (x : ToolExecutor) (tool : String) (arguments : Dict) :
    Option ToolErrorDetail :=
  if x.budget.maxCalls ≤ x.calls then
    some { code := "budget_exceeded"
           message := "tool call budget of " ++ toString x.budget.maxCalls ++ " spent" }
  else if x.budget.maxIdenticalCalls ≤ x.seen.count (callKey tool arguments) then
    some { code := "repeated_call"
           message := "this exact call was already made; try a different query" }
  else none

/-- The attempts of one call, from the one given on, with so many left. -/
def attemptCall (backend : Backend) : Nat → Nat → ToolResult
  | 0, _ => .failure { code := "unreachable", message := "unreachable" }
  | left + 1, attempt =>
    match backend.attempts attempt with
    | .ok item => .success item
    | .error e =>
      if e.kind.retryable ∧ left ≠ 0 then attemptCall backend left (attempt + 1)
      else .failure
        { code := e.kind.code, message := e.message, retryable := e.kind.retryable }

def ToolExecutor.execute (x : ToolExecutor) (backend : Backend) (tool : String)
    (arguments : Dict) : ToolResult × ToolExecutor :=
  if !tools.contains tool then
    if decisionTools.contains tool then
      (.failure { code := "decision_tool"
                  message := tool ++ " is handled by the investigation engine" }, x)
    else (.failure { code := "unknown_tool", message := "no tool named " ++ quoteRepr tool }, x)
  else
    match x.overBudget tool arguments with
    | some error => (.failure error, x)
    | none =>
      let x := x.counted tool arguments
      if backend.problems ≠ [] then
        (.failure { code := "invalid_argument", message := problemsText backend.problems }, x)
      else (attemptCall backend x.budget.maxAttemptsPerCall 1, x)

end IncidentTriage.Tools
