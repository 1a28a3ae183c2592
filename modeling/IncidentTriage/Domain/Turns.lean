import IncidentTriage.Domain.Investigation

/-! # Model turns and decisions

What a model answers with: the tool calls of one turn as it emitted them, and the
validated reading of them that `interpretTurn` makes.  Nothing invalid is dropped: it
becomes an `InvalidCall` that the model is told about.
-/

namespace IncidentTriage.Domain

open IncidentTriage.Python

/-- Argument of `declare_inconclusive`. -/
structure InconclusiveDeclaration where
  reason : String
  evidenceGaps : List String
  leadingHypothesisKey : Option String := none

def updateHypotheses : String := "update_hypotheses"

def concludeInvestigation : String := "conclude_investigation"

def declareInconclusive : String := "declare_inconclusive"

def decisionTools : List String := [updateHypotheses, concludeInvestigation, declareInconclusive]

/-- One tool call exactly as the model emitted it. -/
structure ModelAction where
  callId : String
  name : String
  arguments : Dict

structure ToolRequest where
  callId : String
  tool : String
  arguments : Dict

structure HypothesisUpdateCall where
  callId : String
  batch : HypothesisUpdateBatch

structure ConclusionCall where
  callId : String
  result : FinalInvestigationResult

structure InconclusiveCall where
  callId : String
  declaration : InconclusiveDeclaration

structure InvalidCall where
  callId : String
  name : String
  error : String

structure InvestigationDecision where
  rationale : String := ""
  hypothesisUpdates : List HypothesisUpdateCall := []
  toolRequests : List ToolRequest := []
  conclusion : Option ConclusionCall := none
  inconclusive : Option InconclusiveCall := none
  invalidCalls : List InvalidCall := []

def InvestigationDecision.hasActions (d : InvestigationDecision) : Bool :=
  !d.hypothesisUpdates.isEmpty || !d.toolRequests.isEmpty || d.conclusion.isSome ||
    d.inconclusive.isSome || !d.invalidCalls.isEmpty

/-- One complaint of a schema: where, and what. -/
structure Problem where
  loc : List String
  msg : String

/-- What the schemas of the decision tools make of a call's arguments. -/
structure Schemas where
  hypothesisUpdateBatch : Dict → Except (List Problem) HypothesisUpdateBatch
  finalInvestigationResult : Dict → Except (List Problem) FinalInvestigationResult
  inconclusiveDeclaration : Dict → Except (List Problem) InconclusiveDeclaration

/-- `'.'.join(loc) or '(root)'`, and the message. -/
def Problem.text (p : Problem) : String :=
  let path := ".".intercalate p.loc
  (if path.isEmpty then "(root)" else path) ++ ": " ++ p.msg

def problemsText (problems : List Problem) : String :=
  "; ".intercalate (problems.map Problem.text)

def errorText (problems : List Problem) : String := truncate (problemsText problems) 1500

def InvestigationDecision.invalid (d : InvestigationDecision) (action : ModelAction)
    (error : String) : InvestigationDecision :=
  { d with invalidCalls :=
      d.invalidCalls ++ [{ callId := action.callId, name := action.name, error }] }

def oneTerminalCall : String := "only one terminal call per turn"

/-- The body of the loop over the actions of a turn. -/
def interpretAction (schemas : Schemas) (evidenceToolNames : List String)
    (d : InvestigationDecision) (action : ModelAction) : InvestigationDecision :=
  if action.name = updateHypotheses then
    match schemas.hypothesisUpdateBatch action.arguments with
    | .error problems => d.invalid action (errorText problems)
    | .ok batch =>
      { d with hypothesisUpdates := d.hypothesisUpdates ++ [{ callId := action.callId, batch }] }
  else if action.name = concludeInvestigation then
    match schemas.finalInvestigationResult action.arguments with
    | .error problems => d.invalid action (errorText problems)
    | .ok result =>
      if d.conclusion.isSome || d.inconclusive.isSome then d.invalid action oneTerminalCall
      else { d with conclusion := some { callId := action.callId, result } }
  else if action.name = declareInconclusive then
    match schemas.inconclusiveDeclaration action.arguments with
    | .error problems => d.invalid action (errorText problems)
    | .ok declaration =>
      if d.conclusion.isSome || d.inconclusive.isSome then d.invalid action oneTerminalCall
      else { d with inconclusive := some { callId := action.callId, declaration } }
  else if evidenceToolNames.contains action.name then
    { d with toolRequests := d.toolRequests ++
        [{ callId := action.callId, tool := action.name, arguments := action.arguments }] }
  else d.invalid action ("unknown tool " ++ quoteRepr action.name)

def interpretTurn (schemas : Schemas) (text : String) (actions : List ModelAction)
    (evidenceToolNames : List String) : InvestigationDecision :=
  actions.foldl (interpretAction schemas evidenceToolNames) { rationale := truncate text 4000 }

/-- `_one_terminal`, which validates a decision when it is built. -/
def InvestigationDecision.oneTerminal (d : InvestigationDecision) :
    Except String InvestigationDecision :=
  if d.conclusion.isSome && d.inconclusive.isSome then
    .error "a turn cannot both conclude and declare inconclusive"
  else .ok d

/-- `interpret_turn`, with the exception that building the decision may raise. -/
def readTurn (schemas : Schemas) (text : String) (actions : List ModelAction)
    (evidenceToolNames : List String) : Except String InvestigationDecision :=
  (interpretTurn schemas text actions evidenceToolNames).oneTerminal

end IncidentTriage.Domain
