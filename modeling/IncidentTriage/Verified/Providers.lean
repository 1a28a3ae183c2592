import IncidentTriage.Agents.Claude
import IncidentTriage.Agents.OpenAICompatible
import IncidentTriage.Verified.Answers

/-! # The dialogue that a provider is sent

What the engine answers are the calls in a turn's actions; what is replayed are those in
its stored payload.  Where the two agree, every request holds a dialogue in which each
call of an assistant message is answered once before the next.
-/

namespace IncidentTriage.Verified

open IncidentTriage.Python IncidentTriage.Domain IncidentTriage.Incident IncidentTriage.Tools
  IncidentTriage.Agents IncidentTriage.Dialogue

/-! ## The turns of a run -/

/-- Every turn of a trace is one the model may give. -/
def TurnsFrom (given : ModelTurn → Prop) (steps : List InvestigationStepRow) : Prop :=
  ∀ step ∈ steps, isModelTurn step = true →
    ∃ ids turn, step.payload = .worker ids turn.fields ∧ given turn

/-- The model gives such a turn where it is asked. -/
def Gives (given : ModelTurn → Prop) (_ : Ledger) (p : Phase) (replies : Replies) : Prop :=
  asksModel p = true → ∀ turn ∈ replies.model.toOption, given turn

/-- What the model is shown was answered, and comes from its turns. -/
def AskedWith (given : ModelTurn → Prop) : Phase → Prop
  | .asking state _ _ _ _ =>
    openAfter [] (traceMarks state.steps) = some [] ∧ TurnsFrom given state.steps
  | _ => True

section
variable {given : ModelTurn → Prop} {e : EngineEnv} {d : Desk} {now : Time} {replies : Replies}
  {s : Store} {l l' : Ledger} {p p' : Phase}

theorem TurnsFrom.concat {steps : List InvestigationStepRow} {step : InvestigationStepRow}
    (turns : TurnsFrom given steps)
    (last : isModelTurn step = true →
      ∃ ids turn, step.payload = .worker ids turn.fields ∧ given turn) :
    TurnsFrom given (steps ++ [step]) := by
  intro other member isTurn
  rcases List.mem_append.mp member with old | new
  · exact turns other old isTurn
  · obtain rfl := List.mem_singleton.mp new
    exact last isTurn

/-- A record that is no turn. -/
theorem TurnsFrom.wroteBy (turns : TurnsFrom given l.steps) {record : StepRecord}
    (noTurn : record.kind ≠ .modelTurn) :
    TurnsFrom given (wroteBy d now l record).steps :=
  turns.concat fun isTurn => absurd (beq_iff_eq.mp isTurn) noTurn

theorem DeskMove.turnsFrom (move : DeskMove e d now replies s l p l' p')
    (gives : Gives given l p replies) (turns : TurnsFrom given l.steps) :
    TurnsFrom given l'.steps := by
  cases move with
  | raises | rests | resumes | introduced | finds | loads | takesUp | prepares | returns
    | executes => exact turns
  | closes p status l' held final =>
    obtain ⟨iteration, payload, callId, steps⟩ := final.steps
    rw [steps]
    exact turns.concat fun isTurn => by cases isTurn
  | introduces state held => exact turns.wroteBy (by simp [contextRecord])
  | announces state x nothing within held => exact turns.wroteBy (by simp [feedbackRecord])
  | fails state iteration finalReason attempt x error more answer held =>
    exact turns.wroteBy (by simp [errorRecord])
  | hears state iteration finalReason attempt x turn more answer held =>
    refine turns.concat fun _ => ⟨[], turn, rfl, gives rfl turn ?_⟩
    rw [answer]
    rfl
  | notes turn jobs x stopReason held => exact turns.wroteBy (by simp [feedbackRecord])
  | applies turn jobs x call row payload accounts holder held =>
    exact turns.concat fun isTurn => by cases isTurn
  | rejects turn jobs x call held => exact turns.wroteBy (by simp [invalidRecord])
  | refuses turn jobs x request code text refused held =>
    exact turns.wroteBy (by simp [refusedRecord])
  | answers turn jobs x request outcome held => exact turns.wroteBy (by simp [toolRecord])
  | unmet turn jobs x call row payload accounts holder held =>
    exact turns.concat fun isTurn => by cases isTurn

/-- The worker that has the lease asks with a trace in which nothing waits. -/
theorem DeskMove.askedWith (move : DeskMove e d now replies s l p l' p') (todo : ToDo l p)
    (turns : TurnsFrom given l.steps) (asked : AskedWith given p) : AskedWith given p' := by
  cases move with
  | prepares iteration finalReason x state loaded =>
    refine ⟨?_, ?_⟩
    · rw [loaded.steps]
      exact todo.2
    · rw [loaded.steps]
      exact turns
  | fails state iteration finalReason attempt x error more answer held =>
    obtain ⟨reason, detail, gaveUp⟩ | again :=
      afterError_cases d state iteration finalReason attempt x error
    · rw [gaveUp]
      trivial
    · rw [again]
      exact asked
  | _ => trivial

theorem turns_kept (e : EngineEnv) (id : Uuid)
    (distinct : ∀ turn, given turn → (turn.actions.map (·.callId)).Nodup) :
    Keeps e id (Gives given) (fun l => WellTraced l ∧ TurnsFrom given l.steps)
      (fun l p => ToDo l p ∧ AskedWith given p) where
  claimed good claimed loaded := by
    obtain ⟨sound, todo⟩ := (calls_answered_kept e id).claimed good.1 claimed loaded
    refine ⟨⟨sound, ?_⟩, todo, trivial⟩
    rw [claimed.steps]
    exact good.2
  moved own held good memory gives move := by
    obtain ⟨sound, turns⟩ := good
    obtain ⟨todo, asked⟩ := memory
    obtain ⟨sound', todo'⟩ := (calls_answered_kept e id).moved own held sound todo
      (fun asks turn member => distinct turn (gives asks turn member)) move
    exact ⟨⟨sound', move.turnsFrom gives turns⟩,
      fun live => ⟨todo' live, move.askedWith todo turns asked⟩⟩

end

/-! ## The transcript of such a run -/

/-- An assistant entry that replays a turn of the model. -/
def Replays (given : ModelTurn → Prop) : TranscriptEntry → Prop
  | .assistant _ actions providerPayload =>
    ∃ turn, given turn ∧ actions = turn.actions ∧ providerPayload = turn.providerPayload
  | _ => True

section
variable {given : ModelTurn → Prop}

theorem TranscriptDraft.replays_flush {draft : TranscriptDraft}
    (replays : ∀ entry ∈ draft.entries, Replays given entry) :
    ∀ entry ∈ draft.flush.entries, Replays given entry := by
  unfold TranscriptDraft.flush
  split_ifs
  · exact replays
  · intro entry member
    rcases List.mem_append.mp member with old | new
    · exact replays entry old
    · obtain rfl := List.mem_singleton.mp new
      trivial

theorem TranscriptDraft.replays_read (renderContext : Json → String) {draft : TranscriptDraft}
    {step : InvestigationStepRow} (replays : ∀ entry ∈ draft.entries, Replays given entry)
    (turn : isModelTurn step = true → ∃ ids turn, step.payload = .worker ids turn.fields ∧
      given turn) :
    ∀ entry ∈ (draft.read renderContext step).entries, Replays given entry := by
  unfold Agents.TranscriptDraft.read
  split_ifs with context isTurn
  · intro entry member
    rcases List.mem_append.mp member with old | new
    · exact replays entry old
    · obtain rfl := List.mem_singleton.mp new
      trivial
  · intro entry member
    rcases List.mem_append.mp member with old | new
    · exact TranscriptDraft.replays_flush replays entry old
    · obtain rfl := List.mem_singleton.mp new
      obtain ⟨ids, given_, payload, holds⟩ := turn (beq_iff_eq.mpr isTurn)
      refine ⟨given_, holds, ?_, ?_⟩
      · rw [payload, recordedActions_fields]
      · rw [payload, objectField_providerPayload]
  · exact replays
  · exact replays
  · exact replays

theorem replays_buildTranscript (renderContext : Json → String) {steps : List InvestigationStepRow}
    (turns : TurnsFrom given steps) :
    ∀ entry ∈ buildTranscript renderContext steps, Replays given entry := by
  have each : ∀ draft : TranscriptDraft, (∀ entry ∈ draft.entries, Replays given entry) →
      ∀ entry ∈ (steps.foldl (TranscriptDraft.read renderContext) draft).entries,
        Replays given entry := by
    induction steps with
    | nil => exact fun draft replays => replays
    | cons step steps ih =>
      intro draft replays
      refine ih (fun other member => turns other (List.mem_cons_of_mem _ member)) _ ?_
      exact TranscriptDraft.replays_read renderContext replays (turns step (by simp))
  exact TranscriptDraft.replays_flush (each {} fun entry member => by cases member)

end

/-! ## An adapter in step with the engine -/

/-- What an adapter sends for a transcript of its own turns has the dialogue of the
transcript, and its turns name their calls, each by a name of its own. -/
structure InStepWith (given : ModelTurn → Prop)
    (dialogue : DecisionRequest → Option (List (Mark String))) : Prop where
  distinct : ∀ turn, given turn → (turn.actions.map (·.callId)).Nodup
  named : ∀ turn, given turn → ∀ action ∈ turn.actions, action.callId ≠ ""
  replayed : ∀ request : DecisionRequest, (∀ entry ∈ request.transcript, Replays given entry) →
    dialogue request = some (transcriptMarks request.transcript)

/-- The state that the model is asked with. -/
def askedState : Phase → Option InvestigationState
  | .asking state _ _ _ _ => some state
  | _ => none

/-- The requests of the workers that have the lease hold a dialogue in which nothing is open. -/
def RequestsWellFormed (e : EngineEnv) (id : Uuid)
    (dialogue : DecisionRequest → Option (List (Mark String))) (w : Workshop) : Prop :=
  ∀ l ∈ ledgerOf w.store id, ∀ worker ∈ w.workers, l.heldBy worker.engine.owner →
    ∀ state ∈ askedState worker.phase,
      (dialogue (requestOf e state)).bind (openAfter []) = some []

instance (e : EngineEnv) (id : Uuid) (dialogue : DecisionRequest → Option (List (Mark String)))
    (w : Workshop) : Decidable (RequestsWellFormed e id dialogue w) :=
  inferInstanceAs (Decidable (∀ l ∈ ledgerOf w.store id, ∀ worker ∈ w.workers, _ → ∀ state ∈ _, _))

/-- In a dialogue that never asks a name no answer to it is dropped. -/
theorem traceMarks_named {given : ModelTurn → Prop} {steps : List InvestigationStepRow}
    {left : List String} (turns : TurnsFrom given steps)
    (named : ∀ turn, given turn → ∀ action ∈ turn.actions, action.callId ≠ "")
    (read : openAfter [] (traceMarks steps) = some left) :
    dropAnswers "" (traceMarks steps) = traceMarks steps := by
  refine dropAnswers_unasked (fun ids member empty => ?_) List.not_mem_nil read
  obtain ⟨step, present, mark⟩ := List.mem_filterMap.mp member
  obtain ⟨isTurn, rfl⟩ := stepMark_asked mark
  obtain ⟨_, turn, payload, holds⟩ := turns step present isTurn
  rw [payload, recordedActions_fields] at empty
  obtain ⟨action, asked, nameless⟩ := List.mem_map.mp empty
  exact named turn holds action asked nameless

theorem requests_wellFormed (e : EngineEnv) {id : Uuid} {s : Store} {l : Ledger}
    (opened : Opened s id l) {given : ModelTurn → Prop}
    {dialogue : DecisionRequest → Option (List (Mark String))}
    (inStep : InStepWith given dialogue) {events : List WorkEvent}
    (met : Machine.StepsMeet (NextMove (Gives given) id) (Workshop.step e id)
      { store := s, workers := [] } events) :
    RequestsWellFormed e id dialogue (workshopFrom e id s events) := by
  have start : WellTraced l ∧ TurnsFrom given l.steps := by
    refine ⟨opened.wellTraced, ?_⟩
    rw [opened.steps]
    exact fun step member => by cases member
  obtain ⟨⟨l', here, _, memory⟩, _⟩ :=
    workshop_synced (turns_kept e id inStep.distinct) opened.here start met
  intro l'' here' worker member held state asking
  obtain rfl := Option.some.inj (here.symm.trans here')
  obtain ⟨k, _, row⟩ := List.getElem_of_mem member
  have found : (workshopFrom e id s events).workers[k]? = some worker :=
    List.getElem?_eq_some_iff.mpr ⟨_, row⟩
  cases phase : worker.phase with
  | asking held_ iteration finalReason attempt x =>
    rw [phase] at asking
    cases asking
    have live : worker.phase.live = true := by
      rw [phase]
      rfl
    obtain ⟨_, asked⟩ := memory k worker found live held
    rw [phase] at asked
    obtain ⟨read, turns⟩ := asked
    rw [inStep.replayed (requestOf e _) (replays_buildTranscript _ turns), Option.bind_some,
      requestOf, transcriptMarks_buildTranscript, traceMarks_named turns inStep.named read]
    exact read
  | _ =>
    rw [phase] at asking
    cases asking

/-- Where every turn is one the model may give, it gives no other. -/
theorem stepsMeet_gives {e : EngineEnv} {id : Uuid} {given : ModelTurn → Prop} {w : Workshop}
    {events : List WorkEvent}
    (each : ∀ k now replies, WorkEvent.work k now replies ∈ events →
      ∀ turn ∈ replies.model.toOption, given turn) :
    Machine.StepsMeet (NextMove (Gives given) id) (Workshop.step e id) w events := by
  induction events generalizing w with
  | nil => trivial
  | cons event events ih =>
    refine ⟨?_, ih fun k now replies member => each k now replies (List.mem_cons_of_mem _ member)⟩
    cases event with
    | work k now replies =>
      exact fun _ _ _ _ _ _ _ turn answer => each k now replies List.mem_cons_self turn answer
    | _ => trivial

/-! ## The messages of the Claude adapter -/

/-- A text of an object of one type. -/
def typedText (type key : String) : Json → Option String
  | .object fields =>
    match Dict.get? fields "type", Dict.get? fields key with
    | some (.str found), some (.str text) => if found = type then some text else none
    | _, _ => none
  | _ => none

/-- The texts of a message's blocks of one type. -/
def blockTexts (type key : String) : Json → List String
  | .list blocks => blocks.filterMap (typedText type key)
  | _ => []

/-- The calls of an assistant message, and the results in another one. -/
def claudeMarks (message : Claude.Message) : List (Mark String) :=
  if message.role = "assistant" then [.asked (blockTexts "tool_use" "id" message.content)]
  else (blockTexts "tool_result" "tool_use_id" message.content).map .answered

def claudeDialogue (request : DecisionRequest) : Option (List (Mark String)) :=
  (Claude.renderMessages request).map (fun messages => messages.flatMap claudeMarks)

def toolUseId : Claude.Block → Option String
  | .toolUse id _ _ => some id
  | _ => none

/-- The calls of a response. -/
def toolUseIds (response : Claude.Response) : List String := response.content.filterMap toolUseId

/-- The calls have identifiers of their own, and none is in a truncated response. -/
def ClaudeSound (response : Claude.Response) : Prop :=
  (toolUseIds response).Nodup ∧ "" ∉ toolUseIds response ∧
    (Claude.truncated response = true → toolUseIds response = [])

/-- A turn from such a response. -/
def claudeGiven (a : Claude.Adapter) (turn : ModelTurn) : Prop :=
  ∃ request latencyMs response, a.decide request latencyMs (.ok response) = .ok turn ∧
    ClaudeSound response

section
variable {a : Claude.Adapter} {turn : ModelTurn}

theorem eq_of_claudeDecide {request : DecisionRequest} {latencyMs : Nat}
    {response : Claude.Response} (decided : a.decide request latencyMs (.ok response) = .ok turn) :
    turn.actions = Claude.actionsOf a response ∧
      turn.providerPayload = Claude.providerPayload response := by
  simp only [Claude.Adapter.decide] at decided
  split_ifs at decided with refused
  cases decided
  exact ⟨rfl, rfl⟩

/-- What the engine is given to answer are the calls of the response. -/
theorem callIds_claude {response : Claude.Response} (sound : ClaudeSound response) :
    (Claude.actionsOf a response).map (·.callId) = toolUseIds response := by
  unfold Claude.actionsOf
  split_ifs with truncated
  · rw [sound.2.2 truncated]
    rfl
  · rw [toolUseIds, List.map_filterMap]
    refine List.filterMap_congr fun block _ => ?_
    cases block <;> rfl

/-- What is replayed to the model are the calls of the response. -/
theorem blockTexts_claude (response : Claude.Response) :
    blockTexts "tool_use" "id" (.list (response.content.filterMap Claude.blockParam)) =
      toolUseIds response := by
  rw [blockTexts, List.filterMap_filterMap, toolUseIds]
  refine List.filterMap_congr fun block _ => ?_
  cases block <;> rfl

theorem blockTexts_observation (results : List ToolResultEntry) (notices : List String) :
    blockTexts "tool_result" "tool_use_id"
        (.list (results.map Claude.toolResult ++ notices.map Claude.noticeText)) =
      results.map (·.callId) := by
  have answered : ∀ result : ToolResultEntry,
      typedText "tool_result" "tool_use_id" (Claude.toolResult result) = some result.callId :=
    fun result => rfl
  have silent : ∀ notice : String,
      typedText "tool_result" "tool_use_id" (Claude.noticeText notice) = none := fun notice => rfl
  rw [blockTexts, List.filterMap_append, List.filterMap_map, List.filterMap_map]
  have none : notices.filterMap (typedText "tool_result" "tool_use_id" ∘ Claude.noticeText) = [] :=
    List.filterMap_eq_nil_iff.mpr fun notice _ => silent notice
  rw [none, List.append_nil, ← List.filterMap_eq_map]
  exact List.filterMap_congr fun result _ => answered result

theorem claudeMarks_entry {entry : TranscriptEntry} (replays : Replays (claudeGiven a) entry) :
    ∃ messages, Claude.renderEntry entry = some messages ∧
      messages.flatMap claudeMarks = entryMarks entry := by
  cases entry with
  | context text => exact ⟨_, rfl, rfl⟩
  | assistant text actions providerPayload =>
    obtain ⟨turn, ⟨request, latencyMs, response, decided, sound⟩, rfl, rfl⟩ := replays
    obtain ⟨acts, stored⟩ := eq_of_claudeDecide decided
    refine ⟨[⟨"assistant", .list (response.content.filterMap Claude.blockParam)⟩], ?_, ?_⟩
    · rw [stored]
      rfl
    · rw [entryMarks, acts, callIds_claude sound, List.flatMap_singleton, claudeMarks, if_pos rfl,
        blockTexts_claude]
  | observation results notices =>
    refine ⟨_, rfl, ?_⟩
    split_ifs with empty
    · -- nothing is sent, and nothing was answered
      obtain ⟨none, _⟩ := List.append_eq_nil_iff.mp (List.isEmpty_iff.mp empty)
      rw [entryMarks, List.map_eq_nil_iff.mp none]
      rfl
    · rw [List.flatMap_singleton, claudeMarks,
        if_neg (show ¬ "user" = "assistant" by decide), blockTexts_observation, List.map_map]
      rfl

theorem claude_inStep (a : Claude.Adapter) : InStepWith (claudeGiven a) claudeDialogue where
  distinct := by
    rintro turn ⟨request, latencyMs, response, decided, sound⟩
    rw [(eq_of_claudeDecide decided).1, callIds_claude sound]
    exact sound.1
  named := by
    rintro turn ⟨request, latencyMs, response, decided, sound⟩ action acts empty
    rw [(eq_of_claudeDecide decided).1] at acts
    refine sound.2.1 ?_
    rw [← callIds_claude sound (a := a)]
    exact List.mem_map.mpr ⟨action, acts, empty⟩
  replayed := by
    intro request
    rw [claudeDialogue, Claude.renderMessages]
    induction request.transcript with
    | nil => exact fun _ => rfl
    | cons entry entries ih =>
      intro replays
      obtain ⟨messages, rendered, marks⟩ := claudeMarks_entry (replays entry (by simp))
      have rest := ih fun other member => replays other (List.mem_cons_of_mem _ member)
      obtain ⟨all, later, read⟩ := Option.map_eq_some_iff.mp rest
      obtain ⟨lists, mapped, rfl⟩ := Option.map_eq_some_iff.mp later
      rw [List.mapM_cons, rendered, mapped, transcriptMarks, List.flatMap_cons, ← marks]
      rw [transcriptMarks] at read
      rw [← read]
      simp

end

/-! ## The messages of the OpenAI-compatible adapter -/

/-- The name of a call, where it is a text. -/
def storedCallId : Json → Option String
  | .object call =>
    match Dict.get? call "id" with
    | some (.str id) => some id
    | _ => none
  | _ => none

def chatMarks (message : OpenAICompatible.Message) : List (Mark String) :=
  if message.role = "assistant" then
    [.asked ((message.toolCalls.getD []).filterMap storedCallId)]
  else if message.role = "tool" then [.answered (message.toolCallId.getD "")]
  else []

def chatDialogue (request : DecisionRequest) : Option (List (Mark String)) :=
  some ((OpenAICompatible.renderMessages request).flatMap chatMarks)

/-- The list of calls in a message. -/
def messageCalls (message : Dict) : List Json :=
  match message.get? "tool_calls" with
  | some (.list rawCalls) => rawCalls
  | _ => []

/-- The list of calls in the first choice of a body. -/
def rawCallsOf (data : Dict) : List Json :=
  match data.get? "choices" with
  | some (.list (.object choice :: _)) =>
    match Dict.get? choice "message" with
    | some (.object message) => messageCalls message
    | _ => []
  | _ => []

def repliedCalls : OpenAICompatible.Reply → List Json
  | .response _ (some (.object data)) => rawCallsOf data
  | _ => []

/-- The message of the first choice. -/
def messageOf (data : Dict) : Option Dict :=
  match data.get? "choices" with
  | some (.list (.object choice :: _)) =>
    match Dict.get? choice "message" with
    | some (.object message) => some message
    | _ => none
  | _ => none

def repliedMessage : OpenAICompatible.Reply → Option Dict
  | .response _ (some (.object data)) => messageOf data
  | _ => none

/-- The identifiers the calls of a reply are given: their own, or their place. -/
def chatCallIds (reply : OpenAICompatible.Reply) : List String :=
  (OpenAICompatible.objectCalls (repliedCalls reply)).map (fun call =>
    OpenAICompatible.callIdOf call.1 call.2)

/-- No two calls end up with one identifier. -/
def ChatSound (reply : OpenAICompatible.Reply) : Prop :=
  (chatCallIds reply).Nodup ∧ "" ∉ chatCallIds reply

def chatGiven (a : OpenAICompatible.Adapter) (turn : ModelTurn) : Prop :=
  ∃ request latencyMs reply, a.decide request latencyMs reply = .ok turn ∧ ChatSound reply

section
variable {a : OpenAICompatible.Adapter} {turn : ModelTurn}

theorem eq_of_readMessage {request : DecisionRequest} {latencyMs : Nat} {data choice message : Dict}
    (read : OpenAICompatible.readMessage a request latencyMs data choice message = .ok turn) :
    turn = OpenAICompatible.turnOf a request latencyMs data choice message
      (messageCalls message) := by
  simp only [OpenAICompatible.readMessage] at read
  split_ifs at read
  split at read
  · next rawCalls listed =>
    cases read
    rw [messageCalls, listed]
  · next value other listed =>
    split_ifs at read
    cases read
    have none : messageCalls message = [] := by
      unfold messageCalls
      split
      · next rawCalls found =>
        rw [listed, Option.some.injEq] at found
        exact absurd found (other rawCalls)
      · rfl
    rw [none]
  · next absent =>
    cases read
    rw [messageCalls, absent]

/-- A turn is made of the message and the calls of the first choice. -/
theorem eq_of_chatDecide {request : DecisionRequest} {latencyMs : Nat}
    {reply : OpenAICompatible.Reply} (decided : a.decide request latencyMs reply = .ok turn) :
    ∃ data choice message, repliedMessage reply = some message ∧ turn =
      OpenAICompatible.turnOf a request latencyMs data choice message (repliedCalls reply) := by
  simp only [OpenAICompatible.Adapter.decide] at decided
  split_ifs at decided
  rcases reply with name | name | ⟨status, body⟩
  · cases decided
  · cases decided
  simp only at decided
  split_ifs at decided
  split at decided
  · next body data =>
    split_ifs at decided
    simp only [OpenAICompatible.readChoices] at decided
    split at decided
    · next choice rest choices =>
      split_ifs at decided
      split at decided
      · next message found =>
        have calls : repliedCalls (.response status (some (.object data))) =
            messageCalls message := by
          simp only [repliedCalls, rawCallsOf, choices, found]
        refine ⟨data, choice, message, ?_, ?_⟩
        · simp only [repliedMessage, messageOf, choices, found]
        rw [calls]
        exact eq_of_readMessage decided
      · cases decided
    · cases decided
  · cases decided

/-- The turn is cut off by the output limit. -/
def cutOff (choice : Dict) : Bool :=
  OpenAICompatible.finishedBy (choice.get? "finish_reason") "length"

theorem callIds_chat (truncated : Bool) (reply : OpenAICompatible.Reply) :
    (OpenAICompatible.actionsOf a truncated (repliedCalls reply)).map (·.callId) =
      if truncated then [] else chatCallIds reply := by
  unfold OpenAICompatible.actionsOf
  split_ifs
  · rfl
  · rw [List.map_map]
    rfl

/-- What is replayed to the model are the calls the engine was given. -/
theorem storedCalls_chat (text : String) (truncated : Bool) (reply : OpenAICompatible.Reply) :
    ((OpenAICompatible.storedCalls (OpenAICompatible.storedMessage a text truncated
        (repliedCalls reply))).getD []).filterMap storedCallId =
      if truncated then [] else chatCallIds reply := by
  have stored : ∀ calls : List Json,
      (OpenAICompatible.storedCalls [("content", .str text), ("tool_calls", .list calls)]).getD [] =
        calls := by
    intro calls
    cases calls <;> rfl
  have named : ((OpenAICompatible.objectCalls (repliedCalls reply)).map (fun call =>
      OpenAICompatible.storedCall (OpenAICompatible.toolAction a.loads call.1 call.2) call.2)).filterMap
        storedCallId = chatCallIds reply := by
    rw [List.filterMap_map, chatCallIds, ← List.filterMap_eq_map]
    exact List.filterMap_congr fun call _ => rfl
  unfold OpenAICompatible.storedMessage
  cases truncated with
  | true =>
    rw [Bool.or_true]
    rfl
  | false =>
    rw [Bool.or_false, if_neg Bool.false_ne_true]
    split_ifs with empty
    · -- no call, none stored
      rw [chatCallIds, List.isEmpty_iff.mp empty]
      rfl
    · exact (congrArg _ (stored _)).trans named

theorem chatMarks_entry {entry : TranscriptEntry} (replays : Replays (chatGiven a) entry) :
    (OpenAICompatible.renderEntry entry).flatMap chatMarks = entryMarks entry := by
  cases entry with
  | context text => rfl
  | assistant text actions providerPayload =>
    obtain ⟨turn, ⟨request, latencyMs, reply, decided, sound⟩, rfl, rfl⟩ := replays
    obtain ⟨data, choice, message, -, rfl⟩ := eq_of_chatDecide decided
    have asked : (OpenAICompatible.actionsOf a (cutOff choice) (repliedCalls reply)).map
        (·.callId) = ((OpenAICompatible.storedCalls (OpenAICompatible.storedMessage a
          (OpenAICompatible.visibleText (message.get? "content")) (cutOff choice)
            (repliedCalls reply))).getD []).filterMap storedCallId := by
      rw [callIds_chat, storedCalls_chat]
    exact congrArg (fun ids => [Mark.asked ids]) asked.symm
  | observation results notices =>
    have answers : (results.map (fun result => OpenAICompatible.Message.mk "tool" result.content
        none (some result.callId))).flatMap chatMarks =
          results.map (fun result => .answered result.callId) := by
      rw [List.flatMap_map]
      exact List.flatMap_pure_eq_map _ results
    unfold OpenAICompatible.renderEntry
    rw [List.flatMap_append, answers, entryMarks]
    split_ifs
    · exact List.append_nil _
    · exact List.append_nil _

theorem chat_inStep (a : OpenAICompatible.Adapter) : InStepWith (chatGiven a) chatDialogue where
  distinct := by
    rintro turn ⟨request, latencyMs, reply, decided, sound⟩
    obtain ⟨data, choice, message, -, rfl⟩ := eq_of_chatDecide decided
    have ids := callIds_chat (a := a) (cutOff choice) reply
    refine (congrArg List.Nodup ids).mpr ?_
    split_ifs
    · exact List.nodup_nil
    · exact sound.1
  named := by
    rintro turn ⟨request, latencyMs, reply, decided, sound⟩ action acts empty
    obtain ⟨data, choice, message, -, rfl⟩ := eq_of_chatDecide decided
    have ids := callIds_chat (a := a) (cutOff choice) reply
    have member : "" ∈ (OpenAICompatible.actionsOf a (cutOff choice) (repliedCalls reply)).map
        (·.callId) := List.mem_map.mpr ⟨action, acts, empty⟩
    rw [ids] at member
    split_ifs at member
    · cases member
    · exact sound.2 member
  replayed := by
    intro request replays
    have each : ∀ entries : List TranscriptEntry, (∀ entry ∈ entries, Replays (chatGiven a) entry) →
        (entries.flatMap OpenAICompatible.renderEntry).flatMap chatMarks =
          transcriptMarks entries := by
      intro entries
      induction entries with
      | nil => exact fun _ => rfl
      | cons entry entries ih =>
        intro replays
        rw [List.flatMap_cons, List.flatMap_append, chatMarks_entry (replays entry (by simp)),
          ih fun other member => replays other (List.mem_cons_of_mem _ member)]
        rfl
    exact congrArg some (each request.transcript replays)

end

/-! ## Every run -/

/-- Whatever either provider answers, and wherever the workers crash: each request holds, for
every call of an assistant message, one result before the next, and no other result, as long
as the calls of a response have identifiers of their own and Claude is not cut off in one. -/
theorem dialogues_well_formed (e : EngineEnv) {id : Uuid} {s : Store} {l : Ledger}
    (opened : Opened s id l) :
    (∀ (a : Claude.Adapter) (events : List WorkEvent),
      Machine.StepsMeet (NextMove (Gives (claudeGiven a)) id) (Workshop.step e id)
        { store := s, workers := [] } events →
      RequestsWellFormed e id claudeDialogue (workshopFrom e id s events)) ∧
    (∀ (a : OpenAICompatible.Adapter) (events : List WorkEvent),
      Machine.StepsMeet (NextMove (Gives (chatGiven a)) id) (Workshop.step e id)
        { store := s, workers := [] } events →
      RequestsWellFormed e id chatDialogue (workshopFrom e id s events)) :=
  ⟨fun a _ met => requests_wellFormed e opened (claude_inStep a) met,
    fun a _ met => requests_wellFormed e opened (chat_inStep a) met⟩

def plainClaude : Claude.Adapter where
  cachesStablePrefix := false
  promptCaching := false
  minCacheableTokens := none
  stablePrefixDigest _ := ""
  stablePrefixChars _ := 0
  loads _ := none

/-- A response that asks for logs. -/
def logsResponse (stopReason : String) : Claude.Response where
  content := [.toolUse "c1" "get_logs" (.object [])]
  stopReason := some stopReason
  inputTokens := 1
  outputTokens := 1
  cacheReadInputTokens := none
  cacheCreationInputTokens := none
  model := "model"
  requestId := none

def plainChat : OpenAICompatible.Adapter where
  model := "model"
  stablePrefixDigest _ := ""
  stablePrefixChars _ := 0
  loads _ := none
  scrub text := text
  error _ _ := { code := "upstream_error", message := "", retryable := true }

/-- A message that asks for logs, under the identifiers given. -/
def logsReply (ids : List Json) : OpenAICompatible.Reply :=
  .response 200 (some (.object [("choices", .list [.object [("message", .object
    [("tool_calls", .list (ids.map (fun id => .object [("id", id),
      ("function", .object [("name", .str "get_logs")])])))])]])]))

def emptyRequest : DecisionRequest := { systemPrompt := "", transcript := [] }

/-- A worker up to the request for its second turn, each turn from one answer. -/
def askedTwice (n : Nat) (answer : Except ModelError ModelTurn) : List WorkEvent :=
  workerClaims "worker" ::
    List.replicate n (.work 0 11000000 { repliesOf [] with model := answer })

theorem askedTwice_gives {e : EngineEnv} {id : Uuid} {given : ModelTurn → Prop} {w : Workshop}
    {n : Nat} {answer : Except ModelError ModelTurn}
    (each : ∀ turn, answer = .ok turn → given turn) :
    Machine.StepsMeet (NextMove (Gives given) id) (Workshop.step e id) w (askedTwice n answer) := by
  refine stepsMeet_gives fun k now replies member turn answered => ?_
  rcases List.mem_cons.mp member with claims | works
  · cases claims
  · cases List.eq_of_mem_replicate works
    cases answer with
    | error error => cases answered
    | ok given_ =>
      cases answered
      exact each _ rfl

theorem dialogues_well_formed_logs :
    RequestsWellFormed deskEnv 0 claudeDialogue (workshopFrom deskEnv 0 (paymentsRequested {})
      (askedTwice 12 (plainClaude.decide emptyRequest 1 (.ok (logsResponse "tool_use"))))) ∧
    RequestsWellFormed deskEnv 0 chatDialogue (workshopFrom deskEnv 0 (paymentsRequested {})
      (askedTwice 14 (plainChat.decide emptyRequest 1 (logsReply [.str "c1", .null])))) := by
  obtain ⟨l, opened⟩ : ∃ l, Opened (paymentsRequested {}) 0 l :=
    Opened.of_counts (by decide +kernel)
  refine ⟨(dialogues_well_formed deskEnv opened).1 plainClaude _ (askedTwice_gives ?_),
    (dialogues_well_formed deskEnv opened).2 plainChat _ (askedTwice_gives ?_)⟩
  · intro turn decided
    exact ⟨_, _, _, decided, by decide, by decide, nofun⟩
  · intro turn decided
    exact ⟨_, _, _, decided, by decide, by decide⟩

/-- A call that the output limit cuts off is replayed, and nobody answers it. -/
theorem not_dialogues_well_formed :
    ¬ ∀ (e : EngineEnv) (id : Uuid) (s : Store) (l : Ledger) (a : Claude.Adapter)
      (events : List WorkEvent), Opened s id l →
      Machine.StepsMeet (NextMove (Gives (fun turn => ∃ request latencyMs response,
        a.decide request latencyMs (.ok response) = .ok turn ∧ (toolUseIds response).Nodup ∧
          "" ∉ toolUseIds response)) id) (Workshop.step e id) { store := s, workers := [] } events →
      RequestsWellFormed e id claudeDialogue (workshopFrom e id s events) := by
  intro wellFormed
  obtain ⟨l, opened⟩ : ∃ l, Opened (paymentsRequested {}) 0 l :=
    Opened.of_counts (by decide +kernel)
  have cut := wellFormed deskEnv 0 (paymentsRequested {}) l plainClaude
    (askedTwice 11 (plainClaude.decide emptyRequest 1 (.ok (logsResponse "max_tokens")))) opened
    (askedTwice_gives fun turn decided => ⟨_, _, _, decided, by decide, by decide⟩)
  exact absurd cut (by decide +kernel)

end IncidentTriage.Verified
