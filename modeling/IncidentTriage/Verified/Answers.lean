import IncidentTriage.Library.Dialogues
import IncidentTriage.Verified.Histories
import IncidentTriage.Verified.Openings

/-! # Every call is answered once

The trace of an investigation is a dialogue: a turn asks its calls, an action step answers
one.  The worker that has the lease has exactly the unanswered calls of the last turn to
do, and a resume reads the same calls off the trace.
-/

namespace IncidentTriage.Verified

open IncidentTriage.Python IncidentTriage.Domain IncidentTriage.Incident IncidentTriage.Tools
  IncidentTriage.Agents IncidentTriage.Dialogue

/-! ## The calls of a turn -/

/-- The call that a job answers. -/
def jobCall : Job → Option String
  | .noAction _ => none
  | .update call => some call.callId
  | .invalid call => some call.callId
  | .request request => some request.callId
  | .conclude call => some call.callId
  | .declare call => some call.callId

def callIds (jobs : List Job) : List String := jobs.filterMap jobCall

/-- The calls a decision is about. -/
def decisionCalls (d : InvestigationDecision) : List String :=
  d.hypothesisUpdates.map (·.callId) ++ d.invalidCalls.map (·.callId) ++
    d.toolRequests.map (·.callId) ++ d.conclusion.toList.map (·.callId) ++
    d.inconclusive.toList.map (·.callId)

theorem callIds_map {α : Type} (job : α → Job) (callId : α → String)
    (call : ∀ a, jobCall (job a) = some (callId a)) (calls : List α) :
    callIds (calls.map job) = calls.map callId := by
  rw [callIds, List.filterMap_map, ← List.filterMap_eq_map]
  exact List.filterMap_congr fun a _ => call a

theorem callIds_jobsOf (d : InvestigationDecision) (stopReason : String) :
    callIds (jobsOf d stopReason) = decisionCalls d := by
  unfold jobsOf
  split_ifs with acts
  · have append (jobs more : List Job) : callIds (jobs ++ more) = callIds jobs ++ callIds more :=
      List.filterMap_append
    rw [append, append, append, append, callIds_map .update (·.callId) (fun _ => rfl),
      callIds_map .invalid (·.callId) (fun _ => rfl),
      callIds_map .request (·.callId) (fun _ => rfl),
      callIds_map .conclude (·.callId) (fun _ => rfl),
      callIds_map .declare (·.callId) (fun _ => rfl)]
    rfl
  · simp only [InvestigationDecision.hasActions, Bool.or_eq_true, not_or, Bool.not_eq_true,
      Bool.not_eq_false', List.isEmpty_iff, Option.isSome_eq_false_iff,
      Option.isNone_iff_eq_none] at acts
    obtain ⟨⟨⟨⟨updates, requests⟩, conclusion⟩, inconclusive⟩, invalid⟩ := acts
    simp [decisionCalls, updates, requests, conclusion, inconclusive, invalid, callIds, jobCall]

/-- Each action becomes one part of the decision. -/
theorem count_interpretAction (schemas : Schemas) (names : List String)
    (d : InvestigationDecision) (action : ModelAction) (id : String) :
    (decisionCalls (interpretAction schemas names d action)).count id =
      (decisionCalls d).count id + [action.callId].count id := by
  have rejected (error : String) : (decisionCalls (d.invalid action error)).count id =
      (decisionCalls d).count id + [action.callId].count id := by
    simp only [decisionCalls, InvestigationDecision.invalid, List.map_append, List.count_append,
      List.map_cons, List.map_nil]
    omega
  unfold interpretAction
  by_cases update : action.name = updateHypotheses
  · rw [if_pos update]
    cases schemas.hypothesisUpdateBatch action.arguments with
    | error problems => exact rejected _
    | ok batch =>
      simp only [decisionCalls, List.map_append, List.count_append, List.map_cons, List.map_nil]
      omega
  by_cases conclude : action.name = concludeInvestigation
  · rw [if_neg update, if_pos conclude]
    cases schemas.finalInvestigationResult action.arguments with
    | error problems => exact rejected _
    | ok result =>
      simp only
      split_ifs with terminal
      · exact rejected _
      · simp only [Bool.or_eq_true, not_or, Bool.not_eq_true, Option.isSome_eq_false_iff,
          Option.isNone_iff_eq_none] at terminal
        simp only [decisionCalls, terminal.1, terminal.2, Option.toList_some, Option.toList_none,
          List.map_cons, List.map_nil, List.count_append, List.count_nil]
        omega
  by_cases declare : action.name = declareInconclusive
  · rw [if_neg update, if_neg conclude, if_pos declare]
    cases schemas.inconclusiveDeclaration action.arguments with
    | error problems => exact rejected _
    | ok declaration =>
      simp only
      split_ifs with terminal
      · exact rejected _
      · simp only [Bool.or_eq_true, not_or, Bool.not_eq_true, Option.isSome_eq_false_iff,
          Option.isNone_iff_eq_none] at terminal
        simp only [decisionCalls, terminal.1, terminal.2, Option.toList_some, Option.toList_none,
          List.map_cons, List.map_nil, List.count_append, List.count_nil]
  rw [if_neg update, if_neg conclude, if_neg declare]
  split_ifs with evidence
  · simp only [decisionCalls, List.map_append, List.count_append, List.map_cons, List.map_nil]
    omega
  · exact rejected _

theorem perm_interpretTurn (schemas : Schemas) (text : String) (actions : List ModelAction)
    (names : List String) :
    (decisionCalls (interpretTurn schemas text actions names)).Perm
      (actions.map (·.callId)) := by
  rw [List.perm_iff_count]
  intro id
  have each : ∀ d : InvestigationDecision,
      (decisionCalls (actions.foldl (interpretAction schemas names) d)).count id =
        (decisionCalls d).count id + (actions.map (·.callId)).count id := by
    induction actions with
    | nil => exact fun d => rfl
    | cons action actions ih =>
      intro d
      rw [List.foldl_cons, ih, count_interpretAction, List.map_cons, Nat.add_assoc,
        ← List.count_append]
      rfl
  exact (each _).trans (Nat.zero_add _)

theorem perm_callIds (schemas : Schemas) (text : String) (actions : List ModelAction)
    (names : List String) (stopReason : String) :
    (callIds (jobsOf (interpretTurn schemas text actions names) stopReason)).Perm
      (actions.map (·.callId)) := by
  rw [callIds_jobsOf]
  exact perm_interpretTurn schemas text actions names

/-! ## The dialogue in the trace -/

/-- A turn asks its calls, an action step answers the call it names. -/
def stepMark (step : InvestigationStepRow) : Option (Mark String) :=
  if isModelTurn step then some (.asked ((recordedActions step.payload).map (·.callId)))
  else if isActionStep step then step.callId.map .answered
  else none

def traceMarks (steps : List InvestigationStepRow) : List (Mark String) :=
  steps.filterMap stepMark

@[simp] theorem traceMarks_append (steps more : List InvestigationStepRow) :
    traceMarks (steps ++ more) = traceMarks steps ++ traceMarks more :=
  List.filterMap_append

theorem traceMarks_cons (step : InvestigationStepRow) (steps : List InvestigationStepRow) :
    traceMarks (step :: steps) = (stepMark step).toList ++ traceMarks steps := by
  rw [traceMarks, List.filterMap_cons]
  cases stepMark step <;> rfl

theorem traceMarks_turn {step : InvestigationStepRow} (turn : isModelTurn step = true)
    (steps : List InvestigationStepRow) :
    traceMarks (step :: steps) =
      .asked ((recordedActions step.payload).map (·.callId)) :: traceMarks steps := by
  rw [traceMarks_cons, stepMark, if_pos turn]
  rfl

/-- Steps without a turn among them only answer. -/
theorem onlyAnswers_traceMarks {steps : List InvestigationStepRow}
    (none : ∀ step ∈ steps, isModelTurn step = false) : OnlyAnswers (traceMarks steps) := by
  intro ids member
  obtain ⟨step, present, mark⟩ := List.mem_filterMap.mp member
  rw [stepMark, none step present] at mark
  by_cases action : isActionStep step = true
  · rw [if_neg Bool.false_ne_true, if_pos action, Option.map_eq_some_iff] at mark
    obtain ⟨id, _, asked⟩ := mark
    cases asked
  · rw [if_neg Bool.false_ne_true, if_neg action] at mark
    cases mark

/-- The calls that wait for an answer. -/
def waitingOf (l : Ledger) : Option (List String) := openAfter [] (traceMarks l.steps)

/-- A trace in which every turn is answered before the next. -/
structure WellTraced (l : Ledger) : Prop where
  sequences : l.steps.map (·.sequence) = List.range' 1 l.steps.length
  turns : (l.steps.filter isModelTurn).map (·.iteration) = List.range' 1 l.row.iterationCount
  dialogue : ∃ waiting, waitingOf l = some waiting
  /-- As long as the investigation goes on, only answers name calls. -/
  named : l.row.status ∉ terminalInvestigationStatuses →
    ∀ step ∈ l.steps, hasText step.callId = true → isActionStep step = true

/-! ## What a new step does to it -/

section grown

variable {l l' : Ledger} {step : InvestigationStepRow} {now : Time} {id : Uuid} {kind : StepKind}
  {iteration : Nat} {payload : StepPayload} {callId : Option String} {latencyMs : Option Nat}

theorem WellTraced.next_sequence (sound : WellTraced l) :
    (l.next now id kind iteration payload callId latencyMs).sequence = l.steps.length + 1 := by
  show nextSequence (l.steps.map (·.sequence)) = l.steps.length + 1
  rw [nextSequence, sound.sequences, foldl_max_range']

theorem sequences_concat (sound : WellTraced l) (sequence : step.sequence = l.steps.length + 1) :
    (l.steps ++ [step]).map (·.sequence) = List.range' 1 (l.steps ++ [step]).length := by
  rw [List.map_append, sound.sequences, List.length_append, List.range'_append_1.symm]
  simp [sequence, Nat.add_comm]

/-- A step that neither asks nor answers. -/
theorem WellTraced.silent (sound : WellTraced l) (steps : l'.steps = l.steps ++ [step])
    (sequence : step.sequence = l.steps.length + 1) (noTurn : isModelTurn step = false)
    (noAnswer : isActionStep step = false) (same : l'.row.iterationCount = l.row.iterationCount)
    (open_ : l'.row.status ∉ terminalInvestigationStatuses →
      l.row.status ∉ terminalInvestigationStatuses ∧ hasText step.callId = false) :
    WellTraced l' ∧ waitingOf l' = waitingOf l := by
  have mark : stepMark step = none := by simp [stepMark, noTurn, noAnswer]
  have waiting : waitingOf l' = waitingOf l := by
    rw [waitingOf, waitingOf, steps, traceMarks_append, traceMarks_cons, mark]
    exact congrArg (openAfter []) (List.append_nil _)
  refine ⟨⟨?_, ?_, ?_, ?_⟩, waiting⟩
  · rw [steps]
    exact sequences_concat sound sequence
  · rw [steps, List.filter_append, same]
    simpa [noTurn] using sound.turns
  · rw [waiting]
    exact sound.dialogue
  · intro goesOn other member named
    obtain ⟨before, unnamed⟩ := open_ goesOn
    rw [steps, List.mem_append, List.mem_singleton] at member
    rcases member with old | rfl
    · exact sound.named before other old named
    · rw [unnamed] at named
      cases named

/-- A step that answers a waiting call. -/
theorem WellTraced.answer (sound : WellTraced l) (steps : l'.steps = l.steps ++ [step])
    (sequence : step.sequence = l.steps.length + 1) (noTurn : isModelTurn step = false)
    (answers : isActionStep step = true) {call : String} (named : step.callId = some call)
    (same : l'.row.iterationCount = l.row.iterationCount) (status : l'.row.status = l.row.status)
    {waiting : List String} (read : waitingOf l = some waiting) (waits : call ∈ waiting) :
    WellTraced l' ∧ waitingOf l' = some (waiting.erase call) := by
  have mark : stepMark step = some (.answered call) := by
    simp [stepMark, noTurn, answers, named]
  have after : waitingOf l' = some (waiting.erase call) := by
    rw [waitingOf, steps, traceMarks_append, traceMarks_cons, mark]
    exact openAfter_append_eq_some.mpr ⟨waiting, read, openAfter_answered.mpr ⟨waits, rfl⟩⟩
  refine ⟨⟨?_, ?_, ⟨_, after⟩, ?_⟩, after⟩
  · rw [steps]
    exact sequences_concat sound sequence
  · rw [steps, List.filter_append, same]
    simpa [noTurn] using sound.turns
  · intro goesOn other member hasName
    rw [steps, List.mem_append, List.mem_singleton] at member
    rcases member with old | rfl
    · exact sound.named (status ▸ goesOn) other old hasName
    · exact answers

/-- A turn, where no call waits. -/
theorem WellTraced.turn (sound : WellTraced l) (steps : l'.steps = l.steps ++ [step])
    (sequence : step.sequence = l.steps.length + 1) (isTurn : isModelTurn step = true)
    (unnamed : step.callId = none)
    (count : step.iteration = l.row.iterationCount + 1 ∧
      l'.row.iterationCount = l.row.iterationCount + 1)
    (status : l'.row.status = l.row.status) (read : waitingOf l = some [])
    (nodup : ((recordedActions step.payload).map (·.callId)).Nodup) :
    WellTraced l' ∧ waitingOf l' = some ((recordedActions step.payload).map (·.callId)) := by
  have after : waitingOf l' = some ((recordedActions step.payload).map (·.callId)) := by
    rw [waitingOf, steps, traceMarks_append, traceMarks_turn isTurn]
    exact openAfter_append_eq_some.mpr ⟨[], read, openAfter_asked.mpr ⟨rfl, nodup, rfl⟩⟩
  refine ⟨⟨?_, ?_, ⟨_, after⟩, ?_⟩, after⟩
  · rw [steps]
    exact sequences_concat sound sequence
  · rw [steps, List.filter_append, count.2, List.map_append, sound.turns,
      List.range'_append_1.symm]
    simp [isTurn, count.1, Nat.add_comm]
  · intro goesOn other member hasName
    rw [steps, List.mem_append, List.mem_singleton] at member
    rcases member with old | rfl
    · exact sound.named (status ▸ goesOn) other old hasName
    · rw [unnamed] at hasName
      cases hasName

end grown

/-! ## What a resume reads off the trace -/

theorem exists_of_getLast?_filter {α : Type*} {p : α → Bool} {l : List α} {last : α}
    (found : (l.filter p).getLast? = some last) :
    ∃ before after, l = before ++ last :: after ∧ p last = true ∧ ∀ a ∈ after, p a = false := by
  obtain ⟨others, split⟩ := List.getLast?_eq_some_iff.mp found
  obtain ⟨before, rest, rfl, _, tail⟩ := List.filter_eq_append_iff.mp split
  obtain ⟨skipped, after, rfl, _, holds, none⟩ := List.filter_eq_cons_iff.mp tail
  refine ⟨before ++ skipped, after, by simp, holds, fun a member => ?_⟩
  exact Bool.eq_false_iff.mpr (List.filter_eq_nil_iff.mp none a member)

/-- By their numbers, the steps after a step are those that follow it. -/
theorem filter_sequence {before after : List InvestigationStepRow} {last : InvestigationStepRow}
    {n : Nat}
    (sequences : (before ++ last :: after).map (·.sequence) = List.range' 1 n) :
    (before ++ last :: after).filter (fun s => decide (last.sequence < s.sequence)) = after := by
  have ordered : ((before ++ last :: after).map (·.sequence)).Pairwise (· < ·) := by
    rw [sequences]
    exact List.pairwise_lt_range'
  rw [List.map_append, List.map_cons, List.pairwise_append, List.pairwise_cons] at ordered
  obtain ⟨_, ⟨later, _⟩, earlier⟩ := ordered
  have none : before.filter (fun s => decide (last.sequence < s.sequence)) = [] := by
    refine List.filter_eq_nil_iff.mpr fun s member => ?_
    have less := earlier s.sequence (List.mem_map_of_mem member) last.sequence (by simp)
    simp only [decide_eq_true_eq]
    omega
  have all : after.filter (fun s => decide (last.sequence < s.sequence)) = after := by
    refine List.filter_eq_self.mpr fun s member => ?_
    exact decide_eq_true (later s.sequence (List.mem_map_of_mem member))
  rw [List.filter_append, none, List.filter_cons_of_neg (by simp), all]
  rfl

/-- The last turn and what follows it. -/
theorem WellTraced.split_lastTurn {l : Ledger} (sound : WellTraced l) {last : InvestigationStepRow}
    {after : List InvestigationStepRow} (found : lastTurn l.steps = some (last, after)) :
    ∃ before, l.steps = before ++ last :: after ∧ isModelTurn last = true ∧
      ∀ step ∈ after, isModelTurn step = false := by
  unfold lastTurn at found
  split at found
  · cases found
  · rename_i turn isLast
    cases found
    obtain ⟨before, rest, split, isTurn, none⟩ := exists_of_getLast?_filter isLast
    have sequences := sound.sequences
    rw [split] at sequences ⊢
    rw [filter_sequence sequences]
    exact ⟨before, rfl, isTurn, none⟩

/-- Where the trace has no turn, nothing waits. -/
theorem WellTraced.waiting_of_noTurn {l : Ledger} (sound : WellTraced l)
    (none : lastTurn l.steps = none) : waitingOf l = some [] := by
  unfold lastTurn at none
  split at none
  · rename_i empty
    rw [List.getLast?_eq_none_iff, List.filter_eq_nil_iff] at empty
    obtain ⟨waiting, read⟩ := sound.dialogue
    have only : OnlyAnswers (traceMarks l.steps) :=
      onlyAnswers_traceMarks fun step member => Bool.eq_false_iff.mpr (empty step member)
    rw [read, left_of_onlyAnswers only read]
  · cases none

theorem mem_answeredIds {after : List InvestigationStepRow}
    (noTurn : ∀ step ∈ after, isModelTurn step = false)
    (named : ∀ step ∈ after, hasText step.callId = true → isActionStep step = true) (id : String) :
    some id ∈ answeredIds after ↔ id ∈ answersOf (traceMarks after) := by
  have filtered : after.filter (fun s => isActionStep s || hasText s.callId) =
      after.filter isActionStep := by
    refine List.filter_congr fun step member => ?_
    cases answers : isActionStep step with
    | true => rfl
    | false =>
      refine Bool.eq_false_iff.mpr fun text => ?_
      rw [named step member (by simpa using text)] at answers
      cases answers
  rw [answeredIds, filtered]
  constructor
  · intro answered
    obtain ⟨step, present, call⟩ := List.mem_map.mp answered
    obtain ⟨member, answers⟩ := List.mem_filter.mp present
    refine List.mem_filterMap.mpr ⟨.answered id, List.mem_filterMap.mpr ⟨step, member, ?_⟩, rfl⟩
    simp [stepMark, noTurn step member, answers, call]
  · intro answered
    obtain ⟨mark, present, call⟩ := List.mem_filterMap.mp answered
    obtain ⟨step, member, read⟩ := List.mem_filterMap.mp present
    rw [stepMark, noTurn step member, if_neg Bool.false_ne_true] at read
    split_ifs at read with answers
    obtain ⟨other, callId, rfl⟩ := Option.map_eq_some_iff.mp read
    obtain rfl := Option.some.inj call
    exact List.mem_map.mpr ⟨step, List.mem_filter.mpr ⟨member, answers⟩, callId⟩

/-- The pending actions of the last turn are the calls that wait. -/
theorem WellTraced.pending {l : Ledger} (sound : WellTraced l)
    (goesOn : l.row.status ∉ terminalInvestigationStatuses) {last : InvestigationStepRow}
    {after : List InvestigationStepRow} (found : lastTurn l.steps = some (last, after)) :
    waitingOf l = some ((pendingActions last after).map (·.callId)) := by
  obtain ⟨before, split, isTurn, noTurn⟩ := sound.split_lastTurn found
  obtain ⟨waiting, read⟩ := sound.dialogue
  have named : ∀ step ∈ after, hasText step.callId = true → isActionStep step = true := by
    intro step member
    exact sound.named goesOn step (by rw [split]; simp [member])
  have round := read
  rw [waitingOf, split, traceMarks_append, traceMarks_turn isTurn] at round
  rw [read, left_of_round (onlyAnswers_traceMarks noTurn) round, pendingActions, List.filter_map]
  refine congrArg some (congrArg (List.map _) (List.filter_congr fun action _ => ?_))
  refine congrArg (!·) (Bool.eq_iff_iff.mpr ?_)
  rw [List.contains_iff_mem, List.contains_iff_mem]
  exact (mem_answeredIds noTurn named action.callId).symm

/-- What a resume takes up are the calls that wait. -/
theorem WellTraced.perm_outstanding {l : Ledger} (sound : WellTraced l)
    (goesOn : l.row.status ∉ terminalInvestigationStatuses) {schemas : Schemas}
    {last : InvestigationStepRow} {jobs : List Job}
    (left : outstanding schemas l.steps = some (last, jobs)) :
    ∃ waiting, waitingOf l = some waiting ∧ (callIds jobs).Perm waiting := by
  unfold outstanding at left
  split at left
  · cases left
  · rename_i asked after found
    have read := sound.pending goesOn found
    refine ⟨_, read, ?_⟩
    split_ifs at left with silent handled none
    · cases left
      have nothing : pendingActions last after = [] := by
        rw [pendingActions, List.isEmpty_iff.mp silent]
        rfl
      rw [nothing, callIds_jobsOf]
      exact .refl _
    · cases left
      exact perm_callIds ..

theorem WellTraced.waiting_of_nothing {l : Ledger} (sound : WellTraced l)
    (goesOn : l.row.status ∉ terminalInvestigationStatuses) {schemas : Schemas}
    (nothing : outstanding schemas l.steps = none) : waitingOf l = some [] := by
  unfold outstanding at nothing
  split at nothing
  · rename_i none
    exact sound.waiting_of_noTurn none
  · rename_i asked after found
    rw [sound.pending goesOn found]
    split_ifs at nothing with silent handled none
    · rw [pendingActions, List.isEmpty_iff.mp silent]
      rfl
    · rw [List.isEmpty_iff.mp none]
      rfl

/-! ## What a worker has to do -/

/-- The calls of a turn are told apart by their identifiers. -/
def DistinctCalls (_ : Ledger) (p : Phase) (replies : Replies) : Prop :=
  asksModel p = true →
    ∀ turn ∈ replies.model.toOption, (turn.actions.map (·.callId)).Nodup

instance (l : Ledger) (p : Phase) (replies : Replies) : Decidable (DistinctCalls l p replies) :=
  inferInstanceAs (Decidable (_ → ∀ turn ∈ replies.model.toOption, _))

/-- What the holder of the lease has to do are the calls that wait. -/
def ToDo (l : Ledger) : Phase → Prop
  | .loaded state _ => Loaded l state
  | .noticed iteration _ _ | .asking _ iteration _ _ _ =>
    iteration = l.row.iterationCount + 1 ∧ waitingOf l = some []
  | .acting _ jobs _ => ∃ waiting, waitingOf l = some waiting ∧ (callIds jobs).Perm waiting
  | .answering _ request _ jobs _ =>
    ∃ waiting, waitingOf l = some waiting ∧ (request.callId :: callIds jobs).Perm waiting
  | .claimed _ | .contextual | .looping _ | .failing .. | .ended _ => True

section
variable {l : Ledger}

/-- A record that neither asks nor answers. -/
theorem WellTraced.wroteBy (sound : WellTraced l) (d : Desk) (now : Time) {record : StepRecord}
    (noTurn : record.kind ≠ .modelTurn) (noAnswer : actionStepKinds.contains record.kind = false)
    (unnamed : record.callId = none) :
    WellTraced (wroteBy d now l record) ∧
      waitingOf (Verified.wroteBy d now l record) = waitingOf l := by
  refine sound.silent rfl sound.next_sequence ?_ noAnswer ?_ fun goesOn => ⟨goesOn, ?_⟩
  · exact beq_eq_false_iff_ne.mpr noTurn
  · exact if_neg noTurn
  · show hasText record.callId = false
    rw [unnamed]
    rfl

theorem WellTraced.wroteFeedback (sound : WellTraced l) (d : Desk) (now : Time) (iteration : Nat)
    (text reason : String) :
    WellTraced (Verified.wroteBy d now l (feedbackRecord iteration text reason)) ∧
      waitingOf (Verified.wroteBy d now l (feedbackRecord iteration text reason)) = waitingOf l :=
  sound.wroteBy d now (by simp [feedbackRecord]) rfl rfl

/-- A step that answers the first of the calls to do. -/
theorem ToDo.answered (sound : WellTraced l) {l' : Ledger} {step : InvestigationStepRow}
    {call : String} {calls waiting : List String} (read : waitingOf l = some waiting)
    (todo : (call :: calls).Perm waiting) (steps : l'.steps = l.steps ++ [step])
    (sequence : step.sequence = l.steps.length + 1) (answers : step.kind ∈ actionStepKinds)
    (named : step.callId = some call) (same : l'.row.iterationCount = l.row.iterationCount)
    (status : l'.row.status = l.row.status) :
    WellTraced l' ∧ ∃ waiting, waitingOf l' = some waiting ∧ calls.Perm waiting := by
  obtain ⟨waits, rest⟩ := List.cons_perm_iff_perm_erase.mp todo
  have noTurn : isModelTurn step = false := by
    refine beq_eq_false_iff_ne.mpr fun turn => ?_
    rw [turn] at answers
    exact absurd answers (by decide)
  obtain ⟨sound', after⟩ := sound.answer steps sequence noTurn
    (List.contains_iff_mem.mpr answers) named same status read waits
  exact ⟨sound', _, after, rest⟩

end

theorem ToDo.wroteStep {l : Ledger} (sound : WellTraced l) {row : InvestigationRow} {call : String}
    {calls waiting : List String} {k : StepKind} (read : waitingOf l = some waiting)
    (todo : (call :: calls).Perm waiting) (accounts : SameAccounts l.row row)
    (holder : SameHolder l.row row) (answers : k ∈ actionStepKinds) (now : Time) (id : Uuid)
    (iteration : Nat) (payload : StepPayload) :
    WellTraced { row, steps := l.steps ++ [l.next now id k iteration payload (some call) none] } ∧
      ∃ waiting, waitingOf { row, steps := l.steps ++
        [l.next now id k iteration payload (some call) none] } = some waiting ∧
          calls.Perm waiting :=
  ToDo.answered sound read todo rfl sound.next_sequence answers rfl accounts.iterationCount
    holder.status

theorem ToDo.wroteBy {l : Ledger} (sound : WellTraced l) (d : Desk) (now : Time)
    (record : StepRecord) {call : String} {calls waiting : List String}
    (read : waitingOf l = some waiting) (todo : (call :: calls).Perm waiting)
    (kind : record.kind = .toolCall ∨ record.kind = .invalidCall)
    (named : record.callId = some call) :
    WellTraced (Verified.wroteBy d now l record) ∧
      ∃ waiting, waitingOf (Verified.wroteBy d now l record) = some waiting ∧
        calls.Perm waiting := by
  have answers : record.kind ∈ actionStepKinds := by
    rcases kind with kind | kind <;> simp [kind, actionStepKinds]
  refine ToDo.answered sound read todo rfl sound.next_sequence answers named (if_neg ?_) rfl
  rcases kind with kind | kind <;> simp [kind]

theorem notTerminal_of_heldBy {l : Ledger} {owner : String} (held : l.heldBy owner) :
    l.row.status ∉ terminalInvestigationStatuses := by
  rw [held.1]
  decide

theorem calls_answered_kept (e : EngineEnv) (id : Uuid) :
    Keeps e id DistinctCalls WellTraced ToDo where
  claimed := by
    intro owner l l' state sound claimed loaded
    have waiting : waitingOf l' = waitingOf l := by rw [waitingOf, waitingOf, claimed.steps]
    refine ⟨⟨?_, ?_, ?_, ?_⟩, trivial⟩
    · rw [claimed.steps]
      exact sound.sequences
    · rw [claimed.steps, claimed.accounts.iterationCount]
      exact sound.turns
    · rw [waiting]
      exact sound.dialogue
    · rw [claimed.steps]
      exact fun _ => sound.named claimed.open_
  moved := by
    intro d now replies s l l' p p' _ held sound todo distinct move
    have goesOn := notTerminal_of_heldBy held
    cases move with
    | raises | rests | resumes | introduced | finds => exact ⟨sound, fun _ => trivial⟩
    | returns turn x goesOn => exact ⟨sound, fun _ => trivial⟩
    | loads x state loaded goesOn => exact ⟨sound, fun _ => loaded⟩
    | prepares iteration finalReason x state loaded => exact ⟨sound, fun _ => todo⟩
    | closes p status l' _ final =>
      obtain ⟨iteration, payload, callId, steps⟩ := final.steps
      refine ⟨(sound.silent steps sound.next_sequence rfl rfl final.accounts.iterationCount
        fun open_ => absurd final.terminal open_).1, fun live => by cases live⟩
    | introduces state _ =>
      exact ⟨(sound.wroteBy d now (by simp [contextRecord]) rfl rfl).1, fun _ => trivial⟩
    | takesUp state x last jobs left =>
      have loaded : Loaded l state := todo
      rw [loaded.steps] at left
      exact ⟨sound, fun _ => sound.perm_outstanding goesOn left⟩
    | announces state x nothing within _ =>
      have loaded : Loaded l state := todo
      rw [loaded.steps] at nothing
      obtain ⟨sound', waiting⟩ := sound.wroteFeedback d now
        (state.investigation.iterationCount + 1) _ "budget"
      refine ⟨sound', fun _ => ⟨?_, waiting.trans (sound.waiting_of_nothing goesOn nothing)⟩⟩
      rw [loaded.investigation]
      rfl
    | fails state iteration finalReason attempt x error more answer _ =>
      obtain ⟨next, none⟩ := todo
      obtain ⟨sound', waiting⟩ : WellTraced (wroteBy d now l (errorRecord iteration attempt error)) ∧ _ :=
        sound.wroteBy d now (by simp [errorRecord]) rfl rfl
      refine ⟨sound', fun _ => ?_⟩
      obtain ⟨reason, detail, gaveUp⟩ | again :=
        afterError_cases d state iteration finalReason attempt x error
      · rw [gaveUp]
        trivial
      · rw [again]
        exact ⟨next, waiting.trans none⟩
    | hears state iteration finalReason attempt x turn more answer _ =>
      obtain ⟨rfl, silent⟩ := todo
      have nodup : (turn.actions.map (·.callId)).Nodup := by
        refine distinct rfl turn ?_
        rw [answer]
        rfl
      obtain ⟨step, steps, isTurn, unnamed, count, sequence, actions⟩ : ∃ step,
          (wroteBy d now l (turnRecord (l.row.iterationCount + 1) turn)).steps =
            l.steps ++ [step] ∧ isModelTurn step = true ∧ step.callId = none ∧
            step.iteration = l.row.iterationCount + 1 ∧ step.sequence = l.steps.length + 1 ∧
            recordedActions step.payload = turn.actions :=
        ⟨_, rfl, rfl, rfl, rfl, sound.next_sequence, recordedActions_fields ..⟩
      have counted : (wroteBy d now l
          (turnRecord (l.row.iterationCount + 1) turn)).row.iterationCount =
            l.row.iterationCount + 1 :=
        max_eq_right (Nat.le_succ _)
      obtain ⟨sound', waiting⟩ := sound.turn steps sequence isTurn unnamed ⟨count, counted⟩ rfl silent
        (actions ▸ nodup)
      exact ⟨sound', fun _ => ⟨_, waiting, actions ▸ perm_callIds ..⟩⟩
    | notes turn jobs x stopReason _ =>
      obtain ⟨waiting, read, perm⟩ := todo
      obtain ⟨sound', same⟩ := sound.wroteFeedback d now turn.iteration (noActionText stopReason)
        "no_action"
      exact ⟨sound', fun _ => ⟨waiting, same.trans read, perm⟩⟩
    | applies turn jobs x call row payload accounts holder _ =>
      obtain ⟨waiting, read, perm⟩ := todo
      obtain ⟨sound', after⟩ := ToDo.wroteStep (k := .hypothesisUpdate) sound read perm accounts holder (by decide)
        now d.id turn.iteration payload
      exact ⟨sound', fun _ => after⟩
    | unmet turn jobs x call row payload accounts holder _ =>
      obtain ⟨waiting, read, perm⟩ := todo
      obtain ⟨sound', after⟩ := ToDo.wroteStep (k := .conclusionRejected) sound read perm accounts holder (by decide)
        now d.id turn.iteration payload
      exact ⟨sound', fun _ => after⟩
    | rejects turn jobs x call _ =>
      obtain ⟨waiting, read, perm⟩ := todo
      obtain ⟨sound', after⟩ := ToDo.wroteBy sound d now (invalidRecord turn.iteration call)
        read perm (.inr rfl) rfl
      exact ⟨sound', fun _ => after⟩
    | refuses turn jobs x request code text refused _ =>
      obtain ⟨waiting, read, perm⟩ := todo
      obtain ⟨sound', after⟩ := ToDo.wroteBy sound d now (refusedRecord turn.iteration request code text)
        read perm (.inl rfl) rfl
      exact ⟨sound', fun _ => after⟩
    | executes turn jobs x request notRefused => exact ⟨sound, fun _ => todo⟩
    | answers turn jobs x request outcome _ =>
      obtain ⟨waiting, read, perm⟩ := todo
      obtain ⟨sound', after⟩ := ToDo.wroteBy sound d now (toolRecord turn.iteration request outcome)
        read perm (.inl rfl) rfl
      exact ⟨sound', fun _ => after⟩

/-! ## The dialogue in the transcript -/

def entryMarks : TranscriptEntry → List (Mark String)
  | .context _ => []
  | .assistant _ actions _ => [.asked (actions.map (·.callId))]
  | .observation results _ => results.map (fun result => .answered result.callId)

def transcriptMarks (entries : List TranscriptEntry) : List (Mark String) :=
  entries.flatMap entryMarks

/-- What a draft has said, and what it is about to say. -/
def draftMarks (draft : TranscriptDraft) : List (Mark String) :=
  transcriptMarks draft.entries ++ draft.results.map (fun result => .answered result.callId)

theorem transcriptMarks_concat (entries : List TranscriptEntry) (entry : TranscriptEntry) :
    transcriptMarks (entries ++ [entry]) = transcriptMarks entries ++ entryMarks entry := by
  rw [transcriptMarks, transcriptMarks, List.flatMap_append, List.flatMap_singleton]

theorem draftMarks_flush (draft : TranscriptDraft) :
    transcriptMarks draft.flush.entries = draftMarks draft ∧ draft.flush.results = [] := by
  unfold TranscriptDraft.flush draftMarks
  split_ifs with empty
  · obtain ⟨results, _⟩ := Bool.and_eq_true_iff.mp empty
    rw [List.isEmpty_iff.mp results]
    exact ⟨(List.append_nil _).symm, rfl⟩
  · exact ⟨transcriptMarks_concat .., rfl⟩

/-- What is heard of a step: a turn, or an answer to a call with a name. -/
theorem heard_turn {step : InvestigationStepRow} (turn : step.kind = .modelTurn) :
    dropAnswers "" (traceMarks [step]) =
      [.asked ((recordedActions step.payload).map (·.callId))] := by
  rw [traceMarks_turn (by simp [isModelTurn, turn]), dropAnswers_asked]
  rfl

theorem heard_answer {step : InvestigationStepRow} (turn : step.kind ≠ .modelTurn)
    (action : isActionStep step = true) (named : hasText step.callId = true) :
    dropAnswers "" (traceMarks [step]) = [.answered (step.callId.getD "")] := by
  cases call : step.callId with
  | none =>
    rw [call] at named
    cases named
  | some id =>
    have ne : id ≠ "" := by
      rintro rfl
      rw [call] at named
      exact absurd named (by decide)
    have mark : stepMark step = some (.answered id) := by
      simp [stepMark, isModelTurn, turn, action, call]
    rw [traceMarks_cons, mark]
    exact dropAnswers_answered ne []

theorem heard_nothing {step : InvestigationStepRow} (turn : step.kind ≠ .modelTurn)
    (quiet : ¬ (isActionStep step && hasText step.callId) = true) :
    dropAnswers "" (traceMarks [step]) = [] := by
  have noTurn : isModelTurn step = false := by simpa [isModelTurn] using turn
  rw [traceMarks_cons, stepMark, noTurn, if_neg Bool.false_ne_true]
  split_ifs with action
  · cases call : step.callId with
    | none => rfl
    | some id =>
      have empty : id = "" := by simpa [action, call, hasText] using quiet
      rw [empty]
      exact dropAnswers_silent []
  · rfl

/-- A step adds what is heard of it to the transcript. -/
theorem draftMarks_read (renderContext : Json → String) (draft : TranscriptDraft)
    (step : InvestigationStepRow) :
    draftMarks (draft.read renderContext step) =
      draftMarks draft ++ dropAnswers "" (traceMarks [step]) := by
  unfold TranscriptDraft.read
  by_cases context : step.kind = .context
  · rw [if_pos context, heard_nothing (by simp [context]) (by simp [isActionStep, context,
      actionStepKinds])]
    simp [draftMarks, transcriptMarks_concat, entryMarks]
  by_cases turn : step.kind = .modelTurn
  · rw [if_neg context, if_pos turn, heard_turn turn]
    obtain ⟨said, none⟩ := draftMarks_flush draft
    rw [draftMarks, transcriptMarks_concat, said, none]
    exact List.append_nil _
  by_cases action : (isActionStep step && hasText step.callId) = true
  · obtain ⟨answers, named⟩ := Bool.and_eq_true_iff.mp action
    rw [if_neg context, if_neg turn, if_pos action, heard_answer turn answers named]
    simp [draftMarks, resultEntry]
  rw [if_neg context, if_neg turn, if_neg action, heard_nothing turn action, List.append_nil]
  split_ifs <;> rfl

theorem transcriptMarks_buildTranscript (renderContext : Json → String)
    (steps : List InvestigationStepRow) :
    transcriptMarks (buildTranscript renderContext steps) =
      dropAnswers "" (traceMarks steps) := by
  have each : ∀ draft : TranscriptDraft,
      draftMarks (steps.foldl (TranscriptDraft.read renderContext) draft) =
        draftMarks draft ++ dropAnswers "" (traceMarks steps) := by
    induction steps with
    | nil => exact fun draft => (List.append_nil _).symm
    | cons step steps ih =>
      intro draft
      rw [List.foldl_cons, ih, draftMarks_read, List.append_assoc, ← dropAnswers_append,
        ← traceMarks_append]
      rfl
  exact (draftMarks_flush _).1.trans (each {})

/-! ## Every run -/

/-- No call of a turn that another follows has an empty identifier. -/
def CallsNamed (steps : List InvestigationStepRow) : Prop :=
  ∀ before turn between next after, steps = before ++ turn :: (between ++ next :: after) →
    isModelTurn turn = true → isModelTurn next = true →
    (∀ step ∈ between, isModelTurn step = false) →
    ∀ action ∈ recordedActions turn.payload, action.callId ≠ ""

theorem stepMark_asked {step : InvestigationStepRow} {ids : List String}
    (mark : stepMark step = some (.asked ids)) :
    isModelTurn step = true ∧ ids = (recordedActions step.payload).map (·.callId) := by
  unfold stepMark at mark
  split_ifs at mark with turn action
  · cases mark
    exact ⟨turn, rfl⟩
  · obtain ⟨id, _, asked⟩ := Option.map_eq_some_iff.mp mark
    cases asked

/-- The identifiers of a turn, as its mark has them. -/
theorem callsNamed_iff (steps : List InvestigationStepRow) :
    CallsNamed steps ↔
      ∀ before ids between next after,
        traceMarks steps = before ++ .asked ids :: (between ++ .asked next :: after) →
          OnlyAnswers between → "" ∉ ids := by
  constructor
  · intro named before ids between next after marks only asked
    obtain ⟨earlier, rest, rfl, _, marks⟩ := List.filterMap_eq_append_iff.mp marks
    obtain ⟨skipped, turn, rest, rfl, _, mark, marks⟩ := List.filterMap_eq_cons_iff.mp marks
    obtain ⟨inside, rest, rfl, answers, marks⟩ := List.filterMap_eq_append_iff.mp marks
    obtain ⟨quiet, following, later, rfl, silent, nextMark, _⟩ :=
      List.filterMap_eq_cons_iff.mp marks
    obtain ⟨isTurn, rfl⟩ := stepMark_asked mark
    have noTurn : ∀ step ∈ inside ++ quiet, isModelTurn step = false := by
      intro step member
      refine Bool.eq_false_iff.mpr fun turn => ?_
      rcases List.mem_append.mp member with answering | skipped
      · refine only ((recordedActions step.payload).map (·.callId)) ?_
        rw [← answers]
        exact List.mem_filterMap.mpr ⟨step, answering, if_pos turn⟩
      · have none := silent step skipped
        rw [stepMark, if_pos turn] at none
        cases none
    obtain ⟨action, member, empty⟩ := List.mem_map.mp asked
    exact named (earlier ++ skipped) turn (inside ++ quiet) following later (by simp) isTurn
      (stepMark_asked nextMark).1 noTurn action member empty
  · rintro named before turn between next after rfl isTurn nextTurn noTurn action member empty
    refine named (traceMarks before) _ (traceMarks between)
      ((recordedActions next.payload).map (·.callId)) (traceMarks after) ?_
      (onlyAnswers_traceMarks noTurn) (List.mem_map.mpr ⟨action, member, empty⟩)
    rw [traceMarks_append, traceMarks_turn isTurn, traceMarks_append, traceMarks_turn nextTurn]

theorem Opened.wellTraced {s : Store} {id : Uuid} {l : Ledger} (opened : Opened s id l) :
    WellTraced l := by
  refine ⟨?_, ?_, ⟨[], ?_⟩, ?_⟩
  · rw [opened.steps]
    rfl
  · rw [opened.steps, opened.iterationCount]
    rfl
  · rw [waitingOf, opened.steps]
    rfl
  · rw [opened.steps]
    exact fun _ step member => by cases member

/-- Whatever the model and the tools answer, and wherever the workers crash: the steps are
numbered 1 to n, the turns 1 to the iteration count, and every call of a turn that another
follows is answered by one step in between.  In the transcript each such call has one result
in between exactly if none of them has an empty identifier. -/
theorem calls_answered_once (e : EngineEnv) {id : Uuid} {s : Store} {l : Ledger}
    (opened : Opened s id l) {events : List WorkEvent}
    (met : Machine.StepsMeet (NextMove DistinctCalls id) (Workshop.step e id)
      { store := s, workers := [] } events) :
    ∃ l', ledgerOf (workshopFrom e id s events).store id = some l' ∧
      l'.steps.map (·.sequence) = List.range' 1 l'.steps.length ∧
      (l'.steps.filter isModelTurn).map (·.iteration) = List.range' 1 l'.row.iterationCount ∧
      AnsweredOnce (traceMarks l'.steps) ∧
      (AnsweredOnce (transcriptMarks (buildTranscript e.renderContext l'.steps)) ↔
        CallsNamed l'.steps) := by
  obtain ⟨⟨l', here, sound, _⟩, _⟩ :=
    workshop_synced (calls_answered_kept e id) opened.here opened.wellTraced met
  obtain ⟨waiting, read⟩ := sound.dialogue
  refine ⟨l', here, sound.sequences, sound.turns, answeredOnce_of_openAfter read, ?_⟩
  rw [transcriptMarks_buildTranscript, answeredOnce_drop_iff read]
  exact (callsNamed_iff l'.steps).symm

/-- A worker looks for logs, crashes before it has recorded the answer, and another one makes
two turns. -/
def interruptedRun (callId : String) : List WorkEvent :=
  workerClaims "worker" :: workerDoes 0 8 [callOfTool callId "get_logs"] ++
    [.crash 0, .claim 300000000 { owner := "other" }] ++
    workerDoes 1 11 [callOfTool callId "get_logs"]

theorem calls_answered_once_interrupted :
    ∃ l', ledgerOf (workshopFrom deskEnv 0 (paymentsRequested {}) (interruptedRun "c1")).store
        0 = some l' ∧
      l'.steps.map (·.sequence) = List.range' 1 l'.steps.length ∧
      (l'.steps.filter isModelTurn).map (·.iteration) = List.range' 1 l'.row.iterationCount ∧
      AnsweredOnce (traceMarks l'.steps) ∧
      (AnsweredOnce (transcriptMarks (buildTranscript deskEnv.renderContext l'.steps)) ↔
        CallsNamed l'.steps) := by
  obtain ⟨l, opened⟩ : ∃ l, Opened (paymentsRequested {}) 0 l :=
    Opened.of_counts (by decide +kernel)
  exact calls_answered_once deskEnv opened (by decide +kernel)

/-- The answer to a call with an empty identifier is in the trace, and not in the transcript. -/
theorem not_calls_answered_once :
    ¬ ∀ (e : EngineEnv) (id : Uuid) (s : Store) (l : Ledger) (events : List WorkEvent),
      Opened s id l →
      Machine.StepsMeet (NextMove DistinctCalls id) (Workshop.step e id)
        { store := s, workers := [] } events →
      ∃ l', ledgerOf (workshopFrom e id s events).store id = some l' ∧
        AnsweredOnce (transcriptMarks (buildTranscript e.renderContext l'.steps)) := by
  intro once
  obtain ⟨l, opened⟩ : ∃ l, Opened (paymentsRequested {}) 0 l :=
    Opened.of_counts (by decide +kernel)
  obtain ⟨l', here, answered⟩ := once deskEnv 0 _ l (interruptedRun "") opened (by decide +kernel)
  have marks : (ledgerOf (workshopFrom deskEnv 0 (paymentsRequested {})
      (interruptedRun "")).store 0).map (fun l =>
        transcriptMarks (buildTranscript deskEnv.renderContext l.steps)) =
          some [.asked [""], .asked [""]] := by
    decide +kernel
  rw [here, Option.map_some, Option.some.injEq] at marks
  have one := answered [] [""] [] [""] [] marks (by simp [OnlyAnswers]) "" (by simp)
  exact absurd one (by decide)

end IncidentTriage.Verified
