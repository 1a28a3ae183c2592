import IncidentTriage.Verified.EngineRuns
import IncidentTriage.Verified.LoopDetection
import IncidentTriage.Verified.PendingJobs

/-! # A resume goes on where the run stopped

The holder of the lease acts on the last turn of the trace, and the trace tells which of its
jobs are done.  So whoever takes the investigation over finds the jobs that are left, and the
turn as it was, but for the reason that made it the last one.
-/

namespace IncidentTriage.Verified

open IncidentTriage.Python IncidentTriage.Domain IncidentTriage.Incident IncidentTriage.Tools
  IncidentTriage.Agents

/-! ## How far a turn is -/

def turnDecision (schemas : Schemas) (turn : InvestigationStepRow) : InvestigationDecision :=
  interpretTurn schemas (textField turn.payload "text" "") (recordedActions turn.payload)
    evidenceToolNames

/-- The jobs that are left of a turn with these steps after it. -/
inductive TurnLeft (schemas : Schemas) (turn : InvestigationStepRow)
    (after : List InvestigationStepRow) : List Job → Prop where
  | untold (silent : recordedActions turn.payload = [])
      (none : after.any (fun s => s.kind == .feedback) = false) :
      TurnLeft schemas turn after [.noAction (textField turn.payload "stop_reason" "end_turn")]
  | told (silent : recordedActions turn.payload = [])
      (feedback : after.any (fun s => s.kind == .feedback) = true) : TurnLeft schemas turn after []
  | part (done rest : List Job) (acts : recordedActions turn.payload ≠ [])
      (distinct : ((recordedActions turn.payload).map (·.callId)).Nodup)
      (jobs : jobList (turnDecision schemas turn) = done ++ rest)
      (answered : answeredIds after = (callIds done).map some) : TurnLeft schemas turn after rest

section
variable {schemas : Schemas} {turn step : InvestigationStepRow} {after : List InvestigationStepRow}
  {jobs : List Job}

theorem pendingActions_of_done {done : List Job}
    (answered : answeredIds after = (callIds done).map some) :
    pendingActions turn after = (recordedActions turn.payload).filter
      (fun action => !(callIds done).contains action.callId) := by
  refine List.filter_congr fun action _ => congrArg (!·) ?_
  rw [answered, Bool.eq_iff_iff, List.contains_iff_mem, List.contains_iff_mem]
  exact List.mem_map_of_injective (Option.some_injective _)

/-- What is outstanding in the trace are the jobs that are left. -/
theorem TurnLeft.outstanding_eq (left : TurnLeft schemas turn after jobs)
    {steps : List InvestigationStepRow} (last : lastTurn steps = some (turn, after)) :
    outstanding schemas steps = if jobs = [] then none else some (turn, jobs) := by
  unfold outstanding
  simp only [last]
  cases left with
  | untold silent none =>
    rw [if_pos (List.isEmpty_iff.mpr silent), if_neg (by simp [none]),
      if_neg (List.cons_ne_nil _ _)]
    rfl
  | told silent feedback =>
    rw [if_pos (List.isEmpty_iff.mpr silent), if_pos feedback, if_pos rfl]
  | part done rest acts distinct split answered =>
    rw [if_neg (by simpa using acts), pendingActions_of_done answered]
    by_cases empty : jobs = []
    · -- every call of the turn is one of those done
      subst empty
      rw [List.append_nil] at split
      have all : (recordedActions turn.payload).filter
          (fun action => !(callIds done).contains action.callId) = [] := by
        refine List.filter_eq_nil_iff.mpr fun action member => ?_
        have call : action.callId ∈ callIds (jobList (turnDecision schemas turn)) := by
          rw [callIds_jobList]
          exact (perm_interpretTurn ..).mem_iff.mpr (List.mem_map_of_mem member)
        rw [split] at call
        simp [call]
      rw [all]
      rfl
    · have read := jobsOf_pending "tool_use" distinct split empty
      have some_ : (recordedActions turn.payload).filter
          (fun action => !(callIds done).contains action.callId) ≠ [] := by
        intro none
        rw [none, jobsOf_noAction] at read
        obtain ⟨call, named⟩ := exists_jobCall (d := turnDecision schemas turn)
          (split ▸ List.mem_append_right done (read ▸ List.mem_singleton_self _))
        cases named
      rw [if_neg (by simpa using some_), if_neg empty, read]

/-- A turn that was just recorded. -/
theorem TurnLeft.heard {said : ModelTurn} (distinct : (said.actions.map (·.callId)).Nodup)
    {evidenceIds : List Uuid} (payload : turn.payload = .worker evidenceIds said.fields) :
    TurnLeft schemas turn [] (decisionJobs schemas said) := by
  have actions : recordedActions turn.payload = said.actions := by
    rw [payload, recordedActions_fields]
  by_cases silent : said.actions = []
  · have told : decisionJobs schemas said =
        [.noAction (textField turn.payload "stop_reason" "end_turn")] := by
      rw [decisionJobs, silent, jobsOf_noAction, payload, textField_stopReason]
    rw [told]
    exact .untold (actions.trans silent) rfl
  · have same : turnDecision schemas turn =
        interpretTurn schemas said.text said.actions evidenceToolNames := by
      rw [turnDecision, actions, payload, textField_text]
    have jobs : decisionJobs schemas said = jobList (turnDecision schemas turn) := by
      rw [decisionJobs, same]
      refine jobsOf_eq_jobList _ fun none => silent ?_
      have perm := perm_interpretTurn schemas said.text said.actions evidenceToolNames
      rw [← callIds_jobList, none] at perm
      exact List.map_eq_nil_iff.mp perm.nil_eq.symm
    rw [jobs]
    exact .part [] _ (actions ▸ silent) (actions ▸ distinct) rfl rfl

theorem answeredIds_concat (after : List InvestigationStepRow) (step : InvestigationStepRow) :
    answeredIds (after ++ [step]) = answeredIds after ++
      if (isActionStep step || hasText step.callId) = true then [step.callId] else [] := by
  simp only [answeredIds, List.filter_append, List.map_append, List.filter_singleton]
  cases isActionStep step || hasText step.callId with
  | true => rfl
  | false => rfl

/-- A job is done. -/
theorem TurnLeft.did {job : Job} (left : TurnLeft schemas turn after (job :: jobs))
    (did : Did job step) : TurnLeft schemas turn (after ++ [step]) jobs := by
  cases left with
  | untold silent none =>
    refine .told silent ?_
    simp [did.told _ rfl]
  | part done rest acts distinct split answered =>
    obtain ⟨call, named⟩ := exists_jobCall (d := turnDecision schemas turn)
      (split ▸ List.mem_append_right done List.mem_cons_self)
    obtain ⟨answers, callId⟩ := did.answered call named
    refine .part (done ++ [job]) jobs acts distinct (by simpa using split) ?_
    rw [answeredIds_concat, answers, answered, callIds_append, callId]
    simp [callIds, named]

/-- A step beside the turn's jobs; only a turn of which nothing is left is told something. -/
theorem TurnLeft.beside (left : TurnLeft schemas turn after jobs)
    (unanswering : isActionStep step = false) (unnamed : step.callId = none)
    (told : step.kind = .feedback → jobs = []) :
    TurnLeft schemas turn (after ++ [step]) jobs := by
  cases left with
  | untold silent none =>
    refine .untold silent ?_
    have noFeedback : step.kind ≠ .feedback := fun feedback => by cases told feedback
    simp [none, noFeedback]
  | told silent feedback => exact .told silent (by simp [feedback])
  | part done rest acts distinct split answered =>
    refine .part done jobs acts distinct split ?_
    rw [answeredIds_concat, unanswering, unnamed, answered]
    exact List.append_nil _

end

/-! ## What a worker remembers of its turn -/

/-- Where the trace has a turn, some of its jobs are left. -/
def Resumable (schemas : Schemas) (l : Ledger) : Prop :=
  l.row.status ∉ terminalInvestigationStatuses → ∀ turn after,
    lastTurn l.steps = some (turn, after) → ∃ jobs, TurnLeft schemas turn after jobs

/-- The last iteration of the budget has its reason. -/
def LastIteration (row : InvestigationRow) (iteration : Nat) (finalReason : Option String) : Prop :=
  row.budget.maxIterations ≤ iteration → finalReason = finalTurnReason row iteration true

/-- A worker acts on the last turn of the trace, and has these jobs of it left. -/
structure InTurn (schemas : Schemas) (l : Ledger) (last : InvestigationStepRow) (turn : Turn)
    (jobs : List Job) : Prop where
  left : ∃ after, lastTurn l.steps = some (last, after) ∧ TurnLeft schemas last after jobs
  accounts : turn = .of l.row last.iteration turn.finalReason
  final : recordedActions last.payload ≠ [] → LastIteration l.row last.iteration turn.finalReason

/-- What the holder of the lease remembers of its turn. -/
def MidTurn (schemas : Schemas) (l : Ledger) : Phase → Prop
  | .loaded state _ => Loaded l state
  | .noticed iteration finalReason _ => LastIteration l.row iteration finalReason
  | .asking state iteration finalReason _ _ =>
    SameAccounts l.row state.investigation ∧ LastIteration l.row iteration finalReason
  | .acting turn jobs _ => ∃ last, InTurn schemas l last turn jobs
  | .answering turn request _ jobs _ =>
    ∃ last, InTurn schemas l last turn (.request request :: jobs)
  | .claimed _ | .contextual | .looping _ | .failing .. | .ended _ => True

section
variable {schemas : Schemas} {l l' : Ledger} {last step : InvestigationStepRow} {turn : Turn}
  {job : Job} {jobs : List Job}

/-- The iterations are all that the last one depends on. -/
theorem lastIteration_finalTurnReason {row row' : InvestigationRow}
    (budget : row'.budget = row.budget) (iteration : Nat) (pending : Bool) :
    LastIteration row' iteration (finalTurnReason row iteration pending) := by
  intro last
  rw [finalTurnReason, finalTurnReason, if_pos last, if_pos (budget ▸ last), budget]

theorem LastIteration.of_budget {row row' : InvestigationRow} {iteration : Nat}
    {finalReason : Option String} (final : LastIteration row iteration finalReason)
    (budget : row'.budget = row.budget) : LastIteration row' iteration finalReason := by
  intro last
  rw [final (budget ▸ last)]
  exact lastIteration_finalTurnReason budget iteration true last

theorem Turn.of_congr {row row' : InvestigationRow} (budget : row'.budget = row.budget)
    (toolCallCount : row'.toolCallCount = row.toolCallCount)
    (evidenceCount : row'.evidenceCount = row.evidenceCount) (iteration : Nat)
    (finalReason : Option String) :
    Turn.of row' iteration finalReason = Turn.of row iteration finalReason := by
  rw [Turn.of, Turn.of, budget, toolCallCount, evidenceCount]

theorem exists_lastTurn {steps : List InvestigationStepRow}
    (left : outstanding schemas steps = some (last, jobs)) :
    ∃ after, lastTurn steps = some (last, after) := by
  unfold outstanding at left
  split at left
  · cases left
  · rename_i found
    split_ifs at left
    · cases left
      exact ⟨_, found⟩
    · cases left
      exact ⟨_, found⟩

/-- A step beside the turn. -/
theorem Resumable.beside (resumable : Resumable schemas l)
    (goesOn : l.row.status ∉ terminalInvestigationStatuses) (steps : l'.steps = l.steps ++ [step])
    (later : ∀ s ∈ l.steps, s.sequence < step.sequence) (noTurn : isModelTurn step = false)
    (unanswering : isActionStep step = false) (unnamed : step.callId = none)
    (told : step.kind = .feedback → outstanding schemas l.steps = none) :
    Resumable schemas l' := by
  intro _ turn after found
  rw [steps, lastTurn_concat noTurn later] at found
  obtain ⟨⟨turn', earlier⟩, before, same⟩ := Option.map_eq_some_iff.mp found
  cases same
  obtain ⟨jobs, left⟩ := resumable goesOn turn' earlier before
  refine ⟨jobs, left.beside unanswering unnamed fun feedback => ?_⟩
  have nothing := told feedback
  rw [left.outstanding_eq before] at nothing
  by_contra some_
  rw [if_neg some_] at nothing
  cases nothing

/-- The worker has done a job of its turn, and the trace has the answer. -/
theorem InTurn.did (inTurn : InTurn schemas l last turn (job :: jobs))
    (steps : l'.steps = l.steps ++ [step]) (later : ∀ s ∈ l.steps, s.sequence < step.sequence)
    (did : Did job step) {turn' : Turn} (same : turn'.finalReason = turn.finalReason)
    (accounts : turn' = .of l'.row last.iteration turn.finalReason)
    (budget : l'.row.budget = l.row.budget) :
    Resumable schemas l' ∧ InTurn schemas l' last turn' jobs := by
  obtain ⟨after, found, left⟩ := inTurn.left
  have found' : lastTurn l'.steps = some (last, after ++ [step]) := by
    rw [steps, lastTurn_concat did.noTurn later, found]
    rfl
  have left' := left.did did
  refine ⟨?_, ⟨_, found', left'⟩, same ▸ accounts, fun acts last_ => ?_⟩
  · intro _ other after' here
    rw [found'] at here
    cases here
    exact ⟨jobs, left'⟩
  · rw [same]
    exact (inTurn.final acts).of_budget budget last_

/-- A step that the engine records beside the turn. -/
theorem Resumable.wroteBy (resumable : Resumable schemas l)
    (goesOn : l.row.status ∉ terminalInvestigationStatuses) (d : Desk) (now : Time)
    {record : StepRecord} (noTurn : record.kind ≠ .modelTurn)
    (unanswering : actionStepKinds.contains record.kind = false) (unnamed : record.callId = none)
    (told : record.kind = .feedback → outstanding schemas l.steps = none) :
    Resumable schemas (wroteBy d now l record) :=
  resumable.beside goesOn rfl lt_next_sequence (beq_eq_false_iff_ne.mpr noTurn) unanswering unnamed
    told

/-- A job that the engine records itself. -/
theorem InTurn.wroteBy (inTurn : InTurn schemas l last turn (job :: jobs)) (d : Desk) (now : Time)
    (record : StepRecord) (turn' : Turn) (noTurn : record.kind ≠ .modelTurn)
    (told : ∀ reason, job = .noAction reason → record.kind = .feedback)
    (answered : ∀ call, jobCall job = some call →
      actionStepKinds.contains record.kind = true ∧ record.callId = some call)
    (same : turn'.finalReason = turn.finalReason)
    (accounts : turn' =
      .of (Verified.wroteBy d now l record).row last.iteration turn.finalReason) :
    Resumable schemas (wroteBy d now l record) ∧
      InTurn schemas (Verified.wroteBy d now l record) last turn' jobs :=
  inTurn.did rfl lt_next_sequence ⟨beq_eq_false_iff_ne.mpr noTurn, told, answered⟩ same accounts rfl

/-- A job that incident-core records. -/
theorem InTurn.recorded (inTurn : InTurn schemas l last turn (job :: jobs)) (kind : StepKind)
    {call : String} {row : InvestigationRow} (named : jobCall job = some call)
    (answers : actionStepKinds.contains kind = true) (noTurn : kind ≠ .modelTurn) (now : Time)
    (id : Uuid) (iteration : Nat) (payload : StepPayload) (accounts : SameAccounts l.row row) :
    let l' : Ledger :=
      { row, steps := l.steps ++ [l.next now id kind iteration payload (some call) none] }
    Resumable schemas l' ∧ InTurn schemas l' last turn jobs := by
  refine inTurn.did rfl lt_next_sequence ⟨beq_eq_false_iff_ne.mpr noTurn, ?_, ?_⟩ rfl ?_
    accounts.budget
  · rintro reason rfl
    cases named
  · intro other same
    rw [named] at same
    cases same
    exact ⟨answers, rfl⟩
  · rw [Turn.of_congr accounts.budget accounts.toolCallCount accounts.evidenceCount]
    exact inTurn.accounts

end

theorem turns_resumable_kept (e : EngineEnv) (id : Uuid) :
    Keeps e id DistinctCalls (Resumable e.schemas) (MidTurn e.schemas) where
  claimed := by
    intro owner l l' state resumable claimed _
    refine ⟨fun _ => ?_, trivial⟩
    rw [claimed.steps]
    exact resumable claimed.open_
  moved := by
    intro d now replies s l l' p p' _ held resumable memory distinct move
    have goesOn := notTerminal_of_heldBy held
    cases move with
    | raises | rests | resumes | introduced | finds => exact ⟨resumable, fun _ => trivial⟩
    | returns turn x goesOn => exact ⟨resumable, fun _ => trivial⟩
    | loads x state loaded goesOn => exact ⟨resumable, fun _ => loaded⟩
    | closes p status l' _ final =>
      exact ⟨fun open_ => absurd final.terminal open_, fun live => by cases live⟩
    | introduces state _ =>
      refine ⟨resumable.wroteBy goesOn d now (by simp [contextRecord]) rfl rfl ?_, fun _ => trivial⟩
      intro feedback
      cases feedback
    | takesUp state x last jobs left =>
      have loaded : Loaded l state := memory
      rw [loaded.steps] at left
      obtain ⟨after, found⟩ := exists_lastTurn left
      obtain ⟨jobs', turnLeft⟩ := resumable goesOn last after found
      have same : jobs' = jobs := by
        rw [turnLeft.outstanding_eq found] at left
        split_ifs at left
        exact (Prod.mk.inj (Option.some.inj left)).2
      subst same
      refine ⟨resumable, fun _ => ⟨last, ⟨after, found, turnLeft⟩, ?_, fun acts => ?_⟩⟩
      · rw [loaded.investigation]
        rfl
      · have reason : resumedReason l.row last = finalTurnReason l.row last.iteration true :=
          if_neg (by simpa using acts)
        rw [loaded.investigation]
        exact fun _ => reason
    | announces state x nothing within _ =>
      have loaded : Loaded l state := memory
      rw [loaded.steps] at nothing
      refine ⟨resumable.wroteBy goesOn d now (by simp [feedbackRecord]) rfl rfl fun _ => nothing,
        fun _ => ?_⟩
      rw [loaded.investigation]
      exact lastIteration_finalTurnReason rfl _ false
    | prepares iteration finalReason x state loaded =>
      exact ⟨resumable, fun _ => ⟨.of_loaded loaded, memory⟩⟩
    | fails state iteration finalReason attempt x error more answer _ =>
      obtain ⟨accounts, final⟩ := memory
      refine ⟨resumable.wroteBy goesOn d now (by simp [errorRecord]) rfl rfl ?_, fun _ => ?_⟩
      · intro feedback
        cases feedback
      · obtain ⟨reason, detail, gaveUp⟩ | again :=
          afterError_cases d state iteration finalReason attempt x error
        · rw [gaveUp]
          trivial
        · rw [again]
          exact ⟨⟨accounts.budget, accounts.iterationCount, accounts.toolCallCount,
            accounts.evidenceCount⟩, final⟩
    | hears state iteration finalReason attempt x turn more answer _ =>
      obtain ⟨accounts, final⟩ := memory
      have nodup : (turn.actions.map (·.callId)).Nodup := by
        refine distinct rfl turn ?_
        rw [answer]
        rfl
      obtain ⟨step, steps, isTurn, later, number, payload⟩ : ∃ step,
          (wroteBy d now l (turnRecord iteration turn)).steps = l.steps ++ [step] ∧
            isModelTurn step = true ∧ (∀ s ∈ l.steps, s.sequence < step.sequence) ∧
            step.iteration = iteration ∧ step.payload = .worker [] turn.fields :=
        ⟨_, rfl, rfl, lt_next_sequence, rfl, rfl⟩
      have found : lastTurn (wroteBy d now l (turnRecord iteration turn)).steps =
          some (step, []) := by
        rw [steps]
        exact lastTurn_concat_turn isTurn later
      have left : TurnLeft e.schemas step [] (decisionJobs e.schemas turn) := .heard nodup payload
      refine ⟨?_, fun _ => ⟨step, ⟨[], found, left⟩, ?_, fun _ => ?_⟩⟩
      · intro _ other after here
        rw [found] at here
        cases here
        exact ⟨_, left⟩
      · rw [number]
        exact Turn.of_congr accounts.budget accounts.toolCallCount accounts.evidenceCount _ _
      · rw [number]
        exact final.of_budget rfl
    | notes turn jobs x stopReason _ =>
      obtain ⟨last, inTurn⟩ := memory
      obtain ⟨resumable', inTurn'⟩ := inTurn.wroteBy d now
        (feedbackRecord turn.iteration (noActionText stopReason) "no_action") turn
        (by simp [feedbackRecord]) (fun _ _ => rfl) (fun call named => by cases named) rfl
        inTurn.accounts
      exact ⟨resumable', fun _ => ⟨last, inTurn'⟩⟩
    | applies turn jobs x call row payload accounts holder _ =>
      obtain ⟨last, inTurn⟩ := memory
      obtain ⟨resumable', inTurn'⟩ := inTurn.recorded .hypothesisUpdate rfl rfl
        (by simp) now d.id turn.iteration payload accounts
      exact ⟨resumable', fun _ => ⟨last, inTurn'⟩⟩
    | unmet turn jobs x call row payload accounts holder _ =>
      obtain ⟨last, inTurn⟩ := memory
      obtain ⟨resumable', inTurn'⟩ := inTurn.recorded .conclusionRejected rfl rfl
        (by simp) now d.id turn.iteration payload accounts
      exact ⟨resumable', fun _ => ⟨last, inTurn'⟩⟩
    | rejects turn jobs x call _ =>
      obtain ⟨last, inTurn⟩ := memory
      obtain ⟨resumable', inTurn'⟩ := inTurn.wroteBy d now
        (invalidRecord turn.iteration call) turn (by simp [invalidRecord])
        (fun _ same => by cases same) (fun other named => ⟨rfl, named⟩) rfl inTurn.accounts
      exact ⟨resumable', fun _ => ⟨last, inTurn'⟩⟩
    | refuses turn jobs x request code text refused _ =>
      obtain ⟨last, inTurn⟩ := memory
      obtain ⟨resumable', inTurn'⟩ := inTurn.wroteBy d now
        (refusedRecord turn.iteration request code text) turn (by simp [refusedRecord])
        (fun _ same => by cases same) (fun other named => ⟨rfl, named⟩) rfl inTurn.accounts
      exact ⟨resumable', fun _ => ⟨last, inTurn'⟩⟩
    | executes turn jobs x request notRefused => exact ⟨resumable, fun _ => memory⟩
    | answers turn jobs x request outcome _ =>
      obtain ⟨last, inTurn⟩ := memory
      have accounts : turn.spend outcome =
          .of (wroteBy d now l (toolRecord turn.iteration request outcome)).row last.iteration
            turn.finalReason := by
        rw [inTurn.accounts]
        rfl
      obtain ⟨resumable', inTurn'⟩ := inTurn.wroteBy d now
        (toolRecord turn.iteration request outcome) (turn.spend outcome) (by simp [toolRecord])
        (fun _ same => by cases same) (fun other named => ⟨rfl, named⟩) rfl accounts
      exact ⟨resumable', fun _ => ⟨last, inTurn'⟩⟩

/-! ## The resumed turn -/

/-- The turn that a worker is in the middle of, and the jobs it has left. -/
def turnInHand : Phase → Option (Turn × List Job)
  | .acting turn jobs _ => some (turn, jobs)
  | .answering turn request _ jobs _ => some (turn, .request request :: jobs)
  | .claimed _ | .contextual | .looping _ | .loaded .. | .noticed .. | .asking .. | .failing ..
    | .ended _ => none

theorem MidTurn.inTurn {schemas : Schemas} {l : Ledger} {p : Phase} {turn : Turn}
    {jobs : List Job} (memory : MidTurn schemas l p) (inHand : turnInHand p = some (turn, jobs)) :
    ∃ last, InTurn schemas l last turn jobs := by
  cases p with
  | acting | answering =>
    cases inHand
    exact memory
  | claimed | contextual | looping | loaded | noticed | asking | failing | ended => cases inHand

section
variable {schemas : Schemas} {l : Ledger} {last : InvestigationStepRow} {turn : Turn}
  {jobs : List Job}

/-- The turn that a resume takes up differs in nothing but the reason that it is the last. -/
theorem InTurn.resumed (inTurn : InTurn schemas l last turn jobs) :
    Turn.of l.row last.iteration (resumedReason l.row last) =
      { turn with finalReason := resumedReason l.row last } := by
  rw [inTurn.accounts]
  rfl

/-- A reason is found again if it was the number of iterations. -/
theorem InTurn.resumedReason_eq_iff (inTurn : InTurn schemas l last turn jobs) :
    resumedReason l.row last = turn.finalReason ↔ turn.finalReason = none ∨
      (l.row.budget.maxIterations ≤ turn.iteration ∧ recordedActions last.payload ≠ []) := by
  have number : turn.iteration = last.iteration := by
    rw [inTurn.accounts]
    rfl
  rw [resumedReason, number]
  by_cases silent : recordedActions last.payload = []
  · rw [if_pos (List.isEmpty_iff.mpr silent)]
    refine ⟨fun same => .inl same.symm, ?_⟩
    rintro (none | ⟨_, acts⟩)
    · exact none.symm
    · exact absurd silent acts
  · rw [if_neg (by simpa using silent)]
    by_cases spent : l.row.budget.maxIterations ≤ last.iteration
    · exact iff_of_true (inTurn.final silent spent).symm (.inr ⟨spent, silent⟩)
    · have goesOn : finalTurnReason l.row last.iteration true = none := by
        rw [finalTurnReason, if_neg spent]
        rfl
      rw [goesOn]
      refine ⟨fun same => .inl same.symm, ?_⟩
      rintro (none | ⟨reached, _⟩)
      · exact none.symm
      · exact absurd reached spent

end

/-- A worker has looked for logs, and not yet recorded what it found. -/
def lookingForLogs : Workshop :=
  workshopFrom deskEnv 0 (paymentsRequested {}) (oneCallRun "get_logs" 7)

/-- The budget is one call: the second turn is the last one, and would not be after a crash. -/
theorem not_final_turn_resumed :
    let w := workshopFrom deskEnv 0 (paymentsRequested { maxToolCalls := 1 })
      (oneCallRun "get_logs" 13)
    (w.workers[0]?.bind (fun worker => turnInHand worker.phase)).map
        (fun inHand => (inHand.1.finalReason, inHand.2.length)) =
      some (some "evidence tool call budget 1 spent", 1) ∧
    (ledgerOf w.store 0).bind (fun l =>
        (lastTurn l.steps).map (fun last => resumedReason l.row last.1)) = some none := by
  decide +kernel

end IncidentTriage.Verified
