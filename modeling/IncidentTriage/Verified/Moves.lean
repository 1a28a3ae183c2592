import IncidentTriage.Verified.Ledger

/-! # What a worker does between two commands

`DeskMove` lists what one step of the engine does to the ledger of its investigation and to
its own phase.  Only the worker that holds the lease writes, so what it keeps in memory
stays in step with the ledger: `workshop_invariant` is the rule for whole runs.
-/

namespace IncidentTriage.Verified

open IncidentTriage.Python IncidentTriage.Domain IncidentTriage.Incident IncidentTriage.Tools
  IncidentTriage.Agents

/-! ## One step -/

/-- After a failed attempt the run gives up or asks again. -/
theorem afterError_cases (d : Desk) (state : InvestigationState) (iteration : Nat)
    (finalReason : Option String) (attempt : Nat) (x : ToolExecutor) (error : ModelError) :
    (∃ reason detail, d.afterError state iteration finalReason attempt x error =
        .failing iteration reason detail) ∨
      d.afterError state iteration finalReason attempt x error =
        .asking state iteration finalReason (attempt + 1) x := by
  by_cases over_ : (!error.retryable || attempt == d.engine.attempts) = true
  · exact .inl ⟨_, _, if_pos over_⟩
  · exact .inr (if_neg over_)

/-- The ledger after a step that the engine records. -/
def wroteBy (d : Desk) (now : Time) (l : Ledger) (record : StepRecord) : Ledger :=
  l.recorded now d.id { record with leaseSeconds := d.engine.leaseSeconds }

inductive DeskMove (e : EngineEnv) (d : Desk) (now : Time) (replies : Replies) (s : Store)
    (l : Ledger) : Phase → Ledger → Phase → Prop
  /-- A command raised, or the run gave up. -/
  | raises (p : Phase) : DeskMove e d now replies s l p l (.ended none)
  | rests (status : Option InvestigationStatus) :
      DeskMove e d now replies s l (.ended status) l (.ended status)
  /-- The investigation ends. -/
  | closes (p : Phase) (status : InvestigationStatus) (l' : Ledger)
      (held : l.heldBy d.engine.owner) (final : Ended now d.id l l') :
      DeskMove e d now replies s l p l' (.ended (some status))
  | resumes (state : InvestigationState) :
      DeskMove e d now replies s l (.claimed state) l (.looping (liveToolset state))
  | introduces (state : InvestigationState) (held : l.heldBy d.engine.owner) :
      DeskMove e d now replies s l (.claimed state)
        (wroteBy d now l (contextRecord e s now state.investigation)) .contextual
  | introduced (state : InvestigationState) (loaded : Loaded l state) :
      DeskMove e d now replies s l .contextual l (.looping (liveToolset state))
  | finds (x : ToolExecutor) (state : InvestigationState) (loaded : Loaded l state)
      (terminal : stateTerminal state = true) :
      DeskMove e d now replies s l (.looping x) l (.ended (some state.investigation.status))
  | loads (x : ToolExecutor) (state : InvestigationState) (loaded : Loaded l state)
      (goesOn : stateTerminal state = false) :
      DeskMove e d now replies s l (.looping x) l (.loaded state x)
  | takesUp (state : InvestigationState) (x : ToolExecutor) (last : InvestigationStepRow)
      (jobs : List Job) (left : outstanding e.schemas state.steps = some (last, jobs)) :
      DeskMove e d now replies s l (.loaded state x) l
        (.acting (.of state.investigation last.iteration (resumedReason state.investigation last))
          jobs x)
  | announces (state : InvestigationState) (x : ToolExecutor)
      (nothing : outstanding e.schemas state.steps = none)
      (within : enforceLimits now state = none) (held : l.heldBy d.engine.owner) :
      DeskMove e d now replies s l (.loaded state x)
        (wroteBy d now l (feedbackRecord (state.investigation.iterationCount + 1)
          (budgetNotice state.investigation (state.investigation.iterationCount + 1)
            (finalTurnReason state.investigation (state.investigation.iterationCount + 1) false))
          "budget"))
        (.noticed (state.investigation.iterationCount + 1)
          (finalTurnReason state.investigation (state.investigation.iterationCount + 1) false) x)
  | prepares (iteration : Nat) (finalReason : Option String) (x : ToolExecutor)
      (state : InvestigationState) (loaded : Loaded l state) :
      DeskMove e d now replies s l (.noticed iteration finalReason x) l
        (.asking state iteration finalReason 1 x)
  | fails (state : InvestigationState) (iteration : Nat) (finalReason : Option String)
      (attempt : Nat) (x : ToolExecutor) (error : ModelError)
      (more : attempt ≤ d.engine.attempts) (answer : replies.model = .error error)
      (held : l.heldBy d.engine.owner) :
      DeskMove e d now replies s l (.asking state iteration finalReason attempt x)
        (wroteBy d now l (errorRecord iteration attempt error))
        (d.afterError state iteration finalReason attempt x error)
  | hears (state : InvestigationState) (iteration : Nat) (finalReason : Option String)
      (attempt : Nat) (x : ToolExecutor) (turn : ModelTurn)
      (more : attempt ≤ d.engine.attempts) (answer : replies.model = .ok turn)
      (held : l.heldBy d.engine.owner) :
      DeskMove e d now replies s l (.asking state iteration finalReason attempt x)
        (wroteBy d now l (turnRecord iteration turn))
        (.acting (.of state.investigation iteration finalReason) (decisionJobs e.schemas turn) x)
  | returns (turn : Turn) (x : ToolExecutor) (goesOn : turn.finalReason = none) :
      DeskMove e d now replies s l (.acting turn [] x) l (.looping x)
  | notes (turn : Turn) (jobs : List Job) (x : ToolExecutor) (stopReason : String)
      (held : l.heldBy d.engine.owner) :
      DeskMove e d now replies s l (.acting turn (.noAction stopReason :: jobs) x)
        (wroteBy d now l (feedbackRecord turn.iteration (noActionText stopReason) "no_action"))
        (.acting turn jobs x)
  | applies (turn : Turn) (jobs : List Job) (x : ToolExecutor) (call : HypothesisUpdateCall)
      (row : InvestigationRow) (payload : StepPayload) (accounts : SameAccounts l.row row)
      (holder : SameHolder l.row row) (held : l.heldBy d.engine.owner) :
      DeskMove e d now replies s l (.acting turn (.update call :: jobs) x)
        { row, steps := l.steps ++ [l.next now d.id .hypothesisUpdate turn.iteration payload
          (some call.callId) none] }
        (.acting turn jobs x)
  | rejects (turn : Turn) (jobs : List Job) (x : ToolExecutor) (call : InvalidCall)
      (held : l.heldBy d.engine.owner) :
      DeskMove e d now replies s l (.acting turn (.invalid call :: jobs) x)
        (wroteBy d now l (invalidRecord turn.iteration call)) (.acting turn jobs x)
  | refuses (turn : Turn) (jobs : List Job) (x : ToolExecutor) (request : ToolRequest)
      (code text : String) (refused : turn.refusal request = some (code, text))
      (held : l.heldBy d.engine.owner) :
      DeskMove e d now replies s l (.acting turn (.request request :: jobs) x)
        (wroteBy d now l (refusedRecord turn.iteration request code text)) (.acting turn jobs x)
  | executes (turn : Turn) (jobs : List Job) (x : ToolExecutor) (request : ToolRequest)
      (allowed : turn.refusal request = none) :
      DeskMove e d now replies s l (.acting turn (.request request :: jobs) x) l
        (.answering turn request
          (executeTool e.compact x replies.tool request.tool request.arguments).1 jobs
          (executeTool e.compact x replies.tool request.tool request.arguments).2)
  | answers (turn : Turn) (jobs : List Job) (x : ToolExecutor) (request : ToolRequest)
      (outcome : ToolOutcome) (held : l.heldBy d.engine.owner) :
      DeskMove e d now replies s l (.answering turn request outcome jobs x)
        (wroteBy d now l (toolRecord turn.iteration request outcome))
        (.acting (turn.spend outcome) jobs x)
  /-- A conclusion is rejected. -/
  | unmet (turn : Turn) (jobs : List Job) (x : ToolExecutor) (call : ConclusionCall)
      (row : InvestigationRow) (payload : StepPayload) (accounts : SameAccounts l.row row)
      (holder : SameHolder l.row row) (held : l.heldBy d.engine.owner) :
      DeskMove e d now replies s l (.acting turn (.conclude call :: jobs) x)
        { row, steps := l.steps ++ [l.next now d.id .conclusionRejected turn.iteration payload
          (some call.callId) none] }
        (.acting turn jobs x)

section
variable {e : EngineEnv} {d : Desk} {now : Time} {replies : Replies} {s : Store} {l : Ledger}

/-- A state after a step of the desk, read off its ledger. -/
def DeskMoved (e : EngineEnv) (d : Desk) (now : Time) (replies : Replies) (s : Store) (l : Ledger)
    (p : Phase) (after : Store × Phase) : Prop :=
  ∃ l', ledgerOf after.1 d.id = some l' ∧ DeskMove e d now replies s l p l' after.2

theorem ifDone_moved {α : Type} {p : Phase} {outcome : Except DomainError (α × Store)}
    {next : α → Phase} (here : ledgerOf s d.id = some l)
    (move : ∀ a s', outcome = .ok (a, s') → DeskMoved e d now replies s l p (s', next a)) :
    DeskMoved e d now replies s l p (ifDone s outcome next) := by
  unfold ifDone
  cases done : outcome with
  | error refusal => exact ⟨l, here, .raises p⟩
  | ok answer => exact move answer.1 answer.2 done

theorem record_moved {p next : Phase} {record : StepRecord} (here : ledgerOf s d.id = some l)
    (move : l.heldBy d.engine.owner →
      DeskMove e d now replies s l p (wroteBy d now l record) next) :
    DeskMoved e d now replies s l p (d.record now s record next) := by
  refine ifDone_moved here fun sequence s' done => ?_
  obtain ⟨held, after⟩ := ledgerOf_recordStep here done
  exact ⟨_, after, move held⟩

theorem escalate_moved (p : Phase) (iteration : Nat) (escalation : Escalation)
    (here : ledgerOf s d.id = some l) :
    DeskMoved e d now replies s l p (d.escalate now s iteration escalation) := by
  refine ifDone_moved here fun _ s' done => ?_
  obtain ⟨held, l', after, final⟩ := ledgerOf_escalate here done
  exact ⟨l', after, .closes p _ l' held final⟩

theorem load_moved {p : Phase} {next : InvestigationState → Phase}
    (here : ledgerOf s d.id = some l)
    (move : ∀ state, Loaded l state → DeskMove e d now replies s l p l (next state)) :
    DeskMoved e d now replies s l p (d.load s next) := by
  unfold Desk.load
  cases read : loadState s d.id with
  | error refusal => exact ⟨l, here, .raises p⟩
  | ok state => exact ⟨l, here, move state (loaded_of_loadState here read)⟩

theorem ledgerOf_registering (here : ledgerOf s d.id = some l) (x : ToolExecutor)
    (backend : Backend) (request : ToolRequest) :
    ledgerOf (d.registering now s x backend request) d.id = some l := by
  unfold Desk.registering
  split_ifs
  · exact here
  · exact ledgerOf_registerFound here _

theorem process_moved (here : ledgerOf s d.id = some l) (turn : Turn) (jobs : List Job)
    (x : ToolExecutor) (job : Job) :
    DeskMoved e d now replies s l (.acting turn (job :: jobs) x)
      (d.process e now s replies.tool turn jobs x job) := by
  cases job with
  | noAction stopReason => exact record_moved here (.notes turn jobs x stopReason)
  | update call =>
    refine ifDone_moved here fun outcome s' done => ?_
    obtain ⟨held, row, payload, accounts, holder, after⟩ :=
      ledgerOf_applyHypothesisUpdates here done
    exact ⟨_, after, .applies turn jobs x call row payload accounts holder held⟩
  | invalid call => exact record_moved here (.rejects turn jobs x call)
  | request request =>
    cases refused : turn.refusal request with
    | some reason =>
      simp only [Desk.process, refused]
      exact record_moved here (.refuses turn jobs x request _ _ refused)
    | none =>
      simp only [Desk.process, refused]
      exact ⟨l, ledgerOf_registering here x replies.tool request,
        .executes turn jobs x request refused⟩
  | conclude call =>
    refine ifDone_moved here fun outcome s' done => ?_
    obtain ⟨held, l', after, result⟩ := ledgerOf_complete here done
    refine ⟨l', after, ?_⟩
    split_ifs at result with accepted
    · simp only [accepted, if_true]
      exact .closes _ _ l' held result
    · simp only [accepted]
      obtain ⟨row, steps⟩ := l'
      obtain ⟨accounts, holder, payload, grown⟩ := result
      cases grown
      exact .unmet turn jobs x call row payload accounts holder held
  | declare call => exact escalate_moved _ _ _ here

theorem iterate_moved (here : ledgerOf s d.id = some l) (state : InvestigationState)
    (x : ToolExecutor) :
    DeskMoved e d now replies s l (.loaded state x) (d.iterate e now s state x) := by
  unfold Desk.iterate
  cases left : outstanding e.schemas state.steps with
  | some unfinished =>
    obtain ⟨last, jobs⟩ := unfinished
    exact ⟨l, here, .takesUp state x last jobs left⟩
  | none =>
    cases limit : enforceLimits now state with
    | some escalation =>
      simp only [limit]
      exact escalate_moved _ _ _ here
    | none =>
      simp only [limit]
      exact record_moved here (.announces state x left limit)

/-- What a step of the engine can do. -/
theorem work_moved (here : ledgerOf s d.id = some l) (p : Phase) :
    DeskMoved e d now replies s l p (d.work e now replies s p) := by
  cases p with
  | claimed state =>
    unfold Desk.work
    cases replies.factory with
    | error text => exact escalate_moved _ _ _ here
    | ok _ =>
      simp only
      split_ifs
      · exact ⟨l, here, .resumes state⟩
      · cases s.incidents[state.investigation.incidentId]? with
        | none => exact ⟨l, here, .raises _⟩
        | some _ => exact record_moved here (.introduces state)
  | contextual => exact load_moved here fun state loaded => .introduced state loaded
  | looping x =>
    refine load_moved here fun state loaded => ?_
    split_ifs with terminal
    · exact .finds x state loaded terminal
    · exact .loads x state loaded (Bool.eq_false_iff.mpr terminal)
  | loaded state x => exact iterate_moved here state x
  | noticed iteration finalReason x =>
    exact load_moved here fun state loaded => .prepares iteration finalReason x state loaded
  | asking state iteration finalReason attempt x =>
    by_cases spent : d.engine.attempts < attempt
    · simp only [Desk.work, if_pos spent]
      exact ⟨l, here, .raises _⟩
    · have more := Nat.le_of_not_lt spent
      simp only [Desk.work, if_neg spent]
      cases answer : replies.model with
      | error error =>
        exact record_moved here (.fails state iteration finalReason attempt x error more answer)
      | ok turn =>
        exact record_moved here (.hears state iteration finalReason attempt x turn more answer)
  | failing iteration reason detail => exact escalate_moved _ _ _ here
  | acting turn jobs x =>
    cases jobs with
    | nil =>
      cases final : turn.finalReason with
      | some reason =>
        simp only [Desk.work, final]
        exact escalate_moved _ _ _ here
      | none =>
        simp only [Desk.work, final]
        exact ⟨l, here, .returns turn x final⟩
    | cons job jobs => exact process_moved here turn jobs x job
  | answering turn request outcome jobs x =>
    exact record_moved here (.answers turn jobs x request outcome)
  | ended status => exact ⟨l, here, .rests status⟩

/-- A worker that lost its lease writes nothing. -/
theorem DeskMove.frame {p p' : Phase} {l' : Ledger} (move : DeskMove e d now replies s l p l' p')
    (lost : ¬ l.heldBy d.engine.owner) : l' = l := by
  cases move with
  | raises | rests | resumes | introduced | finds | loads | takesUp | prepares | returns
    | executes => rfl
  | closes p status l' held final => exact absurd held lost
  | introduces state held => exact absurd held lost
  | announces state x nothing within held => exact absurd held lost
  | fails state iteration finalReason attempt x error more answer held => exact absurd held lost
  | hears state iteration finalReason attempt x turn more answer held => exact absurd held lost
  | notes turn jobs x stopReason held => exact absurd held lost
  | applies turn jobs x call row payload accounts holder held => exact absurd held lost
  | rejects turn jobs x call held => exact absurd held lost
  | refuses turn jobs x request code text refused held => exact absurd held lost
  | answers turn jobs x request outcome held => exact absurd held lost
  | unmet turn jobs x call row payload accounts holder held => exact absurd held lost

/-- Nobody gets the lease from a step of a worker. -/
theorem DeskMove.heldBy_before {p p' : Phase} {l' : Ledger} {owner : String}
    (move : DeskMove e d now replies s l p l' p') (held' : l'.heldBy owner) : l.heldBy owner := by
  cases move with
  | closes p status l' held final =>
    obtain ⟨investigating, _⟩ := held'
    have terminal := final.terminal
    rw [investigating] at terminal
    exact absurd terminal (by decide)
  | applies turn jobs x call row payload accounts holder held =>
    exact ⟨holder.status.symm.trans held'.1, holder.leaseOwner.symm.trans held'.2⟩
  | unmet turn jobs x call row payload accounts holder held =>
    exact ⟨holder.status.symm.trans held'.1, holder.leaseOwner.symm.trans held'.2⟩
  | _ => exact held'

end

/-- The holder keeps the lease as long as it runs. -/
theorem DeskMove.heldBy_after {e : EngineEnv} {d : Desk} {now : Time} {replies : Replies} {s : Store}
    {l l' : Ledger} {p p' : Phase} (move : DeskMove e d now replies s l p l' p')
    (held : l.heldBy d.engine.owner) (live : p'.live = true) : l'.heldBy d.engine.owner := by
  cases move with
  | closes p status l' _ final => cases live
  | applies turn jobs x call row payload accounts holder _ =>
    exact ⟨holder.status.trans held.1, holder.leaseOwner.trans held.2⟩
  | unmet turn jobs x call row payload accounts holder _ =>
    exact ⟨holder.status.trans held.1, holder.leaseOwner.trans held.2⟩
  | _ => exact held

/-! ## Runs -/

section
variable {e : EngineEnv} {id : Uuid} {w : Workshop} {k : Nat} {now : Time} {replies : Replies}
  {worker : Worker}

theorem step_crash_missing (row : w.workers[k]? = none) : w.step e id (.crash k) = w := by
  simp only [Workshop.step, row]

theorem step_crash (row : w.workers[k]? = some worker) :
    w.step e id (.crash k) =
      { w with workers := w.workers.set k { worker with phase := .ended none } } := by
  simp only [Workshop.step, row]

theorem step_work_missing (row : w.workers[k]? = none) :
    w.step e id (.work k now replies) = w := by
  simp only [Workshop.step, row]

theorem step_work (row : w.workers[k]? = some worker) :
    w.step e id (.work k now replies) =
      { store := (Desk.work e { id, engine := worker.engine } now replies w.store worker.phase).1
        workers := w.workers.set k { worker with phase := (Desk.work e
          { id, engine := worker.engine } now replies w.store worker.phase).2 } } := by
  simp only [Workshop.step, row]

end

/-- What is said of the ledger holds, and what is said of memory holds of the worker that
has the lease. -/
structure Synced (good : Ledger → Prop) (sync : Ledger → Phase → Prop) (id : Uuid)
    (w : Workshop) : Prop where
  current : ∃ l, ledgerOf w.store id = some l ∧ good l ∧ ∀ (k : Nat) (worker : Worker),
    w.workers[k]? = some worker → worker.phase.live = true → l.heldBy worker.engine.owner →
      sync l worker.phase
  /-- Workers that are alive have names of their own. -/
  distinct : ∀ (j k : Nat) (one other : Worker), w.workers[j]? = some one →
    w.workers[k]? = some other → one.phase.live = true → other.phase.live = true →
      one.engine.owner = other.engine.owner → j = k

/-- A condition on what the worker that has the lease does next. -/
def NextMove (allowed : Ledger → Phase → Replies → Prop) (id : Uuid) (w : Workshop) :
    WorkEvent → Prop
  | .work k _ replies => ∀ worker ∈ w.workers[k]?, ∀ l ∈ ledgerOf w.store id,
      worker.phase.live = true → l.heldBy worker.engine.owner → allowed l worker.phase replies
  | .claim .. | .crash .. | .elsewhere .. => True

instance (l : Ledger) (owner : String) : Decidable (l.heldBy owner) :=
  inferInstanceAs (Decidable (_ ∧ _))

instance decidableNextMove {allowed : Ledger → Phase → Replies → Prop}
    [∀ l p replies, Decidable (allowed l p replies)] (id : Uuid) (w : Workshop) :
    (event : WorkEvent) → Decidable (NextMove allowed id w event)
  | .work .. => inferInstanceAs (Decidable (∀ worker ∈ _, ∀ l ∈ _, _ → _ → _))
  | .claim .. | .crash .. | .elsewhere .. => isTrue trivial

/-- The tool request that a run executes next, and its executor. -/
def nextCall : Phase → Option (ToolRequest × ToolExecutor)
  | .acting turn (.request request :: _) x =>
    if turn.refusal request = none then some (request, x) else none
  | _ => none

/-- The model is asked for a turn. -/
def asksModel : Phase → Bool
  | .asking .. => true
  | _ => false

/-- What a claim and a step of the lease's holder keep. -/
structure Keeps (e : EngineEnv) (id : Uuid) (allowed : Ledger → Phase → Replies → Prop)
    (good : Ledger → Prop) (sync : Ledger → Phase → Prop) : Prop where
  claimed : ∀ {owner : String} {l l' : Ledger} {state : InvestigationState}, good l →
    Claimed owner l l' → Loaded l' state → good l' ∧ sync l' (.claimed state)
  moved : ∀ {d : Desk} {now : Time} {replies : Replies} {s : Store} {l l' : Ledger}
    {p p' : Phase}, d.id = id → l.heldBy d.engine.owner → good l → sync l p →
      allowed l p replies → DeskMove e d now replies s l p l' p' →
        good l' ∧ (p'.live = true → sync l' p')

section
variable {e : EngineEnv} {id : Uuid} {allowed : Ledger → Phase → Replies → Prop}
  {good : Ledger → Prop} {sync : Ledger → Phase → Prop} {w : Workshop}

theorem Synced.elsewhere (sound : Synced good sync id w) (s : Store) :
    Synced good sync id (w.step e id (.elsewhere s)) := by
  obtain ⟨⟨l, here, holds, memory⟩, distinct⟩ := sound
  refine ⟨⟨l, ?_, holds, memory⟩, distinct⟩
  rw [← here]
  exact ledgerOf_congr id rfl rfl

/-- A worker in a phase of its own is the only one whose phase changes. -/
theorem Synced.put (sound : Synced good sync id w) {k : Nat} {worker : Worker}
    (row : w.workers[k]? = some worker) {p' : Phase} {s' : Store} {l' : Ledger}
    (grows : p'.live = true → worker.phase.live = true)
    (here : ledgerOf s' id = some l') (holds : good l')
    (own : p'.live = true → l'.heldBy worker.engine.owner → sync l' p')
    (others : ∀ (j : Nat) (other : Worker), j ≠ k → w.workers[j]? = some other →
      other.phase.live = true → l'.heldBy other.engine.owner → sync l' other.phase) :
    Synced good sync id
      { store := s', workers := w.workers.set k { worker with phase := p' } } := by
  constructor
  · refine ⟨l', here, holds, ?_⟩
    intro j other row' live held
    rcases (Table.get_put row).mp row' with ⟨rfl, rfl⟩ | ⟨elsewhere, row'⟩
    · exact own live held
    · exact others j other elsewhere row' live held
  · intro i j one other first second liveOne liveOther same
    rcases (Table.get_put row).mp first with ⟨rfl, rfl⟩ | ⟨_, earlier⟩
    · rcases (Table.get_put row).mp second with ⟨rfl, _⟩ | ⟨_, later⟩
      · rfl
      · exact sound.distinct _ j worker other row later (grows liveOne) liveOther same
    · rcases (Table.get_put row).mp second with ⟨rfl, rfl⟩ | ⟨_, later⟩
      · exact sound.distinct i _ one worker earlier row liveOne (grows liveOther) same
      · exact sound.distinct i j one other earlier later liveOne liveOther same

theorem Synced.crash (sound : Synced good sync id w) (k : Nat) :
    Synced good sync id (w.step e id (.crash k)) := by
  cases row : w.workers[k]? with
  | none =>
    rw [step_crash_missing row]
    exact sound
  | some worker =>
    rw [step_crash row]
    obtain ⟨l, here, holds, memory⟩ := sound.current
    refine sound.put row (fun live => by cases live) here holds (fun live => by cases live) ?_
    exact fun j other _ row' => memory j other row'

theorem Synced.work (keeps : Keeps e id allowed good sync) (sound : Synced good sync id w)
    {k : Nat} {now : Time} {replies : Replies}
    (next : NextMove allowed id w (.work k now replies)) :
    Synced good sync id (w.step e id (.work k now replies)) := by
  cases row : w.workers[k]? with
  | none =>
    rw [step_work_missing row]
    exact sound
  | some worker =>
    rw [step_work row]
    obtain ⟨l, here, holds, memory⟩ := sound.current
    by_cases live : worker.phase.live = true
    · have moved : DeskMoved e { id, engine := worker.engine } now replies w.store l worker.phase
          (Desk.work e { id, engine := worker.engine } now replies w.store worker.phase) :=
        work_moved here worker.phase
      obtain ⟨l', after, move⟩ := moved
      by_cases held : l.heldBy worker.engine.owner
      · have synced := memory k worker row live held
        obtain ⟨holds', own⟩ := keeps.moved rfl held holds synced
          (next worker row l here live held) move
        refine sound.put row (fun _ => live) after holds' (fun live' _ => own live') ?_
        -- the others have other names, and a step of the holder passes the lease to nobody
        intro j other elsewhere row' liveOther heldOther
        have owner := (move.heldBy_before heldOther).2
        rw [held.2] at owner
        exact absurd (sound.distinct j k other worker row' row liveOther live
          (Option.some.inj owner).symm) elsewhere
      · cases move.frame held
        refine sound.put row (fun _ => live) after holds (fun _ held' => absurd held' held) ?_
        exact fun j other _ row' => memory j other row'
    · obtain ⟨engine, phase⟩ := worker
      cases phase with
      | ended status =>
        have same : w.workers.set k { engine, phase := .ended status } = w.workers :=
          Table.set_same row
        simp only [Desk.work, same]
        exact sound
      | _ => exact absurd rfl live

theorem Synced.claim (keeps : Keeps e id allowed good sync) (sound : Synced good sync id w)
    (now : Time) (engine : Engine) :
    Synced good sync id (w.step e id (.claim now engine)) := by
  unfold Workshop.step
  simp only
  split_ifs with busy
  · exact sound
  · obtain ⟨l, here, holds, memory⟩ := sound.current
    cases done : Incident.claim now w.store id engine.owner engine.leaseSeconds with
    | error refusal => exact sound
    | ok answer =>
      obtain ⟨state, s'⟩ := answer
      rcases ledgerOf_claim here done with ⟨rfl, after⟩ | ⟨l', loaded, rfl, after, claimed, read⟩
      · exact ⟨⟨l, after, holds, memory⟩, sound.distinct⟩
      · obtain ⟨holds', synced⟩ := keeps.claimed holds claimed read
        have others : ∀ (j : Nat) (worker : Worker), w.workers[j]? = some worker →
            worker.phase.live = true → worker.engine.owner ≠ engine.owner := by
          intro j worker row live same
          refine busy (List.any_eq_true.mpr ⟨worker, List.mem_of_getElem? row, ?_⟩)
          simp [live, same]
        constructor
        · refine ⟨l', after, holds', ?_⟩
          intro j worker row live held
          rcases Table.get_insert.mp row with old | ⟨_, rfl⟩
          · have owner := held.2
            rw [claimed.leaseOwner] at owner
            exact absurd (Option.some.inj owner).symm (others j worker old live)
          · exact synced
        · intro i j one other first second liveOne liveOther same
          rcases Table.get_insert.mp first with old | ⟨rfl, rfl⟩
          · rcases Table.get_insert.mp second with old' | ⟨_, rfl⟩
            · exact sound.distinct i j one other old old' liveOne liveOther same
            · exact absurd same (others i one old liveOne)
          · rcases Table.get_insert.mp second with old' | ⟨rfl, _⟩
            · exact absurd same.symm (others j other old' liveOther)
            · rfl

theorem Synced.step (keeps : Keeps e id allowed good sync) (sound : Synced good sync id w)
    (event : WorkEvent) (next : NextMove allowed id w event) :
    Synced good sync id (w.step e id event) := by
  cases event with
  | claim now engine => exact sound.claim keeps now engine
  | work k now replies => exact sound.work keeps next
  | crash k => exact sound.crash k
  | elsewhere s => exact sound.elsewhere s

end

/-- Whatever the workers do and wherever they crash, as long as the holder of the lease
does what is allowed. -/
theorem workshop_synced {e : EngineEnv} {id : Uuid}
    {allowed : Ledger → Phase → Replies → Prop} {good : Ledger → Prop}
    {sync : Ledger → Phase → Prop} (keeps : Keeps e id allowed good sync) {s : Store} {l : Ledger}
    (here : ledgerOf s id = some l) (holds : good l) {events : List WorkEvent}
    (met : Machine.StepsMeet (NextMove allowed id) (Workshop.step e id)
      { store := s, workers := [] } events) :
    Synced good sync id (workshopFrom e id s events) := by
  have start : Synced good sync id { store := s, workers := [] } :=
    ⟨⟨l, here, holds, fun k worker row => by simp at row⟩,
      fun j k one other row => by simp at row⟩
  exact Machine.invariant_of_stepsMeet (P := Synced good sync id) start
    (fun w event next sound => sound.step keeps event next) met

/-- Where everything is allowed, every run is. -/
theorem stepsMeet_free (e : EngineEnv) (id : Uuid) (w : Workshop) (events : List WorkEvent) :
    Machine.StepsMeet (NextMove (fun _ _ _ => True) id) (Workshop.step e id) w events := by
  induction events generalizing w with
  | nil => trivial
  | cons event events ih =>
    refine ⟨?_, ih _⟩
    cases event with
    | work k now replies => exact fun _ _ _ _ _ _ => trivial
    | _ => trivial

/-! ## One worker after the other -/

/-- A worker takes the investigation over only where no other is alive. -/
def TakesOver (e : EngineEnv) (id : Uuid) (w : Workshop) (event : WorkEvent) : Prop :=
  ∀ now engine, event = .claim now engine →
    (w.step e id event).workers = w.workers ∨ ∀ worker ∈ w.workers, worker.phase.live = false

/-- At most one worker is alive, and it has the lease. -/
structure LoneHolder (id : Uuid) (w : Workshop) : Prop where
  current : ∃ l, ledgerOf w.store id = some l ∧ ∀ (k : Nat) (worker : Worker),
    w.workers[k]? = some worker → worker.phase.live = true → l.heldBy worker.engine.owner
  alone : ∀ (j k : Nat) (one other : Worker), w.workers[j]? = some one →
    w.workers[k]? = some other → one.phase.live = true → other.phase.live = true → j = k

section
variable {e : EngineEnv} {id : Uuid} {w : Workshop}

theorem LoneHolder.put (lone : LoneHolder id w) {k : Nat} {worker : Worker}
    (row : w.workers[k]? = some worker) {p' : Phase} {s' : Store} {l' : Ledger}
    (grows : p'.live = true → worker.phase.live = true) (here : ledgerOf s' id = some l')
    (own : p'.live = true → l'.heldBy worker.engine.owner)
    (others : ∀ (j : Nat) (other : Worker), j ≠ k → w.workers[j]? = some other →
      other.phase.live = true → l'.heldBy other.engine.owner) :
    LoneHolder id { store := s', workers := w.workers.set k { worker with phase := p' } } := by
  constructor
  · refine ⟨l', here, fun j other row' live => ?_⟩
    rcases (Table.get_put row).mp row' with ⟨rfl, rfl⟩ | ⟨elsewhere, row'⟩
    · exact own live
    · exact others j other elsewhere row' live
  · intro i j one other first second liveOne liveOther
    rcases (Table.get_put row).mp first with ⟨rfl, rfl⟩ | ⟨_, earlier⟩
    · rcases (Table.get_put row).mp second with ⟨rfl, _⟩ | ⟨_, later⟩
      · rfl
      · exact lone.alone _ j worker other row later (grows liveOne) liveOther
    · rcases (Table.get_put row).mp second with ⟨rfl, rfl⟩ | ⟨_, later⟩
      · exact lone.alone i _ one worker earlier row liveOne (grows liveOther)
      · exact lone.alone i j one other earlier later liveOne liveOther

theorem LoneHolder.work (lone : LoneHolder id w) (k : Nat) (now : Time) (replies : Replies) :
    LoneHolder id (w.step e id (.work k now replies)) := by
  cases row : w.workers[k]? with
  | none =>
    rw [step_work_missing row]
    exact lone
  | some worker =>
    rw [step_work row]
    obtain ⟨l, here, holders⟩ := lone.current
    by_cases live : worker.phase.live = true
    · have moved : DeskMoved e { id, engine := worker.engine } now replies w.store l worker.phase
          (Desk.work e { id, engine := worker.engine } now replies w.store worker.phase) :=
        work_moved here worker.phase
      obtain ⟨l', after, move⟩ := moved
      refine lone.put row (fun _ => live) after (move.heldBy_after (holders k worker row live)) ?_
      exact fun j other elsewhere row' liveOther =>
        absurd (lone.alone j k other worker row' row liveOther live) elsewhere
    · obtain ⟨engine, phase⟩ := worker
      cases phase with
      | ended status =>
        have same : w.workers.set k { engine, phase := .ended status } = w.workers :=
          Table.set_same row
        simp only [Desk.work, same]
        exact lone
      | _ => exact absurd rfl live

theorem LoneHolder.claim (lone : LoneHolder id w) (now : Time) (engine : Engine)
    (takesOver : TakesOver e id w (.claim now engine)) :
    LoneHolder id (w.step e id (.claim now engine)) := by
  have noneElse := takesOver now engine rfl
  unfold Workshop.step at noneElse ⊢
  simp only at noneElse ⊢
  split_ifs at noneElse ⊢ with busy
  · exact lone
  · obtain ⟨l, here, holders⟩ := lone.current
    cases done : Incident.claim now w.store id engine.owner engine.leaseSeconds with
    | error refusal => exact lone
    | ok answer =>
      obtain ⟨state, s'⟩ := answer
      rcases ledgerOf_claim here done with ⟨rfl, after⟩ | ⟨l', loaded, rfl, after, claimed, read⟩
      · exact ⟨⟨l, after, holders⟩, lone.alone⟩
      · simp only [done] at noneElse
        have others : ∀ (j : Nat) (worker : Worker), w.workers[j]? = some worker →
            worker.phase.live = true → False := by
          intro j worker row live
          rcases noneElse with same | dead
          · simp at same
          · rw [dead worker (List.mem_of_getElem? row)] at live
            cases live
        constructor
        · refine ⟨l', after, fun j worker row live => ?_⟩
          rcases Table.get_insert.mp row with old | ⟨_, rfl⟩
          · exact absurd live fun live => others j worker old live
          · exact ⟨claimed.status, claimed.leaseOwner⟩
        · intro i j one other first second liveOne liveOther
          rcases Table.get_insert.mp first with old | ⟨rfl, rfl⟩
          · exact absurd liveOne fun live => others i one old live
          · rcases Table.get_insert.mp second with old' | ⟨rfl, _⟩
            · exact absurd liveOther fun live => others j other old' live
            · rfl

theorem LoneHolder.step (lone : LoneHolder id w) (event : WorkEvent)
    (takesOver : TakesOver e id w event) : LoneHolder id (w.step e id event) := by
  cases event with
  | claim now engine => exact lone.claim now engine takesOver
  | work k now replies => exact lone.work k now replies
  | crash k =>
    cases row : w.workers[k]? with
    | none =>
      rw [step_crash_missing row]
      exact lone
    | some worker =>
      rw [step_crash row]
      obtain ⟨l, here, holders⟩ := lone.current
      refine lone.put row (fun live => by cases live) here (fun live => by cases live) ?_
      exact fun j other _ row' => holders j other row'
  | elsewhere s =>
    obtain ⟨⟨l, here, holders⟩, alone⟩ := lone
    refine ⟨⟨l, ?_, holders⟩, alone⟩
    rw [← here]
    exact ledgerOf_congr id rfl rfl

/-- Where a worker resumes only what others have left, the live one has the lease. -/
theorem workshop_loneHolder {s : Store} {l : Ledger} (here : ledgerOf s id = some l)
    {events : List WorkEvent}
    (met : Machine.StepsMeet (TakesOver e id) (Workshop.step e id) { store := s, workers := [] }
      events) : LoneHolder id (workshopFrom e id s events) := by
  have start : LoneHolder id { store := s, workers := [] } :=
    ⟨⟨l, here, fun k worker row => by simp at row⟩, fun j k one other row => by simp at row⟩
  exact Machine.invariant_of_stepsMeet (P := LoneHolder id) start
    (fun w event takesOver lone => lone.step event takesOver) met

end

end IncidentTriage.Verified
