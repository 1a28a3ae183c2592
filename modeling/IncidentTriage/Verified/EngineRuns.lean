import IncidentTriage.Verified.Answerable
import IncidentTriage.Verified.Budgets
import IncidentTriage.Verified.Leftovers

/-! # One worker's run

`OwnMove` says what an event of the workshop means to one worker that was not crashed: its
own step, the outcome of its toolset, or a wait in which its ledger stays as it is, or its
lease is lost for good.
-/

namespace IncidentTriage.Verified

open IncidentTriage.Python IncidentTriage.Domain IncidentTriage.Incident IncidentTriage.Tools
  IncidentTriage.Agents

/-! ## What a worker remembers -/

/-- What the holder of the lease remembers of the trace and of the iterations. -/
def Remembers (l : Ledger) : Phase → Prop
  | .loaded state _ => Loaded l state
  | .noticed iteration _ _ | .asking _ iteration _ _ _ =>
    iteration = l.row.iterationCount + 1 ∧ l.row.iterationCount < l.row.budget.maxIterations
  | .acting _ jobs _ => Covers l jobs
  | .answering _ request _ jobs _ => Covers l (.request request :: jobs)
  | .claimed _ | .contextual | .looping _ | .failing .. | .ended _ => True

section
variable {e : EngineEnv} {d : Desk} {now : Time} {replies : Replies} {s : Store} {l l' : Ledger}
  {p p' : Phase}

theorem lt_next_sequence {id : Uuid} {kind : StepKind} {iteration : Nat} {payload : StepPayload}
    {callId : Option String} {latencyMs : Option Nat} : ∀ step ∈ l.steps,
      step.sequence < (l.next now id kind iteration payload callId latencyMs).sequence :=
  fun _ member => lt_nextSequence (List.mem_map_of_mem member)

/-- A job that the engine records itself. -/
theorem Covers.wroteBy {job : Job} {jobs : List Job} {record : StepRecord}
    (covers : Covers l (job :: jobs)) (d : Desk) (now : Time) (noTurn : record.kind ≠ .modelTurn)
    (told : ∀ reason, job = .noAction reason → record.kind = .feedback)
    (answered : ∀ call, jobCall job = some call →
      actionStepKinds.contains record.kind = true ∧ record.callId = some call) :
    Covers (wroteBy d now l record) jobs :=
  covers.did rfl lt_next_sequence ⟨beq_eq_false_iff_ne.mpr noTurn, told, answered⟩

/-- A job that incident-core records. -/
theorem Covers.recorded {job : Job} {jobs : List Job} {call : String} {kind : StepKind}
    (covers : Covers l (job :: jobs)) (named : jobCall job = some call)
    (answers : actionStepKinds.contains kind = true) (noTurn : kind ≠ .modelTurn) (now : Time)
    (id : Uuid) (row : InvestigationRow) (iteration : Nat) (payload : StepPayload) :
    Covers { row, steps := l.steps ++ [l.next now id kind iteration payload (some call) none] }
      jobs := by
  refine covers.did rfl lt_next_sequence ⟨beq_eq_false_iff_ne.mpr noTurn, ?_, ?_⟩
  · rintro reason rfl
    cases named
  · intro other same
    rw [named] at same
    cases same
    exact ⟨answers, rfl⟩

/-- The holder's own steps keep what it remembers true. -/
theorem DeskMove.remembers (move : DeskMove e d now replies s l p l' p') (memory : Remembers l p)
    (live : p'.live = true) : Remembers l' p' := by
  cases move with
  | raises | closes | finds => cases live
  | rests | resumes | introduces | introduced | returns => trivial
  | loads x state loaded goesOn => exact loaded
  | takesUp state x last jobs left =>
    have loaded : Loaded l state := memory
    rw [loaded.steps] at left
    exact .takenUp left
  | announces state x nothing within held =>
    have loaded : Loaded l state := memory
    obtain ⟨below, _⟩ := below_of_enforceLimits loaded within
    rw [loaded.investigation]
    exact ⟨rfl, below⟩
  | prepares iteration finalReason x state loaded => exact memory
  | fails state iteration finalReason attempt x error more answer held =>
    have before : iteration = l.row.iterationCount + 1 ∧
      l.row.iterationCount < l.row.budget.maxIterations := memory
    obtain ⟨reason, detail, gaveUp⟩ | again :=
      afterError_cases d state iteration finalReason attempt x error
    · rw [gaveUp]
      trivial
    · rw [again]
      exact before
  | hears state iteration finalReason attempt x turn more answer held =>
    exact .heard rfl rfl lt_next_sequence (recordedActions_fields ..)
  | notes turn jobs x stopReason held =>
    exact Covers.wroteBy memory d now (by simp [feedbackRecord]) (fun _ _ => rfl)
      (fun call named => by cases named)
  | applies turn jobs x call row payload accounts holder held =>
    exact Covers.recorded memory rfl rfl (by simp) now d.id row turn.iteration payload
  | unmet turn jobs x call row payload accounts holder held =>
    exact Covers.recorded memory rfl rfl (by simp) now d.id row turn.iteration payload
  | rejects turn jobs x call held =>
    refine Covers.wroteBy memory d now (by simp [invalidRecord]) (fun _ same => by cases same) ?_
    intro other named
    cases named
    exact ⟨rfl, rfl⟩
  | refuses turn jobs x request code text refused held =>
    refine Covers.wroteBy memory d now (by simp [refusedRecord]) (fun _ same => by cases same) ?_
    intro other named
    cases named
    exact ⟨rfl, rfl⟩
  | executes turn jobs x request allowed => exact memory
  | answers turn jobs x request outcome held =>
    have covers : Covers l (.request request :: jobs) := memory
    refine Covers.wroteBy covers d now (by simp [toolRecord]) (fun _ same => by cases same) ?_
    intro other named
    cases named
    exact ⟨rfl, rfl⟩

/-- A worker counts its attempts. -/
theorem DeskMove.carries (move : DeskMove e d now replies s l p l' p') {i : Uuid}
    (some_ : 1 ≤ d.engine.attempts) (carries : Carries d.engine i p) (live : p'.live = true) :
    Carries d.engine i p' := by
  cases move with
  | raises | closes | finds => cases live
  | prepares iteration finalReason x state loaded => exact ⟨le_rfl, some_⟩
  | fails state iteration finalReason attempt x error more answer held =>
    by_cases gaveUp : (!error.retryable || attempt == d.engine.attempts) = true
    · rw [Desk.afterError, if_pos gaveUp]
      trivial
    · rw [Desk.afterError, if_neg gaveUp]
      simp only [Bool.or_eq_true, beq_iff_eq, not_or] at gaveUp
      exact ⟨Nat.succ_pos _, Nat.lt_of_le_of_ne more gaveUp.2⟩
  | rests => exact carries
  | _ => trivial

/-- Who has ended does nothing. -/
theorem work_dead (dead : ¬ p.live = true) : d.work e now replies s p = (s, p) := by
  cases p with
  | ended status => rfl
  | _ => exact absurd rfl dead

/-- Traces only grow. -/
theorem DeskMove.steps_le (move : DeskMove e d now replies s l p l' p') :
    l.steps.length ≤ l'.steps.length := by
  have one (row : InvestigationRow) (step : InvestigationStepRow) :
      l.steps.length ≤ (Ledger.mk row (l.steps ++ [step])).steps.length := by
    simp
  cases move with
  | raises | rests | resumes | introduced | finds | loads | takesUp | prepares | returns
    | executes => exact le_rfl
  | closes p status l' held final =>
    obtain ⟨iteration, payload, callId, steps⟩ := final.steps
    rw [steps]
    exact one l.row _
  | _ => exact one _ _

/-- Nobody comes back. -/
theorem DeskMove.live_before (move : DeskMove e d now replies s l p l' p')
    (live : p'.live = true) : p.live = true := by
  cases move with
  | raises | closes | finds | rests => cases live
  | _ => rfl

end

/-! ## One worker among others -/

/-- One worker, and what it sees of the investigation. -/
structure Own (id i : Uuid) (k : Nat) (engine : Engine) (w : Workshop) (x : Ledger × Phase) :
    Prop where
  here : ledgerOf w.store id = some x.1
  row : w.workers[k]? = some { engine, phase := x.2 }
  placed : Placed w.store id i
  /-- As long as it is alive, no other has its name. -/
  alone : x.2.live = true → ∀ (j : Nat) (other : Worker), w.workers[j]? = some other →
    other.phase.live = true → other.engine.owner = engine.owner → j = k
  carries : x.2.live = true → Carries engine i x.2
  memory : x.2.live = true → x.1.heldBy engine.owner → Remembers x.1 x.2

/-- Events that neither crash the worker nor take the incident away. -/
def Permitted (i : Uuid) (k : Nat) : RunEvent → Prop
  | .event (.crash j) => j ≠ k
  | .event (.elsewhere s) => i < s.incidents.length
  | _ => True

/-- What an event means to one worker. -/
inductive OwnMove (e : EngineEnv) (id : Uuid) (k : Nat) (engine : Engine) :
    RunEvent → Ledger × Phase → Ledger × Phase → Prop
  | gone (event : RunEvent) (l l' : Ledger) (p : Phase) (dead : p.live = false)
      (grown : l.steps.length ≤ l'.steps.length) :
      OwnMove e id k engine event (l, p) (l', p)
  | works (now : Time) (replies : Replies) (s : Store) (l l' : Ledger) (p p' : Phase)
      (live : p.live = true) (move : DeskMove e { id, engine } now replies s l p l' p')
      (raised : p' = .ended none → ¬ l.heldBy engine.owner)
      (returned : ∀ status, p' = .ended (some status) →
        status ∈ terminalInvestigationStatuses ∧ l'.row.status = status) :
      OwnMove e id k engine (.event (.work k now replies)) (l, p) (l', p')
  | toolset (outcome : ToolOutcome) (l : Ledger) (p : Phase) (live : p.live = true) :
      OwnMove e id k engine (.toolset k outcome) (l, p) (l, p.answered outcome)
  /-- Somebody else does something. -/
  | waits (event : RunEvent) (l l' : Ledger) (p : Phase) (live : p.live = true)
      (others : ∀ now replies, event ≠ .event (.work k now replies))
      (grown : l.steps.length ≤ l'.steps.length)
      (lost : l' = l ∨ ¬ l'.heldBy engine.owner) :
      OwnMove e id k engine event (l, p) (l', p)

section
variable {e : EngineEnv} {id i : Uuid} {k : Nat} {engine : Engine} {w : Workshop} {l : Ledger}
  {p : Phase}

theorem live_answered (outcome : ToolOutcome) (p : Phase) :
    (p.answered outcome).live = p.live := by
  unfold Phase.answered
  split
  · split_ifs <;> rfl
  · rfl

theorem Remembers.answered (memory : Remembers l p) (outcome : ToolOutcome) :
    Remembers l (p.answered outcome) := by
  unfold Phase.answered
  split
  · split_ifs
    · exact memory
    · exact memory
  · exact memory

theorem Carries.answered (carries : Carries engine i p) (outcome : ToolOutcome) :
    Carries engine i (p.answered outcome) := by
  unfold Phase.answered
  split
  · split_ifs <;> trivial
  · exact carries

/-- What is left of a worker's memory when somebody else does something. -/
theorem Remembers.of_waits {l' : Ledger} {owner : String}
    (memory : l.heldBy owner → Remembers l p) (lost : l' = l ∨ ¬ l'.heldBy owner)
    (held : l'.heldBy owner) : Remembers l' p := by
  rcases lost with rfl | lost
  · exact memory held
  · exact absurd held lost

/-- The others do not take a worker's place. -/
theorem Own.put (own : Own id i k engine w (l, p)) {j : Nat} {worker : Worker} (elsewhere : j ≠ k)
    (row : w.workers[j]? = some worker) {s' : Store} {l' : Ledger} {p' : Phase}
    (grows : p'.live = true → worker.phase.live = true) (here : ledgerOf s' id = some l')
    (placed : Placed s' id i) (lost : p.live = true → l' = l ∨ ¬ l'.heldBy engine.owner) :
    Own id i k engine { store := s', workers := w.workers.set j { worker with phase := p' } }
      (l', p) := by
  refine ⟨here, ?_, placed, ?_, own.carries, ?_⟩
  · exact (Table.get_put row).mpr (.inr ⟨elsewhere.symm, own.row⟩)
  · intro live m other row' liveOther same
    rcases (Table.get_put row).mp row' with ⟨rfl, rfl⟩ | ⟨_, earlier⟩
    · exact own.alone live m worker row (grows liveOther) same
    · exact own.alone live m other earlier liveOther same
  · exact fun live => .of_waits (own.memory live) (lost live)

/-- The worker itself goes on. -/
theorem Own.move (own : Own id i k engine w (l, p)) {s' : Store} {l' : Ledger} {p' : Phase}
    (grows : p'.live = true → p.live = true) (here : ledgerOf s' id = some l')
    (placed : Placed s' id i) (carries : p'.live = true → Carries engine i p')
    (memory : p'.live = true → l'.heldBy engine.owner → Remembers l' p') :
    Own id i k engine
      { store := s', workers := w.workers.set k { engine, phase := p' } } (l', p') := by
  refine ⟨here, ?_, placed, ?_, carries, memory⟩
  · exact (Table.get_put own.row).mpr (.inl ⟨rfl, rfl⟩)
  · intro live m other row' liveOther same
    rcases (Table.get_put own.row).mp row' with ⟨here, _⟩ | ⟨_, earlier⟩
    · exact here
    · exact own.alone (grows live) m other earlier liveOther same

/-- A worker that has ended stays so. -/
theorem OwnMove.of_dead {event : RunEvent} {l' : Ledger} (dead : ¬ p.live = true)
    (grown : l.steps.length ≤ l'.steps.length) : OwnMove e id k engine event (l, p) (l', p) :=
  .gone event l l' p (Bool.eq_false_iff.mpr dead) grown

theorem OwnMove.of_waits {event : RunEvent} {l' : Ledger}
    (others : ∀ now replies, event ≠ .event (.work k now replies))
    (grown : l.steps.length ≤ l'.steps.length)
    (lost : p.live = true → l' = l ∨ ¬ l'.heldBy engine.owner) :
    OwnMove e id k engine event (l, p) (l', p) := by
  by_cases live : p.live = true
  · exact .waits event l l' p live others grown (lost live)
  · exact .of_dead live grown

theorem Own.works (own : Own id i k engine w (l, p)) (some_ : 1 ≤ engine.attempts) (now : Time)
    (replies : Replies) : ∃ x', Own id i k engine (w.step e id (.work k now replies)) x' ∧
      OwnMove e id k engine (.event (.work k now replies)) (l, p) x' := by
  rw [step_work own.row]
  by_cases live : p.live = true
  · obtain ⟨l', after, move⟩ : DeskMoved e { id, engine } now replies w.store l p
        (Desk.work e { id, engine } now replies w.store p) :=
      work_moved own.here p
    have answered : Responds { id, engine } i l (p.live = true ∧ Carries engine i p)
        (Desk.work e { id, engine } now replies w.store p) :=
      work_answered own.here own.placed p
    have ready := And.intro live (own.carries live)
    refine ⟨(l', _), own.move (fun _ => live) after answered.placed ?_ ?_,
      .works now replies w.store l l' p _ live move (answered.raised ready) ?_⟩
    · exact move.carries some_ (own.carries live)
    · intro live' held'
      exact move.remembers (own.memory live (move.heldBy_before held')) live'
    · intro status returned
      obtain ⟨terminal, final, read, same⟩ := answered.returned ready status returned
      rw [after] at read
      cases read
      exact ⟨terminal, same⟩
  · have same : w.workers.set k { engine, phase := p } = w.workers := Table.set_same own.row
    refine ⟨(l, p), ?_, .of_dead live le_rfl⟩
    simp only [work_dead live, same]
    exact own

/-- Somebody else works: who has the lease keeps its ledger. -/
theorem Own.waits_work (own : Own id i k engine w (l, p)) {j : Nat} (elsewhere : j ≠ k)
    (now : Time) (replies : Replies) :
    ∃ x', Own id i k engine (w.step e id (.work j now replies)) x' ∧
      OwnMove e id k engine (.event (.work j now replies)) (l, p) x' := by
  have others : ∀ now' replies', RunEvent.event (.work j now replies) ≠
      .event (.work k now' replies') := by
    intro now' replies' same
    cases same
    exact elsewhere rfl
  cases row : w.workers[j]? with
  | none =>
    rw [step_work_missing row]
    exact ⟨(l, p), own, .of_waits others le_rfl fun _ => .inl rfl⟩
  | some worker =>
    rw [step_work row]
    obtain ⟨l', after, move⟩ : DeskMoved e { id, engine := worker.engine } now replies w.store l
        worker.phase (Desk.work e { id, engine := worker.engine } now replies w.store
          worker.phase) :=
      work_moved own.here worker.phase
    have answered : Responds { id, engine := worker.engine } i l
        (worker.phase.live = true ∧ Carries worker.engine i worker.phase)
        (Desk.work e { id, engine := worker.engine } now replies w.store worker.phase) :=
      work_answered own.here own.placed worker.phase
    have lost : p.live = true → l' = l ∨ ¬ l'.heldBy engine.owner := by
      intro live
      by_cases held : l'.heldBy engine.owner
      · refine .inl ?_
        by_cases liveOther : worker.phase.live = true
        · -- who writes has the lease, and so this worker's name
          refine move.frame fun other => elsewhere ?_
          have same := (move.heldBy_before held).2.symm.trans other.2
          exact own.alone live j worker row liveOther (Option.some.inj same).symm
        · rw [work_dead liveOther] at after
          exact Option.some.inj (after.symm.trans own.here)
      · exact .inr held
    exact ⟨(l', p), own.put elsewhere row move.live_before after answered.placed lost,
      .of_waits others move.steps_le lost⟩

/-- Somebody else claims: where the claim succeeds, the lease is theirs. -/
theorem Own.waits_claim (own : Own id i k engine w (l, p)) (now : Time) (other : Engine) :
    ∃ x', Own id i k engine (w.step e id (.claim now other)) x' ∧
      OwnMove e id k engine (.event (.claim now other)) (l, p) x' := by
  have others : ∀ now' replies', RunEvent.event (.claim now other) ≠
      .event (.work k now' replies') := by
    intro now' replies' same
    cases same
  have unchanged : Own id i k engine w (l, p) ∧
      OwnMove e id k engine (.event (.claim now other)) (l, p) (l, p) :=
    ⟨own, .of_waits others le_rfl fun _ => .inl rfl⟩
  unfold Workshop.step
  simp only
  split_ifs with busy
  · exact ⟨(l, p), unchanged⟩
  · cases done : Incident.claim now w.store id other.owner other.leaseSeconds with
    | error refusal => exact ⟨(l, p), unchanged⟩
    | ok answer =>
      obtain ⟨state, s'⟩ := answer
      have placed' := placed_of_claim e.env done own.placed
      rcases ledgerOf_claim own.here done with
        ⟨rfl, after⟩ | ⟨l', loaded, rfl, after, claimed, read⟩
      · refine ⟨(l, p), ⟨after, own.row, placed', own.alone, own.carries, own.memory⟩, ?_⟩
        exact .of_waits others le_rfl fun _ => .inl rfl
      · have name : p.live = true → other.owner ≠ engine.owner := by
          intro live same
          refine busy (List.any_eq_true.mpr ⟨_, List.mem_of_getElem? own.row, ?_⟩)
          simp [live, same]
        have lost : p.live = true → l' = l ∨ ¬ l'.heldBy engine.owner := by
          refine fun live => .inr fun held => name live ?_
          exact Option.some.inj (claimed.leaseOwner.symm.trans held.2)
        refine ⟨(l', p), ⟨after, ?_, placed', ?_, own.carries, ?_⟩, ?_⟩
        · exact Table.get_insert.mpr (.inl own.row)
        · intro live j worker row liveOther same
          rcases Table.get_insert.mp row with earlier | ⟨_, rfl⟩
          · exact own.alone live j worker earlier liveOther same
          · exact absurd same (name live)
        · exact fun live => .of_waits (own.memory live) (lost live)
        · exact .of_waits others (by rw [claimed.steps]) lost

/-- The outcome of a toolset is news to one worker only. -/
theorem Own.toolset (own : Own id i k engine w (l, p)) (j : Nat) (outcome : ToolOutcome) :
    ∃ x', Own id i k engine (w.runStep e id (.toolset j outcome)) x' ∧
      OwnMove e id k engine (.toolset j outcome) (l, p) x' := by
  have others : ∀ now replies, RunEvent.toolset j outcome ≠ .event (.work k now replies) := by
    intro now replies same
    cases same
  cases row : w.workers[j]? with
  | none =>
    simp only [Workshop.runStep, row]
    exact ⟨(l, p), own, .of_waits others le_rfl fun _ => .inl rfl⟩
  | some worker =>
    simp only [Workshop.runStep, row]
    by_cases this : j = k
    · subst this
      rw [own.row] at row
      cases row
      by_cases live : p.live = true
      · refine ⟨(l, p.answered outcome), own.move (fun _ => live) own.here own.placed ?_ ?_,
          .toolset outcome l p live⟩
        · exact fun _ => (own.carries live).answered outcome
        · exact fun _ held => (own.memory live held).answered outcome
      · have same : p.answered outcome = p := by
          cases p with
          | ended status => rfl
          | _ => exact absurd rfl live
        have still : w.workers.set j { engine, phase := p } = w.workers := Table.set_same own.row
        refine ⟨(l, p), ?_, .of_dead live le_rfl⟩
        simp only [same, still]
        exact own
    · refine ⟨(l, p), own.put this row ?_ own.here own.placed fun _ => .inl rfl,
        .of_waits others le_rfl fun _ => .inl rfl⟩
      exact fun live => (live_answered outcome worker.phase).symm.trans live

/-- Whatever happens, a worker that is not crashed makes one of its moves. -/
theorem Own.step (own : Own id i k engine w (l, p)) (some_ : 1 ≤ engine.attempts)
    {event : RunEvent} (permitted : Permitted i k event) :
    ∃ x', Own id i k engine (w.runStep e id event) x' ∧
      OwnMove e id k engine event (l, p) x' := by
  cases event with
  | toolset j outcome => exact own.toolset j outcome
  | event event =>
    cases event with
    | claim now other => exact own.waits_claim now other
    | work j now replies =>
      by_cases this : j = k
      · subst this
        exact own.works some_ now replies
      · exact own.waits_work this now replies
    | crash j =>
      have others : ∀ now replies, RunEvent.event (.crash j) ≠ .event (.work k now replies) := by
        intro now replies same
        cases same
      refine ⟨(l, p), ?_, .of_waits others le_rfl fun _ => .inl rfl⟩
      cases row : w.workers[j]? with
      | none =>
        simp only [Workshop.runStep, step_crash_missing row]
        exact own
      | some worker =>
        simp only [Workshop.runStep, step_crash row]
        exact own.put permitted row (fun live => by cases live) own.here own.placed
          fun _ => .inl rfl
    | elsewhere s =>
      have others : ∀ now replies, RunEvent.event (.elsewhere s) ≠
          .event (.work k now replies) := by
        intro now replies same
        cases same
      refine ⟨(l, p), ?_, .of_waits others le_rfl fun _ => .inl rfl⟩
      have here : ledgerOf (keepingInvestigations w.store s) id = some l := by
        rw [← own.here]
        exact ledgerOf_congr id rfl rfl
      exact ⟨here, own.row, own.placed.elsewhere permitted, own.alone, own.carries, own.memory⟩

/-- A worker that has just claimed the investigation. -/
theorem Own.claimed {now : Time} {state : InvestigationState} {s : Store}
    (here : ledgerOf w.store id = some l) (placed : Placed w.store id i)
    (free : w.working engine.owner = false)
    (done : Incident.claim now w.store id engine.owner engine.leaseSeconds =
      .ok (some state, s)) :
    w.step e id (.claim now engine) =
        { store := s, workers := w.workers ++ [{ engine, phase := .claimed state }] } ∧
      ∃ l', Claimed engine.owner l l' ∧ Loaded l' state ∧
        Own id i w.workers.length engine (w.step e id (.claim now engine))
          (l', .claimed state) := by
  have next : w.step e id (.claim now engine) =
      { store := s, workers := w.workers ++ [{ engine, phase := .claimed state }] } := by
    simp only [Workshop.step, free, done]
    rfl
  have placed' := placed_of_claim e.env done placed
  rcases ledgerOf_claim here done with ⟨none, _⟩ | ⟨l', loaded, same, after, claimed, read⟩
  · cases none
  · cases same
    refine ⟨next, l', claimed, read, ?_⟩
    rw [next]
    refine ⟨after, ?_, placed', ?_, fun _ => ?_, fun _ _ => trivial⟩
    · exact Table.get_insert.mpr (.inr ⟨rfl, rfl⟩)
    · intro _ j worker row live same
      rcases Table.get_insert.mp row with earlier | ⟨last, _⟩
      · have busy : w.working engine.owner = true :=
          List.any_eq_true.mpr ⟨worker, List.mem_of_getElem? earlier, by simp [live, same]⟩
        rw [free] at busy
        cases busy
      · exact last
    · obtain ⟨row, found, ofIncident⟩ := placed'.investigation
      rw [(ledgerOf_eq_some.mp after).1] at found
      cases found
      rw [← ofIncident, ← read.investigation]
      rfl

end

end IncidentTriage.Verified
