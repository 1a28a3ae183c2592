import IncidentTriage.Agents.Workers
import IncidentTriage.Verified.InvestigationTransactions

/-! # The ledger of an investigation

Of the whole store a worker changes the row and the trace of its investigation, its
`Ledger`.  `DeskMove` lists what one step of a worker does to the ledger and to its own phase;
only the worker that holds the lease writes.
-/

namespace IncidentTriage.Verified

open IncidentTriage.Python IncidentTriage.Domain IncidentTriage.Incident IncidentTriage.Tools
  IncidentTriage.Agents

/-! ## Reading the trace -/

theorem orderedInsert_concat {α : Type*} {r : α → α → Prop} [DecidableRel r] {a last : α}
    (l : List α) (before : r a last) :
    (l ++ [last]).orderedInsert r a = l.orderedInsert r a ++ [last] := by
  induction l with
  | nil => simp [List.orderedInsert, before]
  | cons b l ih =>
    simp only [List.cons_append, List.orderedInsert]
    split_ifs with first
    · rfl
    · rw [ih]
      rfl

/-- What comes after everything is sorted to the end. -/
theorem insertionSort_concat {α : Type*} {r : α → α → Prop} [DecidableRel r] {last : α}
    (l : List α) (before : ∀ a ∈ l, r a last) :
    (l ++ [last]).insertionSort r = l.insertionSort r ++ [last] := by
  induction l with
  | nil => rfl
  | cons a l ih =>
    rw [List.cons_append, List.insertionSort_cons, List.insertionSort_cons,
      ih fun b member => before b (by simp [member]),
      orderedInsert_concat _ (before a (by simp))]

theorem le_foldl_max (numbers : List Nat) (low : Nat) :
    low ≤ numbers.foldl max low ∧ ∀ n ∈ numbers, n ≤ numbers.foldl max low := by
  induction numbers generalizing low with
  | nil => simp
  | cons m numbers ih =>
    obtain ⟨first, rest⟩ := ih (max low m)
    refine ⟨(le_max_left low m).trans first, fun n member => ?_⟩
    rcases List.mem_cons.mp member with rfl | later
    · exact (le_max_right low n).trans first
    · exact rest n later

theorem lt_nextSequence {numbers : List Nat} {n : Nat} (member : n ∈ numbers) :
    n < nextSequence numbers :=
  Nat.lt_succ_of_le ((le_foldl_max numbers 0).2 n member)

theorem nextSequence_perm {numbers more : List Nat} (perm : numbers.Perm more) :
    nextSequence numbers = nextSequence more := by
  rw [nextSequence, nextSequence, perm.foldl_eq]

/-! ## The ledger -/

structure Ledger where
  row : InvestigationRow
  steps : List InvestigationStepRow

def ledgerOf (s : Store) (id : Uuid) : Option Ledger :=
  (s.investigation.investigations[id]?).map (fun row => { row, steps := stepsOf s id })

theorem ledgerOf_eq_some {s : Store} {id : Uuid} {l : Ledger} :
    ledgerOf s id = some l ↔
      s.investigation.investigations[id]? = some l.row ∧ l.steps = stepsOf s id := by
  rw [ledgerOf, Option.map_eq_some_iff]
  constructor
  · rintro ⟨row, found, rfl⟩
    exact ⟨found, rfl⟩
  · rintro ⟨found, steps⟩
    exact ⟨l.row, found, by rw [← steps]⟩

/-- The investigations and the steps are all that a ledger is read from. -/
theorem ledgerOf_congr {s s' : Store} (id : Uuid)
    (investigations : s'.investigation.investigations = s.investigation.investigations)
    (steps : s'.investigation.steps = s.investigation.steps) :
    ledgerOf s' id = ledgerOf s id := by
  rw [ledgerOf, ledgerOf, investigations, stepsOf, stepsOf, steps]

/-- The worker of this name may write. -/
def Ledger.heldBy (l : Ledger) (owner : String) : Prop :=
  l.row.status = .investigating ∧ l.row.leaseOwner = some owner

/-- The next step of the trace. -/
def Ledger.next (l : Ledger) (now : Time) (id : Uuid) (kind : StepKind) (iteration : Nat)
    (payload : StepPayload) (callId : Option String) (latencyMs : Option Nat) :
    InvestigationStepRow :=
  { investigationId := id
    sequence := nextSequence (l.steps.map (·.sequence))
    iteration
    kind
    callId
    payload
    latencyMs
    createdAt := now }

def Ledger.recorded (l : Ledger) (now : Time) (id : Uuid) (record : StepRecord) : Ledger :=
  { row := l.row.recorded now record
    steps := l.steps ++ [l.next now id record.kind record.iteration
      (.worker record.evidenceIds record.fields) record.callId record.latencyMs] }

/-- What is counted in an investigation. -/
structure SameAccounts (row row' : InvestigationRow) : Prop where
  budget : row'.budget = row.budget
  iterationCount : row'.iterationCount = row.iterationCount
  toolCallCount : row'.toolCallCount = row.toolCallCount
  evidenceCount : row'.evidenceCount = row.evidenceCount

structure SameHolder (row row' : InvestigationRow) : Prop where
  status : row'.status = row.status
  leaseOwner : row'.leaseOwner = row.leaseOwner

theorem mem_stepsOf {s : Store} {id : Uuid} {step : InvestigationStepRow} :
    step ∈ stepsOf s id ↔ step ∈ s.investigation.steps ∧ step.investigationId = id := by
  rw [stepsOf, List.mem_insertionSort, List.mem_filter, beq_iff_eq]

section writes

variable {s : Store} {id : Uuid} {l : Ledger}

theorem newStep_eq_next (here : ledgerOf s id = some l) (now : Time) (kind : StepKind)
    (iteration : Nat) (payload : StepPayload) (callId : Option String) (latencyMs : Option Nat) :
    newStep s now id kind iteration payload callId latencyMs =
      l.next now id kind iteration payload callId latencyMs := by
  have steps := (ledgerOf_eq_some.mp here).2
  have perm := (List.perm_insertionSort (fun a b => decide (a.sequence ≤ b.sequence) = true)
    (s.investigation.steps.filter (fun step => step.investigationId == id))).map (·.sequence)
  unfold newStep Ledger.next
  rw [steps, stepsOf, nextSequence_perm perm]

theorem newStep_congr {s' : Store} {now : Time} {kind : StepKind} {iteration : Nat}
    {payload : StepPayload} {callId : Option String} {latencyMs : Option Nat}
    (steps : s'.investigation.steps = s.investigation.steps) :
    newStep s' now id kind iteration payload callId latencyMs =
      newStep s now id kind iteration payload callId latencyMs := by
  unfold newStep
  rw [steps]

/-- A store whose trace has grown by one step of this investigation. -/
theorem stepsOf_append {s' : Store} {now : Time} {kind : StepKind} {iteration : Nat}
    {payload : StepPayload} {callId : Option String} {latencyMs : Option Nat}
    (here : ledgerOf s id = some l)
    (steps : s'.investigation.steps = s.investigation.steps ++
      [newStep s now id kind iteration payload callId latencyMs]) :
    stepsOf s' id = l.steps ++ [l.next now id kind iteration payload callId latencyMs] := by
  have own : [newStep s now id kind iteration payload callId latencyMs].filter
      (fun step => step.investigationId == id) =
        [newStep s now id kind iteration payload callId latencyMs] := by
    simp [newStep]
  rw [stepsOf, steps, List.filter_append, own, insertionSort_concat,
    (ledgerOf_eq_some.mp here).2, newStep_eq_next here]
  · rfl
  · intro step member
    have earlier : step.sequence <
        (newStep s now id kind iteration payload callId latencyMs).sequence :=
      lt_nextSequence (List.mem_map_of_mem member)
    simpa using earlier.le

/-- The ledger after a transaction that writes the row and one step. -/
theorem ledgerOf_write {s' : Store} {now : Time} {row : InvestigationRow} {kind : StepKind}
    {iteration : Nat} {payload : StepPayload} {callId : Option String} {latencyMs : Option Nat}
    (here : ledgerOf s id = some l)
    (investigations : s'.investigation.investigations =
      s.investigation.investigations.set id row)
    (steps : s'.investigation.steps = s.investigation.steps ++
      [newStep s now id kind iteration payload callId latencyMs]) :
    ledgerOf s' id = some { row, steps := l.steps ++
      [l.next now id kind iteration payload callId latencyMs] } := by
  have inside := Table.lt_of_row (ledgerOf_eq_some.mp here).1
  refine ledgerOf_eq_some.mpr ⟨?_, (stepsOf_append here steps).symm⟩
  rw [investigations]
  exact List.getElem?_set_self inside

end writes

/-! ## The commands of a worker -/

section commands

variable {s s' : Store} {id : Uuid} {l : Ledger} {now : Time} {owner : String}

theorem Ledger.heldBy_of_fenced {row : InvestigationRow} (here : ledgerOf s id = some l)
    (held : fenced s id owner = .ok row) : row = l.row ∧ l.heldBy owner := by
  obtain ⟨found, status, leaseOwner⟩ := fenced_eq_ok.mp held
  rw [(ledgerOf_eq_some.mp here).1] at found
  cases found
  exact ⟨rfl, status, leaseOwner⟩

theorem ledgerOf_recordStep {record : StepRecord} {sequence : Nat}
    (here : ledgerOf s id = some l)
    (done : recordStep now s id owner record = .ok (sequence, s')) :
    l.heldBy owner ∧ ledgerOf s' id = some (l.recorded now id record) := by
  simp only [recordStep, bind_eq_ok, pure_eq_ok] at done
  obtain ⟨row, held, done⟩ := done
  obtain ⟨rfl, holds⟩ := Ledger.heldBy_of_fenced here held
  cases done
  exact ⟨holds, ledgerOf_write here rfl rfl⟩

/-- What an applied batch leaves: a step that answers the call. -/
theorem ledgerOf_applyHypothesisUpdates {iteration : Nat} {callId : String}
    {batch : HypothesisUpdateBatch} {outcome : HypothesisUpdateOutcome}
    (here : ledgerOf s id = some l)
    (done : applyHypothesisUpdates now s id owner iteration callId batch = .ok (outcome, s')) :
    l.heldBy owner ∧ ∃ row payload, SameAccounts l.row row ∧ SameHolder l.row row ∧
      ledgerOf s' id = some { row, steps := l.steps ++
        [l.next now id .hypothesisUpdate iteration payload (some callId) none] } := by
  simp only [applyHypothesisUpdates, bind_eq_ok, pure_eq_ok] at done
  obtain ⟨row, held, done⟩ := done
  obtain ⟨rfl, holds⟩ := Ledger.heldBy_of_fenced here held
  have frame := updateLoop_frame now s id l.row batch.updates
  have investigations : (updateLoop now s id l.row batch.updates).store.investigation.investigations =
      s.investigation.investigations := by
    rw [frame]
  have steps : (updateLoop now s id l.row batch.updates).store.investigation.steps =
      s.investigation.steps := by
    rw [frame]
  cases done
  refine ⟨holds, _, _, ?accounts, ?holder, ledgerOf_write here
    (congrArg (List.set · id _) investigations) (congrArg₂ (· ++ [·]) steps (newStep_congr steps))⟩
  case accounts => exact ⟨rfl, rfl, rfl, rfl⟩
  case holder => exact ⟨rfl, rfl⟩

/-- The investigation is over. -/
structure Ended (now : Time) (id : Uuid) (l l' : Ledger) : Prop where
  terminal : l'.row.status ∈ terminalInvestigationStatuses
  accounts : SameAccounts l.row l'.row
  steps : ∃ iteration payload callId,
    l'.steps = l.steps ++ [l.next now id .outcome iteration payload callId none]

theorem ledgerOf_escalate {iteration : Nat} {e : Escalation} {u : Unit}
    (here : ledgerOf s id = some l)
    (done : escalate now s id owner iteration e = .ok (u, s')) :
    l.heldBy owner ∧ ∃ l', ledgerOf s' id = some l' ∧ Ended now id l l' := by
  simp only [escalate, bind_eq_ok, pure_eq_ok] at done
  obtain ⟨row, held, s₁, left, done⟩ := done
  obtain ⟨rfl, holds⟩ := Ledger.heldBy_of_fenced here held
  obtain ⟨incident, audit, _, rfl⟩ := moveInvestigatedIncident_eq_ok left
  cases done
  refine ⟨holds, _, ledgerOf_write here rfl rfl, ?_, ⟨rfl, rfl, rfl, rfl⟩, _, _, _, rfl⟩
  cases outcome : e.outcome <;>
    simp [InvestigationRow.ended, outcome, EscalationOutcome.toStatus,
      terminalInvestigationStatuses]

theorem ledgerOf_complete {env : Env} {iteration : Nat} {callId : String}
    {result : FinalInvestigationResult} {outcome : ConclusionOutcome}
    (here : ledgerOf s id = some l)
    (done : complete env now s id owner iteration callId result = .ok (outcome, s')) :
    l.heldBy owner ∧ ∃ l', ledgerOf s' id = some l' ∧
      if outcome.accepted = true then Ended now id l l'
      else SameAccounts l.row l'.row ∧ SameHolder l.row l'.row ∧ ∃ payload,
        l'.steps = l.steps ++
          [l.next now id .conclusionRejected iteration payload (some callId) none] := by
  simp only [complete, bind_eq_ok] at done
  obtain ⟨row, held, done⟩ := done
  obtain ⟨rfl, holds⟩ := Ledger.heldBy_of_fenced here held
  by_cases met : unmetCriteria env s id l.row result = []
  · rw [if_neg (not_not.mpr met)] at done
    simp only [bind_eq_ok, found_eq_ok, pure_eq_ok] at done
    obtain ⟨⟨hypothesisId, h⟩, _, s₁, left, done⟩ := done
    obtain ⟨incident, audit, _, rfl⟩ := moveInvestigatedIncident_eq_ok left
    cases done
    refine ⟨holds, _, ledgerOf_write here rfl rfl, ?_⟩
    exact ⟨by simp [InvestigationRow.completed, terminalInvestigationStatuses],
      ⟨rfl, rfl, rfl, rfl⟩, _, _, _, rfl⟩
  · rw [if_pos met] at done
    cases done
    refine ⟨holds, _, ledgerOf_write here rfl rfl, ?_⟩
    exact ⟨⟨rfl, rfl, rfl, rfl⟩, ⟨rfl, rfl⟩, _, rfl⟩

/-- The ledger as `load_state` reads it. -/
structure Loaded (l : Ledger) (state : InvestigationState) : Prop where
  investigation : state.investigation = l.row
  steps : state.steps = l.steps

theorem loaded_of_loadState {state : InvestigationState} (here : ledgerOf s id = some l)
    (done : loadState s id = .ok state) : Loaded l state := by
  simp only [loadState, bind_eq_ok, pure_eq_ok, lockInvestigation_eq_ok] at done
  obtain ⟨row, found, rfl⟩ := done
  rw [(ledgerOf_eq_some.mp here).1] at found
  cases found
  exact ⟨rfl, (ledgerOf_eq_some.mp here).2.symm⟩

/-- A claim that is refused leaves the investigation as it was; one that succeeds passes
the lease on. -/
structure Claimed (owner : String) (l l' : Ledger) : Prop where
  open_ : l.row.status ∉ terminalInvestigationStatuses
  status : l'.row.status = .investigating
  leaseOwner : l'.row.leaseOwner = some owner
  accounts : SameAccounts l.row l'.row
  steps : l'.steps = l.steps

theorem ledgerOf_claim {leaseSeconds : Int} {state : Option InvestigationState}
    (here : ledgerOf s id = some l)
    (done : claim now s id owner leaseSeconds = .ok (state, s')) :
    (state = none ∧ ledgerOf s' id = some l) ∨
      ∃ l' loaded, state = some loaded ∧ ledgerOf s' id = some l' ∧ Claimed owner l l' ∧
        Loaded l' loaded := by
  simp only [claim, bind_eq_ok, lockInvestigation_eq_ok] at done
  obtain ⟨row, found, done⟩ := done
  rw [(ledgerOf_eq_some.mp here).1] at found
  cases found
  split_ifs at done with terminal live
  · cases done
    exact .inl ⟨rfl, here⟩
  · cases done
    exact .inl ⟨rfl, here⟩
  · simp only [bind_eq_ok, pure_eq_ok] at done
    obtain ⟨loaded, read, done⟩ := done
    cases done
    have inside := Table.lt_of_row (ledgerOf_eq_some.mp here).1
    have after (row : InvestigationRow) :
        ledgerOf (putInvestigation s id row) id = some ⟨row, l.steps⟩ :=
      ledgerOf_eq_some.mpr ⟨List.getElem?_set_self inside, (ledgerOf_eq_some.mp here).2⟩
    exact .inr ⟨_, loaded, rfl, after _, ⟨terminal, rfl, rfl, ⟨rfl, rfl, rfl, rfl⟩, rfl⟩,
      loaded_of_loadState (after _) read⟩

theorem registerEvidenceRef_frame {command : RegisterEvidenceRefCommand} {registered : Bool}
    (done : registerEvidenceRef now s command = .ok (registered, s')) :
    ∃ alert audit, s' = { s with alert, audit } := by
  simp only [registerEvidenceRef, bind_eq_ok] at done
  obtain ⟨incident, _, done⟩ := done
  split at done
  · split_ifs at done
    cases done
    exact ⟨_, _, rfl⟩
  · cases done
    exact ⟨_, _, rfl⟩

theorem ledgerOf_registerFound (here : ledgerOf s id = some l) (result : ToolResult) :
    ledgerOf (registerFound now s id result) id = some l := by
  cases result with
  | failure e => exact here
  | success item =>
    simp only [registerFound]
    split
    · exact here
    · rename_i row found
      unfold committed
      split
      · rename_i registered s' done
        obtain ⟨evidence, audit, rfl⟩ := registerEvidenceRef_frame done
        exact here
      · exact here

end commands

end IncidentTriage.Verified
