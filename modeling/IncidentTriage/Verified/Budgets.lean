import IncidentTriage.Verified.Openings
import IncidentTriage.Verified.ToolCalls

/-! # The budgets of an investigation

Iterations and evidence items stay within their budgets whatever a worker is told and
wherever it crashes.  Tool calls do where no call is made while their budget is spent,
which the engine itself never looks at: only the executor does, and the listing of
recorded evidence does not go through it.
-/

namespace IncidentTriage.Verified

open IncidentTriage.Python IncidentTriage.Domain IncidentTriage.Incident IncidentTriage.Tools
  IncidentTriage.Agents

/-! ## Tool calls -/

def CallsWithin (l : Ledger) : Prop := l.row.toolCallCount ≤ l.row.budget.maxToolCalls

/-- A call that was made and waits to be counted has a place left. -/
def CallPlaced (l : Ledger) : Phase → Prop
  | .answering _ _ outcome _ _ =>
    outcome.counted = true → l.row.toolCallCount < l.row.budget.maxToolCalls
  | _ => True

/-- A tool request is not executed once the budget is spent: the turn refuses it, or the
executor does, which never sees a listing. -/
def CallsInBudget (l : Ledger) (p : Phase) (_ : Replies) : Prop :=
  ∀ call ∈ nextCall p, call.1.tool = getIncidentEvidence ∨
    turnsAway call.2 (aliasOf call.1.tool) call.1.arguments = false →
      l.row.toolCallCount < l.row.budget.maxToolCalls

instance (l : Ledger) (p : Phase) (replies : Replies) : Decidable (CallsInBudget l p replies) :=
  inferInstanceAs (Decidable (∀ call ∈ nextCall p, _ → _))

section
variable {d : Desk} {now : Time} {l : Ledger} {record : StepRecord}

@[simp] theorem wroteBy_budget : (wroteBy d now l record).row.budget = l.row.budget := rfl

@[simp] theorem wroteBy_toolCallCount : (wroteBy d now l record).row.toolCallCount =
    if record.toolCall then l.row.toolCallCount + 1 else l.row.toolCallCount := rfl

@[simp] theorem wroteBy_evidenceCount : (wroteBy d now l record).row.evidenceCount =
    l.row.evidenceCount + record.newEvidence := rfl

@[simp] theorem wroteBy_iterationCount : (wroteBy d now l record).row.iterationCount =
    if record.kind = .modelTurn then max l.row.iterationCount record.iteration
    else l.row.iterationCount := rfl

theorem CallsWithin.wroteBy (within : CallsWithin l) (uncounted : record.toolCall = false) :
    CallsWithin (wroteBy d now l record) := by
  simpa [CallsWithin, uncounted] using within

theorem CallsWithin.of_accounts {l' : Ledger} (within : CallsWithin l)
    (accounts : SameAccounts l.row l'.row) : CallsWithin l' := by
  unfold CallsWithin
  rw [accounts.toolCallCount, accounts.budget]
  exact within

end

theorem calls_kept (e : EngineEnv) (id : Uuid) :
    Keeps e id CallsInBudget CallsWithin CallPlaced where
  claimed within claimed _ := ⟨within.of_accounts claimed.accounts, trivial⟩
  moved := by
    intro d now replies s l l' p p' _ _ within placed allowed move
    cases move with
    | raises | rests | resumes | introduced | finds | loads | takesUp | prepares | returns =>
      exact ⟨within, fun _ => trivial⟩
    | closes p status l' held final =>
      exact ⟨within.of_accounts final.accounts, fun _ => trivial⟩
    | introduces | announces | hears | notes | rejects | refuses =>
      exact ⟨within.wroteBy rfl, fun _ => trivial⟩
    | fails state iteration finalReason attempt x error more answer held =>
      refine ⟨within.wroteBy rfl, fun _ => ?_⟩
      obtain ⟨reason, detail, gaveUp⟩ | again :=
        afterError_cases d state iteration finalReason attempt x error
      · rw [gaveUp]
        trivial
      · rw [again]
        trivial
    | applies turn jobs x call row payload accounts holder held =>
      exact ⟨within.of_accounts accounts, fun _ => trivial⟩
    | unmet turn jobs x call row payload accounts holder held =>
      exact ⟨within.of_accounts accounts, fun _ => trivial⟩
    | executes turn jobs x request notRefused =>
      refine ⟨within, fun _ counted => allowed (request, x) (if_pos notRefused) ?_⟩
      by_cases listing : request.tool = getIncidentEvidence
      · exact .inl listing
      · refine .inr (Bool.eq_false_iff.mpr fun away => ?_)
        rw [executeTool_turnedAway e.compact replies.tool listing away] at counted
        cases counted
    | answers turn jobs x request outcome held =>
      refine ⟨?_, fun _ => trivial⟩
      cases counted : outcome.counted with
      | false => exact within.wroteBy counted
      | true =>
        have place := placed counted
        simp only [CallsWithin, wroteBy_budget, wroteBy_toolCallCount, toolRecord, counted, if_true]
        omega

/-- The budget is one call, and the model lists the recorded evidence so often in its turn. -/
def listingRun (callIds : List String) : List WorkEvent :=
  workerClaims "worker" :: workerDoes 0 (2 * callIds.length + 6)
    (callIds.map (callOfTool · getIncidentEvidence))

/-- A step that is neither a turn nor an answer. -/
def SideStep (step : InvestigationStepRow) : Prop :=
  step.kind ≠ .modelTurn ∧ step.kind ≠ .toolCall ∧ step.callId = none

theorem answeredValidly_concat {steps : List InvestigationStepRow} {step : InvestigationStepRow}
    (side : SideStep step) (iteration : Nat) :
    answeredValidly (steps ++ [step]) iteration = answeredValidly steps iteration := by
  simp [answeredValidly, side.2.2, hasText]

theorem invalidStreak_concat {steps : List InvestigationStepRow} {step : InvestigationStepRow}
    (side : SideStep step) (turns : List InvestigationStepRow) :
    invalidStreak (steps ++ [step]) turns = invalidStreak steps turns := by
  induction turns with
  | nil => rfl
  | cons turn earlier ih => simp only [invalidStreak, answeredValidly_concat side, ih]

theorem trailingInvalidTurns_concat {steps : List InvestigationStepRow}
    {step : InvestigationStepRow} (side : SideStep step) :
    trailingInvalidTurns (steps ++ [step]) = trailingInvalidTurns steps := by
  have noTurn : isModelTurn step = false := by simpa [isModelTurn] using side.1
  simp [trailingInvalidTurns, noTurn, invalidStreak_concat side]

theorem trailingBackendFailures_concat {steps : List InvestigationStepRow}
    {step : InvestigationStepRow} (side : SideStep step) :
    trailingBackendFailures (steps ++ [step]) = trailingBackendFailures steps := by
  simp [trailingBackendFailures, side.2.1]

/-- Neither streak has reached its limit. -/
structure StreaksWithin (l : Ledger) : Prop where
  invalidTurns : trailingInvalidTurns l.steps < l.row.budget.maxConsecutiveInvalidTurns
  backendFailures : trailingBackendFailures l.steps < l.row.budget.maxConsecutiveToolFailures

theorem StreaksWithin.wroteBy {d : Desk} {now : Time} {l : Ledger} {record : StepRecord}
    (within : StreaksWithin l) (noTurn : record.kind ≠ .modelTurn)
    (noCall : record.kind ≠ .toolCall) (unanswering : record.callId = none) :
    StreaksWithin (wroteBy d now l record) := by
  constructor
  · exact (trailingInvalidTurns_concat ⟨noTurn, noCall, unanswering⟩).trans_lt within.invalidTurns
  · exact (trailingBackendFailures_concat ⟨noTurn, noCall, unanswering⟩).trans_lt
      within.backendFailures

/-- A new turn begins below every limit. -/
theorem below_of_enforceLimits {now : Time} {l : Ledger} {state : InvestigationState}
    (loaded : Loaded l state) (within : enforceLimits now state = none) :
    l.row.iterationCount < l.row.budget.maxIterations ∧ StreaksWithin l := by
  simp only [enforceLimits, Option.or_eq_none_iff, loaded.investigation, loaded.steps] at within
  obtain ⟨_, _, iterations, invalid, failures⟩ := within
  refine ⟨?_, ⟨?_, ?_⟩⟩
  · by_contra spent
    simp [overIterations, Nat.le_of_not_lt spent] at iterations
  · by_contra reached
    simp [overInvalidTurns, Nat.le_of_not_lt reached] at invalid
  · by_contra reached
    simp [overBackendFailures, Nat.le_of_not_lt reached] at failures

/-! ## Iterations and evidence -/

/-- A successful call of a tool other than the listing. -/
def foundEvidence (step : InvestigationStepRow) : Bool :=
  step.kind == .toolCall && flagField step.payload "ok" &&
    textField step.payload "tool" "" != getIncidentEvidence

structure Accounted (l : Ledger) : Prop where
  iterations : l.row.iterationCount ≤ l.row.budget.maxIterations
  evidence : l.row.evidenceCount ≤ l.row.budget.maxEvidenceItems
  counted : l.row.evidenceCount = l.steps.countP foundEvidence

/-- The locals of a turn and the row agree on the evidence. -/
structure Turn.Agrees (turn : Turn) (l : Ledger) : Prop where
  limit : turn.maxEvidenceItems = l.row.budget.maxEvidenceItems
  used : turn.usedEvidence = l.row.evidenceCount

/-- What the holder of the lease remembers of the accounts. -/
def Budgeted (l : Ledger) : Phase → Prop
  | .loaded state _ => Loaded l state
  | .noticed iteration _ _ => iteration ≤ l.row.budget.maxIterations ∧ StreaksWithin l
  | .asking state iteration _ _ _ => SameAccounts l.row state.investigation ∧
      iteration ≤ l.row.budget.maxIterations ∧ StreaksWithin l
  | .acting turn _ _ => Turn.Agrees turn l
  | .answering turn request outcome _ _ => Turn.Agrees turn l ∧
      outcome.newEvidence = (outcome.ok && request.tool != getIncidentEvidence).toNat ∧
      turn.usedEvidence + outcome.newEvidence ≤ turn.maxEvidenceItems
  | _ => True

section
variable {d : Desk} {now : Time} {l l' : Ledger} {record : StepRecord} {turn : Turn}

theorem Accounted.of_accounts (accounted : Accounted l) (accounts : SameAccounts l.row l'.row)
    (steps : l'.steps.countP foundEvidence = l.steps.countP foundEvidence) : Accounted l' := by
  refine ⟨?_, ?_, ?_⟩
  · rw [accounts.iterationCount, accounts.budget]
    exact accounted.iterations
  · rw [accounts.evidenceCount, accounts.budget]
    exact accounted.evidence
  · rw [accounts.evidenceCount, steps]
    exact accounted.counted

theorem countP_foundEvidence_unfound {steps : List InvestigationStepRow}
    {step : InvestigationStepRow} (unfound : foundEvidence step = false) :
    (steps ++ [step]).countP foundEvidence = steps.countP foundEvidence := by
  simp [unfound]

theorem countP_foundEvidence_concat {steps : List InvestigationStepRow}
    {step : InvestigationStepRow} (noCall : step.kind ≠ .toolCall) :
    (steps ++ [step]).countP foundEvidence = steps.countP foundEvidence :=
  countP_foundEvidence_unfound (by simp [foundEvidence, noCall])

theorem countP_concat {α : Type*} (p : α → Bool) (l : List α) (last : α) :
    (l ++ [last]).countP p = l.countP p + (p last).toNat := by
  rw [List.countP_append, List.countP_singleton]
  cases p last with
  | true => rfl
  | false => rfl

theorem countP_foundEvidence_tool (d : Desk) (now : Time) (l : Ledger) (iteration : Nat)
    (request : ToolRequest) (outcome : ToolOutcome) :
    (wroteBy d now l (toolRecord iteration request outcome)).steps.countP foundEvidence =
      l.steps.countP foundEvidence + (outcome.ok && request.tool != getIncidentEvidence).toNat :=
  countP_concat foundEvidence l.steps _

/-- A step that is neither a turn nor a tool call. -/
theorem Accounted.wroteBy (accounted : Accounted l) (noTurn : record.kind ≠ .modelTurn)
    (noCall : record.kind ≠ .toolCall) (noEvidence : record.newEvidence = 0) :
    Accounted (wroteBy d now l record) := by
  refine ⟨?_, ?_, ?_⟩
  · simpa [noTurn] using accounted.iterations
  · simpa [noEvidence] using accounted.evidence
  · exact (congrArg (l.row.evidenceCount + ·) noEvidence).trans
      (accounted.counted.trans (countP_foundEvidence_concat noCall).symm)

theorem Turn.Agrees.of_accounts (agrees : Turn.Agrees turn l)
    (accounts : SameAccounts l.row l'.row) : Turn.Agrees turn l' :=
  ⟨agrees.limit.trans (congrArg _ accounts.budget).symm,
    agrees.used.trans accounts.evidenceCount.symm⟩

theorem Turn.Agrees.wroteBy (agrees : Turn.Agrees turn l) (noEvidence : record.newEvidence = 0) :
    Turn.Agrees turn (wroteBy d now l record) :=
  ⟨agrees.limit, by simpa [noEvidence] using agrees.used⟩

end

theorem Turn.Agrees.of_row {row : InvestigationRow} {l : Ledger} (budget : row.budget = l.row.budget)
    (evidenceCount : row.evidenceCount = l.row.evidenceCount) (iteration : Nat)
    (finalReason : Option String) : Turn.Agrees (.of row iteration finalReason) l :=
  ⟨congrArg (·.maxEvidenceItems) budget, evidenceCount⟩

theorem SameAccounts.of_loaded {l : Ledger} {state : InvestigationState} (loaded : Loaded l state) :
    SameAccounts l.row state.investigation := by
  rw [loaded.investigation]
  exact ⟨rfl, rfl, rfl, rfl⟩

theorem budgets_kept (e : EngineEnv) (id : Uuid) :
    Keeps e id (fun _ _ _ => True) Accounted Budgeted where
  claimed accounted claimed _ :=
    ⟨accounted.of_accounts claimed.accounts (by rw [claimed.steps]), trivial⟩
  moved := by
    intro d now replies s l l' p p' _ _ accounted memory _ move
    cases move with
    | raises | rests | resumes | introduced | finds => exact ⟨accounted, fun _ => trivial⟩
    | loads x state loaded goesOn => exact ⟨accounted, fun _ => loaded⟩
    | returns turn x goesOn => exact ⟨accounted, fun _ => trivial⟩
    | closes p status l' held final =>
      obtain ⟨iteration, payload, callId, steps⟩ := final.steps
      refine ⟨accounted.of_accounts final.accounts ?_, fun live => by cases live⟩
      rw [steps]
      exact countP_foundEvidence_concat (by simp [Ledger.next])
    | introduces state held =>
      exact ⟨accounted.wroteBy nofun nofun rfl, fun _ => trivial⟩
    | takesUp state x last jobs left =>
      have loaded : Loaded l state := memory
      have accounts : SameAccounts l.row state.investigation := .of_loaded loaded
      exact ⟨accounted, fun _ => .of_row accounts.budget accounts.evidenceCount _ _⟩
    | announces state x nothing within held =>
      have loaded : Loaded l state := memory
      obtain ⟨iterations, streaks⟩ := below_of_enforceLimits loaded within
      refine ⟨accounted.wroteBy nofun nofun rfl, fun _ => ⟨?_, ?_⟩⟩
      · rw [loaded.investigation]
        exact iterations
      · exact streaks.wroteBy nofun nofun rfl
    | prepares iteration finalReason x state loaded =>
      exact ⟨accounted, fun _ => ⟨.of_loaded loaded, memory⟩⟩
    | fails state iteration finalReason attempt x error more answer held =>
      obtain ⟨accounts, iterations, streaks⟩ := memory
      refine ⟨accounted.wroteBy nofun nofun rfl, fun _ => ?_⟩
      obtain ⟨reason, detail, gaveUp⟩ | again :=
        afterError_cases d state iteration finalReason attempt x error
      · rw [gaveUp]
        trivial
      · rw [again]
        exact ⟨⟨accounts.budget, accounts.iterationCount, accounts.toolCallCount,
          accounts.evidenceCount⟩, iterations, streaks.wroteBy nofun nofun rfl⟩
    | hears state iteration finalReason attempt x turn more answer held =>
      obtain ⟨accounts, iterations, streaks⟩ := memory
      refine ⟨⟨?_, accounted.evidence, ?_⟩, fun _ => ?_⟩
      · exact max_le accounted.iterations iterations
      · exact accounted.counted.trans (countP_foundEvidence_concat (by simp [Ledger.next, turnRecord])).symm
      · exact Turn.Agrees.of_row (l := wroteBy d now l (turnRecord iteration turn)) accounts.budget
          accounts.evidenceCount iteration finalReason
    | notes turn jobs x stopReason held =>
      have agrees : Turn.Agrees turn l := memory
      exact ⟨accounted.wroteBy nofun nofun rfl, fun _ => agrees.wroteBy rfl⟩
    | applies turn jobs x call row payload accounts holder held =>
      have agrees : Turn.Agrees turn l := memory
      exact ⟨accounted.of_accounts accounts (countP_foundEvidence_concat (by simp [Ledger.next])),
        fun _ => agrees.of_accounts accounts⟩
    | unmet turn jobs x call row payload accounts holder held =>
      have agrees : Turn.Agrees turn l := memory
      exact ⟨accounted.of_accounts accounts (countP_foundEvidence_concat (by simp [Ledger.next])),
        fun _ => agrees.of_accounts accounts⟩
    | rejects turn jobs x call held =>
      have agrees : Turn.Agrees turn l := memory
      exact ⟨accounted.wroteBy nofun nofun rfl, fun _ => agrees.wroteBy rfl⟩
    | refuses turn jobs x request code text refused held =>
      have agrees : Turn.Agrees turn l := memory
      refine ⟨⟨accounted.iterations, accounted.evidence, ?_⟩, fun _ => agrees.wroteBy rfl⟩
      exact accounted.counted.trans (countP_foundEvidence_unfound rfl).symm
    | executes turn jobs x request notRefused =>
      have agrees : Turn.Agrees turn l := memory
      refine ⟨accounted, fun _ => ⟨agrees, ?_, ?_⟩⟩
      · exact executeTool_newEvidence e.compact x replies.tool request.tool request.arguments
      · have one := executeTool_newEvidence e.compact x replies.tool request.tool request.arguments
        unfold Turn.refusal at notRefused
        split_ifs at notRefused with final spent
        by_cases listing : request.tool = getIncidentEvidence
        · rw [one, listing, bne_self_eq_false, Bool.and_false]
          have within := accounted.evidence
          rw [agrees.used, agrees.limit]
          exact within
        · have room : ¬ turn.maxEvidenceItems ≤ turn.usedEvidence := fun le => spent ⟨listing, le⟩
          have atMost := Bool.toNat_le
            ((executeTool e.compact x replies.tool request.tool request.arguments).1.ok &&
              request.tool != getIncidentEvidence)
          omega
    | answers turn jobs x request outcome held =>
      obtain ⟨agrees, one, room⟩ := memory
      refine ⟨⟨accounted.iterations, ?_, ?_⟩, fun _ => ⟨agrees.limit, ?_⟩⟩
      · rw [wroteBy_evidenceCount, wroteBy_budget, ← agrees.used, ← agrees.limit]
        exact room
      · rw [wroteBy_evidenceCount, accounted.counted]
        refine (congrArg (l.steps.countP foundEvidence + ·) one).trans ?_
        exact (countP_foundEvidence_tool ..).symm
      · exact congrArg (· + outcome.newEvidence) agrees.used

theorem StreaksWithin.of_budgeted {l : Ledger} {p : Phase} (memory : Budgeted l p)
    (asks : asksModel p = true) : StreaksWithin l := by
  cases p with
  | asking state iteration finalReason attempt x => exact memory.2.2
  | _ => cases asks

/-- Iterations and evidence never exceed their budgets, the evidence counted is the evidence
found in the trace, and the model is asked only while both streaks at the end of the trace
are below their limits: by the worker that has the lease, and so by every worker where one
resumes only what others have left. -/
theorem other_budgets_hold (e : EngineEnv) {id : Uuid} {s : Store} {l : Ledger}
    (opened : Opened s id l) (events : List WorkEvent) :
    ∃ l', ledgerOf (workshopFrom e id s events).store id = some l' ∧
      l'.row.iterationCount ≤ l'.row.budget.maxIterations ∧
      l'.row.evidenceCount ≤ l'.row.budget.maxEvidenceItems ∧
      l'.row.evidenceCount = l'.steps.countP foundEvidence ∧
      ∀ (k : Nat) (worker : Worker), (workshopFrom e id s events).workers[k]? = some worker →
        asksModel worker.phase = true →
        l'.heldBy worker.engine.owner ∨
          Machine.StepsMeet (TakesOver e id) (Workshop.step e id) { store := s, workers := [] }
            events →
        trailingInvalidTurns l'.steps < l'.row.budget.maxConsecutiveInvalidTurns ∧
          trailingBackendFailures l'.steps < l'.row.budget.maxConsecutiveToolFailures := by
  have start : Accounted l := by
    refine ⟨?_, ?_, ?_⟩
    · rw [opened.iterationCount]
      exact Nat.zero_le _
    · rw [opened.evidenceCount]
      exact Nat.zero_le _
    · rw [opened.evidenceCount, opened.steps]
      rfl
  obtain ⟨⟨l', here, accounted, memory⟩, _⟩ := workshop_synced (budgets_kept e id) opened.here start
    (stepsMeet_free e id { store := s, workers := [] } events)
  refine ⟨l', here, accounted.iterations, accounted.evidence, accounted.counted, ?_⟩
  intro k worker row asks mayAsk
  have live : worker.phase.live = true := by
    cases phase : worker.phase with
    | ended status =>
      rw [phase] at asks
      cases asks
    | _ => rfl
  have held : l'.heldBy worker.engine.owner := by
    rcases mayAsk with held | takesOver
    · exact held
    · obtain ⟨l'', here', holders⟩ := (workshop_loneHolder opened.here takesOver).current
      obtain rfl := Option.some.inj (here.symm.trans here')
      exact holders k worker row live
  have streaks := StreaksWithin.of_budgeted (memory k worker row live held) asks
  exact ⟨streaks.invalidTurns, streaks.backendFailures⟩

/-- A worker looks for logs, crashes, and another one resumes and is asking. -/
def resumedRun : List WorkEvent :=
  workerClaims "worker" :: workerDoes 0 7 [callOfTool "c1" "get_logs"] ++
    [.crash 0, .claim 300000000 { owner := "other" }] ++
    workerDoes 1 9 [callOfTool "c1" "get_logs"]

theorem other_budgets_hold_resumed :
    ∃ l', ledgerOf (workshopFrom deskEnv 0 (paymentsRequested {}) resumedRun).store 0 = some l' ∧
      l'.row.iterationCount ≤ l'.row.budget.maxIterations ∧
      l'.row.evidenceCount ≤ l'.row.budget.maxEvidenceItems ∧
      l'.row.evidenceCount = l'.steps.countP foundEvidence ∧
      ∀ (k : Nat) (worker : Worker),
        (workshopFrom deskEnv 0 (paymentsRequested {}) resumedRun).workers[k]? = some worker →
        asksModel worker.phase = true →
        l'.heldBy worker.engine.owner ∨
          Machine.StepsMeet (TakesOver deskEnv 0) (Workshop.step deskEnv 0)
            { store := paymentsRequested {}, workers := [] } resumedRun →
        trailingInvalidTurns l'.steps < l'.row.budget.maxConsecutiveInvalidTurns ∧
          trailingBackendFailures l'.steps < l'.row.budget.maxConsecutiveToolFailures := by
  obtain ⟨l, opened⟩ : ∃ l, Opened (paymentsRequested {}) 0 l :=
    Opened.of_counts (by decide +kernel)
  exact other_budgets_hold deskEnv opened resumedRun

end IncidentTriage.Verified
