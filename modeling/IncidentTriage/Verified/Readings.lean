import IncidentTriage.Domain.Turns

/-! # Reading a model turn

Each action of a turn becomes one reading, and the parts of the decision are the readings of
their kind in the order of the actions.  The first well-formed terminal call is kept.
-/

namespace IncidentTriage.Verified

open IncidentTriage.Python IncidentTriage.Domain

/-- What one action can become. -/
inductive Reading where
  | update (call : HypothesisUpdateCall)
  | request (call : ToolRequest)
  | conclusion (call : ConclusionCall)
  | inconclusive (call : InconclusiveCall)
  | invalid (call : InvalidCall)

namespace Reading

def update? : Reading → Option HypothesisUpdateCall
  | .update call => some call
  | _ => none

def request? : Reading → Option ToolRequest
  | .request call => some call
  | _ => none

def conclusion? : Reading → Option ConclusionCall
  | .conclusion call => some call
  | _ => none

def inconclusive? : Reading → Option InconclusiveCall
  | .inconclusive call => some call
  | _ => none

def invalid? : Reading → Option InvalidCall
  | .invalid call => some call
  | _ => none

def isTerminal : Reading → Bool
  | .conclusion _ | .inconclusive _ => true
  | _ => false

end Reading

section
variable (schemas : Schemas) (names : List String)

/-- The reading is of this action.  What is well formed and no terminal call is not invalid. -/
inductive ReadsAs (action : ModelAction) : Reading → Prop where
  | update (batch : HypothesisUpdateBatch) (named : action.name = updateHypotheses)
      (valid : schemas.hypothesisUpdateBatch action.arguments = .ok batch) :
      ReadsAs action (.update { callId := action.callId, batch })
  | request (listed : names.contains action.name = true)
      (noDecision : action.name ∉ decisionTools) :
      ReadsAs action (.request
        { callId := action.callId, tool := action.name, arguments := action.arguments })
  | conclusion (result : FinalInvestigationResult) (named : action.name = concludeInvestigation)
      (valid : schemas.finalInvestigationResult action.arguments = .ok result) :
      ReadsAs action (.conclusion { callId := action.callId, result })
  | inconclusive (declaration : InconclusiveDeclaration)
      (named : action.name = declareInconclusive)
      (valid : schemas.inconclusiveDeclaration action.arguments = .ok declaration) :
      ReadsAs action (.inconclusive { callId := action.callId, declaration })
  | invalid (error : String)
      (noUpdate : action.name = updateHypotheses →
        ∀ batch, schemas.hypothesisUpdateBatch action.arguments ≠ .ok batch)
      (noRequest : names.contains action.name = true → action.name ∈ decisionTools) :
      ReadsAs action (.invalid { callId := action.callId, name := action.name, error })

/-- The terminal call of a decision. -/
def terminalOf (d : InvestigationDecision) : Option Reading :=
  (d.conclusion.map Reading.conclusion).or (d.inconclusive.map Reading.inconclusive)

/-- The decision has one entry for each action, in order within its kind, and no other. -/
structure Partitions (actions : List ModelAction) (d : InvestigationDecision) : Prop where
  entries : ∃ readings, List.Forall₂ (ReadsAs schemas names) actions readings ∧
    d.hypothesisUpdates = readings.filterMap Reading.update? ∧
    d.toolRequests = readings.filterMap Reading.request? ∧
    d.conclusion.toList = readings.filterMap Reading.conclusion? ∧
    d.inconclusive.toList = readings.filterMap Reading.inconclusive? ∧
    d.invalidCalls = readings.filterMap Reading.invalid?
  one : d.conclusion = none ∨ d.inconclusive = none
  first : ∀ before action after reading, actions = before ++ action :: after →
    (∀ earlier ∈ before, ∀ r, ReadsAs schemas names earlier r → r.isTerminal = false) →
      ReadsAs schemas names action reading → reading.isTerminal = true →
        terminalOf d = some reading

/-! ## One action -/

/-- The decision with one more reading. -/
structure Adds (d : InvestigationDecision) (reading : Reading) (d' : InvestigationDecision) :
    Prop where
  updates : d'.hypothesisUpdates = d.hypothesisUpdates ++ reading.update?.toList
  requests : d'.toolRequests = d.toolRequests ++ reading.request?.toList
  conclusion : d'.conclusion.toList = d.conclusion.toList ++ reading.conclusion?.toList
  inconclusive : d'.inconclusive.toList = d.inconclusive.toList ++ reading.inconclusive?.toList
  invalid : d'.invalidCalls = d.invalidCalls ++ reading.invalid?.toList
  /-- A terminal call is kept if it is the first. -/
  kept : terminalOf d' = (terminalOf d).or (if reading.isTerminal then some reading else none)
  one : d.conclusion = none ∨ d.inconclusive = none → d'.conclusion = none ∨ d'.inconclusive = none

end

section
variable {schemas : Schemas} {names : List String} {d d' : InvestigationDecision}

theorem adds_invalid (d : InvestigationDecision) (action : ModelAction) (error : String) :
    Adds d (.invalid { callId := action.callId, name := action.name, error })
      (d.invalid action error) := by
  constructor <;> simp [InvestigationDecision.invalid, Reading.update?, Reading.request?,
    Reading.conclusion?, Reading.inconclusive?, Reading.invalid?, Reading.isTerminal, terminalOf]

theorem adds_update (d : InvestigationDecision) (call : HypothesisUpdateCall) :
    Adds d (.update call) { d with hypothesisUpdates := d.hypothesisUpdates ++ [call] } := by
  constructor <;> simp [Reading.update?, Reading.request?, Reading.conclusion?,
    Reading.inconclusive?, Reading.invalid?, Reading.isTerminal, terminalOf]

theorem adds_request (d : InvestigationDecision) (call : ToolRequest) :
    Adds d (.request call) { d with toolRequests := d.toolRequests ++ [call] } := by
  constructor <;> simp [Reading.update?, Reading.request?, Reading.conclusion?,
    Reading.inconclusive?, Reading.invalid?, Reading.isTerminal, terminalOf]

theorem terminalOf_eq_none :
    terminalOf d = none ↔ d.conclusion = none ∧ d.inconclusive = none := by
  simp [terminalOf]

theorem adds_conclusion (call : ConclusionCall) (none_ : terminalOf d = none) :
    Adds d (.conclusion call) { d with conclusion := some call } := by
  obtain ⟨conclusion, inconclusive⟩ := terminalOf_eq_none.mp none_
  constructor <;> simp [Reading.update?, Reading.request?, Reading.conclusion?,
    Reading.inconclusive?, Reading.invalid?, Reading.isTerminal, terminalOf, conclusion,
    inconclusive]

theorem adds_inconclusive (call : InconclusiveCall) (none_ : terminalOf d = none) :
    Adds d (.inconclusive call) { d with inconclusive := some call } := by
  obtain ⟨conclusion, inconclusive⟩ := terminalOf_eq_none.mp none_
  constructor <;> simp [Reading.update?, Reading.request?, Reading.conclusion?,
    Reading.inconclusive?, Reading.invalid?, Reading.isTerminal, terminalOf, conclusion,
    inconclusive]

/-- The loop's own test for an earlier terminal call. -/
theorem isSome_terminalOf :
    (d.conclusion.isSome || d.inconclusive.isSome) = (terminalOf d).isSome := by
  unfold terminalOf
  cases d.conclusion <;> simp

/-- A well-formed terminal call has one reading. -/
theorem reading_unique {action : ModelAction} {reading other : Reading}
    (reads : ReadsAs schemas names action reading) (reads' : ReadsAs schemas names action other)
    (terminal : reading.isTerminal = true) (terminal' : other.isTerminal = true) :
    reading = other := by
  cases reads with
  | update | request | invalid => cases terminal
  | conclusion result named valid =>
    cases reads' with
    | update | request | invalid => cases terminal'
    | conclusion result' _ valid' =>
      cases Except.ok.inj (valid.symm.trans valid')
      rfl
    | inconclusive declaration named' =>
      rw [named] at named'
      exact absurd named' (by decide)
  | inconclusive declaration named valid =>
    cases reads' with
    | update | request | invalid => cases terminal'
    | conclusion result named' =>
      rw [named] at named'
      exact absurd named' (by decide)
    | inconclusive declaration' _ valid' =>
      cases Except.ok.inj (valid.symm.trans valid')
      rfl

theorem terminal_cases {action : ModelAction} {reading : Reading}
    (reads : ReadsAs schemas names action reading) (terminal : reading.isTerminal = true) :
    (action.name = concludeInvestigation ∧
      ∃ result, schemas.finalInvestigationResult action.arguments = .ok result) ∨
    (action.name = declareInconclusive ∧
      ∃ declaration, schemas.inconclusiveDeclaration action.arguments = .ok declaration) := by
  cases reads with
  | update | request | invalid => cases terminal
  | conclusion result named valid => exact .inl ⟨named, result, valid⟩
  | inconclusive declaration named valid => exact .inr ⟨named, declaration, valid⟩

/-- What one step of the loop does: it adds a reading of the action, and passes a well-formed
terminal call over only for an earlier one. -/
def StepReads (schemas : Schemas) (names : List String) (d : InvestigationDecision)
    (action : ModelAction) (d' : InvestigationDecision) : Prop :=
  ∃ reading, ReadsAs schemas names action reading ∧ Adds d reading d' ∧
    ∀ other, ReadsAs schemas names action other → other.isTerminal = true →
      terminalOf d = none → reading = other

theorem stepReads_invalid {action : ModelAction} (error : String)
    (noUpdate : action.name = updateHypotheses →
      ∀ batch, schemas.hypothesisUpdateBatch action.arguments ≠ .ok batch)
    (noRequest : names.contains action.name = true → action.name ∈ decisionTools)
    (taken : ∀ other, ReadsAs schemas names action other → other.isTerminal = true →
      terminalOf d ≠ none) :
    StepReads schemas names d action (d.invalid action error) :=
  ⟨_, .invalid error noUpdate noRequest, adds_invalid d action error,
    fun other reads terminal empty => absurd empty (taken other reads terminal)⟩

theorem stepReads_terminal {action : ModelAction} {reading : Reading}
    (reads : ReadsAs schemas names action reading) (terminal : reading.isTerminal = true)
    (adds : Adds d reading d') : StepReads schemas names d action d' :=
  ⟨reading, reads, adds,
    fun _ reads' terminal' _ => reading_unique reads reads' terminal terminal'⟩

theorem stepReads_plain {action : ModelAction} {reading : Reading}
    (reads : ReadsAs schemas names action reading) (adds : Adds d reading d')
    (noConclusion : action.name ≠ concludeInvestigation)
    (noDeclaration : action.name ≠ declareInconclusive) :
    StepReads schemas names d action d' := by
  refine ⟨reading, reads, adds, fun other reads' terminal' _ => ?_⟩
  obtain ⟨named, -⟩ | ⟨named, -⟩ := terminal_cases reads' terminal'
  · exact absurd named noConclusion
  · exact absurd named noDeclaration

/-- One step of the loop. -/
theorem interpretAction_reads (schemas : Schemas) (names : List String) (d : InvestigationDecision)
    (action : ModelAction) :
    StepReads schemas names d action (interpretAction schemas names d action) := by
  unfold interpretAction
  by_cases update : action.name = updateHypotheses
  · rw [if_pos update]
    have noConclusion : action.name ≠ concludeInvestigation := by
      rw [update]
      decide
    have noDeclaration : action.name ≠ declareInconclusive := by
      rw [update]
      decide
    cases parsed : schemas.hypothesisUpdateBatch action.arguments with
    | error problems =>
      refine stepReads_plain (.invalid _ ?_ ?_) (adds_invalid d action _) noConclusion noDeclaration
      · simp [parsed]
      · exact fun _ => by
          rw [update]
          decide
    | ok batch =>
      exact stepReads_plain (.update batch update parsed) (adds_update d _) noConclusion
        noDeclaration
  by_cases conclude : action.name = concludeInvestigation
  · rw [if_neg update, if_pos conclude]
    have decision (_ : names.contains action.name = true) : action.name ∈ decisionTools := by
      rw [conclude]
      decide
    have noDeclaration : action.name ≠ declareInconclusive := by
      rw [conclude]
      decide
    cases parsed : schemas.finalInvestigationResult action.arguments with
    | error problems =>
      refine stepReads_invalid _ (absurd · update) decision fun other reads terminal => ?_
      obtain ⟨-, result, valid⟩ | ⟨named, -⟩ := terminal_cases reads terminal
      · rw [parsed] at valid
        cases valid
      · exact absurd named noDeclaration
    | ok result =>
      dsimp only
      rw [isSome_terminalOf]
      split_ifs with taken
      · exact stepReads_invalid _ (absurd · update) decision
          fun _ _ _ => Option.ne_none_iff_isSome.mpr taken
      · exact stepReads_terminal (.conclusion result conclude parsed) rfl
          (adds_conclusion _ (by simpa using taken))
  by_cases declare : action.name = declareInconclusive
  · rw [if_neg update, if_neg conclude, if_pos declare]
    have decision (_ : names.contains action.name = true) : action.name ∈ decisionTools := by
      rw [declare]
      decide
    cases parsed : schemas.inconclusiveDeclaration action.arguments with
    | error problems =>
      refine stepReads_invalid _ (absurd · update) decision fun other reads terminal => ?_
      obtain ⟨named, -⟩ | ⟨-, declaration, valid⟩ := terminal_cases reads terminal
      · exact absurd named conclude
      · rw [parsed] at valid
        cases valid
    | ok declaration =>
      dsimp only
      rw [isSome_terminalOf]
      split_ifs with taken
      · exact stepReads_invalid _ (absurd · update) decision
          fun _ _ _ => Option.ne_none_iff_isSome.mpr taken
      · exact stepReads_terminal (.inconclusive declaration declare parsed) rfl
          (adds_inconclusive _ (by simpa using taken))
  rw [if_neg update, if_neg conclude, if_neg declare]
  split_ifs with evidence
  · refine stepReads_plain (.request evidence ?_) (adds_request d _) conclude declare
    simp [decisionTools, update, conclude, declare]
  · exact stepReads_plain (.invalid _ (absurd · update) (absurd · evidence))
      (adds_invalid d action _) conclude declare

/-! ## The whole turn -/

/-- What a run of the loop adds. -/
theorem foldl_adds (actions : List ModelAction) (d : InvestigationDecision) :
    ∃ readings, List.Forall₂ (ReadsAs schemas names) actions readings ∧
      let d' := actions.foldl (interpretAction schemas names) d
      d'.hypothesisUpdates = d.hypothesisUpdates ++ readings.filterMap Reading.update? ∧
      d'.toolRequests = d.toolRequests ++ readings.filterMap Reading.request? ∧
      d'.conclusion.toList = d.conclusion.toList ++ readings.filterMap Reading.conclusion? ∧
      d'.inconclusive.toList = d.inconclusive.toList ++ readings.filterMap Reading.inconclusive? ∧
      d'.invalidCalls = d.invalidCalls ++ readings.filterMap Reading.invalid? := by
  induction actions generalizing d with
  | nil => exact ⟨[], .nil, by simp⟩
  | cons action actions ih =>
    obtain ⟨reading, reads, adds, -⟩ := interpretAction_reads schemas names d action
    obtain ⟨readings, each, updates, requests, conclusion, inconclusive, invalid⟩ :=
      ih (interpretAction schemas names d action)
    have append {α : Type} (f : Reading → Option α) :
        (reading :: readings).filterMap f = (f reading).toList ++ readings.filterMap f := by
      rw [List.filterMap_cons]
      cases f reading <;> rfl
    refine ⟨reading :: readings, .cons reads each, ?_, ?_, ?_, ?_, ?_⟩
    · rw [List.foldl_cons, updates, adds.updates, append, List.append_assoc]
    · rw [List.foldl_cons, requests, adds.requests, append, List.append_assoc]
    · rw [List.foldl_cons, conclusion, adds.conclusion, append, List.append_assoc]
    · rw [List.foldl_cons, inconclusive, adds.inconclusive, append, List.append_assoc]
    · rw [List.foldl_cons, invalid, adds.invalid, append, List.append_assoc]

/-- A run keeps the terminal call that it started with. -/
theorem terminalOf_foldl (actions : List ModelAction) {reading : Reading}
    (kept : terminalOf d = some reading) :
    terminalOf (actions.foldl (interpretAction schemas names) d) = some reading := by
  induction actions generalizing d with
  | nil => exact kept
  | cons action actions ih =>
    obtain ⟨added, _, adds, -⟩ := interpretAction_reads schemas names d action
    refine ih ?_
    rw [adds.kept, kept]
    rfl

/-- A run that started with none keeps the first that is well formed. -/
theorem first_foldl {before after : List ModelAction} {action : ModelAction} {reading : Reading}
    (earlier : ∀ a ∈ before, ∀ r, ReadsAs schemas names a r → r.isTerminal = false)
    (reads : ReadsAs schemas names action reading) (terminal : reading.isTerminal = true)
    (empty : terminalOf d = none) :
    terminalOf ((before ++ action :: after).foldl (interpretAction schemas names) d) =
      some reading := by
  induction before generalizing d with
  | nil =>
    obtain ⟨added, _, adds, first⟩ := interpretAction_reads schemas names d action
    refine terminalOf_foldl after ?_
    rw [adds.kept, empty, first reading reads terminal empty, if_pos terminal]
    rfl
  | cons a before ih =>
    obtain ⟨added, readsFirst, adds, -⟩ := interpretAction_reads schemas names d a
    refine ih (fun b listed => earlier b (List.mem_cons_of_mem a listed)) ?_
    rw [adds.kept, empty, earlier a List.mem_cons_self added readsFirst]
    rfl

theorem one_foldl (actions : List ModelAction) (one : d.conclusion = none ∨ d.inconclusive = none) :
    let d' := actions.foldl (interpretAction schemas names) d
    d'.conclusion = none ∨ d'.inconclusive = none := by
  induction actions generalizing d with
  | nil => exact one
  | cons action actions ih =>
    obtain ⟨_, _, adds, -⟩ := interpretAction_reads schemas names d action
    exact ih (adds.one one)

end

theorem oneTerminal_of_one {d : InvestigationDecision}
    (one : d.conclusion = none ∨ d.inconclusive = none) : d.oneTerminal = .ok d := by
  refine if_neg ?_
  rcases one with none_ | none_
  · simp [none_]
  · simp [none_]

/-- Reading a turn raises nothing, and neither loses nor invents an action. -/
theorem readTurn_partitions (schemas : Schemas) (text : String) (actions : List ModelAction)
    (names : List String) :
    ∃ d, readTurn schemas text actions names = .ok d ∧ Partitions schemas names actions d := by
  have one : (interpretTurn schemas text actions names).conclusion = none ∨
      (interpretTurn schemas text actions names).inconclusive = none := one_foldl actions (.inl rfl)
  refine ⟨_, oneTerminal_of_one one, ?_, one, ?_⟩
  · exact foldl_adds actions { rationale := truncate text 4000 }
  · rintro before action after reading rfl earlier reads terminal
    exact first_foldl earlier reads terminal rfl

end IncidentTriage.Verified
