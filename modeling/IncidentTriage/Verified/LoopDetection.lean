import IncidentTriage.Verified.Openings
import IncidentTriage.Verified.ToolCalls

/-! # Loop detection across a resume

An executor counts the calls it makes, and a resumed run seeds its executor with the
calls that the trace says were counted.  The two agree as long as the trace counts no call
that no executor counts: the listing of recorded evidence is such a call.
-/

namespace IncidentTriage.Verified

open IncidentTriage.Python IncidentTriage.Domain IncidentTriage.Incident IncidentTriage.Tools
  IncidentTriage.Agents

/-! ## The executor a trace gives -/

/-- The executor that a run builds which starts from this ledger. -/
def rebuiltToolset (l : Ledger) : ToolExecutor :=
  .seeded
    { maxCalls := l.row.budget.maxToolCalls
      maxIdenticalCalls := l.row.budget.maxIdenticalToolCalls }
    ((priorCalls l.steps).map (fun call => (aliasOf call.1, call.2)))

theorem liveToolset_of_loaded {l : Ledger} {state : InvestigationState} (loaded : Loaded l state) :
    liveToolset state = rebuiltToolset l := by
  rw [liveToolset, rebuiltToolset, loaded.investigation, loaded.steps]

theorem rebuiltToolset_uncounted {l l' : Ledger} {step : InvestigationStepRow}
    (budget : l'.row.budget = l.row.budget) (steps : l'.steps = l.steps ++ [step])
    (uncounted : isCountedCall step = false) : rebuiltToolset l' = rebuiltToolset l := by
  simp [rebuiltToolset, priorCalls, budget, steps, uncounted]

theorem rebuiltToolset_counted {l l' : Ledger} {step : InvestigationStepRow}
    (budget : l'.row.budget = l.row.budget) (steps : l'.steps = l.steps ++ [step])
    (counted : isCountedCall step = true) :
    rebuiltToolset l' =
      (rebuiltToolset l).counted (aliasOf (callOf step).1) (callOf step).2 := by
  simp [rebuiltToolset, priorCalls, budget, steps, counted, ToolExecutor.seeded]

theorem rebuiltToolset_same {l l' : Ledger} (budget : l'.row.budget = l.row.budget)
    (steps : l'.steps = l.steps) : rebuiltToolset l' = rebuiltToolset l := by
  rw [rebuiltToolset, rebuiltToolset, budget, steps]

section
variable {d : Desk} {now : Time} {l : Ledger}

/-- A step that is no tool call. -/
theorem rebuiltToolset_wroteBy {record : StepRecord} (noCall : record.kind ≠ .toolCall) :
    rebuiltToolset (wroteBy d now l record) = rebuiltToolset l :=
  rebuiltToolset_uncounted rfl rfl (by simp [isCountedCall, Ledger.next, noCall])

theorem rebuiltToolset_refused (iteration : Nat) (request : ToolRequest) (code text : String) :
    rebuiltToolset (wroteBy d now l (refusedRecord iteration request code text)) =
      rebuiltToolset l :=
  rebuiltToolset_uncounted rfl rfl rfl

theorem rebuiltToolset_answered (iteration : Nat) (request : ToolRequest)
    (outcome : ToolOutcome) :
    rebuiltToolset (wroteBy d now l (toolRecord iteration request outcome)) =
      if outcome.counted = true then
        (rebuiltToolset l).counted (aliasOf request.tool) request.arguments
      else rebuiltToolset l := by
  obtain ⟨step, steps, reads, call⟩ : ∃ step,
      (wroteBy d now l (toolRecord iteration request outcome)).steps = l.steps ++ [step] ∧
        isCountedCall step = outcome.counted ∧ callOf step = (request.tool, request.arguments) :=
    ⟨_, rfl, rfl, rfl⟩
  have budget : (wroteBy d now l (toolRecord iteration request outcome)).row.budget =
      l.row.budget := rfl
  split_ifs with counted
  · rw [rebuiltToolset_counted budget steps (reads.trans counted), call]
  · exact rebuiltToolset_uncounted budget steps (reads.trans (Bool.eq_false_iff.mpr counted))

end

/-! ## The executor in memory -/

/-- The executor of a run that waits for no answer to be recorded. -/
def toolsetOf : Phase → Option ToolExecutor
  | .looping x | .loaded _ x | .noticed _ _ x | .asking _ _ _ _ x | .acting _ _ x => some x
  | .claimed _ | .contextual | .failing .. | .answering .. | .ended _ => none

/-- No listing of the recorded evidence is executed next. -/
def NoListing (_ : Ledger) (p : Phase) (_ : Replies) : Prop :=
  ∀ call ∈ nextCall p, call.1.tool ≠ getIncidentEvidence

instance (l : Ledger) (p : Phase) (replies : Replies) : Decidable (NoListing l p replies) :=
  inferInstanceAs (Decidable (∀ call ∈ nextCall p, _))

/-- What the holder of the lease has in memory is what a resume would rebuild. -/
def Rebuilt (l : Ledger) : Phase → Prop
  | .claimed state => Loaded l state
  | .contextual | .failing .. | .ended _ => True
  | .looping x | .loaded _ x | .noticed _ _ x | .asking _ _ _ _ x => x = rebuiltToolset l
  | .acting _ jobs x => x = rebuiltToolset l ∧ KnownTools jobs
  | .answering _ request outcome jobs x => KnownTools jobs ∧ x =
      if outcome.counted = true then
        (rebuiltToolset l).counted (aliasOf request.tool) request.arguments
      else rebuiltToolset l

theorem Rebuilt.toolsetOf {l : Ledger} {p : Phase} {x : ToolExecutor} (memory : Rebuilt l p)
    (has : toolsetOf p = some x) : x = rebuiltToolset l := by
  cases p with
  | acting turn jobs y =>
    cases has
    exact memory.1
  | looping | loaded | noticed | asking =>
    cases has
    exact memory
  | claimed | contextual | failing | answering | ended => cases has

theorem knownTools_outstanding {schemas : Schemas} {steps : List InvestigationStepRow}
    {last : InvestigationStepRow} {jobs : List Job}
    (left : outstanding schemas steps = some (last, jobs)) : KnownTools jobs := by
  unfold outstanding at left
  split at left
  · cases left
  · split_ifs at left
    · cases left
      exact knownTools_jobsOf (by simp)
    · cases left
      exact knownTools_jobsOf (interpretTurn_toolRequests _ _ _ _)

theorem rebuilt_kept (e : EngineEnv) (id : Uuid) :
    Keeps e id NoListing (fun _ => True) Rebuilt where
  claimed _ _ loaded := ⟨trivial, loaded⟩
  moved := by
    intro d now replies s l l' p p' _ _ _ memory allowed move
    refine ⟨trivial, ?_⟩
    cases move with
    | raises | rests | introduces | closes | finds => exact fun _ => trivial
    | resumes state => exact fun _ => liveToolset_of_loaded memory
    | introduced state loaded => exact fun _ => liveToolset_of_loaded loaded
    | loads x state loaded goesOn => exact fun _ => memory
    | prepares iteration finalReason x state loaded => exact fun _ => memory
    | takesUp state x last jobs left => exact fun _ => ⟨memory, knownTools_outstanding left⟩
    | announces state x nothing within held =>
      exact fun _ => memory.trans (rebuiltToolset_wroteBy (by simp [feedbackRecord])).symm
    | fails state iteration finalReason attempt x error more answer held =>
      intro _
      obtain ⟨reason, detail, gaveUp⟩ | again :=
        afterError_cases d state iteration finalReason attempt x error
      · rw [gaveUp]
        trivial
      · rw [again]
        exact memory.trans (rebuiltToolset_wroteBy (by simp [errorRecord])).symm
    | hears state iteration finalReason attempt x turn more answer held =>
      exact fun _ => ⟨memory.trans (rebuiltToolset_wroteBy (by simp [turnRecord])).symm,
        knownTools_jobsOf (interpretTurn_toolRequests _ _ _ _)⟩
    | returns turn x goesOn => exact fun _ => memory.1
    | notes turn jobs x stopReason held =>
      exact fun _ => ⟨memory.1.trans (rebuiltToolset_wroteBy (by simp [feedbackRecord])).symm,
        memory.2.tail⟩
    | applies turn jobs x call row payload accounts holder held =>
      exact fun _ => ⟨memory.1.trans (rebuiltToolset_uncounted accounts.budget rfl rfl).symm,
        memory.2.tail⟩
    | unmet turn jobs x call row payload accounts holder held =>
      exact fun _ => ⟨memory.1.trans (rebuiltToolset_uncounted accounts.budget rfl rfl).symm,
        memory.2.tail⟩
    | rejects turn jobs x call held =>
      exact fun _ => ⟨memory.1.trans (rebuiltToolset_wroteBy (by simp [invalidRecord])).symm,
        memory.2.tail⟩
    | refuses turn jobs x request code text refused held =>
      exact fun _ => ⟨memory.1.trans (rebuiltToolset_refused ..).symm, memory.2.tail⟩
    | executes turn jobs x request notRefused =>
      intro _
      obtain ⟨rfl, known⟩ := memory
      have evidence : request.tool ≠ getIncidentEvidence := allowed _ (if_pos notRefused)
      exact ⟨known.tail, executeTool_counts e.compact _ replies.tool request.arguments
        (known request (by simp)) evidence⟩
    | answers turn jobs x request outcome held =>
      exact fun _ => ⟨memory.2.trans (rebuiltToolset_answered ..).symm, memory.1⟩

/-- A worker makes so many steps, in which it acts on one call of a tool. -/
def oneCallRun (name : String) (n : Nat) : List WorkEvent :=
  workerClaims "worker" :: workerDoes 0 n [callOfTool "c1" name]

end IncidentTriage.Verified
