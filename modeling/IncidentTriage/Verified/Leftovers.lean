import IncidentTriage.Verified.Answers

/-! # What a turn leaves to do

While a worker acts on the last turn of a trace, its jobs cover what the trace still has
open: each of them answers its call, so with the last one nothing is outstanding.  The calls
may share identifiers.
-/

namespace IncidentTriage.Verified

open IncidentTriage.Python IncidentTriage.Domain IncidentTriage.Incident IncidentTriage.Tools
  IncidentTriage.Agents

/-! ## The last turn of a longer trace -/

section
variable {steps : List InvestigationStepRow} {step : InvestigationStepRow}

theorem filter_after_concat (later : ∀ s ∈ steps, s.sequence < step.sequence)
    (last : InvestigationStepRow) (member : last ∈ steps) :
    (steps ++ [step]).filter (fun s => decide (last.sequence < s.sequence)) =
      steps.filter (fun s => decide (last.sequence < s.sequence)) ++ [step] := by
  rw [List.filter_append]
  simp [later last member]

theorem lastTurn_concat (noTurn : isModelTurn step = false)
    (later : ∀ s ∈ steps, s.sequence < step.sequence) :
    lastTurn (steps ++ [step]) =
      (lastTurn steps).map (fun found => (found.1, found.2 ++ [step])) := by
  have turns : (steps ++ [step]).filter isModelTurn = steps.filter isModelTurn := by
    simp [noTurn]
  unfold lastTurn
  rw [turns]
  cases found : (steps.filter isModelTurn).getLast? with
  | none => rfl
  | some last =>
    have member := (List.mem_filter.mp (List.mem_of_getLast? found)).1
    simp only [Option.map_some, filter_after_concat later last member]

theorem lastTurn_concat_turn (turn : isModelTurn step = true)
    (later : ∀ s ∈ steps, s.sequence < step.sequence) :
    lastTurn (steps ++ [step]) = some (step, []) := by
  have turns : (steps ++ [step]).filter isModelTurn = steps.filter isModelTurn ++ [step] := by
    simp [turn]
  have none : (steps ++ [step]).filter (fun s => decide (step.sequence < s.sequence)) = [] := by
    rw [List.filter_eq_nil_iff]
    intro s member
    rcases List.mem_append.mp member with earlier | same
    · have less := later s earlier
      simp only [decide_eq_true_eq]
      omega
    · rw [List.mem_singleton.mp same]
      simp
  unfold lastTurn
  rw [turns, List.getLast?_concat]
  simp only [none]

end

/-! ## Jobs -/

/-- There is always something to do for a decision. -/
theorem jobsOf_ne_nil (d : InvestigationDecision) (stopReason : String) :
    jobsOf d stopReason ≠ [] := by
  intro empty
  unfold jobsOf at empty
  split_ifs at empty with acts
  · simp only [List.append_eq_nil_iff, List.map_eq_nil_iff, Option.toList_eq_nil_iff] at empty
    obtain ⟨⟨⟨⟨updates, invalid⟩, requests⟩, conclusion⟩, inconclusive⟩ := empty
    simp [InvestigationDecision.hasActions, updates, invalid, requests, conclusion,
      inconclusive] at acts

theorem outstanding_ne_nil {schemas : Schemas} {steps : List InvestigationStepRow}
    {last : InvestigationStepRow} {jobs : List Job}
    (left : outstanding schemas steps = some (last, jobs)) : jobs ≠ [] := by
  unfold outstanding at left
  split at left
  · cases left
  · split_ifs at left
    · cases left
      exact jobsOf_ne_nil _ _
    · cases left
      exact jobsOf_ne_nil _ _

/-- A turn without actions is told so. -/
theorem jobsOf_noAction (schemas : Schemas) (text : String) (names : List String)
    (stopReason : String) :
    jobsOf (interpretTurn schemas text [] names) stopReason = [.noAction stopReason] := rfl

/-! ## What the jobs cover -/

/-- The jobs do all that the last turn of the trace has open: they answer its calls, or tell
it that it made none. -/
def Covers (l : Ledger) (jobs : List Job) : Prop :=
  ∀ last after, lastTurn l.steps = some (last, after) →
    if (recordedActions last.payload).isEmpty then
      after.any (fun s => s.kind == .feedback) = true ∨ ∃ reason, Job.noAction reason ∈ jobs
    else ∀ action ∈ pendingActions last after, action.callId ∈ callIds jobs

/-- Where no job is left, nothing is outstanding. -/
theorem Covers.done {l : Ledger} (covers : Covers l []) (schemas : Schemas) :
    outstanding schemas l.steps = none := by
  unfold outstanding
  cases found : lastTurn l.steps with
  | none => rfl
  | some turn =>
    obtain ⟨last, after⟩ := turn
    have covered := covers last after found
    simp only
    split_ifs at covered ⊢ with silent told none
    · rfl
    · rcases covered with feedback | ⟨reason, member⟩
      · exact absurd feedback told
      · cases member
    · rfl
    · have open_ : pendingActions last after ≠ [] := by simpa using none
      obtain ⟨action, member⟩ := List.exists_mem_of_ne_nil _ open_
      cases covered action member

theorem Covers.takenUp {l : Ledger} {schemas : Schemas} {last : InvestigationStepRow}
    {jobs : List Job} (left : outstanding schemas l.steps = some (last, jobs)) :
    Covers l jobs := by
  intro turn after found
  unfold outstanding at left
  simp only [found] at left
  split_ifs at left ⊢ with silent told none
  · cases left
    exact .inr ⟨_, List.mem_singleton_self _⟩
  · cases left
    intro action member
    exact (perm_callIds ..).mem_iff.mpr (List.mem_map_of_mem member)

/-- A turn that was just recorded. -/
theorem Covers.heard {l l' : Ledger} {schemas : Schemas} {step : InvestigationStepRow}
    {turn : ModelTurn} (steps : l'.steps = l.steps ++ [step]) (isTurn : isModelTurn step = true)
    (later : ∀ s ∈ l.steps, s.sequence < step.sequence)
    (actions : recordedActions step.payload = turn.actions) :
    Covers l' (decisionJobs schemas turn) := by
  intro last after found
  rw [steps, lastTurn_concat_turn isTurn later] at found
  cases found
  split_ifs with silent
  · rw [actions, List.isEmpty_iff] at silent
    rw [decisionJobs, silent, jobsOf_noAction]
    exact .inr ⟨_, List.mem_singleton_self _⟩
  · intro action member
    have own : action ∈ turn.actions := by
      rw [← actions]
      exact (List.mem_filter.mp member).1
    exact (perm_callIds ..).mem_iff.mpr (List.mem_map_of_mem own)

theorem pendingActions_concat {last step : InvestigationStepRow}
    {after : List InvestigationStepRow} {action : ModelAction}
    (member : action ∈ pendingActions last (after ++ [step])) :
    action ∈ pendingActions last after ∧
      (isActionStep step = true → step.callId ≠ some action.callId) := by
  simp only [pendingActions, answeredIds, List.mem_filter, List.filter_append, List.map_append,
    Bool.not_eq_true', Bool.eq_false_iff, ne_eq, List.contains_iff_mem, List.mem_append, not_or]
    at member ⊢
  obtain ⟨own, earlier, new⟩ := member
  refine ⟨⟨own, earlier⟩, fun answers same => new ?_⟩
  simp [answers, same]

/-- What a job leaves in the trace. -/
structure Did (job : Job) (step : InvestigationStepRow) : Prop where
  noTurn : isModelTurn step = false
  told : ∀ reason, job = .noAction reason → step.kind = .feedback
  answered : ∀ call, jobCall job = some call → isActionStep step = true ∧ step.callId = some call

theorem Covers.did {l l' : Ledger} {job : Job} {jobs : List Job} {step : InvestigationStepRow}
    (covers : Covers l (job :: jobs)) (steps : l'.steps = l.steps ++ [step])
    (later : ∀ s ∈ l.steps, s.sequence < step.sequence) (did : Did job step) :
    Covers l' jobs := by
  intro last after found
  rw [steps, lastTurn_concat did.noTurn later] at found
  obtain ⟨⟨turn, earlier⟩, before, same⟩ := Option.map_eq_some_iff.mp found
  cases same
  have covered := covers turn earlier before
  split_ifs at covered ⊢ with silent
  · rcases covered with feedback | ⟨reason, member⟩
    · simp [feedback]
    · rcases List.mem_cons.mp member with rfl | rest
      · simp [did.told reason rfl]
      · exact .inr ⟨reason, rest⟩
  · intro action member
    obtain ⟨pending, other⟩ := pendingActions_concat member
    have call := covered action pending
    rw [callIds, List.mem_filterMap] at call ⊢
    obtain ⟨asked, present, named⟩ := call
    rcases List.mem_cons.mp present with rfl | rest
    · obtain ⟨answers, callId⟩ := did.answered _ named
      exact absurd callId (other answers)
    · exact ⟨asked, rest, named⟩

end IncidentTriage.Verified
