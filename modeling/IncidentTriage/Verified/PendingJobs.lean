import IncidentTriage.Verified.Leftovers
import IncidentTriage.Verified.Readings

/-! # The pending jobs of a turn

A resume reads the pending actions of a turn as if they were a turn of their own.  The jobs
it finds are those that the interrupted run still had to do, in its order: the terminal call
of a turn is done last, so it is pending as long as any other call is.
-/

namespace IncidentTriage.Verified

open IncidentTriage.Python IncidentTriage.Domain IncidentTriage.Incident IncidentTriage.Agents

/-! ## The jobs of a decision -/

/-- The jobs of a decision that has some. -/
def jobList (d : InvestigationDecision) : List Job :=
  d.hypothesisUpdates.map .update ++ d.invalidCalls.map .invalid ++
    d.toolRequests.map .request ++ d.conclusion.toList.map .conclude ++
    d.inconclusive.toList.map .declare

theorem mem_jobList {d : InvestigationDecision} {job : Job} :
    job ∈ jobList d ↔ (∃ call ∈ d.hypothesisUpdates, .update call = job) ∨
      (∃ call ∈ d.invalidCalls, .invalid call = job) ∨
      (∃ call ∈ d.toolRequests, .request call = job) ∨
      (∃ call, d.conclusion = some call ∧ .conclude call = job) ∨
      ∃ call, d.inconclusive = some call ∧ .declare call = job := by
  simp only [jobList, List.mem_append, List.mem_map, Option.mem_toList, or_assoc]

/-! ## A part of a decision -/

/-- The decision for some of the calls, and its terminal call. -/
def callsLeft (p : String → Bool) (d : InvestigationDecision) : InvestigationDecision :=
  { d with
    hypothesisUpdates := d.hypothesisUpdates.filter (fun call => p call.callId)
    toolRequests := d.toolRequests.filter (fun call => p call.callId)
    invalidCalls := d.invalidCalls.filter (fun call => p call.callId) }

def terminalCalls (d : InvestigationDecision) : List String :=
  d.conclusion.toList.map (·.callId) ++ d.inconclusive.toList.map (·.callId)

section
variable {schemas : Schemas} {names : List String} {p : String → Bool}

@[simp] theorem callsLeft_conclusion (p : String → Bool) (d : InvestigationDecision) :
    (callsLeft p d).conclusion = d.conclusion := rfl

@[simp] theorem callsLeft_inconclusive (p : String → Bool) (d : InvestigationDecision) :
    (callsLeft p d).inconclusive = d.inconclusive := rfl

theorem callsLeft_invalid {action : ModelAction} (kept : p action.callId = true)
    (d : InvestigationDecision) (error : String) :
    (callsLeft p d).invalid action error = callsLeft p (d.invalid action error) := by
  simp [callsLeft, InvestigationDecision.invalid, kept]

theorem callsLeft_invalid_dropped {action : ModelAction} (dropped : p action.callId = false)
    (d : InvestigationDecision) (error : String) :
    callsLeft p (d.invalid action error) = callsLeft p d := by
  simp [callsLeft, InvestigationDecision.invalid, dropped]

/-- What an action that is left adds does not depend on the others, but for a terminal call. -/
theorem interpretAction_kept {action : ModelAction} (kept : p action.callId = true)
    (d : InvestigationDecision) :
    interpretAction schemas names (callsLeft p d) action =
      callsLeft p (interpretAction schemas names d action) := by
  unfold interpretAction
  simp only [callsLeft_conclusion, callsLeft_inconclusive, callsLeft_invalid kept]
  by_cases update : action.name = updateHypotheses
  · rw [if_pos update, if_pos update]
    cases schemas.hypothesisUpdateBatch action.arguments with
    | error problems => rfl
    | ok batch => simp [callsLeft, kept]
  rw [if_neg update, if_neg update]
  by_cases conclude : action.name = concludeInvestigation
  · rw [if_pos conclude, if_pos conclude]
    cases schemas.finalInvestigationResult action.arguments with
    | error problems => rfl
    | ok result =>
      simp only
      split_ifs with taken
      · rfl
      · rfl
  rw [if_neg conclude, if_neg conclude]
  by_cases declare : action.name = declareInconclusive
  · rw [if_pos declare, if_pos declare]
    cases schemas.inconclusiveDeclaration action.arguments with
    | error problems => rfl
    | ok declaration =>
      simp only
      split_ifs with taken
      · rfl
      · rfl
  rw [if_neg declare, if_neg declare]
  split_ifs with evidence
  · simp [callsLeft, kept]
  · rfl

/-- What an action that is not left adds is not in the part, unless it is the terminal call. -/
theorem interpretAction_dropped {action : ModelAction} (dropped : p action.callId = false)
    {d : InvestigationDecision}
    (terminal : ∀ call ∈ terminalCalls (interpretAction schemas names d action), p call = true) :
    callsLeft p (interpretAction schemas names d action) = callsLeft p d := by
  have other : action.callId ∉ terminalCalls (interpretAction schemas names d action) := by
    intro member
    rw [terminal _ member] at dropped
    cases dropped
  unfold interpretAction at other ⊢
  by_cases update : action.name = updateHypotheses
  · rw [if_pos update]
    cases schemas.hypothesisUpdateBatch action.arguments with
    | error problems => exact callsLeft_invalid_dropped dropped d _
    | ok batch => simp [callsLeft, dropped]
  rw [if_neg update] at other ⊢
  by_cases conclude : action.name = concludeInvestigation
  · rw [if_pos conclude] at other ⊢
    cases parsed : schemas.finalInvestigationResult action.arguments with
    | error problems => exact callsLeft_invalid_dropped dropped d _
    | ok result =>
      simp only [parsed] at other ⊢
      split_ifs at other ⊢ with taken
      · exact callsLeft_invalid_dropped dropped d _
      · exact absurd (by simp [terminalCalls]) other
  rw [if_neg conclude] at other ⊢
  by_cases declare : action.name = declareInconclusive
  · rw [if_pos declare] at other ⊢
    cases parsed : schemas.inconclusiveDeclaration action.arguments with
    | error problems => exact callsLeft_invalid_dropped dropped d _
    | ok declaration =>
      simp only [parsed] at other ⊢
      split_ifs at other ⊢ with taken
      · exact callsLeft_invalid_dropped dropped d _
      · exact absurd (by simp [terminalCalls]) other
  rw [if_neg declare]
  split_ifs with evidence
  · simp [callsLeft, dropped]
  · exact callsLeft_invalid_dropped dropped d _

/-- A terminal call stays one. -/
theorem mem_terminalCalls_foldl {call : String} (actions : List ModelAction)
    {d : InvestigationDecision} (member : call ∈ terminalCalls d) :
    call ∈ terminalCalls (actions.foldl (interpretAction schemas names) d) := by
  obtain ⟨readings, each, _, _, conclusion, inconclusive, _⟩ :
      ∃ readings, List.Forall₂ (ReadsAs schemas names) actions readings ∧ _ := foldl_adds actions d
  rw [terminalCalls, conclusion, inconclusive, List.map_append, List.map_append]
  rcases List.mem_append.mp member with concluded | declared
  · exact List.mem_append_left _ (List.mem_append_left _ concluded)
  · exact List.mem_append_right _ (List.mem_append_left _ declared)

/-- Reading some of the actions gives their part of the whole decision. -/
theorem foldl_filter_callsLeft (actions : List ModelAction) (d : InvestigationDecision)
    (terminal : ∀ call ∈ terminalCalls (actions.foldl (interpretAction schemas names) d),
      p call = true) :
    (actions.filter (fun action => p action.callId)).foldl (interpretAction schemas names)
        (callsLeft p d) =
      callsLeft p (actions.foldl (interpretAction schemas names) d) := by
  induction actions generalizing d with
  | nil => rfl
  | cons action actions ih =>
    have rest := ih (interpretAction schemas names d action) terminal
    rw [List.foldl_cons, ← rest]
    cases kept : p action.callId with
    | true =>
      simp only [List.filter_cons, kept, if_true, List.foldl_cons, interpretAction_kept kept]
    | false =>
      have passed : callsLeft p (interpretAction schemas names d action) = callsLeft p d := by
        refine interpretAction_dropped kept fun call member => ?_
        exact terminal call (mem_terminalCalls_foldl actions member)
      simp only [List.filter_cons, kept, Bool.false_eq_true, if_false, passed]

end

/-! ## The jobs of the part -/

section
variable {p : String → Bool} {d : InvestigationDecision}

theorem jobsOf_eq_jobList (stopReason : String) (some_ : jobList d ≠ []) :
    jobsOf d stopReason = jobList d := by
  refine if_pos (Bool.of_not_eq_false fun none => some_ ?_)
  simp only [InvestigationDecision.hasActions, Bool.or_eq_false_iff, Bool.not_eq_false',
    List.isEmpty_iff, Option.isSome_eq_false_iff, Option.isNone_iff_eq_none] at none
  obtain ⟨⟨⟨⟨updates, requests⟩, conclusion⟩, inconclusive⟩, invalid⟩ := none
  simp [jobList, updates, requests, conclusion, inconclusive, invalid]

theorem callIds_jobList (d : InvestigationDecision) : callIds (jobList d) = decisionCalls d := by
  by_cases some_ : jobList d = []
  · simp only [jobList, List.append_eq_nil_iff, List.map_eq_nil_iff,
      Option.toList_eq_nil_iff] at some_
    obtain ⟨⟨⟨⟨updates, invalid⟩, requests⟩, conclusion⟩, inconclusive⟩ := some_
    simp [jobList, decisionCalls, callIds, updates, requests, conclusion, inconclusive, invalid]
  · rw [← jobsOf_eq_jobList "" some_, callIds_jobsOf]

/-- Every job of a decision is about a call. -/
theorem exists_jobCall {job : Job} (member : job ∈ jobList d) :
    ∃ call, jobCall job = some call := by
  rcases mem_jobList.mp member with
    ⟨call, _, rfl⟩ | ⟨call, _, rfl⟩ | ⟨call, _, rfl⟩ | ⟨call, _, rfl⟩ | ⟨call, _, rfl⟩
  all_goals exact ⟨call.callId, rfl⟩

def jobLeft (p : String → Bool) (job : Job) : Bool := (jobCall job).all p

theorem filter_map_jobLeft {α : Type} (job : α → Job) (callId : α → String)
    (call : ∀ a, jobCall (job a) = some (callId a)) (calls : List α) :
    (calls.map job).filter (jobLeft p) = (calls.filter (fun a => p (callId a))).map job := by
  rw [List.filter_map]
  refine congrArg (List.map job) (List.filter_congr fun a _ => ?_)
  simp [jobLeft, call]

theorem jobList_callsLeft (terminal : ∀ call ∈ terminalCalls d, p call = true) :
    jobList (callsLeft p d) = (jobList d).filter (jobLeft p) := by
  have concluded : (d.conclusion.toList.filter (fun call => p call.callId)) =
      d.conclusion.toList := by
    refine List.filter_eq_self.mpr fun call member => terminal _ ?_
    exact List.mem_append_left _ (List.mem_map_of_mem member)
  have declared : (d.inconclusive.toList.filter (fun call => p call.callId)) =
      d.inconclusive.toList := by
    refine List.filter_eq_self.mpr fun call member => terminal _ ?_
    exact List.mem_append_right _ (List.mem_map_of_mem member)
  simp only [jobList, List.filter_append]
  rw [filter_map_jobLeft .update (·.callId) (fun _ => rfl),
    filter_map_jobLeft .invalid (·.callId) (fun _ => rfl),
    filter_map_jobLeft .request (·.callId) (fun _ => rfl),
    filter_map_jobLeft .conclude (·.callId) (fun _ => rfl),
    filter_map_jobLeft .declare (·.callId) (fun _ => rfl), concluded, declared]
  rfl

/-- The terminal call of a decision is the last of its jobs. -/
theorem getLast?_jobList (one : d.conclusion = none ∨ d.inconclusive = none) {call : String}
    (terminal : call ∈ terminalCalls d) :
    ∃ job, (jobList d).getLast? = some job ∧ jobCall job = some call := by
  cases concluded : d.conclusion with
  | some conclusion =>
    have other : d.inconclusive = none := by simpa [concluded] using one
    simp only [terminalCalls, concluded, other, Option.toList_some, Option.toList_none,
      List.map_cons, List.map_nil, List.append_nil, List.mem_singleton] at terminal
    refine ⟨.conclude conclusion, ?_, congrArg some terminal.symm⟩
    simp [jobList, concluded, other]
  | none =>
    cases declared : d.inconclusive with
    | none => simp [terminalCalls, concluded, declared] at terminal
    | some declaration =>
      simp only [terminalCalls, concluded, declared, Option.toList_some, Option.toList_none,
        List.map_cons, List.map_nil, List.nil_append, List.mem_singleton] at terminal
      refine ⟨.declare declaration, ?_, congrArg some terminal.symm⟩
      simp [jobList, concluded, declared]

theorem callIds_append (jobs more : List Job) :
    callIds (jobs ++ more) = callIds jobs ++ callIds more := List.filterMap_append

variable {done rest : List Job}

/-- While jobs of a turn are left, its terminal call is one of them. -/
theorem terminal_not_done (one : d.conclusion = none ∨ d.inconclusive = none)
    (jobs : jobList d = done ++ rest) (distinct : (callIds (jobList d)).Nodup) (left : rest ≠ [])
    {call : String} (terminal : call ∈ terminalCalls d) : call ∉ callIds done := by
  obtain ⟨job, last, named⟩ := getLast?_jobList one terminal
  rw [jobs, List.getLast?_append_of_ne_nil _ left] at last
  rw [jobs, callIds_append, List.nodup_append] at distinct
  intro earlier
  have later : call ∈ callIds rest :=
    List.mem_filterMap.mpr ⟨job, List.mem_of_getLast? last, named⟩
  exact distinct.2.2 call earlier call later rfl

/-- The jobs about calls that are not answered are the jobs that were not done. -/
theorem filter_jobLeft (jobs : jobList d = done ++ rest)
    (distinct : (callIds (jobList d)).Nodup) :
    (jobList d).filter (jobLeft (fun call => !(callIds done).contains call)) = rest := by
  rw [jobs, callIds_append, List.nodup_append] at distinct
  have earlier : done.filter (jobLeft (fun call => !(callIds done).contains call)) = [] := by
    refine List.filter_eq_nil_iff.mpr fun job member => ?_
    obtain ⟨call, named⟩ := exists_jobCall (jobs ▸ List.mem_append_left rest member)
    have answered : call ∈ callIds done := List.mem_filterMap.mpr ⟨job, member, named⟩
    simp [jobLeft, named, answered]
  have later : rest.filter (jobLeft (fun call => !(callIds done).contains call)) = rest := by
    refine List.filter_eq_self.mpr fun job member => ?_
    obtain ⟨call, named⟩ := exists_jobCall (jobs ▸ List.mem_append_right done member)
    have here : call ∈ callIds rest := List.mem_filterMap.mpr ⟨job, member, named⟩
    have open_ : call ∉ callIds done := fun answered =>
      distinct.2.2 call answered call here rfl
    simp [jobLeft, named, open_]
  rw [jobs, List.filter_append, earlier, later]
  rfl

end

/-- The actions without an answer are read as the jobs that were not done. -/
theorem jobsOf_pending {schemas : Schemas} {text : String} {actions : List ModelAction}
    {names : List String} {done rest : List Job} (stopReason : String)
    (distinct : (actions.map (·.callId)).Nodup)
    (jobs : jobList (interpretTurn schemas text actions names) = done ++ rest)
    (left : rest ≠ []) :
    jobsOf (interpretTurn schemas text
        (actions.filter (fun action => !(callIds done).contains action.callId)) names) stopReason =
      rest := by
  have one : (interpretTurn schemas text actions names).conclusion = none ∨
      (interpretTurn schemas text actions names).inconclusive = none := one_foldl actions (.inl rfl)
  have told : (callIds (jobList (interpretTurn schemas text actions names))).Nodup := by
    rw [callIds_jobList]
    exact (perm_interpretTurn schemas text actions names).nodup_iff.mpr distinct
  have terminal : ∀ call ∈ terminalCalls (interpretTurn schemas text actions names),
      (!(callIds done).contains call) = true := by
    intro call member
    simpa using terminal_not_done one jobs told left member
  have part : interpretTurn schemas text
      (actions.filter (fun action => !(callIds done).contains action.callId)) names =
        callsLeft (fun call => !(callIds done).contains call)
          (interpretTurn schemas text actions names) :=
    foldl_filter_callsLeft (p := fun call => !(callIds done).contains call) actions
      { rationale := truncate text 4000 } terminal
  have same : jobList (interpretTurn schemas text
      (actions.filter (fun action => !(callIds done).contains action.callId)) names) = rest := by
    rw [part, jobList_callsLeft terminal]
    exact filter_jobLeft jobs told
  rw [jobsOf_eq_jobList stopReason (same ▸ left), same]

end IncidentTriage.Verified
