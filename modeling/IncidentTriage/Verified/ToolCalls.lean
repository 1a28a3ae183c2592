import IncidentTriage.Agents.Engine

/-! # One tool call

What the engine may request in a turn, and what the executor and the toolset do with a
request: a call is turned away by one of the two budgets or made and counted.
-/

namespace IncidentTriage.Verified

open IncidentTriage.Python IncidentTriage.Domain IncidentTriage.Incident IncidentTriage.Tools
  IncidentTriage.Agents

/-! ## What is requested -/

/-- Every request is for a tool with a definition. -/
def KnownTools (jobs : List Job) : Prop :=
  ∀ request, Job.request request ∈ jobs → evidenceToolNames.contains request.tool = true

/-- A decision tool adds no request. -/
theorem interpretAction_toolRequests {schemas : Schemas} {names : List String}
    {decision : InvestigationDecision} {action : ModelAction}
    (known : ∀ request ∈ decision.toolRequests, names.contains request.tool = true) :
    ∀ request ∈ (interpretAction schemas names decision action).toolRequests,
      names.contains request.tool = true := by
  unfold interpretAction
  by_cases update : action.name = updateHypotheses
  · rw [if_pos update]
    cases schemas.hypothesisUpdateBatch action.arguments <;> exact known
  by_cases conclude : action.name = concludeInvestigation
  · rw [if_neg update, if_pos conclude]
    cases schemas.finalInvestigationResult action.arguments with
    | error problems => exact known
    | ok result =>
      simp only
      split_ifs <;> exact known
  by_cases declare : action.name = declareInconclusive
  · rw [if_neg update, if_neg conclude, if_pos declare]
    cases schemas.inconclusiveDeclaration action.arguments with
    | error problems => exact known
    | ok declaration =>
      simp only
      split_ifs <;> exact known
  rw [if_neg update, if_neg conclude, if_neg declare]
  split_ifs with evidence
  · intro request member
    rcases List.mem_append.mp member with old | new
    · exact known request old
    · rw [List.mem_singleton.mp new]
      exact evidence
  · exact known

theorem interpretTurn_toolRequests (schemas : Schemas) (text : String)
    (actions : List ModelAction) (names : List String) :
    ∀ request ∈ (interpretTurn schemas text actions names).toolRequests,
      names.contains request.tool = true := by
  have each : ∀ decision : InvestigationDecision,
      (∀ request ∈ decision.toolRequests, names.contains request.tool = true) →
      ∀ request ∈ (actions.foldl (interpretAction schemas names) decision).toolRequests,
        names.contains request.tool = true := by
    induction actions with
    | nil => exact fun decision known => known
    | cons action actions ih =>
      exact fun decision known => ih _ (interpretAction_toolRequests known)
  exact each _ (by simp)

theorem knownTools_jobsOf {decision : InvestigationDecision} {stopReason : String}
    (known : ∀ request ∈ decision.toolRequests,
      evidenceToolNames.contains request.tool = true) : KnownTools (jobsOf decision stopReason) := by
  intro request member
  unfold jobsOf at member
  split_ifs at member
  · simp only [List.mem_append, List.mem_map, reduceCtorEq, and_false, exists_false, or_false,
      false_or, Job.request.injEq, exists_eq_right] at member
    exact known request member
  · simp at member

theorem KnownTools.tail {job : Job} {jobs : List Job} (known : KnownTools (job :: jobs)) :
    KnownTools jobs :=
  fun request member => known request (List.mem_cons_of_mem _ member)

theorem tools_aliasOf {tool : String} (known : evidenceToolNames.contains tool = true)
    (evidence : tool ≠ getIncidentEvidence) : tools.contains (aliasOf tool) = true := by
  have each : ∀ name ∈ evidenceToolNames, name ≠ getIncidentEvidence →
      tools.contains (aliasOf name) = true := by
    decide +kernel
  exact each tool (List.contains_iff_mem.mp known) evidence

/-! ## What the executor does -/

/-- The executor refuses the call without making it. -/
def turnsAway (x : ToolExecutor) (tool : String) (arguments : Dict) : Bool :=
  tools.contains tool && (x.overBudget tool arguments).isSome

/-- An error that says that no call was made. -/
def SaysUncounted (error : ToolErrorDetail) : Prop :=
  error.code = "budget_exceeded" ∨ error.code = "repeated_call"

theorem saysUncounted_of_overBudget {x : ToolExecutor} {tool : String} {arguments : Dict}
    {error : ToolErrorDetail} (spent : x.overBudget tool arguments = some error) :
    SaysUncounted error := by
  unfold ToolExecutor.overBudget at spent
  split_ifs at spent
  · cases spent
    exact .inl rfl
  · cases spent
    exact .inr rfl

theorem not_saysUncounted_of_attemptCall {backend : Backend} {left attempt : Nat}
    {error : ToolErrorDetail} (failed : attemptCall backend left attempt = .failure error) :
    ¬ SaysUncounted error := by
  induction left generalizing attempt with
  | zero =>
    cases failed
    simp [SaysUncounted]
  | succ left ih =>
    unfold attemptCall at failed
    split at failed
    · cases failed
    · rename_i e _
      split_ifs at failed
      · exact ih failed
      · cases failed
        cases kind : e.kind <;> simp [SaysUncounted, EvidenceErrorKind.code]

/-- A call that the executor turns away leaves it as it was. -/
theorem execute_turnedAway {x : ToolExecutor} (backend : Backend) {tool : String}
    {arguments : Dict} (away : turnsAway x tool arguments = true) :
    ∃ error, SaysUncounted error ∧ x.execute backend tool arguments = (.failure error, x) := by
  rw [turnsAway, Bool.and_eq_true, Option.isSome_iff_exists] at away
  obtain ⟨known, error, spent⟩ := away
  refine ⟨error, saysUncounted_of_overBudget spent, ?_⟩
  simp only [ToolExecutor.execute, known, spent]
  rfl

/-- Every other call of a registered tool is made, and counted. -/
theorem execute_made {x : ToolExecutor} (backend : Backend) {tool : String} {arguments : Dict}
    (known : tools.contains tool = true) (made : turnsAway x tool arguments = false) :
    ∃ result, x.execute backend tool arguments = (result, x.counted tool arguments) ∧
      ∀ error, result = .failure error → ¬ SaysUncounted error := by
  rw [turnsAway, known, Bool.true_and, Option.isSome_eq_false_iff, Option.isNone_iff_eq_none] at made
  simp only [ToolExecutor.execute, known, made, Bool.not_true, Bool.false_eq_true, if_false]
  split_ifs with bad
  · refine ⟨_, rfl, fun error failed => ?_⟩
    cases failed
    simp [SaysUncounted]
  · exact ⟨_, rfl, fun error failed => not_saysUncounted_of_attemptCall failed⟩

/-! ## What the toolset answers -/

theorem counted_eq_false_iff {outcome : ToolOutcome} {error : ToolErrorDetail}
    (code : outcome.errorCode = some error.code) :
    outcome.counted = false ↔ SaysUncounted error := by
  rw [ToolOutcome.counted, code, SaysUncounted]
  simp only [Bool.and_eq_false_iff, bne_eq_false_iff_eq, Option.some.injEq]

theorem evidenceTool_turnedAway (compact : Json → String) {x : ToolExecutor} (backend : Backend)
    {tool : String} {arguments : Dict} (away : turnsAway x (aliasOf tool) arguments = true) :
    (evidenceTool compact x backend tool arguments).1.counted = false ∧
      (evidenceTool compact x backend tool arguments).2 = x := by
  obtain ⟨error, uncounted, executed⟩ := execute_turnedAway backend away
  unfold evidenceTool
  rw [executed]
  exact ⟨(counted_eq_false_iff rfl).mpr uncounted, rfl⟩

theorem evidenceTool_made (compact : Json → String) {x : ToolExecutor} (backend : Backend)
    {tool : String} {arguments : Dict} (known : tools.contains (aliasOf tool) = true)
    (made : turnsAway x (aliasOf tool) arguments = false) :
    (evidenceTool compact x backend tool arguments).1.counted = true ∧
      (evidenceTool compact x backend tool arguments).2 =
        x.counted (aliasOf tool) arguments := by
  obtain ⟨result, executed, codes⟩ := execute_made backend known made
  unfold evidenceTool
  rw [executed]
  cases result with
  | success item => exact ⟨rfl, rfl⟩
  | failure error =>
    refine ⟨?_, rfl⟩
    refine Bool.of_not_eq_false fun uncounted => codes error rfl ?_
    exact (counted_eq_false_iff rfl).mp uncounted

theorem executeTool_of_evidence (compact : Json → String) (x : ToolExecutor) (backend : Backend)
    {tool : String} (arguments : Dict) (evidence : tool ≠ getIncidentEvidence) :
    (executeTool compact x backend tool arguments).1.counted =
        (evidenceTool compact x backend tool arguments).1.counted ∧
      (executeTool compact x backend tool arguments).2 =
        (evidenceTool compact x backend tool arguments).2 := by
  unfold executeTool answerTool
  rw [if_neg evidence]
  exact ⟨rfl, rfl⟩

theorem executeTool_turnedAway (compact : Json → String) {x : ToolExecutor} (backend : Backend)
    {tool : String} {arguments : Dict} (evidence : tool ≠ getIncidentEvidence)
    (away : turnsAway x (aliasOf tool) arguments = true) :
    (executeTool compact x backend tool arguments).1.counted = false := by
  rw [(executeTool_of_evidence compact x backend arguments evidence).1]
  exact (evidenceTool_turnedAway compact backend away).1

/-- The executor counts a call exactly if its answer is counted. -/
theorem executeTool_counts (compact : Json → String) (x : ToolExecutor) (backend : Backend)
    {tool : String} (arguments : Dict) (known : evidenceToolNames.contains tool = true)
    (evidence : tool ≠ getIncidentEvidence) :
    (executeTool compact x backend tool arguments).2 =
      if (executeTool compact x backend tool arguments).1.counted = true then
        x.counted (aliasOf tool) arguments
      else x := by
  obtain ⟨counted, after⟩ := executeTool_of_evidence compact x backend arguments evidence
  rw [counted, after]
  cases away : turnsAway x (aliasOf tool) arguments with
  | true =>
    obtain ⟨uncounted, same⟩ := evidenceTool_turnedAway compact backend away
    rw [uncounted, same]
    rfl
  | false =>
    obtain ⟨counts, grown⟩ :=
      evidenceTool_made compact backend (tools_aliasOf known evidence) away
    rw [counts, grown]
    rfl

/-- The listing leaves the executor alone. -/
theorem executeTool_listing (compact : Json → String) (x : ToolExecutor) (backend : Backend)
    (arguments : Dict) :
    (executeTool compact x backend getIncidentEvidence arguments).2 = x := by
  simp only [executeTool, answerTool, if_true]

/-- New evidence comes from a successful call of a tool other than the listing, one item. -/
theorem executeTool_newEvidence (compact : Json → String) (x : ToolExecutor) (backend : Backend)
    (tool : String) (arguments : Dict) :
    (executeTool compact x backend tool arguments).1.newEvidence =
      ((executeTool compact x backend tool arguments).1.ok && tool != getIncidentEvidence).toNat := by
  by_cases listing : tool = getIncidentEvidence
  · subst listing
    simp only [executeTool, answerTool, if_true, incidentEvidence, listingError, bne_self_eq_false,
      Bool.and_false, Bool.toNat_false]
    split_ifs
    · rfl
    · split <;> rfl
  · have other : (tool != getIncidentEvidence) = true := by simpa using listing
    simp only [executeTool, answerTool, if_neg listing, evidenceTool, other, Bool.and_true]
    split <;> rfl

end IncidentTriage.Verified
