import IncidentTriage.Domain.Enums
import Mathlib.Data.List.Dedup

/-! # Investigation domain

Lifecycle, hypotheses, the schemas a model fills in, and the deterministic rules
that decide what model output may change: `checkHypothesisUpdate` for one update
and `evaluateConclusion` for the stopping criteria.
-/

namespace IncidentTriage.Domain

open IncidentTriage.Python

inductive InvestigationStatus where
  | created | investigating | completed | failed | escalated
  deriving DecidableEq, Repr

def InvestigationStatus.value : InvestigationStatus → String
  | .created => "CREATED"
  | .investigating => "INVESTIGATING"
  | .completed => "COMPLETED"
  | .failed => "FAILED"
  | .escalated => "ESCALATED"

def terminalInvestigationStatuses : List InvestigationStatus := [.completed, .failed, .escalated]

/-- `CREATED` or `INVESTIGATING`: the investigation still has an owner to come. -/
def InvestigationStatus.isOpen (s : InvestigationStatus) : Bool :=
  [.created, .investigating].contains s

inductive HypothesisStatus where
  | active | supported | weakened | rejected | selected
  deriving DecidableEq, Repr

def HypothesisStatus.value : HypothesisStatus → String
  | .active => "ACTIVE"
  | .supported => "SUPPORTED"
  | .weakened => "WEAKENED"
  | .rejected => "REJECTED"
  | .selected => "SELECTED"

/-- The statuses a model may set: `SELECTED` is not one of them. -/
inductive SettableStatus where
  | active | supported | weakened | rejected
  deriving DecidableEq, Repr

def SettableStatus.toStatus : SettableStatus → HypothesisStatus
  | .active => .active
  | .supported => .supported
  | .weakened => .weakened
  | .rejected => .rejected

@[simp] theorem SettableStatus.toStatus_ne_selected (s : SettableStatus) :
    s.toStatus ≠ .selected := by
  cases s <;> simp [toStatus]

inductive StepKind where
  | context | modelTurn | toolCall | hypothesisUpdate | conclusionRejected | invalidCall
  | feedback | modelError | outcome
  deriving DecidableEq, Repr

structure InvestigationBudget where
  maxIterations : Nat := 15
  maxToolCalls : Nat := 25
  maxIdenticalToolCalls : Nat := 2
  maxEvidenceItems : Nat := 40
  maxWallClockSeconds : Nat := 900
  maxTotalTokens : Option Nat := some 600000
  maxConsecutiveInvalidTurns : Nat := 3
  maxConsecutiveToolFailures : Nat := 5
  deriving DecidableEq, Repr

/-- A finite float and the text Python prints for it. -/
structure Fraction where
  value : ℚ
  text : String
  deriving DecidableEq, Repr

structure StoppingCriteria where
  minHypothesesConsidered : Nat := 2
  minSupportingEvidence : Nat := 2
  minSupportingEvidenceTypes : Nat := 2
  minConfidence : Fraction := ⟨3 / 5, "0.6"⟩
  deriving DecidableEq, Repr

/-! ## What a model proposes -/

inductive CauseCategory where
  | deployment | configuration | codeChange | dependency | database | resourceCpu
  | resourceMemory | traffic | infrastructure | other
  deriving DecidableEq, Repr

def CauseCategory.value : CauseCategory → String
  | .deployment => "deployment"
  | .configuration => "configuration"
  | .codeChange => "code_change"
  | .dependency => "dependency"
  | .database => "database"
  | .resourceCpu => "resource_cpu"
  | .resourceMemory => "resource_memory"
  | .traffic => "traffic"
  | .infrastructure => "infrastructure"
  | .other => "other"

/-- Create or change one hypothesis.  Evidence ids are added, never removed. -/
structure HypothesisUpdate where
  key : String
  description : Option String := none
  causeCategory : Option CauseCategory := none
  component : Option String := none
  status : Option SettableStatus := none
  confidence : Option Fraction := none
  supportingEvidenceIds : List Uuid := []
  contradictingEvidenceIds : List Uuid := []
  missingEvidence : Option (List String) := none
  rationale : String
  deriving DecidableEq, Repr

structure HypothesisUpdateBatch where
  updates : List HypothesisUpdate
  deriving DecidableEq, Repr

structure GroundedStatement where
  text : String
  evidenceIds : List Uuid
  deriving DecidableEq, Repr

structure AffectedService where
  service : String
  evidenceIds : List Uuid
  deriving DecidableEq, Repr

structure TimelineEntry where
  occurredAt : Time
  event : String
  evidenceIds : List Uuid
  deriving DecidableEq, Repr

structure ContradictionNote where
  evidenceId : Uuid
  explanation : String
  deriving DecidableEq, Repr

structure RcaDraft where
  incidentSummary : GroundedStatement
  impact : GroundedStatement
  affectedServices : List AffectedService
  timeline : List TimelineEntry
  rootCause : GroundedStatement
  contributingFactors : List GroundedStatement := []
  contradictingEvidence : List ContradictionNote := []
  unresolvedQuestions : List String := []
  recommendedNextDiagnosticAction : Option String := none
  deriving DecidableEq, Repr

/-- Every evidence id the draft cites. -/
def RcaDraft.evidenceIds (rca : RcaDraft) : List Uuid :=
  [rca.incidentSummary, rca.impact, rca.rootCause].flatMap (·.evidenceIds) ++
    rca.affectedServices.flatMap (·.evidenceIds) ++
    rca.timeline.flatMap (·.evidenceIds) ++
    rca.contributingFactors.flatMap (·.evidenceIds) ++
    rca.contradictingEvidence.map (·.evidenceId)

structure FinalInvestigationResult where
  selectedHypothesisKey : String
  confidence : Fraction
  rca : RcaDraft
  deriving DecidableEq, Repr

/-! ## Hypothesis rules -/

structure HypothesisSnapshot where
  key : String
  description : String
  status : HypothesisStatus
  confidence : Option ℚ
  supporting : List Uuid := []
  contradicting : List Uuid := []
  missingEvidence : List String := []
  causeCategory : Option CauseCategory := none
  component : Option String := none
  deriving DecidableEq, Repr

/-- `sorted(str(e) for e in ids)`. -/
def sortedIds (ids : List Uuid) : List String :=
  sortedStrings (ids.map uuidStr)

/-- `set(cited) - set(known)`, each id once. -/
def missingFrom (known cited : List Uuid) : List Uuid :=
  cited.dedup.filter (fun e => !known.contains e)

@[simp] theorem missingFrom_eq_nil {known cited : List Uuid} :
    missingFrom known cited = [] ↔ ∀ e ∈ cited, e ∈ known := by
  simp [missingFrom, List.filter_eq_nil_iff]

/-- The problem of a field that is fixed once set. -/
def fixedProblem (name : String) (given fixed : Option String) : List String :=
  match given, fixed with
  | some g, some f =>
    if g = f then [] else [name ++ " is fixed once set (it is " ++ quoteRepr f ++ ")"]
  | _, _ => []

def hasText (value : Option String) : Bool :=
  match value with
  | some text => !text.isEmpty
  | none => false

/-- What is wrong with creating, or with changing, this hypothesis. -/
def shapeProblems (update : HypothesisUpdate) : Option HypothesisSnapshot → List String
  | none =>
    (if hasText update.description then []
      else ["description is required when creating a hypothesis"]) ++
    (if update.causeCategory.isNone || update.component.isNone then
      ["cause_category and component are required when creating a hypothesis"] else [])
  | some existing =>
    fixedProblem "cause_category" (update.causeCategory.map (·.value))
      (existing.causeCategory.map (·.value)) ++
    fixedProblem "component" update.component existing.component ++
    (if existing.status = .rejected ∨ existing.status = .selected then
      ["hypothesis " ++ update.key ++ " is " ++ existing.status.value ++ " and cannot change"]
    else [])

/-- Why this update must be rejected; empty means acceptable. -/
def checkHypothesisUpdate (update : HypothesisUpdate) (existing : Option HypothesisSnapshot)
    (accessible : List Uuid) : List String :=
  let unknown := missingFrom accessible
    (update.supportingEvidenceIds ++ update.contradictingEvidenceIds)
  (if unknown = [] then []
    else ["evidence ids not returned to this investigation by any tool: " ++
      ", ".intercalate (sortedIds unknown)]) ++
  (if update.supportingEvidenceIds.any (fun e => update.contradictingEvidenceIds.contains e) then
    ["the same evidence cannot both support and contradict a hypothesis"] else []) ++
  shapeProblems update existing ++
  (if update.status = some .rejected ∧
      update.contradictingEvidenceIds ++ (existing.map (·.contradicting)).getD [] = [] then
    ["rejecting a hypothesis requires contradicting evidence"] else []) ++
  (if update.status = some .supported ∧
      update.supportingEvidenceIds ++ (existing.map (·.supporting)).getD [] = [] then
    ["marking a hypothesis SUPPORTED requires supporting evidence"] else [])

/-- What an accepted update satisfies. -/
structure AcceptedUpdate (update : HypothesisUpdate) (existing : Option HypothesisSnapshot)
    (accessible : List Uuid) : Prop where
  accessible : ∀ e ∈ update.supportingEvidenceIds ++ update.contradictingEvidenceIds,
    e ∈ accessible
  disjoint : ∀ e ∈ update.supportingEvidenceIds, e ∉ update.contradictingEvidenceIds
  shape : shapeProblems update existing = []
  rejected : update.status = some .rejected →
    update.contradictingEvidenceIds ++ (existing.map (·.contradicting)).getD [] ≠ []
  supported : update.status = some .supported →
    update.supportingEvidenceIds ++ (existing.map (·.supporting)).getD [] ≠ []

theorem checkHypothesisUpdate_eq_nil {update : HypothesisUpdate}
    {existing : Option HypothesisSnapshot} {accessible : List Uuid} :
    checkHypothesisUpdate update existing accessible = [] ↔
      AcceptedUpdate update existing accessible := by
  constructor
  · intro accepted
    simp only [checkHypothesisUpdate, List.append_eq_nil_iff, ite_eq_left_iff, ite_eq_right_iff,
      List.cons_ne_nil, imp_false, not_not, missingFrom_eq_nil] at accepted
    obtain ⟨⟨⟨⟨known, overlap⟩, shape⟩, rejected⟩, supported⟩ := accepted
    refine ⟨known, ?_, shape, ?_, ?_⟩
    · intro e supports contradicts
      exact overlap (List.any_eq_true.mpr ⟨e, supports, by simpa using contradicts⟩)
    · intro status empty
      exact rejected ⟨status, List.append_eq_nil_iff.mp empty⟩
    · intro status empty
      exact supported ⟨status, List.append_eq_nil_iff.mp empty⟩
  · intro accepted
    have overlap : update.supportingEvidenceIds.any
        (fun e => update.contradictingEvidenceIds.contains e) = false := by
      simpa using accepted.disjoint
    have known := missingFrom_eq_nil.mpr accepted.accessible
    have rejected := fun status => accepted.rejected status
    have supported := fun status => accepted.supported status
    simp only [checkHypothesisUpdate, known, overlap, accepted.shape, if_true,
      Bool.false_eq_true, if_false, List.append_eq_nil_iff, ite_eq_right_iff,
      List.cons_ne_nil, imp_false, not_and, true_and]
    exact ⟨fun status none more => rejected status (List.append_eq_nil_iff.mpr ⟨none, more⟩),
      fun status none more => supported status (List.append_eq_nil_iff.mpr ⟨none, more⟩)⟩

/-! ## Stopping criteria -/

def supportedTypes (evidenceTypes : Uuid → Option String) (supporting : List Uuid) :
    List String :=
  (supporting.filterMap evidenceTypes).dedup

/-- Hypotheses other than the selected one that are still `ACTIVE` or `SUPPORTED`. -/
def stillOpen (hypotheses : List (String × HypothesisSnapshot)) (selected : String) :
    List String :=
  (hypotheses.filter (fun h => h.2.key != selected &&
    (h.2.status == .active || h.2.status == .supported))).map (·.2.key)

/-- The unmet stopping criteria; empty means the conclusion may be accepted. -/
def evaluateConclusion (result : FinalInvestigationResult)
    (hypotheses : List (String × HypothesisSnapshot)) (evidenceTypes : Uuid → Option String)
    (criteria : StoppingCriteria) : List String :=
  match List.lookup result.selectedHypothesisKey hypotheses with
  | none => ["hypothesis " ++ quoteRepr result.selectedHypothesisKey ++ " does not exist"]
  | some selected =>
    let supporting := selected.supporting.dedup
    let contradicting := selected.contradicting.dedup
    let types := supportedTypes evidenceTypes supporting
    let unaddressed := missingFrom (result.rca.contradictingEvidence.map (·.evidenceId))
      contradicting
    let stillOpen := stillOpen hypotheses selected.key
    (if selected.status = .supported then []
      else ["selected hypothesis must be SUPPORTED (it is " ++ selected.status.value ++
        "); update it with supporting evidence first"]) ++
    (if supporting.length < criteria.minSupportingEvidence then
      ["selected hypothesis needs >= " ++ toString criteria.minSupportingEvidence ++
        " supporting evidence items (has " ++ toString supporting.length ++ ")"] else []) ++
    (if types.length < criteria.minSupportingEvidenceTypes then
      ["supporting evidence must span >= " ++ toString criteria.minSupportingEvidenceTypes ++
        " evidence types (has " ++ (Json.list ((sortedStrings types).map .str)).repr ++ ")"]
      else []) ++
    (if contradicting ≠ [] ∧ supporting.length ≤ contradicting.length then
      ["selected hypothesis has at least as much contradicting as supporting evidence"]
      else []) ++
    (if unaddressed = [] then []
      else ["contradicting evidence on the selected hypothesis must be explained in " ++
        "rca.contradicting_evidence: " ++ ", ".intercalate (sortedIds unaddressed)]) ++
    (if result.rca.rootCause.evidenceIds.any (fun e => supporting.contains e) then []
      else ["rca.root_cause must cite the selected hypothesis's supporting evidence"]) ++
    (if hypotheses.length < criteria.minHypothesesConsidered then
      ["consider >= " ++ toString criteria.minHypothesesConsidered ++
        " competing hypotheses (considered " ++ toString hypotheses.length ++ ")"] else []) ++
    (if stillOpen = [] then []
      else ["competing hypotheses must be WEAKENED or REJECTED with evidence first: " ++
        ", ".intercalate (sortedStrings stillOpen)]) ++
    (if result.confidence.value < criteria.minConfidence.value then
      ["confidence " ++ result.confidence.text ++ " is below " ++ criteria.minConfidence.text]
      else [])

/-- What the stopping criteria ask of the selected hypothesis and its competitors. -/
structure CriteriaMet (result : FinalInvestigationResult) (selected : HypothesisSnapshot)
    (hypotheses : List (String × HypothesisSnapshot)) (evidenceTypes : Uuid → Option String)
    (criteria : StoppingCriteria) : Prop where
  supported : selected.status = .supported
  items : criteria.minSupportingEvidence ≤ selected.supporting.dedup.length
  types : criteria.minSupportingEvidenceTypes ≤
    (supportedTypes evidenceTypes selected.supporting.dedup).length
  outnumbered : selected.contradicting.dedup ≠ [] →
    selected.contradicting.dedup.length < selected.supporting.dedup.length
  explained : ∀ e ∈ selected.contradicting,
    e ∈ result.rca.contradictingEvidence.map (·.evidenceId)
  considered : criteria.minHypothesesConsidered ≤ hypotheses.length
  settled : stillOpen hypotheses selected.key = []
  confident : criteria.minConfidence.value ≤ result.confidence.value

theorem criteriaMet_of_evaluateConclusion {result : FinalInvestigationResult}
    {hypotheses : List (String × HypothesisSnapshot)} {evidenceTypes : Uuid → Option String}
    {criteria : StoppingCriteria}
    (accepted : evaluateConclusion result hypotheses evidenceTypes criteria = []) :
    ∃ selected, List.lookup result.selectedHypothesisKey hypotheses = some selected ∧
      CriteriaMet result selected hypotheses evidenceTypes criteria := by
  unfold evaluateConclusion at accepted
  split at accepted
  · cases accepted
  · rename_i selected chosen
    simp only [List.append_eq_nil_iff, ite_eq_left_iff, ite_eq_right_iff, List.cons_ne_nil,
      imp_false, not_not, not_lt, missingFrom_eq_nil, List.mem_dedup, not_and, not_le]
      at accepted
    obtain ⟨⟨⟨⟨⟨⟨⟨⟨supported, items⟩, types⟩, outnumbered⟩, explained⟩, _⟩, considered⟩,
      settled⟩, confident⟩ := accepted
    exact ⟨selected, chosen,
      ⟨supported, items, types, outnumbered, explained, considered, settled, confident⟩⟩

def ungroundedIds (cited accessible : List Uuid) : List String :=
  sortedIds (missingFrom accessible cited)

theorem ungroundedIds_eq_nil {cited accessible : List Uuid} :
    ungroundedIds cited accessible = [] ↔ ∀ e ∈ cited, e ∈ accessible := by
  rw [← @missingFrom_eq_nil accessible, ungroundedIds, sortedIds, sortedStrings,
    ← List.length_eq_zero_iff, List.length_insertionSort, List.length_map,
    List.length_eq_zero_iff]

end IncidentTriage.Domain
