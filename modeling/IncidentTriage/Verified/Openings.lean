import IncidentTriage.Verified.Moves
import IncidentTriage.Verified.Transactions

/-! # Investigations as they are opened

A request opens an investigation without steps and with nothing counted: an identifier
is new when the row of its investigation is inserted, and every step belongs to a row.
-/

namespace IncidentTriage.Verified

open IncidentTriage.Python IncidentTriage.Domain IncidentTriage.Incident IncidentTriage.Agents

/-- An investigation on which nobody has worked. -/
structure Opened (s : Store) (id : Uuid) (l : Ledger) : Prop where
  here : ledgerOf s id = some l
  steps : l.steps = []
  iterationCount : l.row.iterationCount = 0
  toolCallCount : l.row.toolCallCount = 0
  evidenceCount : l.row.evidenceCount = 0

/-- Every step is a step of an investigation. -/
def StepsOwned (s : Store) : Prop :=
  ∀ step ∈ s.investigation.steps, step.investigationId < s.investigation.investigations.length

theorem StepsOwned.grown {s s' : Store} (owned : StepsOwned s) {id : Uuid}
    {row row' : InvestigationRow} {new : List InvestigationStepRow}
    (found : s.investigation.investigations[id]? = some row)
    (own : ∀ step ∈ new, step.investigationId = id)
    (investigations : s'.investigation.investigations =
      s.investigation.investigations.set id row')
    (steps : s'.investigation.steps = s.investigation.steps ++ new) : StepsOwned s' := by
  intro step member
  rw [steps, List.mem_append] at member
  rw [investigations, List.length_set]
  rcases member with old | fresh
  · exact owned step old
  · rw [own step fresh]
    exact Table.lt_of_row found

theorem InvestigationEffect.stepsOwned {env : Env} {now : Time} {c : Command} {s s' : Store}
    (effect : InvestigationEffect env now c s s') (owned : StepsOwned s) : StepsOwned s' := by
  cases effect with
  | requested i incident row found noneOpen waiting firing incidentId attemptNumber status
      incidents tables unleased ends =>
    intro step member
    rw [tables] at member ⊢
    rw [List.length_append]
    exact (owned step member).trans_le (Nat.le_add_right _ _)
  | worked id row row' steps found same status own incidents tables lease ongoing ends =>
    exact owned.grown found (fun step member => (own step member).1) (by rw [tables])
      (by rw [tables])
  | updated id row row' updates step found investigating same status own incidents tables reported
      command leaseOwner ongoing ends =>
    exact owned.grown found (List.forall_mem_singleton.mpr own) (by rw [tables]) (by rw [tables])
  | completed id row row' incident hypothesisId h result report step found incidentFound
      investigating met selected same status own investigationId rootCause rca confidence key
      incidents tables reported command released outcome ends =>
    exact owned.grown found (List.forall_mem_singleton.mpr own) (by rw [tables]) (by rw [tables])
  | ended id row row' incident step found incidentFound investigating same status own incidents
      tables reported released outcome ends =>
    exact owned.grown found (List.forall_mem_singleton.mpr own) (by rw [tables]) (by rw [tables])

theorem Transaction.stepsOwned {env : Env} {now : Time} {tickets : List IssuedTicket}
    {c : Command} {s s' : Store} (transaction : Transaction env now tickets c s s')
    (owned : StepsOwned s) : StepsOwned s' := by
  have same : s'.investigation = s.investigation → StepsOwned s' := by
    intro investigation
    unfold StepsOwned
    rw [investigation]
    exact owned
  cases transaction with
  | alert step => exact same step.investigation
  | investigation step => exact step.effect.stepsOwned owned
  | remediation step => exact same step.investigation
  | verification step => exact same step.investigation

theorem run_stepsOwned (env : Env) (clock : Time) (events : List Event) :
    StepsOwned (runFrom env clock events).store :=
  run_invariant (fun transaction => transaction.stepsOwned)
    (fun step member => by cases member) events

/-- What a request that creates an investigation leaves. -/
theorem requestInvestigation_opens {now : Time} {s s' : Store} (owned : StepsOwned s) {i : Uuid}
    {provider model : String} {settings : Dict} {budget : InvestigationBudget}
    {started : StartedInvestigation}
    (done : requestInvestigation now s i provider model settings budget = .ok (started, s'))
    (created : started.created = true) :
    ∃ l, Opened s' started.investigationId l ∧ l.row.budget = budget := by
  simp only [requestInvestigation, bind_eq_ok, found_eq_ok] at done
  obtain ⟨incident, found, done⟩ := done
  split at done
  · cases done
    cases created
  · simp only [bind_eq_ok, ensure_eq_ok, found_eq_ok, pure_eq_ok] at done
    obtain ⟨_, _, _, _, ⟨moved, s₁⟩, transitioned, done⟩ := done
    cases eq_of_transitionIncidentStatus transitioned
      (by simp [putIncident, Table.lt_of_row found])
    cases done
    refine ⟨⟨newInvestigation now i (incident.attemptCount + 1) provider model settings budget, []⟩,
      ⟨ledgerOf_eq_some.mpr ⟨?row, ?steps⟩, rfl, rfl, rfl, rfl⟩, rfl⟩
    case row => exact List.getElem?_concat_length
    case steps =>
      -- no step has an identifier that no row had
      have none : s.investigation.steps.filter (fun step =>
          step.investigationId == s.investigation.investigations.length) = [] := by
        refine List.filter_eq_nil_iff.mpr fun step member => ?_
        rw [beq_iff_eq]
        exact (owned step member).ne
      exact (congrArg (List.insertionSort _) none).symm

/-! ## An investigation of the payments incident

A run the facts about particular runs of a worker are instantiated on. -/

def paymentsRequested (budget : InvestigationBudget) : Store :=
  (runFrom paymentsEnv 0
    (paymentsOpened ++ [next (.requestInvestigation 0 "provider" "model" [] budget)])).store

theorem Opened.of_counts {s : Store} {id : Uuid}
    (counts : (ledgerOf s id).map (fun l => (l.steps.length, l.row.iterationCount,
      l.row.toolCallCount, l.row.evidenceCount)) = some (0, 0, 0, 0)) : ∃ l, Opened s id l := by
  obtain ⟨l, here, counted⟩ := Option.map_eq_some_iff.mp counts
  simp only [Prod.mk.injEq] at counted
  obtain ⟨steps, iterations, calls, evidence⟩ := counted
  exact ⟨l, here, List.eq_nil_of_length_eq_zero steps, iterations, calls, evidence⟩

def deskEnv : EngineEnv where
  env := paymentsEnv
  schemas :=
    { hypothesisUpdateBatch := fun _ => .error []
      finalInvestigationResult := fun _ => .error []
      inconclusiveDeclaration := fun _ => .error [] }
  systemPrompt := ""
  promptDigest := ""
  buildContext _ _ _ := .null
  renderContext _ := ""
  compact _ := ""

def callOfTool (callId name : String) : ModelAction := { callId, name, arguments := [] }

def turnWith (actions : List ModelAction) : ModelTurn :=
  { text := ""
    actions
    stopReason := .toolUse
    usage := []
    providerPayload := []
    servedModel := "model"
    latencyMs := 0
    cache := [] }

/-- Every turn is the one given, and the evidence service finds one item each time. -/
def repliesOf (actions : List ModelAction) : Replies :=
  { model := .ok (turnWith actions)
    tool :=
      { attempts := fun _ => .ok
          { evidenceId := 7
            contentHash := ""
            evidenceType := "logs"
            sourceSystem := "tools"
            subjectService := "payments"
            observedAt := ""
            collectedAt := 0
            summary := ""
            data := .null
            operation := "" } } }

def workerClaims (owner : String) : WorkEvent := .claim 10000000 { owner }

/-- So many steps of a worker. -/
def workerDoes (worker n : Nat) (actions : List ModelAction) : List WorkEvent :=
  List.replicate n (.work worker 11000000 (repliesOf actions))

end IncidentTriage.Verified
