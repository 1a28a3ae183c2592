import IncidentTriage.Incident.Repository

/-! # Investigation commands

The only writer of investigations, their trace, hypotheses, evidence links and
RCA reports.  Every command is one transaction; after the claim each is fenced by
the owner of the lease.
-/

namespace IncidentTriage.Incident

open IncidentTriage.Python IncidentTriage.Domain

/-! ## Reads -/

def lockInvestigation (s : Store) (id : Uuid) : Except DomainError InvestigationRow :=
  found s.investigation.investigations[id]? (.investigationNotFound (uuidStr id))

def fenced (s : Store) (id : Uuid) (owner : String) : Except DomainError InvestigationRow := do
  let row ← lockInvestigation s id
  ensure (row.status = .investigating ∧ row.leaseOwner = some owner)
    (.leaseLost (owner ++ " does not hold investigation " ++ uuidStr id ++ " (status " ++
      row.status.value ++ ", owner " ++ row.leaseOwner.getD "None" ++ ")"))
  pure row

def stepsOf (s : Store) (id : Uuid) : List InvestigationStepRow :=
  (s.investigation.steps.filter (fun step => step.investigationId == id)).insertionSort
    (fun a b => decide (a.sequence ≤ b.sequence))

/-- Steps whose evidence the investigation has been shown. -/
def showsEvidence (kind : StepKind) : Bool := [StepKind.context, .toolCall].contains kind

/-- The evidence ids in the investigation's own context and tool results. -/
def shownEvidence (s : Store) (id : Uuid) : List Uuid :=
  (s.investigation.steps.filter (fun step =>
    step.investigationId == id && showsEvidence step.kind)).flatMap (·.payload.evidenceIds)

def isRegistered (s : Store) (incidentId evidenceId : Uuid) : Bool :=
  s.alert.evidenceRefs.any (fun e => e.incidentId == incidentId && e.id == evidenceId)

/-- Evidence this investigation was shown and that is registered for its incident. -/
def accessibleEvidence (s : Store) (id : Uuid) (row : InvestigationRow) : List Uuid :=
  (shownEvidence s id).filter (isRegistered s row.incidentId)

def evidenceTypes (s : Store) (incidentId : Uuid) (evidenceId : Uuid) : Option String :=
  (s.alert.evidenceRefs.find? (fun e => e.incidentId == incidentId && e.id == evidenceId)).map
    (·.evidenceType)

/-- The hypotheses of an investigation, by creation and key. -/
def hypothesisRows (s : Store) (id : Uuid) : List (Uuid × HypothesisRow) :=
  (Table.select (fun h => h.investigationId == id) s.investigation.hypotheses).insertionSort
    (fun a b => decide (a.2.createdAt < b.2.createdAt ∨
      (a.2.createdAt = b.2.createdAt ∧ a.2.key ≤ b.2.key)))

/-- The links of a hypothesis, by time and evidence id. -/
def linksOf (s : Store) (hypothesisId : Uuid) : List HypothesisEvidenceLinkRow :=
  (s.investigation.links.filter (fun l => l.hypothesisId == hypothesisId)).insertionSort
    (fun a b => decide (a.linkedAt < b.linkedAt ∨
      (a.linkedAt = b.linkedAt ∧ a.evidenceId ≤ b.evidenceId)))

def linkedAs (s : Store) (hypothesisId : Uuid) (relation : EvidenceRelation) : List Uuid :=
  ((linksOf s hypothesisId).filter (fun l => l.relation == relation)).map (·.evidenceId)

def snapshot (s : Store) (hypothesisId : Uuid) (h : HypothesisRow) : HypothesisSnapshot :=
  { key := h.key
    description := h.description
    status := h.status
    confidence := h.confidence
    supporting := linkedAs s hypothesisId .supports
    contradicting := linkedAs s hypothesisId .contradicts
    missingEvidence := h.missingEvidence
    causeCategory := h.causeCategory
    component := h.component }

/-- `dict[str, HypothesisSnapshot]`. -/
def snapshots (s : Store) (rows : List (Uuid × HypothesisRow)) :
    List (String × HypothesisSnapshot) :=
  rows.map (fun h => (h.2.key, snapshot s h.1 h.2))

structure InvestigationState where
  investigation : InvestigationRow
  steps : List InvestigationStepRow
  hypotheses : List (String × HypothesisSnapshot)
  accessibleEvidence : List Uuid
  evidenceTypes : Uuid → Option String

def loadState (s : Store) (id : Uuid) : Except DomainError InvestigationState := do
  let row ← lockInvestigation s id
  pure
    { investigation := row
      steps := stepsOf s id
      hypotheses := snapshots s (hypothesisRows s id)
      accessibleEvidence := accessibleEvidence s id row
      evidenceTypes := evidenceTypes s row.incidentId }

/-! ## Writes shared by the commands -/

def putInvestigation (s : Store) (id : Uuid) (row : InvestigationRow) : Store :=
  { s with investigation := { s.investigation with
      investigations := s.investigation.investigations.set id row } }

/-- `coalesce(max(sequence), 0) + 1`. -/
def nextSequence (sequences : List Nat) : Nat := sequences.foldl max 0 + 1

/-- The row that the next trace step of an investigation is. -/
def newStep (s : Store) (now : Time) (id : Uuid) (kind : StepKind) (iteration : Nat)
    (payload : StepPayload) (callId : Option String) (latencyMs : Option Nat) :
    InvestigationStepRow :=
  { investigationId := id
    sequence := nextSequence
      ((s.investigation.steps.filter (fun step => step.investigationId == id)).map (·.sequence))
    iteration
    kind
    callId
    payload
    latencyMs
    createdAt := now }

def appendStep (s : Store) (now : Time) (id : Uuid) (kind : StepKind) (iteration : Nat)
    (payload : StepPayload) (callId : Option String) (latencyMs : Option Nat) : Nat × Store :=
  let step := newStep s now id kind iteration payload callId latencyMs
  (step.sequence,
    { s with investigation := { s.investigation with
        steps := s.investigation.steps ++ [step] } })

def statusEvent (s : Store) (now : Time) (incidentId : Uuid) (incident : IncidentRow)
    (fromStatus : IncidentStatus) (reason : String) : Store :=
  insertOutboxEvent s now .incident incidentId (some incidentId)
    (.incidentStatusChanged incidentId fromStatus incident.status reason incident.version)

def changedConcurrently (incidentId : Uuid) : DomainError :=
  .concurrentModification ("incident " ++ uuidStr incidentId ++ " changed concurrently")

/-- `INVESTIGATING -> RCA_READY / ESCALATED`; an incident that is elsewhere is left
alone. -/
def moveInvestigatedIncident (s : Store) (now : Time) (incidentId : Uuid)
    (toStatus : IncidentStatus) (reason : String) : Except DomainError Store := do
  let incident ← found s.incidents[incidentId]? .assertion
  if incident.status = .investigating then
    let (moved, s) ← found (transitionIncidentStatus s now incidentId incident toStatus false)
      (changedConcurrently incidentId)
    pure (statusEvent s now incidentId moved .investigating reason)
  else pure s

/-! ## Starting -/

structure StartedInvestigation where
  investigationId : Uuid
  incidentId : Uuid
  created : Bool

def newInvestigation (now : Time) (incidentId : Uuid) (attempt : Nat)
    (modelProvider modelName : String) (modelSettings : Dict) (budget : InvestigationBudget) :
    InvestigationRow :=
  { incidentId
    attemptNumber := attempt
    status := .created
    modelProvider
    modelName
    modelConfig := modelSettings
    budget
    iterationCount := 0
    toolCallCount := 0
    evidenceCount := 0
    inputTokens := 0
    outputTokens := 0
    cacheReadTokens := 0
    cacheCreationTokens := 0
    leaseOwner := none
    leaseExpiresAt := none
    lastAction := none
    failureReason := none
    escalationReason := none
    inconclusiveReason := none
    selectedHypothesisId := none
    finalResult := none
    createdAt := now
    startedAt := none
    completedAt := none
    updatedAt := now }

/-- `TRIAGING` or `VERIFICATION_FAILED` to `INVESTIGATING`, with a new investigation;
an open investigation of the incident is returned as it is. -/
def requestInvestigation (now : Time) (s : Store) (incidentId : Uuid)
    (modelProvider modelName : String) (modelSettings : Dict) (budget : InvestigationBudget) :
    Except DomainError (StartedInvestigation × Store) := do
  let incident ← found s.incidents[incidentId]? (.incidentNotFound (uuidStr incidentId))
  match Table.first (fun v => v.incidentId == incidentId && v.status.isOpen)
      s.investigation.investigations with
  | some (existing, _) =>
    pure ({ investigationId := existing, incidentId, created := false }, s)
  | none => do
    ensure (incident.status = .triaging ∨ incident.status = .verificationFailed)
      (.invalidIncidentTransition ("incident " ++ uuidStr incidentId ++ " is " ++
        incident.status.value ++ ", not TRIAGING or VERIFICATION_FAILED"))
    ensure (countFiringAlerts s incidentId ≠ 0)
      (.invalidIncidentTransition ("incident " ++ uuidStr incidentId ++
        " has no firing alert; nothing to investigate"))
    let attempt := incident.attemptCount + 1
    let counted := { incident with attemptCount := attempt }
    let s := putIncident s incidentId counted
    let (moved, s) ← found
      (transitionIncidentStatus s now incidentId counted .investigating false)
      (changedConcurrently incidentId)
    let investigationId := s.investigation.investigations.length
    let row := newInvestigation now incidentId attempt modelProvider modelName modelSettings
      budget
    let s := { s with investigation := { s.investigation with
      investigations := s.investigation.investigations ++ [row] } }
    let s := statusEvent s now incidentId moved incident.status
      (if incident.status = .triaging then "investigation_started"
        else "reinvestigation_after_failed_verification")
    let s := insertOutboxEvent s now .investigation investigationId (some incidentId)
      (.investigationStarted investigationId incidentId attempt modelProvider modelName)
    pure ({ investigationId, incidentId, created := true }, s)

/-- Incidents the scheduler should have investigated, oldest first. -/
def dueForInvestigation (now : Time) (s : Store) (debounceSeconds : Int) (limit : Nat) :
    List Uuid :=
  let cutoff := now - debounceSeconds * 1000000
  let listed := (Table.select (fun i =>
      (i.status == .triaging && decide (i.createdAt ≤ cutoff)) ||
        i.status == .verificationFailed) s.incidents).filter
    (fun i => s.alert.alerts.any (isFiringAlertOf i.1))
  ((listed.insertionSort (fun a b => decide (a.2.createdAt ≤ b.2.createdAt))).map (·.1)).take
    limit

/-! ## Claiming -/

/-- Take or resume ownership; `none` if the investigation is finished or another
live worker holds it. -/
def claim (now : Time) (s : Store) (id : Uuid) (owner : String) (leaseSeconds : Int) :
    Except DomainError (Option InvestigationState × Store) := do
  let row ← lockInvestigation s id
  if row.status ∈ terminalInvestigationStatuses then pure (none, s)
  else if leaseLive now row.leaseExpiresAt = true ∧ row.leaseOwner ≠ some owner then pure (none, s)
  else do
    let s := putInvestigation s id
      { row with
        status := .investigating
        leaseOwner := some owner
        leaseExpiresAt := some (now + leaseSeconds * 1000000)
        startedAt := some (row.startedAt.getD now)
        updatedAt := now }
    let state ← loadState s id
    pure (some state, s)

def release (now : Time) (s : Store) (id : Uuid) (owner : String) :
    Except DomainError (Unit × Store) := do
  let row ← lockInvestigation s id
  if row.leaseOwner = some owner then
    pure ((), putInvestigation s id { row with leaseExpiresAt := some now })
  else pure ((), s)

/-! ## The trace -/

structure TokenUsage where
  inputTokens : Nat := 0
  outputTokens : Nat := 0
  cacheReadInputTokens : Nat := 0
  cacheCreationInputTokens : Nat := 0

/-- What a worker says about one step of its trace. -/
structure StepRecord where
  kind : StepKind
  iteration : Nat
  evidenceIds : List Uuid := []
  fields : Dict := []
  callId : Option String := none
  latencyMs : Option Nat := none
  usage : TokenUsage := {}
  toolCall : Bool := false
  newEvidence : Nat := 0
  lastAction : Option String := none
  leaseSeconds : Int := 120

/-- The investigation row after a worker's step was recorded. -/
def InvestigationRow.recorded (row : InvestigationRow) (now : Time) (record : StepRecord) :
    InvestigationRow :=
  { row with
    iterationCount :=
      if record.kind = .modelTurn then max row.iterationCount record.iteration
      else row.iterationCount
    inputTokens := row.inputTokens + record.usage.inputTokens
    outputTokens := row.outputTokens + record.usage.outputTokens
    cacheReadTokens := row.cacheReadTokens + record.usage.cacheReadInputTokens
    cacheCreationTokens := row.cacheCreationTokens + record.usage.cacheCreationInputTokens
    toolCallCount := if record.toolCall then row.toolCallCount + 1 else row.toolCallCount
    evidenceCount := row.evidenceCount + record.newEvidence
    lastAction :=
      if hasText record.lastAction then record.lastAction.map (truncate · 200)
      else row.lastAction
    leaseExpiresAt := some (now + record.leaseSeconds * 1000000)
    updatedAt := now }

def recordStep (now : Time) (s : Store) (id : Uuid) (owner : String) (record : StepRecord) :
    Except DomainError (Nat × Store) := do
  let row ← fenced s id owner
  let (sequence, s) := appendStep s now id record.kind record.iteration
    (.worker record.evidenceIds record.fields) record.callId record.latencyMs
  pure (sequence, putInvestigation s id (row.recorded now record))

/-! ## Hypotheses -/

/-- `ON CONFLICT DO NOTHING` on the pair of hypothesis and evidence. -/
def insertLink (now : Time) (hypothesisId : Uuid) (relation : EvidenceRelation)
    (links : List HypothesisEvidenceLinkRow) (evidenceId : Uuid) :
    List HypothesisEvidenceLinkRow :=
  if links.any (fun l => l.hypothesisId == hypothesisId && l.evidenceId == evidenceId) then links
  else links ++ [{ hypothesisId, evidenceId, relation, linkedAt := now }]

/-- The links after an update: its supporting ids first, then the contradicting. -/
def linkEvidence (now : Time) (hypothesisId : Uuid) (update : HypothesisUpdate)
    (links : List HypothesisEvidenceLinkRow) : List HypothesisEvidenceLinkRow :=
  let supported := update.supportingEvidenceIds.foldl
    (insertLink now hypothesisId .supports) links
  update.contradictingEvidenceIds.foldl (insertLink now hypothesisId .contradicts) supported

def newHypothesis (now : Time) (investigationId : Uuid) (update : HypothesisUpdate) :
    HypothesisRow :=
  { investigationId
    key := update.key
    description := update.description.getD ""
    status := (update.status.map (·.toStatus)).getD .active
    confidence := update.confidence.map (fun c => roundCents c.value)
    missingEvidence := update.missingEvidence.getD []
    causeCategory := update.causeCategory
    component := update.component
    createdAt := now
    updatedAt := now }

/-- The existing hypothesis with what the update gives. -/
def HypothesisRow.updated (h : HypothesisRow) (now : Time) (update : HypothesisUpdate) :
    HypothesisRow :=
  { h with
    description :=
      if hasText update.description then update.description.getD h.description
      else h.description
    status := (update.status.map (·.toStatus)).getD h.status
    confidence :=
      match update.confidence with
      | some c => some (roundCents c.value)
      | none => h.confidence
    missingEvidence := update.missingEvidence.getD h.missingEvidence
    updatedAt := now }

/-- What the loop over a batch carries: the store and the two dictionaries it keeps
in step with it, and what it has to report. -/
structure UpdateProgress where
  store : Store
  hypotheses : List (String × Uuid)
  snapshots : List (String × HypothesisSnapshot)
  applied : List AppliedUpdate
  rejected : List RejectedUpdate

/-- Write the hypothesis of an accepted update: its id, the status it had, its row,
and the table. -/
def writeHypothesis (now : Time) (investigationId : Uuid) (hypotheses : List HypothesisRow)
    (existing : Option Uuid) (update : HypothesisUpdate) :
    Uuid × Option HypothesisStatus × HypothesisRow × List HypothesisRow :=
  match existing.bind (fun id => (hypotheses[id]?).map (fun row => (id, row))) with
  | none =>
    let row := newHypothesis now investigationId update
    (hypotheses.length, none, row, hypotheses ++ [row])
  | some (id, row) =>
    let changed := row.updated now update
    (id, some row.status, changed, hypotheses.set id changed)

def applyUpdate (now : Time) (investigationId : Uuid) (accessible : List Uuid)
    (p : UpdateProgress) (update : HypothesisUpdate) : UpdateProgress :=
  let problems := checkHypothesisUpdate update (List.lookup update.key p.snapshots) accessible
  if problems ≠ [] then
    { p with rejected := p.rejected ++ [{ key := update.key, problems }] }
  else
    let tables := p.store.investigation
    let (id, fromStatus, row, hypotheses) := writeHypothesis now investigationId
      tables.hypotheses (List.lookup update.key p.hypotheses) update
    let links := linkEvidence now id update tables.links
    let s := { p.store with investigation := { tables with hypotheses, links } }
    { store := s
      hypotheses := dictSet p.hypotheses update.key id
      snapshots := dictSet p.snapshots update.key (snapshot s id row)
      applied := p.applied ++
        [{ key := update.key
           causeCategory := row.causeCategory
           component := row.component
           fromStatus
           toStatus := row.status
           confidence := update.confidence
           addedSupporting := update.supportingEvidenceIds
           addedContradicting := update.contradictingEvidenceIds
           rationale := update.rationale }]
      rejected := p.rejected }

structure HypothesisUpdateOutcome where
  applied : List AppliedUpdate
  rejected : List RejectedUpdate

/-- The loop's start: what the store says about the investigation's hypotheses. -/
def startProgress (s : Store) (id : Uuid) : UpdateProgress :=
  let rows := hypothesisRows s id
  { store := s
    hypotheses := rows.map (fun h => (h.2.key, h.1))
    snapshots := snapshots s rows
    applied := []
    rejected := [] }

def applyHypothesisUpdates (now : Time) (s : Store) (id : Uuid) (owner : String)
    (iteration : Nat) (callId : String) (batch : HypothesisUpdateBatch) :
    Except DomainError (HypothesisUpdateOutcome × Store) := do
  let row ← fenced s id owner
  let accessible := accessibleEvidence s id row
  let p := batch.updates.foldl (applyUpdate now id accessible) (startProgress s id)
  let (_, s) := appendStep p.store now id .hypothesisUpdate iteration
    (.hypothesisUpdate p.applied p.rejected (p.snapshots.map (·.2))) (some callId) none
  let s := putInvestigation s id
    { row with
      lastAction := some ("update_hypotheses: " ++ toString p.applied.length ++ " applied, " ++
        toString p.rejected.length ++ " rejected")
      updatedAt := now }
  pure ({ applied := p.applied, rejected := p.rejected }, s)

/-! ## Outcomes -/

structure ConclusionOutcome where
  accepted : Bool
  unmetCriteria : List String := []
  rcaReportId : Option Uuid := none

/-- What the investigation actually did, from the trace. -/
def actions (steps : List InvestigationStepRow) : List InvestigationAction :=
  (steps.filter (fun step => step.kind == .toolCall)).map (fun step =>
    { iteration := step.iteration
      tool := step.payload.field "tool"
      arguments := step.payload.field "arguments"
      ok := step.payload.field "ok"
      evidenceIds := step.payload.evidenceIds
      summary := step.payload.field "summary" })

/-- Why a conclusion is not accepted: grounding first, then the criteria. -/
def unmetCriteria (env : Env) (s : Store) (id : Uuid) (row : InvestigationRow)
    (result : FinalInvestigationResult) : List String :=
  let bad := ungroundedIds result.rca.evidenceIds (accessibleEvidence s id row)
  (if bad = [] then []
    else ["rca cites evidence ids this investigation was never shown: " ++
      ", ".intercalate bad]) ++
  evaluateConclusion result (snapshots s (hypothesisRows s id))
    (evidenceTypes s row.incidentId) env.criteria

/-- The selected hypothesis once the conclusion is accepted. -/
def HypothesisRow.selected (h : HypothesisRow) (now : Time) (confidence : Fraction) :
    HypothesisRow :=
  { h with
    status := .selected
    confidence := some (roundCents confidence.value)
    updatedAt := now }

/-- The report of an accepted conclusion; the snapshots are those the criteria were
evaluated on. -/
def rcaReport (s : Store) (id hypothesisId : Uuid) (h : HypothesisRow)
    (result : FinalInvestigationResult) : RcaReport :=
  { rca := result.rca
    confidence := result.confidence
    selectedKey := h.key
    selectedDescription := h.description
    causeCategory := h.causeCategory
    component := h.component
    supportingEvidence := linkedAs s hypothesisId .supports
    investigationActions := actions (stepsOf s id)
    competingHypotheses :=
      ((snapshots s (hypothesisRows s id)).filter (fun c => c.1 != h.key)).map (·.2) }

def InvestigationRow.completed (row : InvestigationRow) (now : Time)
    (hypothesisId rcaReportId : Uuid) (key : String) (confidence : Fraction) :
    InvestigationRow :=
  { row with
    status := .completed
    selectedHypothesisId := some hypothesisId
    finalResult := some (.rootCauseIdentified rcaReportId key confidence)
    completedAt := some now
    updatedAt := now
    leaseOwner := none
    leaseExpiresAt := none
    lastAction := some "completed" }

/-- Accept the conclusion only if every cited evidence id is accessible and the
stopping criteria hold; otherwise record why and leave the investigation running. -/
def complete (env : Env) (now : Time) (s : Store) (id : Uuid) (owner : String)
    (iteration : Nat) (callId : String) (result : FinalInvestigationResult) :
    Except DomainError (ConclusionOutcome × Store) := do
  let row ← fenced s id owner
  let unmet := unmetCriteria env s id row result
  if unmet ≠ [] then
    let (_, s) := appendStep s now id .conclusionRejected iteration
      (.conclusionRejected unmet result) (some callId) none
    pure ({ accepted := false, unmetCriteria := unmet },
      putInvestigation s id { row with lastAction := some "conclusion rejected" })
  else do
    let (hypothesisId, h) ← found
      ((hypothesisRows s id).find? (fun h => h.2.key == result.selectedHypothesisKey)) .assertion
    let rcaReportId := s.investigation.rcaReports.length
    let report : RcaReportRow :=
      { incidentId := row.incidentId
        investigationId := id
        rootCauseHypothesisId := hypothesisId
        report := rcaReport s id hypothesisId h result
        generatedAt := now }
    let s := { s with investigation := { s.investigation with
      hypotheses := s.investigation.hypotheses.set hypothesisId (h.selected now result.confidence)
      rcaReports := s.investigation.rcaReports ++ [report] } }
    let s := putInvestigation s id
      (row.completed now hypothesisId rcaReportId h.key result.confidence)
    let (_, s) := appendStep s now id .outcome iteration (.completed rcaReportId)
      (some callId) none
    let s ← moveInvestigatedIncident s now row.incidentId .rcaReady "root_cause_selected"
    let s := insertOutboxEvent s now .investigation id (some row.incidentId)
      (.investigationCompleted id row.incidentId hypothesisId rcaReportId)
    pure ({ accepted := true, rcaReportId := some rcaReportId }, s)

/-- The better of two hypotheses: by confidence, supporting items, and key. -/
def outranks (a b : HypothesisSnapshot) : Bool :=
  let ca := a.confidence.getD 0
  let cb := b.confidence.getD 0
  decide (cb < ca ∨ (cb = ca ∧ (b.supporting.length < a.supporting.length ∨
    (b.supporting.length = a.supporting.length ∧ b.key < a.key))))

def leading (hypotheses : List HypothesisSnapshot) : Option HypothesisSnapshot :=
  (hypotheses.filter (fun h => h.status == .supported || h.status == .active)).foldl
    (fun best h =>
      match best with
      | none => some h
      | some b => if outranks h b then some h else some b) none

/-- How an investigation ends without a root cause. -/
inductive EscalationOutcome where
  | escalated | failed
  deriving DecidableEq

def EscalationOutcome.toStatus : EscalationOutcome → InvestigationStatus
  | .escalated => .escalated
  | .failed => .failed

structure Escalation where
  outcome : EscalationOutcome
  reasonCode : String
  detail : String
  inconclusiveReason : Option String := none
  evidenceGaps : List String := []
  callId : Option String := none

def InvestigationRow.ended (row : InvestigationRow) (now : Time) (e : Escalation)
    (finalResult : FinalResult) : InvestigationRow :=
  let text := truncate (e.reasonCode ++ ": " ++ e.detail) 2000
  { row with
    status := e.outcome.toStatus
    finalResult := some finalResult
    failureReason := if e.outcome = .failed then some text else row.failureReason
    escalationReason := if e.outcome = .escalated then some text else row.escalationReason
    inconclusiveReason := e.inconclusiveReason
    completedAt := some now
    updatedAt := now
    leaseOwner := none
    leaseExpiresAt := none
    lastAction := some (e.outcome.toStatus.value.toLower ++ ": " ++ e.reasonCode) }

/-- End without a root cause: `ESCALATED` (inconclusive, budget) or `FAILED`. -/
def escalate (now : Time) (s : Store) (id : Uuid) (owner : String) (iteration : Nat)
    (e : Escalation) : Except DomainError (Unit × Store) := do
  let row ← fenced s id owner
  let known := (snapshots s (hypothesisRows s id)).map (·.2)
  let detail := truncate e.detail 2000
  let finalResult := FinalResult.incomplete e.outcome.toStatus e.reasonCode detail
    e.evidenceGaps (leading known) known (sortedIds (accessibleEvidence s id row).dedup)
  let s := putInvestigation s id (row.ended now e finalResult)
  let (_, s) := appendStep s now id .outcome iteration
    (.ended e.outcome.toStatus e.reasonCode detail) e.callId none
  let s ← moveInvestigatedIncident s now row.incidentId .escalated
    ("investigation_" ++ e.reasonCode)
  pure ((), insertOutboxEvent s now .investigation id (some row.incidentId)
    (.investigationFailed id row.incidentId e.outcome.toStatus e.reasonCode))

end IncidentTriage.Incident
