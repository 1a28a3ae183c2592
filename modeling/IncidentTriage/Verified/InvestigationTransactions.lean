import IncidentTriage.Verified.AlertTransactions
import IncidentTriage.Verified.Outbox

/-! # What an investigation transaction can do

`InvestigationEffect env now c s s'` lists what a committed investigation command `c`
does to the incidents and to the tables of the service; `InvestigationStep` adds that
the tables of the other services stay as they were.
-/

namespace IncidentTriage.Verified

open IncidentTriage.Python IncidentTriage.Domain IncidentTriage.Incident

/-- The columns of an investigation that are fixed once it is created. -/
structure SameInvestigation (row row' : InvestigationRow) : Prop where
  incidentId : row'.incidentId = row.incidentId
  attemptNumber : row'.attemptNumber = row.attemptNumber

/-- The updates a trace step reports as applied. -/
def reportedUpdates (step : InvestigationStepRow) : List AppliedUpdate :=
  match step.payload with
  | .hypothesisUpdate applied _ _ => applied
  | _ => []

/-- Steps of one investigation's trace that report no update. -/
def StepsOf (id : Uuid) (steps : List InvestigationStepRow) : Prop :=
  ∀ step ∈ steps, step.investigationId = id ∧ reportedUpdates step = []

/-- The steps that record the end of an investigation. -/
def concludes (step : InvestigationStepRow) : Bool :=
  match step.payload with
  | .completed _ => true
  | .ended .. => true
  | _ => false

/-- The worker that writes to an investigation under its lease, and which one. -/
def presentedBy : Command → Option (Uuid × String)
  | .release id owner => some (id, owner)
  | .recordStep id owner _ => some (id, owner)
  | .applyHypothesisUpdates id owner _ _ _ => some (id, owner)
  | .complete id owner _ _ _ => some (id, owner)
  | .escalate id owner _ _ => some (id, owner)
  | _ => none

/-- A worker's own step of kind `OUTCOME`. -/
def recordsOutcome : Command → Bool
  | .recordStep _ _ record => record.kind == .outcome
  | _ => false

/-- What happens to the lease of an investigation that stays open. -/
inductive LeaseMove (now : Time) (c : Command) (id : Uuid) (row row' : InvestigationRow) : Prop
  | claimed (owner : String) (leaseSeconds : Int) (command : c = .claim id owner leaseSeconds)
      (unfinished : row.status ∉ terminalInvestigationStatuses)
      (free : leaseLive now row.leaseExpiresAt = true → row.leaseOwner = some owner)
      (leaseOwner : row'.leaseOwner = some owner)
  | kept (owner : String) (presented : presentedBy c = some (id, owner))
      (held : row.leaseOwner = some owner) (leaseOwner : row'.leaseOwner = row.leaseOwner)

/-- The loop of a batch of updates, from what the store says. -/
def updateLoop (now : Time) (s : Store) (id : Uuid) (row : InvestigationRow)
    (updates : List HypothesisUpdate) : UpdateProgress :=
  updates.foldl (applyUpdate now id (accessibleEvidence s id row)) (startProgress s id)

inductive InvestigationEffect (env : Env) (now : Time) (c : Command) (s s' : Store) : Prop
  /-- A new investigation of an incident that waits for one. -/
  | requested (i : Uuid) (incident : IncidentRow) (row : InvestigationRow)
      (found : s.incidents[i]? = some incident)
      (noneOpen : ∀ (k : Uuid) (v : InvestigationRow),
        s.investigation.investigations[k]? = some v → v.incidentId = i →
          v.status.isOpen = false)
      (waiting : incident.status = .triaging ∨ incident.status = .verificationFailed)
      (firing : 0 < countFiringAlerts s i)
      (incidentId : row.incidentId = i)
      (attemptNumber : row.attemptNumber = incident.attemptCount + 1)
      (status : row.status = .created)
      (incidents : s'.incidents = s.incidents.set i
        ({ incident with attemptCount := incident.attemptCount + 1 }.moved now .investigating))
      (tables : s'.investigation = { s.investigation with
        investigations := s.investigation.investigations ++ [row] })
      (unleased : row.leaseOwner = none)
      (ends : Announces endsInvestigation s s' none)
  /-- Claimed, released, or with a step recorded: the investigation stays open. -/
  | worked (id : Uuid) (row row' : InvestigationRow) (steps : List InvestigationStepRow)
      (found : s.investigation.investigations[id]? = some row)
      (same : SameInvestigation row row')
      (status : row'.status = row.status ∨
        (row.status = .created ∧ row'.status = .investigating))
      (steps_of : StepsOf id steps)
      (incidents : s'.incidents = s.incidents)
      (tables : s'.investigation = { s.investigation with
        investigations := s.investigation.investigations.set id row'
        steps := s.investigation.steps ++ steps })
      (lease : LeaseMove now c id row row')
      (ongoing : ∀ step ∈ steps, concludes step = false ∧
        (step.kind = .outcome → recordsOutcome c = true))
      (ends : Announces endsInvestigation s s' none)
  /-- A batch of hypothesis updates is applied. -/
  | updated (id : Uuid) (row row' : InvestigationRow) (updates : List HypothesisUpdate)
      (step : InvestigationStepRow)
      (found : s.investigation.investigations[id]? = some row)
      (investigating : row.status = .investigating)
      (same : SameInvestigation row row') (status : row'.status = row.status)
      (step_of : step.investigationId = id)
      (incidents : s'.incidents = s.incidents)
      (tables : s'.investigation = { s.investigation with
        investigations := s.investigation.investigations.set id row'
        hypotheses := (updateLoop now s id row updates).store.investigation.hypotheses
        links := (updateLoop now s id row updates).store.investigation.links
        steps := s.investigation.steps ++ [step] })
      (reported : reportedUpdates step = (updateLoop now s id row updates).applied)
      (command : ∃ owner iteration callId batch,
        c = .applyHypothesisUpdates id owner iteration callId batch ∧ batch.updates = updates ∧
          row.leaseOwner = some owner)
      (leaseOwner : row'.leaseOwner = row.leaseOwner)
      (ongoing : concludes step = false ∧ step.kind ≠ .outcome)
      (ends : Announces endsInvestigation s s' none)
  /-- A conclusion is accepted. -/
  | completed (id : Uuid) (row row' : InvestigationRow) (incident : IncidentRow)
      (hypothesisId : Uuid) (h : HypothesisRow) (result : FinalInvestigationResult)
      (report : RcaReportRow) (step : InvestigationStepRow)
      (found : s.investigation.investigations[id]? = some row)
      (incidentFound : s.incidents[row.incidentId]? = some incident)
      (investigating : row.status = .investigating)
      (met : unmetCriteria env s id row result = [])
      (selected : (hypothesisRows s id).find? (fun h => h.2.key == result.selectedHypothesisKey) =
        some (hypothesisId, h))
      (same : SameInvestigation row row') (status : row'.status = .completed)
      (step_of : step.investigationId = id)
      (investigationId : report.investigationId = id)
      (rootCause : report.rootCauseHypothesisId = hypothesisId)
      (rca : report.report.rca = result.rca)
      (confidence : report.report.confidence = result.confidence)
      (key : report.report.selectedKey = h.key)
      (incidents : s'.incidents = movedIf s.incidents now row.incidentId incident
        [.investigating] .rcaReady)
      (tables : s'.investigation = { s.investigation with
        investigations := s.investigation.investigations.set id row'
        hypotheses := s.investigation.hypotheses.set hypothesisId
          (h.selected now result.confidence)
        rcaReports := s.investigation.rcaReports ++ [report]
        steps := s.investigation.steps ++ [step] })
      (reported : reportedUpdates step = [])
      (command : ∃ owner iteration callId, c = .complete id owner iteration callId result)
      (released : row'.leaseOwner = none)
      (outcome : concludes step = true ∧ step.kind = .outcome)
      (ends : Announces endsInvestigation s s' (some id))
  /-- The investigation ends without a root cause. -/
  | ended (id : Uuid) (row row' : InvestigationRow) (incident : IncidentRow)
      (step : InvestigationStepRow)
      (found : s.investigation.investigations[id]? = some row)
      (incidentFound : s.incidents[row.incidentId]? = some incident)
      (investigating : row.status = .investigating)
      (same : SameInvestigation row row')
      (status : row'.status = .escalated ∨ row'.status = .failed)
      (step_of : step.investigationId = id)
      (incidents : s'.incidents = movedIf s.incidents now row.incidentId incident
        [.investigating] .escalated)
      (tables : s'.investigation = { s.investigation with
        investigations := s.investigation.investigations.set id row'
        steps := s.investigation.steps ++ [step] })
      (reported : reportedUpdates step = [])
      (released : row'.leaseOwner = none)
      (outcome : concludes step = true ∧ step.kind = .outcome)
      (ends : Announces endsInvestigation s s' (some id))

structure InvestigationStep (env : Env) (now : Time) (c : Command) (s s' : Store) : Prop where
  effect : InvestigationEffect env now c s s'
  alert : s'.alert = s.alert
  remediation : s'.remediation = s.remediation
  verification : s'.verification = s.verification
  publishes : Publishes ofInvestigations s s'

/-! ## The helpers -/

theorem lockInvestigation_eq_ok {s : Store} {id : Uuid} {row : InvestigationRow} :
    lockInvestigation s id = .ok row ↔ s.investigation.investigations[id]? = some row :=
  found_eq_ok

theorem fenced_eq_ok {s : Store} {id : Uuid} {owner : String} {row : InvestigationRow} :
    fenced s id owner = .ok row ↔ s.investigation.investigations[id]? = some row ∧
      row.status = .investigating ∧ row.leaseOwner = some owner := by
  simp only [fenced, bind_eq_ok, lockInvestigation_eq_ok, ensure_eq_ok, pure_eq_ok]
  constructor
  · rintro ⟨r, found, _, held, rfl⟩
    exact ⟨found, held⟩
  · rintro ⟨found, held⟩
    exact ⟨row, found, (), held, rfl⟩

theorem moveInvestigatedIncident_eq_ok {s s' : Store} {now : Time} {i : Uuid}
    {toStatus : IncidentStatus} {reason : String}
    (done : moveInvestigatedIncident s now i toStatus reason = .ok s') :
    ∃ incident audit, s.incidents[i]? = some incident ∧ s' = { s with
      incidents := movedIf s.incidents now i incident [.investigating] toStatus
      audit := audit } := by
  simp only [moveInvestigatedIncident, bind_eq_ok, found_eq_ok] at done
  obtain ⟨incident, found, done⟩ := done
  refine ⟨incident, ?_⟩
  unfold movedIf
  by_cases investigating : incident.status = .investigating
  · rw [if_pos investigating] at done
    simp only [bind_eq_ok, found_eq_ok, pure_eq_ok] at done
    obtain ⟨⟨moved, s₁⟩, transitioned, rfl⟩ := done
    cases eq_of_transitionIncidentStatus transitioned found
    rw [if_pos (by simpa using investigating)]
    exact ⟨_, found, rfl⟩
  · rw [if_neg investigating] at done
    cases done
    rw [if_neg (by simpa using investigating)]
    exact ⟨_, found, rfl⟩

/-- Every update of a batch only writes hypotheses and links. -/
theorem applyUpdate_frame (now : Time) (id : Uuid) (accessible : List Uuid)
    (p : UpdateProgress) (update : HypothesisUpdate) :
    (applyUpdate now id accessible p update).store = { p.store with
      investigation := { p.store.investigation with
        hypotheses := (applyUpdate now id accessible p update).store.investigation.hypotheses
        links := (applyUpdate now id accessible p update).store.investigation.links } } := by
  simp only [applyUpdate]
  split_ifs <;> rfl

theorem updateLoop_frame (now : Time) (s : Store) (id : Uuid) (row : InvestigationRow)
    (updates : List HypothesisUpdate) :
    (updateLoop now s id row updates).store = { s with
      investigation := { s.investigation with
        hypotheses := (updateLoop now s id row updates).store.investigation.hypotheses
        links := (updateLoop now s id row updates).store.investigation.links } } := by
  induction updates using List.reverseRecOn with
  | nil => rfl
  | append_singleton updates update ih =>
    have last := applyUpdate_frame now id (accessibleEvidence s id row)
      (updateLoop now s id row updates) update
    simp only [updateLoop, List.foldl_append, List.foldl_cons, List.foldl_nil] at last ih ⊢
    rw [ih] at last
    exact last

/-! ## The commands -/

theorem requestInvestigation_step {env : Env} {now : Time} {s s' : Store} {i : Uuid}
    {provider model : String} {settings : Dict} {budget : InvestigationBudget}
    {started : StartedInvestigation}
    (done : requestInvestigation now s i provider model settings budget = .ok (started, s')) :
    s' = s ∨
      InvestigationStep env now (.requestInvestigation i provider model settings budget) s s' := by
  obtain ⟨publishes, ends⟩ := requestInvestigation_publishes done
  simp only [requestInvestigation, bind_eq_ok, found_eq_ok] at done
  obtain ⟨incident, found, done⟩ := done
  split at done
  · cases done
    exact .inl rfl
  · rename_i noneOpen
    simp only [bind_eq_ok, ensure_eq_ok, found_eq_ok, pure_eq_ok] at done
    obtain ⟨_, waiting, _, firing, ⟨moved, s₁⟩, transitioned, done⟩ := done
    have inside := Table.lt_of_row found
    cases eq_of_transitionIncidentStatus transitioned (by simp [putIncident, inside])
    cases done
    refine .inr ⟨.requested i incident _ found ?_ waiting (Nat.pos_of_ne_zero firing) rfl rfl rfl
      ?_ rfl rfl ends, rfl, rfl, rfl, publishes⟩
    · intro k v row ofIncident
      have unlisted := Table.first_none noneOpen row
      simpa [ofIncident] using unlisted
    · exact List.set_set _

theorem claim_step {env : Env} {now : Time} {s s' : Store} {id : Uuid} {owner : String}
    {leaseSeconds : Int} {state : Option InvestigationState}
    (done : claim now s id owner leaseSeconds = .ok (state, s')) :
    s' = s ∨ InvestigationStep env now (.claim id owner leaseSeconds) s s' := by
  simp only [claim, bind_eq_ok, lockInvestigation_eq_ok] at done
  obtain ⟨row, found, done⟩ := done
  split_ifs at done with terminal live
  · cases done
    exact .inl rfl
  · cases done
    exact .inl rfl
  · simp only [bind_eq_ok, pure_eq_ok] at done
    obtain ⟨loaded, _, done⟩ := done
    cases done
    refine .inr ⟨.worked id row ?row [] found ?same ?status (by simp [StepsOf]) rfl ?tables
      (.claimed owner leaseSeconds rfl terminal ?free ?leaseOwner) (by simp) (.of_audit rfl),
      rfl, rfl, rfl, .of_audit rfl⟩
    case tables =>
      rw [List.append_nil]
      rfl
    case same => exact ⟨rfl, rfl⟩
    case leaseOwner => rfl
    case free => exact fun held => of_not_not fun other => live ⟨held, other⟩
    case status =>
      have status : row.status = .created ∨ row.status = .investigating := by
        cases h : row.status <;> simp [h, terminalInvestigationStatuses] at terminal ⊢
      rcases status with created | investigating
      · exact .inr ⟨created, rfl⟩
      · exact .inl investigating.symm

theorem release_step {env : Env} {now : Time} {s s' : Store} {id : Uuid} {owner : String}
    {u : Unit} (done : release now s id owner = .ok (u, s')) :
    s' = s ∨ InvestigationStep env now (.release id owner) s s' := by
  simp only [release, bind_eq_ok, lockInvestigation_eq_ok] at done
  obtain ⟨row, found, done⟩ := done
  split_ifs at done with held
  · cases done
    refine .inr ⟨.worked id row ?row [] found ?same ?status (by simp [StepsOf]) rfl ?tables
      (.kept owner rfl held ?leaseOwner) (by simp) (.of_audit rfl), rfl, rfl, rfl, .of_audit rfl⟩
    case tables =>
      rw [List.append_nil]
      rfl
    case same => exact ⟨rfl, rfl⟩
    case leaseOwner => rfl
    case status => exact .inl rfl
  · cases done
    exact .inl rfl

theorem recordStep_step {env : Env} {now : Time} {s s' : Store} {id : Uuid} {owner : String}
    {record : StepRecord} {sequence : Nat}
    (done : recordStep now s id owner record = .ok (sequence, s')) :
    InvestigationStep env now (.recordStep id owner record) s s' := by
  simp only [recordStep, bind_eq_ok, fenced_eq_ok, pure_eq_ok] at done
  obtain ⟨row, ⟨found, _, held⟩, done⟩ := done
  cases done
  refine ⟨.worked id row _ [_] found ?_ ?_ ?_ rfl rfl (.kept owner rfl held ?_) ?_ (.of_audit rfl),
    rfl, rfl, rfl, .of_audit rfl⟩
  · exact ⟨rfl, rfl⟩
  · exact .inl rfl
  · simp [StepsOf, newStep, reportedUpdates]
  · rfl
  · simp [newStep, concludes, recordsOutcome]

/-- What a batch that is not refused at the fence leaves, and what it reports. -/
structure UpdatesApplied (now : Time) (s s' : Store) (id : Uuid) (row row' : InvestigationRow)
    (updates : List HypothesisUpdate) (step : InvestigationStepRow)
    (outcome : HypothesisUpdateOutcome) : Prop where
  outcome : outcome.applied = (updateLoop now s id row updates).applied
  stepOf : step.investigationId = id
  reported : reportedUpdates step = (updateLoop now s id row updates).applied
  same : SameInvestigation row row'
  status : row'.status = row.status
  leaseOwner : row'.leaseOwner = row.leaseOwner
  ongoing : concludes step = false ∧ step.kind ≠ .outcome
  tables : s'.investigation = { s.investigation with
    investigations := s.investigation.investigations.set id row'
    hypotheses := (updateLoop now s id row updates).store.investigation.hypotheses
    links := (updateLoop now s id row updates).store.investigation.links
    steps := s.investigation.steps ++ [step] }
  frame : s' = { s with investigation := s'.investigation }

theorem applyHypothesisUpdates_eq_ok {now : Time} {s s' : Store} {id : Uuid} {owner : String}
    {iteration : Nat} {callId : String} {batch : HypothesisUpdateBatch}
    {outcome : HypothesisUpdateOutcome}
    (done : applyHypothesisUpdates now s id owner iteration callId batch = .ok (outcome, s')) :
    ∃ row row' step, fenced s id owner = .ok row ∧
      UpdatesApplied now s s' id row row' batch.updates step outcome := by
  simp only [applyHypothesisUpdates, bind_eq_ok, pure_eq_ok] at done
  obtain ⟨row, held, done⟩ := done
  have frame := updateLoop_frame now s id row batch.updates
  simp only [updateLoop] at frame
  rw [frame] at done
  cases done
  refine ⟨row, ?row, ?step, held, ?outcome, ?stepOf, ?reported, ?same, ?status, ?leaseOwner,
    ?ongoing, ?tables, ?frame⟩
  case tables => rfl
  case frame => rfl
  case same => exact ⟨rfl, rfl⟩
  case ongoing => exact ⟨rfl, by simp [newStep]⟩
  all_goals rfl

theorem applyHypothesisUpdates_step {env : Env} {now : Time} {s s' : Store} {id : Uuid}
    {owner : String} {iteration : Nat} {callId : String} {batch : HypothesisUpdateBatch}
    {outcome : HypothesisUpdateOutcome}
    (done : applyHypothesisUpdates now s id owner iteration callId batch = .ok (outcome, s')) :
    InvestigationStep env now (.applyHypothesisUpdates id owner iteration callId batch) s s' := by
  obtain ⟨row, row', step, held, applied⟩ := applyHypothesisUpdates_eq_ok done
  obtain ⟨found, investigating, leased⟩ := fenced_eq_ok.mp held
  have frame := applied.frame
  have audit : s'.audit = s.audit := by rw [frame]
  refine ⟨.updated id row row' batch.updates step found investigating applied.same applied.status
    applied.stepOf ?_ applied.tables applied.reported
    ⟨owner, iteration, callId, batch, rfl, rfl, leased⟩ applied.leaseOwner applied.ongoing
    (.of_audit audit), ?_, ?_, ?_, .of_audit audit⟩ <;> rw [frame]

theorem complete_step {env : Env} {now : Time} {s s' : Store} {id : Uuid} {owner : String}
    {iteration : Nat} {callId : String} {result : FinalInvestigationResult}
    {outcome : ConclusionOutcome}
    (done : complete env now s id owner iteration callId result = .ok (outcome, s')) :
    InvestigationStep env now (.complete id owner iteration callId result) s s' := by
  simp only [complete, bind_eq_ok, fenced_eq_ok] at done
  obtain ⟨row, ⟨found, investigating, held⟩, done⟩ := done
  by_cases met : unmetCriteria env s id row result = []
  · rw [if_neg (not_not.mpr met)] at done
    simp only [bind_eq_ok, found_eq_ok, pure_eq_ok] at done
    obtain ⟨⟨hypothesisId, h⟩, selected, s₁, left, done⟩ := done
    obtain ⟨publishes, ends⟩ := outcome_publishes s id (.investigationCompleted id row.incidentId
      hypothesisId s.investigation.rcaReports.length) left rfl rfl (fun _ => rfl)
    obtain ⟨incident, audit, incidentFound, rfl⟩ := moveInvestigatedIncident_eq_ok left
    cases done
    refine ⟨.completed id row _ incident hypothesisId h result _ _ found incidentFound
      investigating met selected ?_ ?_ ?_ ?_ ?_ ?_ ?_ ?_ rfl rfl ?_
      ⟨owner, iteration, callId, rfl⟩ ?_ ⟨?_, ?_⟩ ends, rfl, rfl, rfl, publishes⟩
    · exact ⟨rfl, rfl⟩
    all_goals rfl
  · rw [if_pos met] at done
    cases done
    refine ⟨.worked id row _ [_] found ?_ ?_ ?_ rfl rfl (.kept owner rfl held ?_) ?_
      (.of_audit rfl), rfl, rfl, rfl, .of_audit rfl⟩
    · exact ⟨rfl, rfl⟩
    · exact .inl rfl
    · simp [StepsOf, newStep, reportedUpdates]
    · rfl
    · simp [newStep, concludes]

theorem escalate_step {env : Env} {now : Time} {s s' : Store} {id : Uuid} {owner : String}
    {iteration : Nat} {e : Escalation} {u : Unit}
    (done : escalate now s id owner iteration e = .ok (u, s')) :
    InvestigationStep env now (.escalate id owner iteration e) s s' := by
  simp only [escalate, bind_eq_ok, fenced_eq_ok, pure_eq_ok] at done
  obtain ⟨row, ⟨found, investigating, _⟩, s₁, left, done⟩ := done
  obtain ⟨publishes, ends⟩ := outcome_publishes s id (.investigationFailed id row.incidentId
    e.outcome.toStatus e.reasonCode) left rfl rfl (fun _ => rfl)
  obtain ⟨incident, audit, incidentFound, rfl⟩ := moveInvestigatedIncident_eq_ok left
  cases done
  refine ⟨.ended id row _ incident _ found incidentFound investigating ?_ ?_ ?_ rfl rfl ?_ ?_
    ⟨?_, ?_⟩ ends, rfl, rfl, rfl, publishes⟩
  · exact ⟨rfl, rfl⟩
  · cases outcome : e.outcome <;>
      simp [InvestigationRow.ended, outcome, EscalationOutcome.toStatus]
  all_goals rfl

end IncidentTriage.Verified
