import IncidentTriage.Lifecycle.Case
import IncidentTriage.Verified.Transactions

/-! # The store refines the life of every incident

`caseOf s i` reads the abstract case of incident `i` off the store.  Every
transaction is a step of the case of the incident it is about and leaves the cases of
all others alone, so what the abstract machine keeps holds in every reachable store.
-/

namespace IncidentTriage.Verified

open IncidentTriage.Python IncidentTriage.Domain IncidentTriage.Incident
open IncidentTriage.Lifecycle (Case Phase Move shift Limits Coherent)

/-! ## The abstraction -/

def openInvestigation (i : Uuid) (v : InvestigationRow) : Bool :=
  v.incidentId == i && v.status.isOpen

def openVerification (i : Uuid) (v : VerificationRow) : Bool :=
  v.incidentId == i && (v.status == .pending || v.status == .running)

def phaseOf (r : RemediationRow) : Option Phase :=
  match r.status with
  | .awaitingApproval => some .awaiting
  | .approved => some .approved
  | .executing => some .executing
  | .executed | .failed => some .spent
  | .cancelled => if 0 < r.executionAttempts then some .killed else none
  | .proposed | .policyRejected => none

def inPhase (i : Uuid) (p : Phase) (r : RemediationRow) : Bool :=
  r.incidentId == i && decide (phaseOf r = some p)

def statusAt (incidents : List IncidentRow) (i : Uuid) : Option IncidentStatus :=
  incidents[i]?.map (·.status)

def attemptsAt (incidents : List IncidentRow) (i : Uuid) : Nat :=
  (incidents[i]?.map (·.attemptCount)).getD 0

def phasesAt (remediations : List RemediationRow) (i : Uuid) (p : Phase) : Nat :=
  remediations.countP (inPhase i p)

def caseOf (s : Store) (i : Uuid) : Case :=
  { status := statusAt s.incidents i
    attempts := attemptsAt s.incidents i
    firing := s.alert.alerts.countP (isFiringAlertOf i)
    openInvestigations := s.investigation.investigations.countP (openInvestigation i)
    remediations := phasesAt s.remediation.remediations i
    openVerifications := s.verification.verifications.countP (openVerification i) }

/-! ## Reading the abstraction after a write -/

section
variable {incidents : List IncidentRow} {i j : Uuid} {incident : IncidentRow}

theorem statusAt_found (found : incidents[i]? = some incident) :
    statusAt incidents i = some incident.status := by
  simp [statusAt, found]

theorem statusAt_set (found : incidents[j]? = some incident) (incident' : IncidentRow) :
    statusAt (incidents.set j incident') i =
      if i = j then some incident'.status else statusAt incidents i := by
  have inside := Table.lt_of_row found
  by_cases here : i = j
  · subst here
    simp [statusAt, inside]
  · simp [statusAt, here, Ne.symm here]

theorem attemptsAt_set (found : incidents[j]? = some incident) (incident' : IncidentRow) :
    attemptsAt (incidents.set j incident') i =
      if i = j then incident'.attemptCount else attemptsAt incidents i := by
  have inside := Table.lt_of_row found
  by_cases here : i = j
  · subst here
    simp [attemptsAt, inside]
  · simp [attemptsAt, here, Ne.symm here]

theorem statusAt_movedIf (found : incidents[j]? = some incident) {now : Time}
    {fromStatuses : List IncidentStatus} {toStatus : IncidentStatus} :
    statusAt (movedIf incidents now j incident fromStatuses toStatus) i =
      if i = j then shift fromStatuses toStatus (statusAt incidents i)
      else statusAt incidents i := by
  unfold movedIf shift
  by_cases here : i = j
  · subst here
    by_cases within : incident.status ∈ fromStatuses <;>
      simp [within, statusAt_found found, statusAt_set found, IncidentRow.moved]
  · split_ifs <;> simp [statusAt_set found, here]

theorem attemptsAt_movedIf (found : incidents[j]? = some incident) {now : Time}
    {fromStatuses : List IncidentStatus} {toStatus : IncidentStatus} :
    attemptsAt (movedIf incidents now j incident fromStatuses toStatus) i =
      attemptsAt incidents i := by
  unfold movedIf
  split_ifs
  · rw [attemptsAt_set found]
    split_ifs with here
    · subst here
      simp [attemptsAt, found, IncidentRow.moved]
    · rfl
  · rfl

end

section
variable {t : List RemediationRow} {k : Uuid} {r r' : RemediationRow} {i : Uuid}

theorem phasesAt_put_other (row : t[k]? = some r) (same : r'.incidentId = r.incidentId)
    (other : i ≠ r.incidentId) : phasesAt (t.set k r') i = phasesAt t i := by
  funext p
  have elsewhere : (r.incidentId == i) = false := by simpa using Ne.symm other
  exact Table.countP_put_same row (by simp [inPhase, same, elsewhere])

theorem move_put (row : t[k]? = some r) (same : r'.incidentId = r.incidentId) :
    Move (phaseOf r) (phaseOf r') (phasesAt t r.incidentId)
      (phasesAt (t.set k r') r.incidentId) := by
  intro p
  have counted := Table.countP_put row r' (inPhase r.incidentId p)
  simpa [inPhase, same, phasesAt] using counted

theorem phasesAt_insert_other (other : i ≠ r.incidentId) :
    phasesAt (t ++ [r]) i = phasesAt t i := by
  funext p
  simp [phasesAt, inPhase, Ne.symm other]

theorem move_insert : Move none (phaseOf r) (phasesAt t r.incidentId)
    (phasesAt (t ++ [r]) r.incidentId) := by
  intro p
  simp [phasesAt, inPhase, List.countP_append, List.countP_cons]

end

/-! ## Attempts and status of a remediation -/

/-- How far a remediation is says whether an attempt was started. -/
structure AttemptsFit (r : RemediationRow) : Prop where
  recorded : r.status ≠ .proposed
  none : r.status = .awaitingApproval ∨ r.status = .approved ∨ r.status = .policyRejected →
    r.executionAttempts = 0
  some : r.status = .executing ∨ r.status = .executed → 0 < r.executionAttempts

def AllAttemptsFit (s : Store) : Prop :=
  Table.Every (fun _ r => AttemptsFit r) s.remediation.remediations

/-- A status change that keeps the number of attempts and fits it. -/
theorem AttemptsFit.kept {r r' : RemediationRow} (fit : AttemptsFit r)
    (attempts : r'.executionAttempts = r.executionAttempts)
    (status : r'.status = r.status ∨ (r.status = .awaitingApproval ∧ r'.status = .approved) ∨
      r'.status = .cancelled ∨ r'.status = .failed ∨
      (r.status = .executing ∧ r'.status = .executed)) : AttemptsFit r' := by
  obtain ⟨recorded, none, some⟩ := fit
  rcases status with same | ⟨before, after⟩ | after | after | ⟨before, after⟩
  · exact ⟨by rwa [same], by rwa [same, attempts], by rwa [same, attempts]⟩
  all_goals constructor <;> simp_all

theorem RemediationStep.attemptsFit {env : Env} {now : Time} {c : Command} {s s' : Store}
    (step : RemediationStep env now c s s') (fit : AllAttemptsFit s) : AllAttemptsFit s' := by
  unfold AllAttemptsFit at fit ⊢
  cases step.effect with
  | rejected incident row decision _ fresh status _ _ tables _ =>
    rw [tables]
    exact fit.insert ⟨by simp [status], fun _ => fresh.attempts, by simp [status]⟩
  | requested incident row decision _ fresh status _ _ _ _ tables _ =>
    rw [tables]
    exact fit.insert ⟨by simp [status], fun _ => fresh.attempts, by simp [status]⟩
  | approved id row row' _ _ _ _ _ _ _ _ _ _ found _ awaiting _ _ _ _ _ _ _ _ status attempts _ _
      tables _ =>
    rw [tables]
    exact fit.put found ((fit id row found).kept attempts (.inr (.inl ⟨awaiting, status⟩)))
  | withdrawn id row row' _ _ _ found _ _ _ _ _ status attempts _ _ tables _ =>
    rw [tables]
    exact fit.put found ((fit id row found).kept attempts (.inr (.inr (.inl status))))
  | blocked id row row' _ found _ _ _ _ status attempts _ _ tables _ =>
    rw [tables]
    exact fit.put found ((fit id row found).kept attempts (.inr (.inr (.inr (.inl status)))))
  | started id row row' _ _ _ _ found _ _ _ _ _ status attempts _ _ tables _ =>
    rw [tables]
    exact fit.put found ⟨by simp [status], by simp [status], by simp [attempts]⟩
  | interrupted id row row' _ _ _ found _ _ _ _ _ _ _ _ _ status attempts _ _ tables _ =>
    rw [tables]
    exact fit.put found ((fit id row found).kept attempts (.inl status))
  | executed _ e _ row row' _ _ _ _ _ _ _ _ _ _ _ found _ executing _ _ _ _ _ _ status attempts
      _ _ _ tables _ =>
    rw [tables]
    exact fit.put found ((fit _ row found).kept attempts
      (.inr (.inr (.inr (.inr ⟨executing, status⟩)))))
  | attemptFailed _ e _ row row' _ _ _ _ _ _ _ _ _ found _ _ _ _ _ _ _ _ status attempts
      _ _ tables _ =>
    rw [tables]
    exact fit.put found ((fit _ row found).kept attempts (.inr (.inr (.inr (.inl status)))))
  | retriable _ e _ row row' _ _ _ _ _ _ _ _ found executing _ _ _ _ _ _ status attempts
      _ _ tables _ =>
    rw [tables]
    exact fit.put found ((fit _ row found).kept attempts (.inl (status.trans executing.symm)))
  | configured baselines killSwitches _ tables _ =>
    rw [tables]
    exact fit

theorem Transaction.attemptsFit {env : Env} {now : Time} {tickets : List IssuedTicket}
    {c : Command} {s s' : Store} (transaction : Transaction env now tickets c s s')
    (fit : AllAttemptsFit s) : AllAttemptsFit s' := by
  cases transaction with
  | alert step =>
    unfold AllAttemptsFit
    rwa [step.remediation]
  | investigation step =>
    unfold AllAttemptsFit
    rwa [step.remediation]
  | remediation step => exact step.attemptsFit fit
  | verification step =>
    unfold AllAttemptsFit
    rwa [step.remediation]

/-! ## Every transaction is a step of one case -/

/-- The limits an environment sets. -/
def limitsOf (env : Env) : Limits :=
  { remediations := env.policy.maxAttemptedRemediationsPerIncident
    investigations := env.maxInvestigationAttempts
    remediable := env.policy.remediableIncidentStatuses }

/-- Each case takes at most one step. -/
def CasesStep (limits : Limits) (s s' : Store) : Prop :=
  ∀ i, caseOf s' i = caseOf s i ∨ Lifecycle.Step limits (caseOf s i) (caseOf s' i)

section
variable {alerts : List AlertRow} {i j k : Uuid} {alert : AlertRow}

theorem firing_insert (link : alert.incidentId = some j) (fires : alert.status = .firing) :
    (alerts ++ [alert]).countP (isFiringAlertOf i) =
      alerts.countP (isFiringAlertOf i) + (if i = j then 1 else 0) := by
  by_cases here : i = j
  · simp [isFiringAlertOf, link, fires, here]
  · simp [isFiringAlertOf, link, here, Ne.symm here]

theorem firing_insert_unlinked (unlinked : alert.incidentId = none) :
    (alerts ++ [alert]).countP (isFiringAlertOf i) = alerts.countP (isFiringAlertOf i) := by
  simp [isFiringAlertOf, unlinked]

theorem firing_ended (i : Uuid) (now : Time) (row : alerts[k]? = some alert)
    (link : alert.incidentId = some j) (fires : alert.status = .firing) :
    (alerts.set k (endedAlert alert now)).countP (isFiringAlertOf i) +
      (if i = j then 1 else 0) = alerts.countP (isFiringAlertOf i) := by
  have counted := Table.countP_put row (endedAlert alert now) (isFiringAlertOf i)
  by_cases here : i = j
  · simpa [isFiringAlertOf, endedAlert, link, fires, here] using counted
  · simpa [isFiringAlertOf, endedAlert, link, fires, here, Ne.symm here] using counted

end

theorem AlertStep.casesStep {limits : Limits} {received : Option AlertStatus} {now : Time}
    {s s' : Store} (step : AlertStep received now s s') : CasesStep limits s s' := by
  obtain ⟨effect, investigation, remediation, verification⟩ := step
  intro i
  cases effect with
  | replayed incidents alerts _ =>
    left
    simp [caseOf, incidents, alerts, investigation, remediation, verification]
  | unmatched row unlinked incidents alerts _ =>
    left
    simp only [caseOf, incidents, alerts, investigation, remediation, verification,
      firing_insert_unlinked unlinked]
  | linked j incident touchedAt row found isOpen link firing incidents alerts _ =>
    have status : statusAt s'.incidents i = statusAt s.incidents i := by
      rw [incidents, statusAt_set found]
      split_ifs with here
      · rw [here, statusAt_found found]
      · rfl
    have attempts : attemptsAt s'.incidents i = attemptsAt s.incidents i := by
      rw [incidents, attemptsAt_set found]
      split_ifs with here
      · rw [here, attemptsAt, found]
        rfl
      · rfl
    by_cases here : i = j
    · subst here
      right
      have next : caseOf s' i = { caseOf s i with firing := (caseOf s i).firing + 1 } := by
        simp only [caseOf, status, attempts, alerts, investigation, remediation, verification,
          firing_insert link firing, if_true]
      rw [next]
      exact .alertLinked incident.status (statusAt_found found) (by simpa [isClosed] using isOpen)
    · left
      simp only [caseOf, status, attempts, alerts, investigation, remediation, verification,
        firing_insert link firing, here, if_false, Nat.add_zero]
  | opened key severity service environment row link firing incidents alerts _ =>
    by_cases here : i = s.incidents.length
    · subst here
      right
      have next : caseOf s' s.incidents.length = { caseOf s s.incidents.length with
          status := some .triaging
          attempts := 0
          firing := (caseOf s s.incidents.length).firing + 1 } := by
        simp only [caseOf, incidents, alerts, investigation, remediation, verification,
          firing_insert link firing, if_true]
        simp [statusAt, attemptsAt, newIncident]
      rw [next]
      exact .opened (by simp [caseOf, statusAt])
    · left
      have same : s'.incidents[i]? = s.incidents[i]? := by
        rw [incidents]
        rcases Nat.lt_or_gt_of_ne here with before | after
        · exact List.getElem?_append_left before
        · rw [List.getElem?_eq_none (by simp; omega), List.getElem?_eq_none (by omega)]
      simp only [caseOf, statusAt, attemptsAt, same, alerts, investigation, remediation,
        verification, firing_insert link firing, here, if_false, Nat.add_zero]
  | cancelled k alert j incident row link firing found silent triaging incidents alerts _ =>
    have ended := firing_ended i now row link firing 
    by_cases here : i = j
    · subst here
      right
      rw [silent, if_pos rfl] at ended
      have next : caseOf s' i = { caseOf s i with status := some .cancelled, firing := 0 } := by
        simp only [caseOf, incidents, alerts, investigation, remediation, verification,
          statusAt_set found, attemptsAt_set found, if_true, silent]
        simp [IncidentRow.moved, attemptsAt, found]
      rw [next]
      exact .cancelled ((statusAt_found found).trans (by rw [triaging])) ended.symm
    · left
      rw [if_neg here] at ended
      simp only [caseOf, incidents, alerts, investigation, remediation, verification,
        statusAt_set found, attemptsAt_set found, here, if_false, ← ended, Nat.add_zero]
  | resolved k alert j incident row link firing found moves incidents alerts _ =>
    have ended := firing_ended i now row link firing 
    by_cases here : i = j
    · subst here
      right
      rw [if_pos rfl] at ended
      have next : caseOf s' i = { caseOf s i with firing := (caseOf s i).firing - 1 } := by
        simp only [caseOf, incidents, alerts, investigation, remediation, verification, ← ended,
          Nat.add_sub_cancel]
      rw [next]
      refine .alertEnded (by simp only [caseOf, ← ended]; omega) ?_
      rintro ⟨last, triaging⟩
      refine moves ⟨?_, ?_⟩
      · simp only [caseOf] at last
        omega
      · simpa [caseOf, statusAt_found found] using triaging
    · left
      rw [if_neg here] at ended
      simp only [caseOf, incidents, alerts, investigation, remediation, verification, ← ended,
        Nat.add_zero]
  | registered row _ _ incidents alerts _ =>
    left
    simp [caseOf, incidents, alerts, investigation, remediation, verification]

section
variable {rows : List InvestigationRow} {i k : Uuid} {v v' : InvestigationRow}

theorem openInvestigations_put_same (row : rows[k]? = some v)
    (same : v'.incidentId = v.incidentId) (status : v'.status.isOpen = v.status.isOpen) :
    (rows.set k v').countP (openInvestigation i) = rows.countP (openInvestigation i) :=
  Table.countP_put_same row (by simp only [openInvestigation, same, status])

theorem openInvestigations_close (i : Uuid) (row : rows[k]? = some v) (same : v'.incidentId = v.incidentId)
    (before : v.status.isOpen = true) (after : v'.status.isOpen = false) :
    (rows.set k v').countP (openInvestigation i) + (if i = v.incidentId then 1 else 0) =
      rows.countP (openInvestigation i) := by
  have counted := Table.countP_put row v' (openInvestigation i)
  by_cases here : i = v.incidentId
  · simpa [openInvestigation, same, before, after, here] using counted
  · simpa [openInvestigation, same, before, after, here, Ne.symm here] using counted

end

/-- An investigation ends, and its incident moves on unless it is elsewhere. -/
theorem caseStep_of_investigationClosed {limits : Limits} {now : Time} {s s' : Store} {id : Uuid}
    {row row' : InvestigationRow} {incident : IncidentRow} {toStatus : IncidentStatus}
    (found : s.investigation.investigations[id]? = some row)
    (incidentFound : s.incidents[row.incidentId]? = some incident)
    (investigating : row.status = .investigating) (same : SameInvestigation row row')
    (finished : row'.status.isOpen = false)
    (destination : toStatus = .rcaReady ∨ toStatus = .escalated)
    (incidents : s'.incidents = movedIf s.incidents now row.incidentId incident
      [.investigating] toStatus)
    (investigations : s'.investigation.investigations =
      s.investigation.investigations.set id row')
    (alert : s'.alert = s.alert) (remediation : s'.remediation = s.remediation)
    (verification : s'.verification = s.verification) : CasesStep limits s s' := by
  intro i
  have isOpen : row.status.isOpen = true := by rw [investigating]; rfl
  have closed := openInvestigations_close i found same.incidentId isOpen finished
  by_cases here : i = row.incidentId
  · right
    rw [if_pos here] at closed
    have next : caseOf s' i = { caseOf s i with
        status := shift [.investigating] toStatus (caseOf s i).status
        openInvestigations := (caseOf s i).openInvestigations - 1 } := by
      simp only [caseOf, incidents, investigations, alert, remediation, verification,
        statusAt_movedIf incidentFound, attemptsAt_movedIf incidentFound, here, if_true]
      rw [here] at closed
      simp only [← closed, Nat.add_sub_cancel]
    rw [next]
    refine .investigationClosed toStatus destination ?_
    simp only [caseOf]
    omega
  · left
    rw [if_neg here] at closed
    simp only [caseOf, incidents, investigations, alert, remediation, verification,
      statusAt_movedIf incidentFound, attemptsAt_movedIf incidentFound, here, if_false, ← closed,
      Nat.add_zero]

theorem InvestigationStep.casesStep {limits : Limits} {env : Env} {now : Time} {c : Command}
    {s s' : Store} (step : InvestigationStep env now c s s') : CasesStep limits s s' := by
  obtain ⟨effect, alert, remediation, verification⟩ := step
  cases effect with
  | requested j incident row found noneOpen waiting firing incidentId attemptNumber status
      incidents tables =>
    intro i
    have investigations := congrArg InvestigationTables.investigations tables
    by_cases here : i = j
    · subst here
      right
      have idle : s.investigation.investigations.countP (openInvestigation i) = 0 := by
        rw [List.countP_eq_zero]
        intro v member
        obtain ⟨k, row⟩ := List.getElem?_of_mem member
        simp only [openInvestigation, Bool.and_eq_true, beq_iff_eq, not_and, Bool.not_eq_true]
        exact noneOpen k v row
      have created : openInvestigation i row = true := by
        simp [openInvestigation, incidentId, status, InvestigationStatus.isOpen]
      have next : caseOf s' i = { caseOf s i with
          status := some .investigating
          attempts := (caseOf s i).attempts + 1
          openInvestigations := 1 } := by
        simp only [caseOf, incidents, investigations, alert, remediation, verification,
          statusAt_set found, attemptsAt_set found, if_true, List.countP_append, idle,
          List.countP_singleton, created]
        simp [IncidentRow.moved, attemptsAt, found]
      rw [next]
      refine .investigationRequested ?_ firing idle
      simpa [caseOf, statusAt_found found] using waiting
    · left
      have elsewhere : openInvestigation i row = false := by
        simp [openInvestigation, incidentId, Ne.symm here]
      simp only [caseOf, incidents, investigations, alert, remediation, verification,
        statusAt_set found, attemptsAt_set found, here, if_false, List.countP_append,
        List.countP_singleton, elsewhere, Bool.false_eq_true, Nat.add_zero]
  | worked id row row' steps found same status _ incidents tables =>
    intro i
    left
    have investigations := congrArg InvestigationTables.investigations tables
    have isOpen : row'.status.isOpen = row.status.isOpen := by
      rcases status with same | ⟨before, after⟩
      · rw [same]
      · rw [before, after]
        rfl
    simp only [caseOf, incidents, investigations, alert, remediation, verification,
      openInvestigations_put_same found same.incidentId isOpen]
  | updated id row row' updates step found _ same status _ incidents tables =>
    intro i
    left
    have investigations := congrArg InvestigationTables.investigations tables
    simp only [caseOf, incidents, investigations, alert, remediation, verification,
      openInvestigations_put_same found same.incidentId (congrArg _ status)]
  | completed id row row' incident _ _ _ _ _ found incidentFound investigating _ _ same status _ _
      _ _ _ _ incidents tables =>
    exact caseStep_of_investigationClosed found incidentFound investigating same
      (by rw [status]; rfl) (.inl rfl) incidents
      (congrArg InvestigationTables.investigations tables) alert remediation verification
  | ended id row row' incident _ found incidentFound investigating same status _ incidents
      tables =>
    refine caseStep_of_investigationClosed found incidentFound investigating same ?_ (.inr rfl)
      incidents (congrArg InvestigationTables.investigations tables) alert remediation verification
    rcases status with status | status <;> rw [status] <;> rfl

/-- What a guarded move of incident `j` does to the cases' statuses. -/
structure IncidentMoves (s s' : Store) (j : Uuid) (fromStatuses : List IncidentStatus)
    (toStatus : IncidentStatus) : Prop where
  status : ∀ i, statusAt s'.incidents i =
    if i = j then shift fromStatuses toStatus (statusAt s.incidents i) else statusAt s.incidents i
  attempts : ∀ i, attemptsAt s'.incidents i = attemptsAt s.incidents i

theorem IncidentMoves.of_movedIf {s s' : Store} {now : Time} {j : Uuid} {incident : IncidentRow}
    {fromStatuses : List IncidentStatus} {toStatus : IncidentStatus}
    (found : s.incidents[j]? = some incident)
    (incidents : s'.incidents = movedIf s.incidents now j incident fromStatuses toStatus) :
    IncidentMoves s s' j fromStatuses toStatus := by
  constructor <;> intro i <;> rw [incidents]
  · exact statusAt_movedIf found
  · exact attemptsAt_movedIf found

@[simp] theorem shift_nil {toStatus : IncidentStatus} {status : Option IncidentStatus} :
    shift [] toStatus status = status := by
  simp [shift]

theorem IncidentMoves.unmoved {s s' : Store} {j : Uuid}
    (incidents : s'.incidents = s.incidents) : IncidentMoves s s' j [] .triaging := by
  constructor <;> intro i <;> simp [incidents]

/-- One remediation changes kind, and its incident moves along some edges. -/
theorem caseOf_remediation_put {s s' : Store} {k : Uuid} {row row' : RemediationRow}
    {fromStatuses : List IncidentStatus} {toStatus : IncidentStatus}
    (found : s.remediation.remediations[k]? = some row) (same : SameProposal row row')
    (moves : IncidentMoves s s' row.incidentId fromStatuses toStatus)
    (remediations : s'.remediation.remediations = s.remediation.remediations.set k row')
    (alert : s'.alert = s.alert) (investigation : s'.investigation = s.investigation)
    (verification : s'.verification = s.verification) (i : Uuid) :
    (i ≠ row.incidentId ∧ caseOf s' i = caseOf s i) ∨
      (i = row.incidentId ∧
        ∃ n, Move (phaseOf row) (phaseOf row') (caseOf s i).remediations n ∧
        caseOf s' i = { caseOf s i with
          status := shift fromStatuses toStatus (caseOf s i).status
          remediations := n }) := by
  by_cases here : i = row.incidentId
  · right
    refine ⟨here, phasesAt s'.remediation.remediations i, ?_, ?_⟩
    · rw [remediations, here]
      exact move_put found same.incidentId
    · simp only [caseOf, moves.status, moves.attempts, alert, investigation, verification, here,
        if_true]
  · left
    refine ⟨here, ?_⟩
    simp only [caseOf, moves.status, moves.attempts, alert, investigation, verification, here,
      if_false, remediations, phasesAt_put_other found same.incidentId here]

/-- A remediation is recorded, and its incident moves along some edges. -/
theorem caseOf_remediation_insert {s s' : Store} {row : RemediationRow}
    {fromStatuses : List IncidentStatus} {toStatus : IncidentStatus}
    (moves : IncidentMoves s s' row.incidentId fromStatuses toStatus)
    (remediations : s'.remediation.remediations = s.remediation.remediations ++ [row])
    (alert : s'.alert = s.alert) (investigation : s'.investigation = s.investigation)
    (verification : s'.verification = s.verification) (i : Uuid) :
    caseOf s' i = caseOf s i ∨
      (i = row.incidentId ∧ ∃ n, Move none (phaseOf row) (caseOf s i).remediations n ∧
        caseOf s' i = { caseOf s i with
          status := shift fromStatuses toStatus (caseOf s i).status
          remediations := n }) := by
  by_cases here : i = row.incidentId
  · right
    refine ⟨here, phasesAt s'.remediation.remediations i, ?_, ?_⟩
    · rw [remediations, here]
      exact move_insert
    · simp only [caseOf, moves.status, moves.attempts, alert, investigation, verification, here,
        if_true]
  · left
    simp only [caseOf, moves.status, moves.attempts, alert, investigation, verification, here,
      if_false, remediations, phasesAt_insert_other here]

/-- A move from a kind to itself changes nothing. -/
theorem eq_of_move_same {p : Option Phase} {n n' : Phase → Nat} (move : Move p p n n') :
    n' = n := by
  funext x
  exact Nat.add_right_cancel (move x)

theorem attempted_eq (s : Store) (i : Uuid) :
    (caseOf s i).attempted = attemptedRemediations s i := by
  simp only [Case.attempted, caseOf, phasesAt, attemptedRemediations]
  induction s.remediation.remediations with
  | nil => rfl
  | cons r rest ih =>
    simp only [List.countP_cons, ← ih]
    have split : (if inPhase i .executing r = true then 1 else 0) +
        (if inPhase i .spent r = true then 1 else 0) =
        (if (r.incidentId == i && isAttempted r) = true then 1 else 0) := by
      by_cases here : r.incidentId = i
      · cases status : r.status <;>
          simp [inPhase, here, phaseOf, status, isAttempted, attemptedRemediationStatuses]
      · simp [inPhase, here]
    omega

theorem RemediationStep.casesStep {env : Env} {now : Time} {c : Command} {s s' : Store}
    (step : RemediationStep env now c s s') (fit : AllAttemptsFit s) :
    CasesStep (limitsOf env) s s' := by
  obtain ⟨effect, alert, investigation⟩ := step
  intro i
  cases effect with
  | rejected incident row decision found fresh status _ incidents tables verification =>
    have remediations := congrArg RemediationTables.remediations tables
    rcases caseOf_remediation_insert (.of_movedIf found incidents) remediations alert investigation
      verification i with same | ⟨_, n, move, next⟩
    · exact .inl same
    · right
      have kind : phaseOf row = none := by simp [phaseOf, status]
      rw [kind] at move
      rw [next, eq_of_move_same move]
      exact .proposalRejected
  | requested incident row decision found fresh status _ ready left incidents tables
      verification =>
    have remediations := congrArg RemediationTables.remediations tables
    rcases caseOf_remediation_insert (.of_movedIf found incidents) remediations alert investigation
      verification i with same | ⟨rfl, n, move, next⟩
    · exact .inl same
    · right
      have kind : phaseOf row = some .awaiting := by simp [phaseOf, status]
      rw [kind] at move
      rw [next]
      refine .proposed n incident.status (statusAt_found found) ready ?_ move
      rw [attempted_eq]
      exact left
  | approved id row row' incident _ _ _ _ _ _ _ _ _ found incidentFound awaiting _ _ _ _ _ _ _
      same status _ _ incidents tables verification =>
    have remediations := congrArg RemediationTables.remediations tables
    rcases caseOf_remediation_put found same (.of_movedIf incidentFound incidents) remediations
      alert investigation verification i with ⟨_, same⟩ | ⟨_, n, move, next⟩
    · exact .inl same
    · right
      rw [next]
      exact .approved n (by simpa [phaseOf, awaiting, status] using move)
  | withdrawn id row row' incident decided incidentTo found incidentFound before destination _ same
      status attempts _ incidents tables verification =>
    have remediations := congrArg RemediationTables.remediations tables
    have rowFit := fit id row found
    rcases caseOf_remediation_put found same (.of_movedIf incidentFound incidents) remediations
      alert investigation verification i with ⟨_, same⟩ | ⟨_, n, move, next⟩
    · exact .inl same
    · right
      rw [next]
      rcases before with awaiting | approved | ⟨executing, rfl, _⟩
      · have unstarted := rowFit.none (.inl awaiting)
        exact .withdrawn .awaiting incidentTo n (.inl rfl) destination
          (by simpa [phaseOf, awaiting, status, attempts, unstarted] using move)
      · have unstarted := rowFit.none (.inr (.inl approved))
        exact .withdrawn .approved incidentTo n (.inr rfl) destination
          (by simpa [phaseOf, approved, status, attempts, unstarted] using move)
      · have started := rowFit.some (.inl executing)
        exact .killed n (by simpa [phaseOf, executing, status, attempts, started] using move)
  | blocked id row row' incident found incidentFound before _ same status _ _ incidents tables
      verification =>
    have remediations := congrArg RemediationTables.remediations tables
    rcases caseOf_remediation_put found same (.of_movedIf incidentFound incidents) remediations
      alert investigation verification i with ⟨_, same⟩ | ⟨_, n, move, next⟩
    · exact .inl same
    · right
      rw [next]
      rcases before with approved | executing
      · exact .failed .approved n (.inl rfl) (by simpa [phaseOf, approved, status] using move)
      · exact .failed .executing n (.inr rfl) (by simpa [phaseOf, executing, status] using move)
  | started id row row' _ _ _ _ found before _ _ _ same status _ _ incidents tables
      verification =>
    have remediations := congrArg RemediationTables.remediations tables
    rcases caseOf_remediation_put found same (.unmoved incidents) remediations alert investigation
      verification i with ⟨_, same⟩ | ⟨_, n, move, next⟩
    · exact .inl same
    · rw [next, shift_nil]
      rcases before with approved | executing
      · right
        exact .started n (by simpa [phaseOf, approved, status] using move)
      · left
        have kept : Move (some .executing) (some .executing) (caseOf s i).remediations n := by
          simpa [phaseOf, executing, status] using move
        rw [eq_of_move_same kept]
  | interrupted id row row' _ _ _ found _ _ _ _ _ _ _ _ same status attempts _ incidents tables
      verification =>
    have remediations := congrArg RemediationTables.remediations tables
    rcases caseOf_remediation_put found same (.unmoved incidents) remediations alert investigation
      verification i with ⟨_, same⟩ | ⟨_, n, move, next⟩
    · exact .inl same
    · left
      have kind : phaseOf row' = phaseOf row := by simp only [phaseOf, status, attempts]
      rw [kind] at move
      rw [next, shift_nil, eq_of_move_same move]
  | executed x e _ row row' incident v links _ _ _ _ _ _ _ _ found incidentFound executing _ _ _ _
      _ same status _ _ fresh incidents tables verification =>
    have remediations := congrArg RemediationTables.remediations tables
    have verifications := congrArg VerificationTables.verifications verification
    have next : caseOf s' i = { caseOf { s' with verification := s.verification } i with
        openVerifications := (caseOf s i).openVerifications +
          (if i = row.incidentId then 1 else 0) } := by
      by_cases here : i = row.incidentId
      · simp [caseOf, verifications, openVerification, fresh.incidentId, fresh.status, here]
      · simp [caseOf, verifications, openVerification, fresh.incidentId, here, Ne.symm here]
    have moves : IncidentMoves s { s' with verification := s.verification } row.incidentId
        [.remediationInProgress] .verifying := .of_movedIf incidentFound incidents
    rw [next]
    rcases caseOf_remediation_put found same moves remediations alert investigation rfl i
      with ⟨other, same⟩ | ⟨here, n, move, moved⟩
    · left
      rw [same, if_neg other, Nat.add_zero]
    · right
      rw [moved, if_pos here]
      exact .executed n (by simpa [phaseOf, executing, status] using move)
  | attemptFailed x e _ row row' incident _ _ _ _ _ _ _ _ found incidentFound executing _ _ _ _
      _ same status _ _ incidents tables verification =>
    have remediations := congrArg RemediationTables.remediations tables
    rcases caseOf_remediation_put found same (.of_movedIf incidentFound incidents) remediations
      alert investigation verification i with ⟨_, same⟩ | ⟨_, n, move, next⟩
    · exact .inl same
    · right
      rw [next]
      exact .failed .executing n (.inr rfl) (by simpa [phaseOf, executing, status] using move)
  | retriable x e _ row row' _ _ _ _ _ _ _ _ found executing _ _ _ _ _ same status _ _ incidents
      tables verification =>
    have remediations := congrArg RemediationTables.remediations tables
    rcases caseOf_remediation_put found same (.unmoved incidents) remediations alert investigation
      verification i with ⟨_, same⟩ | ⟨_, n, move, next⟩
    · exact .inl same
    · left
      have kept : Move (some .executing) (some .executing) (caseOf s i).remediations n := by
        simpa [phaseOf, executing, status] using move
      rw [next, shift_nil, eq_of_move_same kept]
  | configured baselines killSwitches incidents tables verification =>
    have remediations := congrArg RemediationTables.remediations tables
    left
    simp only [caseOf, incidents, remediations, alert, investigation, verification]

section
variable {rows : List VerificationRow} {k : Uuid} {v v' : VerificationRow}

theorem openVerifications_put_same (i : Uuid) (row : rows[k]? = some v)
    (same : SameVerification v v') (before : v.status = .pending ∨ v.status = .running)
    (after : v'.status = .running) :
    (rows.set k v').countP (openVerification i) = rows.countP (openVerification i) := by
  refine Table.countP_put_same row ?_
  rcases before with before | before <;>
    simp [openVerification, same.incidentId, before, after]

theorem openVerifications_close (i : Uuid) (row : rows[k]? = some v) (before : v.status = .pending ∨ v.status = .running)
    (after : v'.status ≠ .pending ∧ v'.status ≠ .running) :
    (rows.set k v').countP (openVerification i) + (if i = v.incidentId then 1 else 0) =
      rows.countP (openVerification i) := by
  have counted := Table.countP_put row v' (openVerification i)
  have opened : openVerification i v = true ↔ i = v.incidentId := by
    rcases before with before | before <;> simp only [openVerification, before] <;>
      simpa using eq_comm
  have closed : openVerification i v' = false := by
    simp [openVerification, after.1, after.2]
  simpa [opened, closed] using counted

end

/-- A verification reaches its verdict, and the verdict is applied or not. -/
theorem casesStep_of_verdict {env : Env} {now : Time} {s s' : Store} {id : Uuid} {row row₁ row' : VerificationRow} {status : VerificationStatus}
    (found : s.verification.verifications[id]? = some row) (same : SameVerification row row₁)
    (isOpen : row.status = .pending ∨ row.status = .running)
    (verdict : status ≠ .pending ∧ status ≠ .running) (closed : Closed row₁ row' status)
    (effect : VerdictEffect env now s id row₁ status s'.incidents)
    (verifications : s'.verification.verifications = s.verification.verifications.set id row')
    (alert : s'.alert = s.alert) (investigation : s'.investigation = s.investigation)
    (remediation : s'.remediation = s.remediation) : CasesStep (limitsOf env) s s' := by
  intro i
  have ended := openVerifications_close i found isOpen (by rwa [closed.status])
  rw [← verifications, ← same.incidentId] at ended
  -- What an applied verdict does: the incident of the verification leaves `VERIFYING`.
  have applied : ∀ {incident incident' : IncidentRow} {r : RemediationRow},
      s'.incidents = s.incidents.set row₁.incidentId incident' →
      s.incidents[row₁.incidentId]? = some incident →
      staleness s id row₁ incident r = none →
      incident'.attemptCount = incident.attemptCount →
      (incident'.status = .resolved ∨ incident'.status = .escalated ∨
        (incident'.status = .verificationFailed ∧
          incident.attemptCount < env.maxInvestigationAttempts ∧
          0 < countFiringAlerts s row₁.incidentId)) →
      caseOf s' i = caseOf s i ∨ Lifecycle.Step (limitsOf env) (caseOf s i) (caseOf s' i) := by
    intro incident incident' r moved incidentFound fresh attempts destination
    have verifying := (staleness_eq_none fresh).1
    by_cases here : i = row₁.incidentId
    · right
      rw [if_pos here] at ended
      subst here
      have next : caseOf s' row₁.incidentId = { caseOf s row₁.incidentId with
          status := some incident'.status
          openVerifications := (caseOf s row₁.incidentId).openVerifications - 1 } := by
        simp only [caseOf, moved, statusAt_set incidentFound, attemptsAt_set incidentFound,
          if_true, alert, investigation, remediation, ← ended, Nat.add_sub_cancel]
        simp [attemptsAt, incidentFound, attempts]
      rw [next]
      refine .verdictApplied incident'.status ?_ ?_ ?_
      · simp [caseOf, statusAt_found incidentFound, verifying]
      · simp only [caseOf]
        omega
      · simp only [caseOf, attemptsAt, incidentFound, Option.map_some, Option.getD_some]
        exact destination
    · left
      rw [if_neg here] at ended
      simp only [caseOf, moved, statusAt_set incidentFound, attemptsAt_set incidentFound, here,
        if_false, alert, investigation, remediation, ← ended, Nat.add_zero]
  cases effect with
  | stale incident r reason incidentFound remediationFound stale same =>
    by_cases here : i = row₁.incidentId
    · right
      rw [if_pos here] at ended
      have next : caseOf s' i = { caseOf s i with
          openVerifications := (caseOf s i).openVerifications - 1 } := by
        simp only [caseOf, same, alert, investigation, remediation, ← ended, Nat.add_sub_cancel]
      rw [next]
      refine .verdictStale ?_
      simp only [caseOf]
      omega
    · left
      rw [if_neg here] at ended
      simp only [caseOf, same, alert, investigation, remediation, ← ended, Nat.add_zero]
  | resolved incident r incidentFound _ fresh passed moved =>
    exact applied moved incidentFound fresh rfl (.inl rfl)
  | escalated incident incident' r incidentFound _ fresh notPassed status attempts moved =>
    exact applied moved incidentFound fresh attempts (.inr (.inl status))
  | reinvestigate incident r incidentFound _ fresh notPassed attemptsLeft firing moved =>
    exact applied moved incidentFound fresh rfl (.inr (.inr ⟨rfl, attemptsLeft, firing⟩))

theorem VerificationStep.casesStep {env : Env} {now : Time} {tickets : List IssuedTicket}
    {c : Command} {s s' : Store} (step : VerificationStep env now tickets c s s') :
    CasesStep (limitsOf env) s s' := by
  obtain ⟨effect, alert, investigation, remediation⟩ := step
  -- The verification stays open.
  have polled : ∀ {id : Uuid} {row row' : VerificationRow},
      s'.verification.verifications = s.verification.verifications.set id row' →
      s.verification.verifications[id]? = some row → SameVerification row row' →
      (row.status = .pending ∨ row.status = .running) → row'.status = .running →
      s'.incidents = s.incidents → CasesStep (limitsOf env) s s' := by
    intro id row row' verifications found same before after incidents i
    left
    simp only [caseOf, incidents, verifications, alert, investigation, remediation,
      openVerifications_put_same i found same before after]
  cases effect with
  | started id row found pending incidents tables =>
    exact polled (congrArg VerificationTables.verifications tables) found ⟨rfl, rfl, rfl, rfl⟩
      (.inl pending) rfl incidents
  | claimed id row row₁ owner leaseSeconds command found begun due incidents tables =>
    have running : (row₁.claimed now owner leaseSeconds).status = .running := begun.running
    exact polled (congrArg VerificationTables.verifications tables) found
      (begun.same.trans ⟨rfl, rfl, rfl, rfl⟩) begun.isOpen running incidents
  | closed id row row₁ row' decision found begun late decided verdict closed effect tables =>
    exact casesStep_of_verdict found begun.same begun.isOpen verdict closed effect
      (congrArg VerificationTables.verifications tables) alert investigation remediation
  | observed position issued sample evidenceIds observedAt row row' observation result links
      command held recorded incidents tables =>
    have after := recorded.after
    subst after
    exact polled (congrArg VerificationTables.verifications tables) recorded.found
      ⟨rfl, rfl, rfl, rfl⟩ (.inr recorded.running) recorded.running incidents
  | decided position issued sample evidenceIds observedAt row row₁ row' observation result links
      decision command held recorded decided verdict closed effect tables =>
    have same : SameVerification row row₁ := by
      rw [recorded.after]
      exact ⟨rfl, rfl, rfl, rfl⟩
    exact casesStep_of_verdict recorded.found same (.inr recorded.running) verdict closed
      effect (congrArg VerificationTables.verifications tables) alert investigation remediation

/-! ## Runs -/

theorem Transaction.casesStep {env : Env} {now : Time} {tickets : List IssuedTicket} {c : Command} {s s' : Store}
    (transaction : Transaction env now tickets c s s') (fit : AllAttemptsFit s) :
    CasesStep (limitsOf env) s s' := by
  cases transaction with
  | alert step => exact step.casesStep
  | investigation step => exact step.casesStep
  | remediation step => exact step.casesStep fit
  | verification step => exact step.casesStep

/-- What the abstract machine keeps under every policy, read off the store. -/
structure InvestigationsSound (env : Env) (s : Store) : Prop where
  fit : AllAttemptsFit s
  cases : ∀ i, Lifecycle.InvestigationsCoherent (limitsOf env) (caseOf s i)

/-- What it keeps where remediations are only proposed for an `RCA_READY` incident. -/
structure WorkCoherent (env : Env) (s : Store) : Prop where
  fit : AllAttemptsFit s
  cases : ∀ i, Coherent (limitsOf env) (caseOf s i)

theorem Transaction.investigationsSound {env : Env} {now : Time} {tickets : List IssuedTicket}
    {c : Command} {s s' : Store} (transaction : Transaction env now tickets c s s')
    (sound : InvestigationsSound env s) : InvestigationsSound env s' := by
  refine ⟨transaction.attemptsFit sound.fit, fun i => ?_⟩
  rcases transaction.casesStep sound.fit i with same | step
  · rw [same]
    exact sound.cases i
  · exact step.investigationsCoherent (sound.cases i)

theorem Transaction.workCoherent {env : Env}
    (remediable : env.policy.remediableIncidentStatuses = [.rcaReady]) {now : Time}
    {tickets : List IssuedTicket} {c : Command} {s s' : Store}
    (transaction : Transaction env now tickets c s s') (coherent : WorkCoherent env s) :
    WorkCoherent env s' := by
  refine ⟨transaction.attemptsFit coherent.fit, fun i => ?_⟩
  rcases transaction.casesStep coherent.fit i with same | step
  · rw [same]
    exact coherent.cases i
  · exact step.coherent remediable (coherent.cases i)

theorem investigationsSound_empty (env : Env) : InvestigationsSound env {} :=
  ⟨Table.Every.nil, fun _ => Lifecycle.investigationsCoherent_absent (limitsOf env) 0⟩

theorem workCoherent_empty (env : Env) : WorkCoherent env {} :=
  ⟨Table.Every.nil, fun _ => Lifecycle.coherent_absent (limitsOf env) 0⟩

theorem run_investigationsSound (env : Env) (clock : Time) (events : List Event) :
    InvestigationsSound env (runFrom env clock events).store :=
  run_invariant (fun transaction => transaction.investigationsSound)
    (investigationsSound_empty env) events

theorem run_workCoherent {env : Env}
    (remediable : env.policy.remediableIncidentStatuses = [.rcaReady]) (clock : Time)
    (events : List Event) : WorkCoherent env (runFrom env clock events).store :=
  run_invariant (fun transaction => transaction.workCoherent remediable)
    (workCoherent_empty env) events

end IncidentTriage.Verified
