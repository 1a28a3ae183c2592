import IncidentTriage.Verified.Attempts
import IncidentTriage.Verified.Lifecycle

/-! # Bounded autonomy

Investigations of an incident, attempts of a remediation, and attempted remediations
of an incident are numbered without gaps and stay within the configured budgets, in
every reachable store.
-/

namespace IncidentTriage.Verified

open IncidentTriage.Python IncidentTriage.Domain IncidentTriage.Incident
open IncidentTriage.Lifecycle (Phase)

/-! ## Numbering of investigations -/

def isInvestigationOf (i : Uuid) (v : InvestigationRow) : Bool := v.incidentId == i

/-- The attempt numbers of an incident's investigations, in the order they were made. -/
def investigationNumbers (s : Store) (i : Uuid) : List Nat :=
  Table.project (isInvestigationOf i) (·.attemptNumber) s.investigation.investigations

def InvestigationsNumbered (s : Store) : Prop :=
  ∀ i, investigationNumbers s i = List.range' 1 (attemptsAt s.incidents i)

theorem investigationNumbers_put {s s' : Store} {id : Uuid} {row row' : InvestigationRow}
    (found : s.investigation.investigations[id]? = some row) (same : SameInvestigation row row')
    (investigations : s'.investigation.investigations =
      s.investigation.investigations.set id row') (i : Uuid) :
    investigationNumbers s' i = investigationNumbers s i := by
  rw [investigationNumbers, investigations]
  exact Table.project_put found (by simp only [isInvestigationOf, same.incidentId])
    same.attemptNumber

theorem AlertStep.attemptsAt {received : Option AlertStatus} {now : Time} {s s' : Store}
    (step : AlertStep received now s s') (i : Uuid) : attemptsAt s'.incidents i = attemptsAt s.incidents i := by
  have rewritten : ∀ {j : Uuid} {incident incident' : IncidentRow},
      s.incidents[j]? = some incident → incident'.attemptCount = incident.attemptCount →
      Verified.attemptsAt (s.incidents.set j incident') i = Verified.attemptsAt s.incidents i := by
    intro j incident incident' found same
    rw [attemptsAt_set found]
    split_ifs with here
    · rw [here, Verified.attemptsAt, found, same]
      rfl
    · rfl
  cases step.effect with
  | replayed incidents => rw [incidents]
  | unmatched _ _ incidents => rw [incidents]
  | linked j incident touchedAt _ found _ _ _ incidents =>
    rw [incidents]
    exact rewritten found rfl
  | opened key severity service environment _ _ _ incidents =>
    rw [incidents]
    rcases Nat.lt_trichotomy i s.incidents.length with before | rfl | after
    · rw [Verified.attemptsAt, List.getElem?_append_left before, Verified.attemptsAt]
    · simp [Verified.attemptsAt, newIncident]
    · rw [Verified.attemptsAt, Verified.attemptsAt, List.getElem?_eq_none (by simp; omega),
        List.getElem?_eq_none (by omega)]
  | cancelled _ _ j incident _ _ _ found _ _ incidents =>
    rw [incidents]
    exact rewritten found rfl
  | resolved _ _ _ _ _ _ _ _ _ incidents => rw [incidents]
  | registered _ _ _ incidents => rw [incidents]

theorem RemediationStep.attemptsAt {env : Env} {now : Time} {c : Command} {s s' : Store}
    (step : RemediationStep env now c s s') (i : Uuid) :
    attemptsAt s'.incidents i = attemptsAt s.incidents i := by
  cases step.effect with
  | rejected _ _ _ found _ _ _ incidents => rw [incidents, attemptsAt_movedIf found]
  | requested _ _ _ found _ _ _ _ _ incidents => rw [incidents, attemptsAt_movedIf found]
  | approved _ _ _ _ _ _ _ _ _ _ _ _ _ _ found _ _ _ _ _ _ _ _ _ _ _ _ incidents =>
    rw [incidents, attemptsAt_movedIf found]
  | withdrawn _ _ _ _ _ _ _ found _ _ _ _ _ _ _ incidents =>
    rw [incidents, attemptsAt_movedIf found]
  | blocked _ _ _ _ _ found _ _ _ _ _ _ incidents => rw [incidents, attemptsAt_movedIf found]
  | started _ _ _ _ _ _ _ _ _ _ _ _ _ _ _ _ incidents => rw [incidents]
  | interrupted _ _ _ _ _ _ _ _ _ _ _ _ _ _ _ _ _ _ _ incidents => rw [incidents]
  | executed _ _ _ _ _ _ _ _ _ _ _ _ _ _ _ _ _ found _ _ _ _ _ _ _ _ _ _ _ incidents =>
    rw [incidents, attemptsAt_movedIf found]
  | attemptFailed _ _ _ _ _ _ _ _ _ _ _ _ _ _ _ found _ _ _ _ _ _ _ _ _ _ incidents =>
    rw [incidents, attemptsAt_movedIf found]
  | retriable _ _ _ _ _ _ _ _ _ _ _ _ _ _ _ _ _ _ _ _ _ _ _ _ incidents => rw [incidents]
  | configured _ _ incidents => rw [incidents]

theorem VerdictEffect.attemptsAt {env : Env} {now : Time} {s : Store} {id : Uuid}
    {row : VerificationRow} {status : VerificationStatus} {incidents : List IncidentRow}
    (effect : VerdictEffect env now s id row status incidents) (i : Uuid) :
    attemptsAt incidents i = attemptsAt s.incidents i := by
  have rewritten : ∀ {incident incident' : IncidentRow},
      s.incidents[row.incidentId]? = some incident →
      incident'.attemptCount = incident.attemptCount →
      Verified.attemptsAt (s.incidents.set row.incidentId incident') i =
        Verified.attemptsAt s.incidents i := by
    intro incident incident' found same
    rw [attemptsAt_set found]
    split_ifs with here
    · rw [here, Verified.attemptsAt, found, same]
      rfl
    · rfl
  cases effect with
  | stale _ _ _ _ _ _ same => rw [same]
  | resolved incident _ found _ _ _ moved =>
    rw [moved]
    exact rewritten found rfl
  | escalated incident _ _ found _ _ _ _ attempts moved =>
    rw [moved]
    exact rewritten found attempts
  | reinvestigate incident _ found _ _ _ _ _ moved =>
    rw [moved]
    exact rewritten found rfl

theorem VerificationStep.attemptsAt {env : Env} {now : Time} {tickets : List IssuedTicket}
    {c : Command} {s s' : Store} (step : VerificationStep env now tickets c s s') (i : Uuid) :
    attemptsAt s'.incidents i = attemptsAt s.incidents i := by
  cases step.effect with
  | started _ _ _ _ incidents => rw [incidents]
  | claimed _ _ _ _ _ _ _ _ _ incidents => rw [incidents]
  | closed _ _ _ _ _ _ _ _ _ _ _ effect => exact effect.attemptsAt i
  | observed _ _ _ _ _ _ _ _ _ _ _ _ _ incidents => rw [incidents]
  | decided _ _ _ _ _ _ _ _ _ _ _ _ _ _ _ _ _ _ effect => exact effect.attemptsAt i

theorem InvestigationStep.numbered {env : Env} {now : Time} {c : Command} {s s' : Store}
    (step : InvestigationStep env now c s s') (numbered : InvestigationsNumbered s) :
    InvestigationsNumbered s' := by
  intro i
  cases step.effect with
  | requested j incident row found _ _ _ incidentId attemptNumber _ incidents tables =>
    have attempts : attemptsAt s.incidents j = incident.attemptCount := by
      simp [attemptsAt, found]
    have before := numbered i
    simp only [investigationNumbers, tables, Table.project_insert, incidents,
      attemptsAt_set found] at before ⊢
    rw [before]
    by_cases here : i = j
    · subst here
      simp [isInvestigationOf, incidentId, attempts, attemptNumber, IncidentRow.moved,
        List.range'_1_concat, Nat.add_comm]
    · simp [isInvestigationOf, incidentId, here, Ne.symm here]
  | worked id row row' _ found same _ _ incidents tables =>
    rw [investigationNumbers_put found same (by rw [tables]), incidents]
    exact numbered i
  | updated id row row' _ _ found _ same _ _ incidents tables =>
    rw [investigationNumbers_put found same (by rw [tables]), incidents]
    exact numbered i
  | completed id row row' _ _ _ _ _ _ found incidentFound _ _ _ same _ _ _ _ _ _ _ incidents
      tables =>
    rw [investigationNumbers_put found same (by rw [tables]), incidents,
      attemptsAt_movedIf incidentFound]
    exact numbered i
  | ended id row row' _ _ found incidentFound _ same _ _ incidents tables =>
    rw [investigationNumbers_put found same (by rw [tables]), incidents,
      attemptsAt_movedIf incidentFound]
    exact numbered i

theorem Transaction.investigationsNumbered {env : Env} {now : Time}
    {tickets : List IssuedTicket} {c : Command} {s s' : Store}
    (transaction : Transaction env now tickets c s s') (numbered : InvestigationsNumbered s) :
    InvestigationsNumbered s' := by
  have unnumbered : s'.investigation = s.investigation →
      (∀ i, attemptsAt s'.incidents i = attemptsAt s.incidents i) → InvestigationsNumbered s' := by
    intro same attempts i
    rw [investigationNumbers, same, attempts]
    exact numbered i
  cases transaction with
  | alert step => exact unnumbered step.investigation step.attemptsAt
  | investigation step => exact step.numbered numbered
  | remediation step => exact unnumbered step.investigation step.attemptsAt
  | verification step => exact unnumbered step.investigation step.attemptsAt

/-! ## Attempted remediations -/

/-- The remediations of an incident that have an execution row. -/
def attemptedOf (s : Store) (i : Uuid) : List (Uuid × RemediationRow) :=
  (Table.select (fun r => r.incidentId == i) s.remediation.remediations).filter
    (fun r => s.remediation.executions.any (isAttemptOf r.1))

theorem hasAttempt_iff {s : Store} (numbered : ExecutionsNumbered s) {id : Uuid}
    {row : RemediationRow} (found : s.remediation.remediations[id]? = some row) :
    s.remediation.executions.any (isAttemptOf id) = decide (0 < row.executionAttempts) := by
  have length : s.remediation.executions.countP (isAttemptOf id) = row.executionAttempts := by
    rw [← Table.length_project (isAttemptOf id) (·.attemptNumber)]
    have numbers := congrArg List.length (numbered id)
    rwa [List.length_range', attemptsOf_found found] at numbers
  rw [Bool.eq_iff_iff, List.any_eq_true, decide_eq_true_iff, ← length, List.countP_pos_iff]

/-- A remediation with an attempt was attempted and is not stopped, or was stopped. -/
theorem length_attemptedOf {s : Store} (numbered : ExecutionsNumbered s) (fit : AllAttemptsFit s)
    (i : Uuid) : (attemptedOf s i).length ≤
      (caseOf s i).attempted + (caseOf s i).remediations .killed := by
  have counted : (attemptedOf s i).length = s.remediation.remediations.countP
      (fun r => r.incidentId == i && decide (0 < r.executionAttempts)) := by
    rw [attemptedOf, ← List.countP_eq_length_filter]
    exact Table.countP_select fun id row found => hasAttempt_iff numbered found
  rw [counted]
  have bound : ∀ t : List RemediationRow, (∀ r ∈ t, AttemptsFit r) →
      t.countP (fun r => r.incidentId == i && decide (0 < r.executionAttempts)) ≤
        phasesAt t i .executing + phasesAt t i .spent + phasesAt t i .killed := by
    intro t
    induction t with
    | nil => simp
    | cons r rest ih =>
      intro fitting
      have there := ih fun q member => fitting q (List.mem_cons_of_mem r member)
      have here : (if (r.incidentId == i && decide (0 < r.executionAttempts)) = true
          then 1 else 0) ≤ (if inPhase i .executing r = true then 1 else 0) +
          (if inPhase i .spent r = true then 1 else 0) +
          (if inPhase i .killed r = true then 1 else 0) := by
        obtain ⟨recorded, none, _⟩ := fitting r (by simp)
        by_cases here : r.incidentId = i
        · cases status : r.status <;> simp_all [inPhase, phaseOf]
          all_goals split_ifs <;> omega
        · simp [here]
      simp only [phasesAt, List.countP_cons] at there ⊢
      omega
  exact bound _ fun r member => by
    obtain ⟨k, row⟩ := List.getElem?_of_mem member
    exact fit k r row

/-! ## The bounds -/

/-- The budgets of one store, for an environment's configuration. -/
structure Bounded (env : Env) (s : Store) : Prop where
  investigations : ∀ (i : Uuid) (incident : IncidentRow), s.incidents[i]? = some incident →
    incident.attemptCount ≤ env.maxInvestigationAttempts ∧
      investigationNumbers s i = List.range' 1 incident.attemptCount
  executions : ∀ (id : Uuid) (row : RemediationRow), s.remediation.remediations[id]? = some row →
    attemptNumbers s id = List.range' 1 row.executionAttempts ∧ WithinCatalog row
  remediations : ∀ i : Uuid,
    (attemptedOf s i).length ≤ env.policy.maxAttemptedRemediationsPerIncident

/-- With the default policy and at least one investigation allowed, every budget is
kept in every reachable store. -/
theorem autonomy_is_bounded {env : Env} (policy : env.policy = PolicyEngine.defaultPolicy)
    (allowed : 1 ≤ env.maxInvestigationAttempts) (clock : Time) (events : List Event) :
    Bounded env (runFrom env clock events).store := by
  have coherent := run_workCoherent (by rw [policy]; rfl) clock events
  have recorded : AttemptsRecorded (runFrom env clock events).store :=
    run_invariant (fun transaction => transaction.attemptsRecorded) attemptsRecorded_empty events
  have numbered : InvestigationsNumbered (runFrom env clock events).store :=
    run_invariant (fun transaction => transaction.investigationsNumbered) (fun _ => rfl) events
  refine ⟨fun i incident found => ?_, fun id row found => ?_, fun i => ?_⟩
  · have attempts : attemptsAt (runFrom env clock events).store.incidents i =
        incident.attemptCount := by
      simp [attemptsAt, found]
    have bound := (coherent.cases i).investigations.attempts
    rw [← attempts]
    exact ⟨Nat.le_trans bound (Nat.max_le.mpr ⟨allowed, Nat.le_refl _⟩), numbered i⟩
  · refine ⟨?_, recorded.within id row found⟩
    rw [recorded.numbered id, attemptsOf_found found]
  · exact Nat.le_trans (length_attemptedOf recorded.numbered coherent.fit i)
      (coherent.cases i).remediations.attempted

theorem autonomy_is_bounded_restartStarted :
    Bounded paymentsEnv (runFrom paymentsEnv 0 restartStarted).store :=
  autonomy_is_bounded rfl (by decide) 0 restartStarted

end IncidentTriage.Verified
