import IncidentTriage.Verified.Lifecycle

/-! # Incident status and work items

The status of every incident says which work items it has open, in every reachable
store: an open investigation, a remediation that waits for approval, one that is
approved or executing, and never two remediations at once.
-/

namespace IncidentTriage.Verified

open IncidentTriage.Python IncidentTriage.Domain IncidentTriage.Incident
open IncidentTriage.Lifecycle (Case Phase Coherent)

/-! ## Counting work items -/

def openInvestigations (s : Store) (i : Uuid) : Nat :=
  s.investigation.investigations.countP (fun v => v.incidentId == i &&
    (v.status == .created || v.status == .investigating))

def awaitingRemediations (s : Store) (i : Uuid) : Nat :=
  s.remediation.remediations.countP (fun r => r.incidentId == i && r.status == .awaitingApproval)

def activeRemediations (s : Store) (i : Uuid) : Nat :=
  s.remediation.remediations.countP (fun r => r.incidentId == i &&
    (r.status == .approved || r.status == .executing))

/-- Remediations of the incident that are not in a terminal status. -/
def unfinishedRemediations (s : Store) (i : Uuid) : Nat :=
  s.remediation.remediations.countP (fun r => r.incidentId == i &&
    !terminalRemediationStatuses.contains r.status)

theorem openInvestigations_eq (s : Store) (i : Uuid) :
    openInvestigations s i = (caseOf s i).openInvestigations := by
  refine List.countP_congr fun v _ => ?_
  cases status : v.status <;> simp [openInvestigation, status, InvestigationStatus.isOpen]

theorem awaitingRemediations_eq (s : Store) (i : Uuid) :
    awaitingRemediations s i = (caseOf s i).remediations .awaiting := by
  refine List.countP_congr fun r _ => ?_
  cases status : r.status <;> simp [inPhase, phaseOf, status]

/-- A count over a table is the sum of the counts of two kinds that exclude each other. -/
theorem countP_split {ρ : Type*} {t : List ρ} {p q r : ρ → Bool}
    (split : ∀ x ∈ t, (if p x then 1 else 0) = (if q x then 1 else 0) + (if r x then 1 else 0)) :
    t.countP p = t.countP q + t.countP r := by
  induction t with
  | nil => rfl
  | cons x rest ih =>
    have here := split x (by simp)
    have there := ih fun y member => split y (List.mem_cons_of_mem x member)
    simp only [List.countP_cons]
    omega

theorem activeRemediations_eq (s : Store) (i : Uuid) :
    activeRemediations s i =
      (caseOf s i).remediations .approved + (caseOf s i).remediations .executing := by
  refine countP_split fun r _ => ?_
  by_cases here : r.incidentId = i
  · cases status : r.status <;> simp [inPhase, phaseOf, status, here]
  · simp [inPhase, here]

theorem unfinishedRemediations_eq {s : Store} (fit : AllAttemptsFit s) (i : Uuid) :
    unfinishedRemediations s i = awaitingRemediations s i + activeRemediations s i := by
  refine countP_split fun r member => ?_
  obtain ⟨k, row⟩ := List.getElem?_of_mem member
  have recorded := (fit k r row).recorded
  by_cases here : r.incidentId = i
  · cases status : r.status <;>
      simp_all [terminalRemediationStatuses]
  · simp [here]

/-! ## The agreement -/

/-- Status and work items of one incident agree. -/
structure WorkItemsAgree (s : Store) (i : Uuid) (incident : IncidentRow) : Prop where
  investigating : incident.status = .investigating ↔ openInvestigations s i = 1
  awaitingApproval : incident.status = .awaitingApproval ↔ awaitingRemediations s i = 1
  remediationInProgress : incident.status = .remediationInProgress ↔ activeRemediations s i = 1
  unfinished : unfinishedRemediations s i ≤ 1

theorem WorkCoherent.workItemsAgree {env : Env} {s : Store} (coherent : WorkCoherent env s)
    {i : Uuid} {incident : IncidentRow} (found : s.incidents[i]? = some incident) :
    WorkItemsAgree s i incident := by
  have case := coherent.cases i
  have status : (caseOf s i).status = some incident.status := statusAt_found found
  have investigating := case.investigations.investigating
  have awaiting := case.remediations.awaiting
  have inProgress := case.remediations.inProgress
  rw [status, ← openInvestigations_eq] at investigating
  rw [status, ← awaitingRemediations_eq] at awaiting
  rw [status, ← activeRemediations_eq] at inProgress
  simp only [Option.some.injEq] at investigating awaiting inProgress
  refine ⟨?_, ?_, ?_, ?_⟩
  · rw [investigating]
    split_ifs <;> simp_all
  · rw [awaiting]
    split_ifs <;> simp_all
  · rw [inProgress]
    split_ifs <;> simp_all
  · rw [unfinishedRemediations_eq coherent.fit, awaiting, inProgress]
    split_ifs <;> simp_all

/-- With the default policy, in every reachable store, the status of every incident and
its work items agree. -/
theorem work_items_agree {env : Env} (policy : env.policy = PolicyEngine.defaultPolicy)
    (clock : Time) (events : List Event) {i : Uuid} {incident : IncidentRow}
    (found : (runFrom env clock events).store.incidents[i]? = some incident) :
    WorkItemsAgree (runFrom env clock events).store i incident :=
  (run_workCoherent (by rw [policy]; rfl) clock events).workItemsAgree found

theorem work_items_agree_restartStarted :
    ∃ incident, (runFrom paymentsEnv 0 restartStarted).store.incidents[0]? = some incident ∧
      WorkItemsAgree (runFrom paymentsEnv 0 restartStarted).store 0 incident := by
  have present : ((runFrom paymentsEnv 0 restartStarted).store.incidents[0]?).isSome = true := by
    decide +kernel
  obtain ⟨incident, found⟩ := Option.isSome_iff_exists.mp present
  exact ⟨incident, found, work_items_agree rfl 0 restartStarted found⟩

end IncidentTriage.Verified
