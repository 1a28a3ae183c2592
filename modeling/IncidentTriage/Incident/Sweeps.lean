import IncidentTriage.Incident.Investigations
import IncidentTriage.Incident.Remediations
import IncidentTriage.Incident.Verifications

/-! # The sweeps of the workers

A worker hears from an event that there is something to do.  Events may be lost and workers may
die, so every worker also lists again and again what waits for somebody, and takes it up.  What
waits longest comes first; some lists are cut at a limit.
-/

namespace IncidentTriage.Incident

open IncidentTriage.Python IncidentTriage.Domain

/-! ## Investigations -/

/-- Open investigations nobody holds a live lease on, oldest first. -/
def resumable (now : Time) (s : Store) (limit : Nat) : List Uuid :=
  let listed := Table.select (fun v => v.status.isOpen && !leaseLive now v.leaseExpiresAt)
    s.investigation.investigations
  ((listed.insertionSort (fun a b => decide (a.2.createdAt ≤ b.2.createdAt))).map (·.1)).take
    limit

/-! ## Executions -/

/-- `APPROVED`, or `EXECUTING` with a lease that ran out: what a runner should pick up. -/
def pendingExecutions (now : Time) (s : Store) : List Uuid :=
  let listed := Table.select (fun r => r.status == .approved ||
      (r.status == .executing && r.leaseExpiresAt.all (fun expires => decide (expires < now))))
    s.remediation.remediations
  (listed.insertionSort (fun a b => decide (a.2.updatedAt ≤ b.2.updatedAt))).map (·.1)

/-! ## Verifications -/

/-- `nulls_first`. -/
def nullsFirst : Option Time → Option Time → Bool
  | none, _ => true
  | some _, none => false
  | some a, some b => decide (a ≤ b)

/-- `PENDING`, or `RUNNING` with a poll or the deadline due and no live lease. -/
def due (now : Time) (s : Store) (limit : Nat) : List Uuid :=
  let listed := Table.select (fun v => v.status == .pending ||
      (v.status == .running &&
        (v.nextPollAt.any (fun next => decide (next ≤ now)) ||
          v.deadlineAt.any (fun deadline => decide (deadline ≤ now))) &&
        v.leaseExpiresAt.all (fun expires => decide (expires < now))))
    s.verification.verifications
  ((listed.insertionSort (fun a b => nullsFirst a.2.nextPollAt b.2.nextPollAt)).map (·.1)).take
    limit

/-! ## What a sweep lists

A list that would not be longer with a limit of one more is not cut.
-/

theorem mem_take_of_uncut {α : Type*} {l : List α} {limit : Nat} {a : α}
    (uncut : (l.take (limit + 1)).length ≤ limit) (member : a ∈ l) : a ∈ l.take limit := by
  rw [List.length_take] at uncut
  rwa [List.take_of_length_le (by omega)]

section
variable {now : Time} {s : Store} {id : Uuid}

theorem mem_dueForInvestigation_of_waiting {row : IncidentRow} {debounceSeconds : Int}
    {limit : Nat} (found : s.incidents[id]? = some row)
    (waiting : row.status = .triaging ∧ row.createdAt ≤ now - debounceSeconds * 1000000 ∨
      row.status = .verificationFailed)
    (firing : 0 < countFiringAlerts s id)
    (uncut : (dueForInvestigation now s debounceSeconds (limit + 1)).length ≤ limit) :
    id ∈ dueForInvestigation now s debounceSeconds limit := by
  refine mem_take_of_uncut uncut ?_
  refine List.mem_map.mpr ⟨(id, row), ?_, rfl⟩
  rw [List.mem_insertionSort, List.mem_filter, Table.mem_select]
  refine ⟨⟨found, ?_⟩, List.any_eq_true.mpr (List.countP_pos_iff.mp firing)⟩
  rcases waiting with ⟨triaging, settled⟩ | failed
  · simp [triaging, settled]
  · simp [failed]

theorem mem_resumable {row : InvestigationRow} {limit : Nat}
    (found : s.investigation.investigations[id]? = some row) (isOpen : row.status.isOpen = true)
    (free : leaseLive now row.leaseExpiresAt = false)
    (uncut : (resumable now s (limit + 1)).length ≤ limit) : id ∈ resumable now s limit := by
  refine mem_take_of_uncut uncut ?_
  refine List.mem_map.mpr ⟨(id, row), ?_, rfl⟩
  rw [List.mem_insertionSort, Table.mem_select]
  exact ⟨found, by simp [isOpen, free]⟩

theorem mem_pendingExecutions {row : RemediationRow}
    (found : s.remediation.remediations[id]? = some row)
    (pending : row.status = .approved ∨
      row.status = .executing ∧ row.leaseExpiresAt.all (fun t => decide (t < now)) = true) :
    id ∈ pendingExecutions now s := by
  refine List.mem_map.mpr ⟨(id, row), ?_, rfl⟩
  rw [List.mem_insertionSort, Table.mem_select]
  refine ⟨found, ?_⟩
  rcases pending with approved | ⟨executing, free⟩
  · simp [approved]
  · simp only [executing, free]
    rfl

theorem leaseLive_of_ended {lease : Option Time}
    (ended : lease.all (fun t => decide (t < now)) = true) : leaseLive now lease = false := by
  cases lease with
  | none => rfl
  | some expires => exact decide_eq_false (not_lt.mpr (of_decide_eq_true ended).le)

theorem leaseHeld_of_ended {row : VerificationRow}
    (ended : row.leaseExpiresAt.all (fun t => decide (t < now)) = true) :
    leaseHeld row now = false := by
  have lapsed := leaseLive_of_ended ended
  simp only [leaseHeld]
  cases row.leaseOwner with
  | none => rfl
  | some owner => cases lease : row.leaseExpiresAt <;> simp_all [leaseLive]

theorem mem_due {row : VerificationRow} {limit : Nat}
    (found : s.verification.verifications[id]? = some row)
    (waiting : row.status = .pending ∨ row.status = .running ∧
      row.deadlineAt.any (fun t => decide (t ≤ now)) = true ∧
      row.leaseExpiresAt.all (fun t => decide (t < now)) = true)
    (uncut : (due now s (limit + 1)).length ≤ limit) : id ∈ due now s limit := by
  refine mem_take_of_uncut uncut ?_
  refine List.mem_map.mpr ⟨(id, row), ?_, rfl⟩
  rw [List.mem_insertionSort, Table.mem_select]
  refine ⟨found, ?_⟩
  rcases waiting with pending | ⟨running, late, free⟩
  · simp [pending]
  · simp only [running, late, free]
    simp

end

end IncidentTriage.Incident
