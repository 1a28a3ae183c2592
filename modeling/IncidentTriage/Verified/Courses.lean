import IncidentTriage.Incident.Sweeps
import IncidentTriage.Library.Settling
import IncidentTriage.Lifecycle.Onward
import IncidentTriage.Verified.Attempts
import IncidentTriage.Verified.Conditions
import IncidentTriage.Verified.OpenItems
import IncidentTriage.Verified.Resolution
import IncidentTriage.Verified.Revision
import IncidentTriage.Verified.SteadyPaths
import IncidentTriage.Verified.WorkItems

/-! # Endless runs

A course is an endless run from the empty store.  It is fair if time passes in it, the workers take
up what their sweeps keep listing, and an engine that goes on working ends at last.
-/

namespace IncidentTriage.Verified

open IncidentTriage.Python IncidentTriage.Domain IncidentTriage.Incident
open IncidentTriage.Lifecycle (workLeft)

/-! ## What a schedule has to do -/

/-- What somebody has to take up. -/
inductive WorkItem where
  | incident (id : Uuid)
  | investigation (id : Uuid)
  | approval (id : Uuid)
  | execution (id : Uuid)
  | verification (id : Uuid)

/-- The item is in the list of the sweep for its kind. -/
def WorkItem.listed (env : Env) (debounceSeconds : Int) (now : Time) (s : Store) :
    WorkItem → Prop
  | .incident id => id ∈ dueForInvestigation now s debounceSeconds 10
  | .investigation id => id ∈ resumable now s 10
  | .approval id => id ∈ overdueIds env now s
  | .execution id => id ∈ pendingExecutions now s
  | .verification id => id ∈ due now s 50

/-- What a worker that was given the item does first. -/
def WorkItem.takenUpBy : WorkItem → Command → Bool
  | .incident id, .requestInvestigation i _ _ _ _ => i == id
  | .investigation id, .claim k _ leaseSeconds => k == id && decide (0 < leaseSeconds)
  | .approval _, .expireApprovals => true
  | .execution id, .claimExecution k _ leaseSeconds => k == id && decide (0 < leaseSeconds)
  | .verification id, .claimDue k _ _ => k == id
  | _, _ => false

section
variable {id : Uuid} {c : Command}

theorem requestInvestigation_of_takenUp (taken : (WorkItem.incident id).takenUpBy c = true) :
    ∃ provider model settings budget,
      c = .requestInvestigation id provider model settings budget := by
  cases c with
  | requestInvestigation i provider model settings budget =>
    obtain rfl : i = id := by simpa [WorkItem.takenUpBy] using taken
    exact ⟨provider, model, settings, budget, rfl⟩
  | _ => cases taken

theorem claim_of_takenUp (taken : (WorkItem.investigation id).takenUpBy c = true) :
    ∃ owner leaseSeconds, c = .claim id owner leaseSeconds ∧ 0 < leaseSeconds := by
  cases c with
  | claim k owner leaseSeconds =>
    obtain ⟨rfl, lasts⟩ : k = id ∧ 0 < leaseSeconds := by
      simpa [WorkItem.takenUpBy] using taken
    exact ⟨owner, leaseSeconds, rfl, lasts⟩
  | _ => cases taken

theorem expireApprovals_of_takenUp (taken : (WorkItem.approval id).takenUpBy c = true) :
    c = .expireApprovals := by
  cases c with
  | expireApprovals => rfl
  | _ => cases taken

theorem claimExecution_of_takenUp (taken : (WorkItem.execution id).takenUpBy c = true) :
    ∃ owner leaseSeconds, c = .claimExecution id owner leaseSeconds ∧ 0 < leaseSeconds := by
  cases c with
  | claimExecution k owner leaseSeconds =>
    obtain ⟨rfl, lasts⟩ : k = id ∧ 0 < leaseSeconds := by
      simpa [WorkItem.takenUpBy] using taken
    exact ⟨owner, leaseSeconds, rfl, lasts⟩
  | _ => cases taken

theorem claimDue_of_takenUp (taken : (WorkItem.verification id).takenUpBy c = true) :
    ∃ owner leaseSeconds, c = .claimDue id owner leaseSeconds := by
  cases c with
  | claimDue k owner leaseSeconds =>
    obtain rfl : k = id := by simpa [WorkItem.takenUpBy] using taken
    exact ⟨owner, leaseSeconds, rfl⟩
  | _ => cases taken

end

/-- No list of a sweep is cut at its limit: with a limit of one more it would not be longer. -/
structure Uncut (debounceSeconds : Int) (now : Time) (s : Store) : Prop where
  incidents : (dueForInvestigation now s debounceSeconds 11).length ≤ 10
  investigations : (resumable now s 11).length ≤ 10
  verifications : (due now s 51).length ≤ 50

theorem Uncut.of_few {debounceSeconds : Int} {now : Time} {s : Store}
    (incidents : s.incidents.length ≤ 10)
    (investigations : s.investigation.investigations.length ≤ 10)
    (verifications : s.verification.verifications.length ≤ 50) : Uncut debounceSeconds now s := by
  have selected : ∀ {ρ : Type} (p : ρ → Bool) (t : List ρ), (Table.select p t).length ≤ t.length :=
    fun p t => (Table.length_select p t).trans_le List.countP_le_length
  constructor
  · refine (List.length_take_le' _ _).trans ?_
    rw [List.length_map, List.length_insertionSort]
    exact (List.length_filter_le _ _).trans ((selected _ _).trans incidents)
  · refine (List.length_take_le' _ _).trans ?_
    rw [List.length_map, List.length_insertionSort]
    exact (selected _ _).trans investigations
  · refine (List.length_take_le' _ _).trans ?_
    rw [List.length_map, List.length_insertionSort]
    exact (selected _ _).trans verifications

/-- An endless run of the system, from the empty store. -/
structure Course where
  env : Env
  debounceSeconds : Int
  begun : Time
  schedule : ℕ → Event

def Course.world (course : Course) (n : ℕ) : World :=
  Machine.after (step course.env) (emptyWorld course.begun) course.schedule n

def Course.store (course : Course) (n : ℕ) : Store := (course.world n).store

def Course.clock (course : Course) (n : ℕ) : Time := (course.world n).clock

def Course.command (course : Course) (n : ℕ) : Command := (course.schedule n).command

/-- The row of an investigation at each moment. -/
def Course.investigation (course : Course) (k : Uuid) (n : ℕ) : Option InvestigationRow :=
  (course.store n).investigation.investigations[k]?

def Course.Listed (course : Course) (item : WorkItem) (n : ℕ) : Prop :=
  item.listed course.env course.debounceSeconds (course.clock n) (course.store n)

structure Course.Fair (course : Course) : Prop where
  /-- A revision stands in the schedule as the two commands it consists of. -/
  apart : ∀ n, revises (course.command n) = false
  /-- Time passes. -/
  passes : ∀ t, ∃ n, t ≤ course.clock n
  uncut : ∀ n, Uncut course.debounceSeconds (course.clock n) (course.store n)
  /-- What the sweeps list from some moment on is taken up. -/
  sweeps : ∀ (item : WorkItem) (n : ℕ), (∀ m, n ≤ m → course.Listed item m) →
    ∃ m, n ≤ m ∧ item.takenUpBy (course.command m) = true
  /-- An investigation that is worked on again and again ends. -/
  engines : ∀ (k : Uuid) (n : ℕ),
    (∀ j, n ≤ j → ∃ m, j ≤ m ∧ course.investigation k (m + 1) ≠ course.investigation k m) →
      ∃ m, n ≤ m ∧ ∀ row, course.investigation k m = some row → row.status.isOpen = false

/-! ## At rest -/

def restStatuses : List IncidentStatus :=
  [.rcaReady, .resolved, .escalated, .suppressed, .cancelled, .closed]

/-- Nobody owes the incident anything: it is settled or waits for a new proposal, its failed fix
has no alert firing any more, or the verdict on its fix was not applied. -/
inductive Rests (s : Store) (i : Uuid) : Prop
  | settled (status : IncidentStatus) (here : statusAt s.incidents i = some status)
      (rests : status ∈ restStatuses)
  | silent (failed : statusAt s.incidents i = some .verificationFailed)
      (none : countFiringAlerts s i = 0)
  | unverified (verifying : statusAt s.incidents i = some .verifying)
      (none : s.verification.verifications.countP (openVerification i) = 0)

theorem workLeft_eq_zero {status : IncidentStatus} :
    workLeft status = 0 ↔ status ∈ restStatuses := by
  cases status <;> decide

/-! ## The worlds of a schedule -/

/-- What holds of every reachable store. -/
structure LivenessSound (env : Env) (s : Store) : Prop where
  investigations : InvestigationsSound env s
  work : WorkCoherent env s
  triage : TriageSound s
  remediations : RemediationsSound s
  attempts : AttemptsRecorded s
  refer : VerificationsRefer s
  dated : VerificationsDated s

section
variable {course : Course} {i : Uuid} {n m : ℕ}

theorem Course.world_eq_runFrom (course : Course) (n : ℕ) :
    course.world n = runFrom course.env course.begun ((List.range n).map course.schedule) :=
  Machine.after_eq_run n

theorem Course.sound (course : Course)
    (remediable : course.env.policy.remediableIncidentStatuses = [.rcaReady]) (n : ℕ) :
    LivenessSound course.env (course.store n) := by
  rw [store, world_eq_runFrom]
  have untriaged : TriageSound (emptyWorld course.begun).store :=
    ⟨Table.Every.nil, fun i triaging => nomatch triaging⟩
  exact {
    investigations := run_investigationsSound course.env course.begun _
    work := run_workCoherent remediable course.begun _
    triage := run_invariant (fun transaction => transaction.triageSound) untriaged _
    remediations := RemediationsSound.run (w := emptyWorld course.begun) .initial _
    attempts := run_invariant (fun transaction => transaction.attemptsRecorded)
      attemptsRecorded_empty _
    refer := run_verificationsRefer course.env course.begun _
    dated := run_verificationsDated course.env course.begun _ }

theorem Course.clock_succ (course : Course) (m : ℕ) :
    course.clock (m + 1) = course.clock m + ((course.schedule m).elapsed : ℤ) := rfl

theorem Course.clock_mono (course : Course) {n m : ℕ} (later : n ≤ m) :
    course.clock n ≤ course.clock m :=
  monotone_nat_of_le_succ (fun _ => le_add_of_nonneg_right (Int.natCast_nonneg _)) later

theorem Course.clock_le_succ (course : Course) (m : ℕ) : course.clock m ≤ course.clock (m + 1) :=
  course.clock_mono (Nat.le_succ m)

theorem Course.store_succ (course : Course) (m : ℕ) : course.store (m + 1) =
    execute course.env (course.clock (m + 1)) (course.world m).tickets (course.store m)
      (course.command m) := rfl

/-- Time comes to pass every moment. -/
theorem Course.Fair.past (fair : course.Fair) (n : ℕ) (t : Time) :
    ∃ k, n ≤ k ∧ ∀ m, k ≤ m → t ≤ course.clock m :=
  Machine.eventually_past (fun _ _ later => course.clock_mono later) fair.passes n t

/-- Every lease ends. -/
theorem Course.Fair.lease_ends (fair : course.Fair) (n : ℕ) (lease : Option Time) :
    ∃ k, n ≤ k ∧ ∀ m, k ≤ m → ∀ now, course.clock m ≤ now →
      lease.all (fun t => decide (t < now)) = true := by
  obtain ⟨k, after, past⟩ := fair.past n (lease.getD 0 + 1)
  refine ⟨k, after, fun m later now reached => ?_⟩
  have lapsed := (past m later).trans reached
  cases lease with
  | none => rfl
  | some expires => exact decide_eq_true (Int.lt_of_add_one_le lapsed)

end

end IncidentTriage.Verified
