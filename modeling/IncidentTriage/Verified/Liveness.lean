import IncidentTriage.Verified.Courses
import IncidentTriage.Verified.IncidentScopes
import IncidentTriage.Verified.Pickup

/-! # Incidents come to rest

Whatever else happens in a fair course, and whatever gets lost, every incident comes to a status in
which nobody owes it anything.
-/

namespace IncidentTriage.Verified

open IncidentTriage.Python IncidentTriage.Domain IncidentTriage.Incident
open IncidentTriage.Lifecycle (workLeft Onward)

/-! ## An incident that stays -/

section
variable {course : Course} {i : Uuid} {n m : ℕ}

/-- From some moment on the incident stays in a status in which it is not at rest. -/
structure Lingers (course : Course) (i : Uuid) (status : IncidentStatus) (n : ℕ) : Prop where
  stays : ∀ m, n ≤ m → statusAt (course.store m).incidents i = some status
  restless : ∀ m, n ≤ m → ¬ Rests (course.store m) i

theorem Lingers.steady {status : IncidentStatus} (lingers : Lingers course i status n)
    (fair : course.Fair) (other : status ≠ .escalated) (later : n ≤ m) :
    SteadyPath course.env (course.clock (m + 1)) (course.world m).tickets (course.command m) i
      status (course.store m) (course.store (m + 1)) :=
  execute_steady course.env _ _ (fair.apart m) (lingers.stays m later)
    (lingers.stays (m + 1) (Nat.le_succ_of_le later)) other

theorem Lingers.status_eq {status : IncidentStatus} (lingers : Lingers course i status n)
    (later : n ≤ m) {row : IncidentRow} (found : (course.store m).incidents[i]? = some row) :
    row.status = status := by
  have stays := lingers.stays m later
  rw [statusAt_found found] at stays
  exact Option.some.inj stays

/-! ### Waiting for an investigation -/

theorem not_lingers_waiting {status : IncidentStatus} (fair : course.Fair)
    (remediable : course.env.policy.remediableIncidentStatuses = [.rcaReady])
    (waiting : status = .triaging ∨ status = .verificationFailed) :
    ¬ Lingers course i status n := by
  intro lingers
  have sound := course.sound remediable
  have firing : ∀ m, n ≤ m → 0 < countFiringAlerts (course.store m) i := by
    intro m later
    rcases waiting with rfl | rfl
    · exact (sound m).triage.cases i (lingers.stays m later)
    · refine Nat.pos_of_ne_zero fun silent => lingers.restless m later ?_
      exact .silent (lingers.stays m later) silent
  obtain ⟨row, found, status_eq⟩ := Option.map_eq_some_iff.mp (lingers.stays n le_rfl)
  -- The incident was opened once, and that moment is ever longer ago.
  have opened : ∀ m, n ≤ m → ∃ row', (course.store m).incidents[i]? = some row' ∧
      row'.createdAt = row.createdAt := by
    refine Machine.forever ⟨row, found, rfl⟩ ?_
    rintro m later ⟨row₁, there, same⟩
    obtain ⟨row₂, after, scope⟩ := execute_scopes course.env (course.clock (m + 1))
      (course.world m).tickets (course.store m) (course.command m) i row₁ there
    exact ⟨row₂, after, scope.createdAt.trans same⟩
  obtain ⟨k, after, past⟩ := fair.past n (row.createdAt + course.debounceSeconds * 1000000)
  have listed : ∀ m, k ≤ m → course.Listed (.incident i) m := by
    intro m later
    obtain ⟨row', there, created⟩ := opened m (after.trans later)
    refine mem_dueForInvestigation_of_waiting there ?_ (firing m (after.trans later))
      (fair.uncut m).incidents
    rw [lingers.status_eq (after.trans later) there]
    refine waiting.imp (fun triaging => ⟨triaging, ?_⟩) id
    rw [created]
    exact le_sub_iff_add_le.mpr (past m later)
  -- Whoever takes it up starts an investigation, and the incident does not stay.
  obtain ⟨m, later, taken⟩ := fair.sweeps (.incident i) k listed
  obtain ⟨provider, model, settings, budget, command⟩ := requestInvestigation_of_takenUp taken
  obtain ⟨row', there, _⟩ := opened m (after.trans later)
  have waits : row'.status = .triaging ∨ row'.status = .verificationFailed := by
    rwa [lingers.status_eq (after.trans later) there]
  obtain ⟨started, s', done, investigating⟩ := requestInvestigation_begins
    (sound m).investigations there waits (firing m (after.trans later)) (course.clock (m + 1))
    provider model settings budget
  have next := course.store_succ m
  rw [command] at next
  simp only [execute, done, committed] at next
  have moved := lingers.stays (m + 1) (Nat.le_succ_of_le (after.trans later))
  rw [next, investigating] at moved
  rcases waiting with rfl | rfl <;> simp at moved

/-! ### Under investigation -/

/-- The investigation that was open when the incident began to stay is open ever after. -/
theorem Lingers.investigation_kept (lingers : Lingers course i .investigating n)
    (fair : course.Fair) {k : Uuid} {row : InvestigationRow}
    (found : course.investigation k n = some row) (open_ : openInvestigation i row = true) :
    ∀ m, n ≤ m → ∃ row', course.investigation k m = some row' ∧
      openInvestigation i row' = true := by
  refine Machine.forever ⟨row, found, open_⟩ fun m later holds => ?_
  exact Machine.preserved_of_path (P := fun s => ∃ row',
      s.investigation.investigations[k]? = some row' ∧ openInvestigation i row' = true)
    (fun {s s'} step ⟨row', there, still⟩ =>
      step.1.openInvestigation_kept step.2.1 step.2.2 there still)
    (lingers.steady fair (by simp) later) holds

theorem not_lingers_investigating (fair : course.Fair)
    (remediable : course.env.policy.remediableIncidentStatuses = [.rcaReady]) :
    ¬ Lingers course i .investigating n := by
  intro lingers
  have one := ((course.sound remediable n).investigations.cases i).investigating.trans
    (if_pos (lingers.stays n le_rfl))
  obtain ⟨k, row, found, open_⟩ := Table.exists_of_countP_pos
    (p := openInvestigation i) (t := (course.store n).investigation.investigations)
    (Nat.lt_of_lt_of_eq Nat.one_pos one.symm)
  have remains := lingers.investigation_kept fair found open_
  rcases Machine.changes_or_settles (course.investigation k) n with changes | settles
  · -- Somebody works on it again and again, and does not end.
    obtain ⟨m, later, ended⟩ := fair.engines k n changes
    obtain ⟨row', there, still⟩ := remains m later
    have closed := ended row' there
    simp [openInvestigation, closed] at still
  · -- Nobody works on it any more: its lease ends, and the sweep lists it until it is claimed.
    obtain ⟨j, after, settled⟩ := settles
    obtain ⟨row', there, still⟩ := remains j after
    have isOpen : row'.status.isOpen = true := by
      simp only [openInvestigation, Bool.and_eq_true] at still
      exact still.2
    obtain ⟨l, beyond, ends⟩ := fair.lease_ends j row'.leaseExpiresAt
    have free : ∀ m, l ≤ m → ∀ now, course.clock m ≤ now →
        leaseLive now row'.leaseExpiresAt = false :=
      fun m later now reached => leaseLive_of_ended (ends m later now reached)
    have same : ∀ m, l ≤ m → course.investigation k m = some row' :=
      fun m later => (settled m (beyond.trans later)).trans there
    obtain ⟨m, later, taken⟩ := fair.sweeps (.investigation k) l fun m later =>
      mem_resumable (same m later) isOpen (free m later _ le_rfl) (fair.uncut m).investigations
    obtain ⟨owner, leaseSeconds, command, lasts⟩ := claim_of_takenUp taken
    obtain ⟨state, s', done, changed⟩ := claim_changes owner (same m later) isOpen
      (free m later _ (course.clock_le_succ m)) lasts
    have next := course.store_succ m
    rw [command] at next
    simp only [execute, done, committed] at next
    have unchanged := same (m + 1) (Nat.le_succ_of_le later)
    rw [Course.investigation, next] at unchanged
    exact changed unchanged

/-! ### Waiting for approval -/

theorem not_lingers_awaiting (fair : course.Fair)
    (remediable : course.env.policy.remediableIncidentStatuses = [.rcaReady]) :
    ¬ Lingers course i .awaitingApproval n := by
  intro lingers
  have one := ((course.sound remediable n).work.cases i).remediations.awaiting.trans
    (if_pos (lingers.stays n le_rfl))
  obtain ⟨k, row, found, awaits⟩ := Table.exists_of_countP_pos
    (p := inPhase i .awaiting) (t := (course.store n).remediation.remediations)
    (Nat.lt_of_lt_of_eq Nat.one_pos one.symm)
  obtain ⟨here, waits⟩ : row.incidentId = i ∧ row.status = .awaitingApproval := by
    simp only [inPhase, Bool.and_eq_true, beq_iff_eq, decide_eq_true_eq] at awaits
    refine ⟨awaits.1, ?_⟩
    cases status : row.status <;> simp_all [phaseOf]
  -- The request stays as it is, and one day it is past the timeout.
  have same : ∀ m, n ≤ m → (course.store m).remediation.remediations[k]? = some row := by
    refine Machine.forever found fun m later holds => ?_
    exact Machine.preserved_of_path (P := fun s => s.remediation.remediations[k]? = some row)
      (fun {s s'} step there => step.1.awaiting_kept step.2.1 step.2.2 there here waits)
      (lingers.steady fair (by simp) later) holds
  obtain ⟨l, beyond, past⟩ := fair.past n (row.updatedAt + course.env.approvalTimeout + 1)
  have overdue : ∀ m, l ≤ m → ∀ now, course.clock m ≤ now →
      isOverdue course.env now row = true := by
    intro m later now reached
    have lapsed := (past m later).trans reached
    simp only [isOverdue, waits, beq_self_eq_true, Bool.true_and, decide_eq_true_eq]
    exact lt_sub_iff_add_lt.mpr (Int.lt_of_add_one_le lapsed)
  obtain ⟨m, later, taken⟩ := fair.sweeps (.approval k) l fun m later =>
    List.mem_map.mpr ⟨(k, row), Table.mem_select.mpr
      ⟨same m (beyond.trans later), overdue m later _ le_rfl⟩, rfl⟩
  have next := course.store_succ m
  rw [expireApprovals_of_takenUp taken] at next
  have still := same (m + 1) (Nat.le_succ_of_le (beyond.trans later))
  rw [next] at still
  exact expireApprovals_settles (course.sound remediable m).remediations
    (same m (beyond.trans later)) (overdue m later _ (course.clock_le_succ m)) still waits

/-! ### Under remediation -/

/-- What is left to do for a remediation at each moment. -/
def Course.effortLeft (course : Course) (k : Uuid) (n : ℕ) : ℕ :=
  ((course.store n).remediation.remediations[k]?).elim 0
    (Verified.effortLeft (course.store n) k)

/-- The remediation is active at every moment, and what happens to it is paid for with what is
left to do for it. -/
theorem Lingers.remediation_active (lingers : Lingers course i .remediationInProgress n)
    (fair : course.Fair) {k : Uuid} {row : RemediationRow} (later : n ≤ m)
    (found : (course.store m).remediation.remediations[k]? = some row)
    (here : row.incidentId = i) (active : isActive row = true) :
    StaysActive (course.store m) (course.store (m + 1)) i k row := by
  refine Machine.preserved_of_path (P := fun s => StaysActive (course.store m) s i k row) ?_
    (lingers.steady fair (by simp) later) ⟨row, found, ⟨active, here⟩, .inr ⟨rfl, le_rfl⟩⟩
  rintro s s' step ⟨row₁, found₁, ⟨active₁, here₁⟩, so_far⟩
  obtain ⟨row₂, found₂, still, paid⟩ := step.1.active_kept step.2.1 step.2.2 found₁ here₁ active₁
  refine ⟨row₂, found₂, still, ?_⟩
  rcases so_far with less | ⟨rfl, no_more⟩
  · rcases paid with further | ⟨rfl, no_more⟩
    · exact .inl (further.trans less)
    · exact .inl (no_more.trans_lt less)
  · rcases paid with less | ⟨rfl, none⟩
    · exact .inl (less.trans_le no_more)
    · exact .inr ⟨rfl, none.trans no_more⟩

theorem not_lingers_remediation (fair : course.Fair)
    (remediable : course.env.policy.remediableIncidentStatuses = [.rcaReady]) :
    ¬ Lingers course i .remediationInProgress n := by
  intro lingers
  have one := ((course.sound remediable n).work.cases i).remediations.inProgress.trans
    (if_pos (lingers.stays n le_rfl))
  replace one : activeRemediations (course.store n) i = 1 := (activeRemediations_eq _ i).trans one
  obtain ⟨k, row, found, open_⟩ := Table.exists_of_countP_pos
    (p := fun r : RemediationRow => r.incidentId == i &&
      (r.status == .approved || r.status == .executing))
    (t := (course.store n).remediation.remediations) (Nat.lt_of_lt_of_eq Nat.one_pos one.symm)
  simp only [Bool.and_eq_true, beq_iff_eq] at open_
  have remains : ∀ m, n ≤ m → ∃ row', (course.store m).remediation.remediations[k]? = some row' ∧
      isActive row' = true ∧ row'.incidentId = i := by
    refine Machine.forever ⟨row, found, open_.2, open_.1⟩ ?_
    rintro m later ⟨row', there, active, here⟩
    obtain ⟨row₂, after, still, _⟩ := lingers.remediation_active fair later there here active
    exact ⟨row₂, after, still⟩
  -- Every change to it costs an attempt or a step of one, and these are bounded.
  obtain ⟨j, after, settled⟩ := Machine.exists_settled
    (fun m => (course.store m).remediation.remediations[k]?) (course.effortLeft k) (n := n)
    fun m later => by
      obtain ⟨row', there, active, here⟩ := remains m later
      obtain ⟨row₂, next, _, paid⟩ := lingers.remediation_active fair later there here active
      simp only [Course.effortLeft, there, next, Option.elim_some, Option.some.injEq]
      exact paid
  -- It does not change any more, so its lease runs out, and taking it up changes it.
  obtain ⟨row', there, active, here⟩ := remains j after
  have same : ∀ m, j ≤ m → (course.store m).remediation.remediations[k]? = some row' :=
    fun m later => (settled m later).trans there
  obtain ⟨l, beyond, ends⟩ := fair.lease_ends j row'.leaseExpiresAt
  have status : row'.status = .approved ∨ row'.status = .executing := by
    simpa [isActive] using active
  obtain ⟨m, later, taken⟩ := fair.sweeps (.execution k) l fun m later =>
    mem_pendingExecutions (same m (beyond.trans later))
      (status.imp_right fun executing => ⟨executing, ends m later _ le_rfl⟩)
  have sound := course.sound remediable m
  have here' := same m (beyond.trans later)
  obtain ⟨owner, leaseSeconds, command, lasts⟩ := claimExecution_of_takenUp taken
  have free : ∀ x e, latestExecution (course.store m) k = some (x, e) →
      leaseLive (course.clock (m + 1)) row'.leaseExpiresAt = false := by
    intro x e last
    rcases status with approved | executing
    · -- An approved remediation has no attempt yet.
      rw [latestExecution_of_approved sound.attempts.numbered (sound.work.fit k row' here') here'
        approved] at last
      cases last
    · exact leaseLive_of_ended (ends m later _ (course.clock_le_succ m))
  obtain ⟨ticket, s', done, changed⟩ := claimExecution_changes course.env owner sound.remediations
    here' status free lasts
  have next := course.store_succ m
  rw [command] at next
  simp only [execute, done, committed] at next
  have unchanged := same (m + 1) (Nat.le_succ_of_le (beyond.trans later))
  rw [next] at unchanged
  exact changed unchanged

/-! ### Under verification -/

/-- The row of a verification at each moment. -/
def Course.verification (course : Course) (k : Uuid) (n : ℕ) : Option VerificationRow :=
  (course.store n).verification.verifications[k]?

/-- The verification that was open when the incident began to stay is open ever after. -/
theorem Lingers.verification_kept (lingers : Lingers course i .verifying n) (fair : course.Fair)
    (remediable : course.env.policy.remediableIncidentStatuses = [.rcaReady]) {k : Uuid}
    {row : VerificationRow} (found : course.verification k n = some row)
    (open_ : openVerification i row = true) :
    ∀ m, n ≤ m → ∃ row', course.verification k m = some row' ∧ openVerification i row' = true := by
  refine Machine.forever ⟨row, found, open_⟩ ?_
  rintro m later ⟨row₁, there, still⟩
  rcases execute_verification course.env (course.clock (m + 1)) (course.world m).tickets
    (course.store m) (fair.apart m) with same | transaction
  · refine ⟨row₁, ?_, still⟩
    rw [Course.verification, course.store_succ, same]
    exact there
  · rcases transaction.openVerification_kept there still with kept | closed
    · exact kept
    · -- With it the incident would have none, and be at rest.
      have one := ((course.sound remediable m).work.cases i).remediations.verifying
      rw [show (caseOf (course.store m) i).status = some .verifying from lingers.stays m later,
        if_pos rfl] at one
      have later' := Nat.le_succ_of_le later
      refine absurd ?_ (lingers.restless (m + 1) later')
      refine .unverified (lingers.stays (m + 1) later') ?_
      have counted : (caseOf (course.store m) i).openVerifications =
        (course.store m).verification.verifications.countP (openVerification i) := rfl
      rw [course.store_succ]
      omega

/-- The verification is open for the incident at every moment from some on. -/
def Course.StaysOpen (course : Course) (i k : Uuid) (n : ℕ) : Prop :=
  ∀ m, n ≤ m → ∃ row, course.verification k m = some row ∧ openVerification i row = true

/-- A claim of an open verification finds what it refers to. -/
theorem Lingers.verification_refers (lingers : Lingers course i .verifying n)
    (remediable : course.env.policy.remediableIncidentStatuses = [.rcaReady]) {k : Uuid}
    {row : VerificationRow} (later : n ≤ m) (found : course.verification k m = some row)
    (open_ : openVerification i row = true) :
    ∃ incident remediation, (course.store m).incidents[row.incidentId]? = some incident ∧
      (course.store m).remediation.remediations[row.remediationId]? = some remediation := by
  obtain ⟨incident, placed, _⟩ := Option.map_eq_some_iff.mp (lingers.stays m later)
  obtain ⟨remediation, refers, _⟩ := (course.sound remediable m).refer k row found
  simp only [openVerification, Bool.and_eq_true, beq_iff_eq] at open_
  exact ⟨incident, remediation, by rwa [open_.1], refers⟩

/-- The sweep lists a verification that did not begin yet, until somebody begins it. -/
theorem Lingers.verification_begins (lingers : Lingers course i .verifying n) (fair : course.Fair)
    (remediable : course.env.policy.remediableIncidentStatuses = [.rcaReady]) {k : Uuid}
    (remains : course.StaysOpen i k n) :
    ∃ j, n ≤ j ∧ ∃ row, course.verification k j = some row ∧ row.status = .running := by
  by_contra never
  have pending : ∀ m, n ≤ m → ∃ row, course.verification k m = some row ∧
      openVerification i row = true ∧ row.status = .pending := by
    intro m later
    obtain ⟨row, there, still⟩ := remains m later
    refine ⟨row, there, still, ?_⟩
    simp only [openVerification, Bool.and_eq_true, Bool.or_eq_true, beq_iff_eq] at still
    exact still.2.resolve_right fun running => never ⟨m, later, row, there, running⟩
  obtain ⟨m, later, taken⟩ := fair.sweeps (.verification k) n fun m later => by
    obtain ⟨row, there, _, waits⟩ := pending m later
    exact mem_due there (.inl waits) (fair.uncut m).verifications
  obtain ⟨owner, leaseSeconds, command⟩ := claimDue_of_takenUp taken
  obtain ⟨row, there, still, waits⟩ := pending m later
  obtain ⟨incident, remediation, placed, refer⟩ :=
    lingers.verification_refers remediable later there still
  obtain ⟨r, done, begun⟩ := claimDue_begins course.env (course.clock (m + 1)) owner leaseSeconds
    there placed refer waits
  have next := course.store_succ m
  rw [command] at next
  simp only [execute, done, committed] at next
  obtain ⟨row₂, there₂, _, waits₂⟩ := pending (m + 1) (Nat.le_succ_of_le later)
  rw [Course.verification, next] at there₂
  exact begun row₂ there₂ waits₂

/-- While a verification runs and stays open its deadline stays, and before the deadline only it
is leased anew. -/
theorem Course.StaysOpen.moves {k : Uuid} (remains : course.StaysOpen i k n) (fair : course.Fair)
    (later : n ≤ m) {row : VerificationRow} (found : course.verification k m = some row)
    (running : row.status = .running) :
    ∃ row', course.verification k (m + 1) = some row' ∧ row'.status = .running ∧
      row'.deadlineAt = row.deadlineAt ∧
      (row'.leaseExpiresAt = row.leaseExpiresAt ∨ row'.leaseExpiresAt = none ∨
        pastDeadline row (course.clock (m + 1)) = false) := by
  rcases execute_verification course.env (course.clock (m + 1)) (course.world m).tickets
    (course.store m) (fair.apart m) with same | transaction
  · refine ⟨row, ?_, running, rfl, .inl rfl⟩
    rw [Course.verification, course.store_succ, same]
    exact found
  · obtain ⟨row', there, move⟩ := transaction.runningMove found running
    refine ⟨row', there, ?_⟩
    cases move with
    | same unchanged =>
      subst unchanged
      exact ⟨running, rfl, .inl rfl⟩
    | polled status deadline lease => exact ⟨status, deadline, .inr (.inl lease)⟩
    | claimed status deadline early => exact ⟨status, deadline, .inr (.inr early)⟩
    | closed decided =>
      obtain ⟨row₂, there₂, still⟩ := remains (m + 1) (Nat.le_succ_of_le later)
      obtain rfl := Option.some.inj (there₂.symm.trans there)
      simp [openVerification, decided.1, decided.2] at still

/-- From some moment on a verification that stays open is late, and nobody holds it. -/
theorem Course.StaysOpen.comes_due {k : Uuid} (remains : course.StaysOpen i k n)
    (fair : course.Fair) {row : VerificationRow} (found : course.verification k n = some row)
    (running : row.status = .running) {deadline : Time} (dated : row.deadlineAt = some deadline) :
    ∃ l, n ≤ l ∧ ∀ m, l ≤ m → ∃ row', course.verification k m = some row' ∧
      row'.status = .running ∧ ∀ now, course.clock m ≤ now → pastDeadline row' now = true ∧
        row'.leaseExpiresAt.all (fun t => decide (t < now)) = true := by
  have runs : ∀ m, n ≤ m → ∃ row₁, course.verification k m = some row₁ ∧
      row₁.status = .running ∧ row₁.deadlineAt = some deadline := by
    refine Machine.forever ⟨row, found, running, dated⟩ ?_
    rintro m later ⟨row₁, there, running₁, dated₁⟩
    obtain ⟨row₂, there₂, running₂, kept, _⟩ := remains.moves fair later there running₁
    exact ⟨row₂, there₂, running₂, kept.trans dated₁⟩
  obtain ⟨l, beyond, past⟩ := fair.past n deadline
  have late : ∀ m, l ≤ m → ∀ now, course.clock m ≤ now → ∀ row₁ : VerificationRow,
      row₁.deadlineAt = some deadline → pastDeadline row₁ now = true := by
    intro m later now reached row₁ dated₁
    simp only [pastDeadline, dated₁]
    exact decide_eq_true ((past m later).trans reached)
  -- Past the deadline no new lease is given out: the last one ends or is returned.
  obtain ⟨first, there_l, running_l, dated_l⟩ := runs l beyond
  have leased : ∀ m, l ≤ m → ∃ row₁, course.verification k m = some row₁ ∧
      row₁.status = .running ∧ row₁.deadlineAt = some deadline ∧
        (row₁.leaseExpiresAt = first.leaseExpiresAt ∨ row₁.leaseExpiresAt = none) := by
    refine Machine.forever ⟨first, there_l, running_l, dated_l, .inl rfl⟩ ?_
    rintro m later ⟨row₁, there₁, running₁, dated₁, lease₁⟩
    obtain ⟨row₂, there₂, running₂, kept, lease₂⟩ :=
      remains.moves fair (beyond.trans later) there₁ running₁
    refine ⟨row₂, there₂, running₂, kept.trans dated₁, ?_⟩
    rcases lease₂ with same | free | early
    · rwa [same]
    · exact .inr free
    · rw [late m later _ (course.clock_le_succ m) row₁ dated₁] at early
      cases early
  obtain ⟨l', further, ends⟩ := fair.lease_ends l first.leaseExpiresAt
  refine ⟨l', beyond.trans further, fun m later => ?_⟩
  obtain ⟨row₁, there₁, running₁, dated₁, lease₁⟩ := leased m (further.trans later)
  refine ⟨row₁, there₁, running₁, fun now reached => ⟨?_, ?_⟩⟩
  · exact late m (further.trans later) now reached row₁ dated₁
  · rcases lease₁ with same | free
    · rw [same]
      exact ends m later now reached
    · rw [free]
      rfl

theorem not_lingers_verifying (fair : course.Fair)
    (remediable : course.env.policy.remediableIncidentStatuses = [.rcaReady]) :
    ¬ Lingers course i .verifying n := by
  intro lingers
  have some_ : 0 < (course.store n).verification.verifications.countP (openVerification i) := by
    refine Nat.pos_of_ne_zero fun none => lingers.restless n le_rfl ?_
    exact .unverified (lingers.stays n le_rfl) none
  obtain ⟨k, row, found, open_⟩ := Table.exists_of_countP_pos some_
  have remains : course.StaysOpen i k n := lingers.verification_kept fair remediable found open_
  obtain ⟨j, after, row₁, there₁, running₁⟩ := lingers.verification_begins fair remediable remains
  obtain ⟨deadline, dated⟩ := Option.isSome_iff_exists.mp
    ((course.sound remediable j).dated k row₁ there₁ running₁)
  have remains_j : course.StaysOpen i k j := fun m later => remains m (after.trans later)
  obtain ⟨l, beyond, late⟩ := remains_j.comes_due fair there₁ running₁ dated
  obtain ⟨m, later, taken⟩ := fair.sweeps (.verification k) l fun m later => by
    obtain ⟨row', there, running, due_⟩ := late m later
    obtain ⟨expired, free⟩ := due_ _ le_rfl
    refine mem_due there (.inr ⟨running, ?_, free⟩) (fair.uncut m).verifications
    simp only [pastDeadline] at expired
    cases dated' : row'.deadlineAt with
    | none => simp [dated'] at expired
    | some t => simpa [dated'] using expired
  obtain ⟨owner, leaseSeconds, command⟩ := claimDue_of_takenUp taken
  have from_n := after.trans (beyond.trans later)
  obtain ⟨row', there, running, due_⟩ := late m later
  obtain ⟨expired, free⟩ := due_ _ (course.clock_le_succ m)
  obtain ⟨row₃, there₃, still⟩ := remains m from_n
  obtain rfl := Option.some.inj (there₃.symm.trans there)
  obtain ⟨incident, remediation, placed, refer⟩ :=
    lingers.verification_refers remediable from_n there still
  obtain ⟨r, done, closed⟩ := claimDue_closes course.env (course.clock (m + 1)) owner leaseSeconds
    there placed refer running (leaseHeld_of_ended free) expired
  have next := course.store_succ m
  rw [command] at next
  simp only [execute, done, committed] at next
  obtain ⟨row₂, there₂, running₂, _⟩ := late (m + 1) (Nat.le_succ_of_le later)
  rw [Course.verification, next] at there₂
  exact (closed row₂ there₂).2 running₂

/-! ## They come to rest -/

/-- No status with work left is one to stay in. -/
theorem not_lingers {status : IncidentStatus} (fair : course.Fair)
    (remediable : course.env.policy.remediableIncidentStatuses = [.rcaReady])
    (working : 0 < workLeft status) : ¬ Lingers course i status n := by
  cases status with
  | triaging => exact not_lingers_waiting fair remediable (.inl rfl)
  | verificationFailed => exact not_lingers_waiting fair remediable (.inr rfl)
  | investigating => exact not_lingers_investigating fair remediable
  | awaitingApproval => exact not_lingers_awaiting fair remediable
  | remediationInProgress => exact not_lingers_remediation fair remediable
  | verifying => exact not_lingers_verifying fair remediable
  | rcaReady | resolved | escalated | suppressed | cancelled | closed => cases working

/-- How far the incident is from rest at each moment. -/
def Course.owed (course : Course) (i : Uuid) (n : ℕ) : ℕ :=
  (statusAt (course.store n).incidents i).elim 0 workLeft

/-- Whatever is lost and whoever dies: every incident that was opened comes to rest. -/
theorem incidents_come_to_rest (course : Course)
    (policy : course.env.policy = PolicyEngine.defaultPolicy) (fair : course.Fair) {i : Uuid}
    {n : ℕ} (opened : i < (course.store n).incidents.length) :
    ∃ m, n ≤ m ∧ Rests (course.store m) i := by
  have remediable : course.env.policy.remediableIncidentStatuses = [.rcaReady] := by
    rw [policy]
    rfl
  by_contra never
  have restless : ∀ m, n ≤ m → ¬ Rests (course.store m) i :=
    fun m later rests => never ⟨m, later, rests⟩
  have working : ∀ m, n ≤ m → ∀ status, statusAt (course.store m).incidents i = some status →
      0 < workLeft status := by
    intro m later status found
    refine Nat.pos_of_ne_zero fun none => restless m later ?_
    exact .settled status found (workLeft_eq_zero.mp none)
  -- It only moves on, so its status settles.
  have moves : ∀ m, n ≤ m → ∀ status, statusAt (course.store m).incidents i = some status →
      ∃ next, statusAt (course.store (m + 1)).incidents i = some next ∧ Onward status next :=
    fun m later status found => execute_onward course.env _ _ (course.sound remediable m).work.fit
      (fair.apart m) found (working m later status found)
  have placed : ∀ m, n ≤ m → ∃ status, statusAt (course.store m).incidents i = some status := by
    refine Machine.forever ?_ ?_
    · exact ⟨_, statusAt_found (List.getElem?_eq_getElem opened)⟩
    · rintro m later ⟨status, found⟩
      obtain ⟨next, found', _⟩ := moves m later status found
      exact ⟨next, found'⟩
  obtain ⟨k, after, settled⟩ := Machine.exists_settled
    (fun m => statusAt (course.store m).incidents i) (course.owed i) (n := n)
    fun m later => by
      obtain ⟨status, found⟩ := placed m later
      obtain ⟨next, found', onward⟩ := moves m later status found
      simp only [Course.owed, found, found', Option.elim_some, Option.some.injEq]
      exact onward.elim (fun same => .inr ⟨same, same ▸ le_rfl⟩) .inl
  obtain ⟨status, found⟩ := placed k after
  exact not_lingers fair remediable (working k after status found)
    { stays := fun m later => (settled m later).trans found
      restless := fun m later => restless m (after.trans later) }

end

/-! ## The incident of the payments service -/

/-- It is resolved, and ever after somebody releases an investigation that does not exist. -/
def paymentsCourse : Course where
  env := paymentsEnv
  debounceSeconds := 30
  begun := 0
  schedule n := (restartPassed[n]?).getD (next (.release 9 "nobody"))

theorem paymentsCourse_schedule {m : ℕ} (later : 19 ≤ m) :
    paymentsCourse.schedule m = next (.release 9 "nobody") := by
  have none : restartPassed[m]? = none := List.getElem?_eq_none later
  simp only [paymentsCourse, none, Option.getD_none]

theorem paymentsCourse_store : ∀ m, 19 ≤ m → paymentsCourse.store m = paymentsCourse.store 19 := by
  have absent : (paymentsCourse.store 19).investigation.investigations[9]? = none := by
    decide +kernel
  refine Machine.forever rfl fun m later same => ?_
  have command : paymentsCourse.command m = .release 9 "nobody" :=
    congrArg Event.command (paymentsCourse_schedule later)
  rw [Course.store_succ, command, same]
  simp only [execute, release, lockInvestigation, absent]
  rfl

/-- Whatever the time, no sweep lists anything any more. -/
theorem nothing_listed (item : WorkItem) (now : Time) :
    ¬ item.listed paymentsEnv 30 now (paymentsCourse.store 19) := by
  have incidents : ∀ row ∈ (paymentsCourse.store 19).incidents, row.status = .resolved := by
    decide +kernel
  have investigations : ∀ row ∈ (paymentsCourse.store 19).investigation.investigations,
      row.status.isOpen = false := by
    decide +kernel
  have remediations : ∀ row ∈ (paymentsCourse.store 19).remediation.remediations,
      row.status = .executed := by
    decide +kernel
  have verifications : ∀ row ∈ (paymentsCourse.store 19).verification.verifications,
      row.status = .passed := by
    decide +kernel
  intro listed
  cases item with
  | incident id =>
    obtain ⟨⟨_, row⟩, member, _⟩ := List.mem_map.mp (List.mem_of_mem_take listed)
    rw [List.mem_insertionSort, List.mem_filter, Table.mem_select] at member
    simp [incidents row (List.mem_of_getElem? member.1.1)] at member
  | investigation id =>
    obtain ⟨⟨_, row⟩, member, _⟩ := List.mem_map.mp (List.mem_of_mem_take listed)
    rw [List.mem_insertionSort, Table.mem_select] at member
    simp [investigations row (List.mem_of_getElem? member.1)] at member
  | approval id =>
    obtain ⟨⟨_, row⟩, member, _⟩ := List.mem_map.mp listed
    rw [Table.mem_select] at member
    simp [isOverdue, remediations row (List.mem_of_getElem? member.1)] at member
  | execution id =>
    obtain ⟨⟨_, row⟩, member, _⟩ := List.mem_map.mp listed
    rw [List.mem_insertionSort, Table.mem_select] at member
    simp [remediations row (List.mem_of_getElem? member.1)] at member
  | verification id =>
    obtain ⟨⟨_, row⟩, member, _⟩ := List.mem_map.mp (List.mem_of_mem_take listed)
    rw [List.mem_insertionSort, Table.mem_select] at member
    simp [verifications row (List.mem_of_getElem? member.1)] at member

theorem paymentsCourse_fair : paymentsCourse.Fair where
  apart n := by
    rcases Nat.lt_or_ge n 19 with early | later
    · revert n
      decide
    · rw [Course.command, paymentsCourse_schedule later]
      rfl
  passes t := by
    have reaches : ∀ n : ℕ, (n : ℤ) ≤ paymentsCourse.clock (19 + n) := by
      intro n
      induction n with
      | zero => decide +kernel
      | succ n ih =>
        have tick : paymentsCourse.clock (19 + (n + 1)) =
            paymentsCourse.clock (19 + n) + (1000000 : ℤ) := by
          rw [← Nat.add_assoc, Course.clock_succ, paymentsCourse_schedule (by omega)]
          rfl
        rw [tick]
        push_cast
        exact Int.add_le_add ih (by decide)
    exact ⟨19 + t.toNat, t.self_le_toNat.trans (reaches t.toNat)⟩
  uncut n := by
    have few : ∀ n < 20, (paymentsCourse.store n).incidents.length ≤ 10 ∧
        (paymentsCourse.store n).investigation.investigations.length ≤ 10 ∧
        (paymentsCourse.store n).verification.verifications.length ≤ 50 := by decide +kernel
    have few_n : (paymentsCourse.store n).incidents.length ≤ 10 ∧
        (paymentsCourse.store n).investigation.investigations.length ≤ 10 ∧
        (paymentsCourse.store n).verification.verifications.length ≤ 50 := by
      rcases Nat.lt_or_ge n 20 with early | later
      · exact few n early
      · rw [paymentsCourse_store n (by omega)]
        exact few 19 (by decide)
    exact .of_few few_n.1 few_n.2.1 few_n.2.2
  sweeps item n listed := by
    have quiet := listed (n + 19) (by omega)
    rw [Course.Listed, paymentsCourse_store _ (by omega)] at quiet
    exact absurd quiet (nothing_listed item _)
  engines k n again := by
    obtain ⟨m, later, changes⟩ := again (n + 19) (by omega)
    refine absurd ?_ changes
    rw [Course.investigation, Course.investigation, paymentsCourse_store m (by omega),
      paymentsCourse_store (m + 1) (by omega)]

theorem incidents_come_to_rest_payments : ∃ m, 1 ≤ m ∧ Rests (paymentsCourse.store m) 0 :=
  incidents_come_to_rest paymentsCourse rfl paymentsCourse_fair (by decide +kernel)

end IncidentTriage.Verified
