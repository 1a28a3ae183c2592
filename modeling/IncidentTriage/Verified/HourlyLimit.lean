import IncidentTriage.Verified.Transactions

/-! # The hourly limit

The limit on executions of one service is checked when a proposal is evaluated.  What is
let through may be executed later, so the attempts of an hour can exceed it; but at the
moment a remediation was let through, the hour before it held fewer attempts than that.
-/

namespace IncidentTriage.Verified

open IncidentTriage.Python IncidentTriage.Domain IncidentTriage.Incident

/-! ## Attempts in a window -/

/-- An hour, in microseconds. -/
def hour : Time := 3600 * 1000000

def onTarget (s : Store) (target : String) (e : RemediationExecutionRow) : Bool :=
  (s.remediation.remediations[e.remediationId]?).any (fun row => row.targetService == target)

/-- How many attempts on the service started from `from_` on and before `until_`. -/
def startedBetween (s : Store) (target : String) (from_ until_ : Time) : Nat :=
  s.remediation.executions.countP (fun e =>
    onTarget s target e && decide (from_ ≤ e.startedAt) && decide (e.startedAt < until_))

/-- How many attempts on the service started in the hour from `from_` on. -/
def startedInHour (s : Store) (target : String) (from_ : Time) : Nat :=
  s.remediation.executions.countP (fun e =>
    onTarget s target e && decide (from_ ≤ e.startedAt) && decide (e.startedAt ≤ from_ + hour))

/-- No hour holds more attempts on one service than the policy's limit. -/
def HourlyLimit (env : Env) (s : Store) : Prop :=
  ∀ target from_, startedInHour s target from_ ≤ env.policy.maxExecutionsPerServicePerHour

/-- Whatever hour an attempt started in: when its remediation was let through, fewer attempts on
the service had started in that hour than the limit. -/
def HourlyGate (env : Env) (s : Store) : Prop :=
  ∀ (x : Uuid) (e : RemediationExecutionRow), s.remediation.executions[x]? = some e →
    ∃ row, s.remediation.remediations[e.remediationId]? = some row ∧
      row.status ≠ .policyRejected ∧ row.createdAt ≤ e.startedAt ∧
      ∀ from_, from_ ≤ e.startedAt → e.startedAt ≤ from_ + hour →
        startedBetween s row.targetService from_ row.createdAt <
          env.policy.maxExecutionsPerServicePerHour

/-- The gate as it stands at a moment: no remediation is from the future. -/
structure Gated (env : Env) (now : Time) (s : Store) : Prop where
  created : ∀ (id : Uuid) (row : RemediationRow), s.remediation.remediations[id]? = some row →
    row.createdAt ≤ now
  attempted : ∀ (x : Uuid) (e : RemediationExecutionRow),
    s.remediation.executions[x]? = some e →
      ∃ row, s.remediation.remediations[e.remediationId]? = some row ∧
        row.status ≠ .policyRejected ∧ row.createdAt ≤ e.startedAt
  admitted : ∀ (id : Uuid) (row : RemediationRow), s.remediation.remediations[id]? = some row →
    row.status ≠ .policyRejected → ∀ from_, row.createdAt ≤ from_ + hour →
      startedBetween s row.targetService from_ row.createdAt <
        env.policy.maxExecutionsPerServicePerHour

section
variable {env : Env} {now : Time} {tickets : List IssuedTicket} {c : Command} {s s' : Store}

theorem Gated.hourlyGate (gated : Gated env now s) : HourlyGate env s := by
  intro x e found
  obtain ⟨row, placed, admitted, created⟩ := gated.attempted x e found
  refine ⟨row, placed, admitted, created, fun from_ _ within => ?_⟩
  exact gated.admitted _ row placed admitted from_ (created.trans within)

theorem Gated.later {clock : Time} (gated : Gated env clock s) (later : clock ≤ now) :
    Gated env now s :=
  ⟨fun id row found => (gated.created id row found).trans later, gated.attempted, gated.admitted⟩

theorem Gated.of_same (gated : Gated env now s) (same : s'.remediation = s.remediation) :
    Gated env now s' := by
  obtain ⟨created, attempted, admitted⟩ := gated
  constructor
  · rw [same]
    exact created
  · rw [same]
    exact attempted
  · simp only [startedBetween, onTarget, same]
    exact admitted

/-! ## One transaction -/

/-- A remediation stays the proposal it was, let through or rejected. -/
structure SameAdmission (row row' : RemediationRow) : Prop where
  proposal : SameProposal row row'
  rejected : row'.status = .policyRejected ↔ row.status = .policyRejected

theorem SameAdmission.refl (row : RemediationRow) : SameAdmission row row := ⟨.refl row, .rfl⟩

/-- What a transaction does to the attempts: at most the state of one changes, or one starts. -/
inductive AttemptsMove (now : Time) (s s' : Store) : Prop
  | kept (executions : ExecutionsKept s s')
  | started (e : RemediationExecutionRow) (row : RemediationRow)
      (placed : s.remediation.remediations[e.remediationId]? = some row)
      (admitted : row.status ≠ .policyRejected) (startedAt : e.startedAt = now)
      (executions : s'.remediation.executions = s.remediation.executions ++ [e])

/-- Where the remediations keep their targets, the attempts stay on their services. -/
theorem countP_onTarget (gated : Gated env now s)
    (kept : Table.Evolves SameAdmission s.remediation.remediations s'.remediation.remediations)
    (target : String) (q r : RemediationExecutionRow → Bool) :
    s.remediation.executions.countP (fun e => onTarget s' target e && q e && r e) =
      s.remediation.executions.countP (fun e => onTarget s target e && q e && r e) := by
  refine List.countP_congr fun e member => ?_
  obtain ⟨x, found⟩ := List.getElem?_of_mem member
  obtain ⟨row, placed, _⟩ := gated.attempted x e found
  obtain ⟨row', placed', same⟩ := kept _ row placed
  simp only [onTarget, placed, placed', Option.any_some, same.proposal.targetService]

/-- No transaction changes how many attempts started before a moment that has passed. -/
theorem startedBetween_moved (gated : Gated env now s)
    (kept : Table.Evolves SameAdmission s.remediation.remediations s'.remediation.remediations)
    (move : AttemptsMove now s s') (target : String) (from_ : Time) {until_ : Time}
    (past : until_ ≤ now) :
    startedBetween s' target from_ until_ = startedBetween s target from_ until_ := by
  have targets := countP_onTarget gated kept target (fun e => decide (from_ ≤ e.startedAt))
    (fun e => decide (e.startedAt < until_))
  cases move with
  | kept executions =>
    cases executions with
    | same executions =>
      rw [startedBetween, executions]
      exact targets
    | changed x e e' found remediationId _ startedAt executions =>
      rw [startedBetween, executions,
        Table.countP_put_same found (by simp only [onTarget, remediationId, startedAt])]
      exact targets
  | started e row _ _ startedAt executions =>
    have fresh : ¬ e.startedAt < until_ := not_lt.mpr (past.trans startedAt.ge)
    rw [startedBetween, executions, List.countP_append,
      List.countP_singleton, if_neg (by simp [fresh]), Nat.add_zero]
    exact targets

/-- Every remediation was there, or is a new one that policy evaluated now. -/
inductive RowOrigin (env : Env) (now : Time) (s : Store) (id : Uuid) (row : RemediationRow) : Prop
  | kept (row₀ : RemediationRow) (found : s.remediation.remediations[id]? = some row₀)
      (same : SameAdmission row₀ row)
  | new (createdAt : row.createdAt = now)
      (recent : row.status ≠ .policyRejected → recentExecutions s now row.targetService <
        env.policy.maxExecutionsPerServicePerHour)

theorem recentExecutions_eq (s : Store) (now : Time) (target : String) :
    recentExecutions s now target = s.remediation.executions.countP (fun e =>
      decide (now - hour ≤ e.startedAt) && onTarget s target e) := by
  refine List.countP_congr fun e _ => ?_
  cases found : s.remediation.remediations[e.remediationId]? <;> simp [onTarget, found, hour]

theorem Gated.moved (gated : Gated env now s)
    (kept : Table.Evolves SameAdmission s.remediation.remediations s'.remediation.remediations)
    (origin : ∀ (id : Uuid) (row : RemediationRow),
      s'.remediation.remediations[id]? = some row → RowOrigin env now s id row)
    (move : AttemptsMove now s s') : Gated env now s' := by
  have stays : ∀ (k : Uuid) (row : RemediationRow) (startedAt : Time),
      s.remediation.remediations[k]? = some row → row.status ≠ .policyRejected →
      row.createdAt ≤ startedAt → ∃ row', s'.remediation.remediations[k]? = some row' ∧
        row'.status ≠ .policyRejected ∧ row'.createdAt ≤ startedAt := by
    intro k row startedAt placed admitted created
    obtain ⟨row', placed', same⟩ := kept k row placed
    refine ⟨row', placed', fun rejected => admitted (same.rejected.mp rejected), ?_⟩
    rw [same.proposal.createdAt]
    exact created
  constructor
  · intro id row found
    cases origin id row found with
    | kept row₀ found₀ same =>
      rw [same.proposal.createdAt]
      exact gated.created id row₀ found₀
    | new createdAt => exact createdAt.le
  · intro x e found
    cases move with
    | kept executions =>
      cases executions with
      | same executions =>
        rw [executions] at found
        obtain ⟨row, placed, admitted, created⟩ := gated.attempted x e found
        exact stays _ row _ placed admitted created
      | changed y e₀ e₁ found₀ remediationId _ startedAt executions =>
        rw [executions, Table.get_put found₀] at found
        rcases found with ⟨_, rfl⟩ | ⟨_, old⟩
        · obtain ⟨row, placed, admitted, created⟩ := gated.attempted y e₀ found₀
          rw [remediationId, startedAt]
          exact stays _ row _ placed admitted created
        · obtain ⟨row, placed, admitted, created⟩ := gated.attempted x e old
          exact stays _ row _ placed admitted created
    | started e₀ row placed admitted startedAt executions =>
      rw [executions, Table.get_insert] at found
      rcases found with old | ⟨_, rfl⟩
      · obtain ⟨row', placed', admitted', created⟩ := gated.attempted x e old
        exact stays _ row' _ placed' admitted' created
      · exact stays _ row _ placed admitted ((gated.created _ row placed).trans startedAt.ge)
  · intro id row found admitted from_ within
    cases origin id row found with
    | kept row₀ found₀ same =>
      have past := gated.created id row₀ found₀
      rw [same.proposal.createdAt] at within ⊢
      rw [same.proposal.targetService, startedBetween_moved gated kept move _ from_ past]
      exact gated.admitted id row₀ found₀ (fun no => admitted (same.rejected.mpr no)) from_ within
    | new createdAt recent =>
      rw [createdAt] at within ⊢
      rw [startedBetween_moved gated kept move _ from_ le_rfl]
      refine Nat.lt_of_le_of_lt ?_ (recent admitted)
      rw [recentExecutions_eq]
      refine List.countP_mono_left fun e _ counted => ?_
      simp only [Bool.and_eq_true, decide_eq_true_eq] at counted ⊢
      exact ⟨(sub_le_iff_le_add.mpr within).trans counted.1.2, counted.1.1⟩

theorem RowsEffect.gated (effect : RowsEffect env now c s s') (gated : Gated env now s) :
    Gated env now s' := by
  have put : ∀ {id : Uuid} {row row' : RemediationRow},
      s.remediation.remediations[id]? = some row → SameAdmission row row' →
      s'.remediation.remediations = s.remediation.remediations.set id row' →
      AttemptsMove now s s' → Gated env now s' := by
    intro id row row' found same remediations move
    refine gated.moved ?_ ?_ move
    · rw [remediations]
      exact Table.Evolves.put SameAdmission.refl found same
    · intro k other placed
      rw [remediations, Table.get_put found] at placed
      rcases placed with ⟨rfl, rfl⟩ | ⟨_, old⟩
      · exact .kept row found same
      · exact .kept other old (.refl other)
  cases effect with
  | inserted row decision fresh _ remediations _ executions recent =>
    refine gated.moved ?_ ?_ (.kept (.same executions))
    · rw [remediations]
      exact Table.Evolves.insert SameAdmission.refl _ _
    · intro k other placed
      rw [remediations, Table.get_insert] at placed
      rcases placed with old | ⟨_, rfl⟩
      · exact .kept other old (.refl other)
      · exact .new fresh.createdAt recent
  | changed id row row' found same settled status _ remediations _ executions =>
    have sameAdmission : SameAdmission row row' :=
      ⟨same, fun rejected => absurd rejected status, fun rejected => absurd rejected settled⟩
    exact put found sameAdmission remediations (.kept executions)
  | started id row row' owner _ entry _ found before _ _ same status _ remediations _
      executions =>
    have settled : row.status ≠ .policyRejected := by
      rcases before with before | before <;> simp [before]
    have sameAdmission : SameAdmission row row' :=
      ⟨same, fun rejected => absurd (status.symm.trans rejected) (by decide),
        fun rejected => absurd rejected settled⟩
    exact put found sameAdmission remediations (.started _ row found settled rfl executions)
  | untouched remediations _ executions =>
    refine gated.moved ?_ ?_ (.kept (.same executions))
    · rw [remediations]
      exact Table.Evolves.refl SameAdmission.refl _
    · intro k other placed
      rw [remediations] at placed
      exact .kept other placed (.refl other)

theorem Transaction.gated (transaction : Transaction env now tickets c s s')
    (gated : Gated env now s) : Gated env now s' := by
  cases transaction with
  | alert step => exact gated.of_same step.remediation
  | investigation step => exact gated.of_same step.remediation
  | verification step => exact gated.of_same step.remediation
  | remediation step => exact step.effect.rows.gated gated

end

/-! ## Runs -/

theorem step_gated {env : Env} {w : World} {e : Event} (gated : Gated env w.clock w.store) :
    Gated env (step env w e).clock (step env w e).store := by
  have later : w.clock ≤ w.clock + (e.elapsed : Int) :=
    le_add_of_nonneg_right (Int.natCast_nonneg _)
  exact Machine.preserved_of_path (P := Gated env (w.clock + e.elapsed))
    (fun transaction => transaction.gated)
    (execute_path env (w.clock + e.elapsed) w.tickets w.store e.command) (gated.later later)

/-- In every reachable store and every hour, an attempt belongs to a remediation that was let
through when fewer attempts than the limit had started on its service in that hour. -/
theorem executions_pass_the_gate (env : Env) (clock : Time) (events : List Event) :
    HourlyGate env (runFrom env clock events).store := by
  refine (Machine.state_invariant (P := fun w : World => Gated env w.clock w.store) ?_
    (fun _ _ gated => step_gated gated) events).hourlyGate
  constructor
  · intro id row found
    cases found
  · intro x e found
    cases found
  · intro id row found
    cases found

/-- Two attempts at a restart, the verification of which fails, and two more. -/
def restartedAgain : List Event :=
  restartStarted ++
  [next (.completeExecution 0 "runner-1" .failed "executor" none none true),
   next (.claimExecution 0 "runner-1" 60),
   next (.completeExecution 1 "runner-1" .succeeded "executor" none none false),
   next (.startVerification 0)] ++
  polled 0 paymentsDegraded ++
  [{ elapsed := 400 * 1000000, command := .claimDue 0 "poller" 30 }] ++
  investigated 1 ++
  [next (.propose (restartPayments .planner "planner") "p2" none),
   next (.decideApproval 1 "ada" ["on_call_engineer"] true restartPaymentsHash 1 none),
   next (.claimExecution 1 "runner-1" 60),
   next (.completeExecution 2 "runner-1" .failed "executor" none none true),
   next (.claimExecution 1 "runner-1" 60)]

/-- The second restart was let through after two attempts; its own two make four in an hour. -/
theorem not_hourlyLimit : ¬ HourlyLimit paymentsEnv (runFrom paymentsEnv 0 restartedAgain).store := by
  intro limit
  have four : startedInHour (runFrom paymentsEnv 0 restartedAgain).store "payments" 0 = 4 := by
    decide +kernel
  have within := limit "payments" 0
  rw [four] at within
  exact absurd within (by decide)

end IncidentTriage.Verified
