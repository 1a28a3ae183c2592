import IncidentTriage.Verified.Requests

/-! # The approval timeout

A sweep selects the approvals that are past the timeout and then cancels them, each in a
transaction of its own, so that other commands fall in between.  Once it is through, whatever
still waits was asked for within the timeout.  The decision itself does not look at the clock:
where no sweep has come by, a request is approved however old it is.
-/

namespace IncidentTriage.Verified

open IncidentTriage.Python IncidentTriage.Domain IncidentTriage.Incident

/-! ## Sweeps among other commands -/

/-- A sweep: when it began, and what is left of the ids it selected.  An error ends it. -/
structure Sweep where
  readAt : Time
  left : Except DomainError (List Uuid)

structure SweptWorld where
  world : World
  sweeps : List Sweep

inductive Moment where
  /-- A command; of a sweep, only the selection. -/
  | command (event : Event)
  /-- A sweep comes to the next of its ids. -/
  | expire (elapsed : Nat) (sweep : Nat)

/-- What a sweep selects. -/
def isOverdue (env : Env) (now : Time) (row : RemediationRow) : Bool :=
  row.status == .awaitingApproval && decide (row.updatedAt < now - env.approvalTimeout)

def overdueIds (env : Env) (now : Time) (s : Store) : List Uuid :=
  (Table.select (isOverdue env now) s.remediation.remediations).map (·.1)

def SweptWorld.at (w : SweptWorld) (now : Time) (store : Store) (sweeps : List Sweep) :
    SweptWorld :=
  { world := { w.world with store, clock := now }, sweeps }

/-- One id of a sweep, in the transaction of `expireApproval`. -/
def SweptWorld.expireNext (env : Env) (w : SweptWorld) (now : Time) (k : Nat) : SweptWorld :=
  match w.sweeps[k]? with
  | some { readAt, left := .ok (id :: ids) } =>
    match expireApproval env now w.world.store id with
    | .error e => w.at now w.world.store (w.sweeps.set k { readAt, left := .error e })
    | .ok (_, s) => w.at now s (w.sweeps.set k { readAt, left := .ok ids })
  | _ => w.at now w.world.store w.sweeps

def SweptWorld.perform (env : Env) (w : SweptWorld) (event : Event) : SweptWorld :=
  match event.command with
  | .expireApprovals =>
    let now := w.world.clock + event.elapsed
    w.at now w.world.store
      (w.sweeps ++ [{ readAt := now, left := .ok (overdueIds env now w.world.store) }])
  | _ => { w with world := step env w.world event }

def SweptWorld.moment (env : Env) (w : SweptWorld) : Moment → SweptWorld
  | .command event => w.perform env event
  | .expire elapsed k => w.expireNext env (w.world.clock + elapsed) k

def SweptWorld.empty (clock : Time) : SweptWorld := { world := emptyWorld clock, sweeps := [] }

def sweptFrom (env : Env) (clock : Time) (moments : List Moment) : SweptWorld :=
  Machine.run (SweptWorld.moment env) (.empty clock) moments

/-! ## One id of a sweep -/

section
variable {env : Env} {now : Time} {s s' : Store} {id : Uuid} {row : RemediationRow}

theorem expireApproval_succeeds (env : Env) (now : Time) (sound : RemediationsSound s)
    (found : s.remediation.remediations[id]? = some row) :
    ∃ r, expireApproval env now s id = .ok r := by
  obtain ⟨incident, placed⟩ := sound.housed id row found
  unfold expireApproval
  refine bind_succeeds ⟨row, lockRemediation_eq_ok.mpr found⟩ fun row' locked => ?_
  rw [lockRemediation_eq_ok, found] at locked
  cases locked
  by_cases waits : row.status = .awaitingApproval
  · rw [if_neg (not_not.mpr waits)]
    refine bind_succeeds ⟨incident, lockIncident_eq_ok.mpr placed⟩ fun incident' locked => ?_
    rw [lockIncident_eq_ok] at locked
    refine bind_succeeds (finishCancelled_succeeds ?_ ?_) fun _ _ => ⟨_, rfl⟩
    · simp only [waits]
      decide
    · exact locked
  · rw [if_pos waits]
    exact ⟨_, rfl⟩

/-- Whatever a sweep came to does not wait any longer. -/
theorem expireApproval_settles {expired : Bool}
    (done : expireApproval env now s id = .ok (expired, s'))
    (found : s'.remediation.remediations[id]? = some row) : row.status ≠ .awaitingApproval := by
  simp only [expireApproval, bind_eq_ok, lockRemediation_eq_ok] at done
  obtain ⟨row₀, found₀, done⟩ := done
  split_ifs at done with waits
  · cases done
    rw [found₀] at found
    cases found
    exact waits
  · simp only [bind_eq_ok, pure_eq_ok, lockIncident_eq_ok] at done
    obtain ⟨incident, placed, ⟨moved, s₁⟩, finished, done⟩ := done
    obtain ⟨ended, audit, rfl⟩ := finishCancelled_eq_ok finished placed
    cases done
    rcases (Table.get_put found₀).mp found with ⟨_, rfl⟩ | ⟨other, _⟩
    · simp [ended.status]
    · exact absurd rfl other

theorem expireApproval_nothingAsked {expired : Bool}
    (done : expireApproval env now s id = .ok (expired, s')) : NothingAsked s s' := by
  rcases expireApproval_step (c := .expireApprovals) done with rfl | step
  · exact .refl s'
  · have transaction : Transaction env now [] .expireApprovals s s' :=
      .remediation step (expireApproval_publishes done)
    exact transaction.nothingAsked rfl

/-- No remediation vanishes. -/
theorem Recounted.stays (told : Recounted s s')
    (found : s.remediation.remediations[id]? = some row) :
    ∃ row', s'.remediation.remediations[id]? = some row' := by
  obtain ⟨entries, _, trail⟩ := told.remediations id
  have there : (remediationStatus s'.remediation.remediations id).isSome = true := by
    refine trail.keeps (P := fun status => status.isSome = true) ?_ ?_
    · intro _ _ _ step _
      obtain ⟨_, _, passes⟩ := step
      cases passes <;> rfl
    · rw [remediationStatus, found]
      rfl
  rw [remediationStatus, Option.isSome_map] at there
  exact Option.isSome_iff_exists.mp there

end

/-! ## Runs -/

/-- What was past the timeout when a sweep began, and still waits, is ahead of it. -/
structure SweepGoing (env : Env) (clock : Time) (s : Store) (sweep : Sweep) (ids : List Uuid) :
    Prop where
  left : sweep.left = .ok ids
  began : sweep.readAt ≤ clock
  known : ∀ id ∈ ids, ∃ row, s.remediation.remediations[id]? = some row
  ahead : ∀ (id : Uuid) (row : RemediationRow), s.remediation.remediations[id]? = some row →
    row.status = .awaitingApproval → row.updatedAt < sweep.readAt →
      row.updatedAt < sweep.readAt - env.approvalTimeout → id ∈ ids

/-- In every reachable world no sweep has failed, and each is on its way. -/
structure SweptSound (env : Env) (w : SweptWorld) : Prop where
  store : RemediationsSound w.world.store
  going : ∀ sweep ∈ w.sweeps, ∃ ids, SweepGoing env w.world.clock w.world.store sweep ids

section
variable {env : Env} {now clock : Time} {s s' : Store} {w : SweptWorld} {sweep : Sweep}
  {ids : List Uuid}

theorem SweepGoing.later (going : SweepGoing env clock s sweep ids) (told : Recounted s s')
    (since : WaitsSince now s s') (later : clock ≤ now) : SweepGoing env now s' sweep ids := by
  refine ⟨going.left, going.began.trans later, ?_, ?_⟩
  · intro id member
    obtain ⟨row, found⟩ := going.known id member
    exact told.stays found
  · intro id row found waits before old
    rcases since id row found waits with there | asked
    · exact going.ahead id row there waits before old
    · -- what was asked for now was not there when the sweep began
      have began := going.began.trans later
      rw [asked] at before
      exact absurd (began.trans_lt before) (lt_irrefl _)

theorem SweepGoing.begin (env : Env) (now : Time) (s : Store) :
    SweepGoing env now s { readAt := now, left := .ok (overdueIds env now s) }
      (overdueIds env now s) := by
  refine ⟨rfl, le_rfl, ?_, ?_⟩
  · intro id member
    obtain ⟨⟨_, row⟩, selected, rfl⟩ := List.mem_map.mp member
    exact ⟨row, (Table.mem_select.mp selected).1⟩
  · intro id row found waits _ old
    refine List.mem_map.mpr ⟨(id, row), Table.mem_select.mpr ⟨found, ?_⟩, rfl⟩
    simp [isOverdue, waits, old]

theorem SweepGoing.next {id : Uuid} {expired : Bool}
    (going : SweepGoing env clock s sweep (id :: ids)) (later : clock ≤ now)
    (done : expireApproval env now s id = .ok (expired, s')) :
    SweepGoing env now s' { sweep with left := .ok ids } ids := by
  obtain ⟨_, began, known, ahead⟩ := going.later (expireApproval_recounted done)
    (expireApproval_nothingAsked done).waitsSince later
  refine ⟨rfl, began, fun k member => known k (.tail id member), ?_⟩
  intro k row found waits before old
  rcases List.mem_cons.mp (ahead k row found waits before old) with rfl | member
  · exact absurd waits (expireApproval_settles done found)
  · exact member

theorem SweptSound.initial (env : Env) (clock : Time) : SweptSound env (.empty clock) := by
  refine ⟨RemediationsSound.initial, ?_⟩
  intro sweep member
  cases member

theorem SweptSound.expireNext (sound : SweptSound env w) (later : w.world.clock ≤ now) (k : Nat) :
    SweptSound env (w.expireNext env now k) := by
  have same : SweptSound env (w.at now w.world.store w.sweeps) := by
    refine ⟨sound.store, fun sweep member => ?_⟩
    obtain ⟨ids, going⟩ := sound.going sweep member
    exact ⟨ids, going.later (Recounts.refl _ _) (.refl _ _) later⟩
  unfold SweptWorld.expireNext
  split
  · rename_i readAt id ids found
    obtain ⟨_, going⟩ := sound.going _ (List.mem_of_getElem? found)
    obtain rfl : id :: ids = _ := Except.ok.inj going.left
    obtain ⟨row, there⟩ := going.known id (.head ids)
    obtain ⟨⟨expired, s'⟩, done⟩ := expireApproval_succeeds env now sound.store there
    rw [done]
    have told := expireApproval_recounted done
    have quiet := expireApproval_nothingAsked done
    refine ⟨sound.store.quiet told quiet, ?_⟩
    intro sweep member
    rcases List.mem_or_eq_of_mem_set member with old | rfl
    · obtain ⟨others, along⟩ := sound.going sweep old
      exact ⟨others, along.later told quiet.waitsSince later⟩
    · exact ⟨ids, going.next later done⟩
  · exact same

theorem SweptSound.perform (sound : SweptSound env w) (event : Event) :
    SweptSound env (w.perform env event) := by
  have later : w.world.clock ≤ w.world.clock + (event.elapsed : Int) :=
    le_add_of_nonneg_right (Int.natCast_nonneg _)
  unfold SweptWorld.perform
  split
  · refine ⟨sound.store, fun sweep member => ?_⟩
    rcases List.mem_append.mp member with old | new
    · obtain ⟨ids, going⟩ := sound.going sweep old
      exact ⟨ids, going.later (Recounts.refl _ _) (.refl _ _) later⟩
    · rw [List.mem_singleton.mp new]
      exact ⟨_, .begin env _ _⟩
  · obtain ⟨store, since⟩ := sound.store.execute env (w.world.clock + event.elapsed)
      w.world.tickets event.command
    refine ⟨store, fun sweep member => ?_⟩
    obtain ⟨ids, going⟩ := sound.going sweep member
    exact ⟨ids, going.later (execute_recounted env _ _ _ _) since later⟩

theorem SweptSound.moment (sound : SweptSound env w) (m : Moment) :
    SweptSound env (w.moment env m) := by
  cases m with
  | command event => exact sound.perform event
  | expire elapsed k =>
    exact sound.expireNext (le_add_of_nonneg_right (Int.natCast_nonneg elapsed)) k

theorem sweptFrom_sound (env : Env) (clock : Time) (moments : List Moment) :
    SweptSound env (sweptFrom env clock moments) :=
  Machine.state_invariant (.initial env clock) (fun _ m sound => sound.moment m) moments

/-- A sweep that an error ended does nothing more. -/
theorem expire_ended (env : Env) (n k : Nat) (w : SweptWorld)
    (ended : ∃ readAt e, w.sweeps[k]? = some { readAt, left := .error e }) :
    (Machine.run (SweptWorld.moment env) w (List.replicate n (.expire 0 k))).world.store =
      w.world.store := by
  obtain ⟨readAt, e, ended⟩ := ended
  induction n generalizing w with
  | zero => rfl
  | succ n ih =>
    have idle : w.moment env (.expire 0 k) = w.at (w.world.clock + 0) w.world.store w.sweeps := by
      simp [SweptWorld.moment, SweptWorld.expireNext, ended]
    rw [List.replicate_succ, Machine.run_cons, idle]
    exact ih (w.at (w.world.clock + 0) w.world.store w.sweeps) ended

/-- Where nothing falls in between, the moments of a sweep are the command as a whole. -/
theorem sweep_eq_expireEach (env : Env) (ids : List Uuid) (w : SweptWorld) (k : Nat)
    (readAt : Time) (found : w.sweeps[k]? = some { readAt, left := .ok ids }) :
    (Machine.run (SweptWorld.moment env) w (List.replicate ids.length (.expire 0 k))).world.store =
      (expireEach env w.world.clock ids w.world.store).2 := by
  induction ids generalizing w with
  | nil => rfl
  | cons id ids ih =>
    have inside := Table.lt_of_row found
    rw [List.length_cons, List.replicate_succ, Machine.run_cons]
    have here : w.moment env (.expire 0 k) = w.expireNext env w.world.clock k := by
      simp [SweptWorld.moment]
    rw [here]
    unfold SweptWorld.expireNext
    rw [found]
    simp only [expireEach]
    cases outcome : expireApproval env w.world.clock w.world.store id with
    | error e =>
      dsimp only
      rw [expire_ended]
      · rfl
      · simp [SweptWorld.at, inside]
    | ok r =>
      obtain ⟨expired, s'⟩ := r
      dsimp only
      rw [ih _ (by simp [SweptWorld.at, inside])]
      rfl

theorem sweep_eq_expireApprovals (env : Env) (w : SweptWorld) (elapsed : Nat) :
    (Machine.run (SweptWorld.moment env) w
      (.command { elapsed, command := .expireApprovals } ::
        List.replicate (overdueIds env (w.world.clock + elapsed) w.world.store).length
          (.expire 0 w.sweeps.length))).world.store =
      (expireApprovals env (w.world.clock + elapsed) w.world.store).2 := by
  rw [Machine.run_cons]
  refine sweep_eq_expireEach env _ _ _ (w.world.clock + elapsed) ?_
  simp [SweptWorld.moment, SweptWorld.perform, SweptWorld.at]

/-! ## Decisions -/

/-- Only the decision of a human approves. -/
theorem Path.approved_by {tickets : List IssuedTicket} {c : Command} {id : Uuid}
    (path : Path env now tickets c s s')
    (approved : remediationStatus s'.remediation.remediations id = some .approved) :
    remediationStatus s.remediation.remediations id = some .approved ∨ Approves c id := by
  induction path with
  | refl => exact .inl approved
  | tail _ last ih =>
    obtain ⟨row, found, status⟩ := Option.map_eq_some_iff.mp approved
    cases last.origin found with
    | kept row₀ found₀ _ _ earlier =>
      rcases earlier status with before | human
      · refine ih ?_
        rw [remediationStatus_found found₀, before]
      · exact .inr human
    | new _ _ _ unapproved => exact absurd status unapproved

/-- A sweep that came to all of its ids. -/
def Sweep.isThrough (sweep : Sweep) : Bool :=
  match sweep.left with
  | .ok [] => true
  | _ => false

/-- An approval comes within the timeout of the request, or after a sweep that began past it. -/
def decidesInTime (env : Env) (w : SweptWorld) : Moment → Bool
  | .command { elapsed, command := .decideApproval id _ _ true _ _ _ } =>
    (requestedAt w.world.store id).all (fun asked =>
      decide (w.world.clock + elapsed ≤ asked + env.approvalTimeout) ||
      w.sweeps.any (fun sweep => sweep.isThrough && decide (asked < sweep.readAt) &&
        decide (asked + env.approvalTimeout < sweep.readAt)))
  | _ => true

/-- A remediation that is approved here was asked for within the timeout. -/
def ApprovesInTime (env : Env) (w : SweptWorld) (m : Moment) : Prop :=
  ∀ id, remediationStatus w.world.store.remediation.remediations id = some .awaitingApproval →
    remediationStatus (w.moment env m).world.store.remediation.remediations id = some .approved →
      ∃ asked, requestedAt w.world.store id = some asked ∧
        (w.moment env m).world.clock ≤ asked + env.approvalTimeout

/-- No sweep fails, and what still waits after one was not past the timeout when it began. -/
def SweepsThorough (env : Env) (w : SweptWorld) : Prop :=
  ∀ sweep ∈ w.sweeps, (∀ e, sweep.left ≠ .error e) ∧ (sweep.isThrough = true →
    ∀ id, remediationStatus w.world.store.remediation.remediations id = some .awaitingApproval →
      ∃ asked, requestedAt w.world.store id = some asked ∧
        (asked < sweep.readAt → sweep.readAt ≤ asked + env.approvalTimeout))

theorem SweptSound.thorough (sound : SweptSound env w) : SweepsThorough env w := by
  intro sweep member
  obtain ⟨ids, going⟩ := sound.going sweep member
  refine ⟨?_, ?_⟩
  · intro e failed
    rw [going.left] at failed
    cases failed
  · intro through id waits
    obtain ⟨row, found, status⟩ := Option.map_eq_some_iff.mp waits
    refine ⟨row.updatedAt, sound.store.asked id row found status, fun before => ?_⟩
    by_contra late
    have old : row.updatedAt < sweep.readAt - env.approvalTimeout :=
      lt_sub_iff_add_lt.mpr (not_le.mp late)
    have member := going.ahead id row found status before old
    rw [Sweep.isThrough, going.left] at through
    cases ids with
    | nil => cases member
    | cons _ _ => cases through

/-- The command a moment belongs to. -/
def Moment.cause : Moment → Command
  | .command event => event.command
  | .expire .. => .expireApprovals

def Moment.elapsed : Moment → Nat
  | .command event => event.elapsed
  | .expire elapsed _ => elapsed

theorem SweptWorld.moment_path (env : Env) (w : SweptWorld) (m : Moment) :
    Path env (w.world.clock + m.elapsed) w.world.tickets m.cause w.world.store
      (w.moment env m).world.store := by
  cases m with
  | command event =>
    show Path env _ _ event.command _ (w.perform env event).world.store
    unfold SweptWorld.perform
    split
    · exact .refl
    · exact execute_path env _ _ _ event.command
  | expire elapsed k =>
    show Path env (w.world.clock + elapsed) _ .expireApprovals _
      (w.expireNext env (w.world.clock + elapsed) k).world.store
    unfold SweptWorld.expireNext
    split
    · split
      · exact .refl
      · rename_i done
        exact .of_remediation (expireApproval_step done) (expireApproval_publishes done)
    · exact .refl

theorem SweptSound.approves {m : Moment} (sound : SweptSound env w)
    (timely : decidesInTime env w m = true) : ApprovesInTime env w m := by
  intro id waits approved
  obtain ⟨row, found, status⟩ := Option.map_eq_some_iff.mp waits
  rcases (w.moment_path env m).approved_by approved with before | human
  · rw [waits] at before
    cases before
  · obtain ⟨approver, roles, hash, decisionId, comment, caused⟩ := human
    refine ⟨row.updatedAt, sound.store.asked id row found status, ?_⟩
    cases m with
    | expire elapsed k => cases caused
    | command event =>
      obtain ⟨elapsed, c⟩ := event
      obtain rfl : c = .decideApproval id approver roles true hash decisionId comment := caused
      show w.world.clock + (elapsed : Int) ≤ row.updatedAt + env.approvalTimeout
      have asked := sound.store.asked id row found status
      simp only [decidesInTime, asked, Option.all_some, Bool.or_eq_true, decide_eq_true_eq,
        List.any_eq_true, Bool.and_eq_true] at timely
      rcases timely with within | ⟨sweep, member, ⟨through, before⟩, past⟩
      · exact within
      · -- the sweep would have come to it
        obtain ⟨asked', same, within⟩ := (sound.thorough sweep member).2 through id waits
        rw [asked] at same
        cases same
        exact absurd (within before) (not_le.mpr past)

end

/-- Whatever waits after a sweep was within the timeout.  Where an approval comes within it too,
or after a sweep that began past it, nothing is approved later. -/
theorem approvals_timely (env : Env) (clock : Time) (moments : List Moment) :
    SweepsThorough env (sweptFrom env clock moments) ∧
      (Machine.StepsMeet (fun w m => decidesInTime env w m = true) (SweptWorld.moment env)
          (.empty clock) moments →
        Machine.StepsMeet (ApprovesInTime env) (SweptWorld.moment env) (.empty clock) moments) := by
  refine ⟨(sweptFrom_sound env clock moments).thorough, fun timely => ?_⟩
  rw [Machine.stepsMeet_iff] at timely ⊢
  intro earlier m later split
  exact (sweptFrom_sound env clock earlier).approves (timely earlier m later split)

/-- The restart is asked for. -/
def restartRequested : List Moment :=
  (paymentsOpened ++ investigated 0 ++
    [next (.propose (restartPayments .planner "planner") "p1" none)]).map .command

def approvedAfterAnHour : Moment :=
  .command { elapsed := 3600 * 1000000, command :=
    .decideApproval 0 "ada" ["on_call_engineer"] true restartPaymentsHash 0 none }

/-- The approval comes an hour later, when a sweep has cancelled the restart. -/
theorem approvals_timely_swept :
    Machine.StepsMeet (ApprovesInTime paymentsEnv) (SweptWorld.moment paymentsEnv) (.empty 0)
      (restartRequested ++
        [.command { elapsed := 1801 * 1000000, command := .expireApprovals }, .expire 0 0,
          approvedAfterAnHour]) :=
  (approvals_timely paymentsEnv 0 _).2 (by decide +kernel)

/-- The approval comes an hour later, and no sweep has come by. -/
theorem not_approvals_timely :
    ¬ Machine.StepsMeet (ApprovesInTime paymentsEnv) (SweptWorld.moment paymentsEnv) (.empty 0)
      (restartRequested ++ [approvedAfterAnHour]) := by
  intro met
  have last : ApprovesInTime paymentsEnv (sweptFrom paymentsEnv 0 restartRequested)
      approvedAfterAnHour := (Machine.stepsMeet_concat.mp met).2
  obtain ⟨asked, requested, within⟩ := last 0 (by decide +kernel) (by decide +kernel)
  have before : requestedAt (sweptFrom paymentsEnv 0 restartRequested).world.store 0 =
      some ((sweptFrom paymentsEnv 0 restartRequested).world.clock) := by
    decide +kernel
  rw [before] at requested
  cases requested
  revert within
  decide +kernel

end IncidentTriage.Verified
