import IncidentTriage.Verified.Requests

/-! # Revisions

A revision reads the remediation, cancels it in one transaction and proposes its successor in
another; other commands may fall in between.  It is all or nothing where it is refused before
the first transaction, or the second one records a new proposal.
-/

namespace IncidentTriage.Verified

open IncidentTriage.Python IncidentTriage.Domain IncidentTriage.Incident

/-! ## A revision among other commands -/

/-- What a call of `revise` is given. -/
structure Revision where
  id : Uuid
  parameters : Dict
  proposedBy : String
  reason : Option String
  idempotencyKey : String

/-- The successor of the remediation that was read. -/
def Revision.proposal (r : Revision) (old : RemediationRow) : RemediationProposal :=
  { incidentId := old.incidentId
    investigationId := old.investigationId
    actionId := old.actionId
    parameters := r.parameters
    reason := if revise.hasReason r.reason then r.reason.getD old.reason else old.reason
    expectedEffect := old.expectedEffect
    source := .operator
    proposedBy := r.proposedBy }

/-- The commands of others until the next step of a call, and the time it takes to come to it. -/
structure Interlude where
  events : List Event := []
  elapsed : Nat := 0

def Interlude.after (env : Env) (between : Interlude) (w : World) : World :=
  let w := Machine.run (step env) w between.events
  { w with clock := w.clock + between.elapsed }

/-- How a call ends, and the store before and after each of its transactions. -/
structure Revised where
  outcome : Except DomainError RemediationView
  transactions : List (Store × Store)
  world : World

/-- The second transaction of a call. -/
def Revision.proposeIn (env : Env) (w : World) (r : Revision) (old : RemediationRow)
    (cancelled : Store × Store) : Revised :=
  if (r.proposal old).Valid then
    match propose env w.clock w.store (r.proposal old) r.idempotencyKey
      (some old.correlationId) with
    | .error e => { outcome := .error e, transactions := [cancelled], world := w }
    | .ok (view, s) =>
      { outcome := .ok view, transactions := [cancelled, (w.store, s)],
        world := { w with store := s } }
  else
    { outcome := .error (.validation "RemediationProposal"), transactions := [cancelled],
      world := w }

/-- The first transaction of a call, and what follows it. -/
def Revision.cancelIn (env : Env) (w : World) (r : Revision) (old : RemediationRow)
    (second : Interlude) : Revised :=
  match cancel w.clock w.store r.id ("operator:" ++ r.proposedBy) "superseded by revision" with
  | .error e => { outcome := .error e, transactions := [], world := w }
  | .ok (_, s) => r.proposeIn env (second.after env { w with store := s }) old (w.store, s)

/-- `revise` with the commands of others before each of its transactions. -/
def reviseAmong (env : Env) (w : World) (r : Revision) (first second : Interlude) : Revised :=
  match lockRemediation w.store r.id with
  | .error e => { outcome := .error e, transactions := [], world := w }
  | .ok old => r.cancelIn env (first.after env w) old second

/-- Where nothing falls in between, this is the command as a whole. -/
theorem reviseAmong_eq_revise (env : Env) (w : World) (r : Revision) :
    let revised := reviseAmong env w r {} {}
    (revised.outcome, revised.world.store) = revise env w.clock w.store r.id r.parameters
      r.proposedBy r.reason r.idempotencyKey := by
  simp only [reviseAmong, revise]
  cases lockRemediation w.store r.id with
  | error e => rfl
  | ok old =>
    simp only [Revision.cancelIn, Interlude.after, Machine.run_nil, Nat.cast_zero, Int.add_zero]
    cases cancel w.clock w.store r.id ("operator:" ++ r.proposedBy) "superseded by revision" with
    | error e => rfl
    | ok cancelled =>
      obtain ⟨_, s⟩ := cancelled
      simp only [Revision.proposeIn]
      by_cases valid : (r.proposal old).Valid
      · refine Eq.trans ?_ (if_pos valid).symm
        simp only [if_pos valid]
        cases here : propose env w.clock s (r.proposal old) r.idempotencyKey
          (some old.correlationId)
        all_goals
          dsimp only
          split
          all_goals
            rename_i there
            cases here.symm.trans there <;> rfl
      · refine Eq.trans ?_ (if_neg valid).symm
        simp only [if_neg valid]

/-! ## All or nothing -/

/-- A transaction that records a remediation with these parameters, the one that is returned. -/
def RecordsRevision (r : Revision) (view : RemediationView) (t : Store × Store) : Prop :=
  view.id = t.1.remediation.remediations.length ∧ view.row.parameters = r.parameters ∧
    t.2.remediation.remediations = t.1.remediation.remediations ++ [view.row]

/-- A transaction that leaves the old remediation and its incident as they were. -/
def LeavesOld (r : Revision) (t : Store × Store) : Prop :=
  t.2.remediation.remediations[r.id]? = t.1.remediation.remediations[r.id]? ∧
    ∀ old, t.1.remediation.remediations[r.id]? = some old →
      t.2.incidents[old.incidentId]? = t.1.incidents[old.incidentId]?

/-- A call that returns has cancelled the old remediation and recorded the new one; a call that
raises has left the old one and its incident alone. -/
def AllOrNothing (r : Revision) (revised : Revised) : Prop :=
  match revised.outcome with
  | .ok view =>
    remediationStatus revised.world.store.remediation.remediations r.id = some .cancelled ∧
      ∃ t ∈ revised.transactions, RecordsRevision r view t
  | .error _ => ∀ t ∈ revised.transactions, LeavesOld r t

/-- No one holds the key of the revision when it comes to propose. -/
def KeyUnused (env : Env) (w : World) (r : Revision) (old : RemediationRow)
    (second : Interlude) : Prop :=
  ∀ view s, cancel w.clock w.store r.id ("operator:" ++ r.proposedBy) "superseded by revision" =
    .ok (view, s) →
      proposedUnder (second.after env { w with store := s }).store old.incidentId
        r.idempotencyKey = none

/-- The old remediation is past cancelling, or the new proposal is valid and its key unused. -/
def CarriesThrough (env : Env) (w : World) (r : Revision) (old : RemediationRow)
    (second : Interlude) : Prop :=
  (∀ row, w.store.remediation.remediations[r.id]? = some row →
    row.status ≠ .awaitingApproval ∧ row.status ≠ .approved) ∨
  ((r.proposal old).Valid ∧ KeyUnused env w r old second)

section
variable {env : Env} {now : Time} {w : World} {s s' : Store} {id : Uuid} {row : RemediationRow}

theorem RemediationsSound.run (sound : RemediationsSound w.store) (events : List Event) :
    RemediationsSound (Machine.run (step env) w events).store :=
  Machine.state_invariant (P := fun w : World => RemediationsSound w.store) sound
    (fun w e sound => (sound.execute env (w.clock + e.elapsed) w.tickets e.command).1) events

theorem RemediationsSound.after (sound : RemediationsSound w.store) (between : Interlude) :
    RemediationsSound (between.after env w).store :=
  sound.run between.events

theorem Interlude.recounted (env : Env) (between : Interlude) (w : World) :
    Recounted w.store (between.after env w).store :=
  run_recounted env w between.events

/-- A terminal status lasts. -/
theorem Recounted.settled {final : RemediationStatus} (told : Recounted s s')
    (terminal : final ∈ terminalRemediationStatuses)
    (held : remediationStatus s.remediation.remediations id = some final) :
    remediationStatus s'.remediation.remediations id = some final := by
  obtain ⟨entries, _, trail⟩ := told.remediations id
  refine trail.keeps (P := fun status => status = some final) ?_ held
  rintro a entry b moved rfl
  exact moved.passes.terminal terminal

theorem cancel_cancels {actor reason : String} {view : RemediationView}
    (done : cancel now s id actor reason = .ok (view, s')) :
    ∃ row row', s.remediation.remediations[id]? = some row ∧
      (row.status = .awaitingApproval ∨ row.status = .approved) ∧ row'.status = .cancelled ∧
      SameProposal row row' ∧
      s'.remediation.remediations = s.remediation.remediations.set id row' := by
  simp only [cancel, bind_eq_ok, lockRemediation_eq_ok, ensure_eq_ok, lockIncident_eq_ok,
    pure_eq_ok] at done
  obtain ⟨row, found, _, cancellable, incident, placed, ⟨moved, s₁⟩, finished, done⟩ := done
  obtain ⟨ended, audit, rfl⟩ := finishCancelled_eq_ok finished placed
  cases done
  exact ⟨row, moved, found, cancellable, ended.status, ended.same, rfl⟩

/-! ## When a revision carries through -/

/-- A call that ends after its first transaction has not left the old remediation alone. -/
theorem not_leavesOld (r : Revision) {moved : RemediationRow}
    (found : s.remediation.remediations[r.id]? = some row)
    (cancellable : row.status = .awaitingApproval ∨ row.status = .approved)
    (status : moved.status = .cancelled)
    (remediations : s'.remediation.remediations = s.remediation.remediations.set r.id moved) :
    ¬ LeavesOld r (s, s') := by
  intro leaves
  have same : s'.remediation.remediations[r.id]? = s.remediation.remediations[r.id]? := leaves.1
  rw [remediations, List.getElem?_set_self (Table.lt_of_row found), found] at same
  cases same
  rcases cancellable with before | before <;> simp [status] at before

theorem proposeIn_allOrNothing_iff {r : Revision} {old moved : RemediationRow} {s₁ : Store}
    (sound : RemediationsSound w.store)
    (found : s.remediation.remediations[r.id]? = some row)
    (cancellable : row.status = .awaitingApproval ∨ row.status = .approved)
    (status : moved.status = .cancelled)
    (cancelled : s₁.remediation.remediations = s.remediation.remediations.set r.id moved)
    (since : Recounted s₁ w.store)
    (there : ∃ row', w.store.remediation.remediations[r.id]? = some row' ∧
      SameProposal old row') :
    AllOrNothing r (r.proposeIn env w old (s, s₁)) ↔
      (r.proposal old).Valid ∧
        proposedUnder w.store old.incidentId r.idempotencyKey = none := by
  have ends : remediationStatus s₁.remediation.remediations r.id = some .cancelled := by
    rw [cancelled, remediationStatus_set (Table.lt_of_row found), Function.update_self, status]
  have kept := since.settled (by decide) ends
  unfold Revision.proposeIn
  by_cases valid : (r.proposal old).Valid
  · obtain ⟨row', found', same⟩ := there
    obtain ⟨incident, placed⟩ := sound.housed r.id row' found'
    have refers := sound.referring r.id row' found'
    rw [same.incidentId] at placed
    rw [same.investigationId] at refers
    have returns : ∃ result, propose env w.clock w.store (r.proposal old) r.idempotencyKey
        (some old.correlationId) = .ok result := propose_succeeds placed refers
    obtain ⟨⟨view, s'⟩, done⟩ := returns
    rw [if_pos valid, done]
    have told := propose_recounted done
    rcases propose_asks done with ⟨held, rfl⟩ | ⟨free, viewed, recorded⟩
    · constructor
      · rintro ⟨_, t, member, recorded⟩
        -- neither transaction adds a row
        have same : t.2.remediation.remediations.length = t.1.remediation.remediations.length := by
          rcases List.mem_pair.mp member with rfl | rfl
          · rw [cancelled, List.length_set]
          · rfl
        rw [recorded.2.2, List.length_append, List.length_singleton] at same
        exact absurd same (Nat.succ_ne_self _)
      · rintro ⟨_, free⟩
        rw [show (r.proposal old).incidentId = old.incidentId from rfl, free] at held
        cases held
    · refine ⟨fun _ => ⟨valid, free⟩, fun _ => ⟨told.settled (by decide) kept, ?_⟩⟩
      exact ⟨(w.store, s'), .tail _ (.head _), viewed, recorded.parameters, recorded.remediations⟩
  · rw [if_neg valid]
    constructor
    · intro leaves
      exact absurd (leaves (s, s₁) (.head _)) (not_leavesOld r found cancellable status cancelled)
    · rintro ⟨yes, _⟩
      exact absurd yes valid

end

/-- Whatever others do between its steps, a revision is all or nothing exactly where it carries
through. -/
theorem revise_allOrNothing_iff (env : Env) (clock : Time) (events : List Event) (r : Revision)
    (first second : Interlude) :
    AllOrNothing r (reviseAmong env (runFrom env clock events) r first second) ↔
      ∀ old, (runFrom env clock events).store.remediation.remediations[r.id]? = some old →
        CarriesThrough env (first.after env (runFrom env clock events)) r old second := by
  have sound : RemediationsSound (runFrom env clock events).store :=
    RemediationsSound.initial.run (w := emptyWorld clock) events
  generalize runFrom env clock events = w at *
  unfold reviseAmong
  cases read : lockRemediation w.store r.id with
  | error e =>
    refine ⟨fun _ old found => ?_, fun _ t member => ?_⟩
    · rw [lockRemediation_eq_ok.mpr found] at read
      cases read
    · cases member
  | ok old =>
    rw [lockRemediation_eq_ok] at read
    have sound₁ : RemediationsSound (first.after env w).store := sound.after first
    obtain ⟨row, found, same⟩ := run_proposals env w first.events r.id old read
    replace found : (first.after env w).store.remediation.remediations[r.id]? = some row := found
    -- the remediation that is read decides what the quantifier ranges over
    have only : (∀ old', w.store.remediation.remediations[r.id]? = some old' →
        CarriesThrough env (first.after env w) r old' second) ↔
        CarriesThrough env (first.after env w) r old second := by
      refine ⟨fun all => all old read, fun carries old' there => ?_⟩
      rw [read] at there
      cases there
      exact carries
    rw [only]
    generalize first.after env w = w₁ at *
    unfold Revision.cancelIn CarriesThrough KeyUnused
    by_cases cancellable : row.status = .awaitingApproval ∨ row.status = .approved
    · have cancels : ∃ result, cancel w₁.clock w₁.store r.id ("operator:" ++ r.proposedBy)
          "superseded by revision" = .ok result := cancel_succeeds sound₁ found cancellable
      obtain ⟨⟨view, s⟩, done⟩ := cancels
      obtain ⟨_, moved, there, _, status, kept, cancelled⟩ := cancel_cancels done
      obtain rfl := Option.some.inj (found.symm.trans there)
      have sound₂ : RemediationsSound (second.after env { w₁ with store := s }).store :=
        (sound₁.cancel env done).1.after second
      have placed : s.remediation.remediations[r.id]? = some moved := by
        rw [cancelled, List.getElem?_set_self (Table.lt_of_row found)]
      obtain ⟨row', placed', evolved⟩ :=
        run_proposals env { w₁ with store := s } second.events r.id moved placed
      rw [done]
      refine (proposeIn_allOrNothing_iff sound₂ found cancellable status cancelled
        (second.recounted env { w₁ with store := s })
        ⟨row', placed', (same.trans kept).trans evolved⟩).trans ⟨?_, ?_⟩
      · rintro ⟨valid, free⟩
        refine .inr ⟨valid, fun view' s' again => ?_⟩
        cases again
        exact free
      · rintro (past | ⟨valid, free⟩)
        · rcases cancellable with waits | approved
          · exact absurd waits (past row found).1
          · exact absurd approved (past row found).2
        · exact ⟨valid, free view s rfl⟩
    · have past : ∀ row', w₁.store.remediation.remediations[r.id]? = some row' →
          row'.status ≠ .awaitingApproval ∧ row'.status ≠ .approved := by
        intro row' there
        rw [found] at there
        cases there
        exact not_or.mp cancellable
      cases outcome : cancel w₁.clock w₁.store r.id ("operator:" ++ r.proposedBy)
          "superseded by revision" with
      | error e => exact ⟨fun _ => .inl past, fun _ t member => by cases member⟩
      | ok cancelled =>
        obtain ⟨row', _, there, waiting, _⟩ := cancel_cancels outcome
        exact absurd waiting (not_or.mpr (past row' there))

/-- The planner's restart waits for approval under the key `p1`. -/
def restartAsked : List Event :=
  paymentsOpened ++ investigated 0 ++
    [next (.propose (restartPayments .planner "planner") "p1" none)]

/-- An operator revises it under that key. -/
def revisedUnderOldKey : Revision :=
  { id := 0
    parameters := [("service", .str "checkout")]
    proposedBy := "bob"
    reason := none
    idempotencyKey := "p1" }

/-- The restart is cancelled, and returned in place of a new proposal. -/
theorem not_revise_allOrNothing :
    ¬ AllOrNothing revisedUnderOldKey
      (reviseAmong paymentsEnv (runFrom paymentsEnv 0 restartAsked) revisedUnderOldKey {} {}) := by
  intro whole
  unfold AllOrNothing at whole
  split at whole
  · obtain ⟨_, t, member, recorded⟩ := whole
    have same : ∀ t ∈ (reviseAmong paymentsEnv (runFrom paymentsEnv 0 restartAsked)
        revisedUnderOldKey {} {}).transactions,
        t.2.remediation.remediations.length = t.1.remediation.remediations.length := by
      decide +kernel
    have grown := congrArg List.length recorded.2.2
    rw [same t member, List.length_append, List.length_singleton] at grown
    exact absurd grown (Nat.succ_ne_self _).symm
  · rename_i e raised
    have returned : (reviseAmong paymentsEnv (runFrom paymentsEnv 0 restartAsked)
        revisedUnderOldKey {} {}).outcome.toBool = true := by
      decide +kernel
    rw [raised] at returned
    cases returned

end IncidentTriage.Verified
