import IncidentTriage.Verified.Transactions

/-! # The lease of an investigation

A worker writes to an investigation under its name, while the lease is in that name.
Once another worker has claimed the investigation, or it is finished, the name is gone
and every write under it leaves the store as it is; and an investigation ends once, with
one outcome step and one event.
-/

namespace IncidentTriage.Verified

open IncidentTriage.Python IncidentTriage.Domain IncidentTriage.Incident

/-- The worker an investigation is leased to. -/
def leaseOwnerOf (s : Store) (id : Uuid) : Option String :=
  (s.investigation.investigations[id]?).bind (·.leaseOwner)

def isFinished (s : Store) (id : Uuid) : Bool :=
  match s.investigation.investigations[id]? with
  | some row => decide (row.status ∈ terminalInvestigationStatuses)
  | none => false

/-- The event is a claim of the investigation, and the worker gets it. -/
def ClaimsLease (w : World) (e : Event) (id : Uuid) (owner : String) : Prop :=
  ∃ leaseSeconds state s', e.command = .claim id owner leaseSeconds ∧
    claim (w.clock + e.elapsed) w.store id owner leaseSeconds = .ok (some state, s')

/-! ## The fence -/

theorem leaseOwnerOf_eq {s : Store} {id : Uuid} {row : InvestigationRow}
    (found : s.investigation.investigations[id]? = some row) :
    leaseOwnerOf s id = row.leaseOwner := by
  rw [leaseOwnerOf, found]
  rfl

/-- The lease after one investigation was rewritten. -/
theorem leaseOwnerOf_put {s s' : Store} {k id : Uuid} {row row' : InvestigationRow}
    (found : s.investigation.investigations[k]? = some row)
    (investigations : s'.investigation.investigations =
      s.investigation.investigations.set k row') :
    leaseOwnerOf s' id = if id = k then row'.leaseOwner else leaseOwnerOf s id := by
  by_cases here : id = k
  · subst here
    rw [if_pos rfl]
    apply leaseOwnerOf_eq
    rw [investigations]
    exact (Table.get_put found).mpr (.inl ⟨rfl, rfl⟩)
  · have other : k ≠ id := fun same => here same.symm
    rw [if_neg here, leaseOwnerOf, investigations, leaseOwnerOf, List.getElem?_set_ne other]

/-- A command that starts with the fence leaves the store as it is, unless the lease is in
the name of the worker that presents it. -/
theorem committed_fenced {α : Type} {s : Store} {id : Uuid} {owner : String}
    {rest : InvestigationRow → Except DomainError (α × Store)}
    (fencedOff : leaseOwnerOf s id ≠ some owner) :
    committed s (fenced s id owner >>= rest) = s := by
  cases held : fenced s id owner with
  | error e => rfl
  | ok row =>
    obtain ⟨found, _, leased⟩ := fenced_eq_ok.mp held
    rw [leaseOwnerOf_eq found] at fencedOff
    exact absurd leased fencedOff

theorem committed_release {s : Store} {now : Time} {id : Uuid} {owner : String}
    (fencedOff : leaseOwnerOf s id ≠ some owner) : committed s (release now s id owner) = s := by
  cases done : release now s id owner with
  | error e => rfl
  | ok r =>
    simp only [release, bind_eq_ok, lockInvestigation_eq_ok] at done
    obtain ⟨row, found, done⟩ := done
    rw [leaseOwnerOf_eq found] at fencedOff
    rw [if_neg fencedOff] at done
    cases done
    rfl

/-- What a worker presents without the lease changes nothing. -/
theorem execute_fenced (env : Env) (now : Time) (tickets : List IssuedTicket) {s : Store}
    {c : Command} {id : Uuid} {owner : String} (presented : presentedBy c = some (id, owner))
    (fencedOff : leaseOwnerOf s id ≠ some owner) : execute env now tickets s c = s := by
  cases c with
  | release i worker =>
    obtain ⟨rfl, rfl⟩ : i = id ∧ worker = owner := by simpa [presentedBy] using presented
    exact committed_release fencedOff
  | recordStep i worker record =>
    obtain ⟨rfl, rfl⟩ : i = id ∧ worker = owner := by simpa [presentedBy] using presented
    exact committed_fenced fencedOff
  | applyHypothesisUpdates i worker iteration callId batch =>
    obtain ⟨rfl, rfl⟩ : i = id ∧ worker = owner := by simpa [presentedBy] using presented
    exact committed_fenced fencedOff
  | complete i worker iteration callId result =>
    obtain ⟨rfl, rfl⟩ : i = id ∧ worker = owner := by simpa [presentedBy] using presented
    exact committed_fenced fencedOff
  | escalate i worker iteration e =>
    obtain ⟨rfl, rfl⟩ : i = id ∧ worker = owner := by simpa [presentedBy] using presented
    exact committed_fenced fencedOff
  | _ => cases presented

/-- A claim is granted, or nothing happens. -/
theorem claim_granted_or_same (now : Time) (s : Store) (id : Uuid) (owner : String)
    (leaseSeconds : Int) :
    (∃ state s', claim now s id owner leaseSeconds = .ok (some state, s')) ∨
      committed s (claim now s id owner leaseSeconds) = s := by
  cases done : claim now s id owner leaseSeconds with
  | error e => exact .inr rfl
  | ok r =>
    obtain ⟨granted, s'⟩ := r
    cases granted with
    | some state => exact .inl ⟨state, s', rfl⟩
    | none =>
      right
      simp only [claim, bind_eq_ok] at done
      obtain ⟨row, _, done⟩ := done
      split_ifs at done
      · cases done
        rfl
      · cases done
        rfl
      · simp only [bind_eq_ok, pure_eq_ok] at done
        obtain ⟨state, _, done⟩ := done
        cases done

theorem leaseOwnerOf_claim {now : Time} {s s' : Store} {id : Uuid} {owner : String}
    {leaseSeconds : Int} {state : InvestigationState}
    (granted : claim now s id owner leaseSeconds = .ok (some state, s')) :
    leaseOwnerOf s' id = some owner := by
  simp only [claim, bind_eq_ok, lockInvestigation_eq_ok] at granted
  obtain ⟨row, found, granted⟩ := granted
  split_ifs at granted
  · cases granted
  · cases granted
  · simp only [bind_eq_ok, pure_eq_ok] at granted
    obtain ⟨state', _, granted⟩ := granted
    cases granted
    rw [leaseOwnerOf_put found rfl, if_pos rfl]

/-! ## What a transaction does to the leases -/

/-- An investigation that ended has given its lease back. -/
def FinishedUnleased (s : Store) : Prop :=
  ∀ (id : Uuid) (row : InvestigationRow), s.investigation.investigations[id]? = some row →
    row.status ∈ terminalInvestigationStatuses → row.leaseOwner = none

/-- One investigation is opened, or one is rewritten; what an effect says about its
lease and about its status. -/
inductive LeaseEffect (now : Time) (c : Command) (s s' : Store) : Prop
  | untouched (investigations : s'.investigation.investigations = s.investigation.investigations)
  | opened (row : InvestigationRow) (unleased : row.leaseOwner = none)
      (status : row.status = .created)
      (investigations : s'.investigation.investigations =
        s.investigation.investigations ++ [row])
  | moved (id : Uuid) (row row' : InvestigationRow)
      (found : s.investigation.investigations[id]? = some row)
      (status : row'.status = row.status ∨ (row.status = .created ∧ row'.status = .investigating))
      (lease : LeaseMove now c id row row')
      (investigations : s'.investigation.investigations =
        s.investigation.investigations.set id row')
  | closed (id : Uuid) (row row' : InvestigationRow)
      (found : s.investigation.investigations[id]? = some row)
      (investigating : row.status = .investigating)
      (status : row'.status ∈ terminalInvestigationStatuses)
      (released : row'.leaseOwner = none)
      (investigations : s'.investigation.investigations =
        s.investigation.investigations.set id row')

theorem InvestigationEffect.lease {env : Env} {now : Time} {c : Command} {s s' : Store}
    (effect : InvestigationEffect env now c s s') : LeaseEffect now c s s' := by
  cases effect with
  | requested i incident row _ _ _ _ _ _ status _ tables unleased =>
    exact .opened row unleased status (by rw [tables])
  | worked id row row' steps found _ status _ _ tables lease =>
    exact .moved id row row' found status lease (by rw [tables])
  | updated id row row' updates step found _ _ status _ _ tables _ command leaseOwner =>
    obtain ⟨owner, iteration, callId, batch, rfl, _, held⟩ := command
    exact .moved id row row' found (.inl status) (.kept owner rfl held leaseOwner) (by rw [tables])
  | completed id row row' incident hypothesisId h result report step found _ investigating _ _ _
      status _ _ _ _ _ _ _ tables _ _ released =>
    exact .closed id row row' found investigating (by simp [status, terminalInvestigationStatuses])
      released (by rw [tables])
  | ended id row row' incident step found _ investigating _ status _ _ tables _ released =>
    refine .closed id row row' found investigating ?_ released (by rw [tables])
    rcases status with escalated | failed
    · simp [escalated, terminalInvestigationStatuses]
    · simp [failed, terminalInvestigationStatuses]

theorem Transaction.lease {env : Env} {now : Time} {tickets : List IssuedTicket} {c : Command}
    {s s' : Store} (transaction : Transaction env now tickets c s s') :
    LeaseEffect now c s s' := by
  cases transaction with
  | alert step => exact .untouched (by rw [step.investigation])
  | investigation step => exact step.effect.lease
  | remediation step => exact .untouched (by rw [step.investigation])
  | verification step => exact .untouched (by rw [step.investigation])

theorem LeaseEffect.finishedUnleased {now : Time} {c : Command} {s s' : Store}
    (effect : LeaseEffect now c s s') (unleased : FinishedUnleased s) : FinishedUnleased s' := by
  intro k row here finished
  cases effect with
  | untouched investigations =>
    rw [investigations] at here
    exact unleased k row here finished
  | opened new free status investigations =>
    rw [investigations] at here
    rcases Table.get_insert.mp here with old | ⟨_, rfl⟩
    · exact unleased k row old finished
    · exact free
  | moved id before after found status lease investigations =>
    rw [investigations] at here
    rcases (Table.get_put found).mp here with ⟨rfl, rfl⟩ | ⟨_, old⟩
    · -- a row that stays open, or keeps the status it had
      cases lease with
      | claimed owner leaseSeconds command unfinished =>
        rcases status with same | ⟨_, investigating⟩
        · rw [same] at finished
          exact absurd finished unfinished
        · simp [investigating, terminalInvestigationStatuses] at finished
      | kept owner presented held leaseOwner =>
        rcases status with same | ⟨_, investigating⟩
        · rw [same] at finished
          rw [leaseOwner]
          exact unleased k before found finished
        · simp [investigating, terminalInvestigationStatuses] at finished
    · exact unleased k row old finished
  | closed id before after found investigating status released investigations =>
    rw [investigations] at here
    rcases (Table.get_put found).mp here with ⟨rfl, rfl⟩ | ⟨_, old⟩
    · exact released
    · exact unleased k row old finished

/-- Only a granted claim puts a lease into a worker's name. -/
theorem LeaseEffect.leaseOwnerOf_ne {now : Time} {c : Command} {s s' : Store} {id : Uuid}
    {owner : String} (effect : LeaseEffect now c s s')
    (others : ∀ leaseSeconds, c ≠ .claim id owner leaseSeconds)
    (free : leaseOwnerOf s id ≠ some owner) : leaseOwnerOf s' id ≠ some owner := by
  cases effect with
  | untouched investigations => rwa [leaseOwnerOf, investigations]
  | opened new unleased status investigations =>
    intro held
    rw [leaseOwnerOf, investigations] at held
    obtain ⟨row, here, leased⟩ := Option.bind_eq_some_iff.mp held
    rcases Table.get_insert.mp here with old | ⟨_, rfl⟩
    · exact free ((leaseOwnerOf_eq old).trans leased)
    · rw [unleased] at leased
      cases leased
  | moved k before after found status lease investigations =>
    rw [leaseOwnerOf_put found investigations]
    split_ifs with here
    · subst here
      rw [leaseOwnerOf_eq found] at free
      cases lease with
      | claimed worker leaseSeconds command _ _ leaseOwner =>
        rw [leaseOwner]
        intro same
        obtain rfl := Option.some.inj same
        exact others leaseSeconds command
      | kept worker presented held leaseOwner => rwa [leaseOwner]
    · exact free
  | closed k before after found investigating status released investigations =>
    rw [leaseOwnerOf_put found investigations, released]
    split_ifs
    · simp
    · exact free

/-- What is finished stays as it is: there is no lease to write under. -/
theorem LeaseEffect.finished_row {now : Time} {c : Command} {s s' : Store} {id : Uuid}
    {row : InvestigationRow} (effect : LeaseEffect now c s s') (unleased : FinishedUnleased s)
    (here : s.investigation.investigations[id]? = some row)
    (finished : row.status ∈ terminalInvestigationStatuses) :
    s'.investigation.investigations[id]? = some row := by
  have elsewhere : ∀ {k : Uuid} {before after : InvestigationRow},
      s.investigation.investigations[k]? = some before →
      s'.investigation.investigations = s.investigation.investigations.set k after →
      (id = k → False) → s'.investigation.investigations[id]? = some row := by
    intro k before after found investigations other
    rw [investigations]
    exact (Table.get_put found).mpr (.inr ⟨other, here⟩)
  cases effect with
  | untouched investigations => rwa [investigations]
  | opened new free status investigations =>
    rw [investigations]
    exact Table.get_insert.mpr (.inl here)
  | moved k before after found status lease investigations =>
    refine elsewhere found investigations ?_
    rintro rfl
    rw [here] at found
    cases found
    cases lease with
    | claimed owner leaseSeconds command unfinished => exact unfinished finished
    | kept owner presented held =>
      rw [unleased id row here finished] at held
      cases held
  | closed k before after found investigating status released investigations =>
    refine elsewhere found investigations ?_
    rintro rfl
    rw [here] at found
    cases found
    simp [investigating, terminalInvestigationStatuses] at finished

/-! ## How often an investigation ends -/

/-- The documents in a trace that record its end. -/
def conclusionsOf (s : Store) (id : Uuid) : Nat :=
  s.investigation.steps.countP (fun step => step.investigationId == id && concludes step)

/-- The steps of kind `OUTCOME` in a trace. -/
def outcomeStepsOf (s : Store) (id : Uuid) : Nat :=
  s.investigation.steps.countP (fun step => step.investigationId == id && step.kind == .outcome)

/-- A transaction ends no investigation, or one that had not ended. -/
inductive EndEffect (c : Command) (s s' : Store) : Prop
  | none (finished : ∀ id, isFinished s' id = isFinished s id)
      (conclusions : ∀ id, conclusionsOf s' id = conclusionsOf s id)
      (outcomes : recordsOutcome c = false → ∀ id, outcomeStepsOf s' id = outcomeStepsOf s id)
      (ends : Announces endsInvestigation s s' none)
  | one (id : Uuid) (before : isFinished s id = false)
      (finished : ∀ k, isFinished s' k = (decide (id = k) || isFinished s k))
      (conclusions : ∀ k, conclusionsOf s' k = conclusionsOf s k + (decide (id = k)).toNat)
      (outcomes : ∀ k, outcomeStepsOf s' k = outcomeStepsOf s k + (decide (id = k)).toNat)
      (ends : Announces endsInvestigation s s' (some id))

theorem isFinished_eq {s : Store} {id : Uuid} {row : InvestigationRow}
    (found : s.investigation.investigations[id]? = some row) :
    isFinished s id = decide (row.status ∈ terminalInvestigationStatuses) := by
  rw [isFinished, found]

theorem isFinished_put {s s' : Store} {k : Uuid} {row row' : InvestigationRow}
    (found : s.investigation.investigations[k]? = some row)
    (investigations : s'.investigation.investigations =
      s.investigation.investigations.set k row') (id : Uuid) :
    isFinished s' id = if id = k then decide (row'.status ∈ terminalInvestigationStatuses)
      else isFinished s id := by
  by_cases here : id = k
  · subst here
    rw [if_pos rfl]
    apply isFinished_eq
    rw [investigations]
    exact (Table.get_put found).mpr (.inl ⟨rfl, rfl⟩)
  · have other : k ≠ id := fun same => here same.symm
    rw [if_neg here, isFinished, investigations, isFinished, List.getElem?_set_ne other]

/-- A row that stays open changes no investigation's being finished. -/
theorem isFinished_move {s s' : Store} {k : Uuid} {row row' : InvestigationRow}
    (found : s.investigation.investigations[k]? = some row)
    (status : row'.status = row.status ∨ (row.status = .created ∧ row'.status = .investigating))
    (investigations : s'.investigation.investigations =
      s.investigation.investigations.set k row') (id : Uuid) :
    isFinished s' id = isFinished s id := by
  rw [isFinished_put found investigations]
  split_ifs with here
  · subst here
    rw [isFinished_eq found]
    rcases status with same | ⟨created, investigating⟩
    · rw [same]
    · rw [created, investigating]
      rfl
  · rfl

/-- The count of some steps of one trace, after steps that are not among them. -/
theorem countP_steps_append {p : InvestigationStepRow → Bool}
    {steps new : List InvestigationStepRow} (others : ∀ step ∈ new, p step = false) (id : Uuid) :
    (steps ++ new).countP (fun step => step.investigationId == id && p step) =
      steps.countP (fun step => step.investigationId == id && p step) := by
  have zero : new.countP (fun step => step.investigationId == id && p step) = 0 := by
    apply List.countP_eq_zero.mpr
    intro step member
    simp [others step member]
  rw [List.countP_append, zero, Nat.add_zero]

/-- The count of some steps of one trace, after one of them. -/
theorem countP_steps_concat {p : InvestigationStepRow → Bool} {steps : List InvestigationStepRow}
    {step : InvestigationStepRow} (holds : p step = true) (id : Uuid) :
    (steps ++ [step]).countP (fun step => step.investigationId == id && p step) =
      steps.countP (fun step => step.investigationId == id && p step) +
        (decide (step.investigationId = id)).toNat := by
  rw [List.countP_append, List.countP_singleton]
  by_cases here : step.investigationId = id <;> simp [here, holds]

theorem InvestigationEffect.ending {env : Env} {now : Time} {c : Command} {s s' : Store}
    (effect : InvestigationEffect env now c s s') : EndEffect c s s' := by
  -- the end of investigation `id`, recorded in one step
  have ended : ∀ {id : Uuid} {row : InvestigationRow} (row' : InvestigationRow)
      {step : InvestigationStepRow},
      s.investigation.investigations[id]? = some row → row.status = .investigating →
      row'.status ∈ terminalInvestigationStatuses → step.investigationId = id →
      concludes step = true ∧ step.kind = .outcome →
      s'.investigation.investigations = s.investigation.investigations.set id row' →
      s'.investigation.steps = s.investigation.steps ++ [step] →
      Announces endsInvestigation s s' (some id) → EndEffect c s s' := by
    rintro id row row' step found investigating status rfl ⟨concluded, outcome⟩ investigations
      steps ends
    refine .one step.investigationId ?_ ?_ ?_ ?_ ends
    · rw [isFinished_eq found, investigating]
      rfl
    · intro k
      rw [isFinished_put found investigations]
      by_cases here : k = step.investigationId
      · simp [here, status]
      · have other : step.investigationId ≠ k := fun same => here same.symm
        simp [here, other]
    · intro k
      rw [conclusionsOf, conclusionsOf, steps]
      exact countP_steps_concat concluded k
    · intro k
      rw [outcomeStepsOf, outcomeStepsOf, steps]
      exact countP_steps_concat (p := fun step => step.kind == .outcome) (by simp [outcome]) k
  cases effect with
  | requested i incident row _ _ _ _ _ _ status _ tables _ ends =>
    refine .none ?_ ?_ ?_ ends
    · intro id
      rw [isFinished, isFinished, tables]
      rcases Nat.lt_trichotomy id s.investigation.investigations.length with old | rfl | beyond
      · rw [List.getElem?_append_left old]
      · simp [status, terminalInvestigationStatuses]
      · rw [List.getElem?_eq_none (by simp; omega), List.getElem?_eq_none (by omega)]
    · intro id
      rw [conclusionsOf, conclusionsOf, tables]
    · intro _ id
      rw [outcomeStepsOf, outcomeStepsOf, tables]
  | worked id row row' steps found _ status _ _ tables _ ongoing ends =>
    refine .none (isFinished_move found status (by rw [tables])) ?_ ?_ ends
    · intro k
      rw [conclusionsOf, conclusionsOf, tables]
      exact countP_steps_append (fun step member => (ongoing step member).1) k
    · intro none k
      rw [outcomeStepsOf, outcomeStepsOf, tables]
      refine countP_steps_append (p := fun step => step.kind == .outcome) ?_ k
      intro step member
      by_contra outcome
      have recorded := (ongoing step member).2 (by simpa using outcome)
      rw [none] at recorded
      cases recorded
  | updated id row row' updates step found _ _ status _ _ tables _ _ _ ongoing ends =>
    refine .none (isFinished_move found (.inl status) (by rw [tables])) ?_ ?_ ends
    · intro k
      rw [conclusionsOf, conclusionsOf, tables]
      exact countP_steps_append (by simpa using ongoing.1) k
    · intro _ k
      rw [outcomeStepsOf, outcomeStepsOf, tables]
      exact countP_steps_append (p := fun step => step.kind == .outcome)
        (by simpa using ongoing.2) k
  | completed id row row' incident hypothesisId h result report step found _ investigating _ _ _
      status step_of _ _ _ _ _ _ tables _ _ _ outcome ends =>
    exact ended row' found investigating (by simp [status, terminalInvestigationStatuses]) step_of
      outcome (by rw [tables]) (by rw [tables]) ends
  | ended id row row' incident step found _ investigating _ status step_of _ tables _ _ outcome
      ends =>
    refine ended row' found investigating ?_ step_of outcome (by rw [tables]) (by rw [tables]) ends
    rcases status with escalated | failed
    · simp [escalated, terminalInvestigationStatuses]
    · simp [failed, terminalInvestigationStatuses]

/-- A step of another service ends no investigation. -/
theorem EndEffect.of_others {c : Command} {s s' : Store} {own : OutboxPayload → Bool}
    (same : s'.investigation = s.investigation) (publishes : Publishes own s s')
    (foreign : ∀ id p, own p = true → endsInvestigation id p = false) : EndEffect c s s' := by
  refine .none ?_ ?_ ?_ (.of_publishes publishes foreign)
  · intro id
    rw [isFinished, same, isFinished]
  · intro id
    rw [conclusionsOf, same, conclusionsOf]
  · intro _ id
    rw [outcomeStepsOf, same, outcomeStepsOf]

theorem Transaction.ending {env : Env} {now : Time} {tickets : List IssuedTicket} {c : Command}
    {s s' : Store} (transaction : Transaction env now tickets c s s') : EndEffect c s s' := by
  cases transaction with
  | alert step publishes =>
    refine .of_others step.investigation publishes ?_
    intro id p own
    cases p <;> first | rfl | cases own
  | investigation step => exact step.effect.ending
  | remediation step publishes =>
    refine .of_others step.investigation publishes ?_
    intro id p own
    cases p <;> first | rfl | cases own
  | verification step =>
    refine .of_others step.investigation step.publishes ?_
    intro id p own
    cases p <;> first | rfl | cases own

/-- Every investigation has one conclusion and one event if it is finished, and none
before. -/
def ConcludedOnce (s : Store) : Prop :=
  ∀ id, conclusionsOf s id = (isFinished s id).toNat ∧
    published (endsInvestigation id) s = (isFinished s id).toNat

theorem EndEffect.concludedOnce {c : Command} {s s' : Store} (effect : EndEffect c s s')
    (once : ConcludedOnce s) : ConcludedOnce s' := by
  intro k
  obtain ⟨documents, events⟩ := once k
  cases effect with
  | none finished conclusions _ ends =>
    rw [finished k, conclusions k, ends k]
    exact ⟨documents, by simpa using events⟩
  | one id before finished conclusions _ ends =>
    rw [finished k, conclusions k, ends k, documents, events]
    by_cases here : id = k
    · subst here
      simp [before]
    · simp [here]

theorem EndEffect.outcomesOnce {c : Command} {s s' : Store} (effect : EndEffect c s s')
    (none : recordsOutcome c = false)
    (once : ∀ id, outcomeStepsOf s id = (isFinished s id).toNat) :
    ∀ id, outcomeStepsOf s' id = (isFinished s' id).toNat := by
  intro k
  cases effect with
  | none finished _ outcomes =>
    rw [finished k, outcomes none k]
    exact once k
  | one id before finished _ outcomes =>
    rw [finished k, outcomes k, once k]
    by_cases here : id = k
    · subst here
      simp [before]
    · simp [here]

/-! ## Runs -/

theorem run_finishedUnleased (env : Env) (clock : Time) (events : List Event) :
    FinishedUnleased (runFrom env clock events).store :=
  run_invariant (fun transaction unleased => transaction.lease.finishedUnleased unleased)
    (fun _ _ found => by cases found) events

/-- Without a claim that is granted, the lease does not come into a worker's name. -/
theorem step_leaseOwnerOf_ne (env : Env) {w : World} {e : Event} {id : Uuid} {owner : String}
    (refused : ¬ ClaimsLease w e id owner) (free : leaseOwnerOf w.store id ≠ some owner) :
    leaseOwnerOf (step env w e).store id ≠ some owner := by
  by_cases claims : ∃ leaseSeconds, e.command = .claim id owner leaseSeconds
  · obtain ⟨leaseSeconds, command⟩ := claims
    rcases claim_granted_or_same (w.clock + e.elapsed) w.store id owner leaseSeconds with
      ⟨state, s', granted⟩ | same
    · exact absurd ⟨leaseSeconds, state, s', command, granted⟩ refused
    · have unchanged : (step env w e).store = w.store := by
        simp only [step, command]
        exact same
      rwa [unchanged]
  · have others : ∀ leaseSeconds, e.command ≠ .claim id owner leaseSeconds :=
      fun leaseSeconds command => claims ⟨leaseSeconds, command⟩
    exact Machine.preserved_of_path (P := fun s => leaseOwnerOf s id ≠ some owner)
      (fun transaction before => transaction.lease.leaseOwnerOf_ne others before)
      (execute_path env (w.clock + e.elapsed) w.tickets w.store e.command) free

theorem step_leaseOwnerOf_claim (env : Env) {w : World} {e : Event} {id : Uuid} {owner : String}
    (granted : ClaimsLease w e id owner) :
    leaseOwnerOf (step env w e).store id = some owner := by
  obtain ⟨leaseSeconds, state, s', command, done⟩ := granted
  have after : (step env w e).store = s' := by
    simp only [step, command, execute, done, committed]
  rw [after]
  exact leaseOwnerOf_claim done

/-- What is finished stays as it is, whatever happens. -/
theorem step_finished_row (env : Env) {w : World} {e : Event} {id : Uuid}
    {row : InvestigationRow} (unleased : FinishedUnleased w.store)
    (here : w.store.investigation.investigations[id]? = some row)
    (finished : row.status ∈ terminalInvestigationStatuses) :
    (step env w e).store.investigation.investigations[id]? = some row := by
  have both := Machine.preserved_of_path
    (P := fun s => FinishedUnleased s ∧ s.investigation.investigations[id]? = some row)
    (fun transaction before => ⟨transaction.lease.finishedUnleased before.1,
      transaction.lease.finished_row before.1 before.2 finished⟩)
    (execute_path env (w.clock + e.elapsed) w.tickets w.store e.command) ⟨unleased, here⟩
  exact both.2

theorem step_isFinished (env : Env) {w : World} {e : Event} {id : Uuid}
    (unleased : FinishedUnleased w.store) (finished : isFinished w.store id = true) :
    isFinished (step env w e).store id = true := by
  unfold isFinished at finished
  split at finished
  · rename_i row here
    have terminal := of_decide_eq_true finished
    rw [isFinished_eq (step_finished_row env unleased here terminal)]
    exact finished
  · cases finished

theorem run_concludedOnce (env : Env) (clock : Time) (events : List Event) :
    ConcludedOnce (runFrom env clock events).store :=
  run_invariant (fun transaction once => transaction.ending.concludedOnce once)
    (fun _ => ⟨rfl, rfl⟩) events

/-- Where no worker records a step of kind `OUTCOME` of its own, there is one such step
in the trace of a finished investigation, and none before. -/
theorem run_outcomesOnce {env : Env} {clock : Time} {events : List Event}
    (none : ∀ e ∈ events, recordsOutcome e.command = false) (id : Uuid) :
    outcomeStepsOf (runFrom env clock events).store id =
      (isFinished (runFrom env clock events).store id).toNat := by
  have each : ∀ events : List Event, (∀ e ∈ events, recordsOutcome e.command = false) →
      ∀ id, outcomeStepsOf (runFrom env clock events).store id =
        (isFinished (runFrom env clock events).store id).toNat := by
    intro events
    induction events using List.reverseRecOn with
    | nil => exact fun _ _ => rfl
    | append_singleton events e ih =>
      intro none
      have before := ih fun e' member => none e' (List.mem_append_left _ member)
      rw [runFrom, Machine.run_concat]
      exact Machine.preserved_of_path
        (P := fun s => ∀ id, outcomeStepsOf s id = (isFinished s id).toNat)
        (fun transaction once => transaction.ending.outcomesOnce (none e (by simp)) once)
        (execute_path env _ _ _ e.command) before
  exact each events none id

/-- A worker's write to an investigation, or its claim of it. -/
def concernsInvestigation (id : Uuid) (c : Command) : Prop :=
  (∃ owner, presentedBy c = some (id, owner)) ∨
    ∃ owner leaseSeconds, c = .claim id owner leaseSeconds

/-- What a run says about the leases of investigations. -/
structure LeasesFenced (env : Env) (clock : Time) (events : List Event) : Prop where
  /-- Once `b` has claimed the investigation, nothing `a` presents changes the store,
  until `a` gets it again. -/
  overtaken : ∀ (earlier later : List Event) (e : Event) (id : Uuid) (a b : String),
    events = earlier ++ e :: later → a ≠ b → ClaimsLease (runFrom env clock earlier) e id b →
    (∀ more e' rest, later = more ++ e' :: rest →
      ¬ ClaimsLease (runFrom env clock (earlier ++ e :: more)) e' id a) →
    ∀ now tickets c, presentedBy c = some (id, a) →
      execute env now tickets (runFrom env clock events).store c =
        (runFrom env clock events).store
  /-- A finished investigation keeps its row, and no worker changes anything through it. -/
  finished : ∀ (earlier later : List Event) (id : Uuid) (row : InvestigationRow),
    events = earlier ++ later →
    (runFrom env clock earlier).store.investigation.investigations[id]? = some row →
    row.status ∈ terminalInvestigationStatuses →
    (runFrom env clock events).store.investigation.investigations[id]? = some row ∧
      ∀ now tickets c, concernsInvestigation id c →
        execute env now tickets (runFrom env clock events).store c =
          (runFrom env clock events).store
  transitions : ∀ id, Machine.rises (fun w => isFinished w.store id) (step env)
    (emptyWorld clock) events = (isFinished (runFrom env clock events).store id).toNat
  conclusions : ∀ id, conclusionsOf (runFrom env clock events).store id =
    (isFinished (runFrom env clock events).store id).toNat
  ends : ∀ id, published (endsInvestigation id) (runFrom env clock events).store =
    (isFinished (runFrom env clock events).store id).toNat
  outcomes : (∀ e ∈ events, recordsOutcome e.command = false) → ∀ id,
    outcomeStepsOf (runFrom env clock events).store id =
      (isFinished (runFrom env clock events).store id).toNat

theorem execute_finished (env : Env) (now : Time) (tickets : List IssuedTicket) {s : Store}
    {c : Command} {id : Uuid} {row : InvestigationRow} (unleased : FinishedUnleased s)
    (here : s.investigation.investigations[id]? = some row)
    (finished : row.status ∈ terminalInvestigationStatuses)
    (concerns : concernsInvestigation id c) : execute env now tickets s c = s := by
  rcases concerns with ⟨owner, presented⟩ | ⟨owner, leaseSeconds, rfl⟩
  · apply execute_fenced env now tickets presented
    rw [leaseOwnerOf_eq here, unleased id row here finished]
    simp
  · rcases claim_granted_or_same now s id owner leaseSeconds with ⟨state, s', granted⟩ | same
    · simp only [claim, lockInvestigation_eq_ok.mpr here, bind_eq_ok] at granted
      obtain ⟨row', found, granted⟩ := granted
      cases found
      rw [if_pos finished] at granted
      cases granted
    · exact same

/-- Investigations are fenced by their leases, in every run. -/
theorem leases_are_fenced (env : Env) (clock : Time) (events : List Event) :
    LeasesFenced env clock events where
  overtaken := by
    rintro earlier later e id a b rfl distinct granted refused now tickets c presented
    apply execute_fenced env now tickets presented
    rw [runFrom, Machine.run_append, Machine.run_cons]
    -- the lease is in `b`'s name first, and only a claim of `a` can change it to `a`
    have start : leaseOwnerOf (step env (runFrom env clock earlier) e).store id ≠ some a := by
      rw [step_leaseOwnerOf_claim env granted]
      exact fun same => distinct (Option.some.inj same).symm
    have met : Machine.StepsMeet (fun w e' => ¬ ClaimsLease w e' id a) (step env)
        (step env (runFrom env clock earlier) e) later := by
      apply Machine.stepsMeet_iff.mpr
      intro more e' rest split
      have here := refused more e' rest split
      rwa [runFrom, Machine.run_append, Machine.run_cons] at here
    exact Machine.invariant_of_stepsMeet (P := fun w : World => leaseOwnerOf w.store id ≠ some a)
      start (fun w e' refused free => step_leaseOwnerOf_ne env refused free) met
  finished := by
    rintro earlier later id row rfl here finished
    have kept : (runFrom env clock (earlier ++ later)).store.investigation.investigations[id]? =
        some row := by
      rw [runFrom, Machine.run_append]
      have preserved : ∀ w e, FinishedUnleased w.store ∧
          w.store.investigation.investigations[id]? = some row →
          FinishedUnleased (step env w e).store ∧
            (step env w e).store.investigation.investigations[id]? = some row := by
        intro w e before
        refine ⟨?_, step_finished_row env before.1 before.2 finished⟩
        exact Machine.preserved_of_path (P := FinishedUnleased)
          (fun transaction unleased => transaction.lease.finishedUnleased unleased)
          (execute_path env _ _ _ e.command) before.1
      exact (Machine.state_invariant (P := fun w : World => FinishedUnleased w.store ∧
        w.store.investigation.investigations[id]? = some row)
        ⟨run_finishedUnleased env clock earlier, here⟩ preserved later).2
    exact ⟨kept, fun now tickets c concerns => execute_finished env now tickets
      (run_finishedUnleased env clock _) kept finished concerns⟩
  transitions id := by
    refine Machine.rises_of_stable (p := fun w : World => isFinished w.store id) rfl ?_ events
    intro events e held
    exact step_isFinished env (run_finishedUnleased env clock events) held
  conclusions id := (run_concludedOnce env clock events id).1
  ends id := (run_concludedOnce env clock events id).2
  outcomes none id := run_outcomesOnce none id

end IncidentTriage.Verified
