import IncidentTriage.Verified.Transactions

/-! # Authorisation of executions

Every attempt starts under an approval that a human with a required role gave to
exactly this proposal and this policy decision, a decision that does not deny.  The
binding is kept by two invariants: `Decided`, of the decision each remediation points
at, and `Backed`, of every approval on record.
-/

namespace IncidentTriage.Verified

open IncidentTriage.Python IncidentTriage.Domain IncidentTriage.Incident
open IncidentTriage.Remediation IncidentTriage.PolicyEngine

/-! ## Decisions -/

/-- The hash is that of the row's own fields, and unless policy rejected the proposal,
the row points at a decision about it that does not deny. -/
structure Decided (env : Env) (s : Store) (id : Uuid) (row : RemediationRow) : Prop where
  hashed : row.proposalHash = proposalHash env.sha256 row.incidentId row.investigationId
    row.actionId row.catalogVersion row.parameters row.environment
  permitted : row.status ≠ .policyRejected → ∃ decisionId decision,
    row.policyDecisionId = some decisionId ∧
    s.remediation.policyDecisions[decisionId]? = some decision ∧
    decision.remediationId = id ∧ decision.proposalHash = row.proposalHash ∧
    decision.decision ≠ .deny

theorem Decided.kept {env : Env} {s s' : Store} {id : Uuid} {row row' : RemediationRow}
    (decided : Decided env s id row) (kept : ProposalsKept s s') (same : SameProposal row row')
    (status : row'.status ≠ .policyRejected → row.status ≠ .policyRejected) :
    Decided env s' id row' := by
  constructor
  · rw [same.proposalHash, same.incidentId, same.investigationId, same.actionId,
      same.catalogVersion, same.parameters, same.environment]
    exact decided.hashed
  · intro settled
    obtain ⟨decisionId, decision, pointer, found, about, hash, permits⟩ :=
      decided.permitted (status settled)
    obtain ⟨_, found', rfl⟩ := kept.decisions decisionId decision found
    exact ⟨decisionId, decision, same.policyDecisionId.trans pointer, found', about,
      hash.trans same.proposalHash.symm, permits⟩

def AllDecided (env : Env) (s : Store) : Prop :=
  Table.Every (Decided env s) s.remediation.remediations

theorem RowsEffect.allDecided {env : Env} {now : Time} {c : Command} {s s' : Store}
    (effect : RowsEffect env now c s s') (decided : AllDecided env s) : AllDecided env s' := by
  have kept := effect.proposalsKept
  have others : Table.Every (Decided env s') s.remediation.remediations :=
    decided.imp fun _ row _ held => held.kept kept (SameProposal.refl row) (fun settled => settled)
  unfold AllDecided
  cases effect with
  | inserted row decision fresh status remediations decisions =>
    rw [remediations]
    refine others.insert ⟨fresh.hashed, fun settled => ?_⟩
    have permits : decision.decision ≠ .deny :=
      status.elim (fun denied => absurd denied.1 settled) (fun asked => asked.2)
    refine ⟨_, decision, fresh.pointer, ?_, fresh.remediationId, fresh.proposalHash, permits⟩
    rw [decisions]
    exact Table.get_insert.mpr (.inr ⟨rfl, rfl⟩)
  | changed id row row' found same settled _ _ remediations =>
    rw [remediations]
    exact others.put found ((decided id row found).kept kept same fun _ => settled)
  | started id row row' _ _ _ _ found before _ _ same _ _ remediations =>
    rw [remediations]
    refine others.put found ((decided id row found).kept kept same fun _ => ?_)
    rcases before with before | before <;> simp [before]
  | untouched remediations =>
    rw [remediations]
    exact others

/-! ## Approvals -/

/-- The command that gave an approval: a human with a required role, not the operator
who proposed, agreed to this proposal's hash and to the decision it points at. -/
structure GivenBy (a : RemediationApprovalRow) (row : RemediationRow)
    (decision : RemediationPolicyDecisionRow) (c : Command) : Prop where
  command : ∃ roles decisionId comment role, c = .decideApproval a.remediationId a.approver roles
      true row.proposalHash decisionId comment ∧
    row.policyDecisionId = some decisionId ∧
    role ∈ roles ∧ role ∈ decision.requiredApproverRoles
  notSelf : ¬ (row.source = .operator ∧ row.proposedBy = a.approver)

/-- An approval is backed by one of the commands so far. -/
def Backed (issued : Command → Prop) (s : Store) (a : RemediationApprovalRow) : Prop :=
  a.decision = .approved → ∃ row decisionId decision c,
    s.remediation.remediations[a.remediationId]? = some row ∧
    row.policyDecisionId = some decisionId ∧
    s.remediation.policyDecisions[decisionId]? = some decision ∧
    issued c ∧ GivenBy a row decision c

theorem GivenBy.kept {a : RemediationApprovalRow} {row row' : RemediationRow}
    {decision : RemediationPolicyDecisionRow} {c : Command} (given : GivenBy a row decision c)
    (same : SameProposal row row') : GivenBy a row' decision c := by
  obtain ⟨⟨roles, decisionId, comment, role, command, pointer, held⟩, notSelf⟩ := given
  constructor
  · exact ⟨roles, decisionId, comment, role, by rw [same.proposalHash]; exact command,
      same.policyDecisionId.trans pointer, held⟩
  · rw [same.source, same.proposedBy]
    exact notSelf

theorem Backed.kept {issued : Command → Prop} {s s' : Store} {a : RemediationApprovalRow}
    (backed : Backed issued s a) (kept : ProposalsKept s s') : Backed issued s' a := by
  intro approved
  obtain ⟨row, decisionId, decision, c, found, pointer, decisionFound, was, given⟩ := backed approved
  obtain ⟨row', found', same⟩ := kept.remediations _ row found
  obtain ⟨_, decisionFound', rfl⟩ := kept.decisions decisionId decision decisionFound
  exact ⟨row', decisionId, decision, c, found', same.policyDecisionId.trans pointer, decisionFound',
    was, given.kept same⟩

theorem Backed.later {issued issued' : Command → Prop} {s : Store} {a : RemediationApprovalRow}
    (backed : Backed issued s a) (later : ∀ c, issued c → issued' c) : Backed issued' s a := by
  intro approved
  obtain ⟨row, decisionId, decision, c, found, pointer, decisionFound, was, given⟩ := backed approved
  exact ⟨row, decisionId, decision, c, found, pointer, decisionFound, later c was, given⟩

/-- A new approval is a human's, given by the command at hand. -/
theorem RemediationEffect.approvals {env : Env} {now : Time} {c : Command} {s s' : Store}
    (effect : RemediationEffect env now c s s') :
    ∀ a ∈ s'.remediation.approvals, a ∈ s.remediation.approvals ∨ Backed (· = c) s' a := by
  have old : s'.remediation.approvals = s.remediation.approvals →
      ∀ a ∈ s'.remediation.approvals, a ∈ s.remediation.approvals ∨ Backed (· = c) s' a :=
    fun same a listed => .inl (same ▸ listed)
  have kept := effect.rows.proposalsKept
  cases effect with
  | rejected _ _ _ _ _ _ _ _ tables => exact old (by rw [tables])
  | requested _ _ _ _ _ _ _ _ _ _ tables => exact old (by rw [tables])
  | blocked _ _ _ _ _ _ _ _ _ _ _ _ _ tables => exact old (by rw [tables])
  | started _ _ _ _ _ _ _ _ _ _ _ _ _ _ _ _ _ tables => exact old (by rw [tables])
  | interrupted _ _ _ _ _ _ _ _ _ _ _ _ _ _ _ _ _ _ _ _ tables => exact old (by rw [tables])
  | executed _ _ _ _ _ _ _ _ _ _ _ _ _ _ _ _ _ _ _ _ _ _ _ _ _ _ _ _ _ _ tables =>
    exact old (by rw [tables])
  | attemptFailed _ _ _ _ _ _ _ _ _ _ _ _ _ _ _ _ _ _ _ _ _ _ _ _ _ _ _ tables =>
    exact old (by rw [tables])
  | retriable _ _ _ _ _ _ _ _ _ _ _ _ _ _ _ _ _ _ _ _ _ _ _ _ _ tables =>
    exact old (by rw [tables])
  | configured _ _ _ tables => exact old (by rw [tables])
  | withdrawn _ _ _ _ decided _ _ _ _ _ notApproved _ _ _ _ _ tables =>
    intro a listed
    rw [tables] at listed
    rcases List.mem_append.mp listed with old | new
    · exact .inl old
    · exact .inr fun approved => absurd approved (notApproved a new).2
  | approved id row row' _ decision approval approver role hash roles decisionId comment command
      found _ _ _ agreed decisionFound held eligible notSelf approvalRow same _ _ _ _ tables =>
    intro a listed
    rw [tables] at listed
    rcases List.mem_append.mp listed with old | new
    · exact .inl old
    · obtain rfl := List.mem_singleton.mp new
      have backed : Backed (· = c) s a := by
        intro _
        subst approvalRow
        refine ⟨row, decisionId, decision, c, found, agreed.2, decisionFound, rfl,
          ⟨roles, decisionId, comment, role, ?_, agreed.2, held, eligible⟩, notSelf⟩
        rw [command, agreed.1]
        rfl
      exact .inr (backed.kept kept)

/-! ## The invariant -/

/-- The binding of decisions and approvals, over the commands so far. -/
structure Bound (env : Env) (issued : Command → Prop) (s : Store) : Prop where
  decided : AllDecided env s
  backed : ∀ a ∈ s.remediation.approvals, Backed issued s a

theorem Bound.of_same {env : Env} {issued : Command → Prop} {s s' : Store}
    (bound : Bound env issued s) (same : s'.remediation = s.remediation) :
    Bound env issued s' := by
  have kept := ProposalsKept.of_same same
  constructor
  · unfold AllDecided
    rw [same]
    exact bound.decided.imp fun _ row _ held =>
      held.kept kept (SameProposal.refl row) (fun settled => settled)
  · rw [same]
    exact fun a listed => (bound.backed a listed).kept kept

theorem Transaction.bound {env : Env} {now : Time} {tickets : List IssuedTicket} {c : Command}
    {s s' : Store} {issued : Command → Prop} (transaction : Transaction env now tickets c s s')
    (here : issued c) (bound : Bound env issued s) : Bound env issued s' := by
  cases transaction with
  | alert step => exact bound.of_same step.remediation
  | investigation step => exact bound.of_same step.remediation
  | verification step => exact bound.of_same step.remediation
  | remediation step =>
    have kept := step.effect.rows.proposalsKept
    refine ⟨step.effect.rows.allDecided bound.decided, fun a listed => ?_⟩
    rcases step.effect.approvals a listed with old | new
    · exact (bound.backed a old).kept kept
    · exact new.later fun _ same => same ▸ here

/-- A store in which no remediation was proposed yet: what references a remediation is
empty as well. -/
structure WithoutRemediations (s : Store) : Prop where
  remediations : s.remediation.remediations = []
  policyDecisions : s.remediation.policyDecisions = []
  approvals : s.remediation.approvals = []
  executions : s.remediation.executions = []

theorem run_bound {env : Env} {start : World} (fresh : WithoutRemediations start.store)
    (events : List Event) :
    Bound env (fun c => ∃ e ∈ events, e.command = c)
      (Machine.run (step env) start events).store := by
  refine Machine.invariant (P := fun (seen : List Event) (w : World) =>
    Bound env (fun c => ∃ e ∈ seen, e.command = c) w.store)
    ?initial ?preserved events
  case initial =>
    refine ⟨?_, by simp [fresh.approvals]⟩
    unfold AllDecided
    rw [fresh.remediations]
    exact Table.Every.nil
  case preserved =>
    intro seen e bound
    have wider : Bound env (fun c => ∃ e' ∈ seen ++ [e], e'.command = c)
        (Machine.run (step env) start seen).store := by
      refine ⟨bound.decided, fun a listed => (bound.backed a listed).later ?_⟩
      rintro c ⟨e', among, command⟩
      exact ⟨e', List.mem_append_left _ among, command⟩
    refine Machine.preserved_of_path
      (P := Bound env (fun c => ∃ e' ∈ seen ++ [e], e'.command = c)) ?_
      (execute_path env _ _ _ e.command) wider
    exact fun transaction => transaction.bound ⟨e, by simp, rfl⟩

/-! ## Attempts -/

/-- What an attempt of a remediation starts under. -/
structure AuthorisedBy (env : Env) (events : List Event) (s : Store) (attempt : RemediationExecutionRow)
    (row : RemediationRow) (entry : ActionCatalogEntry) (approval : RemediationApprovalRow)
    (decision : RemediationPolicyDecisionRow) : Prop where
  remediation : s.remediation.remediations[attempt.remediationId]? = some row
  hashed : row.proposalHash = proposalHash env.sha256 row.incidentId row.investigationId
    row.actionId row.catalogVersion row.parameters row.environment
  onRecord : approval ∈ s.remediation.approvals
  ofRemediation : approval.remediationId = attempt.remediationId
  approved : approval.decision = .approved
  sameHash : approval.proposalHash = row.proposalHash
  sameDecision : approval.policyDecisionId = row.policyDecisionId
  decided : decisionOf s row = some decision
  decisionOfRemediation : decision.remediationId = attempt.remediationId
  decisionHash : decision.proposalHash = row.proposalHash
  permits : decision.decision ≠ .deny
  given : ∃ e ∈ events, GivenBy approval row decision e.command
  globalReleased : globalScope ∉ engagedScopes s
  serviceReleased : serviceScope row.targetService ∉ engagedScopes s
  known : getEntry row.actionId = some entry
  current : row.catalogVersion = catalogVersion
  valid : (entry.validate row.parameters).2 = []
  target : row.targetService ∈ env.services
  number : attempt.attemptNumber = row.executionAttempts + 1
  limit : attempt.attemptNumber ≤ entry.maxAttempts

theorem approvalBinds_eq_true {s : Store} {id : Uuid} {row : RemediationRow}
    (binds : approvalBinds s id row = true) :
    ∃ a ∈ s.remediation.approvals, a.remediationId = id ∧ a.decision = .approved ∧
      a.proposalHash = row.proposalHash ∧ a.policyDecisionId = row.policyDecisionId := by
  unfold approvalBinds at binds
  split at binds
  · rename_i a found
    simp only [Bool.and_eq_true, beq_iff_eq] at binds
    have ofRemediation := List.find?_some found
    exact ⟨a, List.mem_of_find?_eq_some found, by simpa using ofRemediation, binds.1.1, binds.1.2,
      binds.2⟩
  · cases binds

/-- A remediation step inserts an attempt only by starting it. -/
theorem RemediationEffect.new_execution {env : Env} {now : Time} {c : Command} {s s' : Store}
    (effect : RemediationEffect env now c s s') {x : Uuid} {attempt : RemediationExecutionRow}
    (absent : s.remediation.executions[x]? = none)
    (present : s'.remediation.executions[x]? = some attempt) :
    ∃ row entry, s.remediation.remediations[attempt.remediationId]? = some row ∧
      (row.status = .approved ∨ row.status = .executing) ∧ getEntry row.actionId = some entry ∧
      executionBlocker env s attempt.remediationId row (getEntry row.actionId) = none ∧
      attempt.attemptNumber = row.executionAttempts + 1 := by
  have unchanged : s'.remediation.executions ≠ s.remediation.executions := by
    intro same
    rw [same, absent] at present
    cases present
  cases effect.rows with
  | inserted _ _ _ _ _ _ executions => exact absurd executions unchanged
  | untouched _ _ executions => exact absurd executions unchanged
  | changed _ _ _ _ _ _ _ _ _ _ kept =>
    cases kept with
    | same executions => exact absurd executions unchanged
    | changed y e e' found _ _ _ executions =>
      rw [executions] at present
      rcases (Table.get_put found).mp present with ⟨rfl, _⟩ | ⟨_, old⟩
      · rw [absent] at found
        cases found
      · rw [absent] at old
        cases old
  | started id row row' owner leaseSeconds entry _ found before known clear _ _ _ _ _ executions =>
    rw [executions] at present
    rcases Table.get_insert.mp present with old | ⟨_, rfl⟩
    · rw [absent] at old
      cases old
    · exact ⟨row, entry, found, before, known, clear, rfl⟩

theorem Bound.authorises {env : Env} {events : List Event} {s : Store}
    (bound : Bound env (fun c => ∃ e ∈ events, e.command = c) s)
    {attempt : RemediationExecutionRow} {row : RemediationRow} {entry : ActionCatalogEntry}
    (found : s.remediation.remediations[attempt.remediationId]? = some row)
    (before : row.status = .approved ∨ row.status = .executing)
    (known : getEntry row.actionId = some entry)
    (clear : executionBlocker env s attempt.remediationId row (getEntry row.actionId) = none)
    (number : attempt.attemptNumber = row.executionAttempts + 1) :
    ∃ approval decision, AuthorisedBy env events s attempt row entry approval decision := by
  have settled : row.status ≠ .policyRejected := by
    rcases before with before | before <;> simp [before]
  obtain ⟨globalReleased, serviceReleased, binds, unblocked⟩ := executionBlocker_eq_none clear
  obtain ⟨entry', known', current, valid, target, left⟩ := catalogBlocker_eq_none unblocked
  obtain rfl : entry' = entry := Option.some.inj (known'.symm.trans known)
  obtain ⟨a, listed, ofRemediation, approved, sameHash, sameDecision⟩ := approvalBinds_eq_true binds
  obtain ⟨hashed, permitted⟩ := bound.decided _ row found
  obtain ⟨decisionId, decision, pointer, decisionFound, about, hash, permits⟩ := permitted settled
  obtain ⟨row', decisionId', decision', c, found', pointer', decisionFound', issued, given⟩ :=
    bound.backed a listed approved
  -- the approval and the row name one remediation, so they point at one decision
  obtain rfl : row' = row := by
    rw [ofRemediation, found] at found'
    exact (Option.some.inj found').symm
  obtain rfl : decisionId' = decisionId := Option.some.inj (pointer'.symm.trans pointer)
  obtain rfl : decision' = decision := Option.some.inj (decisionFound'.symm.trans decisionFound)
  obtain ⟨e, among, rfl⟩ := issued
  exact ⟨a, decision', {
    remediation := found, hashed, onRecord := listed, ofRemediation, approved, sameHash
    sameDecision, decided := by simpa [decisionOf, pointer] using decisionFound
    decisionOfRemediation := about, decisionHash := hash, permits, given := ⟨e, among, given⟩
    globalReleased, serviceReleased, known, current, valid, target, number
    limit := by omega }⟩

/-- In every run from a store without remediations, an attempt is inserted only in a
store that authorises it. -/
theorem executions_are_authorised (env : Env) {start : World}
    (fresh : WithoutRemediations start.store) (events : List Event) (event : Event) {x : Uuid}
    {attempt : RemediationExecutionRow}
    (absent : (Machine.run (step env) start events).store.remediation.executions[x]? = none)
    (inserted : (step env (Machine.run (step env) start events)
      event).store.remediation.executions[x]? = some attempt) :
    ∃ row entry approval decision, AuthorisedBy env events
      (Machine.run (step env) start events).store attempt row entry approval decision := by
  have bound : Bound env (fun c => ∃ e ∈ events, e.command = c)
      (Machine.run (step env) start events).store := run_bound fresh events
  generalize Machine.run (step env) start events = w at *
  have handles : handlesAttempts event.command = true := by
    by_contra other
    have same := execute_executions_eq env (w.clock + event.elapsed) w.tickets w.store
      (Bool.eq_false_iff.mpr other)
    rw [step, same, absent] at inserted
    cases inserted
  rcases execute_attempts env (w.clock + event.elapsed) w.tickets w.store handles with
    same | ⟨step, _⟩
  · rw [Incident.step, same, absent] at inserted
    cases inserted
  · obtain ⟨row, entry, found, before, known, clear, number⟩ :=
      step.effect.new_execution absent inserted
    obtain ⟨approval, decision, authorised⟩ := bound.authorises found before known clear number
    exact ⟨row, entry, approval, decision, authorised⟩

theorem executions_are_authorised_restartApproved :
    ∃ attempt row entry approval decision, AuthorisedBy paymentsEnv restartApproved
      (runFrom paymentsEnv 0 restartApproved).store attempt row entry approval decision := by
  have started : ((step paymentsEnv (runFrom paymentsEnv 0 restartApproved)
      (next (.claimExecution 0 "runner-1" 60))).store.remediation.executions[0]?).isSome = true := by
    decide +kernel
  obtain ⟨attempt, inserted⟩ := Option.isSome_iff_exists.mp started
  exact ⟨attempt, executions_are_authorised paymentsEnv ⟨rfl, rfl, rfl, rfl⟩ restartApproved
    (next (.claimExecution 0 "runner-1" 60)) (by decide +kernel) inserted⟩

end IncidentTriage.Verified
