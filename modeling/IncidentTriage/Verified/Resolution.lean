import IncidentTriage.Verified.Lifecycle
import IncidentTriage.Verified.Polls

/-! # Resolutions

An incident is resolved only out of `VERIFYING`, by the verdict `PASSED` of the
verification its executed remediation refers to; and that verdict rests on a streak of
passing polls, each under a claim of its own made after the grace period.
-/

namespace IncidentTriage.Verified

open IncidentTriage.Python IncidentTriage.Domain IncidentTriage.Incident

/-! ## The verification of a remediation -/

/-- Every verification is about a remediation of the same incident. -/
def VerificationsRefer (s : Store) : Prop :=
  Table.Every (fun _ v => ∃ r : RemediationRow,
    s.remediation.remediations[v.remediationId]? = some r ∧ r.incidentId = v.incidentId)
    s.verification.verifications

theorem VerificationsRefer.of_remediations {s s' : Store} (refer : VerificationsRefer s)
    (kept : Table.Evolves SameProposal s.remediation.remediations s'.remediation.remediations)
    (verification : s'.verification = s.verification) : VerificationsRefer s' := by
  unfold VerificationsRefer
  rw [verification]
  refine refer.imp fun _ v _ ⟨r, found, same⟩ => ?_
  obtain ⟨r', found', proposal⟩ := kept _ r found
  exact ⟨r', found', proposal.incidentId.trans same⟩

theorem VerificationsRefer.put {s s' : Store} {id : Uuid} {row row' : VerificationRow}
    (refer : VerificationsRefer s) (found : s.verification.verifications[id]? = some row)
    (same : SameVerification row row')
    (verifications : s'.verification.verifications = s.verification.verifications.set id row')
    (remediation : s'.remediation = s.remediation) : VerificationsRefer s' := by
  unfold VerificationsRefer
  rw [verifications, remediation]
  refine Table.Every.put refer found ?_
  rw [same.remediationId, same.incidentId]
  exact refer id row found

theorem RecordedPoll.same {now : Time} {s : Store} {ticket : VerificationTicket}
    {row row' : VerificationRow} {o : VerificationObservationRow} {result : ObservationResult}
    (recorded : RecordedPoll now s ticket row row' o result) : SameVerification row row' := by
  rw [recorded.after]
  exact ⟨rfl, rfl, rfl, rfl⟩

theorem VerificationsRefer.request {env : Env} {now : Time} {c : Command} {s s' : Store}
    (refer : VerificationsRefer s) (effect : RemediationEffect env now c s s')
    {id : Uuid} {row : RemediationRow} {v : VerificationRow}
    (found : s.remediation.remediations[id]? = some row) (fresh : FreshVerification id row v)
    (verifications : s'.verification.verifications = s.verification.verifications ++ [v]) :
    VerificationsRefer s' := by
  have kept := effect.rows.proposalsKept.remediations
  unfold VerificationsRefer
  rw [verifications]
  refine Table.Every.insert (refer.imp fun _ v _ ⟨r, found, same⟩ => ?_) ?_
  · obtain ⟨r', found', proposal⟩ := kept _ r found
    exact ⟨r', found', proposal.incidentId.trans same⟩
  · obtain ⟨row', found', proposal⟩ := kept id row found
    exact ⟨row', by rw [fresh.remediationId]; exact found',
      proposal.incidentId.trans fresh.incidentId.symm⟩

theorem RemediationStep.verificationsRefer {env : Env} {now : Time} {c : Command} {s s' : Store}
    (step : RemediationStep env now c s s') (refer : VerificationsRefer s) :
    VerificationsRefer s' := by
  have kept := step.effect.rows.proposalsKept.remediations
  cases step.effect.verifications with
  | same verification => exact refer.of_remediations kept verification
  | requested id row v found fresh verifications =>
    exact refer.request step.effect found fresh verifications

/-- A verification transaction rewrites one row. -/
theorem VerificationStep.rewrites {env : Env} {now : Time} {tickets : List IssuedTicket}
    {c : Command} {s s' : Store} (step : VerificationStep env now tickets c s s') :
    ∃ id row row', s.verification.verifications[id]? = some row ∧ SameVerification row row' ∧
      s'.verification.verifications = s.verification.verifications.set id row' := by
  cases step.effect with
  | started id row found pending incidents tables =>
    have same : SameVerification row (row.started s now) := ⟨rfl, rfl, rfl, rfl⟩
    exact ⟨id, row, _, found, same, congrArg VerificationTables.verifications tables⟩
  | claimed id row row₁ owner leaseSeconds command found begun due incidents tables =>
    have same : SameVerification row₁ (row₁.claimed now owner leaseSeconds) :=
      ⟨rfl, rfl, rfl, rfl⟩
    exact ⟨id, row, _, found, begun.same.trans same,
      congrArg VerificationTables.verifications tables⟩
  | closed id row row₁ row' decision found begun late decided verdict closed effect tables =>
    exact ⟨id, row, row', found, begun.same.trans closed.same,
      congrArg VerificationTables.verifications tables⟩
  | observed position issued sample evidenceIds observedAt row row' o result links command held
      recorded incidents tables =>
    exact ⟨_, row, row', recorded.found, recorded.same,
      congrArg VerificationTables.verifications tables⟩
  | decided position issued sample evidenceIds observedAt row row₁ row' o result links decision
      command held recorded decided verdict closed effect tables =>
    exact ⟨_, row, row', recorded.found, recorded.same.trans closed.same,
      congrArg VerificationTables.verifications tables⟩

theorem VerificationStep.verificationsRefer {env : Env} {now : Time} {tickets : List IssuedTicket}
    {c : Command} {s s' : Store} (step : VerificationStep env now tickets c s s')
    (refer : VerificationsRefer s) : VerificationsRefer s' := by
  obtain ⟨id, row, row', found, same, verifications⟩ := step.rewrites
  exact refer.put found same verifications step.remediation

theorem Transaction.verificationsRefer {env : Env} {now : Time} {tickets : List IssuedTicket}
    {c : Command} {s s' : Store} (transaction : Transaction env now tickets c s s')
    (refer : VerificationsRefer s) : VerificationsRefer s' := by
  have same : s'.remediation = s.remediation → s'.verification = s.verification →
      VerificationsRefer s' := by
    intro remediation verification
    refine refer.of_remediations ?_ verification
    rw [remediation]
    exact Table.Evolves.refl SameProposal.refl _
  cases transaction with
  | alert step => exact same step.remediation step.verification
  | investigation step => exact same step.remediation step.verification
  | remediation step => exact step.verificationsRefer refer
  | verification step => exact step.verificationsRefer refer

theorem verificationsRefer_empty : VerificationsRefer {} :=
  Table.Every.nil

theorem run_verificationsRefer (env : Env) (clock : Time) (events : List Event) :
    VerificationsRefer (runFrom env clock events).store :=
  run_invariant (fun transaction => transaction.verificationsRefer) verificationsRefer_empty events

/-! ## Who resolves -/

/-- The commands that can deliver a verdict. -/
def deliversVerdict : Command → Bool
  | .claimDue .. => true
  | .recordObservation .. => true
  | _ => false

theorem execute_verdict (env : Env) (now : Time) (tickets : List IssuedTicket) (s : Store)
    {c : Command} (delivers : deliversVerdict c = true) :
    execute env now tickets s c = s ∨
      VerificationStep env now tickets c s (execute env now tickets s c) := by
  cases c with
  | claimDue id owner leaseSeconds =>
    simp only [execute]
    cases done : claimDue env now s id owner leaseSeconds with
    | error e => exact .inl rfl
    | ok r => exact claimDue_step done
  | recordObservation position sample evidenceIds observedAt =>
    simp only [execute]
    split
    · rename_i issued held
      cases done : recordObservation env now s issued.ticket sample evidenceIds observedAt with
      | error e => exact .inl rfl
      | ok r => exact .inr (recordObservation_step done held)
    · exact .inl rfl
  | _ => cases delivers

/-- Verification `id` of incident `i`, the one its executed remediation refers to, passes
while the incident is `VERIFYING`. -/
structure ResolvedBy (s s' : Store) (i id : Uuid) (row row' : VerificationRow)
    (remediation : RemediationRow) : Prop where
  verifying : statusAt s.incidents i = some .verifying
  found : s.verification.verifications[id]? = some row
  isOpen : row.status = .pending ∨ row.status = .running
  closed : s'.verification.verifications[id]? = some row'
  passed : row'.status = .passed
  incidentId : row'.incidentId = i
  remediationFound : s'.remediation.remediations[row'.remediationId]? = some remediation
  ofIncident : remediation.incidentId = i
  executed : remediation.status = .executed
  verificationRef : remediation.verificationRef = some id

/-- A verdict resolves only the incident of its verification, and only by passing. -/
theorem resolvedBy_of_verdict {env : Env} {now : Time} {s s' : Store} {i id : Uuid}
    {row row₁ row' : VerificationRow} {status : VerificationStatus} (refer : VerificationsRefer s')
    (found : s.verification.verifications[id]? = some row)
    (isOpen : row.status = .pending ∨ row.status = .running) (closed : Closed row₁ row' status)
    (effect : VerdictEffect env now s id row₁ status s'.incidents)
    (verifications : s'.verification.verifications = s.verification.verifications.set id row')
    (kept : s'.remediation = s.remediation)
    (before : statusAt s.incidents i ≠ some .resolved)
    (after : statusAt s'.incidents i = some .resolved) :
    ∃ id row row' remediation, ResolvedBy s s' i id row row' remediation := by
  have present : s'.verification.verifications[id]? = some row' := by
    rw [verifications]
    exact (Table.get_put found).mpr (.inl ⟨rfl, rfl⟩)
  cases effect with
  | stale _ _ _ _ _ _ unmoved => exact absurd (unmoved ▸ after) before
  | escalated incident incident' r incidentFound _ _ _ escalated _ moved =>
    rw [moved, statusAt_set incidentFound, escalated] at after
    split_ifs at after
    · cases after
    · exact absurd after before
  | reinvestigate incident r incidentFound _ _ _ _ _ moved =>
    rw [moved, statusAt_set incidentFound] at after
    split_ifs at after
    · cases after
    · exact absurd after before
  | resolved incident r incidentFound remediationFound fresh passed moved =>
    rw [moved, statusAt_set incidentFound] at after
    split_ifs at after with here
    · obtain ⟨verifying, executed, verificationRef, _⟩ := staleness_eq_none fresh
      have referred : s'.remediation.remediations[row'.remediationId]? = some r := by
        rw [closed.same.remediationId, kept]
        exact remediationFound
      have incidentId : row'.incidentId = i := closed.same.incidentId.trans here.symm
      obtain ⟨r', found', ofIncident⟩ := refer id row' present
      obtain rfl : r' = r := Option.some.inj (found'.symm.trans referred)
      exact ⟨id, row, row', r', {
        verifying := by rw [here, statusAt_found incidentFound, verifying]
        found, isOpen, closed := present
        passed := closed.status.trans passed
        incidentId, remediationFound := referred, ofIncident := ofIncident.trans incidentId
        executed, verificationRef }⟩
    · exact absurd after before

theorem VerificationStep.resolvedBy {env : Env} {now : Time} {tickets : List IssuedTicket}
    {c : Command} {s s' : Store} (step : VerificationStep env now tickets c s s')
    (refer : VerificationsRefer s') {i : Uuid} (before : statusAt s.incidents i ≠ some .resolved)
    (after : statusAt s'.incidents i = some .resolved) :
    ∃ id row row' remediation, ResolvedBy s s' i id row row' remediation := by
  cases step.effect with
  | started _ _ _ _ incidents => exact absurd (incidents ▸ after) before
  | claimed _ _ _ _ _ _ _ _ _ incidents => exact absurd (incidents ▸ after) before
  | observed _ _ _ _ _ _ _ _ _ _ _ _ _ incidents => exact absurd (incidents ▸ after) before
  | closed id row row₁ row' decision found begun late decided verdict closed effect tables =>
    exact resolvedBy_of_verdict refer found begun.isOpen closed effect
      (congrArg VerificationTables.verifications tables) step.remediation before after
  | decided position issued sample evidenceIds observedAt row row₁ row' o result links decision
      command held recorded decided verdict closed effect tables =>
    exact resolvedBy_of_verdict refer recorded.found (.inr recorded.running) closed effect
      (congrArg VerificationTables.verifications tables) step.remediation before after

/-- In the abstract life of an incident, only an applied verdict resolves it. -/
theorem resolved_of_caseStep {limits : Lifecycle.Limits} {c c' : Lifecycle.Case}
    (step : Lifecycle.Step limits c c') (before : c.status ≠ some .resolved)
    (after : c'.status = some .resolved) : c'.openVerifications < c.openVerifications := by
  have unshifted : ∀ {fromStatuses : List IncidentStatus} {toStatus : IncidentStatus},
      toStatus ≠ .resolved → Lifecycle.shift fromStatuses toStatus c.status ≠ some .resolved := by
    intro fromStatuses toStatus other shifted
    rcases Lifecycle.shift_eq_some shifted with same | same
    · exact other same.symm
    · exact before same
  cases step with
  | verdictApplied toStatus verifying busy => exact Nat.sub_lt busy Nat.one_pos
  | verdictStale busy => exact Nat.sub_lt busy Nat.one_pos
  | opened => cases after
  | alertLinked => exact absurd after before
  | alertEnded => exact absurd after before
  | cancelled => cases after
  | investigationRequested => cases after
  | investigationClosed toStatus destination =>
    exact absurd after (unshifted (by rcases destination with rfl | rfl <;> simp))
  | proposalRejected => exact absurd after (unshifted (by simp))
  | proposed => exact absurd after (unshifted (by simp))
  | approved => exact absurd after (unshifted (by simp))
  | withdrawn p toStatus n _ destination =>
    exact absurd after (unshifted (by rcases destination with rfl | rfl <;> simp))
  | killed => exact absurd after (unshifted (by simp))
  | failed => exact absurd after (unshifted (by simp))
  | started => exact absurd after before
  | executed => exact absurd after (unshifted (by simp))

/-- The other services do not resolve an incident. -/
theorem Transaction.unresolved {env : Env} {now : Time} {tickets : List IssuedTicket} {c : Command}
    {s s' : Store} (transaction : Transaction env now tickets c s s')
    (other : deliversVerdict c = false) (fit : AllAttemptsFit s) {i : Uuid}
    (before : statusAt s.incidents i ≠ some .resolved) :
    statusAt s'.incidents i ≠ some .resolved := by
  -- while no verification closes, a step of the case does not resolve it
  have stays : (caseOf s i).openVerifications ≤ (caseOf s' i).openVerifications →
      statusAt s'.incidents i ≠ some .resolved := by
    intro grown after
    rcases transaction.casesStep fit i with same | step
    · exact before ((congrArg (·.status) same).symm.trans after)
    · exact absurd (resolved_of_caseStep step before after) (Nat.not_lt.mpr grown)
  have sameTable : s'.verification = s.verification → statusAt s'.incidents i ≠ some .resolved := by
    intro verification
    exact stays (by simp only [caseOf, verification]; exact Nat.le_refl _)
  cases transaction with
  | alert step => exact sameTable step.verification
  | investigation step => exact sameTable step.verification
  | remediation step =>
    cases step.effect.verifications with
    | same verification => exact sameTable verification
    | requested id row v found fresh verifications =>
      refine stays ?_
      simp only [caseOf, verifications, List.countP_append]
      exact Nat.le_add_right _ _
  | verification step =>
    cases step.effect with
    | started _ _ _ _ incidents => rwa [incidents]
    | claimed _ _ _ _ _ command =>
      subst command
      cases other
    | closed _ _ _ _ _ _ _ _ _ _ _ _ _ command =>
      obtain ⟨owner, leaseSeconds, rfl⟩ := command
      cases other
    | observed _ _ _ _ _ _ _ _ _ _ command =>
      subst command
      cases other
    | decided _ _ _ _ _ _ _ _ _ _ _ _ command =>
      subst command
      cases other

/-! ## Passing -/

/-- The counters of a verification are folds of its observations. -/
structure CountersFold (s : Store) (id : Uuid) (row : VerificationRow) : Prop where
  sequences : (observationsOf s id).map (·.sequence) = List.range' 1 row.observationCount
  conclusive : row.conclusiveCount = (observationsOf s id).countP (·.conclusive)
  streak : row.consecutiveSuccesses = ((observationsOf s id).rtakeWhile (·.passed)).length

/-- The streak a verdict of `PASSED` rests on. -/
structure PassEarned (w : World) (id : Uuid) (row : VerificationRow) : Prop where
  enough : row.spec.requiredConsecutive ≤ (observationsOf w.store id).length
  last : ∀ o ∈ (observationsOf w.store id).rtake row.spec.requiredConsecutive,
    o.conclusive = true ∧ o.passed = true ∧ ∃ issued ∈ w.tickets,
      issued.ticket.verificationId = id ∧ issued.ticket.claimAttempt = o.claimAttempt ∧
      ∃ graceUntil, row.graceUntil = some graceUntil ∧ graceUntil ≤ issued.claimedAt
  distinct : ((observationsOf w.store id).map (·.claimAttempt)).Nodup

/-- As many entries at the end of a list as its trailing run is long belong to the run. -/
theorem mem_rtakeWhile_of_mem_rtake {α : Type*} {p : α → Bool} {l : List α} {n : Nat}
    (long : n ≤ (l.rtakeWhile p).length) {x : α} (member : x ∈ l.rtake n) :
    x ∈ l.rtakeWhile p := by
  have suffix : l.rtake n <:+ l := List.drop_suffix _ _
  have shorter : (l.rtake n).length ≤ (l.rtakeWhile p).length := by
    simp only [List.rtake, List.length_drop]
    omega
  exact (List.suffix_of_suffix_length_le suffix (List.rtakeWhile_suffix p l) shorter).subset member

theorem PollSound.passEarned {w : World} {id : Uuid} {row : VerificationRow}
    (sound : PollSound w.clock w.tickets id (pollsOf w.store id row))
    (passed : row.status = .passed) : PassEarned w id row := by
  have streak : row.consecutiveSuccesses =
      ((observationsOf w.store id).rtakeWhile (·.passed)).length := sound.streak
  have long : row.spec.requiredConsecutive ≤
      ((observationsOf w.store id).rtakeWhile (·.passed)).length := by
    rw [← streak]
    exact sound.earned passed
  have suffix := List.rtakeWhile_suffix (·.passed) (observationsOf w.store id)
  refine ⟨Nat.le_trans long suffix.length_le, fun o member => ?_, ?_⟩
  · have inRun := mem_rtakeWhile_of_mem_rtake long member
    have listed : o ∈ observationsOf w.store id := suffix.subset inRun
    have passing : o.passed = true := List.mem_rtakeWhile_imp inRun
    obtain ⟨issued, handedOut, ofTicket, claim⟩ := sound.recorded o listed
    exact ⟨sound.consistent o listed passing, passing, issued, handedOut, ofTicket, claim,
      (sound.held issued handedOut ofTicket).grace⟩
  · exact sound.increasing.imp fun earlier => Nat.ne_of_lt earlier

/-! ## Runs -/

/-- What a run says about its verifications and about a step after it. -/
structure ResolutionsEarned (env : Env) (clock : Time) (events : List Event) : Prop where
  counters : ∀ (id : Uuid) (row : VerificationRow),
    (runFrom env clock events).store.verification.verifications[id]? = some row →
      CountersFold (runFrom env clock events).store id row
  passed : ∀ (id : Uuid) (row : VerificationRow),
    (runFrom env clock events).store.verification.verifications[id]? = some row →
      row.status = .passed → PassEarned (runFrom env clock events) id row
  resolved : ∀ (e : Event) (i : Uuid),
    statusAt (runFrom env clock events).store.incidents i ≠ some .resolved →
    statusAt (runFrom env clock (events ++ [e])).store.incidents i = some .resolved →
      ∃ id row row' remediation, ResolvedBy (runFrom env clock events).store
        (runFrom env clock (events ++ [e])).store i id row row' remediation

theorem step_resolvedBy (env : Env) {w : World} {e : Event} {i : Uuid} (fit : AllAttemptsFit w.store)
    (refer : VerificationsRefer w.store)
    (before : statusAt w.store.incidents i ≠ some .resolved)
    (after : statusAt (step env w e).store.incidents i = some .resolved) :
    ∃ id row row' remediation, ResolvedBy w.store (step env w e).store i id row row' remediation := by
  by_cases delivers : deliversVerdict e.command = true
  · rcases execute_verdict env (w.clock + e.elapsed) w.tickets w.store delivers with same | verdict
    · rw [Incident.step, same] at after
      exact absurd after before
    · exact verdict.resolvedBy (verdict.verificationsRefer refer) before after
  · have unresolved := Machine.preserved_of_path
      (P := fun s => AllAttemptsFit s ∧ statusAt s.incidents i ≠ some .resolved)
      (fun transaction held => ⟨transaction.attemptsFit held.1,
        transaction.unresolved (Bool.eq_false_iff.mpr delivers) held.1 held.2⟩)
      (execute_path env (w.clock + e.elapsed) w.tickets w.store e.command) ⟨fit, before⟩
    exact absurd after unresolved.2

/-- Every resolution is earned, in every run. -/
theorem resolutions_are_earned (env : Env) (clock : Time) (events : List Event) :
    ResolutionsEarned env clock events := by
  have polls := run_pollsSound env clock events
  have fit := (run_investigationsSound env clock events).fit
  have refer := run_verificationsRefer env clock events
  refine ⟨fun id row found => ?_, fun id row found passed => ?_, fun e i before after => ?_⟩
  · have sound := polls.each id row found
    exact ⟨sound.sequences, sound.conclusive, sound.streak⟩
  · exact (polls.each id row found).passEarned passed
  · have next : runFrom env clock (events ++ [e]) = step env (runFrom env clock events) e :=
      Machine.run_concat events e
    rw [next] at after ⊢
    exact step_resolvedBy env fit refer before after

/-- The run in which three polls find payments healthy resolves the incident. -/
example : statusAt (runFrom paymentsEnv 0 restartPassed).store.incidents 0 = some .resolved := by
  decide +kernel

end IncidentTriage.Verified
