import IncidentTriage.Verified.SteadyPaths

/-! # Work items that stay open

While its incident stays in the status that goes with it, an open work item stays open.  What
happens to it meanwhile uses up what is left of it: the attempts of an execution are counted, and
past its deadline a verification hands out no more polls.
-/

namespace IncidentTriage.Verified

open IncidentTriage.Python IncidentTriage.Domain IncidentTriage.Incident
open IncidentTriage.Remediation
open IncidentTriage.Lifecycle (shift)

/-- A row keeps a property if the row that is put in its place has it. -/
theorem kept_of_put {ρ : Type*} {P : ρ → Prop} {t : List ρ} {j k : Nat} {r r' row : ρ}
    (there : t[j]? = some r) (found : t[k]? = some row) (holds : P row)
    (put : k = j → row = r → P r') : ∃ row', (t.set j r')[k]? = some row' ∧ P row' := by
  by_cases same : k = j
  · subst same
    have row_eq : row = r := Option.some.inj (found.symm.trans there)
    exact ⟨r', (Table.get_put there).mpr (.inl ⟨rfl, rfl⟩), put rfl row_eq⟩
  · exact ⟨row, (Table.get_put there).mpr (.inr ⟨same, found⟩), holds⟩

section
variable {env : Env} {now : Time} {tickets : List IssuedTicket} {c : Command} {s s' : Store}
  {i : Uuid}

/-- The incident moves on where it is in one of the statuses a transaction moves it from. -/
theorem moved_on {j : Uuid} {incident : IncidentRow} {fromStatuses : List IncidentStatus}
    {toStatus status : IncidentStatus} (placed : s.incidents[j]? = some incident)
    (before : statusAt s.incidents i = some status)
    (after : statusAt (movedIf s.incidents now j incident fromStatuses toStatus) i = some status)
    (here : j = i) (within : status ∈ fromStatuses) : toStatus = status := by
  subst here
  rw [statusAt_movedIf placed, if_pos rfl, before, shift,
    if_pos (List.mem_map.mpr ⟨status, within, rfl⟩)] at after
  exact Option.some.inj after

/-! ## Investigations -/

/-- While the incident is `INVESTIGATING`, its investigation stays open. -/
theorem Transaction.openInvestigation_kept (transaction : Transaction env now tickets c s s')
    (before : statusAt s.incidents i = some .investigating)
    (after : statusAt s'.incidents i = some .investigating) {k : Uuid} {row : InvestigationRow}
    (found : s.investigation.investigations[k]? = some row)
    (open_ : openInvestigation i row = true) :
    ∃ row', s'.investigation.investigations[k]? = some row' ∧ openInvestigation i row' = true := by
  have same : s'.investigation = s.investigation →
      ∃ row', s'.investigation.investigations[k]? = some row' ∧
        openInvestigation i row' = true := by
    intro investigation
    exact ⟨row, by rwa [investigation], open_⟩
  cases transaction with
  | alert step => exact same step.investigation
  | remediation step => exact same step.investigation
  | verification step => exact same step.investigation
  | investigation step =>
    cases step.effect with
    | requested _ _ _ _ _ _ _ _ _ _ _ tables =>
      rw [tables]
      exact ⟨row, Table.get_insert.mpr (.inl found), open_⟩
    | worked _ r r' _ there kept status _ _ tables =>
      rw [tables]
      refine kept_of_put there found open_ fun _ same => ?_
      subst same
      rcases status with status | ⟨_, status⟩
      · simpa [openInvestigation, kept.incidentId, status] using open_
      · simp only [openInvestigation, Bool.and_eq_true, beq_iff_eq] at open_ ⊢
        exact ⟨kept.incidentId.trans open_.1, by rw [status]; rfl⟩
    | updated _ r r' _ _ there _ kept status _ _ tables =>
      rw [tables]
      refine kept_of_put there found open_ fun _ same => ?_
      subst same
      simpa [openInvestigation, kept.incidentId, status] using open_
    | completed _ r _ _ _ _ _ _ _ there placed _ _ _ _ _ _ _ _ _ _ _ incidents tables =>
      rw [tables]
      refine kept_of_put there found open_ fun _ same => ?_
      subst same
      rw [incidents] at after
      simp only [openInvestigation, Bool.and_eq_true, beq_iff_eq] at open_
      exact absurd (moved_on placed before after open_.1 (by simp)) (by simp)
    | ended _ r _ _ _ there placed _ _ _ _ incidents tables =>
      rw [tables]
      refine kept_of_put there found open_ fun _ same => ?_
      subst same
      rw [incidents] at after
      simp only [openInvestigation, Bool.and_eq_true, beq_iff_eq] at open_
      exact absurd (moved_on placed before after open_.1 (by simp)) (by simp)

/-! ## Requests for approval -/

/-- While the incident is `AWAITING_APPROVAL`, the request stays as it is. -/
theorem Transaction.awaiting_kept (transaction : Transaction env now tickets c s s')
    (before : statusAt s.incidents i = some .awaitingApproval)
    (after : statusAt s'.incidents i = some .awaitingApproval) {k : Uuid} {row : RemediationRow}
    (found : s.remediation.remediations[k]? = some row) (here : row.incidentId = i)
    (awaits : row.status = .awaitingApproval) :
    s'.remediation.remediations[k]? = some row := by
  have same : s'.remediation = s.remediation → s'.remediation.remediations[k]? = some row := by
    intro remediation
    rwa [remediation]
  have put : ∀ {j : Uuid} {r r' : RemediationRow}, s.remediation.remediations[j]? = some r →
      r.status ≠ .awaitingApproval →
        (s.remediation.remediations.set j r')[k]? = some row := by
    intro j r r' there other
    refine (Table.get_put there).mpr (.inr ⟨?_, found⟩)
    rintro rfl
    exact other (Option.some.inj (found.symm.trans there) ▸ awaits)
  have stuck : ∀ {j : Uuid} {r r' : RemediationRow} {incident : IncidentRow}
      {fromStatuses : List IncidentStatus} {toStatus : IncidentStatus},
      s.remediation.remediations[j]? = some r → s.incidents[r.incidentId]? = some incident →
      s'.incidents = movedIf s.incidents now r.incidentId incident fromStatuses toStatus →
      .awaitingApproval ∈ fromStatuses → toStatus ≠ .awaitingApproval →
        (s.remediation.remediations.set j r')[k]? = some row := by
    intro j r r' incident fromStatuses toStatus there placed incidents within elsewhere
    refine (Table.get_put there).mpr (.inr ⟨?_, found⟩)
    rintro rfl
    obtain rfl : row = r := Option.some.inj (found.symm.trans there)
    rw [incidents] at after
    exact elsewhere (moved_on placed before after here within)
  cases transaction with
  | alert step => exact same step.remediation
  | investigation step => exact same step.remediation
  | verification step => exact same step.remediation
  | remediation step =>
    cases step.effect with
    | rejected _ _ _ _ _ _ _ _ tables =>
      rw [tables]
      exact Table.get_insert.mpr (.inl found)
    | requested _ _ _ _ _ _ _ _ _ _ tables =>
      rw [tables]
      exact Table.get_insert.mpr (.inl found)
    | approved _ _ _ _ _ _ _ _ _ _ _ _ _ there placed _ _ _ _ _ _ _ _ _ _ _ _ incidents tables =>
      rw [tables]
      exact stuck there placed incidents (by simp) (by simp)
    | withdrawn _ _ _ _ _ _ there placed _ destination _ _ _ _ _ incidents tables =>
      rw [tables]
      refine stuck there placed incidents (by simp) ?_
      rcases destination with rfl | rfl <;> simp
    | blocked _ _ _ _ there _ before _ _ _ _ _ _ tables =>
      rw [tables]
      exact put there (by rcases before with status | status <;> simp [status])
    | started _ _ _ _ _ _ _ there before _ _ _ _ _ _ _ _ tables =>
      rw [tables]
      exact put there (by rcases before with status | status <;> simp [status])
    | interrupted _ _ _ _ _ _ there before _ _ _ _ _ _ _ _ _ _ _ _ tables =>
      rw [tables]
      exact put there (by rcases before with status | status <;> simp [status])
    | executed _ _ _ _ _ _ _ _ _ _ _ _ _ _ _ _ there _ executing _ _ _ _ _ _ _ _ _ _ _ tables =>
      rw [tables]
      exact put there (by simp [executing])
    | attemptFailed _ _ _ _ _ _ _ _ _ _ _ _ _ _ there _ executing _ _ _ _ _ _ _ _ _ _ tables =>
      rw [tables]
      exact put there (by simp [executing])
    | retriable _ _ _ _ _ _ _ _ _ _ _ _ _ there executing _ _ _ _ _ _ _ _ _ _ tables =>
      rw [tables]
      exact put there (by simp [executing])
    | configured _ _ _ tables =>
      rw [tables]
      exact found

/-! ## Executions -/

def isActive (row : RemediationRow) : Bool :=
  row.status == .approved || row.status == .executing

/-- How many attempts the catalog still allows. -/
def attemptsLeft (row : RemediationRow) : ℕ :=
  (getEntry row.actionId).elim 0 (·.maxAttempts) - row.executionAttempts

/-- What is left to do for a remediation: attempts to start, and attempts that were started to
settle or to hand on. -/
def effortLeft (s : Store) (k : Uuid) (row : RemediationRow) : ℕ :=
  3 * attemptsLeft row +
    s.remediation.executions.countP (fun e => e.remediationId == k && e.status == .running) +
    s.remediation.executions.countP (fun e => e.remediationId == k && isUnsettled e)

theorem attemptsLeft_congr {row row' : RemediationRow} (same : SameProposal row row')
    (attempts : row'.executionAttempts = row.executionAttempts) :
    attemptsLeft row' = attemptsLeft row := by
  rw [attemptsLeft, attemptsLeft, same.actionId, attempts]

/-- An attempt that is settled or handed on leaves less to do. -/
theorem effortLeft_lt {k x : Uuid} {row row' : RemediationRow} {e e' : RemediationExecutionRow}
    (execution : s.remediation.executions[x]? = some e) (of : e.remediationId = k)
    (of' : e'.remediationId = e.remediationId)
    (executions : s'.remediation.executions = s.remediation.executions.set x e')
    (less : isUnsettled e = true ∧ isUnsettled e' = false ∨
      e.status = .running ∧ e'.status = .unknown)
    (attempts : attemptsLeft row' = attemptsLeft row) :
    effortLeft s' k row' < effortLeft s k row := by
  have running := Table.countP_put execution e'
    (fun e => e.remediationId == k && e.status == .running)
  have unsettled := Table.countP_put execution e' (fun e => e.remediationId == k && isUnsettled e)
  unfold effortLeft
  rw [executions, attempts]
  simp only [of', of, beq_self_eq_true, Bool.true_and] at running unsettled
  rcases less with ⟨open_, settled⟩ | ⟨before, after⟩
  · have still : (e'.status == .running) = false := by
      cases status : e'.status <;> simp_all [isUnsettled]
    simp only [open_, settled, still, if_true, Bool.false_eq_true, if_false] at running unsettled
    omega
  · have open_ : isUnsettled e = true := by simp [isUnsettled, before]
    have handed : isUnsettled e' = true := by simp [isUnsettled, after]
    have stopped : (e'.status == .running) = false := by simp [after]
    simp only [open_, handed, stopped, before, beq_self_eq_true, if_true, Bool.false_eq_true,
      if_false] at running unsettled
    omega

/-- What happens to the attempts of another remediation takes nothing away. -/
theorem effortLeft_put_other {k x : Uuid} {row : RemediationRow} {e e' : RemediationExecutionRow}
    (execution : s.remediation.executions[x]? = some e) (of : e.remediationId ≠ k)
    (of' : e'.remediationId = e.remediationId)
    (executions : s'.remediation.executions = s.remediation.executions.set x e') :
    effortLeft s' k row = effortLeft s k row := by
  have elsewhere : (e.remediationId == k) = false := by simpa using of
  unfold effortLeft
  rw [executions, Table.countP_put_same execution (by simp [of', elsewhere]),
    Table.countP_put_same execution (by simp [of', elsewhere])]

/-- A new attempt costs what is left of one. -/
theorem effortLeft_started {k : Uuid} {row row' : RemediationRow} {entry : ActionCatalogEntry}
    {owner : String} {timeout : Nat} (known : getEntry row.actionId = some entry)
    (clear : catalogBlocker env row (getEntry row.actionId) = none)
    (same : SameProposal row row') (attempts : row'.executionAttempts = row.executionAttempts + 1)
    (executions : s'.remediation.executions = s.remediation.executions ++
      [newExecution now k (row.executionAttempts + 1) owner timeout]) :
    effortLeft s' k row' < effortLeft s k row := by
  obtain ⟨entry', known', _, _, _, room⟩ := catalogBlocker_eq_none clear
  rw [known'] at known
  cases known
  have left : attemptsLeft row' + 1 = attemptsLeft row := by
    simp only [attemptsLeft, same.actionId, attempts, known', Option.elim_some]
    omega
  unfold effortLeft
  rw [executions, List.countP_append, List.countP_append]
  simp only [newExecution, isUnsettled, List.countP_singleton, beq_self_eq_true, Bool.true_and,
    Bool.true_or, if_true]
  omega

/-- The remediation is still active, and either it is the same with no more to do, or less is
left to do for it. -/
def StaysActive (s s' : Store) (i k : Uuid) (row : RemediationRow) : Prop :=
  ∃ row', s'.remediation.remediations[k]? = some row' ∧
    (isActive row' = true ∧ row'.incidentId = i) ∧
      (effortLeft s' k row' < effortLeft s k row ∨
        row' = row ∧ effortLeft s' k row' ≤ effortLeft s k row)

/-- While the incident is `REMEDIATION_IN_PROGRESS`, its remediation stays active. -/
theorem Transaction.active_kept (transaction : Transaction env now tickets c s s')
    (before : statusAt s.incidents i = some .remediationInProgress)
    (after : statusAt s'.incidents i = some .remediationInProgress) {k : Uuid}
    {row : RemediationRow} (found : s.remediation.remediations[k]? = some row)
    (here : row.incidentId = i) (active : isActive row = true) : StaysActive s s' i k row := by
  have same : s'.remediation.remediations[k]? = some row →
      effortLeft s' k row = effortLeft s k row → StaysActive s s' i k row :=
    fun there effort => ⟨row, there, ⟨active, here⟩, .inr ⟨rfl, effort.le⟩⟩
  have untouched : s'.remediation = s.remediation → StaysActive s s' i k row := by
    intro remediation
    refine same (by rwa [remediation]) ?_
    simp only [effortLeft, remediation]
  have other : ∀ {j : Uuid} {r r' : RemediationRow}, s.remediation.remediations[j]? = some r →
      k ≠ j → (s.remediation.remediations.set j r')[k]? = some row :=
    fun there elsewhere => (Table.get_put there).mpr (.inr ⟨elsewhere, found⟩)
  have stuck : ∀ {r : RemediationRow} {incident : IncidentRow}
      {fromStatuses : List IncidentStatus} {toStatus : IncidentStatus},
      row = r → s.incidents[r.incidentId]? = some incident →
      s'.incidents = movedIf s.incidents now r.incidentId incident fromStatuses toStatus →
      .remediationInProgress ∈ fromStatuses → toStatus ≠ .remediationInProgress → False := by
    rintro r incident fromStatuses toStatus rfl placed incidents within elsewhere
    rw [incidents] at after
    exact elsewhere (moved_on placed before after here within)
  cases transaction with
  | alert step => exact untouched step.remediation
  | investigation step => exact untouched step.remediation
  | verification step => exact untouched step.remediation
  | remediation step =>
    cases step.effect with
    | rejected _ _ _ _ _ _ _ _ tables =>
      exact same (by rw [tables]; exact Table.get_insert.mpr (.inl found))
        (by simp only [effortLeft, tables])
    | requested _ _ _ _ _ _ _ _ _ _ tables =>
      exact same (by rw [tables]; exact Table.get_insert.mpr (.inl found))
        (by simp only [effortLeft, tables])
    | approved j r _ _ _ _ _ _ _ _ _ _ _ there _ awaiting _ _ _ _ _ _ _ _ _ _ _ _ tables =>
      have elsewhere : k ≠ j := by
        rintro rfl
        cases Option.some.inj (found.symm.trans there)
        simp [isActive, awaiting] at active
      exact same (by rw [tables]; exact other there elsewhere) (by simp only [effortLeft, tables])
    | withdrawn j r _ _ _ _ there placed _ destination _ _ _ _ _ incidents tables =>
      have elsewhere : k ≠ j := by
        rintro rfl
        refine stuck (Option.some.inj (found.symm.trans there)) placed incidents (by simp) ?_
        rcases destination with rfl | rfl <;> simp
      exact same (by rw [tables]; exact other there elsewhere) (by simp only [effortLeft, tables])
    | blocked j r _ _ there placed _ _ _ _ _ _ incidents tables =>
      have elsewhere : k ≠ j := by
        rintro rfl
        exact stuck (Option.some.inj (found.symm.trans there)) placed incidents (by simp) (by simp)
      exact same (by rw [tables]; exact other there elsewhere) (by simp only [effortLeft, tables])
    | started j r r' owner _ entry _ there _ _ known clear kept status attempts _ _ tables =>
      by_cases elsewhere : k = j
      · subst elsewhere
        obtain rfl : row = r := Option.some.inj (found.symm.trans there)
        refine ⟨r', ?_, ⟨by simp [isActive, status], kept.incidentId.trans here⟩, .inl ?_⟩
        · rw [tables]
          exact (Table.get_put there).mpr (.inl ⟨rfl, rfl⟩)
        · exact effortLeft_started known (executionBlocker_eq_none clear).2.2.2 kept attempts
            (by rw [tables])
      · refine same (by rw [tables]; exact other there elsewhere) ?_
        simp [effortLeft, tables, List.countP_append, newExecution, Ne.symm elsewhere]
    | interrupted j r r' x e e' there started _ latest running unknown of' _ _ kept status attempts
        _ _ tables =>
      obtain ⟨execution, of⟩ := Table.latest_some latest
      replace of : e.remediationId = j := by simpa using of
      by_cases elsewhere : k = j
      · subst elsewhere
        obtain rfl : row = r := Option.some.inj (found.symm.trans there)
        refine ⟨r', ?_, ⟨?_, kept.incidentId.trans here⟩, .inl ?_⟩
        · rw [tables]
          exact (Table.get_put there).mpr (.inl ⟨rfl, rfl⟩)
        · rw [isActive, status]
          exact active
        · exact effortLeft_lt execution of of' (by rw [tables]) (.inr ⟨running, unknown⟩)
            (attemptsLeft_congr kept attempts)
      · refine same (by rw [tables]; exact other there elsewhere) ?_
        exact effortLeft_put_other execution (of ▸ Ne.symm elsewhere) of' (by rw [tables])
    | executed x e e' r _ _ _ _ _ _ _ _ _ _ _ execution there placed _ _ _ of' _ _ _ _ _ _ _
        incidents tables =>
      have elsewhere : k ≠ e.remediationId := by
        rintro rfl
        exact stuck (Option.some.inj (found.symm.trans there)) placed incidents (by simp) (by simp)
      refine same (by rw [tables]; exact other there elsewhere) ?_
      exact effortLeft_put_other execution (Ne.symm elsewhere) of' (by rw [tables])
    | attemptFailed x e e' r _ _ _ _ _ _ _ _ _ execution there placed _ _ _ of' _ _ _ _ _ _
        incidents tables =>
      have elsewhere : k ≠ e.remediationId := by
        rintro rfl
        exact stuck (Option.some.inj (found.symm.trans there)) placed incidents (by simp) (by simp)
      refine same (by rw [tables]; exact other there elsewhere) ?_
      exact effortLeft_put_other execution (Ne.symm elsewhere) of' (by rw [tables])
    | retriable x e e' r r' _ _ _ _ _ _ _ execution there _ unsettled settled of' _ _ kept status
        attempts _ _ tables =>
      by_cases elsewhere : k = e.remediationId
      · subst elsewhere
        obtain rfl : row = r := Option.some.inj (found.symm.trans there)
        refine ⟨r', ?_, ⟨by simp [isActive, status], kept.incidentId.trans here⟩, .inl ?_⟩
        · rw [tables]
          exact (Table.get_put there).mpr (.inl ⟨rfl, rfl⟩)
        · exact effortLeft_lt execution rfl of' (by rw [tables]) (.inl ⟨unsettled, settled⟩)
            (attemptsLeft_congr kept attempts)
      · refine same (by rw [tables]; exact other there elsewhere) ?_
        exact effortLeft_put_other execution (Ne.symm elsewhere) of' (by rw [tables])
    | configured _ _ _ tables =>
      exact same (by rwa [tables]) (by simp only [effortLeft, tables])

/-! ## Verifications -/

/-- An open verification stays open, or one less of its incident is. -/
theorem Transaction.openVerification_kept (transaction : Transaction env now tickets c s s')
    {k : Uuid} {row : VerificationRow} (found : s.verification.verifications[k]? = some row)
    (open_ : openVerification i row = true) :
    (∃ row', s'.verification.verifications[k]? = some row' ∧ openVerification i row' = true) ∨
      s'.verification.verifications.countP (openVerification i) + 1 =
        s.verification.verifications.countP (openVerification i) := by
  have same : s'.verification = s.verification →
      ∃ row', s'.verification.verifications[k]? = some row' ∧
        openVerification i row' = true := by
    intro verification
    exact ⟨row, by rwa [verification], open_⟩
  have continued : ∀ {j : Uuid} {r r' : VerificationRow},
      s.verification.verifications[j]? = some r → SameVerification r r' → r'.status = .running →
        ∃ row', (s.verification.verifications.set j r')[k]? = some row' ∧
          openVerification i row' = true := by
    intro j r r' there kept status
    refine kept_of_put there found open_ fun _ same => ?_
    subst same
    simp only [openVerification, Bool.and_eq_true, beq_iff_eq] at open_ ⊢
    exact ⟨kept.incidentId.trans open_.1, by rw [status]; rfl⟩
  have closing : ∀ {j : Uuid} {r r' : VerificationRow},
      s.verification.verifications[j]? = some r → (r.status = .pending ∨ r.status = .running) →
      r'.status ≠ .pending ∧ r'.status ≠ .running →
        (∃ row', (s.verification.verifications.set j r')[k]? = some row' ∧
          openVerification i row' = true) ∨
        (s.verification.verifications.set j r').countP (openVerification i) + 1 =
          s.verification.verifications.countP (openVerification i) := by
    intro j r r' there was decided
    by_cases elsewhere : k = j
    · subst elsewhere
      obtain rfl : row = r := Option.some.inj (found.symm.trans there)
      simp only [openVerification, Bool.and_eq_true, beq_iff_eq] at open_
      have closed := openVerifications_close i there was decided
      rw [if_pos open_.1.symm] at closed
      exact .inr closed
    · exact .inl ⟨row, (Table.get_put there).mpr (.inr ⟨elsewhere, found⟩), open_⟩
  cases transaction with
  | alert step => exact .inl (same step.verification)
  | investigation step => exact .inl (same step.verification)
  | remediation step =>
    cases step.effect.verifications with
    | same verification => exact .inl (same verification)
    | requested _ _ v _ _ verifications =>
      rw [verifications]
      exact .inl ⟨row, Table.get_insert.mpr (.inl found), open_⟩
  | verification step =>
    cases step.effect with
    | started j r there _ _ tables =>
      rw [tables]
      exact .inl (continued there ⟨rfl, rfl, rfl, rfl⟩ rfl)
    | claimed j r r₁ _ _ _ there begun _ _ tables =>
      rw [tables]
      exact .inl (continued there (begun.same.trans ⟨rfl, rfl, rfl, rfl⟩) begun.running)
    | closed j r r₁ r' decision there begun _ _ verdict closed _ tables =>
      rw [tables]
      exact closing there begun.isOpen (by rwa [closed.status])
    | observed _ _ _ _ _ r r' _ _ _ _ _ recorded _ tables =>
      rw [tables]
      refine .inl (continued recorded.found ?_ ?_)
      · rw [recorded.after]
        exact ⟨rfl, rfl, rfl, rfl⟩
      · rw [recorded.after]
        exact recorded.running
    | decided _ _ _ _ _ r _ r' _ _ _ decision _ _ recorded _ verdict closed _ tables =>
      rw [tables]
      exact closing recorded.found (.inr recorded.running) (by rwa [closed.status])

/-- What a transaction can make of a running verification: past its deadline nobody is handed
another poll, and a poll that ends gives the lease back. -/
inductive RunningMove (now : Time) (row row' : VerificationRow) : Prop
  | same (unchanged : row' = row)
  | polled (status : row'.status = .running) (deadline : row'.deadlineAt = row.deadlineAt)
      (lease : row'.leaseExpiresAt = none)
  | claimed (status : row'.status = .running) (deadline : row'.deadlineAt = row.deadlineAt)
      (early : pastDeadline row now = false)
  | closed (decided : row'.status ≠ .pending ∧ row'.status ≠ .running)

theorem Transaction.runningMove (transaction : Transaction env now tickets c s s') {k : Uuid}
    {row : VerificationRow} (found : s.verification.verifications[k]? = some row)
    (running : row.status = .running) :
    ∃ row', s'.verification.verifications[k]? = some row' ∧ RunningMove now row row' := by
  have same : s'.verification = s.verification →
      ∃ row', s'.verification.verifications[k]? = some row' ∧ RunningMove now row row' := by
    intro verification
    exact ⟨row, by rwa [verification], .same rfl⟩
  have begun_eq : ∀ {r r₁ : VerificationRow}, row = r → Begun s now r r₁ → r₁ = row := by
    rintro r r₁ rfl begun
    cases begun with
    | now pending => simp [running] at pending
    | before _ => rfl
  cases transaction with
  | alert step => exact same step.verification
  | investigation step => exact same step.verification
  | remediation step =>
    cases step.effect.verifications with
    | same verification => exact same verification
    | requested _ _ v _ _ verifications =>
      rw [verifications]
      exact ⟨row, Table.get_insert.mpr (.inl found), .same rfl⟩
  | verification step =>
    cases step.effect with
    | started j r there pending _ tables =>
      rw [tables]
      refine kept_of_put there found (.same rfl) fun _ same => ?_
      simp [← same, running] at pending
    | claimed j r r₁ _ _ _ there begun _ _ tables _ _ early =>
      rw [tables]
      refine kept_of_put there found (.same rfl) fun _ same => ?_
      obtain rfl := begun_eq same begun
      exact .claimed running rfl early
    | closed j r r₁ r' decision there begun _ _ verdict closed _ tables =>
      rw [tables]
      refine kept_of_put there found (.same rfl) fun _ _ => ?_
      exact .closed (by rwa [closed.status])
    | observed _ _ _ _ _ r r' _ _ _ _ _ recorded _ tables =>
      rw [tables]
      refine kept_of_put recorded.found found (.same rfl) fun _ same => ?_
      subst same
      rw [recorded.after]
      exact .polled running rfl rfl
    | decided _ _ _ _ _ r _ r' _ _ _ decision _ _ recorded _ verdict closed _ tables =>
      rw [tables]
      refine kept_of_put recorded.found found (.same rfl) fun _ _ => ?_
      exact .closed (by rwa [closed.status])

end

/-! ## Deadlines -/

/-- Every running verification has a deadline. -/
def VerificationsDated (s : Store) : Prop :=
  Table.Every (fun _ v => v.status = .running → v.deadlineAt.isSome = true)
    s.verification.verifications

theorem Transaction.verificationsDated {env : Env} {now : Time} {tickets : List IssuedTicket}
    {c : Command} {s s' : Store} (transaction : Transaction env now tickets c s s')
    (dated : VerificationsDated s) : VerificationsDated s' := by
  have same : s'.verification = s.verification → VerificationsDated s' := by
    intro verification
    rwa [VerificationsDated, verification]
  cases transaction with
  | alert step => exact same step.verification
  | investigation step => exact same step.verification
  | remediation step =>
    cases step.effect.verifications with
    | same verification => exact same verification
    | requested _ _ v _ fresh verifications =>
      rw [VerificationsDated, verifications]
      exact Table.Every.insert dated (by simp [fresh.status])
  | verification step =>
    unfold VerificationsDated
    cases step.effect with
    | started j r there _ _ tables =>
      rw [tables]
      exact Table.Every.put dated there fun _ => rfl
    | claimed j r r₁ _ _ _ there begun _ _ tables =>
      rw [tables]
      refine Table.Every.put dated there fun _ => ?_
      cases begun with
      | now _ => rfl
      | before running => exact dated j r there running
    | closed j r r₁ r' decision there begun _ _ verdict closed _ tables =>
      rw [tables]
      refine Table.Every.put dated there fun running => ?_
      exact absurd (closed.status.symm.trans running) verdict.2
    | observed _ _ _ _ _ r r' _ _ _ _ _ recorded _ tables =>
      rw [tables]
      refine Table.Every.put dated recorded.found fun _ => ?_
      rw [recorded.after]
      exact dated _ r recorded.found recorded.running
    | decided _ _ _ _ _ r _ r' _ _ _ decision _ _ recorded _ verdict closed _ tables =>
      rw [tables]
      refine Table.Every.put dated recorded.found fun running => ?_
      exact absurd (closed.status.symm.trans running) verdict.2

theorem verificationsDated_empty : VerificationsDated {} :=
  Table.Every.nil

theorem run_verificationsDated (env : Env) (clock : Time) (events : List Event) :
    VerificationsDated (runFrom env clock events).store :=
  run_invariant (fun transaction => transaction.verificationsDated) verificationsDated_empty events

end IncidentTriage.Verified
