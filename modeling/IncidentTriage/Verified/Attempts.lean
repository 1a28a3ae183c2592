import IncidentTriage.Verified.Transactions

/-! # Execution attempts

The attempts of a remediation are numbered `1` to `execution_attempts` and stay
within its catalog entry's maximum, in every reachable store.  An attempt that was
interrupted is settled before anything else happens to its remediation, in every run
in which no claim finds an attempt that is already `UNKNOWN`.
-/

namespace IncidentTriage.Verified

open IncidentTriage.Python IncidentTriage.Domain IncidentTriage.Incident
open IncidentTriage.Remediation

/-! ## Numbering -/

def isAttemptOf (id : Uuid) (e : RemediationExecutionRow) : Bool := e.remediationId == id

/-- The attempt numbers of a remediation, in the order the attempts were made. -/
def attemptNumbers (s : Store) (id : Uuid) : List Nat :=
  Table.project (isAttemptOf id) (·.attemptNumber) s.remediation.executions

def attemptsOf (s : Store) (id : Uuid) : Nat :=
  (s.remediation.remediations[id]?.map (·.executionAttempts)).getD 0

theorem attemptsOf_found {s : Store} {id : Uuid} {row : RemediationRow}
    (found : s.remediation.remediations[id]? = some row) :
    attemptsOf s id = row.executionAttempts := by
  simp [attemptsOf, found]

def ExecutionsNumbered (s : Store) : Prop :=
  ∀ id, attemptNumbers s id = List.range' 1 (attemptsOf s id)

/-- The attempts a remediation has made are within its catalog entry's maximum. -/
def WithinCatalog (row : RemediationRow) : Prop :=
  match getEntry row.actionId with
  | some entry => row.executionAttempts ≤ entry.maxAttempts
  | none => row.executionAttempts = 0

theorem ExecutionsKept.attemptNumbers {s s' : Store} (kept : ExecutionsKept s s') (id : Uuid) :
    attemptNumbers s' id = attemptNumbers s id := by
  cases kept with
  | same executions => simp only [Verified.attemptNumbers, executions]
  | changed x e e' found remediationId attemptNumber _ executions =>
    simp only [Verified.attemptNumbers, executions]
    exact Table.project_put found (by simp only [isAttemptOf, remediationId]) attemptNumber

theorem RowsEffect.executionsNumbered {env : Env} {now : Time} {c : Command} {s s' : Store}
    (effect : RowsEffect env now c s s') (numbered : ExecutionsNumbered s) :
    ExecutionsNumbered s' := by
  intro id
  cases effect with
  | inserted row decision fresh _ remediations _ executions =>
    have attempts : attemptsOf s' id = attemptsOf s id := by
      simp only [attemptsOf, remediations]
      rcases Nat.lt_trichotomy id s.remediation.remediations.length with before | rfl | after
      · rw [List.getElem?_append_left before]
      · simp [fresh.attempts]
      · rw [List.getElem?_eq_none (by simp; omega), List.getElem?_eq_none (by omega)]
    rw [attempts, attemptNumbers, executions]
    exact numbered id
  | changed k row row' found same _ _ attempts remediations _ kept =>
    have unchanged : attemptsOf s' id = attemptsOf s id := by
      simp only [attemptsOf, remediations]
      by_cases here : k = id
      · subst here
        rw [(Table.get_put found).mpr (.inl ⟨rfl, rfl⟩), found]
        exact attempts
      · simp [here]
    rw [kept.attemptNumbers, unchanged]
    exact numbered id
  | started k row row' owner leaseSeconds entry _ found _ _ _ same _ attempts remediations _
      executions =>
    simp only [attemptNumbers, executions, Table.project_insert]
    by_cases here : k = id
    · subst here
      have next : attemptsOf s' k = row.executionAttempts + 1 := by
        simp [attemptsOf, remediations, Table.lt_of_row found, attempts]
      have before := numbered k
      rw [attemptsOf_found found] at before
      rw [next, List.range'_1_concat, ← before, Nat.add_comm 1]
      simp [attemptNumbers, isAttemptOf, newExecution]
    · have unchanged : attemptsOf s' id = attemptsOf s id := by
        simp [attemptsOf, remediations, here]
      have before := numbered id
      rw [unchanged, ← before]
      simp [attemptNumbers, isAttemptOf, newExecution, here]
  | untouched remediations _ executions =>
    simp only [attemptNumbers, attemptsOf, remediations, executions]
    exact numbered id

theorem RowsEffect.withinCatalog {env : Env} {now : Time} {c : Command} {s s' : Store}
    (effect : RowsEffect env now c s s')
    (within : Table.Every (fun _ r => WithinCatalog r) s.remediation.remediations) :
    Table.Every (fun _ r => WithinCatalog r) s'.remediation.remediations := by
  cases effect with
  | inserted row decision fresh _ remediations _ _ =>
    rw [remediations]
    refine within.insert ?_
    simp only [WithinCatalog, fresh.attempts]
    split <;> simp
  | changed k row row' found same _ _ attempts remediations _ _ =>
    rw [remediations]
    refine within.put found ?_
    simpa only [WithinCatalog, same.actionId, attempts] using within k row found
  | started k row row' owner leaseSeconds entry _ found _ known clear same _ attempts remediations
      _ _ =>
    rw [remediations]
    refine within.put found ?_
    obtain ⟨_, _, _, unblocked⟩ := executionBlocker_eq_none clear
    obtain ⟨entry', known', _, _, _, left⟩ := catalogBlocker_eq_none unblocked
    simp only [WithinCatalog, same.actionId, known', attempts]
    exact left
  | untouched remediations _ _ =>
    rw [remediations]
    exact within

/-- The numbering and the catalog's bound, together. -/
structure AttemptsRecorded (s : Store) : Prop where
  numbered : ExecutionsNumbered s
  within : Table.Every (fun _ r => WithinCatalog r) s.remediation.remediations

theorem AttemptsRecorded.of_same {s s' : Store} (recorded : AttemptsRecorded s)
    (same : s'.remediation = s.remediation) : AttemptsRecorded s' := by
  obtain ⟨numbered, within⟩ := recorded
  refine ⟨fun id => ?_, by rwa [same]⟩
  simp only [attemptNumbers, attemptsOf, same]
  exact numbered id

theorem Transaction.attemptsRecorded {env : Env} {now : Time} {tickets : List IssuedTicket}
    {c : Command} {s s' : Store} (transaction : Transaction env now tickets c s s')
    (recorded : AttemptsRecorded s) : AttemptsRecorded s' := by
  cases transaction with
  | alert step => exact recorded.of_same step.remediation
  | investigation step => exact recorded.of_same step.remediation
  | remediation step =>
    exact ⟨step.effect.rows.executionsNumbered recorded.numbered,
      step.effect.rows.withinCatalog recorded.within⟩
  | verification step => exact recorded.of_same step.remediation

theorem attemptsRecorded_empty : AttemptsRecorded {} :=
  ⟨fun _ => rfl, Table.Every.nil⟩

/-! ## The latest attempt -/

theorem ExecutionsNumbered.number_le {s : Store} (numbered : ExecutionsNumbered s) {x : Uuid}
    {e : RemediationExecutionRow} (execution : s.remediation.executions[x]? = some e) :
    1 ≤ e.attemptNumber ∧ e.attemptNumber ≤ attemptsOf s e.remediationId := by
  have listed : e.attemptNumber ∈ attemptNumbers s e.remediationId :=
    Table.mem_project.mpr ⟨x, e, execution, by simp [isAttemptOf], rfl⟩
  rw [numbered, List.mem_range'_1] at listed
  omega

/-- The attempt whose number is the number of attempts is the latest one. -/
theorem ExecutionsNumbered.latest {s : Store} (numbered : ExecutionsNumbered s) {x : Uuid}
    {e : RemediationExecutionRow} (execution : s.remediation.executions[x]? = some e)
    (last : e.attemptNumber = attemptsOf s e.remediationId) :
    latestExecution s e.remediationId = some (x, e) := by
  cases chosen : latestExecution s e.remediationId with
  | none =>
    have skipped := Table.latest_none chosen execution
    simp at skipped
  | some other =>
    obtain ⟨y, e'⟩ := other
    obtain ⟨row, ofRemediation⟩ := Table.latest_some chosen
    have above := Table.latest_le chosen execution (by simp)
    have below := (numbered.number_le row).2
    have sameRemediation : e'.remediationId = e.remediationId := by simpa using ofRemediation
    rw [sameRemediation, ← last] at below
    have sameNumber : e'.attemptNumber = e.attemptNumber := Nat.le_antisymm below above
    have distinct : (attemptNumbers s e.remediationId).Nodup := by
      rw [numbered]
      exact List.nodup_range'
    have sameKey : y = x := Table.key_unique_of_nodup_project distinct row execution
      (by simp [isAttemptOf, sameRemediation]) (by simp [isAttemptOf]) sameNumber
    subst sameKey
    rw [row] at execution
    cases execution
    rfl

/-! ## Interrupted attempts -/

/-- A claim finds the latest attempt of an executing remediation `UNKNOWN`. -/
def ClaimsUnknown (s : Store) (c : Command) : Prop :=
  match c with
  | .claimExecution id _ _ =>
    match s.remediation.remediations[id]?, latestExecution s id with
    | some row, some (_, e) => row.status = .executing ∧ e.status = .unknown
    | _, _ => False
  | _ => False

instance (s : Store) (c : Command) : Decidable (ClaimsUnknown s c) := by
  unfold ClaimsUnknown
  split
  · split <;> infer_instance
  · infer_instance

/-- An unsettled attempt is the latest one of a remediation that is executing. -/
def UnsettledLatest (s : Store) : Prop :=
  ∀ (x : Uuid) (e : RemediationExecutionRow), s.remediation.executions[x]? = some e →
    isUnsettled e = true → ∃ row, s.remediation.remediations[e.remediationId]? = some row ∧ row.status = .executing ∧
      e.attemptNumber = row.executionAttempts

section
variable {s : Store} {x : Uuid} {e : RemediationExecutionRow}

theorem UnsettledLatest.latest (unsettled : UnsettledLatest s) (numbered : ExecutionsNumbered s)
    (execution : s.remediation.executions[x]? = some e) (open_ : isUnsettled e = true) :
    latestExecution s e.remediationId = some (x, e) := by
  obtain ⟨row, found, _, last⟩ := unsettled x e execution open_
  exact numbered.latest execution (by rw [last, attemptsOf_found found])

/-- A remediation has at most one unsettled attempt. -/
theorem UnsettledLatest.unique (unsettled : UnsettledLatest s) (numbered : ExecutionsNumbered s)
    {y : Uuid} {e' : RemediationExecutionRow} (execution : s.remediation.executions[x]? = some e)
    (open_ : isUnsettled e = true) (other : s.remediation.executions[y]? = some e')
    (alsoOpen : isUnsettled e' = true) (same : e'.remediationId = e.remediationId) : y = x := by
  have first := unsettled.latest numbered execution open_
  have second := unsettled.latest numbered other alsoOpen
  rw [same, first] at second
  cases second
  rfl

end

/-- Where a claim of the remediation finds no running and no unknown attempt, every
attempt of it is settled. -/
theorem settled_of_claimedIdle {s : Store} {c : Command} {id : Uuid} {row : RemediationRow}
    (unsettled : UnsettledLatest s) (numbered : ExecutionsNumbered s)
    (fine : ¬ ClaimsUnknown s c) (idle : ClaimedIdle c s id)
    (found : s.remediation.remediations[id]? = some row) {x : Uuid} {e : RemediationExecutionRow}
    (execution : s.remediation.executions[x]? = some e) (ofRemediation : e.remediationId = id) :
    isUnsettled e = false := by
  by_contra stillOpen
  have open_ : isUnsettled e = true := by simpa using stillOpen
  obtain ⟨⟨owner, leaseSeconds, rfl⟩, notRunning⟩ := idle
  obtain ⟨row', found', executing, _⟩ := unsettled x e execution open_
  have latest := unsettled.latest numbered execution open_
  subst ofRemediation
  rw [found] at found'
  cases found'
  have unknown : e.status = .unknown := by
    have notNow := notRunning x e latest
    simpa [isUnsettled, notNow] using open_
  exact fine (by simp [ClaimsUnknown, found, latest, executing, unknown])

/-- The unsettled attempts survive a change of a row whose own attempts are settled. -/
theorem UnsettledLatest.put_settled {s s' : Store} {id : Uuid} {row row' : RemediationRow}
    (unsettled : UnsettledLatest s) (found : s.remediation.remediations[id]? = some row)
    (settled : ∀ (x : Uuid) (e : RemediationExecutionRow),
      s'.remediation.executions[x]? = some e → e.remediationId = id → isUnsettled e = false)
    (remediations : s'.remediation.remediations = s.remediation.remediations.set id row')
    (executions : ∀ (x : Uuid) (e : RemediationExecutionRow),
      s'.remediation.executions[x]? = some e → isUnsettled e = true →
        s.remediation.executions[x]? = some e) : UnsettledLatest s' := by
  intro x e execution open_
  obtain ⟨r, row, executing, last⟩ := unsettled x e (executions x e execution open_) open_
  have other : e.remediationId ≠ id := by
    intro same
    rw [settled x e execution same] at open_
    cases open_
  refine ⟨r, ?_, executing, last⟩
  rw [remediations]
  exact (Table.get_put found).mpr (.inr ⟨other, row⟩)

theorem UnsettledLatest.of_executions {s s' : Store} (unsettled : UnsettledLatest s)
    (executions : s'.remediation.executions = s.remediation.executions)
    (remediations : ∀ (id : Uuid) (row : RemediationRow),
      s.remediation.remediations[id]? = some row → row.status = .executing → ∃ row', s'.remediation.remediations[id]? = some row' ∧
        row'.status = .executing ∧ row'.executionAttempts = row.executionAttempts) :
    UnsettledLatest s' := by
  intro x e execution open_
  rw [executions] at execution
  obtain ⟨row, found, executing, last⟩ := unsettled x e execution open_
  obtain ⟨row', found', executing', attempts⟩ := remediations _ row found executing
  exact ⟨row', found', executing', by rw [attempts, last]⟩

theorem RemediationEffect.unsettledLatest {env : Env} {now : Time} {c : Command} {s s' : Store}
    (effect : RemediationEffect env now c s s') (fine : ¬ ClaimsUnknown s c)
    (numbered : ExecutionsNumbered s) (unsettled : UnsettledLatest s) : UnsettledLatest s' := by
  -- A row that is not executing has no unsettled attempt.
  have idleRow : ∀ {id : Uuid} {row : RemediationRow},
      s.remediation.remediations[id]? = some row → row.status ≠ .executing →
      ∀ (x : Uuid) (e : RemediationExecutionRow), s.remediation.executions[x]? = some e →
        e.remediationId = id → isUnsettled e = false := by
    intro id row found idle x e execution same
    by_contra stillOpen
    obtain ⟨row', found', executing, _⟩ := unsettled x e execution (by simpa using stillOpen)
    rw [same, found] at found'
    cases found'
    exact idle executing
  -- The settled attempt was the only unsettled one of its remediation.
  have settleOne : ∀ {x : Uuid} {e e' : RemediationExecutionRow} {row row' : RemediationRow},
      s.remediation.executions[x]? = some e →
      isUnsettled e = true → isUnsettled e' = false → e'.remediationId = e.remediationId →
      s.remediation.remediations[e.remediationId]? = some row →
      s'.remediation.remediations = s.remediation.remediations.set e.remediationId row' →
      s'.remediation.executions = s.remediation.executions.set x e' → UnsettledLatest s' := by
    intro x e e' row row' execution open_ settled same found remediations executions
    refine unsettled.put_settled found ?_ remediations ?_
    · intro y q found' ofRemediation
      rw [executions] at found'
      rcases (Table.get_put execution).mp found' with ⟨rfl, rfl⟩ | ⟨other, old⟩
      · exact settled
      · by_contra stillOpen
        exact other (unsettled.unique numbered execution open_ old (by simpa using stillOpen)
          ofRemediation)
    · intro y q found' stillOpen
      rw [executions] at found'
      rcases (Table.get_put execution).mp found' with ⟨rfl, rfl⟩ | ⟨_, old⟩
      · rw [settled] at stillOpen
        cases stillOpen
      · exact old
  cases effect with
  | rejected incident row decision _ _ _ _ _ tables _ =>
    refine unsettled.of_executions (by rw [tables]) (fun id row found executing => ⟨row, ?_⟩)
    rw [tables]
    exact ⟨Table.get_insert.mpr (.inl found), executing, rfl⟩
  | requested incident row decision _ _ _ _ _ _ _ tables _ =>
    refine unsettled.of_executions (by rw [tables]) (fun id row found executing => ⟨row, ?_⟩)
    rw [tables]
    exact ⟨Table.get_insert.mpr (.inl found), executing, rfl⟩
  | approved id row row' _ _ _ _ _ _ _ _ _ _ found _ awaiting _ _ _ _ _ _ _ _ _ _ _ _ tables _ =>
    refine unsettled.put_settled found ?_ (by rw [tables]) (by rw [tables]; exact fun _ _ h _ => h)
    rw [tables]
    exact idleRow found (by simp [awaiting])
  | withdrawn id row row' _ _ _ found _ before _ _ _ _ _ _ _ tables _ =>
    refine unsettled.put_settled found ?_ (by rw [tables]) (by rw [tables]; exact fun _ _ h _ => h)
    rw [tables]
    rcases before with awaiting | approved | ⟨_, _, idle⟩
    · exact idleRow found (by simp [awaiting])
    · exact idleRow found (by simp [approved])
    · exact fun x e execution same =>
        settled_of_claimedIdle unsettled numbered fine idle found execution same
  | blocked id row row' _ found _ _ idle _ _ _ _ _ tables _ =>
    refine unsettled.put_settled found ?_ (by rw [tables]) (by rw [tables]; exact fun _ _ h _ => h)
    rw [tables]
    exact fun x e execution same =>
      settled_of_claimedIdle unsettled numbered fine idle found execution same
  | started id row row' owner leaseSeconds entry command found before notRunning _ _ _ status
      attempts _ _ tables _ =>
    have settled : ∀ (x : Uuid) (e : RemediationExecutionRow),
        s.remediation.executions[x]? = some e → e.remediationId = id → isUnsettled e = false :=
      fun x e execution same => settled_of_claimedIdle unsettled numbered fine ⟨⟨owner, leaseSeconds, command⟩, notRunning⟩
        found execution same
    intro x e execution open_
    rw [tables] at execution ⊢
    rcases Table.get_insert.mp execution with old | ⟨_, rfl⟩
    · obtain ⟨r, row₁, executing, last⟩ := unsettled x e old open_
      have other : e.remediationId ≠ id := by
        intro same
        rw [settled x e old same] at open_
        cases open_
      exact ⟨r, (Table.get_put found).mpr (.inr ⟨other, row₁⟩), executing, last⟩
    · exact ⟨row', (Table.get_put found).mpr (.inl ⟨rfl, rfl⟩), status, attempts.symm⟩
  | interrupted id row row' x e e' found _ _ latest running unknown remediationId attemptNumber _ _
      status attempts _ _ tables _ =>
    have execution := (Table.latest_some latest).1
    intro y q found' open_
    rw [tables] at found' ⊢
    have before : ∃ q', s.remediation.executions[y]? = some q' ∧ isUnsettled q' = true ∧
        q'.remediationId = q.remediationId ∧ q'.attemptNumber = q.attemptNumber := by
      rcases (Table.get_put execution).mp found' with ⟨rfl, rfl⟩ | ⟨_, old⟩
      · exact ⟨e, execution, by simp [isUnsettled, running], remediationId.symm,
          attemptNumber.symm⟩
      · exact ⟨q, old, open_, rfl, rfl⟩
    obtain ⟨q', old, wasOpen, sameRemediation, sameNumber⟩ := before
    obtain ⟨r, row₁, executing, last⟩ := unsettled y q' old wasOpen
    rw [sameRemediation] at row₁
    by_cases here : q.remediationId = id
    · rw [here, found] at row₁
      cases row₁
      exact ⟨row', (Table.get_put found).mpr (.inl ⟨here, rfl⟩), by rw [status, executing],
        by rw [attempts, ← sameNumber, last]⟩
    · exact ⟨r, (Table.get_put found).mpr (.inr ⟨here, row₁⟩), executing, by
        rw [← sameNumber, last]⟩
  | executed x e e' row row' _ _ _ _ _ _ _ _ _ _ execution found _ _ open_ settled remediationId _
      _ _ _ _ _ _ _ tables _ =>
    exact settleOne execution open_ settled remediationId found (by rw [tables]) (by rw [tables])
  | attemptFailed x e e' row row' _ _ _ _ _ _ _ _ execution found _ _ open_ settled remediationId _
      _ _ _ _ _ _ tables _ =>
    exact settleOne execution open_ settled remediationId found (by rw [tables]) (by rw [tables])
  | retriable x e e' row row' _ _ _ _ _ _ _ execution found _ open_ settled remediationId _
      _ _ _ _ _ _ tables _ =>
    exact settleOne execution open_ settled remediationId found (by rw [tables]) (by rw [tables])
  | configured baselines killSwitches _ tables _ =>
    refine unsettled.of_executions (by rw [tables]) (fun id row found executing => ⟨row, ?_⟩)
    rw [tables]
    exact ⟨found, executing, rfl⟩

/-! ## Every step of a run -/

/-- The bookkeeping of attempts, and what it says about the unsettled ones. -/
structure AttemptsSound (s : Store) : Prop where
  recorded : AttemptsRecorded s
  unsettled : UnsettledLatest s

theorem attemptsSound_empty : AttemptsSound {} := by
  refine ⟨attemptsRecorded_empty, fun x e execution => ?_⟩
  simp at execution

theorem Transaction.attemptsSound {env : Env} {now : Time} {tickets : List IssuedTicket}
    {c : Command} {s s' : Store} (transaction : Transaction env now tickets c s s')
    (fine : ¬ ClaimsUnknown s c) (sound : AttemptsSound s) : AttemptsSound s' := by
  refine ⟨transaction.attemptsRecorded sound.recorded, ?_⟩
  have untouched : s'.remediation = s.remediation → UnsettledLatest s' := by
    intro same
    unfold UnsettledLatest
    rw [same]
    exact sound.unsettled
  cases transaction with
  | alert step => exact untouched step.remediation
  | investigation step => exact untouched step.remediation
  | remediation step =>
    exact step.effect.unsettledLatest fine sound.recorded.numbered sound.unsettled
  | verification step => exact untouched step.remediation

theorem not_claimsUnknown {s : Store} {c : Command} (other : handlesAttempts c = false) :
    ¬ ClaimsUnknown s c := by
  cases c <;> first | exact fun found => found | cases other

theorem step_attemptsSound (env : Env) {w : World} {event : Event}
    (fine : ¬ ClaimsUnknown w.store event.command) (sound : AttemptsSound w.store) :
    AttemptsSound (step env w event).store := by
  cases handles : handlesAttempts event.command with
  | true =>
    rcases execute_attempts env (w.clock + event.elapsed) w.tickets w.store handles with
      same | ⟨stepped, publishes⟩
    · simp only [step, same]
      exact sound
    · have transaction : Transaction env _ w.tickets event.command w.store
          (execute env _ w.tickets w.store event.command) := .remediation stepped publishes
      exact transaction.attemptsSound fine sound
  | false =>
    exact Machine.preserved_of_path (P := AttemptsSound)
      (fun transaction holds => transaction.attemptsSound (not_claimsUnknown handles) holds)
      (execute_path env _ w.tickets w.store event.command) sound

/-- What an event may do while attempt `x` of a remediation is not settled. -/
structure HeldUntilSettled (env : Env) (w : World) (event : Event) (x : Uuid)
    (e : RemediationExecutionRow) : Prop where
  /-- No further attempt of the remediation is created. -/
  noNext : ∀ (y : Uuid) (q : RemediationExecutionRow),
    (step env w event).store.remediation.executions[y]? = some q →
      q.remediationId = e.remediationId → y < w.store.remediation.executions.length
  /-- Only the completion of the attempt settles it. -/
  settling : (∃ e', (step env w event).store.remediation.executions[x]? = some e' ∧
      e'.remediationId = e.remediationId ∧ isUnsettled e' = true) ∨
    ∃ owner outcome executor result error retryable,
      event.command = .completeExecution x owner outcome executor result error retryable
  /-- A claim does not give the remediation up. -/
  notGivenUp : ∀ id owner leaseSeconds, event.command = .claimExecution id owner leaseSeconds →
    ∀ row, (step env w event).store.remediation.remediations[e.remediationId]? = some row →
      row.status ≠ .failed ∧ row.status ≠ .cancelled
  /-- A claim of the remediation hands the attempt out for reconciliation, unless the
  runner that has it holds an unexpired lease: then it hands out nothing. -/
  handedOut : ∀ owner leaseSeconds,
    event.command = .claimExecution e.remediationId owner leaseSeconds →
    ∃ row, w.store.remediation.remediations[e.remediationId]? = some row ∧
      if leaseLive (w.clock + event.elapsed) row.leaseExpiresAt then
        claimExecution env (w.clock + event.elapsed) w.store e.remediationId owner leaseSeconds =
          .ok (none, w.store)
      else ∃ ticket,
        claimExecution env (w.clock + event.elapsed) w.store e.remediationId owner leaseSeconds =
          .ok (some ticket, (step env w event).store) ∧
        ticket.mode = .reconcile ∧ ticket.executionId = x

/-- Every attempt that is not settled is held until it is. -/
def InterruptedSettled (env : Env) (w : World) (event : Event) : Prop :=
  ∀ (x : Uuid) (e : RemediationExecutionRow), w.store.remediation.executions[x]? = some e →
    isUnsettled e = true → HeldUntilSettled env w event x e

/-- The effect of a transaction on an attempt that is not settled. -/
theorem RemediationEffect.keeps_unsettled {env : Env} {now : Time} {c : Command} {s s' : Store}
    (effect : RemediationEffect env now c s s') (fine : ¬ ClaimsUnknown s c)
    (sound : AttemptsSound s) {x : Uuid} {e : RemediationExecutionRow}
    (execution : s.remediation.executions[x]? = some e) (open_ : isUnsettled e = true) :
    (∀ (y : Uuid) (q : RemediationExecutionRow), s'.remediation.executions[y]? = some q →
      q.remediationId = e.remediationId → y < s.remediation.executions.length) ∧
    ((∃ e', s'.remediation.executions[x]? = some e' ∧ e'.remediationId = e.remediationId ∧
        isUnsettled e' = true) ∨
      ∃ owner outcome executor result error retryable,
        c = .completeExecution x owner outcome executor result error retryable) := by
  have same : s'.remediation.executions = s.remediation.executions →
      (∀ (y : Uuid) (q : RemediationExecutionRow), s'.remediation.executions[y]? = some q →
        q.remediationId = e.remediationId → y < s.remediation.executions.length) ∧
      ∃ e', s'.remediation.executions[x]? = some e' ∧ e'.remediationId = e.remediationId ∧
        isUnsettled e' = true := by
    intro executions
    rw [executions]
    exact ⟨fun y q row _ => Table.lt_of_row row, e, execution, rfl, open_⟩
  -- One attempt is rewritten: another one than `x`, or `x` by its completion.
  have put : ∀ {z : Uuid} {p p' : RemediationExecutionRow},
      s.remediation.executions[z]? = some p →
      s'.remediation.executions = s.remediation.executions.set z p' →
      (∀ (y : Uuid) (q : RemediationExecutionRow), s'.remediation.executions[y]? = some q →
        q.remediationId = e.remediationId → y < s.remediation.executions.length) ∧
      (z ≠ x → ∃ e', s'.remediation.executions[x]? = some e' ∧
        e'.remediationId = e.remediationId ∧ isUnsettled e' = true) := by
    intro z p p' found executions
    rw [executions]
    refine ⟨fun y q row _ => ?_, fun other => ⟨e, ?_, rfl, open_⟩⟩
    · simpa using Table.lt_of_row row
    · exact (Table.get_put found).mpr (.inr ⟨Ne.symm other, execution⟩)
  have completed : ∀ {z : Uuid} {p p' : RemediationExecutionRow} {owner : String}
      {outcome : AttemptOutcome} {executor : String} {result : Option Dict}
      {error : Option String} {retryable : Bool},
      c = .completeExecution z owner outcome executor result error retryable →
      s.remediation.executions[z]? = some p →
      s'.remediation.executions = s.remediation.executions.set z p' →
      (∀ (y : Uuid) (q : RemediationExecutionRow), s'.remediation.executions[y]? = some q →
        q.remediationId = e.remediationId → y < s.remediation.executions.length) ∧
      ((∃ e', s'.remediation.executions[x]? = some e' ∧ e'.remediationId = e.remediationId ∧
          isUnsettled e' = true) ∨
        ∃ owner outcome executor result error retryable,
          c = .completeExecution x owner outcome executor result error retryable) := by
    intro z p p' owner outcome executor result error retryable command found executions
    obtain ⟨inside, kept⟩ := put found executions
    refine ⟨inside, ?_⟩
    by_cases here : z = x
    · subst here
      exact .inr ⟨owner, outcome, executor, result, error, retryable, command⟩
    · exact .inl (kept here)
  cases effect with
  | rejected _ _ _ _ _ _ _ _ tables _ => exact (same (by rw [tables])).imp_right .inl
  | requested _ _ _ _ _ _ _ _ _ _ tables _ => exact (same (by rw [tables])).imp_right .inl
  | approved _ _ _ _ _ _ _ _ _ _ _ _ _ _ _ _ _ _ _ _ _ _ _ _ _ _ _ _ tables _ =>
    exact (same (by rw [tables])).imp_right .inl
  | withdrawn _ _ _ _ _ _ _ _ _ _ _ _ _ _ _ _ tables _ =>
    exact (same (by rw [tables])).imp_right .inl
  | blocked _ _ _ _ _ _ _ _ _ _ _ _ _ tables _ =>
    exact (same (by rw [tables])).imp_right .inl
  | configured _ _ _ tables _ => exact (same (by rw [tables])).imp_right .inl
  | started id row _ owner leaseSeconds _ command found _ notRunning _ _ _ _ _ _ _ tables _ =>
    have other : e.remediationId ≠ id := by
      intro here
      have settled := settled_of_claimedIdle sound.unsettled sound.recorded.numbered fine
        ⟨⟨owner, leaseSeconds, command⟩, notRunning⟩ found execution here
      rw [settled] at open_
      cases open_
    rw [tables]
    refine ⟨fun y q row ofRemediation => ?_, .inl ⟨e, Table.get_insert.mpr (.inl execution), rfl,
      open_⟩⟩
    rcases Table.get_insert.mp row with old | ⟨_, rfl⟩
    · exact Table.lt_of_row old
    · exact absurd ofRemediation.symm other
  | interrupted id row _ z p p' found _ _ latest running unknown remediationId _ _ _ _ _ _ _
      tables _ =>
    have executions := congrArg RemediationTables.executions tables
    obtain ⟨inside, kept⟩ := put (Table.latest_some latest).1 executions
    refine ⟨inside, .inl ?_⟩
    by_cases here : z = x
    · subst here
      have row := (Table.latest_some latest).1
      rw [execution] at row
      cases row
      refine ⟨p', ?_, remediationId, by simp [isUnsettled, unknown]⟩
      rw [executions]
      exact (Table.get_put execution).mpr (.inl ⟨rfl, rfl⟩)
    · exact kept here
  | executed _ _ _ _ _ _ _ _ _ _ _ _ _ _ command found _ _ _ _ _ _ _ _ _ _ _ _ _ _ tables _ =>
    exact completed command found (congrArg RemediationTables.executions tables)
  | attemptFailed _ _ _ _ _ _ _ _ _ _ _ _ command found _ _ _ _ _ _ _ _ _ _ _ _ _ tables _ =>
    exact completed command found (congrArg RemediationTables.executions tables)
  | retriable _ _ _ _ _ _ _ _ _ _ _ command found _ _ _ _ _ _ _ _ _ _ _ _ tables _ =>
    exact completed command found (congrArg RemediationTables.executions tables)

/-- A claim that finds the latest attempt running. -/
theorem claimExecution_of_running (env : Env) (now : Time) (owner : String) (leaseSeconds : Int)
    {s : Store} {id : Uuid} {row : RemediationRow} {x : Uuid} {e : RemediationExecutionRow}
    (found : s.remediation.remediations[id]? = some row)
    (executing : row.status = .executing) (latest : latestExecution s id = some (x, e))
    (running : e.status = .running) :
    claimExecution env now s id owner leaseSeconds =
      if leaseLive now row.leaseExpiresAt then .ok (none, s)
      else .ok (interruptAttempt now s id row x e owner leaseSeconds) := by
  have locked : lockRemediation s id = .ok row := lockRemediation_eq_ok.mpr found
  simp only [claimExecution, locked, bind, Except.bind, executing, latest, running]
  split_ifs <;> first | rfl | simp_all

/-- Interrupting an attempt hands it out for reconciliation. -/
theorem interruptAttempt_ticket (now : Time) (s : Store) (id : Uuid) (row : RemediationRow)
    (x : Uuid) (e : RemediationExecutionRow) (owner : String) (leaseSeconds : Int) :
    ∃ ticket s', interruptAttempt now s id row x e owner leaseSeconds = (some ticket, s') ∧
      ticket.mode = .reconcile ∧ ticket.executionId = x :=
  ⟨_, _, rfl, rfl, rfl⟩

theorem step_interruptedSettled {env : Env} {w : World} {event : Event}
    (fine : ¬ ClaimsUnknown w.store event.command) (sound : AttemptsSound w.store) :
    InterruptedSettled env w event := by
  intro x e execution open_
  have after := step_attemptsSound env fine sound
  have kept : (∀ (y : Uuid) (q : RemediationExecutionRow),
      (step env w event).store.remediation.executions[y]? = some q →
        q.remediationId = e.remediationId → y < w.store.remediation.executions.length) ∧
      ((∃ e', (step env w event).store.remediation.executions[x]? = some e' ∧
          e'.remediationId = e.remediationId ∧ isUnsettled e' = true) ∨
        ∃ owner outcome executor result error retryable,
          event.command = .completeExecution x owner outcome executor result error retryable) := by
    cases handles : handlesAttempts event.command with
    | true =>
      rcases execute_attempts env (w.clock + event.elapsed) w.tickets w.store handles with
        same | ⟨stepped, _⟩
      · simp only [step, same]
        exact ⟨fun y q row _ => Table.lt_of_row row, .inl ⟨e, execution, rfl, open_⟩⟩
      · exact stepped.effect.keeps_unsettled fine sound execution open_
    | false =>
      have same := execute_executions_eq env (w.clock + event.elapsed) w.tickets w.store handles
      simp only [step, same]
      exact ⟨fun y q row _ => Table.lt_of_row row, .inl ⟨e, execution, rfl, open_⟩⟩
  obtain ⟨noNext, settling⟩ := kept
  refine ⟨noNext, settling, ?_, ?_⟩
  · intro id owner leaseSeconds command row found
    rcases settling with ⟨e', execution', same, stillOpen⟩ | ⟨_, _, _, _, _, _, completes⟩
    · obtain ⟨row', found', executing, _⟩ := after.unsettled x e' execution' stillOpen
      rw [same, found] at found'
      cases found'
      simp [executing]
    · rw [command] at completes
      cases completes
  · intro owner leaseSeconds command
    obtain ⟨row, found, executing, _⟩ := sound.unsettled x e execution open_
    have latest := sound.unsettled.latest sound.recorded.numbered execution open_
    have running : e.status = .running := by
      by_contra notRunning
      have unknown : e.status = .unknown := by simpa [isUnsettled, notRunning] using open_
      exact fine (by simp [command, ClaimsUnknown, found, latest, executing, unknown])
    refine ⟨row, found, ?_⟩
    have claimed := claimExecution_of_running env (w.clock + event.elapsed) owner leaseSeconds
      found executing latest running
    split_ifs at claimed ⊢ with live
    · exact claimed
    · obtain ⟨ticket, s', interrupted, mode, attempt⟩ := interruptAttempt_ticket
        (w.clock + event.elapsed) w.store e.remediationId row x e owner leaseSeconds
      rw [interrupted] at claimed
      refine ⟨ticket, ?_, mode, attempt⟩
      simp only [step, command, execute, claimed, committed]

/-- In a run in which no claim finds the latest attempt of an executing remediation
`UNKNOWN`, an attempt is settled before anything else happens to its remediation. -/
theorem interrupted_attempts_are_settled (env : Env) (clock : Time) (events : List Event)
    (event : Event)
    (met : Machine.StepsMeet (fun w e => ¬ ClaimsUnknown w.store e.command) (step env)
      (emptyWorld clock) (events ++ [event])) :
    InterruptedSettled env (runFrom env clock events) event := by
  obtain ⟨before, fine⟩ := Machine.stepsMeet_concat.mp met
  have sound : AttemptsSound (runFrom env clock events).store :=
    Machine.invariant_of_stepsMeet (P := fun w => AttemptsSound w.store) attemptsSound_empty
      (fun w e fine sound => step_attemptsSound env fine sound) before
  exact step_interruptedSettled fine sound

/-- A second runner claims the restart of payments after the first one's lease. -/
def restartReclaimed : Event :=
  { elapsed := 200 * 1000000, command := .claimExecution 0 "runner-2" 60 }

theorem interrupted_attempts_are_settled_reclaimed :
    InterruptedSettled paymentsEnv (runFrom paymentsEnv 0 restartStarted) restartReclaimed :=
  interrupted_attempts_are_settled paymentsEnv 0 restartStarted restartReclaimed
    (by decide +kernel)

/-- While the second runner reconciles, a third one's claim starts another attempt. -/
theorem not_interrupted_attempts_are_settled :
    ¬ ∀ (env : Env) (clock : Time) (events : List Event) (event : Event),
      InterruptedSettled env (runFrom env clock events) event := by
  intro settled
  have held := settled paymentsEnv 0 (restartStarted ++ [restartReclaimed])
    (next (.claimExecution 0 "runner-3" 60))
  have first : ((runFrom paymentsEnv 0 (restartStarted ++
      [restartReclaimed])).store.remediation.executions[0]?).map
        (fun e => (e.remediationId, isUnsettled e)) = some (0, true) := by
    decide +kernel
  have second : ((step paymentsEnv (runFrom paymentsEnv 0 (restartStarted ++ [restartReclaimed]))
      (next (.claimExecution 0 "runner-3" 60))).store.remediation.executions[1]?).map
        (·.remediationId) = some 0 := by
    decide +kernel
  have before : (runFrom paymentsEnv 0 (restartStarted ++
      [restartReclaimed])).store.remediation.executions.length = 1 := by
    decide +kernel
  obtain ⟨e, execution, shape⟩ := Option.map_eq_some_iff.mp first
  obtain ⟨q, row, ofRemediation⟩ := Option.map_eq_some_iff.mp second
  obtain ⟨remediationId, open_⟩ := Prod.mk.inj shape
  have inside := (held 0 e execution open_).noNext 1 q row (ofRemediation.trans remediationId.symm)
  rw [before] at inside
  exact absurd inside (by decide)

end IncidentTriage.Verified
