import IncidentTriage.Verified.Resolution
import IncidentTriage.Verified.WorkItems

/-! # Verdicts release their incidents

An incident that is `VERIFYING` has its one open verification, and the verdict on it moves
the incident on, as long as no remediation of the incident was created after the verified
one when the verdict is reached.
-/

namespace IncidentTriage.Verified

open IncidentTriage.Python IncidentTriage.Domain IncidentTriage.Incident

/-! ## The condition -/

/-- The command reaches a verdict on the verification: its deadline has passed while nobody
holds it, or the poll decides. -/
inductive VerdictDue (now : Time) (tickets : List IssuedTicket) (s : Store) (c : Command)
    (id : Uuid) : Prop
  | deadline (owner : String) (leaseSeconds : ℚ) (row row₁ : VerificationRow)
      (command : c = .claimDue id owner leaseSeconds)
      (found : s.verification.verifications[id]? = some row) (begun : Begun s now row row₁)
      (free : leaseHeld row₁ now = false) (late : pastDeadline row₁ now = true)
  | poll (position : Nat) (issued : IssuedTicket) (sample : Sample) (evidenceIds : List Uuid)
      (observedAt : Time) (row row₁ : VerificationRow)
      (command : c = .recordObservation position sample evidenceIds observedAt)
      (held : tickets[position]? = some issued) (ofVerification : issued.ticket.verificationId = id)
      (found : s.verification.verifications[id]? = some row)
      (fenced : row.status = .running ∧ row.leaseOwner = some issued.ticket.owner ∧
        row.claimAttempt = issued.ticket.claimAttempt)
      (observed : row₁ = row.observed now issued.ticket.spec
        (pollResult s issued.ticket row sample))
      (decides : (issued.ticket.spec.decide (some (pollResult s issued.ticket row sample))
        row₁.consecutiveSuccesses row₁.conclusiveCount now
        (row₁.deadlineAt.getD now)).status ≠ .running)

/-- The verification's incident is `VERIFYING`, and has a remediation that was created after
the one that is verified. -/
def Overtaken (s : Store) (id : Uuid) : Prop :=
  ∃ v incident r, s.verification.verifications[id]? = some v ∧
    s.incidents[v.incidentId]? = some incident ∧ incident.status = .verifying ∧
    s.remediation.remediations[v.remediationId]? = some r ∧
    ∃ r' ∈ s.remediation.remediations, r'.incidentId = v.incidentId ∧ r.createdAt < r'.createdAt

/-- No verdict is reached on a verification that is overtaken. -/
def VerdictsTimely (w : World) (e : Event) : Prop :=
  ∀ id, VerdictDue (w.clock + e.elapsed) w.tickets w.store e.command id → ¬ Overtaken w.store id

/-! ## Verifications own their remediations -/

/-- An open verification is the one its executed remediation refers to. -/
def VerificationsOwn (s : Store) : Prop :=
  Table.Every (fun id v => v.status = .pending ∨ v.status = .running →
    ∃ r : RemediationRow, s.remediation.remediations[v.remediationId]? = some r ∧
      r.status = .executed ∧ r.verificationRef = some id) s.verification.verifications

/-- A remediation that is `EXECUTED` is written no more. -/
def ExecutedKept (r r' : RemediationRow) : Prop := r.status = .executed → r' = r

theorem RemediationEffect.executedKept {env : Env} {now : Time} {c : Command} {s s' : Store}
    (effect : RemediationEffect env now c s s') :
    Table.Evolves ExecutedKept s.remediation.remediations s'.remediation.remediations := by
  have refl : ∀ r, ExecutedKept r r := fun r _ => rfl
  have inserted : ∀ (row : RemediationRow),
      s'.remediation.remediations = s.remediation.remediations ++ [row] →
      Table.Evolves ExecutedKept s.remediation.remediations s'.remediation.remediations := by
    intro row remediations
    rw [remediations]
    exact Table.Evolves.insert refl _ _
  have put : ∀ {id : Uuid} {row row' : RemediationRow},
      s.remediation.remediations[id]? = some row → row.status ≠ .executed →
      s'.remediation.remediations = s.remediation.remediations.set id row' →
      Table.Evolves ExecutedKept s.remediation.remediations s'.remediation.remediations := by
    intro id row row' found other remediations
    rw [remediations]
    exact Table.Evolves.put refl found fun executed => absurd executed other
  cases effect with
  | rejected _ row _ _ _ _ _ _ tables => exact inserted row (by rw [tables])
  | requested _ row _ _ _ _ _ _ _ _ tables => exact inserted row (by rw [tables])
  | approved id row row' _ _ _ _ _ _ _ _ _ _ found _ awaiting _ _ _ _ _ _ _ _ _ _ _ _ tables =>
    exact put found (by simp [awaiting]) (congrArg RemediationTables.remediations tables)
  | withdrawn id row row' _ _ _ found _ before _ _ _ _ _ _ _ tables =>
    refine put found ?_ (congrArg RemediationTables.remediations tables)
    rcases before with before | before | ⟨before, _⟩ <;> simp [before]
  | blocked id row row' _ found _ before _ _ _ _ _ _ tables =>
    refine put found ?_ (congrArg RemediationTables.remediations tables)
    rcases before with before | before <;> simp [before]
  | started id row row' _ _ _ _ found before _ _ _ _ _ _ _ _ tables =>
    refine put found ?_ (congrArg RemediationTables.remediations tables)
    rcases before with before | before <;> simp [before]
  | interrupted id row row' _ _ _ found before _ _ _ _ _ _ _ _ _ _ _ _ tables =>
    refine put found ?_ (congrArg RemediationTables.remediations tables)
    rcases before with before | before <;> simp [before]
  | executed _ _ _ row row' _ _ _ _ _ _ _ _ _ _ _ found _ executing _ _ _ _ _ _ _ _ _ _ _
      tables =>
    exact put found (by simp [executing]) (congrArg RemediationTables.remediations tables)
  | attemptFailed _ _ _ row row' _ _ _ _ _ _ _ _ _ found _ executing _ _ _ _ _ _ _ _ _ _
      tables =>
    exact put found (by simp [executing]) (congrArg RemediationTables.remediations tables)
  | retriable _ _ _ row row' _ _ _ _ _ _ _ _ found executing _ _ _ _ _ _ _ _ _ _ tables =>
    exact put found (by simp [executing]) (congrArg RemediationTables.remediations tables)
  | configured _ _ _ tables =>
    rw [tables]
    exact Table.Evolves.refl refl _

theorem VerificationsOwn.of_remediations {s s' : Store} (own : VerificationsOwn s)
    (kept : Table.Evolves ExecutedKept s.remediation.remediations s'.remediation.remediations) :
    Table.Every (fun id v => v.status = .pending ∨ v.status = .running →
      ∃ r : RemediationRow, s'.remediation.remediations[v.remediationId]? = some r ∧
        r.status = .executed ∧ r.verificationRef = some id) s.verification.verifications := by
  refine Table.Every.imp own fun id v _ holds isOpen => ?_
  obtain ⟨r, found, executed, ref⟩ := holds isOpen
  obtain ⟨r', found', same⟩ := kept _ r found
  obtain rfl := same executed
  exact ⟨r', found', executed, ref⟩

theorem RemediationStep.verificationsOwn {env : Env} {now : Time} {c : Command} {s s' : Store}
    (step : RemediationStep env now c s s') (own : VerificationsOwn s) : VerificationsOwn s' := by
  have kept := own.of_remediations step.effect.executedKept
  have same : s'.verification = s.verification → VerificationsOwn s' := by
    intro verification
    unfold VerificationsOwn
    rwa [verification]
  cases step.effect with
  | rejected _ _ _ _ _ _ _ _ _ verification => exact same verification
  | requested _ _ _ _ _ _ _ _ _ _ _ verification => exact same verification
  | approved _ _ _ _ _ _ _ _ _ _ _ _ _ _ _ _ _ _ _ _ _ _ _ _ _ _ _ _ _ verification =>
    exact same verification
  | withdrawn _ _ _ _ _ _ _ _ _ _ _ _ _ _ _ _ _ verification => exact same verification
  | blocked _ _ _ _ _ _ _ _ _ _ _ _ _ _ verification => exact same verification
  | started _ _ _ _ _ _ _ _ _ _ _ _ _ _ _ _ _ _ verification => exact same verification
  | interrupted _ _ _ _ _ _ _ _ _ _ _ _ _ _ _ _ _ _ _ _ _ verification =>
    exact same verification
  | attemptFailed _ _ _ _ _ _ _ _ _ _ _ _ _ _ _ _ _ _ _ _ _ _ _ _ _ _ _ _ verification =>
    exact same verification
  | retriable _ _ _ _ _ _ _ _ _ _ _ _ _ _ _ _ _ _ _ _ _ _ _ _ _ _ verification =>
    exact same verification
  | configured _ _ _ _ verification => exact same verification
  | executed x e e' row row' incident v links _ _ _ _ _ _ _ execution found _ _ _ _ _ _ _ same
      status _ ref fresh _ tables verification =>
    have verifications : s'.verification.verifications = s.verification.verifications ++ [v] := by
      rw [verification]
    unfold VerificationsOwn
    rw [verifications]
    refine Table.Every.insert kept fun _ => ⟨row', ?_, status, ref⟩
    rw [congrArg RemediationTables.remediations tables, fresh.remediationId]
    exact (Table.get_put found).mpr (.inl ⟨rfl, rfl⟩)

theorem VerificationStep.verificationsOwn {env : Env} {now : Time} {tickets : List IssuedTicket}
    {c : Command} {s s' : Store} (step : VerificationStep env now tickets c s s')
    (own : VerificationsOwn s) : VerificationsOwn s' := by
  have put : ∀ {id : Uuid} {row : VerificationRow} (row' : VerificationRow),
      s.verification.verifications[id]? = some row → SameVerification row row' →
      (row.status = .pending ∨ row.status = .running) →
      s'.verification.verifications = s.verification.verifications.set id row' →
      VerificationsOwn s' := by
    intro id row row' found same isOpen verifications
    unfold VerificationsOwn
    rw [verifications, step.remediation]
    refine Table.Every.put own found fun _ => ?_
    rw [same.remediationId]
    exact own id row found isOpen
  cases step.effect with
  | started id row found pending _ tables =>
    exact put (row.started s now) found ⟨rfl, rfl, rfl, rfl⟩ (.inl pending)
      (congrArg VerificationTables.verifications tables)
  | claimed id row row₁ owner leaseSeconds _ found begun _ _ tables =>
    have same : SameVerification row₁ (row₁.claimed now owner leaseSeconds) := ⟨rfl, rfl, rfl, rfl⟩
    exact put _ found (begun.same.trans same) begun.isOpen
      (congrArg VerificationTables.verifications tables)
  | closed id row row₁ row' _ found begun _ _ _ closed _ tables =>
    exact put row' found (begun.same.trans closed.same) begun.isOpen
      (congrArg VerificationTables.verifications tables)
  | observed _ _ _ _ _ row row' _ _ _ _ _ recorded _ tables =>
    exact put row' recorded.found recorded.same (.inr recorded.running)
      (congrArg VerificationTables.verifications tables)
  | decided _ _ _ _ _ row row₁ row' _ _ _ _ _ _ recorded _ _ closed _ tables =>
    exact put row' recorded.found (recorded.same.trans closed.same) (.inr recorded.running)
      (congrArg VerificationTables.verifications tables)

theorem Transaction.verificationsOwn {env : Env} {now : Time} {tickets : List IssuedTicket}
    {c : Command} {s s' : Store} (transaction : Transaction env now tickets c s s')
    (own : VerificationsOwn s) : VerificationsOwn s' := by
  have same : s'.remediation = s.remediation → s'.verification = s.verification →
      VerificationsOwn s' := by
    intro remediation verification
    unfold VerificationsOwn
    rwa [remediation, verification]
  cases transaction with
  | alert step => exact same step.remediation step.verification
  | investigation step => exact same step.remediation step.verification
  | remediation step => exact step.verificationsOwn own
  | verification step => exact step.verificationsOwn own

/-! ## Verdicts -/

/-- An incident that is `VERIFYING` has its one open verification. -/
def Releases (s : Store) : Prop :=
  ∀ i, statusAt s.incidents i = some .verifying →
    s.verification.verifications.countP (openVerification i) = 1

/-- A verdict on a verification that is not overtaken takes its incident out of `VERIFYING`. -/
theorem not_verifying_of_verdict {env : Env} {now : Time} {s : Store} {id : Uuid}
    {row row₁ : VerificationRow} {status : VerificationStatus} {incidents : List IncidentRow}
    (own : VerificationsOwn s) (timely : ¬ Overtaken s id)
    (found : s.verification.verifications[id]? = some row) (same : SameVerification row row₁)
    (isOpen : row.status = .pending ∨ row.status = .running)
    (effect : VerdictEffect env now s id row₁ status incidents) :
    statusAt incidents row₁.incidentId ≠ some .verifying := by
  cases effect with
  | stale incident r reason incidentFound remediationFound stale unmoved =>
    rw [unmoved, statusAt_found incidentFound]
    intro verifying
    replace verifying : incident.status = .verifying := Option.some.inj verifying
    obtain ⟨r', found', executed, ref⟩ := own id row found isOpen
    rw [← same.remediationId, remediationFound] at found'
    obtain rfl := Option.some.inj found'
    simp only [staleness, verifying, executed, ref, ne_eq, not_true_eq_false, if_false] at stale
    split_ifs at stale with newer
    obtain ⟨r', member, shape⟩ := List.countP_pos_iff.mp (Nat.pos_of_ne_zero newer)
    simp only [Bool.and_eq_true, beq_iff_eq, decide_eq_true_eq] at shape
    rw [same.incidentId] at shape incidentFound
    rw [same.remediationId] at remediationFound
    exact timely ⟨row, incident, r, found, incidentFound, verifying, remediationFound, r', member,
      shape⟩
  | resolved incident r incidentFound _ fresh passed moved =>
    rw [moved, statusAt_set incidentFound, if_pos rfl]
    simp [IncidentRow.moved]
  | escalated incident incident' r incidentFound _ fresh notPassed status attempts moved =>
    rw [moved, statusAt_set incidentFound, if_pos rfl, status]
    simp
  | reinvestigate incident r incidentFound _ fresh notPassed attemptsLeft firing moved =>
    rw [moved, statusAt_set incidentFound, if_pos rfl]
    simp [IncidentRow.moved]

theorem VerificationStep.releases {env : Env} {now : Time} {tickets : List IssuedTicket}
    {c : Command} {s s' : Store} (step : VerificationStep env now tickets c s s')
    (coherent : WorkCoherent env s) (own : VerificationsOwn s)
    (timely : ∀ id, VerdictDue now tickets s c id → ¬ Overtaken s id) (one : Releases s) :
    Releases s' := by
  intro i after
  rcases step.casesStep i with same | case
  · have status : statusAt s.incidents i = statusAt s'.incidents i :=
      (congrArg Lifecycle.Case.status same).symm
    exact (congrArg Lifecycle.Case.openVerifications same).trans (one i (status.trans after))
  rcases case.verifying (coherent.cases i).remediations (one i) with kept | ⟨fewer, _⟩
  · exact kept after
  -- one verification less, and the incident still `VERIFYING`: no such step
  exfalso
  replace fewer : s'.verification.verifications.countP (openVerification i) <
    s.verification.verifications.countP (openVerification i) := fewer
  have stays : ∀ {id : Uuid} {row : VerificationRow} (row' : VerificationRow),
      s'.verification.verifications = s.verification.verifications.set id row' →
      s.verification.verifications[id]? = some row → SameVerification row row' →
      (row.status = .pending ∨ row.status = .running) → row'.status = .running → False := by
    intro id row row' verifications found same before after
    rw [verifications, openVerifications_put_same i found same before after] at fewer
    exact Nat.lt_irrefl _ fewer
  have verdict : ∀ {id : Uuid} {row row₁ row' : VerificationRow} {status : VerificationStatus},
      s'.verification.verifications = s.verification.verifications.set id row' →
      s.verification.verifications[id]? = some row → SameVerification row row₁ →
      (row.status = .pending ∨ row.status = .running) → row'.status = status →
      status ≠ .pending ∧ status ≠ .running →
      VerdictEffect env now s id row₁ status s'.incidents → ¬ Overtaken s id → False := by
    intro id row row₁ row' status verifications found same before closed verdict effect timely
    have ended := openVerifications_close i found before (by rwa [closed])
    rw [← verifications] at ended
    by_cases here : i = row.incidentId
    · rw [here, ← same.incidentId] at after
      exact not_verifying_of_verdict own timely found same before effect after
    · rw [if_neg here] at ended
      omega
  cases step.effect with
  | started id row found pending incidents tables =>
    exact stays (row.started s now) (congrArg VerificationTables.verifications tables) found
      ⟨rfl, rfl, rfl, rfl⟩ (.inl pending) rfl
  | claimed id row row₁ owner leaseSeconds command found begun due incidents tables =>
    have same : SameVerification row₁ (row₁.claimed now owner leaseSeconds) := ⟨rfl, rfl, rfl, rfl⟩
    exact stays _ (congrArg VerificationTables.verifications tables) found (begun.same.trans same)
      begun.isOpen begun.running
  | closed id row row₁ row' decision found begun late decided isVerdict closed effect tables
      command free =>
    obtain ⟨owner, leaseSeconds, issued⟩ := command
    exact verdict (congrArg VerificationTables.verifications tables) found begun.same begun.isOpen
      closed.status isVerdict effect
      (timely id (.deadline owner leaseSeconds row row₁ issued found begun free late))
  | observed position issued sample evidenceIds observedAt row row' o result links command held
      recorded incidents tables =>
    refine stays row' (congrArg VerificationTables.verifications tables) recorded.found
      recorded.same (.inr recorded.running) ?_
    rw [recorded.after]
    exact recorded.running
  | decided position issued sample evidenceIds observedAt row row₁ row' o result links decision
      command held recorded decided isVerdict closed effect tables evaluated =>
    refine verdict (congrArg VerificationTables.verifications tables) recorded.found
      recorded.same (.inr recorded.running) closed.status isVerdict effect
      (timely _ (.poll position issued sample evidenceIds observedAt row row₁ command held rfl
        recorded.found ⟨recorded.running, recorded.owner, recorded.claim⟩
        (evaluated ▸ recorded.after) ?_))
    rw [← evaluated, ← decided]
    exact isVerdict.2

theorem Transaction.releases {env : Env} {now : Time} {tickets : List IssuedTicket}
    {c : Command} {s s' : Store} (transaction : Transaction env now tickets c s s')
    (coherent : WorkCoherent env s) (own : VerificationsOwn s)
    (timely : ∀ id, VerdictDue now tickets s c id → ¬ Overtaken s id) (one : Releases s) :
    Releases s' := by
  -- where the verifications stay or are added to, none is lost
  have others : (∃ new, s'.verification.verifications = s.verification.verifications ++ new) →
      Releases s' := by
    rintro ⟨new, verifications⟩ i after
    rcases transaction.casesStep coherent.fit i with same | case
    · have status : statusAt s.incidents i = statusAt s'.incidents i :=
        (congrArg Lifecycle.Case.status same).symm
      exact (congrArg Lifecycle.Case.openVerifications same).trans (one i (status.trans after))
    rcases case.verifying (coherent.cases i).remediations (one i) with kept | ⟨fewer, _⟩
    · exact kept after
    · simp only [caseOf, verifications, List.countP_append] at fewer
      omega
  cases transaction with
  | alert step => exact others ⟨[], by rw [step.verification, List.append_nil]⟩
  | investigation step => exact others ⟨[], by rw [step.verification, List.append_nil]⟩
  | verification step => exact step.releases coherent own timely one
  | remediation step =>
    refine others ?_
    cases step.effect.verifications with
    | same verification => exact ⟨[], by rw [verification, List.append_nil]⟩
    | requested id row v found fresh verifications => exact ⟨[v], verifications⟩

/-! ## Runs -/

/-- What holds besides `Releases` in every reachable store, and what its proof rests on. -/
structure ReleaseSound (env : Env) (s : Store) : Prop where
  coherent : WorkCoherent env s
  own : VerificationsOwn s
  releases : Releases s

theorem Transaction.releaseSound {env : Env}
    (remediable : env.policy.remediableIncidentStatuses = [.rcaReady]) {now : Time}
    {tickets : List IssuedTicket} {c : Command} {s s' : Store}
    (transaction : Transaction env now tickets c s s')
    (timely : ∀ id, VerdictDue now tickets s c id → ¬ Overtaken s id)
    (sound : ReleaseSound env s) : ReleaseSound env s' :=
  ⟨transaction.workCoherent remediable sound.coherent, transaction.verificationsOwn sound.own,
    transaction.releases sound.coherent sound.own timely sound.releases⟩

theorem step_releaseSound {env : Env}
    (remediable : env.policy.remediableIncidentStatuses = [.rcaReady]) {w : World} {e : Event}
    (timely : VerdictsTimely w e) (sound : ReleaseSound env w.store) :
    ReleaseSound env (step env w e).store := by
  by_cases delivers : deliversVerdict e.command = true
  · rcases execute_verdict env (w.clock + e.elapsed) w.tickets w.store delivers with same | stepped
    · rwa [step, same]
    · exact (Transaction.verification stepped).releaseSound remediable timely sound
  · refine Machine.preserved_of_path (P := ReleaseSound env) (fun transaction sound => ?_)
      (execute_path env (w.clock + e.elapsed) w.tickets w.store e.command) sound
    refine transaction.releaseSound remediable (fun id due => ?_) sound
    -- no other command reaches a verdict
    cases due with
    | deadline _ _ _ _ command => exact absurd (by rw [command]; rfl) delivers
    | poll _ _ _ _ _ _ _ command => exact absurd (by rw [command]; rfl) delivers

/-- With the default policy, in every run in which no verdict is reached on an overtaken
verification, an incident that is `VERIFYING` has exactly one open verification. -/
theorem verdicts_release_incidents {env : Env} (policy : env.policy = PolicyEngine.defaultPolicy)
    (clock : Time) {events : List Event}
    (timely : Machine.StepsMeet VerdictsTimely (step env) (emptyWorld clock) events) {i : Uuid}
    {incident : IncidentRow} (found : (runFrom env clock events).store.incidents[i]? = some incident)
    (verifying : incident.status = .verifying) :
    (runFrom env clock events).store.verification.verifications.countP (openVerification i) = 1 := by
  have remediable : env.policy.remediableIncidentStatuses = [.rcaReady] := by
    rw [policy]
    rfl
  have sound : ReleaseSound env (runFrom env clock events).store := by
    refine Machine.invariant_of_stepsMeet (P := fun w : World => ReleaseSound env w.store)
      ⟨workCoherent_empty env, ?_, ?_⟩ ?_ timely
    · exact Table.Every.nil
    · intro i verifying
      simp [statusAt, emptyWorld] at verifying
    · exact fun w e timely sound => step_releaseSound remediable timely sound
  exact sound.releases i (by rw [statusAt_found found, verifying])

/-! ## Particular runs -/

/-- Where there is one remediation, it is not overtaken. -/
theorem not_overtaken_of_single {s : Store} (single : s.remediation.remediations.length ≤ 1)
    (id : Uuid) : ¬ Overtaken s id := by
  rintro ⟨v, incident, r, _, _, _, found, r', member, _, later⟩
  obtain ⟨k, found'⟩ := List.getElem?_of_mem member
  have first := Table.lt_of_row found
  have second := Table.lt_of_row found'
  obtain rfl : k = v.remediationId := by omega
  rw [found] at found'
  cases found'
  exact absurd later (lt_irrefl _)

theorem verdictsTimely_of_other {w : World} {e : Event}
    (other : deliversVerdict e.command = false) : VerdictsTimely w e := by
  intro id due
  cases due with
  | deadline _ _ _ _ command => rw [command] at other; cases other
  | poll _ _ _ _ _ _ _ command => rw [command] at other; cases other

/-- Payments is polled once and still `VERIFYING`. -/
theorem verdicts_release_incidents_restartVerifying :
    ∃ incident, (runFrom paymentsEnv 0
        (restartVerifying ++ polled 0 paymentsHealthy)).store.incidents[0]? = some incident ∧
      incident.status = .verifying ∧
      (runFrom paymentsEnv 0
        (restartVerifying ++ polled 0 paymentsHealthy)).store.verification.verifications.countP
          (openVerification 0) = 1 := by
  have timely : Machine.StepsMeet VerdictsTimely (step paymentsEnv) (emptyWorld 0)
      (restartVerifying ++ polled 0 paymentsHealthy) := by
    refine (Machine.stepsMeet_append _ _).mpr ⟨Machine.stepsMeet_iff.mpr ?_, ?_, ?_, trivial⟩
    · intro earlier e later split
      refine verdictsTimely_of_other ?_
      have all : ∀ e ∈ restartVerifying, deliversVerdict e.command = false := by decide
      exact all e (by rw [split]; simp)
    · exact fun id _ => not_overtaken_of_single (by decide +kernel) id
    · exact fun id _ => not_overtaken_of_single (by decide +kernel) id
  have status : ((runFrom paymentsEnv 0
      (restartVerifying ++ polled 0 paymentsHealthy)).store.incidents[0]?).map (·.status) =
        some .verifying := by
    decide +kernel
  obtain ⟨incident, found, verifying⟩ := Option.map_eq_some_iff.mp status
  exact ⟨incident, found, verifying, verdicts_release_incidents rfl 0 timely found verifying⟩

/-- While payments is `VERIFYING` an operator proposes a restart, which policy rejects; the
verdict at the deadline is then not applied. -/
def verdictOvertaken : List Event :=
  restartVerifying ++
  [next (.propose (restartPayments .operator "bob") "p2" none),
   { elapsed := 900 * 1000000, command := .claimDue 0 "poller" 30 }]

theorem not_verdicts_release_incidents :
    ¬ ∀ (env : Env), env.policy = PolicyEngine.defaultPolicy → ∀ (clock : Time)
      (events : List Event) (i : Uuid) (incident : IncidentRow),
      (runFrom env clock events).store.incidents[i]? = some incident →
      incident.status = .verifying →
      (runFrom env clock events).store.verification.verifications.countP
        (openVerification i) = 1 := by
  intro released
  have status : ((runFrom paymentsEnv 0 verdictOvertaken).store.incidents[0]?).map (·.status) =
      some .verifying := by
    decide +kernel
  obtain ⟨incident, found, verifying⟩ := Option.map_eq_some_iff.mp status
  have one := released paymentsEnv rfl 0 verdictOvertaken 0 incident found verifying
  have none : (runFrom paymentsEnv 0
      verdictOvertaken).store.verification.verifications.countP (openVerification 0) = 0 := by
    decide +kernel
  exact absurd (none.symm.trans one) (by decide)

end IncidentTriage.Verified
