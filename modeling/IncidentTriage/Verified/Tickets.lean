import IncidentTriage.Verified.Polls
import IncidentTriage.Verified.Resolution

/-! # The tickets of a verification

A poll is recorded under the ticket of the latest claim, and once; a verification ends
once, and what its verdict does to the incident happens with that end, while the incident
still waits for this verification.
-/

namespace IncidentTriage.Verified

open IncidentTriage.Python IncidentTriage.Domain IncidentTriage.Incident

/-! ## Tickets -/

/-- Later tickets of one verification have higher numbers. -/
def TicketsNumbered (tickets : List IssuedTicket) : Prop :=
  tickets.Pairwise fun a b => a.ticket.verificationId = b.ticket.verificationId →
    a.ticket.claimAttempt < b.ticket.claimAttempt

theorem TicketsNumbered.lt {tickets : List IssuedTicket} (numbered : TicketsNumbered tickets)
    {i j : Nat} {a b : IssuedTicket} (before : i < j) (here : tickets[i]? = some a)
    (there : tickets[j]? = some b)
    (same : a.ticket.verificationId = b.ticket.verificationId) :
    a.ticket.claimAttempt < b.ticket.claimAttempt := by
  obtain ⟨insideA, rfl⟩ := List.getElem?_eq_some_iff.mp here
  obtain ⟨insideB, rfl⟩ := List.getElem?_eq_some_iff.mp there
  exact List.pairwise_iff_getElem.mp numbered i j insideA insideB before same

theorem step_ticketsNumbered (env : Env) {w : World} (e : Event)
    (sound : PollsSound w.clock w.tickets w.store) (numbered : TicketsNumbered w.tickets) :
    TicketsNumbered (step env w e).tickets := by
  show TicketsNumbered (w.tickets ++ issued env (w.clock + e.elapsed) w.store e.command)
  cases command : e.command with
  | claimDue id owner leaseSeconds =>
    simp only [issued]
    split
    · rename_i ticket s' done
      obtain ⟨row, row₁, found, begun, _, rfl, _, claim, _⟩ := claimDue_ticket done
      have attempt : row₁.claimAttempt = row.claimAttempt := by
        cases begun <;> rfl
      apply List.pairwise_append.mpr
      refine ⟨numbered, List.pairwise_singleton _ _, ?_⟩
      intro a old b new same
      obtain rfl := List.mem_singleton.mp new
      -- the row has counted every ticket handed out before
      have counted := ((sound.each _ row found).held a old same).claim
      have before : a.ticket.claimAttempt ≤ row.claimAttempt := counted
      show a.ticket.claimAttempt < ticket.claimAttempt
      omega
    · rwa [List.append_nil]
  | _ =>
    simp only [issued, List.append_nil]
    exact numbered

theorem run_ticketsNumbered (env : Env) (clock : Time) (events : List Event) :
    TicketsNumbered (runFrom env clock events).tickets := by
  have both : PollsSound (runFrom env clock events).clock (runFrom env clock events).tickets
      (runFrom env clock events).store ∧ TicketsNumbered (runFrom env clock events).tickets :=
    Machine.state_invariant (P := fun w : World => PollsSound w.clock w.tickets w.store ∧
        TicketsNumbered w.tickets)
      ⟨run_pollsSound env clock [], List.Pairwise.nil⟩
      (fun w e before => ⟨step_pollsSound env e before.1,
        step_ticketsNumbered env e before.1 before.2⟩) events
  exact both.2

/-- The observations under one claim: one at most. -/
theorem PollSound.observations_le_one {clock : Time} {tickets : List IssuedTicket} {id : Uuid}
    {p : Polls} (sound : PollSound clock tickets id p) (claim : Nat) :
    p.observations.countP (fun o => o.claimAttempt == claim) ≤ 1 := by
  have distinct : (p.observations.map (·.claimAttempt)).Nodup :=
    sound.increasing.imp Nat.ne_of_lt
  calc p.observations.countP (fun o => o.claimAttempt == claim)
      = (p.observations.map (·.claimAttempt)).count claim := by
        rw [List.count, List.countP_map]
        rfl
    _ ≤ 1 := List.nodup_iff_count_le_one.mp distinct claim

/-! ## Verdicts -/

/-- A verification that has its verdict. -/
def hasVerdict (row : VerificationRow) : Bool := row.status != .pending && row.status != .running

def isEnded (s : Store) (id : Uuid) : Bool :=
  match s.verification.verifications[id]? with
  | some row => hasVerdict row
  | none => false

theorem isEnded_eq {s : Store} {id : Uuid} {row : VerificationRow}
    (found : s.verification.verifications[id]? = some row) : isEnded s id = hasVerdict row := by
  rw [isEnded, found]

theorem isEnded_put {s s' : Store} {k : Uuid} {row row' : VerificationRow}
    (found : s.verification.verifications[k]? = some row)
    (verifications : s'.verification.verifications = s.verification.verifications.set k row')
    (id : Uuid) : isEnded s' id = if id = k then hasVerdict row' else isEnded s id := by
  by_cases here : id = k
  · subst here
    rw [if_pos rfl]
    apply isEnded_eq
    rw [verifications]
    exact (Table.get_put found).mpr (.inl ⟨rfl, rfl⟩)
  · have other : k ≠ id := fun same => here same.symm
    rw [if_neg here, isEnded, verifications, isEnded, List.getElem?_set_ne other]

/-- A transaction ends no verification, or one that had not ended; the rows that had
ended stay. -/
inductive VerdictStep (c : Command) (s s' : Store) : Prop
  | none (kept : ∀ (id : Uuid) (row : VerificationRow),
        s.verification.verifications[id]? = some row → hasVerdict row = true →
          s'.verification.verifications[id]? = some row)
      (ended : ∀ id, isEnded s' id = isEnded s id)
      (ends : Announces endsVerification s s' none)
      (closes : Announces closesIncident s s' none)
  | one (id : Uuid) (row row' : VerificationRow)
      (found : s.verification.verifications[id]? = some row)
      (before : hasVerdict row = false) (after : hasVerdict row' = true)
      (verifications : s'.verification.verifications = s.verification.verifications.set id row')
      (events : VerdictPublishes s s' id row) (delivers : deliversVerdict c = true)

/-- The verdict applies to a row if it applies to the row as it was before. -/
theorem VerdictApplies.same {s : Store} {id : Uuid} {row row₁ : VerificationRow}
    (same : SameVerification row row₁) (applies : VerdictApplies s id row₁) :
    VerdictApplies s id row := by
  obtain ⟨incident, remediation, incidentFound, remediationFound, fresh⟩ := applies
  rw [same.incidentId] at incidentFound
  rw [same.remediationId] at remediationFound
  refine ⟨incident, remediation, incidentFound, remediationFound, ?_⟩
  rw [← fresh]
  simp only [staleness, same.incidentId]

theorem VerdictPublishes.same {s s' : Store} {id : Uuid} {row row₁ : VerificationRow}
    (same : SameVerification row row₁) (events : VerdictPublishes s s' id row₁) :
    VerdictPublishes s s' id row :=
  ⟨events.publishes, events.ends, events.closes.imp_right fun closed =>
    ⟨closed.1, closed.2.same same⟩⟩

theorem Begun.undecided {s : Store} {now : Time} {row row₁ : VerificationRow}
    (begun : Begun s now row row₁) : hasVerdict row = false := by
  rcases begun.isOpen with pending | running
  · simp [hasVerdict, pending]
  · simp [hasVerdict, running]

theorem Closed.decided {row row' : VerificationRow} {status : VerificationStatus}
    (closed : Closed row row' status) (verdict : status ≠ .pending ∧ status ≠ .running) :
    hasVerdict row' = true := by
  simp [hasVerdict, closed.status, verdict.1, verdict.2]

theorem VerificationStep.verdict {env : Env} {now : Time} {tickets : List IssuedTicket}
    {c : Command} {s s' : Store} (step : VerificationStep env now tickets c s s') :
    VerdictStep c s s' := by
  -- a row that is rewritten without a verdict
  have rewritten : ∀ {id : Uuid} {row : VerificationRow} (row' : VerificationRow),
      s.verification.verifications[id]? = some row → hasVerdict row = false →
      hasVerdict row' = false →
      s'.verification.verifications = s.verification.verifications.set id row' →
      NoVerdict s s' → VerdictStep c s s' := by
    intro id row row' found before after verifications quiet
    refine .none ?_ ?_ quiet.ends quiet.closes
    · intro k r here verdict
      have other : k ≠ id := by
        rintro rfl
        rw [here] at found
        cases found
        rw [before] at verdict
        cases verdict
      rw [verifications]
      exact (Table.get_put found).mpr (.inr ⟨other, here⟩)
    intro k
    rw [isEnded_put found verifications]
    split_ifs with here
    · subst here
      rw [isEnded_eq found, before, after]
    · rfl
  cases step.effect with
  | started id row found pending _ tables quiet =>
    exact rewritten (row.started s now) found (by simp [hasVerdict, pending])
      (by simp [hasVerdict, VerificationRow.started]) (by rw [tables]) quiet
  | claimed id row row₁ owner leaseSeconds _ found begun _ _ tables quiet =>
    refine rewritten (row₁.claimed now owner leaseSeconds) found begun.undecided ?_
      (by rw [tables]) quiet
    simp [hasVerdict, VerificationRow.claimed, begun.running]
  | closed id row row₁ row' decision found begun _ _ verdict closed _ tables command _ events =>
    obtain ⟨owner, leaseSeconds, rfl⟩ := command
    exact .one id row row' found begun.undecided (closed.decided verdict) (by rw [tables])
      (events.same begun.same) rfl
  | observed position issued sample evidenceIds observedAt row row' observation result links _ _
      recorded _ tables quiet =>
    refine rewritten row' recorded.found (by simp [hasVerdict, recorded.running]) ?_
      (by rw [tables]) quiet
    simp [hasVerdict, recorded.after, VerificationRow.observed, recorded.running]
  | decided position issued sample evidenceIds observedAt row row₁ row' observation result links
      decision command _ recorded _ verdict closed _ tables _ events =>
    subst command
    exact .one _ row row' recorded.found (by simp [hasVerdict, recorded.running])
      (closed.decided verdict) (by rw [tables]) (events.same recorded.same) rfl

/-- A service that publishes neither ends nor closures, and leaves the verifications. -/
theorem VerdictStep.of_others {c : Command} {s s' : Store} {own : OutboxPayload → Bool}
    (same : s'.verification = s.verification) (publishes : Publishes own s s')
    (foreign : ∀ p, own p = true →
      (∀ id, endsVerification id p = false) ∧ ∀ id, closesIncident id p = false) :
    VerdictStep c s s' := by
  refine .none ?_ ?_ (.of_publishes publishes fun id p allowed => (foreign p allowed).1 id)
    (.of_publishes publishes fun id p allowed => (foreign p allowed).2 id)
  · intro id row found _
    rwa [same]
  · intro id
    rw [isEnded, same, isEnded]

theorem RemediationStep.verdict {env : Env} {now : Time} {c : Command} {s s' : Store}
    (step : RemediationStep env now c s s') (publishes : Publishes ofRemediations s s') :
    VerdictStep c s s' := by
  have foreign : ∀ p, ofRemediations p = true →
      (∀ id, endsVerification id p = false) ∧ ∀ id, closesIncident id p = false := by
    intro p allowed
    cases p <;> first | exact ⟨fun _ => rfl, fun _ => rfl⟩ | cases allowed
  cases step.effect.verifications with
  | same verification => exact .of_others verification publishes foreign
  | requested id row v _ fresh verifications _ =>
    refine .none ?_ ?_ (.of_publishes publishes fun id p allowed => (foreign p allowed).1 id)
      (.of_publishes publishes fun id p allowed => (foreign p allowed).2 id)
    · intro k r found _
      rw [verifications]
      exact Table.get_insert.mpr (.inl found)
    · intro k
      rw [isEnded, isEnded, verifications]
      rcases Nat.lt_trichotomy k s.verification.verifications.length with old | rfl | beyond
      · rw [List.getElem?_append_left old]
      · simp [fresh.status, hasVerdict]
      · rw [List.getElem?_eq_none (by simp; omega), List.getElem?_eq_none (by omega)]

theorem Transaction.verdict {env : Env} {now : Time} {tickets : List IssuedTicket} {c : Command}
    {s s' : Store} (transaction : Transaction env now tickets c s s') : VerdictStep c s s' := by
  cases transaction with
  | alert step publishes =>
    refine .of_others step.verification publishes ?_
    intro p allowed
    cases p <;> first | exact ⟨fun _ => rfl, fun _ => rfl⟩ | cases allowed
  | investigation step =>
    refine .of_others step.verification step.publishes ?_
    intro p allowed
    cases p <;> first | exact ⟨fun _ => rfl, fun _ => rfl⟩ | cases allowed
  | remediation step publishes => exact step.verdict publishes
  | verification step => exact step.verdict

/-! ## How often a verification ends -/

/-- Every verification has published its end if it has ended, and no closure before. -/
def VerdictsOnce (s : Store) : Prop :=
  ∀ id, published (endsVerification id) s = (isEnded s id).toNat ∧
    published (closesIncident id) s ≤ (isEnded s id).toNat

theorem VerdictStep.ended {s s' : Store} {id : Uuid} {row row' : VerificationRow}
    (found : s.verification.verifications[id]? = some row) (after : hasVerdict row' = true)
    (verifications : s'.verification.verifications = s.verification.verifications.set id row')
    (k : Uuid) : isEnded s' k = (decide (id = k) || isEnded s k) := by
  rw [isEnded_put found verifications]
  by_cases here : k = id
  · simp [here, after]
  · have other : id ≠ k := fun same => here same.symm
    simp [here, other]

theorem VerdictStep.verdictsOnce {c : Command} {s s' : Store} (step : VerdictStep c s s')
    (once : VerdictsOnce s) : VerdictsOnce s' := by
  intro k
  obtain ⟨events, closures⟩ := once k
  cases step with
  | none _ ended ends closes =>
    rw [ended k, ends k, closes k]
    exact ⟨by simpa using events, by simpa using closures⟩
  | one id row row' found before after verifications published =>
    have undecided : isEnded s id = false := by rw [isEnded_eq found, before]
    rw [VerdictStep.ended found after verifications k, published.ends k, events]
    by_cases here : id = k
    · subst here
      rw [undecided] at closures ⊢
      rcases published.closes with closes | ⟨closes, _⟩
      · rw [closes id]
        simp at closures
        simp [closures]
      · rw [closes id]
        simp at closures
        simp [closures]
    · rcases published.closes with closes | ⟨closes, _⟩
      · rw [closes k]
        simpa [here] using closures
      · rw [closes k]
        simpa [here] using closures

theorem run_verdictsOnce (env : Env) (clock : Time) (events : List Event) :
    VerdictsOnce (runFrom env clock events).store :=
  run_invariant (fun transaction once => transaction.verdict.verdictsOnce once)
    (fun _ => ⟨rfl, Nat.le_of_eq rfl⟩) events

/-- A row that has its verdict stays. -/
theorem VerdictStep.row_kept {c : Command} {s s' : Store} {id : Uuid} {row : VerificationRow}
    (step : VerdictStep c s s') (here : s.verification.verifications[id]? = some row)
    (verdict : hasVerdict row = true) : s'.verification.verifications[id]? = some row := by
  cases step with
  | none kept => exact kept id row here verdict
  | one k old new found before _ verifications _ =>
    have other : id ≠ k := by
      rintro rfl
      rw [here] at found
      cases found
      rw [before] at verdict
      cases verdict
    rw [verifications]
    exact (Table.get_put found).mpr (.inr ⟨other, here⟩)

theorem run_row_kept (env : Env) (w : World) (events : List Event) {id : Uuid}
    {row : VerificationRow} (here : w.store.verification.verifications[id]? = some row)
    (verdict : hasVerdict row = true) :
    (Machine.run (step env) w events).store.verification.verifications[id]? = some row :=
  run_invariant (P := fun s => s.verification.verifications[id]? = some row)
    (fun transaction here => transaction.verdict.row_kept here verdict) here events

/-! ## What a verdict does -/

/-- Verification `id` ends, and its verdict is applied to its incident: the incident waits
for it, and its remediation names this verification. -/
structure AppliesVerdict (s s' : Store) (id : Uuid) (row row' : VerificationRow)
    (incident : IncidentRow) (remediation : RemediationRow) : Prop where
  found : s.verification.verifications[id]? = some row
  undecided : hasVerdict row = false
  after : s'.verification.verifications[id]? = some row'
  decided : hasVerdict row' = true
  incidentFound : s.incidents[row.incidentId]? = some incident
  verifying : incident.status = .verifying
  remediationFound : s.remediation.remediations[row.remediationId]? = some remediation
  owns : remediation.verificationRef = some id

theorem VerdictApplies.appliesVerdict {s s' : Store} {id : Uuid} {row row' : VerificationRow}
    (applies : VerdictApplies s id row) (found : s.verification.verifications[id]? = some row)
    (undecided : hasVerdict row = false)
    (verifications : s'.verification.verifications = s.verification.verifications.set id row')
    (decided : hasVerdict row' = true) :
    ∃ incident remediation, AppliesVerdict s s' id row row' incident remediation := by
  obtain ⟨incident, remediation, incidentFound, remediationFound, fresh⟩ := applies
  obtain ⟨verifying, _, owns, _⟩ := staleness_eq_none fresh
  have after : s'.verification.verifications[id]? = some row' := by
    rw [verifications]
    exact (Table.get_put found).mpr (.inl ⟨rfl, rfl⟩)
  exact ⟨incident, remediation, found, undecided, after, decided, incidentFound, verifying,
    remediationFound, owns⟩

/-- A verdict that moves an incident applies. -/
theorem VerdictEffect.applies {env : Env} {now : Time} {s : Store} {id : Uuid}
    {row : VerificationRow} {status : VerificationStatus} {incidents : List IncidentRow}
    (effect : VerdictEffect env now s id row status incidents)
    (changed : incidents ≠ s.incidents) :
    VerdictApplies s id row ∧ ∀ j, j ≠ row.incidentId → incidents[j]? = s.incidents[j]? := by
  have elsewhere : ∀ {incident : IncidentRow}, incidents = s.incidents.set row.incidentId incident →
      ∀ j, j ≠ row.incidentId → incidents[j]? = s.incidents[j]? := by
    intro incident moved j other
    rw [moved, List.getElem?_set_ne (Ne.symm other)]
  cases effect with
  | stale _ _ _ _ _ _ same => exact absurd same changed
  | resolved incident remediation incidentFound remediationFound fresh _ moved =>
    exact ⟨⟨incident, remediation, incidentFound, remediationFound, fresh⟩, elsewhere moved⟩
  | escalated incident _ remediation incidentFound remediationFound fresh _ _ _ moved =>
    exact ⟨⟨incident, remediation, incidentFound, remediationFound, fresh⟩, elsewhere moved⟩
  | reinvestigate incident remediation incidentFound remediationFound fresh _ _ _ moved =>
    exact ⟨⟨incident, remediation, incidentFound, remediationFound, fresh⟩, elsewhere moved⟩

/-- A poll or a claim moves an incident only with a verdict that applies to it. -/
theorem VerificationStep.incidents {env : Env} {now : Time} {tickets : List IssuedTicket}
    {c : Command} {s s' : Store} (step : VerificationStep env now tickets c s s')
    (changed : s'.incidents ≠ s.incidents) :
    ∃ id row row' incident remediation, AppliesVerdict s s' id row row' incident remediation ∧
      ∀ j, j ≠ row.incidentId → s'.incidents[j]? = s.incidents[j]? := by
  cases step.effect with
  | started _ _ _ _ same => exact absurd same changed
  | claimed _ _ _ _ _ _ _ _ _ same => exact absurd same changed
  | observed _ _ _ _ _ _ _ _ _ _ _ _ _ same => exact absurd same changed
  | closed id row row₁ row' decision found begun _ _ verdict closed effect tables =>
    obtain ⟨applies, others⟩ := effect.applies changed
    obtain ⟨incident, remediation, applied⟩ := (applies.same begun.same).appliesVerdict found
      begun.undecided (congrArg VerificationTables.verifications tables) (closed.decided verdict)
    refine ⟨id, row, row', incident, remediation, applied, ?_⟩
    rwa [← begun.same.incidentId]
  | decided position issued sample evidenceIds observedAt row row₁ row' observation result links
      decision _ _ recorded _ verdict closed effect tables =>
    obtain ⟨applies, others⟩ := effect.applies changed
    obtain ⟨incident, remediation, applied⟩ := (applies.same recorded.same).appliesVerdict
      recorded.found (by simp [hasVerdict, recorded.running])
      (congrArg VerificationTables.verifications tables) (closed.decided verdict)
    refine ⟨_, row, row', incident, remediation, applied, ?_⟩
    rwa [← recorded.same.incidentId]

/-- The closure of an incident is published with a verdict that applies to it. -/
theorem VerdictStep.closure {c : Command} {s s' : Store} {id : Uuid} (step : VerdictStep c s s')
    (closed : published (closesIncident id) s' ≠ published (closesIncident id) s) :
    ∃ row row' incident remediation, AppliesVerdict s s' id row row' incident remediation := by
  cases step with
  | none _ _ _ closes => exact absurd (by rw [closes id]; simp) closed
  | one k row row' found before after verifications events =>
    rcases events.closes with closes | ⟨closes, applies⟩
    · exact absurd (by rw [closes id]; simp) closed
    · by_cases here : k = id
      · subst here
        obtain ⟨incident, remediation, applied⟩ := applies.appliesVerdict found before
          verifications after
        exact ⟨row, row', incident, remediation, applied⟩
      · exact absurd (by rw [closes id]; simp [here]) closed

/-! ## Observations -/

/-- An observation is recorded under the latest ticket, while its verification runs. -/
structure RecordsUnder (w : World) (e : Event) (s' : Store) (issued : IssuedTicket)
    (row : VerificationRow) (o : VerificationObservationRow) : Prop where
  command : ∃ position sample evidenceIds observedAt,
    e.command = .recordObservation position sample evidenceIds observedAt ∧
      w.tickets[position]? = some issued
  found : w.store.verification.verifications[issued.ticket.verificationId]? = some row
  running : row.status = .running
  claim : row.claimAttempt = issued.ticket.claimAttempt
  latest : ∀ other ∈ w.tickets, other.ticket.verificationId = issued.ticket.verificationId →
    other.ticket.claimAttempt ≤ issued.ticket.claimAttempt
  recorded : s'.verification.observations = w.store.verification.observations ++ [o]
  verificationId : o.verificationId = issued.ticket.verificationId
  claimAttempt : o.claimAttempt = issued.ticket.claimAttempt

theorem Transaction.observations_eq {env : Env} {now : Time} {tickets : List IssuedTicket}
    {c : Command} {s s' : Store} (transaction : Transaction env now tickets c s s')
    (other : deliversVerdict c = false) :
    s'.verification.observations = s.verification.observations := by
  cases transaction with
  | alert step => rw [step.verification]
  | investigation step => rw [step.verification]
  | remediation step =>
    cases step.effect.verifications with
    | same verification => rw [verification]
    | requested _ _ _ _ _ _ observations => exact observations
  | verification step =>
    cases step.effect with
    | started _ _ _ _ _ tables => rw [tables]
    | claimed _ _ _ _ _ _ _ _ _ _ tables => rw [tables]
    | closed _ _ _ _ _ _ _ _ _ _ _ _ tables => rw [tables]
    | observed _ _ _ _ _ _ _ _ _ _ command =>
      subst command
      cases other
    | decided _ _ _ _ _ _ _ _ _ _ _ _ command =>
      subst command
      cases other

theorem step_records (env : Env) {w : World} {e : Event}
    (sound : PollsSound w.clock w.tickets w.store)
    (changed : (step env w e).store.verification.observations ≠
      w.store.verification.observations) :
    ∃ issued row o, RecordsUnder w e (step env w e).store issued row o := by
  by_cases delivers : deliversVerdict e.command = true
  · have under : ∀ {position : Nat} {issued : IssuedTicket} {sample : Sample}
        {evidenceIds : List Uuid} {observedAt : Time} {row row' : VerificationRow}
        {o : VerificationObservationRow} {result : ObservationResult},
        e.command = .recordObservation position sample evidenceIds observedAt →
        w.tickets[position]? = some issued →
        RecordedPoll (w.clock + e.elapsed) w.store issued.ticket row row' o result →
        (step env w e).store.verification.observations =
          w.store.verification.observations ++ [o] →
        RecordsUnder w e (step env w e).store issued row o := by
      intro position issued sample evidenceIds observedAt row row' o result command held recorded
        observations
      refine ⟨⟨position, sample, evidenceIds, observedAt, command, held⟩, recorded.found,
        recorded.running, recorded.claim, ?_, observations, recorded.verificationId,
        recorded.claimAttempt⟩
      intro other handedOut same
      rw [← recorded.claim]
      exact ((sound.each _ row recorded.found).held other handedOut same).claim
    rcases execute_verdict env (w.clock + e.elapsed) w.tickets w.store delivers with same | verdict
    · exact absurd (by simp only [step, same]) changed
    · cases verdict.effect with
      | started _ _ _ _ _ tables => exact absurd (by simp only [step, tables]) changed
      | claimed _ _ _ _ _ _ _ _ _ _ tables => exact absurd (by simp only [step, tables]) changed
      | closed _ _ _ _ _ _ _ _ _ _ _ _ tables =>
        exact absurd (by simp only [step, tables]) changed
      | observed position issued sample evidenceIds observedAt row row' o result links command
          held recorded _ tables =>
        exact ⟨issued, row, o, under command held recorded (by simp only [step, tables])⟩
      | decided position issued sample evidenceIds observedAt row row₁ row' o result links
          decision command held recorded _ _ _ _ tables =>
        exact ⟨issued, row, o, under command held recorded (by simp only [step, tables])⟩
  · refine absurd ?_ changed
    exact Machine.preserved_of_path
      (P := fun s => s.verification.observations = w.store.verification.observations)
      (fun transaction same =>
        (transaction.observations_eq (Bool.eq_false_iff.mpr delivers)).trans same)
      (execute_path env (w.clock + e.elapsed) w.tickets w.store e.command) rfl

/-! ## Runs -/

theorem VerdictStep.closures_eq {c : Command} {s s' : Store} (step : VerdictStep c s s')
    (other : deliversVerdict c = false) (id : Uuid) :
    published (closesIncident id) s' = published (closesIncident id) s := by
  cases step with
  | none _ _ _ closes =>
    rw [closes id]
    simp
  | one _ _ _ _ _ _ _ _ delivers =>
    rw [other] at delivers
    cases delivers

/-- The step that publishes the closure applies the verdict. -/
theorem step_closure (env : Env) {w : World} {e : Event} {id : Uuid}
    (closed : published (closesIncident id) (step env w e).store ≠
      published (closesIncident id) w.store) :
    ∃ row row' incident remediation,
      AppliesVerdict w.store (step env w e).store id row row' incident remediation := by
  by_cases delivers : deliversVerdict e.command = true
  · rcases execute_verdict env (w.clock + e.elapsed) w.tickets w.store delivers with same | verdict
    · exact absurd (by simp only [step, same]) closed
    · exact VerdictStep.closure verdict.verdict closed
  · refine absurd ?_ closed
    exact Machine.preserved_of_path
      (P := fun s => published (closesIncident id) s = published (closesIncident id) w.store)
      (fun transaction same =>
        (transaction.verdict.closures_eq (Bool.eq_false_iff.mpr delivers) id).trans same)
      (execute_path env (w.clock + e.elapsed) w.tickets w.store e.command) rfl

theorem step_incidents (env : Env) {w : World} {e : Event}
    (delivers : deliversVerdict e.command = true)
    (moved : (step env w e).store.incidents ≠ w.store.incidents) :
    ∃ id row row' incident remediation,
      AppliesVerdict w.store (step env w e).store id row row' incident remediation ∧
        ∀ j, j ≠ row.incidentId → (step env w e).store.incidents[j]? = w.store.incidents[j]? := by
  rcases execute_verdict env (w.clock + e.elapsed) w.tickets w.store delivers with same | verdict
  · exact absurd (by simp only [step, same]) moved
  · exact verdict.incidents moved

/-- What a run says about tickets, observations and verdicts.  The last three are about
one event `e` of the run, `w` being the world before it. -/
structure VerificationsFenced (env : Env) (clock : Time) (events : List Event) : Prop where
  tickets : ∀ (i j : Nat) (a b : IssuedTicket), (runFrom env clock events).tickets[i]? = some a →
    (runFrom env clock events).tickets[j]? = some b →
    a.ticket.verificationId = b.ticket.verificationId →
    a.ticket.claimAttempt = b.ticket.claimAttempt → i = j
  observations : ∀ issued ∈ (runFrom env clock events).tickets,
    (observationsOf (runFrom env clock events).store issued.ticket.verificationId).countP
      (fun o => o.claimAttempt == issued.ticket.claimAttempt) ≤ 1
  /-- A verification gets one terminal status, and keeps its row with it. -/
  transitions : ∀ id, Machine.rises (fun w => isEnded w.store id) (step env) (emptyWorld clock)
    events = (isEnded (runFrom env clock events).store id).toNat
  verdicts : ∀ id, published (endsVerification id) (runFrom env clock events).store =
    (isEnded (runFrom env clock events).store id).toNat
  kept : ∀ (earlier later : List Event) (id : Uuid) (row : VerificationRow),
    events = earlier ++ later →
    (runFrom env clock earlier).store.verification.verifications[id]? = some row →
    hasVerdict row = true →
    (runFrom env clock events).store.verification.verifications[id]? = some row
  closures : ∀ id, published (closesIncident id) (runFrom env clock events).store ≤ 1
  recorded : ∀ (earlier later : List Event) (e : Event) (w : World),
    events = earlier ++ e :: later → w = runFrom env clock earlier →
    (step env w e).store.verification.observations ≠ w.store.verification.observations →
    ∃ issued row o, RecordsUnder w e (step env w e).store issued row o
  moves : ∀ (earlier later : List Event) (e : Event) (w : World),
    events = earlier ++ e :: later → w = runFrom env clock earlier →
    deliversVerdict e.command = true → (step env w e).store.incidents ≠ w.store.incidents →
    ∃ id row row' incident remediation,
      AppliesVerdict w.store (step env w e).store id row row' incident remediation ∧
        ∀ j, j ≠ row.incidentId → (step env w e).store.incidents[j]? = w.store.incidents[j]?
  closed : ∀ (earlier later : List Event) (e : Event) (w : World) (id : Uuid),
    events = earlier ++ e :: later → w = runFrom env clock earlier →
    published (closesIncident id) (step env w e).store ≠ published (closesIncident id) w.store →
    ∃ row row' incident remediation,
      AppliesVerdict w.store (step env w e).store id row row' incident remediation

/-- Verifications are fenced by their tickets, in every run. -/
theorem verifications_are_fenced (env : Env) (clock : Time) (events : List Event) :
    VerificationsFenced env clock events where
  tickets := by
    intro i j a b here there same claim
    have numbered := run_ticketsNumbered env clock events
    rcases Nat.lt_trichotomy i j with before | equal | after
    · have less := numbered.lt before here there same
      omega
    · exact equal
    · have less := numbered.lt after there here same.symm
      omega
  observations := by
    intro issued handedOut
    have sound := run_pollsSound env clock events
    have inside := sound.tickets issued handedOut
    have found := List.getElem?_eq_getElem inside
    exact (sound.each _ _ found).observations_le_one issued.ticket.claimAttempt
  transitions id := by
    refine Machine.rises_of_stable (p := fun w : World => isEnded w.store id) rfl ?_ events
    intro events e held
    unfold isEnded at held
    split at held
    · rename_i row here
      have kept := run_row_kept env (runFrom env clock events) [e] here held
      exact (isEnded_eq kept).trans held
    · cases held
  verdicts id := (run_verdictsOnce env clock events id).1
  kept := by
    rintro earlier later id row rfl here verdict
    rw [runFrom, Machine.run_append]
    exact run_row_kept env _ later here verdict
  closures id := le_trans (run_verdictsOnce env clock events id).2 (Bool.toNat_le _)
  recorded := by
    rintro earlier later e w rfl rfl changed
    exact step_records env (run_pollsSound env clock earlier) changed
  moves := by
    rintro earlier later e w rfl rfl delivers moved
    exact step_incidents env delivers moved
  closed := by
    rintro earlier later e w id rfl rfl closed
    exact step_closure env closed

end IncidentTriage.Verified
