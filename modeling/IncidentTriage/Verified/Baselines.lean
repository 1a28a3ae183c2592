import IncidentTriage.Remediation.Runner
import IncidentTriage.Verified.Resolution

/-! # The state before the action

The executor is called for an attempt only once the baseline of its remediation is
committed, where the catalog requires one.  A baseline is captured once and stays; the
verification that is requested with the success of an attempt carries it.
-/

namespace IncidentTriage.Verified

open IncidentTriage.Python IncidentTriage.Domain IncidentTriage.Incident IncidentTriage.Remediation

/-- The catalog requires a baseline for the remediation's action. -/
def requiresBaseline (s : Store) (id : Uuid) : Bool :=
  match s.remediation.remediations[id]? with
  | some row =>
    match getEntry row.actionId with
    | some entry => entry.verification.baselineRequired
    | none => false
  | none => false

/-- A baseline is committed where one is required. -/
def Covered (s : Store) (id : Uuid) : Prop :=
  requiresBaseline s id = true → (baselineOf s id).isSome = true

/-! ## What every transaction keeps -/

/-- The row stays an attempt at its remediation. -/
def SameAttempt (e e' : RemediationExecutionRow) : Prop := e'.remediationId = e.remediationId

theorem SameAttempt.refl (e : RemediationExecutionRow) : SameAttempt e e := rfl

theorem SameAttempt.trans {a b c : RemediationExecutionRow} (first : SameAttempt a b)
    (second : SameAttempt b c) : SameAttempt a c := Eq.trans second first

/-- Baselines stay, and the attempts stay attempts at the same proposals. -/
structure BaselinesKept (s s' : Store) : Prop where
  captured : ∀ id b, baselineOf s id = some b → baselineOf s' id = some b
  remediations : Table.Evolves SameProposal s.remediation.remediations s'.remediation.remediations
  executions : Table.Evolves SameAttempt s.remediation.executions s'.remediation.executions

theorem BaselinesKept.of_same {s s' : Store} (same : s'.remediation = s.remediation) :
    BaselinesKept s s' := by
  refine ⟨fun id b here => ?_, ?_, ?_⟩
  · rwa [baselineOf, same]
  · rw [same]
    exact Table.Evolves.refl SameProposal.refl _
  · rw [same]
    exact Table.Evolves.refl SameAttempt.refl _

theorem BaselinesKept.refl (s : Store) : BaselinesKept s s := .of_same rfl

theorem BaselinesKept.trans {a b c : Store} (first : BaselinesKept a b)
    (second : BaselinesKept b c) : BaselinesKept a c where
  captured id b here := second.captured id b (first.captured id b here)
  remediations :=
    Table.Evolves.trans (fun one other => one.trans other) first.remediations second.remediations
  executions :=
    Table.Evolves.trans (fun one other => one.trans other) first.executions second.executions

/-- Where the remediation is recorded, it stays covered. -/
theorem BaselinesKept.covered {s s' : Store} (kept : BaselinesKept s s') {id : Uuid}
    {row : RemediationRow} (found : s.remediation.remediations[id]? = some row)
    (covered : Covered s id) : Covered s' id := by
  obtain ⟨row', found', same⟩ := kept.remediations id row found
  intro required
  have before : requiresBaseline s id = true := by
    simpa only [requiresBaseline, found, found', same.actionId] using required
  obtain ⟨b, here⟩ := Option.isSome_iff_exists.mp (covered before)
  rw [kept.captured id b here]
  rfl

theorem ExecutionsKept.evolves {s s' : Store} (kept : ExecutionsKept s s') :
    Table.Evolves SameAttempt s.remediation.executions s'.remediation.executions := by
  cases kept with
  | same executions =>
    rw [executions]
    exact Table.Evolves.refl SameAttempt.refl _
  | changed x e e' found remediationId _ _ executions =>
    rw [executions]
    exact Table.Evolves.put SameAttempt.refl found remediationId

theorem RowsEffect.executionsEvolve {env : Env} {now : Time} {c : Command} {s s' : Store}
    (effect : RowsEffect env now c s s') :
    Table.Evolves SameAttempt s.remediation.executions s'.remediation.executions := by
  cases effect with
  | inserted _ _ _ _ _ _ executions =>
    rw [executions]
    exact Table.Evolves.refl SameAttempt.refl _
  | changed _ _ _ _ _ _ _ _ _ _ kept => exact kept.evolves
  | started _ _ _ _ _ _ _ _ _ _ _ _ _ _ _ _ executions =>
    rw [executions]
    exact Table.Evolves.insert SameAttempt.refl _ _
  | untouched _ _ executions =>
    rw [executions]
    exact Table.Evolves.refl SameAttempt.refl _

/-! ## What happens to the baselines -/

/-- A transaction captures the baseline of a remediation that is being executed and has none,
or leaves the baselines as they are. -/
inductive CaptureEffect (s s' : Store) : Prop
  | same (baselines : s'.remediation.baselines = s.remediation.baselines)
  | captured (id : Uuid) (row : RemediationRow) (b : RemediationBaselineRow)
      (found : s.remediation.remediations[id]? = some row) (executing : row.status = .executing)
      (none : baselineOf s id = none) (ofRemediation : b.remediationId = id)
      (baselines : s'.remediation.baselines = s.remediation.baselines ++ [b])

theorem RemediationEffect.captures {env : Env} {now : Time} {c : Command} {s s' : Store}
    (effect : RemediationEffect env now c s s') : CaptureEffect s s' := by
  cases effect with
  | configured baselines killSwitches _ tables _ captured =>
    rcases captured with same | ⟨id, row, owner, values, evidenceIds, _, found, _, executing, none,
      added⟩
    · exact .same (by rw [tables, same])
    · exact .captured id row _ found executing none rfl (by rw [tables, added])
  | rejected _ _ _ _ _ _ _ _ tables => exact .same (by rw [tables])
  | requested _ _ _ _ _ _ _ _ _ _ tables => exact .same (by rw [tables])
  | approved _ _ _ _ _ _ _ _ _ _ _ _ _ _ _ _ _ _ _ _ _ _ _ _ _ _ _ _ tables =>
    exact .same (by rw [tables])
  | withdrawn _ _ _ _ _ _ _ _ _ _ _ _ _ _ _ _ tables => exact .same (by rw [tables])
  | blocked _ _ _ _ _ _ _ _ _ _ _ _ _ tables => exact .same (by rw [tables])
  | started _ _ _ _ _ _ _ _ _ _ _ _ _ _ _ _ _ tables => exact .same (by rw [tables])
  | interrupted _ _ _ _ _ _ _ _ _ _ _ _ _ _ _ _ _ _ _ _ tables => exact .same (by rw [tables])
  | executed _ _ _ _ _ _ _ _ _ _ _ _ _ _ _ _ _ _ _ _ _ _ _ _ _ _ _ _ _ _ tables =>
    exact .same (by rw [tables])
  | attemptFailed _ _ _ _ _ _ _ _ _ _ _ _ _ _ _ _ _ _ _ _ _ _ _ _ _ _ _ tables =>
    exact .same (by rw [tables])
  | retriable _ _ _ _ _ _ _ _ _ _ _ _ _ _ _ _ _ _ _ _ _ _ _ _ _ tables =>
    exact .same (by rw [tables])

theorem baselineOf_append {s s' : Store} {b : RemediationBaselineRow}
    (baselines : s'.remediation.baselines = s.remediation.baselines ++ [b]) (id : Uuid) :
    baselineOf s' id = (baselineOf s id).or (if b.remediationId = id then some b else none) := by
  simp only [baselineOf, baselines, List.find?_append, List.find?_singleton, beq_iff_eq]

theorem CaptureEffect.kept {s s' : Store} (effect : CaptureEffect s s') {id : Uuid}
    {b : RemediationBaselineRow} (here : baselineOf s id = some b) : baselineOf s' id = some b := by
  cases effect with
  | same baselines => rwa [baselineOf, baselines]
  | captured k row b' found executing none ofRemediation baselines =>
    rw [baselineOf_append baselines, here]
    rfl

theorem RemediationStep.baselinesKept {env : Env} {now : Time} {c : Command} {s s' : Store}
    (step : RemediationStep env now c s s') : BaselinesKept s s' where
  captured _ _ here := step.effect.captures.kept here
  remediations := step.effect.rows.proposalsKept.remediations
  executions := step.effect.rows.executionsEvolve

theorem Transaction.baselinesKept {env : Env} {now : Time} {tickets : List IssuedTicket}
    {c : Command} {s s' : Store} (transaction : Transaction env now tickets c s s') :
    BaselinesKept s s' := by
  cases transaction with
  | alert step => exact .of_same step.remediation
  | investigation step => exact .of_same step.remediation
  | remediation step => exact step.baselinesKept
  | verification step => exact .of_same step.remediation

/-! ## Captured once, and carried by the verification -/

/-- What a verification carries: the baseline of its remediation, which is executed and covered. -/
def CarriesBaseline (s : Store) (v : VerificationRow) : Prop :=
  ∃ row, s.remediation.remediations[v.remediationId]? = some row ∧ row.status = .executed ∧
    v.baseline = baselineOf s v.remediationId ∧ Covered s v.remediationId

structure Baselined (s : Store) : Prop where
  once : ∀ id, s.remediation.baselines.countP (fun b => b.remediationId == id) ≤ 1
  carried : Table.Every (fun _ v => CarriesBaseline s v) s.verification.verifications

theorem baselined_empty : Baselined {} :=
  ⟨fun _ => Nat.zero_le 1, Table.Every.nil⟩

theorem CaptureEffect.once {s s' : Store} (effect : CaptureEffect s s')
    (once : ∀ id, s.remediation.baselines.countP (fun b => b.remediationId == id) ≤ 1) (id : Uuid) :
    s'.remediation.baselines.countP (fun b => b.remediationId == id) ≤ 1 := by
  cases effect with
  | same baselines =>
    rw [baselines]
    exact once id
  | captured k row b found executing none ofRemediation baselines =>
    rw [baselines, List.countP_append, List.countP_singleton, ofRemediation]
    by_cases here : k = id
    · subst here
      have absent : s.remediation.baselines.countP (fun b => b.remediationId == k) = 0 := by
        rw [List.countP_eq_zero]
        exact fun b' member => List.find?_eq_none.mp none b' member
      simp [absent]
    · simpa [here] using once id

/-- A transaction changes no row of a remediation that is executed. -/
theorem RemediationEffect.executed_kept {env : Env} {now : Time} {c : Command} {s s' : Store}
    (effect : RemediationEffect env now c s s') {id : Uuid} {row : RemediationRow}
    (found : s.remediation.remediations[id]? = some row) (executed : row.status = .executed) :
    s'.remediation.remediations[id]? = some row := by
  -- the rewritten row was not executed before
  have put : ∀ {k : Uuid} {r r' : RemediationRow}, s.remediation.remediations[k]? = some r →
      r.status ≠ .executed →
      s'.remediation.remediations = s.remediation.remediations.set k r' →
      s'.remediation.remediations[id]? = some row := by
    intro k r r' there other remediations
    rw [remediations]
    refine (Table.get_put there).mpr (.inr ⟨?_, found⟩)
    rintro rfl
    rw [there] at found
    cases found
    exact other executed
  have insert : ∀ {r : RemediationRow},
      s'.remediation.remediations = s.remediation.remediations ++ [r] →
      s'.remediation.remediations[id]? = some row := by
    intro r remediations
    rw [remediations]
    exact Table.get_insert.mpr (.inl found)
  cases effect with
  | rejected _ _ _ _ _ _ _ _ tables => exact insert (by rw [tables])
  | requested _ _ _ _ _ _ _ _ _ _ tables => exact insert (by rw [tables])
  | approved k r _ _ _ _ _ _ _ _ _ _ _ there _ awaiting _ _ _ _ _ _ _ _ _ _ _ _ tables =>
    exact put there (by simp [awaiting]) (by rw [tables])
  | withdrawn k r _ _ _ _ there _ before _ _ _ _ _ _ _ tables =>
    refine put there ?_ (by rw [tables])
    rcases before with before | before | ⟨before, _⟩ <;> simp [before]
  | blocked k r _ _ there _ before _ _ _ _ _ _ tables =>
    refine put there ?_ (by rw [tables])
    rcases before with before | before <;> simp [before]
  | started k r _ _ _ _ _ there before _ _ _ _ _ _ _ _ tables =>
    refine put there ?_ (by rw [tables])
    rcases before with before | before <;> simp [before]
  | interrupted k r _ _ _ _ there before _ _ _ _ _ _ _ _ _ _ _ _ tables =>
    refine put there ?_ (by rw [tables])
    rcases before with before | before <;> simp [before]
  | executed x e _ r _ _ _ _ _ _ _ _ _ _ _ _ there _ executing _ _ _ _ _ _ _ _ _ _ _ tables =>
    exact put there (by simp [executing]) (by rw [tables])
  | attemptFailed x e _ r _ _ _ _ _ _ _ _ _ _ there _ executing _ _ _ _ _ _ _ _ _ _ tables =>
    exact put there (by simp [executing]) (by rw [tables])
  | retriable x e _ r _ _ _ _ _ _ _ _ _ there executing _ _ _ _ _ _ _ _ _ _ tables =>
    exact put there (by simp [executing]) (by rw [tables])
  | configured _ _ _ tables => rwa [tables]

theorem CarriesBaseline.kept {env : Env} {now : Time} {c : Command} {s s' : Store}
    {v : VerificationRow} (carries : CarriesBaseline s v) (step : RemediationStep env now c s s') :
    CarriesBaseline s' v := by
  obtain ⟨row, found, executed, baseline, covered⟩ := carries
  refine ⟨row, step.effect.executed_kept found executed, executed, ?_,
    step.baselinesKept.covered found covered⟩
  rw [baseline]
  cases step.effect.captures with
  | same baselines => rw [baselineOf, baselineOf, baselines]
  | captured k row' b there executing _ ofRemediation baselines =>
    -- what is captured now is of another remediation
    have other : b.remediationId ≠ v.remediationId := by
      rintro same
      rw [← same, ofRemediation, there] at found
      cases found
      rw [executing] at executed
      cases executed
    rw [baselineOf_append baselines, if_neg other, Option.or_none]

/-- The command settles the attempt `x`. -/
def Settles (c : Command) (x : Uuid) : Prop :=
  ∃ owner outcome executor result error retryable,
    c = .completeExecution x owner outcome executor result error retryable

/-- A transaction that requests no verification, or one for a covered remediation. -/
theorem RemediationStep.baselined {env : Env} {now : Time} {c : Command} {s s' : Store}
    (step : RemediationStep env now c s s') (sound : Baselined s)
    (backed : s'.verification = s.verification ∨
      ∀ x e, Settles c x → s.remediation.executions[x]? = some e → Covered s e.remediationId) :
    Baselined s' := by
  have old : Table.Every (fun _ v => CarriesBaseline s' v) s.verification.verifications :=
    sound.carried.imp fun _ _ _ carries => carries.kept step
  refine ⟨step.effect.captures.once sound.once, ?_⟩
  rcases backed with same | backed
  · rwa [same]
  cases step.effect with
  | executed x e e' row row' incident v links owner outcome executor result error retryable command
      execution found incidentFound executing _ _ _ _ _ _ status _ _ fresh _ tables verification
      baseline =>
    have covered := backed x e ⟨_, _, _, _, _, _, command⟩ execution
    rw [verification]
    refine old.insert ⟨row', ?_, status, ?_, ?_⟩
    · rw [fresh.remediationId, tables]
      exact (Table.get_put found).mpr (.inl ⟨rfl, rfl⟩)
    · rw [fresh.remediationId, baseline, baselineOf, baselineOf, tables]
    · rw [fresh.remediationId]
      exact step.baselinesKept.covered found covered
  | rejected _ _ _ _ _ _ _ _ _ verification => rwa [verification]
  | requested _ _ _ _ _ _ _ _ _ _ _ verification => rwa [verification]
  | approved _ _ _ _ _ _ _ _ _ _ _ _ _ _ _ _ _ _ _ _ _ _ _ _ _ _ _ _ _ verification =>
    rwa [verification]
  | withdrawn _ _ _ _ _ _ _ _ _ _ _ _ _ _ _ _ _ verification => rwa [verification]
  | blocked _ _ _ _ _ _ _ _ _ _ _ _ _ _ verification => rwa [verification]
  | started _ _ _ _ _ _ _ _ _ _ _ _ _ _ _ _ _ _ verification => rwa [verification]
  | interrupted _ _ _ _ _ _ _ _ _ _ _ _ _ _ _ _ _ _ _ _ _ verification => rwa [verification]
  | attemptFailed _ _ _ _ _ _ _ _ _ _ _ _ _ _ _ _ _ _ _ _ _ _ _ _ _ _ _ _ verification =>
    rwa [verification]
  | retriable _ _ _ _ _ _ _ _ _ _ _ _ _ _ _ _ _ _ _ _ _ _ _ _ _ _ verification =>
    rwa [verification]
  | configured _ _ _ _ verification => rwa [verification]

theorem Baselined.of_same {s s' : Store} (sound : Baselined s)
    (remediation : s'.remediation = s.remediation)
    (verification : s'.verification = s.verification) : Baselined s' := by
  refine ⟨by rw [remediation]; exact sound.once, ?_⟩
  rw [verification]
  refine sound.carried.imp fun _ v _ carries => ?_
  simpa only [CarriesBaseline, Covered, requiresBaseline, baselineOf, remediation] using carries

theorem VerificationStep.baselined {env : Env} {now : Time} {tickets : List IssuedTicket}
    {c : Command} {s s' : Store} (step : VerificationStep env now tickets c s s')
    (sound : Baselined s) : Baselined s' := by
  obtain ⟨id, row, row', found, same, verifications⟩ := step.rewrites
  have moved : ∀ v, CarriesBaseline s v → CarriesBaseline s' v := by
    intro v carries
    simpa only [CarriesBaseline, Covered, requiresBaseline, baselineOf, step.remediation]
      using carries
  refine ⟨by rw [step.remediation]; exact sound.once, ?_⟩
  rw [verifications]
  refine Table.Every.put (sound.carried.imp fun _ v _ => moved v) found (moved row' ?_)
  simpa only [CarriesBaseline, same.remediationId, same.baseline] using sound.carried id row found

/-- Transactions of a command that settles no attempt. -/
theorem Transaction.baselined {env : Env} {now : Time} {tickets : List IssuedTicket}
    {c : Command} {s s' : Store} (transaction : Transaction env now tickets c s s')
    (other : settlesAttempt c = false) (sound : Baselined s) : Baselined s' := by
  cases transaction with
  | alert step => exact sound.of_same step.remediation step.verification
  | investigation step => exact sound.of_same step.remediation step.verification
  | remediation step =>
    refine step.baselined sound (.inr ?_)
    rintro x e ⟨_, _, _, _, _, _, rfl⟩
    cases other
  | verification step => exact step.baselined sound

/-! ## The tickets of the runners -/

/-- The attempt of the ticket is one at the remediation the ticket shows. -/
structure TicketStands (s : Store) (t : ExecutionTicket) : Prop where
  attempt : ∃ e, s.remediation.executions[t.executionId]? = some e ∧
    e.remediationId = t.remediation.id
  row : ∃ row, s.remediation.remediations[t.remediation.id]? = some row ∧
    row.actionId = t.remediation.row.actionId

theorem BaselinesKept.ticketStands {s s' : Store} (kept : BaselinesKept s s') {t : ExecutionTicket}
    (held : TicketStands s t) : TicketStands s' t := by
  obtain ⟨⟨e, execution, ofRemediation⟩, row, found, action⟩ := held
  obtain ⟨e', execution', attempt⟩ := kept.executions _ e execution
  obtain ⟨row', found', same⟩ := kept.remediations _ row found
  exact ⟨⟨e', execution', Eq.trans attempt ofRemediation⟩, row', found',
    same.actionId.trans action⟩

theorem BaselinesKept.ticketCovered {s s' : Store} (kept : BaselinesKept s s')
    {t : ExecutionTicket} (held : TicketStands s t) (covered : Covered s t.remediation.id) :
    Covered s' t.remediation.id := by
  obtain ⟨row, found, _⟩ := held.row
  exact kept.covered found covered

theorem startAttempt_ticket {env : Env} {now : Time} {s s' : Store} {id : Uuid}
    {row : RemediationRow} {owner : String} {leaseSeconds : Int} {ticket : ExecutionTicket}
    (found : s.remediation.remediations[id]? = some row)
    (done : startAttempt env now s id row owner leaseSeconds = .ok (some ticket, s')) :
    TicketStands s' ticket := by
  simp only [startAttempt, bind_eq_ok, lockIncident_eq_ok] at done
  obtain ⟨incident, incidentFound, done⟩ := done
  split at done
  · split_ifs at done
    all_goals
      simp only [bind_eq_ok, pure_eq_ok] at done
      obtain ⟨_, _, done⟩ := done
      cases done
  · simp only [bind_eq_ok, found_eq_ok, pure_eq_ok] at done
    obtain ⟨entry, known, ⟨moved, s₁⟩, transitioned, done⟩ := done
    obtain ⟨_, rfl, audit, rfl⟩ := transition_eq_ok transitioned
    cases done
    refine ⟨⟨_, Table.get_insert.mpr (.inr ⟨rfl, rfl⟩), rfl⟩, _,
      (Table.get_put found).mpr (.inl ⟨rfl, rfl⟩), rfl⟩

theorem claimExecution_ticket {env : Env} {now : Time} {s s' : Store} {id : Uuid}
    {owner : String} {leaseSeconds : Int} {ticket : ExecutionTicket}
    (done : claimExecution env now s id owner leaseSeconds = .ok (some ticket, s')) :
    TicketStands s' ticket := by
  simp only [claimExecution, bind_eq_ok, lockRemediation_eq_ok] at done
  obtain ⟨row, found, done⟩ := done
  by_cases idle : row.status ≠ .approved ∧ row.status ≠ .executing
  · rw [if_pos idle] at done
    cases done
  rw [if_neg idle] at done
  split at done
  · rename_i x latest last
    by_cases running : latest.status = .running
    · rw [if_pos running] at done
      split_ifs at done
      · cases done
      · cases done
        obtain ⟨execution, ofRemediation⟩ := Table.latest_some last
        have same : latest.remediationId = id := by simpa using ofRemediation
        exact ⟨⟨_, (Table.get_put execution).mpr (.inl ⟨rfl, rfl⟩), same⟩, _,
          (Table.get_put found).mpr (.inl ⟨rfl, rfl⟩), rfl⟩
    · rw [if_neg running] at done
      exact startAttempt_ticket found done
  · exact startAttempt_ticket found done

/-! ## One step of a runner -/

/-- Where the collector has nothing to observe, the remediation is covered. -/
theorem covered_of_collected {s : Store} {t : ExecutionTicket} (held : TicketStands s t)
    (nothing : collectorNeeds s t = .ok none) : Covered s t.remediation.id := by
  obtain ⟨row, found, action⟩ := held.row
  intro required
  simp only [requiresBaseline, found, action] at required
  unfold collectorNeeds at nothing
  cases known : getEntry t.remediation.row.actionId with
  | none => simp [known] at required
  | some entry =>
    simp only [known] at required nothing
    rw [if_neg (by simp [required])] at nothing
    by_cases captured : (baselineOf s t.remediation.id).isSome = true
    · exact captured
    · rw [if_neg captured] at nothing
      simp only [bind_eq_ok, pure_eq_ok] at nothing
      obtain ⟨_, _, done⟩ := nothing
      cases done

theorem recordBaseline_captured {now : Time} {s s' : Store} {id : Uuid} {owner : String}
    {values : Dict} {evidenceIds : List Uuid} {u : Unit}
    (done : recordBaseline now s id owner values evidenceIds = .ok (u, s')) :
    (baselineOf s' id).isSome = true := by
  simp only [recordBaseline, bind_eq_ok, ensure_eq_ok, lockRemediation_eq_ok] at done
  obtain ⟨row, found, _, held, done⟩ := done
  split_ifs at done with captured
  · cases done
    exact captured
  · cases done
    rw [@baselineOf_append s _ _ rfl]
    simp

/-- An attempt that did not succeed requests no verification. -/
theorem completeExecution_verification {env : Env} {now : Time} {s s' : Store} {x : Uuid}
    {owner : String} {outcome : AttemptOutcome} {executor : String} {result : Option Dict}
    {error : Option String} {retryable : Bool} {view : RemediationView}
    (done : completeExecution env now s x owner outcome executor result error retryable =
      .ok (view, s')) (failed : outcome ≠ .succeeded) : s'.verification = s.verification := by
  simp only [completeExecution, bind_eq_ok, found_eq_ok, lockRemediation_eq_ok] at done
  obtain ⟨e, execution, row, found, done⟩ := done
  by_cases executing : row.status ≠ .executing
  · rw [if_pos executing] at done
    cases done
    rfl
  rw [if_neg executing] at done
  simp only [bind_eq_ok, ensure_eq_ok] at done
  obtain ⟨_, _, done⟩ := done
  by_cases finished : e.status ≠ .running ∧ e.status ≠ .unknown
  · rw [if_pos finished] at done
    cases done
    rfl
  rw [if_neg finished] at done
  simp only [bind_eq_ok, lockIncident_eq_ok] at done
  obtain ⟨incident, incidentFound, done⟩ := done
  rw [if_neg failed] at done
  simp only [recordFailure] at done
  split_ifs at done
  · cases done
    rfl
  · simp only [bind_eq_ok, pure_eq_ok] at done
    obtain ⟨⟨moved, s₁⟩, ended, done⟩ := done
    obtain ⟨_, audit, rfl⟩ := finishFailed_eq_ok ended incidentFound
    cases done
    rfl

/-- What the runner knows where it stands: before the executor is called, and before a success
is recorded, the remediation is covered. -/
def PhaseSound (s : Store) : RunnerPhase → Prop
  | .claiming | .stopped => True
  | .inspecting t | .collecting t | .observing t _ | .capturing t _ _ => TicketStands s t
  | .acting t => TicketStands s t ∧ Covered s t.remediation.id
  | .completing t report =>
    TicketStands s t ∧ (report.outcome = .succeeded → Covered s t.remediation.id)

theorem PhaseSound.kept {s s' : Store} (kept : BaselinesKept s s') {phase : RunnerPhase}
    (sound : PhaseSound s phase) : PhaseSound s' phase := by
  cases phase with
  | claiming => trivial
  | stopped => trivial
  | inspecting t => exact kept.ticketStands sound
  | collecting t => exact kept.ticketStands sound
  | observing t _ => exact kept.ticketStands sound
  | capturing t _ _ => exact kept.ticketStands sound
  | acting t => exact ⟨kept.ticketStands sound.1, kept.ticketCovered sound.1 sound.2⟩
  | completing t report =>
    exact ⟨kept.ticketStands sound.1,
      fun succeeded => kept.ticketCovered sound.1 (sound.2 succeeded)⟩

/-- What a step of a runner leads to. -/
structure WorkSound (s s' : Store) (r' : Runner) : Prop where
  kept : BaselinesKept s s'
  baselined : Baselined s'
  phase : PhaseSound s' r'.phase

theorem WorkSound.still {s : Store} {r' : Runner} (sound : Baselined s)
    (phase : PhaseSound s r'.phase) : WorkSound s s r' := ⟨.refl s, sound, phase⟩

theorem WorkSound.moved {env : Env} {now : Time} {c : Command} {s s' : Store} {r' : Runner}
    (sound : Baselined s) (step : s' = s ∨ RemediationStep env now c s s')
    (backed : s'.verification = s.verification ∨
      ∀ x e, Settles c x → s.remediation.executions[x]? = some e → Covered s e.remediationId)
    (phase : PhaseSound s' r'.phase) : WorkSound s s' r' := by
  rcases step with rfl | step
  · exact .still sound phase
  · exact ⟨step.baselinesKept, step.baselined sound backed, phase⟩

theorem work_sound (env : Env) (executor : String) (now : Time) (reply : Reply) {s : Store}
    {r : Runner} (sound : Baselined s) (phase : PhaseSound s r.phase)
    (heard : ∀ t, r.phase = .inspecting t → reply.known ≠ none → Covered s t.remediation.id) :
    WorkSound s (r.work env executor now reply s).2 (r.work env executor now reply s).1 := by
  unfold Runner.work
  cases standing : r.phase with
  | claiming =>
    simp only
    cases r.claims with
    | zero => exact .still sound trivial
    | succ claims =>
      have quiet : ∀ x e, Settles (.claimExecution r.id r.owner r.leaseSeconds) x →
          s.remediation.executions[x]? = some e → Covered s e.remediationId := by
        rintro x e ⟨_, _, _, _, _, _, other⟩
        cases other
      cases done : claimExecution env now s r.id r.owner r.leaseSeconds with
      | error e => exact .still sound trivial
      | ok claimed =>
        obtain ⟨ticket, s'⟩ := claimed
        cases ticket with
        | none => exact .moved sound (claimExecution_step done) (.inr quiet) trivial
        | some ticket =>
          refine .moved sound (claimExecution_step done) (.inr quiet) ?_
          have held := claimExecution_ticket done
          cases mode : ticket.mode with
          | execute =>
            simp only [mode]
            exact held
          | reconcile =>
            simp only [mode]
            exact held
  | inspecting t =>
    rw [standing] at phase
    refine .still sound ⟨phase, fun succeeded => ?_⟩
    refine heard t standing fun unknown => ?_
    -- an attempt that the executor does not know has not succeeded
    rw [unknown] at succeeded
    cases succeeded
  | collecting t =>
    rw [standing] at phase
    simp only
    cases needed : collectorNeeds s t with
    | error e => exact .still sound trivial
    | ok wanted =>
      cases wanted with
      | none => exact .still sound ⟨phase, covered_of_collected phase needed⟩
      | some needs => exact .still sound phase
  | observing t needs =>
    rw [standing] at phase
    simp only
    split_ifs
    · exact .still sound phase
    · exact .still sound ⟨phase, fun succeeded => by cases succeeded⟩
  | capturing t sample evidenceIds =>
    rw [standing] at phase
    simp only
    cases done : recordBaseline now s t.remediation.id r.owner (sampleValues sample)
        evidenceIds with
    | error e => exact .still sound trivial
    | ok recorded =>
      obtain ⟨u, s'⟩ := recorded
      have step := @recordBaseline_step env _ _ _ _ _ _ _ _ done
      have kept : BaselinesKept s s' := by
        rcases step with rfl | step
        · exact .refl s'
        · exact step.baselinesKept
      refine .moved sound step (.inr ?_) ⟨kept.ticketStands phase, fun _ =>
        recordBaseline_captured done⟩
      rintro x e ⟨_, _, _, _, _, _, other⟩
      cases other
  | acting t =>
    rw [standing] at phase
    exact .still sound ⟨phase.1, fun _ => phase.2⟩
  | completing t report =>
    rw [standing] at phase
    simp only
    cases done : completeExecution env now s t.executionId r.owner report.outcome report.executor
        report.result report.error report.retryable with
    | error e => exact .still sound trivial
    | ok completed =>
      obtain ⟨view, s'⟩ := completed
      have backed : s'.verification = s.verification ∨ ∀ x e,
          Settles (.completeExecution t.executionId r.owner report.outcome report.executor
            report.result report.error report.retryable) x →
          s.remediation.executions[x]? = some e → Covered s e.remediationId := by
        by_cases succeeded : report.outcome = .succeeded
        · right
          rintro x e ⟨_, _, _, _, _, _, settles⟩ execution
          obtain ⟨e', execution', ofRemediation⟩ := phase.1.attempt
          cases settles
          rw [execution] at execution'
          cases execution'
          rw [ofRemediation]
          exact phase.2 succeeded
        · exact .inl (completeExecution_verification done succeeded)
      simp only
      split_ifs
      · exact .moved sound (completeExecution_step done) backed trivial
      · exact .moved sound (completeExecution_step done) backed trivial
  | stopped =>
    rw [standing] at phase
    exact .still sound (by rw [standing]; trivial)

/-! ## Every run -/

structure PlantSound (p : Plant) : Prop where
  baselined : Baselined p.world.store
  runners : ∀ r ∈ p.runners, PhaseSound p.world.store r.phase
  executed : ∀ t ∈ p.executed, TicketStands p.world.store t ∧
    Covered p.world.store t.remediation.id

/-- The executor knows only attempts of covered remediations. -/
theorem PlantSound.heard {p : Plant} (sound : PlantSound p) {r : Runner} {reply : Reply}
    (t : ExecutionTicket) (inspecting : r.phase = .inspecting t)
    (known : (p.heard r reply).known ≠ none) : Covered p.world.store t.remediation.id := by
  simp only [Plant.heard, inspecting] at known
  split_ifs at known with called
  · simp only [Plant.wasCalled, List.any_eq_true, Bool.and_eq_true, beq_iff_eq] at called
    obtain ⟨t', member, same, _⟩ := called
    rw [← same]
    exact (sound.executed t' member).2
  · exact absurd rfl known

theorem step_plantSound (env : Env) (executor : String) {p : Plant} (e : PlantEvent)
    (sound : PlantSound p) : PlantSound (p.step env executor e) ∧
      BaselinesKept p.world.store (p.step env executor e).world.store := by
  cases e with
  | launch id owner leaseSeconds =>
    refine ⟨⟨sound.baselined, ?_, sound.executed⟩, .refl _⟩
    intro r member
    rcases List.mem_append.mp member with old | new
    · exact sound.runners r old
    · obtain rfl := List.mem_singleton.mp new
      trivial
  | work k elapsed reply =>
    simp only [Plant.step]
    cases here : p.runners[k]? with
    | none => exact ⟨sound, .refl _⟩
    | some r =>
      have member := List.mem_of_getElem? here
      have phase := sound.runners r member
      have worked := work_sound env executor (p.world.clock + elapsed) (p.heard r reply)
        sound.baselined phase fun t inspecting known => sound.heard t inspecting known
      refine ⟨⟨worked.baselined, ?_, ?_⟩, worked.kept⟩
      · intro r' among
        rcases List.mem_or_eq_of_mem_set among with old | rfl
        · exact (sound.runners r' old).kept worked.kept
        · exact worked.phase
      · intro t among
        rcases List.mem_append.mp among with old | new
        · obtain ⟨held, covered⟩ := sound.executed t old
          exact ⟨worked.kept.ticketStands held, worked.kept.ticketCovered held covered⟩
        · have acting : PhaseSound p.world.store (.acting t) := by
            simp only [Runner.executes] at new
            split at new
            · rename_i t' standing
              obtain rfl : t = t' := by simpa using new
              rwa [standing] at phase
            · cases new
          exact ⟨worked.kept.ticketStands acting.1, worked.kept.ticketCovered acting.1 acting.2⟩
  | crash k =>
    refine ⟨⟨sound.baselined, ?_, sound.executed⟩, .refl _⟩
    intro r member
    obtain ⟨i, found⟩ := List.mem_iff_getElem?.mp member
    rcases Table.get_modify.mp found with ⟨_, stopped, _, rfl⟩ | ⟨_, old⟩
    · trivial
    · exact sound.runners r (List.mem_of_getElem? old)
  | elsewhere event =>
    simp only [Plant.step]
    split_ifs with settles
    · exact ⟨sound, .refl _⟩
    · have path := execute_path env (p.world.clock + event.elapsed) p.world.tickets p.world.store
        event.command
      have both := Machine.preserved_of_path
        (P := fun s => BaselinesKept p.world.store s ∧ Baselined s)
        (fun transaction before => ⟨before.1.trans transaction.baselinesKept,
          transaction.baselined (by simpa using settles) before.2⟩) path
        ⟨.refl _, sound.baselined⟩
      refine ⟨⟨both.2, fun r member => (sound.runners r member).kept both.1, ?_⟩, both.1⟩
      intro t member
      obtain ⟨held, covered⟩ := sound.executed t member
      exact ⟨both.1.ticketStands held, both.1.ticketCovered held covered⟩

theorem run_plantSound (env : Env) (executor : String) (clock : Time) (events : List PlantEvent) :
    PlantSound (plantFrom env executor clock events) := by
  apply Machine.state_invariant (P := PlantSound)
  · exact ⟨baselined_empty, fun _ => nofun, fun _ => nofun⟩
  · exact fun p e sound => (step_plantSound env executor e sound).1

theorem run_baselinesKept (env : Env) (executor : String) (clock : Time)
    (events more : List PlantEvent) :
    BaselinesKept (plantFrom env executor clock events).world.store
      (plantFrom env executor clock (events ++ more)).world.store := by
  induction more using List.reverseRecOn with
  | nil =>
    rw [List.append_nil]
    exact .refl _
  | append_singleton more e ih =>
    rw [← List.append_assoc]
    have last := (step_plantSound env executor e
      (run_plantSound env executor clock (events ++ more))).2
    simp only [plantFrom, Machine.run_concat] at last ⊢
    exact ih.trans last

/-- Whatever the runners and the other services do, and wherever runners crash: a runner whose
next step calls the executor finds the baseline of its remediation committed, where the catalog
requires one.  A remediation has one baseline at most, which stays as it was captured, and a
verification carries the baseline of its remediation, which is there where it is required. -/
theorem baseline_before_action (env : Env) (executor : String) (clock : Time)
    (events : List PlantEvent) :
    let p := plantFrom env executor clock events
    (∀ r ∈ p.runners, ∀ t, r.executes = some t →
      requiresBaseline p.world.store t.remediation.id = true →
        ∃ b, baselineOf p.world.store t.remediation.id = some b) ∧
    (∀ id, p.world.store.remediation.baselines.countP (fun b => b.remediationId == id) ≤ 1) ∧
    (∀ id b more, baselineOf p.world.store id = some b →
      baselineOf (plantFrom env executor clock (events ++ more)).world.store id = some b) ∧
    ∀ v ∈ p.world.store.verification.verifications,
      v.baseline = baselineOf p.world.store v.remediationId ∧
        (requiresBaseline p.world.store v.remediationId = true → v.baseline.isSome = true) := by
  intro p
  have sound : PlantSound p := run_plantSound env executor clock events
  refine ⟨?_, sound.baselined.once, ?_, ?_⟩
  · intro r member t executes required
    have phase := sound.runners r member
    have acting : r.phase = .acting t := by
      unfold Runner.executes at executes
      split at executes
      · rename_i t' standing
        cases executes
        exact standing
      · cases executes
    rw [acting] at phase
    exact Option.isSome_iff_exists.mp (phase.2 required)
  · intro id b more here
    exact (run_baselinesKept env executor clock events more).captured id b here
  · intro v member
    obtain ⟨i, found⟩ := List.mem_iff_getElem?.mp member
    obtain ⟨row, _, _, baseline, covered⟩ := sound.baselined.carried i v found
    exact ⟨baseline, fun required => by rw [baseline]; exact covered required⟩

end IncidentTriage.Verified
