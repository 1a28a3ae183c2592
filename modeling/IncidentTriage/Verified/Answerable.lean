import IncidentTriage.Verified.Hypotheses
import IncidentTriage.Verified.Moves

/-! # Commands that are answered

A command of the worker that holds the lease raises nothing, as long as the incident of its
investigation is there; and no command takes the incident away.  So a run can raise
only where its lease is lost.
-/

namespace IncidentTriage.Verified

open IncidentTriage.Python IncidentTriage.Domain IncidentTriage.Incident IncidentTriage.Tools
  IncidentTriage.Agents

/-! ## The incident of an investigation -/

/-- The investigation is one of an incident that exists. -/
structure Placed (s : Store) (id i : Uuid) : Prop where
  investigation : ∃ row, s.investigation.investigations[id]? = some row ∧ row.incidentId = i
  incident : i < s.incidents.length

section
variable {s s' : Store} {id i : Uuid}

theorem Placed.congr (placed : Placed s id i)
    (investigations : s'.investigation.investigations = s.investigation.investigations)
    (incidents : s.incidents.length ≤ s'.incidents.length) : Placed s' id i := by
  obtain ⟨investigation, incident⟩ := placed
  refine ⟨?_, incident.trans_le incidents⟩
  rw [investigations]
  exact investigation

theorem Placed.put (placed : Placed s id i) {k : Uuid} {row row' : InvestigationRow}
    (found : s.investigation.investigations[k]? = some row)
    (same : row'.incidentId = row.incidentId)
    (investigations : s'.investigation.investigations =
      s.investigation.investigations.set k row')
    (incidents : s.incidents.length ≤ s'.incidents.length) : Placed s' id i := by
  obtain ⟨⟨own, here, ofIncident⟩, incident⟩ := placed
  refine ⟨?_, incident.trans_le incidents⟩
  rw [investigations]
  by_cases this : id = k
  · subst this
    rw [here] at found
    cases found
    exact ⟨row', (Table.get_put here).mpr (.inl ⟨rfl, rfl⟩), same.trans ofIncident⟩
  · exact ⟨own, (Table.get_put found).mpr (.inr ⟨this, here⟩), ofIncident⟩

/-- No command of the investigations takes an incident away. -/
theorem InvestigationEffect.placed {env : Env} {now : Time} {c : Command}
    (effect : InvestigationEffect env now c s s') (placed : Placed s id i) : Placed s' id i := by
  cases effect with
  | requested j incident row found noneOpen waiting firing incidentId attemptNumber status
      incidents tables unleased ends =>
    obtain ⟨⟨own, here, ofIncident⟩, inside⟩ := placed
    refine ⟨⟨own, ?_, ofIncident⟩, ?_⟩
    · rw [tables]
      exact Table.get_insert.mpr (.inl here)
    · rw [incidents, List.length_set]
      exact inside
  | worked k row row' steps found same status stepsOf incidents tables lease ongoing ends =>
    exact placed.put found same.incidentId (by rw [tables]) (by rw [incidents])
  | updated k row row' updates step found investigating same status stepOf incidents tables
      reported command leaseOwner ongoing ends =>
    exact placed.put found same.incidentId (by rw [tables]) (by rw [incidents])
  | completed k row row' incident hypothesisId h result report step found incidentFound
      investigating met selected same status stepOf investigationId rootCause rca confidence key
      incidents tables reported command released outcome ends =>
    exact placed.put found same.incidentId (by rw [tables]) (by rw [incidents, length_movedIf])
  | ended k row row' incident step found incidentFound investigating same status stepOf incidents
      tables reported released outcome ends =>
    exact placed.put found same.incidentId (by rw [tables]) (by rw [incidents, length_movedIf])

theorem placed_of_claim {now : Time} {owner : String} {leaseSeconds : Int}
    {state : Option InvestigationState} (env : Env)
    (done : claim now s id owner leaseSeconds = .ok (state, s')) (placed : Placed s id i) :
    Placed s' id i := by
  have stepped : s' = s ∨ InvestigationStep env now (.claim id owner leaseSeconds) s s' :=
    claim_step done
  rcases stepped with rfl | step
  · exact placed
  · exact step.effect.placed placed

/-- Other services may do anything but lose an incident. -/
theorem Placed.elsewhere (placed : Placed s id i) (kept : i < s'.incidents.length) :
    Placed (keepingInvestigations s s') id i :=
  ⟨placed.investigation, kept⟩

end

/-! ## The commands -/

section
variable {s : Store} {id i : Uuid} {l : Ledger} {now : Time} {owner : String}

theorem fenced_of_heldBy (here : ledgerOf s id = some l) (held : l.heldBy owner) :
    fenced s id owner = .ok l.row :=
  fenced_eq_ok.mpr ⟨(ledgerOf_eq_some.mp here).1, held⟩

/-- Where the lease is lost, the fence says so. -/
theorem fenced_of_lost (here : ledgerOf s id = some l) (lost : ¬ l.heldBy owner) :
    ∃ text, fenced s id owner = .error (.leaseLost text) := by
  have found : lockInvestigation s id = .ok l.row :=
    lockInvestigation_eq_ok.mpr (ledgerOf_eq_some.mp here).1
  have refused (error : DomainError) :
      ensure (l.row.status = .investigating ∧ l.row.leaseOwner = some owner) error =
        .error error := if_neg lost
  simp only [fenced, found, bind, Except.bind, refused]
  exact ⟨_, rfl⟩

/-- A command whose first part succeeds is answered as the rest of it. -/
theorem bind_answers {α β : Type} {x : Except DomainError α} {a : α}
    {rest : α → Except DomainError β} (first : x = .ok a) (answers : ∃ b, rest a = .ok b) :
    ∃ b, (x >>= rest) = .ok b := by
  rw [first]
  exact answers

/-- Likewise where the rest succeeds whatever the first part returns. -/
theorem bind_answers_of_all {α β : Type} {x : Except DomainError α}
    {rest : α → Except DomainError β} (first : ∃ a, x = .ok a)
    (answers : ∀ a, ∃ b, rest a = .ok b) : ∃ b, (x >>= rest) = .ok b := by
  obtain ⟨a, done⟩ := first
  exact bind_answers done (answers a)

theorem recordStep_answers (here : ledgerOf s id = some l) (held : l.heldBy owner)
    (record : StepRecord) : ∃ answer, recordStep now s id owner record = .ok answer :=
  bind_answers (fenced_of_heldBy here held) ⟨_, rfl⟩

theorem applyHypothesisUpdates_answers (here : ledgerOf s id = some l) (held : l.heldBy owner)
    (iteration : Nat) (callId : String) (batch : HypothesisUpdateBatch) :
    ∃ answer, applyHypothesisUpdates now s id owner iteration callId batch = .ok answer :=
  bind_answers (fenced_of_heldBy here held) ⟨_, rfl⟩

/-- An incident that exists can be moved on. -/
theorem moveInvestigatedIncident_answers (inside : i < s.incidents.length)
    (toStatus : IncidentStatus) (reason : String) :
    ∃ s', moveInvestigatedIncident s now i toStatus reason = .ok s' := by
  have read : s.incidents[i]? = some s.incidents[i] := List.getElem?_eq_getElem inside
  refine bind_answers (found_eq_ok.mpr read) ?_
  by_cases investigating : s.incidents[i].status = .investigating
  · rw [if_pos investigating]
    exact bind_answers (found_eq_ok.mpr (transitionIncidentStatus_of_read read)) ⟨_, rfl⟩
  · rw [if_neg investigating]
    exact ⟨_, rfl⟩

theorem Placed.inside (placed : Placed s id i) (here : ledgerOf s id = some l) :
    l.row.incidentId < s.incidents.length := by
  obtain ⟨⟨row, found, ofIncident⟩, inside⟩ := placed
  rw [(ledgerOf_eq_some.mp here).1] at found
  cases found
  rw [ofIncident]
  exact inside

theorem escalate_answers (here : ledgerOf s id = some l) (placed : Placed s id i)
    (held : l.heldBy owner) (iteration : Nat) (e : Escalation) :
    ∃ answer, escalate now s id owner iteration e = .ok answer := by
  refine bind_answers (fenced_of_heldBy here held) ?_
  refine bind_answers_of_all (moveInvestigatedIncident_answers ?_ _ _) fun _ => ⟨_, rfl⟩
  exact placed.inside here

/-- An accepted conclusion selects a hypothesis of the investigation. -/
theorem exists_selected {env : Env} {row : InvestigationRow} {result : FinalInvestigationResult}
    (met : unmetCriteria env s id row result = []) :
    ∃ h, (hypothesisRows s id).find? (fun h => h.2.key == result.selectedHypothesisKey) =
      some h := by
  obtain ⟨_, accepted⟩ := List.append_eq_nil_iff.mp met
  obtain ⟨snap, chosen, _⟩ := criteriaMet_of_evaluateConclusion accepted
  rw [snapshots, lookup_map (fun x : Uuid × HypothesisRow => x.2.key)
    (fun x => snapshot s x.1 x.2)] at chosen
  obtain ⟨h, found, _⟩ := Option.map_eq_some_iff.mp chosen
  exact ⟨h, found⟩

theorem complete_answers (env : Env) (here : ledgerOf s id = some l) (placed : Placed s id i)
    (held : l.heldBy owner) (iteration : Nat) (callId : String)
    (result : FinalInvestigationResult) :
    ∃ answer, complete env now s id owner iteration callId result = .ok answer := by
  refine bind_answers (fenced_of_heldBy here held) ?_
  by_cases met : unmetCriteria env s id l.row result = []
  · obtain ⟨h, found⟩ := exists_selected met
    dsimp only
    rw [if_neg (not_not.mpr met)]
    refine bind_answers (found_eq_ok.mpr found) ?_
    refine bind_answers_of_all (moveInvestigatedIncident_answers ?_ _ _) fun _ => ⟨_, rfl⟩
    exact placed.inside here
  · dsimp only
    rw [if_pos met]
    exact ⟨_, rfl⟩

theorem loadState_answers (here : ledgerOf s id = some l) :
    ∃ state, loadState s id = .ok state :=
  bind_answers (lockInvestigation_eq_ok.mpr (ledgerOf_eq_some.mp here).1) ⟨_, rfl⟩

/-- The status that an escalation leaves. -/
theorem escalate_status {s' : Store} {iteration : Nat} {e : Escalation} {u : Unit}
    (here : ledgerOf s id = some l)
    (done : escalate now s id owner iteration e = .ok (u, s')) :
    ∃ l', ledgerOf s' id = some l' ∧ l'.row.status = e.outcome.toStatus := by
  simp only [escalate, bind_eq_ok, pure_eq_ok] at done
  obtain ⟨row, held, s₁, left, done⟩ := done
  obtain ⟨incident, audit, _, rfl⟩ := moveInvestigatedIncident_eq_ok left
  cases done
  exact ⟨_, ledgerOf_write here rfl rfl, rfl⟩

/-- The status that an accepted conclusion leaves. -/
theorem complete_status {env : Env} {s' : Store} {iteration : Nat} {callId : String}
    {result : FinalInvestigationResult} {outcome : ConclusionOutcome}
    (here : ledgerOf s id = some l)
    (done : complete env now s id owner iteration callId result = .ok (outcome, s'))
    (accepted : outcome.accepted = true) :
    ∃ l', ledgerOf s' id = some l' ∧ l'.row.status = .completed := by
  simp only [complete, bind_eq_ok] at done
  obtain ⟨row, held, done⟩ := done
  split_ifs at done with unmet
  · cases done
    cases accepted
  · simp only [bind_eq_ok, found_eq_ok, pure_eq_ok] at done
    obtain ⟨⟨hypothesisId, h⟩, _, s₁, left, done⟩ := done
    obtain ⟨incident, audit, _, rfl⟩ := moveInvestigatedIncident_eq_ok left
    cases done
    exact ⟨_, ledgerOf_write here rfl rfl, rfl⟩

end

/-! ## The steps of a worker -/

/-- What a worker carries from step to step, whoever has the lease. -/
def Carries (engine : Engine) (i : Uuid) : Phase → Prop
  | .claimed state => state.investigation.incidentId = i
  | .asking _ _ _ attempt _ => 1 ≤ attempt ∧ attempt ≤ engine.attempts
  | _ => True

/-- A step that keeps the incident.  From a phase that is `ready` it raises only where the
lease is lost, and returns what became of the investigation. -/
structure Responds (d : Desk) (i : Uuid) (l : Ledger) (ready : Prop) (after : Store × Phase) :
    Prop where
  placed : Placed after.1 d.id i
  raised : ready → after.2 = .ended none → ¬ l.heldBy d.engine.owner
  returned : ready → ∀ status, after.2 = .ended (some status) →
    status ∈ terminalInvestigationStatuses ∧
      ∃ l', ledgerOf after.1 d.id = some l' ∧ l'.row.status = status

section
variable {e : EngineEnv} {d : Desk} {i : Uuid} {now : Time} {replies : Replies} {s : Store}
  {l : Ledger} {ready : Prop}

/-- A run that goes on. -/
theorem Responds.of_live {after : Store × Phase} (placed : Placed after.1 d.id i)
    (live : after.2.live = true) : Responds d i l ready after := by
  refine ⟨placed, fun _ raised => ?_, fun _ status returned => ?_⟩
  · rw [raised] at live
    cases live
  · rw [returned] at live
    cases live

theorem ifDone_answered {α : Type} {outcome : Except DomainError (α × Store)} {next : α → Phase}
    (placed : Placed s d.id i)
    (answers : l.heldBy d.engine.owner → ∃ answer, outcome = .ok answer)
    (goesOn : ∀ a s', outcome = .ok (a, s') → Responds d i l ready (s', next a)) :
    Responds d i l ready (ifDone s outcome next) := by
  unfold ifDone
  cases done : outcome with
  | error refusal =>
    refine ⟨placed, fun _ _ held => ?_, fun _ status returned => by cases returned⟩
    obtain ⟨answer, ok⟩ := answers held
    rw [done] at ok
    cases ok
  | ok answer => exact goesOn answer.1 answer.2 done

theorem record_answered (env : Env) (here : ledgerOf s d.id = some l) (placed : Placed s d.id i)
    (record : StepRecord) {next : Phase} (live : next.live = true) :
    Responds d i l ready (d.record now s record next) := by
  refine ifDone_answered placed (fun held => recordStep_answers here held _) ?_
  intro sequence s' done
  have step : InvestigationStep env now _ s s' := recordStep_step done
  exact .of_live (step.effect.placed placed) live

theorem escalate_answered (env : Env) (here : ledgerOf s d.id = some l) (placed : Placed s d.id i)
    (iteration : Nat) (escalation : Escalation) :
    Responds d i l ready (d.escalate now s iteration escalation) := by
  refine ifDone_answered placed (fun held => escalate_answers here placed held _ _) ?_
  intro u s' done
  have step : InvestigationStep env now _ s s' := escalate_step done
  refine ⟨step.effect.placed placed, fun _ raised => (by cases raised), ?_⟩
  intro _ status returned
  cases returned
  refine ⟨?_, escalate_status here done⟩
  cases escalation.outcome <;> simp [EscalationOutcome.toStatus, terminalInvestigationStatuses]

theorem load_answered (here : ledgerOf s d.id = some l) {next : InvestigationState → Phase}
    (goesOn : ∀ state, Loaded l state → Responds d i l ready (s, next state)) :
    Responds d i l ready (d.load s next) := by
  obtain ⟨state, read⟩ := loadState_answers here
  simp only [Desk.load, read]
  exact goesOn state (loaded_of_loadState here read)

theorem placed_registering (placed : Placed s d.id i) (x : ToolExecutor) (backend : Backend)
    (request : ToolRequest) : Placed (d.registering now s x backend request) d.id i := by
  unfold Desk.registering
  split_ifs
  · exact placed
  · cases (x.execute backend (aliasOf request.tool) request.arguments).1 with
    | failure refusal => exact placed
    | success item =>
      simp only [registerFound]
      split
      · exact placed
      · unfold committed
        split
        · rename_i registered s' done
          obtain ⟨alert, audit, rfl⟩ := registerEvidenceRef_frame done
          exact placed.congr rfl le_rfl
        · exact placed

theorem process_answered (here : ledgerOf s d.id = some l) (placed : Placed s d.id i)
    (backend : Backend) (turn : Turn) (jobs : List Job) (x : ToolExecutor) (job : Job) :
    Responds d i l ready (d.process e now s backend turn jobs x job) := by
  cases job with
  | noAction stopReason => exact record_answered e.env here placed _ rfl
  | update call =>
    refine ifDone_answered placed
      (fun held => applyHypothesisUpdates_answers here held _ _ _) ?_
    intro outcome s' done
    have step : InvestigationStep e.env now _ s s' := applyHypothesisUpdates_step done
    exact .of_live (step.effect.placed placed) rfl
  | invalid call => exact record_answered e.env here placed _ rfl
  | request request =>
    cases refused : turn.refusal request with
    | some reason =>
      simp only [Desk.process, refused]
      exact record_answered e.env here placed _ rfl
    | none =>
      simp only [Desk.process, refused]
      exact .of_live (placed_registering placed x backend request) rfl
  | conclude call =>
    refine ifDone_answered placed
      (fun held => complete_answers e.env here placed held _ _ _) ?_
    intro outcome s' done
    have placed' := (complete_step done).effect.placed placed
    cases accepted : outcome.accepted with
    | true =>
      refine ⟨placed', fun _ raised => (by cases raised), ?_⟩
      intro _ status returned
      cases returned
      exact ⟨by decide, complete_status here done accepted⟩
    | false => exact .of_live placed' rfl
  | declare call => exact escalate_answered e.env here placed _ _

theorem iterate_answered (here : ledgerOf s d.id = some l) (placed : Placed s d.id i)
    (state : InvestigationState) (x : ToolExecutor) :
    Responds d i l ready (d.iterate e now s state x) := by
  unfold Desk.iterate
  cases outstanding e.schemas state.steps with
  | some unfinished => exact .of_live placed rfl
  | none =>
    cases enforceLimits now state with
    | some escalation =>
      simp only
      exact escalate_answered e.env here placed _ _
    | none =>
      simp only
      exact record_answered e.env here placed _ rfl

/-- The phases of a live worker that carries what it should are ready. -/
theorem work_answered (here : ledgerOf s d.id = some l) (placed : Placed s d.id i) (p : Phase) :
    Responds d i l (p.live = true ∧ Carries d.engine i p) (d.work e now replies s p) := by
  cases p with
  | claimed state =>
    unfold Desk.work
    cases replies.factory with
    | error text => exact escalate_answered e.env here placed _ _
    | ok _ =>
      simp only
      split_ifs
      · exact .of_live placed rfl
      · cases found : s.incidents[state.investigation.incidentId]? with
        | none =>
          refine ⟨placed, fun ready => ?_, fun _ status returned => by cases returned⟩
          have ofIncident : state.investigation.incidentId = i := ready.2
          rw [ofIncident, List.getElem?_eq_getElem placed.incident] at found
          cases found
        | some incident => exact record_answered e.env here placed _ rfl
  | contextual => exact load_answered here fun state _ => .of_live placed rfl
  | looping x =>
    refine load_answered here fun state loaded => ?_
    split_ifs with terminal
    · refine ⟨placed, fun _ raised => (by cases raised), ?_⟩
      intro _ status returned
      cases returned
      refine ⟨List.contains_iff_mem.mp terminal, l, here, ?_⟩
      rw [loaded.investigation]
    · exact .of_live placed rfl
  | loaded state x => exact iterate_answered here placed state x
  | noticed iteration finalReason x => exact load_answered here fun state _ => .of_live placed rfl
  | asking state iteration finalReason attempt x =>
    by_cases spent : d.engine.attempts < attempt
    · simp only [Desk.work, if_pos spent]
      refine ⟨placed, fun ready => ?_, fun _ status returned => by cases returned⟩
      exact absurd spent (Nat.not_lt_of_le ready.2.2)
    · simp only [Desk.work, if_neg spent]
      cases replies.model with
      | error error =>
        refine record_answered e.env here placed _ ?_
        obtain ⟨reason, detail, gaveUp⟩ | again :=
          afterError_cases d state iteration finalReason attempt x error
        · rw [gaveUp]
          rfl
        · rw [again]
          rfl
      | ok turn => exact record_answered e.env here placed _ rfl
  | failing iteration reason detail => exact escalate_answered e.env here placed _ _
  | acting turn jobs x =>
    cases jobs with
    | nil =>
      cases final : turn.finalReason with
      | some reason =>
        simp only [Desk.work, final]
        exact escalate_answered e.env here placed _ _
      | none =>
        simp only [Desk.work, final]
        exact .of_live placed rfl
    | cons job jobs => exact process_answered here placed replies.tool turn jobs x job
  | answering turn request outcome jobs x => exact record_answered e.env here placed _ rfl
  | ended status =>
    exact ⟨placed, fun ready => absurd ready.1 Bool.false_ne_true,
      fun ready => absurd ready.1 Bool.false_ne_true⟩

end

end IncidentTriage.Verified
