import IncidentTriage.Verified.Lifecycle

/-! # The diagnosis a human is asked about

A remediation that waits for a human, or that a human approved, rests on the latest
investigation of its incident as long as no proposal names an earlier one: while it
waits, no further investigation is accepted, and a finished investigation keeps its RCA.
-/

namespace IncidentTriage.Verified

open IncidentTriage.Python IncidentTriage.Domain IncidentTriage.Incident
open IncidentTriage.Remediation (getEntry catalog ActionCatalogEntry)

/-! ## Resting on the latest investigation -/

def latestInvestigation (s : Store) (i : Uuid) : Option (Uuid × InvestigationRow) :=
  Table.latest (·.attemptNumber) (fun v => v.incidentId == i) s.investigation.investigations

/-- A human is asked about the remediation, or has approved it. -/
def Asked (row : RemediationRow) : Prop :=
  row.status = .awaitingApproval ∨ row.status = .approved

def NeedsRca (row : RemediationRow) : Prop :=
  ∃ entry, getEntry row.actionId = some entry ∧ entry.requiresRca = true

/-- The latest investigation of the incident is completed, the remediation names it or none, and
its target is the component its RCA names. -/
def RestsOnLatest (s : Store) (row : RemediationRow) : Prop :=
  ∃ id v report, latestInvestigation s row.incidentId = some (id, v) ∧
    (row.investigationId = none ∨ row.investigationId = some id) ∧ v.status = .completed ∧
    s.investigation.rcaReports.find? (fun r => r.investigationId == id) = some report ∧
    report.report.component = some row.targetService

def AskedAboutLatest (s : Store) : Prop :=
  ∀ (id : Uuid) (row : RemediationRow), s.remediation.remediations[id]? = some row →
    Asked row → NeedsRca row → RestsOnLatest s row

theorem targetMustMatch_of_requiresRca :
    ∀ e ∈ catalog, e.requiresRca = true → e.targetMustMatchRootCause = true := by
  decide

/-- What policy saw of the named investigation holds of the latest one, where they are one. -/
theorem RestsOnRca.restsOnLatest {s : Store} {row : RemediationRow} (rests : RestsOnRca s row)
    (needs : NeedsRca row)
    (names : ∀ id, row.investigationId = some id →
      ∃ v, latestInvestigation s row.incidentId = some (id, v)) : RestsOnLatest s row := by
  obtain ⟨entry, known, requires⟩ := needs
  obtain ⟨⟨id, v⟩, report, named, completed, found, component⟩ := rests entry known requires
  have matched := targetMustMatch_of_requiresRca entry (Remediation.getEntry_mem known).1 requires
  refine ⟨id, v, report, ?_, ?_, completed, found, component matched⟩
  · cases investigation : row.investigationId with
    | none =>
      rw [investigation] at named
      exact named
    | some other =>
      obtain ⟨v', latest⟩ := names other investigation
      rw [investigation] at named
      have placed := (Table.latest_some latest).1
      simp only [rcaInvestigation, placed] at named
      split_ifs at named
      cases named
      exact latest
  · cases investigation : row.investigationId with
    | none => exact .inl rfl
    | some other =>
      obtain ⟨v', latest⟩ := names other investigation
      rw [investigation] at named
      simp only [rcaInvestigation, (Table.latest_some latest).1] at named
      split_ifs at named
      cases named
      exact .inr rfl

section
variable {env : Env} {now : Time} {tickets : List IssuedTicket} {c : Command} {s s' : Store}

/-! ## What later investigations leave alone -/

theorem RestsOnLatest.of_same {row : RemediationRow} (rests : RestsOnLatest s row)
    (investigation : s'.investigation = s.investigation) : RestsOnLatest s' row := by
  obtain ⟨id, v, report, latest, rest⟩ := rests
  refine ⟨id, v, report, ?_, ?_⟩
  · rw [latestInvestigation, investigation]
    exact latest
  · rw [investigation]
    exact rest

theorem RestsOnLatest.of_proposal {row row' : RemediationRow} (rests : RestsOnLatest s row)
    (same : SameProposal row row') : RestsOnLatest s row' := by
  obtain ⟨id, v, report, latest, named, completed, found, component⟩ := rests
  refine ⟨id, v, report, ?_, ?_, completed, found, ?_⟩
  · rw [same.incidentId]
    exact latest
  · rw [same.investigationId]
    exact named
  · rw [same.targetService]
    exact component

/-- A write to an investigation that leaves a completed one completed. -/
theorem RestsOnLatest.write {row : RemediationRow} {k : Uuid} {v v' : InvestigationRow}
    (reports : List RcaReportRow) (rests : RestsOnLatest s row)
    (found : s.investigation.investigations[k]? = some v) (same : SameInvestigation v v')
    (stays : v.status = .completed → v'.status = .completed)
    (investigations : s'.investigation.investigations = s.investigation.investigations.set k v')
    (rcaReports : s'.investigation.rcaReports = s.investigation.rcaReports ++ reports) :
    RestsOnLatest s' row := by
  obtain ⟨id, latestRow, report, latest, named, completed, reported, component⟩ := rests
  have stillMine : (v'.incidentId == row.incidentId) = (v.incidentId == row.incidentId) := by
    rw [same.incidentId]
  have moved := Table.latest_put found stillMine same.attemptNumber latest
  refine ⟨id, if id = k then v' else latestRow, report, ?_, named, ?_, ?_, component⟩
  · rw [latestInvestigation, investigations]
    exact moved
  · split_ifs with here
    · subst here
      have placed := (Table.latest_some latest).1
      rw [found] at placed
      cases placed
      exact stays completed
    · exact completed
  · rw [rcaReports, List.find?_append, reported]
    rfl

/-- While no investigation of the incident is waited for, the latest one stays. -/
theorem InvestigationEffect.restsOnLatest {row : RemediationRow}
    (effect : InvestigationEffect env now c s s')
    (unrequested : ∀ incident, s.incidents[row.incidentId]? = some incident →
      incident.status ≠ .triaging ∧ incident.status ≠ .verificationFailed)
    (rests : RestsOnLatest s row) : RestsOnLatest s' row := by
  cases effect with
  | requested i incident v found _ waiting _ incidentId _ _ _ tables =>
    have other : (v.incidentId == row.incidentId) = false := by
      rw [beq_eq_false_iff_ne, incidentId]
      intro here
      subst here
      obtain ⟨notTriaging, notFailed⟩ := unrequested incident found
      exact waiting.elim notTriaging notFailed
    obtain ⟨id, latestRow, report, latest, rest⟩ := rests
    refine ⟨id, latestRow, report, ?_, ?_⟩
    · rw [latestInvestigation, tables]
      simp only
      rw [Table.latest_insert (fun w : InvestigationRow => w.incidentId == row.incidentId) other]
      exact latest
    · rw [tables]
      exact rest
  | worked k v v' _ found same status _ _ tables =>
    refine rests.write [] found same ?_ (by rw [tables]) (by simp [tables])
    intro completed
    cases status with
    | inl kept => exact kept.trans completed
    | inr started => rw [started.1] at completed; cases completed
  | updated k v v' _ _ found investigating same status _ _ tables =>
    refine rests.write [] found same ?_ (by rw [tables]) (by simp [tables])
    intro completed
    rw [investigating] at completed
    cases completed
  | completed k v v' _ _ _ _ report _ found _ _ _ _ same status _ _ _ _ _ _ _ tables =>
    exact rests.write [report] found same (fun _ => status) (by rw [tables])
      (by rw [tables])
  | ended k v v' _ _ found _ investigating same _ _ _ tables =>
    refine rests.write [] found same ?_ (by rw [tables]) (by simp [tables])
    intro completed
    rw [investigating] at completed
    cases completed

/-! ## What a transaction asks a human about -/

/-- A row that is asked about was asked about before, or is the new proposal policy let
through. -/
inductive AskedBefore (env : Env) (c : Command) (s : Store) (id : Uuid) (row : RemediationRow) : Prop
  | kept (row₀ : RemediationRow) (found : s.remediation.remediations[id]? = some row₀)
      (asked : Asked row₀) (same : SameProposal row₀ row)
  | proposed (incident : IncidentRow) (found : s.incidents[row.incidentId]? = some incident)
      (remediable : incident.status ∈ env.policy.remediableIncidentStatuses)
      (origin : ProposedBy c s row) (rca : RestsOnRca s row)

theorem AskedBefore.put {id k : Uuid} {row row₀ row₁ : RemediationRow}
    (placed : s.remediation.remediations[k]? = some row₀)
    (same : SameProposal row₀ row₁) (stays : Asked row₁ → Asked row₀)
    (remediations : s'.remediation.remediations = s.remediation.remediations.set k row₁)
    (found : s'.remediation.remediations[id]? = some row) (asked : Asked row) :
    AskedBefore env c s id row := by
  rw [remediations, Table.get_put placed] at found
  rcases found with ⟨rfl, rfl⟩ | ⟨_, found⟩
  · exact .kept row₀ placed (stays asked) same
  · exact .kept row found asked (.refl row)

theorem not_asked_of {row : RemediationRow} {status : RemediationStatus}
    (is : row.status = status) (waiting : status ≠ .awaitingApproval)
    (approved : status ≠ .approved) : ¬ Asked row := by
  rintro (asked | asked)
  · exact waiting (is.symm.trans asked)
  · exact approved (is.symm.trans asked)

theorem RemediationEffect.askedBefore {id : Uuid} {row : RemediationRow}
    (effect : RemediationEffect env now c s s')
    (found : s'.remediation.remediations[id]? = some row) (asked : Asked row) :
    AskedBefore env c s id row := by
  cases effect with
  | rejected incident new decision _ _ status _ _ tables =>
    rw [tables, Table.get_insert] at found
    rcases found with found | ⟨_, rfl⟩
    · exact .kept row found asked (.refl row)
    · exact absurd asked (not_asked_of status (by decide) (by decide))
  | requested incident new decision placed _ _ _ remediable _ _ tables _ origin rca =>
    rw [tables, Table.get_insert] at found
    rcases found with found | ⟨_, rfl⟩
    · exact .kept row found asked (.refl row)
    · exact .proposed incident placed remediable origin rca
  | approved k row₀ row₁ _ _ _ _ _ _ _ _ _ _ placed _ awaiting _ _ _ _ _ _ _ same _ _ _ _
      tables =>
    exact .put placed same (fun _ => .inl awaiting) (by rw [tables]) found asked
  | withdrawn k row₀ row₁ _ _ _ placed _ _ _ _ same status _ _ _ tables =>
    exact .put placed same
      (fun still => absurd still (not_asked_of status (by decide) (by decide)))
      (by rw [tables]) found asked
  | blocked k row₀ row₁ _ placed _ _ _ same status _ _ _ tables =>
    exact .put placed same
      (fun still => absurd still (not_asked_of status (by decide) (by decide)))
      (by rw [tables]) found asked
  | started k row₀ row₁ _ _ _ _ placed _ _ _ _ same status _ _ _ tables =>
    exact .put placed same
      (fun still => absurd still (not_asked_of status (by decide) (by decide)))
      (by rw [tables]) found asked
  | interrupted k row₀ row₁ _ _ _ placed _ _ _ _ _ _ _ _ same status _ _ _ tables =>
    refine .put placed same (fun still => ?_) (by rw [tables]) found asked
    rw [Asked, status] at still
    exact still
  | executed _ _ _ row₀ row₁ _ _ _ _ _ _ _ _ _ _ _ placed _ _ _ _ _ _ _ same status _ _ _ _
      tables =>
    exact .put placed same
      (fun still => absurd still (not_asked_of status (by decide) (by decide)))
      (by rw [tables]) found asked
  | attemptFailed _ _ _ row₀ row₁ _ _ _ _ _ _ _ _ _ placed _ _ _ _ _ _ _ same status _ _ _
      tables =>
    exact .put placed same
      (fun still => absurd still (not_asked_of status (by decide) (by decide)))
      (by rw [tables]) found asked
  | retriable _ _ _ row₀ row₁ _ _ _ _ _ _ _ _ placed _ _ _ _ _ _ same status _ _ _ tables =>
    exact .put placed same
      (fun still => absurd still (not_asked_of status (by decide) (by decide)))
      (by rw [tables]) found asked
  | configured _ _ _ tables =>
    rw [tables] at found
    exact .kept row found asked (.refl row)

/-- An incident a human is asked about waits for no investigation. -/
theorem WorkCoherent.unrequested (coherent : WorkCoherent env s) {id : Uuid}
    {row : RemediationRow} (found : s.remediation.remediations[id]? = some row)
    (asked : Asked row) : ∀ incident, s.incidents[row.incidentId]? = some incident →
      incident.status ≠ .triaging ∧ incident.status ≠ .verificationFailed := by
  intro incident placed
  have case := (coherent.cases row.incidentId).remediations
  have status : (caseOf s row.incidentId).status = some incident.status := statusAt_found placed
  cases asked with
  | inl awaiting =>
    have busy : 0 < (caseOf s row.incidentId).remediations .awaiting :=
      Table.countP_pos found (by simp [inPhase, phaseOf, awaiting])
    have here := case.status_of_awaiting busy
    rw [status, Option.some.injEq] at here
    rw [here]
    decide
  | inr approved =>
    have busy : 0 < (caseOf s row.incidentId).remediations .approved :=
      Table.countP_pos found (by simp [inPhase, phaseOf, approved])
    have here := case.status_of_inProgress (Nat.add_pos_left busy _)
    rw [status, Option.some.injEq] at here
    rw [here]
    decide

theorem NeedsRca.of_proposal {row row' : RemediationRow} (needs : NeedsRca row')
    (same : SameProposal row row') : NeedsRca row := by
  rw [NeedsRca, same.actionId] at needs
  exact needs

/-- What is newly asked about rests on the latest investigation: then so does everything. -/
theorem Transaction.askedAboutLatest (transaction : Transaction env now tickets c s s')
    (coherent : WorkCoherent env s)
    (new : ∀ row incident, s.incidents[row.incidentId]? = some incident →
      incident.status ∈ env.policy.remediableIncidentStatuses → ProposedBy c s row →
      RestsOnRca s row → NeedsRca row → RestsOnLatest s row)
    (current : AskedAboutLatest s) : AskedAboutLatest s' := by
  intro id row found asked needs
  cases transaction with
  | alert step =>
    rw [step.remediation] at found
    exact (current id row found asked needs).of_same step.investigation
  | verification step =>
    rw [step.remediation] at found
    exact (current id row found asked needs).of_same step.investigation
  | investigation step =>
    rw [step.remediation] at found
    exact step.effect.restsOnLatest (coherent.unrequested found asked)
      (current id row found asked needs)
  | remediation step =>
    cases step.effect.askedBefore found asked with
    | kept row₀ placed before same =>
      have rests := current id row₀ placed before (needs.of_proposal same)
      exact (rests.of_proposal same).of_same step.investigation
    | proposed incident placed remediable origin rca =>
      exact (new row incident placed remediable origin rca needs).of_same step.investigation

/-! ## Proposals that name the latest investigation -/

/-- A new proposal whose action requires an RCA, for an incident that waits for one, names a
completed investigation that fits its target and that a later one has superseded. -/
def namesSuperseded (s : Store) (proposal : RemediationProposal) (key : String) : Bool :=
  (proposedUnder s proposal.incidentId key).isNone &&
  (s.incidents[proposal.incidentId]?).any (fun incident => incident.status == .rcaReady) &&
  (getEntry proposal.actionId).any (·.requiresRca) &&
  proposal.investigationId.any (fun id =>
    (s.investigation.investigations[id]?).any (fun v =>
      v.incidentId == proposal.incidentId && v.status == .completed) &&
    (s.investigation.rcaReports.find? (fun r => r.investigationId == id)).any (fun report =>
      report.report.component == some (proposal.targetService.getD "")) &&
    (latestInvestigation s proposal.incidentId).all (fun v => v.1 != id))

/-- The command does not propose a remediation that rests on a superseded investigation. -/
def namesLatest (s : Store) : Command → Bool
  | .propose proposal key _ => !namesSuperseded s proposal key
  | _ => true

theorem restsOnLatest_of_names (policy : env.policy = PolicyEngine.defaultPolicy)
    {proposal : RemediationProposal} {key : String} {correlationId : Option Uuid}
    (names : namesLatest s (.propose proposal key correlationId) = true)
    {row : RemediationRow} {incident : IncidentRow}
    (placed : s.incidents[row.incidentId]? = some incident)
    (remediable : incident.status ∈ env.policy.remediableIncidentStatuses)
    (records : Records s row proposal key) (rca : RestsOnRca s row) (needs : NeedsRca row) :
    RestsOnLatest s row := by
  refine rca.restsOnLatest needs fun id named => ?_
  by_contra superseded
  have stale : namesSuperseded s proposal key = true := by
    obtain ⟨entry, known, requires⟩ := needs
    obtain ⟨v, report, rests, completed, found, component⟩ := rca entry known requires
    have matched := targetMustMatch_of_requiresRca entry (Remediation.getEntry_mem known).1 requires
    have ready : incident.status = .rcaReady := by
      rw [policy] at remediable
      exact List.mem_singleton.mp remediable
    rw [named] at rests
    simp only [rcaInvestigation] at rests
    split at rests
    · rename_i v' there
      split_ifs at rests with own
      cases rests
      have current : (latestInvestigation s row.incidentId).all (fun v => v.1 != id) = true := by
        cases latest : latestInvestigation s row.incidentId with
        | none => rfl
        | some x =>
          refine bne_iff_ne.mpr fun here => superseded ⟨x.2, ?_⟩
          rw [latest, ← here]
      rw [records.incidentId] at placed own current
      rw [records.actionId] at known
      have investigation : proposal.investigationId = some id := records.investigationId ▸ named
      have fits := component matched
      rw [records.targetService] at fits
      replace completed : v'.status = .completed := completed
      simp only [namesSuperseded, records.fresh, placed, ready, known, requires, investigation, there,
        own, completed, found, fits, current, Option.isNone_none, Option.any_some, beq_self_eq_true,
        Bool.and_self]
    · cases rests
  simp [namesLatest, stale] at names

/-- A proposal asks a human about the latest investigation unless it names a superseded one. -/
theorem propose_askedAboutLatest (policy : env.policy = PolicyEngine.defaultPolicy)
    {proposal : RemediationProposal} {key : String} {correlationId : Option Uuid}
    {view : RemediationView}
    (names : namesLatest s (.propose proposal key correlationId) = true)
    (done : propose env now s proposal key correlationId = .ok (view, s'))
    (coherent : WorkCoherent env s) (current : AskedAboutLatest s) : AskedAboutLatest s' := by
  have stepped : s' = s ∨ RemediationStep env now (.propose proposal key correlationId) s s' :=
    propose_step (fun _ records => records) done
  cases stepped with
  | inl same =>
    subst same
    exact current
  | inr step =>
    have transaction : Transaction env now [] (.propose proposal key correlationId) s s' :=
      .remediation step (propose_publishes done)
    refine transaction.askedAboutLatest coherent ?_ current
    intro row incident placed remediable records rca needs
    exact restsOnLatest_of_names policy names placed remediable records rca needs

/-- What another transaction than a proposal asks about was asked about before. -/
theorem Transaction.askedAboutLatest_other (transaction : Transaction env now tickets c s s')
    (other : ∀ row, ¬ ProposedBy c s row) (coherent : WorkCoherent env s)
    (current : AskedAboutLatest s) : AskedAboutLatest s' :=
  transaction.askedAboutLatest coherent (fun row _ _ _ origin => absurd origin (other row)) current

theorem namesSuperseded_eq_false {proposal : RemediationProposal} {row : RemediationRow}
    (rests : NeedsRca row → RestsOnLatest s row) (incidentId : proposal.incidentId = row.incidentId)
    (investigationId : proposal.investigationId = row.investigationId)
    (actionId : proposal.actionId = row.actionId) (key : String) :
    namesSuperseded s proposal key = false := by
  by_contra stale
  rw [Bool.not_eq_false] at stale
  simp only [namesSuperseded, Bool.and_eq_true] at stale
  obtain ⟨⟨_, requires⟩, superseded⟩ := stale
  rw [actionId] at requires
  obtain ⟨entry, known, requires⟩ := Option.any_eq_true _ _ |>.mp requires
  obtain ⟨id, v, report, latest, named, _⟩ := rests ⟨entry, known, requires⟩
  rw [investigationId, incidentId, latest] at superseded
  rcases named with named | named
  · simp [named] at superseded
  · simp [named] at superseded

theorem asked_of_cancel {id : Uuid} {actor reason : String} {view : RemediationView}
    {row : RemediationRow} (done : cancel now s id actor reason = .ok (view, s'))
    (found : s.remediation.remediations[id]? = some row) : Asked row := by
  simp only [cancel, bind_eq_ok, lockRemediation_eq_ok, ensure_eq_ok] at done
  obtain ⟨row', found', _, asked, _⟩ := done
  rw [found] at found'
  cases found'
  exact asked

/-- A revised remediation goes on naming what the one it replaces rested on. -/
theorem revise_askedAboutLatest (policy : env.policy = PolicyEngine.defaultPolicy)
    (coherent : WorkCoherent env s) (current : AskedAboutLatest s) (id : Uuid)
    (parameters : Dict) (proposedBy : String) (reason : Option String) (key : String) :
    AskedAboutLatest (revise env now s id parameters proposedBy reason key).2 := by
  unfold revise
  split
  · exact current
  · rename_i old locked
    split
    · exact current
    · rename_i view s₁ cancelled
      have found := lockRemediation_eq_ok.mp locked
      have step : RemediationStep env now
          (.cancel id ("operator:" ++ proposedBy) "superseded by revision") s s₁ :=
        cancel_step cancelled
      have withdrawn : Transaction env now []
          (.cancel id ("operator:" ++ proposedBy) "superseded by revision") s s₁ :=
        .remediation step (cancel_publishes cancelled)
      have remediable : env.policy.remediableIncidentStatuses = [.rcaReady] := by rw [policy]; rfl
      have still := withdrawn.askedAboutLatest_other (fun _ origin => origin) coherent current
      have rests : NeedsRca old → RestsOnLatest s₁ old := fun needs =>
        (current id old found (asked_of_cancel cancelled found) needs).of_same step.investigation
      dsimp only
      generalize is : RemediationProposal.mk old.incidentId _ _ _ _ _ _ _ = proposal
      by_cases valid : proposal.Valid
      · rw [if_pos valid]
        split
        · exact still
        · rename_i proposed
          refine propose_askedAboutLatest policy ?_ proposed
            (withdrawn.workCoherent remediable coherent) still
          subst is
          rw [namesLatest, namesSuperseded_eq_false rests rfl rfl rfl key]
          rfl
      · rw [if_neg valid]
        exact still

/-! ## Runs -/

theorem step_askedAboutLatest (policy : env.policy = PolicyEngine.defaultPolicy) {w : World}
    {e : Event} (names : namesLatest w.store e.command = true)
    (coherent : WorkCoherent env w.store) (current : AskedAboutLatest w.store) :
    AskedAboutLatest (step env w e).store := by
  have remediable : env.policy.remediableIncidentStatuses = [.rcaReady] := by rw [policy]; rfl
  have others : (∀ s row, ¬ ProposedBy e.command s row) →
      AskedAboutLatest (step env w e).store := by
    intro other
    have kept := Machine.preserved_of_path (P := fun s => WorkCoherent env s ∧ AskedAboutLatest s)
      (fun transaction holds => ⟨transaction.workCoherent remediable holds.1,
        transaction.askedAboutLatest_other (other _) holds.1 holds.2⟩)
      (execute_path env (w.clock + e.elapsed) w.tickets w.store e.command) ⟨coherent, current⟩
    exact kept.2
  cases command : e.command with
  | propose proposal key correlationId =>
    rw [command] at names
    simp only [step, command, execute]
    cases done : propose env (w.clock + e.elapsed) w.store proposal key correlationId with
    | error err => exact current
    | ok result => exact propose_askedAboutLatest policy names done coherent current
  | revise id parameters proposedBy reason key =>
    simp only [step, command, execute]
    exact revise_askedAboutLatest policy coherent current id parameters proposedBy reason key
  | _ =>
    refine others fun s row origin => ?_
    rw [command] at origin
    exact origin

/-- With the default policy, in every run in which no proposal names a superseded
investigation, a human is always asked about the latest one. -/
theorem approvals_rest_on_latest (policy : env.policy = PolicyEngine.defaultPolicy)
    (clock : Time) {events : List Event}
    (met : Machine.StepsMeet (fun w e => namesLatest w.store e.command = true) (step env)
      (emptyWorld clock) events) : AskedAboutLatest (runFrom env clock events).store := by
  have remediable : env.policy.remediableIncidentStatuses = [.rcaReady] := by rw [policy]; rfl
  have both : WorkCoherent env (runFrom env clock events).store ∧
      AskedAboutLatest (runFrom env clock events).store := by
    refine Machine.invariant_of_stepsMeet
      (P := fun w => WorkCoherent env w.store ∧ AskedAboutLatest w.store)
      ⟨workCoherent_empty env, ?_⟩ ?_ met
    · intro id row found
      cases found
    · intro w e names holds
      refine ⟨?_, step_askedAboutLatest policy names holds.1 holds.2⟩
      exact Machine.preserved_of_path (P := WorkCoherent env)
        (fun transaction => transaction.workCoherent remediable)
        (execute_path env (w.clock + e.elapsed) w.tickets w.store e.command) holds.1
  exact both.2

end

theorem approvals_rest_on_latest_restartApproved :
    ∃ row, (runFrom paymentsEnv 0 restartApproved).store.remediation.remediations[0]? = some row ∧
      row.status = .approved ∧ NeedsRca row ∧
      RestsOnLatest (runFrom paymentsEnv 0 restartApproved).store row := by
  have approved : ((runFrom paymentsEnv 0 restartApproved).store.remediation.remediations[0]?).any
      (fun row => row.status == .approved && row.actionId == "restart_service") = true := by
    decide +kernel
  obtain ⟨row, found, holds⟩ := Option.any_eq_true _ _ |>.mp approved
  simp only [Bool.and_eq_true, beq_iff_eq] at holds
  have needs : NeedsRca row := by
    rw [NeedsRca, holds.2]
    exact Option.any_eq_true _ _ |>.mp (by decide)
  exact ⟨row, found, holds.1, needs, approvals_rest_on_latest rfl 0 (by decide +kernel) 0 row found
    (.inr holds.1) needs⟩

/-- The first investigation's RCA, proposed after the second one is completed: an operator's
proposal, or the planner's from an event that was delivered late. -/
def supersededProposed : List Event :=
  restartFailed ++ investigated 1 ++
  [next (.propose { restartPayments .planner "planner" with investigationId := some 0 } "p2" none)]

theorem not_approvals_rest_on_latest :
    ¬ AskedAboutLatest (runFrom paymentsEnv 0 supersededProposed).store := by
  intro holds
  have awaiting : ((runFrom paymentsEnv 0 supersededProposed).store.remediation.remediations[1]?).any
      (fun row => row.status == .awaitingApproval && row.actionId == "restart_service" &&
        row.incidentId == 0 && row.investigationId == some 0) = true := by
    decide +kernel
  obtain ⟨row, found, is⟩ := Option.any_eq_true _ _ |>.mp awaiting
  simp only [Bool.and_eq_true, beq_iff_eq] at is
  obtain ⟨⟨⟨status, action⟩, incidentId⟩, investigationId⟩ := is
  have needs : NeedsRca row := by
    rw [NeedsRca, action]
    exact Option.any_eq_true _ _ |>.mp (by decide)
  obtain ⟨id, v, report, latest, named, _⟩ := holds 1 row found (.inl status) needs
  have second : (latestInvestigation (runFrom paymentsEnv 0 supersededProposed).store 0).map (·.1) =
      some 1 := by
    decide +kernel
  rw [incidentId] at latest
  rw [latest] at second
  cases second
  rw [investigationId] at named
  exact absurd named (by decide)

end IncidentTriage.Verified
