import IncidentTriage.Verified.StatusHistory

/-! # Requests for approval

A proposal that policy lets through asks for its approval in the transaction that records it.
While it waits nothing else writes its row, so that its timestamp stays the time of the request,
which the timeline tells too.
-/

namespace IncidentTriage.Verified

open IncidentTriage.Python IncidentTriage.Domain IncidentTriage.Incident

/-! ## Where the rows come from -/

/-- The decision of a human that approves. -/
def Approves (c : Command) (id : Uuid) : Prop :=
  ∃ approver roles hash decisionId comment,
    c = .decideApproval id approver roles true hash decisionId comment

/-- Where a row comes from: it was there, it was just as it is if it waits for a decision, and
only a human has approved it since; or it is a new proposal about an incident that is there. -/
inductive RemediationOrigin (c : Command) (s : Store) (id : Uuid) (row : RemediationRow) : Prop
  | kept (row₀ : RemediationRow) (found : s.remediation.remediations[id]? = some row₀)
      (same : SameProposal row₀ row)
      (waiting : row.status = .awaitingApproval → row = row₀)
      (approved : row.status = .approved → row₀.status = .approved ∨ Approves c id)
  | new (incident : IncidentRow) (placed : s.incidents[row.incidentId]? = some incident)
      (origin : ProposedBy c s row) (unapproved : row.status ≠ .approved)

section
variable {env : Env} {now : Time} {tickets : List IssuedTicket} {c : Command} {s s' : Store}
  {id : Uuid} {row row' : RemediationRow}

theorem RemediationOrigin.refl (found : s.remediation.remediations[id]? = some row) :
    RemediationOrigin c s id row :=
  .kept row found (.refl row) (fun _ => rfl) .inl

theorem RemediationOrigin.of_put {k : Uuid} {moved : RemediationRow}
    (there : s.remediation.remediations[k]? = some row) (same : SameProposal row moved)
    (remediations : s'.remediation.remediations = s.remediation.remediations.set k moved)
    (found : s'.remediation.remediations[id]? = some row')
    (decided : moved.status ≠ .awaitingApproval)
    (approval : moved.status = .approved → row.status = .approved ∨ Approves c k) :
    RemediationOrigin c s id row' := by
  rw [remediations, Table.get_put there] at found
  rcases found with ⟨rfl, rfl⟩ | ⟨_, old⟩
  · exact .kept row there same (fun waits => absurd waits decided) approval
  · exact .refl old

/-- A row that ends with a status in which nothing waits and nothing is approved. -/
theorem RemediationOrigin.of_settled {k : Uuid} {moved : RemediationRow}
    {status : RemediationStatus} (there : s.remediation.remediations[k]? = some row)
    (same : SameProposal row moved)
    (remediations : s'.remediation.remediations = s.remediation.remediations.set k moved)
    (found : s'.remediation.remediations[id]? = some row') (ends : moved.status = status)
    (decided : status ≠ .awaitingApproval) (other : status ≠ .approved) :
    RemediationOrigin c s id row' := by
  subst ends
  exact .of_put there same remediations found decided fun approved => absurd approved other

theorem RemediationOrigin.of_insert {new : RemediationRow} {incident : IncidentRow}
    {status : RemediationStatus} (placed : s.incidents[new.incidentId]? = some incident)
    (origin : ProposedBy c s new)
    (remediations : s'.remediation.remediations = s.remediation.remediations ++ [new])
    (found : s'.remediation.remediations[id]? = some row') (begins : new.status = status)
    (unapproved : status ≠ .approved) : RemediationOrigin c s id row' := by
  subst begins
  rw [remediations, Table.get_insert] at found
  rcases found with old | ⟨_, rfl⟩
  · exact .refl old
  · exact .new incident placed origin unapproved

theorem RemediationEffect.origin (effect : RemediationEffect env now c s s')
    (found : s'.remediation.remediations[id]? = some row') : RemediationOrigin c s id row' := by
  cases effect with
  | rejected incident row decision placed _ status _ _ tables _ origin =>
    exact .of_insert placed origin (by rw [tables]) found status (by simp)
  | requested incident row decision placed _ status _ _ _ _ tables _ origin =>
    exact .of_insert placed origin (by rw [tables]) found status (by simp)
  | approved k row moved _ _ _ approver _ hash roles decisionId comment command there _ _ _ _ _ _ _
      _ _ same status _ _ _ tables _ =>
    refine .of_put there same (by rw [tables]) found (by simp [status]) fun _ => ?_
    exact .inr ⟨approver, roles, hash, decisionId, comment, command⟩
  | withdrawn k row moved _ _ _ there _ _ _ _ same status _ _ _ tables _ =>
    exact .of_settled there same (by rw [tables]) found status (by simp) (by simp)
  | blocked k row moved _ there _ _ _ same status _ _ _ tables _ =>
    exact .of_settled there same (by rw [tables]) found status (by simp) (by simp)
  | started k row moved _ _ _ _ there _ _ _ _ same status _ _ _ tables _ =>
    exact .of_settled there same (by rw [tables]) found status (by simp) (by simp)
  | interrupted k row moved _ _ _ there before _ _ _ _ _ _ _ same status _ _ _ tables _ =>
    refine .of_put there same (by rw [tables]) found ?_ fun approved => ?_
    · rcases before with before | before <;> simp [status, before]
    · exact .inl (status.symm.trans approved)
  | executed _ _ _ row moved _ _ _ _ _ _ _ _ _ _ _ there _ _ _ _ _ _ _ same status _ _ _ _ tables
      _ =>
    exact .of_settled there same (by rw [tables]) found status (by simp) (by simp)
  | attemptFailed _ _ _ row moved _ _ _ _ _ _ _ _ _ there _ _ _ _ _ _ _ same status _ _ _ tables
      _ =>
    exact .of_settled there same (by rw [tables]) found status (by simp) (by simp)
  | retriable _ _ _ row moved _ _ _ _ _ _ _ _ there _ _ _ _ _ _ same status _ _ _ tables _ =>
    exact .of_settled there same (by rw [tables]) found status (by simp) (by simp)
  | configured _ _ _ tables _ =>
    rw [tables] at found
    exact .refl found

theorem Transaction.origin (transaction : Transaction env now tickets c s s')
    (found : s'.remediation.remediations[id]? = some row') : RemediationOrigin c s id row' := by
  cases transaction with
  | alert step => exact .refl (by rwa [step.remediation] at found)
  | investigation step => exact .refl (by rwa [step.remediation] at found)
  | verification step => exact .refl (by rwa [step.remediation] at found)
  | remediation step => exact step.effect.origin found

/-- What waits for a decision afterwards was there before, or was asked for now. -/
def WaitsSince (now : Time) (s s' : Store) : Prop :=
  ∀ (id : Uuid) (row : RemediationRow), s'.remediation.remediations[id]? = some row →
    row.status = .awaitingApproval →
      s.remediation.remediations[id]? = some row ∨ row.updatedAt = now

theorem WaitsSince.refl (now : Time) (s : Store) : WaitsSince now s s := fun _ _ found _ => .inl found

theorem WaitsSince.trans {s₁ : Store} (first : WaitsSince now s s₁)
    (second : WaitsSince now s₁ s') : WaitsSince now s s' := by
  intro id row found waits
  rcases second id row found waits with before | asked
  · exact first id row before waits
  · exact .inr asked

/-- No remediation is recorded, those that wait are as they were, and no investigation is lost. -/
structure NothingAsked (s s' : Store) : Prop where
  rows : ∀ (id : Uuid) (row : RemediationRow), s'.remediation.remediations[id]? = some row →
    ∃ row₀, s.remediation.remediations[id]? = some row₀ ∧ SameProposal row₀ row ∧
      (row.status = .awaitingApproval → row = row₀)
  investigations : s.investigation.investigations.length ≤ s'.investigation.investigations.length

theorem NothingAsked.refl (s : Store) : NothingAsked s s :=
  ⟨fun _ row found => ⟨row, found, .refl row, fun _ => rfl⟩, le_rfl⟩

theorem NothingAsked.trans {s₁ : Store} (first : NothingAsked s s₁) (second : NothingAsked s₁ s') :
    NothingAsked s s' := by
  refine ⟨?_, first.investigations.trans second.investigations⟩
  intro id row found
  obtain ⟨row₁, found₁, same₁, waits₁⟩ := second.rows id row found
  obtain ⟨row₀, found₀, same₀, waits₀⟩ := first.rows id row₁ found₁
  refine ⟨row₀, found₀, same₀.trans same₁, fun waits => ?_⟩
  obtain rfl := waits₁ waits
  exact waits₀ waits

theorem NothingAsked.waitsSince (quiet : NothingAsked s s') : WaitsSince now s s' := by
  intro id row found waits
  obtain ⟨row₀, found₀, _, same⟩ := quiet.rows id row found
  rw [same waits]
  exact .inl found₀

theorem InvestigationEffect.investigations_le (effect : InvestigationEffect env now c s s') :
    s.investigation.investigations.length ≤ s'.investigation.investigations.length := by
  cases effect with
  | requested _ _ _ _ _ _ _ _ _ _ _ tables => simp [tables]
  | worked _ _ _ _ _ _ _ _ _ tables => simp [tables]
  | updated _ _ _ _ _ _ _ _ _ _ _ tables => simp [tables]
  | completed _ _ _ _ _ _ _ _ _ _ _ _ _ _ _ _ _ _ _ _ _ _ _ tables => simp [tables]
  | ended _ _ _ _ _ _ _ _ _ _ _ _ tables => simp [tables]

theorem Transaction.investigations_le (transaction : Transaction env now tickets c s s') :
    s.investigation.investigations.length ≤ s'.investigation.investigations.length := by
  cases transaction with
  | alert step => rw [step.investigation]
  | investigation step => exact step.effect.investigations_le
  | remediation step => rw [step.investigation]
  | verification step => rw [step.investigation]

/-- The commands that can record a proposal. -/
def proposes : Command → Bool
  | .propose .. => true
  | .revise .. => true
  | _ => false

theorem Transaction.nothingAsked (transaction : Transaction env now tickets c s s')
    (other : proposes c = false) : NothingAsked s s' := by
  refine ⟨?_, transaction.investigations_le⟩
  intro id row found
  cases transaction.origin found with
  | kept row₀ found₀ same waiting _ => exact ⟨row₀, found₀, same, waiting⟩
  | new incident placed origin _ =>
    cases c <;> first | exact origin.elim | cases other

theorem Path.nothingAsked (path : Path env now tickets c s s') (other : proposes c = false) :
    NothingAsked s s' := by
  induction path with
  | refl => exact .refl s
  | tail _ last ih => exact ih.trans (last.nothingAsked other)

theorem Transaction.proposals (transaction : Transaction env now tickets c s s') :
    Table.Evolves SameProposal s.remediation.remediations s'.remediation.remediations := by
  have same : s'.remediation = s.remediation →
      Table.Evolves SameProposal s.remediation.remediations s'.remediation.remediations := by
    intro remediation
    rw [remediation]
    exact .refl SameProposal.refl _
  cases transaction with
  | alert step => exact same step.remediation
  | investigation step => exact same step.remediation
  | verification step => exact same step.remediation
  | remediation step => exact step.effect.rows.proposalsKept.remediations

/-- A proposal stays what it is for the rest of a run. -/
theorem run_proposals (env : Env) (start : World) (events : List Event) :
    Table.Evolves SameProposal start.store.remediation.remediations
      (Machine.run (step env) start events).store.remediation.remediations := by
  refine Machine.state_invariant (P := fun w : World => Table.Evolves SameProposal
    start.store.remediation.remediations w.store.remediation.remediations)
    (.refl SameProposal.refl _) ?_ events
  intro w e evolved
  have path := execute_path env (w.clock + e.elapsed) w.tickets w.store e.command
  exact Machine.preserved_of_path (P := fun s => Table.Evolves SameProposal
    start.store.remediation.remediations s.remediation.remediations)
    (fun transaction evolved => evolved.trans (R := SameProposal) SameProposal.trans
      transaction.proposals) path evolved

/-! ## The request -/

theorem moveIncident_frame {i : Uuid} {incident : IncidentRow}
    {fromStatuses : List IncidentStatus} {toStatus : IncidentStatus} {reason : String}
    (done : moveIncident s now i incident fromStatuses toStatus reason = .ok s') :
    s'.remediation = s.remediation ∧ s'.audit.timeline = s.audit.timeline := by
  unfold moveIncident at done
  split_ifs at done
  · simp only [bind_eq_ok, found_eq_ok, pure_eq_ok] at done
    obtain ⟨⟨moved, s₁⟩, transitioned, rfl⟩ := done
    unfold transitionIncidentStatus at transitioned
    split at transitioned
    · cases transitioned
    · split_ifs at transitioned
      cases transitioned
      exact ⟨rfl, rfl⟩
  · cases done
    exact ⟨rfl, rfl⟩

theorem routeProposal_timeline {incident : IncidentRow} {decision : PolicyDecision}
    {decisionRow : RemediationPolicyDecisionRow} {view : RemediationView}
    (done : routeProposal s now id row incident decision decisionRow = .ok (view, s')) :
    ∃ entry, s'.remediation.remediations = s.remediation.remediations.set id view.row ∧
      view.id = id ∧ SameProposal row view.row ∧ view.row.updatedAt = now ∧
      s'.audit.timeline = s.audit.timeline ++ [entry] ∧ entry.remediationId = id ∧
      entry.toStatus = some view.row.status ∧ entry.occurredAt = now := by
  unfold routeProposal at done
  split_ifs at done
  all_goals
    simp only [transition, bind_eq_ok, ensure_eq_ok, pure_eq_ok] at done
    obtain ⟨_, ⟨_, _, moved⟩, s₂, left, done⟩ := done
    cases moved
    obtain ⟨remediation, timeline⟩ := moveIncident_frame left
    cases done
    have table : s₂.remediation.remediations = s.remediation.remediations :=
      congrArg (·.remediations) remediation
    refine ⟨_, congrArg (List.set · id _) table, ?_, ?_, ?_, timeline, ?_, ?_, ?_⟩
    · rfl
    · constructor <;> rfl
    all_goals rfl

theorem recordDecision_timeline (s : Store) (now : Time) (id : Uuid) (row : RemediationRow)
    (decision : PolicyDecision) (context : PolicyEvaluationContext) :
    ∃ entry, entry.toStatus = some .proposed ∧
      (recordDecision s now id row decision context).2.2.audit.timeline =
        s.audit.timeline ++ [entry] :=
  ⟨_, rfl, rfl⟩

/-- What a new proposal adds: a row that refers to what is there, and its entries, the last of
which says how it was routed. -/
structure ProposalRecorded (now : Time) (s s' : Store) (proposal : RemediationProposal)
    (row : RemediationRow) : Prop where
  housed : ∃ incident, s.incidents[row.incidentId]? = some incident
  referring : row.investigationId.all
    (fun id => decide (id < s.investigation.investigations.length)) = true
  incidentId : row.incidentId = proposal.incidentId
  parameters : row.parameters = proposal.parameters
  updatedAt : row.updatedAt = now
  remediations : s'.remediation.remediations = s.remediation.remediations ++ [row]
  told : ∃ first second last,
    s'.audit.timeline = s.audit.timeline ++ [first] ++ [second] ++ [last] ∧
    first.toStatus = some .proposed ∧ second.toStatus = some .proposed ∧
    last.remediationId = s.remediation.remediations.length ∧
    last.toStatus = some row.status ∧ last.occurredAt = now

theorem propose_asks {proposal : RemediationProposal} {key : String} {correlationId : Option Uuid}
    {view : RemediationView}
    (done : propose env now s proposal key correlationId = .ok (view, s')) :
    ((proposedUnder s proposal.incidentId key).isSome = true ∧ s' = s) ∨
      (proposedUnder s proposal.incidentId key = none ∧
        view.id = s.remediation.remediations.length ∧
        ProposalRecorded now s s' proposal view.row) := by
  simp only [propose, bind_eq_ok, lockIncident_eq_ok] at done
  obtain ⟨incident, placed, done⟩ := done
  split at done
  · rename_i held
    cases done
    exact .inl ⟨by rw [proposedUnder, held]; rfl, rfl⟩
  · rename_i free
    right
    simp only [bind_eq_ok, ensure_eq_ok] at done
    obtain ⟨_, referring, routed⟩ := done
    obtain ⟨last, remediations, viewed, same, updatedAt, timeline, about, status, occurredAt⟩ :=
      routeProposal_timeline routed
    obtain ⟨second, proposed, recorded⟩ := recordDecision_timeline _ _ _ _ _ _
    refine ⟨free, viewed, ⟨⟨incident, ?_⟩, ?_, same.incidentId, same.parameters, updatedAt,
      remediations.trans (Table.set_new _ _ _),
      ⟨_, second, last, timeline.trans (congrArg (· ++ [last]) recorded), ?_, proposed, about,
        status, occurredAt⟩⟩⟩
    · rw [same.incidentId]
      exact placed
    · rw [same.investigationId]
      exact referring
    · rfl

/-- When, by its timeline, the approval of a remediation was requested. -/
def requestedAt (s : Store) (id : Uuid) : Option Time :=
  ((timelineOf s.audit.timeline id).find? (fun t => t.toStatus == some .awaitingApproval)).map
    (·.occurredAt)

theorem requestedAt_kept {t : Time} (told : Recounted s s') (asked : requestedAt s id = some t) :
    requestedAt s' id = some t := by
  obtain ⟨entries, grown, _⟩ := told.remediations id
  unfold requestedAt at asked ⊢
  rw [grown, List.find?_append]
  obtain ⟨entry, found, rfl⟩ := Option.map_eq_some_iff.mp asked
  rw [found]
  rfl

/-- Nothing is told of a remediation that is not there. -/
theorem timelineOf_absent (told : Recounted {} s)
    (absent : s.remediation.remediations[id]? = none) : timelineOf s.audit.timeline id = [] := by
  obtain ⟨entries, grown, trail⟩ := told.remediations id
  rw [grown]
  cases entries with
  | nil => rfl
  | cons entry entries =>
    obtain ⟨reached, first, rest⟩ := trail
    have there : reached.isSome = true := by
      obtain ⟨_, _, passes⟩ := first
      cases passes <;> rfl
    -- no entry leads back to where a remediation is not there
    have stays : (remediationStatus s.remediation.remediations id).isSome = true :=
      rest.keeps (P := fun status => status.isSome = true)
        (fun step _ => by obtain ⟨_, _, passes⟩ := step; cases passes <;> rfl) there
    rw [remediationStatus, absent] at stays
    cases stays

/-! ## What every reachable store says -/

/-- Every remediation refers to what is there, and one that waits was asked for when its row
says. -/
structure RemediationsSound (s : Store) : Prop where
  told : Recounted {} s
  housed : ∀ (id : Uuid) (row : RemediationRow), s.remediation.remediations[id]? = some row →
    ∃ incident, s.incidents[row.incidentId]? = some incident
  referring : ∀ (id : Uuid) (row : RemediationRow), s.remediation.remediations[id]? = some row →
    row.investigationId.all (fun k => decide (k < s.investigation.investigations.length)) = true
  asked : ∀ (id : Uuid) (row : RemediationRow), s.remediation.remediations[id]? = some row →
    row.status = .awaitingApproval → requestedAt s id = some row.updatedAt

theorem RemediationsSound.initial : RemediationsSound {} := by
  refine ⟨Recounts.refl _ _, ?_, ?_, ?_⟩
  · intro id row found
    cases found
  · intro id row found
    cases found
  · intro id row found
    cases found

theorem refers_kept {investigationId : Option Uuid} {n n' : Nat} (grown : n ≤ n')
    (refers : investigationId.all (fun k => decide (k < n)) = true) :
    investigationId.all (fun k => decide (k < n')) = true := by
  cases investigationId with
  | none => rfl
  | some k =>
    simp only [Option.all_some, decide_eq_true_eq] at refers ⊢
    omega

theorem RemediationsSound.quiet (sound : RemediationsSound s) (told : Recounted s s')
    (quiet : NothingAsked s s') : RemediationsSound s' := by
  refine ⟨sound.told.trans told, ?_, ?_, ?_⟩
  · intro id row found
    obtain ⟨row₀, found₀, same, _⟩ := quiet.rows id row found
    obtain ⟨incident, placed⟩ := sound.housed id row₀ found₀
    obtain ⟨incident', placed', _⟩ := told.origins _ incident placed
    exact ⟨incident', by rw [same.incidentId]; exact placed'⟩
  · intro id row found
    obtain ⟨row₀, found₀, same, _⟩ := quiet.rows id row found
    rw [same.investigationId]
    exact refers_kept quiet.investigations (sound.referring id row₀ found₀)
  · intro id row found waits
    obtain ⟨row₀, found₀, _, same⟩ := quiet.rows id row found
    obtain rfl := same waits
    exact requestedAt_kept told (sound.asked id row found₀ waits)

theorem ProposalRecorded.requested {proposal : RemediationProposal} {new : RemediationRow}
    (recorded : ProposalRecorded now s s' proposal new) (told : Recounted {} s)
    (waits : new.status = .awaitingApproval) :
    requestedAt s' s.remediation.remediations.length = some new.updatedAt := by
  obtain ⟨first, second, last, timeline, proposed, evaluated, about, routed, occurredAt⟩ :=
    recorded.told
  have empty := timelineOf_absent told
    (List.getElem?_eq_none (Nat.le_refl s.remediation.remediations.length))
  have early : ∀ entry : RemediationTimelineRow, entry.toStatus = some .proposed →
      (if s.remediation.remediations.length = entry.remediationId then [entry] else []).find?
        (fun t => t.toStatus == some .awaitingApproval) = none := by
    intro entry status
    split_ifs <;> simp [status]
  unfold requestedAt
  rw [timeline, timelineOf_insert, timelineOf_insert, timelineOf_insert, empty,
    List.find?_append, List.nil_append, List.find?_append, early first proposed,
    early second evaluated, if_pos about.symm]
  simp [routed, waits, occurredAt, recorded.updatedAt]

theorem RemediationsSound.propose {proposal : RemediationProposal} {key : String}
    {correlationId : Option Uuid} {view : RemediationView} (sound : RemediationsSound s)
    (done : propose env now s proposal key correlationId = .ok (view, s')) :
    RemediationsSound s' ∧ WaitsSince now s s' := by
  have told := propose_recounted done
  rcases propose_asks done with ⟨_, rfl⟩ | ⟨_, _, recorded⟩
  · exact ⟨sound, .refl now s'⟩
  · have origin : ∀ {k : Uuid} {row : RemediationRow},
        s'.remediation.remediations[k]? = some row →
        s.remediation.remediations[k]? = some row ∨
          (k = s.remediation.remediations.length ∧ row = view.row) := by
      intro k row found
      rw [recorded.remediations, Table.get_insert] at found
      exact found
    have investigations : s'.investigation = s.investigation := by
      rcases propose_step (c := .propose proposal key correlationId)
        (fun _ records => records) done with rfl | step
      · rfl
      · exact step.investigation
    refine ⟨⟨sound.told.trans told, ?_, ?_, ?_⟩, ?_⟩
    · intro k row found
      have there : ∃ incident, s.incidents[row.incidentId]? = some incident := by
        rcases origin found with old | ⟨_, rfl⟩
        · exact sound.housed k row old
        · exact recorded.housed
      obtain ⟨incident, placed⟩ := there
      obtain ⟨incident', placed', _⟩ := told.origins _ incident placed
      exact ⟨incident', placed'⟩
    · intro k row found
      rw [investigations]
      rcases origin found with old | ⟨_, rfl⟩
      · exact sound.referring k row old
      · exact recorded.referring
    · intro k row found waits
      rcases origin found with old | ⟨rfl, rfl⟩
      · exact requestedAt_kept told (sound.asked k row old waits)
      · exact recorded.requested sound.told waits
    · intro k row found _
      rcases origin found with old | ⟨_, rfl⟩
      · exact .inl old
      · exact .inr recorded.updatedAt

theorem RemediationsSound.cancel {actor reason : String} {view : RemediationView} (env : Env)
    (sound : RemediationsSound s) (done : cancel now s id actor reason = .ok (view, s')) :
    RemediationsSound s' ∧ WaitsSince now s s' := by
  have step : RemediationStep env now .expireApprovals s s' := cancel_step done
  have transaction : Transaction env now [] .expireApprovals s s' :=
    .remediation step (cancel_publishes done)
  have quiet := transaction.nothingAsked rfl
  exact ⟨sound.quiet (cancel_recounted done) quiet, quiet.waitsSince⟩

theorem RemediationsSound.revise {parameters : Dict} {proposedBy : String} {reason : Option String}
    {key : String} (sound : RemediationsSound s) :
    RemediationsSound (revise env now s id parameters proposedBy reason key).2 ∧
      WaitsSince now s (revise env now s id parameters proposedBy reason key).2 := by
  unfold Incident.revise
  split
  · exact ⟨sound, .refl now s⟩
  · split
    · exact ⟨sound, .refl now s⟩
    · rename_i view s₁ cancelled
      obtain ⟨first, since⟩ := sound.cancel env cancelled
      dsimp only
      generalize RemediationProposal.mk _ _ _ _ _ _ _ _ = proposal
      by_cases valid : proposal.Valid
      · rw [if_pos valid]
        split
        · exact ⟨first, since⟩
        · rename_i proposed
          obtain ⟨second, more⟩ := first.propose proposed
          exact ⟨second, since.trans more⟩
      · rw [if_neg valid]
        exact ⟨first, since⟩

theorem RemediationsSound.execute (env : Env) (now : Time) (tickets : List IssuedTicket)
    (sound : RemediationsSound s) (c : Command) :
    RemediationsSound (execute env now tickets s c) ∧ WaitsSince now s (execute env now tickets s c) := by
  cases asks : proposes c with
  | false =>
    have quiet := (execute_path env now tickets s c).nothingAsked asks
    exact ⟨sound.quiet (execute_recounted env now tickets s c) quiet, quiet.waitsSince⟩
  | true =>
    cases c with
    | propose proposal key correlationId =>
      simp only [Incident.execute, committed]
      split
      · rename_i done
        exact sound.propose done
      · exact ⟨sound, .refl now s⟩
    | revise => exact sound.revise
    | _ => cases asks

/-! ## What does not fail -/

theorem bind_succeeds {α β : Type} {x : Except DomainError α} {f : α → Except DomainError β}
    (first : ∃ a, x = .ok a) (rest : ∀ a, x = .ok a → ∃ b, f a = .ok b) :
    ∃ b, (x >>= f) = .ok b := by
  obtain ⟨a, here⟩ := first
  obtain ⟨b, after⟩ := rest a here
  exact ⟨b, bind_eq_ok.mpr ⟨a, here, after⟩⟩

theorem moveIncident_succeeds {i : Uuid} {incident : IncidentRow}
    {fromStatuses : List IncidentStatus} {toStatus : IncidentStatus} {reason : String}
    (placed : s.incidents[i]? = some incident) :
    ∃ s', moveIncident s now i incident fromStatuses toStatus reason = .ok s' := by
  unfold moveIncident
  split_ifs
  · refine bind_succeeds ⟨_, found_eq_ok.mpr (transitionIncidentStatus_of_read placed)⟩ ?_
    exact fun _ _ => ⟨_, rfl⟩
  · exact ⟨s, rfl⟩

theorem finishCancelled_succeeds {incident : IncidentRow} {event actor reason : String}
    {incidentTo : IncidentStatus} (allowed : canTransition row.status .cancelled = true)
    (placed : s.incidents[row.incidentId]? = some incident) :
    ∃ r, finishCancelled s now id row incident event actor reason incidentTo = .ok r := by
  unfold finishCancelled
  refine bind_succeeds ?_ ?_
  · exact bind_succeeds ⟨(), ensure_eq_ok.mpr allowed⟩ fun _ _ => ⟨_, rfl⟩
  · rintro ⟨moved, s₁⟩ transitioned
    obtain ⟨_, rfl, audit, rfl⟩ := transition_eq_ok transitioned
    refine bind_succeeds (moveIncident_succeeds ?_) fun _ _ => ⟨_, rfl⟩
    exact placed

theorem cancel_succeeds {actor reason : String} (sound : RemediationsSound s)
    (found : s.remediation.remediations[id]? = some row)
    (cancellable : row.status = .awaitingApproval ∨ row.status = .approved) :
    ∃ r, cancel now s id actor reason = .ok r := by
  obtain ⟨incident, placed⟩ := sound.housed id row found
  unfold Incident.cancel
  refine bind_succeeds ⟨row, lockRemediation_eq_ok.mpr found⟩ fun row' locked => ?_
  rw [lockRemediation_eq_ok, found] at locked
  cases locked
  refine bind_succeeds ⟨(), ensure_eq_ok.mpr cancellable⟩ fun _ _ => ?_
  refine bind_succeeds ⟨incident, lockIncident_eq_ok.mpr placed⟩ fun incident' locked => ?_
  rw [lockIncident_eq_ok] at locked
  refine bind_succeeds (finishCancelled_succeeds ?_ locked) fun _ _ => ⟨_, rfl⟩
  rcases cancellable with status | status <;> simp only [status] <;> decide

theorem routeProposal_succeeds {incident : IncidentRow} {decision : PolicyDecision}
    {decisionRow : RemediationPolicyDecisionRow} (proposed : row.status = .proposed)
    (placed : s.incidents[row.incidentId]? = some incident) :
    ∃ r, routeProposal s now id row incident decision decisionRow = .ok r := by
  unfold routeProposal
  split_ifs
  all_goals
    refine bind_succeeds ?_ ?_
    · refine bind_succeeds ⟨(), ensure_eq_ok.mpr ?_⟩ fun _ _ => ⟨_, rfl⟩
      rw [proposed]
      decide
    · rintro ⟨moved, s₁⟩ transitioned
      obtain ⟨_, rfl, audit, rfl⟩ := transition_eq_ok transitioned
      refine bind_succeeds (moveIncident_succeeds ?_) fun _ _ => ⟨_, rfl⟩
      exact placed

/-- A proposal about what is there is recorded, or found recorded. -/
theorem propose_succeeds {proposal : RemediationProposal} {key : String}
    {correlationId : Option Uuid} {incident : IncidentRow}
    (placed : s.incidents[proposal.incidentId]? = some incident)
    (refers : proposal.investigationId.all
      (fun k => decide (k < s.investigation.investigations.length)) = true) :
    ∃ r, propose env now s proposal key correlationId = .ok r := by
  unfold Incident.propose
  refine bind_succeeds ⟨incident, lockIncident_eq_ok.mpr placed⟩ fun incident' locked => ?_
  rw [lockIncident_eq_ok] at locked
  split
  · exact ⟨_, rfl⟩
  · refine bind_succeeds ⟨(), ensure_eq_ok.mpr refers⟩ fun _ _ => ?_
    exact routeProposal_succeeds rfl locked

end

end IncidentTriage.Verified
