import IncidentTriage.Verified.Hypotheses

/-! # Verdicts on hypotheses and the evidence stored for them

A pair of hypothesis and evidence keeps the relation it was first linked with, so the store
agrees with what a batch reports exactly as long as no accepted update cites evidence against
the relation it is linked with.
-/

namespace IncidentTriage.Verified

open IncidentTriage.Python IncidentTriage.Domain IncidentTriage.Incident

/-! ## The property -/

/-- A `REJECTED` hypothesis has evidence against it in the store, a `SUPPORTED` or `SELECTED`
one has evidence for it. -/
structure StatusesBacked (s : Store) : Prop where
  rejected : ∀ (h : Uuid) (row : HypothesisRow), s.investigation.hypotheses[h]? = some row →
    row.status = .rejected → ∃ e, Linked s.investigation.links h e .contradicts
  supported : ∀ (h : Uuid) (row : HypothesisRow), s.investigation.hypotheses[h]? = some row →
    row.status = .supported ∨ row.status = .selected →
      ∃ e, Linked s.investigation.links h e .supports

/-- What is reported as applied is in the store. -/
def Recorded (s : Store) (id : Uuid) (a : AppliedUpdate) : Prop :=
  ∃ h row, HypothesisAt s id a.key h row ∧
    (∀ e ∈ a.addedSupporting, Linked s.investigation.links h e .supports) ∧
    ∀ e ∈ a.addedContradicting, Linked s.investigation.links h e .contradicts

structure VerdictsBacked (s : Store) : Prop where
  backed : StatusesBacked s
  recorded : ∀ step ∈ s.investigation.steps, ∀ a ∈ reportedUpdates step,
    Recorded s step.investigationId a

theorem Recorded.kept {s s' : Store} {id : Uuid} {a : AppliedUpdate} (recorded : Recorded s id a)
    (kept : HypothesesKept s s') : Recorded s' id a := by
  obtain ⟨h, row, at_, supporting, contradicting⟩ := recorded
  obtain ⟨row', at'⟩ := kept.at at_
  exact ⟨h, row', at', fun e member => kept.linked (supporting e member),
    fun e member => kept.linked (contradicting e member)⟩

/-! ## The condition -/

/-- The update is accepted, and cites evidence that is linked to its hypothesis with the other
relation. -/
def Reclassifies (accessible : List Uuid) (p : UpdateProgress) (update : HypothesisUpdate) :
    Prop :=
  checkHypothesisUpdate update (List.lookup update.key p.snapshots) accessible = [] ∧
  ∃ h, List.lookup update.key p.hypotheses = some h ∧ ∃ e,
    (Linked p.store.investigation.links h e .contradicts ∧ e ∈ update.supportingEvidenceIds) ∨
    (Linked p.store.investigation.links h e .supports ∧ e ∈ update.contradictingEvidenceIds)

/-- No update of the command's batch does, where it is tried. -/
def CleanCommand (now : Time) (s : Store) (c : Command) : Prop :=
  ∀ id owner iteration callId batch row,
    c = .applyHypothesisUpdates id owner iteration callId batch → fenced s id owner = .ok row →
      Machine.StepsMeet (fun p update => ¬ Reclassifies (accessibleEvidence s id row) p update)
        (applyUpdate now id (accessibleEvidence s id row)) (startProgress s id) batch.updates

def CleanUpdates (w : World) (e : Event) : Prop :=
  CleanCommand (w.clock + e.elapsed) w.store e.command

/-! ## While the condition holds -/

/-- Where the update does not reclassify, what it cites is linked as it cites it. -/
theorem linked_of_cited {now : Time} {accessible : List Uuid} {update : HypothesisUpdate}
    {existing : Option HypothesisSnapshot} {links : List HypothesisEvidenceLinkRow} {h e : Uuid}
    {relation : EvidenceRelation} (accepted : AcceptedUpdate update existing accessible)
    (clean : ∀ e, ¬ ((Linked links h e .contradicts ∧ e ∈ update.supportingEvidenceIds) ∨
      (Linked links h e .supports ∧ e ∈ update.contradictingEvidenceIds)))
    (cited : Cites update e relation) :
    Linked (linkEvidence now h update links) h e relation := by
  rw [linked_linkEvidence accepted.disjoint]
  by_cases present : ∃ r, Linked links h e r
  · obtain ⟨r, linked⟩ := present
    left
    cases relation <;> cases r
    · exact linked
    · exact absurd (.inl ⟨linked, cited⟩) (clean e)
    · exact absurd (.inr ⟨linked, cited⟩) (clean e)
    · exact linked
  · exact .inr ⟨rfl, cited, fun r linked => present ⟨r, linked⟩⟩

/-- Evidence that a created hypothesis is linked to is linked as it is cited. -/
theorem linked_of_created (now : Time) {accessible : List Uuid} {update : HypothesisUpdate}
    {s : Store} (known : LinksKnown s) (accepted : AcceptedUpdate update none accessible) :
    ∀ (e : Uuid) (relation : EvidenceRelation), Cites update e relation →
      Linked (linkEvidence now s.investigation.hypotheses.length update s.investigation.links)
        s.investigation.hypotheses.length e relation := by
  intro e relation cites
  refine linked_of_cited accepted (fun e => ?_) cites
  rintro (⟨⟨l, member, ofNew, _⟩, _⟩ | ⟨⟨l, member, ofNew, _⟩, _⟩) <;>
    exact absurd (known l member) (by rw [ofNew]; exact Nat.lt_irrefl _)

/-- So is evidence of a hypothesis that is changed without reclassifying any. -/
theorem linked_of_changed (now : Time) {id : Uuid} {accessible : List Uuid}
    {update : HypothesisUpdate} {p : UpdateProgress} {h : Uuid} {row : HypothesisRow}
    (inStep : InStep id p) (at_ : HypothesisAt p.store id update.key h row)
    (accepted : AcceptedUpdate update (some (snapshot p.store h row)) accessible)
    (clean : ¬ Reclassifies accessible p update) :
    ∀ (e : Uuid) (relation : EvidenceRelation), Cites update e relation →
      Linked (linkEvidence now h update p.store.investigation.links) h e relation := by
  intro e relation cites
  refine linked_of_cited accepted (fun e conflict => clean ⟨?_, h, ?_, e, conflict⟩) cites
  · rw [inStep.snapshots update.key h row at_]
    exact checkHypothesisUpdate_eq_nil.mpr accepted
  · exact inStep.complete update.key h row at_

/-- Backing of all but one hypothesis, and of that one, after its links. -/
theorem StatusesBacked.write {s s' : Store} (backed : StatusesBacked s) (h : Uuid) (row : HypothesisRow)
    (kept : HypothesesKept s s')
    (others : ∀ (h' : Uuid) (row' : HypothesisRow), h' ≠ h →
      s'.investigation.hypotheses[h']? = some row' → s.investigation.hypotheses[h']? = some row')
    (written : s'.investigation.hypotheses[h]? = some row)
    (rejected : row.status = .rejected → ∃ e, Linked s'.investigation.links h e .contradicts)
    (supported : row.status = .supported ∨ row.status = .selected →
      ∃ e, Linked s'.investigation.links h e .supports) : StatusesBacked s' := by
  constructor
  · intro h' row' found status
    by_cases here : h' = h
    · subst here
      obtain rfl := Option.some.inj (found.symm.trans written)
      exact rejected status
    · obtain ⟨e, linked⟩ := backed.rejected h' row' (others h' row' here found) status
      exact ⟨e, kept.linked linked⟩
  · intro h' row' found status
    by_cases here : h' = h
    · subst here
      obtain rfl := Option.some.inj (found.symm.trans written)
      exact supported status
    · obtain ⟨e, linked⟩ := backed.supported h' row' (others h' row' here found) status
      exact ⟨e, kept.linked linked⟩

/-- A written status is the one given, or the one before. -/
theorem status_given {given : Option SettableStatus} {before status : HypothesisStatus}
    (written : (given.map (·.toStatus)).getD before = status) :
    (∃ g, given = some g ∧ g.toStatus = status) ∨ before = status := by
  cases given with
  | none => exact .inr written
  | some g => exact .inl ⟨g, rfl, written⟩

/-- Evidence cited with a relation and evidence linked with it is evidence linked with it
afterwards. -/
theorem exists_linked {s s' : Store} {h : Uuid} {relation : EvidenceRelation} {cited : List Uuid}
    (kept : HypothesesKept s s')
    (linked : ∀ e ∈ cited, Linked s'.investigation.links h e relation)
    (some : cited ++ linkedAs s h relation ≠ []) :
    ∃ e, Linked s'.investigation.links h e relation := by
  obtain ⟨e, member⟩ := List.exists_mem_of_ne_nil _ some
  rcases List.mem_append.mp member with new | old
  · exact ⟨e, linked e new⟩
  · exact ⟨e, kept.linked (mem_linkedAs.mp old)⟩

theorem UpdateEffect.backed {now : Time} {id : Uuid} {accessible : List Uuid}
    {update : HypothesisUpdate} {p p' : UpdateProgress} (inStep : InStep id p)
    (effect : UpdateEffect now id accessible update p p') (known : LinksKnown p.store)
    (clean : ¬ Reclassifies accessible p update) (backed : StatusesBacked p.store) : StatusesBacked p'.store := by
  have kept := effect.kept
  cases effect with
  | refused problems store => rwa [store]
  | created a absent accepted hypotheses links =>
    have cited := linked_of_created now known accepted
    rw [← links] at cited
    refine backed.write p.store.investigation.hypotheses.length (newHypothesis now id update)
      kept ?_ ?_ (fun status => ?_) (fun status => ?_)
    · intro h' row' other found
      rw [hypotheses] at found
      rcases Table.get_insert.mp found with old | ⟨same, _⟩
      · exact old
      · exact absurd same other
    · rw [hypotheses]
      exact Table.get_insert.mpr (.inr ⟨rfl, rfl⟩)
    · rcases status_given status with ⟨g, given, same⟩ | fresh
      · cases g <;> cases same
        obtain ⟨e, member⟩ := List.exists_mem_of_ne_nil _ (accepted.rejected given)
        exact ⟨e, cited e .contradicts (by simpa [Cites] using member)⟩
      · cases fresh
    · rcases status with status | status
      · rcases status_given status with ⟨g, given, same⟩ | fresh
        · cases g <;> cases same
          obtain ⟨e, member⟩ := List.exists_mem_of_ne_nil _ (accepted.supported given)
          exact ⟨e, cited e .supports (by simpa [Cites] using member)⟩
        · cases fresh
      · rcases status_given status with ⟨g, given, same⟩ | fresh
        · exact absurd same (SettableStatus.toStatus_ne_selected g)
        · cases fresh
  | changed a h row at_ accepted hypotheses links =>
    have cited := linked_of_changed now inStep at_ accepted clean
    rw [← links] at cited
    refine backed.write h (row.updated now update) kept ?_ ?_ (fun status => ?_) (fun status => ?_)
    · intro h' row' other found
      rw [hypotheses] at found
      rcases (Table.get_put at_.found).mp found with ⟨same, _⟩ | ⟨_, old⟩
      · exact absurd same other
      · exact old
    · rw [hypotheses]
      exact (Table.get_put at_.found).mpr (.inl ⟨rfl, rfl⟩)
    · rcases status_given status with ⟨g, given, same⟩ | before
      · cases g <;> cases same
        exact exists_linked kept (fun e => cited e .contradicts) (accepted.rejected given)
      · obtain ⟨e, linked⟩ := backed.rejected h row at_.found before
        exact ⟨e, kept.linked linked⟩
    · have before : row.status = .supported ∨ row.status = .selected →
          ∃ e, Linked p'.store.investigation.links h e .supports := by
        intro before
        obtain ⟨e, linked⟩ := backed.supported h row at_.found before
        exact ⟨e, kept.linked linked⟩
      rcases status with status | status
      · rcases status_given status with ⟨g, given, same⟩ | same
        · cases g <;> cases same
          exact exists_linked kept (fun e => cited e .supports) (accepted.supported given)
        · exact before (.inl same)
      · rcases status_given status with ⟨g, given, same⟩ | same
        · exact absurd same (SettableStatus.toStatus_ne_selected g)
        · exact before (.inr same)

/-- What an update that does not reclassify reports is in the store. -/
theorem UpdateEffect.recorded {now : Time} {id : Uuid} {accessible : List Uuid}
    {update : HypothesisUpdate} {p p' : UpdateProgress} (inStep : InStep id p)
    (effect : UpdateEffect now id accessible update p p') (known : LinksKnown p.store)
    (clean : ¬ Reclassifies accessible p update)
    (recorded : ∀ a ∈ p.applied, Recorded p.store id a) :
    ∀ a ∈ p'.applied, Recorded p'.store id a := by
  have kept := effect.kept
  have old : ∀ a ∈ p.applied, Recorded p'.store id a :=
    fun a listed => (recorded a listed).kept kept
  -- the report names the update's key and the ids it cites
  have new : ∀ {a : AppliedUpdate} {h : Uuid} {row : HypothesisRow}, Reported update row a →
      HypothesisAt p'.store id update.key h row →
      (∀ (e : Uuid) (relation : EvidenceRelation), Cites update e relation →
        Linked p'.store.investigation.links h e relation) → Recorded p'.store id a := by
    intro a h row reported at_ cited
    refine ⟨h, row, reported.key ▸ at_, fun e member => ?_, fun e member => ?_⟩
    · rw [reported.supporting] at member
      exact cited e .supports member
    · rw [reported.contradicting] at member
      exact cited e .contradicts member
  intro a listed
  cases effect with
  | refused problems store _ _ applied => exact old a (applied ▸ listed)
  | created report absent accepted hypotheses links applied reported =>
    rw [applied] at listed
    rcases List.mem_append.mp listed with before | last
    · exact old a before
    · obtain rfl := List.mem_singleton.mp last
      have cited := linked_of_created now known accepted
      rw [← links] at cited
      refine new reported ⟨?_, rfl, rfl⟩ cited
      rw [hypotheses]
      exact Table.get_insert.mpr (.inr ⟨rfl, rfl⟩)
  | changed report h row at_ accepted hypotheses links applied reported =>
    rw [applied] at listed
    rcases List.mem_append.mp listed with before | last
    · exact old a before
    · obtain rfl := List.mem_singleton.mp last
      have cited := linked_of_changed now inStep at_ accepted clean
      rw [← links] at cited
      refine new reported ⟨?_, at_.investigationId, at_.key⟩ cited
      rw [hypotheses]
      exact (Table.get_put at_.found).mpr (.inl ⟨rfl, rfl⟩)

/-! ## Transactions -/

/-- A batch none of whose updates reclassifies keeps verdicts backed, and its report is in the
store. -/
theorem updateLoop_backed {now : Time} {s : Store} {id : Uuid} {row : InvestigationRow}
    {updates : List HypothesisUpdate} (sound : HypothesesSound s)
    (clean : Machine.StepsMeet
      (fun p update => ¬ Reclassifies (accessibleEvidence s id row) p update)
      (applyUpdate now id (accessibleEvidence s id row)) (startProgress s id) updates)
    (backed : StatusesBacked s) :
    StatusesBacked (updateLoop now s id row updates).store ∧
      ∀ a ∈ (updateLoop now s id row updates).applied,
        Recorded (updateLoop now s id row updates).store id a := by
  rw [updateLoop_eq_run]
  have whole := Machine.invariant_of_stepsMeet
    (P := fun p => InStep id p ∧ LinksKnown p.store ∧ StatusesBacked p.store ∧
      ∀ a ∈ p.applied, Recorded p.store id a)
    ⟨inStep_startProgress sound.unique id, sound.known, backed, by simp [startProgress]⟩ ?_ clean
  · exact whole.2.2
  · rintro p update fine ⟨inStep, known, backed, recorded⟩
    have effect : UpdateEffect now id (accessibleEvidence s id row) update p _ :=
      inStep.updateEffect _ update
    exact ⟨inStep.applyUpdate _ update, effect.linksKnown known,
      effect.backed inStep known fine backed, effect.recorded inStep known fine recorded⟩

theorem StatusesBacked.of_same {s s' : Store} (backed : StatusesBacked s)
    (hypotheses : s'.investigation.hypotheses = s.investigation.hypotheses)
    (links : s'.investigation.links = s.investigation.links) : StatusesBacked s' := by
  constructor <;> rw [hypotheses, links]
  · exact backed.rejected
  · exact backed.supported

/-- Steps that report nothing are added, and what was recorded stays. -/
theorem VerdictsBacked.kept {s s' : Store} (before : VerdictsBacked s) (backed : StatusesBacked s')
    (kept : HypothesesKept s s') {new : List InvestigationStepRow}
    (steps : s'.investigation.steps = s.investigation.steps ++ new)
    (reported : ∀ step ∈ new, ∀ a ∈ reportedUpdates step, Recorded s' step.investigationId a) :
    VerdictsBacked s' := by
  refine ⟨backed, fun step member a listed => ?_⟩
  rw [steps] at member
  rcases List.mem_append.mp member with old | recent
  · exact (before.recorded step old a listed).kept kept
  · exact reported step recent a listed

theorem InvestigationEffect.verdictsBacked {env : Env} {now : Time} {c : Command} {s s' : Store}
    (effect : InvestigationEffect env now c s s') (sound : HypothesesSound s)
    (clean : CleanCommand now s c) (before : VerdictsBacked s) : VerdictsBacked s' := by
  have kept := (effect.kept sound).2
  cases effect with
  | requested _ _ _ _ _ _ _ _ _ _ _ tables =>
    exact before.kept (before.backed.of_same (by rw [tables]) (by rw [tables])) kept
      (by rw [tables, List.append_nil]) fun _ member => absurd member List.not_mem_nil
  | worked id row row' steps found same status stepsOf incidents tables =>
    refine before.kept (before.backed.of_same (by rw [tables]) (by rw [tables])) kept
      (by rw [tables]) fun step member a listed => ?_
    rw [(stepsOf step member).2] at listed
    cases listed
  | ended _ _ _ _ step _ _ _ _ _ _ _ tables reported =>
    refine before.kept (before.backed.of_same (by rw [tables]) (by rw [tables])) kept
      (by rw [tables]) fun step' member a listed => ?_
    rw [List.mem_singleton.mp member, reported] at listed
    cases listed
  | updated id row row' updates step found investigating _ _ stepOf incidents tables reported
      command =>
    obtain ⟨owner, iteration, callId, batch, issued, rfl, leased⟩ := command
    have held : fenced s id owner = .ok row := fenced_eq_ok.mpr ⟨found, investigating, leased⟩
    obtain ⟨backed, recorded⟩ := updateLoop_backed sound
      (clean id owner iteration callId batch row issued held) before.backed
    have hypotheses : s'.investigation.hypotheses =
        (updateLoop now s id row batch.updates).store.investigation.hypotheses := by rw [tables]
    have links : s'.investigation.links =
        (updateLoop now s id row batch.updates).store.investigation.links := by rw [tables]
    refine before.kept (backed.of_same hypotheses links) kept (by rw [tables])
      fun step' member a listed => ?_
    rw [List.mem_singleton.mp member] at listed ⊢
    rw [reported] at listed
    rw [stepOf]
    exact (recorded a listed).kept (.of_same hypotheses links)
  | completed id row row' incident hypothesisId h result report step found incidentFound
      investigating met selected _ _ _ _ _ _ _ _ incidents tables reported =>
    have hypotheses : s'.investigation.hypotheses = s.investigation.hypotheses.set hypothesisId
        (h.selected now result.confidence) := by rw [tables]
    have links : s'.investigation.links = s.investigation.links := by rw [tables]
    have present := (mem_hypothesisRows.mp (List.mem_of_find?_eq_some selected)).1
    have supported := (selected_supported met selected).supported
    have backed : StatusesBacked s' := by
      refine before.backed.write hypothesisId (h.selected now result.confidence) kept ?_ ?_ ?_ ?_
      · intro h' row' other found
        rw [hypotheses] at found
        rcases (Table.get_put present).mp found with ⟨same, _⟩ | ⟨_, old⟩
        · exact absurd same other
        · exact old
      · rw [hypotheses]
        exact (Table.get_put present).mpr (.inl ⟨rfl, rfl⟩)
      · intro status
        cases status
      · intro _
        rw [links]
        exact before.backed.supported hypothesisId h present (.inl supported)
    refine before.kept backed kept (by rw [tables]) fun step' member a listed => ?_
    rw [List.mem_singleton.mp member, reported] at listed
    cases listed

theorem Transaction.verdictsBacked {env : Env} {now : Time} {tickets : List IssuedTicket}
    {c : Command} {s s' : Store} (transaction : Transaction env now tickets c s s')
    (sound : HypothesesSound s) (clean : CleanCommand now s c) (before : VerdictsBacked s) :
    VerdictsBacked s' := by
  have same : s'.investigation = s.investigation → VerdictsBacked s' := by
    intro investigation
    refine before.kept (before.backed.of_same (by rw [investigation]) (by rw [investigation]))
      (.of_same (by rw [investigation]) (by rw [investigation]))
      (by rw [investigation, List.append_nil]) fun _ member => absurd member List.not_mem_nil
  cases transaction with
  | alert step => exact same step.investigation
  | investigation step => exact step.effect.verdictsBacked sound clean before
  | remediation step => exact same step.investigation
  | verification step => exact same step.investigation

/-! ## Commands -/

/-- A batch is one transaction, or none. -/
theorem execute_updates (env : Env) (now : Time) (tickets : List IssuedTicket) (s : Store)
    (id : Uuid) (owner : String) (iteration : Nat) (callId : String)
    (batch : HypothesisUpdateBatch) :
    (∃ outcome s', applyHypothesisUpdates now s id owner iteration callId batch =
        .ok (outcome, s') ∧
      execute env now tickets s (.applyHypothesisUpdates id owner iteration callId batch) = s') ∨
    execute env now tickets s (.applyHypothesisUpdates id owner iteration callId batch) = s := by
  simp only [execute]
  cases done : applyHypothesisUpdates now s id owner iteration callId batch with
  | error e => exact .inr rfl
  | ok result => exact .inl ⟨result.1, result.2, rfl, rfl⟩

/-- Only a batch can fail the condition. -/
theorem cleanCommand_of_other {now : Time} {s : Store} {c : Command}
    (other : ∀ id owner iteration callId batch,
      c ≠ .applyHypothesisUpdates id owner iteration callId batch) : CleanCommand now s c :=
  fun id owner iteration callId batch _ isBatch =>
    absurd isBatch (other id owner iteration callId batch)

theorem step_verdictsBacked {env : Env} {w : World} {e : Event}
    (sound : HypothesesSound w.store) (clean : CleanUpdates w e)
    (before : VerdictsBacked w.store) : VerdictsBacked (step env w e).store := by
  by_cases isBatch : ∃ id owner iteration callId batch,
      e.command = .applyHypothesisUpdates id owner iteration callId batch
  · obtain ⟨id, owner, iteration, callId, batch, isBatch⟩ := isBatch
    have clean : CleanCommand (w.clock + e.elapsed) w.store e.command := clean
    simp only [step]
    rw [isBatch] at clean ⊢
    rcases execute_updates env (w.clock + e.elapsed) w.tickets w.store id owner iteration callId
        batch with ⟨outcome, s', done, executed⟩ | unchanged
    · rw [executed]
      have transaction : InvestigationStep env _ _ _ _ := applyHypothesisUpdates_step done
      exact transaction.effect.verdictsBacked sound clean before
    · rwa [unchanged]
  · -- no other command has a batch to be judged
    have other : ∀ id owner iteration callId batch,
        e.command ≠ .applyHypothesisUpdates id owner iteration callId batch :=
      fun id owner iteration callId batch same =>
        isBatch ⟨id, owner, iteration, callId, batch, same⟩
    have path := execute_path env (w.clock + e.elapsed) w.tickets w.store e.command
    refine (Machine.preserved_of_path
      (P := fun s => HypothesesSound s ∧ VerdictsBacked s) ?_ path ⟨sound, before⟩).2
    rintro s s' transaction ⟨sound, before⟩
    exact ⟨(transaction.hypothesesKept sound).1,
      transaction.verdictsBacked sound (cleanCommand_of_other other) before⟩

/-! ## When the condition fails -/

/-- Reports are only added. -/
theorem UpdateEffect.applied_mem {now : Time} {id : Uuid} {accessible : List Uuid}
    {update : HypothesisUpdate} {p p' : UpdateProgress}
    (effect : UpdateEffect now id accessible update p p') {a : AppliedUpdate}
    (listed : a ∈ p.applied) : a ∈ p'.applied := by
  cases effect with
  | refused problems store known snapshots applied => rwa [applied]
  | created report _ _ _ _ applied => exact applied ▸ List.mem_append_left _ listed
  | changed report _ _ _ _ _ _ applied => exact applied ▸ List.mem_append_left _ listed

/-- An update that reclassifies is applied to a hypothesis and reported, and what it cites is
linked with the other relation. -/
theorem UpdateEffect.conflict {now : Time} {id : Uuid} {accessible : List Uuid}
    {update : HypothesisUpdate} {p p' : UpdateProgress} (inStep : InStep id p)
    (effect : UpdateEffect now id accessible update p p')
    (reclassifies : Reclassifies accessible p update) :
    ∃ a ∈ p'.applied, ∃ h row, HypothesisAt p'.store id a.key h row ∧ ∃ e,
      (Linked p'.store.investigation.links h e .contradicts ∧ e ∈ a.addedSupporting) ∨
      (Linked p'.store.investigation.links h e .supports ∧ e ∈ a.addedContradicting) := by
  have kept := effect.kept
  obtain ⟨accepted, h, listed, e, conflict⟩ := reclassifies
  cases effect with
  | refused problems => exact absurd accepted problems
  | created a absent => rw [absent] at listed; cases listed
  | changed a h' row at_ _ hypotheses _ applied reported =>
    obtain rfl := Option.some.inj (listed.symm.trans (inStep.complete update.key h' row at_))
    obtain ⟨row', at'⟩ := kept.at at_
    refine ⟨a, by rw [applied]; exact List.mem_append_right _ (List.mem_singleton.mpr rfl), h,
      row', reported.key ▸ at', e, ?_⟩
    rw [reported.supporting, reported.contradicting]
    rcases conflict with ⟨linked, cited⟩ | ⟨linked, cited⟩
    · exact .inl ⟨kept.linked linked, cited⟩
    · exact .inr ⟨kept.linked linked, cited⟩

/-- What is reported and linked the other way is not in the store. -/
theorem not_recorded_of_conflict {s s' : Store} (sound : HypothesesSound s')
    (kept : HypothesesKept s s') {id h e : Uuid} {a : AppliedUpdate} {row : HypothesisRow}
    (at_ : HypothesisAt s id a.key h row)
    (conflict : (Linked s.investigation.links h e .contradicts ∧ e ∈ a.addedSupporting) ∨
      (Linked s.investigation.links h e .supports ∧ e ∈ a.addedContradicting)) :
    ¬ Recorded s' id a := by
  rintro ⟨h', row', at', supporting, contradicting⟩
  obtain ⟨row'', at''⟩ := kept.at at_
  obtain ⟨rfl, rfl⟩ := sound.unique.row_eq at' at''
  rcases conflict with ⟨linked, cited⟩ | ⟨linked, cited⟩
  · cases sound.one h' e _ _ (kept.linked linked) (supporting e cited)
  · cases sound.one h' e _ _ (kept.linked linked) (contradicting e cited)

/-- A batch with an update that reclassifies reports what is not in the store. -/
theorem updateLoop_conflict {now : Time} {s : Store} {id : Uuid} {row : InvestigationRow}
    {updates : List HypothesisUpdate} (sound : HypothesesSound s)
    (unclean : ¬ Machine.StepsMeet
      (fun p update => ¬ Reclassifies (accessibleEvidence s id row) p update)
      (applyUpdate now id (accessibleEvidence s id row)) (startProgress s id) updates) :
    ∃ a ∈ (updateLoop now s id row updates).applied,
      ¬ Recorded (updateLoop now s id row updates).store id a := by
  rw [Machine.stepsMeet_iff] at unclean
  push Not at unclean
  obtain ⟨earlier, update, later, rfl, reclassifies⟩ := unclean
  have inStep := updateLoop_inStep sound.unique now id row earlier
  have effect : UpdateEffect now id (accessibleEvidence s id row) update _ _ :=
    inStep.updateEffect _ update
  obtain ⟨a, listed, h, r, at_, e, conflict⟩ := effect.conflict inStep reclassifies
  have final := updateLoop_sound sound now id row (earlier ++ update :: later)
  have split : updateLoop now s id row (earlier ++ update :: later) =
      Machine.run (applyUpdate now id (accessibleEvidence s id row))
        (applyUpdate now id (accessibleEvidence s id row) (updateLoop now s id row earlier) update)
        later := by
    rw [updateLoop_eq_run, Machine.run_append]
    rfl
  refine ⟨a, ?_, not_recorded_of_conflict final ?_ at_ conflict⟩
  all_goals rw [split]
  · refine (Machine.state_invariant (P := fun p => InStep id p ∧ a ∈ p.applied)
      ⟨inStep.applyUpdate _ update, listed⟩ ?_ later).2
    rintro p u ⟨inStep, listed⟩
    exact ⟨inStep.applyUpdate _ u, (inStep.updateEffect _ u).applied_mem listed⟩
  · have after : InStep id (applyUpdate now id (accessibleEvidence s id row)
      (updateLoop now s id row earlier) update) := inStep.applyUpdate _ update
    generalize applyUpdate now id (accessibleEvidence s id row) (updateLoop now s id row earlier)
      update = p at after ⊢
    refine (Machine.state_invariant (P := fun q => InStep id q ∧ HypothesesKept p.store q.store)
      ⟨after, .of_same rfl rfl⟩ ?_ later).2
    rintro p u ⟨inStep, kept⟩
    exact ⟨inStep.applyUpdate _ u, kept.trans (inStep.updateEffect _ u).kept⟩

theorem step_clean {env : Env} {w : World} {e : Event} (sound : HypothesesSound w.store)
    (after : VerdictsBacked (step env w e).store) : CleanUpdates w e := by
  intro id owner iteration callId batch row isBatch held
  by_contra unclean
  obtain ⟨a, listed, unrecorded⟩ := updateLoop_conflict sound unclean
  simp only [step, isBatch, execute] at after
  cases done : applyHypothesisUpdates (w.clock + e.elapsed) w.store id owner iteration callId
      batch with
  | error problem =>
    simp only [applyHypothesisUpdates, held] at done
    cases done
  | ok result =>
    obtain ⟨outcome, s'⟩ := result
    rw [done] at after
    have after : VerdictsBacked s' := after
    obtain ⟨row₁, row', step, held₁, applied⟩ := applyHypothesisUpdates_eq_ok done
    obtain rfl := Except.ok.inj (held.symm.trans held₁)
    have member : step ∈ s'.investigation.steps := by
      rw [applied.tables]
      exact List.mem_append_right _ (List.mem_singleton.mpr rfl)
    have recorded := after.recorded step member a (applied.reported ▸ listed)
    rw [applied.stepOf] at recorded
    refine unrecorded (recorded.kept (.of_same ?_ ?_)) <;> rw [applied.tables]

/-! ## The result -/

/-- Along a run, verdicts on hypotheses are backed by the evidence stored for them, and what
is reported as applied is stored, exactly if no accepted update cites evidence with the
other relation than the one it is linked with. -/
theorem verdicts_are_backed (env : Env) (clock : Time) (events : List Event) :
    (∀ earlier later, events = earlier ++ later →
      VerdictsBacked (runFrom env clock earlier).store) ↔
    Machine.StepsMeet CleanUpdates (step env) (emptyWorld clock) events := by
  constructor
  · intro backed
    refine Machine.stepsMeet_iff.mpr fun earlier e later split => ?_
    have after := backed (earlier ++ [e]) later (by simp [split])
    rw [runFrom, Machine.run_concat] at after
    exact step_clean (run_hypothesesSound env clock earlier) after
  · rintro met earlier later rfl
    have before := ((Machine.stepsMeet_append earlier later).mp met).1
    refine (Machine.invariant_of_stepsMeet
      (P := fun w : World => HypothesesSound w.store ∧ VerdictsBacked w.store)
      ⟨hypothesesSound_empty, ⟨⟨?_, ?_⟩, ?_⟩⟩ ?_ before).2
    · intro h row found
      simp [emptyWorld] at found
    · intro h row found
      simp [emptyWorld] at found
    · intro step member
      cases member
    · rintro w e clean ⟨sound, backed⟩
      refine ⟨?_, step_verdictsBacked sound clean backed⟩
      exact Machine.preserved_of_path (P := HypothesesSound)
        (fun transaction sound => (transaction.hypothesesKept sound).1)
        (execute_path env (w.clock + e.elapsed) w.tickets w.store e.command) sound

/-- `H2` is first linked to evidence 1 as supporting, and then rejected with evidence 1 as
the reason: its one link still says `supports`. -/
def trafficReclassified : List Event :=
  paymentsOpened ++
  [next (.requestInvestigation 0 "provider" "model" [] {}),
   next (.claim 0 "investigator" 600),
   next (.recordStep 0 "investigator" { kind := .context, iteration := 0, evidenceIds := [1, 2] }),
   next (.applyHypothesisUpdates 0 "investigator" 1 "call-1"
     ⟨[{ trafficRejected [] with status := none, supportingEvidenceIds := [1] }]⟩),
   next (.applyHypothesisUpdates 0 "investigator" 2 "call-2" ⟨[trafficRejected [1]]⟩)]

theorem not_verdicts_are_backed :
    ¬ ∀ (env : Env) (clock : Time) (events : List Event),
      VerdictsBacked (runFrom env clock events).store := by
  intro backed
  have links : (runFrom paymentsEnv 0 trafficReclassified).store.investigation.links.map
      (fun l => (l.hypothesisId, l.evidenceId, l.relation)) = [(0, 1, .supports)] := by
    decide +kernel
  have status : ((runFrom paymentsEnv 0 trafficReclassified).store.investigation.hypotheses.map
      (·.status)) = [.rejected] := by
    decide +kernel
  obtain ⟨row, found⟩ : ∃ row, (runFrom paymentsEnv 0
      trafficReclassified).store.investigation.hypotheses[0]? = some row ∧
        row.status = .rejected := by
    rw [← Option.map_eq_some_iff, ← List.getElem?_map, status]
    rfl
  obtain ⟨e, l, member, _, _, contradicts⟩ :=
    (backed paymentsEnv 0 trafficReclassified).backed.rejected 0 row found.1 found.2
  have listed := List.mem_map_of_mem (f := fun l : HypothesisEvidenceLinkRow =>
    (l.hypothesisId, l.evidenceId, l.relation)) member
  rw [links, List.mem_singleton, contradicts] at listed
  cases congrArg (fun link => link.2.2) listed

end IncidentTriage.Verified
