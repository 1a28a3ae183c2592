import IncidentTriage.Verified.Hypotheses

/-! # A batch and its updates one by one

A batch is checked and written from dictionaries that are loaded once.  They say what a fresh
load would after every update (`InStep`), so a loop over the batch and a loop that starts anew
for each update stay alike: the same hypotheses and links but for the times, and the same
answers (`Alike.applyUpdate`).
-/

namespace IncidentTriage.Verified

open IncidentTriage.Python IncidentTriage.Domain IncidentTriage.Incident

/-! ## The property -/

/-- An update in a batch of its own, with the time and the step it is recorded under. -/
structure SingleUpdate where
  now : Time
  iteration : Nat
  callId : String
  update : HypothesisUpdate

/-- The updates in batches of their own, and all that was applied and rejected. -/
def applySingly (s : Store) (id : Uuid) (owner : String) :
    List SingleUpdate → Except DomainError (HypothesisUpdateOutcome × Store)
  | [] => pure ({ applied := [], rejected := [] }, s)
  | single :: rest => do
    let (first, s) ← applyHypothesisUpdates single.now s id owner single.iteration single.callId
      { updates := [single.update] }
    let (others, s) ← applySingly s id owner rest
    pure ({ applied := first.applied ++ others.applied
            rejected := first.rejected ++ others.rejected }, s)

def untimedHypothesis (h : HypothesisRow) : HypothesisRow :=
  { h with createdAt := 0, updatedAt := 0 }

def untimedLink (l : HypothesisEvidenceLinkRow) : HypothesisEvidenceLinkRow :=
  { l with linkedAt := 0 }

/-- The hypotheses and the links of a store, without their times. -/
structure Untimed where
  hypotheses : List HypothesisRow
  links : List HypothesisEvidenceLinkRow

def untimed (s : Store) : Untimed where
  hypotheses := s.investigation.hypotheses.map untimedHypothesis
  links := s.investigation.links.map untimedLink

/-- The verdicts and the tables that an answer leaves, or its error. -/
def untimedAnswer (answer : Except DomainError (HypothesisUpdateOutcome × Store)) :
    Except DomainError (HypothesisUpdateOutcome × Untimed) :=
  answer.map (fun result => (result.1, untimed result.2))

/-! ## Writes without their times -/

theorem map_untimedLink_insertLink (now : Time) (h : Uuid) (relation : EvidenceRelation)
    (links : List HypothesisEvidenceLinkRow) (e : Uuid) :
    (insertLink now h relation links e).map untimedLink =
      insertLink 0 h relation (links.map untimedLink) e := by
  have same : (links.map untimedLink).any
      (fun l => l.hypothesisId == h && l.evidenceId == e) =
        links.any (fun l => l.hypothesisId == h && l.evidenceId == e) := by
    rw [List.any_map]
    rfl
  rw [insertLink, insertLink, same]
  split_ifs
  · rfl
  · rw [List.map_append]
    rfl

theorem map_untimedLink_insertLinks (now : Time) (h : Uuid) (relation : EvidenceRelation)
    (ids : List Uuid) (links : List HypothesisEvidenceLinkRow) :
    (ids.foldl (insertLink now h relation) links).map untimedLink =
      ids.foldl (insertLink 0 h relation) (links.map untimedLink) := by
  induction ids generalizing links with
  | nil => rfl
  | cons e ids ih => rw [List.foldl_cons, List.foldl_cons, ih, map_untimedLink_insertLink]

theorem map_untimedLink_linkEvidence (now : Time) (h : Uuid) (update : HypothesisUpdate)
    (links : List HypothesisEvidenceLinkRow) :
    (linkEvidence now h update links).map untimedLink =
      linkEvidence 0 h update (links.map untimedLink) := by
  simp only [linkEvidence, map_untimedLink_insertLinks]

theorem untimedHypothesis_updated (row : HypothesisRow) (now : Time) (update : HypothesisUpdate) :
    untimedHypothesis (row.updated now update) =
      (untimedHypothesis row).updated 0 update := rfl

theorem fields_of_untimed {a b : HypothesisRow}
    (same : untimedHypothesis a = untimedHypothesis b) :
    a.investigationId = b.investigationId ∧ a.key = b.key ∧ a.status = b.status ∧
      a.causeCategory = b.causeCategory ∧ a.component = b.component := by
  rw [untimedHypothesis, untimedHypothesis, HypothesisRow.mk.injEq] at same
  obtain ⟨investigationId, key, -, status, -, -, causeCategory, component, -⟩ := same
  exact ⟨investigationId, key, status, causeCategory, component⟩

theorem linked_untimed {links : List HypothesisEvidenceLinkRow} {h e : Uuid}
    {relation : EvidenceRelation} :
    Linked (links.map untimedLink) h e relation ↔ Linked links h e relation := by
  constructor
  · rintro ⟨_, member, shape⟩
    obtain ⟨l, listed, rfl⟩ := List.mem_map.mp member
    exact ⟨l, listed, shape⟩
  · rintro ⟨l, listed, shape⟩
    exact ⟨untimedLink l, List.mem_map.mpr ⟨l, listed, rfl⟩, shape⟩

/-- An update is checked against the status and the fixed fields of a hypothesis, and against
whether it has evidence on either side. -/
theorem checkHypothesisUpdate_congr {update : HypothesisUpdate} {a b : HypothesisSnapshot}
    {accessible : List Uuid} (status : a.status = b.status)
    (causeCategory : a.causeCategory = b.causeCategory) (component : a.component = b.component)
    (supporting : a.supporting = [] ↔ b.supporting = [])
    (contradicting : a.contradicting = [] ↔ b.contradicting = []) :
    checkHypothesisUpdate update (some a) accessible =
      checkHypothesisUpdate update (some b) accessible := by
  simp only [checkHypothesisUpdate, shapeProblems, status, causeCategory, component,
    Option.map_some, Option.getD_some, List.append_eq_nil_iff, supporting, contradicting]

/-! ## Loops that stay alike -/

/-- Two loops over updates of one investigation, each in step with its store, and the stores
the same but for the times. -/
structure Alike (id : Uuid) (p q : UpdateProgress) : Prop where
  left : InStep id p
  right : InStep id q
  same : untimed p.store = untimed q.store

section
variable {id : Uuid} {p q : UpdateProgress}

theorem Alike.symm (alike : Alike id p q) : Alike id q p :=
  ⟨alike.right, alike.left, alike.same.symm⟩

/-- A hypothesis of the one store stands in the other, but for its times. -/
theorem hypothesisAt_of_untimed {s s' : Store} (same : untimed s = untimed s') {key : String}
    {h : Uuid} {row : HypothesisRow} (at_ : HypothesisAt s id key h row) :
    ∃ row', HypothesisAt s' id key h row' ∧ untimedHypothesis row' = untimedHypothesis row := by
  have rows := congrArg (fun t : Untimed => t.hypotheses[h]?) same
  simp only [untimed, List.getElem?_map, at_.found, Option.map_some] at rows
  obtain ⟨row', found, alike⟩ := Option.map_eq_some_iff.mp rows.symm
  obtain ⟨investigationId, keyed, -⟩ := fields_of_untimed alike
  exact ⟨row', ⟨found, investigationId.trans at_.investigationId, keyed.trans at_.key⟩, alike⟩

theorem Alike.lookup_of_some (alike : Alike id p q) {key : String} {h : Uuid}
    (listed : List.lookup key p.hypotheses = some h) :
    List.lookup key q.hypotheses = some h := by
  obtain ⟨row, at_⟩ := alike.left.known key h listed
  obtain ⟨row', at', -⟩ := hypothesisAt_of_untimed alike.same at_
  exact alike.right.complete key h row' at'

theorem Alike.lookup_eq (alike : Alike id p q) (key : String) :
    List.lookup key p.hypotheses = List.lookup key q.hypotheses := by
  cases listed : List.lookup key p.hypotheses with
  | some h => exact (alike.lookup_of_some listed).symm
  | none =>
    cases listed' : List.lookup key q.hypotheses with
    | none => rfl
    | some h =>
      rw [alike.symm.lookup_of_some listed'] at listed
      cases listed

theorem linkedAs_eq_nil_of_untimed {s s' : Store} (same : untimed s = untimed s') (h : Uuid)
    (relation : EvidenceRelation) : linkedAs s h relation = [] ↔ linkedAs s' h relation = [] := by
  have links : s.investigation.links.map untimedLink = s'.investigation.links.map untimedLink :=
    congrArg Untimed.links same
  have linked : ∀ e, e ∈ linkedAs s h relation ↔ e ∈ linkedAs s' h relation := by
    intro e
    rw [mem_linkedAs, mem_linkedAs, ← linked_untimed, links, linked_untimed]
  simp only [List.eq_nil_iff_forall_not_mem, linked]

/-- Both loops find the same problems with an update. -/
theorem Alike.problems_eq (alike : Alike id p q) (update : HypothesisUpdate)
    (accessible : List Uuid) :
    checkHypothesisUpdate update (List.lookup update.key p.snapshots) accessible =
      checkHypothesisUpdate update (List.lookup update.key q.snapshots) accessible := by
  cases listed : List.lookup update.key p.hypotheses with
  | none =>
    rw [alike.left.absent update.key listed,
      alike.right.absent update.key (alike.lookup_eq update.key ▸ listed)]
  | some h =>
    obtain ⟨row, at_⟩ := alike.left.known update.key h listed
    obtain ⟨row', at', same⟩ := hypothesisAt_of_untimed alike.same at_
    rw [alike.left.snapshots update.key h row at_, alike.right.snapshots update.key h row' at']
    obtain ⟨-, -, status, causeCategory, component⟩ := fields_of_untimed same
    exact checkHypothesisUpdate_congr status.symm causeCategory.symm component.symm
      (linkedAs_eq_nil_of_untimed alike.same h .supports)
      (linkedAs_eq_nil_of_untimed alike.same h .contradicts)

/-- What an update adds to the report, and that both loops stay alike. -/
structure UpdatesAlike (id : Uuid) (p q p' q' : UpdateProgress) : Prop where
  alike : Alike id p' q'
  applied : ∃ new, p'.applied = p.applied ++ new ∧ q'.applied = q.applied ++ new
  rejected : ∃ new, p'.rejected = p.rejected ++ new ∧ q'.rejected = q.rejected ++ new

theorem Alike.applyUpdate (alike : Alike id p q) (now now' : Time) (accessible : List Uuid)
    (update : HypothesisUpdate) :
    UpdatesAlike id p q (applyUpdate now id accessible p update)
      (applyUpdate now' id accessible q update) := by
  have left : InStep id (Incident.applyUpdate now id accessible p update) :=
    alike.left.applyUpdate accessible update
  have right : InStep id (Incident.applyUpdate now' id accessible q update) :=
    alike.right.applyUpdate accessible update
  have problems := alike.problems_eq update accessible
  have hypotheses : p.store.investigation.hypotheses.map untimedHypothesis =
      q.store.investigation.hypotheses.map untimedHypothesis :=
    congrArg Untimed.hypotheses alike.same
  have links : p.store.investigation.links.map untimedLink =
      q.store.investigation.links.map untimedLink := congrArg Untimed.links alike.same
  by_cases refused :
      checkHypothesisUpdate update (List.lookup update.key q.snapshots) accessible ≠ []
  · simp only [Incident.applyUpdate, problems, if_pos refused] at left right ⊢
    exact ⟨⟨left, right, alike.same⟩, ⟨[], by simp, by simp⟩, ⟨_, rfl, rfl⟩⟩
  · cases listed : List.lookup update.key q.hypotheses with
    | none =>
      have listed' := (alike.lookup_eq update.key).trans listed
      simp only [Incident.applyUpdate, problems, if_neg refused, listed, listed', writeHypothesis,
        Option.bind_none] at left right ⊢
      have length : p.store.investigation.hypotheses.length =
          q.store.investigation.hypotheses.length := by
        simpa using congrArg List.length hypotheses
      refine ⟨⟨left, right, ?_⟩, ⟨_, rfl, rfl⟩, ⟨[], by simp, by simp⟩⟩
      simp only [untimed, List.map_append, hypotheses, map_untimedLink_linkEvidence, links, length]
      rfl
    | some h =>
      have listed' := (alike.lookup_eq update.key).trans listed
      obtain ⟨row, at_⟩ := alike.left.known update.key h listed'
      obtain ⟨row', at', same⟩ := hypothesisAt_of_untimed alike.same at_
      simp only [Incident.applyUpdate, problems, if_neg refused, listed, listed', writeHypothesis,
        Option.bind_some, at_.found, at'.found, Option.map_some] at left right ⊢
      refine ⟨⟨left, right, ?_⟩, ⟨_, rfl, ?_⟩, ⟨[], by simp, by simp⟩⟩
      · simp only [untimed, List.map_set, hypotheses, map_untimedLink_linkEvidence, links,
          untimedHypothesis_updated, same]
      · have updated : untimedHypothesis (row'.updated now' update) =
            untimedHypothesis (row.updated now update) := by
          rw [untimedHypothesis_updated, untimedHypothesis_updated, same]
        obtain ⟨-, -, status, -⟩ := fields_of_untimed same
        obtain ⟨-, -, toStatus, causeCategory, component⟩ := fields_of_untimed updated
        rw [status, toStatus, causeCategory, component]

end

/-! ## The command -/

/-- The row of the investigation after a loop, with what it says of it. -/
def updatedRow (now : Time) (row : InvestigationRow) (p : UpdateProgress) : InvestigationRow :=
  { row with
    lastAction := some ("update_hypotheses: " ++ toString p.applied.length ++ " applied, " ++
      toString p.rejected.length ++ " rejected")
    updatedAt := now }

/-- The store after a loop, with its step and the row. -/
def batchStore (now : Time) (id : Uuid) (row : InvestigationRow) (iteration : Nat)
    (callId : String) (p : UpdateProgress) : Store :=
  putInvestigation (appendStep p.store now id .hypothesisUpdate iteration
    (.hypothesisUpdate p.applied p.rejected (p.snapshots.map (·.2))) (some callId) none).2 id
      (updatedRow now row p)

section
variable {s : Store} {id : Uuid} {owner : String} {row : InvestigationRow}

theorem applyHypothesisUpdates_of_fenced (held : fenced s id owner = .ok row) (now : Time)
    (iteration : Nat) (callId : String) (updates : List HypothesisUpdate) :
    applyHypothesisUpdates now s id owner iteration callId { updates } =
      .ok ({ applied := (updateLoop now s id row updates).applied
             rejected := (updateLoop now s id row updates).rejected },
        batchStore now id row iteration callId (updateLoop now s id row updates)) := by
  rw [applyHypothesisUpdates, held]
  rfl

/-- A batch leaves the lease where it is. -/
theorem fenced_batchStore (held : fenced s id owner = .ok row) (now : Time) (iteration : Nat)
    (callId : String) (updates : List HypothesisUpdate) :
    fenced (batchStore now id row iteration callId (updateLoop now s id row updates)) id owner =
      .ok (updatedRow now row (updateLoop now s id row updates)) := by
  obtain ⟨found, holds⟩ := fenced_eq_ok.mp held
  have investigations : (updateLoop now s id row updates).store.investigation.investigations =
      s.investigation.investigations := by
    rw [updateLoop_frame]
  refine fenced_eq_ok.mpr ⟨?_, holds⟩
  calc (batchStore now id row iteration callId
          (updateLoop now s id row updates)).investigation.investigations[id]?
      = ((updateLoop now s id row updates).store.investigation.investigations.set id
          (updatedRow now row (updateLoop now s id row updates)))[id]? := rfl
    _ = (s.investigation.investigations.set id
          (updatedRow now row (updateLoop now s id row updates)))[id]? := by rw [investigations]
    _ = some (updatedRow now row (updateLoop now s id row updates)) :=
      (Table.get_put found).mpr (.inl ⟨rfl, rfl⟩)

/-- The step of a batch shows no evidence, so what may be cited stays the same. -/
theorem accessibleEvidence_batchStore (now : Time) (iteration : Nat) (callId : String)
    (updates : List HypothesisUpdate) :
    accessibleEvidence (batchStore now id row iteration callId (updateLoop now s id row updates)) id
        (updatedRow now row (updateLoop now s id row updates)) =
      accessibleEvidence s id row := by
  have steps : (updateLoop now s id row updates).store.investigation.steps =
      s.investigation.steps := by
    rw [updateLoop_frame]
  have alert : (updateLoop now s id row updates).store.alert = s.alert := by
    rw [updateLoop_frame]
  have shown : shownEvidence (batchStore now id row iteration callId
      (updateLoop now s id row updates)) id = shownEvidence s id := by
    simp only [shownEvidence, batchStore, putInvestigation, appendStep, steps, List.filter_append]
    simp [newStep, showsEvidence]
  have registered : isRegistered (batchStore now id row iteration callId
      (updateLoop now s id row updates)) row.incidentId = isRegistered s row.incidentId := by
    funext e
    simp only [isRegistered, batchStore, putInvestigation, appendStep, alert]
  rw [accessibleEvidence, accessibleEvidence, shown]
  exact congrArg (fun known => (shownEvidence s id).filter known) registered

/-! ## Whole batches -/

/-- The updates one by one answer what a loop that stays alike goes on to report. -/
theorem applySingly_of_alike {accessible : List Uuid} {p : UpdateProgress} (now : Time)
    (singles : List SingleUpdate) (alike : Alike id p (startProgress s id))
    (held : fenced s id owner = .ok row) (cited : accessibleEvidence s id row = accessible) :
    ∃ outcome s', applySingly s id owner singles = .ok (outcome, s') ∧
      let last := (singles.map (·.update)).foldl (applyUpdate now id accessible) p
      last.applied = p.applied ++ outcome.applied ∧
        last.rejected = p.rejected ++ outcome.rejected ∧ untimed last.store = untimed s' := by
  induction singles generalizing s row p with
  | nil => exact ⟨_, s, rfl, by simp, by simp, alike.same⟩
  | cons single singles ih =>
    have once := alike.applyUpdate now single.now accessible single.update
    have loop : updateLoop single.now s id row [single.update] =
        applyUpdate single.now id accessible (startProgress s id) single.update := by
      rw [updateLoop, cited]
      rfl
    have applied := applyHypothesisUpdates_of_fenced held single.now single.iteration single.callId
      [single.update]
    have held' := fenced_batchStore held single.now single.iteration single.callId [single.update]
    have cited' := (accessibleEvidence_batchStore single.now single.iteration single.callId
      [single.update]).trans cited
    rw [loop] at applied held' cited'
    obtain ⟨next, alikeApplied, reported⟩ := once.applied
    obtain ⟨nextRejected, alikeRejected, reportedRejected⟩ := once.rejected
    have unique : KeysUnique (batchStore single.now id row single.iteration single.callId
        (Incident.applyUpdate single.now id accessible (startProgress s id) single.update)) :=
      once.alike.right.unique.of_same rfl
    have fresh : Alike id (applyUpdate now id accessible p single.update) (startProgress
        (batchStore single.now id row single.iteration single.callId
          (applyUpdate single.now id accessible (startProgress s id) single.update)) id) :=
      ⟨once.alike.left, inStep_startProgress unique id, once.alike.same⟩
    obtain ⟨others, s', rest, restApplied, restRejected, same⟩ := ih fresh held' cited'
    -- a loop that starts anew reports its own updates alone
    have first : (startProgress s id).applied = [] ∧ (startProgress s id).rejected = [] :=
      ⟨rfl, rfl⟩
    rw [first.1, List.nil_append] at reported
    rw [first.2, List.nil_append] at reportedRejected
    refine ⟨{ applied := next ++ others.applied, rejected := nextRejected ++ others.rejected }, s',
      ?_, ?_, ?_, same⟩
    · simp only [applySingly, applied, rest, reported, reportedRejected, bind, Except.bind, pure,
        Except.pure]
    · rw [List.map_cons, List.foldl_cons, restApplied, alikeApplied, List.append_assoc]
    · rw [List.map_cons, List.foldl_cons, restRejected, alikeRejected, List.append_assoc]

end

/-- An update that is rejected, in a batch of its own, leaves every hypothesis and every link. -/
theorem rejected_keeps {s s' : Store} {id : Uuid} {owner : String} {now : Time} {iteration : Nat}
    {callId : String} {update : HypothesisUpdate} {outcome : HypothesisUpdateOutcome}
    (done : applyHypothesisUpdates now s id owner iteration callId { updates := [update] } =
      .ok (outcome, s')) (rejected : outcome.rejected ≠ []) :
    s'.investigation.hypotheses = s.investigation.hypotheses ∧
      s'.investigation.links = s.investigation.links := by
  cases held : fenced s id owner with
  | error error =>
    rw [applyHypothesisUpdates, held] at done
    cases done
  | ok row =>
    rw [applyHypothesisUpdates_of_fenced held] at done
    obtain ⟨rfl, rfl⟩ := Prod.mk.inj (Except.ok.inj done)
    have loop : updateLoop now s id row [update] =
        applyUpdate now id (accessibleEvidence s id row) (startProgress s id) update := rfl
    simp only [loop, applyUpdate] at rejected ⊢
    split_ifs with refused
    · exact ⟨rfl, rfl⟩
    · rw [if_neg refused] at rejected
      exact absurd rfl rejected

/-- A batch answers what its updates answer one by one, and leaves the same hypotheses and
links but for the times; and a rejected update leaves all of them. -/
theorem batching_changes_nothing {s : Store} (unique : KeysUnique s) (id : Uuid) (owner : String)
    (now : Time) (iteration : Nat) (callId : String) (first : SingleUpdate)
    (others : List SingleUpdate) :
    untimedAnswer (applyHypothesisUpdates now s id owner iteration callId
        { updates := (first :: others).map (·.update) }) =
      untimedAnswer (applySingly s id owner (first :: others)) ∧
    ∀ (outcome : HypothesisUpdateOutcome) (s' : Store),
      applyHypothesisUpdates now s id owner iteration callId { updates := [first.update] } =
          .ok (outcome, s') →
        outcome.rejected ≠ [] → s'.investigation.hypotheses = s.investigation.hypotheses ∧
          s'.investigation.links = s.investigation.links := by
  refine ⟨?_, fun outcome s' done rejected => rejected_keeps done rejected⟩
  cases held : fenced s id owner with
  | error error =>
    simp only [applySingly, applyHypothesisUpdates, held, bind, Except.bind]
  | ok row =>
    have started := inStep_startProgress unique id
    obtain ⟨outcome, s', singly, applied, rejected, same⟩ :=
      applySingly_of_alike now (first :: others) ⟨started, started, rfl⟩ held rfl
    rw [applyHypothesisUpdates_of_fenced held, singly]
    have none : (startProgress s id).applied = [] ∧ (startProgress s id).rejected = [] :=
      ⟨rfl, rfl⟩
    rw [none.1, List.nil_append] at applied
    rw [none.2, List.nil_append] at rejected
    obtain ⟨allApplied, allRejected⟩ := outcome
    have verdicts : (updateLoop now s id row ((first :: others).map (·.update))).applied =
        allApplied ∧ (updateLoop now s id row ((first :: others).map (·.update))).rejected =
          allRejected := ⟨applied, rejected⟩
    rw [verdicts.1, verdicts.2]
    exact congrArg (fun tables => Except.ok
      (({ applied := allApplied, rejected := allRejected } : HypothesisUpdateOutcome), tables)) same

def heldInvestigation : InvestigationRow :=
  { newInvestigation 0 0 1 "claude" "model" [] {} with
    status := .investigating
    leaseOwner := some "worker" }

/-- An investigation with one hypothesis. -/
def oneHypothesis : Store :=
  { investigation :=
    { investigations := [heldInvestigation]
      hypotheses := [newHypothesis 0 0
        { key := "H1", description := some "a bad deployment", causeCategory := some .deployment
          component := some "cart", rationale := "it began then" }] } }

theorem keysUnique_oneHypothesis : KeysUnique oneHypothesis := by
  intro id key h h' row row' first second
  have inside : h < 1 := Table.lt_of_row first.found
  have inside' : h' < 1 := Table.lt_of_row second.found
  exact (Nat.lt_one_iff.mp inside).trans (Nat.lt_one_iff.mp inside').symm

/-- A hypothesis is created, and weakened under the key it was created with. -/
def laterUpdates : List SingleUpdate :=
  [{ now := 2, iteration := 1, callId := "b"
     update :=
      { key := "H2", description := some "a full disk", causeCategory := some .infrastructure
        component := some "cart", rationale := "it is full" } },
   { now := 3, iteration := 2, callId := "c"
     update := { key := "H2", status := some .weakened, rationale := "it was full before" } }]

theorem batching_changes_nothing_three :
    untimedAnswer (applyHypothesisUpdates 1 oneHypothesis 0 "worker" 1 "a"
        { updates :=
          { key := "H1", status := some .weakened, rationale := "no deployment" } ::
            laterUpdates.map (·.update) }) =
      untimedAnswer (applySingly oneHypothesis 0 "worker"
        ({ now := 1, iteration := 1, callId := "a"
           update := { key := "H1", status := some .weakened, rationale := "no deployment" } } ::
          laterUpdates)) :=
  (batching_changes_nothing keysUnique_oneHypothesis 0 "worker" 1 1 "a"
    { now := 1, iteration := 1, callId := "a"
      update := { key := "H1", status := some .weakened, rationale := "no deployment" } }
    laterUpdates).1

end IncidentTriage.Verified
