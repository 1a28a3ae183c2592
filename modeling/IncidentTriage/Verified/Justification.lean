import IncidentTriage.Verified.Hypotheses

/-! # Completed investigations stay justified

`JustifiedBy` is what an accepted conclusion leaves in the store.  Only an investigation
that is still `INVESTIGATING` is written to, so what is `Untouched` by a transaction stays
justified, and `completed_investigations_are_justified` says so of every run.
-/

namespace IncidentTriage.Verified

open IncidentTriage.Python IncidentTriage.Domain IncidentTriage.Incident

/-! ## Evidence an investigation may cite -/

/-- Shown to the investigation by its context or a tool call, and registered for its
incident. -/
theorem mem_accessibleEvidence {s : Store} {id e : Uuid} {row : InvestigationRow} :
    e ∈ accessibleEvidence s id row ↔
      (∃ step ∈ s.investigation.steps, step.investigationId = id ∧
        (step.kind = .context ∨ step.kind = .toolCall) ∧ e ∈ step.payload.evidenceIds) ∧
      ∃ r ∈ s.alert.evidenceRefs, r.incidentId = row.incidentId ∧ r.id = e := by
  simp only [accessibleEvidence, shownEvidence, isRegistered, showsEvidence, List.mem_filter,
    List.mem_flatMap, List.any_eq_true, Bool.and_eq_true, beq_iff_eq, List.contains_iff_mem,
    List.mem_cons, List.not_mem_nil, or_false]
  constructor
  · rintro ⟨⟨step, ⟨member, ofTrace, shows⟩, listed⟩, registered⟩
    exact ⟨⟨step, member, ofTrace, shows, listed⟩, registered⟩
  · rintro ⟨⟨step, member, ofTrace, shows, listed⟩, registered⟩
    exact ⟨⟨step, ⟨member, ofTrace, shows⟩, listed⟩, registered⟩

/-- Traces and registered evidence only grow. -/
structure EvidenceKept (s s' : Store) : Prop where
  steps : ∃ new, s'.investigation.steps = s.investigation.steps ++ new
  refs : ∃ new, s'.alert.evidenceRefs = s.alert.evidenceRefs ++ new

theorem EvidenceKept.of_same {s s' : Store}
    (steps : s'.investigation.steps = s.investigation.steps)
    (refs : s'.alert.evidenceRefs = s.alert.evidenceRefs) : EvidenceKept s s' :=
  ⟨⟨[], by rw [steps, List.append_nil]⟩, ⟨[], by rw [refs, List.append_nil]⟩⟩

theorem EvidenceKept.accessible {s s' : Store} (kept : EvidenceKept s s') {id e : Uuid}
    {row row' : InvestigationRow} (same : row'.incidentId = row.incidentId)
    (accessible : e ∈ accessibleEvidence s id row) : e ∈ accessibleEvidence s' id row' := by
  obtain ⟨new, steps⟩ := kept.steps
  obtain ⟨more, refs⟩ := kept.refs
  obtain ⟨⟨step, member, shown⟩, r, registered, named⟩ := mem_accessibleEvidence.mp accessible
  rw [mem_accessibleEvidence, steps, refs, same]
  exact ⟨⟨step, List.mem_append_left _ member, shown⟩, r, List.mem_append_left _ registered, named⟩

/-- The type of evidence that is registered does not change. -/
theorem EvidenceKept.evidenceTypes {s s' : Store} (kept : EvidenceKept s s') {id e : Uuid}
    {row : InvestigationRow} (accessible : e ∈ accessibleEvidence s id row) :
    evidenceTypes s' row.incidentId e = evidenceTypes s row.incidentId e := by
  obtain ⟨more, refs⟩ := kept.refs
  obtain ⟨_, r, registered, ofIncident, named⟩ := mem_accessibleEvidence.mp accessible
  have present : (s.alert.evidenceRefs.find? (fun r =>
      r.incidentId == row.incidentId && r.id == e)).isSome = true := by
    rw [List.find?_isSome]
    exact ⟨r, registered, by simp [ofIncident, named]⟩
  obtain ⟨first, found⟩ := Option.isSome_iff_exists.mp present
  simp only [Incident.evidenceTypes, refs, List.find?_append, found, Option.some_or]

/-! ## What a conclusion leaves -/

/-- The stopping criteria, read off the stored links and the report. -/
structure CriteriaHold (env : Env) (s : Store) (id incidentId h : Uuid) (report : RcaReport) :
    Prop where
  items : env.criteria.minSupportingEvidence ≤ (linkedAs s h .supports).dedup.length
  types : env.criteria.minSupportingEvidenceTypes ≤
    (supportedTypes (evidenceTypes s incidentId) (linkedAs s h .supports).dedup).length
  outnumbered : (linkedAs s h .contradicts).dedup ≠ [] →
    (linkedAs s h .contradicts).dedup.length < (linkedAs s h .supports).dedup.length
  explained : ∀ e ∈ linkedAs s h .contradicts,
    e ∈ report.rca.contradictingEvidence.map (·.evidenceId)
  considered : env.criteria.minHypothesesConsidered ≤
    s.investigation.hypotheses.countP (fun h => h.investigationId == id)
  confident : env.criteria.minConfidence.value ≤ report.confidence.value

/-- Hypothesis `h` is selected, and `report` is the one report that says so. -/
structure JustifiedBy (env : Env) (s : Store) (id : Uuid) (row : InvestigationRow) (h : Uuid)
    (selected : HypothesisRow) (report : RcaReportRow) : Prop where
  found : s.investigation.hypotheses[h]? = some selected
  investigationId : selected.investigationId = id
  status : selected.status = .selected
  named : report.rootCauseHypothesisId = h
  single : s.investigation.rcaReports.filter (fun r => r.investigationId == id) = [report]
  settled : ∀ (h' : Uuid) (other : HypothesisRow),
    s.investigation.hypotheses[h']? = some other → other.investigationId = id → h' ≠ h →
      other.status = .weakened ∨ other.status = .rejected
  criteria : CriteriaHold env s id row.incidentId h report.report
  cited : ∀ e ∈ report.report.rca.evidenceIds, e ∈ accessibleEvidence s id row

/-- Evidence is linked to hypotheses of investigations that were shown it. -/
def LinksGrounded (s : Store) : Prop :=
  ∀ l ∈ s.investigation.links, ∃ hypothesis row,
    s.investigation.hypotheses[l.hypothesisId]? = some hypothesis ∧
    s.investigation.investigations[hypothesis.investigationId]? = some row ∧
    l.evidenceId ∈ accessibleEvidence s hypothesis.investigationId row

def IsCompleted (s : Store) (id : Uuid) : Prop :=
  ∃ row, s.investigation.investigations[id]? = some row ∧ row.status = .completed

structure InvestigationsJustified (env : Env) (s : Store) : Prop where
  grounded : LinksGrounded s
  selected : ∀ (h : Uuid) (row : HypothesisRow), s.investigation.hypotheses[h]? = some row →
    row.status = .selected → IsCompleted s row.investigationId
  reported : ∀ r ∈ s.investigation.rcaReports, IsCompleted s r.investigationId
  completed : ∀ (id : Uuid) (row : InvestigationRow),
    s.investigation.investigations[id]? = some row → row.status = .completed →
      ∃ h selected report, JustifiedBy env s id row h selected report

/-! ## What a transaction leaves alone -/

/-- The transaction writes nothing of investigation `id` but its row and its trace. -/
structure Untouched (s s' : Store) (id : Uuid) : Prop where
  hypotheses : ∀ (h : Uuid) (row : HypothesisRow), row.investigationId = id →
    (s'.investigation.hypotheses[h]? = some row ↔ s.investigation.hypotheses[h]? = some row)
  considered : s.investigation.hypotheses.countP (fun h => h.investigationId == id) ≤
    s'.investigation.hypotheses.countP (fun h => h.investigationId == id)
  links : ∀ (h : Uuid) (row : HypothesisRow), s.investigation.hypotheses[h]? = some row →
    row.investigationId = id → ∀ relation, linkedAs s' h relation = linkedAs s h relation
  reports : s'.investigation.rcaReports.filter (fun r => r.investigationId == id) =
    s.investigation.rcaReports.filter (fun r => r.investigationId == id)

theorem linkedAs_of_links {s s' : Store} (links : s'.investigation.links = s.investigation.links)
    (h : Uuid) (relation : EvidenceRelation) : linkedAs s' h relation = linkedAs s h relation := by
  simp only [linkedAs, linksOf, links]

theorem Untouched.of_same {s s' : Store} (id : Uuid)
    (hypotheses : s'.investigation.hypotheses = s.investigation.hypotheses)
    (links : s'.investigation.links = s.investigation.links)
    (reports : s'.investigation.rcaReports = s.investigation.rcaReports) : Untouched s s' id where
  hypotheses := fun _ _ _ => by rw [hypotheses]
  considered := by rw [hypotheses]
  links := fun h _ _ _ relation => linkedAs_of_links links h relation
  reports := by rw [reports]

theorem CriteriaHold.kept {env : Env} {s s' : Store} {id h : Uuid} {row : InvestigationRow}
    {selected : HypothesisRow} {report : RcaReport} (untouched : Untouched s s' id)
    (evidence : EvidenceKept s s') (found : s.investigation.hypotheses[h]? = some selected)
    (ofInvestigation : selected.investigationId = id)
    (accessible : ∀ e ∈ linkedAs s h .supports, e ∈ accessibleEvidence s id row)
    (criteria : CriteriaHold env s id row.incidentId h report) :
    CriteriaHold env s' id row.incidentId h report := by
  have linked := untouched.links h selected found ofInvestigation
  have types : supportedTypes (evidenceTypes s' row.incidentId) (linkedAs s h .supports).dedup =
      supportedTypes (evidenceTypes s row.incidentId) (linkedAs s h .supports).dedup := by
    refine congrArg List.dedup (List.filterMap_congr fun e member => ?_)
    exact evidence.evidenceTypes (accessible e (List.mem_dedup.mp member))
  constructor
  case items => rw [linked]; exact criteria.items
  case types => rw [linked, types]; exact criteria.types
  case outnumbered => rw [linked, linked]; exact criteria.outnumbered
  case explained => rw [linked]; exact criteria.explained
  case considered => exact criteria.considered.trans untouched.considered
  case confident => exact criteria.confident

theorem LinksGrounded.accessible {s : Store} (grounded : LinksGrounded s) {id h e : Uuid}
    {row : InvestigationRow} {hypothesis : HypothesisRow} {relation : EvidenceRelation}
    (found : s.investigation.hypotheses[h]? = some hypothesis)
    (ofInvestigation : hypothesis.investigationId = id)
    (present : s.investigation.investigations[id]? = some row)
    (linked : e ∈ linkedAs s h relation) : e ∈ accessibleEvidence s id row := by
  obtain ⟨l, member, rfl, rfl, _⟩ := mem_linkedAs.mp linked
  obtain ⟨hypothesis', row', found', present', accessible⟩ := grounded l member
  obtain rfl := Option.some.inj (found.symm.trans found')
  rw [ofInvestigation] at present' accessible
  obtain rfl := Option.some.inj (present.symm.trans present')
  exact accessible

theorem JustifiedBy.kept {env : Env} {s s' : Store} {id h : Uuid} {row row' : InvestigationRow}
    {selected : HypothesisRow} {report : RcaReportRow}
    (justified : JustifiedBy env s id row h selected report) (grounded : LinksGrounded s)
    (present : s.investigation.investigations[id]? = some row)
    (untouched : Untouched s s' id) (evidence : EvidenceKept s s')
    (same : row'.incidentId = row.incidentId) :
    JustifiedBy env s' id row' h selected report where
  found := (untouched.hypotheses h selected justified.investigationId).mpr justified.found
  investigationId := justified.investigationId
  status := justified.status
  named := justified.named
  single := untouched.reports.trans justified.single
  settled := fun h' other found ofInvestigation different =>
    justified.settled h' other ((untouched.hypotheses h' other ofInvestigation).mp found)
      ofInvestigation different
  criteria := by
    rw [same]
    exact justified.criteria.kept untouched evidence justified.found justified.investigationId
      fun e linked => grounded.accessible justified.found justified.investigationId present linked
  cited := fun e member => evidence.accessible same (justified.cited e member)

/-! ## What a batch writes -/

/-- A batch writes hypotheses and links of its own investigation only, and links evidence the
investigation may cite. -/
structure BatchWrote (s : Store) (id : Uuid) (accessible : List Uuid) (s' : Store) : Prop where
  hypotheses : ∀ (h : Uuid) (row : HypothesisRow), s'.investigation.hypotheses[h]? = some row →
    s.investigation.hypotheses[h]? = some row ∨
      (row.investigationId = id ∧ (row.status = .selected →
        s.investigation.hypotheses[h]? = some row))
  links : ∃ new, s'.investigation.links = s.investigation.links ++ new ∧ ∀ l ∈ new,
    (∃ row, s'.investigation.hypotheses[l.hypothesisId]? = some row ∧ row.investigationId = id) ∧
      l.evidenceId ∈ accessible

theorem BatchWrote.refl (s : Store) (id : Uuid) (accessible : List Uuid) :
    BatchWrote s id accessible s :=
  ⟨fun _ _ found => .inl found, [], by simp, fun _ member => absurd member List.not_mem_nil⟩

/-- The links an accepted update adds are to evidence it cites. -/
theorem linkEvidence_cited (now : Time) (h : Uuid) (update : HypothesisUpdate)
    (links : List HypothesisEvidenceLinkRow) :
    ∃ new, linkEvidence now h update links = links ++ new ∧ ∀ l ∈ new, l.hypothesisId = h ∧
      l.evidenceId ∈ update.supportingEvidenceIds ++ update.contradictingEvidenceIds := by
  have inserted : ∀ (relation : EvidenceRelation) (ids : List Uuid)
      (links : List HypothesisEvidenceLinkRow),
      ∃ new, ids.foldl (insertLink now h relation) links = links ++ new ∧
        ∀ l ∈ new, l.hypothesisId = h ∧ l.evidenceId ∈ ids := by
    intro relation ids
    induction ids with
    | nil => exact fun links => ⟨[], by simp, by simp⟩
    | cons e ids ih =>
      intro links
      have first : ∃ new, insertLink now h relation links e = links ++ new ∧
          ∀ l ∈ new, l.hypothesisId = h ∧ l.evidenceId = e := by
        unfold insertLink
        split_ifs
        · exact ⟨[], by simp, by simp⟩
        · exact ⟨_, rfl, by simp⟩
      obtain ⟨one, insertedOne, ofOne⟩ := first
      obtain ⟨rest, insertedRest, ofRest⟩ := ih (links ++ one)
      refine ⟨one ++ rest, by rw [List.foldl_cons, insertedOne, insertedRest, List.append_assoc],
        fun l member => ?_⟩
      rcases List.mem_append.mp member with early | late
      · exact ⟨(ofOne l early).1, List.mem_cons.mpr (.inl (ofOne l early).2)⟩
      · exact ⟨(ofRest l late).1, List.mem_cons.mpr (.inr (ofRest l late).2)⟩
  obtain ⟨supporting, first, ofFirst⟩ := inserted .supports update.supportingEvidenceIds links
  obtain ⟨contradicting, second, ofSecond⟩ :=
    inserted .contradicts update.contradictingEvidenceIds (links ++ supporting)
  refine ⟨supporting ++ contradicting, ?_, fun l member => ?_⟩
  · simp only [linkEvidence, first, second, List.append_assoc]
  · rcases List.mem_append.mp member with early | late
    · exact ⟨(ofFirst l early).1, List.mem_append_left _ (ofFirst l early).2⟩
    · exact ⟨(ofSecond l late).1, List.mem_append_right _ (ofSecond l late).2⟩

/-- The hypothesis `h` of the investigation is written, and linked to evidence it may cite. -/
theorem BatchWrote.write {s s₁ s₂ : Store} {id h : Uuid} {accessible : List Uuid}
    {row : HypothesisRow} (wrote : BatchWrote s id accessible s₁) (kept : HypothesesKept s₁ s₂)
    (others : ∀ (h' : Uuid) (row' : HypothesisRow), h' ≠ h →
      s₂.investigation.hypotheses[h']? = some row' → s₁.investigation.hypotheses[h']? = some row')
    (written : s₂.investigation.hypotheses[h]? = some row) (ofInvestigation : row.investigationId = id)
    (unselected : row.status ≠ .selected)
    {new : List HypothesisEvidenceLinkRow}
    (links : s₂.investigation.links = s₁.investigation.links ++ new)
    (cited : ∀ l ∈ new, l.hypothesisId = h ∧ l.evidenceId ∈ accessible) :
    BatchWrote s id accessible s₂ := by
  obtain ⟨before, linked, ofBefore⟩ := wrote.links
  refine ⟨fun h' row' found => ?_, before ++ new, ?_, fun l member => ?_⟩
  · by_cases here : h' = h
    · subst here
      obtain rfl := Option.some.inj (found.symm.trans written)
      exact .inr ⟨ofInvestigation, fun selected => absurd selected unselected⟩
    · exact wrote.hypotheses h' row' (others h' row' here found)
  · rw [links, linked, List.append_assoc]
  · rcases List.mem_append.mp member with early | late
    · obtain ⟨⟨r, found, ofId⟩, accessible⟩ := ofBefore l early
      obtain ⟨r', found', moved⟩ := kept.hypotheses l.hypothesisId r found
      exact ⟨⟨r', found', moved.investigationId.trans ofId⟩, accessible⟩
    · obtain ⟨ofHypothesis, accessible⟩ := cited l late
      exact ⟨⟨row, ofHypothesis ▸ written, ofInvestigation⟩, accessible⟩

theorem UpdateEffect.batchWrote {now : Time} {s : Store} {id : Uuid} {accessible : List Uuid}
    {update : HypothesisUpdate} {p p' : UpdateProgress}
    (effect : UpdateEffect now id accessible update p p')
    (wrote : BatchWrote s id accessible p.store) : BatchWrote s id accessible p'.store := by
  have kept := effect.kept
  have unselected : ∀ {before : HypothesisStatus}, before ≠ .selected →
      (update.status.map (·.toStatus)).getD before ≠ .selected := by
    intro before other
    cases update.status with
    | none => exact other
    | some given => exact SettableStatus.toStatus_ne_selected given
  cases effect with
  | refused problems store => rwa [store]
  | created a absent accepted hypotheses links =>
    obtain ⟨new, appended, cited⟩ := linkEvidence_cited now
      p.store.investigation.hypotheses.length update p.store.investigation.links
    have written : p'.store.investigation.hypotheses[p.store.investigation.hypotheses.length]? =
        some (newHypothesis now id update) := by
      rw [hypotheses]
      exact Table.get_insert.mpr (.inr ⟨rfl, rfl⟩)
    refine wrote.write kept ?_ written rfl (unselected (by decide)) (links.trans appended)
      fun l member => ⟨(cited l member).1, accepted.accessible _ (cited l member).2⟩
    intro h' row' other found
    rw [hypotheses] at found
    rcases Table.get_insert.mp found with old | ⟨same, _⟩
    · exact old
    · exact absurd same other
  | changed a h row at_ accepted hypotheses links =>
    obtain ⟨new, appended, cited⟩ :=
      linkEvidence_cited now h update p.store.investigation.links
    have frozen := notFrozen_of_accepted accepted
    have written : p'.store.investigation.hypotheses[h]? = some (row.updated now update) := by
      rw [hypotheses]
      exact (Table.get_put at_.found).mpr (.inl ⟨rfl, rfl⟩)
    refine wrote.write kept ?_ written at_.investigationId
      (unselected fun selected => frozen (.inr selected)) (links.trans appended)
      fun l member => ⟨(cited l member).1, accepted.accessible _ (cited l member).2⟩
    intro h' row' other found
    rw [hypotheses] at found
    rcases (Table.get_put at_.found).mp found with ⟨same, _⟩ | ⟨_, old⟩
    · exact absurd same other
    · exact old

theorem updateLoop_wrote {s : Store} (unique : KeysUnique s) (now : Time) (id : Uuid)
    (row : InvestigationRow) (updates : List HypothesisUpdate) :
    BatchWrote s id (accessibleEvidence s id row) (updateLoop now s id row updates).store :=
  updateLoop_invariant
    (P := fun p => BatchWrote s id (accessibleEvidence s id row) p.store) unique
    (.refl s id _) (fun _ effect wrote => effect.batchWrote wrote) updates

/-- What belongs to another investigation is untouched by a batch. -/
theorem BatchWrote.untouched {s s' : Store} {id id' : Uuid} {accessible : List Uuid}
    (wrote : BatchWrote s id accessible s') (kept : HypothesesKept s s') (other : id' ≠ id)
    (reports : s'.investigation.rcaReports = s.investigation.rcaReports) :
    Untouched s s' id' where
  hypotheses := by
    intro h row ofOther
    have back : ∀ {row' : HypothesisRow}, s'.investigation.hypotheses[h]? = some row' →
        row'.investigationId = id' → s.investigation.hypotheses[h]? = some row' := by
      intro row' found ofOther'
      rcases wrote.hypotheses h row' found with old | ⟨ofId, _⟩
      · exact old
      · exact absurd (ofOther'.symm.trans ofId) other
    constructor
    · exact fun found => back found ofOther
    · intro found
      obtain ⟨row', found', moved⟩ := kept.hypotheses h row found
      have same := back found' (moved.investigationId.trans ofOther)
      rw [found] at same
      rwa [Option.some.inj same]
  considered := kept.hypotheses.countP_le fun moved ofOther => by
    rw [beq_iff_eq] at ofOther ⊢
    exact moved.investigationId.trans ofOther
  links := by
    intro h row found ofOther relation
    obtain ⟨new, links, ofNew⟩ := wrote.links
    have none : new.filter (fun l => l.hypothesisId == h) = [] := by
      rw [List.filter_eq_nil_iff]
      intro l member ofHypothesis
      obtain ⟨⟨row', found', ofId⟩, _⟩ := ofNew l member
      rw [beq_iff_eq.mp ofHypothesis] at found'
      obtain ⟨row'', found'', moved⟩ := kept.hypotheses h row found
      obtain rfl := Option.some.inj (found'.symm.trans found'')
      exact other (ofOther.symm.trans (moved.investigationId.symm.trans ofId))
    simp only [linkedAs, linksOf, links, List.filter_append, none, List.append_nil]
  reports := by rw [reports]

/-! ## Transactions -/

/-- An investigation keeps its incident, and `COMPLETED` is for good. -/
structure InvestigationMoved (row row' : InvestigationRow) : Prop where
  incidentId : row'.incidentId = row.incidentId
  completed : row.status = .completed → row'.status = .completed

theorem InvestigationMoved.refl (row : InvestigationRow) : InvestigationMoved row row :=
  ⟨rfl, fun completed => completed⟩

theorem IsCompleted.kept {s s' : Store} {id : Uuid} (completed : IsCompleted s id)
    (evolves : Table.Evolves InvestigationMoved s.investigation.investigations
      s'.investigation.investigations) : IsCompleted s' id := by
  obtain ⟨row, found, status⟩ := completed
  obtain ⟨row', found', moved⟩ := evolves id row found
  exact ⟨row', found', moved.completed status⟩

/-- A hypothesis, a link, a report or a completed investigation of the new store is an old one
that still stands, or is accounted for. -/
theorem InvestigationsJustified.step {env : Env} {s s' : Store}
    (before : InvestigationsJustified env s) (kept : HypothesesKept s s')
    (evidence : EvidenceKept s s')
    (evolves : Table.Evolves InvestigationMoved s.investigation.investigations
      s'.investigation.investigations)
    {new : List HypothesisEvidenceLinkRow}
    (links : s'.investigation.links = s.investigation.links ++ new)
    (grounded : ∀ l ∈ new, ∃ hypothesis row,
      s'.investigation.hypotheses[l.hypothesisId]? = some hypothesis ∧
      s'.investigation.investigations[hypothesis.investigationId]? = some row ∧
      l.evidenceId ∈ accessibleEvidence s' hypothesis.investigationId row)
    (selected : ∀ (h : Uuid) (row : HypothesisRow), s'.investigation.hypotheses[h]? = some row →
      row.status = .selected →
        s.investigation.hypotheses[h]? = some row ∨ IsCompleted s' row.investigationId)
    (reported : ∀ r ∈ s'.investigation.rcaReports,
      r ∈ s.investigation.rcaReports ∨ IsCompleted s' r.investigationId)
    (completed : ∀ (id : Uuid) (row' : InvestigationRow),
      s'.investigation.investigations[id]? = some row' → row'.status = .completed →
        (∃ row, s.investigation.investigations[id]? = some row ∧ row.status = .completed ∧
          row'.incidentId = row.incidentId ∧ Untouched s s' id) ∨
        ∃ h selected report, JustifiedBy env s' id row' h selected report) :
    InvestigationsJustified env s' where
  grounded := by
    intro l member
    rw [links] at member
    rcases List.mem_append.mp member with old | added
    · obtain ⟨hypothesis, row, found, present, accessible⟩ := before.grounded l old
      obtain ⟨hypothesis', found', moved⟩ := kept.hypotheses _ hypothesis found
      obtain ⟨row', present', same⟩ := evolves _ row present
      refine ⟨hypothesis', row', found', moved.investigationId ▸ present', ?_⟩
      rw [moved.investigationId]
      exact evidence.accessible same.incidentId accessible
    · exact grounded l added
  selected := by
    intro h row found status
    rcases selected h row found status with old | done
    · exact (before.selected h row old status).kept evolves
    · exact done
  reported := by
    intro r member
    rcases reported r member with old | done
    · exact (before.reported r old).kept evolves
    · exact done
  completed := by
    intro id row' found status
    rcases completed id row' found status with ⟨row, old, completed, same, untouched⟩ | new
    · obtain ⟨h, selected, report, justified⟩ := before.completed id row old completed
      exact ⟨h, selected, report, justified.kept before.grounded old untouched evidence same⟩
    · exact new

/-- A transaction that writes no hypothesis, link or report and completes no investigation. -/
theorem InvestigationsJustified.of_same {env : Env} {s s' : Store}
    (before : InvestigationsJustified env s) (evidence : EvidenceKept s s')
    (evolves : Table.Evolves InvestigationMoved s.investigation.investigations
      s'.investigation.investigations)
    (hypotheses : s'.investigation.hypotheses = s.investigation.hypotheses)
    (links : s'.investigation.links = s.investigation.links)
    (reports : s'.investigation.rcaReports = s.investigation.rcaReports)
    (completed : ∀ (id : Uuid) (row' : InvestigationRow),
      s'.investigation.investigations[id]? = some row' → row'.status = .completed →
        ∃ row, s.investigation.investigations[id]? = some row ∧ row.status = .completed ∧
          row'.incidentId = row.incidentId) :
    InvestigationsJustified env s' := by
  refine before.step (.of_same hypotheses links) evidence evolves
    (links.trans (List.append_nil _).symm) (fun _ member => absurd member List.not_mem_nil)
    (fun h row found _ => .inl (hypotheses ▸ found)) (fun r member => .inl (reports ▸ member))
    fun id row' found status => .inl ?_
  obtain ⟨row, old, completed, same⟩ := completed id row' found status
  exact ⟨row, old, completed, same, .of_same id hypotheses links reports⟩

/-- The row of one investigation is rewritten; the others stay. -/
theorem completed_put {s s' : Store} {id : Uuid} {row row' : InvestigationRow}
    (found : s.investigation.investigations[id]? = some row)
    (same : SameInvestigation row row')
    (investigations : s'.investigation.investigations =
      s.investigation.investigations.set id row')
    (id' : Uuid) (row'' : InvestigationRow)
    (present : s'.investigation.investigations[id']? = some row'')
    (status : row''.status = .completed) :
    (∃ old, s.investigation.investigations[id']? = some old ∧ old.status = .completed ∧
      row''.incidentId = old.incidentId ∧ id' ≠ id) ∨
    (id' = id ∧ row'' = row' ∧ row'.status = .completed ∧ row''.incidentId = row.incidentId) := by
  rw [investigations] at present
  rcases (Table.get_put found).mp present with ⟨rfl, rfl⟩ | ⟨other, old⟩
  · exact .inr ⟨rfl, rfl, status, same.incidentId⟩
  · exact .inl ⟨row'', old, status, rfl, other⟩

/-- An open investigation's row is rewritten, and it stays short of `COMPLETED`. -/
theorem InvestigationsJustified.put {env : Env} {s s' : Store}
    (before : InvestigationsJustified env s) {id : Uuid} {row row' : InvestigationRow}
    (found : s.investigation.investigations[id]? = some row) (same : SameInvestigation row row')
    (status : row'.status = .completed ↔ row.status = .completed)
    {steps : List InvestigationStepRow}
    (tables : s'.investigation = { s.investigation with
      investigations := s.investigation.investigations.set id row'
      steps := s.investigation.steps ++ steps })
    (alert : s'.alert = s.alert) : InvestigationsJustified env s' := by
  have investigations : s'.investigation.investigations =
      s.investigation.investigations.set id row' := by rw [tables]
  refine before.of_same ⟨⟨steps, by rw [tables]⟩, ⟨[], by rw [alert, List.append_nil]⟩⟩ ?_
    (by rw [tables]) (by rw [tables]) (by rw [tables]) ?_
  · rw [investigations]
    exact Table.Evolves.put InvestigationMoved.refl found ⟨same.incidentId, status.mpr⟩
  · intro id' row'' present completed
    rcases completed_put found same investigations id' row'' present completed with
      ⟨old, existed, was, kept, _⟩ | ⟨rfl, rfl, completed, kept⟩
    · exact ⟨old, existed, was, kept⟩
    · exact ⟨row, found, status.mp completed, kept⟩

/-- The criteria of an accepted conclusion hold of what it stores. -/
theorem criteriaHold_of_met {env : Env} {s s' : Store} {id hypothesisId : Uuid}
    {row : InvestigationRow} {h : HypothesisRow} {result : FinalInvestigationResult}
    {report : RcaReport}
    (criteria : CriteriaMet result (snapshot s hypothesisId h) (snapshots s (hypothesisRows s id))
      (evidenceTypes s row.incidentId) env.criteria)
    (links : s'.investigation.links = s.investigation.links)
    (refs : s'.alert.evidenceRefs = s.alert.evidenceRefs)
    (considered : s.investigation.hypotheses.countP (fun h => h.investigationId == id) ≤
      s'.investigation.hypotheses.countP (fun h => h.investigationId == id))
    (rca : report.rca = result.rca) (confidence : report.confidence = result.confidence) :
    CriteriaHold env s' id row.incidentId hypothesisId report := by
  have linked := fun relation => linkedAs_of_links links hypothesisId relation
  have types : evidenceTypes s' row.incidentId = evidenceTypes s row.incidentId := by
    funext e
    simp only [evidenceTypes, refs]
  have count : (snapshots s (hypothesisRows s id)).length =
      s.investigation.hypotheses.countP (fun h => h.investigationId == id) := by
    rw [snapshots, List.length_map, hypothesisRows, List.length_insertionSort, Table.length_select]
  constructor
  case items => rw [linked]; exact criteria.items
  case types => rw [linked, types]; exact criteria.types
  case outnumbered => rw [linked, linked]; exact criteria.outnumbered
  case explained => rw [linked, rca]; exact criteria.explained
  case considered => exact (count ▸ criteria.considered).trans considered
  case confident => rw [confidence]; exact criteria.confident

/-- Competitors of the selected hypothesis are `WEAKENED` or `REJECTED`. -/
theorem settled_of_met {env : Env} {s : Store} {id hypothesisId : Uuid} {row : InvestigationRow}
    {h : HypothesisRow} {result : FinalInvestigationResult} (unique : KeysUnique s)
    (chosen : HypothesisAt s id h.key hypothesisId h)
    (criteria : CriteriaMet result (snapshot s hypothesisId h) (snapshots s (hypothesisRows s id))
      (evidenceTypes s row.incidentId) env.criteria) {h' : Uuid} {other : HypothesisRow}
    (found : s.investigation.hypotheses[h']? = some other)
    (ofInvestigation : other.investigationId = id) (different : h' ≠ hypothesisId)
    (unselected : other.status ≠ .selected) :
    other.status = .weakened ∨ other.status = .rejected := by
  have keys : other.key ≠ h.key := by
    intro same
    exact different (unique id h.key h' hypothesisId other h ⟨found, ofInvestigation, same⟩ chosen)
  have closed := List.map_eq_nil_iff.mp criteria.settled
  have listed : (other.key, snapshot s h' other) ∈ snapshots s (hypothesisRows s id) :=
    List.mem_map.mpr ⟨(h', other), mem_hypothesisRows.mpr ⟨found, ofInvestigation⟩, rfl⟩
  have settled := (List.filter_eq_nil_iff.mp closed) _ listed
  simp only [snapshot, Bool.and_eq_true, bne_iff_ne, ne_eq, keys, not_false_eq_true, true_and,
    Bool.or_eq_true, beq_iff_eq, not_or] at settled
  cases status : other.status with
  | active => exact absurd status settled.1
  | supported => exact absurd status settled.2
  | weakened => exact .inl rfl
  | rejected => exact .inr rfl
  | selected => exact absurd status unselected

theorem InvestigationStep.justified {env : Env} {now : Time} {c : Command} {s s' : Store}
    (step : InvestigationStep env now c s s') (sound : HypothesesSound s)
    (before : InvestigationsJustified env s) : InvestigationsJustified env s' := by
  have kept := (step.effect.kept sound).2
  have alert := step.alert
  cases step.effect with
  | requested i incident row found noneOpen waiting firing incidentId attemptNumber status
      incidents tables =>
    have investigations : s'.investigation.investigations =
        s.investigation.investigations ++ [row] := by rw [tables]
    refine before.of_same (.of_same (by rw [tables]) (by rw [alert])) ?_ (by rw [tables])
      (by rw [tables]) (by rw [tables]) ?_
    · rw [investigations]
      exact Table.Evolves.insert InvestigationMoved.refl _ _
    · intro id row' present completed
      rw [investigations] at present
      rcases Table.get_insert.mp present with old | ⟨_, rfl⟩
      · exact ⟨row', old, completed, rfl⟩
      · rw [status] at completed
        cases completed
  | worked id row row' steps found same status stepsOf incidents tables =>
    refine before.put found same ?_ tables alert
    rcases status with status | ⟨created, started⟩
    · rw [status]
    · rw [created, started]
      decide
  | ended id row row' incident step found incidentFound investigating same status stepOf
      incidents tables =>
    refine before.put found same ?_ tables alert
    rw [investigating]
    rcases status with status | status <;> rw [status] <;> decide
  | updated id row row' updates step found investigating same status stepOf incidents tables =>
    have investigations : s'.investigation.investigations =
        s.investigation.investigations.set id row' := by rw [tables]
    have hypotheses : s'.investigation.hypotheses =
        (updateLoop now s id row updates).store.investigation.hypotheses := by rw [tables]
    have wrote := updateLoop_wrote sound.unique now id row updates
    obtain ⟨new, links, ofNew⟩ := wrote.links
    have evidence : EvidenceKept s s' := ⟨⟨[step], by rw [tables]⟩, ⟨[], by rw [alert]; simp⟩⟩
    have wrote' : BatchWrote s id (accessibleEvidence s id row) s' := by
      refine ⟨fun h r found => wrote.hypotheses h r (hypotheses ▸ found), new, ?_, ?_⟩
      · rw [tables]
        exact links
      · rw [hypotheses]
        exact ofNew
    have added : s'.investigation.links = s.investigation.links ++ new := by
      rw [tables]
      exact links
    refine before.step kept evidence ?_ added ?_ ?_ ?_ ?_
    · rw [investigations]
      exact Table.Evolves.put InvestigationMoved.refl found
        ⟨same.incidentId, fun completed => status.trans completed⟩
    · intro l member
      obtain ⟨⟨hypothesis, present, ofId⟩, accessible⟩ := ofNew l member
      subst ofId
      refine ⟨hypothesis, row', hypotheses ▸ present, ?_,
        evidence.accessible same.incidentId accessible⟩
      rw [investigations]
      exact (Table.get_put found).mpr (.inl ⟨rfl, rfl⟩)
    · intro h r present selected
      rcases wrote'.hypotheses h r present with old | ⟨_, unchanged⟩
      · exact .inl old
      · exact .inl (unchanged selected)
    · intro r member
      rw [tables] at member
      exact .inl member
    · intro id' row'' present completed
      rcases completed_put found same investigations id' row'' present completed with
        ⟨old, existed, was, kept', other⟩ | ⟨rfl, rfl, completed, _⟩
      · exact .inl ⟨old, existed, was, kept', wrote'.untouched kept other (by rw [tables])⟩
      · rw [status, investigating] at completed
        cases completed
  | completed id row row' incident hypothesisId h result report step found incidentFound
      investigating met selected same status stepOf investigationId rootCause rca confidence key
      incidents tables =>
    have investigations : s'.investigation.investigations =
        s.investigation.investigations.set id row' := by rw [tables]
    have hypotheses : s'.investigation.hypotheses = s.investigation.hypotheses.set hypothesisId
        (h.selected now result.confidence) := by rw [tables]
    have links : s'.investigation.links = s.investigation.links := by rw [tables]
    have reports : s'.investigation.rcaReports = s.investigation.rcaReports ++ [report] := by
      rw [tables]
    have chosen : HypothesisAt s id h.key hypothesisId h := by
      obtain ⟨present, ofInvestigation⟩ :=
        mem_hypothesisRows.mp (List.mem_of_find?_eq_some selected)
      exact ⟨present, ofInvestigation, rfl⟩
    have criteria := selected_supported met selected
    have evidence : EvidenceKept s s' := ⟨⟨[step], by rw [tables]⟩, ⟨[], by rw [alert]; simp⟩⟩
    have present : s'.investigation.investigations[id]? = some row' := by
      rw [investigations]
      exact (Table.get_put found).mpr (.inl ⟨rfl, rfl⟩)
    have open_ : ∀ {id' : Uuid}, IsCompleted s id' → id' ≠ id := by
      rintro id' ⟨old, existed, was⟩ rfl
      rw [found] at existed
      cases existed
      rw [investigating] at was
      cases was
    refine before.step kept evidence ?_ (links.trans (List.append_nil _).symm)
      (fun _ member => absurd member List.not_mem_nil) ?_ ?_ ?_
    · rw [investigations]
      exact Table.Evolves.put InvestigationMoved.refl found ⟨same.incidentId, fun _ => status⟩
    · intro h' r existed isSelected
      rw [hypotheses] at existed
      rcases (Table.get_put chosen.found).mp existed with ⟨rfl, rfl⟩ | ⟨_, old⟩
      · exact .inr ⟨row', by rw [← present]; exact congrArg _ chosen.investigationId, status⟩
      · exact .inl old
    · intro r member
      rw [reports] at member
      rcases List.mem_append.mp member with old | new
      · exact .inl old
      · obtain rfl := List.mem_singleton.mp new
        exact .inr ⟨row', investigationId ▸ present, status⟩
    · intro id' row'' present' completed
      rcases completed_put found same investigations id' row'' present' completed with
        ⟨old, existed, was, kept', other⟩ | ⟨rfl, rfl, _, ofIncident⟩
      · refine .inl ⟨old, existed, was, kept', ?_⟩
        refine ⟨fun h' r ofOther => ?_, kept.hypotheses.countP_le fun moved ofOther => ?_,
          fun h' _ _ _ relation => linkedAs_of_links links h' relation, ?_⟩
        · rw [hypotheses, Table.get_put chosen.found]
          constructor
          · rintro (⟨_, rfl⟩ | ⟨_, old⟩)
            · exact absurd (ofOther.symm.trans chosen.investigationId) other
            · exact old
          · intro old
            refine .inr ⟨?_, old⟩
            rintro rfl
            rw [chosen.found] at old
            cases old
            exact other (ofOther.symm.trans chosen.investigationId)
        · rw [beq_iff_eq] at ofOther ⊢
          exact moved.investigationId.trans ofOther
        · have none : [report].filter (fun r => r.investigationId == id') = [] := by
            simp [investigationId, Ne.symm other]
          rw [reports, List.filter_append, none, List.append_nil]
      · refine .inr ⟨hypothesisId, h.selected now result.confidence, report, ?_⟩
        have grounded := (List.append_eq_nil_iff.mp met).1
        simp only [ite_eq_left_iff, List.cons_ne_nil, imp_false, not_not,
          ungroundedIds_eq_nil] at grounded
        constructor
        case found =>
          rw [hypotheses]
          exact (Table.get_put chosen.found).mpr (.inl ⟨rfl, rfl⟩)
        case investigationId => exact chosen.investigationId
        case status => rfl
        case named => exact rootCause
        case single =>
          -- no report of an investigation that was not completed
          have none : s.investigation.rcaReports.filter (fun r => r.investigationId == id') = [] := by
            rw [List.filter_eq_nil_iff]
            intro r member ofId
            exact open_ (before.reported r member) (beq_iff_eq.mp ofId)
          rw [reports, List.filter_append, none, List.nil_append]
          simp [investigationId]
        case settled =>
          intro h' other existed ofInvestigation different
          rw [hypotheses] at existed
          rcases (Table.get_put chosen.found).mp existed with ⟨same, _⟩ | ⟨_, old⟩
          · exact absurd same different
          · refine settled_of_met sound.unique chosen criteria old ofInvestigation different ?_
            intro isSelected
            exact open_ (before.selected h' other old isSelected) ofInvestigation
        case criteria =>
          rw [ofIncident]
          refine criteriaHold_of_met criteria links (by rw [alert]) ?_ rca confidence
          exact kept.hypotheses.countP_le fun moved ofId => by
            rw [beq_iff_eq] at ofId ⊢
            exact moved.investigationId.trans ofId
        case cited =>
          intro e cited
          rw [rca] at cited
          exact evidence.accessible ofIncident (grounded e cited)

/-- What the other services do leaves investigations as they are. -/
theorem InvestigationsJustified.of_investigation {env : Env} {s s' : Store}
    (before : InvestigationsJustified env s) (investigation : s'.investigation = s.investigation)
    (refs : ∃ new, s'.alert.evidenceRefs = s.alert.evidenceRefs ++ new) :
    InvestigationsJustified env s' := by
  refine before.of_same ⟨⟨[], by rw [investigation, List.append_nil]⟩, refs⟩ ?_
    (by rw [investigation]) (by rw [investigation]) (by rw [investigation]) ?_
  · rw [investigation]
    exact Table.Evolves.refl InvestigationMoved.refl _
  · intro id row found status
    rw [investigation] at found
    exact ⟨row, found, status, rfl⟩

theorem AlertStep.refs_append {received : Option AlertStatus} {now : Time} {s s' : Store}
    (step : AlertStep received now s s') :
    ∃ new, s'.alert.evidenceRefs = s.alert.evidenceRefs ++ new := by
  have same : s'.alert.evidenceRefs = s.alert.evidenceRefs →
      ∃ new, s'.alert.evidenceRefs = s.alert.evidenceRefs ++ new :=
    fun refs => ⟨[], by rw [refs, List.append_nil]⟩
  cases step.effect with
  | replayed _ _ refs => exact same refs
  | unmatched _ _ _ _ refs => exact same refs
  | linked _ _ _ _ _ _ _ _ _ _ refs => exact same refs
  | opened _ _ _ _ _ _ _ _ _ refs => exact same refs
  | cancelled _ _ _ _ _ _ _ _ _ _ _ _ refs => exact same refs
  | resolved _ _ _ _ _ _ _ _ _ _ _ refs => exact same refs
  | registered row _ _ _ _ refs => exact ⟨[row], refs⟩

theorem Transaction.justified {env : Env} {now : Time} {tickets : List IssuedTicket}
    {c : Command} {s s' : Store} (transaction : Transaction env now tickets c s s')
    (sound : HypothesesSound s) (before : InvestigationsJustified env s) :
    InvestigationsJustified env s' := by
  have same : s'.alert = s.alert → ∃ new, s'.alert.evidenceRefs = s.alert.evidenceRefs ++ new :=
    fun alert => ⟨[], by rw [alert, List.append_nil]⟩
  cases transaction with
  | alert step => exact before.of_investigation step.investigation step.refs_append
  | investigation step => exact step.justified sound before
  | remediation step => exact before.of_investigation step.investigation (same step.alert)
  | verification step => exact before.of_investigation step.investigation (same step.alert)

/-- Only an accepted conclusion completes an investigation. -/
theorem Transaction.completed_by {env : Env} {now : Time} {tickets : List IssuedTicket}
    {c : Command} {s s' : Store} (transaction : Transaction env now tickets c s s') {id : Uuid}
    (other : ∀ owner iteration callId result, c ≠ .complete id owner iteration callId result)
    (before : ¬ IsCompleted s id) : ¬ IsCompleted s' id := by
  rintro ⟨row'', present, completed⟩
  have same : s'.investigation = s.investigation → False :=
    fun investigation => before ⟨row'', investigation ▸ present, completed⟩
  -- a rewritten row was completed before, or is that of `id`
  have put : ∀ {k : Uuid} {row : InvestigationRow} (row' : InvestigationRow),
      s.investigation.investigations[k]? = some row →
      s'.investigation.investigations = s.investigation.investigations.set k row' →
      row'.status ≠ .completed ∨ k ≠ id → False := by
    intro k row row' found investigations short
    rw [investigations] at present
    rcases (Table.get_put found).mp present with ⟨rfl, rfl⟩ | ⟨_, old⟩
    · rcases short with short | short
      · exact short completed
      · exact short rfl
    · exact before ⟨row'', old, completed⟩
  cases transaction with
  | alert step => exact same step.investigation
  | remediation step => exact same step.investigation
  | verification step => exact same step.investigation
  | investigation step =>
    cases step.effect with
    | requested i incident row _ _ _ _ _ _ status _ tables =>
      rw [tables] at present
      rcases Table.get_insert.mp present with old | ⟨_, rfl⟩
      · exact before ⟨row'', old, completed⟩
      · rw [status] at completed
        cases completed
    | worked k row row' steps found same status stepsOf incidents tables =>
      by_cases here : k = id
      · subst here
        refine put row' found (by rw [tables]) (.inl fun done => ?_)
        rcases status with status | ⟨_, started⟩
        · exact before ⟨row, found, status.symm.trans done⟩
        · rw [started] at done
          cases done
      · exact put row' found (by rw [tables]) (.inr here)
    | updated k row row' updates step found investigating same status stepOf incidents tables =>
      refine put row' found (by rw [tables]) (.inl fun done => ?_)
      rw [status, investigating] at done
      cases done
    | ended k row row' incident step found incidentFound investigating same status stepOf
        incidents tables =>
      refine put row' found (by rw [tables]) (.inl fun done => ?_)
      rw [done] at status
      rcases status with status | status <;> cases status
    | completed k row row' incident hypothesisId h result report step found _ _ _ _ _ _ _ _ _ _ _ _
        incidents tables reported command =>
      obtain ⟨owner, iteration, callId, issued⟩ := command
      refine put row' found (by rw [tables]) (.inr ?_)
      rintro rfl
      exact other owner iteration callId result issued

/-! ## Runs -/

theorem investigationsJustified_empty (env : Env) : InvestigationsJustified env {} := by
  constructor
  · intro l member
    cases member
  · intro h row found
    simp at found
  · intro r member
    cases member
  · intro id row found
    simp at found

theorem run_investigationsJustified (env : Env) (clock : Time) (events : List Event) :
    InvestigationsJustified env (runFrom env clock events).store :=
  (run_invariant (P := fun s => HypothesesSound s ∧ InvestigationsJustified env s)
    (fun transaction sound =>
      ⟨(transaction.hypothesesKept sound.1).1, transaction.justified sound.1 sound.2⟩)
    ⟨hypothesesSound_empty, investigationsJustified_empty env⟩ events).2

/-- From any state of a run to any later one hypotheses only move and links are only added. -/
theorem run_hypothesesKept (env : Env) (clock : Time) (events more : List Event) :
    HypothesesKept (runFrom env clock events).store (runFrom env clock (events ++ more)).store := by
  rw [runFrom, runFrom, Machine.run_append]
  exact (run_invariant
    (P := fun s => HypothesesSound s ∧ HypothesesKept (runFrom env clock events).store s)
    (fun transaction sound => ⟨(transaction.hypothesesKept sound.1).1,
      sound.2.trans (transaction.hypothesesKept sound.1).2⟩)
    ⟨run_hypothesesSound env clock events, .of_same rfl rfl⟩ more).2

theorem completed_by_complete {env : Env} {w : World} {e : Event} {id : Uuid}
    (before : ¬ IsCompleted w.store id) (after : IsCompleted (step env w e).store id) :
    ∃ owner iteration callId result, e.command = .complete id owner iteration callId result := by
  by_contra other
  push Not at other
  refine absurd after (Machine.preserved_of_path (P := fun s => ¬ IsCompleted s id) ?_
    (execute_path env (w.clock + e.elapsed) w.tickets w.store e.command) before)
  exact fun transaction before => transaction.completed_by other before

/-- Investigations are completed by conclusions only; one that is completed is justified by the
evidence it was shown in every state afterwards; and what it rests on never changes. -/
theorem completed_investigations_are_justified (env : Env) (clock : Time) (events : List Event) :
    (∀ (e : Event) (id : Uuid), ¬ IsCompleted (runFrom env clock events).store id →
      IsCompleted (runFrom env clock (events ++ [e])).store id →
        ∃ owner iteration callId result, e.command = .complete id owner iteration callId result) ∧
    (∀ (id : Uuid) (row : InvestigationRow),
      (runFrom env clock events).store.investigation.investigations[id]? = some row →
        row.status = .completed → ∃ h selected report,
          JustifiedBy env (runFrom env clock events).store id row h selected report) ∧
    LinksGrounded (runFrom env clock events).store ∧
    OneRelation (runFrom env clock events).store.investigation.links ∧
    ∀ more, HypothesesKept (runFrom env clock events).store
      (runFrom env clock (events ++ more)).store := by
  have justified := run_investigationsJustified env clock events
  refine ⟨fun e id before after => ?_, justified.completed, justified.grounded,
    (run_hypothesesSound env clock events).one, run_hypothesesKept env clock events⟩
  rw [runFrom, Machine.run_concat] at after
  exact completed_by_complete before after

end IncidentTriage.Verified
