import IncidentTriage.Verified.Transactions

/-! # Batches of hypothesis updates

The loop over a batch keeps two dictionaries in step with the store (`InStep`).  While it
does, an accepted update is one of two writes (`UpdateEffect`): a hypothesis is created, or
the one of that key is changed; and its evidence is linked, the first relation of a pair
being the one that stays (`linked_linkEvidence`).
-/

namespace IncidentTriage.Verified

open IncidentTriage.Python IncidentTriage.Domain IncidentTriage.Incident

/-! ## Links -/

/-- The hypothesis is linked to the evidence with this relation. -/
def Linked (links : List HypothesisEvidenceLinkRow) (h e : Uuid) (relation : EvidenceRelation) :
    Prop :=
  ∃ l ∈ links, l.hypothesisId = h ∧ l.evidenceId = e ∧ l.relation = relation

theorem Linked.append {links : List HypothesisEvidenceLinkRow} {h e : Uuid}
    {relation : EvidenceRelation} (linked : Linked links h e relation)
    (new : List HypothesisEvidenceLinkRow) : Linked (links ++ new) h e relation := by
  obtain ⟨l, member, shape⟩ := linked
  exact ⟨l, List.mem_append_left _ member, shape⟩

/-- A pair of hypothesis and evidence is linked with one relation. -/
def OneRelation (links : List HypothesisEvidenceLinkRow) : Prop :=
  ∀ (h e : Uuid) (a b : EvidenceRelation), Linked links h e a → Linked links h e b → a = b

theorem insertLink_append (now : Time) (h : Uuid) (relation : EvidenceRelation)
    (links : List HypothesisEvidenceLinkRow) (e : Uuid) :
    ∃ new, insertLink now h relation links e = links ++ new ∧ ∀ l ∈ new, l.hypothesisId = h := by
  unfold insertLink
  split_ifs
  · exact ⟨[], by simp, by simp⟩
  · exact ⟨_, rfl, by simp⟩

/-- A new link of a pair that has none, and nothing for a pair that has one. -/
theorem linked_insertLink {now : Time} {h h' e e' : Uuid} {relation relation' : EvidenceRelation}
    {links : List HypothesisEvidenceLinkRow} :
    Linked (insertLink now h relation links e) h' e' relation' ↔
      Linked links h' e' relation' ∨
        (h' = h ∧ e' = e ∧ relation' = relation ∧ ∀ r, ¬ Linked links h e r) := by
  unfold insertLink
  by_cases present : links.any (fun l => l.hypothesisId == h && l.evidenceId == e) = true
  · rw [if_pos present]
    obtain ⟨l, member, shape⟩ := List.any_eq_true.mp present
    simp only [Bool.and_eq_true, beq_iff_eq] at shape
    constructor
    · exact .inl
    · rintro (old | ⟨_, _, _, unlinked⟩)
      · exact old
      · exact absurd ⟨l, member, shape.1, shape.2, rfl⟩ (unlinked l.relation)
  · rw [if_neg present]
    have unlinked : ∀ r, ¬ Linked links h e r := by
      rintro r ⟨l, member, ofHypothesis, ofEvidence, _⟩
      exact present (List.any_eq_true.mpr ⟨l, member, by simp [ofHypothesis, ofEvidence]⟩)
    constructor
    · rintro ⟨l, member, rfl, rfl, rfl⟩
      rcases List.mem_append.mp member with old | new
      · exact .inl ⟨l, old, rfl, rfl, rfl⟩
      · obtain rfl := List.mem_singleton.mp new
        exact .inr ⟨rfl, rfl, rfl, unlinked⟩
    · rintro (old | ⟨rfl, rfl, rfl, _⟩)
      · exact old.append _
      · exact ⟨_, List.mem_append_right _ (List.mem_singleton.mpr rfl), rfl, rfl, rfl⟩

theorem insertLinks_append (now : Time) (h : Uuid) (relation : EvidenceRelation) (ids : List Uuid)
    (links : List HypothesisEvidenceLinkRow) :
    ∃ new, ids.foldl (insertLink now h relation) links = links ++ new ∧
      ∀ l ∈ new, l.hypothesisId = h := by
  induction ids generalizing links with
  | nil => exact ⟨[], by simp, by simp⟩
  | cons e ids ih =>
    obtain ⟨first, inserted, ofFirst⟩ := insertLink_append now h relation links e
    obtain ⟨rest, folded, ofRest⟩ := ih (links ++ first)
    refine ⟨first ++ rest, ?_, ?_⟩
    · rw [List.foldl_cons, inserted, folded, List.append_assoc]
    · intro l member
      rcases List.mem_append.mp member with early | late
      · exact ofFirst l early
      · exact ofRest l late

theorem linked_insertLinks {now : Time} {h h' e' : Uuid} {relation relation' : EvidenceRelation}
    (ids : List Uuid) (links : List HypothesisEvidenceLinkRow) :
    Linked (ids.foldl (insertLink now h relation) links) h' e' relation' ↔
      Linked links h' e' relation' ∨
        (h' = h ∧ e' ∈ ids ∧ relation' = relation ∧ ∀ r, ¬ Linked links h e' r) := by
  induction ids generalizing links with
  | nil => simp
  | cons e ids ih =>
    rw [List.foldl_cons, ih]
    simp only [linked_insertLink, List.mem_cons]
    constructor
    · rintro ((old | ⟨rfl, rfl, rfl, unlinked⟩) | ⟨rfl, later, rfl, unlinked⟩)
      · exact .inl old
      · exact .inr ⟨rfl, .inl rfl, rfl, unlinked⟩
      · exact .inr ⟨rfl, .inr later, rfl, fun r linked => unlinked r (.inl linked)⟩
    · rintro (old | ⟨rfl, listed, rfl, unlinked⟩)
      · exact .inl (.inl old)
      · by_cases first : e' = e
        · subst first
          exact .inl (.inr ⟨rfl, rfl, rfl, unlinked⟩)
        · refine .inr ⟨rfl, listed.resolve_left first, rfl, ?_⟩
          rintro r (linked | ⟨_, same, _⟩)
          · exact unlinked r linked
          · exact first same

/-- The relation an update gives to evidence of a hypothesis it cites. -/
def Cites (update : HypothesisUpdate) (e : Uuid) : EvidenceRelation → Prop
  | .supports => e ∈ update.supportingEvidenceIds
  | .contradicts => e ∈ update.contradictingEvidenceIds

theorem linkEvidence_append (now : Time) (h : Uuid) (update : HypothesisUpdate)
    (links : List HypothesisEvidenceLinkRow) :
    ∃ new, linkEvidence now h update links = links ++ new ∧ ∀ l ∈ new, l.hypothesisId = h := by
  obtain ⟨supporting, first, ofFirst⟩ :=
    insertLinks_append now h .supports update.supportingEvidenceIds links
  obtain ⟨contradicting, second, ofSecond⟩ :=
    insertLinks_append now h .contradicts update.contradictingEvidenceIds (links ++ supporting)
  refine ⟨supporting ++ contradicting, ?_, ?_⟩
  · simp only [linkEvidence, first, second, List.append_assoc]
  · intro l member
    rcases List.mem_append.mp member with early | late
    · exact ofFirst l early
    · exact ofSecond l late

/-- A pair that is linked keeps its relation; one that is not gets the relation it is cited
with. -/
theorem linked_linkEvidence {now : Time} {h h' e : Uuid} {relation : EvidenceRelation}
    {update : HypothesisUpdate} {links : List HypothesisEvidenceLinkRow}
    (disjoint : ∀ e ∈ update.supportingEvidenceIds, e ∉ update.contradictingEvidenceIds) :
    Linked (linkEvidence now h update links) h' e relation ↔
      Linked links h' e relation ∨
        (h' = h ∧ Cites update e relation ∧ ∀ r, ¬ Linked links h e r) := by
  simp only [linkEvidence, linked_insertLinks]
  constructor
  · rintro ((old | ⟨rfl, cited, rfl, unlinked⟩) | ⟨rfl, cited, rfl, unlinked⟩)
    · exact .inl old
    · exact .inr ⟨rfl, cited, unlinked⟩
    · exact .inr ⟨rfl, cited, fun r linked => unlinked r (.inl linked)⟩
  · rintro (old | ⟨rfl, cited, unlinked⟩)
    · exact .inl (.inl old)
    · cases relation with
      | supports => exact .inl (.inr ⟨rfl, cited, rfl, unlinked⟩)
      | contradicts =>
        refine .inr ⟨rfl, cited, rfl, ?_⟩
        rintro r (linked | ⟨_, supports, _⟩)
        · exact unlinked r linked
        · exact disjoint e supports cited

theorem OneRelation.linkEvidence {now : Time} {h : Uuid} {update : HypothesisUpdate}
    {links : List HypothesisEvidenceLinkRow} (one : OneRelation links)
    (disjoint : ∀ e ∈ update.supportingEvidenceIds, e ∉ update.contradictingEvidenceIds) :
    OneRelation (linkEvidence now h update links) := by
  intro h' e a b first second
  rw [linked_linkEvidence disjoint] at first second
  rcases first with first | ⟨rfl, citedFirst, unlinked⟩
  · rcases second with second | ⟨rfl, _, unlinked⟩
    · exact one h' e a b first second
    · exact absurd first (unlinked a)
  · rcases second with second | ⟨_, citedSecond, _⟩
    · exact absurd second (unlinked b)
    · cases a <;> cases b
      · rfl
      · exact absurd citedSecond (disjoint e citedFirst)
      · exact absurd citedFirst (disjoint e citedSecond)
      · rfl

theorem mem_linkedAs {s : Store} {h e : Uuid} {relation : EvidenceRelation} :
    e ∈ linkedAs s h relation ↔ Linked s.investigation.links h e relation := by
  simp only [linkedAs, linksOf, List.mem_map, List.mem_filter, beq_iff_eq,
    (List.perm_insertionSort _ _).mem_iff]
  constructor
  · rintro ⟨l, ⟨⟨member, ofHypothesis⟩, ofRelation⟩, ofEvidence⟩
    exact ⟨l, member, ofHypothesis, ofEvidence, ofRelation⟩
  · rintro ⟨l, member, ofHypothesis, ofEvidence, ofRelation⟩
    exact ⟨l, ⟨⟨member, ofHypothesis⟩, ofRelation⟩, ofEvidence⟩

/-! ## Hypotheses by key -/

/-- Hypothesis `h` is the one of this key in this investigation. -/
structure HypothesisAt (s : Store) (id : Uuid) (key : String) (h : Uuid) (row : HypothesisRow) :
    Prop where
  found : s.investigation.hypotheses[h]? = some row
  investigationId : row.investigationId = id
  key : row.key = key

/-- Within an investigation every key names one hypothesis. -/
def KeysUnique (s : Store) : Prop :=
  ∀ (id : Uuid) (key : String) (h h' : Uuid) (row row' : HypothesisRow),
    HypothesisAt s id key h row → HypothesisAt s id key h' row' → h = h'

theorem KeysUnique.row_eq {s : Store} (unique : KeysUnique s) {id : Uuid} {key : String}
    {h h' : Uuid} {row row' : HypothesisRow} (first : HypothesisAt s id key h row)
    (second : HypothesisAt s id key h' row') : h = h' ∧ row = row' := by
  have same := unique id key h h' row row' first second
  subst same
  exact ⟨rfl, Option.some.inj (first.found.symm.trans second.found)⟩

theorem mem_hypothesisRows {s : Store} {id h : Uuid} {row : HypothesisRow} :
    (h, row) ∈ hypothesisRows s id ↔
      s.investigation.hypotheses[h]? = some row ∧ row.investigationId = id := by
  rw [hypothesisRows, (List.perm_insertionSort _ _).mem_iff, Table.mem_select, beq_iff_eq]

/-- Looking up a key among projected entries is finding the first of them with it. -/
theorem lookup_map {α β : Type*} (key : α → String) (value : α → β) (k : String) (l : List α) :
    List.lookup k (l.map (fun x => (key x, value x))) =
      (l.find? (fun x => key x == k)).map value := by
  induction l with
  | nil => rfl
  | cons x l ih =>
    rw [List.map_cons, List.lookup_cons, List.find?_cons, ih]
    by_cases here : key x = k
    · simp [here]
    · simp [beq_eq_false_iff_ne.mpr here, beq_eq_false_iff_ne.mpr (Ne.symm here)]

theorem find_hypothesis {s : Store} (unique : KeysUnique s) {id : Uuid} {key : String} {h : Uuid}
    {row : HypothesisRow} :
    (hypothesisRows s id).find? (fun x => x.2.key == key) = some (h, row) ↔
      HypothesisAt s id key h row := by
  constructor
  · intro chosen
    have named := List.find?_some chosen
    obtain ⟨found, ofInvestigation⟩ := mem_hypothesisRows.mp (List.mem_of_find?_eq_some chosen)
    exact ⟨found, ofInvestigation, by simpa using named⟩
  · intro at_
    have listed := mem_hypothesisRows.mpr ⟨at_.found, at_.investigationId⟩
    have some : ((hypothesisRows s id).find? (fun x => x.2.key == key)).isSome = true := by
      rw [List.find?_isSome]
      exact ⟨(h, row), listed, by simp [at_.key]⟩
    obtain ⟨⟨h', row'⟩, chosen⟩ := Option.isSome_iff_exists.mp some
    have named := List.find?_some chosen
    obtain ⟨found, ofInvestigation⟩ := mem_hypothesisRows.mp (List.mem_of_find?_eq_some chosen)
    obtain ⟨rfl, rfl⟩ := unique.row_eq at_ ⟨found, ofInvestigation, by simpa using named⟩
    exact chosen

/-! ## The dictionaries of the loop -/

/-- The two dictionaries say what the store says about the investigation. -/
structure InStep (id : Uuid) (p : UpdateProgress) : Prop where
  unique : KeysUnique p.store
  known : ∀ (key : String) (h : Uuid), List.lookup key p.hypotheses = some h →
    ∃ row, HypothesisAt p.store id key h row
  complete : ∀ (key : String) (h : Uuid) (row : HypothesisRow),
    HypothesisAt p.store id key h row → List.lookup key p.hypotheses = some h
  absent : ∀ key : String, List.lookup key p.hypotheses = none → List.lookup key p.snapshots = none
  snapshots : ∀ (key : String) (h : Uuid) (row : HypothesisRow),
    HypothesisAt p.store id key h row →
      List.lookup key p.snapshots = some (snapshot p.store h row)

theorem inStep_startProgress {s : Store} (unique : KeysUnique s) (id : Uuid) :
    InStep id (startProgress s id) := by
  have hypotheses : ∀ key, List.lookup key (startProgress s id).hypotheses =
      ((hypothesisRows s id).find? (fun x => x.2.key == key)).map (·.1) :=
    fun key => lookup_map (fun x : Uuid × HypothesisRow => x.2.key) (·.1) key _
  have entries : ∀ key, List.lookup key (startProgress s id).snapshots =
      ((hypothesisRows s id).find? (fun x => x.2.key == key)).map (fun x => snapshot s x.1 x.2) :=
    fun key => lookup_map (fun x : Uuid × HypothesisRow => x.2.key)
      (fun x => snapshot s x.1 x.2) key _
  refine ⟨unique, fun key h listed => ?_, fun key h row at_ => ?_, fun key unlisted => ?_,
    fun key h row at_ => ?_⟩
  · rw [hypotheses] at listed
    obtain ⟨⟨h', row⟩, chosen, rfl⟩ := Option.map_eq_some_iff.mp listed
    exact ⟨row, (find_hypothesis unique).mp chosen⟩
  · rw [hypotheses, (find_hypothesis unique).mpr at_]
    rfl
  · rw [hypotheses, Option.map_eq_none_iff] at unlisted
    rw [entries, unlisted]
    rfl
  · rw [entries, (find_hypothesis unique).mpr at_]
    rfl

/-! ## What an update does -/

/-- What the loop reports of an applied update. -/
structure Reported (update : HypothesisUpdate) (row : HypothesisRow) (a : AppliedUpdate) : Prop where
  key : a.key = update.key
  toStatus : a.toStatus = row.status
  supporting : a.addedSupporting = update.supportingEvidenceIds
  contradicting : a.addedContradicting = update.contradictingEvidenceIds

inductive UpdateEffect (now : Time) (id : Uuid) (accessible : List Uuid)
    (update : HypothesisUpdate) (p p' : UpdateProgress) : Prop
  | refused (problems : checkHypothesisUpdate update (List.lookup update.key p.snapshots)
        accessible ≠ [])
      (store : p'.store = p.store) (known : p'.hypotheses = p.hypotheses)
      (snapshots : p'.snapshots = p.snapshots) (applied : p'.applied = p.applied)
  | created (a : AppliedUpdate)
      (absent : List.lookup update.key p.hypotheses = none)
      (accepted : AcceptedUpdate update none accessible)
      (hypotheses : p'.store.investigation.hypotheses =
        p.store.investigation.hypotheses ++ [newHypothesis now id update])
      (links : p'.store.investigation.links = linkEvidence now
        p.store.investigation.hypotheses.length update p.store.investigation.links)
      (applied : p'.applied = p.applied ++ [a])
      (reported : Reported update (newHypothesis now id update) a)
      (known : p'.hypotheses = dictSet p.hypotheses update.key
        p.store.investigation.hypotheses.length)
      (snapshots : p'.snapshots = dictSet p.snapshots update.key (snapshot p'.store
        p.store.investigation.hypotheses.length (newHypothesis now id update)))
  | changed (a : AppliedUpdate) (h : Uuid) (row : HypothesisRow)
      (at_ : HypothesisAt p.store id update.key h row)
      (accepted : AcceptedUpdate update (some (snapshot p.store h row)) accessible)
      (hypotheses : p'.store.investigation.hypotheses =
        p.store.investigation.hypotheses.set h (row.updated now update))
      (links : p'.store.investigation.links =
        linkEvidence now h update p.store.investigation.links)
      (applied : p'.applied = p.applied ++ [a])
      (reported : Reported update (row.updated now update) a)
      (known : p'.hypotheses = dictSet p.hypotheses update.key h)
      (snapshots : p'.snapshots = dictSet p.snapshots update.key
        (snapshot p'.store h (row.updated now update)))

theorem InStep.updateEffect {now : Time} {id : Uuid} {p : UpdateProgress} (inStep : InStep id p)
    (accessible : List Uuid) (update : HypothesisUpdate) :
    UpdateEffect now id accessible update p (applyUpdate now id accessible p update) := by
  by_cases problems :
      checkHypothesisUpdate update (List.lookup update.key p.snapshots) accessible ≠ []
  · refine .refused problems ?_ ?_ ?_ ?_ <;> simp only [applyUpdate, if_pos problems]
  · have accepted := checkHypothesisUpdate_eq_nil.mp (not_not.mp problems)
    cases listed : List.lookup update.key p.hypotheses with
    | none =>
      rw [inStep.absent update.key listed] at accepted
      simp only [applyUpdate, if_neg problems, listed, writeHypothesis, Option.bind_none]
      exact .created _ listed accepted rfl rfl rfl ⟨rfl, rfl, rfl, rfl⟩ rfl rfl
    | some h =>
      obtain ⟨row, at_⟩ := inStep.known update.key h listed
      rw [inStep.snapshots update.key h row at_] at accepted
      simp only [applyUpdate, if_neg problems, listed, writeHypothesis, Option.bind_some,
        at_.found, Option.map_some]
      exact .changed _ h row at_ accepted rfl rfl rfl ⟨rfl, rfl, rfl, rfl⟩ rfl rfl

/-! ## The dictionaries stay in step -/

/-- Links of other hypotheses do not show in a snapshot. -/
theorem snapshot_other {s s' : Store} {h h' : Uuid} {row : HypothesisRow}
    {new : List HypothesisEvidenceLinkRow}
    (links : s'.investigation.links = s.investigation.links ++ new)
    (ofOther : ∀ l ∈ new, l.hypothesisId = h) (other : h' ≠ h) :
    snapshot s' h' row = snapshot s h' row := by
  have none : new.filter (fun l => l.hypothesisId == h') = [] :=
    List.filter_eq_nil_iff.mpr fun l member => by simp [ofOther l member, Ne.symm other]
  have same : linksOf s' h' = linksOf s h' := by
    rw [linksOf, linksOf, links, List.filter_append, none, List.append_nil]
  simp only [snapshot, linkedAs, same]

/-- One hypothesis is written under its key, the others stay, and the dictionaries follow. -/
theorem InStep.write {id : Uuid} {p p' : UpdateProgress} (inStep : InStep id p) {key : String}
    {h : Uuid} {row : HypothesisRow} {new : List HypothesisEvidenceLinkRow}
    (written : HypothesisAt p'.store id key h row)
    (others : ∀ h' : Uuid, h' ≠ h → p'.store.investigation.hypotheses[h']? =
      p.store.investigation.hypotheses[h']?)
    (alone : ∀ (h' : Uuid) (row' : HypothesisRow), HypothesisAt p.store id key h' row' → h' = h)
    (named : ∀ (key' : String) (row' : HypothesisRow),
      HypothesisAt p.store id key' h row' → key' = key)
    (links : p'.store.investigation.links = p.store.investigation.links ++ new)
    (ofWritten : ∀ l ∈ new, l.hypothesisId = h)
    (known : p'.hypotheses = dictSet p.hypotheses key h)
    (snapshots : p'.snapshots = dictSet p.snapshots key (snapshot p'.store h row)) :
    InStep id p' := by
  have kept : ∀ {id' : Uuid} {key' : String} {h' : Uuid} {row' : HypothesisRow}, h' ≠ h →
      (HypothesisAt p'.store id' key' h' row' ↔ HypothesisAt p.store id' key' h' row') := by
    intro id' key' h' row' other
    constructor
    · rintro ⟨found, ofInvestigation, keyed⟩
      exact ⟨(others h' other).symm.trans found, ofInvestigation, keyed⟩
    · rintro ⟨found, ofInvestigation, keyed⟩
      exact ⟨(others h' other).trans found, ofInvestigation, keyed⟩
  have here : ∀ {id' : Uuid} {key' : String} {row' : HypothesisRow},
      HypothesisAt p'.store id' key' h row' → id' = id ∧ key' = key ∧ row' = row := by
    intro id' key' row' at_
    obtain rfl : row' = row := Option.some.inj (at_.found.symm.trans written.found)
    exact ⟨at_.investigationId.symm.trans written.investigationId,
      at_.key.symm.trans written.key, rfl⟩
  have elsewhere : ∀ {key' : String} {h' : Uuid} {row' : HypothesisRow}, key' ≠ key →
      HypothesisAt p'.store id key' h' row' → h' ≠ h := by
    rintro key' h' row' other at_ rfl
    exact other (here at_).2.1
  have only : ∀ {h' : Uuid} {row' : HypothesisRow}, HypothesisAt p'.store id key h' row' →
      h' = h := by
    intro h' row' at_
    by_contra other
    exact other (alone h' row' ((kept other).mp at_))
  refine ⟨?unique, fun key' h' listed => ?known, fun key' h' row' at_ => ?complete,
    fun key' unlisted => ?absent, fun key' h' row' at_ => ?snapshots⟩
  case unique =>
    intro id' key' h₁ h₂ row₁ row₂ first second
    by_cases atFirst : h₁ = h
    · subst atFirst
      obtain ⟨rfl, rfl, rfl⟩ := here first
      by_cases atSecond : h₂ = h₁
      · exact atSecond.symm
      · exact (only second).symm
    · by_cases atSecond : h₂ = h
      · subst atSecond
        obtain ⟨rfl, rfl, rfl⟩ := here second
        exact only first
      · exact inStep.unique id' key' h₁ h₂ row₁ row₂ ((kept atFirst).mp first)
          ((kept atSecond).mp second)
  case known =>
    rw [known, lookup_dictSet] at listed
    split_ifs at listed with same
    · obtain rfl := Option.some.inj listed
      exact ⟨row, same ▸ written⟩
    · obtain ⟨row', at_⟩ := inStep.known key' h' listed
      have other : h' ≠ h := by
        rintro rfl
        exact same (named key' row' at_)
      exact ⟨row', (kept other).mpr at_⟩
  case complete =>
    rw [known, lookup_dictSet]
    by_cases same : key' = key
    · rw [same] at at_
      rw [if_pos same, only at_]
    · rw [if_neg same]
      exact inStep.complete key' h' row' ((kept (elsewhere same at_)).mp at_)
  case absent =>
    rw [known, lookup_dictSet] at unlisted
    rw [snapshots, lookup_dictSet]
    split_ifs at unlisted ⊢ with same
    exact inStep.absent key' unlisted
  case snapshots =>
    rw [snapshots, lookup_dictSet]
    by_cases same : key' = key
    · rw [same] at at_
      obtain rfl := only at_
      rw [if_pos same, (here at_).2.2]
    · have other := elsewhere same at_
      rw [if_neg same, snapshot_other links ofWritten other]
      exact inStep.snapshots key' h' row' ((kept other).mp at_)

theorem InStep.applyUpdate {now : Time} {id : Uuid} {p : UpdateProgress} (inStep : InStep id p)
    (accessible : List Uuid) (update : HypothesisUpdate) :
    InStep id (applyUpdate now id accessible p update) := by
  have effect : UpdateEffect now id accessible update p _ := inStep.updateEffect accessible update
  generalize Incident.applyUpdate now id accessible p update = p' at effect ⊢
  cases effect with
  | refused problems store known snapshots applied =>
    obtain ⟨unique, listed, complete, absent, entries⟩ := inStep
    constructor <;> simpa only [store, known, snapshots]
  | created a absent accepted hypotheses links applied reported known snapshots =>
    obtain ⟨new, appended, ofNew⟩ := linkEvidence_append now
      p.store.investigation.hypotheses.length update p.store.investigation.links
    refine inStep.write ?_ ?_ ?_ ?_
      (links.trans appended) ofNew known snapshots
    · exact ⟨by rw [hypotheses]; exact Table.get_insert.mpr (.inr ⟨rfl, rfl⟩), rfl, rfl⟩
    · intro h' other
      rw [hypotheses]
      by_cases inside : h' < p.store.investigation.hypotheses.length
      · rw [List.getElem?_append_left inside]
      · have beyond : p.store.investigation.hypotheses.length < h' :=
          Nat.lt_of_le_of_ne (Nat.not_lt.mp inside) (Ne.symm other)
        rw [List.getElem?_eq_none (Nat.le_of_lt beyond), List.getElem?_eq_none]
        rw [List.length_append]
        exact beyond
    · intro h' row' at_
      rw [inStep.complete update.key h' row' at_] at absent
      cases absent
    · intro key' row' at_
      exact absurd (Table.lt_of_row at_.found) (Nat.lt_irrefl _)
  | changed a h row at_ accepted hypotheses links applied reported known snapshots =>
    obtain ⟨new, appended, ofNew⟩ :=
      linkEvidence_append now h update p.store.investigation.links
    refine inStep.write ?_ ?_ ?_ ?_
      (links.trans appended) ofNew known snapshots
    · exact ⟨by rw [hypotheses]; exact (Table.get_put at_.found).mpr (.inl ⟨rfl, rfl⟩),
        at_.investigationId, at_.key⟩
    · intro h' other
      rw [hypotheses, List.getElem?_set_ne (Ne.symm other)]
    · intro h' row' again
      exact inStep.unique id update.key h' h row' row again at_
    · intro key' row' again
      obtain rfl := Option.some.inj (again.found.symm.trans at_.found)
      exact again.key.symm.trans at_.key

/-! ## What stays of a hypothesis -/

/-- A hypothesis keeps its investigation, key, cause and component, and is frozen once
`REJECTED` or `SELECTED`. -/
structure HypothesisMoved (row row' : HypothesisRow) : Prop where
  investigationId : row'.investigationId = row.investigationId
  key : row'.key = row.key
  causeCategory : row'.causeCategory = row.causeCategory
  component : row'.component = row.component
  frozen : row.status = .rejected ∨ row.status = .selected → row' = row

theorem HypothesisMoved.refl (row : HypothesisRow) : HypothesisMoved row row :=
  ⟨rfl, rfl, rfl, rfl, fun _ => rfl⟩

theorem HypothesisMoved.trans {a b c : HypothesisRow} (first : HypothesisMoved a b)
    (second : HypothesisMoved b c) : HypothesisMoved a c where
  investigationId := second.investigationId.trans first.investigationId
  key := second.key.trans first.key
  causeCategory := second.causeCategory.trans first.causeCategory
  component := second.component.trans first.component
  frozen settled := by
    have same := first.frozen settled
    rw [← same] at settled
    exact (second.frozen settled).trans same

/-- Hypotheses only move, and links are only added. -/
structure HypothesesKept (s s' : Store) : Prop where
  hypotheses : Table.Evolves HypothesisMoved s.investigation.hypotheses
    s'.investigation.hypotheses
  links : ∃ new, s'.investigation.links = s.investigation.links ++ new

theorem HypothesesKept.of_same {s s' : Store}
    (hypotheses : s'.investigation.hypotheses = s.investigation.hypotheses)
    (links : s'.investigation.links = s.investigation.links) : HypothesesKept s s' := by
  refine ⟨?_, [], by rw [links, List.append_nil]⟩
  rw [hypotheses]
  exact Table.Evolves.refl HypothesisMoved.refl _

theorem HypothesesKept.trans {a b c : Store} (first : HypothesesKept a b)
    (second : HypothesesKept b c) : HypothesesKept a c := by
  obtain ⟨new, links⟩ := first.links
  obtain ⟨new', links'⟩ := second.links
  exact ⟨first.hypotheses.trans (fun one two => one.trans two) second.hypotheses,
    new ++ new', by rw [links', links, List.append_assoc]⟩

theorem HypothesesKept.linked {s s' : Store} (kept : HypothesesKept s s') {h e : Uuid}
    {relation : EvidenceRelation} (linked : Linked s.investigation.links h e relation) :
    Linked s'.investigation.links h e relation := by
  obtain ⟨new, links⟩ := kept.links
  rw [links]
  exact linked.append new

theorem HypothesesKept.at {s s' : Store} (kept : HypothesesKept s s') {id : Uuid} {key : String}
    {h : Uuid} {row : HypothesisRow} (at_ : HypothesisAt s id key h row) :
    ∃ row', HypothesisAt s' id key h row' := by
  obtain ⟨row', found, moved⟩ := kept.hypotheses h row at_.found
  exact ⟨row', found, moved.investigationId.trans at_.investigationId, moved.key.trans at_.key⟩

/-- A hypothesis that an accepted update changes was neither rejected nor selected. -/
theorem notFrozen_of_accepted {update : HypothesisUpdate} {existing : HypothesisSnapshot}
    {accessible : List Uuid} (accepted : AcceptedUpdate update (some existing) accessible) :
    ¬ (existing.status = .rejected ∨ existing.status = .selected) := by
  have shape := accepted.shape
  simp only [shapeProblems, List.append_eq_nil_iff, ite_eq_right_iff, List.cons_ne_nil,
    imp_false] at shape
  exact shape.2

theorem UpdateEffect.kept {now : Time} {id : Uuid} {accessible : List Uuid}
    {update : HypothesisUpdate} {p p' : UpdateProgress}
    (effect : UpdateEffect now id accessible update p p') : HypothesesKept p.store p'.store := by
  cases effect with
  | refused problems store => exact .of_same (by rw [store]) (by rw [store])
  | created a absent accepted hypotheses links =>
    obtain ⟨new, appended, _⟩ := linkEvidence_append now
      p.store.investigation.hypotheses.length update p.store.investigation.links
    refine ⟨?_, new, links.trans appended⟩
    rw [hypotheses]
    exact Table.Evolves.insert HypothesisMoved.refl _ _
  | changed a h row at_ accepted hypotheses links =>
    obtain ⟨new, appended, _⟩ := linkEvidence_append now h update p.store.investigation.links
    refine ⟨?_, new, links.trans appended⟩
    rw [hypotheses]
    exact Table.Evolves.put HypothesisMoved.refl at_.found
      ⟨rfl, rfl, rfl, rfl, fun frozen => absurd frozen (notFrozen_of_accepted accepted)⟩

theorem UpdateEffect.oneRelation {now : Time} {id : Uuid} {accessible : List Uuid}
    {update : HypothesisUpdate} {p p' : UpdateProgress}
    (effect : UpdateEffect now id accessible update p p')
    (one : OneRelation p.store.investigation.links) :
    OneRelation p'.store.investigation.links := by
  cases effect with
  | refused problems store => rwa [store]
  | created a absent accepted hypotheses links =>
    rw [links]
    exact one.linkEvidence accepted.disjoint
  | changed a h row at_ accepted hypotheses links =>
    rw [links]
    exact one.linkEvidence accepted.disjoint

/-! ## The whole loop -/

/-- Links are of hypotheses that exist. -/
def LinksKnown (s : Store) : Prop :=
  ∀ l ∈ s.investigation.links, l.hypothesisId < s.investigation.hypotheses.length

/-- Keys are unique within an investigation, relations within a pair, and links are of
hypotheses that exist. -/
structure HypothesesSound (s : Store) : Prop where
  unique : KeysUnique s
  one : OneRelation s.investigation.links
  known : LinksKnown s

theorem UpdateEffect.linksKnown {now : Time} {id : Uuid} {accessible : List Uuid}
    {update : HypothesisUpdate} {p p' : UpdateProgress}
    (effect : UpdateEffect now id accessible update p p') (known : LinksKnown p.store) :
    LinksKnown p'.store := by
  intro l member
  cases effect with
  | refused problems store =>
    rw [store] at member ⊢
    exact known l member
  | created a absent accepted hypotheses links =>
    obtain ⟨new, appended, ofNew⟩ := linkEvidence_append now
      p.store.investigation.hypotheses.length update p.store.investigation.links
    rw [links, appended] at member
    rw [hypotheses, List.length_append, List.length_singleton]
    rcases List.mem_append.mp member with old | added
    · exact Nat.lt_succ_of_lt (known l old)
    · rw [ofNew l added]
      exact Nat.lt_succ_self _
  | changed a h row at_ accepted hypotheses links =>
    obtain ⟨new, appended, ofNew⟩ :=
      linkEvidence_append now h update p.store.investigation.links
    rw [links, appended] at member
    rw [hypotheses, List.length_set]
    rcases List.mem_append.mp member with old | added
    · exact known l old
    · rw [ofNew l added]
      exact Table.lt_of_row at_.found

theorem updateLoop_eq_run (now : Time) (s : Store) (id : Uuid) (row : InvestigationRow)
    (updates : List HypothesisUpdate) :
    updateLoop now s id row updates =
      Machine.run (applyUpdate now id (accessibleEvidence s id row)) (startProgress s id) updates :=
  rfl

theorem updateLoop_inStep {s : Store} (unique : KeysUnique s) (now : Time) (id : Uuid)
    (row : InvestigationRow) (updates : List HypothesisUpdate) :
    InStep id (updateLoop now s id row updates) := by
  rw [updateLoop_eq_run]
  exact Machine.state_invariant (inStep_startProgress unique id)
    (fun _ update inStep => inStep.applyUpdate _ update) updates

/-- What every update of an in-step progress preserves holds after the batch. -/
theorem updateLoop_invariant {now : Time} {s : Store} {id : Uuid} {row : InvestigationRow}
    (unique : KeysUnique s) {P : UpdateProgress → Prop} (initial : P (startProgress s id))
    (preserved : ∀ {p p' : UpdateProgress} {update : HypothesisUpdate}, InStep id p →
      UpdateEffect now id (accessibleEvidence s id row) update p p' → P p → P p')
    (updates : List HypothesisUpdate) : P (updateLoop now s id row updates) := by
  rw [updateLoop_eq_run]
  refine (Machine.state_invariant (P := fun p => InStep id p ∧ P p)
    ⟨inStep_startProgress unique id, initial⟩ ?_ updates).2
  rintro p update ⟨inStep, holds⟩
  exact ⟨inStep.applyUpdate _ update, preserved inStep (inStep.updateEffect _ update) holds⟩

theorem updateLoop_kept {s : Store} (unique : KeysUnique s) (now : Time) (id : Uuid)
    (row : InvestigationRow) (updates : List HypothesisUpdate) :
    HypothesesKept s (updateLoop now s id row updates).store :=
  updateLoop_invariant (P := fun p => HypothesesKept s p.store) unique
    (.of_same rfl rfl) (fun _ effect kept => kept.trans effect.kept) updates

theorem updateLoop_sound {s : Store} (sound : HypothesesSound s) (now : Time) (id : Uuid)
    (row : InvestigationRow) (updates : List HypothesisUpdate) :
    HypothesesSound (updateLoop now s id row updates).store where
  unique := (updateLoop_inStep sound.unique now id row updates).unique
  one := updateLoop_invariant (P := fun p => OneRelation p.store.investigation.links) sound.unique
    sound.one (fun _ effect one => effect.oneRelation one) updates
  known := updateLoop_invariant (P := fun p => LinksKnown p.store) sound.unique sound.known
    (fun _ effect known => effect.linksKnown known) updates

/-! ## Transactions -/

theorem LinksKnown.of_same {s s' : Store} (known : LinksKnown s)
    (length : s'.investigation.hypotheses.length = s.investigation.hypotheses.length)
    (links : s'.investigation.links = s.investigation.links) : LinksKnown s' := by
  intro l member
  rw [length]
  exact known l (links ▸ member)

theorem KeysUnique.of_same {s s' : Store} (unique : KeysUnique s)
    (same : s'.investigation.hypotheses = s.investigation.hypotheses) : KeysUnique s' := by
  intro id key h h' row row' first second
  refine unique id key h h' row row' ?_ ?_
  · exact ⟨same ▸ first.found, first.investigationId, first.key⟩
  · exact ⟨same ▸ second.found, second.investigationId, second.key⟩

theorem HypothesesSound.of_same {s s' : Store} (sound : HypothesesSound s)
    (hypotheses : s'.investigation.hypotheses = s.investigation.hypotheses)
    (links : s'.investigation.links = s.investigation.links) : HypothesesSound s' where
  unique := sound.unique.of_same hypotheses
  one := by rw [links]; exact sound.one
  known := sound.known.of_same (by rw [hypotheses]) links

/-- A hypothesis rewritten under its key leaves the keys as they were. -/
theorem KeysUnique.put {s s' : Store} (unique : KeysUnique s) {h : Uuid} {row row' : HypothesisRow}
    (found : s.investigation.hypotheses[h]? = some row) (moved : HypothesisMoved row row')
    (hypotheses : s'.investigation.hypotheses = s.investigation.hypotheses.set h row') :
    KeysUnique s' := by
  have before : ∀ {id : Uuid} {key : String} {k : Uuid} {r : HypothesisRow},
      HypothesisAt s' id key k r → ∃ r', HypothesisAt s id key k r' := by
    rintro id key k r ⟨present, ofInvestigation, keyed⟩
    rw [hypotheses] at present
    rcases (Table.get_put found).mp present with ⟨rfl, rfl⟩ | ⟨_, old⟩
    · exact ⟨row, found, moved.investigationId.symm.trans ofInvestigation,
        moved.key.symm.trans keyed⟩
    · exact ⟨r, old, ofInvestigation, keyed⟩
  intro id key h₁ h₂ row₁ row₂ first second
  obtain ⟨r₁, first⟩ := before first
  obtain ⟨r₂, second⟩ := before second
  exact unique id key h₁ h₂ r₁ r₂ first second

/-- The selected hypothesis of an accepted conclusion was `SUPPORTED`. -/
theorem selected_supported {env : Env} {s : Store} {id : Uuid} {row : InvestigationRow}
    {result : FinalInvestigationResult} {hypothesisId : Uuid} {h : HypothesisRow}
    (met : unmetCriteria env s id row result = [])
    (selected : (hypothesisRows s id).find? (fun h => h.2.key == result.selectedHypothesisKey) =
      some (hypothesisId, h)) :
    CriteriaMet result (snapshot s hypothesisId h) (snapshots s (hypothesisRows s id))
      (evidenceTypes s row.incidentId) env.criteria := by
  obtain ⟨_, accepted⟩ := List.append_eq_nil_iff.mp met
  obtain ⟨snap, chosen, criteria⟩ := criteriaMet_of_evaluateConclusion accepted
  have same : List.lookup result.selectedHypothesisKey (snapshots s (hypothesisRows s id)) =
      some (snapshot s hypothesisId h) := by
    rw [snapshots, lookup_map (fun x : Uuid × HypothesisRow => x.2.key)
      (fun x => snapshot s x.1 x.2), selected]
    rfl
  obtain rfl := Option.some.inj (same.symm.trans chosen)
  exact criteria

theorem selected_moved {h : HypothesisRow} (supported : h.status = .supported)
    (now : Time) (confidence : Fraction) : HypothesisMoved h (h.selected now confidence) := by
  refine ⟨rfl, rfl, rfl, rfl, fun frozen => ?_⟩
  rw [supported] at frozen
  rcases frozen with frozen | frozen <;> cases frozen

theorem InvestigationEffect.kept {env : Env} {now : Time} {c : Command} {s s' : Store}
    (effect : InvestigationEffect env now c s s') (sound : HypothesesSound s) :
    HypothesesSound s' ∧ HypothesesKept s s' := by
  have same : s'.investigation.hypotheses = s.investigation.hypotheses →
      s'.investigation.links = s.investigation.links →
      HypothesesSound s' ∧ HypothesesKept s s' := by
    intro hypotheses links
    exact ⟨sound.of_same hypotheses links, .of_same hypotheses links⟩
  cases effect with
  | requested _ _ _ _ _ _ _ _ _ _ _ tables => exact same (by rw [tables]) (by rw [tables])
  | worked _ _ _ _ _ _ _ _ _ tables => exact same (by rw [tables]) (by rw [tables])
  | ended _ _ _ _ _ _ _ _ _ _ _ _ tables => exact same (by rw [tables]) (by rw [tables])
  | updated id row row' updates step found investigating _ _ _ incidents tables =>
    have hypotheses : s'.investigation.hypotheses =
        (updateLoop now s id row updates).store.investigation.hypotheses := by rw [tables]
    have links : s'.investigation.links =
        (updateLoop now s id row updates).store.investigation.links := by rw [tables]
    exact ⟨(updateLoop_sound sound now id row updates).of_same hypotheses links,
      (updateLoop_kept sound.unique now id row updates).trans (.of_same hypotheses links)⟩
  | completed id row row' incident hypothesisId h result report step found incidentFound
      investigating met selected _ _ _ _ _ _ _ _ incidents tables =>
    have hypotheses : s'.investigation.hypotheses = s.investigation.hypotheses.set hypothesisId
        (h.selected now result.confidence) := by rw [tables]
    have links : s'.investigation.links = s.investigation.links := by rw [tables]
    have present := (mem_hypothesisRows.mp (List.mem_of_find?_eq_some selected)).1
    have moved : HypothesisMoved h (h.selected now result.confidence) :=
      selected_moved (selected_supported met selected).supported now _
    refine ⟨⟨sound.unique.put present moved hypotheses, by rw [links]; exact sound.one,
      sound.known.of_same (by rw [hypotheses, List.length_set]) links⟩,
      ?_, [], by rw [links, List.append_nil]⟩
    rw [hypotheses]
    exact Table.Evolves.put HypothesisMoved.refl present moved

theorem Transaction.hypothesesKept {env : Env} {now : Time} {tickets : List IssuedTicket}
    {c : Command} {s s' : Store} (transaction : Transaction env now tickets c s s')
    (sound : HypothesesSound s) : HypothesesSound s' ∧ HypothesesKept s s' := by
  have same : s'.investigation = s.investigation → HypothesesSound s' ∧ HypothesesKept s s' := by
    intro investigation
    exact ⟨sound.of_same (by rw [investigation]) (by rw [investigation]),
      .of_same (by rw [investigation]) (by rw [investigation])⟩
  cases transaction with
  | alert step => exact same step.investigation
  | investigation step => exact step.effect.kept sound
  | remediation step => exact same step.investigation
  | verification step => exact same step.investigation

theorem hypothesesSound_empty : HypothesesSound {} := by
  constructor
  · intro id key h h' row row' first
    have found := first.found
    simp at found
  · rintro h e a b ⟨l, member, _⟩
    cases member
  · intro l member
    cases member

theorem run_hypothesesSound (env : Env) (clock : Time) (events : List Event) :
    HypothesesSound (runFrom env clock events).store :=
  run_invariant (fun transaction sound => (transaction.hypothesesKept sound).1)
    hypothesesSound_empty events

end IncidentTriage.Verified
