import IncidentTriage.Verified.DeliveryOrder
import IncidentTriage.Verified.Transactions

/-! # Deliveries that do not rely on one another

A commit changes few rows: the row of one incident, the alert it ends or inserts.  A
delivery under way that relies on none of them reads the same after the commit as before,
and so every commit of a run writes what the command would write alone: the committed
state is that of the commands one after another, in the order of their commits.
-/

namespace IncidentTriage.Verified

open IncidentTriage.Python IncidentTriage.Domain IncidentTriage.Incident

/-! ## The latest alert -/

/-- The alert received last among those that satisfy `p`, the first of them where there
are several. -/
def LatestAlert (p : AlertRow → Bool) (alerts : List AlertRow) (a : Uuid) (alert : AlertRow) :
    Prop :=
  alerts[a]? = some alert ∧ p alert = true ∧
    ∀ (b : Uuid) (other : AlertRow), alerts[b]? = some other → p other = true →
      other.receivedAt ≤ alert.receivedAt ∧ (other.receivedAt = alert.receivedAt → a ≤ b)

theorem LatestAlert.unique {p : AlertRow → Bool} {alerts : List AlertRow} {a b : Uuid}
    {alert other : AlertRow} (latest : LatestAlert p alerts a alert)
    (also : LatestAlert p alerts b other) : a = b ∧ alert = other := by
  obtain ⟨row, holds, top⟩ := latest
  obtain ⟨row', holds', top'⟩ := also
  obtain ⟨le, first⟩ := top b other row' holds'
  obtain ⟨ge, first'⟩ := top' a alert row holds
  have same : a = b := Nat.le_antisymm (first (Int.le_antisymm le ge)) (first' (Int.le_antisymm ge le))
  subst same
  rw [row] at row'
  exact ⟨rfl, Option.some.inj row'⟩

theorem latest_of_mostRecent {p : AlertRow → Bool} {alerts : List AlertRow} {a : Uuid}
    {alert : AlertRow} (found : mostRecent (Table.select p alerts) = some (a, alert)) :
    LatestAlert p alerts a alert := by
  obtain ⟨newest, before, after, split, earlier⟩ := List.find?_eq_some_iff_append.mp found
  have member : (a, alert) ∈ Table.select p alerts := by rw [split]; simp
  obtain ⟨row, holds⟩ := Table.mem_select.mp member
  refine ⟨row, holds, ?_⟩
  intro b other row' holds'
  have listed : (b, other) ∈ Table.select p alerts := Table.mem_select.mpr ⟨row', holds'⟩
  have top : ((Table.select p alerts).map (·.2.receivedAt)).max? = some alert.receivedAt := by
    simpa using (beq_iff_eq.mp newest).symm
  have le : other.receivedAt ≤ alert.receivedAt :=
    (List.max?_eq_some_iff.mp top).2 _ (List.mem_map.mpr ⟨(b, other), listed, rfl⟩)
  refine ⟨le, fun same => ?_⟩
  have sorted := Table.select_sorted p alerts
  rw [split] at listed sorted
  rcases List.mem_append.mp listed with early | late
  · have missed := earlier (b, other) early
    simp [top, same] at missed
  · rcases List.mem_cons.mp late with here | later
    · cases here
      exact Nat.le_refl _
    · have ordered := (List.pairwise_append.mp sorted).2.1
      exact Nat.le_of_lt ((List.pairwise_cons.mp ordered).1 (b, other) later)

theorem mostRecent_of_latest {p : AlertRow → Bool} {alerts : List AlertRow} {a : Uuid}
    {alert : AlertRow} (latest : LatestAlert p alerts a alert) :
    mostRecent (Table.select p alerts) = some (a, alert) := by
  have listed : (a, alert) ∈ Table.select p alerts := Table.mem_select.mpr ⟨latest.1, latest.2.1⟩
  have top : ((Table.select p alerts).map (·.2.receivedAt)).max? = some alert.receivedAt := by
    refine List.max?_eq_some_iff.mpr ⟨List.mem_map.mpr ⟨_, listed, rfl⟩, ?_⟩
    intro t member
    obtain ⟨⟨b, other⟩, listed', rfl⟩ := List.mem_map.mp member
    obtain ⟨row, holds⟩ := Table.mem_select.mp listed'
    exact (latest.2.2 b other row holds).1
  cases found : mostRecent (Table.select p alerts) with
  | none =>
    have missed := List.find?_eq_none.mp found (a, alert) listed
    simp [top] at missed
  | some x =>
    obtain ⟨b, other⟩ := x
    obtain ⟨rfl, rfl⟩ := latest.unique (latest_of_mostRecent found)
    rfl

theorem mostRecent_none {p : AlertRow → Bool} {alerts : List AlertRow} :
    mostRecent (Table.select p alerts) = none ↔
      ∀ (b : Uuid) (other : AlertRow), alerts[b]? = some other → p other = false := by
  constructor
  · intro none_ b other row
    by_contra holds
    have listed : (b, other) ∈ Table.select p alerts :=
      Table.mem_select.mpr ⟨row, by simpa using holds⟩
    have missed := List.find?_eq_none.mp none_
    cases top : ((Table.select p alerts).map (·.2.receivedAt)).max? with
    | none =>
      rw [List.max?_eq_none_iff, List.map_eq_nil_iff] at top
      rw [top] at listed
      cases listed
    | some newest =>
      obtain ⟨x, member, received⟩ := List.mem_map.mp (List.max?_eq_some_iff.mp top).1
      have there := missed x member
      simp [top, received] at there
  · intro all
    have empty : Table.select p alerts = [] := by
      refine List.eq_nil_iff_forall_not_mem.mpr ?_
      rintro ⟨b, other⟩ listed
      obtain ⟨row, holds⟩ := Table.mem_select.mp listed
      rw [all b other row] at holds
      cases holds
    simp [mostRecent, empty]

/-! ## What a commit changes -/

def linksAlert : Plan → Bool
  | .link .. => true
  | _ => false

/-- An incident keeps its identity, and does not open again. -/
def SameIncident (r r' : IncidentRow) : Prop :=
  r'.service = r.service ∧ r'.environment = r.environment ∧
    r'.correlationKey = r.correlationKey ∧ (isClosed r.status = true → isClosed r'.status = true)

/-- The rows of the incidents: the plan's moves, and one may be new. -/
structure IncidentsWrote (env : Env) (d : Delivery) (plan : Plan) (t t' : List IncidentRow) :
    Prop where
  row : ∀ (j : Uuid) (incident' : IncidentRow), t'[j]? = some incident' →
    t[j]? = some incident' ∨
    (∃ incident, t[j]? = some incident ∧ plan.incident = some j ∧
      SameIncident incident incident') ∨
    (j = t.length ∧ d.insertedKey env = some incident'.correlationKey ∧
      incident'.service = d.command.service ∧ incident'.environment = d.command.environment)
  kept : ∀ (j : Uuid) (incident : IncidentRow), t[j]? = some incident →
    plan.incident ≠ some j → t'[j]? = some incident
  there : ∀ (j : Uuid) (incident : IncidentRow), t[j]? = some incident →
    ∃ incident', t'[j]? = some incident' ∧ SameIncident incident incident'

/-- The alert that a commit inserts; `i` is the place of the next incident. -/
structure NewAlertOf (env : Env) (d : Delivery) (plan : Plan) (i : Uuid) (alert : AlertRow) :
    Prop where
  inserts : d.insertsAlert = true
  source : alert.source = d.command.source
  externalId : alert.externalId = d.command.externalId
  fingerprint : alert.fingerprint = d.fingerprint env
  firing : alert.status = .firing → linksAlert plan = true
  link : ∀ j, alert.incidentId = some j → plan.incident = some j ∨ j = i

/-- The rows of the alerts: one of the plan's incident may end, and one may be new. -/
structure AlertsWrote (env : Env) (d : Delivery) (plan : Plan) (i : Uuid)
    (t t' : List AlertRow) : Prop where
  row : ∀ (b : Uuid) (alert' : AlertRow), t'[b]? = some alert' →
    t[b]? = some alert' ∨
    (∃ alert j, t[b]? = some alert ∧ alert' = alert.ended d.now ∧
      alert.incidentId = some j ∧ plan.incident = some j) ∨
    (b = t.length ∧ NewAlertOf env d plan i alert')
  kept : ∀ (b : Uuid) (alert : AlertRow), t[b]? = some alert →
    (∀ j, alert.incidentId = some j → plan.incident ≠ some j) → t'[b]? = some alert
  there : ∀ (b : Uuid) (alert : AlertRow), t[b]? = some alert →
    t'[b]? = some alert ∨ t'[b]? = some (alert.ended d.now)

theorem SameIncident.refl (r : IncidentRow) : SameIncident r r := ⟨rfl, rfl, rfl, id⟩

theorem SameIncident.touched (r : IncidentRow) (now : Time) : SameIncident r (touched now r) :=
  ⟨rfl, rfl, rfl, id⟩

theorem SameIncident.cancelled (r : IncidentRow) (now : Time) :
    SameIncident r (r.moved now .cancelled true) :=
  ⟨rfl, rfl, rfl, fun _ => rfl⟩

section
variable {env : Env} {d : Delivery} {plan : Plan}

theorem IncidentsWrote.of_same (t : List IncidentRow) : IncidentsWrote env d plan t t :=
  ⟨fun _ _ row => .inl row, fun _ _ row _ => row, fun _ r row => ⟨r, row, .refl r⟩⟩

theorem IncidentsWrote.of_modify {f : IncidentRow → IncidentRow} {i : Uuid}
    (same : ∀ r, SameIncident r (f r)) (locked : plan.incident = some i) (t : List IncidentRow) :
    IncidentsWrote env d plan t (t.modify i f) := by
  refine ⟨?_, ?_, ?_⟩
  · intro j incident' row'
    rcases Table.get_modify.mp row' with ⟨rfl, r, row, rfl⟩ | ⟨_, row⟩
    · exact .inr (.inl ⟨r, row, locked, same r⟩)
    · exact .inl row
  · intro j incident row other
    refine Table.get_modify.mpr (.inr ⟨?_, row⟩)
    rintro rfl
    exact other locked
  · exact Table.Evolves.modify SameIncident.refl same t i

theorem IncidentsWrote.of_insert {r : IncidentRow}
    (key : d.insertedKey env = some r.correlationKey) (service : r.service = d.command.service)
    (environment : r.environment = d.command.environment) (t : List IncidentRow) :
    IncidentsWrote env d plan t (t ++ [r]) := by
  refine ⟨?_, fun _ _ row _ => Table.get_insert.mpr (.inl row),
    Table.Evolves.insert SameIncident.refl t r⟩
  intro j incident' row'
  rcases Table.get_insert.mp row' with row | ⟨rfl, rfl⟩
  · exact .inl row
  · exact .inr (.inr ⟨rfl, key, service, environment⟩)

theorem AlertsWrote.of_same (i : Uuid) (t : List AlertRow) : AlertsWrote env d plan i t t :=
  ⟨fun _ _ row => .inl row, fun _ _ row _ => row, fun _ _ row => .inl row⟩

theorem AlertsWrote.of_modify {a j : Uuid} {alert : AlertRow} (i : Uuid) (t : List AlertRow)
    (ends : t[a]? = some alert) (link : alert.incidentId = some j)
    (locked : plan.incident = some j) :
    AlertsWrote env d plan i t (t.modify a (·.ended d.now)) := by
  refine ⟨?_, ?_, ?_⟩
  · intro b alert' row'
    rcases Table.get_modify.mp row' with ⟨rfl, before, row, rfl⟩ | ⟨_, row⟩
    · rw [ends] at row
      cases row
      exact .inr (.inl ⟨alert, j, ends, rfl, link, locked⟩)
    · exact .inl row
  · intro b other row spared
    refine Table.get_modify.mpr (.inr ⟨?_, row⟩)
    rintro rfl
    rw [ends] at row
    cases row
    exact spared j link locked
  · intro b other row
    by_cases here : b = a
    · exact .inr (Table.get_modify.mpr (.inl ⟨here, other, row, rfl⟩))
    · exact .inl (Table.get_modify.mpr (.inr ⟨here, row⟩))

theorem AlertsWrote.of_insert {i : Uuid} {r : AlertRow} (new : NewAlertOf env d plan i r)
    (t : List AlertRow) : AlertsWrote env d plan i t (t ++ [r]) := by
  refine ⟨?_, fun _ _ row _ => Table.get_insert.mpr (.inl row),
    fun _ _ row => .inl (Table.get_insert.mpr (.inl row))⟩
  intro b alert' row'
  rcases Table.get_insert.mp row' with row | ⟨rfl, rfl⟩
  · exact .inl row
  · exact .inr (.inr ⟨rfl, new⟩)

end

/-- What a commit changes, in both tables. -/
structure Wrote (env : Env) (d : Delivery) (plan : Plan) (s s' : Store) : Prop where
  incidents : IncidentsWrote env d plan s.incidents s'.incidents
  alerts : AlertsWrote env d plan s.incidents.length s.alert.alerts s'.alert.alerts

theorem PlanWritten.wrote {env : Env} {s s' : Store} {d : Delivery} {plan : Plan}
    (written : PlanWritten env d.now s s' d.command (d.fingerprint env) plan)
    (reads : Reads env s d) (ready : d.phase = .ready plan) : Wrote env d plan s s' := by
  obtain ⟨command, now, phase⟩ := d
  cases ready
  cases written with
  | replay a i status incidents alerts =>
    refine ⟨?_, ?_⟩
    · rw [incidents]; exact .of_same _
    · rw [alerts]; exact .of_same _ _
  | unmatched incidents alerts =>
    refine ⟨?_, ?_⟩
    · rw [incidents]; exact .of_same _
    · rw [alerts]
      exact .of_insert ⟨rfl, rfl, rfl, rfl, fun fires => (by cases fires),
        fun _ link => (by cases link)⟩ _
  | ended a i incident remaining stays incidents alerts =>
    obtain ⟨⟨alert, ⟨_, matched, _⟩, link, _⟩, _⟩ := reads
    refine ⟨?_, ?_⟩
    · rw [incidents]; exact .of_same _
    · rw [alerts]
      exact .of_modify _ _ (findAlertToResolve_row matched) link rfl
  | cancelled a i incident stored triaging row version incidents alerts =>
    obtain ⟨⟨alert, ⟨_, matched, _⟩, link, _⟩, _⟩ := reads
    refine ⟨?_, ?_⟩
    · rw [incidents]
      exact .of_modify (fun r => .cancelled r now) rfl _
    · rw [alerts]
      exact .of_modify _ _ (findAlertToResolve_row matched) link rfl
  | joined decision i incident incidents alerts =>
    refine ⟨?_, ?_⟩
    · rw [incidents]
      unfold touchedIf
      split_ifs
      · exact .of_modify (fun r => .touched r now) rfl _
      · exact .of_same _
    · rw [alerts]
      exact .of_insert ⟨rfl, rfl, rfl, rfl, fun _ => rfl, fun j link => (by cases link; exact .inl rfl)⟩ _
  | opened decision incidents alerts =>
    refine ⟨?_, ?_⟩
    · rw [incidents]
      exact .of_insert rfl rfl rfl _
    · rw [alerts]
      exact .of_insert ⟨rfl, rfl, rfl, rfl, fun _ => rfl, fun j link => (by cases link; exact .inr rfl)⟩ _

/-! ## Reads that a commit does not change -/

section
variable {env : Env} {d : Delivery} {plan : Plan} {s s' : Store}

theorem Wrote.existing_some (wrote : Wrote env d plan s s') {command : AlertReceivedCommand}
    {a : Uuid} {alert : AlertRow} (existing : existingAlert s command = some (a, alert)) :
    ∃ alert', existingAlert s' command = some (a, alert') ∧
      (alert' = alert ∨ alert' = alert.ended d.now) := by
  unfold existingAlert at existing ⊢
  obtain ⟨externalId, named, found⟩ := Option.bind_eq_some_iff.mp existing
  obtain ⟨row, holds, earlier⟩ := Table.first_eq_some.mp found
  -- no earlier row comes to match: an alert keeps its source and its external id
  have still : ∀ (j : Nat) (q : AlertRow), j < a → s'.alert.alerts[j]? = some q →
      (q.source == command.source && q.externalId == some externalId) = false := by
    intro j q before row'
    rcases wrote.alerts.row j q row' with old | ⟨r, i, old, rfl, _⟩ | ⟨rfl, _⟩
    · exact earlier j q before old
    · exact earlier j r before old
    · have inside := Table.lt_of_row row
      omega
  simp only [named, Option.bind_some]
  rcases wrote.alerts.there a alert row with same | ended
  · exact ⟨alert, Table.first_eq_some.mpr ⟨same, holds, still⟩, .inl rfl⟩
  · exact ⟨_, Table.first_eq_some.mpr ⟨ended, holds, still⟩, .inr rfl⟩

theorem Wrote.existing_none (wrote : Wrote env d plan s s') {command : AlertReceivedCommand}
    (missing : existingAlert s command = none)
    (other : ¬ (d.insertsAlert = true ∧ command.externalId.isSome = true ∧
      d.command.source = command.source ∧ d.command.externalId = command.externalId)) :
    existingAlert s' command = none := by
  unfold existingAlert at missing ⊢
  cases named : command.externalId with
  | none => rfl
  | some externalId =>
    simp only [named, Option.bind_some] at missing ⊢
    have absent := Table.first_eq_none.mp missing
    refine Table.first_eq_none.mpr fun j q row' => ?_
    rcases wrote.alerts.row j q row' with old | ⟨r, i, old, rfl, _⟩ | ⟨_, new⟩
    · exact absent j q old
    · exact absent j r old
    · by_contra matching
      simp only [Bool.not_eq_false, Bool.and_eq_true, beq_iff_eq] at matching
      refine other ⟨new.inserts, by simp [named], new.source.symm.trans matching.1, ?_⟩
      rw [named, ← matching.2, new.externalId]

/-- The alerts a resolved notification without an external id is looking for. -/
def firesOpen (s : Store) (fingerprint : String) (a : AlertRow) : Bool :=
  a.fingerprint == fingerprint && a.status == .firing &&
    (match a.incidentId.bind (fun id => s.incidents[id]?) with
      | some incident => !isClosed incident.status
      | none => false)

theorem findAlertToResolve_unnamed {command : AlertReceivedCommand} {fingerprint : String}
    (unnamed : command.externalId = none) :
    findAlertToResolve s command fingerprint =
      mostRecent (Table.select (firesOpen s fingerprint) s.alert.alerts) := by
  unfold findAlertToResolve
  simp only [unnamed]
  rfl

theorem firesOpen_eq_true {fingerprint : String} {a : AlertRow} :
    firesOpen s fingerprint a = true ↔ a.fingerprint = fingerprint ∧ a.status = .firing ∧
      ∃ i incident, a.incidentId = some i ∧ s.incidents[i]? = some incident ∧
        isClosed incident.status = false := by
  unfold firesOpen
  cases link : a.incidentId with
  | none => simp
  | some i => cases there : s.incidents[i]? <;> simp [there, and_assoc]

/-- Alerts refer to incidents that are there. -/
def AlertsRefer (s : Store) : Prop :=
  ∀ (a i : Uuid) (alert : AlertRow), s.alert.alerts[a]? = some alert →
    alert.incidentId = some i → i < s.incidents.length

/-- What matches a search after the commit did before, unless it was linked by it. -/
theorem Wrote.firesOpen_before (wrote : Wrote env d plan s s') (refer : AlertsRefer s)
    {fingerprint : String} (other : ¬ (linksAlert plan = true ∧ d.fingerprint env = fingerprint))
    {b : Uuid} {alert : AlertRow} (row' : s'.alert.alerts[b]? = some alert)
    (matching' : firesOpen s' fingerprint alert = true) :
    s.alert.alerts[b]? = some alert ∧ firesOpen s fingerprint alert = true := by
  obtain ⟨named, fires, i, incident', link, there', isOpen⟩ := firesOpen_eq_true.mp matching'
  rcases wrote.alerts.row b alert row' with old | ⟨r, j, old, rfl, _⟩ | ⟨_, new⟩
  · refine ⟨old, firesOpen_eq_true.mpr ⟨named, fires, i, ?_⟩⟩
    have inside := refer b i alert old link
    rcases wrote.incidents.row i incident' there' with there | ⟨incident, there, _, same⟩ | ⟨rfl, _⟩
    · exact ⟨incident', link, there, isOpen⟩
    · refine ⟨incident, link, there, ?_⟩
      cases closed : isClosed incident.status with
      | false => rfl
      | true => rw [same.2.2.2 closed] at isOpen; cases isOpen
    · exact absurd inside (Nat.lt_irrefl _)
  · cases fires
  · exact absurd ⟨new.firing fires, new.fingerprint.symm.trans named⟩ other

theorem Wrote.search_none (wrote : Wrote env d plan s s') (refer : AlertsRefer s)
    {fingerprint : String} (other : ¬ (linksAlert plan = true ∧ d.fingerprint env = fingerprint))
    (missing : mostRecent (Table.select (firesOpen s fingerprint) s.alert.alerts) = none) :
    mostRecent (Table.select (firesOpen s' fingerprint) s'.alert.alerts) = none := by
  have absent := mostRecent_none.mp missing
  refine mostRecent_none.mpr fun b alert row' => ?_
  by_contra matching'
  obtain ⟨row, matching⟩ := wrote.firesOpen_before refer other row' (by simpa using matching')
  rw [absent b alert row] at matching
  cases matching

theorem Wrote.search_some (wrote : Wrote env d plan s s') (refer : AlertsRefer s)
    {fingerprint : String} (other : ¬ (linksAlert plan = true ∧ d.fingerprint env = fingerprint))
    {a : Uuid} {alert : AlertRow} (spared : ∀ i, alert.incidentId = some i → plan.incident ≠ some i)
    (matched : mostRecent (Table.select (firesOpen s fingerprint) s.alert.alerts) =
      some (a, alert)) :
    mostRecent (Table.select (firesOpen s' fingerprint) s'.alert.alerts) = some (a, alert) := by
  obtain ⟨row, matching, latest⟩ := latest_of_mostRecent matched
  obtain ⟨named, fires, i, incident, link, there, isOpen⟩ := firesOpen_eq_true.mp matching
  refine mostRecent_of_latest ⟨wrote.alerts.kept a alert row spared, ?_, ?_⟩
  · exact firesOpen_eq_true.mpr ⟨named, fires, i, incident, link,
      wrote.incidents.kept i incident there (spared i link), isOpen⟩
  · intro b q row' matching'
    obtain ⟨row₀, matching₀⟩ := wrote.firesOpen_before refer other row' matching'
    exact latest b q row₀ matching₀

theorem Wrote.selected_none (wrote : Wrote env d plan s s') {key : String}
    (other : d.insertedKey env ≠ some key) (missing : selectOpenIncident s key = none) :
    selectOpenIncident s' key = none := by
  have absent := Table.first_eq_none.mp missing
  refine Table.first_eq_none.mpr fun j incident' row' => ?_
  rcases wrote.incidents.row j incident' row' with old | ⟨incident, old, _, same⟩ | ⟨_, new, _⟩
  · exact absent j incident' old
  · have before := absent j incident old
    obtain ⟨_, _, sameKey, closes⟩ := same
    rw [sameKey]
    cases named : incident.correlationKey == key with
    | false => rfl
    | true =>
      have closed : isClosed incident.status = true := by simpa [named] using before
      simp [closes closed]
  · by_contra matching
    simp only [Bool.not_eq_false, Bool.and_eq_true, beq_iff_eq] at matching
    rw [matching.1] at new
    exact other new

theorem Wrote.selected_some (wrote : Wrote env d plan s s') {key : String} {i : Uuid}
    {incident : IncidentRow} (spared : plan.incident ≠ some i)
    (selected : selectOpenIncident s key = some (i, incident)) :
    selectOpenIncident s' key = some (i, incident) := by
  obtain ⟨row, holds, earlier⟩ := Table.first_eq_some.mp selected
  refine Table.first_eq_some.mpr ⟨wrote.incidents.kept i incident row spared, holds, ?_⟩
  intro j incident' before row'
  rcases wrote.incidents.row j incident' row' with old | ⟨r, old, _, same⟩ | ⟨rfl, _⟩
  · exact earlier j incident' before old
  · have missed := earlier j r before old
    obtain ⟨_, _, sameKey, closes⟩ := same
    rw [sameKey]
    cases named : r.correlationKey == key with
    | false => rfl
    | true =>
      have closed : isClosed r.status = true := by simpa [named] using missed
      simp [closes closed]
  · have inside := Table.lt_of_row row
    omega

/-- Alerts of an incident that the commit does not lock stay as they are. -/
theorem Wrote.linked_rows (wrote : Wrote env d plan s s') {i : Uuid}
    (inside : i < s.incidents.length) (spared : plan.incident ≠ some i) (b : Uuid)
    (alert : AlertRow) :
    (s.alert.alerts[b]? = some alert ∧ (alert.incidentId == some i) = true) ↔
      (s'.alert.alerts[b]? = some alert ∧ (alert.incidentId == some i) = true) := by
  constructor
  · rintro ⟨row, linked⟩
    refine ⟨wrote.alerts.kept b alert row fun j link => ?_, linked⟩
    rw [link] at linked
    cases beq_iff_eq.mp linked
    exact spared
  · rintro ⟨row', linked⟩
    have link := beq_iff_eq.mp linked
    rcases wrote.alerts.row b alert row' with old | ⟨r, j, _, rfl, before, locked⟩ | ⟨_, new⟩
    · exact ⟨old, linked⟩
    · have same : some j = some i := before.symm.trans link
      rw [← same] at spared
      exact absurd locked spared
    · rcases new.link i link with locked | rfl
      · exact absurd locked spared
      · exact absurd inside (Nat.lt_irrefl _)

theorem Wrote.count_eq (wrote : Wrote env d plan s s') {now : Time} {a i : Uuid}
    (inside : i < s.incidents.length) (spared : plan.incident ≠ some i) :
    countFiringAlerts (markAlertResolved s' now a) i =
      countFiringAlerts (markAlertResolved s now a) i := by
  unfold countFiringAlerts
  rw [alerts_markAlertResolved, alerts_markAlertResolved, List.countP_eq_length_filter,
    List.countP_eq_length_filter]
  congr 1
  refine Table.filter_congr fun b alert => ?_
  have rows := fun q => wrote.linked_rows inside spared b q
  constructor
  · rintro ⟨row', fires⟩
    refine ⟨?_, fires⟩
    have linked : (alert.incidentId == some i) = true := (Bool.and_eq_true_iff.mp fires).1
    rcases Table.get_modify.mp row' with ⟨here, r, before, rfl⟩ | ⟨apart, before⟩
    · exact Table.get_modify.mpr (.inl ⟨here, r, ((rows r).mpr ⟨before, linked⟩).1, rfl⟩)
    · exact Table.get_modify.mpr (.inr ⟨apart, ((rows alert).mpr ⟨before, linked⟩).1⟩)
  · rintro ⟨row, fires⟩
    refine ⟨?_, fires⟩
    have linked : (alert.incidentId == some i) = true := (Bool.and_eq_true_iff.mp fires).1
    rcases Table.get_modify.mp row with ⟨here, r, before, rfl⟩ | ⟨apart, before⟩
    · exact Table.get_modify.mpr (.inl ⟨here, r, ((rows r).mp ⟨before, linked⟩).1, rfl⟩)
    · exact Table.get_modify.mpr (.inr ⟨apart, ((rows alert).mp ⟨before, linked⟩).1⟩)

theorem Wrote.candidates_eq (wrote : Wrote env d plan s s') {service environment : String}
    (spared : ∀ (i : Uuid) (incident : IncidentRow), s.incidents[i]? = some incident →
      incident.service = service → incident.environment = environment →
      isClosed incident.status = false → plan.incident ≠ some i)
    (other : ¬ (d.command.service = service ∧ d.command.environment = environment))
    (now : Time) (lookback : Nat) :
    findOpenIncidentCandidates s' service environment now lookback =
      findOpenIncidentCandidates s service environment now lookback := by
  have rows : ∀ (i : Nat) (incident : IncidentRow),
      (s'.incidents[i]? = some incident ∧ (incident.service == service &&
        incident.environment == environment && !isClosed incident.status) = true) ↔
      (s.incidents[i]? = some incident ∧ (incident.service == service &&
        incident.environment == environment && !isClosed incident.status) = true) := by
    intro i incident
    simp only [Bool.and_eq_true, beq_iff_eq, Bool.not_eq_true']
    constructor
    · rintro ⟨row', ⟨inService, inEnvironment⟩, isOpen⟩
      rcases wrote.incidents.row i incident row' with old | ⟨r, old, locked, same⟩ | ⟨_, _, new⟩
      · exact ⟨old, ⟨inService, inEnvironment⟩, isOpen⟩
      · -- a row of the scope that moved was of the scope before
        obtain ⟨sameService, sameEnvironment, _, closes⟩ := same
        have wasOpen : isClosed r.status = false := by
          cases closed : isClosed r.status with
          | false => rfl
          | true => rw [closes closed] at isOpen; cases isOpen
        exact absurd locked (spared i r old (sameService.symm.trans inService)
          (sameEnvironment.symm.trans inEnvironment) wasOpen)
      · exact absurd ⟨new.1.symm.trans inService, new.2.symm.trans inEnvironment⟩ other
    · rintro ⟨row, ⟨inService, inEnvironment⟩, isOpen⟩
      exact ⟨wrote.incidents.kept i incident row (spared i incident row inService inEnvironment
        isOpen), ⟨inService, inEnvironment⟩, isOpen⟩
  unfold findOpenIncidentCandidates
  simp only
  rw [Table.select_congr rows]
  refine List.flatMap_congr fun x member => ?_
  obtain ⟨i, incident⟩ := x
  obtain ⟨row, inScope⟩ := Table.mem_select.mp member
  simp only [Bool.and_eq_true, beq_iff_eq, Bool.not_eq_true'] at inScope
  have alerts : s'.alert.alerts.filter (fun a => a.incidentId == some i) =
      s.alert.alerts.filter (fun a => a.incidentId == some i) :=
    Table.filter_congr fun b alert => (wrote.linked_rows (Table.lt_of_row row)
      (spared i incident row inScope.1.1 inScope.1.2 inScope.2) b alert).symm
  simp only [alerts]

end

/-! ## Deliveries that do not rely on one another -/

/-- The incident is among the candidates of the delivery's correlation. -/
def correlatesWith (s : Store) (d : Delivery) (i : Uuid) : Bool :=
  s.incidents[i]?.any (fun incident => incident.service == d.command.service &&
    incident.environment == d.command.environment && !isClosed incident.status)

/-- What the delivery has read depends on this incident or its alerts. -/
def reliesOn (s : Store) (d : Delivery) (i : Uuid) : Bool :=
  match d.phase with
  | .decided _ => correlatesWith s d i
  | .ready (.link _ chosen) => correlatesWith s d i || chosen.any (·.1 == i)
  | .found _ alert | .marked _ alert => alert.incidentId == some i
  | .sawIncident _ j _ | .ready (.resolve _ j _ _) => j == i
  | _ => false

/-- It has looked for the latest firing alert of this fingerprint. -/
def searchedFor (env : Env) (d : Delivery) (fingerprint : String) : Bool :=
  match d.phase with
  | .missed | .found .. | .marked .. | .sawIncident .. | .ready .unmatched
  | .ready (.resolve ..) => d.command.externalId.isNone && d.fingerprint env == fingerprint
  | _ => false

/-- The plan changes something that the other delivery has read. -/
def entangled (env : Env) (s : Store) (d : Delivery) (plan : Plan) (other : Delivery) : Bool :=
  plan.incident.any (reliesOn s other) ||
    (linksAlert plan && searchedFor env other (d.fingerprint env))

section
variable {env : Env} {d other : Delivery} {plan : Plan} {s s' : Store}

theorem not_relied_of_independent (independent : entangled env s d plan other = false) {i : Uuid}
    (relies : reliesOn s other i = true) : plan.incident ≠ some i := by
  intro locked
  simp [entangled, locked, relies] at independent

theorem not_searched_of_independent (independent : entangled env s d plan other = false)
    (searched : ∀ fingerprint, searchedFor env other fingerprint =
      (other.command.externalId.isNone && other.fingerprint env == fingerprint))
    (unnamed : other.command.externalId = none) :
    ¬ (linksAlert plan = true ∧ d.fingerprint env = other.fingerprint env) := by
  rintro ⟨links, same⟩
  simp [entangled, links, searched, unnamed, same] at independent

theorem Known.after (wrote : Wrote env d plan s s') {command : AlertReceivedCommand} {a : Uuid}
    {i : Option Uuid} (known : Known s command a i) : Known s' command a i := by
  obtain ⟨alert, existing, link, ended⟩ := known
  obtain ⟨alert', existing', same | same⟩ := wrote.existing_some existing
  · exact ⟨alert', existing', by rw [same]; exact link, by rw [same]; exact ended⟩
  · exact ⟨alert', existing', by rw [same]; exact link, fun _ => by rw [same]; rfl⟩

/-- The alert that another delivery ends stays the one it would end. -/
theorem Ending.after (wrote : Wrote env d plan s s') (refer : AlertsRefer s)
    (apart : ¬ (linksAlert plan = true ∧ d.fingerprint env = other.fingerprint env) ∨
      other.command.externalId.isSome = true)
    {a : Uuid} {alert : AlertRow} (spared : ∀ i, alert.incidentId = some i → plan.incident ≠ some i)
    (ending : Ending env s other a alert) : Ending env s' other a alert := by
  obtain ⟨resolved, matched, fires⟩ := ending
  refine ⟨resolved, ?_, fires⟩
  cases named : other.command.externalId with
  | none =>
    rw [findAlertToResolve_unnamed named] at matched ⊢
    exact wrote.search_some refer (apart.resolve_right (by simp [named])) spared matched
  | some externalId =>
    have external : other.command.externalId.isSome = true := by simp [named]
    rw [findAlertToResolve_of_external _ external] at matched ⊢
    obtain ⟨alert', existing', _⟩ := wrote.existing_some matched
    have row' : s'.alert.alerts[a]? = some alert := by
      unfold existingAlert at matched
      obtain ⟨_, _, found⟩ := Option.bind_eq_some_iff.mp matched
      exact wrote.alerts.kept a alert (Table.first_some found).1 spared
    have same : alert' = alert := by
      unfold existingAlert at existing'
      obtain ⟨_, _, found⟩ := Option.bind_eq_some_iff.mp existing'
      have here := (Table.first_some found).1
      rw [row'] at here
      exact (Option.some.inj here).symm
    rw [existing', same]

theorem EndingOf.after (wrote : Wrote env d plan s s') (refer : AlertsRefer s)
    (apart : ¬ (linksAlert plan = true ∧ d.fingerprint env = other.fingerprint env) ∨
      other.command.externalId.isSome = true)
    {a i : Uuid} {incident : IncidentRow} (spared : plan.incident ≠ some i)
    (ending : EndingOf env s other a i incident) : EndingOf env s' other a i incident := by
  obtain ⟨alert, ends, link, there⟩ := ending
  refine ⟨alert, Ending.after wrote refer apart ?_ ends, link,
    wrote.incidents.kept i incident there spared⟩
  intro j linked
  rw [link] at linked
  cases linked
  exact spared

theorem CorrelatedNow.after (wrote : Wrote env d plan s s')
    (spared : ∀ i, correlatesWith s other i = true → plan.incident ≠ some i)
    (scope : ¬ (d.command.service = other.command.service ∧
      d.command.environment = other.command.environment))
    (key : ¬ (d.insertsAlert = true ∧ other.command.externalId.isSome = true ∧
      d.command.source = other.command.source ∧
      d.command.externalId = other.command.externalId))
    {decision : CorrelationDecision} (decided : CorrelatedNow env s other decision) :
    CorrelatedNow env s' other decision := by
  obtain ⟨fires, missing, same⟩ := decided
  refine ⟨fires, wrote.existing_none missing key, ?_⟩
  rw [same]
  unfold correlationDecision
  rw [wrote.candidates_eq ?_ scope]
  intro i incident there service environment isOpen
  exact spared i (by simp [correlatesWith, there, service, environment, isOpen])

theorem Reads.after (wrote : Wrote env d plan s s') (refer : AlertsRefer s)
    (compatible : ¬ conflict env d other) (locked : d.holdsLock = true)
    (independent : entangled env s d plan other = false) (reads : Reads env s other) :
    Reads env s' other := by
  have relied : ∀ i, reliesOn s other i = true → plan.incident ≠ some i :=
    fun i => not_relied_of_independent independent
  obtain ⟨command, now, phase⟩ := other
  have scope : Delivery.holdsLock ⟨command, now, phase⟩ = true →
      ¬ (d.command.service = command.service ∧ d.command.environment = command.environment) := by
    rintro holds ⟨service, environment⟩
    exact compatible (.inl ⟨locked, holds, by simp [Delivery.sameLock, service, environment]⟩)
  have key : Delivery.insertsAlert ⟨command, now, phase⟩ = true →
      ¬ (d.insertsAlert = true ∧ command.externalId.isSome = true ∧
        d.command.source = command.source ∧ d.command.externalId = command.externalId) := by
    rintro inserts ⟨mine, external, source, same⟩
    exact compatible (.inr (.inl ⟨mine, inserts, same ▸ external, source, same⟩))
  have unsearched := not_searched_of_independent independent
  have searches : (∀ fingerprint, searchedFor env ⟨command, now, phase⟩ fingerprint =
        (command.externalId.isNone &&
          Delivery.fingerprint env ⟨command, now, phase⟩ == fingerprint)) →
      ¬ (linksAlert plan = true ∧
        d.fingerprint env = Delivery.fingerprint env ⟨command, now, phase⟩) ∨
      command.externalId.isSome = true := by
    intro searched
    cases named : command.externalId with
    | none => exact .inl (unsearched searched named)
    | some externalId => exact .inr rfl
  cases phase with
  | begun => trivial
  | locked => trivial
  | answered result => trivial
  | failed => trivial
  | known a i => exact Known.after wrote reads
  | inserted => exact ⟨reads.1, wrote.existing_none reads.2 (key rfl)⟩
  | decided decision => exact CorrelatedNow.after wrote relied (scope rfl) (key rfl) reads
  | missed =>
    refine ⟨reads.1, fun unnamed => ?_⟩
    have missing := reads.2 unnamed
    rw [findAlertToResolve_unnamed unnamed] at missing ⊢
    exact wrote.search_none refer (unsearched (fun _ => rfl) unnamed) missing
  | found a alert =>
    exact Ending.after wrote refer (searches fun _ => rfl)
      (fun i link => relied i (by simp [reliesOn, link])) reads
  | marked a alert =>
    exact Ending.after wrote refer (searches fun _ => rfl)
      (fun i link => relied i (by simp [reliesOn, link])) reads
  | sawIncident a i incident =>
    exact EndingOf.after wrote refer (searches fun _ => rfl)
      (relied i (by simp [reliesOn])) reads
  | ready planned =>
    cases planned with
    | replay a i status => exact Known.after wrote reads
    | unmatched =>
      refine ⟨reads.1, ?_⟩
      have missing := reads.2
      cases named : command.externalId with
      | none =>
        rw [findAlertToResolve_unnamed named] at missing ⊢
        exact wrote.search_none refer (unsearched (fun _ => rfl) named) missing
      | some externalId =>
        have external : command.externalId.isSome = true := by simp [named]
        rw [findAlertToResolve_of_external _ external] at missing ⊢
        exact wrote.existing_none missing (key rfl)
    | resolve a i incident remaining =>
      obtain ⟨ending, counted⟩ := reads
      have spared : plan.incident ≠ some i := relied i (by simp [reliesOn])
      refine ⟨EndingOf.after wrote refer (searches fun _ => rfl) spared ending, ?_⟩
      obtain ⟨alert, _, _, there⟩ := ending
      rw [wrote.count_eq (Table.lt_of_row there) spared]
      exact counted
    | link decision chosen =>
      obtain ⟨decided, chosen'⟩ := reads
      have spared : ∀ i, correlatesWith s ⟨command, now, .ready (.link decision chosen)⟩ i = true →
          plan.incident ≠ some i :=
        fun i correlates => relied i (Bool.or_eq_true_iff.mpr (.inl correlates))
      refine ⟨CorrelatedNow.after wrote spared (scope rfl) (key rfl) decided, ?_⟩
      cases chosen with
      | none =>
        refine ⟨chosen'.1, wrote.selected_none (fun mine => ?_) chosen'.2⟩
        exact compatible (.inr (.inr ⟨_, mine, rfl⟩))
      | some joined =>
        obtain ⟨i, incident⟩ := joined
        have spared : plan.incident ≠ some i := relied i (by simp [reliesOn])
        obtain ⟨there, how⟩ := chosen'
        exact ⟨wrote.incidents.kept i incident there spared,
          how.imp id fun isNew => ⟨isNew.1, wrote.selected_some spared isNew.2⟩⟩

end

/-! ## The ledger -/

/-- The store with other entries in its ledger of processed commands. -/
def withLedger (s : Store) (ledger : List ProcessedCommandRow) : Store :=
  { s with alert := { s.alert with processedCommands := ledger } }

def ledgerKeys (s : Store) : List String := s.alert.processedCommands.map (·.idempotencyKey)

theorem getProcessedCommand_none {s : Store} {key : String} :
    getProcessedCommand s key = none ↔ key ∉ ledgerKeys s := by
  simp only [getProcessedCommand, List.find?_eq_none, ledgerKeys, List.mem_map, beq_iff_eq]
  constructor
  · rintro absent ⟨row, member, same⟩
    exact absent row member same
  · exact fun absent row member same => absent ⟨row, member, same⟩

theorem markAlertResolved_withLedger (s : Store) (ledger : List ProcessedCommandRow) (now : Time)
    (a : Uuid) : markAlertResolved (withLedger s ledger) now a =
      withLedger (markAlertResolved s now a) ledger := by
  have same : (withLedger s ledger).alert.alerts[a]? = s.alert.alerts[a]? := rfl
  unfold markAlertResolved
  rw [same]
  cases s.alert.alerts[a]? <;> rfl

theorem touchIncident_withLedger (s : Store) (ledger : List ProcessedCommandRow) (now : Time)
    (i : Uuid) : touchIncident (withLedger s ledger) now i =
      withLedger (touchIncident s now i) ledger := by
  have same : (withLedger s ledger).incidents[i]? = s.incidents[i]? := rfl
  unfold touchIncident
  rw [same]
  cases s.incidents[i]? <;> rfl

theorem transition_withLedger {s s₁ : Store} {now : Time} {i : Uuid} {incident moved : IncidentRow}
    {toStatus : IncidentStatus} {closes : Bool}
    (transitioned : transitionIncidentStatus s now i incident toStatus closes = some (moved, s₁))
    (ledger : List ProcessedCommandRow) :
    transitionIncidentStatus (withLedger s ledger) now i incident toStatus closes =
      some (moved, withLedger s₁ ledger) := by
  have row : (withLedger s ledger).incidents[i]? = s.incidents[i]? := rfl
  unfold transitionIncidentStatus at transitioned ⊢
  rw [row]
  split at transitioned
  · cases transitioned
  · simp only
    split_ifs at transitioned ⊢
    cases transitioned
    rfl

/-- What a plan writes does not depend on what the ledger says. -/
theorem writePlan_withLedger {env : Env} {now : Time} {s s' : Store}
    {command : AlertReceivedCommand} {fingerprint : String} {plan : Plan}
    {result : AlertReceivedResult}
    (written : writePlan env now s command fingerprint plan = .ok (result, s'))
    (ledger : List ProcessedCommandRow) :
    writePlan env now (withLedger s ledger) command fingerprint plan =
      .ok (result, withLedger s' ledger) := by
  cases plan with
  | replay a i status => cases written; rfl
  | unmatched => cases written; rfl
  | resolve a i incident remaining =>
    simp only [writePlan, resolveAlert] at written ⊢
    rw [markAlertResolved_withLedger]
    split_ifs at written ⊢ with last
    · simp only [bind_eq_ok, found_eq_ok, pure_eq_ok] at written ⊢
      obtain ⟨⟨moved, s₁⟩, transitioned, written⟩ := written
      refine ⟨(moved, withLedger s₁ ledger), ?_, by cases written; rfl⟩
      exact transition_withLedger transitioned ledger
    · cases written; rfl
  | link decision chosen =>
    cases chosen with
    | none => cases written; rfl
    | some joined =>
      obtain ⟨i, incident⟩ := joined
      simp only [writePlan] at written ⊢
      rw [touchIncident_withLedger]
      split_ifs at written ⊢ <;> cases written <;> rfl

theorem Reads.withLedger {env : Env} {s : Store} {d : Delivery} (reads : Reads env s d)
    (ledger : List ProcessedCommandRow) : Reads env (withLedger s ledger) d := by
  obtain ⟨command, now, phase⟩ := d
  cases phase with
  | ready plan =>
    cases plan with
    | link decision chosen => cases chosen <;> exact reads
    | resolve a i incident remaining =>
      refine ⟨reads.1, ?_⟩
      rw [markAlertResolved_withLedger]
      exact reads.2
    | _ => exact reads
  | _ => exact reads

/-! ## One after another -/

/-- The store after commands that are handled one after another, each alone. -/
def inOrder (env : Env) (s : Store) (order : List (Time × AlertReceivedCommand)) : Store :=
  order.foldl (fun s c => match handleAlertReceived env c.1 s c.2 with
    | .ok (_, s') => s'
    | .error _ => s) s

/-- A commit is the next command in order. -/
theorem inOrder_commit {env : Env} {start s s' : Store} {order : List (Time × AlertReceivedCommand)}
    {d : Delivery} {plan : Plan} {result : AlertReceivedResult}
    (serial : s = withLedger (inOrder env start order) s.alert.processedCommands)
    (keys : ledgerKeys s = ledgerKeys (inOrder env start order))
    (reads : Reads env s d) (ready : d.phase = .ready plan)
    (fresh : getProcessedCommand s d.command.idempotencyKey = none)
    (written : writePlan env d.now s d.command (d.fingerprint env) plan = .ok (result, s')) :
    ∃ result', inOrder env start (order ++ [(d.now, d.command)]) =
      recorded (withLedger s' (inOrder env start order).alert.processedCommands) d.command
        result' := by
  have same : inOrder env start order =
      withLedger s (inOrder env start order).alert.processedCommands := by
    rw [serial]
    rfl
  have fresh' : getProcessedCommand (inOrder env start order) d.command.idempotencyKey = none := by
    rw [getProcessedCommand_none, ← keys, ← getProcessedCommand_none]
    exact fresh
  have written' := writePlan_withLedger written (inOrder env start order).alert.processedCommands
  rw [← same] at written'
  have reads' : Reads env (inOrder env start order) d := by
    rw [same]
    exact reads.withLedger _
  obtain ⟨result', handled⟩ := handle_of_reads reads' ready fresh' written'
  refine ⟨result', ?_⟩
  rw [inOrder, List.foldl_concat, ← inOrder]
  simp only [handled]

theorem processedCommands_of_plan {env : Env} {now : Time} {s s' : Store}
    {command : AlertReceivedCommand} {fingerprint : String} {plan : Plan}
    {result : AlertReceivedResult}
    (written : writePlan env now s command fingerprint plan = .ok (result, s')) :
    s'.alert.processedCommands = s.alert.processedCommands := by
  have same : withLedger s s.alert.processedCommands = s := rfl
  have again := writePlan_withLedger written s.alert.processedCommands
  rw [same, written] at again
  have equal : s' = withLedger s' s.alert.processedCommands :=
    congrArg Prod.snd (Except.ok.inj again)
  rw [equal]
  rfl

/-! ## Runs -/

/-- Nobody relies on what the commit of this event changes. -/
def independent (env : Env) (x : Exchange) : DeliveryEvent → Bool
  | .advance k =>
    match x.deliveries[k]? with
    | none => true
    | some d =>
      match d.phase with
      | .ready plan => (getProcessedCommand x.store d.command.idempotencyKey).isSome ||
          !x.another k (entangled env x.store d plan)
      | _ => true
  | _ => true

structure SerialSound (env : Env) (start : Store) (x : Exchange) : Prop where
  apart : Table.Exclusive (conflict env) x.deliveries
  refer : AlertsRefer x.store
  reads : Table.Every (fun _ d => Reads env x.store d) x.deliveries
  keys : ledgerKeys x.store = ledgerKeys (inOrder env start x.order)
  serial : x.store = withLedger (inOrder env start x.order) x.store.alert.processedCommands

theorem Reads.atRest {env : Env} {s : Store} {d : Delivery} (rest : AtRest d) : Reads env s d := by
  rcases rest with phase | phase | ⟨result, phase⟩ <;> simp [Reads, phase]

theorem PlanWritten.refer {env : Env} {s s' : Store} {d : Delivery} {plan : Plan}
    (written : PlanWritten env d.now s s' d.command (d.fingerprint env) plan)
    (reads : Reads env s d) (ready : d.phase = .ready plan) (refer : AlertsRefer s) :
    AlertsRefer s' := by
  obtain ⟨command, now, phase⟩ := d
  cases ready
  have ended : ∀ {a b i : Uuid} {alert : AlertRow},
      (s.alert.alerts.modify a (·.ended now))[b]? = some alert → alert.incidentId = some i →
      i < s.incidents.length := by
    intro a b i alert row link
    rcases Table.get_modify.mp row with ⟨_, before, old, rfl⟩ | ⟨_, old⟩
    · exact refer b i before old link
    · exact refer b i alert old link
  intro b i alert row link
  cases written with
  | replay a j status incidents alerts =>
    rw [alerts] at row
    rw [incidents]
    exact refer b i alert row link
  | unmatched incidents alerts =>
    rw [alerts] at row
    rw [incidents]
    rcases Table.get_insert.mp row with row | ⟨_, rfl⟩
    · exact refer b i alert row link
    · cases link
  | ended a j incident remaining stays incidents alerts =>
    rw [alerts] at row
    rw [incidents]
    exact ended row link
  | cancelled a j incident stored triaging there version incidents alerts =>
    rw [alerts] at row
    rw [incidents, List.length_modify]
    exact ended row link
  | joined decision j incident incidents alerts =>
    rw [alerts] at row
    have length : s'.incidents.length = s.incidents.length := by
      rw [incidents]
      unfold touchedIf
      split_ifs
      · exact List.length_modify ..
      · rfl
    rw [length]
    rcases Table.get_insert.mp row with row | ⟨_, rfl⟩
    · exact refer b i alert row link
    · cases link
      exact Table.lt_of_row reads.2.1
  | opened decision incidents alerts =>
    rw [alerts] at row
    rw [incidents, List.length_append, List.length_singleton]
    rcases Table.get_insert.mp row with row | ⟨_, rfl⟩
    · exact Nat.lt_succ_of_lt (refer b i alert row link)
    · cases link
      exact Nat.lt_succ_self _

/-- Reads do not depend on the ledger, so neither on the entry that a commit adds. -/
theorem Reads.recorded {env : Env} {s : Store} {d : Delivery} (reads : Reads env s d)
    (command : AlertReceivedCommand) (result : AlertReceivedResult) :
    Reads env (recorded s command result) d :=
  reads.withLedger _

theorem step_serial {env : Env} {held : List Uuid} {start : Store} {x : Exchange}
    {e : DeliveryEvent} (alone : independent env x e = true) (sound : SerialSound env start x) :
    SerialSound env start (x.step env held e) := by
  have reads : Table.Every (fun _ d => Reads env (x.step env held e).store d)
      (x.step env held e).deliveries := by
    refine step_deliveries (P := Reads env) sound.reads ?_ ?_ ?_
    · exact fun s d rest => .atRest rest
    · exact fun k d phase event row read reads => read.reads reads
    · intro k d plan result s j other event row ready free written found different readsOther
      have wrote := (plan_written written).wrote (sound.reads k d row) ready
      have compatible := sound.apart k j d other row found (Ne.symm different)
      have locked : d.holdsLock = true := by simp [Delivery.holdsLock, ready]
      have spared : entangled env x.store d plan other = false := by
        subst event
        simp only [independent, row, ready, free, Option.isSome_none, Bool.false_or,
          Bool.not_eq_true'] at alone
        cases clash : entangled env x.store d plan other with
        | false => rfl
        | true =>
          rw [another_of_row found different clash] at alone
          cases alone
      exact (Reads.after wrote sound.refer compatible locked spared readsOther).recorded _ _
  cases step_move env held x e with
  | waits same => rw [same]; exact sound
  | arrives d phase moved =>
    exact ⟨step_exclusive sound.apart, by rw [moved]; exact sound.refer, reads,
      by rw [moved]; exact sound.keys, by rw [moved]; exact sound.serial⟩
  | reads k d event row moved =>
    exact ⟨step_exclusive sound.apart, by rw [moved]; exact sound.refer, reads,
      by rw [moved]; exact sound.keys, by rw [moved]; exact sound.serial⟩
  | stops k d row unanswered moved =>
    exact ⟨step_exclusive sound.apart, by rw [moved]; exact sound.refer, reads,
      by rw [moved]; exact sound.keys, by rw [moved]; exact sound.serial⟩
  | loses k d winner row ready taken moved =>
    exact ⟨step_exclusive sound.apart, by rw [moved]; exact sound.refer, reads,
      by rw [moved]; exact sound.keys, by rw [moved]; exact sound.serial⟩
  | commits k d plan result s event row ready free written moved =>
    have wrote := (plan_written written).refer (sound.reads k d row) ready sound.refer
    have ledger := processedCommands_of_plan written
    obtain ⟨result', ordered⟩ := inOrder_commit sound.serial sound.keys (sound.reads k d row) ready
      free written
    refine ⟨step_exclusive sound.apart, ?_, reads, ?_, ?_⟩
    · rw [moved]
      exact wrote
    · rw [moved]
      simp only [ordered]
      have keys := sound.keys
      unfold ledgerKeys at keys ⊢
      simp [Verified.recorded, Verified.withLedger, ledger, keys]
    · rw [moved]
      simp only [ordered]
      rfl

/-! ## Answers -/

/-- Every answer is the one on record, and the ledger is that of the commands in order. -/
structure AnswersSound (start : Store) (x : Exchange) : Prop where
  answered : Table.Every (fun _ d => ∀ result, d.phase = .answered result →
    ∃ row, getProcessedCommand x.store d.command.idempotencyKey = some row ∧
      row.result = result) x.deliveries
  ledger : ledgerKeys x.store = ledgerKeys start ++ x.order.map (·.2.idempotencyKey)
  distinct : (x.order.map (·.2.idempotencyKey)).Nodup
  new : ∀ c ∈ x.order, getProcessedCommand start c.2.idempotencyKey = none
  delivered : ∀ c ∈ x.order, ∃ d ∈ x.deliveries, d.command = c.2 ∧ d.now = c.1

theorem start_answers (start : Store) : AnswersSound start (.start start) :=
  ⟨Table.Every.nil, by simp [Exchange.start], List.nodup_nil, by simp [Exchange.start],
    by simp [Exchange.start]⟩

/-- An entry on record stays the entry of its key. -/
theorem getProcessedCommand_recorded {s s' : Store} {key : String} {row : ProcessedCommandRow}
    (ledger : s'.alert.processedCommands = s.alert.processedCommands)
    (there : getProcessedCommand s key = some row) (command : AlertReceivedCommand)
    (result : AlertReceivedResult) :
    getProcessedCommand (recorded s' command result) key = some row := by
  unfold getProcessedCommand at there ⊢
  simp only [recorded, ledger, List.find?_append, there, Option.some_or]

theorem put_delivered {x : Exchange} {k : Nat} {d : Delivery} {phase : DeliveryPhase}
    (row : x.deliveries[k]? = some d) {c : Time × AlertReceivedCommand}
    (delivered : ∃ d ∈ x.deliveries, d.command = c.2 ∧ d.now = c.1) :
    ∃ d' ∈ x.deliveries.set k { d with phase }, d'.command = c.2 ∧ d'.now = c.1 := by
  obtain ⟨d', member, command, now⟩ := delivered
  obtain ⟨j, found⟩ := List.getElem?_of_mem member
  by_cases here : j = k
  · subst here
    rw [row] at found
    cases found
    exact ⟨_, List.mem_of_getElem? ((Table.get_put row).mpr (.inl ⟨rfl, rfl⟩)), command, now⟩
  · exact ⟨d', List.mem_of_getElem? ((Table.get_put row).mpr (.inr ⟨here, found⟩)), command, now⟩

theorem nextPhase_answered {env : Env} {x : Exchange} {k : Nat} {d : Delivery}
    {result : AlertReceivedResult} (answered : x.nextPhase env k d = .answered result) :
    d.phase = .answered result := by
  have read := nextPhase_read env x k d
  rw [answered] at read
  cases phase : d.phase with
  | answered r =>
    rw [phase] at read
    cases read
    rfl
  | _ =>
    rw [phase] at read
    cases read

theorem AnswersSound.put {start : Store} {x : Exchange} (sound : AnswersSound start x) {k : Nat}
    {d : Delivery} {phase : DeliveryPhase} (row : x.deliveries[k]? = some d)
    (answer : ∀ result, phase = .answered result →
      ∃ row, getProcessedCommand x.store d.command.idempotencyKey = some row ∧
        row.result = result) : AnswersSound start (x.put k d phase) :=
  ⟨sound.answered.put row answer, sound.ledger, sound.distinct, sound.new,
    fun c member => put_delivered row (sound.delivered c member)⟩

theorem step_answers {env : Env} {held : List Uuid} {start : Store} {x : Exchange}
    {e : DeliveryEvent} (sound : AnswersSound start x) :
    AnswersSound start (x.step env held e) := by
  cases step_move env held x e with
  | waits same => rw [same]; exact sound
  | arrives d phase moved =>
    rw [moved]
    refine ⟨sound.answered.insert ?_, sound.ledger, sound.distinct, sound.new, ?_⟩
    · intro result answered
      rcases phase with ⟨begun, _⟩ | ⟨row, there, same⟩
      · rw [begun] at answered
        cases answered
      · rw [same] at answered
        cases answered
        exact ⟨row, there, rfl⟩
    · intro c member
      obtain ⟨d', listed, same⟩ := sound.delivered c member
      exact ⟨d', List.mem_append_left _ listed, same⟩
  | reads k d event row moved =>
    rw [moved]
    exact sound.put row fun result answered =>
      sound.answered k d row result (nextPhase_answered answered)
  | stops k d row unanswered moved =>
    rw [moved]
    exact sound.put row fun result answered => by cases answered
  | loses k d winner row ready taken moved =>
    rw [moved]
    refine sound.put row fun result answered => ?_
    cases answered
    exact ⟨winner, taken, rfl⟩
  | commits k d plan result s event row ready free written moved =>
    have ledger := processedCommands_of_plan written
    have fresh := getProcessedCommand_none.mp free
    rw [sound.ledger, List.mem_append, not_or] at fresh
    rw [moved]
    refine ⟨?_, ?_, ?_, ?_, ?_⟩
    · intro j other found answer answered
      rcases (Table.get_put row).mp found with ⟨_, rfl⟩ | ⟨_, old⟩
      · cases answered
        refine ⟨⟨d.command.idempotencyKey, result⟩, ?_, rfl⟩
        unfold getProcessedCommand at free ⊢
        simp [recorded, ledger, List.find?_append, free]
      · obtain ⟨entry, there, same⟩ := sound.answered j other old answer answered
        exact ⟨entry, getProcessedCommand_recorded ledger there _ _, same⟩
    · have before := sound.ledger
      unfold ledgerKeys at before ⊢
      simp [recorded, ledger, before]
    · simp only [List.map_append, List.map_cons, List.map_nil]
      refine List.nodup_append.mpr ⟨sound.distinct, List.nodup_singleton _, ?_⟩
      rintro key member _ single rfl
      rw [List.mem_singleton.mp single] at member
      exact fresh.2 member
    · intro c member
      rcases List.mem_append.mp member with old | new
      · exact sound.new c old
      · cases List.mem_singleton.mp new
        exact getProcessedCommand_none.mpr fresh.1
    · intro c member
      rcases List.mem_append.mp member with old | new
      · exact put_delivered row (sound.delivered c old)
      · cases List.mem_singleton.mp new
        exact ⟨_, List.mem_of_getElem? ((Table.get_put row).mpr (.inl ⟨rfl, rfl⟩)), rfl, rfl⟩

/-- Deliveries of one key are answered alike, and what is committed, the recorded answers
apart, is what the commands leave that are handled once each, in the order of their keys'
first commits. -/
structure DeliveredOnce (env : Env) (start : Store) (x : Exchange) : Prop where
  sameAnswer : ∀ (j k : Nat) (d other : Delivery) (result result' : AlertReceivedResult),
    x.deliveries[j]? = some d → x.deliveries[k]? = some other →
    d.command.idempotencyKey = other.command.idempotencyKey →
    d.phase = .answered result → other.phase = .answered result' → result = result'
  onRecord : ∀ (k : Nat) (d : Delivery) (result : AlertReceivedResult),
    x.deliveries[k]? = some d → d.phase = .answered result →
    d.command.idempotencyKey ∈ ledgerKeys start ++ x.order.map (·.2.idempotencyKey)
  distinct : (x.order.map (·.2.idempotencyKey)).Nodup
  new : ∀ c ∈ x.order, getProcessedCommand start c.2.idempotencyKey = none
  delivered : ∀ c ∈ x.order, ∃ d ∈ x.deliveries, d.command = c.2 ∧ d.now = c.1
  serial : x.store = withLedger (inOrder env start x.order) x.store.alert.processedCommands

theorem AnswersSound.deliveredOnce {env : Env} {start : Store} {x : Exchange}
    (answers : AnswersSound start x)
    (serial : x.store = withLedger (inOrder env start x.order) x.store.alert.processedCommands) :
    DeliveredOnce env start x where
  sameAnswer := by
    intro j k d other result result' row found same answered answered'
    obtain ⟨entry, there, rfl⟩ := answers.answered j d row result answered
    obtain ⟨entry', there', rfl⟩ := answers.answered k other found result' answered'
    rw [same, there'] at there
    cases there
    rfl
  onRecord := by
    intro k d result row answered
    obtain ⟨entry, there, _⟩ := answers.answered k d row result answered
    rw [← answers.ledger]
    by_contra absent
    rw [getProcessedCommand_none.mpr absent] at there
    cases there
  distinct := answers.distinct
  new := answers.new
  delivered := answers.delivered
  serial := serial

theorem start_serial (env : Env) {start : Store} (refer : AlertsRefer start) :
    SerialSound env start (.start start) :=
  ⟨Table.Exclusive.nil, refer, Table.Every.nil, rfl, rfl⟩

/-- Over every interleaving of deliveries in which nobody relies on what another one's
commit changes, each key is delivered once. -/
theorem deliveries_are_serial (env : Env) {start : Store} (refer : AlertsRefer start)
    {events : List DeliveryEvent}
    (met : Machine.StepsMeet (fun x e => independent env x e = true) (Exchange.step env [])
      (.start start) events) :
    DeliveredOnce env start (exchangeFrom env start events) := by
  have answers : AnswersSound start (exchangeFrom env start events) :=
    Machine.state_invariant (start_answers start) (fun _ _ sound => step_answers sound) events
  have sound : SerialSound env start (exchangeFrom env start events) :=
    Machine.invariant_of_stepsMeet (start_serial env refer)
      (fun _ _ alone sound => step_serial alone sound) met
  exact answers.deliveredOnce sound.serial

/-- A notification of another service, about the alert of this external id. -/
def checkoutAlert (idempotencyKey externalId : String) (status : AlertStatus) :
    AlertReceivedCommand :=
  { idempotencyKey
    source := .prometheus
    externalId := some externalId
    labels := [("service", "checkout"), ("environment", "production")]
    severity := .critical
    status }

/-- Two services interleaved, one of the commands delivered twice at the same time. -/
def twoServices : List DeliveryEvent :=
  [.deliver 0 (paymentsAlert "k1" "a1" .firing), .deliver 0 (checkoutAlert "k2" "b1" .firing),
   .deliver 1 (paymentsAlert "k1" "a1" .firing),
   .advance 0, .advance 1, .advance 2, .advance 0, .advance 1, .advance 0, .advance 1,
   .advance 1, .advance 0, .advance 0, .advance 1, .advance 2, .advance 2, .advance 2, .advance 2]

theorem deliveries_are_serial_twoServices :
    (exchangeFrom paymentsEnv {} twoServices).order.length = 2 ∧
      DeliveredOnce paymentsEnv {} (exchangeFrom paymentsEnv {} twoServices) := by
  have refer : AlertsRefer {} := fun a i alert row => by simp at row
  exact ⟨by decide +kernel, deliveries_are_serial paymentsEnv refer (by decide +kernel)⟩

/-- A firing alert has chosen the open incident; before it commits, a notification that
carries another service ends the only alert of the incident, and cancels it. -/
def halfLinked : List DeliveryEvent :=
  [.deliver 0 (paymentsAlert "k1" "a1" .firing),
   .advance 0, .advance 0, .advance 0, .advance 0, .advance 0,
   .deliver 1000000 (paymentsAlert "k2" "a2" .firing),
   .advance 1, .advance 1, .advance 1, .advance 1,
   .deliver 2000000 (checkoutAlert "k3" "a1" .resolved),
   .advance 2, .advance 2, .advance 2, .advance 2, .advance 2, .advance 2,
   .advance 1]

/-- The second alert is linked to the cancelled incident; delivered alone, after the
cancellation, it would have opened a new one. -/
theorem not_deliveries_are_serial :
    ¬ DeliveredOnce paymentsEnv {} (exchangeFrom paymentsEnv {} halfLinked) := by
  intro once
  have shared : (exchangeFrom paymentsEnv {} halfLinked).store.incidents.length = 1 := by
    decide +kernel
  have apart : (inOrder paymentsEnv {}
      (exchangeFrom paymentsEnv {} halfLinked).order).incidents.length = 2 := by
    decide +kernel
  rw [once.serial] at shared
  have same : (withLedger (inOrder paymentsEnv {} (exchangeFrom paymentsEnv {} halfLinked).order)
      (exchangeFrom paymentsEnv {} halfLinked).store.alert.processedCommands).incidents.length =
      (inOrder paymentsEnv {} (exchangeFrom paymentsEnv {} halfLinked).order).incidents.length :=
    rfl
  rw [same, apart] at shared
  cases shared

end IncidentTriage.Verified
