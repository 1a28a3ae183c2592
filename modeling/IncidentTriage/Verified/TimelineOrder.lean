import IncidentTriage.Incident.Queries
import IncidentTriage.Library.Places
import Mathlib.Data.List.Pairwise

/-! # The order of a timeline

The events of a timeline are sorted by the texts of their times.  The texts order as the
instants do, but for one case: a whole second that a model dump writes, against a later
fraction of the same second.
-/

namespace IncidentTriage.Verified

open IncidentTriage.Python IncidentTriage.Python.Datetime IncidentTriage.Incident FixedWidth
  Places

/-! ## Texts of instants -/

/-- How a time comes into the document. -/
inductive Serialiser where
  | isoformat
  | modelDump
  deriving DecidableEq

def Serialiser.spell : Serialiser → Datetime → Text
  | .isoformat => Datetime.isoformat
  | .modelDump => Datetime.modelDump

/-- What follows the second. -/
def Serialiser.tail (s : Serialiser) (d : Datetime) : Text :=
  d.fraction ++ match s with
    | .isoformat => ['+', '0', '0', ':', '0', '0']
    | .modelDump => ['Z']

theorem spell_eq (s : Serialiser) (d : Datetime) : s.spell d = d.isoSeconds ++ s.tail d := by
  cases s with
  | isoformat => simp [Serialiser.spell, Serialiser.tail, Datetime.isoformat]
  | modelDump => simp [Serialiser.spell, Serialiser.tail, Datetime.modelDump]

theorem spell_ne_nil (s : Serialiser) (d : Datetime) : s.spell d ≠ [] := by
  simp [spell_eq, Datetime.isoSeconds]

/-- The second decides before the rest does. -/
theorem spell_lt (s t : Serialiser) (a b : Datetime) :
    s.spell a < t.spell b ↔
      a.seconds < b.seconds ∨ a.seconds = b.seconds ∧ s.tail a < t.tail b := by
  rw [spell_eq, spell_eq, append_lt_append (orders_isoSeconds.length a b), orders_isoSeconds.lt,
    orders_isoSeconds.eq]

theorem tail_fraction {d : Datetime} (some_ : d.microsecond ≠ 0) (s : Serialiser) :
    ∃ zone, s.tail d = '.' :: (digits 6 d.microsecond ++ zone) := by
  exact ⟨_, by simp [Serialiser.tail, Datetime.fraction, some_]; rfl⟩

/-- A dumped whole second, and a later fraction of it. -/
structure LateText (s : Serialiser) (a b : Datetime) : Prop where
  dumped : s = .modelDump
  whole : a.microsecond = 0
  second : b.seconds = a.seconds
  fraction : b.microsecond ≠ 0

/-- The text of an earlier instant is the lesser one, unless it is overtaken. -/
theorem spell_lt_of_instant_lt {s t : Serialiser} {a b : Datetime} (before : a.instant < b.instant)
    (kept : ¬ LateText s a b) : s.spell a < t.spell b := by
  rw [spell_lt]
  obtain less | ⟨same, less⟩ := (instant_lt a b).mp before
  · exact .inl less
  · refine .inr ⟨same, ?_⟩
    have later : b.microsecond ≠ 0 := by omega
    obtain ⟨zone', written'⟩ := tail_fraction later t
    by_cases whole : a.microsecond = 0
    · cases s with
      | isoformat =>
        rw [written', Serialiser.tail, Datetime.fraction, if_pos whole]
        exact List.cons_lt_cons_iff.mpr (.inl (by decide))
      | modelDump => exact absurd ⟨rfl, whole, same.symm, later⟩ kept
    · obtain ⟨zone, written⟩ := tail_fraction whole s
      have ha := a.microsecond_lt
      have hb := b.microsecond_lt
      have digitsLess : digits 6 a.microsecond < digits 6 b.microsecond :=
        (digits_lt (by omega) (by omega)).mpr less
      rw [written, written', List.cons_lt_cons_iff, append_lt_append (by simp)]
      exact .inr ⟨rfl, .inl digitsLess⟩

theorem LateText.instant_lt {s : Serialiser} {a b : Datetime} (overtaken : LateText s a b) :
    a.instant < b.instant := by
  have whole := overtaken.whole
  have fraction := overtaken.fraction
  exact (Datetime.instant_lt a b).mpr (.inr ⟨overtaken.second.symm, by omega⟩)

/-- What is overtaken comes after. -/
theorem LateText.spell_lt {s : Serialiser} {a b : Datetime} (overtaken : LateText s a b)
    (t : Serialiser) : t.spell b < s.spell a := by
  obtain ⟨rfl, whole, second, fraction⟩ := overtaken
  obtain ⟨zone, written⟩ := tail_fraction fraction t
  refine (Verified.spell_lt t .modelDump b a).mpr (.inr ⟨second, ?_⟩)
  rw [written, Serialiser.tail, Datetime.fraction, if_pos whole]
  exact List.cons_lt_cons_iff.mpr (.inl (by decide))

/-! ## Items -/

/-- What the timeline may hold, by its place in the document. -/
inductive Item where
  | fired (alert : Nat)
  | resolved (alert : Nat)
  | entered (transition : Nat)
  | started (investigation : Nat)
  | collected (investigation call : Nat)
  | moved (investigation update applied : Nat)
  | ended (investigation : Nat)
  | happened (remediation entry : Nat)
  | observed (verification observation : Nat)
  | verified (verification : Nat)
  deriving DecidableEq

/-- How the time of an item is written. -/
def Item.serialiser : Item → Serialiser
  | .fired _ | .resolved _ | .entered _ | .happened _ _ | .observed _ _ => .isoformat
  | .started _ | .collected _ _ | .moved _ _ _ | .ended _ | .verified _ => .modelDump

/-- When an item happened, if it did. -/
def moment? (records : Detail Datetime) : Item → Option Datetime
  | .fired i => records.alerts[i]?.map (·.receivedAt)
  | .resolved i => records.alerts[i]?.bind (·.resolvedAt)
  | .entered i => records.transitions[i]?.map (·.at_)
  | .started i => records.investigations[i]?.bind (·.startedAt)
  | .collected i j => records.investigations[i]?.bind fun inv =>
    inv.toolCalls[j]?.bind fun call =>
      if call.ok && !call.evidenceIds.isEmpty then some call.at_ else none
  | .moved i j k => records.investigations[i]?.bind fun inv =>
    inv.hypothesisUpdates[j]?.bind fun update => update.applied[k]?.map fun _ => update.at_
  | .ended i => records.investigations[i]?.bind (·.completedAt)
  | .happened i j => records.remediations[i]?.bind fun rem => rem.timeline[j]?.map (·.occurredAt)
  | .observed i j => records.verifications[i]?.bind fun v => v.observations[j]?.map (·.observedAt)
  | .verified i => records.verifications[i]?.bind (·.completedAt)

/-- The event of an item. -/
def event? (detail : Detail Text) : Item → Option TimelineEvent
  | .fired i => detail.alerts[i]?.bind (·.fired)
  | .resolved i => detail.alerts[i]?.bind (·.resolved)
  | .entered i => detail.transitions[i]?.bind (·.entered)
  | .started i => detail.investigations[i]?.bind (·.started)
  | .collected i j => detail.investigations[i]?.bind fun inv =>
    inv.toolCalls[j]?.bind (·.collected)
  | .moved i j k => detail.investigations[i]?.bind fun inv =>
    inv.hypothesisUpdates[j]?.bind fun update => update.applied[k]?.bind update.moved
  | .ended i => detail.investigations[i]?.bind (·.ended)
  | .happened i j => detail.remediations[i]?.bind fun rem =>
    rem.timeline[j]?.bind fun entry => entry.happened rem
  | .observed i j => detail.verifications[i]?.bind fun v => v.observations[j]?.bind (·.observed)
  | .verified i => detail.verifications[i]?.bind (·.ended)

/-! ## Places -/

def alertItems (i : Nat) (_ : AlertItem Text) : List Item := [.fired i, .resolved i]

def investigationItems (i : Nat) (inv : InvestigationItem Text) : List Item :=
  [.started i] ++ places (fun j _ => [.collected i j]) inv.toolCalls ++
    places (fun j update => places (fun k _ => [.moved i j k]) update.applied)
      inv.hypothesisUpdates ++
    [.ended i]

def remediationItems (i : Nat) (rem : RemediationItem Text) : List Item :=
  places (fun j _ => [.happened i j]) rem.timeline

def verificationItems (i : Nat) (v : VerificationItem Text) : List Item :=
  places (fun j _ => [.observed i j]) v.observations ++ [.verified i]

/-- The places of a document, in the order the loops go through them. -/
def itemsOf (detail : Detail Text) : List Item :=
  places alertItems detail.alerts ++ places (fun i _ => [.entered i]) detail.transitions ++
    places investigationItems detail.investigations ++
    places remediationItems detail.remediations ++ places verificationItems detail.verifications

theorem nodup_singles {say : Nat → Item} {α : Type} (xs : List α)
    (apart : ∀ i j, say i = say j → i = j) : (places (fun i _ => [say i]) xs).Nodup := by
  refine nodup_places (fun _ _ _ => List.nodup_singleton _) ?_
  intro i x j y b atI atJ
  exact apart i j ((List.mem_singleton.mp atI).symm.trans (List.mem_singleton.mp atJ))

theorem nodup_investigationItems (i : Nat) (inv : InvestigationItem Text) :
    (investigationItems i inv).Nodup := by
  have calls : (places (fun j _ => [Item.collected i j]) inv.toolCalls).Nodup :=
    nodup_singles _ (by simp)
  have updates : (places (fun j update => places (fun k _ => [Item.moved i j k]) update.applied)
      inv.hypothesisUpdates).Nodup := by
    refine nodup_places (fun _ _ _ => nodup_singles _ (by simp)) ?_
    simp only [mem_places, List.mem_singleton]
    grind
  simp only [investigationItems, List.nodup_append, calls, updates, List.nodup_singleton, true_and,
    List.mem_append, mem_places, List.mem_singleton]
  grind

theorem nodup_verificationItems (i : Nat) (v : VerificationItem Text) :
    (verificationItems i v).Nodup := by
  have observations : (places (fun j _ => [Item.observed i j]) v.observations).Nodup :=
    nodup_singles _ (by simp)
  simp only [verificationItems, List.nodup_append, observations, List.nodup_singleton, true_and,
    mem_places, List.mem_singleton]
  grind

/-- No place is gone through twice. -/
theorem nodup_itemsOf (detail : Detail Text) : (itemsOf detail).Nodup := by
  have alerts : (places alertItems detail.alerts).Nodup :=
    nodup_places (by simp [alertItems]) (by simp [alertItems])
  have transitions : (places (fun i _ => [Item.entered i]) detail.transitions).Nodup :=
    nodup_singles _ (by simp)
  have investigations : (places investigationItems detail.investigations).Nodup := by
    refine nodup_places (fun i inv _ => nodup_investigationItems i inv) ?_
    simp only [investigationItems, mem_places, List.mem_append, List.mem_singleton]
    grind
  have remediations : (places remediationItems detail.remediations).Nodup := by
    refine nodup_places (fun _ _ _ => nodup_singles _ (by simp)) ?_
    simp only [remediationItems, mem_places, List.mem_singleton]
    grind
  have verifications : (places verificationItems detail.verifications).Nodup := by
    refine nodup_places (fun i v _ => nodup_verificationItems i v) ?_
    simp only [verificationItems, mem_places, List.mem_append, List.mem_singleton]
    grind
  -- the five sections hold items of different kinds
  simp only [itemsOf, List.nodup_append, alerts, transitions, investigations, remediations,
    verifications, true_and, List.mem_append, mem_places, alertItems, investigationItems,
    remediationItems, verificationItems, List.mem_cons, List.not_mem_nil, or_false]
  grind

theorem mem_itemsOf {detail : Detail Text} {item : Item} (event : (event? detail item).isSome) :
    item ∈ itemsOf detail := by
  cases item
  all_goals
    simp only [itemsOf, alertItems, investigationItems, remediationItems, verificationItems,
      List.mem_append, mem_places, event?, Option.isSome_iff_exists,
      Option.bind_eq_some_iff] at event ⊢
    grind

/-! ## The events of the places -/

theorem filterMap_eq_reduceOption (detail : Detail Text) (items : List Item) :
    items.filterMap (event? detail) = (items.map (event? detail)).reduceOption := by
  simp [List.reduceOption, List.filterMap_map]

section
variable {detail : Detail Text} {i : Nat}

theorem events_investigationItems {inv : InvestigationItem Text}
    (found : detail.investigations[i]? = some inv) :
    (investigationItems i inv).filterMap (event? detail) = inv.events := by
  have calls : (places (fun j _ => [Item.collected i j]) inv.toolCalls).filterMap (event? detail) =
      inv.toolCalls.flatMap (fun call => [call.collected].reduceOption) := by
    refine filterMap_places fun j call listed => ?_
    simp only [filterMap_eq_reduceOption, List.map_cons, List.map_nil, event?, found, listed,
      Option.bind_some]
  have updates : (places (fun j update => places (fun k _ => [Item.moved i j k]) update.applied)
      inv.hypothesisUpdates).filterMap (event? detail) =
        inv.hypothesisUpdates.flatMap (fun update =>
          update.applied.flatMap fun applied => [update.moved applied].reduceOption) := by
    refine filterMap_places fun j update listed => filterMap_places fun k applied entry => ?_
    simp only [filterMap_eq_reduceOption, List.map_cons, List.map_nil, event?, found, listed, entry,
      Option.bind_some]
  rw [investigationItems, List.filterMap_append, List.filterMap_append, List.filterMap_append,
    calls, updates]
  simp only [filterMap_eq_reduceOption, List.map_cons, List.map_nil, event?, found,
    Option.bind_some, InvestigationItem.events]

theorem events_remediationItems {rem : RemediationItem Text}
    (found : detail.remediations[i]? = some rem) :
    (remediationItems i rem).filterMap (event? detail) = rem.events := by
  refine filterMap_places fun j entry listed => ?_
  simp only [filterMap_eq_reduceOption, List.map_cons, List.map_nil, event?, found, listed,
    Option.bind_some]

theorem events_verificationItems {v : VerificationItem Text}
    (found : detail.verifications[i]? = some v) :
    (verificationItems i v).filterMap (event? detail) = v.events := by
  have observations : (places (fun j _ => [Item.observed i j]) v.observations).filterMap
      (event? detail) = v.observations.flatMap (fun o => [o.observed].reduceOption) := by
    refine filterMap_places fun j o listed => ?_
    simp only [filterMap_eq_reduceOption, List.map_cons, List.map_nil, event?, found, listed,
      Option.bind_some]
  rw [verificationItems, List.filterMap_append, observations]
  simp only [filterMap_eq_reduceOption, List.map_cons, List.map_nil, event?, found,
    Option.bind_some, VerificationItem.events]

/-- The loops add the events of the places. -/
theorem events_eq (detail : Detail Text) :
    detail.events = (itemsOf detail).filterMap (event? detail) := by
  have alerts : (places alertItems detail.alerts).filterMap (event? detail) =
      detail.alerts.flatMap AlertItem.events := by
    refine filterMap_places fun i a found => ?_
    simp only [alertItems, filterMap_eq_reduceOption, List.map_cons, List.map_nil, event?, found,
      Option.bind_some, AlertItem.events]
  have transitions : (places (fun i _ => [Item.entered i]) detail.transitions).filterMap
      (event? detail) = detail.transitions.flatMap (fun t => [t.entered].reduceOption) := by
    refine filterMap_places fun i t found => ?_
    simp only [filterMap_eq_reduceOption, List.map_cons, List.map_nil, event?, found,
      Option.bind_some]
  have investigations : (places investigationItems detail.investigations).filterMap
      (event? detail) = detail.investigations.flatMap InvestigationItem.events :=
    filterMap_places fun _ _ found => events_investigationItems found
  have remediations : (places remediationItems detail.remediations).filterMap
      (event? detail) = detail.remediations.flatMap RemediationItem.events :=
    filterMap_places fun _ _ found => events_remediationItems found
  have verifications : (places verificationItems detail.verifications).filterMap
      (event? detail) = detail.verifications.flatMap VerificationItem.events :=
    filterMap_places fun _ _ found => events_verificationItems found
  simp only [itemsOf, List.filterMap_append, alerts, transitions, investigations, remediations,
    verifications, Detail.events]

end

/-! ## The times of the events -/

theorem at_addEvent (s : Serialiser) (moment : Option Datetime) (kind title : String)
    (extra : Dict) :
    (addEvent (moment.map s.spell) kind title extra).map (·.at_) = moment.map s.spell := by
  cases moment with
  | none => rfl
  | some m => simp [addEvent, spell_ne_nil]

theorem toolCalls_dumped (inv : InvestigationItem Datetime) :
    inv.dumped.toolCalls =
      inv.toolCalls.map fun call => { call with at_ := call.at_.modelDump } := by
  simp only [InvestigationItem.toolCalls, InvestigationItem.dumped, List.filterMap_map,
    List.map_filterMap]
  refine List.filterMap_congr fun s _ => ?_
  cases h : s.payload <;> simp [StepItem.dumped, h]

theorem hypothesisUpdates_dumped (inv : InvestigationItem Datetime) :
    inv.dumped.hypothesisUpdates =
      inv.hypothesisUpdates.map fun update => { update with at_ := update.at_.modelDump } := by
  simp only [InvestigationItem.hypothesisUpdates, InvestigationItem.dumped, List.filterMap_map,
    List.map_filterMap]
  refine List.filterMap_congr fun s _ => ?_
  cases h : s.payload <;> simp [StepItem.dumped, h]

theorem at_fired (a : AlertItem Datetime) :
    a.dumped.fired.map (·.at_) = some a.receivedAt.isoformat :=
  at_addEvent .isoformat (some a.receivedAt) _ _ _

theorem at_resolved (a : AlertItem Datetime) :
    a.dumped.resolved.map (·.at_) = a.resolvedAt.map Datetime.isoformat :=
  at_addEvent .isoformat a.resolvedAt _ _ _

theorem at_entered (t : TransitionItem Datetime) :
    t.dumped.entered.map (·.at_) = some t.at_.isoformat :=
  at_addEvent .isoformat (some t.at_) _ _ _

theorem at_started (inv : InvestigationItem Datetime) :
    inv.dumped.started.map (·.at_) = inv.startedAt.map Datetime.modelDump :=
  at_addEvent .modelDump inv.startedAt _ _ _

theorem at_collected (call : ToolCallItem Datetime) :
    (ToolCallItem.collected { call with at_ := call.at_.modelDump }).map (·.at_) =
      (if call.ok && !call.evidenceIds.isEmpty then some call.at_ else none).map
        Datetime.modelDump := by
  unfold ToolCallItem.collected
  split
  · exact at_addEvent .modelDump (some call.at_) _ _ _
  · rfl

theorem at_moved (update : HypothesisUpdateItem Datetime) (applied : AppliedItem) :
    (HypothesisUpdateItem.moved { update with at_ := update.at_.modelDump } applied).map (·.at_) =
      some update.at_.modelDump :=
  at_addEvent .modelDump (some update.at_) _ _ _

theorem at_ended (inv : InvestigationItem Datetime) :
    inv.dumped.ended.map (·.at_) = inv.completedAt.map Datetime.modelDump := by
  unfold InvestigationItem.ended
  split
  · exact at_addEvent .modelDump inv.completedAt _ _ _
  · exact at_addEvent .modelDump inv.completedAt _ _ _

theorem at_happened (entry : RemediationEntry Datetime) (rem : RemediationItem Text) :
    (entry.dumped.happened rem).map (·.at_) = some entry.occurredAt.isoformat :=
  at_addEvent .isoformat (some entry.occurredAt) _ _ _

theorem at_observed (o : ObservationItem Datetime) :
    o.dumped.observed.map (·.at_) = some o.observedAt.isoformat :=
  at_addEvent .isoformat (some o.observedAt) _ _ _

theorem at_verified (v : VerificationItem Datetime) :
    v.dumped.ended.map (·.at_) = v.completedAt.map Datetime.modelDump :=
  at_addEvent .modelDump v.completedAt _ _ _

/-- An event stands for the moment of its item, as its serialiser writes it. -/
theorem at_event (records : Detail Datetime) (item : Item) :
    (event? (incidentDetail records) item).map (·.at_) =
      (moment? records item).map item.serialiser.spell := by
  cases item with
  | fired i =>
    simp only [event?, moment?, incidentDetail, List.getElem?_map]
    cases records.alerts[i]? with
    | none => rfl
    | some a => simp only [Option.map_some, Option.bind_some, at_fired]; rfl
  | resolved i =>
    simp only [event?, moment?, incidentDetail, List.getElem?_map]
    cases records.alerts[i]? with
    | none => rfl
    | some a => simp only [Option.map_some, Option.bind_some, at_resolved]; rfl
  | entered i =>
    simp only [event?, moment?, incidentDetail, List.getElem?_map]
    cases records.transitions[i]? with
    | none => rfl
    | some t => simp only [Option.map_some, Option.bind_some, at_entered]; rfl
  | started i =>
    simp only [event?, moment?, incidentDetail, List.getElem?_map]
    cases records.investigations[i]? with
    | none => rfl
    | some inv => simp only [Option.map_some, Option.bind_some, at_started]; rfl
  | collected i j =>
    simp only [event?, moment?, incidentDetail, List.getElem?_map]
    cases records.investigations[i]? with
    | none => rfl
    | some inv =>
      simp only [Option.map_some, Option.bind_some, toolCalls_dumped, List.getElem?_map]
      cases inv.toolCalls[j]? with
      | none => rfl
      | some call => simp only [Option.map_some, Option.bind_some, at_collected]; rfl
  | moved i j k =>
    simp only [event?, moment?, incidentDetail, List.getElem?_map]
    cases records.investigations[i]? with
    | none => rfl
    | some inv =>
      simp only [Option.map_some, Option.bind_some, hypothesisUpdates_dumped, List.getElem?_map]
      cases inv.hypothesisUpdates[j]? with
      | none => rfl
      | some update =>
        simp only [Option.map_some, Option.bind_some]
        cases update.applied[k]? with
        | none => rfl
        | some applied => simp only [Option.map_some, Option.bind_some, at_moved]; rfl
  | ended i =>
    simp only [event?, moment?, incidentDetail, List.getElem?_map]
    cases records.investigations[i]? with
    | none => rfl
    | some inv => simp only [Option.map_some, Option.bind_some, at_ended]; rfl
  | happened i j =>
    simp only [event?, moment?, incidentDetail, List.getElem?_map]
    cases records.remediations[i]? with
    | none => rfl
    | some rem =>
      simp only [Option.map_some, Option.bind_some, RemediationItem.dumped, List.getElem?_map]
      cases rem.timeline[j]? with
      | none => rfl
      | some entry => simp only [Option.map_some, Option.bind_some, at_happened]; rfl
  | observed i j =>
    simp only [event?, moment?, incidentDetail, List.getElem?_map]
    cases records.verifications[i]? with
    | none => rfl
    | some v =>
      simp only [Option.map_some, Option.bind_some, VerificationItem.dumped, List.getElem?_map]
      cases v.observations[j]? with
      | none => rfl
      | some o => simp only [Option.map_some, Option.bind_some, at_observed]; rfl
  | verified i =>
    simp only [event?, moment?, incidentDetail, List.getElem?_map]
    cases records.verifications[i]? with
    | none => rfl
    | some v => simp only [Option.map_some, Option.bind_some, at_verified]; rfl

/-! ## The order -/

/-- No dumped whole second is followed by a fraction of the same second. -/
def KeepsSeconds (records : Detail Datetime) : Prop :=
  ∀ (earlier later : Item) (a b : Datetime), moment? records earlier = some a →
    moment? records later = some b → ¬ LateText earlier.serialiser a b

/-- Each dated item is in the timeline once, and they stand in the order they happened in. -/
def Chronological (records : Detail Datetime) : Prop :=
  ∃ items : List Item, items.Nodup ∧ (∀ item, item ∈ items ↔ (moment? records item).isSome) ∧
    timeline (incidentDetail records) = items.filterMap (event? (incidentDetail records)) ∧
    items.Pairwise fun earlier later => ∀ a b, moment? records earlier = some a →
      moment? records later = some b → a.instant ≤ b.instant

section
variable {records : Detail Datetime}

theorem isSome_event (records : Detail Datetime) (item : Item) :
    (event? (incidentDetail records) item).isSome = (moment? records item).isSome := by
  have same := congrArg Option.isSome (at_event records item)
  rwa [Option.isSome_map, Option.isSome_map] at same

/-- Items in the order of their texts. -/
def InTextOrder (records : Detail Datetime) (earlier later : Item) : Prop :=
  ∀ a b, moment? records earlier = some a → moment? records later = some b →
    earlier.serialiser.spell a ≤ later.serialiser.spell b

/-- The timeline holds each dated item once, in some order. -/
theorem exists_items (records : Detail Datetime) :
    ∃ items : List Item, items.Nodup ∧ (∀ item, item ∈ items ↔ (moment? records item).isSome) ∧
      timeline (incidentDetail records) = items.filterMap (event? (incidentDetail records)) := by
  let detail := incidentDetail records
  let read (item : Item) : TimelineEvent :=
    (event? detail item).getD { at_ := [], kind := "", title := "", extra := [] }
  let dated := (itemsOf detail).filter fun item => (event? detail item).isSome
  let items := dated.insertionSort fun p q => (read p).at_ ≤ (read q).at_
  have complete : ∀ item, item ∈ dated ↔ (event? detail item).isSome := by
    intro item
    rw [List.mem_filter]
    exact and_iff_right_of_imp mem_itemsOf
  have reads : ∀ xs : List Item, (∀ item ∈ xs, (event? detail item).isSome) →
      xs.filterMap (event? detail) = xs.map read := by
    intro xs all
    rw [← List.filterMap_eq_map]
    refine List.filterMap_congr fun item member => ?_
    obtain ⟨event, found⟩ := Option.isSome_iff_exists.mp (all item member)
    simp [read, found]
  have events : detail.events = dated.map read := by
    rw [events_eq, ← reads dated fun item member => (complete item).mp member,
      List.filterMap_filter]
    refine List.filterMap_congr fun item _ => ?_
    cases event? detail item <;> rfl
  refine ⟨items, ?_, ?_, ?_⟩
  · exact (List.perm_insertionSort _ dated).nodup_iff.mpr ((nodup_itemsOf detail).filter _)
  · intro item
    rw [← isSome_event, ← complete]
    exact List.mem_insertionSort _
  · have member : ∀ item ∈ items, (event? detail item).isSome := fun item listed =>
      (complete item).mp ((List.mem_insertionSort _).mp listed)
    rw [reads items member]
    change detail.events.insertionSort _ = _
    rw [events]
    exact (List.map_insertionSort _ _ read dated fun _ _ _ _ => Iff.rfl).symm

/-- Whatever items the timeline is made of stand in the order of their texts. -/
theorem inTextOrder_of_timeline {items : List Item}
    (made : timeline (incidentDetail records) = items.filterMap (event? (incidentDetail records))) :
    items.Pairwise (InTextOrder records) := by
  have sorted := (incidentDetail records).events.pairwise_insertionSort (fun e f => e.at_ ≤ f.at_)
  change (timeline (incidentDetail records)).Pairwise (fun e f => e.at_ ≤ f.at_) at sorted
  rw [made, List.pairwise_filterMap] at sorted
  refine sorted.imp ?_
  intro earlier later ordered a b first second
  have found := at_event records earlier
  have found' := at_event records later
  rw [first, Option.map_some, Option.map_eq_some_iff] at found
  rw [second, Option.map_some, Option.map_eq_some_iff] at found'
  obtain ⟨e, event, at_⟩ := found
  obtain ⟨f, event', at_'⟩ := found'
  rw [← at_, ← at_']
  exact ordered e event f event'

theorem either_of_pairwise {R : Item → Item → Prop} {items : List Item} (pairs : items.Pairwise R)
    {p q : Item} (left : p ∈ items) (right : q ∈ items) (different : p ≠ q) : R p q ∨ R q p := by
  have : Std.Symm fun p q => R p q ∨ R q p := ⟨fun _ _ => Or.symm⟩
  have either : items.Pairwise fun p q => R p q ∨ R q p := pairs.imp Or.inl
  exact either.forall left right different

/-- An overtaken item comes after what it happened before. -/
theorem not_chronological_of_overtaken {earlier later : Item} {a b : Datetime}
    (first : moment? records earlier = some a) (second : moment? records later = some b)
    (overtaken : LateText earlier.serialiser a b) : ¬ Chronological records := by
  rintro ⟨items, -, complete, made, ordered⟩
  have member : earlier ∈ items := (complete earlier).mpr (by rw [first]; rfl)
  have member' : later ∈ items := (complete later).mpr (by rw [second]; rfl)
  have different : earlier ≠ later := by
    rintro rfl
    obtain rfl := Option.some.inj (first.symm.trans second)
    exact overtaken.fraction overtaken.whole
  obtain before | after := either_of_pairwise ((inTextOrder_of_timeline made).and ordered) member
    member' different
  · exact absurd (before.1 a b first second) (not_le.mpr (overtaken.spell_lt later.serialiser))
  · exact absurd (after.2 b a second first) (not_le.mpr overtaken.instant_lt)

/-- The timeline is chronological exactly if no dumped whole second is overtaken. -/
theorem chronological_iff (records : Detail Datetime) :
    Chronological records ↔ KeepsSeconds records := by
  constructor
  · intro chronological earlier later a b first second overtaken
    exact not_chronological_of_overtaken first second overtaken chronological
  · intro kept
    obtain ⟨items, nodup, complete, made⟩ := exists_items records
    refine ⟨items, nodup, complete, made, ?_⟩
    refine (inTextOrder_of_timeline made).imp ?_
    intro earlier later text a b first second
    by_contra after
    have less : later.serialiser.spell b < earlier.serialiser.spell a :=
      spell_lt_of_instant_lt (not_le.mp after) (kept later earlier b a second first)
    exact absurd (text a b first second) (not_le.mpr less)

/-- Noon, to the second. -/
def noon : Datetime :=
  { year := 2026, month := 1, day := 5, hour := 12, minute := 0, second := 0, microsecond := 0,
    year_pos := by decide, year_le := by decide, month_pos := by decide, month_le := by decide,
    day_pos := by decide, day_le := by decide, hour_lt := by decide, minute_lt := by decide,
    second_lt := by decide, microsecond_lt := by decide }

/-- A verification passes at noon, and a quarter of a millisecond later the incident resolves. -/
def resolvedAtNoon : Detail Datetime :=
  { transitions := [{ at_ := { noon with microsecond := 250, microsecond_lt := by decide },
                      from_ := some "VERIFYING", to_ := some "RESOLVED", reason := none }]
    verifications := [{ id := "v", status := "PASSED", failureReason := none,
                        completedAt := some noon, observations := [] }] }

theorem not_chronological : ¬ Chronological resolvedAtNoon := by
  have passed : moment? resolvedAtNoon (.verified 0) = some noon := rfl
  have resolved : moment? resolvedAtNoon (.entered 0) =
      some { noon with microsecond := 250, microsecond_lt := by decide } := rfl
  exact not_chronological_of_overtaken passed resolved ⟨rfl, rfl, rfl, by decide⟩

end

end IncidentTriage.Verified
