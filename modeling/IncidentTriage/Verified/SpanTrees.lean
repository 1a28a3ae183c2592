import IncidentTriage.Evidence.Tempo
import Mathlib.Data.List.Perm.Subperm
import Mathlib.Data.List.Range

/-! # The tree of spans

The walk over a trace lists the beginning of its depth-first order (`listedPlaces_eq`).  A
span that has no identifier leads back to the roots, and two spans of one identifier lead to
the same children; without these, what is listed is a tree.
-/

namespace IncidentTriage.Verified

open IncidentTriage.Evidence IncidentTriage.Library

/-- What a summary says of its spans is a tree of them. -/
structure IsTree (spans : List SpanView) (tree : List TreeEntry) (truncated : Bool) : Prop where
  once : (tree.map (·.place)).Nodup
  bounded : tree.length ≤ maxSpansInSummary
  /-- A parent that is listed is listed before, at depth one less. -/
  parents : ∀ (n m : Nat) (entry parent : TreeEntry) (id : String), tree[n]? = some entry →
    tree[m]? = some parent → id ≠ "" → parent.span.spanId = some id →
    entry.span.parentSpanId = some id → m < n ∧ entry.depth = parent.depth + 1
  complete : spans.length ≤ maxSpansInSummary → ∀ place < spans.length,
    place ∈ tree.map (·.place)
  flagged : truncated = true ↔ ∃ place < spans.length, place ∉ tree.map (·.place)

/-- The summary of a trace comes to its end, with a tree of the spans. -/
def SummaryIsTree (traceId : String) (trace : Trace) : Prop :=
  ∃ summary, summarizeTrace traceId trace = some summary ∧ ∀ found, summary = .found found →
    IsTree (viewTrace trace) found.spanTree found.spanTreeTruncated

/-! ## The condition -/

/-- The first spans in depth-first order: each root, and after a span the ones that name it
as their parent. -/
def depthFirst (spans : List SpanView) (n : Nat) : List Nat :=
  order (childrenOf spans) n (childrenAt spans none)

/-- Going from parent to parent, a span comes to a root. -/
inductive Rooted (spans : List SpanView) : Nat → Prop
  | root {place : Nat} {span : SpanView} (here : spans[place]? = some span)
      (top : parentKey spans span = none) : Rooted spans place
  | child {place parent : Nat} {span : SpanView} {id : String} (here : spans[place]? = some span)
      (below : parentKey spans span = some id) (named : spanIdAt spans parent = some id)
      (rooted : Rooted spans parent) : Rooted spans place

/-- The identifiers tell apart what the tree has room for. -/
structure Identified (spans : List SpanView) : Prop where
  present : ∀ place ∈ depthFirst spans (maxSpansInSummary - 1), spanIdAt spans place ≠ none
  apart : ∀ i ∈ depthFirst spans maxSpansInSummary, ∀ j ∈ depthFirst spans maxSpansInSummary,
    ∀ id, spanIdAt spans i = some id → spanIdAt spans j = some id →
    (∃ span ∈ spans, parentKey spans span = some id) → i = j
  rooted : spans.length ≤ maxSpansInSummary → ∀ place < spans.length, Rooted spans place

/-! ## Children -/

section
variable {spans : List SpanView}

theorem mem_childrenAt {key : Option String} {place : Nat} :
    place ∈ childrenAt spans key ↔
      ∃ span, spans[place]? = some span ∧ parentKey spans span = key := by
  simp only [childrenAt, List.mem_map, (List.perm_insertionSort _ _).mem_iff, List.mem_filter,
    beq_iff_eq, Prod.exists, exists_eq_right, List.mem_zipIdx_iff_getElem?]

theorem nodup_childrenAt (key : Option String) : (childrenAt spans key).Nodup := by
  have places : ((spans.zipIdx.filter (fun entry => parentKey spans entry.1 == key)).map
      (·.2)).Nodup := by
    refine List.Nodup.sublist (List.filter_sublist.map _) ?_
    rw [List.zipIdx_map_snd]
    exact List.nodup_range'
  exact ((List.perm_insertionSort _ _).map _).nodup_iff.mpr places

theorem lt_of_mem_childrenAt {key : Option String} {place : Nat}
    (member : place ∈ childrenAt spans key) : place < spans.length := by
  obtain ⟨span, here, -⟩ := mem_childrenAt.mp member
  exact (List.getElem?_eq_some_iff.mp here).1

/-- Only a known identifier that is not empty has children. -/
theorem parentKey_eq_some {span : SpanView} {id : String} :
    parentKey spans span = some id ↔ span.parentSpanId = some id ∧ knownId spans id = true := by
  rw [parentKey, Option.filter_eq_some_iff]

theorem depthFirst_lt {n place : Nat} (listed : place ∈ depthFirst spans n) :
    place < spans.length :=
  mem_order_origin (fun place => place < spans.length)
    (fun _ member => lt_of_mem_childrenAt member)
    (fun _ _ _ member => lt_of_mem_childrenAt member) place listed

theorem rooted_of_listed {n place : Nat} (listed : place ∈ depthFirst spans n) :
    Rooted spans place := by
  have roots : ∀ i ∈ childrenAt spans none, Rooted spans i := by
    intro i member
    obtain ⟨span, here, top⟩ := mem_childrenAt.mp member
    exact .root here top
  refine mem_order_origin (Rooted spans) roots (fun i rooted c member => ?_) place listed
  obtain ⟨span, here, below⟩ := mem_childrenAt.mp member
  cases named : spanIdAt spans i with
  | none => exact .root here (below.trans named)
  | some id => exact .child here (below.trans named) named rooted

/-! ## What is listed -/

theorem listedPlaces_eq : listedPlaces spans =
    some (descend (childrenOf spans) maxSpansInSummary
      ((childrenAt spans none).map (fun place => (place, 0)))) :=
  walk_eq_descend maxSpansInSummary (childrenAt spans none)

theorem map_place_treeEntries {listed : List (Nat × Nat)}
    (known : ∀ entry ∈ listed, entry.1 < spans.length) :
    (treeEntries spans listed).map (fun entry => (entry.place, entry.depth)) = listed := by
  induction listed with
  | nil => rfl
  | cons entry listed ih =>
    have here := List.getElem?_eq_getElem (known entry List.mem_cons_self)
    rw [treeEntries, List.filterMap_cons, here, Option.map_some, List.map_cons, ← treeEntries,
      ih fun other member => known other (List.mem_cons_of_mem _ member)]

theorem span_of_mem_treeEntries {listed : List (Nat × Nat)} {entry : TreeEntry}
    (member : entry ∈ treeEntries spans listed) : spans[entry.place]? = some entry.span := by
  obtain ⟨_, _, built⟩ := List.mem_filterMap.mp member
  obtain ⟨span, here, rfl⟩ := Option.map_eq_some_iff.mp built
  exact here

/-- The tree of a summary, by places and depths. -/
structure Lists (spans : List SpanView) (tree : List TreeEntry) : Prop where
  entries : tree.map (fun entry => (entry.place, entry.depth)) =
    descend (childrenOf spans) maxSpansInSummary
      ((childrenAt spans none).map (fun place => (place, 0)))
  spans : ∀ entry ∈ tree, spans[entry.place]? = some entry.span

theorem lists_treeEntries {listed : List (Nat × Nat)} (walked : listedPlaces spans = some listed) :
    Lists spans (treeEntries spans listed) := by
  rw [listedPlaces_eq, Option.some.injEq] at walked
  subst walked
  refine ⟨map_place_treeEntries fun entry member => ?_, fun _ => span_of_mem_treeEntries⟩
  have place := List.mem_map_of_mem (f := Prod.fst) member
  rw [order_eq_descend, List.map_map] at place
  exact depthFirst_lt (by simpa [depthFirst, Function.comp_def] using place)

theorem Lists.places {tree : List TreeEntry} (lists : Lists spans tree) :
    tree.map (·.place) = depthFirst spans maxSpansInSummary := by
  have fst := congrArg (List.map Prod.fst) lists.entries
  rw [order_eq_descend, List.map_map, List.map_map] at fst
  simpa [depthFirst, Function.comp_def] using fst

end

/-! ## Places listed once -/

/-- A list of different places below a bound leaves one out exactly when it is shorter. -/
theorem length_lt_iff_missing {n : Nat} {places : List Nat} (distinct : places.Nodup)
    (below : ∀ place ∈ places, place < n) :
    places.length < n ↔ ∃ place < n, place ∉ places := by
  have among : places.Subperm (List.range n) :=
    List.subperm_of_subset distinct fun place member => List.mem_range.mpr (below place member)
  have short := among.length_le
  rw [List.length_range] at short
  constructor
  · intro shorter
    by_contra none
    push Not at none
    have all : (List.range n).Subperm places :=
      List.subperm_of_subset List.nodup_range fun place member => none place (List.mem_range.mp member)
    have long := all.length_le
    rw [List.length_range] at long
    omega
  · rintro ⟨place, inside, missing⟩
    by_contra long
    have same := among.perm_of_length_le (by rw [List.length_range]; omega)
    exact missing (same.mem_iff.mpr (List.mem_range.mpr inside))

/-! ## The tree -/

section
variable {spans : List SpanView} {tree : List TreeEntry}

theorem getElem_place (lists : Lists spans tree) {n : Nat} {entry : TreeEntry}
    (found : tree[n]? = some entry) :
    (depthFirst spans maxSpansInSummary)[n]? = some entry.place ∧
      spans[entry.place]? = some entry.span := by
  refine ⟨?_, lists.spans entry (List.mem_of_getElem? found)⟩
  rw [← lists.places, List.getElem?_map, found]
  rfl

theorem exists_entry (lists : Lists spans tree) {n place : Nat}
    (found : (depthFirst spans maxSpansInSummary)[n]? = some place) :
    ∃ entry, tree[n]? = some entry ∧ entry.place = place := by
  rw [← lists.places, List.getElem?_map, Option.map_eq_some_iff] at found
  exact found

theorem spanIdAt_of_getElem {place : Nat} {span : SpanView} (here : spans[place]? = some span) :
    spanIdAt spans place = span.spanId := by
  rw [spanIdAt, here]
  rfl

theorem getElem?_of_prefix {α : Type*} {first whole : List α} {n : Nat} {x : α}
    (begins : first <+: whole) (found : first[n]? = some x) : whole[n]? = some x := by
  obtain ⟨rest, rfl⟩ := begins
  rw [List.getElem?_append_left (List.getElem?_eq_some_iff.mp found).1, found]

/-- The span after one that others name as their parent is the first of these. -/
theorem successor_listed {n place child : Nat} {others : List Nat} {id : String}
    (found : (depthFirst spans maxSpansInSummary)[n]? = some place)
    (named : spanIdAt spans place = some id) (children : childrenAt spans (some id) = child :: others)
    (room : n + 1 < maxSpansInSummary) :
    (depthFirst spans maxSpansInSummary)[n + 1]? = some child := by
  have follows : childrenOf spans place = child :: others := by rw [childrenOf, named, children]
  exact order_successor found follows room

theorem IsTree.identified (lists : Lists spans tree) {truncated : Bool}
    (isTree : IsTree spans tree truncated) : Identified spans := by
  have once : (depthFirst spans maxSpansInSummary).Nodup := lists.places ▸ isTree.once
  have same : ∀ {n m place : Nat}, (depthFirst spans maxSpansInSummary)[n]? = some place →
      (depthFirst spans maxSpansInSummary)[m]? = some place → n = m := by
    intro n m place first second
    exact (List.getElem?_inj (List.getElem?_eq_some_iff.mp first).1 once).mp
      (first.trans second.symm)
  have small : ∀ {n place : Nat}, (depthFirst spans maxSpansInSummary)[n]? = some place →
      n < maxSpansInSummary := by
    intro n place found
    exact (List.getElem?_eq_some_iff.mp found).1.trans_le (length_order_le _ _)
  refine ⟨?present, ?apart, ?rooted⟩
  case present =>
    intro place listed unnamed
    obtain ⟨n, found⟩ := List.mem_iff_getElem?.mp listed
    have short := (List.getElem?_eq_some_iff.mp found).1.trans_le (length_order_le _ _)
    have longer : (depthFirst spans maxSpansInSummary)[n]? = some place :=
      getElem?_of_prefix (order_grows (maxSpansInSummary - 1) (childrenAt spans none)) found
    -- the walk goes on with the first root, which it began with
    cases roots : childrenAt spans none with
    | nil => simp [depthFirst, roots] at listed
    | cons root others =>
      have again : (depthFirst spans maxSpansInSummary)[n + 1]? = some root := by
        have follows : childrenOf spans place = root :: others := by
          rw [childrenOf, unnamed, roots]
        exact order_successor longer follows (by omega)
      have begun : (depthFirst spans maxSpansInSummary)[0]? = some root := by
        rw [depthFirst, roots]
        rfl
      exact absurd (same again begun) (Nat.succ_ne_zero n)
  case apart =>
    rintro i listed j listed' id named named' ⟨span, member, below⟩
    obtain ⟨n, found⟩ := List.mem_iff_getElem?.mp listed
    obtain ⟨m, found'⟩ := List.mem_iff_getElem?.mp listed'
    obtain ⟨place, here⟩ := List.mem_iff_getElem?.mp member
    have nonempty : place ∈ childrenAt spans (some id) := mem_childrenAt.mpr ⟨span, here, below⟩
    cases children : childrenAt spans (some id) with
    | nil => rw [children] at nonempty; cases nonempty
    | cons child others =>
      by_contra different
      have apart : n ≠ m := by
        rintro rfl
        exact different (Option.some.inj (found.symm.trans found'))
      -- the child is listed after one of the two, so it has both before it
      obtain ⟨k, after⟩ : ∃ k, (depthFirst spans maxSpansInSummary)[k]? = some child := by
        rcases Nat.lt_or_ge (n + 1) maxSpansInSummary with room | full
        · exact ⟨_, successor_listed found named children room⟩
        · have := small found
          have := small found'
          exact ⟨_, successor_listed found' named' children (by omega)⟩
      obtain ⟨entry, atEntry, rfl⟩ := exists_entry lists after
      obtain ⟨first, atFirst, rfl⟩ := exists_entry lists found
      obtain ⟨second, atSecond, rfl⟩ := exists_entry lists found'
      obtain ⟨childSpan, childHere, childBelow⟩ :=
        mem_childrenAt.mp (children ▸ List.mem_cons_self : entry.place ∈ childrenAt spans (some id))
      have entryHere := (getElem_place lists atEntry).2
      obtain rfl := Option.some.inj (childHere.symm.trans entryHere)
      obtain ⟨childParent, known⟩ := parentKey_eq_some.mp childBelow
      have someText : id ≠ "" := by
        rintro rfl
        simp [knownId] at known
      rw [spanIdAt_of_getElem (getElem_place lists atFirst).2] at named
      rw [spanIdAt_of_getElem (getElem_place lists atSecond).2] at named'
      have before := (isTree.parents k n entry first id atEntry atFirst someText named
        childParent).1
      have before' := (isTree.parents k m entry second id atEntry atSecond someText named'
        childParent).1
      have room := small after
      rw [← spanIdAt_of_getElem (getElem_place lists atFirst).2] at named
      rw [← spanIdAt_of_getElem (getElem_place lists atSecond).2] at named'
      have next := successor_listed found named children (by omega)
      have next' := successor_listed found' named' children (by omega)
      have := same next next'
      omega
  case rooted =>
    intro few place inside
    have listed := isTree.complete few place inside
    rw [lists.places] at listed
    exact rooted_of_listed listed

theorem Identified.once (identified : Identified spans) :
    (depthFirst spans maxSpansInSummary).Nodup := by
  have longer : ∀ i ∈ depthFirst spans (maxSpansInSummary - 1),
      i ∈ depthFirst spans maxSpansInSummary :=
    fun i listed => (order_grows (maxSpansInSummary - 1) (childrenAt spans none)).subset listed
  refine nodup_order_succ (n := maxSpansInSummary - 1) (nodup_childrenAt none)
    (fun i => nodup_childrenAt _) ?fresh ?apart
  case fresh =>
    intro i listed c follows root
    obtain ⟨span, here, below⟩ := mem_childrenAt.mp follows
    obtain ⟨span', here', top⟩ := mem_childrenAt.mp root
    obtain rfl := Option.some.inj (here.symm.trans here')
    exact identified.present i listed (below.symm.trans top)
  case apart =>
    intro i listed j listed' different c follows follows'
    obtain ⟨span, here, below⟩ := mem_childrenAt.mp follows
    obtain ⟨span', here', below'⟩ := mem_childrenAt.mp follows'
    obtain rfl := Option.some.inj (here.symm.trans here')
    cases named : spanIdAt spans i with
    | none => exact identified.present i listed named
    | some id =>
      exact different (identified.apart i (longer i listed) j (longer j listed') id named
        (below'.symm.trans (below.trans named)) ⟨span, List.mem_of_getElem? here,
          below.trans named⟩)

theorem Identified.isTree (identified : Identified spans) (lists : Lists spans tree) :
    IsTree spans tree (decide (tree.length < spans.length)) := by
  have once := identified.once
  have below : ∀ place ∈ depthFirst spans maxSpansInSummary, place < spans.length :=
    fun _ listed => depthFirst_lt listed
  have counted : tree.length = (depthFirst spans maxSpansInSummary).length := by
    rw [← lists.places, List.length_map]
  have missing := length_lt_iff_missing once below
  refine ⟨lists.places ▸ once, ?bounded, ?parents, ?complete, ?flagged⟩
  case bounded => exact counted ▸ length_order_le _ _
  case parents =>
    intro n m entry parent id atEntry atParent someText named childParent
    obtain ⟨entryListed, entryHere⟩ := getElem_place lists atEntry
    obtain ⟨parentListed, parentHere⟩ := getElem_place lists atParent
    have known : knownId spans id = true := by
      simp only [knownId, Bool.and_eq_true, Bool.not_eq_true', List.any_eq_true, beq_iff_eq]
      exact ⟨by simpa using someText, parent.span, List.mem_of_getElem? parentHere, named⟩
    have under := parentKey_eq_some.mpr ⟨childParent, known⟩
    have listed : (descend (childrenOf spans) maxSpansInSummary
        ((childrenAt spans none).map (fun place => (place, 0))))[n]? =
          some (entry.place, entry.depth) := by
      rw [← lists.entries, List.getElem?_map, atEntry]
      rfl
    rcases descend_origin listed with root | ⟨k, earlier, i, depth, found, follows, deeper⟩
    · obtain ⟨place, root, same⟩ := List.mem_map.mp root
      obtain ⟨span, here, top⟩ := mem_childrenAt.mp root
      rw [(Prod.mk.inj same).1] at here
      obtain rfl := Option.some.inj (here.symm.trans entryHere)
      exact absurd (top.symm.trans under) (by simp)
    · -- the entry before it that it follows is its parent
      obtain ⟨span, here, key⟩ := mem_childrenAt.mp follows
      obtain rfl := Option.some.inj (here.symm.trans entryHere)
      rw [← lists.entries, List.getElem?_map, Option.map_eq_some_iff] at found
      obtain ⟨before, atBefore, same⟩ := found
      obtain ⟨rfl, rfl⟩ := Prod.mk.inj same
      obtain ⟨beforeListed, -⟩ := getElem_place lists atBefore
      have agree := identified.apart before.place (List.mem_of_getElem? beforeListed) parent.place
        (List.mem_of_getElem? parentListed) id (key.symm.trans under)
        ((spanIdAt_of_getElem parentHere).trans named)
        ⟨entry.span, List.mem_of_getElem? entryHere, under⟩
      have place : k = m := (List.getElem?_inj (List.getElem?_eq_some_iff.mp beforeListed).1
        once).mp (beforeListed.trans (agree ▸ parentListed.symm))
      subst place
      obtain rfl := Option.some.inj (atBefore.symm.trans atParent)
      exact ⟨earlier, deeper⟩
  case complete =>
    intro few place inside
    rw [lists.places]
    rcases Nat.lt_or_ge (depthFirst spans maxSpansInSummary).length maxSpansInSummary with
      ended | full
    · obtain ⟨begun, closed⟩ := order_closed ended
      induction identified.rooted few place inside with
      | root here top => exact begun _ (mem_childrenAt.mpr ⟨_, here, top⟩)
      | @child place parent span id here under named rooted ih =>
        have inside' : parent < spans.length := by
          by_contra outside
          rw [spanIdAt, List.getElem?_eq_none (by omega)] at named
          cases named
        exact closed parent (ih inside') place (mem_childrenAt.mpr ⟨_, here, under.trans named.symm⟩)
    · by_contra absent
      have := missing.mpr ⟨place, inside, absent⟩
      omega
  case flagged => rw [decide_eq_true_iff, counted, missing, lists.places]

end

/-! ## Every trace -/

theorem summarizeTrace_eq (traceId : String) (trace : Trace) :
    (viewTrace trace = [] ∧ summarizeTrace traceId trace = some (.notFound traceId)) ∨
      ∃ found, summarizeTrace traceId trace = some (.found found) ∧
        Lists (viewTrace trace) found.spanTree ∧ found.spanTreeTruncated =
          decide (found.spanTree.length < (viewTrace trace).length) := by
  unfold summarizeTrace
  split
  · next none => exact .inl ⟨none, rfl⟩
  · next first others spans =>
    have walked : listedPlaces (first :: others) = _ := listedPlaces_eq
    rw [spans, walked]
    exact .inr ⟨_, rfl, lists_treeEntries walked, rfl⟩

/-- Summarizing ends for every trace, and lists a tree of the spans exactly when the
identifiers tell apart the spans it has room for. -/
theorem summaryIsTree_iff (traceId : String) (trace : Trace) :
    SummaryIsTree traceId trace ↔ Identified (viewTrace trace) := by
  rcases summarizeTrace_eq traceId trace with ⟨none, summary⟩ | ⟨found, summary, lists, truncated⟩
  · have nowhere : ∀ n, depthFirst (viewTrace trace) n = [] := by
      intro n
      rw [none]
      exact order_nil n
    refine ⟨fun _ => ⟨?_, ?_, ?_⟩, fun _ => ⟨_, summary, ?_⟩⟩
    · intro place listed
      rw [nowhere] at listed
      cases listed
    · intro place listed
      rw [nowhere] at listed
      cases listed
    · intro _ place inside
      rw [none] at inside
      exact absurd inside (Nat.not_lt_zero place)
    · rintro found ⟨⟩
  · constructor
    · rintro ⟨_, same, isTree⟩
      obtain rfl := Option.some.inj (summary.symm.trans same)
      exact (isTree found rfl).identified lists
    · intro identified
      refine ⟨_, summary, ?_⟩
      rintro _ ⟨⟩
      exact truncated ▸ identified.isTree lists

def unidentifiedSpan : Trace :=
  { batches := [{ scopeSpans := some [{ spans := [{ name := some (.str "GET /cart") }] }] }] }

/-- A span without an identifier leads back to itself. -/
theorem not_summaryIsTree :
    ¬ ∀ (traceId : String) (trace : Trace), SummaryIsTree traceId trace := by
  intro isTree
  obtain ⟨_, same, tree⟩ := isTree "t" unidentifiedSpan
  rcases summarizeTrace_eq "t" unidentifiedSpan with ⟨none, -⟩ | ⟨found, summary, lists, -⟩
  · exact absurd none (by decide +kernel)
  · obtain rfl := Option.some.inj (summary.symm.trans same)
    have identified := (tree found rfl).identified lists
    exact identified.present 0 (by decide +kernel) (by decide +kernel)

end IncidentTriage.Verified
