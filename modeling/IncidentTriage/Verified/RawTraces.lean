import IncidentTriage.Evidence.Tempo

/-! # The stored raw trace

The room for spans is shared by all the scopes that the collector goes through, and what is
kept of them is the beginning of what there was (`boundScopes_spans`, `boundBatches_spans`).
But a batch is copied with everything else it holds, so spans that stand under the older key
stay there, whatever the room.
-/

namespace IncidentTriage.Verified

open IncidentTriage.Evidence

/-! ## The spans of a trace -/

/-- The spans under the older key. -/
def olderSpans (batch : Batch) : List Span := spansOf (batch.instrumentationLibrarySpans.getD [])

/-- The spans of a batch under either key. -/
def batchSpans (batch : Batch) : List Span :=
  spansOf (batch.scopeSpans.getD []) ++ olderSpans batch

def traceSpans (trace : Trace) : List Span := trace.batches.flatMap batchSpans

/-- The spans that the collector goes through. -/
def usedSpans (batches : List Batch) : List Span :=
  batches.flatMap (fun batch => spansOf batch.scopes)

/-- At most so many spans, the first ones of the trace in order, and the flag says whether
any is missing. -/
structure RawBounded (trace : Trace) : Prop where
  bounded : (traceSpans (boundedTrace trace).1).length ≤ maxRawSpans
  beginning : traceSpans (boundedTrace trace).1 <+: traceSpans trace
  flagged : (boundedTrace trace).2 = true ↔ traceSpans (boundedTrace trace).1 ≠ traceSpans trace

/-- No batch names its spans by the older key alone; and where one does beside the newer key,
the whole trace is small. -/
def NamedByNewerKey (trace : Trace) : Prop :=
  (∀ batch ∈ trace.batches, batch.scopeSpans.getD [] = [] → olderSpans batch = []) ∧
    ((∀ batch ∈ trace.batches, olderSpans batch = []) ∨
      (traceSpans trace).length ≤ maxRawSpans)

/-! ## What is kept -/

theorem take_append_of_kept {α : Type*} (room : Nat) (first rest : List α) :
    (first ++ rest).take room =
      first.take room ++ rest.take (room - (first.take room).length) := by
  rw [List.take_append, List.length_take]
  rcases Nat.le_total room first.length with short | long
  · rw [Nat.min_eq_left short, Nat.sub_self, Nat.sub_eq_zero_of_le short]
  · rw [Nat.min_eq_right long]

theorem cut_spans (room : Nat) (spans : List Span) :
    (if room < spans.length then spans.take room else spans) = spans.take room := by
  split_ifs with long
  · rfl
  · rw [List.take_of_length_le (by omega)]

/-- The scopes keep the first spans there is room for; the count goes on, and the flag says
whether there was more. -/
theorem boundScopes_spans (kept : Nat) (scopes : List Scope) :
    spansOf (boundScopes kept scopes).1 = (spansOf scopes).take (maxRawSpans - kept) ∧
      (boundScopes kept scopes).2.1 =
        kept + ((spansOf scopes).take (maxRawSpans - kept)).length ∧
      ((boundScopes kept scopes).2.2 = true ↔
        maxRawSpans - kept < (spansOf scopes).length) := by
  induction scopes generalizing kept with
  | nil => simp [boundScopes, spansOf]
  | cons scope scopes ih =>
    have whole : spansOf (scope :: scopes) = scope.spans ++ spansOf scopes := rfl
    simp only [boundScopes, cut_spans]
    obtain ⟨spans, count, flag⟩ :=
      ih (kept + (scope.spans.take (maxRawSpans - kept)).length)
    have later : maxRawSpans - (kept + (scope.spans.take (maxRawSpans - kept)).length) =
        maxRawSpans - kept - (scope.spans.take (maxRawSpans - kept)).length := by
      omega
    rw [later] at spans count flag
    rw [whole, take_append_of_kept]
    refine ⟨?_, ?_, ?_⟩
    · rw [← spans]
      rfl
    · rw [count, List.length_append]
      omega
    · rw [Bool.or_eq_true, flag, decide_eq_true_iff, List.length_append, List.length_take]
      omega

/-- The newer spans of every batch are the first ones the collector goes through. -/
theorem boundBatches_spans (kept : Nat) (batches : List Batch) :
    (boundBatches kept batches).1.flatMap (fun batch => spansOf (batch.scopeSpans.getD [])) =
        (usedSpans batches).take (maxRawSpans - kept) ∧
      ((boundBatches kept batches).2 = true ↔
        maxRawSpans - kept < (usedSpans batches).length) := by
  induction batches generalizing kept with
  | nil => simp [boundBatches, usedSpans]
  | cons batch batches ih =>
    have whole : usedSpans (batch :: batches) = spansOf batch.scopes ++ usedSpans batches := rfl
    obtain ⟨spans, count, flag⟩ := boundScopes_spans kept batch.scopes
    simp only [boundBatches]
    obtain ⟨later, laterFlag⟩ := ih (boundScopes kept batch.scopes).2.1
    have room : maxRawSpans - (boundScopes kept batch.scopes).2.1 = maxRawSpans - kept -
        ((spansOf batch.scopes).take (maxRawSpans - kept)).length := by
      rw [count]
      omega
    rw [room] at later laterFlag
    rw [whole, take_append_of_kept]
    refine ⟨?_, ?_⟩
    · rw [List.flatMap_cons, later, Option.getD_some, spans]
    · rw [Bool.or_eq_true, flag, laterFlag, List.length_append, List.length_take]
      omega

/-- What stands under the older key is copied. -/
theorem boundBatches_older (kept : Nat) (batches : List Batch) :
    (boundBatches kept batches).1.map olderSpans = batches.map olderSpans := by
  induction batches generalizing kept with
  | nil => rfl
  | cons batch batches ih =>
    rw [boundBatches, List.map_cons, List.map_cons, ih]
    rfl

/-- With room for all, every batch keeps what the collector goes through. -/
theorem boundBatches_of_room {kept : Nat} {batches : List Batch}
    (room : kept + (usedSpans batches).length ≤ maxRawSpans) :
    (boundBatches kept batches).1.map batchSpans =
      batches.map (fun batch => spansOf batch.scopes ++ olderSpans batch) := by
  induction batches generalizing kept with
  | nil => rfl
  | cons batch batches ih =>
    rw [usedSpans, List.flatMap_cons, List.length_append, ← usedSpans] at room
    obtain ⟨spans, count, -⟩ := boundScopes_spans kept batch.scopes
    rw [List.take_of_length_le (by omega)] at spans count
    rw [boundBatches, List.map_cons, List.map_cons, ih (by rw [count]; omega), batchSpans,
      Option.getD_some, spans]
    rfl

/-! ## How many there are -/

def olderCount (batches : List Batch) : Nat := (batches.flatMap olderSpans).length

theorem length_batchSpans (batches : List Batch) :
    (batches.flatMap batchSpans).length =
      (batches.flatMap (fun batch => spansOf (batch.scopeSpans.getD []))).length +
        olderCount batches := by
  induction batches with
  | nil => rfl
  | cons batch batches ih =>
    simp only [olderCount, List.flatMap_cons, List.length_append, batchSpans] at ih ⊢
    omega

theorem length_rawSpans (trace : Trace) :
    (traceSpans (boundedTrace trace).1).length =
      min maxRawSpans (usedSpans trace.batches).length + olderCount trace.batches := by
  rw [traceSpans, length_batchSpans, boundedTrace, (boundBatches_spans 0 trace.batches).1,
    List.length_take, Nat.sub_zero, olderCount, olderCount, List.flatMap_def, List.flatMap_def,
    boundBatches_older]

theorem olderCount_eq_zero {batches : List Batch} :
    olderCount batches = 0 ↔ ∀ batch ∈ batches, olderSpans batch = [] := by
  rw [olderCount, List.length_eq_zero_iff, List.flatMap_eq_nil_iff]

/-- A batch goes by its newer key, unless nothing stands under it. -/
theorem scopes_cases (batch : Batch) :
    batch.scopes = batch.scopeSpans.getD [] ∧ batch.scopeSpans.getD [] ≠ [] ∨
      batch.scopeSpans.getD [] = [] ∧ spansOf batch.scopes = olderSpans batch := by
  unfold Batch.scopes
  split
  · next scope scopes newer => exact .inl ⟨by rw [newer]; rfl, by rw [newer]; simp⟩
  · next other =>
    refine .inr ⟨?_, rfl⟩
    cases newer : batch.scopeSpans with
    | none => rfl
    | some scopes =>
      cases scopes with
      | nil => rfl
      | cons scope scopes => exact absurd newer (other scope scopes)

/-- The spans under the older key of batches that have no other. -/
def orphanCount (batches : List Batch) : Nat :=
  (batches.flatMap (fun batch =>
    if batch.scopeSpans.getD [] = [] then olderSpans batch else [])).length

theorem length_usedSpans (batches : List Batch) :
    (usedSpans batches).length + olderCount batches =
      (batches.flatMap batchSpans).length + orphanCount batches := by
  induction batches with
  | nil => rfl
  | cons batch batches ih =>
    simp only [usedSpans, olderCount, orphanCount, List.flatMap_cons, List.length_append,
      batchSpans] at ih ⊢
    obtain ⟨newer, some⟩ | ⟨none, older⟩ := scopes_cases batch
    · rw [newer, if_neg some, List.length_nil]
      omega
    · rw [older, if_pos none, none, spansOf, List.flatMap_nil, List.length_nil]
      omega

theorem orphanCount_le (batches : List Batch) : orphanCount batches ≤ olderCount batches := by
  induction batches with
  | nil => exact le_rfl
  | cons batch batches ih =>
    simp only [olderCount, orphanCount, List.flatMap_cons, List.length_append] at ih ⊢
    split_ifs
    · omega
    · rw [List.length_nil]
      omega

theorem orphanCount_eq_zero {batches : List Batch} :
    orphanCount batches = 0 ↔
      ∀ batch ∈ batches, batch.scopeSpans.getD [] = [] → olderSpans batch = [] := by
  simp only [orphanCount, List.length_eq_zero_iff, List.flatMap_eq_nil_iff, ite_eq_right_iff]

/-- Where no batch names its spans by the older key alone, the collector goes through the
spans of the newer key. -/
theorem scopes_of_named {batch : Batch}
    (named : batch.scopeSpans.getD [] = [] → olderSpans batch = []) :
    spansOf batch.scopes ++ olderSpans batch = batchSpans batch := by
  obtain ⟨newer, -⟩ | ⟨none, older⟩ := scopes_cases batch
  · rw [newer, batchSpans]
  · rw [older, named none, batchSpans, named none, none]
    rfl

/-! ## The bound -/

/-- The stored trace is bounded, a beginning of what came back, and flagged as cut when it
is, exactly when the spans are named by the newer key. -/
theorem rawBounded_iff (trace : Trace) : RawBounded trace ↔ NamedByNewerKey trace := by
  have raw := length_rawSpans trace
  have used := length_usedSpans trace.batches
  have total : (traceSpans trace).length = (trace.batches.flatMap batchSpans).length := rfl
  have fewer := orphanCount_le trace.batches
  have flag : (boundedTrace trace).2 = true ↔ maxRawSpans < (usedSpans trace.batches).length :=
    (boundBatches_spans 0 trace.batches).2
  constructor
  · rintro ⟨bounded, beginning, -⟩
    have shorter := beginning.length_le
    refine ⟨orphanCount_eq_zero.mp ?_, ?_⟩
    · -- spans under the older key alone are kept twice
      by_contra orphans
      omega
    · rw [← olderCount_eq_zero]
      omega
  · rintro ⟨named, small⟩
    rw [← olderCount_eq_zero] at small
    have orphans := orphanCount_eq_zero.mpr named
    have whole : trace.batches.flatMap (fun batch => spansOf batch.scopes ++ olderSpans batch) =
        traceSpans trace :=
      List.flatMap_congr fun batch member => scopes_of_named (named batch member)
    rcases Nat.lt_or_ge maxRawSpans (usedSpans trace.batches).length with cut | room
    · -- something is dropped: nothing stands under the older key
      have none : olderCount trace.batches = 0 := by omega
      have plain : ∀ batches : List Batch, olderCount batches = 0 → batches.flatMap batchSpans =
          batches.flatMap (fun batch => spansOf (batch.scopeSpans.getD [])) := by
        intro batches none
        refine List.flatMap_congr fun batch member => ?_
        rw [batchSpans, olderCount_eq_zero.mp none batch member, List.append_nil]
      have noneRaw : olderCount (boundedTrace trace).1.batches = 0 := by
        rw [olderCount, List.flatMap_def, boundedTrace, boundBatches_older, ← List.flatMap_def]
        exact none
      have usedAll : usedSpans trace.batches = traceSpans trace := by
        rw [← whole]
        refine List.flatMap_congr fun batch member => ?_
        rw [olderCount_eq_zero.mp none batch member, List.append_nil]
      have kept : traceSpans (boundedTrace trace).1 = (traceSpans trace).take maxRawSpans := by
        rw [traceSpans, plain _ noneRaw, boundedTrace, (boundBatches_spans 0 trace.batches).1,
          Nat.sub_zero, usedAll]
      refine ⟨by omega, kept ▸ List.take_prefix _ _, ?_⟩
      rw [flag]
      refine ⟨fun _ same => ?_, fun _ => cut⟩
      have lengths := congrArg List.length same
      omega
    · have kept : traceSpans (boundedTrace trace).1 = traceSpans trace := by
        rw [traceSpans, List.flatMap_def, boundedTrace, boundBatches_of_room (by omega),
          ← List.flatMap_def, whole]
      refine ⟨by omega, kept ▸ List.prefix_rfl, ?_⟩
      rw [flag]
      refine ⟨fun cut => ?_, fun different => absurd kept different⟩
      omega

/-- One span under the older key alone is stored under both. -/
theorem not_rawBounded : ¬ ∀ trace : Trace, RawBounded trace := by
  intro bounded
  have older := bounded
    { batches := [{ instrumentationLibrarySpans := some [{ spans := [{}] }] }] }
  exact absurd older.beginning.length_le (by decide)

end IncidentTriage.Verified
