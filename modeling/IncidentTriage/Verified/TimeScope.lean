import IncidentTriage.Evidence.Telemetry

/-! # The time scope of telemetry queries

A window is checked once, and the adapters send what they derive from it: the window before
it, counts over its seconds, its ends cut to whole seconds or rounded as floats.
-/

namespace IncidentTriage.Verified

open IncidentTriage.Python IncidentTriage.Evidence

/-- The range lies within what the incident may be asked about. -/
def Scoped (scope : IncidentScope) (now : Time) (range : SentRange) : Prop :=
  (scope.earliest : ℚ) ≤ range.first ∧ range.last ≤ now

/-- Everything an operation sends is within the scope; where it is refused it sends nothing. -/
def SendsScoped (scope : IncidentScope) (now : Time) (query : TelemetryQuery) : Prop :=
  ∀ ranges, query.sent scope now = .ok ranges → ∀ range ∈ ranges, Scoped scope now range

/-- The times that an operation derives from its window do not leave the scope. -/
def DerivesScoped (scope : IncidentScope) (now : Time) : TelemetryQuery → Prop
  | .metricWindow start end_ => ∀ window, scope.window start end_ now = .ok window →
    scope.earliest ≤ window.1 - (window.2 - window.1)
  | .logs start end_ => ∀ window, scope.window start end_ now = .ok window →
    scope.earliest * 1000 ≤ nanoseconds window.1 ∧ nanoseconds window.2 ≤ now * 1000
  | .traces start end_ => ∀ window, scope.window start end_ now = .ok window →
    scope.earliest ≤ wholeSeconds window.1 ∧ wholeSeconds window.2 ≤ now
  | .serviceHealth _ | .trace => True

section
variable {scope : IncidentScope} {now : Time} {window : Time × Time}

/-- An operation that derives its ranges from a window is within the scope when what it
derives from every window is. -/
theorem sendsScoped_of_window (query : TelemetryQuery) {start end_ : Option SuppliedTime}
    {default_ : Int} {derive : Time × Time → List SentRange}
    (sent : query.sent scope now =
      (scope.window start end_ now default_).bind (fun window => .ok (derive window))) :
    SendsScoped scope now query ↔ ∀ window, scope.window start end_ now default_ = .ok window →
      ∀ range ∈ derive window, Scoped scope now range := by
  unfold SendsScoped
  rw [sent]
  constructor
  · intro inside window resolved
    exact inside _ (by rw [resolved]; rfl)
  · intro inside ranges derived
    cases resolved : scope.window start end_ now default_ with
    | error error =>
      rw [resolved] at derived
      cases derived
    | ok window =>
      rw [resolved] at derived
      obtain rfl := Except.ok.inj derived
      exact inside window resolved

theorem scoped_metricWindow (bounds : InBounds scope now maxWindow window) :
    (∀ range ∈ PrometheusAdapter.metricWindow window.1 window.2, Scoped scope now range) ↔
      scope.earliest ≤ window.1 - (window.2 - window.1) := by
  simp only [PrometheusAdapter.metricWindow, instantAt, List.forall_mem_cons, List.not_mem_nil,
    false_imp_iff, implies_true, and_true, Scoped]
  have earliest : (scope.earliest : ℚ) ≤ window.1 := by exact_mod_cast bounds.earliest_le
  have end_ : (window.2 : ℚ) ≤ now := by exact_mod_cast bounds.end_le
  have start : (window.1 : ℚ) ≤ window.2 := by exact_mod_cast bounds.start_le
  constructor
  · rintro ⟨-, ⟨baseline, -⟩, -⟩
    exact_mod_cast baseline
  · intro baseline
    exact ⟨⟨earliest, end_⟩, ⟨by exact_mod_cast baseline, start.trans end_⟩,
      earliest.trans start, end_⟩

theorem scoped_serviceHealth (bounds : InBounds scope now maxWindow window) :
    ∀ range ∈ PrometheusAdapter.serviceHealth window.2, Scoped scope now range := by
  intro range member
  obtain ⟨_, -, rfl⟩ := List.mem_map.mp member
  have end_ : (window.2 : ℚ) ≤ now := by exact_mod_cast bounds.end_le
  have earliest : (scope.earliest : ℚ) ≤ window.2 := by
    exact_mod_cast bounds.earliest_le.trans bounds.start_le
  exact ⟨earliest, end_⟩

/-- The whole seconds of a window longer than one are within it. -/
theorem counted_seconds {start end_ : Int} (length : minWindow ≤ end_ - start) :
    start ≤ end_ - max 1 ((end_ - start).tdiv 1000000) * 1000000 := by
  simp only [minWindow, minutes] at length
  rw [Int.tdiv_eq_ediv_of_nonneg (by omega)]
  omega

theorem scoped_count (bounds : InBounds scope now maxWindow window) :
    Scoped scope now (LokiAdapter.count window.1 window.2) := by
  have counted := bounds.earliest_le.trans (counted_seconds bounds.le_length)
  simp only [LokiAdapter.count, Scoped]
  exact ⟨by exact_mod_cast counted, by exact_mod_cast bounds.end_le⟩

theorem scoped_queryLogs (bounds : InBounds scope now maxWindow window) :
    (∀ range ∈ LokiAdapter.queryLogs window.1 window.2, Scoped scope now range) ↔
      scope.earliest * 1000 ≤ nanoseconds window.1 ∧ nanoseconds window.2 ≤ now * 1000 := by
  have counts := scoped_count bounds
  simp only [LokiAdapter.queryLogs, List.forall_mem_cons, List.not_mem_nil, false_imp_iff,
    implies_true, and_true, counts]
  simp only [Scoped]
  rw [le_div_iff₀ (by norm_num), div_le_iff₀ (by norm_num)]
  constructor
  · rintro ⟨first, last⟩
    exact ⟨by exact_mod_cast first, by exact_mod_cast last⟩
  · rintro ⟨first, last⟩
    exact ⟨by exact_mod_cast first, by exact_mod_cast last⟩

theorem scoped_search (window : Time × Time) :
    (∀ range ∈ TempoAdapter.search window.1 window.2, Scoped scope now range) ↔
      scope.earliest ≤ wholeSeconds window.1 ∧ wholeSeconds window.2 ≤ now := by
  simp only [TempoAdapter.search, List.forall_mem_cons, List.not_mem_nil, false_imp_iff,
    implies_true, and_true, Scoped, Int.cast_le]

end

/-- An operation stays within the time scope of its incident exactly when what it derives
from the window it was allowed does. -/
theorem sendsScoped_iff (scope : IncidentScope) (now : Time) (query : TelemetryQuery) :
    SendsScoped scope now query ↔ DerivesScoped scope now query := by
  cases query with
  | metricWindow start end_ =>
    rw [sendsScoped_of_window (.metricWindow start end_) rfl]
    exact forall₂_congr fun window resolved =>
      scoped_metricWindow (IncidentScope.window_ok resolved)
  | serviceHealth at_ =>
    rw [sendsScoped_of_window (.serviceHealth at_) rfl]
    exact iff_true_intro fun window resolved =>
      scoped_serviceHealth (IncidentScope.window_ok resolved)
  | logs start end_ =>
    rw [sendsScoped_of_window (.logs start end_) rfl]
    exact forall₂_congr fun window resolved => scoped_queryLogs (IncidentScope.window_ok resolved)
  | trace =>
    refine iff_true_intro fun ranges sent range member => ?_
    obtain rfl := Except.ok.inj sent
    cases member
  | traces start end_ =>
    rw [sendsScoped_of_window (.traces start end_) rfl]
    exact forall₂_congr fun window _ => scoped_search window

/-- A metric window at the edge of the scope is compared with the one before it. -/
theorem not_sendsScoped : ¬ ∀ (scope : IncidentScope) (now : Time) (query : TelemetryQuery),
    SendsScoped scope now query := by
  intro inside
  have sends := (sendsScoped_of_window (.metricWindow (some ⟨0, true⟩) (some ⟨hours 3, true⟩))
    rfl).mp (inside ⟨hours 24⟩ (hours 24) _)
  have resolved : IncidentScope.window ⟨hours 24⟩ (some ⟨0, true⟩) (some ⟨hours 3, true⟩)
      (hours 24) = .ok (0, hours 3) := by decide
  have baseline := (scoped_metricWindow (IncidentScope.window_ok resolved)).mp (sends _ resolved)
  exact absurd baseline (by decide)

end IncidentTriage.Verified
