import IncidentTriage.Evidence.Scope

/-! # Windows are sound and complete

A window that is returned satisfies every limit, a pair within the limits is returned as it is,
and the default window of an incident old enough is never refused.
-/

namespace IncidentTriage.Verified

open IncidentTriage.Python IncidentTriage.Evidence

section
variable {scope : IncidentScope} {now : Time} {default_ maxLength : Int}

/-- A pair within the bounds is not clamped, and no check refuses it. -/
theorem window_of_inBounds {window : Time × Time} (bounds : InBounds scope now maxLength window) :
    scope.window (some ⟨window.1, true⟩) (some ⟨window.2, true⟩) now default_ maxLength =
      .ok window := by
  have unclamped : resolvedEnd (some ⟨window.2, true⟩) now = window.2 := min_eq_left bounds.end_le
  have start (end_ : Time) :
      scope.resolvedStart (some ⟨window.1, true⟩) end_ default_ = window.1 := rfl
  unfold IncidentScope.window
  simp only [isNaive, unclamped, start, Bool.not_true, Bool.or_self, Bool.false_eq_true, if_false]
  rw [if_neg (not_le.mpr bounds.start_lt), if_neg (not_lt.mpr bounds.length_le),
    if_neg (not_lt.mpr bounds.le_length), if_neg (not_lt.mpr bounds.earliest_le)]

/-- The default start is the later of two, each far enough from now. -/
theorem inBounds_default (old : scope.earliest + minWindow ≤ now) (shortest : minWindow ≤ default_)
    (longest : default_ ≤ maxLength) :
    InBounds scope now maxLength (max (now - default_) scope.earliest, now) where
  end_le := le_rfl
  length_le := by
    have later : now - default_ ≤ max (now - default_) scope.earliest := Int.le_max_left _ _
    exact (sub_le_comm.mp later).trans longest
  le_length := by
    have recent : max (now - default_) scope.earliest ≤ now - minWindow :=
      max_le (Int.sub_le_sub_left shortest now) (le_sub_iff_add_le.mpr old)
    exact le_sub_comm.mp recent
  earliest_le := Int.le_max_right _ _

theorem window_default (old : scope.earliest + minWindow ≤ now) (shortest : minWindow ≤ default_)
    (longest : default_ ≤ maxLength) :
    scope.window none none now default_ maxLength =
      .ok (max (now - default_) scope.earliest, now) := by
  -- without times of its own the call resolves to the window that names them
  have same : scope.window none none now default_ maxLength =
      scope.window (some ⟨max (now - default_) scope.earliest, true⟩) (some ⟨now, true⟩) now
        default_ maxLength := by
    simp [IncidentScope.window, isNaive, resolvedEnd, IncidentScope.resolvedStart]
  rw [same]
  exact window_of_inBounds (inBounds_default old shortest longest)

end

end IncidentTriage.Verified
