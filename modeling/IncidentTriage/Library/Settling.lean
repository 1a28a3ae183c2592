import IncidentTriage.Library.Schedules

/-! # What settles along a schedule

What holds and is kept by every later step holds for good.  A value whose changes are paid for by
a measure changes no more from some moment on, and what grows without bound is past every bound.
-/

namespace IncidentTriage.Machine

variable {P : ℕ → Prop}

/-- What holds and is kept by every later step holds for good. -/
theorem forever {n : ℕ} (here : P n) (kept : ∀ m, n ≤ m → P m → P (m + 1)) :
    ∀ m, n ≤ m → P m := by
  intro m later
  induction m, later using Nat.le_induction with
  | base => exact here
  | succ m later ih => exact kept m later ih

/-- A value that does not change from some moment on keeps what it was then. -/
theorem constant_of_unchanged {α : Type*} {value : ℕ → α} {n : ℕ}
    (unchanged : ∀ m, n ≤ m → value (m + 1) = value m) : ∀ m, n ≤ m → value m = value n :=
  forever (P := fun m => value m = value n) rfl fun m later same => (unchanged m later).trans same

/-- A value whose every change is paid for by a measure changes no more from some moment on. -/
theorem exists_settled {α : Type*} (value : ℕ → α) (measure : ℕ → ℕ) {n : ℕ}
    (pays : ∀ m, n ≤ m → measure (m + 1) < measure m ∨
      value (m + 1) = value m ∧ measure (m + 1) ≤ measure m) :
    ∃ k, n ≤ k ∧ ∀ m, k ≤ m → value m = value k := by
  have from_ : ∀ b k, n ≤ k → measure k = b →
      ∃ k', k ≤ k' ∧ ∀ m, k' ≤ m → value m = value k' := by
    intro b
    induction b using Nat.strong_induction_on with
    | h b ih =>
      intro k after size
      by_cases quiet : ∀ m, k ≤ m → ¬ measure (m + 1) < measure m
      · refine ⟨k, le_rfl, constant_of_unchanged fun m later => ?_⟩
        exact ((pays m (after.trans later)).resolve_left (quiet m later)).1
      · -- A later change leaves less to pay with.
        push Not at quiet
        obtain ⟨m, later, falls⟩ := quiet
        have low : measure m ≤ measure k := by
          refine forever (P := fun m => measure m ≤ measure k) le_rfl ?_ m later
          intro m later low
          rcases pays m (after.trans later) with falls | ⟨_, rests⟩
          · exact falls.le.trans low
          · exact rests.trans low
        obtain ⟨k', beyond, settled⟩ := ih (measure (m + 1)) (by omega) (m + 1) (by omega) rfl
        exact ⟨k', by omega, settled⟩
  exact from_ (measure n) n le_rfl rfl

/-- A value changes again and again, or settles. -/
theorem changes_or_settles {α : Type*} (value : ℕ → α) (n : ℕ) :
    (∀ k, n ≤ k → ∃ m, k ≤ m ∧ value (m + 1) ≠ value m) ∨
      ∃ k, n ≤ k ∧ ∀ m, k ≤ m → value m = value k := by
  by_cases again : ∀ k, n ≤ k → ∃ m, k ≤ m ∧ value (m + 1) ≠ value m
  · exact .inl again
  · push Not at again
    obtain ⟨k, after, unchanged⟩ := again
    exact .inr ⟨k, after, constant_of_unchanged unchanged⟩

/-- What grows without bound and never falls back is past every bound from some moment on. -/
theorem eventually_past {α : Type*} [Preorder α] {clock : ℕ → α} (monotone : Monotone clock)
    (passes : ∀ t, ∃ n, t ≤ clock n) (n : ℕ) (t : α) :
    ∃ k, n ≤ k ∧ ∀ m, k ≤ m → t ≤ clock m := by
  obtain ⟨k, past⟩ := passes t
  exact ⟨max n k, le_max_left n k,
    fun m later => past.trans (monotone ((le_max_right n k).trans later))⟩

section
variable {σ ε : Type*} {step : σ → ε → σ} {start : σ} {schedule : ℕ → ε}

/-- The state after the first `n` events is that of the run that feeds just these. -/
theorem after_eq_run (n : ℕ) :
    after step start schedule n = run step start ((List.range n).map schedule) := by
  induction n with
  | zero => rfl
  | succ n ih => rw [after, ih, List.range_succ, List.map_append, List.map_singleton, run_concat]

end

end IncidentTriage.Machine
