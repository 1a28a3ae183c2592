import IncidentTriage.Library.Runs
import Mathlib.Data.Nat.Count
import Mathlib.Order.Monotone.Basic
import Mathlib.Order.WellFounded

/-! # Schedules of an event-driven machine

A schedule is an endless sequence of events.  A run along it is followed by a trace of
whatever describes the machine; it gets done if a measure never grows, and falls at the
steps of somebody who keeps working; and what happens along it is counted against a
potential that pays for it.
-/

namespace IncidentTriage.Machine

variable {σ ε α : Type*} {step : σ → ε → σ} {start : σ} {schedule : ℕ → ε}

/-- The state after the first `n` events of a schedule. -/
def after (step : σ → ε → σ) (start : σ) (schedule : ℕ → ε) : ℕ → σ
  | 0 => start
  | n + 1 => step (after step start schedule n) (schedule n)

/-- What describes the machine at the start, and can follow each of its steps, follows it
along the schedule. -/
theorem exists_trace {describes : σ → α → Prop} {moves : ε → α → α → Prop} {a : α}
    (initial : describes start a)
    (follows : ∀ n a, describes (after step start schedule n) a →
      ∃ a', describes (after step start schedule (n + 1)) a' ∧ moves (schedule n) a a') :
    ∃ trace : ℕ → α, trace 0 = a ∧
      (∀ n, describes (after step start schedule n) (trace n)) ∧
      ∀ n, moves (schedule n) (trace n) (trace (n + 1)) := by
  choose next described moved using follows
  let trace : (n : ℕ) → { a // describes (after step start schedule n) a } :=
    fun n => Nat.rec ⟨a, initial⟩ (fun n x => ⟨next n x.1 x.2, described n x.1 x.2⟩) n
  exact ⟨fun n => (trace n).1, rfl, fun n => (trace n).2,
    fun n => moved n (trace n).1 (trace n).2⟩

/-- A measure that never grows, and falls whenever somebody works who always works again. -/
theorem exists_done [Preorder α] [WellFoundedLT α] (measure : ℕ → α) {done works : ℕ → Prop}
    (rests : ∀ n, ¬ done n → done (n + 1) ∨ measure (n + 1) ≤ measure n)
    (progress : ∀ n, ¬ done n → works n → done (n + 1) ∨ measure (n + 1) < measure n)
    (fair : ∀ n, ∃ m, n ≤ m ∧ works m) : ∃ n, done n := by
  by_contra endless
  have never : ∀ n, ¬ done n := not_exists.mp endless
  have falls : Antitone measure :=
    antitone_nat_of_succ_le fun n => (rests n (never n)).resolve_left (never (n + 1))
  have none : ∀ a n, measure n = a → False := by
    intro a
    induction a using WellFoundedLT.induction with
    | ind a ih =>
      intro n same
      obtain ⟨m, later, working⟩ := fair n
      have less := (progress m (never m) working).resolve_left (never (m + 1))
      exact ih _ (same ▸ less.trans_le (falls later)) (m + 1) rfl
  exact none _ 0 rfl

/-- What gets done is not done just before. -/
theorem exists_last_undone {done : ℕ → Prop} (start : ¬ done 0) (ends : ∃ n, done n) :
    ∃ n, ¬ done n ∧ done (n + 1) := by
  by_contra none
  obtain ⟨n, finished⟩ := ends
  have never : ∀ n, ¬ done n := by
    intro n
    induction n with
    | zero => exact start
    | succ n ih => exact fun next => none ⟨n, ih, next⟩
  exact never n finished

/-- Everything that happens is paid for. -/
theorem count_add_le {happens : ℕ → Prop} [DecidablePred happens] (potential : ℕ → ℕ)
    (pays : ∀ n, potential (n + 1) + (if happens n then 1 else 0) ≤ potential n) (n : ℕ) :
    Nat.count happens n + potential n ≤ potential 0 := by
  induction n with
  | zero => simp
  | succ n ih =>
    have step := pays n
    rw [Nat.count_succ]
    omega

end IncidentTriage.Machine
