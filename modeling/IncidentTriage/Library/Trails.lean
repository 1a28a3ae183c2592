import Mathlib.Data.List.Basic
import Mathlib.Logic.Function.Basic

/-! # Logs that record where something went

`Trail edge a moves b` says that the moves lead from `a` to `b`, each from where the
one before it arrived.  A log that is kept per key tells the whole way of every key:
`Extends` says that two logs differ by trails from one standing to another, and its
rules say how entries and standings change one after the other.
-/

namespace IncidentTriage

variable {κ μ α : Type*} {edge : α → μ → α → Prop}

/-- The moves lead from the first state to the last. -/
def Trail (edge : α → μ → α → Prop) : α → List μ → α → Prop
  | a, [], b => a = b
  | a, m :: moves, b => ∃ c, edge a m c ∧ Trail edge c moves b

namespace Trail

theorem refl (a : α) : Trail edge a [] a := rfl

theorem single {a b : α} {m : μ} (step : edge a m b) : Trail edge a [m] b :=
  ⟨b, step, rfl⟩

theorem append {a b c : α} {moves more : List μ} (first : Trail edge a moves b)
    (second : Trail edge b more c) : Trail edge a (moves ++ more) c := by
  induction moves generalizing a with
  | nil =>
    cases first
    exact second
  | cons m moves ih =>
    obtain ⟨d, step, rest⟩ := first
    exact ⟨d, step, ih rest⟩

/-- What every move keeps holds at the end. -/
theorem keeps {P : α → Prop} (kept : ∀ {a m b}, edge a m b → P a → P b) {a b : α}
    {moves : List μ} (trail : Trail edge a moves b) (holds : P a) : P b := by
  induction moves generalizing a with
  | nil =>
    cases trail
    exact holds
  | cons m moves ih =>
    obtain ⟨c, step, rest⟩ := trail
    exact ih rest (kept step holds)

/-- A move starts where the moves before it arrive. -/
theorem split {a b : α} {before after : List μ} {m : μ}
    (trail : Trail edge a (before ++ m :: after) b) :
    ∃ c d, Trail edge a before c ∧ edge c m d ∧ Trail edge d after b := by
  induction before generalizing a with
  | nil =>
    obtain ⟨c, step, rest⟩ := trail
    exact ⟨a, c, rfl, step, rest⟩
  | cons n before ih =>
    obtain ⟨c, step, rest⟩ := trail
    obtain ⟨d, e, first, here, last⟩ := ih rest
    exact ⟨d, e, ⟨c, step, first⟩, here, last⟩

/-- Where moves tell where they arrive, the last one tells where the trail ends. -/
theorem arrives {arrival : μ → α} (labelled : ∀ a m b, edge a m b → b = arrival m) {a b : α}
    {moves : List μ} (trail : Trail edge a moves b) :
    b = (moves.getLast?.map arrival).getD a := by
  rcases List.eq_nil_or_concat moves with rfl | ⟨before, m, rfl⟩
  · exact trail.symm
  · rw [List.concat_eq_append] at trail ⊢
    obtain ⟨c, d, _, step, rfl⟩ := trail.split
    simpa using labelled c m d step

/-- A move leads from where the last one before it arrives. -/
theorem links {arrival : μ → α} (labelled : ∀ a m b, edge a m b → b = arrival m) {a b : α}
    {before after : List μ} {m : μ} (trail : Trail edge a (before ++ m :: after) b) :
    edge ((before.getLast?.map arrival).getD a) m (arrival m) := by
  obtain ⟨c, d, first, step, _⟩ := trail.split
  obtain rfl := first.arrives labelled
  obtain rfl := labelled _ _ _ step
  exact step

end Trail

/-- Every log of `after` continues that of `before` by a trail. -/
def Extends (edge : α → μ → α → Prop) (before after : κ → List μ) (start final : κ → α) : Prop :=
  ∀ k, ∃ moves, after k = before k ++ moves ∧ Trail edge (start k) moves (final k)

namespace Extends

variable {before between after : κ → List μ} {start middle final : κ → α}

theorem refl (log : κ → List μ) (standing : κ → α) : Extends edge log log standing standing :=
  fun _ => ⟨[], (List.append_nil _).symm, rfl⟩

theorem trans (first : Extends edge before between start middle)
    (second : Extends edge between after middle final) :
    Extends edge before after start final := by
  intro k
  obtain ⟨moves, grown, trail⟩ := first k
  obtain ⟨more, grown', trail'⟩ := second k
  exact ⟨moves ++ more, by rw [grown', grown, List.append_assoc], trail.append trail'⟩

/-- One more entry, for one key. -/
theorem single [DecidableEq κ] {key : κ} {m : μ} {b : α}
    (grown : ∀ k, after k = before k ++ if k = key then [m] else [])
    (step : edge (start key) m b) :
    Extends edge before after start (Function.update start key b) := by
  intro k
  rw [grown k]
  by_cases same : k = key
  · subst same
    refine ⟨[m], by rw [if_pos rfl], ?_⟩
    rw [Function.update_self]
    exact .single step
  · refine ⟨[], by rw [if_neg same], ?_⟩
    rw [Function.update_of_ne same]
    rfl

end Extends

end IncidentTriage
