import Mathlib.Data.List.Basic

/-! # Batches that stop at the first failure

The items of a batch are handled one by one, each on the state the last one left; the
first failure ends the batch with what it left behind, and the items after it are never
handled.
-/

namespace IncidentTriage.Batch

variable {σ α ρ ε : Type*} {handle : σ → α → Except ε ρ × σ} {s s₁ s₂ s' : σ}

/-- The answers of all items, or the first failure. -/
def run (handle : σ → α → Except ε ρ × σ) : σ → List α → Except ε (List ρ) × σ
  | s, [] => (.ok [], s)
  | s, a :: items =>
    match handle s a with
    | (.error e, s) => (.error e, s)
    | (.ok r, s) =>
      match run handle s items with
      | (.error e, s) => (.error e, s)
      | (.ok rs, s) => (.ok (r :: rs), s)

/-- Every item is handled without failure. -/
inductive Handled (handle : σ → α → Except ε ρ × σ) : σ → List α → List ρ → σ → Prop where
  | nil (s : σ) : Handled handle s [] [] s
  | cons {s s₁ s' : σ} {a : α} {r : ρ} {items : List α} {rs : List ρ}
      (first : handle s a = (.ok r, s₁)) (rest : Handled handle s₁ items rs s') :
      Handled handle s (a :: items) (r :: rs) s'

theorem Handled.run_eq {items : List α} {rs : List ρ} (handled : Handled handle s items rs s') :
    run handle s items = (.ok rs, s') := by
  induction handled with
  | nil s => rfl
  | cons first rest ih => simp only [run, first, ih]

/-- The first failure decides the batch, whatever comes after it. -/
theorem Handled.run_failure {earlier later : List α} {a : α} {rs : List ρ} {e : ε}
    (handled : Handled handle s earlier rs s₁) (fails : handle s₁ a = (.error e, s₂)) :
    run handle s (earlier ++ a :: later) = (.error e, s₂) := by
  induction handled with
  | nil s => simp only [List.nil_append, run, fails]
  | cons first rest ih => simp only [List.cons_append, run, first, ih fails]

/-- A batch is handled to its end, or up to an item that fails. -/
theorem handled_or_fails (handle : σ → α → Except ε ρ × σ) (s : σ) (items : List α) :
    (∃ rs s', Handled handle s items rs s') ∨
      ∃ earlier a later rs s₁ e s₂, items = earlier ++ a :: later ∧
        Handled handle s earlier rs s₁ ∧ handle s₁ a = (.error e, s₂) := by
  induction items generalizing s with
  | nil => exact .inl ⟨[], s, .nil s⟩
  | cons a items ih =>
    obtain ⟨⟨outcome, s₁⟩, answer⟩ : ∃ x, handle s a = x := ⟨_, rfl⟩
    cases outcome with
    | error e => exact .inr ⟨[], a, items, [], s, e, s₁, rfl, .nil s, answer⟩
    | ok r =>
      rcases ih s₁ with ⟨rs, s', handled⟩ | ⟨earlier, b, later, rs, s₂, e, s₃, rfl, handled, fails⟩
      · exact .inl ⟨r :: rs, s', .cons answer handled⟩
      · exact .inr ⟨a :: earlier, b, later, r :: rs, s₂, e, s₃, rfl, .cons answer handled, fails⟩

/-- What every item preserves. -/
theorem Handled.invariant {P : σ → Prop} {items : List α} {rs : List ρ}
    (handled : Handled handle s items rs s') (before : P s)
    (preserved : ∀ s a, P s → P (handle s a).2) : P s' := by
  induction handled with
  | nil s => exact before
  | @cons s _ _ a _ _ _ first _ ih =>
    have kept := preserved s a before
    rw [first] at kept
    exact ih kept

/-- What an item that is handled brings about holds at the end of the batch. -/
theorem Handled.achieves {P : α → σ → Prop} {items : List α} {rs : List ρ} {a : α}
    (handled : Handled handle s items rs s') (member : a ∈ items)
    (brings : ∀ {s r s'}, handle s a = (.ok r, s') → P a s')
    (preserved : ∀ s b, P a s → P a (handle s b).2) : P a s' := by
  induction handled with
  | nil s => cases member
  | cons first rest ih =>
    rcases List.mem_cons.mp member with rfl | later
    · exact rest.invariant (brings first) preserved
    · exact ih later

end IncidentTriage.Batch
