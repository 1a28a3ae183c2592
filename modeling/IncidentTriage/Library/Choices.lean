import Mathlib.Data.List.MinMax
import Mathlib.Data.List.Perm.Basic

/-! # The first best element of a list

A search that keeps the first element of the largest value (`List.argmax`) reads a list
in its order.  `Leads f l a` says that `a` could be the answer: some order of the same
elements puts it first among the best.  What the search says about its answer is
independent of the order exactly when it says the same of every element that leads.
-/

namespace IncidentTriage.Library.Choices

variable {α β γ : Type*} [LinearOrder β] {f : α → β} {l l' : List α} {a b : α}

/-- An element of the list with the largest value. -/
structure Leads (f : α → β) (l : List α) (a : α) : Prop where
  mem : a ∈ l
  le : ∀ b ∈ l, f b ≤ f a

theorem leads_of_argmax (chosen : l.argmax f = some a) : Leads f l a := by
  constructor
  · exact List.argmax_mem chosen
  · intro b member
    exact List.le_of_mem_argmax member chosen

theorem Leads.perm (leads : Leads f l a) (same : l.Perm l') : Leads f l' a := by
  constructor
  · exact same.mem_iff.mp leads.mem
  · intro b member
    exact leads.le b (same.mem_iff.mpr member)

/-- Two elements that lead have one value. -/
theorem Leads.value_eq (leads : Leads f l a) (other : Leads f l b) : f a = f b := by
  apply le_antisymm
  · exact other.le a leads.mem
  · exact leads.le b other.mem

/-- The search answers on every list that is not empty. -/
theorem exists_argmax (member : a ∈ l) : ∃ b, l.argmax f = some b := by
  cases chosen : l.argmax f with
  | none =>
    rw [List.argmax_eq_none.mp chosen] at member
    cases member
  | some b => exact ⟨b, rfl⟩

/-- A best element at the head of the list is the answer. -/
theorem argmax_cons_of_le (best : ∀ b ∈ l, f b ≤ f a) : (a :: l).argmax f = some a := by
  rw [List.argmax_cons]
  cases chosen : l.argmax f with
  | none => rfl
  | some b =>
    have below : ¬ f a < f b := not_lt.mpr (best b (List.argmax_mem chosen))
    simp [below]

/-- Every element that leads is the answer in some order of the list. -/
theorem Leads.exists_perm [DecidableEq α] (leads : Leads f l a) :
    ∃ l' : List α, l'.Perm l ∧ l'.argmax f = some a := by
  refine ⟨a :: l.erase a, (List.perm_cons_erase leads.mem).symm, ?_⟩
  apply argmax_cons_of_le
  intro b member
  exact leads.le b (List.mem_of_mem_erase member)

/-- What is said about the answer is the same in every order when every element that leads
is told alike. -/
theorem argmax_perm {g : α → γ}
    (alike : ∀ a b, Leads f l a → Leads f l b → g a = g b) (same : l'.Perm l) :
    (l'.argmax f).map g = (l.argmax f).map g := by
  cases chosen : l.argmax f with
  | none =>
    have empty : l = [] := List.argmax_eq_none.mp chosen
    subst empty
    rw [List.perm_nil.mp same]
    rfl
  | some a =>
    have leads := leads_of_argmax chosen
    obtain ⟨b, answered⟩ := exists_argmax (f := f) (same.mem_iff.mpr leads.mem)
    have other := (leads_of_argmax answered).perm same
    rw [answered]
    exact congrArg some (alike b a other leads)

end IncidentTriage.Library.Choices
