import Mathlib.Data.List.Basic

/-! # Logs in which everything comes after what it needs

A log is causal for a relation `needs` when every entry is preceded by an entry for
each thing it needs.  A log grows at its end: the rules say what one more entry adds,
and that the entries already there keep their predecessors.
-/

namespace IncidentTriage.Log

variable {α β : Type*} {needs needs' : β → α → Prop} {key : α → β} {log : List α}

/-- Before each entry stands an entry for everything it needs. -/
def Causal (needs : β → α → Prop) (key : α → β) (log : List α) : Prop :=
  ∀ before entry after, log = before ++ entry :: after →
    ∀ b, needs b entry → b ∈ before.map key

theorem Causal.nil : Causal needs key [] := by
  intro before entry after split
  simp at split

/-- One more entry asks for what it needs itself, and nothing of the others. -/
theorem causal_concat {entry : α} :
    Causal needs key (log ++ [entry]) ↔
      Causal needs key log ∧ ∀ b, needs b entry → b ∈ log.map key := by
  constructor
  · intro causal
    constructor
    · intro before earlier after split b needed
      apply causal before earlier (after ++ [entry]) (by simp [split]) b needed
    · exact causal log entry [] rfl
  · rintro ⟨causal, met⟩ before earlier after split b needed
    rcases List.eq_nil_or_concat after with rfl | ⟨after, last, rfl⟩
    · obtain ⟨rfl, same⟩ := List.append_inj' split rfl
      cases same
      exact met b needed
    · have split' : log ++ [entry] = (before ++ earlier :: after) ++ [last] := by simp [split]
      obtain ⟨rfl, _⟩ := List.append_inj' split' rfl
      exact causal before earlier after rfl b needed

/-- Only what the entries of the log need matters. -/
theorem causal_congr (same : ∀ entry ∈ log, ∀ b, needs b entry ↔ needs' b entry) :
    Causal needs key log ↔ Causal needs' key log := by
  have one : ∀ before entry after, log = before ++ entry :: after →
      ∀ b, needs b entry ↔ needs' b entry := by
    rintro before entry after rfl
    exact same entry (by simp)
  constructor
  · intro causal before entry after split b needed
    exact causal before entry after split b ((one before entry after split b).mpr needed)
  · intro causal before entry after split b needed
    exact causal before entry after split b ((one before entry after split b).mp needed)

end IncidentTriage.Log
