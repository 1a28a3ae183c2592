import Mathlib

/-! # Keys built from fields

A key that joins its fields with a separator can be taken apart where the separator is
known to stand: at its first place, if the fields before it are free of the separator,
and at its last place, if those after it are.
-/

namespace IncidentTriage.Keys

variable {α : Type*} {sep : α} {xs xs' ys ys' : List α}

/-- Two keys agree in what stands before the first separator, and after it. -/
theorem eq_of_first (free : sep ∉ xs) (free' : sep ∉ xs')
    (same : xs ++ sep :: ys = xs' ++ sep :: ys') : xs = xs' ∧ ys = ys' := by
  induction xs generalizing xs' with
  | nil =>
    cases xs' with
    | nil => exact ⟨rfl, (List.cons.inj same).2⟩
    | cons x xs' =>
      obtain ⟨rfl, _⟩ := List.cons.inj same
      exact absurd List.mem_cons_self free'
  | cons x xs ih =>
    cases xs' with
    | nil =>
      obtain ⟨rfl, _⟩ := List.cons.inj same
      exact absurd List.mem_cons_self free
    | cons x' xs' =>
      obtain ⟨rfl, rest⟩ := List.cons.inj same
      obtain ⟨rfl, rfl⟩ := ih (fun member => free (List.mem_cons_of_mem _ member))
        (fun member => free' (List.mem_cons_of_mem _ member)) rest
      exact ⟨rfl, rfl⟩

/-- Two keys agree in what stands before the last separator, and after it. -/
theorem eq_of_last (free : sep ∉ ys) (free' : sep ∉ ys')
    (same : xs ++ sep :: ys = xs' ++ sep :: ys') : xs = xs' ∧ ys = ys' := by
  have mirrored : ys.reverse ++ sep :: xs.reverse = ys'.reverse ++ sep :: xs'.reverse := by
    simpa using congrArg List.reverse same
  have free_mirrored : sep ∉ ys.reverse := by simpa using free
  have free_mirrored' : sep ∉ ys'.reverse := by simpa using free'
  obtain ⟨last, first⟩ := eq_of_first free_mirrored free_mirrored' mirrored
  exact ⟨List.reverse_injective first, List.reverse_injective last⟩

/-- The digits of a number are free of every separator that is neither a digit nor a
minus sign. -/
theorem not_mem_toString {c : Char} (notDigit : c.isDigit = false) (notMinus : c ≠ '-') (n : Int) :
    c ∉ (toString n).toList := by
  have digits : ∀ m : Nat, c ∉ m.repr.toList := by
    intro m member
    rw [Nat.toList_repr] at member
    have digit := Nat.isDigit_of_mem_toDigits (by decide) (by decide) member
    rw [notDigit] at digit
    cases digit
  rw [Int.toString_eq_repr, Int.repr_eq_if]
  split_ifs
  · exact digits _
  · rw [String.toList_append, List.mem_append]
    rintro (minus | digit)
    · exact notMinus (List.mem_singleton.mp minus)
    · exact digits _ digit

theorem toString_injective {m n : Int} (same : toString m = toString n) : m = n := by
  rw [Int.toString_eq_repr, Int.toString_eq_repr] at same
  exact Int.repr_injective same

/-- A key that ends with a number tells the number. -/
theorem eq_of_numbered {key key' : String} {m n : Int}
    (same : key ++ ":" ++ toString m = key' ++ ":" ++ toString n) : key = key' ∧ m = n := by
  have listed : key.toList ++ ':' :: (toString m).toList =
      key'.toList ++ ':' :: (toString n).toList := by
    simpa using congrArg String.toList same
  obtain ⟨first, last⟩ := eq_of_last (not_mem_toString (by decide) (by decide) m)
    (not_mem_toString (by decide) (by decide) n) listed
  exact ⟨String.toList_injective first, toString_injective (String.toList_injective last)⟩

end IncidentTriage.Keys
