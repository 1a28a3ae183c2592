import Mathlib.Data.List.Nodup

/-! # Places in nested lists

A list of lists is gone through with each element's place at hand.  What is said of a place is
said once, however many places say the same.
-/

namespace IncidentTriage.Places

variable {α β γ : Type*}

/-- What is said of each element, given where it stands. -/
def places (say : Nat → α → List β) (xs : List α) : List β :=
  xs.zipIdx.flatMap fun place => say place.2 place.1

variable {say : Nat → α → List β} {xs : List α}

theorem mem_places {b : β} : b ∈ places say xs ↔ ∃ i x, xs[i]? = some x ∧ b ∈ say i x := by
  simp only [places, List.mem_flatMap, Prod.exists, List.mk_mem_zipIdx_iff_getElem?]
  exact exists_comm

/-- What is said once at each place, and of no two places alike, is said once. -/
theorem nodup_places (once : ∀ i x, xs[i]? = some x → (say i x).Nodup)
    (apart : ∀ i x j y b, b ∈ say i x → b ∈ say j y → i = j) : (places say xs).Nodup := by
  unfold places
  rw [List.nodup_flatMap]
  constructor
  · intro place listed
    exact once place.2 place.1 (List.mk_mem_zipIdx_iff_getElem?.mp listed)
  · have indices : (xs.zipIdx.map Prod.snd).Pairwise (· ≠ ·) := by
      rw [List.zipIdx_map_snd]
      exact List.nodup_range'
    refine (List.pairwise_map.mp indices).imp ?_
    intro p q different b atP atQ
    exact different (apart _ _ _ _ b atP atQ)

/-- Reading what is said of each place is going through the elements. -/
theorem filterMap_places {read : β → Option γ} {each : α → List γ}
    (reads : ∀ i x, xs[i]? = some x → (say i x).filterMap read = each x) :
    (places say xs).filterMap read = xs.flatMap each := by
  have all : xs.zipIdx.flatMap (fun place => (say place.2 place.1).filterMap read) =
      xs.zipIdx.flatMap (fun place => each place.1) := by
    refine List.flatMap_congr fun place listed => ?_
    exact reads place.2 place.1 (List.mk_mem_zipIdx_iff_getElem?.mp listed)
  rw [places, List.filterMap_flatMap, all]
  conv_rhs => rw [← List.zipIdx_map_fst 0 xs, List.flatMap_map]

end IncidentTriage.Places
