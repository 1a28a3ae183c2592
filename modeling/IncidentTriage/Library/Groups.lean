import Mathlib.Algebra.GroupWithZero.Nat
import Mathlib.Data.List.Basic

/-! # Groups, and sorts whose comparisons may fail

A list of entries, each under a key, is built up by updating the first entry whose key agrees
with a given one, or appending a fresh one.  Keys need not have a decidable equality, nor one
that is an equivalence.  The sort compares by a function that may fail, and fails with it.
-/

namespace IncidentTriage.Groups

variable {κ ν α ε : Type*}

/-! ## Updating -/

/-- Renews the first entry of which `agrees` holds, or appends a fresh one. -/
def upsert (agrees : κ → Bool) (fresh : κ × ν) (renew : ν → ν) : List (κ × ν) → List (κ × ν)
  | [] => [fresh]
  | entry :: rest =>
    if agrees entry.1 then (entry.1, renew entry.2) :: rest
    else entry :: upsert agrees fresh renew rest

variable {agrees : κ → Bool} {fresh : κ × ν} {renew : ν → ν}

/-- Where the fresh entry and every renewal weigh the same, so much weight comes to it. -/
theorem sum_upsert (weight : ν → Nat) {n : Nat} (new : weight fresh.2 = n)
    (more : ∀ v, weight (renew v) = weight v + n) (entries : List (κ × ν)) :
    ((upsert agrees fresh renew entries).map (fun entry => weight entry.2)).sum =
      (entries.map (fun entry => weight entry.2)).sum + n := by
  induction entries with
  | nil => simp [upsert, new]
  | cons entry rest ih =>
    unfold upsert
    split
    · simp only [List.map_cons, List.sum_cons, more]
      omega
    · simp only [List.map_cons, List.sum_cons, ih]
      omega

/-- What agreeing keys share holds of some key after the update if it did before, or does of
the fresh one. -/
theorem exists_key_upsert (p : κ → Prop) (shared : ∀ key, agrees key = true → (p key ↔ p fresh.1))
    (entries : List (κ × ν)) :
    (∃ entry ∈ upsert agrees fresh renew entries, p entry.1) ↔
      (∃ entry ∈ entries, p entry.1) ∨ p fresh.1 := by
  induction entries with
  | nil => simp [upsert]
  | cons entry rest ih =>
    unfold upsert
    split
    next same =>
      simp only [List.mem_cons, exists_eq_or_imp, shared entry.1 same]
      rw [or_assoc, or_comm (b := p fresh.1), ← or_assoc, or_self]
    next =>
      simp only [List.mem_cons, exists_eq_or_imp, ih, or_assoc]

theorem key_of_mem_upsert {entries : List (κ × ν)} {entry : κ × ν}
    (member : entry ∈ upsert agrees fresh renew entries) :
    entry.1 = fresh.1 ∨ ∃ old ∈ entries, old.1 = entry.1 := by
  induction entries with
  | nil => exact .inl (congrArg Prod.fst (List.mem_singleton.mp member))
  | cons first rest ih =>
    unfold upsert at member
    split at member
    · rcases List.mem_cons.mp member with rfl | old
      · exact .inr ⟨first, List.mem_cons_self, rfl⟩
      · exact .inr ⟨entry, List.mem_cons_of_mem first old, rfl⟩
    · rcases List.mem_cons.mp member with rfl | later
      · exact .inr ⟨entry, List.mem_cons_self, rfl⟩
      · exact (ih later).imp_right fun ⟨old, listed, same⟩ =>
          ⟨old, List.mem_cons_of_mem first listed, same⟩

/-! ## Sorting -/

variable (less : α → α → Except ε Bool)

/-- Before the first element that is not less. -/
def insert (x : α) : List α → Except ε (List α)
  | [] => .ok [x]
  | y :: ys =>
    match less y x with
    | .error e => .error e
    | .ok true =>
      match insert x ys with
      | .error e => .error e
      | .ok rest => .ok (y :: rest)
    | .ok false => .ok (x :: y :: ys)

def sort : List α → Except ε (List α)
  | [] => .ok []
  | x :: xs =>
    match sort xs with
    | .error e => .error e
    | .ok sorted => insert less x sorted

variable {less}

theorem perm_of_insert {x : α} {items sorted : List α} (done : insert less x items = .ok sorted) :
    sorted.Perm (x :: items) := by
  induction items generalizing sorted with
  | nil =>
    obtain rfl := Except.ok.inj done
    exact .refl _
  | cons y ys ih =>
    unfold insert at done
    split at done
    · cases done
    · split at done
      · cases done
      next rest inserted =>
        obtain rfl := Except.ok.inj done
        exact ((ih inserted).cons y).trans (.swap x y ys)
    · obtain rfl := Except.ok.inj done
      exact .refl _

theorem perm_of_sort {items sorted : List α} (done : sort less items = .ok sorted) :
    sorted.Perm items := by
  induction items generalizing sorted with
  | nil =>
    obtain rfl := Except.ok.inj done
    exact .refl _
  | cons x xs ih =>
    unfold sort at done
    split at done
    · cases done
    next before below => exact (perm_of_insert done).trans ((ih below).cons x)

theorem exists_insert {x : α} {items : List α} (compares : ∀ y ∈ items, ∃ b, less y x = .ok b) :
    ∃ sorted, insert less x items = .ok sorted := by
  induction items with
  | nil => exact ⟨[x], rfl⟩
  | cons y ys ih =>
    obtain ⟨b, compared⟩ := compares y List.mem_cons_self
    obtain ⟨rest, inserted⟩ := ih fun other member => compares other (List.mem_cons_of_mem y member)
    unfold insert
    rw [compared]
    cases b with
    | true => exact ⟨y :: rest, by simp [inserted]⟩
    | false => exact ⟨x :: y :: ys, rfl⟩

/-- A sort whose comparisons do not fail gives a list. -/
theorem exists_sort {items : List α} (compares : ∀ x ∈ items, ∀ y ∈ items, ∃ b, less x y = .ok b) :
    ∃ sorted, sort less items = .ok sorted := by
  induction items with
  | nil => exact ⟨[], rfl⟩
  | cons x xs ih =>
    obtain ⟨before, sorted⟩ := ih fun y listed z listed' =>
      compares y (List.mem_cons_of_mem x listed) z (List.mem_cons_of_mem x listed')
    obtain ⟨after, inserted⟩ : ∃ after, insert less x before = .ok after :=
      exists_insert fun y listed =>
        compares y (List.mem_cons_of_mem x ((perm_of_sort sorted).mem_iff.mp listed)) x
          List.mem_cons_self
    exact ⟨after, by simp [sort, sorted, inserted]⟩

/-- The element is compared with the first, if there is one. -/
theorem compared_of_insert {x y : α} {ys sorted : List α}
    (done : insert less x (y :: ys) = .ok sorted) : ∃ b, less y x = .ok b := by
  unfold insert at done
  cases compared : less y x with
  | error e => simp [compared] at done
  | ok b => exact ⟨b, rfl⟩

/-- Where only elements of one kind compare, a sort that gives a list found one kind. -/
theorem alike_of_sort {δ : Type*} (kind : α → δ) {items sorted : List α}
    (alike : ∀ x ∈ items, ∀ y ∈ items, ∀ b, less x y = .ok b → kind x = kind y)
    (done : sort less items = .ok sorted) : ∀ x ∈ items, ∀ y ∈ items, kind x = kind y := by
  induction items generalizing sorted with
  | nil => simp
  | cons x xs ih =>
    unfold sort at done
    split at done
    · cases done
    next before below =>
      have kinds := ih (fun y listed z listed' =>
        alike y (List.mem_cons_of_mem x listed) z (List.mem_cons_of_mem x listed')) below
      have same : ∀ y ∈ xs, kind y = kind x := by
        intro y listed
        cases before with
        | nil => exact absurd ((perm_of_sort below).mem_iff.mpr listed) (by simp)
        | cons first rest =>
          have member := (perm_of_sort below).mem_iff.mp List.mem_cons_self
          obtain ⟨b, compared⟩ := compared_of_insert done
          exact (kinds y listed first member).trans
            (alike first (List.mem_cons_of_mem x member) x List.mem_cons_self b compared)
      intro y listed z listed'
      rcases List.mem_cons.mp listed with rfl | old
      · rcases List.mem_cons.mp listed' with rfl | old'
        · rfl
        · exact (same z old').symm
      · rcases List.mem_cons.mp listed' with rfl | old'
        · exact same y old
        · exact kinds y old z old'

end IncidentTriage.Groups
