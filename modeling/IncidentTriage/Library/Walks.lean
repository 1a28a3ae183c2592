import Mathlib.Data.List.Basic
import Mathlib.Data.List.Nodup

/-! # Capped depth-first walks

A walk follows `next` from the nodes it is given into a list that takes no more than a
number of entries, each with its depth.  It marks no node, so that nothing but the cap ends
it.  What it lists is the beginning of the depth-first order, which `descend` reads off a
stack; and whether that order repeats itself is decided by the nodes that share what comes
next.
-/

namespace IncidentTriage.Library

variable {ι : Type*} (next : ι → List ι)

/-- Walk the nodes, each with what is below it; `none` where the walk goes deeper than the
fuel. -/
def walk (cap : Nat) : Nat → Nat → List ι → List (ι × Nat) → Option (List (ι × Nat))
  | 0, _, nodes, listed => if nodes.isEmpty || cap ≤ listed.length then some listed else none
  | fuel + 1, depth, nodes, listed =>
    nodes.foldlM (fun listed i =>
      if cap ≤ listed.length then some listed
      else walk cap fuel (depth + 1) (next i) (listed ++ [(i, depth)])) listed

/-- The first entries of the depth-first order of a stack. -/
def descend : Nat → List (ι × Nat) → List (ι × Nat)
  | 0, _ => []
  | _ + 1, [] => []
  | n + 1, (i, depth) :: stack =>
    (i, depth) :: descend n ((next i).map (fun j => (j, depth + 1)) ++ stack)

/-- The depth-first order without the depths. -/
def order : Nat → List ι → List ι
  | 0, _ => []
  | _ + 1, [] => []
  | n + 1, i :: stack => i :: order n (next i ++ stack)

/-- What is left on the stack. -/
def left : Nat → List ι → List ι
  | 0, stack => stack
  | _ + 1, [] => []
  | n + 1, i :: stack => left n (next i ++ stack)

variable {next}

/-! ## The walk lists the depth-first order -/

@[simp] theorem descend_nil (n : Nat) : descend next n [] = [] := by
  cases n <;> rfl

@[simp] theorem order_nil (n : Nat) : order next n [] = [] := by
  cases n <;> rfl

@[simp] theorem left_nil (n : Nat) : left next n [] = [] := by
  cases n <;> rfl

theorem order_eq_descend (n : Nat) (stack : List (ι × Nat)) :
    (descend next n stack).map Prod.fst = order next n (stack.map Prod.fst) := by
  induction n generalizing stack with
  | zero => rfl
  | succ n ih =>
    cases stack with
    | nil => rfl
    | cons entry stack =>
      have below : ((next entry.1).map (fun j => (j, entry.2 + 1))).map Prod.fst = next entry.1 := by
        rw [List.map_map]
        exact List.map_id _
      simp only [descend, order, List.map_cons, ih, List.map_append, below]

/-- One call of the walk takes its nodes off the stack, and what it lists with them. -/
theorem walk_descend {cap : Nat} (fuel depth : Nat) (nodes : List ι) (listed : List (ι × Nat))
    (room : listed.length ≤ cap) (enough : cap ≤ fuel + listed.length) :
    ∃ longer, walk next cap fuel depth nodes listed = some longer ∧ longer.length ≤ cap ∧
      listed.length ≤ longer.length ∧ ∀ stack,
        listed ++ descend next (cap - listed.length) (nodes.map (fun i => (i, depth)) ++ stack) =
          longer ++ descend next (cap - longer.length) stack := by
  induction fuel generalizing depth nodes listed with
  | zero =>
    have full : cap ≤ listed.length := by omega
    refine ⟨listed, by simp [walk, full], room, Nat.le_refl _, fun stack => ?_⟩
    simp [Nat.sub_eq_zero_of_le full, descend]
  | succ fuel ih =>
    simp only [walk]
    induction nodes generalizing listed with
    | nil => exact ⟨listed, rfl, room, Nat.le_refl _, fun stack => by simp⟩
    | cons i nodes rest =>
      rw [List.foldlM_cons]
      by_cases full : cap ≤ listed.length
      · -- no room: the other nodes find none either
        obtain ⟨longer, walked, short, grown, order⟩ := rest listed room enough
        rw [if_pos full, Option.bind_eq_bind, Option.bind_some, walked]
        refine ⟨longer, rfl, short, grown, fun stack => ?_⟩
        rw [← order stack, Nat.sub_eq_zero_of_le full]
        rfl
      · rw [if_neg full]
        have shorter : listed.length < cap := by omega
        obtain ⟨below, walkedBelow, shortBelow, grownBelow, orderBelow⟩ :=
          ih (depth + 1) (next i) (listed ++ [(i, depth)]) (by simp only [List.length_append, List.length_singleton]; omega)
            (by simp only [List.length_append, List.length_singleton]; omega)
        rw [List.length_append, List.length_singleton] at grownBelow orderBelow
        obtain ⟨longer, walked, short, grown, order⟩ := rest below shortBelow (by omega)
        rw [walkedBelow, Option.bind_eq_bind, Option.bind_some, walked]
        refine ⟨longer, rfl, short, by omega, fun stack => ?_⟩
        obtain ⟨room', counted⟩ : ∃ n, cap - listed.length = n + 1 :=
          ⟨cap - (listed.length + 1), by omega⟩
        rw [← order stack, ← orderBelow, counted, List.map_cons, List.cons_append, descend,
          List.append_assoc, List.singleton_append]
        congr 3
        omega

/-- The walk ends within as much depth as it lists entries, with the beginning of the
depth-first order. -/
theorem walk_eq_descend (cap : Nat) (nodes : List ι) :
    walk next cap cap 0 nodes [] = some (descend next cap (nodes.map (fun i => (i, 0)))) := by
  obtain ⟨longer, walked, _, _, order⟩ :=
    walk_descend cap 0 nodes [] (Nat.zero_le cap) (by simp)
  rw [walked]
  have listed := order []
  simp only [descend_nil, List.append_nil, List.nil_append, List.length_nil, Nat.sub_zero] at listed
  rw [listed]

/-! ## Entries and where they come from -/

theorem length_descend_le (n : Nat) (stack : List (ι × Nat)) :
    (descend next n stack).length ≤ n := by
  induction n generalizing stack with
  | zero => simp [descend]
  | succ n ih =>
    cases stack with
    | nil => simp
    | cons entry stack => simpa [descend] using ih _

theorem length_order_le (n : Nat) (stack : List ι) : (order next n stack).length ≤ n := by
  induction n generalizing stack with
  | zero => simp [order]
  | succ n ih =>
    cases stack with
    | nil => simp
    | cons i stack => simpa [order] using ih _

/-- Every entry was on the stack, or is next to an earlier entry at depth one less. -/
theorem descend_origin {n k : Nat} {stack : List (ι × Nat)} {c : ι} {depth : Nat}
    (listed : (descend next n stack)[k]? = some (c, depth)) :
    (c, depth) ∈ stack ∨ ∃ m < k, ∃ i e, (descend next n stack)[m]? = some (i, e) ∧ c ∈ next i ∧
      depth = e + 1 := by
  induction n generalizing stack k with
  | zero => simp [descend] at listed
  | succ n ih =>
    cases stack with
    | nil => simp at listed
    | cons entry stack =>
      obtain ⟨i, e⟩ := entry
      cases k with
      | zero =>
        simp only [descend, List.getElem?_cons_zero, Option.some.injEq] at listed
        exact .inl (listed ▸ List.mem_cons_self)
      | succ k =>
        simp only [descend, List.getElem?_cons_succ] at listed
        rcases ih listed with waiting | ⟨m, earlier, j, d, found, follows, deeper⟩
        · rcases List.mem_append.mp waiting with pushed | older
          · obtain ⟨c', follows, same⟩ := List.mem_map.mp pushed
            obtain ⟨rfl, rfl⟩ := Prod.mk.inj same
            exact .inr ⟨0, Nat.succ_pos k, i, e, rfl, follows, rfl⟩
          · exact .inl (List.mem_cons_of_mem _ older)
        · exact .inr ⟨m + 1, by omega, j, d, by simpa [descend] using found, follows, deeper⟩

/-- After an entry comes the first of what is next to it. -/
theorem order_successor {n m : Nat} {stack : List ι} {i c : ι} {others : List ι}
    (listed : (order next n stack)[m]? = some i) (follows : next i = c :: others)
    (short : m + 1 < n) : (order next n stack)[m + 1]? = some c := by
  induction n generalizing stack m with
  | zero => omega
  | succ n ih =>
    cases stack with
    | nil => simp at listed
    | cons x stack =>
      cases m with
      | zero =>
        simp only [order, List.getElem?_cons_zero, Option.some.injEq] at listed
        obtain ⟨n', rfl⟩ : ∃ n', n = n' + 1 := ⟨n - 1, by omega⟩
        simp only [order, List.getElem?_cons_succ, listed, follows, List.cons_append,
          List.getElem?_cons_zero]
      | succ m =>
        simp only [order, List.getElem?_cons_succ] at listed ⊢
        exact ih listed (by omega)

/-- The order goes on with the head of the stack. -/
theorem order_succ (n : Nat) (stack : List ι) :
    order next (n + 1) stack = order next n stack ++ (left next n stack).head?.toList := by
  induction n generalizing stack with
  | zero => cases stack <;> rfl
  | succ n ih =>
    cases stack with
    | nil => simp
    | cons i stack => rw [order, ih, order, left, List.cons_append]

theorem left_succ_of_cons {n : Nat} {stack rest : List ι} {i : ι}
    (top : left next n stack = i :: rest) : left next (n + 1) stack = next i ++ rest := by
  induction n generalizing stack with
  | zero =>
    rw [left] at top
    rw [top, left, left]
  | succ n ih =>
    cases stack with
    | nil => simp at top
    | cons x stack =>
      rw [left] at top
      rw [left]
      exact ih top

theorem left_succ_of_nil {n : Nat} {stack : List ι} (empty : left next n stack = []) :
    left next (n + 1) stack = [] := by
  induction n generalizing stack with
  | zero =>
    rw [left] at empty
    rw [empty, left_nil]
  | succ n ih =>
    cases stack with
    | nil => rfl
    | cons x stack =>
      rw [left] at empty
      rw [left]
      exact ih empty

theorem order_grows (n : Nat) (stack : List ι) :
    order next n stack <+: order next (n + 1) stack := by
  rw [order_succ]
  exact List.prefix_append _ _

/-! ## When nothing is listed twice -/

/-- Nothing is listed twice as long as the nodes walked through lead to different nodes, and
none of them back to where the walk began. -/
theorem nodup_order_succ {n : Nat} {roots : List ι} (distinct : roots.Nodup)
    (each : ∀ i, (next i).Nodup)
    (fresh : ∀ i ∈ order next n roots, ∀ c ∈ next i, c ∉ roots)
    (apart : ∀ i ∈ order next n roots, ∀ j ∈ order next n roots, i ≠ j →
      ∀ c ∈ next i, c ∉ next j) :
    (order next (n + 1) roots).Nodup := by
  have invariant : ∀ m ≤ n, (order next m roots ++ left next m roots).Nodup ∧
      ∀ c ∈ order next m roots ++ left next m roots,
        c ∈ roots ∨ ∃ i ∈ order next m roots, c ∈ next i := by
    intro m small
    induction m with
    | zero => exact ⟨distinct, fun c member => .inl member⟩
    | succ m ih =>
      obtain ⟨nodup, origin⟩ := ih (by omega)
      have known : ∀ i ∈ order next (m + 1) roots, i ∈ order next n roots := by
        have grows : ∀ k, order next (m + 1) roots <+: order next (m + 1 + k) roots := by
          intro k
          induction k with
          | zero => exact List.prefix_rfl
          | succ k grown => exact grown.trans (order_grows _ _)
        intro i member
        have longer := grows (n - (m + 1))
        rw [Nat.add_sub_cancel' small] at longer
        exact longer.subset member
      cases top : left next m roots with
      | nil =>
        rw [order_succ, top, left_succ_of_nil top]
        rw [top] at nodup origin
        simp only [List.head?_nil, Option.toList_none, List.append_nil] at nodup origin ⊢
        exact ⟨nodup, origin⟩
      | cons i rest =>
        have listed : order next (m + 1) roots = order next m roots ++ [i] := by
          rw [order_succ, top]
          rfl
        rw [top] at nodup origin
        have here : i ∈ order next (m + 1) roots := by simp [listed]
        have unlisted : i ∉ order next m roots := fun member =>
          (List.nodup_append.mp nodup).2.2 i member i List.mem_cons_self rfl
        -- what is pushed was not there before
        have new : ∀ c ∈ next i, c ∉ order next m roots ++ i :: rest := by
          intro c follows member
          rcases origin c member with root | ⟨j, earlier, alsoFollows⟩
          · exact fresh i (known i here) c follows root
          · have walked : j ∈ order next (m + 1) roots := by simp [listed, earlier]
            have different : i ≠ j := fun same => unlisted (same ▸ earlier)
            exact apart i (known i here) j (known j walked) different c follows alsoFollows
        rw [listed, left_succ_of_cons top]
        refine ⟨?_, ?_⟩
        · have moved : (order next m roots ++ [i] ++ (next i ++ rest)).Perm
              (next i ++ (order next m roots ++ i :: rest)) := by
            rw [← List.append_assoc, List.append_assoc _ [i] (next i)]
            have swapped : (order next m roots ++ ([i] ++ next i) ++ rest).Perm
                (next i ++ (order next m roots ++ [i]) ++ rest) := by
              refine List.Perm.append_right rest ?_
              rw [← List.append_assoc]
              exact List.perm_append_comm
            refine swapped.trans (List.Perm.of_eq ?_)
            simp
          rw [moved.nodup_iff, List.nodup_append]
          refine ⟨each i, nodup, ?_⟩
          rintro c follows _ member rfl
          exact new c follows member
        · intro c member
          simp only [List.mem_append, List.mem_singleton] at member
          have old : c ∈ order next m roots ++ i :: rest → c ∈ roots ∨
              ∃ j ∈ order next m roots ++ [i], c ∈ next j := by
            intro waiting
            rcases origin c waiting with root | ⟨j, earlier, follows⟩
            · exact .inl root
            · exact .inr ⟨j, List.mem_append_left _ earlier, follows⟩
          rcases member with (earlier | rfl) | follows | waiting
          · exact old (List.mem_append_left _ earlier)
          · exact old (by simp)
          · exact .inr ⟨i, by simp, follows⟩
          · exact old (by simp [waiting])
  obtain ⟨nodup, -⟩ := invariant n (Nat.le_refl n)
  rw [order_succ]
  cases top : left next n roots with
  | nil => simpa [top] using nodup
  | cons i rest =>
    rw [top, show order next n roots ++ i :: rest = order next n roots ++ [i] ++ rest by simp]
      at nodup
    exact nodup.of_append_left

/-! ## When everything is listed -/

/-- A walk that did not use up its entries has listed all it began with, and all that is
next to what it listed. -/
theorem order_closed {n : Nat} {stack : List ι} (ended : (order next n stack).length < n) :
    (∀ i ∈ stack, i ∈ order next n stack) ∧
      ∀ i ∈ order next n stack, ∀ c ∈ next i, c ∈ order next n stack := by
  induction n generalizing stack with
  | zero => omega
  | succ n ih =>
    cases stack with
    | nil => simp
    | cons x stack =>
      have shorter : (order next n (next x ++ stack)).length < n := by simpa [order] using ended
      obtain ⟨begun, closed⟩ := ih shorter
      refine ⟨fun i waiting => ?_, fun i listed c follows => ?_⟩
      · rcases List.mem_cons.mp waiting with rfl | older
        · exact List.mem_cons_self
        · exact List.mem_cons_of_mem _ (begun i (List.mem_append_right _ older))
      · rcases List.mem_cons.mp listed with rfl | later
        · exact List.mem_cons_of_mem _ (begun c (List.mem_append_left _ follows))
        · exact List.mem_cons_of_mem _ (closed i later c follows)

/-- Everything listed is reached from where the walk began. -/
theorem mem_order_origin {n : Nat} {stack : List ι} (reached : ι → Prop)
    (begun : ∀ i ∈ stack, reached i) (on : ∀ i, reached i → ∀ c ∈ next i, reached c) :
    ∀ i ∈ order next n stack, reached i := by
  induction n generalizing stack with
  | zero => simp [order]
  | succ n ih =>
    cases stack with
    | nil => simp
    | cons x stack =>
      intro i listed
      rcases List.mem_cons.mp listed with rfl | later
      · exact begun i List.mem_cons_self
      · refine ih (fun j waiting => ?_) i later
        rcases List.mem_append.mp waiting with follows | older
        · exact on x (begun x List.mem_cons_self) j follows
        · exact begun j (List.mem_cons_of_mem _ older)

end IncidentTriage.Library
