import Mathlib.Data.List.Basic
import Mathlib.Data.List.MinMax
import Mathlib.Data.List.Range

/-! # Append-only tables

A table is the list of its rows in insertion order, and the key of a row is its
position.  Rows are inserted at the end (`t ++ [r]`) and rewritten in place
(`t.set i r`), never removed, so a key handed out once names the same row for
ever.  The lemmas say what the two writes do to the three ways a table is read:
row by row (`getElem?`), by counting (`countP`), and by selecting and projecting
(`filter`/`map`).  `Evolves` is the order in which a table may only grow and
each of its rows only move along a given relation.
-/

namespace IncidentTriage.Table

variable {ρ β : Type*}

/-- The rows that satisfy `p`, each with its key, in insertion order. -/
def select (p : ρ → Bool) (t : List ρ) : List (Nat × ρ) :=
  (t.zipIdx.filter (fun x => p x.1)).map (fun x => (x.2, x.1))

theorem mem_select {p : ρ → Bool} {t : List ρ} {i : Nat} {r : ρ} :
    (i, r) ∈ select p t ↔ t[i]? = some r ∧ p r = true := by
  simp [select, List.mem_zipIdx_iff_getElem?, and_comm]

/-- The first row, in insertion order, that satisfies `p`. -/
def first (p : ρ → Bool) (t : List ρ) : Option (Nat × ρ) :=
  (select p t).head?

theorem first_some {p : ρ → Bool} {t : List ρ} {i : Nat} {r : ρ}
    (found : first p t = some (i, r)) : t[i]? = some r ∧ p r = true :=
  mem_select.mp (List.mem_of_mem_head? found)

theorem first_none {p : ρ → Bool} {t : List ρ} (missing : first p t = none)
    {i : Nat} {r : ρ} (row : t[i]? = some r) : p r = false := by
  have empty : select p t = [] := List.head?_eq_none_iff.mp missing
  have absent : (i, r) ∉ select p t := by simp [empty]
  rw [mem_select] at absent
  simpa [row] using absent

/-- The row of largest `key` among those that satisfy `p`. -/
def latest (key : ρ → Nat) (p : ρ → Bool) (t : List ρ) : Option (Nat × ρ) :=
  (select p t).argmax (fun x => key x.2)

theorem latest_some {key : ρ → Nat} {p : ρ → Bool} {t : List ρ} {i : Nat} {r : ρ}
    (found : latest key p t = some (i, r)) : t[i]? = some r ∧ p r = true :=
  mem_select.mp (List.argmax_mem found)

theorem latest_le {key : ρ → Nat} {p : ρ → Bool} {t : List ρ} {i j : Nat} {r q : ρ}
    (found : latest key p t = some (i, r)) (row : t[j]? = some q) (chosen : p q = true) :
    key q ≤ key r := by
  have listed : (j, q) ∈ select p t := mem_select.mpr ⟨row, chosen⟩
  simpa using List.le_of_mem_argmax listed found

theorem latest_none {key : ρ → Nat} {p : ρ → Bool} {t : List ρ}
    (missing : latest key p t = none) {i : Nat} {r : ρ} (row : t[i]? = some r) :
    p r = false := by
  have empty : select p t = [] := List.argmax_eq_none.mp missing
  have absent : (i, r) ∉ select p t := by simp [empty]
  rw [mem_select] at absent
  simpa [row] using absent

/-! ## Reading after a write -/

theorem lt_of_row {t : List ρ} {i : Nat} {r : ρ} (row : t[i]? = some r) : i < t.length :=
  (List.getElem?_eq_some_iff.mp row).1

theorem set_new (t : List ρ) (r q : ρ) : (t ++ [r]).set t.length q = t ++ [q] := by
  simp

theorem set_same {t : List ρ} {i : Nat} {r : ρ} (row : t[i]? = some r) : t.set i r = t := by
  obtain ⟨inside, rfl⟩ := List.getElem?_eq_some_iff.mp row
  exact List.set_getElem_self inside

theorem get_insert {t : List ρ} {r q : ρ} {i : Nat} :
    (t ++ [r])[i]? = some q ↔ t[i]? = some q ∨ i = t.length ∧ q = r := by
  rcases Nat.lt_trichotomy i t.length with before | rfl | after
  · simp [List.getElem?_append_left before, Nat.ne_of_lt before]
  · simp [eq_comm]
  · have outside : (t ++ [r])[i]? = none := by simp; omega
    have beyond : t[i]? = none := by simp; omega
    simp [outside, beyond, Nat.ne_of_gt after]

theorem get_put {t : List ρ} {r r' q : ρ} {i j : Nat} (row : t[i]? = some r) :
    (t.set i r')[j]? = some q ↔ (j = i ∧ q = r') ∨ (j ≠ i ∧ t[j]? = some q) := by
  have inside := lt_of_row row
  by_cases same : j = i
  · subst same
    simp [inside, eq_comm]
  · have other : i ≠ j := fun h => same h.symm
    simp [other, same]

theorem get_modify {t : List ρ} {f : ρ → ρ} {i j : Nat} {q : ρ} :
    (t.modify i f)[j]? = some q ↔
      (j = i ∧ ∃ r, t[j]? = some r ∧ q = f r) ∨ (j ≠ i ∧ t[j]? = some q) := by
  by_cases same : j = i
  · subst same
    simp [eq_comm]
  · have other : i ≠ j := fun h => same h.symm
    simp [other, same]

theorem put_eq_modify {t : List ρ} {i : Nat} {r : ρ} (row : t[i]? = some r)
    (f : ρ → ρ) : t.set i (f r) = t.modify i f := by
  apply List.ext_getElem?
  intro j
  apply Option.ext
  intro q
  rw [get_put row, get_modify]
  constructor
  · rintro (⟨rfl, rfl⟩ | other)
    · exact .inl ⟨rfl, r, row, rfl⟩
    · exact .inr other
  · rintro (⟨rfl, r', row', rfl⟩ | other)
    · rw [row] at row'
      cases row'
      exact .inl ⟨rfl, rfl⟩
    · exact .inr other

theorem modify_missing {t : List ρ} {i : Nat} (missing : t[i]? = none) (f : ρ → ρ) :
    t.modify i f = t := by
  apply List.ext_getElem?
  intro j
  rw [List.getElem?_modify]
  split_ifs with here
  · subst here
    simp [missing]
  · simp

/-! ## Facts about every row -/

/-- `P` holds of every row of the table, together with its key. -/
def Every (P : Nat → ρ → Prop) (t : List ρ) : Prop :=
  ∀ (i : Nat) (r : ρ), t[i]? = some r → P i r

theorem Every.nil {P : Nat → ρ → Prop} : Every P [] := by
  intro i r row
  simp at row

theorem Every.insert {P : Nat → ρ → Prop} {t : List ρ} {r : ρ} (all : Every P t)
    (new : P t.length r) : Every P (t ++ [r]) := by
  intro i q row
  rcases get_insert.mp row with old | ⟨rfl, rfl⟩
  · exact all i q old
  · exact new

theorem Every.put {P : Nat → ρ → Prop} {t : List ρ} {i : Nat} {r r' : ρ} (all : Every P t)
    (row : t[i]? = some r) (new : P i r') : Every P (t.set i r') := by
  intro j q found
  rcases (get_put row).mp found with ⟨rfl, rfl⟩ | ⟨_, old⟩
  · exact new
  · exact all j q old

theorem Every.imp {P Q : Nat → ρ → Prop} {t : List ρ} (all : Every P t)
    (weaken : ∀ (i : Nat) (r : ρ), t[i]? = some r → P i r → Q i r) : Every Q t :=
  fun i r row => weaken i r row (all i r row)

/-! ## Rows that exclude one another -/

/-- No two rows of the table conflict. -/
def Exclusive (c : ρ → ρ → Prop) (t : List ρ) : Prop :=
  ∀ (i j : Nat) (r q : ρ), t[i]? = some r → t[j]? = some q → i ≠ j → ¬ c r q

theorem Exclusive.nil {c : ρ → ρ → Prop} : Exclusive c [] := by
  intro i j r q row
  simp at row

theorem Exclusive.insert {c : ρ → ρ → Prop} {t : List ρ} {r : ρ} (apart : Exclusive c t)
    (symmetric : ∀ {a b : ρ}, c a b → c b a)
    (new : ∀ (j : Nat) (q : ρ), t[j]? = some q → ¬ c r q) : Exclusive c (t ++ [r]) := by
  intro i j a b first second different
  rcases get_insert.mp first with old | ⟨rfl, rfl⟩
  · rcases get_insert.mp second with alsoOld | ⟨rfl, rfl⟩
    · exact apart i j a b old alsoOld different
    · exact fun clash => new i a old (symmetric clash)
  · rcases get_insert.mp second with old | ⟨rfl, rfl⟩
    · exact new j b old
    · exact absurd rfl different

theorem Exclusive.put {c : ρ → ρ → Prop} {t : List ρ} {k : Nat} {r r' : ρ}
    (apart : Exclusive c t) (symmetric : ∀ {a b : ρ}, c a b → c b a) (row : t[k]? = some r)
    (new : ∀ (j : Nat) (q : ρ), j ≠ k → t[j]? = some q → ¬ c r' q) :
    Exclusive c (t.set k r') := by
  intro i j a b first second different
  rcases (get_put row).mp first with ⟨rfl, rfl⟩ | ⟨elsewhere, old⟩
  · rcases (get_put row).mp second with ⟨rfl, _⟩ | ⟨other, old⟩
    · exact absurd rfl different
    · exact new j b other old
  · rcases (get_put row).mp second with ⟨rfl, rfl⟩ | ⟨other, alsoOld⟩
    · exact fun clash => new i a elsewhere old (symmetric clash)
    · exact apart i j a b old alsoOld different

/-! ## Evolution of a table -/

/-- Every row of `t` is still there in `t'`, moved along `R`. -/
def Evolves (R : ρ → ρ → Prop) (t t' : List ρ) : Prop :=
  ∀ (i : Nat) (r : ρ), t[i]? = some r → ∃ r' : ρ, t'[i]? = some r' ∧ R r r'

theorem Evolves.refl {R : ρ → ρ → Prop} (same : ∀ r, R r r) (t : List ρ) : Evolves R t t :=
  fun _ r row => ⟨r, row, same r⟩

theorem Evolves.trans {R : ρ → ρ → Prop} (step : ∀ {a b c}, R a b → R b c → R a c)
    {t t' t'' : List ρ} (first : Evolves R t t') (second : Evolves R t' t'') :
    Evolves R t t'' := by
  intro i r row
  obtain ⟨r', row', moved⟩ := first i r row
  obtain ⟨r'', row'', moved'⟩ := second i r' row'
  exact ⟨r'', row'', step moved moved'⟩

theorem Evolves.insert {R : ρ → ρ → Prop} (same : ∀ r, R r r) (t : List ρ) (r : ρ) :
    Evolves R t (t ++ [r]) :=
  fun _ q row => ⟨q, get_insert.mpr (.inl row), same q⟩

theorem Evolves.append {R : ρ → ρ → Prop} (same : ∀ r, R r r) (t new : List ρ) :
    Evolves R t (t ++ new) := by
  intro i q row
  exact ⟨q, by rw [List.getElem?_append_left (lt_of_row row)]; exact row, same q⟩

theorem Evolves.put {R : ρ → ρ → Prop} (same : ∀ r, R r r) {t : List ρ} {i : Nat} {r r' : ρ}
    (row : t[i]? = some r) (moved : R r r') : Evolves R t (t.set i r') := by
  intro j q found
  by_cases here : j = i
  · subst here
    rw [row] at found
    cases found
    exact ⟨r', (get_put row).mpr (.inl ⟨rfl, rfl⟩), moved⟩
  · exact ⟨q, (get_put row).mpr (.inr ⟨here, found⟩), same q⟩

theorem Evolves.modify {R : ρ → ρ → Prop} (same : ∀ r, R r r) {f : ρ → ρ}
    (moved : ∀ r, R r (f r)) (t : List ρ) (i : Nat) : Evolves R t (t.modify i f) := by
  intro j q found
  refine ⟨if i = j then f q else q, by simp [List.getElem?_modify, found], ?_⟩
  split_ifs
  · exact moved q
  · exact same q

/-- A row of the new table that was not in the old one has a new key. -/
theorem Evolves.new_key {R : ρ → ρ → Prop} {t t' : List ρ} (grown : Evolves R t t')
    {i : Nat} {r' : ρ} (row : t'[i]? = some r') :
    (∃ r : ρ, t[i]? = some r ∧ R r r') ∨ t.length ≤ i := by
  rcases Nat.lt_or_ge i t.length with inside | outside
  · obtain ⟨q, found, moved⟩ := grown i t[i] (List.getElem?_eq_getElem inside)
    rw [row] at found
    cases found
    exact .inl ⟨_, List.getElem?_eq_getElem inside, moved⟩
  · exact .inr outside

/-! ## The order of a selection -/

theorem select_sorted (p : ρ → Bool) (t : List ρ) :
    (select p t).Pairwise (fun x y => x.1 < y.1) := by
  have indices : (t.zipIdx.map Prod.snd).Pairwise (· < ·) := by
    rw [List.zipIdx_map_snd]
    exact List.pairwise_lt_range' ..
  have kept := (List.pairwise_map.mp indices).filter (fun x => p x.1)
  exact List.pairwise_map.mpr kept

theorem select_nodup (p : ρ → Bool) (t : List ρ) : (select p t).Nodup := by
  refine (select_sorted p t).imp ?_
  intro a b before same
  rw [same] at before
  exact Nat.lt_irrefl _ before

/-- Tables with the same rows that satisfy their predicate select the same. -/
theorem select_congr {p q : ρ → Bool} {t t' : List ρ}
    (same : ∀ (i : Nat) (r : ρ), (t[i]? = some r ∧ p r = true) ↔ (t'[i]? = some r ∧ q r = true)) :
    select p t = select q t' := by
  have members : (select p t).Perm (select q t') := by
    refine (List.perm_ext_iff_of_nodup (select_nodup p t) (select_nodup q t')).mpr ?_
    rintro ⟨i, r⟩
    rw [mem_select, mem_select]
    exact same i r
  refine members.eq_of_pairwise ?_ (select_sorted p t) (select_sorted q t')
  intro a b _ _ before after
  omega

/-- A write that leaves `p` alone changes the row where it is selected. -/
theorem select_put {t : List ρ} {i : Nat} {r r' : ρ} {p : ρ → Bool} (row : t[i]? = some r)
    (same : p r' = p r) :
    select p (t.set i r') = (select p t).map (fun x => (x.1, if x.1 = i then r' else x.2)) := by
  have sorted : ((select p t).map (fun x => (x.1, if x.1 = i then r' else x.2))).Pairwise
      (fun a b => a.1 < b.1) := List.pairwise_map.mpr (select_sorted p t)
  have distinct : ((select p t).map (fun x => (x.1, if x.1 = i then r' else x.2))).Nodup := by
    refine sorted.imp fun before equal => ?_
    rw [equal] at before
    exact Nat.lt_irrefl _ before
  have members : (select p (t.set i r')).Perm
      ((select p t).map (fun x => (x.1, if x.1 = i then r' else x.2))) := by
    refine (List.perm_ext_iff_of_nodup (select_nodup p _) distinct).mpr ?_
    rintro ⟨j, q⟩
    simp only [mem_select, get_put row, List.mem_map, Prod.exists, Prod.mk.injEq]
    constructor
    · rintro ⟨⟨rfl, rfl⟩ | ⟨other, old⟩, holds⟩
      · exact ⟨j, r, ⟨row, same ▸ holds⟩, rfl, if_pos rfl⟩
      · exact ⟨j, q, ⟨old, holds⟩, rfl, if_neg other⟩
    · rintro ⟨k, old, ⟨there, holds⟩, rfl, rfl⟩
      by_cases here : k = i
      · subst here
        rw [row] at there
        cases there
        rw [if_pos rfl]
        exact ⟨.inl ⟨rfl, rfl⟩, same.trans holds⟩
      · rw [if_neg here]
        exact ⟨.inr ⟨here, there⟩, holds⟩
  refine members.eq_of_pairwise ?_ (select_sorted p _) sorted
  intro a b _ _ before after
  omega

theorem argmax_map {key : β → Nat} {f : β → β} {l : List β}
    (same : ∀ b ∈ l, key (f b) = key b) : (l.map f).argmax key = (l.argmax key).map f := by
  induction l with
  | nil => rfl
  | cons b l ih =>
    have here : key (f b) = key b := same b (by simp)
    rw [List.map_cons, List.argmax_cons, List.argmax_cons,
      ih fun c member => same c (List.mem_cons_of_mem b member)]
    cases found : List.argmax key l with
    | none => rfl
    | some c =>
      have there : key (f c) = key c := same c (List.mem_cons_of_mem b (List.argmax_mem found))
      simp only [Option.map_some, here, there]
      split_ifs <;> rfl

/-- A write that leaves `p` and the key alone leaves the latest row where it is. -/
theorem latest_put {key : ρ → Nat} {t : List ρ} {i j : Nat} {r r' q : ρ} {p : ρ → Bool}
    (row : t[i]? = some r) (same : p r' = p r) (sameKey : key r' = key r)
    (found : latest key p t = some (j, q)) :
    latest key p (t.set i r') = some (j, if j = i then r' else q) := by
  rw [latest, select_put row same, argmax_map, ← latest, found]
  · rfl
  · rintro ⟨k, old⟩ member
    show key (if k = i then r' else old) = key old
    split_ifs with here
    · subst here
      have there := (mem_select.mp member).1
      rw [row] at there
      cases there
      exact sameKey
    · rfl

/-- The latest row stays the latest one where a row that is not selected is inserted. -/
theorem latest_insert {key : ρ → Nat} (p : ρ → Bool) {r : ρ} (other : p r = false) (t : List ρ) :
    latest key p (t ++ [r]) = latest key p t := by
  have same : select p (t ++ [r]) = select p t := by
    simp [select, List.zipIdx_append, other]
  rw [latest, same, latest]

theorem first_eq_some {p : ρ → Bool} {t : List ρ} {i : Nat} {r : ρ} :
    first p t = some (i, r) ↔ t[i]? = some r ∧ p r = true ∧
      ∀ (j : Nat) (q : ρ), j < i → t[j]? = some q → p q = false := by
  have earliest : ∀ {i : Nat} {r : ρ}, first p t = some (i, r) →
      ∀ (j : Nat) (q : ρ), j < i → t[j]? = some q → p q = false := by
    intro i r found j q before other
    by_contra chosen
    have listed : (j, q) ∈ select p t := mem_select.mpr ⟨other, by simpa using chosen⟩
    cases rows : select p t with
    | nil => simp [rows] at listed
    | cons head tail =>
      have top : head = (i, r) := by simpa [first, rows] using found
      have sorted := select_sorted p t
      rw [rows, List.pairwise_cons] at sorted
      rw [rows] at listed
      rcases List.mem_cons.mp listed with rfl | later
      · cases top
        omega
      · have after := sorted.1 _ later
        rw [top] at after
        simp only at after
        omega
  constructor
  · intro found
    obtain ⟨row, holds⟩ := first_some found
    exact ⟨row, holds, earliest found⟩
  · rintro ⟨row, holds, least⟩
    cases found : first p t with
    | none => rw [first_none found row] at holds; cases holds
    | some x =>
      obtain ⟨j, q⟩ := x
      obtain ⟨other, chosen⟩ := first_some found
      rcases Nat.lt_trichotomy j i with before | rfl | after
      · rw [least j q before other] at chosen
        cases chosen
      · rw [row] at other
        cases other
        rfl
      · rw [earliest found i r after row] at holds
        cases holds

theorem first_eq_none {p : ρ → Bool} {t : List ρ} :
    first p t = none ↔ ∀ (i : Nat) (r : ρ), t[i]? = some r → p r = false := by
  constructor
  · exact fun missing i r row => first_none missing row
  · intro none_
    cases found : first p t with
    | none => rfl
    | some x =>
      obtain ⟨i, r⟩ := x
      obtain ⟨row, holds⟩ := first_some found
      rw [none_ i r row] at holds
      cases holds

theorem filter_eq_select (p : ρ → Bool) (t : List ρ) : t.filter p = (select p t).map Prod.snd := by
  have pairs : (t.zipIdx.map Prod.fst).filter p = (t.zipIdx.filter (fun x => p x.1)).map Prod.fst :=
    List.filter_map
  rw [List.zipIdx_map_fst] at pairs
  rw [pairs, select, List.map_map]
  rfl

theorem filter_congr {p q : ρ → Bool} {t t' : List ρ}
    (same : ∀ (i : Nat) (r : ρ), (t[i]? = some r ∧ p r = true) ↔ (t'[i]? = some r ∧ q r = true)) :
    t.filter p = t'.filter q := by
  rw [filter_eq_select, filter_eq_select, select_congr same]

/-! ## Counting -/

theorem countP_put {t : List ρ} {i : Nat} {r : ρ} (row : t[i]? = some r) (r' : ρ) (p : ρ → Bool) :
    (t.set i r').countP p + (if p r then 1 else 0) = t.countP p + (if p r' then 1 else 0) := by
  induction t generalizing i with
  | nil => simp at row
  | cons head tail ih =>
    cases i with
    | zero =>
      simp only [List.getElem?_cons_zero, Option.some.injEq] at row
      subst row
      simp only [List.set_cons_zero, List.countP_cons]
      omega
    | succ i =>
      have tailRow : tail[i]? = some r := by simpa using row
      have step := ih tailRow
      simp only [List.set_cons_succ, List.countP_cons]
      omega

theorem countP_put_same {t : List ρ} {i : Nat} {r r' : ρ} {p : ρ → Bool}
    (row : t[i]? = some r) (same : p r' = p r) : (t.set i r').countP p = t.countP p := by
  have step := countP_put row r' p
  rw [same] at step
  omega

theorem countP_pos {t : List ρ} {i : Nat} {r : ρ} {p : ρ → Bool} (row : t[i]? = some r)
    (holds : p r = true) : 0 < t.countP p :=
  List.countP_pos_iff.mpr ⟨r, List.mem_of_getElem? row, holds⟩

theorem exists_of_countP_pos {t : List ρ} {p : ρ → Bool} (pos : 0 < t.countP p) :
    ∃ (i : Nat) (r : ρ), t[i]? = some r ∧ p r = true := by
  obtain ⟨r, member, holds⟩ := List.countP_pos_iff.mp pos
  obtain ⟨i, row⟩ := List.getElem?_of_mem member
  exact ⟨i, r, row, holds⟩

/-- Where rows that satisfy `p` move to such rows, there are only more of them. -/
theorem Evolves.countP_le {R : ρ → ρ → Prop} {t t' : List ρ} {p : ρ → Bool}
    (evolves : Evolves R t t') (stays : ∀ {r r'}, R r r' → p r = true → p r' = true) :
    t.countP p ≤ t'.countP p := by
  induction t generalizing t' with
  | nil => simp
  | cons head tail ih =>
    obtain ⟨head', found, moved⟩ := evolves 0 head rfl
    cases t' with
    | nil => cases found
    | cons first rest =>
      obtain rfl : first = head' := by simpa using found
      have fewer : tail.countP p ≤ rest.countP p := ih fun i r row => evolves (i + 1) r row
      rw [List.countP_cons, List.countP_cons]
      by_cases holds : p head = true
      · rw [if_pos holds, if_pos (stays moved holds)]
        omega
      · rw [if_neg holds]
        omega

/-- Two rows of a table in which at most one row satisfies `p` are the same row. -/
theorem key_unique_of_countP_le_one {t : List ρ} {p : ρ → Bool} (one : t.countP p ≤ 1)
    {i j : Nat} {r q : ρ} (row : t[i]? = some r) (other : t[j]? = some q)
    (holds : p r = true) (alsoHolds : p q = true) : i = j := by
  induction t generalizing i j with
  | nil => simp at row
  | cons head tail ih =>
    rw [List.countP_cons] at one
    cases i with
    | zero =>
      cases j with
      | zero => rfl
      | succ j =>
        simp only [List.getElem?_cons_zero, Option.some.injEq] at row
        subst row
        have otherTail : tail[j]? = some q := by simpa using other
        have pos := countP_pos otherTail alsoHolds
        simp only [holds, if_true] at one
        omega
    | succ i =>
      have rowTail : tail[i]? = some r := by simpa using row
      have pos := countP_pos rowTail holds
      cases j with
      | zero =>
        simp only [List.getElem?_cons_zero, Option.some.injEq] at other
        subst other
        simp only [alsoHolds, if_true] at one
        omega
      | succ j =>
        have otherTail : tail[j]? = some q := by simpa using other
        have fewer : tail.countP p ≤ 1 := by omega
        rw [ih fewer rowTail otherTail]

/-- Counting among the selected rows is counting the rows that satisfy both. -/
theorem countP_select {p q : ρ → Bool} {t : List ρ} {q' : Nat × ρ → Bool}
    (agree : ∀ (i : Nat) (r : ρ), t[i]? = some r → q' (i, r) = q r) :
    (select p t).countP q' = t.countP (fun r => p r && q r) := by
  have both : ∀ x ∈ t.zipIdx, (q' (x.2, x.1) && p x.1) = (p x.1 && q x.1) := by
    intro x member
    rw [agree x.2 x.1 (List.mem_zipIdx_iff_getElem?.mp member), Bool.and_comm]
  have pairs : (select p t).countP q' = t.zipIdx.countP (fun x => p x.1 && q x.1) := by
    rw [select, List.countP_map, List.countP_filter]
    exact List.countP_congr fun x member => by rw [← both x member]; rfl
  calc (select p t).countP q' = t.zipIdx.countP ((fun r => p r && q r) ∘ Prod.fst) := pairs
    _ = (t.zipIdx.map Prod.fst).countP (fun r => p r && q r) := List.countP_map.symm
    _ = t.countP (fun r => p r && q r) := by rw [List.zipIdx_map_fst]

theorem length_select (p : ρ → Bool) (t : List ρ) : (select p t).length = t.countP p := by
  have all : (select p t).countP (fun _ => true) = t.countP (fun r => p r && true) :=
    countP_select fun _ _ _ => rfl
  simpa using all

/-! ## Selecting and projecting -/

/-- The values `f` takes on the rows that satisfy `p`, in insertion order. -/
def project (p : ρ → Bool) (f : ρ → β) (t : List ρ) : List β :=
  (t.filter p).map f

theorem project_insert (p : ρ → Bool) (f : ρ → β) (t : List ρ) (r : ρ) :
    project p f (t ++ [r]) = project p f t ++ (if p r then [f r] else []) := by
  by_cases holds : p r <;> simp [project, holds]

theorem project_put {t : List ρ} {i : Nat} {r r' : ρ} {p : ρ → Bool} {f : ρ → β}
    (row : t[i]? = some r) (same : p r' = p r) (value : f r' = f r) :
    project p f (t.set i r') = project p f t := by
  induction t generalizing i with
  | nil => simp at row
  | cons head tail ih =>
    cases i with
    | zero =>
      simp only [List.getElem?_cons_zero, Option.some.injEq] at row
      subst row
      by_cases holds : p head <;> simp [project, same, value, holds]
    | succ i =>
      have tailRow : tail[i]? = some r := by simpa using row
      have step := ih tailRow
      simp only [project] at step
      by_cases holds : p head <;> simp [project, holds, step]

theorem mem_project {p : ρ → Bool} {f : ρ → β} {t : List ρ} {b : β} :
    b ∈ project p f t ↔ ∃ (i : Nat) (r : ρ), t[i]? = some r ∧ p r = true ∧ f r = b := by
  simp only [project, List.mem_map, List.mem_filter]
  constructor
  · rintro ⟨r, ⟨member, holds⟩, value⟩
    obtain ⟨i, row⟩ := List.getElem?_of_mem member
    exact ⟨i, r, row, holds, value⟩
  · rintro ⟨i, r, row, holds, value⟩
    exact ⟨r, ⟨List.mem_of_getElem? row, holds⟩, value⟩

/-- Two selected rows with one value are the same row where no value is taken twice. -/
theorem key_unique_of_nodup_project {t : List ρ} {p : ρ → Bool} {f : ρ → β}
    (distinct : (project p f t).Nodup) {i j : Nat} {r q : ρ} (row : t[i]? = some r)
    (other : t[j]? = some q) (holds : p r = true) (alsoHolds : p q = true)
    (value : f r = f q) : i = j := by
  induction t generalizing i j with
  | nil => simp at row
  | cons head tail ih =>
    have tailDistinct : (project p f tail).Nodup := by
      by_cases chosen : p head <;> simp_all [project]
    have headFresh : ∀ {k : Nat} {x : ρ}, tail[k]? = some x → p x = true → p head = true →
        f head ≠ f x := by
      intro k x found taken chosen same
      rw [project, List.filter_cons_of_pos chosen, List.map_cons, List.nodup_cons] at distinct
      exact distinct.1 (mem_project.mpr ⟨k, x, found, taken, same.symm⟩)
    cases i with
    | zero =>
      simp only [List.getElem?_cons_zero, Option.some.injEq] at row
      subst row
      cases j with
      | zero => rfl
      | succ j => exact absurd value (headFresh (by simpa using other) alsoHolds holds)
    | succ i =>
      have rowTail : tail[i]? = some r := by simpa using row
      cases j with
      | zero =>
        simp only [List.getElem?_cons_zero, Option.some.injEq] at other
        subst other
        exact absurd value.symm (headFresh rowTail holds alsoHolds)
      | succ j =>
        have otherTail : tail[j]? = some q := by simpa using other
        rw [ih tailDistinct rowTail otherTail]

theorem length_project (p : ρ → Bool) (f : ρ → β) (t : List ρ) :
    (project p f t).length = t.countP p := by
  simp [project, List.countP_eq_length_filter]

end IncidentTriage.Table
