import IncidentTriage.Library.Scripts

/-! # Two scripts that check before they act

A script that checks first only reads, then decides by an operation that reads, then
reads some more, and acts.  Two of them share a store that nobody else changes.  Either
each decides before the other acts, and both do what they decided on the store they
found; or one of them acts while the other has not decided yet.  `race` says which from
the schedule alone, and `Adds` counts what the scripts add whatever they meet.
-/

namespace IncidentTriage.Script

variable {σ α β : Type}

/-! ## Who comes first -/

/-- The `i`-th operation of the first comes before the `j`-th of the second. -/
def before : Nat → Nat → List Bool → Bool
  | 0, _, _ => true
  | _ + 1, 0, _ => false
  | _ + 1, _ + 1, [] => false
  | i + 1, j + 1, true :: schedule => before i (j + 1) schedule
  | i + 1, j + 1, false :: schedule => before (i + 1) j schedule

/-- The first does its `decision`-th operation before the second its `action'`-th, and the
second its `decision'`-th before the first its `action`-th. -/
def Overlap (decision action decision' action' : Nat) (schedule : List Bool) : Prop :=
  before decision action' schedule = true ∧ before action decision' schedule = false

/-! ## Deciding and acting -/

/-- What is known of a script as long as the store is `s`: after `waits i` it reads so many
times and then decides, and after `bound k` it reads so many times and then acts. -/
structure Contender (s : σ) (waits bound : Nat → Script σ α → Prop) (delay : Nat) : Prop where
  reads : ∀ {i p}, waits (i + 1) p → ∃ next, p = act id next ∧ waits i (next s)
  decides : ∀ {p}, waits 0 p → ∃ next, p = act id next ∧ bound delay (next s)
  keeps : ∀ {k p}, bound (k + 1) p → ∃ next, p = act id next ∧ bound k (next s)

/-- How far two contenders get on a schedule before the store is changed. -/
inductive RaceOutcome (s : σ) (waits bound : Nat → Script σ α → Prop)
    (waits' bound' : Nat → Script σ β → Prop) (overlap : Prop)
    (final : Script σ α × Script σ β × σ) : Prop where
  | undecided (waiting : (∃ i, waits i final.1) ∨ ∃ j, waits' j final.2.1)
  | both {p q k k'} (rest : List Bool) (together : overlap) (mine : bound k p)
      (theirs : bound' k' q) (ends : final = interleave rest p q s)
  | first {p q j} (rest : List Bool) (apart : ¬ overlap) (mine : bound 0 p) (theirs : waits' j q)
      (ends : final = interleave (true :: rest) p q s)
  | second {p q i} (rest : List Bool) (apart : ¬ overlap) (mine : waits i p)
      (theirs : bound' 0 q) (ends : final = interleave (false :: rest) p q s)

section
variable {s : σ} {waits bound : Nat → Script σ α → Prop} {waits' bound' : Nat → Script σ β → Prop}
  {delay delay' : Nat} {overlap overlap' : Prop} {final : Script σ α × Script σ β × σ}

theorem RaceOutcome.iff (outcome : RaceOutcome s waits bound waits' bound' overlap final)
    (same : overlap ↔ overlap') : RaceOutcome s waits bound waits' bound' overlap' final := by
  cases outcome with
  | undecided waiting => exact .undecided waiting
  | both rest together mine theirs ends => exact .both rest (same.mp together) mine theirs ends
  | first rest apart mine theirs ends =>
    exact .first rest (fun there => apart (same.mpr there)) mine theirs ends
  | second rest apart mine theirs ends =>
    exact .second rest (fun there => apart (same.mpr there)) mine theirs ends

/-- The first has decided, the second has not: the second decides before the first acts, or
the first acts. -/
theorem race_of_bound (mine : Contender s waits bound delay)
    (theirs : Contender s waits' bound' delay') (schedule : List Bool) {k j : Nat}
    {p : Script σ α} {q : Script σ β} (decided : bound k p) (waiting : waits' j q) :
    RaceOutcome s waits bound waits' bound' (before (k + 1) (j + 1) schedule = false)
      (interleave schedule p q s) := by
  induction schedule generalizing k j p q with
  | nil => exact .undecided (.inr ⟨j, waiting⟩)
  | cons turn schedule ih =>
    cases turn with
    | true =>
      cases k with
      | zero => exact .first schedule (by simp [before]) decided waiting rfl
      | succ k =>
        obtain ⟨next, rfl, later⟩ := mine.keeps decided
        exact ih later waiting
    | false =>
      cases j with
      | zero =>
        obtain ⟨next, rfl, later⟩ := theirs.decides waiting
        exact .both schedule (by simp [before]) decided later rfl
      | succ j =>
        obtain ⟨next, rfl, later⟩ := theirs.reads waiting
        exact ih decided later

/-- The second has decided, the first has not. -/
theorem race_of_bound' (mine : Contender s waits bound delay)
    (theirs : Contender s waits' bound' delay') (schedule : List Bool) {i k : Nat}
    {p : Script σ α} {q : Script σ β} (waiting : waits i p) (decided : bound' k q) :
    RaceOutcome s waits bound waits' bound' (before (i + 1) (k + 1) schedule = true)
      (interleave schedule p q s) := by
  induction schedule generalizing i k p q with
  | nil => exact .undecided (.inl ⟨i, waiting⟩)
  | cons turn schedule ih =>
    cases turn with
    | true =>
      cases i with
      | zero =>
        obtain ⟨next, rfl, later⟩ := mine.decides waiting
        exact .both schedule (by simp [before]) later decided rfl
      | succ i =>
        obtain ⟨next, rfl, later⟩ := mine.reads waiting
        exact ih later decided
    | false =>
      cases k with
      | zero => exact .second schedule (by simp [before]) waiting decided rfl
      | succ k =>
        obtain ⟨next, rfl, later⟩ := theirs.keeps decided
        exact ih waiting later

/-- Neither has decided: whether both act on the store they found is read off the schedule. -/
theorem race (mine : Contender s waits bound delay) (theirs : Contender s waits' bound' delay')
    (schedule : List Bool) {i j : Nat} {p : Script σ α} {q : Script σ β} (waiting : waits i p)
    (waiting' : waits' j q) :
    RaceOutcome s waits bound waits' bound'
      (Overlap (i + 1) (i + 1 + delay + 1) (j + 1) (j + 1 + delay' + 1) schedule)
      (interleave schedule p q s) := by
  induction schedule generalizing i j p q with
  | nil => exact .undecided (.inl ⟨i, waiting⟩)
  | cons turn schedule ih =>
    cases turn with
    | true =>
      cases i with
      | zero =>
        obtain ⟨next, rfl, later⟩ := mine.decides waiting
        apply (race_of_bound mine theirs schedule later waiting').iff
        simp [Overlap, before, Nat.add_comm 1 delay]
      | succ i =>
        obtain ⟨next, rfl, later⟩ := mine.reads waiting
        apply (ih later waiting').iff
        rw [show i + 1 + 1 + delay + 1 = i + 1 + delay + 1 + 1 by omega]
        rfl
    | false =>
      cases j with
      | zero =>
        obtain ⟨next, rfl, later⟩ := theirs.decides waiting'
        apply (race_of_bound' mine theirs schedule waiting later).iff
        simp [Overlap, before, Nat.add_comm 1 delay']
      | succ j =>
        obtain ⟨next, rfl, later⟩ := theirs.reads waiting'
        apply (ih waiting later).iff
        rw [show j + 1 + 1 + delay' + 1 = j + 1 + delay' + 1 + 1 by omega]
        rfl

end

/-! ## As long as nobody changes the store -/

/-- As long as the store is `s`, the script reads so many times and is then `p'`. -/
def ReadsTo (s : σ) (p' : Script σ α) : Nat → Script σ α → Prop
  | 0, p => p = p'
  | k + 1, p => ∃ next, p = act id next ∧ ReadsTo s p' k (next s)

/-- Reading changes nothing for a run that nothing interrupts. -/
theorem ReadsTo.run {s : σ} {p p' : Script σ α} {k : Nat} (reads : ReadsTo s p' k p) :
    p.run s = p'.run s := by
  induction k generalizing p with
  | zero =>
    cases reads
    rfl
  | succ k ih =>
    obtain ⟨next, rfl, later⟩ := reads
    show (next s).run s = p'.run s
    exact ih later

/-! ## What scripts add -/

/-- The script adds so much to the measure, whatever the others do. -/
inductive Adds (measure : σ → Nat) : Nat → Script σ α → Prop where
  | done (a : α) : Adds measure 0 (done a)
  | act {k n : Nat} {write : σ → σ} {next : σ → Script σ α}
      (writes : ∀ s, measure (write s) = measure s + k) (rest : ∀ s, Adds measure n (next s)) :
      Adds measure (k + n) (act write next)

variable {measure : σ → Nat}

/-- An operation that leaves the measure alone. -/
theorem Adds.still {n : Nat} {write : σ → σ} {next : σ → Script σ α}
    (writes : ∀ s, measure (write s) = measure s) (rest : ∀ s, Adds measure n (next s)) :
    Adds measure n (Script.act write next) := by
  rw [← Nat.zero_add n]
  exact .act writes rest

theorem Adds.read_bind {n : Nat} {g : σ → α} {f : α → Script σ β}
    (rest : ∀ x, Adds measure n (f x)) : Adds measure n (read g >>= f) :=
  .still (fun _ => rfl) (fun s => rest (g s))

theorem Adds.bind {a b : Nat} {p : Script σ α} {f : α → Script σ β} (adds : Adds measure a p)
    (rest : ∀ x, Adds measure b (f x)) : Adds measure (a + b) (p >>= f) := by
  induction adds with
  | done x =>
    rw [Nat.zero_add]
    exact rest x
  | act writes _ ih =>
    rw [Nat.add_assoc]
    exact .act writes ih

/-- A read leaves everything still to be added. -/
theorem Adds.of_read {n : Nat} {next : σ → Script σ α} (adds : Adds measure n (Script.act id next))
    (s : σ) : Adds measure n (next s) := by
  cases adds with
  | @act k n _ _ writes rest =>
    have nothing : k = 0 := by
      have := writes s
      simpa using this
    rw [nothing, Nat.zero_add]
    exact rest s

/-- One step adds part of it. -/
theorem Adds.step {n : Nat} {p : Script σ α} (adds : Adds measure n p) (s : σ) :
    ∃ k n', n = k + n' ∧ measure (p.step s).2 = measure s + k ∧ Adds measure n' (p.step s).1 := by
  cases adds with
  | done a => exact ⟨0, 0, rfl, rfl, .done a⟩
  | @act k n' _ _ writes rest => exact ⟨k, n', rfl, writes s, rest s⟩

/-- Among others who leave the measure alone, a script adds what it adds. -/
theorem Adds.safe {rely : σ → σ → Prop} (others : ∀ {s s'}, rely s s' → measure s' = measure s)
    {n : Nat} {p : Script σ α} (adds : Adds measure n p) (s : σ) :
    p.Safe rely (fun _ _ => True) (fun _ s' => measure s' = measure s + n) s := by
  induction adds generalizing s with
  | done a => exact fun s' kept => others kept
  | @act k n write next writes rest ih =>
    refine fun s' kept => ⟨trivial, (ih s' (write s')).imp fun _ s'' added => ?_⟩
    rw [added, writes, others kept, Nat.add_assoc]

/-- When both are done, both have added what they add. -/
theorem Adds.interleave {a b : Nat} (schedule : List Bool) {p : Script σ α} {q : Script σ β}
    {s s' : σ} {x : α} {y : β} (mine : Adds measure a p) (theirs : Adds measure b q)
    (ends : Script.interleave schedule p q s = (.done x, .done y, s')) :
    measure s' = measure s + a + b := by
  induction schedule generalizing a b p q s with
  | nil =>
    cases ends
    cases mine
    cases theirs
    rfl
  | cons turn schedule ih =>
    cases turn with
    | true =>
      obtain ⟨k, a', rfl, added, later⟩ := mine.step s
      have rest := ih later theirs ends
      omega
    | false =>
      obtain ⟨k, b', rfl, added, later⟩ := theirs.step s
      have rest := ih mine later ends
      omega

end IncidentTriage.Script
