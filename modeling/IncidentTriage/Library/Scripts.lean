/-! # Scripts of atomic operations

A script is a program over a store that other programs share: every operation reads
the store and writes it in one atomic step, and what comes next may depend on what was
read.  A script can be run alone, be cut off after some of its operations, or be
interleaved with another one.  `Safe` is the rule for the last: what a script reaches
when others change the store between its operations, as long as they keep to `rely`
while its own operations keep to `guar`.
-/

namespace IncidentTriage

inductive Script (σ α : Type) where
  | done (result : α)
  /-- One operation: the store is written, and what follows depends on what it was. -/
  | act (write : σ → σ) (next : σ → Script σ α)

namespace Script

variable {σ α β : Type}

def bind : Script σ α → (α → Script σ β) → Script σ β
  | done a, f => f a
  | act write next, f => act write (fun s => (next s).bind f)

instance : Monad (Script σ) where
  pure := done
  bind := bind

@[simp] theorem pure_eq (a : α) : (pure a : Script σ α) = done a := rfl

@[simp] theorem bind_done (a : α) (f : α → Script σ β) : (done a >>= f) = f a := rfl

@[simp] theorem bind_act (write : σ → σ) (next : σ → Script σ α) (f : α → Script σ β) :
    (act write next >>= f) = act write (fun s => next s >>= f) := rfl

/-- An operation that only reads. -/
def read (f : σ → α) : Script σ α := act id (fun s => done (f s))

/-- An operation that only writes. -/
def write (f : σ → σ) : Script σ Unit := act f (fun _ => done ())

/-! ## Alone -/

/-- The result and the store after a run that nothing interrupts. -/
def run : Script σ α → σ → α × σ
  | done a, s => (a, s)
  | act write next, s => (next s).run (write s)

@[simp] theorem run_done (a : α) (s : σ) : (done a : Script σ α).run s = (a, s) := rfl

@[simp] theorem run_act (write : σ → σ) (next : σ → Script σ α) (s : σ) :
    (act write next).run s = (next s).run (write s) := rfl

@[simp] theorem run_read (f : σ → α) (s : σ) : (read f).run s = (f s, s) := rfl

@[simp] theorem run_write (f : σ → σ) (s : σ) : (write f).run s = ((), f s) := rfl

theorem run_bind (p : Script σ α) (f : α → Script σ β) (s : σ) :
    (p >>= f).run s = (f (p.run s).1).run (p.run s).2 := by
  induction p generalizing s with
  | done a => rfl
  | act write next ih => exact ih s (write s)

/-- The store after each operation of a run that nothing interrupts. -/
def states : Script σ α → σ → List σ
  | done _, _ => []
  | act write next, s => write s :: (next s).states (write s)

@[simp] theorem states_done (a : α) (s : σ) : (done a : Script σ α).states s = [] := rfl

@[simp] theorem states_act (write : σ → σ) (next : σ → Script σ α) (s : σ) :
    (act write next).states s = write s :: (next s).states (write s) := rfl

@[simp] theorem states_read (f : σ → α) (s : σ) : (read f).states s = [s] := rfl

@[simp] theorem states_write (f : σ → σ) (s : σ) : (write f).states s = [f s] := rfl

theorem states_bind (p : Script σ α) (f : α → Script σ β) (s : σ) :
    (p >>= f).states s = p.states s ++ (f (p.run s).1).states (p.run s).2 := by
  induction p generalizing s with
  | done a => rfl
  | act write next ih => exact congrArg (write s :: ·) (ih s (write s))

/-- The store when the script is cut off after so many operations. -/
def cutOff : Nat → Script σ α → σ → σ
  | 0, _, s => s
  | _ + 1, done _, s => s
  | n + 1, act write next, s => cutOff n (next s) (write s)

@[simp] theorem cutOff_zero (p : Script σ α) (s : σ) : cutOff 0 p s = s := by
  cases p <;> rfl

@[simp] theorem cutOff_done (n : Nat) (a : α) (s : σ) : cutOff n (done a) s = s := by
  cases n <;> rfl

@[simp] theorem cutOff_succ_read (n : Nat) (f : σ → α) (g : α → Script σ β) (s : σ) :
    cutOff (n + 1) (read f >>= g) s = cutOff n (g (f s)) s := rfl

/-- A script is cut off in one of the stores it goes through, or after the last. -/
theorem cutOff_eq (n : Nat) (p : Script σ α) (s : σ) :
    cutOff n p s = ((s :: p.states s)[n]?).getD (p.run s).2 := by
  induction p generalizing n s with
  | done a => cases n <;> rfl
  | act write next ih =>
    cases n with
    | zero => rfl
    | succ n =>
      rw [cutOff, ih s n (write s)]
      rfl

/-! ## Interleaved -/

/-- The next operation, if there is one. -/
def step : Script σ α → σ → Script σ α × σ
  | done a, s => (done a, s)
  | act write next, s => (next s, write s)

/-- Two scripts take turns as the schedule says: `true` is an operation of the first. -/
def interleave : List Bool → Script σ α → Script σ β → σ → Script σ α × Script σ β × σ
  | [], p, q, s => (p, q, s)
  | true :: schedule, p, q, s => interleave schedule (p.step s).1 q (p.step s).2
  | false :: schedule, p, q, s => interleave schedule p (q.step s).1 (q.step s).2

theorem interleave_append (schedule more : List Bool) (p : Script σ α) (q : Script σ β) (s : σ) :
    interleave (schedule ++ more) p q s =
      interleave more (interleave schedule p q s).1 (interleave schedule p q s).2.1
        (interleave schedule p q s).2.2 := by
  induction schedule generalizing p q s with
  | nil => rfl
  | cons turn schedule ih =>
    cases turn with
    | true => exact ih (p.step s).1 q (p.step s).2
    | false => exact ih p (q.step s).1 (q.step s).2

theorem interleave_swap (schedule : List Bool) (p : Script σ α) (q : Script σ β) (s : σ) :
    interleave (schedule.map not) q p s =
      ((interleave schedule p q s).2.1, (interleave schedule p q s).1,
        (interleave schedule p q s).2.2) := by
  induction schedule generalizing p q s with
  | nil => rfl
  | cons turn schedule ih =>
    cases turn with
    | true => exact ih (p.step s).1 q (p.step s).2
    | false => exact ih p (q.step s).1 (q.step s).2

/-- What each operation of each script preserves holds wherever the schedule leads; the
property may mention the turns taken so far. -/
theorem interleave_invariant {I : List Bool → Script σ α → Script σ β → σ → Prop}
    {p : Script σ α} {q : Script σ β} {s : σ} (initial : I [] p q s)
    (left : ∀ turns p q s, I turns p q s → I (turns ++ [true]) (p.step s).1 q (p.step s).2)
    (right : ∀ turns p q s, I turns p q s → I (turns ++ [false]) p (q.step s).1 (q.step s).2)
    (schedule : List Bool) : I schedule (interleave schedule p q s).1
      (interleave schedule p q s).2.1 (interleave schedule p q s).2.2 := by
  have from_ : ∀ turns p q s, I turns p q s → I (turns ++ schedule) (interleave schedule p q s).1
      (interleave schedule p q s).2.1 (interleave schedule p q s).2.2 := by
    induction schedule with
    | nil =>
      intro turns p q s holds
      rw [List.append_nil]
      exact holds
    | cons turn schedule ih =>
      intro turns p q s holds
      rw [List.append_cons]
      cases turn with
      | true => exact ih _ _ _ _ (left turns p q s holds)
      | false => exact ih _ _ _ _ (right turns p q s holds)
  exact from_ [] p q s initial

/-! ## Relying on the others -/

/-- While the others keep to `rely`, the operations keep to `guar`, and the result and the
store then meet `post`. -/
def Safe (rely guar : σ → σ → Prop) (post : α → σ → Prop) : Script σ α → σ → Prop
  | done a, s => ∀ s', rely s s' → post a s'
  | act write next, s => ∀ s', rely s s' →
      guar s' (write s') ∧ Safe rely guar post (next s') (write s')

/-- What the others may do includes doing nothing, and several steps of theirs. -/
structure Relies (rely : σ → σ → Prop) : Prop where
  refl : ∀ s, rely s s
  trans : ∀ {a b c}, rely a b → rely b c → rely a c

variable {rely guar : σ → σ → Prop} {post : α → σ → Prop}

theorem Safe.stable (relies : Relies rely) {p : Script σ α} {s s' : σ}
    (safe : p.Safe rely guar post s) (others : rely s s') : p.Safe rely guar post s' := by
  cases p with
  | done a => exact fun s'' more => safe s'' (relies.trans others more)
  | act write next => exact fun s'' more => safe s'' (relies.trans others more)

theorem Safe.finished (relies : Relies rely) {a : α} {s : σ}
    (safe : (done a : Script σ α).Safe rely guar post s) : post a s :=
  safe s (relies.refl s)

/-- An operation keeps to the guarantee, or there was none left. -/
theorem Safe.step (relies : Relies rely) {p : Script σ α} {s : σ}
    (safe : p.Safe rely guar post s) :
    (guar s (p.step s).2 ∨ (p.step s).2 = s) ∧ (p.step s).1.Safe rely guar post (p.step s).2 := by
  cases p with
  | done a => exact ⟨.inr rfl, safe⟩
  | act write next =>
    obtain ⟨kept, rest⟩ := safe s (relies.refl s)
    exact ⟨.inl kept, rest⟩

theorem Safe.bind {f : α → Script σ β} {goal : β → σ → Prop} {p : Script σ α} {s : σ}
    (relies : Relies rely) (safe : p.Safe rely guar post s)
    (rest : ∀ a s', post a s' → (f a).Safe rely guar goal s') :
    (p >>= f).Safe rely guar goal s := by
  induction p generalizing s with
  | done a => exact rest a s (safe.finished relies)
  | act write next ih =>
    intro s' others
    obtain ⟨kept, later⟩ := safe s' others
    exact ⟨kept, ih s' later⟩

theorem Safe.imp {post' : α → σ → Prop} {p : Script σ α} {s : σ}
    (safe : p.Safe rely guar post s) (weaker : ∀ a s', post a s' → post' a s') :
    p.Safe rely guar post' s := by
  induction p generalizing s with
  | done a => exact fun s' others => weaker a s' (safe s' others)
  | act write next ih =>
    intro s' others
    obtain ⟨kept, later⟩ := safe s' others
    exact ⟨kept, ih s' later⟩

/-- A run that nothing interrupts. -/
theorem Safe.run (relies : Relies rely) {p : Script σ α} {s : σ} (safe : p.Safe rely guar post s) :
    post (p.run s).1 (p.run s).2 := by
  induction p generalizing s with
  | done a => exact safe.finished relies
  | act write next ih => exact ih s (safe s (relies.refl s)).2

/-- What follows a read starts from a store that the others may have changed before. -/
theorem Safe.read_bind {goal : β → σ → Prop} (still : ∀ s, guar s s) {g : σ → α}
    {f : α → Script σ β} {s : σ}
    (rest : ∀ s', rely s s' → (f (g s')).Safe rely guar goal s') :
    (read g >>= f).Safe rely guar goal s :=
  fun s' others => ⟨still s', rest s' others⟩

/-- Two scripts that rely on no more than the other guarantees stay safe together. -/
theorem Safe.interleave {rely' guar' : σ → σ → Prop} {post' : β → σ → Prop}
    (relies : Relies rely) (relies' : Relies rely') (mine : ∀ {a b}, guar a b → rely' a b)
    (theirs : ∀ {a b}, guar' a b → rely a b) (schedule : List Bool) {p : Script σ α}
    {q : Script σ β} {s : σ} (first : p.Safe rely guar post s)
    (second : q.Safe rely' guar' post' s) :
    (Script.interleave schedule p q s).1.Safe rely guar post
        (Script.interleave schedule p q s).2.2 ∧
      (Script.interleave schedule p q s).2.1.Safe rely' guar' post'
        (Script.interleave schedule p q s).2.2 := by
  induction schedule generalizing p q s with
  | nil => exact ⟨first, second⟩
  | cons turn schedule ih =>
    cases turn with
    | true =>
      obtain ⟨kept, rest⟩ := first.step relies
      have moved : rely' s (p.step s).2 := by
        rcases kept with kept | still
        · exact mine kept
        · rw [still]
          exact relies'.refl s
      exact ih rest (second.stable relies' moved)
    | false =>
      obtain ⟨kept, rest⟩ := second.step relies'
      have moved : rely s (q.step s).2 := by
        rcases kept with kept | still
        · exact theirs kept
        · rw [still]
          exact relies.refl s
      exact ih (first.stable relies moved) rest

end Script

end IncidentTriage
