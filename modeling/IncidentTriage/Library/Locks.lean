import Mathlib.Logic.Function.Basic
import Mathlib.Logic.Relation
import Mathlib.Order.Basic

/-! # Locks taken by transactions

Processes run their transactions one after the other.  A transaction asks for its locks in
the order of its plan, is granted each as soon as no other process holds a lock that
clashes with it, and gives all of them back when it ends, which it may do at any point.  A
process waits for another that holds what its next request clashes with; the processes are
deadlocked when one waits, through others, for itself.

If the locks have ranks that every plan respects, no deadlock is reachable; two plans that
take clashing locks in opposite orders reach one.
-/

namespace IncidentTriage.Locks

variable {ι α κ : Type*}

/-- Where a process stands: what its transaction holds and still asks for, and the
transactions after it. -/
structure Progress (α : Type*) where
  held : List α
  asking : List α
  later : List (List α)

def Progress.start : List (List α) → Progress α
  | [] => ⟨[], [], []⟩
  | first :: later => ⟨[], first, later⟩

@[simp] theorem Progress.start_held (plan : List (List α)) : (Progress.start plan).held = [] := by
  cases plan <;> rfl

/-- The transaction ends and releases its locks. -/
def Progress.finish (p : Progress α) : Progress α :=
  .start p.later

/-- The first request is granted. -/
def Progress.grant (p : Progress α) (next : α) (rest : List α) : Progress α :=
  ⟨p.held ++ [next], rest, p.later⟩

/-- What is held and asked for is one transaction of the plan, or nothing is left of it. -/
structure Follows (plan : List (List α)) (p : Progress α) : Prop where
  current : p.held ++ p.asking = [] ∨ p.held ++ p.asking ∈ plan
  later : ∀ t ∈ p.later, t ∈ plan

theorem Follows.start {plan part : List (List α)} (part_of : ∀ t ∈ part, t ∈ plan) :
    Follows plan (.start part) := by
  cases part with
  | nil => exact ⟨.inl rfl, by simp [Progress.start]⟩
  | cons first later =>
    constructor
    · exact .inr (part_of _ (by simp [Progress.start]))
    · intro t member
      exact part_of t (List.mem_cons_of_mem _ member)

theorem Follows.plan {plan : List (List α)} {p : Progress α} (follows : Follows plan p)
    {next : α} {rest : List α} (asks : p.asking = next :: rest) :
    p.held ++ next :: rest ∈ plan := by
  simpa [asks] using follows.current

/-! ## Waiting, and ranks that rise along it

`clash` says which locks two processes cannot hold at once. -/

/-- The next request of `i` clashes with a lock that `j` holds. -/
def WaitsFor (clash : α → α → Prop) (s : ι → Progress α) (i j : ι) : Prop :=
  i ≠ j ∧ ∃ next rest, (s i).asking = next :: rest ∧ ∃ lock ∈ (s j).held, clash lock next

/-- What a transaction asks for while it holds a lock ranks after everything that another
may wait for that lock with. -/
def Ordered [LT κ] (clash : α → α → Prop) (rank : α → κ) (t : List α) : Prop :=
  t.Pairwise fun lock next => ∀ asked, clash lock asked → rank asked < rank next

variable {clash : α → α → Prop} {plans : ι → List (List α)} {s s' : ι → Progress α}

theorem WaitsFor.rank_lt [LT κ] {rank : α → κ} (ordered : ∀ i, ∀ t ∈ plans i, Ordered clash rank t)
    (follows : ∀ i, Follows (plans i) (s i)) {i j : ι} (waits : WaitsFor clash s i j)
    {next asked : α} {rest more : List α} (mine : (s i).asking = asked :: more)
    (theirs : (s j).asking = next :: rest) : rank asked < rank next := by
  obtain ⟨-, _, _, asks, lock, held, clashes⟩ := waits
  obtain ⟨rfl, rfl⟩ : asked = _ ∧ more = _ := by simpa [mine] using asks
  have apart := List.pairwise_append.mp (ordered j _ ((follows j).plan theirs))
  exact apart.2.2 lock held next (by simp) asked clashes

/-- Along a chain of waiting processes the next requests rise in rank. -/
theorem rank_lt_of_waits [Preorder κ] {rank : α → κ}
    (ordered : ∀ i, ∀ t ∈ plans i, Ordered clash rank t)
    (follows : ∀ i, Follows (plans i) (s i)) {i j : ι}
    (waits : Relation.TransGen (WaitsFor clash s) i j) {asked next : α} {more rest : List α}
    (mine : (s i).asking = asked :: more) (theirs : (s j).asking = next :: rest) :
    rank asked < rank next := by
  induction waits generalizing next rest with
  | single edge => exact edge.rank_lt ordered follows mine theirs
  | tail _ edge ih =>
    obtain ⟨between, between_rest, asks, -⟩ := edge.2
    exact (ih asks).trans (edge.rank_lt ordered follows asks theirs)

/-! ## The processes at work -/

variable [DecidableEq ι]

inductive Step (clash : α → α → Prop) (s : ι → Progress α) : (ι → Progress α) → Prop where
  | grant (i : ι) {next : α} {rest : List α} (asks : (s i).asking = next :: rest)
      (free : ∀ j, j ≠ i → ∀ lock ∈ (s j).held, ¬ clash lock next) :
      Step clash s (Function.update s i ((s i).grant next rest))
  /-- The transaction commits, returns early or is rolled back; the next one begins. -/
  | finish (i : ι) : Step clash s (Function.update s i (s i).finish)
  /-- The process gives up: none of its later transactions begins. -/
  | abandon (i : ι) : Step clash s (Function.update s i (.start []))

omit [DecidableEq ι] in
/-- Every process at the beginning of its first transaction. -/
def begun (plans : ι → List (List α)) : ι → Progress α :=
  fun i => .start (plans i)

def Reachable (clash : α → α → Prop) (plans : ι → List (List α)) (s : ι → Progress α) : Prop :=
  Relation.ReflTransGen (Step clash) (begun plans) s

/-- No state that the processes can reach has a cycle of waiting ones. -/
def DeadlockFree (clash : α → α → Prop) (plans : ι → List (List α)) : Prop :=
  ∀ s, Reachable clash plans s → ∀ i, ¬ Relation.TransGen (WaitsFor clash s) i i

theorem Step.follows (step : Step clash s s') (before : ∀ i, Follows (plans i) (s i)) :
    ∀ i, Follows (plans i) (s' i) := by
  intro k
  cases step with
  | grant i asks free =>
    rcases eq_or_ne k i with rfl | other
    · rw [Function.update_self]
      exact ⟨by simpa [Progress.grant, asks] using (before k).current, (before k).later⟩
    · rw [Function.update_of_ne other]
      exact before k
  | finish i =>
    rcases eq_or_ne k i with rfl | other
    · rw [Function.update_self]
      exact .start (before k).later
    · rw [Function.update_of_ne other]
      exact before k
  | abandon i =>
    rcases eq_or_ne k i with rfl | other
    · rw [Function.update_self]
      exact .start (by simp)
    · rw [Function.update_of_ne other]
      exact before k

theorem Reachable.follows (reached : Reachable clash plans s) : ∀ i, Follows (plans i) (s i) := by
  induction reached with
  | refl => exact fun i => .start (fun _ member => member)
  | tail _ step ih => exact step.follows ih

/-- Plans that respect a ranking of the locks never deadlock. -/
theorem deadlockFree_of_ordered [Preorder κ] {rank : α → κ}
    (ordered : ∀ i, ∀ t ∈ plans i, Ordered clash rank t) : DeadlockFree clash plans := by
  intro s reached i cycle
  obtain ⟨j, edge, -⟩ := Relation.TransGen.head'_iff.mp cycle
  obtain ⟨-, next, rest, asks, -⟩ := edge
  exact lt_irrefl _ (rank_lt_of_waits ordered reached.follows cycle asks asks)

/-! ## Plans that cross -/

/-- A process that ends its transactions one by one comes to any of them. -/
theorem reaches_transaction (clash : α → α → Prop) (s : ι → Progress α) (i : ι) (earlier later : List (List α)) (t : List α)
    (here : s i = .start (earlier ++ t :: later)) :
    Relation.ReflTransGen (Step clash) s (Function.update s i ⟨[], t, later⟩) := by
  induction earlier generalizing s with
  | nil =>
    have unchanged : (⟨[], t, later⟩ : Progress α) = s i := here.symm
    rw [unchanged, Function.update_eq_self]
  | cons first earlier ih =>
    have next : (s i).finish = .start (earlier ++ t :: later) := by rw [here]; rfl
    have moved := ih (Function.update s i (s i).finish) (by rw [Function.update_self, next])
    rw [Function.update_idem] at moved
    exact .head (.finish i) moved

/-- A process comes to hold the first lock of any of its transactions, if nobody holds
anything against it. -/
theorem reaches_lock (s : ι → Progress α) {i : ι} {first : α} {rest : List α} (here : s i = .start (plans i))
    (member : first :: rest ∈ plans i)
    (free : ∀ j, j ≠ i → ∀ lock ∈ (s j).held, ¬ clash lock first) :
    ∃ later, Relation.ReflTransGen (Step clash) s
      (Function.update s i ⟨[first], rest, later⟩) := by
  obtain ⟨earlier, later, split⟩ := List.append_of_mem member
  refine ⟨later, ?_⟩
  have comes := reaches_transaction clash s i earlier later (first :: rest)
    (here.trans (by rw [split]))
  have granted : Step clash (Function.update s i ⟨[], first :: rest, later⟩) _ :=
    .grant i (by rw [Function.update_self])
    (fun j other lock held => free j other lock (by rwa [Function.update_of_ne other] at held))
  rw [Function.update_idem, Function.update_self] at granted
  exact comes.tail granted

/-- Two processes, each holding what the other's next request clashes with. -/
theorem not_deadlockFree_of_crossing {i j : ι} (ne : i ≠ j) {a b c d : α} {more more' : List α}
    (mine : a :: b :: more ∈ plans i) (theirs : c :: d :: more' ∈ plans j)
    (apart : ¬ clash a c) (forward : clash c b) (back : clash a d) :
    ¬ DeadlockFree clash plans := by
  intro free
  obtain ⟨later, first⟩ := reaches_lock (begun plans) (i := i) rfl mine
    (fun j _ lock held => by simp [begun] at held)
  obtain ⟨later', second⟩ := reaches_lock
    (Function.update (begun plans) i ⟨[a], b :: more, later⟩) (i := j)
    (by rw [Function.update_of_ne ne.symm]; rfl) theirs
    (fun k other lock held => by
      rcases eq_or_ne k i with rfl | elsewhere
      · rw [Function.update_self] at held
        obtain rfl : lock = a := by simpa using held
        exact apart
      · rw [Function.update_of_ne elsewhere] at held
        simp [begun] at held)
  refine free _ (first.trans second) i (.tail (.single (b := j) ?_) ?_)
  · exact ⟨ne, b, more, by simp [Function.update_of_ne ne], c, by simp, forward⟩
  · exact ⟨ne.symm, d, more', by simp, a, by simp [Function.update_of_ne ne], back⟩

end IncidentTriage.Locks
