import IncidentTriage.Library.Schedules
import IncidentTriage.Verified.EngineRuns
import Mathlib.Data.Prod.Lex

/-! # The engine ends

While it has the lease, a worker comes closer to its end with each step: by an iteration
that is spent, by a call of the last turn that is answered, or by the next thing to do for
either.  Once it has lost the lease, it is at most an iteration away from finding out.
`engine_ends` puts this together for whatever models, toolsets and other workers do.
-/

namespace IncidentTriage.Verified

open IncidentTriage.Python IncidentTriage.Domain IncidentTriage.Incident IncidentTriage.Tools
  IncidentTriage.Agents

/-! ## The measure -/

/-- The phases before the loop. -/
def beforeLoop : Phase → Nat
  | .claimed _ => 2
  | .contextual => 1
  | _ => 0

/-- Whether the last turn has something open, or is being acted on. -/
def openWork (e : EngineEnv) (l : Ledger) : Phase → Nat
  | .looping _ | .loaded .. => if (outstanding e.schemas l.steps).isSome then 2 else 0
  | .acting .. | .answering .. => 1
  | _ => 0

/-- What is left to do for a turn. -/
def turnWork (attempts : Nat) : Phase → Nat
  | .looping _ => attempts + 5
  | .loaded .. => attempts + 4
  | .noticed .. => attempts + 3
  | .asking _ _ _ attempt _ => attempts - attempt + 2
  | .failing .. => 1
  | .acting _ jobs _ => 2 * jobs.length
  | .answering _ _ _ jobs _ => 2 * jobs.length + 1
  | .claimed _ | .contextual | .ended _ => 0

/-- The steps in which a worker without the lease may not have noticed. -/
def unnoticed : Phase → Nat
  | .claimed _ | .contextual | .acting _ [] _ => 6
  | .looping _ => 5
  | .loaded .. => 4
  | .acting _ (_ :: _) _ => 3
  | .answering .. | .noticed .. => 2
  | .asking .. | .failing .. => 1
  | .ended _ => 0

/-- The iterations that an investigation has left. -/
def iterationsLeft (l : Ledger) : Nat := l.row.budget.maxIterations - l.row.iterationCount

/-- What falls with every step of a worker: the lease, its iterations, the calls that are
open, the work on a turn. -/
def distance (e : EngineEnv) (engine : Engine) (x : Ledger × Phase) : ℕ ×ₗ ℕ ×ₗ ℕ ×ₗ ℕ :=
  if x.1.heldBy engine.owner then
    toLex (beforeLoop x.2 + 1, toLex (iterationsLeft x.1,
      toLex (openWork e x.1 x.2, turnWork engine.attempts x.2)))
  else toLex (0, toLex (0, toLex (0, unnoticed x.2)))

section
variable {e : EngineEnv} {engine : Engine} {l l' : Ledger} {p p' : Phase}

theorem distance_lt_of_held (held : l.heldBy engine.owner) (held' : l'.heldBy engine.owner)
    (falls : beforeLoop p' < beforeLoop p ∨ beforeLoop p' = beforeLoop p ∧
      (iterationsLeft l' < iterationsLeft l ∨ iterationsLeft l' = iterationsLeft l ∧
        (openWork e l' p' < openWork e l p ∨ openWork e l' p' = openWork e l p ∧
          turnWork engine.attempts p' < turnWork engine.attempts p))) :
    distance e engine (l', p') < distance e engine (l, p) := by
  simp only [distance, if_pos held, if_pos held', Prod.Lex.toLex_lt_toLex]
  omega

theorem distance_lt_of_unnoticed (lost : ¬ l.heldBy engine.owner)
    (lost' : ¬ l'.heldBy engine.owner) (falls : unnoticed p' < unnoticed p) :
    distance e engine (l', p') < distance e engine (l, p) := by
  simp only [distance, if_neg lost, if_neg lost', Prod.Lex.toLex_lt_toLex]
  exact .inr ⟨trivial, .inr ⟨trivial, .inr ⟨trivial, falls⟩⟩⟩

/-- Nothing is as far as the loss of the lease. -/
theorem distance_lt_of_lost (held : l.heldBy engine.owner) (lost : ¬ l'.heldBy engine.owner) :
    distance e engine (l', p') < distance e engine (l, p) := by
  simp only [distance, if_pos held, if_neg lost, Prod.Lex.toLex_lt_toLex]
  omega

end

section
variable {e : EngineEnv} {d : Desk} {now : Time} {replies : Replies} {s : Store} {l l' : Ledger}
  {p p' : Phase}

theorem iterationsLeft_wroteBy {record : StepRecord} (noTurn : record.kind ≠ .modelTurn) :
    iterationsLeft (wroteBy d now l record) = iterationsLeft l := by
  simp [iterationsLeft, noTurn]

theorem SameAccounts.iterationsLeft (accounts : SameAccounts l.row l'.row) :
    iterationsLeft l' = Verified.iterationsLeft l := by
  rw [Verified.iterationsLeft, Verified.iterationsLeft, accounts.budget, accounts.iterationCount]

theorem openWork_of_none (nothing : outstanding e.schemas l.steps = none) (x : ToolExecutor) :
    openWork e l (.looping x) = 0 := by
  simp [openWork, nothing]

/-- A step of the lease's holder. -/
theorem DeskMove.falls (move : DeskMove e d now replies s l p l' p')
    (held : l.heldBy d.engine.owner) (memory : Remembers l p)
    (live : p'.live = true) :
    distance e d.engine (l', p') < distance e d.engine (l, p) := by
  refine distance_lt_of_held held (move.heldBy_after held live) ?_
  cases move with
  | raises | closes | finds | rests => cases live
  | resumes state => exact .inl (by simp [beforeLoop])
  | introduces state _ => exact .inl (by simp [beforeLoop])
  | introduced state loaded => exact .inl (by simp [beforeLoop])
  | loads x state loaded goesOn =>
    exact .inr ⟨rfl, .inr ⟨rfl, .inr ⟨rfl, by simp [turnWork]⟩⟩⟩
  | takesUp state x last jobs left =>
    have loaded : Loaded l state := memory
    rw [loaded.steps] at left
    exact .inr ⟨rfl, .inr ⟨rfl, .inl (by simp [openWork, left])⟩⟩
  | announces state x nothing within _ =>
    have loaded : Loaded l state := memory
    rw [loaded.steps] at nothing
    refine .inr ⟨rfl, .inr ⟨iterationsLeft_wroteBy (by simp [feedbackRecord]), .inr ⟨?_, ?_⟩⟩⟩
    · simp [openWork, nothing]
    · simp [turnWork]
  | prepares iteration finalReason x state loaded =>
    refine .inr ⟨rfl, .inr ⟨rfl, .inr ⟨rfl, ?_⟩⟩⟩
    simp only [turnWork]
    omega
  | fails state iteration finalReason attempt x error more answer _ =>
    have left : iterationsLeft (wroteBy d now l (errorRecord iteration attempt error)) =
        iterationsLeft l := iterationsLeft_wroteBy (by simp [errorRecord])
    by_cases gaveUp : (!error.retryable || attempt == d.engine.attempts) = true
    · rw [Desk.afterError, if_pos gaveUp]
      exact .inr ⟨rfl, .inr ⟨left, .inr ⟨rfl, by simp [turnWork]⟩⟩⟩
    · rw [Desk.afterError, if_neg gaveUp]
      simp only [Bool.or_eq_true, beq_iff_eq, not_or] at gaveUp
      refine .inr ⟨rfl, .inr ⟨left, .inr ⟨rfl, ?_⟩⟩⟩
      simp only [turnWork]
      omega
  | hears state iteration finalReason attempt x turn more answer _ =>
    have before : iteration = l.row.iterationCount + 1 ∧
      l.row.iterationCount < l.row.budget.maxIterations := memory
    refine .inr ⟨rfl, .inl ?_⟩
    simp only [iterationsLeft, wroteBy_budget, wroteBy_iterationCount, turnRecord, if_true]
    omega
  | returns turn x goesOn =>
    have covers : Covers l [] := memory
    exact .inr ⟨rfl, .inr ⟨rfl, .inl (by
      rw [openWork_of_none (covers.done e.schemas)]
      exact Nat.one_pos)⟩⟩
  | notes turn jobs x stopReason _ =>
    refine .inr ⟨rfl, .inr ⟨iterationsLeft_wroteBy (by simp [feedbackRecord]), .inr ⟨rfl, ?_⟩⟩⟩
    simp [turnWork]
  | applies turn jobs x call row payload accounts holder _ =>
    refine .inr ⟨rfl, .inr ⟨SameAccounts.iterationsLeft accounts, .inr ⟨rfl, ?_⟩⟩⟩
    simp [turnWork]
  | unmet turn jobs x call row payload accounts holder _ =>
    refine .inr ⟨rfl, .inr ⟨SameAccounts.iterationsLeft accounts, .inr ⟨rfl, ?_⟩⟩⟩
    simp [turnWork]
  | rejects turn jobs x call _ =>
    refine .inr ⟨rfl, .inr ⟨iterationsLeft_wroteBy (by simp [invalidRecord]), .inr ⟨rfl, ?_⟩⟩⟩
    simp [turnWork]
  | refuses turn jobs x request code text refused _ =>
    refine .inr ⟨rfl, .inr ⟨iterationsLeft_wroteBy (by simp [refusedRecord]), .inr ⟨rfl, ?_⟩⟩⟩
    simp [turnWork]
  | executes turn jobs x request allowed =>
    refine .inr ⟨rfl, .inr ⟨rfl, .inr ⟨rfl, ?_⟩⟩⟩
    simp only [turnWork, List.length_cons]
    omega
  | answers turn jobs x request outcome _ =>
    refine .inr ⟨rfl, .inr ⟨iterationsLeft_wroteBy (by simp [toolRecord]), .inr ⟨rfl, ?_⟩⟩⟩
    simp [turnWork]

/-- A step of a worker that has lost the lease. -/
theorem DeskMove.falls_unnoticed (move : DeskMove e d now replies s l p l' p')
    (lost : ¬ l.heldBy d.engine.owner) (live : p'.live = true) :
    distance e d.engine (l', p') < distance e d.engine (l, p) := by
  have same := move.frame lost
  refine distance_lt_of_unnoticed lost (same ▸ lost) ?_
  cases move with
  | raises | closes | finds | rests => cases live
  | resumes | introduced | loads | prepares | returns | executes => simp [unnoticed]
  | takesUp state x last jobs left =>
    cases jobs with
    | nil => exact absurd rfl (outstanding_ne_nil left)
    | cons job jobs => simp [unnoticed]
  | introduces state held => exact absurd held lost
  | announces state x nothing within held => exact absurd held lost
  | fails state iteration finalReason attempt x error more answer held => exact absurd held lost
  | hears state iteration finalReason attempt x turn more answer held => exact absurd held lost
  | notes turn jobs x stopReason held => exact absurd held lost
  | applies turn jobs x call row payload accounts holder held => exact absurd held lost
  | rejects turn jobs x call held => exact absurd held lost
  | refuses turn jobs x request code text refused held => exact absurd held lost
  | answers turn jobs x request outcome held => exact absurd held lost
  | unmet turn jobs x call row payload accounts holder held => exact absurd held lost

end

section
variable {e : EngineEnv} {id i : Uuid} {k : Nat} {engine : Engine} {w : Workshop}
  {x x' : Ledger × Phase} {event : RunEvent}

/-- A live worker comes closer with each of its steps. -/
theorem OwnMove.falls {now : Time} {replies : Replies} (own : Own id i k engine w x)
    (move : OwnMove e id k engine (.event (.work k now replies)) x x') (live : x.2.live = true) :
    x'.2.live = false ∨ distance e engine x' < distance e engine x := by
  cases move with
  | gone _ l l' p dead grown =>
    rw [dead] at live
    cases live
  | waits _ l l' p live' others grown lost => exact absurd rfl (others now replies)
  | works _ _ s l l' p p' live' move raised returned =>
    cases goesOn : p'.live with
    | false => exact .inl rfl
    | true =>
      by_cases held : l.heldBy engine.owner
      · exact .inr (DeskMove.falls move held (own.memory live held) goesOn)
      · exact .inr (DeskMove.falls_unnoticed move held goesOn)

theorem distance_answered (l : Ledger) (p : Phase) (outcome : ToolOutcome) :
    distance e engine (l, p.answered outcome) ≤ distance e engine (l, p) := by
  unfold Phase.answered
  split
  · rename_i turn request jobs toolset
    split_ifs with allowed
    · refine le_of_lt ?_
      by_cases held : l.heldBy engine.owner
      · refine distance_lt_of_held held held (.inr ⟨rfl, .inr ⟨rfl, .inr ⟨rfl, ?_⟩⟩⟩)
        simp only [turnWork, List.length_cons]
        omega
      · exact distance_lt_of_unnoticed held held (by simp [unnoticed])
    · exact le_rfl
  · exact le_rfl

/-- Nothing that happens takes it further away. -/
theorem OwnMove.rests (own : Own id i k engine w x) (move : OwnMove e id k engine event x x')
    (live : x.2.live = true) :
    x'.2.live = false ∨ distance e engine x' ≤ distance e engine x := by
  cases move with
  | gone _ l l' p dead grown =>
    rw [dead] at live
    cases live
  | works now replies s l l' p p' live' move raised returned =>
    have same : OwnMove e id k engine (.event (.work k now replies)) (l, p) (l', p') :=
      .works now replies s l l' p p' live' move raised returned
    exact (same.falls own live).imp_right le_of_lt
  | toolset outcome l p live => exact .inr (distance_answered l p outcome)
  | waits _ l l' p live' others grown lost =>
    refine .inr ?_
    rcases lost with rfl | lost
    · exact le_rfl
    · by_cases held : l.heldBy engine.owner
      · exact le_of_lt (distance_lt_of_lost held lost)
      · simp only [distance, if_neg held, if_neg lost]
        exact le_rfl

end

/-! ## The model calls -/

/-- The model is asked for the turn of this iteration. -/
def asksFor (iteration : Nat) : Phase → Bool
  | .asking _ n _ _ _ => n == iteration
  | _ => false

/-- The worker asks its model for the turn of this iteration. -/
def asksAt (k iteration : Nat) (w : Workshop) : RunEvent → Bool
  | .event (.work j _ _) =>
    j == k && (w.workers[k]?).any (fun worker => asksFor iteration worker.phase)
  | _ => false

/-- The worker's model answers with a turn. -/
def hearsAt (k : Nat) (w : Workshop) : RunEvent → Bool
  | .event (.work j _ replies) =>
    j == k && (w.workers[k]?).any (fun worker => asksModel worker.phase) && replies.model.isOk
  | _ => false

/-- The attempts that an iteration is worth. -/
def allowance (engine : Engine) (iteration : Nat) (l : Ledger) : Nat :=
  if l.row.iterationCount < iteration ∧ iteration ≤ l.row.budget.maxIterations then
    engine.attempts
  else 0

/-- The model calls that are still to come for an iteration. -/
def asksLeft (engine : Engine) (iteration : Nat) (x : Ledger × Phase) : Nat :=
  if x.1.heldBy engine.owner then
    match x.2 with
    | .asking _ n _ attempt _ =>
      if n = iteration then engine.attempts + 1 - attempt else allowance engine iteration x.1
    | .failing .. | .ended _ => 0
    | _ => allowance engine iteration x.1
  else
    match x.2 with
    | .noticed n _ _ | .asking _ n _ _ _ => if n = iteration then 1 else 0
    | _ => 0

/-- The turns that are still to come. -/
def turnsLeft (engine : Engine) (x : Ledger × Phase) : Nat :=
  if x.1.heldBy engine.owner then
    match x.2 with
    | .failing .. | .ended _ => 0
    | _ => iterationsLeft x.1
  else
    match x.2 with
    | .noticed .. | .asking .. => 1
    | _ => 0

section
variable {e : EngineEnv} {d : Desk} {i : Uuid} {now : Time} {replies : Replies} {s : Store}
  {l l' : Ledger} {p p' : Phase} {iteration : Nat}

theorem allowance_congr {engine : Engine} (budget : l'.row.budget = l.row.budget)
    (count : l'.row.iterationCount = l.row.iterationCount) :
    allowance engine iteration l' = allowance engine iteration l := by
  rw [allowance, allowance, budget, count]

theorem allowance_wroteBy {engine : Engine} {record : StepRecord}
    (noTurn : record.kind ≠ .modelTurn) :
    allowance engine iteration (wroteBy d now l record) = allowance engine iteration l :=
  allowance_congr rfl (if_neg noTurn)

/-- A call is among those that were still to come. -/
theorem asked_le {engine : Engine} (carries : Carries engine i p) :
    (if asksFor iteration p then 1 else 0) ≤ asksLeft engine iteration (l, p) := by
  cases p with
  | asking state n finalReason attempt x =>
    have tried : 1 ≤ attempt ∧ attempt ≤ engine.attempts := carries
    by_cases here : n = iteration
    · simp only [asksFor, here, asksLeft, beq_self_eq_true, if_true]
      split_ifs <;> omega
    · simp [asksFor, here]
  | _ => exact Nat.zero_le _

/-- What a worker without the lease asks is its last call. -/
theorem DeskMove.pays_unnoticed (move : DeskMove e d now replies s l p l' p')
    (lost : ¬ l.heldBy d.engine.owner) (live : p'.live = true) :
    asksLeft d.engine iteration (l', p') + (if asksFor iteration p then 1 else 0) ≤
        asksLeft d.engine iteration (l, p) ∧
      turnsLeft d.engine (l', p') + (if asksModel p && replies.model.isOk then 1 else 0) ≤
        turnsLeft d.engine (l, p) := by
  have lost' : ¬ l'.heldBy d.engine.owner := fun held => lost (move.heldBy_before held)
  simp only [asksLeft, turnsLeft, if_neg lost, if_neg lost']
  cases move with
  | raises | closes | finds | rests => cases live
  | resumes | introduced | loads | prepares | returns | executes | takesUp =>
    simp [asksFor, asksModel]
  | introduces state held => exact absurd held lost
  | announces state x nothing within held => exact absurd held lost
  | fails state iteration finalReason attempt x error more answer held => exact absurd held lost
  | hears state iteration finalReason attempt x turn more answer held => exact absurd held lost
  | notes turn jobs x stopReason held => exact absurd held lost
  | applies turn jobs x call row payload accounts holder held => exact absurd held lost
  | rejects turn jobs x call held => exact absurd held lost
  | refuses turn jobs x request code text refused held => exact absurd held lost
  | answers turn jobs x request outcome held => exact absurd held lost
  | unmet turn jobs x call row payload accounts holder held => exact absurd held lost

/-- What the holder of the lease asks, and what it hears, is paid for. -/
theorem DeskMove.pays (move : DeskMove e d now replies s l p l' p')
    (held : l.heldBy d.engine.owner) (memory : Remembers l p) (carries : Carries d.engine i p)
    (live : p'.live = true) :
    asksLeft d.engine iteration (l', p') + (if asksFor iteration p then 1 else 0) ≤
        asksLeft d.engine iteration (l, p) ∧
      turnsLeft d.engine (l', p') + (if asksModel p && replies.model.isOk then 1 else 0) ≤
        turnsLeft d.engine (l, p) := by
  have held' := move.heldBy_after held live
  simp only [asksLeft, turnsLeft, if_pos held, if_pos held']
  cases move with
  | raises | closes | finds | rests => cases live
  | resumes | introduced | loads | takesUp | returns | executes => exact ⟨le_rfl, le_rfl⟩
  | introduces state _ =>
    have noTurn : (contextRecord e s now state.investigation).kind ≠ .modelTurn := by
      simp [contextRecord]
    exact ⟨(allowance_wroteBy noTurn).le, (iterationsLeft_wroteBy noTurn).le⟩
  | announces state x nothing within _ =>
    exact ⟨(allowance_wroteBy (by simp [feedbackRecord])).le,
      (iterationsLeft_wroteBy (by simp [feedbackRecord])).le⟩
  | prepares n finalReason x state loaded =>
    have before : n = l.row.iterationCount + 1 ∧
      l.row.iterationCount < l.row.budget.maxIterations := memory
    refine ⟨?_, le_rfl⟩
    simp only [asksFor, allowance, Bool.false_eq_true, if_false]
    split_ifs <;> omega
  | fails state n finalReason attempt x error more answer _ =>
    have same : allowance d.engine iteration (wroteBy d now l (errorRecord n attempt error)) =
        allowance d.engine iteration l := allowance_wroteBy (by simp [errorRecord])
    have left : iterationsLeft (wroteBy d now l (errorRecord n attempt error)) =
        iterationsLeft l := iterationsLeft_wroteBy (by simp [errorRecord])
    have silent : replies.model.isOk = false := by
      rw [answer]
      rfl
    simp only [silent, Bool.and_false, Bool.false_eq_true, if_false, asksFor, beq_iff_eq]
    by_cases gaveUp : (!error.retryable || attempt == d.engine.attempts) = true
    · rw [Desk.afterError, if_pos gaveUp]
      refine ⟨?_, Nat.zero_le _⟩
      dsimp only
      split_ifs <;> omega
    · rw [Desk.afterError, if_neg gaveUp, left, same]
      refine ⟨?_, le_rfl⟩
      dsimp only
      split_ifs <;> omega
  | hears state n finalReason attempt x turn more answer _ =>
    have before : n = l.row.iterationCount + 1 ∧
      l.row.iterationCount < l.row.budget.maxIterations := memory
    have counted : (wroteBy d now l (turnRecord n turn)).row.iterationCount =
        l.row.iterationCount + 1 := by
      simp only [wroteBy_iterationCount, turnRecord, if_true]
      omega
    simp only [allowance, iterationsLeft, counted, wroteBy_budget, asksFor, beq_iff_eq]
    constructor
    · split_ifs <;> omega
    · split_ifs <;> omega
  | notes turn jobs x stopReason _ =>
    exact ⟨(allowance_wroteBy (by simp [feedbackRecord])).le,
      (iterationsLeft_wroteBy (by simp [feedbackRecord])).le⟩
  | applies turn jobs x call row payload accounts holder _ =>
    exact ⟨(allowance_congr accounts.budget accounts.iterationCount).le,
      (SameAccounts.iterationsLeft accounts).le⟩
  | unmet turn jobs x call row payload accounts holder _ =>
    exact ⟨(allowance_congr accounts.budget accounts.iterationCount).le,
      (SameAccounts.iterationsLeft accounts).le⟩
  | rejects turn jobs x call _ =>
    exact ⟨(allowance_wroteBy (by simp [invalidRecord])).le,
      (iterationsLeft_wroteBy (by simp [invalidRecord])).le⟩
  | refuses turn jobs x request code text refused _ =>
    exact ⟨(allowance_wroteBy (by simp [refusedRecord])).le,
      (iterationsLeft_wroteBy (by simp [refusedRecord])).le⟩
  | answers turn jobs x request outcome _ =>
    exact ⟨(allowance_wroteBy (by simp [toolRecord])).le,
      (iterationsLeft_wroteBy (by simp [toolRecord])).le⟩

end

section
variable {e : EngineEnv} {id i : Uuid} {k : Nat} {engine : Engine} {w : Workshop}
  {x x' : Ledger × Phase} {event : RunEvent} {iteration : Nat}

theorem heard_le (memory : x.1.heldBy engine.owner → Remembers x.1 x.2) (replies : Replies) :
    (if asksModel x.2 && replies.model.isOk then 1 else 0) ≤ turnsLeft engine x := by
  obtain ⟨l, p⟩ := x
  cases p with
  | asking state n finalReason attempt x =>
    by_cases held : l.heldBy engine.owner
    · have before : n = l.row.iterationCount + 1 ∧
        l.row.iterationCount < l.row.budget.maxIterations := memory held
      simp only [turnsLeft, if_pos held, iterationsLeft]
      split_ifs <;> omega
    · simp only [turnsLeft, if_neg held]
      split_ifs <;> omega
  | _ => exact Nat.zero_le _

/-- With the lease a worker loses what was still to come. -/
theorem left_le_of_lost {l l' : Ledger} {p : Phase} (some_ : 1 ≤ engine.attempts)
    (carries : Carries engine i p) (memory : l.heldBy engine.owner → Remembers l p)
    (lost : ¬ l'.heldBy engine.owner) :
    asksLeft engine iteration (l', p) ≤ asksLeft engine iteration (l, p) ∧
      turnsLeft engine (l', p) ≤ turnsLeft engine (l, p) := by
  by_cases held : l.heldBy engine.owner
  · simp only [asksLeft, turnsLeft, if_pos held, if_neg lost]
    cases p with
    | noticed n finalReason x =>
      have before : n = l.row.iterationCount + 1 ∧
        l.row.iterationCount < l.row.budget.maxIterations := memory held
      simp only [allowance, iterationsLeft]
      constructor
      · split_ifs <;> omega
      · omega
    | asking state n finalReason attempt x =>
      have before : n = l.row.iterationCount + 1 ∧
        l.row.iterationCount < l.row.budget.maxIterations := memory held
      have tried : 1 ≤ attempt ∧ attempt ≤ engine.attempts := carries
      simp only [iterationsLeft]
      constructor
      · split_ifs <;> omega
      · omega
    | _ => exact ⟨Nat.zero_le _, Nat.zero_le _⟩
  · simp only [asksLeft, turnsLeft, if_neg held, if_neg lost]
    exact ⟨le_rfl, le_rfl⟩

theorem left_answered (engine : Engine) (iteration : Nat) (l : Ledger) (p : Phase)
    (outcome : ToolOutcome) :
    asksLeft engine iteration (l, p.answered outcome) = asksLeft engine iteration (l, p) ∧
      turnsLeft engine (l, p.answered outcome) = turnsLeft engine (l, p) := by
  unfold Phase.answered
  split
  · split_ifs <;> exact ⟨rfl, rfl⟩
  · exact ⟨rfl, rfl⟩

theorem left_ended (engine : Engine) (iteration : Nat) (l : Ledger) {p : Phase}
    (dead : p.live = false) :
    asksLeft engine iteration (l, p) = 0 ∧ turnsLeft engine (l, p) = 0 := by
  cases p with
  | ended status =>
    simp only [asksLeft, turnsLeft]
    split_ifs <;> exact ⟨rfl, rfl⟩
  | _ => cases dead

theorem asksAt_own (own : Own id i k engine w x) (now : Time) (replies : Replies) :
    asksAt k iteration w (.event (.work k now replies)) = asksFor iteration x.2 := by
  simp [asksAt, own.row]

theorem hearsAt_own (own : Own id i k engine w x) (now : Time) (replies : Replies) :
    hearsAt k w (.event (.work k now replies)) = (asksModel x.2 && replies.model.isOk) := by
  simp [hearsAt, own.row]

/-- At the others' events the worker asks nothing. -/
theorem silent_of_others (others : ∀ now replies, event ≠ .event (.work k now replies))
    (w : Workshop) (iteration : Nat) :
    asksAt k iteration w event = false ∧ hearsAt k w event = false := by
  unfold asksAt hearsAt
  split
  · rename_i j now replies
    have elsewhere : j ≠ k := fun same => others now replies (same ▸ rfl)
    simp [elsewhere]
  · exact ⟨rfl, rfl⟩

/-- Who has ended asks nothing. -/
theorem silent_of_dead (own : Own id i k engine w x) (dead : x.2.live = false)
    (event : RunEvent) (iteration : Nat) :
    asksAt k iteration w event = false ∧ hearsAt k w event = false := by
  by_cases others : ∀ now replies, event ≠ .event (.work k now replies)
  · exact silent_of_others others w iteration
  · simp only [ne_eq, not_forall, not_not] at others
    obtain ⟨now, replies, rfl⟩ := others
    rw [asksAt_own own, hearsAt_own own]
    cases ended : x.2 with
    | ended status => exact ⟨rfl, rfl⟩
    | _ =>
      rw [ended] at dead
      cases dead

/-- Every model call of a worker is among those that were still to come, and so is every
turn. -/
theorem OwnMove.pays (iteration : Nat) (some_ : 1 ≤ engine.attempts) (own : Own id i k engine w x)
    (move : OwnMove e id k engine event x x') :
    asksLeft engine iteration x' + (if asksAt k iteration w event then 1 else 0) ≤
        asksLeft engine iteration x ∧
      turnsLeft engine x' + (if hearsAt k w event then 1 else 0) ≤ turnsLeft engine x := by
  cases move with
  | gone _ l l' p dead grown =>
    obtain ⟨asks, hears⟩ := silent_of_dead own dead event iteration
    obtain ⟨asked, heard⟩ := left_ended engine iteration l' dead
    rw [asks, hears, asked, heard]
    exact ⟨Nat.zero_le _, Nat.zero_le _⟩
  | toolset outcome l p live =>
    have others : ∀ now replies, RunEvent.toolset k outcome ≠ .event (.work k now replies) := by
      intro now replies same
      cases same
    obtain ⟨asks, hears⟩ := silent_of_others others w iteration
    obtain ⟨asked, heard⟩ := left_answered engine iteration l p outcome
    rw [asks, hears, asked, heard]
    exact ⟨le_rfl, le_rfl⟩
  | waits _ l l' p live others grown lost =>
    obtain ⟨asks, hears⟩ := silent_of_others others w iteration
    rw [asks, hears]
    rcases lost with rfl | lost
    · exact ⟨le_rfl, le_rfl⟩
    · exact left_le_of_lost some_ (own.carries live) (own.memory live) lost
  | works now replies s l l' p p' live move raised returned =>
    rw [asksAt_own own, hearsAt_own own]
    cases goesOn : p'.live with
    | false =>
      obtain ⟨asks, turns⟩ := left_ended engine iteration l' goesOn
      rw [asks, turns, Nat.zero_add, Nat.zero_add]
      exact ⟨asked_le (own.carries live), heard_le (own.memory live) replies⟩
    | true =>
      by_cases held : l.heldBy engine.owner
      · exact DeskMove.pays move held (own.memory live held) (own.carries live) goesOn
      · exact DeskMove.pays_unnoticed move held goesOn

end

/-! ## The iterations -/

/-- The top of the loop. -/
def atLoop : Phase → Bool
  | .looping _ => true
  | _ => false

/-- An iteration has begun, and nothing may be recorded yet. -/
def unwritten : Phase → Bool
  | .loaded .. | .acting _ (_ :: _) _ | .answering .. | .ended _ => true
  | _ => false

section
variable {e : EngineEnv} {id i : Uuid} {k : Nat} {engine : Engine} {x x' : Ledger × Phase}
  {event : RunEvent} {n : Nat}

theorem OwnMove.grown (move : OwnMove e id k engine event x x') :
    x.1.steps.length ≤ x'.1.steps.length := by
  cases move with
  | gone _ l l' p dead grown => exact grown
  | works now replies s l l' p p' live move raised returned => exact move.steps_le
  | toolset outcome l p live => exact le_rfl
  | waits _ l l' p live others grown lost => exact grown

/-- From the top of the loop an iteration begins. -/
theorem OwnMove.begins (move : OwnMove e id k engine event x x') (top : atLoop x.2 = true) :
    atLoop x'.2 = true ∨ unwritten x'.2 = true := by
  cases move with
  | gone _ l l' p dead grown => exact .inl top
  | waits _ l l' p live others grown lost => exact .inl top
  | toolset outcome l p live =>
    cases p with
    | looping x => exact .inl rfl
    | _ => cases top
  | works now replies s l l' p p' live move raised returned =>
    cases move with
    | raises | closes | finds | loads | rests => exact .inr rfl
    | _ => cases top

theorem unwritten_answered {p : Phase} (fresh : unwritten p = true) (outcome : ToolOutcome) :
    unwritten (p.answered outcome) = true := by
  unfold Phase.answered
  split
  · split_ifs <;> rfl
  · exact fresh

/-- What follows records a step, or is still to. -/
theorem OwnMove.writes (move : OwnMove e id k engine event x x') (low : n ≤ x.1.steps.length)
    (fresh : n < x.1.steps.length ∨ unwritten x.2 = true) :
    n < x'.1.steps.length ∨ unwritten x'.2 = true := by
  rcases fresh with written | fresh
  · exact .inl (written.trans_le move.grown)
  · cases move with
    | gone _ l l' p dead grown => exact .inr fresh
    | waits _ l l' p live others grown lost => exact .inr fresh
    | toolset outcome l p live => exact .inr (unwritten_answered fresh outcome)
    | works now replies s l l' p p' live move raised returned =>
      have one (row : InvestigationRow) (step : InvestigationStepRow) :
          n < (Ledger.mk row (l.steps ++ [step])).steps.length := by
        have grown : n ≤ l.steps.length := low
        simp only [List.length_append, List.length_singleton]
        omega
      cases move with
      | raises | rests | closes | finds | executes => exact .inr rfl
      | takesUp state x last jobs left =>
        cases jobs with
        | nil => exact absurd rfl (outstanding_ne_nil left)
        | cons job jobs => exact .inr rfl
      | announces | notes | applies | unmet | rejects | refuses | answers => exact .inl (one _ _)
      | _ => cases fresh

end

/-! ## The run -/

def phaseAt (k : Nat) (w : Workshop) : Option Phase := (w.workers[k]?).map (·.phase)

def loopingAt (k : Nat) (w : Workshop) : Bool := (phaseAt k w).any atLoop

def traceLength (id : Uuid) (w : Workshop) : Nat := (stepsOf w.store id).length

/-- A run ends with a step: it returns a terminal status, which the investigation has then,
or raises because another worker has the lease. -/
inductive Finishes (id : Uuid) (k : Nat) (owner : String) (w w' : Workshop) : Prop
  | terminal (status : InvestigationStatus) (returned : phaseAt k w' = some (.ended (some status)))
      (final : status ∈ terminalInvestigationStatuses)
      (settled : (ledgerOf w'.store id).map (·.row.status) = some status)
  | leaseLost (raised : phaseAt k w' = some (.ended none))
      (lost : ∃ text, fenced w.store id owner = .error (.leaseLost text))

/-- A worker that is not crashed works again and again; the incident stays. -/
structure KeepsWorking (i : Uuid) (k : Nat) (schedule : ℕ → RunEvent) : Prop where
  permitted : ∀ n, Permitted i k (schedule n)
  works : ∀ n, ∃ m, n ≤ m ∧ ∃ now replies, schedule m = .event (.work k now replies)

/-- A run that started from this state ends: after finitely many steps, and with at most so
many turns and calls for each.  Every iteration of its loop adds to the trace. -/
structure EngineEnds (id : Uuid) (k : Nat) (engine : Engine) (row : InvestigationRow)
    (schedule : ℕ → RunEvent) (after : ℕ → Workshop) : Prop where
  finishes : ∃ n, Finishes id k engine.owner (after n) (after (n + 1))
  calls : ∀ iteration n, Nat.count (fun m => asksAt k iteration (after m) (schedule m) = true) n ≤
    if row.iterationCount < iteration ∧ iteration ≤ row.budget.maxIterations then engine.attempts
    else 0
  turns : ∀ n, Nat.count (fun m => hearsAt k (after m) (schedule m) = true) n ≤
    row.budget.maxIterations - row.iterationCount
  iterations : ∀ a b c, a < b → b < c → loopingAt k (after a) = true →
    loopingAt k (after b) = false → loopingAt k (after c) = true →
      traceLength id (after a) < traceLength id (after c)

section
variable {e : EngineEnv} {id i : Uuid} {k : Nat} {engine : Engine} {w w' : Workshop}
  {x x' : Ledger × Phase} {event : RunEvent}

theorem Own.phaseAt_eq (own : Own id i k engine w x) : phaseAt k w = some x.2 := by
  rw [phaseAt, own.row]
  rfl

theorem Own.loopingAt_eq (own : Own id i k engine w x) : loopingAt k w = atLoop x.2 := by
  rw [loopingAt, own.phaseAt_eq]
  rfl

theorem Own.traceLength_eq (own : Own id i k engine w x) :
    traceLength id w = x.1.steps.length := by
  rw [traceLength, (ledgerOf_eq_some.mp own.here).2]

/-- The step with which a worker ends. -/
theorem OwnMove.finishes (own : Own id i k engine w x) (own' : Own id i k engine w' x')
    (move : OwnMove e id k engine event x x') (live : x.2.live = true)
    (dead : x'.2.live = false) : Finishes id k engine.owner w w' := by
  cases move with
  | gone _ l l' p dead' grown =>
    rw [dead'] at live
    cases live
  | waits _ l l' p live' others grown lost =>
    rw [dead] at live'
    cases live'
  | toolset outcome l p live' =>
    rw [live_answered, live'] at dead
    cases dead
  | works now replies s l l' p p' live' move raised returned =>
    cases p' with
    | ended status =>
      cases status with
      | none => exact .leaseLost own'.phaseAt_eq (fenced_of_lost own.here (raised rfl))
      | some status =>
        obtain ⟨final, settled⟩ := returned status rfl
        refine .terminal status own'.phaseAt_eq final ?_
        rw [own'.here]
        exact congrArg some settled
    | _ => cases dead

/-- What one worker sees along a schedule, and makes of it. -/
structure OwnRun (e : EngineEnv) (id i : Uuid) (k : Nat) (engine : Engine)
    (schedule : ℕ → RunEvent) (after : ℕ → Workshop) (trace : ℕ → Ledger × Phase) : Prop where
  own : ∀ n, Own id i k engine (after n) (trace n)
  moves : ∀ n, OwnMove e id k engine (schedule n) (trace n) (trace (n + 1))

variable {schedule : ℕ → RunEvent} {after : ℕ → Workshop} {trace : ℕ → Ledger × Phase}

theorem exists_ownRun (own : Own id i k engine w x) (some_ : 1 ≤ engine.attempts)
    (permitted : ∀ n, Permitted i k (schedule n)) :
    ∃ trace, trace 0 = x ∧ OwnRun e id i k engine schedule
      (Machine.after (Workshop.runStep e id) w schedule) trace := by
  obtain ⟨trace, initial, owns, moves⟩ : ∃ trace : ℕ → Ledger × Phase, trace 0 = x ∧
      (∀ n, Own id i k engine (Machine.after (Workshop.runStep e id) w schedule n) (trace n)) ∧
        ∀ n, OwnMove e id k engine (schedule n) (trace n) (trace (n + 1)) :=
    Machine.exists_trace own fun n x own => own.step some_ (permitted n)
  exact ⟨trace, initial, owns, moves⟩

/-- The measure falls at each of the worker's steps, so there is a last one. -/
theorem OwnRun.finishes (run : OwnRun e id i k engine schedule after trace)
    (live : (trace 0).2.live = true)
    (works : ∀ n, ∃ m, n ≤ m ∧ ∃ now replies, schedule m = .event (.work k now replies)) :
    ∃ n, Finishes id k engine.owner (after n) (after (n + 1)) := by
  have start : ¬ (trace 0).2.live = false := by simp [live]
  have ends : ∃ n, (trace n).2.live = false := by
    refine Machine.exists_done (fun n => distance e engine (trace n)) ?_ ?_ works
    · intro n live
      exact (run.moves n).rests (run.own n) (Bool.eq_true_of_not_eq_false live)
    · rintro n live ⟨now, replies, works⟩
      have move := run.moves n
      rw [works] at move
      exact move.falls (run.own n) (Bool.eq_true_of_not_eq_false live)
  obtain ⟨n, live, dead⟩ := Machine.exists_last_undone start ends
  exact ⟨n, (run.moves n).finishes (run.own n) (run.own (n + 1))
    (Bool.eq_true_of_not_eq_false live) dead⟩

theorem OwnRun.calls (run : OwnRun e id i k engine schedule after trace)
    (some_ : 1 ≤ engine.attempts) (iteration n : ℕ) :
    Nat.count (fun m => asksAt k iteration (after m) (schedule m) = true) n ≤
      asksLeft engine iteration (trace 0) := by
  have paid : Nat.count (fun m => asksAt k iteration (after m) (schedule m) = true) n +
      asksLeft engine iteration (trace n) ≤ asksLeft engine iteration (trace 0) :=
    Machine.count_add_le (fun m => asksLeft engine iteration (trace m))
      (fun m => ((run.moves m).pays iteration some_ (run.own m)).1) n
  omega

theorem OwnRun.turns (run : OwnRun e id i k engine schedule after trace)
    (some_ : 1 ≤ engine.attempts) (n : ℕ) :
    Nat.count (fun m => hearsAt k (after m) (schedule m) = true) n ≤
      turnsLeft engine (trace 0) := by
  have paid : Nat.count (fun m => hearsAt k (after m) (schedule m) = true) n +
      turnsLeft engine (trace n) ≤ turnsLeft engine (trace 0) :=
    Machine.count_add_le (fun m => turnsLeft engine (trace m))
      (fun m => ((run.moves m).pays 0 some_ (run.own m)).2) n
  omega

theorem OwnRun.grown (run : OwnRun e id i k engine schedule after trace) :
    Monotone fun n => (trace n).1.steps.length :=
  monotone_nat_of_le_succ fun n => (run.moves n).grown

/-- Between two times at the top of the loop a step is recorded. -/
theorem OwnRun.iterations (run : OwnRun e id i k engine schedule after trace) {a b c : ℕ}
    (first : a < b) (second : b < c) (top : atLoop (trace a).2 = true)
    (away : atLoop (trace b).2 = false) (back : atLoop (trace c).2 = true) :
    (trace a).1.steps.length < (trace c).1.steps.length := by
  have begins : ∀ n, a ≤ n → atLoop (trace n).2 = true ∨
      (trace a).1.steps.length < (trace n).1.steps.length ∨ unwritten (trace n).2 = true := by
    intro n later
    induction n, later using Nat.le_induction with
    | base => exact .inl top
    | succ n later ih =>
      rcases ih with still | begun
      · exact ((run.moves n).begins still).imp_right .inr
      · exact .inr ((run.moves n).writes (run.grown later) begun)
  have goesOn : ∀ n, b ≤ n → (trace a).1.steps.length < (trace n).1.steps.length ∨
      unwritten (trace n).2 = true := by
    intro n later
    induction n, later using Nat.le_induction with
    | base => exact (begins b first.le).resolve_left (by simp [away])
    | succ n later ih => exact (run.moves n).writes (run.grown (first.le.trans later)) ih
  refine (goesOn c second.le).resolve_right fun fresh => ?_
  cases phase : (trace c).2 with
  | looping x =>
    rw [phase] at fresh
    cases fresh
  | _ =>
    rw [phase] at back
    cases back

end

/-! ## A run after a crash -/

/-- A worker has crashed between a call of a tool and the record of its answer. -/
def interruptedWorkshop : Workshop :=
  workshopFrom deskEnv 0 (paymentsRequested {})
    (workerClaims "worker" :: workerDoes 0 8 [callOfTool "c1" "get_logs"] ++ [.crash 0])

/-- The worker's model asks for logs in every turn. -/
def asksForLogs : ℕ → RunEvent :=
  fun _ => .event (.work interruptedWorkshop.workers.length 300000001
    (repliesOf [callOfTool "c1" "get_logs"]))

end IncidentTriage.Verified
