import Mathlib.Data.List.Induction
import Mathlib.Logic.Relation

/-! # Runs of an event-driven machine

A machine answers every event with a next state: `step : σ → ε → σ`.  A run
feeds a finite list of events to it.  The rules below turn what one step
preserves into what a run preserves: a plain invariant, an invariant that also
knows the events seen so far, and an invariant of the runs whose every step
meets a condition on the state it starts in.
-/

namespace IncidentTriage.Machine

variable {σ ε : Type*} {step : σ → ε → σ} {start : σ}

/-- The state after a finite list of events. -/
def run (step : σ → ε → σ) (start : σ) (events : List ε) : σ :=
  events.foldl step start

@[simp] theorem run_nil : run step start [] = start := rfl

@[simp] theorem run_cons (e : ε) (events : List ε) :
    run step start (e :: events) = run step (step start e) events := rfl

theorem run_append (events more : List ε) :
    run step start (events ++ more) = run step (run step start events) more := by
  simp [run]

@[simp] theorem run_concat (events : List ε) (e : ε) :
    run step start (events ++ [e]) = step (run step start events) e := by
  simp [run]

/-- What holds at the start and survives each step holds after every run; the
property may mention the events seen so far. -/
theorem invariant {P : List ε → σ → Prop} (initial : P [] start)
    (preserved : ∀ events e, P events (run step start events) →
      P (events ++ [e]) (step (run step start events) e)) (events : List ε) :
    P events (run step start events) := by
  induction events using List.reverseRecOn with
  | nil => exact initial
  | append_singleton events e ih =>
    rw [run_concat]
    exact preserved events e ih

theorem state_invariant {P : σ → Prop} (initial : P start)
    (preserved : ∀ s e, P s → P (step s e)) (events : List ε) :
    P (run step start events) :=
  invariant (P := fun _ s => P s) initial (fun _ e holds => preserved _ e holds) events

/-! ## Runs whose steps meet a condition -/

/-- Every step of the run starts in a state that meets `cond` for its event. -/
def StepsMeet (cond : σ → ε → Prop) (step : σ → ε → σ) : σ → List ε → Prop
  | _, [] => True
  | s, e :: events => cond s e ∧ StepsMeet cond step (step s e) events

theorem stepsMeet_append {cond : σ → ε → Prop} (events more : List ε) :
    StepsMeet cond step start (events ++ more) ↔
      StepsMeet cond step start events ∧
        StepsMeet cond step (run step start events) more := by
  induction events generalizing start with
  | nil => simp [StepsMeet]
  | cons e events ih => simp [StepsMeet, ih, and_assoc]

theorem stepsMeet_concat {cond : σ → ε → Prop} {events : List ε} {e : ε} :
    StepsMeet cond step start (events ++ [e]) ↔
      StepsMeet cond step start events ∧ cond (run step start events) e := by
  simp [stepsMeet_append, StepsMeet]

/-- Every step of a run meets `cond` if every event does in the state before it. -/
theorem stepsMeet_iff {cond : σ → ε → Prop} {events : List ε} :
    StepsMeet cond step start events ↔
      ∀ earlier e later, events = earlier ++ e :: later → cond (run step start earlier) e := by
  constructor
  · rintro met earlier e later rfl
    exact ((stepsMeet_append earlier (e :: later)).mp met).2.1
  · intro each
    induction events using List.reverseRecOn with
    | nil => trivial
    | append_singleton events e ih =>
      refine stepsMeet_concat.mpr ⟨ih fun earlier e' later split => ?_, each events e [] rfl⟩
      exact each earlier e' (later ++ [e]) (by simp [split])

/-- The invariant rule for the runs whose every step meets `cond`. -/
theorem invariant_of_stepsMeet {cond : σ → ε → Prop} {P : σ → Prop} (initial : P start)
    (preserved : ∀ s e, cond s e → P s → P (step s e)) {events : List ε}
    (met : StepsMeet cond step start events) : P (run step start events) := by
  induction events using List.reverseRecOn with
  | nil => exact initial
  | append_singleton events e ih =>
    obtain ⟨before, here⟩ := stepsMeet_concat.mp met
    rw [run_concat]
    exact preserved _ _ here (ih before)

instance decidableStepsMeet {cond : σ → ε → Prop} [∀ s e, Decidable (cond s e)]
    (step : σ → ε → σ) : (s : σ) → (events : List ε) →
      Decidable (StepsMeet cond step s events)
  | _, [] => isTrue trivial
  | s, e :: events =>
    have : Decidable (StepsMeet cond step (step s e) events) :=
      decidableStepsMeet step (step s e) events
    inferInstanceAs (Decidable (_ ∧ _))

/-! ## Changes along a run -/

/-- A property that is false at the start and true after the run was made true
by some step of it. -/
theorem exists_step_of_change {P : σ → Prop} (before : ¬ P start) {events : List ε}
    (after : P (run step start events)) :
    ∃ earlier e later, events = earlier ++ e :: later ∧
      ¬ P (run step start earlier) ∧ P (step (run step start earlier) e) := by
  induction events using List.reverseRecOn with
  | nil => exact absurd after before
  | append_singleton events e ih =>
    by_cases held : P (run step start events)
    · obtain ⟨earlier, e', later, split, unset, set⟩ := ih held
      exact ⟨earlier, e', later ++ [e], by simp [split], unset, set⟩
    · rw [run_concat] at after
      exact ⟨events, e, [], rfl, held, after⟩

/-- How many steps of a run make `p` true. -/
def rises (p : σ → Bool) (step : σ → ε → σ) : σ → List ε → Nat
  | _, [] => 0
  | s, e :: events => (!p s && p (step s e)).toNat + rises p step (step s e) events

theorem rises_concat (p : σ → Bool) (events : List ε) (e : ε) :
    rises p step start (events ++ [e]) = rises p step start events +
      (!p (run step start events) && p (step (run step start events) e)).toNat := by
  induction events generalizing start with
  | nil => simp [rises]
  | cons first events ih =>
    simp only [List.cons_append, rises, run_cons]
    rw [ih]
    omega

/-- What stays true once it is true becomes true once at most. -/
theorem rises_of_stable {p : σ → Bool} (before : p start = false)
    (stable : ∀ events e, p (run step start events) = true →
      p (step (run step start events) e) = true) (events : List ε) :
    rises p step start events = (p (run step start events)).toNat := by
  induction events using List.reverseRecOn with
  | nil => simp [rises, before]
  | append_singleton events e ih =>
    rw [rises_concat, run_concat, ih]
    cases held : p (run step start events) with
    | true => simp [stable events e held]
    | false => simp

/-! ## Steps made of several transactions -/

/-- What every transaction preserves, a sequence of transactions preserves. -/
theorem preserved_of_path {r : σ → σ → Prop} {P : σ → Prop}
    (preserved : ∀ {s s'}, r s s' → P s → P s') {s s' : σ}
    (path : Relation.ReflTransGen r s s') (holds : P s) : P s' := by
  induction path with
  | refl => exact holds
  | tail _ last ih => exact preserved last ih

/-! ## Refinement -/

/-- A machine refines another one if its every step is followed by a run of the other, from
related states to related states. -/
theorem exists_run_of_refines {τ δ : Type*} {other : τ → δ → τ} {origin : τ} {R : σ → τ → Prop}
    (initial : R start origin)
    (followed : ∀ s t e, R s t → ∃ steps, R (step s e) (run other t steps)) (events : List ε) :
    ∃ steps, R (run step start events) (run other origin steps) := by
  induction events using List.reverseRecOn with
  | nil => exact ⟨[], initial⟩
  | append_singleton events e ih =>
    obtain ⟨earlier, related⟩ := ih
    obtain ⟨steps, after⟩ := followed _ _ e related
    rw [run_concat]
    exact ⟨earlier ++ steps, by rwa [run_append]⟩

end IncidentTriage.Machine
