import IncidentTriage.Incident.System
import IncidentTriage.Remediation.Executor

/-! # The remediation runner

A runner drives the attempts of one remediation: it claims an attempt, has the baseline
captured, calls the executor and records the outcome.  Each of these is a transaction or a
call of its own: between two of them anything may happen elsewhere, and the runner may
crash.
-/

namespace IncidentTriage.Remediation

open IncidentTriage.Python IncidentTriage.Domain IncidentTriage.Incident

/-- A loop guard, not a policy. -/
def maxClaims : Nat := 10

/-! ## The baseline collector -/

/-- `model_dump(mode="json", exclude={"errors", "new_firing_alerts"})`. -/
def sampleValues (sample : Sample) : Dict :=
  let field := fun value => (Option.map Json.object value).getD .null
  [("health", field sample.health), ("deployment", field sample.deployment),
    ("config", field sample.config), ("runtime", field sample.runtime)]

/-- What the collector still has to observe, if anything: no baseline is required, or the one
that was captured before an earlier attempt is the true "before". -/
def collectorNeeds (s : Store) (ticket : ExecutionTicket) :
    Except DomainError (Option (List String)) :=
  match getEntry ticket.remediation.row.actionId with
  | none => .ok none
  | some entry =>
    if entry.verification.baselineRequired = false then .ok none
    else if (baselineOf s ticket.remediation.id).isSome then .ok none
    else do
      let spec ← buildSpec entry.verification ticket.remediation.row.actionId
        ticket.remediation.row.parameters none 1
      pure (some (if ticket.remediation.row.actionId = "scale_service" then
        spec.needs ++ ["runtime"] else spec.needs))

/-! ## What is recorded of an attempt -/

/-- The arguments of `complete_execution`. -/
structure Report where
  outcome : AttemptOutcome
  executor : String
  result : Option Dict := none
  error : Option String := none
  retryable : Bool

/-- What a call of the executor comes to. -/
inductive Answer where
  | returned (result : ExecutorResult)
  /-- No result before the deadline. -/
  | late (kind : String)
  /-- An executor bug or a transport error: the outcome is unknown. -/
  | raised (text : String)

def ExecutorResult.report (executor : String) (reconciled : Bool) (r : ExecutorResult) : Report :=
  { outcome := if r.succeeded then .succeeded else .failed
    executor
    result := some (if reconciled then dictSet r.detail "reconciled" (.bool true) else r.detail)
    error := r.error
    retryable := r.retryable }

def Answer.report (executor : String) : Answer → Report
  | .returned r => r.report executor false
  | .late kind =>
    { outcome := .timedOut
      executor
      error := some ("no result before the deadline (" ++ kind ++ ")")
      retryable := true }
  | .raised text => { outcome := .failed, executor, error := some text, retryable := true }

/-- The executor has no record of the attempt. -/
def notApplied : ExecutorResult :=
  { succeeded := false
    error := some "no executor record after the previous worker was lost; not applied"
    retryable := true }

/-- The verification policy needs a "before" and there is none: nothing is executed. -/
def baselineUnavailable : Report :=
  { outcome := .failed
    executor := "none"
    error := some "pre-remediation baseline unavailable; action not executed"
    retryable := true }

/-! ## One runner -/

/-- What the runner does next. -/
inductive RunnerPhase where
  | claiming
  /-- The previous worker died mid-call: ask the executor what happened. -/
  | inspecting (ticket : ExecutionTicket)
  | collecting (ticket : ExecutionTicket)
  | observing (ticket : ExecutionTicket) (needs : List String)
  | capturing (ticket : ExecutionTicket) (sample : Sample) (evidenceIds : List Uuid)
  | acting (ticket : ExecutionTicket)
  | completing (ticket : ExecutionTicket) (report : Report)
  | stopped

structure Runner where
  id : Uuid
  owner : String
  leaseSeconds : Int := 120
  /-- The claims that are left. -/
  claims : Nat := maxClaims
  phase : RunnerPhase := .claiming

/-- What the outside answers to the runner's next step, where it asks. -/
structure Reply where
  known : Option ExecutorResult := none
  sample : Sample := {}
  evidenceIds : List Uuid := []
  answer : Answer := .late "TimeoutError"

def Runner.stop (r : Runner) : Runner := { r with phase := .stopped }

/-- The attempt the executor is called for in the runner's next step. -/
def Runner.executes (r : Runner) : Option ExecutionTicket :=
  match r.phase with
  | .acting ticket => some ticket
  | _ => none

/-- The runner's next step.  What raises ends the run. -/
def Runner.work (env : Env) (executor : String) (now : Time) (reply : Reply) (s : Store)
    (r : Runner) : Runner × Store :=
  match r.phase with
  | .claiming =>
    match r.claims with
    | 0 => (r.stop, s)
    | claims + 1 =>
      match claimExecution env now s r.id r.owner r.leaseSeconds with
      | .error _ => (r.stop, s)
      | .ok (none, s') => (r.stop, s')
      | .ok (some ticket, s') =>
        let phase := match ticket.mode with
          | .reconcile => .inspecting ticket
          | .execute => .collecting ticket
        ({ r with claims, phase }, s')
  | .inspecting ticket =>
    let known := reply.known.getD notApplied
    ({ r with phase := .completing ticket (known.report executor true) }, s)
  | .collecting ticket =>
    match collectorNeeds s ticket with
    | .error _ => (r.stop, s)
    | .ok none => ({ r with phase := .acting ticket }, s)
    | .ok (some needs) => ({ r with phase := .observing ticket needs }, s)
  | .observing ticket _ =>
    if reply.sample.errors = [] then
      ({ r with phase := .capturing ticket reply.sample reply.evidenceIds }, s)
    else ({ r with phase := .completing ticket baselineUnavailable }, s)
  | .capturing ticket sample evidenceIds =>
    match recordBaseline now s ticket.remediation.id r.owner (sampleValues sample) evidenceIds with
    | .error _ => (r.stop, s)
    | .ok (_, s') => ({ r with phase := .acting ticket }, s')
  | .acting ticket => ({ r with phase := .completing ticket (reply.answer.report executor) }, s)
  | .completing ticket report =>
    match completeExecution env now s ticket.executionId r.owner report.outcome report.executor
        report.result report.error report.retryable with
    | .error _ => (r.stop, s)
    | .ok (view, s') =>
      if view.row.status = .executing then ({ r with phase := .claiming }, s') else (r.stop, s')
  | .stopped => (r, s)

/-! ## Any number of runners -/

/-- The system, its runners, and the attempts the executor was called for. -/
structure Plant where
  world : World
  runners : List Runner := []
  executed : List ExecutionTicket := []

inductive PlantEvent where
  | launch (id : Uuid) (owner : String) (leaseSeconds : Int)
  /-- A runner does its next step, some time after the previous event. -/
  | work (runner : Nat) (elapsed : Nat) (reply : Reply)
  | crash (runner : Nat)
  | elsewhere (event : Event)

/-- Only runners record what became of an attempt. -/
def settlesAttempt : Command → Bool
  | .completeExecution .. => true
  | _ => false

/-- The executor was called for the attempt: the remediation and the number of the attempt are
what its idempotency key prints. -/
def Plant.wasCalled (p : Plant) (ticket : ExecutionTicket) : Bool :=
  p.executed.any fun t => t.remediation.id == ticket.remediation.id && t.attempt == ticket.attempt

/-- The executor knows an attempt only if it was called for it. -/
def Plant.heard (p : Plant) (r : Runner) (reply : Reply) : Reply :=
  match r.phase with
  | .inspecting ticket => if p.wasCalled ticket then reply else { reply with known := none }
  | _ => reply

def Plant.step (env : Env) (executor : String) (p : Plant) : PlantEvent → Plant
  | .launch id owner leaseSeconds =>
    { p with runners := p.runners ++ [{ id, owner, leaseSeconds }] }
  | .work k elapsed reply =>
    match p.runners[k]? with
    | none => p
    | some r =>
      let now := p.world.clock + elapsed
      let (r', s) := r.work env executor now (p.heard r reply) p.world.store
      { world := { p.world with store := s, clock := now }
        runners := p.runners.set k r'
        executed := p.executed ++ r.executes.toList }
  | .crash k => { p with runners := p.runners.modify k Runner.stop }
  | .elsewhere event =>
    if settlesAttempt event.command then p
    else { p with world := Incident.step env p.world event }

def plantFrom (env : Env) (executor : String) (clock : Time) (events : List PlantEvent) : Plant :=
  Machine.run (Plant.step env executor) { world := emptyWorld clock } events

end IncidentTriage.Remediation
