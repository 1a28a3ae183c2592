import IncidentTriage.Agents.Engine
import IncidentTriage.Library.Runs

/-! # The workers of an investigation

Workers claim one investigation, work on it from command to command, and crash.  A worker
is named by the owner its engine presents: while one is alive no other takes its name.
Everything else that happens to the store, happens elsewhere.
-/

namespace IncidentTriage.Agents

open IncidentTriage.Python IncidentTriage.Domain IncidentTriage.Incident IncidentTriage.Tools

structure Worker where
  engine : Engine
  phase : Phase

def Phase.live : Phase → Bool
  | .ended _ => false
  | _ => true

/-- An investigation's store, and the workers that have claimed it. -/
structure Workshop where
  store : Store
  workers : List Worker

inductive WorkEvent where
  | claim (now : Time) (engine : Engine)
  | work (worker : Nat) (now : Time) (replies : Replies)
  | crash (worker : Nat)
  /-- The other services may do anything but write investigations and their steps. -/
  | elsewhere (store : Store)

def keepingInvestigations (s s' : Store) : Store :=
  { s' with investigation := { s'.investigation with
      investigations := s.investigation.investigations
      steps := s.investigation.steps } }

def Workshop.working (w : Workshop) (owner : String) : Bool :=
  w.workers.any (fun worker => worker.phase.live && worker.engine.owner == owner)

def Workshop.step (e : EngineEnv) (id : Uuid) (w : Workshop) : WorkEvent → Workshop
  | .claim now engine =>
    if w.working engine.owner then w
    else
      match claim now w.store id engine.owner engine.leaseSeconds with
      | .error _ => w
      | .ok (none, s) => { w with store := s }
      | .ok (some state, s) =>
        { store := s, workers := w.workers ++ [{ engine, phase := .claimed state }] }
  | .work k now replies =>
    match w.workers[k]? with
    | none => w
    | some worker =>
      let (s, phase) := Desk.work e { id, engine := worker.engine } now replies w.store
        worker.phase
      { store := s, workers := w.workers.set k { worker with phase } }
  | .crash k =>
    match w.workers[k]? with
    | none => w
    | some worker =>
      { w with workers := w.workers.set k { worker with phase := .ended none } }
  | .elsewhere s => { w with store := keepingInvestigations w.store s }

def workshopFrom (e : EngineEnv) (id : Uuid) (s : Store) (events : List WorkEvent) : Workshop :=
  Machine.run (Workshop.step e id) { store := s, workers := [] } events

/-! ## Toolsets -/

/-- The toolset that an engine was given instead answers the tool request that comes next. -/
def Phase.answered (outcome : ToolOutcome) : Phase → Phase
  | .acting turn (.request request :: jobs) toolset =>
    if turn.refusal request = none then .answering turn request outcome jobs toolset
    else .acting turn (.request request :: jobs) toolset
  | p => p

/-- An event of the workshop, or the outcome that the toolset of a worker returns. -/
inductive RunEvent where
  | event (event : WorkEvent)
  | toolset (worker : Nat) (outcome : ToolOutcome)

def Workshop.runStep (e : EngineEnv) (id : Uuid) (w : Workshop) : RunEvent → Workshop
  | .event event => w.step e id event
  | .toolset k outcome =>
    match w.workers[k]? with
    | none => w
    | some worker =>
      { w with workers := w.workers.set k { worker with phase := worker.phase.answered outcome } }

end IncidentTriage.Agents
