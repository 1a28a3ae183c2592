import IncidentTriage.Library.Locks
import IncidentTriage.Python.Json

/-! # Row locks

What every command locks in the database, in the order in which its statements ask for it:
the rows of one incident and the advisory lock of its correlation.  A command carries what it
finds in the store where that decides which rows it locks.  A row that a transaction has
inserted itself is seen by nobody else, and a lock that it holds is not asked for again in a
weaker mode.
-/

namespace IncidentTriage.Incident

open IncidentTriage.Python

/-- `FOR KEY SHARE` (taken on the row that a foreign key refers to), `FOR NO KEY UPDATE`
(taken by an `UPDATE`) and `FOR UPDATE`. -/
inductive LockMode where
  | keyShare
  | noKeyUpdate
  | update
  deriving DecidableEq, Repr

/-- The conflict table of the database. -/
def LockMode.conflicts : LockMode → LockMode → Bool
  | .update, _ => true
  | _, .update => true
  | .noKeyUpdate, .noKeyUpdate => true
  | _, _ => false

inductive Row where
  /-- The advisory lock of `_advisory_lock_key(service, environment)`. -/
  | correlation (key : Int)
  | remediation (id : Uuid)
  /-- Executions are unique by remediation and attempt number. -/
  | execution (remediationId : Uuid) (attempt : Nat)
  | incident
  | verification (id : Uuid)
  | investigation (id : Uuid)
  deriving DecidableEq, Repr

structure RowLock where
  row : Row
  mode : LockMode
  deriving DecidableEq, Repr

def RowLock.Clashes (a b : RowLock) : Prop :=
  a.row = b.row ∧ a.mode.conflicts b.mode = true

instance (a b : RowLock) : Decidable (a.Clashes b) :=
  inferInstanceAs (Decidable (_ ∧ _))

/-- `with_for_update`, and `pg_advisory_xact_lock`. -/
def forUpdate (row : Row) : RowLock := ⟨row, .update⟩

/-- An `UPDATE` of columns no foreign key refers to. -/
def updated (row : Row) : RowLock := ⟨row, .noKeyUpdate⟩

/-- The insertion of a row that refers to this one. -/
def referred (row : Row) : RowLock := ⟨row, .keyShare⟩

/-- What `_process_alert_received` comes to for the incident. -/
inductive AlertOutcome where
  /-- The alert was known, or a resolution of an alert that never fired. -/
  | unlinked
  /-- `get_or_create_open_incident` found or made the incident, and the alert refers to it. -/
  | opened
  /-- `CORRELATE`: `touch_incident_updated_at`. -/
  | correlated
  /-- A resolution, which may cancel the incident. -/
  | resolved
  deriving DecidableEq, Repr

inductive LockingCommand where
  | alertReceived (key : Int) (outcome : AlertOutcome)
  | registerEvidenceRef (investigationId : Option Uuid)
  | requestInvestigation
  | claim (id : Uuid)
  | release (id : Uuid)
  | recordStep (id : Uuid)
  | applyHypothesisUpdates (id : Uuid)
  | complete (id : Uuid)
  | escalate (id : Uuid)
  | propose (investigationId : Option Uuid)
  | decideApproval (id : Uuid)
  /-- The remediations past the timeout. -/
  | expireApprovals (ids : List Uuid)
  | cancel (id : Uuid)
  | revise (id : Uuid) (investigationId : Option Uuid)
  /-- `_latest_execution` finds the attempt `latest`. -/
  | claimExecution (id : Uuid) (latest : Option Nat)
  | completeExecution (id : Uuid) (attempt : Nat)
  | recordBaseline (id : Uuid)
  | setKillSwitch
  | startVerification (id : Uuid)
  | claimDue (id : Uuid)
  | recordObservation (id : Uuid)
  deriving DecidableEq, Repr

/-- `propose`: the incident, then the row that the proposal's investigation refers to. -/
def proposeLocks (investigationId : Option Uuid) : List RowLock :=
  forUpdate .incident :: investigationId.toList.map fun id => referred (.investigation id)

/-- `_lock`, then `_lock_incident`. -/
def remediationLocks (id : Uuid) : List RowLock :=
  [forUpdate (.remediation id), forUpdate .incident]

def claimExecutionLocks (id : Uuid) (latest : Option Nat) : List RowLock :=
  forUpdate (.remediation id) ::
    (latest.toList.map fun attempt => forUpdate (.execution id attempt)) ++ [forUpdate .incident]

def completeExecutionLocks (id : Uuid) (attempt : Nat) : List RowLock :=
  [forUpdate (.execution id attempt), forUpdate (.remediation id), forUpdate .incident]

/-- The verification, then the incident in `_finalize`. -/
def verificationLocks (id : Uuid) : List RowLock :=
  [forUpdate (.verification id), forUpdate .incident]

/-- The locks of the transactions a command runs one after the other.  `UPDATE` statements
and foreign keys count: `complete` inserts the RCA report, which refers to the incident, and
moves the incident without having locked it. -/
def LockingCommand.plan : LockingCommand → List (List RowLock)
  | .alertReceived key .unlinked => [[forUpdate (.correlation key)]]
  | .alertReceived key .opened => [[forUpdate (.correlation key), referred .incident]]
  | .alertReceived key .correlated => [[forUpdate (.correlation key), updated .incident]]
  | .alertReceived key .resolved => [[forUpdate (.correlation key), updated .incident]]
  | .registerEvidenceRef investigationId =>
    [referred .incident :: investigationId.toList.map fun id => referred (.investigation id)]
  | .requestInvestigation => [[forUpdate .incident]]
  | .claim id => [[forUpdate (.investigation id)]]
  | .release id => [[forUpdate (.investigation id)]]
  | .recordStep id => [[forUpdate (.investigation id)]]
  | .applyHypothesisUpdates id => [[forUpdate (.investigation id)]]
  | .complete id => [[forUpdate (.investigation id), referred .incident, updated .incident]]
  | .escalate id => [[forUpdate (.investigation id), updated .incident]]
  | .propose investigationId => [proposeLocks investigationId]
  | .decideApproval id => [remediationLocks id]
  | .expireApprovals ids => ids.map remediationLocks
  | .cancel id => [remediationLocks id]
  | .revise id investigationId => [remediationLocks id, proposeLocks investigationId]
  | .claimExecution id latest => [claimExecutionLocks id latest]
  | .completeExecution id attempt => [completeExecutionLocks id attempt]
  | .recordBaseline id => [[forUpdate (.remediation id)]]
  | .setKillSwitch => [[]]
  | .startVerification id => [[forUpdate (.verification id)]]
  | .claimDue id => [verificationLocks id]
  | .recordObservation id => [verificationLocks id]

/-- The command inserts a remediation that refers to the investigation. -/
def LockingCommand.ProposesFor (investigationId : Uuid) (command : LockingCommand) : Prop :=
  command = .propose (some investigationId) ∨ ∃ id, command = .revise id (some investigationId)

/-- The command ends the investigation and moves its incident. -/
def LockingCommand.Concludes (investigationId : Uuid) (command : LockingCommand) : Prop :=
  command = .complete investigationId ∨ command = .escalate investigationId

end IncidentTriage.Incident
