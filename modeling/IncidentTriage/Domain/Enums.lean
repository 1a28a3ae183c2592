import IncidentTriage.Python.Json

/-! # Shared enumerations and errors

The statuses the services share, with the text each is stored under
(`value`), and the errors a command can raise, with the text they carry.
-/

namespace IncidentTriage.Domain

universe u v

inductive AlertSource where
  | prometheus | pagerduty | generic
  deriving DecidableEq, Repr

def AlertSource.value : AlertSource → String
  | .prometheus => "prometheus"
  | .pagerduty => "pagerduty"
  | .generic => "generic"

inductive AlertSeverity where
  | critical | warning | info
  deriving DecidableEq, Repr

def AlertSeverity.value : AlertSeverity → String
  | .critical => "critical"
  | .warning => "warning"
  | .info => "info"

inductive AlertStatus where
  | firing | resolved
  deriving DecidableEq, Repr

def AlertStatus.value : AlertStatus → String
  | .firing => "firing"
  | .resolved => "resolved"

inductive IncidentStatus where
  | triaging | investigating | rcaReady | awaitingApproval | remediationInProgress
  | verifying | verificationFailed | resolved | escalated | suppressed | cancelled | closed
  deriving DecidableEq, Repr

def IncidentStatus.value : IncidentStatus → String
  | .triaging => "TRIAGING"
  | .investigating => "INVESTIGATING"
  | .rcaReady => "RCA_READY"
  | .awaitingApproval => "AWAITING_APPROVAL"
  | .remediationInProgress => "REMEDIATION_IN_PROGRESS"
  | .verifying => "VERIFYING"
  | .verificationFailed => "VERIFICATION_FAILED"
  | .resolved => "RESOLVED"
  | .escalated => "ESCALATED"
  | .suppressed => "SUPPRESSED"
  | .cancelled => "CANCELLED"
  | .closed => "CLOSED"

/-- Statuses that are not eligible to receive a newly correlated alert. -/
def closedIncidentStatuses : List IncidentStatus :=
  [.closed, .cancelled, .suppressed, .resolved]

/-! ## Errors -/

/-- What a command raises, with the text of the exception. -/
inductive DomainError where
  | incidentNotFound (text : String)
  | evidenceRefConflict (text : String)
  | concurrentModification (text : String)
  | invalidIncidentTransition (text : String)
  | investigationNotFound (text : String)
  | leaseLost (text : String)
  | remediationNotFound (text : String)
  | remediationState (text : String)
  | approvalMismatch (text : String)
  | approverNotAuthorized (text : String)
  /-- A value a pydantic model refuses. -/
  | validation (text : String)
  /-- `ValueError` and `TypeError` raised by the commands themselves. -/
  | value (text : String)
  | assertion
  /-- A unique constraint of the database refuses the transaction. -/
  | integrity (constraint : String)
  deriving DecidableEq, Repr

/-- A guard of a command: raise `error` unless `condition` holds. -/
def ensure (condition : Prop) [Decidable condition] (error : DomainError) :
    Except DomainError Unit :=
  if condition then .ok () else .error error

@[simp] theorem ensure_eq_ok {condition : Prop} [Decidable condition] {error : DomainError}
    {u : Unit} : ensure condition error = .ok u ↔ condition := by
  unfold ensure
  split <;> simp_all

/-- The row a lookup found, or the error its absence raises. -/
def found {α : Type*} (row : Option α) (error : DomainError) : Except DomainError α :=
  match row with
  | some row => .ok row
  | none => .error error

@[simp] theorem found_eq_ok {α : Type*} {row : Option α} {error : DomainError} {r : α} :
    found row error = .ok r ↔ row = some r := by
  cases row <;> simp [found]

@[simp] theorem bind_eq_ok {α β : Type u} {ε : Type v} {x : Except ε α} {f : α → Except ε β} {b : β} :
    (x >>= f) = .ok b ↔ ∃ a, x = .ok a ∧ f a = .ok b := by
  cases x <;> simp [bind, Except.bind]

@[simp] theorem pure_eq_ok {α ε : Type*} {a b : α} :
    (pure a : Except ε α) = .ok b ↔ a = b := by
  simp [pure, Except.pure]

@[simp] theorem throw_ne_ok {α ε : Type*} {e : ε} {b : α} :
    (throw e : Except ε α) = .ok b ↔ False := by
  simp [throw, throwThe, MonadExceptOf.throw]

end IncidentTriage.Domain
