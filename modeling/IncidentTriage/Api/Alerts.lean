import IncidentTriage.Domain.Idempotency
import IncidentTriage.Incident.Service

/-! # Alert ingestion

`acceptAlert` is what both routes share: it validates a notification, derives its
idempotency key, and hands the command to incident-core.
-/

namespace IncidentTriage.Api

open IncidentTriage.Python IncidentTriage.Domain IncidentTriage.Incident

/-- A field of `AlertReceivedCommand` that its validation refuses. -/
inductive FieldError where
  | idempotencyKey
  | labels (missing : List String)
  | severity (given : String)
  deriving DecidableEq, Repr

inductive HttpException where
  /-- 422: `unrecognized alert status`. -/
  | unrecognizedStatus (detail : String)
  /-- 422: the command's own validation. -/
  | validation (errors : List FieldError)
  /-- 409: to be delivered again. -/
  | conflict (detail : String)
  /-- An error no handler catches. -/
  | failed (error : DomainError)
  | zeroDivision
  deriving DecidableEq, Repr

structure AlertAcceptedResponse where
  alertId : Uuid
  incidentId : Option Uuid
  incidentCreated : Bool
  incidentStatus : Option IncidentStatus

/-- `AlertStatus(status)`. -/
def alertStatus? (status : String) : Option AlertStatus :=
  [AlertStatus.firing, .resolved].find? (fun s => s.value == status)

def alertSeverity? (severity : String) : Option AlertSeverity :=
  [AlertSeverity.critical, .warning, .info].find? (fun s => s.value == severity)

def requiredLabels : List String := ["service", "environment"]

/-- Labels that are not there, or empty. -/
def missingLabels (labels : Labels) : List String :=
  requiredLabels.filter (fun key => (label? labels key).getD "" == "")

/-- Every field is checked, so that all the errors are reported together. -/
def commandErrors (idempotencyKey : String) (labels : Labels) (severity : String) :
    List FieldError :=
  let missing := missingLabels labels
  (if idempotencyKey = "" then [.idempotencyKey] else []) ++
    (if missing ≠ [] then [.labels missing] else []) ++
    (if alertSeverity? severity = none then [.severity severity] else [])

/-- `AlertReceivedCommand(...)`. -/
def alertReceivedCommand (idempotencyKey : String) (source : AlertSource)
    (externalId : Option String) (labels : Labels) (severity : String) (status : AlertStatus) :
    Except HttpException AlertReceivedCommand :=
  let errors := commandErrors idempotencyKey labels severity
  match alertSeverity? severity with
  | some severity =>
    if errors = [] then .ok { idempotencyKey, source, externalId, labels, severity, status }
    else .error (.validation errors)
  | none => .error (.validation errors)

/-- `idempotency_key or derive_alert_idempotency_key(...)`. -/
def commandKey (sha256 : String → String) (source : AlertSource) (externalId : Option String)
    (rawPayload : Dict) (status : AlertStatus) (now : Time) (idempotencyKey : Option String) :
    Option String :=
  (givenId idempotencyKey).or
    (deriveAlertIdempotencyKey sha256 source externalId rawPayload status defaultDebounceSeconds
      now)

def acceptAlert (env : Env) (now : Time) (s : Store) (source : AlertSource)
    (externalId : Option String) (labels : Labels) (severity status : String) (rawPayload : Dict)
    (idempotencyKey : Option String) : Except HttpException (AlertAcceptedResponse × Store) :=
  match alertStatus? status with
  | none =>
    .error (.unrecognizedStatus ("unrecognized alert status " ++ (Json.str status).repr))
  | some status =>
    match commandKey env.sha256 source externalId rawPayload status now idempotencyKey with
    | none => .error .zeroDivision
    | some key =>
      match alertReceivedCommand key source externalId labels severity status with
      | .error invalid => .error invalid
      | .ok command =>
        match handleAlertReceived env now s command with
        | .error (.concurrentModification text) => .error (.conflict text)
        | .error other => .error (.failed other)
        | .ok (result, s) => .ok
          ({ alertId := result.alertId
             incidentId := result.incidentId
             incidentCreated := result.incidentCreated
             incidentStatus := result.incidentStatus }, s)

/-! ## The Alertmanager webhook -/

/-- One alert of a webhook payload. -/
structure AlertmanagerAlert where
  status : String
  labels : Labels
  annotations : Labels := []
  startsAt : Option String := none
  endsAt : Option String := none
  generatorURL : Option String := none
  fingerprint : Option String := none

/-- What `datetime.fromisoformat` and the conversion to UTC make of `startsAt`. -/
inductive IsoStart where
  | started (utc : String)
  /-- `ValueError`. -/
  | invalid
  /-- `OverflowError`: the instant in UTC is outside the years 1 to 9999. -/
  | overflow
  deriving DecidableEq, Repr

inductive WebhookError where
  /-- 401. -/
  | unauthorized
  /-- 500: the `OverflowError` of `startsAt`. -/
  | overflow
  /-- What `_accept_alert` raises. -/
  | refused (error : HttpException)
  deriving DecidableEq, Repr

/-- Identity of one firing episode; `isoStart` reads a `startsAt` whose `Z` is `+00:00`. -/
def alertmanagerEpisodeId (isoStart : String → IsoStart) (alert : AlertmanagerAlert) :
    Except WebhookError (Option String) :=
  match givenId alert.fingerprint, givenId alert.startsAt with
  | none, _ => .ok none
  | some fingerprint, none => .ok (some fingerprint)
  | some fingerprint, some startsAt =>
    match isoStart (startsAt.replace "Z" "+00:00") with
    | .invalid => .ok (some (fingerprint ++ ":" ++ startsAt))
    | .started utc => .ok (some (fingerprint ++ ":" ++ utc))
    | .overflow => .error .overflow

/-- `alert.model_dump(mode="json")`. -/
def AlertmanagerAlert.modelDump (alert : AlertmanagerAlert) : Dict :=
  let text (value : Option String) : Json := value.elim .null .str
  let texts (labels : Labels) : Json := .object (labels.map fun (key, value) => (key, .str value))
  [("status", .str alert.status), ("labels", texts alert.labels),
    ("annotations", texts alert.annotations), ("startsAt", text alert.startsAt),
    ("endsAt", text alert.endsAt), ("generatorURL", text alert.generatorURL),
    ("fingerprint", text alert.fingerprint)]

/-- What the webhook hands to `_accept_alert` for one alert. -/
def acceptWebhookAlert (env : Env) (isoStart : String → IsoStart) (now : Time) (s : Store)
    (alert : AlertmanagerAlert) : Except WebhookError (AlertAcceptedResponse × Store) :=
  match alertmanagerEpisodeId isoStart alert with
  | .error e => .error e
  | .ok externalId =>
    match acceptAlert env now s .prometheus externalId alert.labels
      ((label? alert.labels "severity").getD "") alert.status alert.modelDump none with
    | .error e => .error (.refused e)
    | .ok accepted => .ok accepted

/-- `_check_webhook_auth`: an empty token asks for nothing. -/
def webhookAuthorized (token : String) (authorization : Option String) : Bool :=
  token == "" || authorization == some ("Bearer " ++ token)

end IncidentTriage.Api
