import IncidentTriage.Evaluation.Recording
import IncidentTriage.Evidence.Hashing
import IncidentTriage.Evidence.Loki
import IncidentTriage.Evidence.Scope
import IncidentTriage.Incident.Columns
import IncidentTriage.Tools.Executor

/-! # The evidence service

Every query takes one path: the scope of its incident is read, its parameters are checked
against the scope, an adapter asks a backend, what it observed is stored as a record, the
record is registered with incident-core, and only then is it returned.  Between any two of
these others go on, and the caller may die.
-/

namespace IncidentTriage.Evidence.EvidenceService

open IncidentTriage.Python IncidentTriage.Domain IncidentTriage.Incident IncidentTriage.Evaluation
open IncidentTriage.Remediation (EvidenceType)
open IncidentTriage.Tools (EvidenceError EvidenceErrorKind)

/-! ## The service catalog -/

structure ServiceEntry where
  name : String
  dependencies : List String
  repoPaths : List String

/-- The entries by the name of their service. -/
structure ServiceCatalog where
  services : List (String × ServiceEntry)

/-- A service, what it depends on, and what depends on it. -/
def ServiceCatalog.neighborhood (catalog : ServiceCatalog) (service : String) : List String :=
  service :: ((List.lookup service catalog.services).map (·.dependencies)).getD [] ++
    (catalog.services.filter (fun e => e.2.dependencies.contains service)).map (·.1)

def ServiceCatalog.repoPaths (catalog : ServiceCatalog) (service : String) : List String :=
  ((List.lookup service catalog.services).map (·.repoPaths)).getD []

/-- What the service is built with: incident-core, the catalog, and the texts of Python. -/
structure EvidenceEnv where
  core : Env
  catalog : ServiceCatalog
  isoformat : Time → String
  /-- `str.upper`. -/
  upper : String → String

/-! ## The scope of an incident -/

/-- `IncidentScope`: what is asked for an incident is checked against it. -/
structure QueryScope extends IncidentScope where
  incidentId : Uuid
  service : String
  environment : String
  status : IncidentStatus
  allowedServices : List String
  regions : List String
  alertTypes : List String

/-- The values of a label, without repeats and sorted. -/
def labelValues (alerts : List AlertRow) (label : String) : List String :=
  sortedStrings (alerts.filterMap (fun a => List.lookup label a.labels)).dedup

/-- `from_incident`. -/
def scopeOf (catalog : ServiceCatalog) (s : Store) (id : Uuid) (incident : IncidentRow) :
    QueryScope :=
  let alerts := s.alert.alerts.filter (fun a => a.incidentId == some id)
  { createdAt := incident.createdAt
    incidentId := id
    service := incident.service
    environment := incident.environment
    status := incident.status
    allowedServices := catalog.neighborhood incident.service
    regions := labelValues alerts "region"
    alertTypes := labelValues alerts "alertname" }

def resolveScope (catalog : ServiceCatalog) (s : Store) (id : Uuid) :
    Except EvidenceError QueryScope :=
  match s.incidents[id]? with
  | none =>
    .error { kind := .incidentNotFound, message := "incident " ++ uuidStr id ++ " not found" }
  | some incident => .ok (scopeOf catalog s id incident)

def isLabelHead (c : Char) : Bool := ('a' ≤ c && c ≤ 'z') || ('0' ≤ c && c ≤ '9')

/-- `_LABEL_VALUE.match`: the end of the pattern may stand before a last newline. -/
def matchesLabel (text : String) : Bool :=
  let body := if text.toList.getLast? == some '\n' then text.toList.dropLast else text.toList
  body.head?.any isLabelHead && body.all (fun c => isLabelHead c || c == '-') && body.length ≤ 63

/-- The service a query is about, by default the incident's own. -/
def QueryScope.serviceOrDefault (scope : QueryScope) (service : Option String) :
    Except EvidenceError String :=
  let target := match service with
    | some name => if name.isEmpty then scope.service else name
    | none => scope.service
  if !matchesLabel target then
    .error { kind := .invalidQuery, message := "malformed service name " ++ quoteRepr target }
  else if !scope.allowedServices.contains target then
    .error
      { kind := .scopeViolation
        message := "service " ++ quoteRepr target ++ " is outside incident " ++
          uuidStr scope.incidentId ++ "'s scope (allowed: " ++
          Json.repr (.list ((sortedStrings scope.allowedServices.dedup).map .str)) ++ ")" }
  else .ok target

/-- The class of the error that is raised. -/
def refusalKind : WindowError → EvidenceErrorKind
  | .tooEarly _ => .scopeViolation
  | .naive | .reversed | .tooLong .. | .tooShort _ => .invalidQuery

def QueryScope.bounded (e : EvidenceEnv) (scope : QueryScope) (start end_ : Option SuppliedTime)
    (now : Time) (default_ : Int := defaultWindow) (maxLength : Int := maxWindow) :
    Except EvidenceError (Time × Time) :=
  match scope.window start end_ now default_ maxLength with
  | .ok window => .ok window
  | .error refusal => .error { kind := refusalKind refusal, message := refusal.message e.isoformat }

def boundedLimit (requested : Option Int) (default_ maximum : Nat) : Except EvidenceError Nat :=
  let value := requested.getD default_
  if value < 1 then .error { kind := .invalidQuery, message := "limit must be at least 1" }
  else .ok (min value.toNat maximum)

/-! ## Queries -/

def maxChangeWindow : Int := hours 48
def maxTraces : Nat := 20
def maxDeployments : Nat := 20
def maxConfigChanges : Nat := 20
def maxCommits : Nat := 20
def maxSimilarIncidents : Nat := 10

def searchModes : List String := ["recent", "errors", "slow"]

/-- The public operations, with what their callers supply. -/
inductive EvidenceQuery where
  | metricWindow (metric : String) (service : Option String) (start end_ : Option SuppliedTime)
  | serviceHealth (service : Option String) (at_ : Option SuppliedTime)
  | logs (service : Option String) (start end_ : Option SuppliedTime)
      (severities : Option (List String)) (traceId requestId : Option String) (limit : Option Int)
  | trace (traceId : String)
  | traces (service : Option String) (start end_ : Option SuppliedTime) (mode : String)
      (minDurationMs limit : Option Int)
  | recentDeployments (service : Option String) (start end_ : Option SuppliedTime)
      (limit : Option Int)
  | configChanges (service : Option String) (start end_ : Option SuppliedTime)
      (limit : Option Int)
  | codeChanges (service : Option String) (start end_ : Option SuppliedTime)
      (sha : Option String) (limit : Option Int)
  | recentCommits (service : Option String) (limit : Option Int)
  | runtimeState (service : Option String)
  | similarIncidents (limit : Option Int)

/-- What the service asks of its adapters. -/
inductive BackendQuery where
  | metricWindow (metric service environment : String) (start end_ : Time)
  | serviceHealth (service environment : String) (at_ : Time)
  | queryLogs (service : String) (start end_ : Time) (severities : Option (List String))
      (traceId requestId : Option String) (limit : Nat)
  | getTrace (traceId : String)
  | search (service : String) (start end_ : Time) (mode : String) (minDurationMs : Option Int)
      (limit : Nat)
  | deployments (service environment : String) (start end_ : Time) (limit : Nat)
  | configChanges (service environment : String) (start end_ : Time) (limit : Nat)
  | codeChanges (service : String) (paths : List String) (start end_ : Time)
      (sha : Option String) (limit : Nat)
  | recentCommits (service : String) (paths : List String) (until_ referenceTime : Time)
      (limit : Nat)
  | runtimeState (service environment : String) (at_ : Time)
  | searchSimilar (incidentId : Uuid) (service environment : String)
      (regions alertTypes : List String) (referenceTime : Time) (limit : Nat)

/-- What is checked before the scope is read. -/
def EvidenceQuery.validate : EvidenceQuery → Except EvidenceError Unit
  | .traces _ _ _ mode _ _ =>
    if searchModes.contains mode then .ok ()
    else
      .error
        { kind := .invalidQuery
          message := "mode must be one of ('recent', 'errors', 'slow')" }
  | _ => .ok ()

/-- A window over what was changed. -/
def QueryScope.changeWindow (e : EvidenceEnv) (scope : QueryScope)
    (start end_ : Option SuppliedTime) (now : Time) : Except EvidenceError (Time × Time) :=
  scope.bounded e start end_ now maxChangeWindow maxChangeWindow

/-- The part of `collect` before the adapter: each parameter is checked, in the order in which
the operation does it. -/
def EvidenceQuery.resolve (e : EvidenceEnv) (scope : QueryScope) (now : Time) :
    EvidenceQuery → Except EvidenceError BackendQuery
  | .metricWindow metric service start end_ => do
    let target ← scope.serviceOrDefault service
    let window ← scope.bounded e start end_ now
    pure (.metricWindow metric target scope.environment window.1 window.2)
  | .serviceHealth service at_ => do
    let target ← scope.serviceOrDefault service
    let window ← scope.bounded e none at_ now minWindow
    pure (.serviceHealth target scope.environment window.2)
  | .logs service start end_ severities traceId requestId limit => do
    let target ← scope.serviceOrDefault service
    let window ← scope.bounded e start end_ now
    let lines ← boundedLimit limit Loki.maxLogLinesReturned Loki.maxLogLinesReturned
    let named := severities.filter (fun names => !names.isEmpty)
    pure (.queryLogs target window.1 window.2 (named.map (fun names => names.map e.upper))
      traceId requestId lines)
  | .trace traceId => pure (.getTrace traceId)
  | .traces service start end_ mode minDurationMs limit => do
    let target ← scope.serviceOrDefault service
    let window ← scope.bounded e start end_ now
    let most ← boundedLimit limit 10 maxTraces
    pure (.search target window.1 window.2 mode minDurationMs most)
  | .recentDeployments service start end_ limit => do
    let window ← scope.changeWindow e start end_ now
    let target ← scope.serviceOrDefault service
    let most ← boundedLimit limit 10 maxDeployments
    pure (.deployments target scope.environment window.1 window.2 most)
  | .configChanges service start end_ limit => do
    let window ← scope.changeWindow e start end_ now
    let target ← scope.serviceOrDefault service
    let most ← boundedLimit limit 10 maxConfigChanges
    pure (.configChanges target scope.environment window.1 window.2 most)
  | .codeChanges service start end_ sha limit => do
    let target ← scope.serviceOrDefault service
    let window ← scope.changeWindow e start end_ now
    let most ← boundedLimit limit 10 maxCommits
    pure (.codeChanges target (e.catalog.repoPaths target) window.1 window.2 sha most)
  | .recentCommits service limit => do
    let target ← scope.serviceOrDefault service
    let most ← boundedLimit limit 10 maxCommits
    pure (.recentCommits target (e.catalog.repoPaths target) now scope.createdAt most)
  | .runtimeState service => do
    let target ← scope.serviceOrDefault service
    pure (.runtimeState target scope.environment now)
  | .similarIncidents limit => do
    let most ← boundedLimit limit 5 maxSimilarIncidents
    pure (.searchSimilar scope.incidentId scope.service scope.environment scope.regions
      scope.alertTypes scope.createdAt most)

/-! ## Observations and records -/

/-- What an adapter hands back. -/
structure Observation where
  evidenceType : EvidenceType
  sourceSystem : String
  operation : String
  subjectService : String
  querySpec : Dict
  sourceReference : Dict
  rawResponse : Json
  rawTruncated : Bool
  normalizedPayload : Dict
  summary : String
  resultCount : Nat
  observedAt : Time
  windowStart : Option Time
  windowEnd : Option Time

def textItem : Json → Option String
  | .str text => some text
  | _ => none

/-- The services that a trace passes through. -/
def Observation.services (o : Observation) : List String :=
  match List.lookup "services" o.normalizedPayload with
  | some (.list items) => items.filterMap textItem
  | _ => []

def Observation.found (o : Observation) : Bool :=
  ((List.lookup "found" o.normalizedPayload).map Json.truthy).getD false

/-- The part of `collect` after the adapter: a trace is checked by what it holds, since its
identifier is no scope. -/
def EvidenceQuery.accept (scope : QueryScope) (o : Observation) :
    EvidenceQuery → Except EvidenceError Observation
  | .trace traceId =>
    if o.found && !o.services.any scope.allowedServices.contains then
      .error
        { kind := .scopeViolation
          message := "trace " ++ traceId ++ " involves only " ++
            Json.repr (.list ((sortedStrings o.services.dedup).map .str)) ++
            ", outside incident scope" }
    else .ok o
  | _ => .ok o

structure EvidenceRecord extends StoredRecord where
  operation : String
  querySpec : Json
  sourceReference : Json
  observedAt : Time
  windowStart : Option Time
  windowEnd : Option Time
  expiresAt : Option Time
  requestedBy : String
  rawResponse : Json
  rawTruncated : Bool
  summary : String
  resultCount : Nat

def expiringTypes : List EvidenceType := [.metric, .log, .trace]

def evidenceTtl : Int := hours (24 * 30)

def objectOf : Json → Dict
  | .object fields => fields
  | _ => []

/-- `json.loads(canonical_json(value))`, which raises for an int of too many digits. -/
def roundTrip (value : Json) : Option Json := if intsFit value then some (reload value) else none

/-- The record of `_persist`, before it is inserted. -/
def recordOf (e : EvidenceEnv) (incidentId : Uuid) (o : Observation) (requestedBy : String)
    (investigationId : Option Uuid) (now : Time) (id : Fin (2 ^ 128)) (sequence : Nat) :
    Option EvidenceRecord := do
  let raw ← roundTrip (stripNul o.rawResponse)
  let normalized ← roundTrip (stripNul (.object o.normalizedPayload))
  let querySpec ← roundTrip (.object o.querySpec)
  let sourceReference ← roundTrip (.object o.sourceReference)
  pure
    { evidenceId := id.val
      sequence
      incidentId
      evidenceType := o.evidenceType
      subjectService := o.subjectService
      collectedAt := now
      normalizedPayload := objectOf normalized
      investigationId
      sourceSystem := o.sourceSystem
      contentHash := contentHash e.core.sha256 raw
      id_lt := id.isLt
      operation := o.operation
      querySpec
      sourceReference
      observedAt := o.observedAt
      windowStart := o.windowStart
      windowEnd := o.windowEnd
      expiresAt := if expiringTypes.contains o.evidenceType then some (now + evidenceTtl) else none
      requestedBy
      rawResponse := raw
      rawTruncated := o.rawTruncated
      summary := o.summary
      resultCount := o.resultCount }

/-- The columns hold the record. -/
def EvidenceRecord.isStorable (r : EvidenceRecord) : Bool :=
  storable r.rawResponse && storable (.object r.normalizedPayload) && storable r.querySpec &&
    storable r.sourceReference && [r.operation, r.subjectService, r.requestedBy, r.summary].all
      storableText

/-- `insert_record`, which raises where the id is taken or a column refuses its value. -/
def insertEvidence (records : List EvidenceRecord) (r : EvidenceRecord) :
    Option (List EvidenceRecord) :=
  if records.any (fun other => other.evidenceId == r.evidenceId) || !r.isStorable then none
  else some (records ++ [r])

/-- `to_item`. -/
structure EvidenceItem where
  evidenceId : Uuid
  incidentId : Uuid
  evidenceType : EvidenceType
  sourceSystem : String
  operation : String
  subjectService : String
  observedAt : Time
  collectedAt : Time
  contentHash : String
  summary : String
  resultCount : Nat
  data : Dict

def EvidenceRecord.toItem (r : EvidenceRecord) : EvidenceItem :=
  { evidenceId := r.evidenceId
    incidentId := r.incidentId
    evidenceType := r.evidenceType
    sourceSystem := r.sourceSystem
    operation := r.operation
    subjectService := r.subjectService
    observedAt := r.observedAt
    collectedAt := r.collectedAt
    contentHash := r.contentHash
    summary := r.summary
    resultCount := r.resultCount
    data := r.normalizedPayload }

/-! ## Verification -/

structure IntegrityReport where
  contentHashMatches : Bool
  refRegistered : Bool
  refMatches : Bool

def IntegrityReport.ok (report : IntegrityReport) : Bool :=
  report.contentHashMatches && report.refRegistered && report.refMatches

/-- `get_evidence`. -/
def getEvidence (records : List EvidenceRecord) (id : Uuid) :
    Except EvidenceError EvidenceRecord :=
  match records.find? (fun r => r.evidenceId == id) with
  | some r => .ok r
  | none =>
    .error { kind := .evidenceNotFound, message := "evidence " ++ uuidStr id ++ " not found" }

/-- `list_evidence_refs`, looked up by id. -/
def refOf (s : Store) (incidentId id : Uuid) : Option EvidenceRefRow :=
  (s.alert.evidenceRefs.filter (fun ref => ref.incidentId == incidentId)).find?
    (fun ref => ref.id == id)

/-- `verify`: the hash is that of the response as the store gives it back. -/
def verify (e : EvidenceEnv) (s : Store) (records : List EvidenceRecord) (id : Uuid) :
    Except EvidenceError IntegrityReport := do
  let r ← getEvidence records id
  let ref := refOf s r.incidentId id
  pure
    { contentHashMatches :=
        verifyContentHash e.core.sha256 (storedNumbers r.rawResponse) r.contentHash
      refRegistered := ref.isSome
      refMatches := ref.any (fun ref =>
        ref.contentHash == r.contentHash && ref.incidentId == r.incidentId) }

/-! ## The service at work -/

/-- Where a query is. -/
inductive QueryPhase where
  | asked
  /-- An adapter has been asked. -/
  | sent (scope : QueryScope) (query : BackendQuery)
  | observed (scope : QueryScope) (observation : Observation)
  | persisted (record : EvidenceRecord)
  | returned (item : EvidenceItem)
  | failed (error : EvidenceError)
  /-- Another exception, or the caller died. -/
  | lost

structure QueryRun where
  incidentId : Uuid
  query : EvidenceQuery
  requestedBy : String
  investigationId : Option Uuid
  phase : QueryPhase := .asked

/-- What an adapter was asked for an incident, and when by the clock of the service. -/
structure BackendRequest where
  incidentId : Uuid
  at_ : Time
  query : BackendQuery

structure EvidenceSystem where
  world : World
  records : List EvidenceRecord
  queries : List QueryRun
  requests : List BackendRequest

/-- What happens: a caller asks, one of the queries takes a step or is lost, or incident-core
executes a command of anyone else.  The clock of the service says anything. -/
inductive EvidenceEvent where
  | ask (incidentId : Uuid) (query : EvidenceQuery) (requestedBy : String)
      (investigationId : Option Uuid)
  | send (place : Nat) (now : Time)
  | answer (place : Nat) (reply : Except EvidenceError Observation)
  | persist (place : Nat) (now : Time) (id : Fin (2 ^ 128))
  | register (place elapsed : Nat)
  | lose (place : Nat)
  | command (event : Event) (other : ∀ c, event.command ≠ .registerEvidenceRef c)

namespace EvidenceSystem

/-- The query at a place is in another phase. -/
def moved (y : EvidenceSystem) (place : Nat) (run : QueryRun) (phase : QueryPhase) :
    EvidenceSystem :=
  { y with queries := y.queries.set place { run with phase } }

/-- The scope of the incident, and what is asked of an adapter. -/
def prepare (e : EvidenceEnv) (s : Store) (now : Time) (run : QueryRun) :
    Except EvidenceError (QueryScope × BackendQuery) := do
  run.query.validate
  let scope ← resolveScope e.catalog s run.incidentId
  let query ← run.query.resolve e scope now
  pure (scope, query)

def send (e : EvidenceEnv) (y : EvidenceSystem) (place : Nat) (now : Time) (run : QueryRun) :
    EvidenceSystem :=
  match prepare e y.world.store now run with
  | .error error => y.moved place run (.failed error)
  | .ok (scope, query) =>
    { y.moved place run (.sent scope query) with
      requests := y.requests ++ [{ incidentId := run.incidentId, at_ := now, query }] }

def answer (y : EvidenceSystem) (place : Nat) (run : QueryRun) (scope : QueryScope)
    (reply : Except EvidenceError Observation) : EvidenceSystem :=
  match reply.bind (fun o => run.query.accept scope o) with
  | .error error => y.moved place run (.failed error)
  | .ok o => y.moved place run (.observed scope o)

def persist (e : EvidenceEnv) (y : EvidenceSystem) (place : Nat) (now : Time) (id : Fin (2 ^ 128))
    (run : QueryRun) (scope : QueryScope) (o : Observation) : EvidenceSystem :=
  let made := do
    let r ← recordOf e scope.incidentId o run.requestedBy run.investigationId now id
      (y.records.length + 1)
    let records ← insertEvidence y.records r
    pure (r, records)
  match made with
  | none => y.moved place run .lost
  | some (r, records) => { y.moved place run (.persisted r) with records }

/-- The command of `_register`, and the end of the query. -/
def register (e : EvidenceEnv) (y : EvidenceSystem) (place elapsed : Nat) (run : QueryRun)
    (r : EvidenceRecord) : EvidenceSystem :=
  let event : Event := { elapsed, command := .registerEvidenceRef r.registration }
  let world := Incident.step e.core y.world event
  match registerEvidenceRef (y.world.clock + elapsed) y.world.store r.registration with
  | .error _ => { y.moved place run .lost with world }
  | .ok _ => { y.moved place run (.returned r.toItem) with world }

def step (e : EvidenceEnv) (y : EvidenceSystem) : EvidenceEvent → EvidenceSystem
  | .ask incidentId query requestedBy investigationId =>
    { y with queries := y.queries ++ [{ incidentId, query, requestedBy, investigationId }] }
  | .send place now =>
    match y.queries[place]? with
    | some run => match run.phase with
      | .asked => y.send e place now run
      | _ => y
    | none => y
  | .answer place reply =>
    match y.queries[place]? with
    | some run => match run.phase with
      | .sent scope _ => y.answer place run scope reply
      | _ => y
    | none => y
  | .persist place now id =>
    match y.queries[place]? with
    | some run => match run.phase with
      | .observed scope o => y.persist e place now id run scope o
      | _ => y
    | none => y
  | .register place elapsed =>
    match y.queries[place]? with
    | some run => match run.phase with
      | .persisted r => y.register e place elapsed run r
      | _ => y
    | none => y
  | .lose place =>
    match y.queries[place]? with
    | some run => match run.phase with
      | .returned _ | .failed _ => y
      | _ => y.moved place run .lost
    | none => y
  | .command event _ => { y with world := Incident.step e.core y.world event }

end EvidenceSystem

def evidenceFrom (e : EvidenceEnv) (clock : Time) (events : List EvidenceEvent) : EvidenceSystem :=
  Machine.run (EvidenceSystem.step e)
    { world := emptyWorld clock, records := [], queries := [], requests := [] } events

end IncidentTriage.Evidence.EvidenceService
