import IncidentTriage.Library.Scripts
import IncidentTriage.Remediation.Catalog
import Mathlib.Logic.Function.Basic

/-! # The simulator's executor

The executor acts on the simulated production through the keys its services read: the
fault of a service, its desired replicas, its feature flags, and the append-only
registries of deployments and configuration changes.  Every Redis command is one atomic
operation of a script.  The value of a key is the parsed value: what is stored is what
`json.dumps` printed, and reading it back gives the same.
-/

namespace IncidentTriage.Remediation

open IncidentTriage.Python IncidentTriage.Domain

def maxReplicas : Int := 10

/-- Faults a process restart clears. -/
def restartClears : List String := ["memory-leak", "high-cpu"]

/-- The simulated config system's one managed key. -/
def configKeyName : String := "request_pipeline_config_version"

def actor : String := "remediation-executor"

/-! ## The simulated production -/

/-- The keys the services and the evidence adapters read, each by service. -/
structure Production where
  /-- `chaos:{service}`. -/
  chaos : String → Option Dict
  /-- `sim:replicas:{service}`. -/
  replicas : String → Option Int
  /-- `changes:deployments:{service}`, oldest first. -/
  deployments : String → List Dict
  /-- `changes:config:{service}`, oldest first. -/
  configs : String → List Dict
  /-- `sim:flags:{service}`, by flag. -/
  flags : String → String → Option String

/-- Redis as the executor uses it. -/
structure Simulator where
  production : Production
  /-- `sim:remediation:applied:{key}`. -/
  applied : String → Option Dict
  /-- `sim:ops:{service}`. -/
  ops : String → List Dict

/-! ## Requests and results -/

structure ExecutionRequest where
  idempotencyKey : String
  actionId : String
  catalogVersion : String
  parameters : Dict
  targetService : String
  environment : String
  deadline : Time

structure ExecutorResult where
  succeeded : Bool
  detail : Dict := []
  error : Option String := none
  retryable : Bool := false

def optionalStr : Option String → Json
  | some text => .str text
  | none => .null

def ExecutorResult.toJson (r : ExecutorResult) : Dict :=
  [("succeeded", .bool r.succeeded), ("detail", .object r.detail),
    ("error", optionalStr r.error), ("retryable", .bool r.retryable)]

def ExecutorResult.fromJson (data : Dict) : ExecutorResult where
  succeeded := (Dict.get? data "succeeded").any Json.truthy
  detail := Json.orEmpty (Dict.get? data "detail")
  error := match Dict.get? data "error" with
    | some (.str text) => some text
    | _ => none
  retryable := (Dict.get? data "retryable").any Json.truthy

/-- What is read back is what was stored. -/
@[simp] theorem ExecutorResult.fromJson_toJson (r : ExecutorResult) : fromJson r.toJson = r := by
  obtain ⟨succeeded, detail, error, retryable⟩ := r
  cases error <;> simp [toJson, fromJson, Dict.get?, List.lookup_cons, Json.truthy, Json.orEmpty,
    optionalStr]

/-- The executor could not finish before the deadline. -/
structure ExecutionTimeout where
  text : String

/-- What the clock and `uuid4` give one execution. -/
structure Moment where
  now : Time
  isoNow : String
  time : Json
  uuid : String

/-! ## The change registries -/

def currentDeployment (service : String) : Script Simulator (Option Dict) :=
  .read (fun s => (s.production.deployments service).getLast?)

def currentConfig (service : String) : Script Simulator (Option Dict) :=
  .read (fun s => (s.production.configs service).getLast?)

/-- `(record or {}).get(key)`. -/
def recordField (record : Option Dict) (key : String) : Option Json :=
  record.bind (fun fields => Dict.get? fields key)

/-- `value == other`, where a missing field is `None`. -/
def fieldEq (value : Option Json) (other : Json) : Bool := (value.getD .null).eq other

/-- The most recent deployment of `version`. -/
def findDeployment (service : String) (version : Json) : Script Simulator (Option Dict) :=
  .read (fun s => (s.production.deployments service).reverse.find?
    (fun record => fieldEq (Dict.get? record "version") version))

def pushDeployment (service : String) (record : Dict) (s : Simulator) : Simulator :=
  { s with production := { s.production with
      deployments := Function.update s.production.deployments service
        (s.production.deployments service ++ [record]) } }

@[simp] theorem pushDeployment_chaos (service : String) (record : Dict) (s : Simulator) :
    (pushDeployment service record s).production.chaos = s.production.chaos := rfl

def pushConfig (service : String) (record : Dict) (s : Simulator) : Simulator :=
  { s with production := { s.production with
      configs := Function.update s.production.configs service
        (s.production.configs service ++ [record]) } }

@[simp] theorem pushConfig_chaos (service : String) (record : Dict) (s : Simulator) :
    (pushConfig service record s).production.chaos = s.production.chaos := rfl

def rollbackRecord (m : Moment) (service environment : String) (toVersion : Json)
    (current : Option Dict) (commitSha : Option Json) : Dict :=
  [("deployment_id", .str m.uuid), ("service", .str service), ("environment", .str environment),
    ("version", toVersion), ("previous_version", (recordField current "version").getD .null),
    ("commit_sha", commitSha.getD .null), ("deployed_at", .str m.isoNow),
    ("deployed_by", .str actor), ("change_type", .str "rollback")]

def recordRollback (m : Moment) (service environment : String) (toVersion : Json)
    (commitSha : Option Json) : Script Simulator Dict := do
  let current ← currentDeployment service
  let record := rollbackRecord m service environment toVersion current commitSha
  Script.write (pushDeployment service record)
  pure record

/-- The record a rollback of the store appends. -/
theorem recordRollback_run (m : Moment) (service environment : String) (toVersion : Json)
    (commitSha : Option Json) (s : Simulator) :
    let record := rollbackRecord m service environment toVersion
      (s.production.deployments service).getLast? commitSha
    (recordRollback m service environment toVersion commitSha).run s =
      (record, pushDeployment service record s) := rfl

theorem recordRollback_states (m : Moment) (service environment : String) (toVersion : Json)
    (commitSha : Option Json) (s : Simulator) :
    (recordRollback m service environment toVersion commitSha).states s =
      [s, ((recordRollback m service environment toVersion commitSha).run s).2] := rfl

def configRecord (m : Moment) (service environment : String) (newValue : String)
    (current : Option Dict) : Dict :=
  [("change_id", .str m.uuid), ("service", .str service), ("environment", .str environment),
    ("key", .str configKeyName), ("old_value", (recordField current "new_value").getD .null),
    ("new_value", .str newValue), ("changed_at", .str m.isoNow), ("changed_by", .str actor)]

def recordConfig (m : Moment) (service environment newValue : String) :
    Script Simulator Dict := do
  let current ← currentConfig service
  let record := configRecord m service environment newValue current
  Script.write (pushConfig service record)
  pure record

theorem recordConfig_run (m : Moment) (service environment newValue : String) (s : Simulator) :
    let record := configRecord m service environment newValue
      (s.production.configs service).getLast?
    (recordConfig m service environment newValue).run s =
      (record, pushConfig service record s) := rfl

theorem recordConfig_states (m : Moment) (service environment newValue : String) (s : Simulator) :
    (recordConfig m service environment newValue).states s =
      [s, ((recordConfig m service environment newValue).run s).2] := rfl

/-! ## The actions -/

/-- A validated parameter, and its text where its field is one. -/
def Params.value (params : Params) (field : String) : Json :=
  (Dict.get? params.values field).getD .null

def Params.text (params : Params) (field : String) : String := (params.value field).text

def deleteFault (service : String) (s : Simulator) : Simulator :=
  { s with production := { s.production with
      chaos := Function.update s.production.chaos service none } }

/-- `fault and fault.get("scenario") in scenarios`, with the scenario. -/
def faultAmong (scenarios : List String) (fault : Option Dict) : Option String :=
  match recordField fault "scenario" with
  | some (.str scenario) => if scenario ∈ scenarios then some scenario else none
  | _ => none

/-- Delete the fault of a service if it is one of the scenarios. -/
def clearFault (service : String) (scenarios : List String) : Script Simulator (Option String) := do
  match faultAmong scenarios (← Script.read (fun s => s.production.chaos service)) with
  | some scenario =>
    Script.write (deleteFault service)
    pure (some scenario)
  | none => pure none

def restartService (params : Params) : Script Simulator ExecutorResult := do
  let cleared ← clearFault (params.text "service") restartClears
  pure { succeeded := true
         detail := [("restarted", params.value "service"), ("cleared_fault", optionalStr cleared)] }

def setReplicas (service : String) (replicas : Int) (s : Simulator) : Simulator :=
  { s with production := { s.production with
      replicas := Function.update s.production.replicas service (some replicas) } }

def increaseBy (params : Params) : Int :=
  match params.value "increase_by" with
  | .int n => n
  | _ => 0

def scaleService (params : Params) : Script Simulator ExecutorResult := do
  let service := params.text "service"
  let before := (← Script.read (fun s => s.production.replicas service)).getD 1
  let after := before + increaseBy params
  if maxReplicas < after then
    pure { succeeded := false
           detail := [("replicas", .int before)]
           error := some ("would exceed " ++ toString maxReplicas ++ " replicas") }
  else
    Script.write (setReplicas service after)
    pure { succeeded := true
           detail := [("replicas_before", .int before), ("replicas_after", .int after)] }

/-- The result of an action that finds its target already there. -/
def alreadyThere (field : String) (value : Json) (cleared : Option String) : ExecutorResult :=
  { succeeded := true
    detail := [(field, value), ("cleared_fault", optionalStr cleared), ("no_op", .bool true)] }

def rolledBack (params : Params) (record : Dict) (cleared : Option String) : ExecutorResult :=
  { succeeded := true
    detail := [("deployment_id", (Dict.get? record "deployment_id").getD .null),
      ("from_version", params.value "from_version"), ("to_version", params.value "to_version"),
      ("cleared_fault", optionalStr cleared)] }

def rollbackDeployment (m : Moment) (request : ExecutionRequest) (params : Params) :
    Script Simulator ExecutorResult := do
  let service := params.text "service"
  let running := recordField (← currentDeployment service) "version"
  if fieldEq running (params.value "to_version") then
    let cleared ← clearFault service ["bad-deployment"]
    pure (alreadyThere "already_at" (params.value "to_version") cleared)
  else if fieldEq running (params.value "from_version") = false then
    pure { succeeded := false
           detail := [("running", running.getD .null)]
           error := some ("target changed: " ++ service ++ " runs " ++ textOr running ++ ", not " ++
             params.text "from_version") }
  else
    let target ← findDeployment service (params.value "to_version")
    let record ← recordRollback m service request.environment (params.value "to_version")
      (recordField target "commit_sha")
    let cleared ← clearFault service ["bad-deployment"]
    pure (rolledBack params record cleared)

def setFlag (service flag value : String) (s : Simulator) : Simulator :=
  { s with production := { s.production with
      flags := Function.update s.production.flags service
        (Function.update (s.production.flags service) flag (some value)) } }

def disableFeatureFlag (params : Params) : Script Simulator ExecutorResult := do
  let service := params.text "service"
  let previous ← Script.read (fun s => s.production.flags service (params.text "flag"))
  Script.write (setFlag service (params.text "flag") "false")
  pure { succeeded := true
         detail := [("flag", params.value "flag"), ("previous", optionalStr previous),
           ("now", .str "false")] }

def reverted (params : Params) (record : Dict) (cleared : Option String) : ExecutorResult :=
  { succeeded := true
    detail := [("change_id", (Dict.get? record "change_id").getD .null),
      ("key", params.value "key"), ("now", params.value "to_value"),
      ("cleared_fault", optionalStr cleared)] }

def revertConfiguration (m : Moment) (request : ExecutionRequest) (params : Params) :
    Script Simulator ExecutorResult := do
  let service := params.text "service"
  if params.text "key" ≠ configKeyName then
    pure { succeeded := false
           error := some ("unknown configuration key " ++ quoteRepr (params.text "key")) }
  else
    let current := recordField (← currentConfig service) "new_value"
    if fieldEq current (params.value "to_value") then
      let cleared ← clearFault service ["bad-configuration"]
      pure (alreadyThere "already" (current.getD .null) cleared)
    else if fieldEq current (params.value "from_value") = false then
      pure { succeeded := false
             detail := [("current", current.getD .null)]
             error := some ("target changed: " ++ params.text "key" ++ " is " ++ reprOr current ++
               ", not " ++ (params.value "from_value").repr) }
    else
      let record ← recordConfig m service request.environment (params.text "to_value")
      let cleared ← clearFault service ["bad-configuration"]
      pure (reverted params record cleared)

/-- The handler of a catalog action. -/
def handler (m : Moment) (request : ExecutionRequest) (params : Params) :
    Script Simulator ExecutorResult :=
  match params.model with
  | .restartService => restartService params
  | .scaleService => scaleService params
  | .rollbackDeployment => rollbackDeployment m request params
  | .disableFeatureFlag => disableFeatureFlag params
  | .revertConfiguration => revertConfiguration m request params

/-! ## The executor -/

namespace SimulatorExecutor

def inspect (idempotencyKey : String) : Script Simulator (Option ExecutorResult) :=
  .read (fun s => (s.applied idempotencyKey).map ExecutorResult.fromJson)

/-- What the executor checks before it acts: the parameters, or why the request is refused. -/
def checkRequest (request : ExecutionRequest) : Except String Params :=
  match getEntry request.actionId with
  | none => .error (request.actionId ++ " is not a current catalog action")
  | some entry =>
    if request.catalogVersion ≠ catalogVersion then
      .error (request.actionId ++ " is not a current catalog action")
    else
      match entry.validate request.parameters with
      | (none, problems) => .error ("invalid parameters: " ++ "; ".intercalate problems)
      | (some params, _) =>
        if params.text "service" ≠ request.targetService then
          .error "parameters target a different service"
        else if entry.allowedEnvironments.contains request.environment = false then
          .error (request.actionId ++ " not allowed in " ++ request.environment)
        else .ok params

/-- A request that is accepted is valid for its catalog entry. -/
theorem checkRequest_eq_ok {request : ExecutionRequest} {params : Params}
    (checked : checkRequest request = .ok params) :
    ∃ entry, getEntry request.actionId = some entry ∧
      (entry.validate request.parameters).1 = some params := by
  unfold checkRequest at checked
  split at checked
  · cases checked
  rename_i entry found
  split at checked
  · cases checked
  split at checked
  · cases checked
  rename_i parsed problems validated
  split at checked
  · cases checked
  split at checked
  · cases checked
  cases checked
  refine ⟨entry, found, ?_⟩
  rw [validated]

/-- A validated parameter is the parsed value of its field. -/
theorem value_of_checked {request : ExecutionRequest} {params : Params}
    (checked : checkRequest request = .ok params) {f : FieldSchema}
    (declared : f ∈ params.model.fields) :
    ∃ raw, f.parse raw = .ok (params.value f.name) := by
  obtain ⟨entry, _, validated⟩ := checkRequest_eq_ok checked
  obtain ⟨valid, rfl⟩ := validate_eq_some validated
  obtain ⟨raw, parsed, _, accepted, result⟩ := ParamsModel.field_of_valid valid declared
  refine ⟨raw, ?_⟩
  rw [Params.value, ParamsModel.get?_values declared result]
  exact accepted

def setApplied (key : String) (result : ExecutorResult) (s : Simulator) : Simulator :=
  { s with applied := Function.update s.applied key (some result.toJson) }

def operation (m : Moment) (request : ExecutionRequest) (result : ExecutorResult) : Dict :=
  [("at", m.time), ("action", .str request.actionId), ("parameters", .object request.parameters),
    ("idempotency_key", .str request.idempotencyKey), ("succeeded", .bool result.succeeded),
    ("error", optionalStr result.error)]

def pushOperation (service : String) (entry : Dict) (s : Simulator) : Simulator :=
  { s with ops := Function.update s.ops service (s.ops service ++ [entry]) }

/-- The action, its idempotency record, and its entry of the operations log. -/
def perform (m : Moment) (request : ExecutionRequest) (params : Params) :
    Script Simulator ExecutorResult := do
  let result ← handler m request params
  Script.write (setApplied request.idempotencyKey result)
  Script.write (pushOperation request.targetService (operation m request result))
  pure result

/-- One request: a duplicate returns the stored result and never acts twice. -/
def execute (m : Moment) (request : ExecutionRequest) :
    Script Simulator (Except ExecutionTimeout ExecutorResult) := do
  match ← inspect request.idempotencyKey with
  | some previous => pure (.ok previous)
  | none =>
    match checkRequest request with
    | .error text => pure (.ok { succeeded := false, error := some text })
    | .ok params =>
      if request.deadline ≤ m.now then
        pure (.error ⟨"deadline passed before the action started"⟩)
      else
        let result ← perform m request params
        pure (.ok result)

end SimulatorExecutor

end IncidentTriage.Remediation
