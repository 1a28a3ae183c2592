import IncidentTriage.Domain.Enums

/-! # Verification domain

Pure: a catalog policy, the approved parameters and the baseline give a
`VerificationSpec`; a poll gives a `Sample`; `evaluateSample` reads the checks
off it and `decide` says whether to go on observing.
-/

namespace IncidentTriage.Domain

open IncidentTriage.Python

def verificationPolicyVersion : String := "verification-2026.09-1"

inductive CheckKind where
  | stateDeploymentVersion | stateConfigValue | stateFlag | stateReplicas
  | healthStatus | metricMax | alertsNoNewFiring
  deriving DecidableEq, Repr

def CheckKind.value : CheckKind → String
  | .stateDeploymentVersion => "state.deployment_version"
  | .stateConfigValue => "state.config_value"
  | .stateFlag => "state.flag"
  | .stateReplicas => "state.replicas"
  | .healthStatus => "health.status"
  | .metricMax => "metric.max"
  | .alertsNoNewFiring => "alerts.no_new_firing"

inductive VerificationStatus where
  | pending | running | passed | failed | timedOut
  deriving DecidableEq, Repr

def VerificationStatus.value : VerificationStatus → String
  | .pending => "PENDING"
  | .running => "RUNNING"
  | .passed => "PASSED"
  | .failed => "FAILED"
  | .timedOut => "TIMED_OUT"

def terminalVerificationStatuses : List VerificationStatus :=
  [.passed, .failed, .timedOut]

structure CheckTemplate where
  kind : CheckKind
  metric : Option String := none
  maxValue : Option PyFloat := none
  deriving DecidableEq, Repr

/-- Declared per action in the action catalog. -/
structure VerificationPolicy where
  graceSeconds : Nat
  windowSeconds : Nat
  pollIntervalSeconds : Nat
  requiredConsecutive : Nat
  baselineRequired : Bool
  checks : List CheckTemplate := []
  deriving DecidableEq, Repr

def VerificationPolicy.timeoutSeconds (policy : VerificationPolicy) : Nat :=
  policy.graceSeconds + policy.windowSeconds + 2 * policy.pollIntervalSeconds

structure CheckSpec where
  kind : CheckKind
  metric : Option String := none
  maxValue : Option PyFloat := none
  key : Option String := none
  expected : Option Json := none
  definitive : Bool := false
  deriving Repr

structure VerificationSpec where
  policyVersion : String
  actionId : String
  targetService : String
  graceSeconds : ℚ
  windowSeconds : ℚ
  pollIntervalSeconds : ℚ
  timeoutSeconds : ℚ
  requiredConsecutive : Nat
  checks : List CheckSpec
  deriving Repr

/-- Which evidence sources an observation must read. -/
def VerificationSpec.needs (spec : VerificationSpec) : List String :=
  "health" :: spec.checks.filterMap fun c =>
    match c.kind with
    | .stateDeploymentVersion => some "deployment"
    | .stateConfigValue => some "config"
    | .stateFlag | .stateReplicas => some "runtime"
    | _ => none

/-- `parameters.get(name)` where the schema wants a string or nothing. -/
def stringParameter (parameters : Dict) (name : String) : Except DomainError (Option String) :=
  match parameters.get? name with
  | none | some .null => .ok none
  | some (.str s) => .ok (some s)
  | some _ => .error (.validation "key: Input should be a valid string")

/-- `int(value)`: defined on numbers, truncating towards zero. -/
def pyInt : Json → Except DomainError Int
  | .bool b => .ok (if b then 1 else 0)
  | .int i => .ok i
  | .float x =>
    match x.value with
    | .finite q => .ok (if 0 ≤ q then ⌊q⌋ else ⌈q⌉)
    | _ => .error (.value "cannot convert float to integer")
  | .str s =>
    match s.toInt? with
    | some i => .ok i
    | none => .error (.value ("invalid literal for int() with base 10: " ++ quoteRepr s))
  | _ => .error (.value "int() argument must be a string or a real number")

/-- `((baseline or {}).get("runtime") or {}).get("replicas")`, `None` read as
absent. -/
def baselineReplicas (baseline : Option Dict) : Option Json :=
  match Json.getOr (Json.getOr (baseline.map .object) "runtime") "replicas" with
  | some .null => none
  | value => value

/-- The check one template asks for: every expected value comes from the
approved parameters or from the baseline. -/
def buildCheck (t : CheckTemplate) (parameters : Dict) (baseline : Option Dict) :
    Except DomainError CheckSpec :=
  match t.kind with
  | .stateDeploymentVersion =>
    .ok { kind := t.kind, expected := parameters.get? "to_version", definitive := true }
  | .stateConfigValue => do
    let key ← stringParameter parameters "key"
    pure { kind := t.kind, key, expected := parameters.get? "to_value", definitive := true }
  | .stateFlag => do
    let key ← stringParameter parameters "flag"
    pure { kind := t.kind, key, expected := some (.str "false"), definitive := true }
  | .stateReplicas =>
    match baselineReplicas baseline with
    | none => .ok { kind := t.kind, expected := none, definitive := true }
    | some before => do
      let replicas ← pyInt before
      let increase ← pyInt ((parameters.get? "increase_by").getD (.int 0))
      pure { kind := t.kind, expected := some (.int (replicas + increase)), definitive := true }
  | .healthStatus => .ok { kind := t.kind, expected := some (.str "healthy") }
  | .metricMax => .ok { kind := t.kind, metric := t.metric, maxValue := t.maxValue }
  | .alertsNoNewFiring => .ok { kind := t.kind, expected := some (.int 0) }

def buildSpec (policy : VerificationPolicy) (actionId : String) (parameters : Dict)
    (baseline : Option Dict) (timeScale : ℚ) : Except DomainError VerificationSpec := do
  let checks ← policy.checks.mapM (fun t => buildCheck t parameters baseline)
  let scale := max timeScale 0
  pure
    { policyVersion := verificationPolicyVersion
      actionId
      targetService := ((parameters.get? "service").getD (.str "")).text
      graceSeconds := policy.graceSeconds * scale
      windowSeconds := policy.windowSeconds * scale
      pollIntervalSeconds := policy.pollIntervalSeconds * scale
      timeoutSeconds := policy.timeoutSeconds * scale
      requiredConsecutive := policy.requiredConsecutive
      checks }

/-! ## Observations -/

/-- What one poll observed.  A missing source together with an entry in `errors`
makes the sample inconclusive. -/
structure Sample where
  health : Option Dict := none
  deployment : Option Dict := none
  config : Option Dict := none
  runtime : Option Dict := none
  newFiringAlerts : Option Nat := none
  errors : List String := []
  deriving Repr

structure CheckResult where
  kind : CheckKind
  ok : Option Bool
  observed : Option Json
  expected : Option Json
  detail : String
  deriving Repr

structure ObservationResult where
  passed : Bool
  conclusive : Bool
  definitiveFailure : Option String
  checks : List CheckResult
  deriving Repr

/-- A field of an optional source, `None` read as absent. -/
def sourceField (source : Option Dict) (name : String) : Option Json :=
  match Json.getOr (source.map .object) name with
  | some .null => none
  | value => value

/-- `float(value)`, with the text Python prints for it. -/
def asFloat : Json → Option PyFloat
  | .bool b => some ⟨.finite (if b then 1 else 0), if b then "1.0" else "0.0"⟩
  | .int i => some ⟨.finite i, toString i ++ ".0"⟩
  | .float x => some x
  | _ => none

def metric (sample : Sample) (name : Option String) : Option PyFloat :=
  let signals := sourceField sample.health "signals"
  let value := match name with
    | some name => if name.isEmpty then none else Json.getOr signals name
    | none => none
  let value := match value with
    | some (.object fields) => Dict.get? fields "value"
    | value => value
  value.bind asFloat

/-- `str(value).lower() == "false"`. -/
def isFalseText (value : Option Json) : Bool :=
  (textOr value).toLower == "false"

/-- Equality of two values either of which may be `None`. -/
def sameValue (a b : Option Json) : Bool :=
  (a.getD .null).eq (b.getD .null)

/-- The outcome of one check on one sample. -/
def evaluateCheck (sample : Sample) (c : CheckSpec) : CheckResult :=
  match c.kind with
  | .stateDeploymentVersion =>
    let observed := sourceField sample.deployment "version"
    { kind := c.kind
      ok := sample.deployment.map (fun _ => sameValue observed c.expected)
      observed
      expected := c.expected
      detail := "running " ++ reprOr observed ++ ", expected " ++ reprOr c.expected }
  | .stateConfigValue =>
    let observed := Json.getOr (sourceField sample.config "effective") (c.key.getD "")
    { kind := c.kind
      ok := sample.config.map (fun _ => textOr observed == textOr c.expected)
      observed
      expected := c.expected
      detail := c.key.getD "None" ++ " is " ++ reprOr observed ++ ", expected " ++
        reprOr c.expected }
  | .stateFlag =>
    let observed := Json.getOr (sourceField sample.runtime "flags") (c.key.getD "")
    { kind := c.kind
      ok := sample.runtime.map (fun _ => isFalseText observed)
      observed
      expected := c.expected
      detail := "flag " ++ c.key.getD "None" ++ " is " ++ reprOr observed ++ ", expected off" }
  | .stateReplicas =>
    let observed := sourceField sample.runtime "replicas"
    { kind := c.kind
      ok := if c.expected.isNone then none
        else sample.runtime.map (fun _ => sameValue observed c.expected)
      observed
      expected := c.expected
      detail := textOr observed ++ " replicas, expected " ++ textOr c.expected }
  | .healthStatus =>
    let observed := sourceField sample.health "status"
    { kind := c.kind
      ok := sample.health.map (fun _ => sameValue observed (some (.str "healthy")))
      observed
      expected := c.expected
      detail := "service is " ++ textOr observed }
  | .metricMax =>
    let observed := metric sample c.metric
    let maximum := match c.maxValue with
      | some x => x.value
      | none => .finite 0
    { kind := c.kind
      ok := observed.map (fun x => x.value.le maximum)
      observed := observed.map .float
      expected := c.maxValue.map .float
      detail := c.metric.getD "None" ++ " " ++ textOr (observed.map .float) ++ " vs max " ++
        textOr (c.maxValue.map .float) }
  | .alertsNoNewFiring =>
    let observed : Option Json := sample.newFiringAlerts.map (fun n => .int n)
    { kind := c.kind
      ok := sample.newFiringAlerts.map (fun n => n == 0)
      observed
      expected := c.expected
      detail := textOr observed ++ " alert(s) fired since verification started" }

def evaluateSample (spec : VerificationSpec) (sample : Sample) : ObservationResult :=
  let results := spec.checks.map (evaluateCheck sample)
  let conclusive := sample.errors.isEmpty && results.all (fun r => r.ok.isSome)
  let failing := (spec.checks.zip results).find?
    (fun cr => cr.1.definitive && cr.2.ok == some false)
  { passed := conclusive && results.all (fun r => r.ok == some true)
    conclusive
    definitiveFailure := failing.map (fun cr => cr.2.detail)
    checks := results }

/-- `value or {}` has a `get`: it is an object, or the value is not true. -/
def hasGet : Option Json → Bool
  | none | some (.object _) => true
  | some value => !value.truthy

/-- The nested value a check reads on its way to the key can be asked for it. -/
def CheckSpec.readable (sample : Sample) (c : CheckSpec) : Bool :=
  match c.kind with
  | .stateConfigValue => hasGet (sourceField sample.config "effective")
  | .stateFlag => hasGet (sourceField sample.runtime "flags")
  | .metricMax => hasGet (sourceField sample.health "signals")
  | _ => true

/-- `evaluate_sample` on any sample: it raises where a nested value has no `get`. -/
def evaluateSample? (spec : VerificationSpec) (sample : Sample) : Option ObservationResult :=
  if spec.checks.all (CheckSpec.readable sample) then some (evaluateSample spec sample) else none

theorem evaluateSample_passed {spec : VerificationSpec} {sample : Sample}
    (passed : (evaluateSample spec sample).passed = true) :
    (evaluateSample spec sample).conclusive = true := by
  simp only [evaluateSample, Bool.and_eq_true] at passed ⊢
  exact passed.1

/-! ## Deciding -/

structure Decision where
  status : VerificationStatus
  reason : Option String := none
  deriving DecidableEq, Repr

/-- `latest.definitive_failure` where it is a non-empty text. -/
def definitiveFailureOf (latest : Option ObservationResult) : Option String :=
  match latest.bind (·.definitiveFailure) with
  | some text => if text.isEmpty then none else some text
  | none => none

/-- After a poll, or when the deadline arrives without one. -/
def VerificationSpec.decide (spec : VerificationSpec) (latest : Option ObservationResult)
    (consecutiveSuccesses conclusiveObservations : Nat) (now deadline : Time) : Decision :=
  match definitiveFailureOf latest with
  | some text => { status := .failed, reason := some text }
  | none =>
    if spec.requiredConsecutive ≤ consecutiveSuccesses then { status := .passed }
    else if deadline ≤ now then
      if conclusiveObservations = 0 then
        { status := .timedOut
          reason := some "no conclusive observation before the deadline (evidence unavailable)" }
      else
        let failing := match latest with
          | some result => "; ".intercalate
              ((result.checks.filter (fun c => c.ok == some false)).map (·.detail))
          | none => ""
        { status := .failed
          reason := some (toString consecutiveSuccesses ++ "/" ++
            toString spec.requiredConsecutive ++
            " consecutive successful observations when the window closed" ++
            (if failing.isEmpty then "" else " (" ++ failing ++ ")")) }
    else { status := .running }

/-- A verdict of `PASSED` is the streak having reached its length. -/
theorem decide_passed {spec : VerificationSpec} {latest : Option ObservationResult}
    {streak conclusive : Nat} {now deadline : Time}
    (passed : (spec.decide latest streak conclusive now deadline).status = .passed) :
    spec.requiredConsecutive ≤ streak := by
  unfold VerificationSpec.decide at passed
  split at passed
  · cases passed
  · split_ifs at passed with reached
    exact reached

theorem decide_ne_pending {spec : VerificationSpec} {latest : Option ObservationResult}
    {streak conclusive : Nat} {now deadline : Time} :
    (spec.decide latest streak conclusive now deadline).status ≠ .pending := by
  unfold VerificationSpec.decide
  split
  · simp
  · split_ifs <;> simp

/-- At the deadline there is always a verdict. -/
theorem decide_at_deadline {spec : VerificationSpec} {latest : Option ObservationResult}
    {streak conclusive : Nat} {now deadline : Time} (late : deadline ≤ now) :
    (spec.decide latest streak conclusive now deadline).status ≠ .running := by
  unfold VerificationSpec.decide
  split
  · simp
  · simp only [late, if_true]
    split_ifs <;> simp

end IncidentTriage.Domain
