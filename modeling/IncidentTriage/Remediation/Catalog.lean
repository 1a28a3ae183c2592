import IncidentTriage.Domain.Verification

/-! # The action catalog

The only vocabulary a remediation can be expressed in: five entries, each with a
strict parameter schema.  `validate` gives the parsed parameters, or the field
path and message of every problem.
-/

namespace IncidentTriage.Remediation

open IncidentTriage.Python IncidentTriage.Domain

def catalogVersion : String := "catalog-2026.09-1"

/-! ## Field schemas -/

/-- The expression `^[head][tail]\x7b0,extra\x7d$`, with its text for messages. -/
structure Pattern where
  source : String
  head : Char → Bool
  tail : Char → Bool
  extra : Nat

def Pattern.isMatch (p : Pattern) (s : String) : Bool :=
  match s.toList with
  | [] => false
  | c :: cs => p.head c && cs.all p.tail && decide (cs.length ≤ p.extra)

def isLower (c : Char) : Bool := 'a' ≤ c && c ≤ 'z'
def isDigit (c : Char) : Bool := '0' ≤ c && c ≤ '9'
def isAlnum (c : Char) : Bool := isLower c || ('A' ≤ c && c ≤ 'Z') || isDigit c

def servicePattern : Pattern where
  source := "^[a-z0-9][a-z0-9-]\x7b0,62\x7d$"
  head c := isLower c || isDigit c
  tail c := isLower c || isDigit c || c == '-'
  extra := 62

def versionPattern : Pattern where
  source := "^[A-Za-z0-9][A-Za-z0-9._+-]\x7b0,63\x7d$"
  head c := isAlnum c
  tail c := isAlnum c || c == '.' || c == '_' || c == '+' || c == '-'
  extra := 63

def keyPattern : Pattern where
  source := "^[A-Za-z0-9][A-Za-z0-9._-]\x7b0,127\x7d$"
  head c := isAlnum c
  tail c := isAlnum c || c == '.' || c == '_' || c == '-'
  extra := 127

/-- A problem of one field: where, and what. -/
structure Problem where
  loc : List String
  msg : String
  deriving DecidableEq, Repr

/-- `'.'.join(loc) or 'parameters'`, a colon, and the message. -/
def Problem.text (p : Problem) : String :=
  (if p.loc.isEmpty then "parameters" else ".".intercalate p.loc) ++ ": " ++ p.msg

inductive FieldKind where
  | pattern (p : Pattern)
  | boundedInt (low high : Int)
  /-- `str | int | float | bool | None`. -/
  | scalar
  /-- The same, refused when `None` by the field's own validator. -/
  | scalarNotNone

structure FieldSchema where
  name : String
  kind : FieldKind

def takeDigits : List Char → Option Nat
  | [] => none
  | cs => if cs.all isDigit then
      some (cs.foldl (fun n c => 10 * n + (c.toNat - 48)) 0)
    else none

/-- The integer a text stands for in lax mode: surrounding blanks, a sign, and a
fraction of zeros are allowed. -/
def strAsInt (s : String) : Option Int :=
  let blank := fun c : Char => c == ' ' || c == '\n' || c == '\t' || c == '\r'
  let cs := ((s.toList.dropWhile blank).reverse.dropWhile blank).reverse
  let body := fun cs : List Char =>
    let digits := cs.takeWhile (· != '.')
    let rest := cs.drop digits.length
    if rest.all (fun c => c == '.' || c == '0') && rest.countP (· == '.') ≤ 1 && rest != ['.']
    then takeDigits digits else none
  match cs with
  | '-' :: cs => (body cs).map (fun n => -(n : Int))
  | '+' :: cs => (body cs).map (fun n => (n : Int))
  | cs => (body cs).map (fun n => (n : Int))

/-- The integer lax mode reads, or the message of the refusal. -/
def laxInt : Json → Except String Int
  | .bool b => .ok (if b then 1 else 0)
  | .int i => .ok i
  | .float x =>
    match x.value with
    | .finite q =>
      if q.den = 1 then .ok q.num
      else .error "Input should be a valid integer, got a number with a fractional part"
    | _ => .error "Input should be a finite number"
  | .str s =>
    match strAsInt s with
    | some i => .ok i
    | none =>
      .error "Input should be a valid integer, unable to parse string as an integer"
  | _ => .error "Input should be a valid integer"

/-- The parsed value of a field that is present, or its problems. -/
def FieldSchema.parse (f : FieldSchema) (value : Json) : Except (List Problem) Json :=
  match f.kind with
  | .pattern p =>
    match value with
    | .str s =>
      if p.isMatch s then .ok value
      else .error [⟨[f.name], "String should match pattern '" ++ p.source ++ "'"⟩]
    | _ => .error [⟨[f.name], "Input should be a valid string"⟩]
  | .boundedInt low high =>
    match laxInt value with
    | .error msg => .error [⟨[f.name], msg⟩]
    | .ok i =>
      if i < low then
        .error [⟨[f.name], "Input should be greater than or equal to " ++ toString low⟩]
      else if high < i then
        .error [⟨[f.name], "Input should be less than or equal to " ++ toString high⟩]
      else .ok (.int i)
  | .scalar => scalarValue value
  | .scalarNotNone =>
    match value with
    | .null => .error [⟨[f.name], "Value error, no previous value to revert to"⟩]
    | value => scalarValue value
where
  scalarValue (value : Json) : Except (List Problem) Json :=
    match value with
    | .list _ | .object _ =>
      .error
        [⟨[f.name, "str"], "Input should be a valid string"⟩,
         ⟨[f.name, "int"], "Input should be a valid integer"⟩,
         ⟨[f.name, "float"], "Input should be a valid number"⟩,
         ⟨[f.name, "bool"], "Input should be a valid boolean"⟩]
    | value => .ok value

/-- A refusal names a problem. -/
theorem FieldSchema.parse_ne_error_nil (f : FieldSchema) (value : Json) :
    f.parse value ≠ .error [] := by
  obtain ⟨name, kind⟩ := f
  cases kind with
  | pattern p =>
    cases value with
    | str s =>
      simp only [parse]
      split_ifs <;> simp
    | null | bool _ | int _ | float _ | list _ | object _ => simp [parse]
  | boundedInt low high =>
    simp only [parse]
    cases laxInt value with
    | error msg => simp
    | ok i =>
      dsimp only
      split_ifs <;> simp
  | scalar => cases value <;> simp [parse, parse.scalarValue]
  | scalarNotNone => cases value <;> simp [parse, parse.scalarValue]

theorem FieldSchema.parse_pattern {name : String} {p : Pattern} {value parsed : Json}
    (accepted : (FieldSchema.mk name (.pattern p)).parse value = .ok parsed) :
    ∃ s, value = .str s ∧ parsed = .str s ∧ p.isMatch s = true := by
  cases value with
  | str s =>
    simp only [parse] at accepted
    split_ifs at accepted with matched
    cases accepted
    exact ⟨s, rfl, rfl, matched⟩
  | null | bool _ | int _ | float _ | list _ | object _ => cases accepted

theorem FieldSchema.parse_scalar {name : String} {value parsed : Json}
    (accepted : (FieldSchema.mk name .scalar).parse value = .ok parsed) :
    parsed = value ∧ value.isScalar = true := by
  cases value with
  | list _ => cases accepted
  | object _ => cases accepted
  | null | bool _ | int _ | float _ | str _ => cases accepted; exact ⟨rfl, rfl⟩

theorem FieldSchema.parse_scalarNotNone {name : String} {value parsed : Json}
    (accepted : (FieldSchema.mk name .scalarNotNone).parse value = .ok parsed) :
    parsed = value ∧ value ≠ .null := by
  cases value with
  | null => cases accepted
  | list _ => cases accepted
  | object _ => cases accepted
  | bool _ | int _ | float _ | str _ => cases accepted; exact ⟨rfl, nofun⟩

inductive ParamsModel where
  | restartService | scaleService | rollbackDeployment | disableFeatureFlag
  | revertConfiguration
  deriving DecidableEq, Repr

/-- The fields of a parameter model, the inherited `service` first. -/
def ParamsModel.fields : ParamsModel → List FieldSchema
  | .restartService => [service]
  | .scaleService => [service, ⟨"increase_by", .boundedInt 1 5⟩]
  | .rollbackDeployment =>
    [service, ⟨"from_version", .pattern versionPattern⟩, ⟨"to_version", .pattern versionPattern⟩]
  | .disableFeatureFlag => [service, ⟨"flag", .pattern keyPattern⟩]
  | .revertConfiguration =>
    [service, ⟨"key", .pattern keyPattern⟩, ⟨"from_value", .scalar⟩, ⟨"to_value", .scalarNotNone⟩]
where
  service : FieldSchema := ⟨"service", .pattern servicePattern⟩

/-- Parameters that passed validation. -/
structure Params where
  model : ParamsModel
  values : Dict
  deriving Repr

def fieldResult (parameters : Dict) (f : FieldSchema) : Except (List Problem) Json :=
  match parameters.get? f.name with
  | none => .error [⟨[f.name], "Field required"⟩]
  | some value => f.parse value

/-- The problems of the declared fields, then of the fields that are not declared. -/
def ParamsModel.problems (model : ParamsModel) (parameters : Dict) : List Problem :=
  let declared := model.fields.flatMap (fun f =>
    match fieldResult parameters f with
    | .ok _ => []
    | .error problems => problems)
  let extra := parameters.filterMap (fun field =>
    if model.fields.any (fun f => f.name == field.1) then none
    else some ⟨[field.1], "Extra inputs are not permitted"⟩)
  declared ++ extra

def ParamsModel.values (model : ParamsModel) (parameters : Dict) : Dict :=
  model.fields.filterMap (fun f =>
    match fieldResult parameters f with
    | .ok value => some (f.name, value)
    | .error _ => none)

/-- Every declared field of valid parameters is present and parses. -/
theorem ParamsModel.field_of_valid {model : ParamsModel} {parameters : Dict}
    (valid : model.problems parameters = []) {f : FieldSchema} (declared : f ∈ model.fields) :
    ∃ raw parsed, parameters.get? f.name = some raw ∧ f.parse raw = .ok parsed ∧
      fieldResult parameters f = .ok parsed := by
  have silent := (List.append_eq_nil_iff.mp valid).1
  have own := List.flatMap_eq_nil_iff.mp silent f declared
  unfold fieldResult at own ⊢
  cases given : parameters.get? f.name with
  | none => simp [given] at own
  | some raw =>
    cases parsed : f.parse raw with
    | ok value => exact ⟨raw, value, rfl, parsed, parsed⟩
    | error problems =>
      simp only [given, parsed] at own
      subst own
      exact absurd parsed (f.parse_ne_error_nil raw)

theorem ParamsModel.fields_nodup (model : ParamsModel) :
    (model.fields.map (·.name)).Nodup := by
  cases model <;> decide

/-- The value a declared field is given is its parsed one. -/
theorem ParamsModel.get?_values {model : ParamsModel} {parameters : Dict} {f : FieldSchema}
    (declared : f ∈ model.fields) {parsed : Json}
    (result : fieldResult parameters f = .ok parsed) :
    Dict.get? (model.values parameters) f.name = some parsed := by
  have names := model.fields_nodup
  unfold ParamsModel.values Dict.get?
  generalize model.fields = fields at declared names
  induction fields with
  | nil => cases declared
  | cons head tail ih =>
    simp only [List.map_cons, List.nodup_cons] at names
    rcases List.mem_cons.mp declared with rfl | later
    · rw [List.filterMap_cons]
      simp only [result, List.lookup_cons, beq_self_eq_true]
    · have other : (f.name == head.name) = false := by
        apply beq_false_of_ne
        intro same
        exact names.1 (same ▸ List.mem_map_of_mem later)
      rw [List.filterMap_cons]
      cases fieldResult parameters head with
      | error problems => exact ih later names.2
      | ok value =>
        simp only [List.lookup_cons, other]
        exact ih later names.2

/-! ## Entries -/

structure ActionCatalogEntry where
  actionId : String
  parameters : ParamsModel
  allowedEnvironments : List String
  baseBlastRadius : Nat
  maxBlastRadius : Nat
  approvalMandatory : Bool
  autoExecutionAllowed : Bool
  timeoutSeconds : Nat
  maxAttempts : Nat
  retrySafe : Bool
  requiresRca : Bool
  targetMustMatchRootCause : Bool
  verification : VerificationPolicy

def ActionCatalogEntry.validate (entry : ActionCatalogEntry) (parameters : Dict) :
    Option Params × List String :=
  match entry.parameters.problems parameters with
  | [] => (some ⟨entry.parameters, entry.parameters.values parameters⟩, [])
  | problems => (none, problems.map Problem.text)

/-- Deterministic tier of this specific invocation. -/
def ActionCatalogEntry.blastRadius (entry : ActionCatalogEntry) (parameters : Params) : Nat :=
  let large := match parameters.model, Dict.get? parameters.values "increase_by" with
    | .scaleService, some (.int n) => decide (2 < n)
    | _, _ => false
  entry.baseBlastRadius + (if large then 1 else 0)

theorem validate_eq_some {entry : ActionCatalogEntry} {parameters : Dict} {params : Params}
    (valid : (entry.validate parameters).1 = some params) :
    entry.parameters.problems parameters = [] ∧
      params = ⟨entry.parameters, entry.parameters.values parameters⟩ := by
  unfold ActionCatalogEntry.validate at valid
  cases found : entry.parameters.problems parameters with
  | nil =>
    rw [found] at valid
    cases valid
    exact ⟨rfl, rfl⟩
  | cons p ps => simp [found] at valid

/-- `validate` reports problems exactly when it returns no parameters. -/
theorem validate_none_iff (entry : ActionCatalogEntry) (parameters : Dict) :
    (entry.validate parameters).1 = none ↔ (entry.validate parameters).2 ≠ [] := by
  unfold ActionCatalogEntry.validate
  cases entry.parameters.problems parameters <;> simp

def environments : List String := ["production", "staging"]

def healthy : CheckTemplate := { kind := .healthStatus }
def noNewAlerts : CheckTemplate := { kind := .alertsNoNewFiring }
def errorsOk : CheckTemplate :=
  { kind := .metricMax, metric := some "error_rate", maxValue := some ⟨.finite (1 / 20), "0.05"⟩ }
def latencyOk : CheckTemplate :=
  { kind := .metricMax, metric := some "latency_p95", maxValue := some ⟨.finite 1, "1.0"⟩ }

def catalog : List ActionCatalogEntry :=
  [{ actionId := "restart_service"
     parameters := .restartService
     allowedEnvironments := environments
     baseBlastRadius := 1
     maxBlastRadius := 1
     approvalMandatory := true
     autoExecutionAllowed := false
     timeoutSeconds := 120
     maxAttempts := 2
     retrySafe := true
     requiresRca := true
     targetMustMatchRootCause := true
     verification := ⟨45, 240, 15, 3, true, [healthy, errorsOk, noNewAlerts]⟩ },
   { actionId := "scale_service"
     parameters := .scaleService
     allowedEnvironments := environments
     baseBlastRadius := 1
     maxBlastRadius := 2
     approvalMandatory := true
     autoExecutionAllowed := false
     timeoutSeconds := 180
     maxAttempts := 1
     retrySafe := false
     requiresRca := true
     targetMustMatchRootCause := true
     verification := ⟨30, 240, 15, 3, true,
       [{ kind := .stateReplicas }, healthy, latencyOk, noNewAlerts]⟩ },
   { actionId := "rollback_deployment"
     parameters := .rollbackDeployment
     allowedEnvironments := environments
     baseBlastRadius := 2
     maxBlastRadius := 2
     approvalMandatory := true
     autoExecutionAllowed := false
     timeoutSeconds := 300
     maxAttempts := 2
     retrySafe := true
     requiresRca := true
     targetMustMatchRootCause := true
     verification := ⟨60, 300, 15, 3, true,
       [{ kind := .stateDeploymentVersion }, healthy, errorsOk, latencyOk, noNewAlerts]⟩ },
   { actionId := "disable_feature_flag"
     parameters := .disableFeatureFlag
     allowedEnvironments := environments
     baseBlastRadius := 1
     maxBlastRadius := 1
     approvalMandatory := true
     autoExecutionAllowed := false
     timeoutSeconds := 60
     maxAttempts := 2
     retrySafe := true
     requiresRca := true
     targetMustMatchRootCause := true
     verification := ⟨30, 180, 15, 2, false, [{ kind := .stateFlag }, healthy, noNewAlerts]⟩ },
   { actionId := "revert_configuration"
     parameters := .revertConfiguration
     allowedEnvironments := environments
     baseBlastRadius := 2
     maxBlastRadius := 2
     approvalMandatory := true
     autoExecutionAllowed := false
     timeoutSeconds := 120
     maxAttempts := 2
     retrySafe := true
     requiresRca := true
     targetMustMatchRootCause := true
     verification := ⟨45, 240, 15, 3, true,
       [{ kind := .stateConfigValue }, healthy, errorsOk, noNewAlerts]⟩ }]

def getEntry (actionId : String) : Option ActionCatalogEntry :=
  catalog.find? (fun e => e.actionId == actionId)

theorem getEntry_mem {actionId : String} {entry : ActionCatalogEntry}
    (found : getEntry actionId = some entry) : entry ∈ catalog ∧ entry.actionId = actionId := by
  have named := List.find?_some found
  exact ⟨List.mem_of_find?_eq_some found, by simpa using named⟩

/-- Each action can be looked up under its own identifier. -/
theorem catalog_getEntry : ∀ e ∈ catalog, (getEntry e.actionId).map (·.actionId) = some e.actionId := by
  decide

end IncidentTriage.Remediation
