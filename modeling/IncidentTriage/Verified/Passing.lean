import IncidentTriage.Remediation.Catalog
import IncidentTriage.Verified.Transactions

/-! # What a passing observation has seen

A verification passes on samples whose checks all hold, and fails at once on a state
check that does not.  `CheckMet` says what each check should have observed: its source,
the key in the source, and there the expected value in the form the executor stores it.
A passing sample has met every check, with one exception: a configuration value that is
absent is read as the text `None`, which a proposal may expect (`ReadAsNone`).
-/

namespace IncidentTriage.Verified

open IncidentTriage.Python IncidentTriage.Domain IncidentTriage.Remediation

/-! ## What a check should observe -/

/-- The source a state check reads. -/
def stateSource (sample : Sample) : CheckKind → Option Dict
  | .stateDeploymentVersion => sample.deployment
  | .stateConfigValue => sample.config
  | .stateFlag | .stateReplicas => sample.runtime
  | _ => none

/-- The value of the key of a state check in its source. -/
def observedIn (source : Dict) (c : CheckSpec) : Option Json :=
  match c.kind with
  | .stateDeploymentVersion => Dict.get? source "version"
  | .stateConfigValue => Json.getOr (Dict.get? source "effective") (c.key.getD "")
  | .stateFlag => Json.getOr (Dict.get? source "flags") (c.key.getD "")
  | .stateReplicas => Dict.get? source "replicas"
  | _ => none

/-- The expected value, up to the form in which it is stored: a configuration value is
stored as its text, a flag as `false` in any case, a version and a number as they are. -/
def StoredAs (kind : CheckKind) (value expected : Json) : Prop :=
  match kind with
  | .stateConfigValue => value.text = expected.text
  | .stateFlag => value.text.toLower = expected.text
  | _ => value.eq expected = true

/-- The source of a state check is there, its key too, with the expected value. -/
structure StateMet (sample : Sample) (c : CheckSpec) : Prop where
  observed : ∃ source value expected, stateSource sample c.kind = some source ∧
    observedIn source c = some value ∧ c.expected = some expected ∧ StoredAs c.kind value expected

/-- The source of a state check is there, and does not hold the expected value. -/
structure StateDiffers (sample : Sample) (c : CheckSpec) : Prop where
  isState : c.kind ∈ [.stateDeploymentVersion, .stateConfigValue, .stateFlag, .stateReplicas]
  observed : ∃ source expected, stateSource sample c.kind = some source ∧
    c.expected = some expected ∧
      ∀ value, observedIn source c = some value → ¬ StoredAs c.kind value expected

/-- The metric is among the signals of the health source, as a number. -/
structure MetricPresent (sample : Sample) (name : String) (x : PyFloat) : Prop where
  present : ∃ health signals value, sample.health = some health ∧
    Dict.get? health "signals" = some (.object signals) ∧ Dict.get? signals name = some value ∧
      (asFloat value = some x ∨
        ∃ fields inner, value = .object fields ∧ Dict.get? fields "value" = some inner ∧
          asFloat inner = some x)

/-- What the sample must hold for a check to be met. -/
def CheckMet (sample : Sample) (c : CheckSpec) : Prop :=
  match c.kind with
  | .stateDeploymentVersion | .stateConfigValue | .stateFlag | .stateReplicas => StateMet sample c
  | .healthStatus => ∃ health status, sample.health = some health ∧
      Dict.get? health "status" = some status ∧ status.eq (.str "healthy") = true
  | .metricMax => ∃ name x maximum, c.metric = some name ∧ MetricPresent sample name x ∧
      c.maxValue = some maximum ∧ x.value.le maximum.value = true
  | .alertsNoNewFiring => sample.newFiringAlerts = some 0

/-- A configuration check that expects the text `None`, of a key that its source does not
hold. -/
structure ReadAsNone (sample : Sample) (c : CheckSpec) : Prop where
  kind : c.kind = .stateConfigValue
  expects : ∃ expected, c.expected = some expected ∧ expected.text = "None"
  absent : ∃ source, sample.config = some source ∧ observedIn source c = none

/-! ## The specifications of the catalog -/

/-- What the approved parameters give a check: an expected value for the state checks that
take theirs from a parameter, and a maximum for a metric. -/
structure FromParameters (c : CheckSpec) : Prop where
  version : c.kind = .stateDeploymentVersion → ∃ version, c.expected = some (.str version)
  config : c.kind = .stateConfigValue → ∃ value, c.expected = some value ∧ value ≠ .null
  flag : c.kind = .stateFlag → c.expected = some (.str "false")
  replicas : c.kind = .stateReplicas → ∀ e, c.expected = some e → ∃ n, e = .int n
  metric : c.kind = .metricMax → ∃ name maximum, c.metric = some name ∧ name.isEmpty = false ∧
    c.maxValue = some maximum
  definitive : c.definitive = true →
    c.kind ∈ [.stateDeploymentVersion, .stateConfigValue, .stateFlag, .stateReplicas]

/-- The parameter model of the actions that a state check belongs to. -/
def checkedModel : CheckKind → Option ParamsModel
  | .stateDeploymentVersion => some .rollbackDeployment
  | .stateConfigValue => some .revertConfiguration
  | .stateFlag => some .disableFeatureFlag
  | .stateReplicas => some .scaleService
  | _ => none

/-- A state check belongs to the action that changes that state, and a metric check names
its metric and a maximum. -/
theorem catalog_checks : ∀ e ∈ catalog, ∀ t ∈ e.verification.checks,
    (∀ model, checkedModel t.kind = some model → e.parameters = model) ∧
      (t.kind = .metricMax → t.metric.any (fun name => !name.isEmpty) ∧ t.maxValue.isSome) := by
  decide

theorem buildCheck_fromParameters {entry : ActionCatalogEntry} (listed : entry ∈ catalog)
    {parameters : Dict} (valid : entry.parameters.problems parameters = []) {t : CheckTemplate}
    (declared : t ∈ entry.verification.checks) {baseline : Option Dict} {c : CheckSpec}
    (built : buildCheck t parameters baseline = .ok c) : FromParameters c := by
  obtain ⟨belongs, bounded⟩ := catalog_checks entry listed t declared
  obtain ⟨kind, name, maxValue⟩ := t
  cases kind with
  | stateDeploymentVersion =>
    cases built
    have model : entry.parameters = .rollbackDeployment := belongs _ rfl
    rw [model] at valid
    obtain ⟨raw, parsed, given, accepted, _⟩ := ParamsModel.field_of_valid valid
      (f := ⟨"to_version", .pattern versionPattern⟩) (by simp [ParamsModel.fields])
    obtain ⟨version, rfl, _⟩ := FieldSchema.parse_pattern accepted
    exact ⟨fun _ => ⟨version, given⟩, by simp, by simp, by simp, by simp, fun _ => by simp⟩
  | stateConfigValue =>
    have model : entry.parameters = .revertConfiguration := belongs _ rfl
    rw [model] at valid
    obtain ⟨raw, parsed, given, accepted, _⟩ := ParamsModel.field_of_valid valid
      (f := ⟨"to_value", .scalarNotNone⟩) (by simp [ParamsModel.fields])
    obtain ⟨_, notNull⟩ := FieldSchema.parse_scalarNotNone accepted
    simp only [buildCheck, bind_eq_ok, pure_eq_ok] at built
    obtain ⟨key, _, rfl⟩ := built
    exact ⟨by simp, fun _ => ⟨raw, given, notNull⟩, by simp, by simp, by simp, fun _ => by simp⟩
  | stateFlag =>
    simp only [buildCheck, bind_eq_ok, pure_eq_ok] at built
    obtain ⟨key, _, rfl⟩ := built
    exact ⟨by simp, by simp, fun _ => rfl, by simp, by simp, fun _ => by simp⟩
  | stateReplicas =>
    simp only [buildCheck] at built
    cases before : baselineReplicas baseline with
    | none =>
      rw [before] at built
      cases built
      exact ⟨by simp, by simp, by simp, by simp, by simp, fun _ => by simp⟩
    | some replicas =>
      simp only [before, bind_eq_ok, pure_eq_ok] at built
      obtain ⟨n, _, k, _, rfl⟩ := built
      refine ⟨by simp, by simp, by simp, ?_, by simp, fun _ => by simp⟩
      intro _ e expected
      cases expected
      exact ⟨_, rfl⟩
  | healthStatus =>
    cases built
    exact ⟨by simp, by simp, by simp, by simp, by simp, by simp⟩
  | metricMax =>
    cases built
    refine ⟨by simp, by simp, by simp, by simp, ?_, by simp⟩
    intro _
    obtain ⟨named, limited⟩ := bounded rfl
    cases name with
    | none => cases named
    | some text =>
      cases maxValue with
      | none => cases limited
      | some maximum => exact ⟨text, maximum, rfl, by simpa using named, rfl⟩
  | alertsNoNewFiring =>
    cases built
    exact ⟨by simp, by simp, by simp, by simp, by simp, by simp⟩

theorem mapM_built {policy : List CheckTemplate} {parameters : Dict} {baseline : Option Dict}
    {checks : List CheckSpec}
    (built : policy.mapM (fun t => buildCheck t parameters baseline) = .ok checks)
    {c : CheckSpec} (listed : c ∈ checks) :
    ∃ t ∈ policy, buildCheck t parameters baseline = .ok c := by
  induction policy generalizing checks with
  | nil =>
    cases built
    cases listed
  | cons t rest ih =>
    simp only [List.mapM_cons, bind_eq_ok, pure_eq_ok] at built
    obtain ⟨first, own, others, later, rfl⟩ := built
    rcases List.mem_cons.mp listed with rfl | member
    · exact ⟨t, List.mem_cons_self, own⟩
    · obtain ⟨t', declared, made⟩ := ih later member
      exact ⟨t', List.mem_cons_of_mem _ declared, made⟩

/-- Every check of a specification built from valid parameters of a catalog action. -/
theorem buildSpec_fromParameters {entry : ActionCatalogEntry} (listed : entry ∈ catalog)
    {parameters : Dict} {params : Params}
    (valid : (entry.validate parameters).1 = some params) {baseline : Option Dict}
    {timeScale : ℚ} {spec : VerificationSpec}
    (built : buildSpec entry.verification entry.actionId parameters baseline timeScale = .ok spec) :
    ∀ c ∈ spec.checks, FromParameters c := by
  simp only [buildSpec, bind_eq_ok, pure_eq_ok] at built
  obtain ⟨checks, made, rfl⟩ := built
  intro c member
  obtain ⟨t, declared, own⟩ := mapM_built made member
  exact buildCheck_fromParameters listed (validate_eq_some valid).1 declared own

/-! ## One check -/

/-- Asking a source for a key of a nested object goes through the field as it is. -/
theorem getOr_sourceField (source : Option Dict) (name key : String) :
    Json.getOr (sourceField source name) key =
      Json.getOr (source.bind (fun fields => Dict.get? fields name)) key := by
  cases source with
  | none => rfl
  | some fields =>
    simp only [sourceField, Option.map_some, Json.getOr, Option.bind_some]
    cases Dict.get? fields name with
    | none => rfl
    | some value => cases value <;> rfl

/-- A field equals a value other than `None` where it is present and equal. -/
theorem sameValue_sourceField {fields : Dict} {name : String} {expected : Json}
    (real : Json.null.eq expected = false) :
    sameValue (sourceField (some fields) name) (some expected) = true ↔
      ∃ value, Dict.get? fields name = some value ∧ value.eq expected = true := by
  simp only [sourceField, Option.map_some, Json.getOr, sameValue, Option.getD_some]
  cases Dict.get? fields name with
  | none => simp [real]
  | some value =>
    cases value with
    | null => simp [real]
    | bool _ | int _ | float _ | str _ | list _ | object _ => simp

theorem metric_eq_some {sample : Sample} {name : Option String} {x : PyFloat}
    (read : metric sample name = some x) : ∃ n, name = some n ∧ MetricPresent sample n x := by
  unfold metric at read
  cases named : name with
  | none => simp [named] at read
  | some n =>
    refine ⟨n, rfl, ?_⟩
    simp only [named, getOr_sourceField] at read
    split_ifs at read with empty
    · simp at read
    · cases health : sample.health with
      | none => simp [health, Json.getOr] at read
      | some source =>
        simp only [health, Option.bind_some] at read
        cases signals : Dict.get? source "signals" with
        | none => simp [signals, Json.getOr] at read
        | some nested =>
          cases nested with
          | object fields =>
            simp only [signals, Json.getOr] at read
            cases value : Dict.get? fields n with
            | none => simp [value] at read
            | some v =>
              refine ⟨source, fields, v, health, signals, value, ?_⟩
              rw [value] at read
              cases v with
              | object inner =>
                obtain ⟨i, given, float⟩ := Option.bind_eq_some_iff.mp read
                exact .inr ⟨inner, i, rfl, given, float⟩
              | null | bool _ | int _ | float _ | str _ | list _ => exact .inl read
          | null | bool _ | int _ | float _ | str _ | list _ =>
            simp [signals, Json.getOr] at read

theorem metric_of_present {sample : Sample} {name : String} {x : PyFloat}
    (named : name.isEmpty = false) (present : MetricPresent sample name x) :
    metric sample (some name) = some x := by
  obtain ⟨health, signals, value, source, nested, given, number⟩ := present
  have signal : Json.getOr (sourceField sample.health "signals") name = some value := by
    rw [getOr_sourceField, source, Option.bind_some, nested]
    exact given
  simp only [metric, named, signal, Bool.false_eq_true, if_false]
  rcases number with float | ⟨fields, inner, rfl, found, float⟩
  · cases value with
    | object fields => cases float
    | null | bool _ | int _ | float _ | str _ | list _ => exact float
  · simp only [found, Option.bind_some, float]

/-- What `str` of an absent value is. -/
theorem textOr_none : textOr none = "None" := rfl

section
variable {sample : Sample} {c : CheckSpec}

theorem stateMet_iff {source : Dict} {expected : Json}
    (there : stateSource sample c.kind = some source) (wanted : c.expected = some expected) :
    StateMet sample c ↔
      ∃ value, observedIn source c = some value ∧ StoredAs c.kind value expected := by
  constructor
  · rintro ⟨source', value, expected', there', present, wanted', same⟩
    cases there.symm.trans there'
    cases wanted.symm.trans wanted'
    exact ⟨value, present, same⟩
  · rintro ⟨value, present, same⟩
    exact ⟨source, value, expected, there, present, wanted, same⟩

theorem not_stateMet (missing : stateSource sample c.kind = none) : ¬ StateMet sample c := by
  rintro ⟨source, _, _, there, _⟩
  rw [missing] at there
  cases there

theorem stateDiffers_of_not_met {source : Dict} {expected : Json}
    (isState : c.kind ∈ [.stateDeploymentVersion, .stateConfigValue, .stateFlag, .stateReplicas])
    (there : stateSource sample c.kind = some source) (wanted : c.expected = some expected)
    (unmet : ¬ StateMet sample c) : StateDiffers sample c := by
  refine ⟨isState, source, expected, there, wanted, ?_⟩
  intro value present same
  exact unmet ((stateMet_iff there wanted).mpr ⟨value, present, same⟩)

/-- What a state check reports: nothing without its source or without an expectation, and
otherwise whether the expectation is met, where an absent configuration value is read as a
text. -/
structure StateReport (sample : Sample) (c : CheckSpec) : Prop where
  source : stateSource sample c.kind = none → (evaluateCheck sample c).ok = none
  expects : c.expected = none → (evaluateCheck sample c).ok = none
  decides : ∀ source expected, stateSource sample c.kind = some source →
    c.expected = some expected → ∃ b, (evaluateCheck sample c).ok = some b ∧
      (b = true ↔ StateMet sample c ∨ ReadAsNone sample c)

theorem not_readAsNone (kind : c.kind ≠ .stateConfigValue) : ¬ ReadAsNone sample c :=
  fun read => kind read.kind

theorem versionReport (kind : c.kind = .stateDeploymentVersion) (built : FromParameters c) :
    StateReport sample c := by
  obtain ⟨version, expected⟩ := built.version kind
  have real : Json.null.eq (.str version) = false := rfl
  constructor
  · intro missing
    simp only [kind, stateSource] at missing
    simp [evaluateCheck, kind, missing]
  · intro silent
    cases expected.symm.trans silent
  · intro source e there wanted
    cases expected.symm.trans wanted
    have other : ¬ ReadAsNone sample c := not_readAsNone (by simp [kind])
    rw [stateMet_iff there wanted]
    simp only [kind, stateSource] at there
    refine ⟨sameValue (sourceField (some source) "version") (some (.str version)), ?_, ?_⟩
    · simp [evaluateCheck, kind, there, expected]
    · simp [sameValue_sourceField real, observedIn, StoredAs, kind, other]

theorem replicasReport (kind : c.kind = .stateReplicas) (built : FromParameters c) :
    StateReport sample c := by
  constructor
  · intro missing
    simp only [kind, stateSource] at missing
    simp [evaluateCheck, kind, missing]
  · intro silent
    simp [evaluateCheck, kind, silent]
  · intro source e there wanted
    obtain ⟨n, rfl⟩ := built.replicas kind e wanted
    have real : Json.null.eq (.int n) = false := rfl
    have other : ¬ ReadAsNone sample c := not_readAsNone (by simp [kind])
    rw [stateMet_iff there wanted]
    simp only [kind, stateSource] at there
    refine ⟨sameValue (sourceField (some source) "replicas") (some (.int n)), ?_, ?_⟩
    · simp [evaluateCheck, kind, there, wanted]
    · simp [sameValue_sourceField real, observedIn, StoredAs, kind, other]

theorem flagReport (kind : c.kind = .stateFlag) (built : FromParameters c) :
    StateReport sample c := by
  have expected := built.flag kind
  constructor
  · intro missing
    simp only [kind, stateSource] at missing
    simp [evaluateCheck, kind, missing]
  · intro silent
    cases expected.symm.trans silent
  · intro source e there wanted
    cases expected.symm.trans wanted
    have other : ¬ ReadAsNone sample c := not_readAsNone (by simp [kind])
    rw [stateMet_iff there wanted]
    simp only [kind, stateSource] at there
    refine ⟨isFalseText (Json.getOr (Dict.get? source "flags") (c.key.getD "")), ?_, ?_⟩
    · simp [evaluateCheck, kind, there, getOr_sourceField]
    · simp only [observedIn, StoredAs, kind, other, or_false]
      cases Json.getOr (Dict.get? source "flags") (c.key.getD "") with
      | none =>
        simp only [reduceCtorEq, false_and, exists_false, iff_false]
        decide +kernel
      | some value => simp [isFalseText, textOr, Json.text]

theorem configReport (kind : c.kind = .stateConfigValue) (built : FromParameters c) :
    StateReport sample c := by
  obtain ⟨e, expected, _⟩ := built.config kind
  constructor
  · intro missing
    simp only [kind, stateSource] at missing
    simp [evaluateCheck, kind, missing]
  · intro silent
    cases expected.symm.trans silent
  · intro source e' there wanted
    cases expected.symm.trans wanted
    rw [stateMet_iff there wanted]
    simp only [kind, stateSource] at there
    refine ⟨textOr (observedIn source c) == e.text, ?_, ?_⟩
    · simp [evaluateCheck, kind, there, wanted, getOr_sourceField, observedIn, textOr]
    · cases observed : observedIn source c with
      | none =>
        simp only [textOr_none, beq_iff_eq, reduceCtorEq, false_and, exists_false, false_or]
        constructor
        · intro same
          exact ⟨kind, ⟨e, wanted, same.symm⟩, source, there, observed⟩
        · rintro ⟨_, ⟨e', wanted', text⟩, _⟩
          cases wanted.symm.trans wanted'
          exact text.symm
      | some value =>
        have other : ¬ ReadAsNone sample c := by
          rintro ⟨_, _, source', there', absent⟩
          cases there.symm.trans there'
          rw [observed] at absent
          cases absent
        simp [textOr, StoredAs, kind, other]

theorem stateReport (state : c.kind ∈
    [.stateDeploymentVersion, .stateConfigValue, .stateFlag, .stateReplicas])
    (built : FromParameters c) : StateReport sample c := by
  simp only [List.mem_cons, List.not_mem_nil, or_false] at state
  rcases state with kind | kind | kind | kind
  · exact versionReport kind built
  · exact configReport kind built
  · exact flagReport kind built
  · exact replicasReport kind built

theorem StateReport.ok_iff (report : StateReport sample c) :
    (evaluateCheck sample c).ok = some true ↔ StateMet sample c ∨ ReadAsNone sample c := by
  cases there : stateSource sample c.kind with
  | none =>
    rw [report.source there]
    simp only [reduceCtorEq, false_iff, not_or]
    refine ⟨not_stateMet there, ?_⟩
    rintro ⟨kind, _, source, held, _⟩
    rw [kind] at there
    exact absurd (held.symm.trans there) nofun
  | some source =>
    cases wanted : c.expected with
    | none =>
      rw [report.expects wanted]
      simp only [reduceCtorEq, false_iff, not_or]
      constructor
      · rintro ⟨_, _, e, _, _, some_, _⟩
        cases wanted.symm.trans some_
      · rintro ⟨_, ⟨e, some_, _⟩, _⟩
        cases wanted.symm.trans some_
    | some e =>
      obtain ⟨b, ok, meaning⟩ := report.decides source e there wanted
      rw [ok, ← meaning, Option.some.injEq]

theorem StateReport.differs (report : StateReport sample c) (isState : c.kind ∈
    [.stateDeploymentVersion, .stateConfigValue, .stateFlag, .stateReplicas])
    (fails : (evaluateCheck sample c).ok = some false) : StateDiffers sample c := by
  cases there : stateSource sample c.kind with
  | none =>
    rw [report.source there] at fails
    cases fails
  | some source =>
    cases wanted : c.expected with
    | none =>
      rw [report.expects wanted] at fails
      cases fails
    | some e =>
      obtain ⟨b, ok, meaning⟩ := report.decides source e there wanted
      cases ok.symm.trans fails
      have unmet : ¬ StateMet sample c := fun met => by cases meaning.mpr (.inl met)
      exact stateDiffers_of_not_met isState there wanted unmet

/-- A check is reported as good when it is met, or reads an absent value as `None`. -/
theorem evaluateCheck_ok_iff (built : FromParameters c) :
    (evaluateCheck sample c).ok = some true ↔ CheckMet sample c ∨ ReadAsNone sample c := by
  cases kind : c.kind with
  | stateDeploymentVersion | stateConfigValue | stateFlag | stateReplicas =>
    have report : StateReport sample c := stateReport (by simp [kind]) built
    rw [report.ok_iff]
    simp only [CheckMet, kind]
  | healthStatus =>
    have other : ¬ ReadAsNone sample c := not_readAsNone (by simp [kind])
    have real : Json.null.eq (.str "healthy") = false := rfl
    simp only [evaluateCheck, CheckMet, kind, other, or_false]
    cases sample.health with
    | none => simp
    | some health => simp [sameValue_sourceField real]
  | metricMax =>
    have other : ¬ ReadAsNone sample c := not_readAsNone (by simp [kind])
    obtain ⟨name, maximum, named, notEmpty, limited⟩ := built.metric kind
    simp only [evaluateCheck, CheckMet, kind, other, or_false, limited, named]
    constructor
    · intro passes
      obtain ⟨x, read, below⟩ := Option.map_eq_some_iff.mp passes
      obtain ⟨n, same, present⟩ := metric_eq_some read
      cases same
      exact ⟨name, x, maximum, rfl, present, rfl, below⟩
    · rintro ⟨n, x, m, same, present, limit, below⟩
      cases same
      cases limit
      rw [metric_of_present notEmpty present, Option.map_some, below]
  | alertsNoNewFiring =>
    have other : ¬ ReadAsNone sample c := not_readAsNone (by simp [kind])
    simp only [evaluateCheck, CheckMet, kind, other, or_false]
    cases sample.newFiringAlerts with
    | none => simp
    | some n => simp

end

/-! ## A whole sample -/

section
variable {spec : VerificationSpec} {sample : Sample}

theorem evaluateSample_passed_iff :
    (evaluateSample spec sample).passed = true ↔
      sample.errors = [] ∧ ∀ c ∈ spec.checks, (evaluateCheck sample c).ok = some true := by
  simp only [evaluateSample, Bool.and_eq_true, List.isEmpty_iff, List.all_eq_true, List.mem_map,
    forall_exists_index, and_imp, forall_apply_eq_imp_iff₂, beq_iff_eq]
  constructor
  · rintro ⟨⟨quiet, _⟩, passes⟩
    exact ⟨quiet, passes⟩
  · rintro ⟨quiet, passes⟩
    refine ⟨⟨quiet, ?_⟩, passes⟩
    intro c member
    rw [passes c member]
    rfl

/-- A definitive failure is the detail of a definitive check that is reported as bad. -/
theorem definitiveFailure_some {text : String}
    (failed : (evaluateSample spec sample).definitiveFailure = some text) :
    ∃ c ∈ spec.checks, c.definitive = true ∧ (evaluateCheck sample c).ok = some false ∧
      (evaluateCheck sample c).detail = text := by
  obtain ⟨⟨c, r⟩, found, detail⟩ := Option.map_eq_some_iff.mp failed
  have bad := List.find?_some found
  have member := List.mem_of_find?_eq_some found
  rw [← List.map_prod_left_eq_zip] at member
  obtain ⟨c', listed, pair⟩ := List.mem_map.mp member
  cases pair
  simp only [Bool.and_eq_true, beq_iff_eq] at bad
  exact ⟨c, listed, bad.1, bad.2, detail⟩

/-- The sample met every check, and no error was reported. -/
structure Fulfilled (spec : VerificationSpec) (sample : Sample) : Prop where
  quiet : sample.errors = []
  met : ∀ c ∈ spec.checks, CheckMet sample c

/-- What a report on a sample may say: it passes only a sample that met every check, and it
fails at once only where a state check found its source without the expected value. -/
structure FaithfulReport (spec : VerificationSpec) (sample : Sample) : Prop where
  passes : ∀ result, evaluateSample? spec sample = some result → result.passed = true →
    Fulfilled spec sample
  fails : ∀ result, evaluateSample? spec sample = some result →
    result.definitiveFailure.isSome = true → ∃ c ∈ spec.checks, StateDiffers sample c

/-- A sample without errors that meets every check, but for configuration values that are
expected to be the text `None` and are absent. -/
structure AbsenceMisread (spec : VerificationSpec) (sample : Sample) : Prop where
  readable : spec.checks.all (CheckSpec.readable sample) = true
  quiet : sample.errors = []
  absent : ∃ c ∈ spec.checks, ReadAsNone sample c
  others : ∀ c ∈ spec.checks, CheckMet sample c ∨ ReadAsNone sample c

theorem ReadAsNone.not_met {c : CheckSpec} (read : ReadAsNone sample c) : ¬ CheckMet sample c := by
  obtain ⟨kind, _, source, there, absent⟩ := read
  simp only [CheckMet, kind]
  rintro ⟨source', value, _, there', present, _⟩
  rw [kind] at there'
  cases there.symm.trans there'
  rw [absent] at present
  cases present

theorem evaluateSample?_eq_some {result : ObservationResult}
    (reported : evaluateSample? spec sample = some result) :
    spec.checks.all (CheckSpec.readable sample) = true ∧ result = evaluateSample spec sample := by
  unfold evaluateSample? at reported
  split_ifs at reported with readable
  cases reported
  exact ⟨readable, rfl⟩

theorem faithfulReport_iff_of_fromParameters (built : ∀ c ∈ spec.checks, FromParameters c) :
    FaithfulReport spec sample ↔ ¬ AbsenceMisread spec sample := by
  constructor
  · rintro faithful ⟨readable, quiet, ⟨c, listed, read⟩, others⟩
    have reported : evaluateSample? spec sample = some (evaluateSample spec sample) :=
      if_pos readable
    have passed : (evaluateSample spec sample).passed = true := by
      rw [evaluateSample_passed_iff]
      refine ⟨quiet, ?_⟩
      intro c' member
      exact (evaluateCheck_ok_iff (built c' member)).mpr (others c' member)
    exact read.not_met ((faithful.passes _ reported passed).met c listed)
  · intro honest
    constructor
    · intro result reported passed
      obtain ⟨readable, rfl⟩ := evaluateSample?_eq_some reported
      obtain ⟨quiet, good⟩ := evaluateSample_passed_iff.mp passed
      have others : ∀ c ∈ spec.checks, CheckMet sample c ∨ ReadAsNone sample c := by
        intro c member
        exact (evaluateCheck_ok_iff (built c member)).mp (good c member)
      refine ⟨quiet, ?_⟩
      intro c member
      rcases others c member with met | read
      · exact met
      · exact absurd ⟨readable, quiet, ⟨c, member, read⟩, others⟩ honest
    · intro result reported failed
      obtain ⟨_, rfl⟩ := evaluateSample?_eq_some reported
      obtain ⟨text, detail⟩ := Option.isSome_iff_exists.mp failed
      obtain ⟨c, member, definitive, bad, _⟩ := definitiveFailure_some detail
      have isState := (built c member).definitive definitive
      exact ⟨c, member, (stateReport isState (built c member)).differs isState bad⟩

end

/-- The report on a sample is faithful, unless the sample is one that misreads an absent
configuration value. -/
theorem faithfulReport_iff {entry : ActionCatalogEntry} (listed : entry ∈ catalog)
    {parameters : Dict} {params : Params}
    (valid : (entry.validate parameters).1 = some params) {baseline : Option Dict}
    {timeScale : ℚ} {spec : VerificationSpec}
    (built : buildSpec entry.verification entry.actionId parameters baseline timeScale = .ok spec)
    (sample : Sample) : FaithfulReport spec sample ↔ ¬ AbsenceMisread spec sample :=
  faithfulReport_iff_of_fromParameters (buildSpec_fromParameters listed valid built)

/-! ## A key that is gone -/

/-- A revert of the one managed key to the text `None`. -/
def revertToNone : Dict :=
  [("service", .str "payments"), ("key", .str "request_pipeline_config_version"),
    ("from_value", .str "v2"), ("to_value", .str "None")]

/-- A healthy service whose configuration source holds no value of the key. -/
def keylessSample : Sample where
  health := some
    [("status", .str "healthy"),
      ("signals", .object [("error_rate", .float ⟨.finite (1 / 1000), "0.001"⟩)])]
  config := some [("effective", .object [])]
  newFiringAlerts := some 0

/-- The last entry of the catalog, `revert_configuration`. -/
def revertEntry : ActionCatalogEntry := catalog.getLast (by simp [catalog])

/-- The specification of the revert. -/
def revertSpec : VerificationSpec where
  policyVersion := verificationPolicyVersion
  actionId := "revert_configuration"
  targetService := "payments"
  graceSeconds := (45 : Nat) * max 1 0
  windowSeconds := (240 : Nat) * max 1 0
  pollIntervalSeconds := (15 : Nat) * max 1 0
  timeoutSeconds := (315 : Nat) * max 1 0
  requiredConsecutive := 3
  checks :=
    [{ kind := .stateConfigValue, key := some "request_pipeline_config_version"
       expected := some (.str "None"), definitive := true },
     { kind := .healthStatus, expected := some (.str "healthy") },
     { kind := .metricMax, metric := some "error_rate"
       maxValue := some ⟨.finite (1 / 20), "0.05"⟩ },
     { kind := .alertsNoNewFiring, expected := some (.int 0) }]

theorem revertSpec_built :
    buildSpec revertEntry.verification revertEntry.actionId revertToNone none 1 =
      .ok revertSpec := rfl

theorem revertToNone_valid : ∃ params, (revertEntry.validate revertToNone).1 = some params :=
  Option.isSome_iff_exists.mp (by decide +kernel)

theorem faithfulReport_revertToNone :
    FaithfulReport revertSpec { keylessSample with config := none } ↔
      ¬ AbsenceMisread revertSpec { keylessSample with config := none } := by
  obtain ⟨params, valid⟩ := revertToNone_valid
  exact faithfulReport_iff (List.getLast_mem _) valid revertSpec_built
    { keylessSample with config := none }

theorem not_faithfulReport :
    ¬ ∀ entry ∈ catalog, ∀ parameters params, (entry.validate parameters).1 = some params →
      ∀ baseline timeScale spec,
        buildSpec entry.verification entry.actionId parameters baseline timeScale = .ok spec →
          ∀ sample, FaithfulReport spec sample := by
  intro faithful
  obtain ⟨params, valid⟩ := revertToNone_valid
  have report := faithful revertEntry (List.getLast_mem _) revertToNone params valid none 1
    revertSpec revertSpec_built keylessSample
  have reported : evaluateSample? revertSpec keylessSample =
      some (evaluateSample revertSpec keylessSample) := if_pos (by decide)
  have passed : (evaluateSample revertSpec keylessSample).passed = true := by decide +kernel
  -- the configuration check passed, on a source without the key
  have met := (report.passes _ reported passed).met _ List.mem_cons_self
  obtain ⟨source, value, _, there, present, _⟩ := met
  cases there
  cases present

end IncidentTriage.Verified
