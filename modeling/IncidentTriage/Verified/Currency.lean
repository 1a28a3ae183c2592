import IncidentTriage.Evidence.Changes
import IncidentTriage.Verified.RetrySafety

/-! # What is running, as the evidence and as the executor say

The evidence reports the last record of an environment (and of a configuration key); the
executor compares with the last record of the registry.  They agree when the last record
is of that environment and key.  Then a proposal made from current evidence is carried
out, and one made from stale evidence is refused, unless what it wants is in place.
-/

namespace IncidentTriage.Verified

open IncidentTriage.Python IncidentTriage.Domain IncidentTriage.Remediation
  IncidentTriage.Remediation.SimulatorExecutor IncidentTriage.Evidence

/-! ## The last record -/

/-- The tail that is scanned ends as the registry does. -/
theorem scanned_concat (records : List Dict) (last : Dict) :
    ∃ before, scanned (records ++ [last]) = before ++ [last] := by
  refine ⟨records.drop ((records ++ [last]).length - maxRecordsScanned), ?_⟩
  rw [scanned, List.drop_append_of_le_length]
  rw [List.length_append, maxRecordsScanned, List.length_singleton]
  omega

section
variable {fromIsoformat : Json → Option Time} {field : String} {keep : Time → Bool}

/-- A list of which everything is kept. -/
theorem keepByTs_all {records kept : List Dict}
    (all : ∀ record ∈ records, ∀ at_, parseTs fromIsoformat field record = some at_ →
      keep at_ = true)
    (done : keepByTs fromIsoformat field keep records = some kept) : kept = records := by
  induction records generalizing kept with
  | nil => exact (Option.some.inj done).symm
  | cons record records ih =>
    simp only [keepByTs, Option.bind_eq_bind, Option.bind_eq_some_iff] at done
    obtain ⟨at_, parsed, later, rest, ends⟩ := done
    rw [all record (List.mem_cons_self ..) at_ parsed, if_pos rfl] at ends
    cases ends
    rw [ih (fun r member => all r (List.mem_cons_of_mem _ member)) rest]

/-- What is effective after one more record. -/
theorem effectiveConfig_concat {records : List Dict} {effective after : Dict} {record : Dict}
    (done : effectiveConfig effective (records ++ [record]) = some after) :
    ∃ key value, Dict.get? record "key" = some key ∧ Dict.get? record "new_value" = some value ∧
      Dict.get? after (cleanText key.text 120) = some value := by
  induction records generalizing effective with
  | nil =>
    simp only [List.nil_append, effectiveConfig, Option.bind_eq_bind,
      Option.bind_eq_some_iff] at done
    obtain ⟨key, named, value, valued, ends⟩ := done
    refine ⟨key, value, named, valued, ?_⟩
    cases ends
    rw [Dict.get?, lookup_dictSet, if_pos rfl]
  | cons r records ih =>
    simp only [List.cons_append, effectiveConfig, Option.bind_eq_bind,
      Option.bind_eq_some_iff] at done
    obtain ⟨key, named, value, valued, rest⟩ := done
    exact ih rest

end

/-- The records that an observation at a late time takes: those of the environment. -/
theorem asOfEnd_eq {fromIsoformat : Json → Option Time} {field : String} {end_ : Time}
    {registry asOfEnd : List Dict} {environment : String}
    (late : ∀ record ∈ registry, ∀ at_, parseTs fromIsoformat field record = some at_ →
      at_ ≤ end_)
    (done : keepByTs fromIsoformat field (fun at_ => at_ ≤ end_)
      ((scanned registry).filter (ofEnvironment environment)) = some asOfEnd) :
    asOfEnd = (scanned registry).filter (ofEnvironment environment) := by
  apply keepByTs_all _ done
  intro record member at_ parsed
  have listed := List.mem_of_mem_drop (List.mem_filter.mp member).1
  exact decide_eq_true (late record listed at_ parsed)

/-- Of a registry whose last record is of the environment, the last record is taken last. -/
theorem filter_scanned_concat {environment : String} (records : List Dict) {last : Dict}
    (mine : ofEnvironment environment last = true) :
    ∃ before, (scanned (records ++ [last])).filter (ofEnvironment environment) =
      before ++ [last] := by
  obtain ⟨before, ends⟩ := scanned_concat records last
  refine ⟨before.filter (ofEnvironment environment), ?_⟩
  rw [ends, List.filter_append, List.filter_singleton, mine, cond_true]

/-! ## What the evidence reports -/

/-- The version of the current deployment, as observed. -/
def reportedVersion (observation : DeploymentsObservation) : Json :=
  (observation.current.bind (fun view => Dict.get? view "version")).getD .null

/-- The effective value of a key, as observed. -/
def reportedValue (observation : ConfigObservation) (key : String) : Json :=
  (Dict.get? observation.effectiveConfig key).getD .null

/-- An observation of what an action compares, at a time that is not before any record of the
environment, reports this value. -/
inductive Reports (fromIsoformat : Json → Option Time) (environment : String) (params : Params)
    (production : Production) : Json → Prop
  | deployment {start end_ : Time} {limit : Nat} {observation : DeploymentsObservation}
      (model : params.model = .rollbackDeployment)
      (late : ∀ record ∈ production.deployments (params.text "service"),
        ∀ at_, parseTs fromIsoformat "deployed_at" record = some at_ → at_ ≤ end_)
      (observed : deployments fromIsoformat (production.deployments (params.text "service"))
        environment start end_ limit = some observation) :
      Reports fromIsoformat environment params production (reportedVersion observation)
  | config {start end_ : Time} {limit : Nat} {observation : ConfigObservation}
      (model : params.model = .revertConfiguration)
      (late : ∀ record ∈ production.configs (params.text "service"),
        ∀ at_, parseTs fromIsoformat "changed_at" record = some at_ → at_ ≤ end_)
      (observed : configChanges fromIsoformat (production.configs (params.text "service"))
        environment start end_ limit = some observation) :
      Reports fromIsoformat environment params production
        (reportedValue observation (params.text "key"))

/-- The last record of the registry, if there is one, is of the environment, and of the
configuration key. -/
def LastIsOf (environment : String) (params : Params) (production : Production) : Prop :=
  let service := params.text "service"
  match params.model with
  | .rollbackDeployment => ∀ last, (production.deployments service).getLast? = some last →
      ofEnvironment environment last = true
  | .revertConfiguration => ∀ last, (production.configs service).getLast? = some last →
      ofEnvironment environment last = true ∧
        Dict.get? last "key" = some (.str (params.text "key"))
  | _ => True

section
variable {fromIsoformat : Json → Option Time} {environment : String} {params : Params}
  {production : Production} {value : Json}

/-- The deployment that is observed as current is the last one of the environment. -/
theorem deployments_current {registry : List Dict} {start end_ : Time} {limit : Nat}
    {observation : DeploymentsObservation}
    (late : ∀ record ∈ registry, ∀ at_, parseTs fromIsoformat "deployed_at" record = some at_ →
      at_ ≤ end_)
    (observed : deployments fromIsoformat registry environment start end_ limit =
      some observation) :
    observation.current =
      ((scanned registry).filter (ofEnvironment environment)).getLast?.map deploymentView := by
  simp only [deployments, Option.bind_eq_bind, Option.bind_eq_some_iff] at observed
  obtain ⟨asOfEnd, taken, _, -, _, -, _, -, _, -, ends⟩ := observed
  cases ends
  rw [asOfEnd_eq late taken]

theorem configChanges_effective {registry : List Dict} {start end_ : Time} {limit : Nat}
    {observation : ConfigObservation}
    (late : ∀ record ∈ registry, ∀ at_, parseTs fromIsoformat "changed_at" record = some at_ →
      at_ ≤ end_)
    (observed : configChanges fromIsoformat registry environment start end_ limit =
      some observation) :
    effectiveConfig [] ((scanned registry).filter (ofEnvironment environment)) =
      some observation.effectiveConfig := by
  simp only [configChanges, Option.bind_eq_bind, Option.bind_eq_some_iff] at observed
  obtain ⟨asOfEnd, taken, _, -, effective, known, _, -, _, -, ends⟩ := observed
  cases ends
  rw [← asOfEnd_eq late taken, known]

/-- The executor's key is short and has nothing to clean. -/
theorem cleanText_configKeyName : cleanText configKeyName 120 = configKeyName := by
  decide

/-- The evidence and the executor agree on what is in place. -/
theorem Reports.eq_inPlace (reports : Reports fromIsoformat environment params production value)
    (lastIsOf : LastIsOf environment params production) (known : compares params = true) :
    value = (inPlace params production).getD .null := by
  cases reports with
  | deployment model late observed =>
    have current := deployments_current late observed
    simp only [LastIsOf, model] at lastIsOf
    simp only [inPlace, model, reportedVersion, current]
    rcases List.eq_nil_or_concat (production.deployments (params.text "service")) with
      empty | ⟨records, last, ends⟩
    · rw [empty]
      rfl
    · rw [ends, List.concat_eq_append] at lastIsOf ⊢
      obtain ⟨before, taken⟩ := filter_scanned_concat records
        (lastIsOf last List.getLast?_concat)
      rw [taken, List.getLast?_concat, List.getLast?_concat]
      rfl
  | config model late observed =>
    have effective := configChanges_effective late observed
    simp only [LastIsOf, model] at lastIsOf
    simp only [inPlace, model, reportedValue]
    have key : params.text "key" = configKeyName := by
      simpa only [compares, model, beq_iff_eq] using known
    rcases List.eq_nil_or_concat (production.configs (params.text "service")) with
      empty | ⟨records, last, ends⟩
    · rw [empty] at effective ⊢
      rw [← Option.some.inj effective]
      rfl
    · rw [ends, List.concat_eq_append] at lastIsOf effective ⊢
      obtain ⟨mine, named⟩ := lastIsOf last List.getLast?_concat
      obtain ⟨before, taken⟩ := filter_scanned_concat records mine
      rw [taken] at effective
      obtain ⟨_, value, named', valued, found⟩ := effectiveConfig_concat effective
      rw [named] at named'
      cases named'
      rw [key] at found ⊢
      rw [show (Json.str configKeyName).text = configKeyName from rfl, cleanText_configKeyName]
        at found
      rw [found, List.getLast?_concat]
      simp only [recordField, Option.bind_some, valued]

end

/-! ## What the executor answers -/

/-- The action is refused because its target is not as the proposal expects it. -/
def TargetChanged (r : ExecutorResult) : Prop :=
  r.succeeded = false ∧ ∃ rest, r.error = some ("target changed: " ++ rest)

/-- The answer of an action that compares, against the value that is in place. -/
structure AnswersTo (value : Json) (params : Params) (r : ExecutorResult)
    (before after : Production) : Prop where
  current : value.eq (expectedValue params) = true → ¬ TargetChanged r
  stale : value.eq (expectedValue params) = false → value.eq (wantedValue params) = false →
    TargetChanged r
  noOp : value.eq (wantedValue params) = true → r.succeeded = true ∧
    Dict.get? r.detail "no_op" = some (.bool true) ∧
    after.deployments = before.deployments ∧ after.configs = before.configs

section
variable {m : Moment} {request : ExecutionRequest} {params : Params} {s : Simulator}

/-- What clearing a fault leaves alone. -/
theorem clearFault_registries (service : String) (scenarios : List String) (s : Simulator) :
    ((clearFault service scenarios).run s).2.production.deployments = s.production.deployments ∧
      ((clearFault service scenarios).run s).2.production.configs = s.production.configs := by
  simp only [clearFault, Script.run_bind, Script.run_read]
  cases faultAmong scenarios (s.production.chaos service) <;> exact ⟨rfl, rfl⟩

/-- The three ways of an action that compares. -/
theorem answersTo_of_cases {value : Json} {r : ExecutorResult} {before after : Production}
    (already : value.eq (wantedValue params) = true →
      r.succeeded = true ∧ Dict.get? r.detail "no_op" = some (.bool true) ∧
        after.deployments = before.deployments ∧ after.configs = before.configs)
    (changed : value.eq (wantedValue params) = false → value.eq (expectedValue params) = false →
      TargetChanged r)
    (acts : value.eq (wantedValue params) = false → value.eq (expectedValue params) = true →
      r.succeeded = true) : AnswersTo value params r before after where
  current expects := by
    rintro ⟨refused, -⟩
    have success : r.succeeded = true := by
      cases wants : value.eq (wantedValue params) with
      | true => exact (already wants).1
      | false => exact acts wants expects
    rw [success] at refused
    cases refused
  stale other wants := changed wants other
  noOp := already

theorem rollbackDeployment_answers (model : params.model = .rollbackDeployment) :
    AnswersTo ((inPlace params s.production).getD .null) params
      ((rollbackDeployment m request params).run s).1 s.production
      ((rollbackDeployment m request params).run s).2.production := by
  let running := recordField (s.production.deployments (params.text "service")).getLast? "version"
  have place : inPlace params s.production = running := by simp only [inPlace, model, running]
  have wanted : wantedValue params = params.value "to_version" := by simp only [wantedValue, model]
  have expected : expectedValue params = params.value "from_version" := by
    simp only [expectedValue, model]
  rw [place]
  apply answersTo_of_cases <;> rw [wanted] <;> try rw [expected]
  · intro (there : fieldEq running (params.value "to_version") = true)
    have runs : (rollbackDeployment m request params).run s =
        (alreadyThere "already_at" (params.value "to_version")
            ((clearFault (params.text "service") ["bad-deployment"]).run s).1,
          ((clearFault (params.text "service") ["bad-deployment"]).run s).2) := by
      simp [rollbackDeployment, Script.run_bind, currentDeployment, running, there]
    rw [runs]
    exact ⟨rfl, rfl, clearFault_registries _ _ s⟩
  · intro (other : fieldEq running (params.value "to_version") = false)
      (unexpected : fieldEq running (params.value "from_version") = false)
    have runs : ((rollbackDeployment m request params).run s).1 =
        { succeeded := false
          detail := [("running", running.getD .null)]
          error := some ("target changed: " ++ params.text "service" ++ " runs " ++
            textOr running ++ ", not " ++ params.text "from_version") } := by
      simp [rollbackDeployment, Script.run_bind, currentDeployment, running, other, unexpected]
    rw [runs]
    refine ⟨rfl, params.text "service" ++ (" runs " ++ (textOr running ++ (", not " ++
      params.text "from_version"))), ?_⟩
    simp only [String.append_assoc]
  · intro (other : fieldEq running (params.value "to_version") = false)
      (here : fieldEq running (params.value "from_version") = true)
    simp [rollbackDeployment, Script.run_bind, currentDeployment, running, other, here, rolledBack]

theorem revertConfiguration_answers (model : params.model = .revertConfiguration)
    (known : compares params = true) :
    AnswersTo ((inPlace params s.production).getD .null) params
      ((revertConfiguration m request params).run s).1 s.production
      ((revertConfiguration m request params).run s).2.production := by
  let current := recordField (s.production.configs (params.text "service")).getLast? "new_value"
  have place : inPlace params s.production = current := by simp only [inPlace, model, current]
  have wanted : wantedValue params = params.value "to_value" := by simp only [wantedValue, model]
  have expected : expectedValue params = params.value "from_value" := by
    simp only [expectedValue, model]
  have key : params.text "key" = configKeyName := by
    simpa only [compares, model, beq_iff_eq] using known
  rw [place]
  apply answersTo_of_cases <;> rw [wanted] <;> try rw [expected]
  · intro (there : fieldEq current (params.value "to_value") = true)
    have runs : (revertConfiguration m request params).run s =
        (alreadyThere "already" (current.getD .null)
            ((clearFault (params.text "service") ["bad-configuration"]).run s).1,
          ((clearFault (params.text "service") ["bad-configuration"]).run s).2) := by
      simp [revertConfiguration, key, Script.run_bind, currentConfig, current, there]
    rw [runs]
    exact ⟨rfl, rfl, clearFault_registries _ _ s⟩
  · intro (other : fieldEq current (params.value "to_value") = false)
      (unexpected : fieldEq current (params.value "from_value") = false)
    have runs : ((revertConfiguration m request params).run s).1 =
        { succeeded := false
          detail := [("current", current.getD .null)]
          error := some ("target changed: " ++ params.text "key" ++ " is " ++ reprOr current ++
            ", not " ++ (params.value "from_value").repr) } := by
      simp [revertConfiguration, key, Script.run_bind, currentConfig, current, other, unexpected]
    rw [runs]
    refine ⟨rfl, params.text "key" ++ (" is " ++ (reprOr current ++ (", not " ++
      (params.value "from_value").repr))), ?_⟩
    simp only [String.append_assoc]
  · intro (other : fieldEq current (params.value "to_value") = false)
      (here : fieldEq current (params.value "from_value") = true)
    simp [revertConfiguration, key, Script.run_bind, currentConfig, current, other, here, reverted]

theorem handler_answers (m : Moment) (request : ExecutionRequest) (s : Simulator)
    (known : compares params = true) :
    AnswersTo ((inPlace params s.production).getD .null) params
      ((handler m request params).run s).1 s.production
      ((handler m request params).run s).2.production := by
  cases model : params.model with
  | restartService => simp [compares, model] at known
  | scaleService => simp [compares, model] at known
  | disableFeatureFlag => simp [compares, model] at known
  | rollbackDeployment =>
    simp only [handler, model]
    exact rollbackDeployment_answers model
  | revertConfiguration =>
    simp only [handler, model]
    exact revertConfiguration_answers model known

/-- An execution answers what its action answers, and leaves production as the action does. -/
theorem execute_run (accepted : Accepted m request params s) :
    ((execute m request).run s).1 = .ok ((handler m request params).run s).1 ∧
      ((execute m request).run s).2.production =
        ((handler m request params).run s).2.production := by
  obtain ⟨next, starts, goes⟩ := accepted.execute_eq
  rw [starts, Script.run_act, goes, going, recording, Script.run_bind, Script.run_bind]
  exact ⟨rfl, rfl⟩

end

/-! ## Proposals made from evidence -/

/-- What the evidence reports of a registry that ends with a record of the environment and key is
what the executor compares with: a proposal made from it is not refused, and one made from
anything else is, unless what it wants is in place. -/
theorem evidence_agrees {fromIsoformat : Json → Option Time} {m : Moment}
    {request : ExecutionRequest} {params : Params} {s : Simulator} {value : Json}
    (accepted : Accepted m request params s) (known : compares params = true)
    (lastIsOf : LastIsOf request.environment params s.production)
    (reports : Reports fromIsoformat request.environment params s.production value) :
    value = (inPlace params s.production).getD .null ∧
      ∃ r, ((execute m request).run s).1 = .ok r ∧
        AnswersTo value params r s.production ((execute m request).run s).2.production := by
  have agree := reports.eq_inPlace lastIsOf known
  obtain ⟨answer, leaves⟩ := execute_run accepted
  refine ⟨agree, _, answer, ?_⟩
  rw [leaves, agree]
  exact handler_answers m request s known

/-! ## Registries of one service -/

/-- The one timestamp of the records below. -/
def newYear : Json → Option Time
  | .str "2026-01-01T00:00:00+00:00" => some 0
  | _ => none

def deploymentRecord (environment version : String) : Dict :=
  [("deployment_id", .str version), ("environment", .str environment), ("version", .str version),
    ("deployed_at", .str "2026-01-01T00:00:00+00:00")]

def registrySimulator (records : List Dict) : Simulator :=
  ⟨⟨fun _ => none, fun _ => none, fun _ => records, fun _ => [], fun _ _ => none⟩, fun _ => none,
    fun _ => []⟩

def rollbackParams : Params :=
  ⟨.rollbackDeployment, [("service", .str "checkout"), ("from_version", .str "v2"),
    ("to_version", .str "v1")]⟩

theorem rollbackRequest_accepted (records : List Dict) :
    Accepted ⟨0, "", .null, "a"⟩ rollbackRequest rollbackParams (registrySimulator records) :=
  ⟨rfl, rfl, by decide⟩

/-- One deployment to production, and perhaps one to another environment after it. -/
theorem registrySimulator_reports (version : String) {others : List Dict}
    (elsewhere : others = [] ∨ others = [deploymentRecord "staging" "v9"]) :
    Reports newYear "production" rollbackParams
      (registrySimulator (deploymentRecord "production" version :: others)).production
      (.str version) := by
  have late : ∀ record : Dict, ∀ at_, parseTs newYear "deployed_at" record = some at_ →
      at_ ≤ 9 := by
    intro record at_ parsed
    simp only [parseTs, Option.bind_eq_some_iff] at parsed
    obtain ⟨value, -, dated⟩ := parsed
    unfold newYear at dated
    split at dated
    · cases dated
      decide
    · cases dated
  have observed : deployments newYear (deploymentRecord "production" version :: others)
      "production" 5 9 10 =
        some ⟨some (deploymentView (deploymentRecord "production" version)), [], 0, [], false,
          0⟩ := by
    rcases elsewhere with rfl | rfl <;>
      simp [deployments, scanned, maxRecordsScanned, ofEnvironment, deploymentRecord, Dict.get?,
        List.lookup_cons, Json.eq, keepByTs, parseTs, newYear, latestFirst, observedAt,
        summaryVersion]
  have reports : Reports newYear "production" rollbackParams
      (registrySimulator (deploymentRecord "production" version :: others)).production
      (reportedVersion ⟨some (deploymentView (deploymentRecord "production" version)), [], 0, [],
        false, 0⟩) :=
    .deployment rfl (fun record _ => late record) observed
  exact reports

/-- The current deployment is rolled back. -/
theorem evidence_agrees_rollback :
    Json.str "v2" = (inPlace rollbackParams
        (registrySimulator [deploymentRecord "production" "v2"]).production).getD .null ∧
      ∃ r, ((execute ⟨0, "", .null, "a"⟩ rollbackRequest).run
          (registrySimulator [deploymentRecord "production" "v2"])).1 = .ok r ∧
        AnswersTo (.str "v2") rollbackParams r
          (registrySimulator [deploymentRecord "production" "v2"]).production
          ((execute ⟨0, "", .null, "a"⟩ rollbackRequest).run
            (registrySimulator [deploymentRecord "production" "v2"])).2.production :=
  evidence_agrees (rollbackRequest_accepted _) rfl
    (fun last found => by cases found; rfl) (registrySimulator_reports "v2" (.inl rfl))

/-- Another environment's record may be the last one; and a stale proposal whose target is in
place already is not refused. -/
theorem not_evidence_agrees :
    (¬ ∀ (fromIsoformat : Json → Option Time) (m : Moment) (request : ExecutionRequest)
      (params : Params) (s : Simulator) (value : Json), Accepted m request params s →
      compares params = true →
      Reports fromIsoformat request.environment params s.production value →
      value = (inPlace params s.production).getD .null) ∧
    ¬ ∀ (fromIsoformat : Json → Option Time) (m : Moment) (request : ExecutionRequest)
      (params : Params) (s : Simulator) (value : Json), Accepted m request params s →
      compares params = true →
      Reports fromIsoformat request.environment params s.production value →
      value.eq (expectedValue params) = false →
      ∃ r, ((execute m request).run s).1 = .ok r ∧ TargetChanged r := by
  constructor
  · intro claim
    have agree := claim newYear _ rollbackRequest _ _ _ (rollbackRequest_accepted _) rfl
      (registrySimulator_reports "v1" (.inr rfl))
    replace agree : Json.str "v1" = .str "v9" := agree
    simp at agree
  · intro claim
    obtain ⟨r, answer, refused, -⟩ := claim newYear _ rollbackRequest _ _ _
      (rollbackRequest_accepted _) rfl (registrySimulator_reports "v1" (.inl rfl)) rfl
    cases answer
    cases refused

end IncidentTriage.Verified
