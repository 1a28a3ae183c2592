import IncidentTriage.Verified.Currency

/-! # Where a rollback leads

A rollback names the version to return to, and the executor looks that version up in the
deployments of the service for its commit.  A version that was never deployed is not
found; the executor then records it without a commit.  `rollback_goesBack_iff` says when a
rollback does return to an earlier deployment.
-/

namespace IncidentTriage.Verified

open IncidentTriage.Python IncidentTriage.Domain IncidentTriage.Remediation
  IncidentTriage.Remediation.SimulatorExecutor

/-! ## The history of a service -/

/-- A deployment of the version, in the history of a service. -/
structure DeployedAs (history : List Dict) (version : Json) (record : Dict) : Prop where
  listed : record ∈ history
  version : fieldEq (Dict.get? record "version") version = true

/-- The version was deployed to the service. -/
def WasDeployed (history : List Dict) (version : Json) : Prop :=
  ∃ record, DeployedAs history version record

theorem wasDeployed_iff {history : List Dict} {version : Json} :
    WasDeployed history version ↔
      ∃ record, history.reverse.find?
        (fun record => fieldEq (Dict.get? record "version") version) = some record := by
  constructor
  · rintro ⟨record, listed, same⟩
    apply Option.isSome_iff_exists.mp
    rw [List.find?_isSome]
    exact ⟨record, List.mem_reverse.mpr listed, same⟩
  · rintro ⟨record, found⟩
    have same := List.find?_some found
    have listed := List.mem_of_find?_eq_some found
    exact ⟨record, List.mem_reverse.mp listed, same⟩

/-- What the service runs, by the last record of its history. -/
def running (history : List Dict) : Option Json := recordField history.getLast? "version"

/-- What runs was deployed. -/
theorem wasDeployed_of_running {history : List Dict} {version : Json} (real : version ≠ .null)
    (here : fieldEq (running history) version = true) : WasDeployed history version := by
  cases last : history.getLast? with
  | none =>
    rw [running, last] at here
    cases version with
    | null => exact absurd rfl real
    | bool _ | int _ | float _ | str _ | list _ | object _ => cases here
  | some record =>
    rw [running, last] at here
    exact ⟨record, List.mem_of_getLast? last, here⟩

/-! ## The rollback -/

/-- The service is at a version it had before: nothing was recorded, or one deployment was,
with the commit of an earlier deployment of that version. -/
structure BackAt (version : Json) (before after : List Dict) : Prop where
  runs : fieldEq (running after) version = true
  earlier : WasDeployed before version
  commit : after = before ∨ ∃ record entry, DeployedAs before version record ∧
    after = before ++ [entry] ∧
      Dict.get? entry "commit_sha" = some ((Dict.get? record "commit_sha").getD .null)

/-- A rollback that succeeds leads back, and one to a version that was never deployed is
refused and records nothing. -/
structure GoesBack (params : Params) (before after : Production) (r : ExecutorResult) : Prop where
  success : r.succeeded = true →
    BackAt (params.value "to_version") (before.deployments (params.text "service"))
      (after.deployments (params.text "service"))
  unknown : ¬ WasDeployed (before.deployments (params.text "service"))
      (params.value "to_version") →
    r.succeeded = false ∧ after.deployments = before.deployments

section
variable {m : Moment} {request : ExecutionRequest} {params : Params} {s : Simulator}

/-- The entry that a rollback appends. -/
def rollbackEntry (m : Moment) (request : ExecutionRequest) (params : Params)
    (history : List Dict) : Dict :=
  rollbackRecord m (params.text "service") request.environment (params.value "to_version")
    history.getLast? (recordField (history.reverse.find?
      (fun record => fieldEq (Dict.get? record "version") (params.value "to_version")))
        "commit_sha")

/-- The three ways of a rollback: it is there already, the target changed, or one deployment
is recorded. -/
inductive RollbackWays (m : Moment) (request : ExecutionRequest) (params : Params)
    (before after : Production) (r : ExecutorResult) : Prop
  | already
      (here : fieldEq (running (before.deployments (params.text "service")))
        (params.value "to_version") = true)
      (done : r.succeeded = true) (same : after.deployments = before.deployments)
  | changed
      (elsewhere : fieldEq (running (before.deployments (params.text "service")))
        (params.value "to_version") = false)
      (unexpected : fieldEq (running (before.deployments (params.text "service")))
        (params.value "from_version") = false)
      (refused : r.succeeded = false) (same : after.deployments = before.deployments)
  | acts
      (elsewhere : fieldEq (running (before.deployments (params.text "service")))
        (params.value "to_version") = false)
      (expected : fieldEq (running (before.deployments (params.text "service")))
        (params.value "from_version") = true)
      (done : r.succeeded = true)
      (recorded : after.deployments (params.text "service") =
        before.deployments (params.text "service") ++
          [rollbackEntry m request params (before.deployments (params.text "service"))])

theorem rollbackDeployment_ways (m : Moment) (request : ExecutionRequest) (params : Params)
    (s : Simulator) :
    RollbackWays m request params s.production
      ((rollbackDeployment m request params).run s).2.production
      ((rollbackDeployment m request params).run s).1 := by
  have runs : recordField (s.production.deployments (params.text "service")).getLast? "version" =
      running (s.production.deployments (params.text "service")) := rfl
  cases here : fieldEq (running (s.production.deployments (params.text "service")))
      (params.value "to_version") with
  | true =>
    have ends : (rollbackDeployment m request params).run s =
        (alreadyThere "already_at" (params.value "to_version")
            ((clearFault (params.text "service") ["bad-deployment"]).run s).1,
          ((clearFault (params.text "service") ["bad-deployment"]).run s).2) := by
      simp [rollbackDeployment, Script.run_bind, currentDeployment, runs, here]
    rw [ends]
    exact .already here rfl (clearFault_registries _ _ s).1
  | false =>
    cases expected : fieldEq (running (s.production.deployments (params.text "service")))
        (params.value "from_version") with
    | false =>
      have ends : ((rollbackDeployment m request params).run s).1.succeeded = false ∧
          ((rollbackDeployment m request params).run s).2 = s := by
        simp [rollbackDeployment, Script.run_bind, currentDeployment, runs, here, expected]
      exact .changed here expected ends.1 (by rw [ends.2])
    | true =>
      let pushed := pushDeployment (params.text "service")
        (rollbackEntry m request params (s.production.deployments (params.text "service"))) s
      have ends : (rollbackDeployment m request params).run s =
          (rolledBack params (rollbackEntry m request params
              (s.production.deployments (params.text "service")))
            ((clearFault (params.text "service") ["bad-deployment"]).run pushed).1,
            ((clearFault (params.text "service") ["bad-deployment"]).run pushed).2) := by
        simp [rollbackDeployment, Script.run_bind, currentDeployment, findDeployment, runs, here,
          expected, recordRollback_run, pushed, rollbackEntry]
      rw [ends]
      refine .acts here expected rfl ?_
      rw [(clearFault_registries _ _ pushed).1]
      simp [pushed, pushDeployment]

/-- The version that a valid rollback returns to is a text. -/
theorem toVersion_str (model : params.model = .rollbackDeployment)
    (checked : checkRequest request = .ok params) :
    ∃ version, params.value "to_version" = .str version := by
  obtain ⟨raw, accepted⟩ := value_of_checked checked
    (f := ⟨"to_version", .pattern versionPattern⟩) (by simp [model, ParamsModel.fields])
  obtain ⟨version, _, parsed, _⟩ := FieldSchema.parse_pattern accepted
  exact ⟨version, parsed⟩

theorem RollbackWays.goesBack_iff {before after : Production} {r : ExecutorResult}
    {version : String} (named : params.value "to_version" = .str version)
    (ways : RollbackWays m request params before after r) :
    GoesBack params before after r ↔
      (WasDeployed (before.deployments (params.text "service")) (params.value "to_version") ∨
        fieldEq (running (before.deployments (params.text "service")))
          (params.value "from_version") = false) := by
  have real : params.value "to_version" ≠ .null := by simp [named]
  cases ways with
  | already here done same =>
    have deployed := wasDeployed_of_running real here
    constructor
    · intro _
      exact .inl deployed
    · intro _
      refine ⟨fun _ => ⟨?_, deployed, .inl (by rw [same])⟩, fun unknown => absurd deployed unknown⟩
      rw [same]
      exact here
  | changed elsewhere unexpected refused same =>
    constructor
    · intro _
      exact .inr unexpected
    · intro _
      refine ⟨fun done => ?_, fun _ => ⟨refused, same⟩⟩
      rw [refused] at done
      cases done
  | acts elsewhere expected done recorded =>
    constructor
    · intro goes
      exact .inl (goes.success done).earlier
    · intro allowed
      have deployed : WasDeployed (before.deployments (params.text "service"))
          (params.value "to_version") := by
        rcases allowed with deployed | unexpected
        · exact deployed
        · rw [expected] at unexpected
          cases unexpected
      obtain ⟨record, found⟩ := wasDeployed_iff.mp deployed
      have same := List.find?_some found
      have listed := List.mem_reverse.mp (List.mem_of_find?_eq_some found)
      refine ⟨fun _ => ⟨?_, deployed, .inr ⟨record, _, ⟨listed, same⟩, recorded, ?_⟩⟩,
        fun unknown => absurd deployed unknown⟩
      · have runs : running (after.deployments (params.text "service")) =
            some (.str version) := by
          rw [recorded, running, List.getLast?_concat]
          simp [rollbackEntry, rollbackRecord, recordField, Dict.get?, List.lookup_cons, named]
        rw [runs, named]
        exact beq_self_eq_true version
      · rw [rollbackEntry, found]
        rfl

/-- An accepted rollback goes back exactly when the version was deployed to the service, or
the service does not run the version that the proposal expects. -/
theorem rollback_goesBack_iff (accepted : Accepted m request params s)
    (model : params.model = .rollbackDeployment) :
    ∃ r, ((execute m request).run s).1 = .ok r ∧
      (GoesBack params s.production ((execute m request).run s).2.production r ↔
        (WasDeployed (s.production.deployments (params.text "service"))
            (params.value "to_version") ∨
          fieldEq (running (s.production.deployments (params.text "service")))
            (params.value "from_version") = false)) := by
  obtain ⟨version, named⟩ := toVersion_str model accepted.checked
  obtain ⟨answer, leaves⟩ := execute_run accepted
  have acts : handler m request params = rollbackDeployment m request params := by
    simp only [handler, model]
  refine ⟨_, answer, ?_⟩
  rw [leaves, acts]
  exact (rollbackDeployment_ways m request params s).goesBack_iff named

end

/-! ## A version that was never deployed -/

/-- From the second version of the checkout service back to the first. -/
theorem rollback_goesBack_iff_checkout :
    ∃ r, ((execute ⟨0, "", .null, "a"⟩ rollbackRequest).run deployedSimulator).1 = .ok r ∧
      (GoesBack rollbackParams deployedSimulator.production
          ((execute ⟨0, "", .null, "a"⟩ rollbackRequest).run deployedSimulator).2.production r ↔
        (WasDeployed (deployedSimulator.production.deployments (rollbackParams.text "service"))
            (rollbackParams.value "to_version") ∨
          fieldEq (running (deployedSimulator.production.deployments
            (rollbackParams.text "service"))) (rollbackParams.value "from_version") = false)) :=
  rollback_goesBack_iff ⟨rfl, rfl, by decide⟩ rfl

/-- The service has only ever run the second version. -/
def neverDeployed : Simulator :=
  registrySimulator [deploymentRecord "production" "v2"]

theorem not_rollback_goesBack :
    ¬ ∀ (m : Moment) (request : ExecutionRequest) (params : Params) (s : Simulator)
      (r : ExecutorResult), Accepted m request params s → params.model = .rollbackDeployment →
      ((execute m request).run s).1 = .ok r →
      GoesBack params s.production ((execute m request).run s).2.production r := by
  intro goesBack
  have goes := goesBack ⟨0, "", .null, "a"⟩ rollbackRequest rollbackParams neverDeployed _
    (rollbackRequest_accepted _) rfl rfl
  have missing : ¬ WasDeployed (neverDeployed.production.deployments "checkout") (.str "v1") := by
    rintro ⟨record, listed, same⟩
    cases List.mem_singleton.mp listed
    exact absurd same (by decide)
  exact absurd (goes.unknown missing).1 (by decide)

end IncidentTriage.Verified
