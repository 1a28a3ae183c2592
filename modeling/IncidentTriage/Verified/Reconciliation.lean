import IncidentTriage.Remediation.Executor

/-! # What the executor knows after a crash

An execution writes its idempotency record after the action, in an operation of its
own.  A crash before the action's first write, or after the record, leaves a record that
tells what happened; a crash in between leaves an effect that no record tells of.
-/

namespace IncidentTriage.Verified

open IncidentTriage.Python IncidentTriage.Domain IncidentTriage.Remediation
  IncidentTriage.Remediation.SimulatorExecutor

/-! ## What a record tells -/

/-- What the record's detail says of a field. -/
def told (r : ExecutorResult) (field : String) : Json := (Dict.get? r.detail field).getD .null

/-- The fault of the service is the one the record names, and deleted, or nothing is. -/
def FaultAsTold (service : String) (cleared : Json) (before after : String → Option Dict) : Prop :=
  cleared = .null ∧ after = before ∨
    ∃ scenario, cleared = .str scenario ∧
      recordField (before service) "scenario" = some (.str scenario) ∧
      after = Function.update before service none

/-- One record is appended to the registry of the service, or the record says that there was
nothing to do. -/
def AppendedAsTold (service : String) (r : ExecutorResult) (before after : String → List Dict)
    (fits : Dict → Prop) : Prop :=
  told r "no_op" = .bool true ∧ after = before ∨
    told r "no_op" = .null ∧ ∃ record, fits record ∧
      after = Function.update before service (before service ++ [record])

/-- The record describes the effect that took place between two states of production. -/
def Describes (params : Params) (before after : Production) (r : ExecutorResult) : Prop :=
  let service := params.text "service"
  if r.succeeded = false then after = before
  else
    match params.model with
    | .restartService => FaultAsTold service (told r "cleared_fault") before.chaos after.chaos ∧
        after = { before with chaos := after.chaos }
    | .scaleService => ∃ count,
        told r "replicas_before" = .int ((before.replicas service).getD 1) ∧
        told r "replicas_after" = .int count ∧
        after.replicas = Function.update before.replicas service (some count) ∧
        after = { before with replicas := after.replicas }
    | .rollbackDeployment =>
      FaultAsTold service (told r "cleared_fault") before.chaos after.chaos ∧
        AppendedAsTold service r before.deployments after.deployments (fun record =>
          Dict.get? record "deployment_id" = some (told r "deployment_id") ∧
          Dict.get? record "version" = some (told r "to_version")) ∧
        after = { before with chaos := after.chaos, deployments := after.deployments }
    | .disableFeatureFlag =>
      told r "previous" = optionalStr (before.flags service (params.text "flag")) ∧
        after.flags = Function.update before.flags service
          (Function.update (before.flags service) (told r "flag").text
            (some (told r "now").text)) ∧
        after = { before with flags := after.flags }
    | .revertConfiguration =>
      FaultAsTold service (told r "cleared_fault") before.chaos after.chaos ∧
        AppendedAsTold service r before.configs after.configs (fun record =>
          Dict.get? record "change_id" = some (told r "change_id") ∧
          Dict.get? record "key" = some (.str (told r "key").text) ∧
          Dict.get? record "new_value" = some (.str (told r "now").text)) ∧
        after = { before with chaos := after.chaos, configs := after.configs }

/-- After a crash, no record means no effect, and a record describes the effect; a record that
was there before stands for an earlier execution, and this one has no effect. -/
def TellsTruth (m : Moment) (request : ExecutionRequest) (s : Simulator) (n : Nat) : Prop :=
  let after := (execute m request).cutOff n s
  match ((inspect request.idempotencyKey).run after).1 with
  | none => after.production = s.production
  | some r =>
    if (s.applied request.idempotencyKey).isSome then after.production = s.production
    else ∃ params, checkRequest request = .ok params ∧
      Describes params s.production after.production r

/-! ## Where a crash is exposed -/

/-- The numbers of operations after which an action has had an effect and no record is
written: `first` is the number of the first write, and so many operations follow before the
record. -/
def exposedOps (production : Production) (params : Params) : List Nat :=
  let service := params.text "service"
  let faulty := fun scenarios => (faultAmong scenarios (production.chaos service)).isSome
  match params.model with
  | .restartService => if faulty restartClears then [3] else []
  | .scaleService =>
    if (production.replicas service).getD 1 + increaseBy params ≤ maxReplicas ∧
        production.replicas service ≠
          some ((production.replicas service).getD 1 + increaseBy params) then [3]
    else []
  | .rollbackDeployment =>
    let running := recordField (production.deployments service).getLast? "version"
    if fieldEq running (params.value "to_version") then
      if faulty ["bad-deployment"] then [4] else []
    else if fieldEq running (params.value "from_version") = false then []
    else if faulty ["bad-deployment"] then [5, 6, 7] else [5, 6]
  | .disableFeatureFlag =>
    if production.flags service (params.text "flag") = some "false" then [] else [3]
  | .revertConfiguration =>
    let current := recordField (production.configs service).getLast? "new_value"
    if params.text "key" ≠ configKeyName then []
    else if fieldEq current (params.value "to_value") then
      if faulty ["bad-configuration"] then [4] else []
    else if fieldEq current (params.value "from_value") = false then []
    else if faulty ["bad-configuration"] then [4, 5, 6] else [4, 5]

/-- The request is carried out, and the crash comes after the action's first write that
changes something and before the idempotency record. -/
def Exposed (m : Moment) (request : ExecutionRequest) (s : Simulator) (n : Nat) : Prop :=
  s.applied request.idempotencyKey = none ∧ m.now < request.deadline ∧
    ∃ params, checkRequest request = .ok params ∧ n ∈ exposedOps s.production params

/-! ## The stores an action goes through -/

section
variable {m : Moment} {request : ExecutionRequest} {params : Params} {s : Simulator}

theorem clearFault_run (service : String) (scenarios : List String) (s : Simulator) :
    (clearFault service scenarios).run s =
      match faultAmong scenarios (s.production.chaos service) with
      | some scenario => (some scenario, deleteFault service s)
      | none => (none, s) := by
  simp only [clearFault, Script.run_bind, Script.run_read]
  cases faultAmong scenarios (s.production.chaos service) <;> rfl

theorem clearFault_states (service : String) (scenarios : List String) (s : Simulator) :
    (clearFault service scenarios).states s =
      match faultAmong scenarios (s.production.chaos service) with
      | some _ => [s, deleteFault service s]
      | none => [s] := by
  simp only [clearFault, Script.states_bind, Script.run_read, Script.states_read]
  cases faultAmong scenarios (s.production.chaos service) <;> rfl

/-- The fault that is cleared is there. -/
theorem faultAmong_eq_some {scenarios : List String} {fault : Option Dict} {scenario : String}
    (among : faultAmong scenarios fault = some scenario) :
    recordField fault "scenario" = some (.str scenario) := by
  unfold faultAmong at among
  split at among
  · rename_i found
    split_ifs at among
    cases among
    exact found
  · cases among

theorem deleteFault_ne {service : String} {scenarios : List String} {scenario : String}
    (among : faultAmong scenarios (s.production.chaos service) = some scenario) :
    (deleteFault service s).production ≠ s.production := by
  intro same
  have there := faultAmong_eq_some among
  have missing : none = s.production.chaos service := by
    simpa [deleteFault] using congrFun (congrArg Production.chaos same) service
  rw [← missing] at there
  cases there

theorem setReplicas_ne {service : String} {count : Int}
    (other : s.production.replicas service ≠ some count) :
    (setReplicas service count s).production ≠ s.production := by
  intro same
  have here : some count = s.production.replicas service := by
    simpa [setReplicas] using congrFun (congrArg Production.replicas same) service
  exact other here.symm

theorem setReplicas_same {service : String} {count : Int}
    (same : s.production.replicas service = some count) :
    (setReplicas service count s).production = s.production := by
  simp [setReplicas, ← same]

theorem setFlag_ne {service flag value : String}
    (other : s.production.flags service flag ≠ some value) :
    (setFlag service flag value s).production ≠ s.production := by
  intro same
  have here : some value = s.production.flags service flag := by
    simpa [setFlag] using congrFun (congrFun (congrArg Production.flags same) service) flag
  exact other here.symm

theorem setFlag_same {service flag value : String}
    (same : s.production.flags service flag = some value) :
    (setFlag service flag value s).production = s.production := by
  simp [setFlag, ← same]

theorem deployments_ne (service : String) (record : Dict) {production : Production}
    (longer : production.deployments service = s.production.deployments service ++ [record]) :
    production ≠ s.production := by
  rintro rfl
  exact absurd (congrArg List.length longer) (by simp)

theorem configs_ne (service : String) (record : Dict) {production : Production}
    (longer : production.configs service = s.production.configs service ++ [record]) :
    production ≠ s.production := by
  rintro rfl
  exact absurd (congrArg List.length longer) (by simp)

/-- What the stores of an action say of a crash in each of them. -/
structure AccountedFor (m : Moment) (request : ExecutionRequest) (params : Params) (s : Simulator) :
    Prop where
  applied : ∀ s' ∈ (handler m request params).states s, s'.applied = s.applied
  describes : Describes params s.production ((handler m request params).run s).2.production
    ((handler m request params).run s).1
  unexposed : ∀ n s', (s :: s :: (handler m request params).states s)[n]? = some s' →
    (s'.production = s.production ↔ n ∉ exposedOps s.production params)
  before : ∀ n ∈ exposedOps s.production params,
    n < ((handler m request params).states s).length + 2

/-- The stores of an action are those before its first effect and those after it. -/
theorem accounted_of_states (untouched touched : List Simulator) {result : ExecutorResult}
    {after : Simulator}
    (goes : (handler m request params).states s = untouched ++ touched)
    (ends : (handler m request params).run s = (result, after))
    (applied : ∀ s' ∈ untouched ++ touched, s'.applied = s.applied)
    (same : ∀ s' ∈ untouched, s'.production = s.production)
    (differs : ∀ s' ∈ touched, s'.production ≠ s.production)
    (exposed : exposedOps s.production params = List.range' (untouched.length + 2) touched.length)
    (describes : Describes params s.production after.production result) :
    AccountedFor m request params s := by
  constructor
  · rw [goes]
    exact applied
  · rw [ends]
    exact describes
  · intro n s' found
    rw [exposed, List.mem_range'_1, goes] at *
    have early : ∀ (n : Nat) (s' : Simulator), (s :: s :: untouched)[n]? = some s' →
        s'.production = s.production := by
      intro n s' found
      rcases List.mem_cons.mp (List.mem_of_getElem? found) with rfl | among
      · rfl
      rcases List.mem_cons.mp among with rfl | among
      · rfl
      · exact same s' among
    change ((s :: s :: untouched) ++ touched)[n]? = some s' at found
    have counted : (s :: s :: untouched).length = untouched.length + 2 := rfl
    by_cases small : n < untouched.length + 2
    · rw [List.getElem?_append_left (counted ▸ small)] at found
      have unchanged := early n s' found
      simp only [unchanged, true_iff]
      omega
    · rw [List.getElem?_append_right (counted ▸ not_lt.mp small)] at found
      have within := (List.getElem?_eq_some_iff.mp found).1
      have changed := differs s' (List.mem_of_getElem? found)
      simp only [List.length_cons] at within
      simp only [changed, false_iff, not_not]
      omega
  · intro n among
    rw [exposed, List.mem_range'_1] at among
    rw [goes, List.length_append]
    omega

theorem restartService_accounted (model : params.model = .restartService) :
    AccountedFor m request params s := by
  cases among : faultAmong restartClears (s.production.chaos (params.text "service")) with
  | none =>
    apply accounted_of_states [s] []
    · simp [handler, model, restartService, Script.states_bind, clearFault_states, among]
    · simp only [handler, model, restartService, Script.run_bind, clearFault_run, among]
      rfl
    · simp
    · simp
    · simp
    · simp [exposedOps, model, among]
    · simp [Describes, model, told, Dict.get?, List.lookup_cons, FaultAsTold, optionalStr]
  | some scenario =>
    apply accounted_of_states [s] [deleteFault (params.text "service") s]
    · simp [handler, model, restartService, Script.states_bind, clearFault_states, among]
    · simp only [handler, model, restartService, Script.run_bind, clearFault_run, among]
      rfl
    · simp [deleteFault]
    · simp
    · simp [deleteFault_ne among]
    · simp [exposedOps, model, among]
    · simp [Describes, model, told, Dict.get?, List.lookup_cons, FaultAsTold, optionalStr,
        deleteFault, faultAmong_eq_some among]

theorem scaleService_accounted (model : params.model = .scaleService) :
    AccountedFor m request params s := by
  let before := (s.production.replicas (params.text "service")).getD 1
  let after := before + increaseBy params
  let scaled := setReplicas (params.text "service") after s
  by_cases exceeds : maxReplicas <
      (s.production.replicas (params.text "service")).getD 1 + increaseBy params
  · have ends : (handler m request params).run s = (((handler m request params).run s).1, s) := by
      simp [handler, model, scaleService, Script.run_bind, exceeds]
    apply accounted_of_states [s] [] _ ends
    · simp
    · simp
    · simp
    · simp only [exposedOps, model]
      exact if_neg (fun both => absurd exceeds (not_lt.mpr both.1))
    · simp [handler, model, scaleService, Script.run_bind, exceeds, Describes]
    · simp [handler, model, scaleService, Script.states_bind, exceeds]
  · have goes : (handler m request params).states s = [s, scaled] := by
      simp [handler, model, scaleService, Script.states_bind, exceeds, after, before, scaled]
    have ends : (handler m request params).run s =
        ({ succeeded := true
           detail := [("replicas_before", .int before), ("replicas_after", .int after)] },
          scaled) := by
      simp [handler, model, scaleService, Script.run_bind, exceeds, before, after, scaled]
    have describes : Describes params s.production scaled.production
        { succeeded := true
          detail := [("replicas_before", .int before), ("replicas_after", .int after)] } := by
      simp [Describes, model, told, Dict.get?, List.lookup_cons, setReplicas, scaled, before]
    by_cases same : s.production.replicas (params.text "service") = some after
    · apply accounted_of_states [s, scaled] [] goes ends _ _ _ _ describes
      · simp [scaled, setReplicas]
      · simp [scaled, setReplicas_same same]
      · simp
      · simp only [exposedOps, model]
        exact if_neg (fun both => both.2 same)
    · apply accounted_of_states [s] [scaled] goes ends _ _ _ _ describes
      · simp [scaled, setReplicas]
      · simp
      · simp [scaled, setReplicas_ne same]
      · simp only [exposedOps, model]
        exact if_pos ⟨not_lt.mp exceeds, same⟩

theorem disableFeatureFlag_accounted (model : params.model = .disableFeatureFlag) :
    AccountedFor m request params s := by
  let off := setFlag (params.text "service") (params.text "flag") "false" s
  have goes : (handler m request params).states s = [s, off] := by
    simp [handler, model, disableFeatureFlag, Script.states_bind, off]
  have ends : (handler m request params).run s = (((handler m request params).run s).1, off) := by
    simp [handler, model, disableFeatureFlag, Script.run_bind, off]
  have describes : Describes params s.production off.production
      ((handler m request params).run s).1 := by
    simp [handler, model, disableFeatureFlag, Script.run_bind, Describes, told, Dict.get?,
      List.lookup_cons, setFlag, Params.text, Json.text, off]
  by_cases already :
      s.production.flags (params.text "service") (params.text "flag") = some "false"
  · apply accounted_of_states [s, off] [] goes ends _ _ _ _ describes
    · simp [off, setFlag]
    · simp [off, setFlag_same already]
    · simp
    · simp only [exposedOps, model]
      exact if_pos already
  · apply accounted_of_states [s] [off] goes ends _ _ _ _ describes
    · simp [off, setFlag]
    · simp
    · simp [off, setFlag_ne already]
    · simp only [exposedOps, model]
      exact if_neg already

theorem rollbackDeployment_accounted (model : params.model = .rollbackDeployment) :
    AccountedFor m request params s := by
  let service := params.text "service"
  let current := (s.production.deployments service).getLast?
  by_cases there : fieldEq (recordField current "version") (params.value "to_version") = true
  · -- the version is running already: the fault is cleared, and nothing is recorded
    cases among : faultAmong ["bad-deployment"] (s.production.chaos service) with
    | none =>
      have ends : (handler m request params).run s =
          (alreadyThere "already_at" (params.value "to_version") none, s) := by
        simp [handler, model, rollbackDeployment, Script.run_bind, currentDeployment, there,
          clearFault_run, among, service, current]
      apply accounted_of_states [s, s] [] _ ends
      · simp
      · simp
      · simp
      · simp [exposedOps, model, there, among, service, current]
      · simp [Describes, model, alreadyThere, told, Dict.get?, List.lookup_cons, FaultAsTold,
          AppendedAsTold, optionalStr]
      · simp [handler, model, rollbackDeployment, Script.states_bind, currentDeployment, there,
          clearFault_states, among, service, current]
    | some scenario =>
      have ends : (handler m request params).run s =
          (alreadyThere "already_at" (params.value "to_version") (some scenario),
            deleteFault service s) := by
        simp [handler, model, rollbackDeployment, Script.run_bind, currentDeployment, there,
          clearFault_run, among, service, current]
      apply accounted_of_states [s, s] [deleteFault service s] _ ends
      · simp [deleteFault]
      · simp
      · simp [deleteFault_ne among]
      · simp [exposedOps, model, there, among, service, current]
      · simp [Describes, model, alreadyThere, told, Dict.get?, List.lookup_cons, FaultAsTold,
          AppendedAsTold, optionalStr, deleteFault, faultAmong_eq_some among, service]
      · simp [handler, model, rollbackDeployment, Script.states_bind, currentDeployment, there,
          clearFault_states, among, service, current]
  rw [Bool.not_eq_true] at there
  by_cases expected : fieldEq (recordField current "version") (params.value "from_version") = true
  · let target := (s.production.deployments service).reverse.find?
      (fun record => fieldEq (Dict.get? record "version") (params.value "to_version"))
    let record := rollbackRecord m service request.environment (params.value "to_version") current
      (recordField target "commit_sha")
    let pushed := pushDeployment service record s
    have longer : pushed.production ≠ s.production :=
      deployments_ne service record (by simp [pushed, pushDeployment])
    cases among : faultAmong ["bad-deployment"] (s.production.chaos service) with
    | none =>
      have ends : (handler m request params).run s = (rolledBack params record none, pushed) := by
        simp [handler, model, rollbackDeployment, Script.run_bind, currentDeployment, there,
          expected, findDeployment, recordRollback_run, clearFault_run, among, service, current,
          record, target, pushed]
      apply accounted_of_states [s, s, s] [pushed, pushed] _ ends
      · simp [pushed, pushDeployment]
      · simp
      · simp [longer]
      · simp [exposedOps, model, there, expected, among, service, current]
        rfl
      · simp only [Describes, model, rolledBack, Bool.true_eq_false, if_false]
        exact ⟨.inl ⟨rfl, rfl⟩, .inr ⟨rfl, record, ⟨rfl, rfl⟩, rfl⟩, rfl⟩
      · simp [handler, model, rollbackDeployment, Script.states_bind, currentDeployment, there,
          expected, findDeployment, recordRollback_states, recordRollback_run, clearFault_states,
          among, service, current, record, target, pushed]
    | some scenario =>
      let cleared := deleteFault service pushed
      have stillLonger : cleared.production ≠ s.production :=
        deployments_ne service record (by simp [cleared, deleteFault, pushed, pushDeployment])
      have ends : (handler m request params).run s =
          (rolledBack params record (some scenario), cleared) := by
        simp [handler, model, rollbackDeployment, Script.run_bind, currentDeployment, there,
          expected, findDeployment, recordRollback_run, clearFault_run, among, service, current,
          record, target, pushed, cleared]
      apply accounted_of_states [s, s, s] [pushed, pushed, cleared] _ ends
      · simp [pushed, pushDeployment, cleared, deleteFault]
      · simp
      · simp [longer, stillLonger]
      · simp [exposedOps, model, there, expected, among, service, current]
        rfl
      · simp only [Describes, model, rolledBack, Bool.true_eq_false, if_false]
        exact ⟨.inr ⟨scenario, rfl, faultAmong_eq_some among, rfl⟩,
          .inr ⟨rfl, record, ⟨rfl, rfl⟩, rfl⟩, rfl⟩
      · simp [handler, model, rollbackDeployment, Script.states_bind, currentDeployment, there,
          expected, findDeployment, recordRollback_states, recordRollback_run, clearFault_states,
          among, service, current, record, target, pushed, cleared]
  · rw [Bool.not_eq_true] at expected
    have ends : (handler m request params).run s = (((handler m request params).run s).1, s) := by
      simp [handler, model, rollbackDeployment, Script.run_bind, currentDeployment, there,
        expected, service, current]
    apply accounted_of_states [s] [] _ ends
    · simp
    · simp
    · simp
    · simp [exposedOps, model, there, expected, service, current]
    · simp [handler, model, rollbackDeployment, Script.run_bind, currentDeployment, there,
        expected, service, current, Describes]
    · simp [handler, model, rollbackDeployment, Script.states_bind, currentDeployment, there,
        expected, service, current]

theorem revertConfiguration_accounted (model : params.model = .revertConfiguration) :
    AccountedFor m request params s := by
  let service := params.text "service"
  let current := (s.production.configs service).getLast?
  by_cases known : params.text "key" = configKeyName
  swap
  · have ends : (handler m request params).run s = (((handler m request params).run s).1, s) := by
      simp [handler, model, revertConfiguration, known]
    apply accounted_of_states [] [] _ ends
    · simp
    · simp
    · simp
    · simp [exposedOps, model, known]
    · simp [handler, model, revertConfiguration, known, Describes]
    · simp [handler, model, revertConfiguration, known]
  by_cases there : fieldEq (recordField current "new_value") (params.value "to_value") = true
  · -- the value is set already: the fault is cleared, and nothing is recorded
    cases among : faultAmong ["bad-configuration"] (s.production.chaos service) with
    | none =>
      have ends : (handler m request params).run s =
          (alreadyThere "already" ((recordField current "new_value").getD .null) none, s) := by
        simp [handler, model, revertConfiguration, known, Script.run_bind, currentConfig, there,
          clearFault_run, among, service, current]
      apply accounted_of_states [s, s] [] _ ends
      · simp
      · simp
      · simp
      · simp [exposedOps, model, known, there, among, service, current]
      · simp only [Describes, model, alreadyThere, Bool.true_eq_false, if_false]
        exact ⟨.inl ⟨rfl, rfl⟩, .inl ⟨rfl, rfl⟩, trivial⟩
      · simp [handler, model, revertConfiguration, known, Script.states_bind, currentConfig, there,
          clearFault_states, among, service, current]
    | some scenario =>
      have ends : (handler m request params).run s =
          (alreadyThere "already" ((recordField current "new_value").getD .null) (some scenario),
            deleteFault service s) := by
        simp [handler, model, revertConfiguration, known, Script.run_bind, currentConfig, there,
          clearFault_run, among, service, current]
      apply accounted_of_states [s, s] [deleteFault service s] _ ends
      · simp [deleteFault]
      · simp
      · simp [deleteFault_ne among]
      · simp [exposedOps, model, known, there, among, service, current]
      · simp only [Describes, model, alreadyThere, Bool.true_eq_false, if_false]
        exact ⟨.inr ⟨scenario, rfl, faultAmong_eq_some among, rfl⟩, .inl ⟨rfl, rfl⟩, rfl⟩
      · simp [handler, model, revertConfiguration, known, Script.states_bind, currentConfig, there,
          clearFault_states, among, service, current]
  rw [Bool.not_eq_true] at there
  by_cases expected : fieldEq (recordField current "new_value") (params.value "from_value") = true
  · let record := configRecord m service request.environment (params.text "to_value") current
    let pushed := pushConfig service record s
    have longer : pushed.production ≠ s.production :=
      configs_ne service record (by simp [pushed, pushConfig])
    cases among : faultAmong ["bad-configuration"] (s.production.chaos service) with
    | none =>
      have ends : (handler m request params).run s = (reverted params record none, pushed) := by
        simp [handler, model, revertConfiguration, known, Script.run_bind, currentConfig, there,
          expected, recordConfig_run, clearFault_run, among, service, current, record, pushed]
      apply accounted_of_states [s, s] [pushed, pushed] _ ends
      · simp [pushed, pushConfig]
      · simp
      · simp [longer]
      · simp [exposedOps, model, known, there, expected, among, service, current]
        rfl
      · simp only [Describes, model, reverted, Bool.true_eq_false, if_false]
        refine ⟨.inl ⟨rfl, rfl⟩, .inr ⟨rfl, record, ⟨rfl, ?_, rfl⟩, rfl⟩, rfl⟩
        exact congrArg (fun key => some (Json.str key)) known.symm
      · simp [handler, model, revertConfiguration, known, Script.states_bind, currentConfig, there,
          expected, recordConfig_states, recordConfig_run, clearFault_states, among, service,
          current, record, pushed]
    | some scenario =>
      let cleared := deleteFault service pushed
      have stillLonger : cleared.production ≠ s.production :=
        configs_ne service record (by simp [cleared, deleteFault, pushed, pushConfig])
      have ends : (handler m request params).run s =
          (reverted params record (some scenario), cleared) := by
        simp [handler, model, revertConfiguration, known, Script.run_bind, currentConfig, there,
          expected, recordConfig_run, clearFault_run, among, service, current, record, pushed,
          cleared]
      apply accounted_of_states [s, s] [pushed, pushed, cleared] _ ends
      · simp [pushed, pushConfig, cleared, deleteFault]
      · simp
      · simp [longer, stillLonger]
      · simp [exposedOps, model, known, there, expected, among, service, current]
        rfl
      · simp only [Describes, model, reverted, Bool.true_eq_false, if_false]
        refine ⟨.inr ⟨scenario, rfl, faultAmong_eq_some among, rfl⟩,
          .inr ⟨rfl, record, ⟨rfl, ?_, rfl⟩, rfl⟩, rfl⟩
        exact congrArg (fun key => some (Json.str key)) known.symm
      · simp [handler, model, revertConfiguration, known, Script.states_bind, currentConfig, there,
          expected, recordConfig_states, recordConfig_run, clearFault_states, among, service,
          current, record, pushed, cleared]
  · rw [Bool.not_eq_true] at expected
    have ends : (handler m request params).run s = (((handler m request params).run s).1, s) := by
      simp [handler, model, revertConfiguration, known, Script.run_bind, currentConfig, there,
        expected, service, current]
    apply accounted_of_states [s] [] _ ends
    · simp
    · simp
    · simp
    · simp [exposedOps, model, known, there, expected, service, current]
    · simp [handler, model, revertConfiguration, known, Script.run_bind, currentConfig, there,
        expected, service, current, Describes]
    · simp [handler, model, revertConfiguration, known, Script.states_bind, currentConfig, there,
        expected, service, current]

/-- Every action of the catalog: one case for each handler. -/
theorem handler_accounted (m : Moment) (request : ExecutionRequest) (params : Params)
    (s : Simulator) : AccountedFor m request params s := by
  cases model : params.model with
  | restartService => exact restartService_accounted model
  | scaleService => exact scaleService_accounted model
  | rollbackDeployment => exact rollbackDeployment_accounted model
  | disableFeatureFlag => exact disableFeatureFlag_accounted model
  | revertConfiguration => exact revertConfiguration_accounted model

/-! ## The stores an execution goes through -/

theorem perform_states (m : Moment) (request : ExecutionRequest) (params : Params)
    (s : Simulator) :
    let acted := (handler m request params).run s
    let recorded := setApplied request.idempotencyKey acted.1 acted.2
    (perform m request params).states s = (handler m request params).states s ++
      [recorded, pushOperation request.targetService (operation m request acted.1) recorded] := by
  simp [perform, Script.states_bind]

/-- An execution that does not get to the action leaves everything as it was. -/
theorem execute_idle (m : Moment) (request : ExecutionRequest) (s : Simulator)
    (idle : ∀ params, checkRequest request = .ok params →
      s.applied request.idempotencyKey = none → request.deadline ≤ m.now) (n : Nat) :
    (execute m request).cutOff n s = s := by
  cases n with
  | zero => exact Script.cutOff_zero (execute m request) s
  | succ n =>
    rw [execute, inspect, Script.cutOff_succ_read]
    cases applied : s.applied request.idempotencyKey with
    | some stored => exact Script.cutOff_done n _ s
    | none =>
      cases checked : checkRequest request with
      | error text => exact Script.cutOff_done n _ s
      | ok params =>
        simp only [Option.map_none, if_pos (idle params checked applied)]
        exact Script.cutOff_done n _ s

/-- One that gets to it stops in one of the action's stores, or has written the record. -/
theorem execute_cutOff (fresh : s.applied request.idempotencyKey = none)
    (checked : checkRequest request = .ok params) (inTime : m.now < request.deadline) (n : Nat) :
    let stores := s :: s :: (handler m request params).states s
    let acted := (handler m request params).run s
    let after := (execute m request).cutOff n s
    stores[n]? = some after ∨ stores.length ≤ n ∧ after.production = acted.2.production ∧
      after.applied request.idempotencyKey = some acted.1.toJson := by
  intro stores acted after
  cases n with
  | zero => exact .inl rfl
  | succ n =>
    let recorded := setApplied request.idempotencyKey acted.1 acted.2
    let logged := pushOperation request.targetService (operation m request acted.1) recorded
    have ends : after = ((s :: (handler m request params).states s ++ [recorded, logged])[n]?).getD
        logged := by
      simp only [after, execute, inspect, Script.cutOff_succ_read, fresh, Option.map_none, checked,
        if_neg (not_le.mpr inTime)]
      rw [Script.cutOff_eq, Script.states_bind, Script.run_bind]
      simp [perform, Script.states_bind, Script.run_bind, acted, recorded, logged]
    rw [ends]
    by_cases inside : n < (s :: (handler m request params).states s).length
    · refine .inl ?_
      show (s :: (handler m request params).states s)[n]? = _
      rw [List.getElem?_append_left inside, List.getElem?_eq_getElem inside]
      rfl
    · refine .inr ⟨by simpa [stores] using inside, ?_⟩
      rw [List.getElem?_append_right (not_lt.mp inside)]
      -- both stores that are left have the record, and production as the action left it
      rcases n - (s :: (handler m request params).states s).length with _ | _ | k
      · exact ⟨rfl, Function.update_self ..⟩
      · exact ⟨rfl, Function.update_self ..⟩
      · exact ⟨rfl, Function.update_self ..⟩

/-- The truth about a request that is carried out, from the stores of its action. -/
theorem AccountedFor.tellsTruth (accounted : AccountedFor m request params s)
    (fresh : s.applied request.idempotencyKey = none)
    (checked : checkRequest request = .ok params) (inTime : m.now < request.deadline) (n : Nat) :
    TellsTruth m request s n ↔ n ∉ exposedOps s.production params := by
  obtain within | ⟨beyond, production, recorded⟩ := execute_cutOff fresh checked inTime n
  · have still : ((execute m request).cutOff n s).applied request.idempotencyKey = none := by
      have among := List.mem_of_getElem? within
      rw [List.mem_cons, List.mem_cons] at among
      rcases among with same | same | reached
      · rw [same, fresh]
      · rw [same, fresh]
      · rw [accounted.applied _ reached, fresh]
    rw [← accounted.unexposed n _ within]
    simp [TellsTruth, inspect, still]
  · have unexposed : n ∉ exposedOps s.production params := by
      intro exposed
      exact absurd (accounted.before n exposed) (not_lt.mpr beyond)
    have described := accounted.describes
    rw [← production] at described
    simp only [TellsTruth, inspect, Script.run_read, recorded, Option.map_some,
      ExecutorResult.fromJson_toJson, fresh]
    exact iff_of_true ⟨params, checked, described⟩ unexposed

/-- After a crash the truth is told unless the crash is exposed. -/
theorem tellsTruth_iff (m : Moment) (request : ExecutionRequest) (s : Simulator) (n : Nat) :
    TellsTruth m request s n ↔ ¬ Exposed m request s n := by
  by_cases acts : ∃ params, checkRequest request = .ok params ∧
      s.applied request.idempotencyKey = none ∧ m.now < request.deadline
  · obtain ⟨params, checked, fresh, inTime⟩ := acts
    have accounted := handler_accounted m request params s
    rw [accounted.tellsTruth fresh checked inTime, not_iff_not]
    constructor
    · exact fun exposed => ⟨fresh, inTime, params, checked, exposed⟩
    · rintro ⟨-, -, params', checked', exposed⟩
      rw [checked] at checked'
      cases checked'
      exact exposed
  · have idle := execute_idle m request s (fun params checked fresh =>
      not_lt.mp (fun inTime => acts ⟨params, checked, fresh, inTime⟩)) n
    have unexposed : ¬ Exposed m request s n := by
      rintro ⟨fresh, inTime, params, checked, -⟩
      exact acts ⟨params, checked, fresh, inTime⟩
    refine iff_of_true ?_ unexposed
    rw [TellsTruth, idle]
    cases stored : s.applied request.idempotencyKey with
    | none => simp [inspect, stored]
    | some record => simp [inspect, stored]

end

/-! ## A crash that is exposed -/

/-- One more replica of the checkout service. -/
def scaleRequest : ExecutionRequest where
  idempotencyKey := "remediation-1:1"
  actionId := "scale_service"
  catalogVersion := catalogVersion
  parameters := [("service", .str "checkout"), ("increase_by", .int 1)]
  targetService := "checkout"
  environment := "production"
  deadline := 60

def quietSimulator : Simulator :=
  ⟨⟨fun _ => none, fun _ => none, fun _ => [], fun _ => [], fun _ _ => none⟩, fun _ => none,
    fun _ => []⟩

/-- The replicas are set, the runner crashes, and no record tells of it. -/
theorem not_tellsTruth : ¬ ∀ (m : Moment) (request : ExecutionRequest) (s : Simulator) (n : Nat),
    TellsTruth m request s n := by
  intro claim
  have told : ((execute ⟨0, "", .null, ""⟩ scaleRequest).cutOff 3 quietSimulator).production =
      quietSimulator.production := claim ⟨0, "", .null, ""⟩ scaleRequest quietSimulator 3
  have scaled : ((execute ⟨0, "", .null, ""⟩ scaleRequest).cutOff 3
      quietSimulator).production.replicas "checkout" = some 2 := rfl
  rw [told] at scaled
  cases scaled

end IncidentTriage.Verified
