import IncidentTriage.Remediation.Planner
import IncidentTriage.Verified.Rollback

/-! # The second round of a remediation

A rollback is itself a deployment: its record names the version that it replaced.  The
planner proposes to go back to the version that the current deployment replaced, as the
first record that the RCA cites shows it.  So the second plan for an incident may undo the
first one, and it may rest on a record that a later one has overtaken.
`plansForward_iff` says when it does neither.
-/

namespace IncidentTriage.Verified

open IncidentTriage.Python IncidentTriage.Domain IncidentTriage.Incident
  IncidentTriage.Remediation IncidentTriage.Remediation.SimulatorExecutor IncidentTriage.Evidence

/-! ## What a record shows -/

/-- The current deployment that a record shows. -/
def currentOf (r : EvidenceRecord) : Dict :=
  Json.orEmpty (Dict.get? r.normalizedPayload "current")

/-- The newest configuration change that a record shows. -/
def changeOf (r : EvidenceRecord) : Option Dict :=
  (newestChange (some r)).join

/-- The type of the records that a plan for a cause of this category reads. -/
def changeType : CauseCategory → Option EvidenceType
  | .deployment => some .deployment
  | .configuration => some .configuration
  | _ => none

/-- The records that the RCA cites about the component, of one type, as they were collected. -/
def changeRecords (records : List EvidenceRecord) (report : RcaReport) (component : String)
    (type : EvidenceType) : List EvidenceRecord :=
  (citedRecords records report component).filter (fun r => r.evidenceType == type)

theorem firstOfType_eq (type : EvidenceType) (records : List EvidenceRecord) :
    firstOfType type records = (records.filter (fun r => r.evidenceType == type)).head? :=
  List.head?_filter.symm

/-- The action and every parameter of a proposal for a cause are those of the change that a
record shows. -/
inductive NamedBy (component : String) (r : EvidenceRecord) (p : RemediationProposal) :
    CauseCategory → Prop
  | rollback {running previous : Json} (action : p.actionId = "rollback_deployment")
      (version : Dict.get? (currentOf r) "version" = some running)
      (replaced : Dict.get? (currentOf r) "previous_version" = some previous)
      (named : previous.truthy = true)
      (parameters : p.parameters =
        [("service", .str component), ("from_version", running), ("to_version", previous)]) :
      NamedBy component r p .deployment
  | flag {change : Dict} {key : Json} (action : p.actionId = "disable_feature_flag")
      (shown : changeOf r = some change) (named : Dict.get? change "key" = some key)
      (feature : isFeatureKey key = true)
      (parameters : p.parameters = [("service", .str component), ("flag", key)]) :
      NamedBy component r p .configuration
  | revert {change : Dict} {key new old : Json} (action : p.actionId = "revert_configuration")
      (shown : changeOf r = some change) (named : Dict.get? change "key" = some key)
      (other : isFeatureKey key = false) (value : Dict.get? change "new_value" = some new)
      (replaced : Dict.get? change "old_value" = some old) (real : old ≠ .null)
      (parameters : p.parameters =
        [("service", .str component), ("key", key), ("from_value", new), ("to_value", old)]) :
      NamedBy component r p .configuration

/-- Two records show the same change: the same two versions, or the same key and, where it is
not a feature flag, the same two values. -/
inductive SameChange (r r' : EvidenceRecord) : CauseCategory → Prop
  | deployment
      (version : Dict.get? (currentOf r) "version" = Dict.get? (currentOf r') "version")
      (replaced : Dict.get? (currentOf r) "previous_version" =
        Dict.get? (currentOf r') "previous_version") : SameChange r r' .deployment
  | configuration {change change' : Dict} (shown : changeOf r = some change)
      (shown' : changeOf r' = some change')
      (key : Dict.get? change "key" = Dict.get? change' "key")
      (values : ∀ key, Dict.get? change "key" = some key → isFeatureKey key = false →
        Dict.get? change "new_value" = Dict.get? change' "new_value" ∧
          Dict.get? change "old_value" = Dict.get? change' "old_value") :
      SameChange r r' .configuration

/-- A proposal that one record names is named by another one exactly when they show the same
change. -/
theorem NamedBy.iff_sameChange {component : String} {r r' : EvidenceRecord}
    {p : RemediationProposal} {category : CauseCategory} (named : NamedBy component r p category) :
    NamedBy component r' p category ↔ SameChange r r' category := by
  cases named with
  | rollback action version replaced real parameters =>
    constructor
    · intro other
      cases other with
      | rollback _ version' replaced' _ parameters' =>
        rw [parameters] at parameters'
        simp only [List.cons.injEq, Prod.mk.injEq, true_and, and_true] at parameters'
        obtain ⟨running, previous⟩ := parameters'
        exact .deployment (by rw [version, version', running])
          (by rw [replaced, replaced', previous])
    · intro same
      cases same with
      | deployment version' replaced' =>
        exact .rollback action (version'.symm.trans version) (replaced'.symm.trans replaced) real
          parameters
  | @flag change key action shown named feature parameters =>
    constructor
    · intro other
      cases other with
      | flag _ shown' named' _ parameters' =>
        rw [parameters] at parameters'
        simp only [List.cons.injEq, Prod.mk.injEq, true_and, and_true] at parameters'
        refine .configuration shown shown' (by rw [named, named', parameters']) ?_
        intro k read unlike
        cases named.symm.trans read
        rw [feature] at unlike
        cases unlike
      | revert action' => simp [action] at action'
    · intro same
      cases same with
      | configuration shown₁ shown' sameKey =>
        cases shown.symm.trans shown₁
        exact .flag action shown' (sameKey.symm.trans named) feature parameters
  | @revert change key new old action shown named other value replaced real parameters =>
    constructor
    · intro again
      cases again with
      | flag action' => simp [action] at action'
      | revert _ shown' named' _ value' replaced' _ parameters' =>
        rw [parameters] at parameters'
        simp only [List.cons.injEq, Prod.mk.injEq, true_and, and_true] at parameters'
        obtain ⟨sameKey, sameNew, sameOld⟩ := parameters'
        refine .configuration shown shown' (by rw [named, named', sameKey]) ?_
        intro _ _ _
        exact ⟨by rw [value, value', sameNew], by rw [replaced, replaced', sameOld]⟩
    · intro same
      cases same with
      | configuration shown₁ shown' sameKey values =>
        cases shown.symm.trans shown₁
        obtain ⟨sameNew, sameOld⟩ := values key named other
        exact .revert action shown' (sameKey.symm.trans named) other (sameNew.symm.trans value)
          (sameOld.symm.trans replaced) real parameters

/-! ## What a plan says -/

section
variable {request : PlanRequest} {component : String} {p : RemediationProposal} {why : String}

theorem plannedProposal_eq_some {category : CauseCategory} {action effect : String} {params : Dict}
    (made : plannedProposal request category component action params effect = some p) :
    p.actionId = action ∧ p.parameters = ("service", .str component) :: params := by
  unfold plannedProposal at made
  dsimp only at made
  split_ifs at made
  cases made
  exact ⟨rfl, rfl⟩

theorem truthyField_eq_some {fields : Dict} {name : String} {value : Json}
    (read : truthyField fields name = some value) :
    Dict.get? fields name = some value ∧ value.truthy = true :=
  Option.filter_eq_some_iff.mp read

theorem planDeployment_named {deployment : Option EvidenceRecord}
    (planned : planDeployment request component deployment = some (some p, why)) :
    ∃ r, deployment = some r ∧ NamedBy component r p .deployment := by
  cases deployment with
  | none => simp [planDeployment, Json.orEmpty, truthyField, Dict.get?] at planned
  | some r =>
    refine ⟨r, rfl, ?_⟩
    unfold planDeployment at planned
    dsimp only [Option.bind_some] at planned
    split at planned
    · rename_i running previous version replaced
      simp only [Option.bind_eq_bind, Option.bind_eq_some_iff, Option.some.injEq, Prod.mk.injEq]
        at planned
      obtain ⟨_, made, rfl, _⟩ := planned
      obtain ⟨action, parameters⟩ := plannedProposal_eq_some made
      obtain ⟨before, real⟩ := truthyField_eq_some replaced
      exact .rollback action (truthyField_eq_some version).1 before real parameters
    · simp at planned

theorem planChange_named {r : EvidenceRecord} {change : Dict} (shown : changeOf r = some change)
    (planned : planChange request component change = some (some p, why)) :
    NamedBy component r p .configuration := by
  simp only [planChange, Option.bind_eq_bind, Option.bind_eq_some_iff] at planned
  obtain ⟨key, named, planned⟩ := planned
  split_ifs at planned with feature empty
  · simp only [Option.bind_eq_some_iff, Option.some.injEq, Prod.mk.injEq] at planned
    obtain ⟨_, made, rfl, _⟩ := planned
    obtain ⟨action, parameters⟩ := plannedProposal_eq_some made
    exact .flag action shown named feature parameters
  · simp at planned
  · simp only [Option.bind_eq_some_iff, Option.some.injEq, Prod.mk.injEq] at planned
    obtain ⟨new, value, old, replaced, _, made, rfl, _⟩ := planned
    obtain ⟨action, parameters⟩ := plannedProposal_eq_some made
    have real : old ≠ .null := by
      rintro rfl
      exact empty (by rw [replaced]; rfl)
    exact .revert action shown named (Bool.eq_false_iff.mpr feature) value replaced real parameters

theorem planConfiguration_named {config : Option EvidenceRecord}
    (planned : planConfiguration request component config = some (some p, why)) :
    ∃ r, config = some r ∧ NamedBy component r p .configuration := by
  simp only [planConfiguration, Option.bind_eq_bind, Option.bind_eq_some_iff] at planned
  obtain ⟨shown, read, planned⟩ := planned
  cases shown with
  | none => simp at planned
  | some change =>
    cases config with
    | none => simp [newestChange] at read
    | some r =>
      refine ⟨r, rfl, planChange_named ?_ planned⟩
      simp [changeOf, read]

/-- A proposal about a change names what the first record of its type shows. -/
theorem plan_named {records : List EvidenceRecord} {category : CauseCategory}
    {type : EvidenceType} (planned : plan records request = some (some p, why))
    (cause : request.report.causeCategory = some category)
    (about : request.report.component = some component)
    (changes : changeType category = some type) :
    ∃ r, (changeRecords records request.report component type).head? = some r ∧
      NamedBy component r p category := by
  unfold plan at planned
  rw [cause, about] at planned
  cases empty : component.isEmpty with
  | true => simp [Option.filter, empty] at planned
  | false =>
    have kept : (some component).filter (fun c => !c.isEmpty) = some component := by
      simp [Option.filter, empty]
    rw [kept] at planned
    cases category with
    | deployment =>
      cases changes
      obtain ⟨r, first, named⟩ := planDeployment_named planned
      rw [firstOfType_eq] at first
      exact ⟨r, first, named⟩
    | configuration =>
      cases changes
      obtain ⟨r, first, named⟩ := planConfiguration_named planned
      rw [firstOfType_eq] at first
      exact ⟨r, first, named⟩
    | _ => cases changes

end

/-! ## The registries behind a record -/

section
variable (fromIsoformat : Json → Option Time) (environment : String)

/-- The deployment of a registry that is current at the end of a window. -/
def currentRecord (registry : List Dict) (end_ : Time) : Option Dict :=
  (keepByTs fromIsoformat "deployed_at" (fun at_ => at_ ≤ end_)
    ((scanned registry).filter (ofEnvironment environment))).bind List.getLast?

/-- The newest configuration change of a registry in a window. -/
def newestRecord (registry : List Dict) (start end_ : Time) (limit : Nat) : Option Dict := do
  let asOfEnd ← keepByTs fromIsoformat "changed_at" (fun at_ => at_ ≤ end_)
    ((scanned registry).filter (ofEnvironment environment))
  let inWindow ← keepByTs fromIsoformat "changed_at" (fun at_ => start ≤ at_) asOfEnd
  ((latestFirst "changed_at" inWindow).take limit).head?

/-- `record or None` as a stored value. -/
def objectOrNull : Option Dict → Json
  | some fields => .object fields
  | none => .null

/-- A change record was collected from the registries of its service, and shows this record
of them. -/
inductive Shows (production : Production) (r : EvidenceRecord) :
    CauseCategory → Option Dict → Prop
  | deployment {start end_ : Time} {limit : Nat} {observation : DeploymentsObservation}
      (observed : deployments fromIsoformat (production.deployments r.subjectService) environment
        start end_ limit = some observation)
      (stored : Dict.get? r.normalizedPayload "current" =
        some (objectOrNull observation.current)) :
      Shows production r .deployment
        (currentRecord fromIsoformat environment (production.deployments r.subjectService) end_)
  | configuration {start end_ : Time} {limit : Nat} {observation : ConfigObservation}
      (observed : configChanges fromIsoformat (production.configs r.subjectService) environment
        start end_ limit = some observation)
      (stored : Dict.get? r.normalizedPayload "changes_in_window" =
        some (.list (observation.changesInWindow.map .object))) :
      Shows production r .configuration
        (newestRecord fromIsoformat environment (production.configs r.subjectService) start end_
          limit)
  | runtime (stored : Dict.get? r.normalizedPayload "changes_in_window" = none) :
      Shows production r .configuration none

variable {fromIsoformat environment}

theorem currentOf_eq {production : Production} {r : EvidenceRecord} {change : Option Dict}
    (shows : Shows fromIsoformat environment production r .deployment change) :
    currentOf r = (change.map deploymentView).getD [] := by
  cases shows with
  | @deployment start end_ limit observation observed stored =>
    simp only [deployments, Option.bind_eq_bind, Option.bind_eq_some_iff] at observed
    obtain ⟨asOfEnd, taken, _, -, _, -, _, -, _, -, ends⟩ := observed
    cases ends
    rw [currentOf, stored, currentRecord, taken, Option.bind_some]
    cases asOfEnd.getLast? <;> rfl

theorem changeOf_eq {production : Production} {r : EvidenceRecord} {change : Option Dict}
    (shows : Shows fromIsoformat environment production r .configuration change) :
    changeOf r = change.map configView := by
  cases shows with
  | runtime stored => simp [changeOf, newestChange, stored]
  | @configuration start end_ limit observation observed stored =>
    simp only [configChanges, Option.bind_eq_bind, Option.bind_eq_some_iff] at observed
    obtain ⟨asOfEnd, taken, inWindow, kept, _, -, _, -, _, -, ends⟩ := observed
    cases ends
    simp only [changeOf, newestChange, Option.bind_some, stored, newestRecord, taken, kept,
      Option.bind_eq_bind]
    cases (latestFirst "changed_at" inWindow).take limit <;> rfl

end

/-! ## What an earlier fix moved away from -/

/-- A proposal restores what an executed rollback or revert moved the service away from. -/
def Undoes (params : Params) (production : Production) (p : RemediationProposal) : Prop :=
  let bad := (inPlace params production).getD .null
  match params.model with
  | .rollbackDeployment => p.actionId = "rollback_deployment" ∧
      Dict.get? p.parameters "service" = some (.str (params.text "service")) ∧
      ∃ value, Dict.get? p.parameters "to_version" = some value ∧ value.eq bad = true
  | .revertConfiguration => p.actionId = "revert_configuration" ∧
      Dict.get? p.parameters "service" = some (.str (params.text "service")) ∧
      Dict.get? p.parameters "key" = some (.str (params.text "key")) ∧
      ∃ value, Dict.get? p.parameters "to_value" = some value ∧ value.eq bad = true
  | _ => False

/-- The registry's record is a change of the same kind that replaced what the fix moved away
from: the record of the fix itself is one. -/
def ReplacesBad (params : Params) (production : Production) (component : String) :
    CauseCategory → Option Dict → Prop
  | .deployment, some change =>
    params.model = .rollbackDeployment ∧ component = params.text "service" ∧
      ((Dict.get? change "previous_version").getD .null).eq
        ((inPlace params production).getD .null) = true
  | .configuration, some change =>
    params.model = .revertConfiguration ∧ component = params.text "service" ∧
      Dict.get? change "key" = some (.str (params.text "key")) ∧
      ((Dict.get? change "old_value").getD .null).eq
        ((inPlace params production).getD .null) = true
  | _, _ => False

section
variable {fromIsoformat : Json → Option Time} {environment : String} {params : Params}
  {before production : Production} {component : String} {p : RemediationProposal}
  {r : EvidenceRecord} {category : CauseCategory} {change : Option Dict}

theorem get?_deploymentView (change : Dict) :
    Dict.get? (deploymentView change) "previous_version" =
      some ((Dict.get? change "previous_version").getD .null) := rfl

theorem get?_configView (change : Dict) :
    Dict.get? (configView change) "key" = some ((Dict.get? change "key").getD .null) ∧
      Dict.get? (configView change) "old_value" =
        some ((Dict.get? change "old_value").getD .null) := ⟨rfl, rfl⟩

/-- A proposal undoes the fix exactly when the change it is made from replaced what the fix
moved away from. -/
theorem undoes_iff (known : params.model = .revertConfiguration → params.text "key" = configKeyName)
    (named : NamedBy component r p category)
    (shows : Shows fromIsoformat environment production r category change) :
    Undoes params before p ↔ ReplacesBad params before component category change := by
  cases named with
  | @rollback running previous action version replaced real parameters =>
    have service : Dict.get? p.parameters "service" = some (.str component) := by
      rw [parameters]
      rfl
    have target : Dict.get? p.parameters "to_version" = some previous := by
      rw [parameters]
      rfl
    rw [currentOf_eq shows] at replaced
    cases change with
    | none => simp [Dict.get?] at replaced
    | some record =>
      simp only [Option.map_some, Option.getD_some, get?_deploymentView, Option.some.injEq]
        at replaced
      simp only [Undoes, ReplacesBad, service, target, replaced, action, Option.some.injEq,
        Json.str.injEq]
      cases model : params.model <;> simp
  | @flag shown_ key action shown named feature parameters =>
    rw [changeOf_eq shows] at shown
    cases change with
    | none => simp at shown
    | some record =>
      simp only [Option.map_some, Option.some.injEq] at shown
      subst shown
      simp only [(get?_configView record).1, Option.some.injEq] at named
      simp only [Undoes, ReplacesBad, action]
      cases model : params.model with
      | revertConfiguration =>
        simp only [String.reduceEq, false_and, true_and, false_iff, not_and]
        -- the executor reverts one key, which is not a feature flag
        intro _ key' _
        rw [key', known model] at named
        subst named
        revert feature
        decide
      | _ => simp
  | @revert shown_ key new old action shown named other value replaced real parameters =>
    have service : Dict.get? p.parameters "service" = some (.str component) := by
      rw [parameters]
      rfl
    have keyed : Dict.get? p.parameters "key" = some key := by
      rw [parameters]
      rfl
    have target : Dict.get? p.parameters "to_value" = some old := by
      rw [parameters]
      rfl
    rw [changeOf_eq shows] at shown
    cases change with
    | none => simp at shown
    | some record =>
      simp only [Option.map_some, Option.some.injEq] at shown
      subst shown
      simp only [(get?_configView record).1, Option.some.injEq] at named
      simp only [(get?_configView record).2, Option.some.injEq] at replaced
      have sameKey : key = .str (params.text "key") ↔
          Dict.get? record "key" = some (.str (params.text "key")) := by
        rw [← named]
        cases Dict.get? record "key" <;> simp
      simp only [Undoes, ReplacesBad, service, keyed, target, replaced, action, Option.some.injEq,
        Json.str.injEq, sameKey]
      cases model : params.model <;> simp

end

/-! ## The second plan -/

/-- The plan keeps what an earlier fix did, and rests on the record of its kind that was
collected last. -/
structure PlansForward (params : Params) (before : Production) (component : String)
    (category : CauseCategory) (collected : List EvidenceRecord) (p : RemediationProposal) :
    Prop where
  keepsFix : ¬ Undoes params before p
  latest : ∃ r, collected.getLast? = some r ∧ NamedBy component r p category

/-- Of the records in the order of `listIncidentRecords`, the last one was collected last. -/
theorem collected_last {records : List EvidenceRecord} {incidentId : Uuid} {report : RcaReport}
    {component : String} {type : EvidenceType} {last : EvidenceRecord}
    (latest : (changeRecords (listIncidentRecords records incidentId) report component
      type).getLast? = some last) :
    ∀ r ∈ changeRecords (listIncidentRecords records incidentId) report component type,
      r.notLater last = true := by
  have sorted : (listIncidentRecords records incidentId).Pairwise
      (fun a b => a.notLater b = true) := by
    apply List.pairwise_mergeSort
    · intro a b c first second
      simp only [EvidenceRecord.notLater, decide_eq_true_eq] at first second ⊢
      rcases first with earlier | ⟨same, before⟩
      · rcases second with later | ⟨same, _⟩
        · exact .inl (Int.lt_trans earlier later)
        · exact .inl (same ▸ earlier)
      · rcases second with later | ⟨again, after⟩
        · exact .inl (same.symm ▸ later)
        · exact .inr ⟨same.trans again, before.trans after⟩
    · intro a b
      simp only [EvidenceRecord.notLater, Bool.or_eq_true, decide_eq_true_eq]
      rcases Int.lt_trichotomy a.collectedAt b.collectedAt with earlier | same | later
      · exact .inl (.inl earlier)
      · rcases Nat.le_total a.sequence b.sequence with before | after
        · exact .inl (.inr ⟨same, before⟩)
        · exact .inr (.inr ⟨same.symm, after⟩)
      · exact .inr (.inl later)
  have kept := (sorted.filter (fun r => report.supportingEvidence.contains r.evidenceId &&
    r.subjectService == component)).filter (fun r => r.evidenceType == type)
  obtain ⟨earlier, ends⟩ := List.getLast?_eq_some_iff.mp latest
  unfold changeRecords citedRecords at ends ⊢
  rw [ends] at kept ⊢
  intro r member
  rcases List.mem_append.mp member with before | same
  · exact (List.pairwise_append.mp kept).2.2 r before last (List.mem_singleton_self last)
  · rw [List.mem_singleton.mp same]
    simp [EvidenceRecord.notLater]

section
variable {m : Moment} {request : ExecutionRequest} {params : Params} {s : Simulator}

/-- The only key that the executor reverts. -/
theorem key_of_appends (appending : appends params s.production = true)
    (model : params.model = .revertConfiguration) : params.text "key" = configKeyName := by
  simp only [appends, compares, model, Bool.and_eq_true, beq_iff_eq] at appending
  exact appending.1.1

/-- What an action that compares expects is neither a list nor an object. -/
theorem expectedValue_scalar (checked : checkRequest request = .ok params)
    (known : compares params = true) : (expectedValue params).isScalar = true := by
  cases model : params.model with
  | restartService => simp [compares, model] at known
  | scaleService => simp [compares, model] at known
  | disableFeatureFlag => simp [compares, model] at known
  | rollbackDeployment =>
    obtain ⟨raw, accepted⟩ := value_of_checked checked
      (f := ⟨"from_version", .pattern versionPattern⟩) (by simp [model, ParamsModel.fields])
    obtain ⟨version, _, parsed, _⟩ := FieldSchema.parse_pattern accepted
    simp only [expectedValue, model]
    rw [parsed]
    rfl
  | revertConfiguration =>
    obtain ⟨raw, accepted⟩ := value_of_checked checked
      (f := ⟨"from_value", .scalar⟩) (by simp [model, ParamsModel.fields])
    obtain ⟨parsed, scalar⟩ := FieldSchema.parse_scalar accepted
    simp only [expectedValue, model]
    rw [parsed]
    exact scalar

/-- The registry that a fix appends to, and the category of the cause that it removes. -/
def fixedRegistry (params : Params) (production : Production) : List Dict :=
  match params.model with
  | .rollbackDeployment => production.deployments (params.text "service")
  | .revertConfiguration => production.configs (params.text "service")
  | _ => []

def fixedCause (params : Params) : CauseCategory :=
  match params.model with
  | .rollbackDeployment => .deployment
  | _ => .configuration

/-- A fix appends one record, which replaced what the fix moved away from. -/
theorem fix_replacesBad (fixed : Accepted m request params s)
    (appending : appends params s.production = true) :
    ∃ record, fixedRegistry params ((execute m request).run s).2.production =
        fixedRegistry params s.production ++ [record] ∧
      ReplacesBad params s.production (params.text "service") (fixedCause params)
        (some record) := by
  have expects : ((inPlace params s.production).getD .null).eq (expectedValue params) = true := by
    simp only [appends, Bool.and_eq_true] at appending
    exact appending.2
  have known : compares params = true := by
    simp only [appends, Bool.and_eq_true] at appending
    exact appending.1.1
  have itself := Json.eq_self (expectedValue_scalar fixed.checked known) expects
  have after := execute_alone fixed appending
  obtain ⟨deployments, configs⟩ :=
    withoutFault_registries params (pushOn m request params s s).production
  cases model : params.model with
  | restartService => simp [compares, model] at known
  | scaleService => simp [compares, model] at known
  | disableFeatureFlag => simp [compares, model] at known
  | rollbackDeployment =>
    simp only [fixedRegistry, fixedCause, ReplacesBad, model, after, deployments, true_and]
    simp only [inPlace, model] at itself
    refine ⟨rollbackEntry m request params (s.production.deployments (params.text "service")),
      ?_, ?_⟩
    · simp only [pushOn, model, pushDeployment, Function.update_self]
      rfl
    · simp only [inPlace, model]
      exact itself
  | revertConfiguration =>
    have key := key_of_appends appending model
    simp only [fixedRegistry, fixedCause, ReplacesBad, model, after, configs, true_and]
    simp only [inPlace, model] at itself
    refine ⟨configRecord m (params.text "service") request.environment (params.text "to_value")
      (s.production.configs (params.text "service")).getLast?, ?_, ?_, ?_⟩
    · simp only [pushOn, model, pushConfig, Function.update_self]
    · rw [key]
      rfl
    · simp only [inPlace, model]
      exact itself

/-- A fix that changes something records a change that replaced what the fix moved away from.
A plan for a cause in a deployment or in the configuration, from records of any registries,
goes forward exactly when the change that the first cited record shows is not such a change,
and the last cited record shows the same change. -/
theorem plansForward_iff (fixed : Accepted m request params s)
    (appending : appends params s.production = true)
    {fromIsoformat : Json → Option Time} {environment : String} {production : Production}
    {records : List EvidenceRecord} {planned : PlanRequest} {p : RemediationProposal}
    {why component : String} {category : CauseCategory} {type : EvidenceType}
    (proposes : plan (listIncidentRecords records planned.incidentId) planned =
      some (some p, why))
    (cause : planned.report.causeCategory = some category)
    (about : planned.report.component = some component)
    (changes : changeType category = some type)
    {first last : EvidenceRecord} {change : Option Dict}
    (oldest : (changeRecords (listIncidentRecords records planned.incidentId) planned.report
      component type).head? = some first)
    (latest : (changeRecords (listIncidentRecords records planned.incidentId) planned.report
      component type).getLast? = some last)
    (shows : Shows fromIsoformat environment production first category change) :
    (∃ record, fixedRegistry params ((execute m request).run s).2.production =
        fixedRegistry params s.production ++ [record] ∧
      ReplacesBad params s.production (params.text "service") (fixedCause params)
        (some record)) ∧
    (PlansForward params s.production component category
        (changeRecords (listIncidentRecords records planned.incidentId) planned.report component
          type) p ↔
      ¬ ReplacesBad params s.production component category change ∧
        SameChange first last category) := by
  refine ⟨fix_replacesBad fixed appending, ?_⟩
  obtain ⟨r, head, named⟩ := plan_named proposes cause about changes
  cases oldest.symm.trans head
  rw [← undoes_iff (key_of_appends appending) named shows, ← named.iff_sameChange]
  constructor
  · rintro ⟨keeps, r', last', rests⟩
    cases latest.symm.trans last'
    exact ⟨keeps, rests⟩
  · rintro ⟨keeps, rests⟩
    exact ⟨keeps, last, latest, rests⟩

end

/-! ## A rollback undone -/

/-- The rollback happens at the time of the other records. -/
def fixMoment : Moment := ⟨0, "2026-01-01T00:00:00+00:00", .null, "a"⟩

/-- The checkout service runs its second version. -/
def secondVersion : Simulator :=
  registrySimulator [deploymentRecord "production" "v1", deploymentRecord "production" "v2"]

def fixedProduction : Production :=
  ((execute fixMoment rollbackRequest).run secondVersion).2.production

/-- The record of the rollback. -/
def fixRecord : Dict :=
  rollbackEntry fixMoment rollbackRequest rollbackParams
    (secondVersion.production.deployments "checkout")

/-- What was collected about the service after the rollback. -/
def fixEvidence : EvidenceRecord where
  evidenceId := 1
  sequence := 1
  incidentId := 1
  evidenceType := .deployment
  subjectService := "checkout"
  collectedAt := 10
  normalizedPayload := [("current", .object (deploymentView fixRecord))]

/-- The second investigation blames the deployment again. -/
def secondRequest : PlanRequest where
  incidentId := 1
  investigationId := 2
  report :=
    { rca :=
        { incidentSummary := ⟨"checkout fails", [1]⟩
          impact := ⟨"orders are lost", [1]⟩
          affectedServices := []
          timeline := []
          rootCause := ⟨"the deployment of v1 broke checkout", [1]⟩ }
      confidence := ⟨9 / 10, "0.9"⟩
      selectedKey := "h1"
      selectedDescription := "the deployment broke checkout"
      causeCategory := some .deployment
      component := some "checkout"
      supportingEvidence := [1]
      investigationActions := []
      competingHypotheses := [] }

theorem fixEvidence_shows :
    Shows newYear "production" fixedProduction fixEvidence .deployment (some fixRecord) := by
  have registry : fixedProduction.deployments "checkout" =
      [deploymentRecord "production" "v1", deploymentRecord "production" "v2", fixRecord] := rfl
  have observed : deployments newYear (fixedProduction.deployments "checkout") "production" 5 9
      10 = some ⟨some (deploymentView fixRecord), [], 0, [], false, 0⟩ := by
    rw [registry]
    simp [deployments, scanned, maxRecordsScanned, ofEnvironment, deploymentRecord, fixRecord,
      rollbackEntry, rollbackRecord, fixMoment, rollbackRequest, Dict.get?,
      List.lookup_cons, Json.eq, keepByTs, parseTs, newYear, latestFirst, observedAt,
      summaryVersion]
  have current : currentRecord newYear "production" (fixedProduction.deployments "checkout") 9 =
      some fixRecord := by
    rw [registry]
    simp [currentRecord, scanned, maxRecordsScanned, ofEnvironment, deploymentRecord, fixRecord,
      rollbackEntry, rollbackRecord, fixMoment, rollbackRequest, Dict.get?,
      List.lookup_cons, Json.eq, keepByTs, parseTs, newYear]
  rw [← current]
  exact .deployment observed rfl

theorem fix_accepted : Accepted fixMoment rollbackRequest rollbackParams secondVersion :=
  ⟨rfl, rfl, by decide⟩

theorem listed_fixEvidence : listIncidentRecords [fixEvidence] 1 = [fixEvidence] := by
  simp [listIncidentRecords, fixEvidence]

theorem plans_secondRequest :
    ∃ p why, plan (listIncidentRecords [fixEvidence] 1) secondRequest = some (some p, why) := by
  rw [listed_fixEvidence]
  have planned : ((plan [fixEvidence] secondRequest).bind Prod.fst).isSome = true := by
    decide +kernel
  obtain ⟨p, found⟩ := Option.isSome_iff_exists.mp planned
  obtain ⟨⟨_, why⟩, ends, rfl⟩ := Option.bind_eq_some_iff.mp found
  exact ⟨p, why, ends⟩

theorem changeRecords_fixEvidence :
    changeRecords (listIncidentRecords [fixEvidence] 1) secondRequest.report "checkout"
      .deployment = [fixEvidence] := by
  rw [listed_fixEvidence]
  rfl

/-- The rollback's own record is all that the second investigation cites. -/
theorem plansForward_iff_checkout : ∃ p,
    (∃ record, fixedRegistry rollbackParams fixedProduction =
        fixedRegistry rollbackParams secondVersion.production ++ [record] ∧
      ReplacesBad rollbackParams secondVersion.production (rollbackParams.text "service")
        (fixedCause rollbackParams) (some record)) ∧
    (PlansForward rollbackParams secondVersion.production "checkout" .deployment
        (changeRecords (listIncidentRecords [fixEvidence] 1) secondRequest.report "checkout"
          .deployment) p ↔
      ¬ ReplacesBad rollbackParams secondVersion.production "checkout" .deployment
          (some fixRecord) ∧
        SameChange fixEvidence fixEvidence .deployment) := by
  obtain ⟨p, why, proposes⟩ := plans_secondRequest
  have only := changeRecords_fixEvidence
  exact ⟨p, plansForward_iff fix_accepted (by decide) proposes rfl rfl rfl
    (congrArg List.head? only) (congrArg List.getLast? only) fixEvidence_shows⟩

/-- The second plan goes back to the version that the rollback moved away from. -/
theorem not_plansForward :
    ¬ ∀ (fromIsoformat : Json → Option Time) (m : Moment) (request : ExecutionRequest)
      (params : Params) (s : Simulator) (records : List EvidenceRecord) (planned : PlanRequest)
      (p : RemediationProposal) (why component : String) (category : CauseCategory)
      (type : EvidenceType), Accepted m request params s →
      appends params s.production = true →
      plan (listIncidentRecords records planned.incidentId) planned = some (some p, why) →
      planned.report.causeCategory = some category →
      planned.report.component = some component → changeType category = some type →
      (∀ r ∈ changeRecords (listIncidentRecords records planned.incidentId) planned.report
          component type, ∃ change, Shows fromIsoformat request.environment
        ((execute m request).run s).2.production r category change) →
      PlansForward params s.production component category
        (changeRecords (listIncidentRecords records planned.incidentId) planned.report component
          type) p := by
  intro forward
  obtain ⟨p, why, proposes⟩ := plans_secondRequest
  have only := changeRecords_fixEvidence
  have shown : ∀ r ∈ changeRecords (listIncidentRecords [fixEvidence] 1) secondRequest.report
      "checkout" .deployment, ∃ change,
      Shows newYear "production" fixedProduction r .deployment change := by
    rw [only]
    intro r member
    rw [List.mem_singleton.mp member]
    exact ⟨some fixRecord, fixEvidence_shows⟩
  have keeps := (forward newYear fixMoment rollbackRequest rollbackParams secondVersion
    [fixEvidence] secondRequest p why "checkout" .deployment .deployment fix_accepted (by decide)
    proposes rfl rfl rfl shown).keepsFix
  obtain ⟨r, head, named⟩ := plan_named proposes rfl rfl rfl
  have cited : some fixEvidence = some r := (congrArg List.head? only).symm.trans head
  cases cited
  apply keeps
  rw [undoes_iff (by decide) named fixEvidence_shows]
  exact ⟨rfl, rfl, by decide +kernel⟩

end IncidentTriage.Verified
