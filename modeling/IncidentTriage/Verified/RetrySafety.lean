import IncidentTriage.Library.Races
import IncidentTriage.Remediation.Executor

/-! # Two attempts at the same action

A retry-safe action is tried again under a new idempotency key, and an attempt that timed
out may still be running.  Restarting a service and disabling a flag do the same thing
twice.  Rolling back and reverting compare before they append to a registry, in separate
operations: what one attempt appends, the other must find before it compares.
-/

namespace IncidentTriage.Verified

open IncidentTriage.Python IncidentTriage.Domain IncidentTriage.Remediation
  IncidentTriage.Remediation.SimulatorExecutor

/-! ## Acting once -/

/-- Another attempt at the same action: its own idempotency key and its own deadline. -/
def retryOf (request : ExecutionRequest) (key : String) (deadline : Time) : ExecutionRequest :=
  { request with idempotencyKey := key, deadline := deadline }

/-- The records of the registries of a service. -/
def registered (service : String) (production : Production) : Nat :=
  (production.deployments service).length + (production.configs service).length

/-- Two attempts leave what one of them alone would have left, and agree on the outcome. -/
structure ActsOnce (m m' : Moment) (request request' : ExecutionRequest) (s s' : Simulator)
    (r r' : ExecutorResult) : Prop where
  production : s'.production = ((execute m request).run s).2.production ∨
    s'.production = ((execute m' request').run s).2.production
  records : ∀ service, registered service s'.production ≤ registered service s.production + 1
  success : r.succeeded = r'.succeeded

theorem ActsOnce.symm {m m' : Moment} {request request' : ExecutionRequest} {s s' : Simulator}
    {r r' : ExecutorResult} (once : ActsOnce m m' request request' s s' r r') :
    ActsOnce m' m request' request s s' r' r :=
  ⟨once.production.symm, once.records, once.success.symm⟩

/-! ## What an action compares -/

/-- What is in place, for the actions that compare. -/
def inPlace (params : Params) (production : Production) : Option Json :=
  let service := params.text "service"
  match params.model with
  | .rollbackDeployment => recordField (production.deployments service).getLast? "version"
  | .revertConfiguration => recordField (production.configs service).getLast? "new_value"
  | _ => none

/-- What an action expects to be in place, what it wants there, and what it records. -/
def expectedValue (params : Params) : Json :=
  match params.model with
  | .rollbackDeployment => params.value "from_version"
  | .revertConfiguration => params.value "from_value"
  | _ => .null

def wantedValue (params : Params) : Json :=
  match params.model with
  | .rollbackDeployment => params.value "to_version"
  | .revertConfiguration => params.value "to_value"
  | _ => .null

def recordedValue (params : Params) : Json :=
  match params.model with
  | .rollbackDeployment => params.value "to_version"
  | .revertConfiguration => .str (params.text "to_value")
  | _ => .null

/-- The action is one that compares, with a target it knows. -/
def compares (params : Params) : Bool :=
  match params.model with
  | .rollbackDeployment => true
  | .revertConfiguration => params.text "key" == configKeyName
  | _ => false

/-- The action appends a record: what is in place is not what it wants but what it expects. -/
def appends (params : Params) (production : Production) : Bool :=
  compares params && !fieldEq (inPlace params production) (wantedValue params) &&
    fieldEq (inPlace params production) (expectedValue params)

/-- The number of the operation that appends the record. -/
def appendOp : ParamsModel → Nat
  | .rollbackDeployment => 5
  | _ => 4

/-- Both attempts compare, by their second operation, before the other one appends; or what
the first one records is not equal to what the second one wants. -/
def DoubleActs (params : Params) (production : Production) (schedule : List Bool) : Prop :=
  appends params production = true ∧
    ((recordedValue params).eq (wantedValue params) = false ∨
      Script.Overlap 2 (appendOp params.model) 2 (appendOp params.model) schedule)

/-! ## What an action that appends nothing does -/

/-- The faults an action clears. -/
def clearable (params : Params) : List String :=
  match params.model with
  | .restartService => restartClears
  | .rollbackDeployment => ["bad-deployment"]
  | .revertConfiguration => ["bad-configuration"]
  | _ => []

def withoutFault (params : Params) (production : Production) : Production :=
  if (faultAmong (clearable params) (production.chaos (params.text "service"))).isSome then
    { production with chaos := Function.update production.chaos (params.text "service") none }
  else production

/-- Whether an action that appends nothing succeeds, and what it leaves. -/
def verdict (params : Params) (production : Production) : Bool :=
  match params.model with
  | .restartService | .disableFeatureFlag => true
  | .scaleService => false
  | _ => compares params && fieldEq (inPlace params production) (wantedValue params)

def settled (params : Params) (production : Production) : Production :=
  match params.model with
  | .disableFeatureFlag =>
    { production with
      flags := Function.update production.flags (params.text "service")
        (Function.update (production.flags (params.text "service")) (params.text "flag")
          (some "false")) }
  | _ => if verdict params production then withoutFault params production else production

/-! ## What an attempt relies on -/

/-- What the other attempt may do: leave production as it is or as it is in the end, and
never write this attempt's idempotency record. -/
def Others (target : Production) (key : String) (s s' : Simulator) : Prop :=
  (s'.production = s.production ∨ s'.production = target) ∧ s'.applied key = s.applied key

/-- What this attempt does. -/
def Mine (target : Production) (key : String) (s s' : Simulator) : Prop :=
  (s'.production = s.production ∨ s'.production = target) ∧
    ∀ other, other ≠ key → s'.applied other = s.applied other

theorem relies_others (target : Production) (key : String) : Script.Relies (Others target key) where
  refl _ := ⟨.inl rfl, rfl⟩
  trans {a b c} first second := by
    refine ⟨?_, second.2.trans first.2⟩
    rcases second.1 with same | there
    · rw [same]
      exact first.1
    · exact .inr there

theorem mine_refl (target : Production) (key : String) (s : Simulator) : Mine target key s s :=
  ⟨.inl rfl, fun _ _ => rfl⟩

theorem Mine.others {target : Production} {key other : String} {s s' : Simulator}
    (mine : Mine target key s s') (differ : other ≠ key) : Others target other s s' :=
  ⟨mine.1, mine.2 other differ⟩

/-- The outcome an attempt comes to from `before`, when nothing is appended on the way. -/
structure Settled (before target : Production) (succeeded : Bool) (r : ExecutorResult)
    (s : Simulator) : Prop where
  told : r.succeeded = succeeded
  here : s.production = before ∨ s.production = target
  there : succeeded = true → s.production = target

section
variable {before target : Production} {key : String} {succeeded : Bool} {r : ExecutorResult}
  {s s' : Simulator}

theorem here_stable (here : s.production = before ∨ s.production = target)
    (others : Others target key s s') : s'.production = before ∨ s'.production = target := by
  rcases others.1 with same | there
  · rw [same]
    exact here
  · exact .inr there

theorem Settled.stable (outcome : Settled before target succeeded r s)
    (others : Others target key s s') : Settled before target succeeded r s' where
  told := outcome.told
  here := here_stable outcome.here others
  there success := by
    rcases others.1 with same | there
    · rw [same]
      exact outcome.there success
    · exact there

/-- The outcome of the whole attempt. -/
def Answered (before target : Production) (succeeded : Bool)
    (answer : Except ExecutionTimeout ExecutorResult) (s : Simulator) : Prop :=
  ∃ r, answer = .ok r ∧ Settled before target succeeded r s

/-! ## After the action -/

/-- The idempotency record and the entry of the operations log after an action. -/
def recording (m : Moment) (request : ExecutionRequest) (action : Script Simulator ExecutorResult) :
    Script Simulator (Except ExecutionTimeout ExecutorResult) := do
  let result ← (do
    let result ← action
    Script.write (setApplied request.idempotencyKey result)
    Script.write (pushOperation request.targetService (operation m request result))
    pure result)
  pure (.ok result)

variable {m : Moment} {request : ExecutionRequest} {params : Params}
  {action : Script Simulator ExecutorResult}

theorem recording_safe
    (safe : action.Safe (Others target request.idempotencyKey) (Mine target request.idempotencyKey)
      (Settled before target succeeded) s) :
    (recording m request action).Safe (Others target request.idempotencyKey)
      (Mine target request.idempotencyKey) (Answered before target succeeded) s := by
  have relies := relies_others target request.idempotencyKey
  have records : ∀ r s, Settled before target succeeded r s →
      Script.Safe (Others target request.idempotencyKey) (Mine target request.idempotencyKey)
        (Settled before target succeeded) (do
          Script.write (setApplied request.idempotencyKey r)
          Script.write (pushOperation request.targetService (operation m request r))
          pure r) s := by
    intro r s outcome s₁ others₁
    constructor
    · exact ⟨.inl rfl, fun other differ => Function.update_of_ne differ ..⟩
    intro s₂ others₂
    constructor
    · exact ⟨.inl rfl, fun _ _ => rfl⟩
    intro s₃ others₃
    have recorded : Settled before target succeeded r (setApplied request.idempotencyKey r s₁) :=
      ⟨outcome.told, (outcome.stable others₁).here, (outcome.stable others₁).there⟩
    have logged := recorded.stable others₂
    exact Settled.stable ⟨logged.told, logged.here, logged.there⟩ others₃
  exact (safe.bind relies records).bind relies
    (fun r s outcome s' others => ⟨r, rfl, outcome.stable others⟩)

/-- What is added by the action is all that is added. -/
theorem recording_adds {measure : Simulator → Nat} {n : Nat} (adds : Script.Adds measure n action)
    (production : ∀ s s', s'.production = s.production → measure s' = measure s) :
    Script.Adds measure n (recording m request action) := by
  have records : ∀ r, Script.Adds measure 0 (do
      Script.write (setApplied request.idempotencyKey r)
      Script.write (pushOperation request.targetService (operation m request r))
      pure r) := by
    intro r
    refine Script.Adds.still (fun s => ?_) (fun _ => Script.Adds.still (fun s => ?_) fun _ => ?_)
    · exact production s _ rfl
    · exact production s _ rfl
    · exact .done r
  exact (adds.bind records).bind (fun r => Script.Adds.done (Except.ok r))

theorem recording_readsTo {after : Script Simulator ExecutorResult} {n : Nat}
    (reads : Script.ReadsTo s after n action) :
    Script.ReadsTo s (recording m request after) n (recording m request action) := by
  induction n generalizing action with
  | zero =>
    cases reads
    rfl
  | succ n ih =>
    obtain ⟨next, rfl, later⟩ := reads
    exact ⟨fun s => recording m request (next s), rfl, ih later⟩

/-! ## The action when nothing is appended -/

theorem withoutFault_registries (params : Params) (production : Production) :
    (withoutFault params production).deployments = production.deployments ∧
      (withoutFault params production).configs = production.configs := by
  unfold withoutFault
  split_ifs <;> exact ⟨rfl, rfl⟩

theorem settled_registries (params : Params) (production : Production) :
    (settled params production).deployments = production.deployments ∧
      (settled params production).configs = production.configs := by
  unfold settled
  split
  · exact ⟨rfl, rfl⟩
  · split_ifs
    · exact withoutFault_registries params production
    · exact ⟨rfl, rfl⟩

theorem withoutFault_of_none
    (missing : faultAmong (clearable params) (before.chaos (params.text "service")) = none) :
    withoutFault params before = before := by
  rw [withoutFault, missing]
  rfl

/-- The target has no fault that the action would clear. -/
theorem faultAmong_withoutFault (params : Params) (production : Production) :
    faultAmong (clearable params)
      ((withoutFault params production).chaos (params.text "service")) = none := by
  unfold withoutFault
  split_ifs with faulty
  · simp only [Function.update_self]
    rfl
  · exact Option.not_isSome_iff_eq_none.mp faulty

/-- Deleting the fault gives the target, also when it is deleted already. -/
theorem deleteFault_production {scenario : String}
    (among : faultAmong (clearable params) (before.chaos (params.text "service")) = some scenario)
    (here : s.production = before ∨ s.production = withoutFault params before) :
    (deleteFault (params.text "service") s).production = withoutFault params before := by
  rw [withoutFault, among, Option.isSome_some, if_pos rfl] at *
  rcases here with here | here
  · rw [deleteFault, here]
  · rw [deleteFault, here, Function.update_idem]

theorem clearFault_safe (goal : target = withoutFault params before)
    (here : s.production = before ∨ s.production = target) :
    (clearFault (params.text "service") (clearable params)).Safe (Others target key)
      (Mine target key) (fun _ s' => s'.production = target) s := by
  have reached : ∀ s₁ s₂, s₁.production = target → Others target key s₁ s₂ →
      s₂.production = target := by
    intro s₁ s₂ there others
    rcases others.1 with same | there'
    · rw [same, there]
    · exact there'
  apply Script.Safe.read_bind (mine_refl target key)
  intro s₁ others₁
  have here₁ := here_stable here others₁
  split
  · rename_i scenario among
    -- the fault is there, so production is still as it was: deleting it gives the target
    intro s₂ others₂
    have same : s₁.production = before := by
      rcases here₁ with same | there
      · exact same
      · rw [there, goal, faultAmong_withoutFault] at among
        cases among
    rw [same] at among
    have here₂ := here_stable here₁ others₂
    have deleted : (deleteFault (params.text "service") s₂).production = target := by
      rw [goal] at here₂ ⊢
      exact deleteFault_production among here₂
    exact ⟨⟨.inr deleted, fun _ _ => rfl⟩, fun s₃ others₃ => reached _ s₃ deleted others₃⟩
  · rename_i missing
    intro s₂ others₂
    have there : s₁.production = target := by
      rcases here₁ with same | there
      · rw [same] at missing ⊢
        rw [goal]
        exact (withoutFault_of_none missing).symm
      · exact there
    exact reached s₁ s₂ there others₂

/-- An action that ends by clearing the fault succeeds, and leaves the target. -/
theorem clearing_safe (goal : target = withoutFault params before)
    (here : s.production = before ∨ s.production = target)
    {result : Option String → ExecutorResult}
    (succeeds : ∀ scenario, (result scenario).succeeded = true) :
    (clearFault (params.text "service") (clearable params) >>= fun scenario =>
        pure (result scenario)).Safe (Others target key) (Mine target key)
      (Settled before target true) s := by
  apply (clearFault_safe goal here).bind (relies_others target key)
  intro scenario s₁ there s₂ others
  have outcome : Settled before target true (result scenario) s₁ :=
    ⟨succeeds scenario, .inr there, fun _ => there⟩
  exact outcome.stable others

/-- An action that is refused leaves production as it is. -/
theorem refused_safe (here : s.production = before ∨ s.production = target)
    (refused : r.succeeded = false) :
    (pure r : Script Simulator ExecutorResult).Safe (Others target key) (Mine target key)
      (Settled before target false) s :=
  fun _ others => ⟨refused, here_stable here others, nofun⟩

theorem handler_safe (scales : params.model ≠ .scaleService)
    (idle : appends params before = false)
    (registries : target.deployments = before.deployments ∧ target.configs = before.configs)
    (goal : verdict params before = true → target = settled params before)
    (here : s.production = before ∨ s.production = target) :
    (handler m request params).Safe (Others target key) (Mine target key)
      (Settled before target (verdict params before)) s := by
  cases model : params.model with
  | restartService =>
    have clears : clearable params = restartClears := by simp only [clearable, model]
    have success : verdict params before = true := by simp only [verdict, model]
    have target_eq : target = withoutFault params before := by
      rw [goal success]
      simp only [settled, model, success, if_true]
    simp only [success, handler, model, restartService, ← clears]
    exact clearing_safe target_eq here (fun _ => rfl)
  | scaleService => exact absurd model scales
  | rollbackDeployment =>
    have clears : clearable params = ["bad-deployment"] := by simp only [clearable, model]
    simp only [handler, model, rollbackDeployment]
    apply Script.Safe.read_bind (mine_refl target key)
    intro s₁ others₁
    have here₁ := here_stable here others₁
    have running : recordField (s₁.production.deployments (params.text "service")).getLast?
        "version" = inPlace params before := by
      rcases here₁ with same | there
      · rw [same]
        simp only [inPlace, model]
      · rw [there, registries.1]
        simp only [inPlace, model]
    have success : verdict params before =
        fieldEq (inPlace params before) (params.value "to_version") := by
      simp only [verdict, model, compares, wantedValue, Bool.true_and]
    rw [running]
    split
    · rename_i there
      rw [there] at success
      have target_eq : target = withoutFault params before := by
        rw [goal success]
        simp only [settled, model, success, if_true]
      rw [success, ← clears]
      exact clearing_safe target_eq here₁ (fun _ => rfl)
    · rename_i other
      rw [Bool.not_eq_true] at other
      rw [other] at success
      have unexpected : fieldEq (inPlace params before) (params.value "from_version") = false := by
        simpa [appends, compares, model, wantedValue, expectedValue, other] using idle
      rw [success, if_pos unexpected]
      exact refused_safe here₁ rfl
  | disableFeatureFlag =>
    have success : verdict params before = true := by simp only [verdict, model]
    have target_eq := goal success
    simp only [settled, model] at target_eq
    simp only [success, handler, model, disableFeatureFlag]
    apply Script.Safe.read_bind (mine_refl target key)
    intro s₁ others₁ s₂ others₂
    have here₂ := here_stable (here_stable here others₁) others₂
    have off : (setFlag (params.text "service") (params.text "flag") "false" s₂).production =
        target := by
      rcases here₂ with same | there
      · rw [target_eq, setFlag, same]
      · rw [setFlag, there, target_eq]
        simp only [Function.update_idem, Function.update_self]
    refine ⟨⟨.inr off, fun _ _ => rfl⟩, fun s₃ others₃ => ?_⟩
    exact Settled.stable ⟨rfl, .inr off, fun _ => off⟩ others₃
  | revertConfiguration =>
    have clears : clearable params = ["bad-configuration"] := by simp only [clearable, model]
    simp only [handler, model, revertConfiguration]
    split
    · rename_i unknown
      have failure : verdict params before = false := by
        simp [verdict, model, compares, unknown]
      rw [failure]
      exact refused_safe here rfl
    rename_i known
    rw [not_not] at known
    apply Script.Safe.read_bind (mine_refl target key)
    intro s₁ others₁
    have here₁ := here_stable here others₁
    have current : recordField (s₁.production.configs (params.text "service")).getLast?
        "new_value" = inPlace params before := by
      rcases here₁ with same | there
      · rw [same]
        simp only [inPlace, model]
      · rw [there, registries.2]
        simp only [inPlace, model]
    have success : verdict params before =
        fieldEq (inPlace params before) (params.value "to_value") := by
      simp [verdict, model, compares, wantedValue, known]
    rw [current]
    split
    · rename_i there
      rw [there] at success
      have target_eq : target = withoutFault params before := by
        rw [goal success]
        simp only [settled, model, success, if_true]
      rw [success, ← clears]
      exact clearing_safe target_eq here₁ (fun _ => rfl)
    · rename_i other
      rw [Bool.not_eq_true] at other
      rw [other] at success
      have unexpected : fieldEq (inPlace params before) (params.value "from_value") = false := by
        simpa [appends, compares, model, wantedValue, expectedValue, other, known] using idle
      rw [success, if_pos unexpected]
      exact refused_safe here₁ rfl

/-! ## The attempt when nothing is appended -/

/-- What is left of an attempt after it has looked for its idempotency record. -/
def going (m : Moment) (request : ExecutionRequest) (params : Params) :
    Script Simulator (Except ExecutionTimeout ExecutorResult) :=
  recording m request (handler m request params)

/-- Nothing is recorded under the attempt's key, and it is accepted and in time. -/
structure Accepted (m : Moment) (request : ExecutionRequest) (params : Params) (s : Simulator) :
    Prop where
  fresh : s.applied request.idempotencyKey = none
  checked : checkRequest request = .ok params
  inTime : m.now < request.deadline

/-- The first operation of an attempt. -/
theorem Accepted.execute_eq (accepted : Accepted m request params s) :
    ∃ next, execute m request = .act id next ∧ next s = going m request params := by
  refine ⟨_, rfl, ?_⟩
  simp only [Script.bind, accepted.fresh, Option.map_none, accepted.checked,
    if_neg (not_le.mpr accepted.inTime)]
  rfl

theorem going_safe (scales : params.model ≠ .scaleService)
    (idle : appends params before = false)
    (registries : target.deployments = before.deployments ∧ target.configs = before.configs)
    (goal : verdict params before = true → target = settled params before)
    (here : s.production = before ∨ s.production = target) :
    (going m request params).Safe (Others target request.idempotencyKey)
      (Mine target request.idempotencyKey) (Answered before target (verdict params before)) s :=
  recording_safe (handler_safe scales idle registries goal here)

theorem execute_safe (accepted : Accepted m request params s)
    (scales : params.model ≠ .scaleService)
    (idle : appends params before = false)
    (registries : target.deployments = before.deployments ∧ target.configs = before.configs)
    (goal : verdict params before = true → target = settled params before)
    (here : s.production = before ∨ s.production = target) :
    (execute m request).Safe (Others target request.idempotencyKey)
      (Mine target request.idempotencyKey) (Answered before target (verdict params before)) s := by
  apply Script.Safe.read_bind (mine_refl target request.idempotencyKey)
  intro s₁ others₁
  have accepted₁ : Accepted m request params s₁ :=
    ⟨others₁.2.trans accepted.fresh, accepted.checked, accepted.inTime⟩
  simp only [accepted₁.fresh, Option.map_none, accepted.checked,
    if_neg (not_le.mpr accepted.inTime)]
  exact going_safe scales idle registries goal (here_stable here others₁)

theorem settled_of_refused (refused : verdict params before = false) :
    settled params before = before := by
  unfold settled
  split
  · rename_i model
    simp [verdict, model] at refused
  · rw [refused]
    exact if_neg Bool.false_ne_true

/-- Whatever the verdict, an attempt that appends nothing leaves what is settled. -/
theorem Answered.production {answer : Except ExecutionTimeout ExecutorResult}
    (answered : Answered before (settled params before) (verdict params before) answer s) :
    s.production = settled params before := by
  obtain ⟨r, -, outcome⟩ := answered
  cases success : verdict params before with
  | true => exact outcome.there success
  | false =>
    have still := settled_of_refused success
    rcases outcome.here with here | here
    · rw [here, still]
    · exact here

/-- Two attempts of which neither appends. -/
theorem actsOnce_of_idle {m' : Moment} {request' : ExecutionRequest} {r' : ExecutorResult}
    {schedule : List Bool} (first : Accepted m request params s)
    (second : Accepted m' request' params s) (scales : params.model ≠ .scaleService)
    (keys : request'.idempotencyKey ≠ request.idempotencyKey)
    (idle : appends params s.production = false)
    (ends : Script.interleave schedule (execute m request) (execute m' request') s =
      (.done (.ok r), .done (.ok r'), s')) :
    ActsOnce m m' request request' s s' r r' := by
  let target := settled params s.production
  have registries := settled_registries params s.production
  have safe : (execute m request).Safe (Others target request.idempotencyKey)
      (Mine target request.idempotencyKey) (Answered s.production target _) s :=
    execute_safe first scales idle registries (fun _ => rfl) (.inl rfl)
  have safe' : (execute m' request').Safe (Others target request'.idempotencyKey)
      (Mine target request'.idempotencyKey) (Answered s.production target _) s :=
    execute_safe second scales idle registries (fun _ => rfl) (.inl rfl)
  have relies := relies_others target request.idempotencyKey
  have relies' := relies_others target request'.idempotencyKey
  have together := Script.Safe.interleave relies relies' (fun mine => mine.others keys)
    (fun theirs => theirs.others keys.symm) schedule safe safe'
  rw [ends] at together
  have answered := together.1.finished relies
  have answered' := together.2.finished relies'
  have reached := answered.production
  have alone := (safe.run relies).production
  obtain ⟨_, same, outcome⟩ := answered
  obtain ⟨_, same', outcome'⟩ := answered'
  cases same
  cases same'
  refine ⟨.inl (reached.trans alone.symm), fun service => ?_, outcome.told.trans outcome'.told.symm⟩
  rw [reached, registered, registries.1, registries.2]
  exact Nat.le_succ _

/-! ## The action when it appends -/

/-- What an attempt that decides on `s` to append writes later. -/
def pushOn (m : Moment) (request : ExecutionRequest) (params : Params) (s : Simulator) :
    Simulator → Simulator :=
  let service := params.text "service"
  match params.model with
  | .rollbackDeployment =>
    let target := (s.production.deployments service).reverse.find?
      (fun record => fieldEq (Dict.get? record "version") (params.value "to_version"))
    pushDeployment service (rollbackRecord m service request.environment
      (params.value "to_version") (s.production.deployments service).getLast?
      (recordField target "commit_sha"))
  | _ =>
    pushConfig service (configRecord m service request.environment (params.text "to_value")
      (s.production.configs service).getLast?)

/-- The number of records of the service's registries. -/
def recordCount (params : Params) (s : Simulator) : Nat :=
  registered (params.text "service") s.production

theorem clearFault_adds (params : Params) (service : String) (scenarios : List String)
    (result : Option String → ExecutorResult) :
    Script.Adds (recordCount params) 0 (clearFault service scenarios >>= fun scenario =>
      pure (result scenario)) := by
  have clears : Script.Adds (recordCount params) 0 (clearFault service scenarios) := by
    apply Script.Adds.read_bind
    intro fault
    cases faultAmong scenarios fault with
    | none => exact .done none
    | some scenario => exact .still (fun _ => rfl) (fun _ => .done (some scenario))
  exact clears.bind (fun scenario => .done (result scenario))

theorem recordRollback_adds (m : Moment) (params : Params) (environment : String)
    (commitSha : Option Json) :
    Script.Adds (recordCount params) 1 (recordRollback m (params.text "service") environment
      (params.value "to_version") commitSha) := by
  apply Script.Adds.read_bind
  intro current
  refine .act (k := 1) (fun s => ?_) (fun _ => .done _)
  simp [recordCount, registered, pushDeployment]
  omega

theorem recordConfig_adds (m : Moment) (params : Params) (environment : String) :
    Script.Adds (recordCount params) 1 (recordConfig m (params.text "service") environment
      (params.text "to_value")) := by
  apply Script.Adds.read_bind
  intro current
  refine .act (k := 1) (fun s => ?_) (fun _ => .done _)
  simp [recordCount, registered, pushConfig]
  omega

/-- The action decides by one operation, reads on, appends, and clears the fault. -/
theorem handler_decides (m : Moment) (request : ExecutionRequest)
    (appending : appends params s.production = true) :
    ∃ (check : Simulator → Script Simulator ExecutorResult)
      (result : Option String → ExecutorResult),
      handler m request params = .act id check ∧
      (∀ scenario, (result scenario).succeeded = true) ∧
      Script.Adds (recordCount params) 1 (check s) ∧
      Script.ReadsTo s (.act (pushOn m request params s) fun _ =>
          clearFault (params.text "service") (clearable params) >>= fun scenario =>
            pure (result scenario))
        (appendOp params.model - 3) (check s) := by
  cases model : params.model with
  | restartService => simp [appends, compares, model] at appending
  | scaleService => simp [appends, compares, model] at appending
  | disableFeatureFlag => simp [appends, compares, model] at appending
  | rollbackDeployment =>
    obtain ⟨other, here⟩ : fieldEq (recordField
          (s.production.deployments (params.text "service")).getLast? "version")
          (params.value "to_version") = false ∧
        fieldEq (recordField
          (s.production.deployments (params.text "service")).getLast? "version")
          (params.value "from_version") = true := by
      simpa [appends, compares, model, inPlace, wantedValue, expectedValue] using appending
    have decides : ∃ check, rollbackDeployment m request params = .act id check ∧
        check s = (do
          let target ← findDeployment (params.text "service") (params.value "to_version")
          let record ← recordRollback m (params.text "service") request.environment
            (params.value "to_version") (recordField target "commit_sha")
          let scenario ← clearFault (params.text "service") ["bad-deployment"]
          pure (rolledBack params record scenario)) := by
      refine ⟨_, rfl, ?_⟩
      simp [Script.bind, other, here]
    obtain ⟨check, starts, commits⟩ := decides
    let target := (s.production.deployments (params.text "service")).reverse.find?
      (fun record => fieldEq (Dict.get? record "version") (params.value "to_version"))
    let record := rollbackRecord m (params.text "service") request.environment
      (params.value "to_version") (s.production.deployments (params.text "service")).getLast?
      (recordField target "commit_sha")
    refine ⟨check, rolledBack params record, ?_, fun _ => rfl, ?_, ?_⟩
    · rw [handler, model]
      exact starts
    · rw [commits]
      apply Script.Adds.read_bind
      intro target
      exact (recordRollback_adds m params request.environment _).bind
        (fun record => clearFault_adds params _ _ _)
    · rw [commits]
      simp only [pushOn, clearable, model]
      exact ⟨_, rfl, _, rfl, rfl⟩
  | revertConfiguration =>
    obtain ⟨known, other, here⟩ : params.text "key" = configKeyName ∧ fieldEq (recordField
          (s.production.configs (params.text "service")).getLast? "new_value")
          (params.value "to_value") = false ∧
        fieldEq (recordField
          (s.production.configs (params.text "service")).getLast? "new_value")
          (params.value "from_value") = true := by
      simpa [appends, compares, model, inPlace, wantedValue, expectedValue, and_assoc]
        using appending
    have decides : ∃ check, revertConfiguration m request params = .act id check ∧
        check s = (do
          let record ← recordConfig m (params.text "service") request.environment
            (params.text "to_value")
          let scenario ← clearFault (params.text "service") ["bad-configuration"]
          pure (reverted params record scenario)) := by
      simp only [revertConfiguration, known, ne_eq, not_true_eq_false, if_false]
      refine ⟨_, rfl, ?_⟩
      simp [Script.bind, other, here]
    obtain ⟨check, starts, commits⟩ := decides
    let record := configRecord m (params.text "service") request.environment
      (params.text "to_value") (s.production.configs (params.text "service")).getLast?
    refine ⟨check, reverted params record, ?_, fun _ => rfl, ?_, ?_⟩
    · rw [handler, model]
      exact starts
    · rw [commits]
      exact (recordConfig_adds m params request.environment).bind
        (fun record => clearFault_adds params _ _ _)
    · rw [commits]
      simp only [pushOn, clearable, model]
      exact ⟨_, rfl, rfl⟩

/-! ## Two attempts that compare -/

/-- An attempt that has not compared yet, with so many operations to go before it does. -/
def unread (m : Moment) (request : ExecutionRequest) (params : Params) (i : Nat)
    (p : Script Simulator (Except ExecutionTimeout ExecutorResult)) : Prop :=
  match i with
  | 0 => p = going m request params
  | 1 => p = execute m request
  | _ => False

/-- What an attempt still does after it has appended. -/
def closing (m : Moment) (request : ExecutionRequest) (params : Params)
    (result : Option String → ExecutorResult) :
    Script Simulator (Except ExecutionTimeout ExecutorResult) :=
  recording m request (clearFault (params.text "service") (clearable params) >>= fun scenario =>
    pure (result scenario))

/-- An attempt that has decided on `s` to append. -/
def bound (m : Moment) (request : ExecutionRequest) (params : Params) (s : Simulator) (k : Nat)
    (p : Script Simulator (Except ExecutionTimeout ExecutorResult)) : Prop :=
  ∃ result : Option String → ExecutorResult, (∀ scenario, (result scenario).succeeded = true) ∧
    Script.Adds (recordCount params) 1 p ∧
    Script.ReadsTo s (.act (pushOn m request params s) fun _ => closing m request params result) k p

theorem going_decides (m : Moment) (request : ExecutionRequest)
    (appending : appends params s.production = true) :
    ∃ next, going m request params = .act id next ∧
      bound m request params s (appendOp params.model - 3) (next s) := by
  obtain ⟨check, result, starts, succeeds, adds, reads⟩ := handler_decides m request appending
  refine ⟨fun s => recording m request (check s), ?_, result, succeeds, ?_, ?_⟩
  · rw [going, starts]
    rfl
  · apply recording_adds adds
    intro s s' same
    rw [recordCount, recordCount, same]
  · exact recording_readsTo reads

theorem contender (accepted : Accepted m request params s)
    (appending : appends params s.production = true) :
    Script.Contender s (unread m request params) (bound m request params s)
      (appendOp params.model - 3) where
  reads {i p} waits := by
    cases i with
    | zero =>
      cases waits
      exact accepted.execute_eq
    | succ i => exact waits.elim
  decides waits := by
    cases waits
    exact going_decides m request appending
  keeps decided := by
    obtain ⟨result, succeeds, adds, next, rfl, later⟩ := decided
    exact ⟨next, rfl, result, succeeds, adds.of_read s, later⟩

/-! ## What has been appended -/

theorem inPlace_pushOn (m : Moment) (request : ExecutionRequest) (s' : Simulator)
    (appending : appends params s.production = true) :
    inPlace params (pushOn m request params s s').production = some (recordedValue params) := by
  cases model : params.model with
  | restartService => simp [appends, compares, model] at appending
  | scaleService => simp [appends, compares, model] at appending
  | disableFeatureFlag => simp [appends, compares, model] at appending
  | rollbackDeployment =>
    simp [inPlace, model, pushOn, pushDeployment, recordedValue, recordField, rollbackRecord]
    rfl
  | revertConfiguration =>
    simp [inPlace, model, pushOn, pushConfig, recordedValue, recordField, configRecord]
    rfl

/-- One record is appended, to one of the service's registries. -/
theorem pushOn_cases (m : Moment) (request : ExecutionRequest) (params : Params) (s : Simulator) :
    ∃ record, pushOn m request params s = pushDeployment (params.text "service") record ∨
      pushOn m request params s = pushConfig (params.text "service") record := by
  cases model : params.model <;> simp only [pushOn, model]
  case rollbackDeployment => exact ⟨_, .inl rfl⟩
  all_goals exact ⟨_, .inr rfl⟩

theorem pushOn_applied (m : Moment) (request : ExecutionRequest) (params : Params)
    (s s' : Simulator) : (pushOn m request params s s').applied = s'.applied := by
  obtain ⟨record, writes | writes⟩ := pushOn_cases m request params s <;> rw [writes] <;> rfl

theorem pushOn_registered (m : Moment) (request : ExecutionRequest) (params : Params)
    (s s' : Simulator) (service : String) :
    registered service (pushOn m request params s s').production ≤
      registered service s'.production + 1 := by
  have longer : ∀ (f : String → List Dict) (record : Dict),
      (Function.update f (params.text "service") (f (params.text "service") ++ [record])
        service).length ≤ (f service).length + 1 := by
    intro f record
    by_cases same : service = params.text "service"
    · rw [same, Function.update_self, List.length_append]
      exact Nat.le_refl _
    · rw [Function.update_of_ne same]
      exact Nat.le_succ _
  obtain ⟨record, writes | writes⟩ := pushOn_cases m request params s
  · have := longer s'.production.deployments record
    simp only [writes, registered, pushDeployment]
    omega
  · have := longer s'.production.configs record
    simp only [writes, registered, pushConfig]
    omega

theorem pushOn_recordCount (m : Moment) (request : ExecutionRequest) (params : Params)
    (s s' : Simulator) :
    recordCount params (pushOn m request params s s') = recordCount params s' + 1 := by
  obtain ⟨record, writes | writes⟩ := pushOn_cases m request params s
  · simp [writes, recordCount, registered, pushDeployment]
    omega
  · simp [writes, recordCount, registered, pushConfig]
    omega

/-- An action that compares and finds what it wants clears the fault. -/
theorem settled_of_verdict (production : Production)
    (appending : appends params before = true) (success : verdict params production = true) :
    settled params production = withoutFault params production := by
  unfold settled
  split
  · rename_i model
    simp [appends, compares, model] at appending
  · rw [success]
    rfl

/-- An action that appends on `s` succeeds afterwards exactly when it finds what it wants. -/
theorem verdict_pushOn (m : Moment) (request : ExecutionRequest) (s' : Simulator)
    (appending : appends params s.production = true) :
    verdict params (pushOn m request params s s').production =
      (recordedValue params).eq (wantedValue params) := by
  have placed := inPlace_pushOn m request s' appending
  have known : compares params = true := by
    simp only [appends, Bool.and_eq_true] at appending
    exact appending.1.1
  have found : verdict params (pushOn m request params s s').production =
      (compares params && fieldEq (inPlace params (pushOn m request params s s').production)
        (wantedValue params)) := by
    unfold verdict
    split
    · rename_i model
      simp [compares, model] at known
    · rename_i model
      simp [compares, model] at known
    · rename_i model
      simp [compares, model] at known
    · rfl
  rw [found, known, placed]
  rfl

/-- Alone, an attempt that appends leaves the fault cleared as well. -/
theorem execute_alone (accepted : Accepted m request params s)
    (appending : appends params s.production = true) :
    ((execute m request).run s).2.production =
      withoutFault params (pushOn m request params s s).production := by
  obtain ⟨_, starts, goes⟩ := accepted.execute_eq
  obtain ⟨_, decides, result, succeeds, -, reads⟩ := going_decides m request appending
  have runs : (execute m request).run s =
      (closing m request params result).run (pushOn m request params s s) := by
    rw [starts, Script.run_act, goes, decides, Script.run_act]
    exact reads.run
  have safe : (closing m request params result).Safe
      (Others (withoutFault params (pushOn m request params s s).production)
        request.idempotencyKey)
      (Mine (withoutFault params (pushOn m request params s s).production)
        request.idempotencyKey)
      (Answered (pushOn m request params s s).production _ true) (pushOn m request params s s) :=
    recording_safe (clearing_safe rfl (.inl rfl) succeeds)
  rw [runs]
  obtain ⟨_, _, outcome⟩ := safe.run (relies_others _ _)
  exact outcome.there rfl

/-! ## One attempt appends before the other compares -/

theorem unread_safe {j : Nat} {q : Script Simulator (Except ExecutionTimeout ExecutorResult)}
    (waits : unread m request params j q) (accepted : Accepted m request params s)
    (scales : params.model ≠ .scaleService) (idle : appends params before = false)
    (registries : target.deployments = before.deployments ∧ target.configs = before.configs)
    (goal : verdict params before = true → target = settled params before)
    (here : s.production = before ∨ s.production = target) :
    q.Safe (Others target request.idempotencyKey) (Mine target request.idempotencyKey)
      (Answered before target (verdict params before)) s := by
  match j, waits with
  | 0, waits =>
    cases waits
    exact going_safe scales idle registries goal here
  | 1, waits =>
    cases waits
    exact execute_safe accepted scales idle registries goal here

/-- The registries are as they were, and so is the idempotency record of the key. -/
structure KeepsRegistries (key : String) (s s' : Simulator) : Prop where
  deployments : s'.production.deployments = s.production.deployments
  configs : s'.production.configs = s.production.configs
  applied : s'.applied key = s.applied key

theorem relies_keepsRegistries (key : String) : Script.Relies (KeepsRegistries key) where
  refl _ := ⟨rfl, rfl, rfl⟩
  trans first second := ⟨second.deployments.trans first.deployments,
    second.configs.trans first.configs, second.applied.trans first.applied⟩

theorem KeepsRegistries.recordCount (kept : KeepsRegistries key s s') :
    recordCount params s' = recordCount params s := by
  simp only [Verified.recordCount, registered, kept.deployments, kept.configs]

theorem KeepsRegistries.appends (kept : KeepsRegistries key s s') :
    appends params s'.production = appends params s.production := by
  simp only [Verified.appends, inPlace, kept.deployments, kept.configs]

/-- Closing an attempt keeps the registries, whatever the other attempt does. -/
theorem closing_keeps (m : Moment) (params : Params) {other : String}
    (differ : other ≠ request.idempotencyKey)
    (result : Option String → ExecutorResult) (s : Simulator) :
    (closing m request params result).Safe (fun _ _ => True) (KeepsRegistries other)
      (fun _ _ => True) s := by
  have relies : Script.Relies (fun _ _ : Simulator => True) :=
    ⟨fun _ => trivial, fun _ _ => trivial⟩
  have clears : (clearFault (params.text "service") (clearable params)).Safe (fun _ _ => True)
      (KeepsRegistries other) (fun _ _ => True) s := by
    apply Script.Safe.read_bind (relies_keepsRegistries other).refl
    intro s₁ _
    split
    · exact fun s₂ _ => ⟨⟨rfl, rfl, rfl⟩, fun _ _ => trivial⟩
    · exact fun _ _ => trivial
  have acts : (clearFault (params.text "service") (clearable params) >>= fun scenario =>
      pure (result scenario)).Safe (fun _ _ => True) (KeepsRegistries other) (fun _ _ => True) s :=
    clears.bind relies (fun _ _ _ _ _ => trivial)
  have records : ∀ r s, True → Script.Safe (fun _ _ => True) (KeepsRegistries other)
      (fun _ _ => True) (do
        Script.write (setApplied request.idempotencyKey r)
        Script.write (pushOperation request.targetService (operation m request r))
        pure r) s := by
    intro r s _ s₁ _
    refine ⟨⟨rfl, rfl, Function.update_of_ne differ ..⟩, fun s₂ _ => ?_⟩
    exact ⟨⟨rfl, rfl, rfl⟩, fun _ _ => trivial⟩
  exact (acts.bind relies records).bind relies (fun _ _ _ _ _ => trivial)

/-- An attempt that has not compared yet and will append adds one record. -/
theorem unread_adds {j : Nat} {q : Script Simulator (Except ExecutionTimeout ExecutorResult)}
    (waits : unread m request params j q) (accepted : Accepted m request params s)
    (appending : appends params s.production = true) :
    q.Safe (KeepsRegistries request.idempotencyKey) (fun _ _ => True)
      (fun _ s' => recordCount params s' = recordCount params s + 1) s := by
  have going_adds : ∀ s₁, KeepsRegistries request.idempotencyKey s s₁ →
      (going m request params).Safe (KeepsRegistries request.idempotencyKey) (fun _ _ => True)
        (fun _ s' => recordCount params s' = recordCount params s + 1) s₁ := by
    obtain ⟨next, starts, -⟩ := going_decides m request appending
    rw [starts]
    intro s₁ kept₁ s₂ kept₂
    have kept := (relies_keepsRegistries _).trans kept₁ kept₂
    obtain ⟨next₂, starts₂, -, -, adds, -⟩ :=
      going_decides m request (kept.appends.trans appending)
    cases starts.symm.trans starts₂
    have later : (next s₂).Safe (KeepsRegistries request.idempotencyKey) (fun _ _ => True)
        (fun _ s' => recordCount params s' = recordCount params s₂ + 1) s₂ :=
      adds.safe (fun kept => KeepsRegistries.recordCount kept) s₂
    rw [kept.recordCount] at later
    exact ⟨trivial, later⟩
  match j, waits with
  | 0, waits =>
    cases waits
    exact going_adds s ((relies_keepsRegistries _).refl s)
  | 1, waits =>
    cases waits
    apply Script.Safe.read_bind (fun _ => trivial)
    intro s₁ kept₁
    simp only [kept₁.applied.trans accepted.fresh, Option.map_none, accepted.checked,
      if_neg (not_le.mpr accepted.inTime)]
    exact going_adds s₁ kept₁

/-- The first attempt has decided and appends, the second has not compared yet: they act as one
exactly when the second finds what it wants. -/
theorem actsOnce_of_first {m' : Moment} {request' : ExecutionRequest} {r' : ExecutorResult}
    {schedule : List Bool} {j : Nat}
    {p q : Script Simulator (Except ExecutionTimeout ExecutorResult)}
    (first : Accepted m request params s) (second : Accepted m' request' params s)
    (scales : params.model ≠ .scaleService)
    (keys : request'.idempotencyKey ≠ request.idempotencyKey)
    (appending : appends params s.production = true) (decided : bound m request params s 0 p)
    (waits : unread m' request' params j q)
    (ends : Script.interleave (true :: schedule) p q s = (.done (.ok r), .done (.ok r'), s')) :
    ActsOnce m m' request request' s s' r r' ↔
      (recordedValue params).eq (wantedValue params) = true := by
  obtain ⟨result, succeeds, -, rfl⟩ := decided
  let s₁ := pushOn m request params s s
  let target := withoutFault params s₁.production
  replace ends : Script.interleave schedule (closing m request params result) q s₁ =
      (.done (.ok r), .done (.ok r'), s') := ends
  have finds := verdict_pushOn m request s appending
  have second₁ : Accepted m' request' params s₁ := by
    refine ⟨?_, second.checked, second.inTime⟩
    rw [pushOn_applied]
    exact second.fresh
  have registries := withoutFault_registries params s₁.production
  have safe : (closing m request params result).Safe (Others target request.idempotencyKey)
      (Mine target request.idempotencyKey) (Answered s₁.production target true) s₁ :=
    recording_safe (clearing_safe rfl (.inl rfl) succeeds)
  by_cases again : appends params s₁.production = true
  · -- the second appends as well
    have unequal : (recordedValue params).eq (wantedValue params) = false := by
      have placed := inPlace_pushOn m request s appending
      rw [appends, placed] at again
      simp only [Bool.and_eq_true, Bool.not_eq_true'] at again
      exact again.1.2
    rw [unequal]
    refine iff_of_false (fun once => ?_) Bool.false_ne_true
    have together := Script.Safe.interleave ⟨fun _ => trivial, fun _ _ => trivial⟩
      (relies_keepsRegistries request'.idempotencyKey) id (fun _ => trivial) schedule
      (closing_keeps m params keys result s₁) (unread_adds waits second₁ again)
    rw [ends] at together
    have added := together.2.finished (relies_keepsRegistries request'.idempotencyKey)
    have added₁ : recordCount params s₁ = recordCount params s + 1 :=
      pushOn_recordCount m request params s s
    have bounded := once.records (params.text "service")
    simp only [recordCount] at added added₁
    omega
  · rw [Bool.not_eq_true] at again
    have safe' : q.Safe (Others target request'.idempotencyKey)
        (Mine target request'.idempotencyKey)
        (Answered s₁.production target (verdict params s₁.production)) s₁ :=
      unread_safe waits second₁ scales again registries
        (fun success => (settled_of_verdict s₁.production appending success).symm) (.inl rfl)
    have relies := relies_others target request.idempotencyKey
    have relies' := relies_others target request'.idempotencyKey
    have together := Script.Safe.interleave relies relies' (fun mine => mine.others keys)
      (fun theirs => theirs.others keys.symm) schedule safe safe'
    rw [ends] at together
    obtain ⟨_, same, outcome⟩ := together.1.finished relies
    obtain ⟨_, same', outcome'⟩ := together.2.finished relies'
    cases same
    cases same'
    have reached : s'.production = target := outcome.there rfl
    rw [← finds, ← outcome'.told]
    constructor
    · intro once
      rw [← once.success, outcome.told]
    · intro success
      refine ⟨.inl (reached.trans (execute_alone first appending).symm), fun service => ?_, ?_⟩
      · rw [reached, registered, registries.1, registries.2]
        exact pushOn_registered m request params s s service
      · rw [outcome.told, success]

/-! ## The two attempts -/

/-- An attempt that has not compared yet is not over. -/
theorem not_unread_done {i : Nat} {x : Except ExecutionTimeout ExecutorResult}
    (appending : appends params s.production = true) (accepted : Accepted m request params s) :
    ¬ unread m request params i (.done x) := by
  intro waits
  obtain ⟨next, starts, -⟩ : ∃ next, Script.done x = .act id next ∧ True := by
    match i, waits with
    | 0, waits =>
      obtain ⟨next, starts, -⟩ := going_decides m request appending
      exact ⟨next, waits.trans starts, trivial⟩
    | 1, waits =>
      obtain ⟨next, starts, -⟩ := accepted.execute_eq
      exact ⟨next, waits.trans starts, trivial⟩
  cases starts

theorem actsOnce_iff_of_accepted {m' : Moment} {request' : ExecutionRequest} {r' : ExecutorResult}
    {schedule : List Bool} (first : Accepted m request params s)
    (second : Accepted m' request' params s) (scales : params.model ≠ .scaleService)
    (keys : request'.idempotencyKey ≠ request.idempotencyKey)
    (ends : Script.interleave schedule (execute m request) (execute m' request') s =
      (.done (.ok r), .done (.ok r'), s')) :
    ActsOnce m m' request request' s s' r r' ↔ ¬ DoubleActs params s.production schedule := by
  by_cases appending : appends params s.production = true
  swap
  · rw [Bool.not_eq_true] at appending
    refine iff_of_true (actsOnce_of_idle first second scales keys appending ends) ?_
    rintro ⟨appends, -⟩
    rw [appending] at appends
    cases appends
  have race := Script.race (contender first appending) (contender second appending) schedule
    (i := 1) (j := 1) rfl rfl
  have ops : 1 + 1 + (appendOp params.model - 3) + 1 = appendOp params.model := by
    cases params.model <;> rfl
  rw [ops] at race
  have acts : DoubleActs params s.production schedule ↔
      ((recordedValue params).eq (wantedValue params) = false ∨
        Script.Overlap 2 (appendOp params.model) 2 (appendOp params.model) schedule) :=
    and_iff_right appending
  rw [acts]
  cases race with
  | undecided waiting =>
    rw [ends] at waiting
    rcases waiting with ⟨i, waits⟩ | ⟨j, waits⟩
    · exact absurd waits (not_unread_done appending first)
    · exact absurd waits (not_unread_done appending second)
  | both rest together mine theirs same =>
    rw [ends] at same
    refine iff_of_false (fun once => ?_) (not_not.mpr (.inr together))
    obtain ⟨-, -, adds, -⟩ := mine
    obtain ⟨-, -, adds', -⟩ := theirs
    have added := Script.Adds.interleave rest adds adds' same.symm
    have bounded := once.records (params.text "service")
    simp only [recordCount] at added
    omega
  | first rest apart mine theirs same =>
    rw [ends] at same
    rw [actsOnce_of_first first second scales keys appending mine theirs same.symm]
    simp [apart]
  | @second p q i rest apart mine theirs same =>
    rw [ends] at same
    have swapped := Script.interleave_swap (false :: rest) p q s
    rw [← same] at swapped
    have once := actsOnce_of_first second first scales keys.symm appending theirs mine swapped
    have symmetric : ActsOnce m m' request request' s s' r r' ↔
        ActsOnce m' m request' request s s' r' r := ⟨ActsOnce.symm, ActsOnce.symm⟩
    rw [symmetric, once]
    simp [apart]

end

/-! ## The retry-safe actions of the catalog -/

theorem checkRequest_model {request : ExecutionRequest} {params : Params}
    (checked : checkRequest request = .ok params) :
    ∃ entry, getEntry request.actionId = some entry ∧ params.model = entry.parameters := by
  obtain ⟨entry, found, valid⟩ := checkRequest_eq_ok checked
  exact ⟨entry, found, congrArg Params.model (validate_eq_some valid).2⟩

theorem retrySafe_model : ∀ entry ∈ catalog, entry.retrySafe = true →
    entry.parameters ≠ .scaleService := by
  decide

/-- Two attempts at a retry-safe action, whatever the order of their operations: they act as one
unless both append. -/
theorem retry_actsOnce_iff {m m' : Moment} {request : ExecutionRequest} {key : String}
    {deadline : Time} {entry : ActionCatalogEntry} {params : Params} {s s' : Simulator}
    {r r' : ExecutorResult} {schedule : List Bool}
    (known : getEntry request.actionId = some entry) (retrySafe : entry.retrySafe = true)
    (checked : checkRequest request = .ok params) (keys : key ≠ request.idempotencyKey)
    (fresh : s.applied request.idempotencyKey = none) (fresh' : s.applied key = none)
    (inTime : m.now < request.deadline) (inTime' : m'.now < deadline)
    (ends : Script.interleave schedule (execute m request)
      (execute m' (retryOf request key deadline)) s = (.done (.ok r), .done (.ok r'), s')) :
    ActsOnce m m' request (retryOf request key deadline) s s' r r' ↔
      ¬ DoubleActs params s.production schedule := by
  have scales : params.model ≠ .scaleService := by
    obtain ⟨entry', found, model⟩ := checkRequest_model checked
    rw [known] at found
    cases found
    rw [model]
    exact retrySafe_model entry (getEntry_mem known).1 retrySafe
  have first : Accepted m request params s := ⟨fresh, checked, inTime⟩
  have second : Accepted m' (retryOf request key deadline) params s := ⟨fresh', checked, inTime'⟩
  exact actsOnce_iff_of_accepted first second scales keys ends

/-- Back from the second version of the checkout service to the first. -/
def rollbackRequest : ExecutionRequest where
  idempotencyKey := "remediation-2:1"
  actionId := "rollback_deployment"
  catalogVersion := catalogVersion
  parameters := [("service", .str "checkout"), ("from_version", .str "v2"),
    ("to_version", .str "v1")]
  targetService := "checkout"
  environment := "production"
  deadline := 60

def deployedSimulator : Simulator :=
  ⟨⟨fun _ => none, fun _ => none, fun _ => [[("version", .str "v1")], [("version", .str "v2")]],
    fun _ => [], fun _ _ => none⟩, fun _ => none, fun _ => []⟩

/-- A rollback is tried again after it took effect. -/
theorem retry_actsOnce_iff_rollback : ∃ params s' r r',
    ActsOnce ⟨0, "", .null, "a"⟩ ⟨30, "", .null, "b"⟩ rollbackRequest
        (retryOf rollbackRequest "remediation-2:2" 90) deployedSimulator s' r r' ↔
      ¬ DoubleActs params deployedSimulator.production
        (List.replicate 8 true ++ List.replicate 5 false) :=
  ⟨_, _, _, _, retry_actsOnce_iff rfl rfl rfl (by decide) rfl rfl (by decide) (by decide) rfl⟩

/-- Back to a value that is a number: it is recorded as text. -/
def revertRequest : ExecutionRequest where
  idempotencyKey := "remediation-3:1"
  actionId := "revert_configuration"
  catalogVersion := catalogVersion
  parameters := [("service", .str "checkout"), ("key", .str configKeyName),
    ("from_value", .str "3"), ("to_value", .int 2)]
  targetService := "checkout"
  environment := "production"
  deadline := 60

def configuredSimulator : Simulator :=
  ⟨⟨fun _ => none, fun _ => none, fun _ => [], fun _ => [[("new_value", .str "3")]],
    fun _ _ => none⟩, fun _ => none, fun _ => []⟩

/-- The revert took effect, and the next attempt finds that the target changed. -/
theorem not_retry_actsOnce : ¬ ∀ (m m' : Moment) (request : ExecutionRequest) (key : String)
    (deadline : Time) (entry : ActionCatalogEntry) (params : Params) (s s' : Simulator)
    (r r' : ExecutorResult) (schedule : List Bool),
    getEntry request.actionId = some entry → entry.retrySafe = true →
    checkRequest request = .ok params → key ≠ request.idempotencyKey →
    s.applied request.idempotencyKey = none → s.applied key = none →
    m.now < request.deadline → m'.now < deadline →
    Script.interleave schedule (execute m request) (execute m' (retryOf request key deadline)) s =
      (.done (.ok r), .done (.ok r'), s') →
    ActsOnce m m' request (retryOf request key deadline) s s' r r' := by
  intro claim
  have once := claim ⟨0, "", .null, "a"⟩ ⟨30, "", .null, "b"⟩ revertRequest "remediation-3:2" 90 _ _
    configuredSimulator _ _ _ (List.replicate 7 true ++ List.replicate 4 false) rfl rfl rfl
    (by decide) rfl rfl (by decide) (by decide) rfl
  exact absurd once.success (by decide)

end IncidentTriage.Verified
