import IncidentTriage.Policy.Engine

/-! # The verdicts of the policy engine

A rule of the policy may be skipped: the rules about an action run where the action is
known, those about its blast radius where its parameters are valid, and the comparison
with the root cause where an RCA is available.  Whenever one is skipped another one denies,
so that the verdict denies exactly where one of the facts of `Fails` holds, and a riskier
policy or context (`Riskier`) never lifts a denial.
-/

namespace IncidentTriage.PolicyEngine

open IncidentTriage.Python IncidentTriage.Domain IncidentTriage.Remediation

/-! ## Why a proposal is denied -/

/-- The facts each of which denies a proposal. -/
inductive Fails (proposal : RemediationProposal) (entry : Option ActionCatalogEntry)
    (policy : Policy) (context : PolicyEvaluationContext) : Prop
  | globalSwitch (engaged : context.globalKillSwitchEngaged = true)
  | serviceSwitch (engaged : context.serviceKillSwitchEngaged = true)
  | unknownAction (missing : entry = none)
  | invalidParameters {e : ActionCatalogEntry} (known : entry = some e)
      (invalid : (e.validate proposal.parameters).1 = none)
  | unknownTarget (unknown : context.targetKnown = false)
  | outOfScope (outside : context.targetInIncidentScope = false)
  | prohibited (listed : context.incidentEnvironment ∈ policy.prohibitedEnvironments)
  | notAllowed {e : ActionCatalogEntry} (known : entry = some e)
      (absent : context.incidentEnvironment ∉ e.allowedEnvironments)
  | aboveActionMax {e : ActionCatalogEntry} {params : Params} (known : entry = some e)
      (valid : (e.validate proposal.parameters).1 = some params)
      (above : e.maxBlastRadius < e.blastRadius params)
  | aboveEnvironmentMax {e : ActionCatalogEntry} {params : Params} (known : entry = some e)
      (valid : (e.validate proposal.parameters).1 = some params)
      (above : (List.lookup context.incidentEnvironment
        policy.maxBlastRadiusByEnvironment).getD 0 < e.blastRadius params)
  | notRemediable (absent : context.incidentStatus ∉ policy.remediableIncidentStatuses)
  | rcaMissing {e : ActionCatalogEntry} (known : entry = some e) (requires : e.requiresRca = true)
      (missing : context.rcaAvailable = false)
  | otherComponent {e : ActionCatalogEntry} (known : entry = some e)
      (requires : e.requiresRca = true) (mustMatch : e.targetMustMatchRootCause = true)
      (available : context.rcaAvailable = true)
      (differs : context.targetService ≠ context.rcaComponent)
  | incidentAttempts (reached : policy.maxAttemptedRemediationsPerIncident ≤
      context.attemptedRemediationsThisIncident)
  | hourlyExecutions (reached : policy.maxExecutionsPerServicePerHour ≤
      context.remediationExecutionsLastHourForTarget)
  | noRole (none_ : approverRoles policy (proposalTier proposal entry) = [])

section
variable {proposal : RemediationProposal} {entry : Option ActionCatalogEntry} {policy : Policy}
  {context : PolicyEvaluationContext}

/-- A rule denies where it fails. -/
@[simp] theorem rule_denies (ruleId detail : String) (ok : Bool) :
    ((rule ruleId ok detail).outcome == .deny) = !ok := by
  cases ok <;> rfl

/-- A rule that asks for an approval where it fails never denies. -/
@[simp] theorem rule_asks (ruleId detail : String) (ok : Bool) :
    ((rule ruleId ok detail .requireApproval).outcome == .deny) = false := by
  cases ok <;> rfl

theorem decision_deny_iff : (evaluate proposal entry policy context).decision = .deny ↔
    (rules proposal entry policy context).any (fun r => r.outcome == .deny) = true := by
  simp only [evaluate]
  split_ifs with denies asks
  · simp [denies]
  · simp [denies]
  · simp [denies]

theorem decision_deny_of_unknown :
    (evaluate proposal none policy context).decision = .deny := by
  rw [decision_deny_iff]
  simp only [rules, List.any_append, List.any_cons, ↓rule_denies, Option.isSome_none,
    Bool.not_false, Bool.true_or, Bool.or_true]

/-- The rules about a known action and its parameters. -/
theorem actionRules_deny (e : ActionCatalogEntry) :
    (actionRules proposal e).any (fun r => r.outcome == .deny) =
      (e.validate proposal.parameters).1.isNone := by
  cases valid : (e.validate proposal.parameters).1 <;> simp [actionRules, valid]

theorem blastRadiusRules_deny (e : ActionCatalogEntry) (environment : String) (tier : Nat) :
    (blastRadiusRules e policy environment tier).any (fun r => r.outcome == .deny) =
      (decide (e.maxBlastRadius < tier) ||
        decide ((List.lookup environment policy.maxBlastRadiusByEnvironment).getD 0 < tier)) := by
  simp only [blastRadiusRules, List.any_cons, List.any_nil, ↓rule_denies, Bool.or_false,
    ← decide_not, not_le]

theorem rcaRules_deny (e : ActionCatalogEntry) :
    (rcaRules e context).any (fun r => r.outcome == .deny) =
      (e.requiresRca && (!context.rcaAvailable ||
        (e.targetMustMatchRootCause && !(context.targetService == context.rcaComponent)))) := by
  cases requires : e.requiresRca with
  | false => simp [rcaRules, requires]
  | true =>
    cases available : context.rcaAvailable with
    | false => simp [rcaRules, requires, available]
    | true =>
      cases mustMatch : e.targetMustMatchRootCause <;>
        simp [rcaRules, requires, available, mustMatch]

/-- The verdict about an action of the catalog, rule by rule. -/
theorem any_deny_some (e : ActionCatalogEntry) :
    (rules proposal (some e) policy context).any (fun r => r.outcome == .deny) =
      (context.globalKillSwitchEngaged || context.serviceKillSwitchEngaged ||
        (e.validate proposal.parameters).1.isNone || !context.targetKnown ||
        !context.targetInIncidentScope ||
        policy.prohibitedEnvironments.contains context.incidentEnvironment ||
        !e.allowedEnvironments.contains context.incidentEnvironment ||
        (e.validate proposal.parameters).1.any (fun params =>
          decide (e.maxBlastRadius < e.blastRadius params) ||
            decide ((List.lookup context.incidentEnvironment
              policy.maxBlastRadiusByEnvironment).getD 0 < e.blastRadius params)) ||
        !policy.remediableIncidentStatuses.contains context.incidentStatus ||
        (e.requiresRca && (!context.rcaAvailable ||
          (e.targetMustMatchRootCause && !(context.targetService == context.rcaComponent)))) ||
        decide (policy.maxAttemptedRemediationsPerIncident ≤
          context.attemptedRemediationsThisIncident) ||
        decide (policy.maxExecutionsPerServicePerHour ≤
          context.remediationExecutionsLastHourForTarget) ||
        (approverRoles policy (proposalTier proposal (some e))).isEmpty) := by
  have tier : proposalTier proposal (some e) =
      (e.validate proposal.parameters).1.map e.blastRadius := rfl
  have last : ∀ roles : List String, ∀ detail, (if roles.isEmpty then
      [rule "approval.eligible_role_exists" false detail] else []).any
        (fun r => r.outcome == .deny) = roles.isEmpty := by
    intro roles detail
    cases roles <;> rfl
  simp only [rules, List.any_append, List.any_cons, List.any_nil, ↓rule_denies, ↓rule_asks,
    attemptsRule, actionRules_deny, rcaRules_deny, last, Option.isSome_some, Bool.not_true,
    Bool.not_not, Bool.or_false, ← decide_not, not_lt]
  cases valid : (e.validate proposal.parameters).1 with
  | none => simp only [tier, valid, Option.map_none, List.any_nil, Option.any_none, Bool.or_assoc]
  | some params =>
    simp only [tier, valid, Option.map_some, blastRadiusRules_deny, Option.any_some, Bool.or_assoc]

theorem decision_deny_some_iff {e : ActionCatalogEntry} :
    (evaluate proposal (some e) policy context).decision = .deny ↔
      Fails proposal (some e) policy context := by
  rw [decision_deny_iff, any_deny_some]
  simp only [Bool.or_eq_true, Bool.and_eq_true, Bool.not_eq_true', decide_eq_true_eq,
    Option.isNone_iff_eq_none, Option.any_eq_true, List.isEmpty_iff, beq_eq_false_iff_ne]
  constructor
  · rintro ((((((((((((engaged | engaged) | invalid) | unknown) | outside) | listed) | absent) |
      ⟨params, valid, above | above⟩) | absent) | ⟨requires, missing | ⟨mustMatch, differs⟩⟩) |
      reached) | reached) | none_)
    · exact .globalSwitch engaged
    · exact .serviceSwitch engaged
    · exact .invalidParameters rfl invalid
    · exact .unknownTarget unknown
    · exact .outOfScope outside
    · exact .prohibited (List.contains_iff_mem.mp listed)
    · exact .notAllowed rfl (by simpa using absent)
    · exact .aboveActionMax rfl valid above
    · exact .aboveEnvironmentMax rfl valid above
    · exact .notRemediable (by simpa using absent)
    · exact .rcaMissing rfl requires missing
    · cases available : context.rcaAvailable with
      | false => exact .rcaMissing rfl requires available
      | true => exact .otherComponent rfl requires mustMatch available differs
    · exact .incidentAttempts reached
    · exact .hourlyExecutions reached
    · exact .noRole none_
  · intro fails
    cases fails with
    | globalSwitch engaged => simp [engaged]
    | serviceSwitch engaged => simp [engaged]
    | unknownAction missing => cases missing
    | invalidParameters known invalid =>
      cases known
      simp [invalid]
    | unknownTarget unknown => simp [unknown]
    | outOfScope outside => simp [outside]
    | prohibited listed => simp [listed]
    | notAllowed known absent =>
      cases known
      simp [absent]
    | aboveActionMax known valid above =>
      cases known
      simp [valid, above]
    | aboveEnvironmentMax known valid above =>
      cases known
      simp [valid, above]
    | notRemediable absent => simp [absent]
    | rcaMissing known requires missing =>
      cases known
      simp [requires, missing]
    | otherComponent known requires mustMatch available differs =>
      cases known
      simp [requires, mustMatch, differs]
    | incidentAttempts reached => simp [reached]
    | hourlyExecutions reached => simp [reached]
    | noRole none_ => simp [none_]

/-- The verdict denies exactly where one of the facts fails. -/
theorem decision_deny_iff_fails :
    (evaluate proposal entry policy context).decision = .deny ↔
      Fails proposal entry policy context := by
  cases entry with
  | some e => exact decision_deny_some_iff
  | none =>
    constructor
    · intro _
      exact .unknownAction rfl
    · intro _
      exact decision_deny_of_unknown

/-! ## Approvals -/

/-- No entry of the catalog may be executed without an approval. -/
theorem catalog_not_automatic : ∀ e ∈ catalog, e.autoExecutionAllowed = false := by
  decide

theorem decision_cases :
    (evaluate proposal entry policy context).decision = .deny ∨
      (rules proposal entry policy context).any (fun r => r.outcome == .requireApproval) = true ∧
        (evaluate proposal entry policy context).decision = .requireApproval ∨
      (rules proposal entry policy context).any (fun r => r.outcome == .requireApproval) = false := by
  simp only [evaluate]
  split_ifs with denies asks
  · exact .inl rfl
  · exact .inr (.inl ⟨asks, rfl⟩)
  · exact .inr (.inr (by simpa using asks))

/-- A human is asked about every action of the catalog. -/
theorem decision_ne_allow (listed : ∀ e, entry = some e → e ∈ catalog) :
    (evaluate proposal entry policy context).decision ≠ .allow := by
  cases entry with
  | none =>
    rw [decision_deny_of_unknown]
    decide
  | some e =>
    have asks : (rules proposal (some e) policy context).any
        (fun r => r.outcome == .requireApproval) = true := by
      simp only [rules, catalog_not_automatic e (listed e rfl), Bool.false_and, Bool.and_false,
        List.any_append, List.any_cons]
      simp [rule]
    rcases (decision_cases : (evaluate proposal (some e) policy context).decision = .deny ∨ _)
      with denies | ⟨_, asked⟩ | silent
    · rw [denies]
      decide
    · rw [asked]
      decide
    · rw [asks] at silent
      cases silent

/-- An approval is asked of the roles of the computed tier, of which there is at least one. -/
theorem requiredApproverRoles_of_asked
    (asked : (evaluate proposal entry policy context).decision = .requireApproval) :
    ∃ tier, proposalTier proposal entry = some tier ∧
      (evaluate proposal entry policy context).requiredApproverRoles =
        (List.lookup tier policy.approverRolesByTier).getD [] ∧
      (evaluate proposal entry policy context).requiredApproverRoles ≠ [] := by
  have sound : ¬ Fails proposal entry policy context := by
    rw [← decision_deny_iff_fails, asked]
    decide
  have roles : (evaluate proposal entry policy context).requiredApproverRoles =
      approverRoles policy (proposalTier proposal entry) := by
    show (if (evaluate proposal entry policy context).decision == .requireApproval then
      approverRoles policy (proposalTier proposal entry) else []) = _
    rw [asked]
    rfl
  cases entry with
  | none => exact absurd (.unknownAction rfl) sound
  | some e =>
    cases valid : (e.validate proposal.parameters).1 with
    | none => exact absurd (.invalidParameters rfl valid) sound
    | some params =>
      have tier : proposalTier proposal (some e) = some (e.blastRadius params) := by
        simp [proposalTier, valid]
      refine ⟨e.blastRadius params, tier, ?_, ?_⟩
      · rw [roles, tier]
        rfl
      · rw [roles]
        intro none_
        exact sound (.noRole none_)

/-! ## Riskier facts -/

/-- A policy and a context that are at least as risky as others, about the same target in
the same environment: switches may be engaged, counters raised, limits lowered, the RCA or
roles taken away, and the target, the environment or the status refused. -/
structure Riskier (policy policy' : Policy) (context context' : PolicyEvaluationContext) :
    Prop where
  environment : context'.incidentEnvironment = context.incidentEnvironment
  target : context'.targetService = context.targetService
  globalSwitch : context.globalKillSwitchEngaged = true → context'.globalKillSwitchEngaged = true
  serviceSwitch : context.serviceKillSwitchEngaged = true →
    context'.serviceKillSwitchEngaged = true
  known : context'.targetKnown = true → context.targetKnown = true
  scope : context'.targetInIncidentScope = true → context.targetInIncidentScope = true
  prohibited : ∀ environment, environment ∈ policy.prohibitedEnvironments →
    environment ∈ policy'.prohibitedEnvironments
  environmentMax : ∀ environment,
    (List.lookup environment policy'.maxBlastRadiusByEnvironment).getD 0 ≤
      (List.lookup environment policy.maxBlastRadiusByEnvironment).getD 0
  status : context'.incidentStatus ∈ policy'.remediableIncidentStatuses →
    context.incidentStatus ∈ policy.remediableIncidentStatuses
  rca : context'.rcaAvailable = true →
    context.rcaAvailable = true ∧ context'.rcaComponent = context.rcaComponent
  attempts : context.attemptedRemediationsThisIncident ≤
    context'.attemptedRemediationsThisIncident
  maxAttempts : policy'.maxAttemptedRemediationsPerIncident ≤
    policy.maxAttemptedRemediationsPerIncident
  executions : context.remediationExecutionsLastHourForTarget ≤
    context'.remediationExecutionsLastHourForTarget
  maxExecutions : policy'.maxExecutionsPerServicePerHour ≤ policy.maxExecutionsPerServicePerHour
  roles : ∀ tier, approverRoles policy tier = [] → approverRoles policy' tier = []

/-- A fact that fails goes on failing, or another one does in its place. -/
theorem Fails.riskier {policy' : Policy} {context' : PolicyEvaluationContext}
    (riskier : Riskier policy policy' context context')
    (fails : Fails proposal entry policy context) : Fails proposal entry policy' context' := by
  cases fails with
  | globalSwitch engaged => exact .globalSwitch (riskier.globalSwitch engaged)
  | serviceSwitch engaged => exact .serviceSwitch (riskier.serviceSwitch engaged)
  | unknownAction missing => exact .unknownAction missing
  | invalidParameters known invalid => exact .invalidParameters known invalid
  | unknownTarget unknown =>
    refine .unknownTarget (Bool.eq_false_iff.mpr ?_)
    intro known
    rw [riskier.known known] at unknown
    cases unknown
  | outOfScope outside =>
    refine .outOfScope (Bool.eq_false_iff.mpr ?_)
    intro inside
    rw [riskier.scope inside] at outside
    cases outside
  | prohibited listed =>
    apply Fails.prohibited
    rw [riskier.environment]
    exact riskier.prohibited _ listed
  | notAllowed known absent =>
    apply Fails.notAllowed known
    rwa [riskier.environment]
  | aboveActionMax known valid above => exact .aboveActionMax known valid above
  | aboveEnvironmentMax known valid above =>
    apply Fails.aboveEnvironmentMax known valid
    rw [riskier.environment]
    exact (riskier.environmentMax _).trans_lt above
  | notRemediable absent => exact .notRemediable (fun listed => absent (riskier.status listed))
  | rcaMissing known requires missing =>
    refine .rcaMissing known requires (Bool.eq_false_iff.mpr ?_)
    intro available
    rw [(riskier.rca available).1] at missing
    cases missing
  | otherComponent known requires mustMatch available differs =>
    -- without an RCA nothing is compared, and the missing RCA denies
    cases still : context'.rcaAvailable with
    | false => exact .rcaMissing known requires still
    | true =>
      apply Fails.otherComponent known requires mustMatch still
      rwa [riskier.target, (riskier.rca still).2]
  | incidentAttempts reached =>
    exact .incidentAttempts (riskier.maxAttempts.trans (reached.trans riskier.attempts))
  | hourlyExecutions reached =>
    exact .hourlyExecutions (riskier.maxExecutions.trans (reached.trans riskier.executions))
  | noRole none_ => exact .noRole (riskier.roles _ none_)

/-- What the verdict on a proposal says. -/
structure Characterised (proposal : RemediationProposal) (entry : Option ActionCatalogEntry)
    (policy : Policy) (context : PolicyEvaluationContext) : Prop where
  neverAllows : (evaluate proposal entry policy context).decision ≠ .allow
  denies : (evaluate proposal entry policy context).decision = .deny ↔
    Fails proposal entry policy context
  asks : (evaluate proposal entry policy context).decision = .requireApproval →
    ∃ tier, proposalTier proposal entry = some tier ∧
      (evaluate proposal entry policy context).requiredApproverRoles =
        (List.lookup tier policy.approverRolesByTier).getD [] ∧
      (evaluate proposal entry policy context).requiredApproverRoles ≠ []
  monotone : ∀ policy' context', Riskier policy policy' context context' →
    (evaluate proposal entry policy context).decision = .deny →
      (evaluate proposal entry policy' context').decision = .deny

theorem verdict_characterised (proposal : RemediationProposal)
    {entry : Option ActionCatalogEntry} (listed : ∀ e, entry = some e → e ∈ catalog)
    (policy : Policy) (context : PolicyEvaluationContext) :
    Characterised proposal entry policy context := by
  constructor
  · exact decision_ne_allow listed
  · exact decision_deny_iff_fails
  · exact requiredApproverRoles_of_asked
  · intro policy' context' riskier denies
    rw [decision_deny_iff_fails] at denies ⊢
    exact denies.riskier riskier

end

/-- A restart of the payments service, as the planner proposes it. -/
def restartProposal : RemediationProposal where
  incidentId := 0
  investigationId := some 0
  actionId := "restart_service"
  parameters := [("service", .str "payments")]
  reason := "memory"
  expectedEffect := "memory back to baseline"
  source := .planner
  proposedBy := "remediation-planner"

/-- The incident it is proposed for, with an RCA that names the service. -/
def paymentsContext : PolicyEvaluationContext where
  capturedAt := 0
  incidentId := 0
  incidentEnvironment := "production"
  incidentSeverity := .critical
  incidentService := "payments"
  incidentStatus := .rcaReady
  rcaAvailable := true
  rcaCauseCategory := some "resource_memory"
  rcaComponent := some "payments"
  targetService := some "payments"
  targetKnown := true
  targetInIncidentScope := true
  actionBlastRadiusTier := some 1
  attemptedRemediationsThisIncident := 0
  remediationExecutionsLastHourForTarget := 0
  globalKillSwitchEngaged := false
  serviceKillSwitchEngaged := false
  proposalSource := .planner

theorem verdict_characterised_restart :
    Characterised restartProposal (getEntry "restart_service") defaultPolicy paymentsContext :=
  verdict_characterised restartProposal (fun _ found => (getEntry_mem found).1) defaultPolicy
    paymentsContext

/-- The approval is asked of the roles of the first tier. -/
example : (evaluate restartProposal (getEntry "restart_service") defaultPolicy
    paymentsContext).requiredApproverRoles = ["on_call_engineer", "service_owner"] := by
  decide +kernel

end IncidentTriage.PolicyEngine
