import IncidentTriage.Domain.Remediation
import IncidentTriage.Remediation.Catalog

/-! # Policy engine

`evaluate proposal entry policy context`, pure: every rule runs and reports, the
decision is `DENY` if any rule denies, otherwise `REQUIRE_APPROVAL` if any rule
asks for it.
-/

namespace IncidentTriage.PolicyEngine

open IncidentTriage.Python IncidentTriage.Domain IncidentTriage.Remediation

structure Policy where
  version : String
  prohibitedEnvironments : List String := []
  maxBlastRadiusByEnvironment : List (String × Nat) := []
  maxAttemptedRemediationsPerIncident : Nat := 2
  maxExecutionsPerServicePerHour : Nat := 3
  approverRolesByTier : List (Nat × List String) := []
  autoExecutionEnvironments : List String := []
  remediableIncidentStatuses : List IncidentStatus := [.rcaReady]

def defaultPolicy : Policy where
  version := "policy-2026.09-1"
  maxBlastRadiusByEnvironment := [("production", 2), ("staging", 2)]
  maxAttemptedRemediationsPerIncident := 2
  maxExecutionsPerServicePerHour := 3
  approverRolesByTier := [(1, ["on_call_engineer", "service_owner"]), (2, ["service_owner"])]

/-- One reported rule: `pass` if `ok`, otherwise `onFail`. -/
def rule (ruleId : String) (ok : Bool) (detail : String) (onFail : RuleOutcome := .deny) :
    RuleResult :=
  { ruleId, outcome := if ok then .pass else onFail, detail }

def quoted (value : Option String) : String :=
  match value with
  | some s => quoteRepr s
  | none => "None"

def shown (value : Option String) : String := value.getD "None"

/-- The tier of valid parameters of a known action. -/
def proposalTier (proposal : RemediationProposal) (entry : Option ActionCatalogEntry) :
    Option Nat :=
  entry.bind (fun e => (e.validate proposal.parameters).1.map e.blastRadius)

def approverRoles (policy : Policy) (tier : Option Nat) : List String :=
  (List.lookup (tier.getD 0) policy.approverRolesByTier).getD []

def actionRules (proposal : RemediationProposal) (entry : ActionCatalogEntry) :
    List RuleResult :=
  let (params, problems) := entry.validate proposal.parameters
  [rule "action.parameters" params.isSome
    (if params.isSome then "parameters valid"
      else "invalid parameters: " ++ "; ".intercalate problems),
   rule "action.auto_execution_not_requested" true
    ("catalog entry permits automatic execution: " ++
      (if entry.autoExecutionAllowed then "True" else "False") ++ " (not used by this policy)")]

def blastRadiusRules (entry : ActionCatalogEntry) (policy : Policy) (environment : String)
    (tier : Nat) : List RuleResult :=
  let environmentMax := (List.lookup environment policy.maxBlastRadiusByEnvironment).getD 0
  [rule "blast_radius.action_max" (decide (tier ≤ entry.maxBlastRadius))
    ("blast radius " ++ toString tier ++ " vs " ++ entry.actionId ++ " maximum " ++
      toString entry.maxBlastRadius),
   rule "blast_radius.environment_max" (decide (tier ≤ environmentMax))
    ("blast radius " ++ toString tier ++ " vs " ++ quoteRepr environment ++ " maximum " ++
      toString environmentMax)]

def rcaRules (entry : ActionCatalogEntry) (context : PolicyEvaluationContext) :
    List RuleResult :=
  if entry.requiresRca then
    [rule "rca.required" context.rcaAvailable
      (if context.rcaAvailable then "a completed investigation with an accepted RCA exists"
        else entry.actionId ++ " requires an accepted RCA; none exists")] ++
    (if entry.targetMustMatchRootCause && context.rcaAvailable then
      [rule "rca.target_matches_root_cause" (context.targetService == context.rcaComponent)
        ("target " ++ quoted context.targetService ++ " vs root-cause component " ++
          quoted context.rcaComponent)]
    else [])
  else []

def attemptsRule (policy : Policy) (context : PolicyEvaluationContext) : RuleResult :=
  rule "attempts.per_incident"
    (decide (context.attemptedRemediationsThisIncident <
      policy.maxAttemptedRemediationsPerIncident))
    (toString context.attemptedRemediationsThisIncident ++
      " remediation(s) already attempted for this incident (limit " ++
      toString policy.maxAttemptedRemediationsPerIncident ++ ")")

/-- Every rule that ran, in the order it reported. -/
def rules (proposal : RemediationProposal) (entry : Option ActionCatalogEntry) (policy : Policy)
    (context : PolicyEvaluationContext) : List RuleResult :=
  let tier := proposalTier proposal entry
  let environment := context.incidentEnvironment
  let target := context.targetService
  let roles := approverRoles policy tier
  let automatic := policy.autoExecutionEnvironments.contains environment &&
    (match entry with
      | some e => e.autoExecutionAllowed && !e.approvalMandatory
      | none => false)
  [rule "kill_switch.global" (!context.globalKillSwitchEngaged)
    (if context.globalKillSwitchEngaged then "global remediation kill switch is engaged"
      else "global kill switch released"),
   rule "kill_switch.service" (!context.serviceKillSwitchEngaged)
    (if context.serviceKillSwitchEngaged then "kill switch engaged for " ++ shown target
      else "service kill switch released"),
   rule "action.known" entry.isSome
    (if entry.isSome then
      "action " ++ quoteRepr proposal.actionId ++ " is in catalog " ++ catalogVersion
     else "unknown action " ++ quoteRepr proposal.actionId ++ ": not in catalog " ++
      catalogVersion)] ++
  (match entry with
    | some e => actionRules proposal e
    | none => []) ++
  [rule "target.known" context.targetKnown
    ("target " ++ quoted target ++ " is " ++
      (if context.targetKnown then "a catalogued service" else "not a known service")),
   rule "target.in_incident_scope" context.targetInIncidentScope
    ("target " ++ quoted target ++ " is " ++
      (if context.targetInIncidentScope then "within the incident's service scope"
        else "outside the scope of the incident on " ++ context.incidentService)),
   rule "environment.not_prohibited" (!policy.prohibitedEnvironments.contains environment)
    ("environment " ++ quoteRepr environment ++ " " ++
      (if policy.prohibitedEnvironments.contains environment then "is prohibited"
        else "permitted by policy"))] ++
  (match entry with
    | some e =>
      [rule "environment.allowed_for_action" (e.allowedEnvironments.contains environment)
        (e.actionId ++ " " ++
          (if e.allowedEnvironments.contains environment then "allowed" else "not allowed") ++
          " in " ++ quoteRepr environment)]
    | none => []) ++
  (match tier, entry with
    | some tier, some e => blastRadiusRules e policy environment tier
    | _, _ => []) ++
  [rule "incident.remediable_status"
    (policy.remediableIncidentStatuses.contains context.incidentStatus)
    ("incident is " ++ context.incidentStatus.value)] ++
  (match entry with
    | some e => rcaRules e context
    | none => []) ++
  [attemptsRule policy context,
   rule "attempts.per_service_per_hour"
    (decide (context.remediationExecutionsLastHourForTarget <
      policy.maxExecutionsPerServicePerHour))
    (toString context.remediationExecutionsLastHourForTarget ++ " execution(s) on " ++
      shown target ++ " in the last hour (limit " ++
      toString policy.maxExecutionsPerServicePerHour ++ ")"),
   rule "approval.required" automatic
    (if automatic then "automatic execution permitted"
      else "human approval required (" ++
        (if roles.isEmpty then "no eligible role" else " or ".intercalate roles) ++ ")")
    .requireApproval] ++
  (if roles.isEmpty then
    [rule "approval.eligible_role_exists" false
      ("no approver role is defined for tier " ++
        (match tier with
          | some tier => toString tier
          | none => "None"))]
  else [])

def evaluate (proposal : RemediationProposal) (entry : Option ActionCatalogEntry)
    (policy : Policy) (context : PolicyEvaluationContext) : PolicyDecision :=
  let tier := proposalTier proposal entry
  let ran := rules proposal entry policy context
  let decision :=
    if ran.any (fun r => r.outcome == .deny) then .deny
    else if ran.any (fun r => r.outcome == .requireApproval) then .requireApproval
    else .allow
  { decision
    policyVersion := policy.version
    catalogVersion := if entry.isSome then some catalogVersion else none
    blastRadiusTier := tier
    requiredApproverRoles :=
      if decision == .requireApproval then approverRoles policy tier else []
    rules := ran }

/-! ## What a decision that does not deny says -/

/-- Unless the decision denies, no rule denied. -/
theorem no_denying_rule {proposal : RemediationProposal} {entry : Option ActionCatalogEntry}
    {policy : Policy} {context : PolicyEvaluationContext}
    (permitted : (evaluate proposal entry policy context).decision ≠ .deny) :
    ∀ r ∈ rules proposal entry policy context, r.outcome ≠ .deny := by
  intro r ran denies
  apply permitted
  have some_denies : (rules proposal entry policy context).any (fun r => r.outcome == .deny) :=
    List.any_eq_true.mpr ⟨r, ran, by simp [denies]⟩
  simp only [evaluate, some_denies, if_true]

/-- A rule that denies when it fails has not failed. -/
theorem rule_holds {proposal : RemediationProposal} {entry : Option ActionCatalogEntry}
    {policy : Policy} {context : PolicyEvaluationContext} {ruleId detail : String} {ok : Bool}
    (permitted : (evaluate proposal entry policy context).decision ≠ .deny)
    (ran : rule ruleId ok detail ∈ rules proposal entry policy context) : ok = true := by
  have passes := no_denying_rule permitted _ ran
  cases ok with
  | true => rfl
  | false => exact absurd rfl passes

theorem remediable_of_permitted {proposal : RemediationProposal}
    {entry : Option ActionCatalogEntry} {policy : Policy} {context : PolicyEvaluationContext}
    (permitted : (evaluate proposal entry policy context).decision ≠ .deny) :
    context.incidentStatus ∈ policy.remediableIncidentStatuses := by
  have ran : rule "incident.remediable_status"
      (policy.remediableIncidentStatuses.contains context.incidentStatus)
      ("incident is " ++ context.incidentStatus.value) ∈ rules proposal entry policy context := by
    simp only [rules, List.mem_append, List.mem_cons, true_or, or_true]
  simpa using rule_holds permitted ran

theorem attempts_of_permitted {proposal : RemediationProposal}
    {entry : Option ActionCatalogEntry} {policy : Policy} {context : PolicyEvaluationContext}
    (permitted : (evaluate proposal entry policy context).decision ≠ .deny) :
    context.attemptedRemediationsThisIncident < policy.maxAttemptedRemediationsPerIncident := by
  have ran : attemptsRule policy context ∈ rules proposal entry policy context := by
    simp only [rules, List.mem_append, List.mem_cons, true_or, or_true]
  simpa using rule_holds permitted ran

theorem recent_of_permitted {proposal : RemediationProposal}
    {entry : Option ActionCatalogEntry} {policy : Policy} {context : PolicyEvaluationContext}
    (permitted : (evaluate proposal entry policy context).decision ≠ .deny) :
    context.remediationExecutionsLastHourForTarget < policy.maxExecutionsPerServicePerHour := by
  have ran : rule "attempts.per_service_per_hour"
      (decide (context.remediationExecutionsLastHourForTarget <
        policy.maxExecutionsPerServicePerHour))
      (toString context.remediationExecutionsLastHourForTarget ++ " execution(s) on " ++
        shown context.targetService ++ " in the last hour (limit " ++
        toString policy.maxExecutionsPerServicePerHour ++ ")") ∈
      rules proposal entry policy context := by
    simp only [rules, List.mem_append, List.mem_cons, true_or, or_true]
  simpa using rule_holds permitted ran

theorem target_of_permitted {proposal : RemediationProposal}
    {entry : Option ActionCatalogEntry} {policy : Policy} {context : PolicyEvaluationContext}
    (permitted : (evaluate proposal entry policy context).decision ≠ .deny) :
    context.targetKnown = true := by
  have ran : rule "target.known" context.targetKnown
      ("target " ++ quoted context.targetService ++ " is " ++
        (if context.targetKnown then "a catalogued service" else "not a known service")) ∈
      rules proposal entry policy context := by
    simp only [rules, List.mem_append, List.mem_cons, true_or, or_true]
  exact rule_holds permitted ran

theorem rcaRules_run {proposal : RemediationProposal} {entry : ActionCatalogEntry}
    {policy : Policy} {context : PolicyEvaluationContext} {r : RuleResult}
    (ran : r ∈ rcaRules entry context) : r ∈ rules proposal (some entry) policy context := by
  simp only [rules, List.mem_append, ran, true_or, or_true]

/-- An action that requires an RCA is permitted where one is available. -/
theorem rca_of_permitted {proposal : RemediationProposal} {entry : ActionCatalogEntry}
    {policy : Policy} {context : PolicyEvaluationContext}
    (permitted : (evaluate proposal (some entry) policy context).decision ≠ .deny)
    (requires : entry.requiresRca = true) : context.rcaAvailable = true := by
  have listed : rule "rca.required" context.rcaAvailable
      (if context.rcaAvailable then "a completed investigation with an accepted RCA exists"
        else entry.actionId ++ " requires an accepted RCA; none exists") ∈
      rcaRules entry context := by
    simp [rcaRules, requires]
  exact rule_holds permitted (rcaRules_run listed)

/-- And on the component it names, where the entry says so. -/
theorem component_of_permitted {proposal : RemediationProposal} {entry : ActionCatalogEntry}
    {policy : Policy} {context : PolicyEvaluationContext}
    (permitted : (evaluate proposal (some entry) policy context).decision ≠ .deny)
    (requires : entry.requiresRca = true) (matched : entry.targetMustMatchRootCause = true) :
    context.targetService = context.rcaComponent := by
  have available := rca_of_permitted permitted requires
  have listed : rule "rca.target_matches_root_cause"
      (context.targetService == context.rcaComponent)
      ("target " ++ quoted context.targetService ++ " vs root-cause component " ++
        quoted context.rcaComponent) ∈ rcaRules entry context := by
    simp [rcaRules, requires, matched, available]
  exact beq_iff_eq.mp (rule_holds permitted (rcaRules_run listed))

end IncidentTriage.PolicyEngine
