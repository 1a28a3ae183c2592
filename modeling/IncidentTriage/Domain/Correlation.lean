import IncidentTriage.Domain.Enums

/-! # Alert commands and correlation

The commands of alert ingestion, the fingerprint of a label set, and the
deterministic multi-signal rules that say whether a new alert belongs to one of
the open incidents.
-/

namespace IncidentTriage.Domain

open IncidentTriage.Python

/-- `dict[str, str]`. -/
abbrev Labels := List (String × String)

def label? (labels : Labels) (key : String) : Option String :=
  List.lookup key labels

structure AlertReceivedCommand where
  idempotencyKey : String
  source : AlertSource
  externalId : Option String := none
  labels : Labels
  severity : AlertSeverity
  status : AlertStatus := .firing
  deriving DecidableEq, Repr

/-- `labels["service"]`: the command's own validation refuses labels without it. -/
def AlertReceivedCommand.service (c : AlertReceivedCommand) : String :=
  (label? c.labels "service").getD ""

def AlertReceivedCommand.environment (c : AlertReceivedCommand) : String :=
  (label? c.labels "environment").getD ""

structure RegisterEvidenceRefCommand where
  evidenceId : Uuid
  incidentId : Uuid
  investigationId : Option Uuid := none
  evidenceType : String
  contentHash : String
  sourceSystem : String
  collectedAt : Time
  deriving DecidableEq, Repr

/-- Stable hash of the source and the labels, independent of key order. -/
def computeFingerprint (sha256 : String → String) (source : AlertSource) (labels : Labels) :
    String :=
  sha256 (Json.object
    [("source", .str source.value),
     ("labels", .object (labels.map (fun l => (l.1, .str l.2))))]).dumps

/-! ## Rules -/

structure NewAlertContext where
  source : AlertSource
  fingerprint : String
  labels : Labels
  service : String
  environment : String
  receivedAt : Time
  deriving DecidableEq, Repr

structure CorrelationCandidate where
  incidentId : Uuid
  correlationKey : String
  status : IncidentStatus
  service : String
  environment : String
  mostRecentAlertReceivedAt : Time
  mostRecentAlertLabels : Labels
  mostRecentAlertFingerprint : String
  deriving DecidableEq, Repr

inductive CorrelationRule where
  | sameService (weight : ℚ)
  | sameEnvironment (weight : ℚ)
  | sameLabelValue (labelKey : String) (weight : ℚ)
  | temporalProximity (weight : ℚ) (windowSeconds : Int)
  | relatedAlertType (weight relatedWeightFraction : ℚ)
      (relatedAlertTypes : List (String × List String))
  /-- Contributes nothing until a deployment data source exists. -/
  | deploymentProximity
  deriving DecidableEq, Repr

/-- A contribution to the score, and the signal that fired. -/
structure RuleContribution where
  contribution : ℚ
  signal : Option String

def noSignal : RuleContribution := ⟨0, none⟩

/-- Two label values that are present, not empty, and equal. -/
def sameValueOf (a b : Option String) : Bool :=
  match a, b with
  | some a, some b => !a.isEmpty && a == b
  | _, _ => false

def CorrelationRule.evaluate (rule : CorrelationRule) (alert : NewAlertContext)
    (candidate : CorrelationCandidate) : RuleContribution :=
  match rule with
  | .sameService weight =>
    if alert.service = candidate.service then ⟨weight, some "same service"⟩ else noSignal
  | .sameEnvironment weight =>
    if alert.environment = candidate.environment then ⟨weight, some "same environment"⟩
    else noSignal
  | .sameLabelValue key weight =>
    if sameValueOf (label? alert.labels key) (label? candidate.mostRecentAlertLabels key) then
      ⟨weight, some ("same " ++ key)⟩
    else noSignal
  | .temporalProximity weight windowSeconds =>
    if |alert.receivedAt - candidate.mostRecentAlertReceivedAt| ≤ windowSeconds * 1000000 then
      ⟨weight, some ("within " ++ toString windowSeconds ++ " seconds")⟩
    else noSignal
  | .relatedAlertType weight fraction related =>
    match label? alert.labels "alertname",
        label? candidate.mostRecentAlertLabels "alertname" with
    | some new, some old =>
      if new.isEmpty || old.isEmpty then noSignal
      else if new = old then ⟨weight, some "same alert type"⟩
      else if ((List.lookup new related).getD []).contains old then
        ⟨weight * fraction, some "related alert types"⟩
      else noSignal
    | _, _ => noSignal
  | .deploymentProximity => noSignal

inductive CorrelationVerdict where
  | correlate | newIncident
  deriving DecidableEq, Repr

structure CorrelationDecision where
  decision : CorrelationVerdict
  score : ℚ
  matchedSignals : List String
  matchedIncidentId : Option Uuid
  correlationKey : String
  deriving DecidableEq, Repr

structure CorrelationEngine where
  rules : List CorrelationRule
  threshold : ℚ
  newIncidentCorrelationKey : Option String := none

/-- The score of one candidate, capped at 1, and the signals that fired. -/
def CorrelationEngine.score (engine : CorrelationEngine) (alert : NewAlertContext)
    (candidate : CorrelationCandidate) : ℚ × List String :=
  let results := engine.rules.map (fun r => r.evaluate alert candidate)
  (min (results.map (·.contribution)).sum 1,
    results.filterMap (fun r => r.signal.filter (fun s => !s.isEmpty)))

/-- The best candidate so far: the first one, then any with a strictly larger score. -/
def CorrelationEngine.best (engine : CorrelationEngine) (alert : NewAlertContext) :
    Option (CorrelationCandidate × ℚ × List String) → List CorrelationCandidate →
      Option (CorrelationCandidate × ℚ × List String)
  | best, [] => best
  | none, c :: cs => engine.best alert (some (c, engine.score alert c)) cs
  | some (b, score, signals), c :: cs =>
    if score < (engine.score alert c).1 then
      engine.best alert (some (c, engine.score alert c)) cs
    else engine.best alert (some (b, score, signals)) cs

def CorrelationEngine.decide (engine : CorrelationEngine) (alert : NewAlertContext)
    (candidates : List CorrelationCandidate) : CorrelationDecision :=
  let key := match engine.newIncidentCorrelationKey with
    | some key => if key.isEmpty then alert.fingerprint else key
    | none => alert.fingerprint
  match engine.best alert none candidates with
  | some (candidate, score, signals) =>
    if engine.threshold ≤ score then
      { decision := .correlate, score, matchedSignals := signals
        matchedIncidentId := some candidate.incidentId
        correlationKey := candidate.correlationKey }
    else
      { decision := .newIncident, score, matchedSignals := signals
        matchedIncidentId := none, correlationKey := key }
  | none =>
    { decision := .newIncident, score := 0, matchedSignals := []
      matchedIncidentId := none, correlationKey := key }

theorem CorrelationEngine.best_mem {engine : CorrelationEngine} {alert : NewAlertContext}
    {candidates : List CorrelationCandidate}
    {start : Option (CorrelationCandidate × ℚ × List String)}
    {c : CorrelationCandidate} {rest : ℚ × List String}
    (chosen : engine.best alert start candidates = some (c, rest)) :
    c ∈ candidates ∨ ∃ rest', start = some (c, rest') := by
  induction candidates generalizing start with
  | nil =>
    cases start with
    | none => cases chosen
    | some b => exact .inr ⟨_, chosen⟩
  | cons head tail ih =>
    have widen : ∀ {s}, engine.best alert s tail = some (c, rest) →
        (s = some (head, engine.score alert head) ∨ s = start) →
        c ∈ head :: tail ∨ ∃ rest', start = some (c, rest') := by
      intro s chosen origin
      rcases ih chosen with later | ⟨rest', held⟩
      · exact .inl (List.mem_cons_of_mem _ later)
      · rcases origin with rfl | rfl
        · cases held
          exact .inl List.mem_cons_self
        · exact .inr ⟨rest', held⟩
    cases start with
    | none => exact widen chosen (.inl rfl)
    | some b =>
      unfold best at chosen
      split at chosen
      · exact widen chosen (.inl rfl)
      · exact widen chosen (.inr rfl)

/-- The engine only ever names one of the candidates it was shown. -/
theorem CorrelationEngine.decide_correlate {engine : CorrelationEngine}
    {alert : NewAlertContext} {candidates : List CorrelationCandidate}
    (correlates : (engine.decide alert candidates).decision = .correlate) :
    ∃ c ∈ candidates, (engine.decide alert candidates).matchedIncidentId = some c.incidentId := by
  unfold CorrelationEngine.decide at correlates ⊢
  cases chosen : engine.best alert none candidates with
  | none => simp [chosen] at correlates
  | some best =>
    obtain ⟨c, score, signals⟩ := best
    rcases best_mem chosen with member | ⟨rest', absent⟩
    · simp only [chosen] at correlates ⊢
      split at correlates
      · rename_i enough
        exact ⟨c, member, by simp [enough]⟩
      · cases correlates
    · cases absent

def defaultTemporalWindowSeconds : Int := 90

def defaultCandidateLookbackSeconds : Nat := 15 * 60

def defaultCorrelationEngine : CorrelationEngine where
  rules :=
    [.sameService (3 / 10), .sameEnvironment (1 / 5), .sameLabelValue "region" (1 / 10),
     .sameLabelValue "dependency" (1 / 10),
     .temporalProximity (1 / 5) defaultTemporalWindowSeconds,
     .relatedAlertType (1 / 5) (17 / 20) [], .deploymentProximity]
  threshold := 3 / 5

end IncidentTriage.Domain
