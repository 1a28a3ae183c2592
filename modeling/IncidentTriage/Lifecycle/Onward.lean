import IncidentTriage.Lifecycle.Case

/-! # The way of an incident

An incident in a status in which somebody owes it something only moves on: to a status with less
left to do for it, at last to one in which nobody owes it anything.
-/

namespace IncidentTriage.Lifecycle

open IncidentTriage.Domain

/-- How far an incident in this status is from one in which nobody owes it anything. -/
def workLeft : IncidentStatus → ℕ
  | .awaitingApproval => 5
  | .remediationInProgress => 4
  | .verifying => 3
  | .triaging | .verificationFailed => 2
  | .investigating => 1
  | .rcaReady | .resolved | .escalated | .suppressed | .cancelled | .closed => 0

/-- The status stays, or there is less left to do. -/
def Onward (a b : IncidentStatus) : Prop := b = a ∨ workLeft b < workLeft a

/-- A move along the edges from some statuses is one onward where each of them is. -/
theorem shift_onward {fromStatuses : List IncidentStatus} {toStatus status : IncidentStatus}
    (edges : ∀ a ∈ fromStatuses, 0 < workLeft a → workLeft toStatus < workLeft a)
    (working : 0 < workLeft status) :
    ∃ b, shift fromStatuses toStatus (some status) = some b ∧ Onward status b := by
  by_cases within : status ∈ fromStatuses
  · refine ⟨toStatus, ?_, .inr (edges status within working)⟩
    simp [shift, within]
  · refine ⟨status, ?_, .inl rfl⟩
    simp [shift, within]

/-- Every step of its life takes an incident that somebody owes something onward. -/
theorem Step.onward {limits : Limits} {c c' : Case} (step : Step limits c c')
    {status : IncidentStatus} (found : c.status = some status) (working : 0 < workLeft status) :
    ∃ b, c'.status = some b ∧ Onward status b := by
  have stays : ∃ b, c.status = some b ∧ Onward status b := ⟨status, found, .inl rfl⟩
  cases step with
  | opened absent => simp [absent] at found
  | alertLinked => exact stays
  | alertEnded fired kept => exact stays
  | cancelled triaging last =>
    rw [triaging] at found
    cases found
    exact ⟨.cancelled, rfl, .inr (by decide)⟩
  | investigationRequested waiting firing idle =>
    refine ⟨.investigating, rfl, .inr ?_⟩
    rw [found] at waiting
    rcases waiting with same | same <;> cases same <;> decide
  | investigationClosed toStatus destination busy =>
    simp only [found]
    rcases destination with rfl | rfl <;> exact shift_onward (by decide) working
  | proposalRejected =>
    simp only [found]
    exact shift_onward (by decide) working
  | proposed n status' _ ready left move =>
    simp only [found]
    exact shift_onward (by decide) working
  | approved n move =>
    simp only [found]
    exact shift_onward (by decide) working
  | withdrawn p toStatus n before destination move =>
    simp only [found]
    rcases destination with rfl | rfl <;> exact shift_onward (by decide) working
  | killed n move =>
    simp only [found]
    exact shift_onward (by decide) working
  | failed p n before move =>
    simp only [found]
    exact shift_onward (by decide) working
  | started n move => exact stays
  | executed n move =>
    simp only [found]
    exact shift_onward (by decide) working
  | verdictApplied toStatus verifying busy destination =>
    rw [verifying] at found
    cases found
    refine ⟨toStatus, rfl, .inr ?_⟩
    rcases destination with rfl | rfl | ⟨rfl, _⟩ <;> decide
  | verdictStale busy => exact stays

end IncidentTriage.Lifecycle
