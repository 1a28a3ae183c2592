import IncidentTriage.Domain.Enums

/-! # The life of one incident

An abstract machine that says what the three services together do to one incident:
its status, how often it was investigated, and how many work items of each kind it
has.  The statuses in which somebody works on the incident are those in which it has
exactly one open work item of the matching kind (`Coherent`); the budgets for
investigations and for attempted remediations are never exceeded.
-/

namespace IncidentTriage.Lifecycle

open IncidentTriage.Domain

/-- The kinds a remediation of the incident can be of. -/
inductive Phase where
  | awaiting | approved | executing
  /-- Attempted and over: executed or failed. -/
  | spent
  /-- Stopped by a kill switch after an attempt had started. -/
  | killed
  deriving DecidableEq

structure Case where
  /-- `none` before the incident is opened. -/
  status : Option IncidentStatus
  attempts : Nat
  firing : Nat
  openInvestigations : Nat
  remediations : Phase → Nat
  openVerifications : Nat

def Case.absent (firing : Nat) : Case :=
  { status := none, attempts := 0, firing, openInvestigations := 0, remediations := fun _ => 0,
    openVerifications := 0 }

/-- One remediation leaves kind `p` and enters kind `q`; `none` is no kind. -/
def Move (p q : Option Phase) (n n' : Phase → Nat) : Prop :=
  ∀ x, n' x + (if p = some x then 1 else 0) = n x + (if q = some x then 1 else 0)

/-- A move along the edges from some statuses; elsewhere nothing happens. -/
def shift (fromStatuses : List IncidentStatus) (toStatus : IncidentStatus)
    (status : Option IncidentStatus) : Option IncidentStatus :=
  if status ∈ fromStatuses.map some then some toStatus else status

/-- Remediations of the incident that were attempted and not stopped. -/
def Case.attempted (c : Case) : Nat := c.remediations .executing + c.remediations .spent

/-- The budgets for attempted remediations and for investigations, and the statuses in
which a remediation may be proposed. -/
structure Limits where
  remediations : Nat
  investigations : Nat
  remediable : List IncidentStatus

inductive Step (limits : Limits) (c : Case) : Case → Prop
  | opened (absent : c.status = none) :
      Step limits c { c with status := some .triaging, attempts := 0, firing := c.firing + 1 }
  | alertLinked (status : IncidentStatus) (found : c.status = some status)
      (isOpen : status ∉ closedIncidentStatuses) :
      Step limits c { c with firing := c.firing + 1 }
  | alertEnded (fired : 0 < c.firing) (kept : ¬ (c.firing = 1 ∧ c.status = some .triaging)) :
      Step limits c { c with firing := c.firing - 1 }
  | cancelled (triaging : c.status = some .triaging) (last : c.firing = 1) :
      Step limits c { c with status := some .cancelled, firing := 0 }
  | investigationRequested
      (waiting : c.status = some .triaging ∨ c.status = some .verificationFailed)
      (firing : 0 < c.firing) (idle : c.openInvestigations = 0) :
      Step limits c { c with
        status := some .investigating
        attempts := c.attempts + 1
        openInvestigations := 1 }
  | investigationClosed (toStatus : IncidentStatus)
      (destination : toStatus = .rcaReady ∨ toStatus = .escalated)
      (busy : 0 < c.openInvestigations) :
      Step limits c { c with
        status := shift [.investigating] toStatus c.status
        openInvestigations := c.openInvestigations - 1 }
  | proposalRejected :
      Step limits c { c with status := shift [.rcaReady] .escalated c.status }
  | proposed (n : Phase → Nat) (status : IncidentStatus) (found : c.status = some status)
      (ready : status ∈ limits.remediable) (left : c.attempted < limits.remediations)
      (move : Move none (some .awaiting) c.remediations n) :
      Step limits c { c with
        status := shift [.rcaReady] .awaitingApproval c.status
        remediations := n }
  | approved (n : Phase → Nat) (move : Move (some .awaiting) (some .approved) c.remediations n) :
      Step limits c { c with
        status := shift [.awaitingApproval] .remediationInProgress c.status
        remediations := n }
  | withdrawn (p : Phase) (toStatus : IncidentStatus) (n : Phase → Nat)
      (before : p = .awaiting ∨ p = .approved)
      (destination : toStatus = .escalated ∨ toStatus = .rcaReady)
      (move : Move (some p) none c.remediations n) :
      Step limits c { c with
        status := shift [.awaitingApproval, .remediationInProgress] toStatus c.status
        remediations := n }
  | killed (n : Phase → Nat) (move : Move (some .executing) (some .killed) c.remediations n) :
      Step limits c { c with
        status := shift [.awaitingApproval, .remediationInProgress] .escalated c.status
        remediations := n }
  | failed (p : Phase) (n : Phase → Nat) (before : p = .approved ∨ p = .executing)
      (move : Move (some p) (some .spent) c.remediations n) :
      Step limits c { c with
        status := shift [.remediationInProgress, .awaitingApproval] .escalated c.status
        remediations := n }
  | started (n : Phase → Nat) (move : Move (some .approved) (some .executing) c.remediations n) :
      Step limits c { c with remediations := n }
  | executed (n : Phase → Nat) (move : Move (some .executing) (some .spent) c.remediations n) :
      Step limits c { c with
        status := shift [.remediationInProgress] .verifying c.status
        remediations := n
        openVerifications := c.openVerifications + 1 }
  | verdictApplied (toStatus : IncidentStatus) (verifying : c.status = some .verifying)
      (busy : 0 < c.openVerifications)
      (destination : toStatus = .resolved ∨ toStatus = .escalated ∨
        (toStatus = .verificationFailed ∧ c.attempts < limits.investigations ∧ 0 < c.firing)) :
      Step limits c { c with
        status := some toStatus
        openVerifications := c.openVerifications - 1 }
  | verdictStale (busy : 0 < c.openVerifications) :
      Step limits c { c with openVerifications := c.openVerifications - 1 }

/-! ## The invariant -/

/-- The incident is `INVESTIGATING` exactly while it has one open investigation, and its
investigations stay within the budget. -/
structure InvestigationsCoherent (limits : Limits) (c : Case) : Prop where
  investigating : c.openInvestigations = if c.status = some .investigating then 1 else 0
  /-- The first investigation is accepted whatever the budget. -/
  attempts : c.attempts ≤ max 1 limits.investigations
  fresh : c.status = none ∨ c.status = some .triaging → c.attempts = 0
  again : c.status = some .verificationFailed → c.attempts < limits.investigations

/-- The statuses in which a remediation or a verification is under way go with exactly
one of its kind, and the budget for attempted remediations is kept. -/
structure RemediationsCoherent (limits : Limits) (c : Case) : Prop where
  awaiting : c.remediations .awaiting = if c.status = some .awaitingApproval then 1 else 0
  inProgress : c.remediations .approved + c.remediations .executing =
    if c.status = some .remediationInProgress then 1 else 0
  verifying : c.openVerifications ≤ if c.status = some .verifying then 1 else 0
  attempted : c.attempted + c.remediations .killed ≤ limits.remediations
  /-- A remediation about to be attempted still has room in the budget. -/
  room : 0 < c.remediations .awaiting + c.remediations .approved →
    c.attempted + c.remediations .killed < limits.remediations
  /-- After a stopped attempt nothing follows. -/
  stopped : 0 < c.remediations .killed → c.status = some .escalated

/-- A status in which somebody works on the incident goes with exactly one open work
item of its kind, and the budgets are kept. -/
structure Coherent (limits : Limits) (c : Case) : Prop where
  investigations : InvestigationsCoherent limits c
  remediations : RemediationsCoherent limits c

theorem investigationsCoherent_absent (limits : Limits) (firing : Nat) :
    InvestigationsCoherent limits (.absent firing) := by
  constructor <;> simp [Case.absent]

theorem coherent_absent (limits : Limits) (firing : Nat) : Coherent limits (.absent firing) := by
  refine ⟨investigationsCoherent_absent limits firing, ?_⟩
  constructor <;> simp [Case.absent, Case.attempted]

section
variable {limits : Limits} {c : Case}

theorem shift_of_mem {fromStatuses : List IncidentStatus} {toStatus status : IncidentStatus}
    (found : c.status = some status) (within : status ∈ fromStatuses) :
    shift fromStatuses toStatus c.status = some toStatus := by
  simp [shift, found, within]

theorem shift_eq_some {fromStatuses : List IncidentStatus} {toStatus status : IncidentStatus}
    {before : Option IncidentStatus}
    (after : shift fromStatuses toStatus before = some status) :
    status = toStatus ∨ before = some status := by
  unfold shift at after
  split_ifs at after
  · exact .inl (Option.some.inj after).symm
  · exact .inr after

/-- An open work item says which status the incident has. -/
theorem InvestigationsCoherent.status_of_open (coherent : InvestigationsCoherent limits c)
    (busy : 0 < c.openInvestigations) : c.status = some .investigating := by
  by_contra elsewhere
  have none := coherent.investigating
  rw [if_neg elsewhere] at none
  omega

theorem RemediationsCoherent.status_of_awaiting (coherent : RemediationsCoherent limits c)
    (busy : 0 < c.remediations .awaiting) : c.status = some .awaitingApproval := by
  by_contra elsewhere
  have none := coherent.awaiting
  rw [if_neg elsewhere] at none
  omega

theorem RemediationsCoherent.status_of_inProgress (coherent : RemediationsCoherent limits c)
    (busy : 0 < c.remediations .approved + c.remediations .executing) :
    c.status = some .remediationInProgress := by
  by_contra elsewhere
  have none := coherent.inProgress
  rw [if_neg elsewhere] at none
  omega

theorem RemediationsCoherent.status_of_verification (coherent : RemediationsCoherent limits c)
    (busy : 0 < c.openVerifications) : c.status = some .verifying := by
  by_contra elsewhere
  have none := coherent.verifying
  rw [if_neg elsewhere] at none
  omega

theorem move_iff {p q : Option Phase} {n n' : Phase → Nat} :
    Move p q n n' ↔
      (n' .awaiting + (if p = some .awaiting then 1 else 0) =
        n .awaiting + (if q = some .awaiting then 1 else 0)) ∧
      (n' .approved + (if p = some .approved then 1 else 0) =
        n .approved + (if q = some .approved then 1 else 0)) ∧
      (n' .executing + (if p = some .executing then 1 else 0) =
        n .executing + (if q = some .executing then 1 else 0)) ∧
      (n' .spent + (if p = some .spent then 1 else 0) =
        n .spent + (if q = some .spent then 1 else 0)) ∧
      (n' .killed + (if p = some .killed then 1 else 0) =
        n .killed + (if q = some .killed then 1 else 0)) := by
  constructor
  · intro move
    exact ⟨move _, move _, move _, move _, move _⟩
  · rintro ⟨a, b, c, d, e⟩ x
    cases x <;> assumption

/-- A move out of a kind finds a remediation of that kind. -/
theorem Move.pos {p : Phase} {q : Option Phase} {n n' : Phase → Nat} (move : Move (some p) q n n')
    (other : q ≠ some p) : 0 < n p := by
  have here := move p
  simp only [if_true, other, if_false] at here
  omega

/-- A move among other statuses leaves the investigations coherent. -/
theorem InvestigationsCoherent.shift {fromStatuses : List IncidentStatus}
    {toStatus : IncidentStatus} {n : Phase → Nat} {openVerifications : Nat}
    (coherent : InvestigationsCoherent limits c) (source : .investigating ∉ fromStatuses)
    (destination : toStatus ≠ .investigating ∧ toStatus ≠ .triaging ∧
      toStatus ≠ .verificationFailed) :
    InvestigationsCoherent limits { c with
      status := Lifecycle.shift fromStatuses toStatus c.status
      remediations := n
      openVerifications := openVerifications } := by
  obtain ⟨investigating, attempts, fresh, again⟩ := coherent
  by_cases within : c.status ∈ fromStatuses.map some
  · have elsewhere : c.status ≠ some .investigating := by
      intro busy
      rw [busy] at within
      exact source (by simpa using within)
    rw [if_neg elsewhere] at investigating
    have moved : Lifecycle.shift fromStatuses toStatus c.status = some toStatus := if_pos within
    obtain ⟨running, triaging, failed⟩ := destination
    constructor <;> simp_all
  · have unmoved : Lifecycle.shift fromStatuses toStatus c.status = c.status := if_neg within
    constructor <;> simp only [unmoved] <;> assumption

end

/-- Every step of an incident's life keeps its investigations coherent. -/
theorem Step.investigationsCoherent {limits : Limits} {c c' : Case} (step : Step limits c c')
    (coherent : InvestigationsCoherent limits c) : InvestigationsCoherent limits c' := by
  have ⟨investigating, attempts, fresh, again⟩ := coherent
  cases step with
  | opened absent => constructor <;> simp_all
  | alertLinked status found isOpen => exact ⟨investigating, attempts, fresh, again⟩
  | alertEnded fired kept => exact ⟨investigating, attempts, fresh, again⟩
  | cancelled triaging last => constructor <;> simp_all
  | investigationRequested waiting firing idle =>
    rcases waiting with status | status
    · constructor <;> simp_all
    · have left := again status
      constructor <;> simp
      omega
  | investigationClosed toStatus destination busy =>
    have status := coherent.status_of_open busy
    rcases destination with rfl | rfl <;> constructor <;> simp_all [Lifecycle.shift]
  | proposalRejected => exact coherent.shift (by simp) (by simp)
  | proposed n status found ready left move => exact coherent.shift (by simp) (by simp)
  | approved n move => exact coherent.shift (by simp) (by simp)
  | withdrawn p toStatus n before destination move =>
    exact coherent.shift (by simp) (by rcases destination with rfl | rfl <;> simp)
  | killed n move => exact coherent.shift (by simp) (by simp)
  | failed p n before move => exact coherent.shift (by simp) (by simp)
  | started n move => exact ⟨investigating, attempts, fresh, again⟩
  | executed n move => exact coherent.shift (by simp) (by simp)
  | verdictApplied toStatus verifying busy destination =>
    rcases destination with rfl | rfl | ⟨rfl, left, firing⟩ <;> constructor <;> simp_all
  | verdictStale busy => exact ⟨investigating, attempts, fresh, again⟩

/-- A failed verdict finds an alert firing: an incident is left without one only by the
end of its last firing alert. -/
theorem Step.verificationFailed_silent {limits : Limits} {c c' : Case} (step : Step limits c c')
    (failed : c'.status = some .verificationFailed) (silent : c'.firing = 0) :
    c.status = some .verificationFailed ∧ c.firing ≤ 1 := by
  have shifted : ∀ {fromStatuses : List IncidentStatus} {toStatus : IncidentStatus},
      toStatus ≠ .verificationFailed →
      shift fromStatuses toStatus c.status = some .verificationFailed →
      c.status = some .verificationFailed := by
    intro fromStatuses toStatus elsewhere after
    rcases shift_eq_some after with same | before
    · exact absurd same.symm elsewhere
    · exact before
  cases step with
  | opened absent => simp at failed
  | alertLinked status found isOpen => simp at silent
  | alertEnded fired kept =>
    have last : c.firing - 1 = 0 := silent
    exact ⟨failed, by omega⟩
  | cancelled triaging last => simp at failed
  | investigationRequested waiting firing idle => simp at failed
  | investigationClosed toStatus destination busy =>
    have before := shifted (by rcases destination with rfl | rfl <;> simp) failed
    exact ⟨before, Nat.le_trans (Nat.le_of_eq silent) (Nat.zero_le 1)⟩
  | proposalRejected =>
    exact ⟨shifted (by simp) failed, Nat.le_trans (Nat.le_of_eq silent) (Nat.zero_le 1)⟩
  | proposed n status found ready left move =>
    exact ⟨shifted (by simp) failed, Nat.le_trans (Nat.le_of_eq silent) (Nat.zero_le 1)⟩
  | approved n move =>
    exact ⟨shifted (by simp) failed, Nat.le_trans (Nat.le_of_eq silent) (Nat.zero_le 1)⟩
  | withdrawn p toStatus n before destination move =>
    have source := shifted (by rcases destination with rfl | rfl <;> simp) failed
    exact ⟨source, Nat.le_trans (Nat.le_of_eq silent) (Nat.zero_le 1)⟩
  | killed n move =>
    exact ⟨shifted (by simp) failed, Nat.le_trans (Nat.le_of_eq silent) (Nat.zero_le 1)⟩
  | failed p n before move =>
    exact ⟨shifted (by simp) failed, Nat.le_trans (Nat.le_of_eq silent) (Nat.zero_le 1)⟩
  | started n move => exact ⟨failed, Nat.le_trans (Nat.le_of_eq silent) (Nat.zero_le 1)⟩
  | executed n move =>
    exact ⟨shifted (by simp) failed, Nat.le_trans (Nat.le_of_eq silent) (Nat.zero_le 1)⟩
  | verdictApplied toStatus verifying busy destination =>
    rcases destination with rfl | rfl | ⟨rfl, left, firing⟩
    · simp at failed
    · simp at failed
    · exact absurd silent (Nat.ne_of_gt firing)
  | verdictStale busy => exact ⟨failed, Nat.le_trans (Nat.le_of_eq silent) (Nat.zero_le 1)⟩

/-- An incident that is `TRIAGING` has an alert firing: it is opened with one, and the end
of its last one cancels it. -/
theorem Step.triaging_fires {limits : Limits} {c c' : Case} (step : Step limits c c')
    (fires : c.status = some .triaging → 0 < c.firing) (triaging : c'.status = some .triaging) :
    0 < c'.firing := by
  have shifted : ∀ {fromStatuses : List IncidentStatus} {toStatus : IncidentStatus},
      toStatus ≠ .triaging → shift fromStatuses toStatus c.status = some .triaging →
      c.status = some .triaging := by
    intro fromStatuses toStatus elsewhere after
    rcases shift_eq_some after with same | before
    · exact absurd same.symm elsewhere
    · exact before
  cases step with
  | opened absent => exact Nat.succ_pos _
  | alertLinked status found isOpen => exact Nat.succ_pos _
  | alertEnded fired kept =>
    have more : c.firing ≠ 1 := fun last => kept ⟨last, triaging⟩
    show 0 < c.firing - 1
    omega
  | cancelled _ last => simp at triaging
  | investigationRequested waiting firing idle => simp at triaging
  | investigationClosed toStatus destination busy =>
    exact fires (shifted (by rcases destination with rfl | rfl <;> simp) triaging)
  | proposalRejected => exact fires (shifted (by simp) triaging)
  | proposed n status found ready left move => exact fires (shifted (by simp) triaging)
  | approved n move => exact fires (shifted (by simp) triaging)
  | withdrawn p toStatus n before destination move =>
    exact fires (shifted (by rcases destination with rfl | rfl <;> simp) triaging)
  | killed n move => exact fires (shifted (by simp) triaging)
  | failed p n before move => exact fires (shifted (by simp) triaging)
  | started n move => exact fires triaging
  | executed n move => exact fires (shifted (by simp) triaging)
  | verdictApplied toStatus verifying busy destination =>
    rcases destination with rfl | rfl | ⟨rfl, left, firing⟩ <;> simp at triaging
  | verdictStale busy => exact fires triaging

/-- Where remediations are only proposed for an incident that is `RCA_READY`, every step
of its life keeps its remediations coherent. -/
theorem Step.remediationsCoherent {limits : Limits} {c c' : Case}
    (remediable : limits.remediable = [.rcaReady]) (step : Step limits c c')
    (coherent : RemediationsCoherent limits c) : RemediationsCoherent limits c' := by
  have ⟨awaiting, inProgress, verifying, attempted, room, stopped⟩ := coherent
  unfold Case.attempted at attempted room
  cases step with
  | opened absent =>
    constructor <;> simp_all [Case.attempted]
  | alertLinked status found isOpen =>
    exact ⟨awaiting, inProgress, verifying, attempted, room, stopped⟩
  | alertEnded fired kept =>
    exact ⟨awaiting, inProgress, verifying, attempted, room, stopped⟩
  | cancelled triaging last =>
    constructor <;> simp_all [Case.attempted]
  | investigationRequested waiting firing idle =>
    rcases waiting with status | status <;> constructor <;> simp_all [Case.attempted]
  | investigationClosed toStatus destination busy =>
    by_cases status : c.status = some .investigating
    · rcases destination with rfl | rfl <;> constructor <;>
        simp_all [Case.attempted, Lifecycle.shift]
    · have unmoved : Lifecycle.shift [.investigating] toStatus c.status = c.status := by
        simp [Lifecycle.shift, status]
      rw [unmoved]
      exact ⟨awaiting, inProgress, verifying, attempted, room, stopped⟩
  | proposalRejected =>
    by_cases status : c.status = some .rcaReady
    · constructor <;> simp_all [Case.attempted, Lifecycle.shift]
    · have unmoved : Lifecycle.shift [.rcaReady] .escalated c.status = c.status := by
        simp [Lifecycle.shift, status]
      rw [unmoved]
      exact coherent
  | proposed n status found ready left move =>
    have moved := move_iff.mp move
    rw [remediable, List.mem_singleton] at ready
    subst ready
    constructor <;> simp_all [Case.attempted, Lifecycle.shift]
  | approved n move =>
    have status := coherent.status_of_awaiting (move.pos (by simp))
    have moved := move_iff.mp move
    constructor <;> simp_all [Case.attempted, Lifecycle.shift]
  | withdrawn p toStatus n before destination move =>
    have moved := move_iff.mp move
    rcases before with rfl | rfl
    · have status := coherent.status_of_awaiting (move.pos (by simp))
      rcases destination with rfl | rfl <;> constructor <;>
        simp_all [Case.attempted, Lifecycle.shift]
    · have status := coherent.status_of_inProgress (Nat.add_pos_left (move.pos (by simp)) _)
      rcases destination with rfl | rfl <;> constructor <;>
        simp_all [Case.attempted, Lifecycle.shift] <;> omega
  | killed n move =>
    have moved := move_iff.mp move
    have status := coherent.status_of_inProgress (Nat.add_pos_right _ (move.pos (by simp)))
    constructor <;> simp_all [Case.attempted, Lifecycle.shift] <;> omega
  | failed p n before move =>
    have moved := move_iff.mp move
    rcases before with rfl | rfl
    · have status := coherent.status_of_inProgress (Nat.add_pos_left (move.pos (by simp)) _)
      constructor <;> simp_all [Case.attempted, Lifecycle.shift] <;> omega
    · have status := coherent.status_of_inProgress (Nat.add_pos_right _ (move.pos (by simp)))
      constructor <;> simp_all [Case.attempted, Lifecycle.shift] <;> omega
  | started n move =>
    have moved := move_iff.mp move
    have status := coherent.status_of_inProgress (Nat.add_pos_left (move.pos (by simp)) _)
    constructor <;> simp_all [Case.attempted] <;> omega
  | executed n move =>
    have moved := move_iff.mp move
    have status := coherent.status_of_inProgress (Nat.add_pos_right _ (move.pos (by simp)))
    constructor <;> simp_all [Case.attempted, Lifecycle.shift] <;> omega
  | verdictApplied toStatus status busy destination =>
    rcases destination with rfl | rfl | ⟨rfl, left, firing⟩ <;> constructor <;>
      simp_all [Case.attempted]
  | verdictStale busy =>
    exact ⟨awaiting, inProgress, Nat.le_trans (Nat.sub_le _ _) verifying, attempted, room, stopped⟩

/-- An incident that is `VERIFYING` keeps its open verification, unless a verdict on it is not
applied. -/
theorem Step.verifying {limits : Limits} {c c' : Case} (step : Step limits c c')
    (coherent : RemediationsCoherent limits c)
    (one : c.status = some .verifying → c.openVerifications = 1) :
    (c'.status = some .verifying → c'.openVerifications = 1) ∨
      c'.openVerifications < c.openVerifications ∧ c'.status = some .verifying := by
  have shifted : ∀ {fromStatuses : List IncidentStatus} {toStatus : IncidentStatus},
      toStatus ≠ .verifying → shift fromStatuses toStatus c.status = some .verifying →
        c.openVerifications = 1 := by
    intro fromStatuses toStatus elsewhere after
    rcases shift_eq_some after with same | before
    · exact absurd same.symm elsewhere
    · exact one before
  cases step with
  | opened absent => left; simp
  | alertLinked status found isOpen => exact .inl one
  | alertEnded fired kept => exact .inl one
  | cancelled triaging last => left; simp
  | investigationRequested waiting firing idle => left; simp
  | investigationClosed toStatus destination busy =>
    exact .inl (shifted (by rcases destination with rfl | rfl <;> simp))
  | proposalRejected => exact .inl (shifted (by simp))
  | proposed n status found ready left move => exact .inl (shifted (by simp))
  | approved n move => exact .inl (shifted (by simp))
  | withdrawn p toStatus n before destination move =>
    exact .inl (shifted (by rcases destination with rfl | rfl <;> simp))
  | killed n move => exact .inl (shifted (by simp))
  | failed p n before move => exact .inl (shifted (by simp))
  | started n move => exact .inl one
  | executed n move =>
    left
    have status := coherent.status_of_inProgress (Nat.add_pos_right _ (move.pos (by simp)))
    have idle := coherent.verifying
    rw [status, if_neg (by simp)] at idle
    intro _
    show c.openVerifications + 1 = 1
    omega
  | verdictApplied toStatus verifying busy destination =>
    left
    rcases destination with rfl | rfl | ⟨rfl, _⟩ <;> simp
  | verdictStale busy =>
    by_cases verifying : c.status = some .verifying
    · exact .inr ⟨Nat.sub_lt busy Nat.one_pos, verifying⟩
    · exact .inl fun after => absurd after verifying

/-- Every step of an incident's life keeps the invariant. -/
theorem Step.coherent {limits : Limits} {c c' : Case} (remediable : limits.remediable = [.rcaReady])
    (step : Step limits c c') (coherent : Coherent limits c) : Coherent limits c' :=
  ⟨step.investigationsCoherent coherent.investigations,
    step.remediationsCoherent remediable coherent.remediations⟩

end IncidentTriage.Lifecycle
