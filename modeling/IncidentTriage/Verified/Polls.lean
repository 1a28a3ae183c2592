import Mathlib.Data.List.DropRight
import IncidentTriage.Verified.Transactions

/-! # The polls of a verification

`PollMove` is the life of one verification together with its observations: it starts,
is claimed for a poll, records the poll's observation, and reaches its verdict.  What
every move preserves (`PollSound`) relates the counters of the row to the observations
and every observation to the claim it was recorded under; `PollsSound` carries it over
the transactions of the system, with the tickets handed out so far.
-/

namespace IncidentTriage.Verified

open IncidentTriage.Python IncidentTriage.Domain IncidentTriage.Incident
open Relation (ReflTransGen)

/-- The observations of a verification, in the order they were recorded. -/
def observationsOf (s : Store) (id : Uuid) : List VerificationObservationRow :=
  s.verification.observations.filter (fun o => o.verificationId == id)

/-- A verification with its observations. -/
structure Polls where
  row : VerificationRow
  observations : List VerificationObservationRow

def pollsOf (s : Store) (id : Uuid) (row : VerificationRow) : Polls :=
  { row, observations := observationsOf s id }

inductive PollMove (now : Time) (tickets : List IssuedTicket) (id : Uuid) : Polls → Polls → Prop
  | started (s : Store) (row : VerificationRow) (observations : List VerificationObservationRow)
      (pending : row.status = .pending) :
      PollMove now tickets id ⟨row, observations⟩ ⟨row.started s now, observations⟩
  | claimed (row : VerificationRow) (observations : List VerificationObservationRow)
      (owner : String) (leaseSeconds : ℚ) (running : row.status = .running) :
      PollMove now tickets id ⟨row, observations⟩
        ⟨row.claimed now owner leaseSeconds, observations⟩
  | observed (row : VerificationRow) (observations : List VerificationObservationRow)
      (issued : IssuedTicket) (o : VerificationObservationRow) (result : ObservationResult)
      (handedOut : issued ∈ tickets) (ofTicket : issued.ticket.verificationId = id)
      (running : row.status = .running) (leased : row.leaseOwner.isSome = true)
      (claim : row.claimAttempt = issued.ticket.claimAttempt)
      (sequence : o.sequence = row.observationCount + 1)
      (claimAttempt : o.claimAttempt = issued.ticket.claimAttempt)
      (passed : o.passed = result.passed) (conclusive : o.conclusive = result.conclusive)
      (consistent : result.passed = true → result.conclusive = true) :
      PollMove now tickets id ⟨row, observations⟩
        ⟨row.observed now issued.ticket.spec result, observations ++ [o]⟩
  | closed (row row' : VerificationRow) (observations : List VerificationObservationRow)
      (status : VerificationStatus) (spec : VerificationSpec)
      (running : row.status = .running) (closed : Closed row row' status)
      (verdict : status ≠ .pending ∧ status ≠ .running)
      (judged : spec = row.spec ∨
        ∃ issued ∈ tickets, issued.ticket.verificationId = id ∧ issued.ticket.spec = spec)
      (enough : status = .passed → spec.requiredConsecutive ≤ row.consecutiveSuccesses) :
      PollMove now tickets id ⟨row, observations⟩ ⟨row', observations⟩

/-! ## What a move preserves -/

/-- A ticket that was handed out, and the verification it is for. -/
structure TicketHeld (clock : Time) (issued : IssuedTicket) (row : VerificationRow) : Prop where
  begun : row.status ≠ .pending
  spec : issued.ticket.spec = row.spec
  claim : issued.ticket.claimAttempt ≤ row.claimAttempt
  grace : ∃ graceUntil, row.graceUntil = some graceUntil ∧ graceUntil ≤ issued.claimedAt
  past : issued.claimedAt ≤ clock

structure PollSound (clock : Time) (tickets : List IssuedTicket) (id : Uuid) (p : Polls) :
    Prop where
  sequences : p.observations.map (·.sequence) = List.range' 1 p.row.observationCount
  conclusive : p.row.conclusiveCount = p.observations.countP (·.conclusive)
  streak : p.row.consecutiveSuccesses = (p.observations.rtakeWhile (·.passed)).length
  consistent : ∀ o ∈ p.observations, o.passed = true → o.conclusive = true
  increasing : (p.observations.map (·.claimAttempt)).Pairwise (· < ·)
  claimed : ∀ o ∈ p.observations, o.claimAttempt ≤ p.row.claimAttempt
  leased : p.row.leaseOwner.isSome = true →
    ∀ o ∈ p.observations, o.claimAttempt < p.row.claimAttempt
  recorded : ∀ o ∈ p.observations, ∃ issued ∈ tickets,
    issued.ticket.verificationId = id ∧ issued.ticket.claimAttempt = o.claimAttempt
  held : ∀ issued ∈ tickets, issued.ticket.verificationId = id → TicketHeld clock issued p.row
  interval : 0 ≤ p.row.spec.pollIntervalSeconds
  paced : p.row.status = .running → ∃ graceUntil nextPollAt,
    p.row.graceUntil = some graceUntil ∧ p.row.nextPollAt = some nextPollAt ∧
      graceUntil ≤ nextPollAt
  earned : p.row.status = .passed → p.row.spec.requiredConsecutive ≤ p.row.consecutiveSuccesses

theorem PollMove.started_sound {now : Time} {tickets : List IssuedTicket} {id : Uuid} {s : Store}
    {row : VerificationRow} {observations : List VerificationObservationRow}
    (pending : row.status = .pending) (sound : PollSound now tickets id ⟨row, observations⟩) :
    PollSound now tickets id ⟨row.started s now, observations⟩ where
  sequences := sound.sequences
  conclusive := sound.conclusive
  streak := sound.streak
  consistent := sound.consistent
  increasing := sound.increasing
  claimed := sound.claimed
  leased := sound.leased
  recorded := sound.recorded
  held issued handedOut ofTicket := absurd pending (sound.held issued handedOut ofTicket).begun
  interval := sound.interval
  paced _ := ⟨_, _, rfl, rfl, le_refl _⟩
  earned passed := by cases passed

theorem PollMove.claimed_sound {now : Time} {tickets : List IssuedTicket} {id : Uuid}
    {row : VerificationRow} {observations : List VerificationObservationRow} {owner : String}
    {leaseSeconds : ℚ} (running : row.status = .running)
    (sound : PollSound now tickets id ⟨row, observations⟩) :
    PollSound now tickets id ⟨row.claimed now owner leaseSeconds, observations⟩ where
  sequences := sound.sequences
  conclusive := sound.conclusive
  streak := sound.streak
  consistent := sound.consistent
  increasing := sound.increasing
  claimed o member := Nat.le_succ_of_le (sound.claimed o member)
  leased _ o member := Nat.lt_succ_of_le (sound.claimed o member)
  recorded := sound.recorded
  held issued handedOut ofTicket := by
    obtain ⟨begun, spec, claim, grace, past⟩ := sound.held issued handedOut ofTicket
    exact ⟨begun, spec, Nat.le_succ_of_le claim, grace, past⟩
  interval := sound.interval
  paced _ := sound.paced running
  earned passed := sound.earned passed

theorem PollMove.observed_sound {now : Time} {tickets : List IssuedTicket} {id : Uuid}
    {row : VerificationRow} {observations : List VerificationObservationRow}
    {issued : IssuedTicket} {o : VerificationObservationRow} {result : ObservationResult}
    (handedOut : issued ∈ tickets) (ofTicket : issued.ticket.verificationId = id)
    (running : row.status = .running) (leased : row.leaseOwner.isSome = true)
    (claim : row.claimAttempt = issued.ticket.claimAttempt)
    (sequence : o.sequence = row.observationCount + 1)
    (claimAttempt : o.claimAttempt = issued.ticket.claimAttempt)
    (passed : o.passed = result.passed) (conclusive : o.conclusive = result.conclusive)
    (consistent : result.passed = true → result.conclusive = true)
    (sound : PollSound now tickets id ⟨row, observations⟩) :
    PollSound now tickets id
      ⟨row.observed now issued.ticket.spec result, observations ++ [o]⟩ where
  sequences := by
    have before : observations.map (·.sequence) = List.range' 1 row.observationCount :=
      sound.sequences
    show (observations ++ [o]).map (·.sequence) = List.range' 1 (row.observationCount + 1)
    rw [List.map_append, before, List.range'_concat]
    simp [sequence, Nat.add_comm]
  conclusive := by
    have before : row.conclusiveCount = observations.countP (·.conclusive) := sound.conclusive
    show row.conclusiveCount + _ = (observations ++ [o]).countP (·.conclusive)
    rw [List.countP_append, before]
    simp [conclusive]
  streak := by
    have before : row.consecutiveSuccesses = (observations.rtakeWhile (·.passed)).length :=
      sound.streak
    show (if result.passed then row.consecutiveSuccesses + 1 else 0) =
      ((observations ++ [o]).rtakeWhile (·.passed)).length
    rw [List.rtakeWhile_concat, passed]
    split_ifs with held
    · simp [before]
    · rfl
  consistent o' member := by
    rcases List.mem_append.mp member with old | new
    · exact sound.consistent o' old
    · obtain rfl := List.mem_singleton.mp new
      rw [passed, conclusive]
      exact consistent
  increasing := by
    -- the row is leased, so every earlier observation has an earlier claim
    have earlier : ∀ o' ∈ observations, o'.claimAttempt < row.claimAttempt := sound.leased leased
    have before : (observations.map (·.claimAttempt)).Pairwise (· < ·) := sound.increasing
    show ((observations ++ [o]).map (·.claimAttempt)).Pairwise (· < ·)
    rw [List.map_append, List.pairwise_append]
    refine ⟨before, by simp, ?_⟩
    intro a old b new
    obtain ⟨o', member, rfl⟩ := List.mem_map.mp old
    simp only [List.map_cons, List.map_nil, List.mem_singleton] at new
    rw [new, claimAttempt, ← claim]
    exact earlier o' member
  claimed o' member := by
    rcases List.mem_append.mp member with old | new
    · exact sound.claimed o' old
    · obtain rfl := List.mem_singleton.mp new
      exact (claimAttempt.trans claim.symm).le
  leased held := by cases held
  recorded o' member := by
    rcases List.mem_append.mp member with old | new
    · exact sound.recorded o' old
    · obtain rfl := List.mem_singleton.mp new
      exact ⟨issued, handedOut, ofTicket, claimAttempt.symm⟩
  held other among ofOther := by
    obtain ⟨begun, spec, older, grace, past⟩ := sound.held other among ofOther
    exact ⟨begun, spec, older, grace, past⟩
  interval := sound.interval
  paced _ := by
    obtain ⟨_, spec, _, ⟨graceUntil, grace, waited⟩, past⟩ := sound.held issued handedOut ofTicket
    refine ⟨graceUntil, now + seconds issued.ticket.spec.pollIntervalSeconds, grace, rfl, ?_⟩
    have interval : 0 ≤ seconds issued.ticket.spec.pollIntervalSeconds := by
      rw [spec]
      exact seconds_nonneg sound.interval
    exact le_trans (le_trans waited past) (le_add_of_nonneg_right interval)
  earned reached := by
    have stillRunning : row.status = .passed := reached
    rw [running] at stillRunning
    cases stillRunning

theorem PollMove.closed_sound {now : Time} {tickets : List IssuedTicket} {id : Uuid}
    {row row' : VerificationRow} {observations : List VerificationObservationRow}
    {status : VerificationStatus} {spec : VerificationSpec}
    (closed : Closed row row' status) (verdict : status ≠ .pending ∧ status ≠ .running)
    (judged : spec = row.spec ∨
      ∃ issued ∈ tickets, issued.ticket.verificationId = id ∧ issued.ticket.spec = spec)
    (enough : status = .passed → spec.requiredConsecutive ≤ row.consecutiveSuccesses)
    (sound : PollSound now tickets id ⟨row, observations⟩) :
    PollSound now tickets id ⟨row', observations⟩ where
  sequences := by
    show _ = List.range' 1 row'.observationCount
    rw [closed.observationCount]
    exact sound.sequences
  conclusive := closed.conclusiveCount.trans sound.conclusive
  streak := closed.consecutiveSuccesses.trans sound.streak
  consistent := sound.consistent
  increasing := sound.increasing
  claimed o member := by
    show o.claimAttempt ≤ row'.claimAttempt
    rw [closed.claimAttempt]
    exact sound.claimed o member
  leased held := by
    replace held : row'.leaseOwner.isSome = true := held
    rw [closed.leaseOwner] at held
    cases held
  recorded := sound.recorded
  held issued handedOut ofTicket := by
    obtain ⟨_, sameSpec, claim, ⟨graceUntil, grace, waited⟩, past⟩ :=
      sound.held issued handedOut ofTicket
    refine ⟨?_, sameSpec.trans closed.same.spec.symm, ?_, ⟨graceUntil, ?_, waited⟩, past⟩
    · rw [closed.status]
      exact verdict.1
    · rw [closed.claimAttempt]
      exact claim
    · exact closed.graceUntil.trans grace
  interval := by
    show 0 ≤ row'.spec.pollIntervalSeconds
    rw [closed.same.spec]
    exact sound.interval
  paced running := absurd (closed.status.symm.trans running) verdict.2
  earned passed := by
    show row'.spec.requiredConsecutive ≤ row'.consecutiveSuccesses
    have decided := enough (closed.status.symm.trans passed)
    rw [closed.same.spec, closed.consecutiveSuccesses]
    rcases judged with rfl | ⟨issued, handedOut, ofTicket, rfl⟩
    · exact decided
    · rwa [(sound.held issued handedOut ofTicket).spec] at decided

theorem PollMove.sound {now : Time} {tickets : List IssuedTicket} {id : Uuid} {p p' : Polls}
    (move : PollMove now tickets id p p') (sound : PollSound now tickets id p) :
    PollSound now tickets id p' := by
  cases move with
  | started s row observations pending => exact PollMove.started_sound pending sound
  | claimed row observations owner leaseSeconds running => exact PollMove.claimed_sound running sound
  | observed row observations issued o result handedOut ofTicket running leased claim sequence
      claimAttempt passed conclusive consistent =>
    exact PollMove.observed_sound handedOut ofTicket running leased claim sequence claimAttempt
      passed conclusive consistent sound
  | closed row row' observations status spec running closed verdict judged enough =>
    exact PollMove.closed_sound closed verdict judged enough sound

/-! ## What the system preserves -/

/-- Every verification is sound with the tickets handed out so far, and nothing is on
record about a verification that does not exist. -/
structure PollsSound (clock : Time) (tickets : List IssuedTicket) (s : Store) : Prop where
  each : Table.Every (fun id row => PollSound clock tickets id (pollsOf s id row))
    s.verification.verifications
  tickets : ∀ issued ∈ tickets, issued.ticket.verificationId < s.verification.verifications.length
  observations : ∀ o ∈ s.verification.observations,
    o.verificationId < s.verification.verifications.length

theorem PollsSound.of_same {now : Time} {tickets : List IssuedTicket} {s s' : Store}
    (sound : PollsSound now tickets s) (same : s'.verification = s.verification) :
    PollsSound now tickets s' := by
  obtain ⟨each, known, about⟩ := sound
  refine ⟨?_, by rwa [same], by rwa [same]⟩
  simp only [pollsOf, observationsOf, same]
  exact each

/-- One verification moves, with what it records; the others keep their observations. -/
theorem PollsSound.put {now : Time} {tickets : List IssuedTicket} {s s' : Store} {id : Uuid}
    {row row' : VerificationRow} (sound : PollsSound now tickets s)
    (new : List VerificationObservationRow)
    (found : s.verification.verifications[id]? = some row)
    (verifications : s'.verification.verifications = s.verification.verifications.set id row')
    (observations : s'.verification.observations = s.verification.observations ++ new)
    (ofId : ∀ o ∈ new, o.verificationId = id)
    (moves : ReflTransGen (PollMove now tickets id) (pollsOf s id row)
      ⟨row', observationsOf s id ++ new⟩) : PollsSound now tickets s' := by
  obtain ⟨each, known, about⟩ := sound
  have here : observationsOf s' id = observationsOf s id ++ new := by
    have all : new.filter (fun o => o.verificationId == id) = new :=
      List.filter_eq_self.mpr fun o member => by simp [ofId o member]
    simp only [observationsOf, observations, List.filter_append, all]
  have elsewhere : ∀ j, j ≠ id → observationsOf s' j = observationsOf s j := by
    intro j other
    have none : new.filter (fun o => o.verificationId == j) = [] :=
      List.filter_eq_nil_iff.mpr fun o member => by simp [ofId o member, Ne.symm other]
    simp only [observationsOf, observations, List.filter_append, none, List.append_nil]
  refine ⟨fun j r member => ?_, fun issued handedOut => ?_, fun o member => ?_⟩
  · rw [verifications] at member
    rcases (Table.get_put found).mp member with ⟨rfl, rfl⟩ | ⟨other, old⟩
    · have moved := Machine.preserved_of_path (P := PollSound now tickets j)
        (fun move => move.sound) moves (each j row found)
      rwa [pollsOf, here]
    · rw [pollsOf, elsewhere j other]
      exact each j r old
  · rw [verifications, List.length_set]
    exact known issued handedOut
  · rw [verifications, List.length_set]
    rw [observations] at member
    rcases List.mem_append.mp member with old | recorded
    · exact about o old
    · rw [ofId o recorded]
      exact Table.lt_of_row found

theorem Begun.pollMoves {s : Store} {now : Time} {row row₁ : VerificationRow}
    (begun : Begun s now row row₁) (tickets : List IssuedTicket) (id : Uuid)
    (observations : List VerificationObservationRow) :
    ReflTransGen (PollMove now tickets id) ⟨row, observations⟩ ⟨row₁, observations⟩ := by
  cases begun with
  | now pending => exact .single (.started s row observations pending)
  | before running => exact .refl

theorem RecordedPoll.pollMove {now : Time} {tickets : List IssuedTicket} {s : Store}
    {issued : IssuedTicket} {row row' : VerificationRow} {o : VerificationObservationRow}
    {result : ObservationResult}
    (recorded : RecordedPoll now s issued.ticket row row' o result) (handedOut : issued ∈ tickets)
    (observations : List VerificationObservationRow) :
    PollMove now tickets issued.ticket.verificationId ⟨row, observations⟩
      ⟨row', observations ++ [o]⟩ := by
  rw [recorded.after]
  have leased : row.leaseOwner.isSome = true := by rw [recorded.owner]; rfl
  exact .observed row observations issued o result handedOut rfl recorded.running leased
    recorded.claim recorded.sequence recorded.claimAttempt recorded.passed recorded.conclusive
    recorded.consistent

theorem VerificationStep.pollsSound {env : Env} {now : Time} {tickets : List IssuedTicket}
    {c : Command} {s s' : Store} (step : VerificationStep env now tickets c s s')
    (sound : PollsSound now tickets s) : PollsSound now tickets s' := by
  cases step.effect with
  | started id row found pending incidents tables =>
    refine sound.put [] found (congrArg VerificationTables.verifications tables)
      (by simp [tables]) (by simp) ?_
    rw [List.append_nil]
    exact .single (.started s row _ pending)
  | claimed id row row₁ owner leaseSeconds command found begun due incidents tables =>
    refine sound.put [] found (congrArg VerificationTables.verifications tables)
      (by simp [tables]) (by simp) ?_
    rw [List.append_nil]
    exact (begun.pollMoves tickets id _).tail (.claimed row₁ _ owner leaseSeconds begun.running)
  | closed id row row₁ row' decision found begun late decided verdict closed effect tables =>
    refine sound.put [] found (congrArg VerificationTables.verifications tables)
      (by simp [tables]) (by simp) ?_
    rw [List.append_nil]
    refine (begun.pollMoves tickets id _).tail
      (.closed row₁ row' _ decision.status row₁.spec begun.running closed verdict (.inl rfl) ?_)
    intro passed
    rw [decided] at passed
    exact decide_passed passed
  | observed position issued sample evidenceIds observedAt row row' o result links command held
      recorded incidents tables =>
    refine sound.put [o] recorded.found (congrArg VerificationTables.verifications tables)
      (congrArg VerificationTables.observations tables) (by simp [recorded.verificationId]) ?_
    exact .single (recorded.pollMove (List.mem_of_getElem? held) _)
  | decided position issued sample evidenceIds observedAt row row₁ row' o result links decision
      command held recorded decided verdict closed effect tables =>
    refine sound.put [o] recorded.found (congrArg VerificationTables.verifications tables)
      (congrArg VerificationTables.observations tables) (by simp [recorded.verificationId]) ?_
    have handedOut := List.mem_of_getElem? held
    have running : row₁.status = .running := by
      rw [recorded.after]
      exact recorded.running
    refine .tail (.single (recorded.pollMove handedOut _))
      (.closed row₁ row' _ decision.status issued.ticket.spec running closed verdict
        (.inr ⟨issued, handedOut, rfl, rfl⟩) ?_)
    intro passed
    rw [decided] at passed
    exact decide_passed passed

/-- A verification that was just requested has no observations and no tickets. -/
theorem PollsSound.request {now : Time} {tickets : List IssuedTicket} {s s' : Store} {id : Uuid}
    {row : RemediationRow} {v : VerificationRow} (sound : PollsSound now tickets s)
    (fresh : FreshVerification id row v)
    (verifications : s'.verification.verifications = s.verification.verifications ++ [v])
    (observations : s'.verification.observations = s.verification.observations) :
    PollsSound now tickets s' := by
  obtain ⟨each, known, about⟩ := sound
  have same : ∀ j, observationsOf s' j = observationsOf s j := by
    intro j
    rw [observationsOf, observations, observationsOf]
  have none : observationsOf s s.verification.verifications.length = [] := by
    refine List.filter_eq_nil_iff.mpr fun o member => ?_
    simp only [beq_iff_eq]
    exact Nat.ne_of_lt (about o member)
  refine ⟨?_, fun issued handedOut => ?_, fun o member => ?_⟩
  · rw [verifications]
    refine Table.Every.insert ?_ ?_
    · simpa only [pollsOf, same] using each
    · simp only [pollsOf, same, none]
      exact {
        sequences := by simp [fresh.observationCount]
        conclusive := by simp [fresh.conclusiveCount]
        streak := by simp [fresh.consecutiveSuccesses]
        consistent := by simp
        increasing := by simp
        claimed := by simp
        leased := by simp [fresh.leaseOwner]
        recorded := by simp
        held := fun issued handedOut ofTicket =>
          absurd (known issued handedOut) (by rw [ofTicket]; exact Nat.lt_irrefl _)
        interval := fresh.pollInterval
        paced := by simp [fresh.status]
        earned := by simp [fresh.status] }
  · rw [verifications, List.length_append]
    exact Nat.lt_add_right _ (known issued handedOut)
  · rw [verifications, List.length_append]
    rw [observations] at member
    exact Nat.lt_add_right _ (about o member)

theorem RemediationStep.pollsSound {env : Env} {now : Time} {tickets : List IssuedTicket}
    {c : Command} {s s' : Store} (step : RemediationStep env now c s s')
    (sound : PollsSound now tickets s) : PollsSound now tickets s' := by
  cases step.effect.verifications with
  | same verification => exact sound.of_same verification
  | requested _ _ _ _ fresh verifications observations =>
    exact sound.request fresh verifications observations

theorem Transaction.pollsSound {env : Env} {now : Time} {tickets : List IssuedTicket}
    {c : Command} {s s' : Store} (transaction : Transaction env now tickets c s s')
    (sound : PollsSound now tickets s) : PollsSound now tickets s' := by
  cases transaction with
  | alert step => exact sound.of_same step.verification
  | investigation step => exact sound.of_same step.verification
  | remediation step => exact step.pollsSound sound
  | verification step => exact step.pollsSound sound

/-! ## Runs -/

theorem PollsSound.later {clock now : Time} {tickets : List IssuedTicket} {s : Store}
    (sound : PollsSound clock tickets s) (later : clock ≤ now) : PollsSound now tickets s := by
  refine ⟨sound.each.imp fun id row _ each => ?_, sound.tickets, sound.observations⟩
  refine { each with held := fun issued handedOut ofTicket => ?_ }
  obtain ⟨begun, spec, claim, grace, past⟩ := each.held issued handedOut ofTicket
  exact ⟨begun, spec, claim, grace, le_trans past later⟩

/-- The claim that hands out a ticket leaves a row that holds it. -/
theorem PollsSound.issue {env : Env} {now : Time} {tickets : List IssuedTicket} {s s' : Store}
    {id : Uuid} {owner : String} {leaseSeconds : ℚ} {ticket : VerificationTicket}
    (done : claimDue env now s id owner leaseSeconds = .ok (some ticket, s'))
    (sound : PollsSound now tickets s') :
    PollsSound now (tickets ++ [{ ticket, claimedAt := now }]) s' := by
  obtain ⟨row, row₁, found, begun, due, rfl, spec, claim, verifications⟩ := claimDue_ticket done
  have inside := Table.lt_of_row found
  have after : s'.verification.verifications[ticket.verificationId]? =
      some (row₁.claimed now owner leaseSeconds) := by
    rw [verifications]
    exact (Table.get_put found).mpr (.inl ⟨rfl, rfl⟩)
  have running : (row₁.claimed now owner leaseSeconds).status = .running := begun.running
  refine ⟨fun j r member => ?_, fun issued handedOut => ?_, sound.observations⟩
  · have each := sound.each j r member
    refine { each with recorded := fun o listed => ?_, held := fun issued handedOut ofTicket => ?_ }
    · obtain ⟨issued, handedOut, rest⟩ := each.recorded o listed
      exact ⟨issued, List.mem_append_left _ handedOut, rest⟩
    · rcases List.mem_append.mp handedOut with old | new
      · exact each.held issued old ofTicket
      · obtain rfl := List.mem_singleton.mp new
        subst ofTicket
        obtain rfl : row₁.claimed now owner leaseSeconds = r :=
          Option.some.inj (after.symm.trans member)
        -- the poll was due, so the grace period is over
        obtain ⟨graceUntil, nextPollAt, grace, next, waited⟩ := each.paced running
        have reached : ¬ now < nextPollAt := by
          have poll : row₁.nextPollAt = some nextPollAt := next
          simpa [beforeNextPoll, poll] using due
        exact {
          begun := by rw [pollsOf, running]; simp
          spec
          claim := claim.le
          grace := ⟨graceUntil, grace, le_trans waited (not_lt.mp reached)⟩
          past := le_refl _ }
  · rcases List.mem_append.mp handedOut with old | new
    · exact sound.tickets issued old
    · obtain rfl := List.mem_singleton.mp new
      exact Table.lt_of_row after

theorem step_pollsSound (env : Env) {w : World} (e : Event)
    (sound : PollsSound w.clock w.tickets w.store) :
    PollsSound (step env w e).clock (step env w e).tickets (step env w e).store := by
  have later : w.clock ≤ w.clock + (e.elapsed : Int) := le_add_of_nonneg_right (Int.natCast_nonneg _)
  have executed : PollsSound (w.clock + e.elapsed) w.tickets
      (execute env (w.clock + e.elapsed) w.tickets w.store e.command) :=
    Machine.preserved_of_path (P := PollsSound (w.clock + e.elapsed) w.tickets)
      (fun transaction => transaction.pollsSound)
      (execute_path env (w.clock + e.elapsed) w.tickets w.store e.command) (sound.later later)
  show PollsSound (w.clock + e.elapsed)
    (w.tickets ++ issued env (w.clock + e.elapsed) w.store e.command) _
  cases command : e.command with
  | claimDue id owner leaseSeconds =>
    rw [command] at executed
    simp only [issued]
    split
    · rename_i ticket s' done
      rw [execute, done] at executed
      show PollsSound _ _ (execute env (w.clock + e.elapsed) w.tickets w.store e.command)
      rw [command, execute, done]
      exact PollsSound.issue done executed
    · rw [List.append_nil, Incident.step, command]
      exact executed
  | _ =>
    simp only [issued, List.append_nil]
    exact executed

theorem run_pollsSound (env : Env) (clock : Time) (events : List Event) :
    PollsSound (runFrom env clock events).clock (runFrom env clock events).tickets
      (runFrom env clock events).store :=
  Machine.state_invariant (P := fun w : World => PollsSound w.clock w.tickets w.store)
    ⟨Table.Every.nil, by simp [emptyWorld], by simp [emptyWorld]⟩
    (fun _ e sound => step_pollsSound env e sound) events

end IncidentTriage.Verified
