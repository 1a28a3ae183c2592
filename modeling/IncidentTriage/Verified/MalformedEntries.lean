import IncidentTriage.Verified.Consumer

/-! # Entries that are no events

The envelope is read before the delivery count, outside of what `_handle_message` catches.
A batch of readable entries is handled to its end; the first entry that is not ends the
process, and stays pending: it is never acknowledged, and no dead letter is written of it.
-/

namespace IncidentTriage.Events

open IncidentTriage.Python

variable {settings : ConsumerSettings} {g : Group} {k : Nat} {c : Consumer}

/-! ## One pass over a batch -/

/-- The steps to the end of `_handle_message`, at most. -/
def HandlingStage.stepsLeft : HandlingStage → Nat
  | .undecided => 5
  | .ready => 4
  | .handling => 3
  | .handled | .deadLettering _ => 2
  | .duplicate | .marked | .deadLettered => 1

def handStepsLeft : Option Handling → Nat
  | some h => h.stage.stepsLeft
  | none => 0

/-- The steps to the end of a batch, at most. -/
def Consumer.stepsLeft (c : Consumer) : Nat := handStepsLeft c.hand + 6 * c.inbox.length

def isStepOf (k : Nat) : GroupEvent → Bool
  | .consumer other _ => other == k
  | .append _ => false

/-- The consumer goes on, and does not crash. -/
def GoesOn (k : Nat) (events : List GroupEvent) : Prop :=
  ∀ act, GroupEvent.consumer k act ∈ events → ∃ outcome, act = .advance outcome

/-- The messages a consumer takes in hand, in order. -/
def begunBy (settings : ConsumerSettings) (k : Nat) : Group → List GroupEvent → List Nat
  | _, [] => []
  | g, e :: events =>
    (match g.handOf k, (g.step settings e).handOf k with
      | none, some h => [h.messageId]
      | _, _ => []) ++ begunBy settings k (g.step settings e) events

/-- No envelope can be read from the entry. -/
def Group.Malformed (g : Group) (messageId : Nat) : Prop := g.entries[messageId]? = some none

theorem malformed_iff {m : Nat} :
    g.Malformed m ↔ (g.entries[m]?).any (fun entry => entry.isNone) = true := by
  unfold Group.Malformed
  rcases g.entries[m]? with _ | _ | event <;> simp

instance (g : Group) (m : Nat) : Decidable (g.Malformed m) := decidable_of_iff _ malformed_iff.symm

/-- Every message of the batch was taken in hand, one after the other, and the consumer is
through with them. -/
structure BatchHandled (settings : ConsumerSettings) (k : Nat) (g : Group) (c : Consumer)
    (events : List GroupEvent) : Prop where
  begun : begunBy settings k g events = c.inbox
  finished : (Machine.run (Group.step settings) g events).consumers[k]? =
    some { c with inbox := [], hand := none }

/-! ## What a step leaves alone -/

theorem act_entries (act : ConsumerAct) : (g.act settings k c act).entries = g.entries := by
  cases act with
  | crash => rfl
  | claim now ids next =>
    simp only [Group.act]
    split
    · split_ifs <;> rfl
    · rfl
  | read now =>
    simp only [Group.act]
    split <;> rfl
  | advance outcome =>
    simp only [Group.act]
    split
    · simp only [handleMessage]
      split
      case h_4 => split <;> rfl
      all_goals rfl
    · rfl
    · rfl

theorem step_entries (settings : ConsumerSettings) (g : Group) (e : GroupEvent) :
    ∃ more, (g.step settings e).entries = g.entries ++ more := by
  cases e with
  | append entry => exact ⟨[entry], rfl⟩
  | consumer consumer act =>
    refine ⟨[], ?_⟩
    rw [List.append_nil]
    simp only [Group.step]
    split
    · rfl
    · exact act_entries act

theorem Group.Malformed.step {m : Nat} (malformed : g.Malformed m) (e : GroupEvent) :
    (g.step settings e).Malformed m := by
  obtain ⟨more, entries⟩ := step_entries settings g e
  obtain ⟨present, _⟩ := List.getElem?_eq_some_iff.mp malformed
  rw [Malformed, entries, List.getElem?_append_left present]
  exact malformed

/-- An entry that is on the stream stays what it is. -/
theorem readable_step (settings : ConsumerSettings) {m : Nat} {event : OutboxEventEnvelope}
    (read : g.entries[m]? = some (some event)) (e : GroupEvent) :
    (g.step settings e).entries[m]? = some (some event) := by
  obtain ⟨more, entries⟩ := step_entries settings g e
  obtain ⟨present, _⟩ := List.getElem?_eq_some_iff.mp read
  rw [entries, List.getElem?_append_left present]
  exact read

/-- A step of something else leaves a consumer where it is. -/
theorem consumer_step_other (settings : ConsumerSettings) (stands : g.consumers[k]? = some c)
    {e : GroupEvent} (other : isStepOf k e = false) : (g.step settings e).consumers[k]? = some c := by
  cases e with
  | append entry => exact stands
  | consumer consumer act =>
    have ne : consumer ≠ k := by simpa [isStepOf] using other
    simp only [Group.step]
    cases row : g.consumers[consumer]? with
    | none => exact stands
    | some acting =>
      obtain ⟨_, _, _, _, _, became⟩ := act_moved settings row act
      obtain ⟨c', _, consumers⟩ := became.consumers
      simp only [consumers]
      rw [List.getElem?_set_ne ne]
      exact stands

/-! ## What a step of the consumer does to its batch -/

/-- The consumer after a step: it took a message in hand, or worked on the one it had. -/
theorem consumer_step_own (stands : g.consumers[k]? = some c) (outcome : HandlerOutcome)
    (readable : ∀ m ∈ c.inbox, ∃ event, g.entries[m]? = some (some event)) :
    ∃ c', (g.step settings (.consumer k (.advance outcome))).consumers[k]? = some c' ∧
      c'.turn = c.turn ∧ c'.stepsLeft ≤ c.stepsLeft - 1 ∧
      ((∃ m rest h, c.hand = none ∧ c.inbox = m :: rest ∧ c'.inbox = rest ∧ c'.hand = some h ∧
          h.messageId = m) ∨
        (c'.inbox = c.inbox ∧ (c.hand = none → c'.hand = none))) := by
  have put : ∀ (other : Group) (c' : Consumer), other.consumers = g.consumers →
      (other.put k c').consumers[k]? = some c' := by
    intro other c' same
    rw [Group.put, same]
    exact List.getElem?_set_self (Table.lt_of_row stands)
  obtain ⟨turn, inbox, hand⟩ := c
  cases hand with
  | none =>
    cases inbox with
    | nil =>
      refine ⟨_, ?_, rfl, ?_, .inr ⟨rfl, fun _ => rfl⟩⟩
      · simp only [Group.step, stands, Group.act]
      · exact Nat.zero_le _
    | cons m rest =>
      obtain ⟨event, read⟩ := readable m (by simp)
      have begun : beginMessage settings g { turn, inbox := m :: rest, hand := none } m rest =
          { turn, inbox := rest, hand := some ⟨m, event, firstStage settings g m⟩ } := by
        simp only [beginMessage, read, Option.join_some]
        rfl
      rw [step_beginMessage stands rfl rfl, begun]
      refine ⟨_, put g _ rfl, rfl, ?_, .inl ⟨m, rest, _, rfl, rfl, rfl, rfl, rfl⟩⟩
      -- a message has at most five steps after the one that begins it
      simp only [Consumer.stepsLeft, handStepsLeft, List.length_cons, firstStage]
      split <;> simp only [HandlingStage.stepsLeft] <;> omega
  | some h =>
    obtain ⟨messageId, event, stage⟩ := h
    rw [step_handleMessage stands rfl]
    cases stage with
    | undecided =>
      refine ⟨_, put g _ rfl, rfl, ?_, .inr ⟨rfl, fun free => by cases free⟩⟩
      simp only [Consumer.stepsLeft, handStepsLeft]
      split <;> simp only [HandlingStage.stepsLeft] <;> omega
    | handling =>
      cases outcome with
      | returned =>
        refine ⟨_, put _ _ rfl, rfl, ?_, .inr ⟨rfl, fun free => by cases free⟩⟩
        simp only [Consumer.stepsLeft, handStepsLeft, HandlingStage.stepsLeft]
        omega
      | permanentError error =>
        refine ⟨_, put g _ rfl, rfl, ?_, .inr ⟨rfl, fun free => by cases free⟩⟩
        simp only [Consumer.stepsLeft, handStepsLeft, HandlingStage.stepsLeft]
        omega
      | failed =>
        refine ⟨_, put g _ rfl, rfl, ?_, .inr ⟨rfl, fun _ => rfl⟩⟩
        simp only [Consumer.stepsLeft, handStepsLeft, HandlingStage.stepsLeft]
        omega
    | duplicate | marked | deadLettered =>
      refine ⟨_, put (g.ack messageId) _ rfl, rfl, ?_, .inr ⟨rfl, fun _ => rfl⟩⟩
      simp only [Consumer.stepsLeft, handStepsLeft, HandlingStage.stepsLeft]
      omega
    | ready | handled | deadLettering =>
      refine ⟨_, put _ _ rfl, rfl, ?_, .inr ⟨rfl, fun free => by cases free⟩⟩
      simp only [Consumer.stepsLeft, handStepsLeft, HandlingStage.stepsLeft]
      omega

theorem begunBy_cons (e : GroupEvent) (events : List GroupEvent) :
    begunBy settings k g (e :: events) =
      (match g.handOf k, (g.step settings e).handOf k with
        | none, some h => [h.messageId]
        | _, _ => []) ++ begunBy settings k (g.step settings e) events := rfl

/-- A step that leaves the hand as it was, or empties it, begins nothing. -/
theorem begunBy_quiet {e : GroupEvent} (events : List GroupEvent)
    (quiet : g.handOf k = none → (g.step settings e).handOf k = none) :
    begunBy settings k g (e :: events) = begunBy settings k (g.step settings e) events := by
  rw [begunBy_cons]
  cases before : g.handOf k with
  | none =>
    rw [quiet before]
    rfl
  | some h => rfl

theorem begunBy_begins {e : GroupEvent} {h : Handling} (events : List GroupEvent)
    (free : g.handOf k = none) (begins : (g.step settings e).handOf k = some h) :
    begunBy settings k g (e :: events) =
      h.messageId :: begunBy settings k (g.step settings e) events := by
  rw [begunBy_cons, free, begins]
  rfl

/-- A consumer that goes on handles a readable batch to its end. -/
theorem batchHandled_of_readable {events : List GroupEvent} (stands : g.consumers[k]? = some c)
    (goesOn : GoesOn k events) (enough : c.stepsLeft ≤ events.countP (isStepOf k))
    (readable : ∀ m ∈ c.inbox, ∃ event, g.entries[m]? = some (some event)) :
    BatchHandled settings k g c events := by
  induction events generalizing g c with
  | nil =>
    obtain ⟨turn, inbox, hand⟩ := c
    have done : handStepsLeft hand + 6 * inbox.length = 0 := Nat.le_zero.mp enough
    cases hand with
    | some h =>
      obtain ⟨messageId, event, stage⟩ := h
      cases stage <;> simp [handStepsLeft, HandlingStage.stepsLeft] at done
    | none =>
      have empty : inbox = [] := by
        cases inbox with
        | nil => rfl
        | cons m rest => simp [handStepsLeft] at done
      subst empty
      exact ⟨rfl, stands⟩
  | cons e events ih =>
    have later : GoesOn k events := fun act member => goesOn act (List.mem_cons_of_mem _ member)
    have still : ∀ c' : Consumer, (∀ m ∈ c'.inbox, m ∈ c.inbox) → ∀ m ∈ c'.inbox,
        ∃ event, (g.step settings e).entries[m]? = some (some event) := by
      intro c' among m member
      obtain ⟨event, read⟩ := readable m (among m member)
      exact ⟨event, readable_step settings read e⟩
    cases own : isStepOf k e with
    | false =>
      have stands' := consumer_step_other settings stands own
      rw [List.countP_cons_of_neg (by simp [own])] at enough
      obtain ⟨begun, finished⟩ := ih stands' later enough (still c fun m member => member)
      refine ⟨?_, finished⟩
      rw [begunBy_quiet events fun free => ?_]
      · exact begun
      · rw [handOf_eq stands']
        rw [handOf_eq stands] at free
        exact free
    | true =>
      rw [List.countP_cons_of_pos own] at enough
      cases e with
      | append entry => cases own
      | consumer consumer act =>
        obtain rfl : consumer = k := by simpa [isStepOf] using own
        obtain ⟨outcome, rfl⟩ := goesOn act List.mem_cons_self
        obtain ⟨c', stands', turn, less, step⟩ := consumer_step_own stands outcome readable
        have enough' : c'.stepsLeft ≤ events.countP (isStepOf consumer) := by omega
        rcases step with ⟨m, rest, h, free, inbox, inbox', hand, rfl⟩ | ⟨inbox, quiet⟩
        · obtain ⟨begun, finished⟩ := ih stands' later enough' (still c' fun other member => by
            rw [inbox, ← inbox']
            exact List.mem_cons_of_mem _ member)
          refine ⟨?_, ?_⟩
          · rw [begunBy_begins events (by rw [handOf_eq stands, free])
              (by rw [handOf_eq stands', hand]), begun, inbox, inbox']
          · rw [← turn]
            exact finished
        · obtain ⟨begun, finished⟩ := ih stands' later enough' (still c' fun other member => by
            rw [← inbox]
            exact member)
          refine ⟨?_, ?_⟩
          · rw [begunBy_quiet events fun free => ?_]
            · rw [begun, inbox]
            · rw [handOf_eq stands']
              rw [handOf_eq stands] at free
              exact quiet free
          · rw [← turn]
            exact finished

/-- A message comes into an empty hand only where its envelope is read. -/
theorem Moved.read_of_free {act : ConsumerAct} {letters : List DeadLetter} {consumed : List Uuid}
    {calls : List HandlerCall} {hand : Option Handling} {h : Handling}
    (moved : Moved settings g c act letters consumed calls hand) (free : c.hand = none)
    (comes : hand = some h) : (g.entries[h.messageId]?).join = some h.event := by
  have never : ∀ held, c.hand = some held → False := by
    intro held inHand
    rw [free] at inHand
    cases inHand
  cases moved with
  | waits => exact absurd comes (never h)
  | begins messageId inbox event outcome _ next read =>
    cases comes
    exact read
  | tests held _ inHand | starts held _ inHand | returns held inHand | rejects held _ inHand
    | records held _ inHand | buries held _ _ inHand => exact absurd inHand (never held)
  | _ => cases comes

theorem not_malformed_of_begins {e : GroupEvent} {h : Handling} (free : g.handOf k = none)
    (begins : (g.step settings e).handOf k = some h) : ¬ g.Malformed h.messageId := by
  have same : g.handOf k ≠ some h := by
    rw [free]
    exact nofun
  cases e with
  | append entry => exact absurd begins same
  | consumer consumer act =>
    simp only [Group.step] at begins
    cases stands : g.consumers[consumer]? with
    | none =>
      simp only [stands] at begins
      exact absurd begins same
    | some c =>
      simp only [stands] at begins
      obtain ⟨_, _, _, hand, moved, became⟩ := act_moved settings stands act
      rw [became.handOf stands] at begins
      split_ifs at begins with own
      · subst own
        rw [handOf_eq stands] at free
        have read := moved.read_of_free free begins
        intro malformed
        rw [Group.Malformed] at malformed
        rw [malformed] at read
        cases read
      · exact absurd begins same

/-- What a consumer takes in hand was never malformed. -/
theorem not_malformed_of_begun {events : List GroupEvent} {m : Nat}
    (begun : m ∈ begunBy settings k g events) : ¬ g.Malformed m := by
  induction events generalizing g with
  | nil => cases begun
  | cons e events ih =>
    rw [begunBy_cons, List.mem_append] at begun
    rcases begun with here | later
    · cases before : g.handOf k with
      | some h =>
        rw [before] at here
        cases here
      | none =>
        cases after : (g.step settings e).handOf k with
        | none =>
          rw [before, after] at here
          cases here
        | some h =>
          rw [before, after] at here
          obtain rfl := List.mem_singleton.mp here
          exact not_malformed_of_begins before after
    · exact fun malformed => ih later (malformed.step e)

/-! ## What a group keeps of an entry -/

/-- Every message in an inbox or in hand was delivered, one in hand has the envelope of its
entry, a malformed entry that was delivered is pending, and every dead letter is of an entry
that was read. -/
structure Retains (g : Group) : Prop where
  delivered : g.deliveries.length ≤ g.entries.length
  inboxes : ∀ c ∈ g.consumers, ∀ m ∈ c.inbox, m < g.deliveries.length
  hands : ∀ c ∈ g.consumers, ∀ h ∈ c.hand, g.entries[h.messageId]? = some (some h.event)
  pending : ∀ m, g.Malformed m → m < g.deliveries.length → (g.pendingEntry m).isSome
  letters : ∀ letter ∈ g.deadLetters, ∃ m : Nat, g.entries[m]? = some (some letter.event)

theorem Retains.put (sound : Retains g) {c : Consumer}
    (inbox : ∀ m ∈ c.inbox, m < g.deliveries.length)
    (hand : ∀ h ∈ c.hand, g.entries[h.messageId]? = some (some h.event)) :
    Retains (g.put k c) where
  delivered := sound.delivered
  inboxes := by
    intro other member
    rcases List.mem_or_eq_of_mem_set member with old | rfl
    · exact sound.inboxes other old
    · exact inbox
  hands := by
    intro other member
    rcases List.mem_or_eq_of_mem_set member with old | rfl
    · exact sound.hands other old
    · exact hand
  pending := sound.pending
  letters := sound.letters

/-- Only a message whose envelope was read is acknowledged. -/
theorem Retains.ack (sound : Retains g) {m : Nat} {event : OutboxEventEnvelope}
    (read : g.entries[m]? = some (some event)) : Retains (g.ack m) where
  delivered := by
    rw [Group.ack, List.length_set]
    exact sound.delivered
  inboxes := by
    rw [Group.ack, List.length_set]
    exact sound.inboxes
  hands := sound.hands
  pending := by
    intro other malformed delivered
    have ne : m ≠ other := by
      rintro rfl
      rw [Group.Malformed] at malformed
      rw [show g.entries[m]? = some none from malformed] at read
      cases read
    rw [Group.ack, List.length_set] at delivered
    rw [Group.pendingEntry, Group.ack, List.getElem?_set_ne ne]
    exact sound.pending other malformed delivered
  letters := sound.letters

theorem Retains.deadLetter (sound : Retains g) {m : Nat} (letter : DeadLetter)
    (read : g.entries[m]? = some (some letter.event)) : Retains (g.deadLetter letter) where
  delivered := sound.delivered
  inboxes := sound.inboxes
  hands := sound.hands
  pending := sound.pending
  letters := by
    intro other member
    rcases List.mem_append.mp member with old | new
    · exact sound.letters other old
    · obtain rfl := List.mem_singleton.mp new
      exact ⟨m, read⟩

theorem length_redeliver (now : Time) (deliveries : List (Option PendingEntry)) (ids : List Nat) :
    (redeliver now deliveries ids).length = deliveries.length := by
  induction ids generalizing deliveries with
  | nil => rfl
  | cons id ids ih => exact (ih _).trans (List.length_modify ..)

/-- A claim leaves what is pending pending. -/
theorem isSome_redeliver (now : Time) {deliveries : List (Option PendingEntry)} (ids : List Nat)
    {m : Nat} (pending : (deliveries[m]?).join.isSome) :
    ((redeliver now deliveries ids)[m]?).join.isSome := by
  induction ids generalizing deliveries with
  | nil => exact pending
  | cons id ids ih =>
    refine ih ?_
    rw [List.getElem?_modify]
    cases row : deliveries[m]? with
    | none =>
      rw [row] at pending
      cases pending
    | some entry =>
      rw [row] at pending
      cases entry with
      | none => cases pending
      | some entry => by_cases same : id = m <;> simp [same]

theorem Retains.redeliver (sound : Retains g) (now : Time) (ids : List Nat) :
    Retains { g with deliveries := redeliver now g.deliveries ids } where
  delivered := by
    rw [length_redeliver]
    exact sound.delivered
  inboxes := by
    rw [length_redeliver]
    exact sound.inboxes
  hands := sound.hands
  pending := by
    intro m malformed delivered
    rw [length_redeliver] at delivered
    exact isSome_redeliver now ids (sound.pending m malformed delivered)
  letters := sound.letters

theorem Retains.deliver (sound : Retains g) (pending : PendingEntry) {n : Nat}
    (room : g.deliveries.length + n ≤ g.entries.length) :
    Retains { g with deliveries := g.deliveries ++ List.replicate n (some pending) } where
  delivered := by
    rw [List.length_append, List.length_replicate]
    exact room
  inboxes := by
    intro c member m waits
    rw [List.length_append]
    exact (sound.inboxes c member m waits).trans_le (Nat.le_add_right _ _)
  hands := sound.hands
  pending := by
    intro m malformed delivered
    rw [Group.pendingEntry]
    by_cases old : m < g.deliveries.length
    · rw [List.getElem?_append_left old]
      exact sound.pending m malformed old
    · rw [List.length_append, List.length_replicate] at delivered
      rw [List.getElem?_append_right (by omega), List.getElem?_replicate_of_lt (by omega)]
      rfl
  letters := sound.letters

theorem newIds_lt {m : Nat} (new : m ∈ newIds settings g) :
    m < g.deliveries.length + (newIds settings g).length := by
  unfold newIds at new ⊢
  rw [List.length_take, List.length_range']
  obtain ⟨i, within, rfl⟩ := List.getElem_of_mem new
  rw [List.length_take, List.length_range'] at within
  rw [List.getElem_take, List.getElem_range']
  omega

theorem length_newIds_le (settings : ConsumerSettings) (g : Group) :
    (newIds settings g).length ≤ g.entries.length - g.deliveries.length := by
  unfold newIds
  rw [List.length_take, List.length_range']
  exact Nat.min_le_right _ _

theorem lt_of_claimable {now : Time} {cursor m : Nat} {ids : List Nat}
    (claim : claimable settings g now cursor ids = true) (member : m ∈ ids) :
    m < g.deliveries.length := by
  unfold claimable at claim
  simp only [Bool.and_eq_true, List.all_eq_true] at claim
  obtain ⟨_, idle⟩ := claim.2 m member
  cases pending : g.pendingEntry m with
  | none =>
    rw [pending] at idle
    cases idle
  | some entry =>
    exact Table.lt_of_row (Option.join_eq_some_iff.mp pending)

theorem Retains.call (sound : Retains g) (call : HandlerCall) : Retains (g.call call) :=
  ⟨sound.delivered, sound.inboxes, sound.hands, sound.pending, sound.letters⟩

theorem Retains.markEventConsumed (sound : Retains g) (event : Uuid) :
    Retains (markEventConsumed g event) :=
  ⟨sound.delivered, sound.inboxes, sound.hands, sound.pending, sound.letters⟩

/-- A consumer with an empty hand, and less in its inbox. -/
theorem Retains.putFree (sound : Retains g) {turn : Turn} {inbox : List Nat}
    (among : ∀ m ∈ inbox, m < g.deliveries.length) :
    Retains (g.put k { turn, inbox, hand := none }) :=
  sound.put among fun h inHand => absurd inHand (Option.not_mem_none h)

theorem Retains.act (sound : Retains g) (stands : g.consumers[k]? = some c) (act : ConsumerAct) :
    Retains (g.act settings k c act) := by
  have member := List.mem_of_getElem? stands
  have inbox := sound.inboxes c member
  have hand := sound.hands c member
  cases act with
  | crash => exact sound.putFree fun m among => absurd among List.not_mem_nil
  | claim now ids next =>
    simp only [Group.act]
    split
    · next cursor turn free empty =>
      split_ifs with claims
      · refine (sound.redeliver now ids).put (fun m among => ?_) hand
        rw [length_redeliver]
        exact lt_of_claimable claims among
      · exact sound
    · exact sound
  | read now =>
    simp only [Group.act]
    split
    · refine (sound.deliver _ ?room).put (fun m among => ?_) hand
      case room =>
        have := length_newIds_le settings g
        have := sound.delivered
        omega
      rw [List.length_append, List.length_replicate]
      exact newIds_lt among
    · exact sound
  | advance outcome =>
    obtain ⟨turn, waiting, inHand⟩ := c
    cases inHand with
    | none =>
      cases waiting with
      | nil => exact sound
      | cons m rest =>
        simp only [Group.act, beginMessage]
        split
        · exact sound.putFree fun m among => absurd among List.not_mem_nil
        · next event read =>
          refine sound.put (fun other among => inbox other (List.mem_cons_of_mem _ among)) ?_
          rintro h ⟨⟩
          exact Option.join_eq_some_iff.mp read
    | some h =>
      have read := hand h rfl
      have keeps : ∀ stage, ∀ h' ∈ (some { h with stage } : Option Handling),
          g.entries[h'.messageId]? = some (some h'.event) := by
        rintro stage h' ⟨⟩
        exact read
      obtain ⟨messageId, event, stage⟩ := h
      simp only [Group.act, handleMessage]
      cases stage with
      | undecided => exact sound.put inbox (keeps _)
      | handling =>
        cases outcome with
        | returned => exact (sound.call _).put inbox (keeps _)
        | permanentError error => exact sound.put inbox (keeps _)
        | failed => exact sound.putFree inbox
      | ready => exact (sound.call _).put inbox (keeps _)
      | handled => exact (sound.markEventConsumed _).put inbox (keeps _)
      | deadLettering reason =>
        exact (sound.deadLetter { event, reason } read).put inbox (keeps _)
      | duplicate | marked | deadLettered =>
        refine (sound.ack read).putFree fun m among => ?_
        rw [Group.ack, List.length_set]
        exact inbox m among

theorem Retains.step (sound : Retains g) (e : GroupEvent) : Retains (g.step settings e) := by
  cases e with
  | consumer consumer act =>
    simp only [Group.step]
    cases stands : g.consumers[consumer]? with
    | none => exact sound
    | some c => exact sound.act stands act
  | append entry =>
    -- an entry that is new is not delivered yet
    refine ⟨?_, sound.inboxes, ?_, ?_, ?_⟩
    · simp only [Group.step, List.length_append]
      exact sound.delivered.trans (Nat.le_add_right _ _)
    · intro c member h inHand
      exact readable_step settings (sound.hands c member h inHand) (.append entry)
    · intro m malformed delivered
      have old : m < g.entries.length := delivered.trans_le sound.delivered
      rw [Group.Malformed, show (g.step settings (.append entry)).entries = g.entries ++ [entry] from
        rfl, List.getElem?_append_left old] at malformed
      exact sound.pending m malformed delivered
    · intro letter member
      obtain ⟨m, read⟩ := sound.letters letter member
      exact ⟨m, readable_step settings read (.append entry)⟩

theorem groupAfter_retains (settings : ConsumerSettings) (consumers : Nat)
    (events : List GroupEvent) : Retains (groupAfter settings consumers events) := by
  refine Machine.state_invariant ⟨Nat.le_refl _, ?_, ?_, ?_, ?_⟩ (fun g e sound => sound.step e) events
  · intro c member m waits
    rw [List.eq_of_mem_replicate member] at waits
    cases waits
  · intro c member h inHand
    rw [List.eq_of_mem_replicate member] at inHand
    cases inHand
  · exact fun m malformed => by cases malformed
  · exact fun letter member => by cases member

/-! ## Every run -/

/-- In every run: a consumer that goes on handles its batch, each message in its order,
exactly if no entry of it is malformed; an entry that is malformed stays pending for good
once it is delivered, and no dead letter is of one. -/
theorem malformed_entries_block (settings : ConsumerSettings) (consumers : Nat)
    (events : List GroupEvent) :
    (∀ k c later, (groupAfter settings consumers events).consumers[k]? = some c →
      GoesOn k later → c.stepsLeft ≤ later.countP (isStepOf k) →
        (BatchHandled settings k (groupAfter settings consumers events) c later ↔
          ∀ m ∈ c.inbox, ¬ (groupAfter settings consumers events).Malformed m)) ∧
    (∀ m, (groupAfter settings consumers events).Malformed m →
      m < (groupAfter settings consumers events).deliveries.length →
        ((groupAfter settings consumers events).pendingEntry m).isSome) ∧
    ∀ letter ∈ (groupAfter settings consumers events).deadLetters, ∃ m : Nat,
      (groupAfter settings consumers events).entries[m]? = some (some letter.event) := by
  have sound := groupAfter_retains settings consumers events
  refine ⟨fun k c later stands goesOn enough => ⟨fun handled m member => ?_, fun readable => ?_⟩,
    sound.pending, sound.letters⟩
  · rw [← handled.begun] at member
    exact not_malformed_of_begun member
  · refine batchHandled_of_readable stands goesOn enough fun m member => ?_
    have present : m < (groupAfter settings consumers events).entries.length :=
      (sound.inboxes c (List.mem_of_getElem? stands) m member).trans_le sound.delivered
    obtain ⟨entry, row⟩ : ∃ entry, (groupAfter settings consumers events).entries[m]? =
        some entry := ⟨_, List.getElem?_eq_getElem present⟩
    cases entry with
    | none => exact absurd row (readable m member)
    | some event => exact ⟨event, row⟩

/-- A stream with these entries, all of them handed to the consumer. -/
def batchOf (entries : List (Option OutboxEventEnvelope)) : List GroupEvent :=
  entries.map .append ++ [.consumer 0 (.claim 1 [] none), .consumer 0 (.read 2)]

def receivedEvent (eventId : Uuid) : OutboxEventEnvelope :=
  ⟨eventId, "AlertReceived", .alert, 0, some 7, .alertReceived 0 "f" .prometheus 7, 0⟩

/-- The consumer makes so many steps, and every handler call returns. -/
def consumerSteps (n : Nat) : List GroupEvent :=
  List.replicate n (.consumer 0 (.advance .returned))

theorem goesOn_consumerSteps (n : Nat) : GoesOn 0 (consumerSteps n) := by
  intro act member
  cases List.eq_of_mem_replicate member
  exact ⟨.returned, rfl⟩

/-- Two entries, one after the other. -/
theorem malformed_entries_block_readable :
    ∃ c, (groupAfter {} 1 (batchOf [some (receivedEvent 4), some (receivedEvent 5)])).consumers[0]? =
        some c ∧
      BatchHandled {} 0 (groupAfter {} 1 (batchOf [some (receivedEvent 4), some (receivedEvent 5)]))
        c (consumerSteps 12) := by
  refine ⟨_, rfl, ((malformed_entries_block {} 1 _).1 0 _ (consumerSteps 12) rfl
    (goesOn_consumerSteps 12) (by decide +kernel)).mpr (by decide +kernel)⟩

/-- The entry after a malformed one is not handled in the pass, and the malformed one is not
retired by its seventh delivery. -/
theorem not_malformed_entries_block :
    ¬ ∀ (settings : ConsumerSettings) (consumers : Nat) (events : List GroupEvent),
      (∀ k c later, (groupAfter settings consumers events).consumers[k]? = some c →
        GoesOn k later → c.stepsLeft ≤ later.countP (isStepOf k) →
          ∀ m ∈ c.inbox, ¬ (groupAfter settings consumers events).Malformed m →
            m ∈ begunBy settings k (groupAfter settings consumers events) later) ∧
      ∀ m pending, (groupAfter settings consumers events).Malformed m →
        (groupAfter settings consumers events).pendingEntry m = some pending →
          (pending.timesDelivered : Int) ≤ settings.maxDeliveries + 1 := by
  intro retired
  have begun := (retired {} 1 (batchOf [none, some (receivedEvent 4)])).1 0 _ (consumerSteps 12)
    rfl (goesOn_consumerSteps 12) (by decide +kernel) 1 (by decide +kernel) (by decide +kernel)
  exact absurd begun (by decide +kernel)

end IncidentTriage.Events
