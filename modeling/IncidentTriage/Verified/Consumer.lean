import IncidentTriage.Events.Consumer
import IncidentTriage.Library.Tables

/-! # What the consumers of a group keep

`Moved` says what one act of a consumer does to the dead letters, the ledger, the
handler calls and the message it has in hand.  The delivery count, the ledger and the
handler are asked in separate steps: a recorded event is skipped, and a handler that
returned is not called again, as long as no other step falls where it would be missed.
-/

namespace IncidentTriage.Events

open IncidentTriage.Python

variable {settings : ConsumerSettings} {g : Group} {consumer : Nat} {c : Consumer}

/-! ## What an act does -/

/-- The stage a message begins in. -/
def firstStage (settings : ConsumerSettings) (g : Group) (messageId : Nat) : HandlingStage :=
  match classifyDelivery (deliveryCount g messageId) settings.maxDeliveries with
  | .poison => .deadLettering "max_deliveries_exceeded"
  | .process => .undecided

/-- Stages whose next step is the acknowledgement. -/
def HandlingStage.acknowledges : HandlingStage → Bool
  | .duplicate | .marked | .deadLettered => true
  | _ => false

/-- What an act of a consumer leaves of the dead letters, the ledger, the handler
calls and the message in hand. -/
inductive Moved (settings : ConsumerSettings) (g : Group) (c : Consumer) :
    ConsumerAct → List DeadLetter → List Uuid → List HandlerCall → Option Handling → Prop where
  | waits (act : ConsumerAct) (elsewhere : ∀ outcome, act = .advance outcome →
      c.hand = none ∧ c.inbox = []) :
      Moved settings g c act g.deadLetters g.consumed g.calls c.hand
  | ends : Moved settings g c .crash g.deadLetters g.consumed g.calls none
  | raises (messageId : Nat) (inbox : List Nat) (outcome : HandlerOutcome) (free : c.hand = none)
      (next : c.inbox = messageId :: inbox) (unreadable : (g.entries[messageId]?).join = none) :
      Moved settings g c (.advance outcome) g.deadLetters g.consumed g.calls none
  | begins (messageId : Nat) (inbox : List Nat) (event : OutboxEventEnvelope)
      (outcome : HandlerOutcome) (free : c.hand = none) (next : c.inbox = messageId :: inbox)
      (read : (g.entries[messageId]?).join = some event) :
      Moved settings g c (.advance outcome) g.deadLetters g.consumed g.calls
        (some { messageId, event, stage := firstStage settings g messageId })
  | tests (h : Handling) (outcome : HandlerOutcome) (hand : c.hand = some h)
      (stage : h.stage = .undecided) :
      Moved settings g c (.advance outcome) g.deadLetters g.consumed g.calls
        (some { h with stage := if hasConsumedEvent g h.event.eventId then .duplicate else .ready })
  | starts (h : Handling) (outcome : HandlerOutcome) (hand : c.hand = some h)
      (stage : h.stage = .ready) :
      Moved settings g c (.advance outcome) g.deadLetters g.consumed
        (g.calls ++ [.started h.event.eventId]) (some { h with stage := .handling })
  | returns (h : Handling) (hand : c.hand = some h) (stage : h.stage = .handling) :
      Moved settings g c (.advance .returned) g.deadLetters g.consumed
        (g.calls ++ [.returned h.event.eventId]) (some { h with stage := .handled })
  | rejects (h : Handling) (error : String) (hand : c.hand = some h)
      (stage : h.stage = .handling) :
      Moved settings g c (.advance (.permanentError error)) g.deadLetters g.consumed g.calls
        (some { h with stage := .deadLettering ("permanent_error: " ++ error) })
  | leaves (h : Handling) (hand : c.hand = some h) (stage : h.stage = .handling) :
      Moved settings g c (.advance .failed) g.deadLetters g.consumed g.calls none
  | records (h : Handling) (outcome : HandlerOutcome) (hand : c.hand = some h)
      (stage : h.stage = .handled) :
      Moved settings g c (.advance outcome) g.deadLetters
        (markEventConsumed g h.event.eventId).consumed g.calls (some { h with stage := .marked })
  | buries (h : Handling) (reason : String) (outcome : HandlerOutcome) (hand : c.hand = some h)
      (stage : h.stage = .deadLettering reason) :
      Moved settings g c (.advance outcome) (g.deadLetters ++ [{ event := h.event, reason }])
        g.consumed g.calls (some { h with stage := .deadLettered })
  | settles (h : Handling) (outcome : HandlerOutcome) (hand : c.hand = some h)
      (stage : h.stage.acknowledges = true) :
      Moved settings g c (.advance outcome) g.deadLetters g.consumed g.calls none

/-- The group after an act: its new tables, and the consumer with its new hand. -/
structure Became (g : Group) (consumer : Nat) (letters : List DeadLetter) (consumed : List Uuid)
    (calls : List HandlerCall) (hand : Option Handling) (g' : Group) : Prop where
  deadLetters : g'.deadLetters = letters
  consumed : g'.consumed = consumed
  calls : g'.calls = calls
  consumers : ∃ c' : Consumer, c'.hand = hand ∧ g'.consumers = g.consumers.set consumer c'

theorem act_moved (settings : ConsumerSettings) (stands : g.consumers[consumer]? = some c)
    (act : ConsumerAct) :
    ∃ letters consumed calls hand, Moved settings g c act letters consumed calls hand ∧
      Became g consumer letters consumed calls hand (g.act settings consumer c act) := by
  have kept : Became g consumer g.deadLetters g.consumed g.calls c.hand g :=
    ⟨rfl, rfl, rfl, c, rfl, (Table.set_same stands).symm⟩
  cases act with
  | crash => exact ⟨_, _, _, _, .ends, rfl, rfl, rfl, {}, rfl, rfl⟩
  | claim now ids next =>
    have waits : Moved settings g c (.claim now ids next) g.deadLetters g.consumed g.calls c.hand :=
      .waits _ (fun _ advance => by cases advance)
    refine ⟨_, _, _, _, waits, ?_⟩
    simp only [Group.act]
    split
    · split_ifs
      · refine ⟨rfl, rfl, rfl, _, ?_, rfl⟩
        rfl
      · exact kept
    · exact kept
  | read now =>
    have waits : Moved settings g c (.read now) g.deadLetters g.consumed g.calls c.hand :=
      .waits _ (fun _ advance => by cases advance)
    refine ⟨_, _, _, _, waits, ?_⟩
    simp only [Group.act]
    split
    · refine ⟨rfl, rfl, rfl, _, ?_, rfl⟩
      rfl
    · exact kept
  | advance outcome =>
    obtain ⟨turn, inbox, hand⟩ := c
    cases hand with
    | none =>
      cases inbox with
      | nil => exact ⟨_, _, _, _, .waits _ (fun _ _ => ⟨rfl, rfl⟩), kept⟩
      | cons messageId inbox =>
        cases read : (g.entries[messageId]?).join with
        | none =>
          refine ⟨_, _, _, _, .raises messageId inbox outcome rfl rfl read, rfl, rfl, rfl, {}, rfl, ?_⟩
          simp [Group.act, beginMessage, read, Group.put]
        | some event =>
          refine ⟨_, _, _, _, .begins messageId inbox event outcome rfl rfl read,
            rfl, rfl, rfl, ?_⟩
          simp only [Group.act, beginMessage, read, Group.put]
          refine ⟨_, ?_, rfl⟩
          rfl
    | some h =>
      obtain ⟨messageId, event, stage⟩ := h
      cases stage with
      | undecided => exact ⟨_, _, _, _, .tests _ outcome rfl rfl, rfl, rfl, rfl, _, rfl, rfl⟩
      | duplicate => exact ⟨_, _, _, _, .settles _ outcome rfl rfl, rfl, rfl, rfl, _, rfl, rfl⟩
      | ready => exact ⟨_, _, _, _, .starts _ outcome rfl rfl, rfl, rfl, rfl, _, rfl, rfl⟩
      | handling =>
        cases outcome with
        | returned => exact ⟨_, _, _, _, .returns _ rfl rfl, rfl, rfl, rfl, _, rfl, rfl⟩
        | permanentError error =>
          exact ⟨_, _, _, _, .rejects _ error rfl rfl, rfl, rfl, rfl, _, rfl, rfl⟩
        | failed => exact ⟨_, _, _, _, .leaves _ rfl rfl, rfl, rfl, rfl, _, rfl, rfl⟩
      | handled => exact ⟨_, _, _, _, .records _ outcome rfl rfl, rfl, rfl, rfl, _, rfl, rfl⟩
      | marked => exact ⟨_, _, _, _, .settles _ outcome rfl rfl, rfl, rfl, rfl, _, rfl, rfl⟩
      | deadLettering reason =>
        exact ⟨_, _, _, _, .buries _ reason outcome rfl rfl, rfl, rfl, rfl, _, rfl, rfl⟩
      | deadLettered => exact ⟨_, _, _, _, .settles _ outcome rfl rfl, rfl, rfl, rfl, _, rfl, rfl⟩

/-- The message a consumer has in hand. -/
def Group.handOf (g : Group) (consumer : Nat) : Option Handling :=
  (g.consumers[consumer]?).bind (fun c => c.hand)

theorem Became.handOf {letters : List DeadLetter} {consumed : List Uuid}
    {calls : List HandlerCall} {hand : Option Handling} {g' : Group}
    (became : Became g consumer letters consumed calls hand g')
    (stands : g.consumers[consumer]? = some c) (other : Nat) :
    g'.handOf other = if other = consumer then hand else g.handOf other := by
  obtain ⟨c', rfl, consumers⟩ := became.consumers
  simp only [Group.handOf, consumers]
  split_ifs with same
  · subst same
    simp [Table.lt_of_row stands]
  · rw [List.getElem?_set_ne (Ne.symm same)]

theorem mem_markEventConsumed {event other : Uuid} :
    other ∈ (markEventConsumed g event).consumed ↔ other ∈ g.consumed ∨ other = event := by
  cases known : hasConsumedEvent g event with
  | true =>
    have inside : event ∈ g.consumed := by simpa [hasConsumedEvent] using known
    simp only [markEventConsumed, known, if_true]
    constructor
    · exact Or.inl
    · rintro (before | rfl)
      · exact before
      · exact inside
  | false => simp [markEventConsumed, known]

/-! ## Recorded events are skipped -/

/-- The consumer is about to write a dead letter of this event. -/
def buries (event : Uuid) (c : Consumer) : Bool :=
  match c.hand with
  | some { event := at_, stage := .deadLettering _, .. } => at_.eventId == event
  | _ => false

/-- A recorded event is found poison, or rejected by a handler call that began before
it was recorded; or an event is recorded that a consumer is about to dead-letter. -/
def Misjudges (settings : ConsumerSettings) (g : Group) : GroupEvent → Bool
  | .consumer consumer (.advance outcome) =>
    match g.consumers[consumer]? with
    | none => false
    | some c =>
      match c.hand, c.inbox, outcome with
      | none, messageId :: _, _ =>
        match (g.entries[messageId]?).join with
        | none => false
        | some event =>
          classifyDelivery (deliveryCount g messageId) settings.maxDeliveries == .poison &&
            hasConsumedEvent g event.eventId
      | some { event, stage := .handling, .. }, _, .permanentError _ =>
        hasConsumedEvent g event.eventId
      | some { event, stage := .handled, .. }, _, _ => g.consumers.any (buries event.eventId)
      | _, _, _ => false
  | _ => false

/-- What a step makes of the messages whose event is recorded: it writes no dead letter
of one, and handles each as a duplicate until it is acknowledged. -/
structure SkipsRecorded (settings : ConsumerSettings) (g : Group) (e : GroupEvent) : Prop where
  neverBuried : ∃ letters, (g.step settings e).deadLetters = g.deadLetters ++ letters ∧
    ∀ letter ∈ letters, letter.event.eventId ∉ g.consumed
  begun : ∀ consumer outcome c messageId inbox event, e = .consumer consumer (.advance outcome) →
    g.consumers[consumer]? = some c → c.hand = none → c.inbox = messageId :: inbox →
    (g.entries[messageId]?).join = some event → event.eventId ∈ g.consumed →
    (g.step settings e).handOf consumer = some { messageId, event, stage := .undecided }
  tested : ∀ consumer outcome h, e = .consumer consumer (.advance outcome) →
    g.handOf consumer = some h → h.stage = .undecided → h.event.eventId ∈ g.consumed →
    (g.step settings e).handOf consumer = some { h with stage := .duplicate }
  acknowledged : ∀ consumer outcome h, e = .consumer consumer (.advance outcome) →
    g.handOf consumer = some h → h.stage = .duplicate →
    (g.step settings e).handOf consumer = none ∧
      (g.step settings e).pendingEntry h.messageId = none

/-- What a consumer is about to dead-letter is not recorded. -/
def BuriesUnrecorded (g : Group) : Prop :=
  ∀ consumer h reason, g.handOf consumer = some h → h.stage = .deadLettering reason →
    h.event.eventId ∉ g.consumed

theorem mem_of_hasConsumedEvent {event : Uuid} :
    hasConsumedEvent g event = true ↔ event ∈ g.consumed := by
  simp [hasConsumedEvent]

theorem handOf_eq (stands : g.consumers[consumer]? = some c) : g.handOf consumer = c.hand := by
  simp [Group.handOf, stands]

theorem handOf_put (stands : g.consumers[consumer]? = some c) (c' : Consumer) :
    (g.put consumer c').handOf consumer = c'.hand := by
  simp [Group.handOf, Group.put, Table.lt_of_row stands]

/-- A step of a consumer with a message in hand is one of its handling. -/
theorem step_handleMessage {h : Handling} (stands : g.consumers[consumer]? = some c)
    (inHand : c.hand = some h) (outcome : HandlerOutcome) :
    g.step settings (.consumer consumer (.advance outcome)) =
      handleMessage g consumer c h outcome := by
  simp only [Group.step, stands, Group.act, inHand]

/-- A step of a consumer with an empty hand begins the next message of its inbox. -/
theorem step_beginMessage {messageId : Nat} {inbox : List Nat}
    (stands : g.consumers[consumer]? = some c) (free : c.hand = none)
    (next : c.inbox = messageId :: inbox) (outcome : HandlerOutcome) :
    g.step settings (.consumer consumer (.advance outcome)) =
      g.put consumer (beginMessage settings g c messageId inbox) := by
  simp only [Group.step, stands, Group.act, free, next]

theorem consumer_of_handOf {h : Handling} (inHand : g.handOf consumer = some h) :
    ∃ c, g.consumers[consumer]? = some c ∧ c.hand = some h :=
  Option.bind_eq_some_iff.mp inHand

/-- What a consumer buries shows in the list of consumers. -/
theorem any_buries {h : Handling} {reason : String} (other : Nat)
    (hand : g.handOf other = some h) (stage : h.stage = .deadLettering reason) :
    g.consumers.any (buries h.event.eventId) = true := by
  obtain ⟨c, stands, inHand⟩ := consumer_of_handOf hand
  apply List.any_eq_true.mpr
  refine ⟨c, List.mem_of_getElem? stands, ?_⟩
  obtain ⟨messageId, event, at_⟩ := h
  cases stage
  simp [buries, inHand]

/-- A consumer that comes to bury a message does so of an unrecorded event. -/
theorem Moved.comes_to_bury {act : ConsumerAct} {letters : List DeadLetter} {consumed : List Uuid} {calls : List HandlerCall} {h : Handling}
    {reason : String} (moved : Moved settings g c act letters consumed calls (some h))
    (stands : g.consumers[consumer]? = some c)
    (judged : Misjudges settings g (.consumer consumer act) = false)
    (stage : h.stage = .deadLettering reason) :
    c.hand = some h ∨ h.event.eventId ∉ g.consumed := by
  generalize result : some h = hand at moved
  cases moved with
  | waits act elsewhere => exact Or.inl rfl
  | begins messageId inbox event outcome free next read =>
    cases result
    right
    intro recorded
    simp only [firstStage] at stage
    simp only [Misjudges, stands, free, next, read, mem_of_hasConsumedEvent.mpr recorded,
      Bool.and_true] at judged
    cases poison : classifyDelivery (deliveryCount g messageId) settings.maxDeliveries with
    | poison =>
      rw [poison] at judged
      cases judged
    | process =>
      rw [poison] at stage
      cases stage
  | rejects held error hand handling =>
    cases result
    right
    intro recorded
    obtain ⟨messageId, event, at_⟩ := held
    simp only at handling
    subst handling
    simp only [Misjudges, stands, hand, mem_of_hasConsumedEvent.mpr recorded] at judged
    cases judged
  | tests held outcome hand undecided =>
    cases result
    split_ifs at stage
  | ends => cases result
  | raises => cases result
  | leaves => cases result
  | settles => cases result
  | starts => cases result; cases stage
  | returns => cases result; cases stage
  | records => cases result; cases stage
  | buries => cases result; cases stage

/-- Only a consumer whose handler call returned records an event. -/
theorem Moved.records_handled {act : ConsumerAct} {letters : List DeadLetter}
    {consumed : List Uuid} {calls : List HandlerCall} {hand : Option Handling} {event : Uuid}
    (moved : Moved settings g c act letters consumed calls hand) (recorded : event ∈ consumed) :
    event ∈ g.consumed ∨ ∃ outcome held, act = .advance outcome ∧ c.hand = some held ∧
      held.stage = .handled ∧ held.event.eventId = event ∧
      hand = some { held with stage := .marked } := by
  cases moved with
  | records held outcome inHand stage =>
    rcases mem_markEventConsumed.mp recorded with known | rfl
    · exact Or.inl known
    · exact Or.inr ⟨outcome, held, rfl, inHand, stage, rfl, rfl⟩
  | _ => exact Or.inl recorded

theorem buriesUnrecorded_step (e : GroupEvent) (judged : Misjudges settings g e = false)
    (unrecorded : BuriesUnrecorded g) : BuriesUnrecorded (g.step settings e) := by
  cases e with
  | append entry => exact unrecorded
  | consumer consumer act =>
    simp only [Group.step]
    cases stands : g.consumers[consumer]? with
    | none => exact unrecorded
    | some c =>
      obtain ⟨letters, consumed, calls, hand, moved, became⟩ := act_moved settings stands act
      intro other h reason inHand stage recorded
      simp only at inHand recorded
      rw [became.handOf stands] at inHand
      rw [became.consumed] at recorded
      rcases moved.records_handled recorded with known | ⟨outcome, held, rfl, mine, handled, own, now⟩
      · by_cases same : other = consumer
        · subst same
          rw [if_pos rfl] at inHand
          subst inHand
          rcases moved.comes_to_bury stands judged stage with before | unknown
          · exact unrecorded other h reason ((handOf_eq stands).trans before) stage known
          · exact unknown known
        · rw [if_neg same] at inHand
          exact unrecorded other h reason inHand stage known
      · -- the event is recorded by this step: no consumer may be about to bury it
        by_cases same : other = consumer
        · rw [if_pos same, now] at inHand
          cases inHand
          cases stage
        · rw [if_neg same] at inHand
          obtain ⟨messageId, event, at_⟩ := held
          simp only at handled own
          subst handled
          have found := any_buries other inHand stage
          rw [← own] at found
          simp only [Misjudges, stands, mine, found] at judged
          cases judged

/-- An acknowledged entry is not pending. -/
theorem pendingEntry_ack (g : Group) (messageId : Nat) :
    (g.ack messageId).pendingEntry messageId = none := by
  simp only [Group.pendingEntry, Group.ack, List.getElem?_set]
  split_ifs <;> rfl

/-- Where nothing about to be buried is recorded, a step skips what is recorded. -/
theorem skipsRecorded_step (e : GroupEvent) (judged : Misjudges settings g e = false)
    (unrecorded : BuriesUnrecorded g) : SkipsRecorded settings g e where
  neverBuried := by
    cases e with
    | append entry => exact ⟨[], by simp [Group.step], by simp⟩
    | consumer consumer act =>
      simp only [Group.step]
      cases stands : g.consumers[consumer]? with
      | none => exact ⟨[], by simp, by simp⟩
      | some c =>
        obtain ⟨letters, consumed, calls, hand, moved, became⟩ := act_moved settings stands act
        simp only [became.deadLetters]
        cases moved with
        | buries h reason outcome inHand stage =>
          refine ⟨_, rfl, ?_⟩
          intro letter inside
          obtain rfl := List.mem_singleton.mp inside
          exact unrecorded consumer h reason ((handOf_eq stands).trans inHand) stage
        | _ => exact ⟨[], by simp, by simp⟩
  begun := by
    rintro consumer outcome c messageId inbox event rfl stands free next read recorded
    simp only [Misjudges, stands, free, next, read, mem_of_hasConsumedEvent.mpr recorded,
      Bool.and_true] at judged
    cases poison : classifyDelivery (deliveryCount g messageId) settings.maxDeliveries with
    | poison =>
      rw [poison] at judged
      cases judged
    | process =>
      rw [step_beginMessage stands free next, handOf_put stands]
      simp only [beginMessage, read, poison]
  tested := by
    rintro consumer outcome h rfl inHand stage recorded
    obtain ⟨c, stands, held⟩ := consumer_of_handOf inHand
    rw [step_handleMessage stands held]
    simp only [handleMessage, stage, mem_of_hasConsumedEvent.mpr recorded, if_true]
    exact handOf_put stands _
  acknowledged := by
    rintro consumer outcome h rfl inHand stage
    obtain ⟨c, stands, held⟩ := consumer_of_handOf inHand
    rw [step_handleMessage stands held]
    simp only [handleMessage, stage]
    have acked : (g.ack h.messageId).consumers[consumer]? = some c := stands
    exact ⟨handOf_put acked _, pendingEntry_ack g h.messageId⟩

/-- In a run in which no recorded event is found poison or rejected, and none is recorded
that a consumer is about to dead-letter, every step skips the recorded events. -/
theorem recorded_events_skipped (settings : ConsumerSettings) (consumers : Nat)
    (events : List GroupEvent)
    (judged : Machine.StepsMeet (fun g e => Misjudges settings g e = false)
      (Group.step settings) (emptyGroup consumers) events) :
    Machine.StepsMeet (SkipsRecorded settings) (Group.step settings) (emptyGroup consumers)
      events := by
  apply Machine.stepsMeet_iff.mpr
  rintro earlier e later rfl
  obtain ⟨before, here, _⟩ := (Machine.stepsMeet_append earlier (e :: later)).mp judged
  have unrecorded : BuriesUnrecorded (Machine.run (Group.step settings) (emptyGroup consumers)
      earlier) := by
    apply Machine.invariant_of_stepsMeet (P := BuriesUnrecorded) _ _ before
    · intro consumer h reason inHand
      obtain ⟨c, stands, held⟩ := consumer_of_handOf inHand
      have idle := List.eq_of_mem_replicate (List.mem_of_getElem? stands)
      rw [idle] at held
      cases held
    · exact fun _ e judged unrecorded => buriesUnrecorded_step e judged unrecorded
  exact skipsRecorded_step e here unrecorded

/-- One delivery that is handled and acknowledged, and its duplicate on the stream. -/
theorem recorded_events_skipped_once :
    Machine.StepsMeet (SkipsRecorded {}) (Group.step {}) (emptyGroup 1)
      [.append (some ⟨4, "AlertReceived", .alert, 0, some 7, .alertReceived 0 "f" .prometheus 7, 0⟩),
        .append (some ⟨4, "AlertReceived", .alert, 0, some 7, .alertReceived 0 "f" .prometheus 7, 0⟩),
        .consumer 0 (.claim 1 [] none), .consumer 0 (.read 2),
        .consumer 0 (.advance .failed), .consumer 0 (.advance .failed),
        .consumer 0 (.advance .failed), .consumer 0 (.advance .returned),
        .consumer 0 (.advance .failed), .consumer 0 (.advance .failed),
        .consumer 0 (.advance .failed), .consumer 0 (.advance .failed),
        .consumer 0 (.advance .failed)] :=
  recorded_events_skipped {} 1 _ (by decide +kernel)

/-- The process dies between recording an event and acknowledging it, and again at each
redelivery: the sixth delivery of the recorded event is dead-lettered. -/
theorem recorded_event_buried :
    ¬ Machine.StepsMeet (SkipsRecorded {}) (Group.step {}) (emptyGroup 1)
      ([.append (some ⟨4, "AlertReceived", .alert, 0, some 7, .alertReceived 0 "f" .prometheus 7, 0⟩),
        .consumer 0 (.claim 1 [] none), .consumer 0 (.read 2),
        .consumer 0 (.advance .failed), .consumer 0 (.advance .failed),
        .consumer 0 (.advance .failed), .consumer 0 (.advance .returned),
        .consumer 0 (.advance .failed), .consumer 0 .crash] ++
      [.consumer 0 (.claim 40000000 [0] none), .consumer 0 .crash,
        .consumer 0 (.claim 80000000 [0] none), .consumer 0 .crash,
        .consumer 0 (.claim 120000000 [0] none), .consumer 0 .crash,
        .consumer 0 (.claim 160000000 [0] none), .consumer 0 .crash,
        .consumer 0 (.claim 200000000 [0] none), .consumer 0 (.advance .failed)] ++
      [.consumer 0 (.advance .failed)]) := by
  intro skips
  obtain ⟨letters, written, unrecorded⟩ := (Machine.stepsMeet_concat.mp skips).2.neverBuried
  obtain ⟨letter, rfl⟩ : ∃ letter, letters = [letter] := ⟨_, written.symm⟩
  cases written
  exact unrecorded _ List.mem_cons_self List.mem_cons_self

/-! ## A handler that returned is not called again -/

/-- After a call returned, no later call for its event. -/
def NoneRepeated (calls : List HandlerCall) : Prop :=
  ∀ before event after, calls = before ++ .started event :: after → .returned event ∉ before

theorem noneRepeated_concat {calls : List HandlerCall} {call : HandlerCall}
    (none : NoneRepeated calls) (fresh : ∀ event, call = .started event → .returned event ∉ calls) :
    NoneRepeated (calls ++ [call]) := by
  intro before event after split
  rcases List.eq_nil_or_concat after with rfl | ⟨after, last, rfl⟩
  · obtain ⟨rfl, same⟩ := List.append_inj' split rfl
    cases same
    exact fresh event rfl
  · have split' : calls ++ [call] = (before ++ .started event :: after) ++ [last] := by
      simp [split]
    obtain ⟨rfl, _⟩ := List.append_inj' split' rfl
    exact none before event after rfl

/-- The handler of this consumer returned for the event, and it is not recorded yet. -/
def records (event : Uuid) (c : Consumer) : Bool :=
  match c.hand with
  | some { event := at_, stage := .handled, .. } => at_.eventId == event
  | _ => false

/-- A handler call begins for an event that is recorded, or that a consumer is about to
record; or a consumer dies before it recorded the event it handled. -/
def Reopens (g : Group) : GroupEvent → Bool
  | .consumer consumer act =>
    match g.consumers[consumer]? with
    | none => false
    | some c =>
      match c.hand, act with
      | some { event, stage := .ready, .. }, .advance _ =>
        hasConsumedEvent g event.eventId || g.consumers.any (records event.eventId)
      | some { stage := .handled, .. }, .crash => true
      | _, _ => false
  | _ => false

/-- Every call that returned is recorded, or about to be. -/
def ReturnedKept (g : Group) : Prop :=
  ∀ event, .returned event ∈ g.calls → event ∈ g.consumed ∨
    ∃ consumer h, g.handOf consumer = some h ∧ h.stage = .handled ∧ h.event.eventId = event

theorem any_records {h : Handling} (other : Nat) (hand : g.handOf other = some h)
    (stage : h.stage = .handled) : g.consumers.any (records h.event.eventId) = true := by
  obtain ⟨c, stands, inHand⟩ := consumer_of_handOf hand
  apply List.any_eq_true.mpr
  refine ⟨c, List.mem_of_getElem? stands, ?_⟩
  obtain ⟨messageId, event, at_⟩ := h
  cases stage
  simp [records, inHand]

/-- Nothing leaves the ledger. -/
theorem Moved.keeps_consumed {act : ConsumerAct} {letters : List DeadLetter}
    {consumed : List Uuid} {calls : List HandlerCall} {hand : Option Handling} {event : Uuid}
    (moved : Moved settings g c act letters consumed calls hand) (recorded : event ∈ g.consumed) :
    event ∈ consumed := by
  cases moved with
  | records held outcome inHand stage => exact mem_markEventConsumed.mpr (Or.inl recorded)
  | _ => exact recorded

/-- A handled message stays in hand until its event is recorded. -/
theorem Moved.keeps_handled {act : ConsumerAct} {letters : List DeadLetter}
    {consumed : List Uuid} {calls : List HandlerCall} {hand : Option Handling} {h : Handling}
    (moved : Moved settings g c act letters consumed calls hand)
    (stands : g.consumers[consumer]? = some c)
    (safe : Reopens g (.consumer consumer act) = false) (inHand : c.hand = some h)
    (handled : h.stage = .handled) : hand = some h ∨ h.event.eventId ∈ consumed := by
  obtain ⟨messageId, event, at_⟩ := h
  simp only at handled
  subst handled
  cases moved with
  | waits act elsewhere => exact Or.inl inHand
  | ends => simp [Reopens, stands, inHand] at safe
  | records held outcome mine stage =>
    rw [inHand] at mine
    cases mine
    exact Or.inr (mem_markEventConsumed.mpr (Or.inr rfl))
  | raises messageId inbox outcome free => simp [free] at inHand
  | begins messageId inbox event outcome free => simp [free] at inHand
  | tests held outcome mine stage => rw [inHand] at mine; cases mine; cases stage
  | starts held outcome mine stage => rw [inHand] at mine; cases mine; cases stage
  | returns held mine stage => rw [inHand] at mine; cases mine; cases stage
  | rejects held error mine stage => rw [inHand] at mine; cases mine; cases stage
  | leaves held mine stage => rw [inHand] at mine; cases mine; cases stage
  | buries held reason outcome mine stage => rw [inHand] at mine; cases mine; cases stage
  | settles held outcome mine stage => rw [inHand] at mine; cases mine; cases stage

/-- What a step adds to the handler calls. -/
theorem Moved.adds_call {act : ConsumerAct} {letters : List DeadLetter}
    {consumed : List Uuid} {calls : List HandlerCall} {hand : Option Handling}
    (moved : Moved settings g c act letters consumed calls hand) :
    calls = g.calls ∨
      (∃ h outcome, c.hand = some h ∧ h.stage = .ready ∧ act = .advance outcome ∧
        calls = g.calls ++ [.started h.event.eventId]) ∨
      (∃ h, hand = some h ∧ h.stage = .handled ∧
        calls = g.calls ++ [.returned h.event.eventId]) := by
  cases moved with
  | starts held outcome inHand stage =>
    exact Or.inr (Or.inl ⟨held, outcome, inHand, stage, rfl, rfl⟩)
  | returns held inHand stage => exact Or.inr (Or.inr ⟨_, rfl, rfl, rfl⟩)
  | _ => exact Or.inl rfl

theorem returnedKept_step (e : GroupEvent) (safe : Reopens g e = false) (kept : ReturnedKept g) :
    ReturnedKept (g.step settings e) := by
  cases e with
  | append entry => exact kept
  | consumer consumer act =>
    simp only [Group.step]
    cases stands : g.consumers[consumer]? with
    | none => exact kept
    | some c =>
      obtain ⟨letters, consumed, calls, hand, moved, became⟩ := act_moved settings stands act
      intro event returned
      simp only [became.calls] at returned
      simp only [became.consumed]
      -- a call that returned before this step
      have before : .returned event ∈ g.calls → event ∈ consumed ∨
          ∃ other h, (g.act settings consumer c act).handOf other = some h ∧ h.stage = .handled ∧
            h.event.eventId = event := by
        intro called
        rcases kept event called with known | ⟨other, h, inHand, handled, rfl⟩
        · exact Or.inl (moved.keeps_consumed known)
        · by_cases same : other = consumer
          · subst same
            rw [handOf_eq stands] at inHand
            rcases moved.keeps_handled stands safe inHand handled with rfl | recorded
            · exact Or.inr ⟨other, h, by rw [became.handOf stands, if_pos rfl], handled, rfl⟩
            · exact Or.inl recorded
          · exact Or.inr ⟨other, h, by rw [became.handOf stands, if_neg same, inHand],
              handled, rfl⟩
      rcases moved.adds_call with same | ⟨h, outcome, _, _, _, started⟩ | ⟨h, mine, handled, called⟩
      · rw [same] at returned
        exact before returned
      · simp only [started, List.mem_append, List.mem_singleton, reduceCtorEq, or_false] at returned
        exact before returned
      · simp only [called, List.mem_append, List.mem_singleton, HandlerCall.returned.injEq] at returned
        rcases returned with old | rfl
        · exact before old
        · exact Or.inr ⟨consumer, h, by rw [became.handOf stands, if_pos rfl, mine], handled, rfl⟩

theorem noneRepeated_step (e : GroupEvent) (safe : Reopens g e = false) (kept : ReturnedKept g)
    (none : NoneRepeated g.calls) : NoneRepeated (g.step settings e).calls := by
  cases e with
  | append entry => exact none
  | consumer consumer act =>
    simp only [Group.step]
    cases stands : g.consumers[consumer]? with
    | none => exact none
    | some c =>
      obtain ⟨letters, consumed, calls, hand, moved, became⟩ := act_moved settings stands act
      simp only [became.calls]
      rcases moved.adds_call with same | ⟨h, outcome, inHand, ready, rfl, started⟩ | ⟨h, _, _, called⟩
      · rw [same]
        exact none
      · rw [started]
        apply noneRepeated_concat none
        rintro _ ⟨⟩ returned
        obtain ⟨messageId, event, at_⟩ := h
        simp only at ready
        subst ready
        simp only [Reopens, stands, inHand, Bool.or_eq_false_iff] at safe
        rcases kept _ returned with known | ⟨other, h', inHand', handled, same⟩
        · rw [mem_of_hasConsumedEvent.mpr known] at safe
          cases safe.1
        · have found := any_records other inHand' handled
          rw [same, safe.2] at found
          cases found
      · rw [called]
        apply noneRepeated_concat none
        rintro _ ⟨⟩

end IncidentTriage.Events
