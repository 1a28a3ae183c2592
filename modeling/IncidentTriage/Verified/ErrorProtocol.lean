import IncidentTriage.Agents.ChatCalls
import IncidentTriage.Verified.Providers

/-! # The error protocol

A response becomes a turn or a model error exactly when the fields that `decide` reads without
a guard have the types it takes for granted.
-/

namespace IncidentTriage.Verified

open IncidentTriage.Python IncidentTriage.Domain IncidentTriage.Incident IncidentTriage.Tools
  IncidentTriage.Agents IncidentTriage.Agents.OpenAICompatible

/-! ## The property -/

/-- A call on this response gives a turn or raises a model error, and where it gives no turn the
engine records the error, and asks again or is about to end the investigation as failed. -/
structure KeepsProtocol (a : Adapter) (tooDeep : String → Bool) (request : DecisionRequest)
    (latencyMs status : Nat) (body : Except LoadFault Json) : Prop where
  answered : (∃ turn, a.call tooDeep request latencyMs status body = .ok turn) ∨
    ∃ error, a.call tooDeep request latencyMs status body = .error (.modelError error)
  recorded : (∀ turn, a.call tooDeep request latencyMs status body ≠ .ok turn) →
    ∃ error, ∀ (e : EngineEnv) (d : Desk) (now : Python.Time) (replies : Replies) (s : Store)
      (state : InvestigationState) (iteration : Nat) (finalReason : Option String)
      (attempt : Nat) (toolset : ToolExecutor), attempt ≤ d.engine.attempts →
        d.hear e now replies s (.asking state iteration finalReason attempt toolset)
            (a.call tooDeep request latencyMs status body) =
          d.record now s (errorRecord iteration attempt error)
            (if !error.retryable || attempt == d.engine.attempts then
              .failing iteration (if error.retryable then "model_unavailable" else "model_error")
                (error.code ++ " after " ++ toString attempt ++ " attempt(s)")
            else .asking state iteration finalReason (attempt + 1) toolset)

/-! ## The condition -/

/-- What is not falsy is an object. -/
def ObjectOrFalsy (value : Option Json) : Prop :=
  ∀ v, value = some v → v.truthy = true → ∃ fields, v = .object fields

/-- What `int` takes. -/
def IsNumeral : Json → Prop
  | .bool _ | .int _ => True
  | .float x => ∃ q, x.value = .finite q
  | .str text => (intOfText text).isSome = true
  | .null | .list _ | .object _ => False

def NumeralOrFalsy (value : Option Json) : Prop :=
  ∀ v, value = some v → v.truthy = true → IsNumeral v

/-- The function of a call is an object, and its arguments are not nested too deep. -/
structure ReadableCall (tooDeep : String → Bool) (call : Dict) : Prop where
  function : ObjectOrFalsy (call.get? "function")
  arguments : ∀ text, (functionOf call).get? "arguments" = some (.str text) →
    (strip text).isEmpty = false → tooDeep text = false

/-- A part that is an object has a text, or none at all. -/
def ReadablePart (part : Json) : Prop :=
  ∀ fields, part = .object fields → ∀ v, Dict.get? fields "text" = some v → ∃ text, v = .str text

/-- The fields of a message, and of what comes with it, that are read without a guard. -/
structure ReadableTurn (tooDeep : String → Bool) (data choice message : Dict)
    (rawCalls : List Json) : Prop where
  calls : finishedBy (choice.get? "finish_reason") "length" = false →
    ∀ call ∈ objectCalls rawCalls, ReadableCall tooDeep call.2
  parts : ∀ parts, message.get? "content" = some (.list parts) → ∀ part ∈ parts, ReadablePart part
  finish : ∀ v, choice.get? "finish_reason" = some v → v.truthy = true → isHashable v = true
  promptDetails : ObjectOrFalsy ((Json.orEmpty (data.get? "usage")).get? "prompt_tokens_details")
  cached : NumeralOrFalsy ((Json.orEmpty ((Json.orEmpty (data.get? "usage")).get?
    "prompt_tokens_details")).get? "cached_tokens")
  written : NumeralOrFalsy ((Json.orEmpty ((Json.orEmpty (data.get? "usage")).get?
    "prompt_tokens_details")).get? "cache_write_tokens")
  input : NumeralOrFalsy ((Json.orEmpty (data.get? "usage")).get? "prompt_tokens")
  output : NumeralOrFalsy ((Json.orEmpty (data.get? "usage")).get? "completion_tokens")
  completionDetails :
    ObjectOrFalsy ((Json.orEmpty (data.get? "usage")).get? "completion_tokens_details")
  reasoning : NumeralOrFalsy ((Json.orEmpty ((Json.orEmpty (data.get? "usage")).get?
    "completion_tokens_details")).get? "reasoning_tokens")

/-- The reason for which a message is an error, if its calls are not a list among them. -/
def refusedMessage (choice message : Dict) : Bool :=
  finishedBy (choice.get? "finish_reason") "error" ||
    finishedBy (choice.get? "finish_reason") "content_filter" ||
    match message.get? "tool_calls" with
    | some (.list _) | none => false
    | some calls => calls.truthy

/-- What is read of a document. -/
def ReadableData (tooDeep : String → Bool) (data : Dict) : Prop :=
  if isTrue (data.get? "error") then infiniteCode data = false
  else
    match data.get? "choices" with
    | some (.list (.object choice :: _)) =>
      if isTrue (Dict.get? choice "error") then
        infiniteCode [("error", (Dict.get? choice "error").getD .null)] = false
      else
        match Dict.get? choice "message" with
        | some (.object message) =>
          refusedMessage choice message = false →
            ReadableTurn tooDeep data choice message (listedCalls message)
        | _ => True
    | _ => True

/-- What is read of a response. -/
def ReadableResponse (tooDeep : String → Bool) (status : Nat) : Except LoadFault Json → Prop
  | .error .tooDeep => False
  | .error .invalid => True
  | .ok (.object data) =>
    if 400 ≤ status then infiniteCode data = false else ReadableData tooDeep data
  | .ok _ => True

/-! ## Readings

A reading that may raise is compared with the total one: it gives the same value exactly under
a condition.
-/

structure Yields {α : Type} (read : Except Escape α) (value : α) (condition : Prop) : Prop where
  given : condition → read = .ok value
  needed : ∀ y, read = .ok y → condition

section
variable {α β : Type} {p q : Prop}

theorem Yields.congr {read : Except Escape α} {value : α} (reads : Yields read value p)
    (same : p ↔ q) : Yields read value q where
  given condition := reads.given (same.mpr condition)
  needed y done := same.mp (reads.needed y done)

theorem Yields.total {given value : α} (same : given = value) : Yields (.ok given) value True where
  given _ := congrArg Except.ok same
  needed _ _ := trivial

theorem Yields.guarded (raises : Bool) (exception : Escape) (value : α) :
    Yields (if raises then .error exception else .ok value) value (raises = false) := by
  cases raises with
  | true => exact ⟨by simp, by simp⟩
  | false => exact (Yields.total rfl).congr (by simp)

theorem Yields.bind {first : Except Escape α} {rest : α → Except Escape β} {a : α} {b : β}
    (reads : Yields first a p) (readsRest : Yields (rest a) b q) :
    Yields (first >>= rest) b (p ∧ q) where
  given condition := by
    rw [reads.given condition.1]
    exact readsRest.given condition.2
  needed y done := by
    obtain ⟨x, read, more⟩ := bind_eq_ok.mp done
    have holds := reads.needed x read
    obtain rfl : a = x := Except.ok.inj ((reads.given holds).symm.trans read)
    exact ⟨holds, readsRest.needed y more⟩

theorem Yields.mapM {f : α → Except Escape β} {g : α → β} {condition : α → Prop} {items : List α}
    (reads : ∀ item ∈ items, Yields (f item) (g item) (condition item)) :
    Yields (items.mapM f) (items.map g) (∀ item ∈ items, condition item) := by
  induction items with
  | nil => exact (Yields.total rfl).congr (by simp)
  | cons item items ih =>
    rw [List.mapM_cons]
    have rest := ih fun other member => reads other (List.mem_cons_of_mem _ member)
    refine Yields.congr (.bind (reads item List.mem_cons_self) (.bind rest (.total rfl))) ?_
    simp

end

/-! ## Each field -/

theorem yields_dictOr (value : Option Json) :
    Yields (dictOr value) (Json.orEmpty value) (ObjectOrFalsy value) := by
  rcases value with _ | value
  · exact (Yields.total rfl).congr (by simp [ObjectOrFalsy])
  · cases value with
    | object fields => exact (Yields.total rfl).congr (by simp [ObjectOrFalsy])
    | _ =>
      simp only [dictOr, Json.orEmpty]
      refine Yields.congr (.guarded _ .attributeError []) ?_
      simp [ObjectOrFalsy]

/-- The number that is read, or zero. -/
def intOrZero (value : Option Json) : Int := (intOr value).toOption.getD 0

theorem count_eq (value : Option Json) : count value = (intOrZero value).toNat := by
  unfold count intOrZero
  cases intOr value <;> rfl

theorem exists_intOf (value : Json) : (∃ n, intOf value = .ok n) ↔ IsNumeral value := by
  cases value with
  | float x =>
    simp only [intOf, IsNumeral]
    split <;> simp [*]
  | str text =>
    simp only [intOf, IsNumeral]
    split <;> simp [*]
  | _ => simp [intOf, IsNumeral]

theorem exists_intOr (value : Option Json) : (∃ n, intOr value = .ok n) ↔ NumeralOrFalsy value := by
  cases value with
  | none => simp [intOr, NumeralOrFalsy]
  | some value =>
    cases truthy : value.truthy with
    | false => simp [intOr, NumeralOrFalsy, truthy]
    | true => simp [intOr, NumeralOrFalsy, truthy, exists_intOf]

theorem yields_intOr (value : Option Json) :
    Yields (intOr value) (intOrZero value) (NumeralOrFalsy value) where
  given condition := by
    obtain ⟨n, read⟩ := (exists_intOr value).mpr condition
    rw [intOrZero, read]
    rfl
  needed n read := (exists_intOr value).mp ⟨n, read⟩

section
variable (a : Adapter) (tooDeep : String → Bool)

theorem yields_raisedArguments (value : Option Json) :
    Yields (raisedArguments a tooDeep value) (parseArguments a.loads value)
      (∀ text, value = some (.str text) → (strip text).isEmpty = false → tooDeep text = false) := by
  rcases value with _ | value
  · exact (Yields.total rfl).congr (by simp)
  · cases value with
    | str text =>
      refine (Yields.guarded _ .recursionError (parseArguments a.loads (some (.str text)))).congr ?_
      simp
    | _ => exact (Yields.total rfl).congr (by simp)

theorem yields_raisedAction (i : Nat) (call : Dict) :
    Yields (raisedAction a tooDeep i call) (toolAction a.loads i call)
      (ReadableCall tooDeep call) :=
  Yields.congr (.bind (yields_dictOr _) (.bind (yields_raisedArguments a tooDeep _) (.total rfl)))
    ⟨fun ⟨function, arguments, _⟩ => ⟨function, arguments⟩,
      fun ⟨function, arguments⟩ => ⟨function, arguments, trivial⟩⟩

theorem yields_raisedPart (part : Json) :
    Yields (raisedPart part) (partText part) (ReadablePart part) := by
  cases part with
  | object fields =>
    simp only [raisedPart, partText]
    cases text : Dict.get? fields "text" with
    | none => exact (Yields.total rfl).congr (by simp [ReadablePart, text])
    | some v =>
      cases v with
      | str text' => exact (Yields.total rfl).congr (by simp [ReadablePart, text])
      | _ => exact (Yields.guarded true .typeError "").congr (by simp [ReadablePart, text])
  | _ => exact (Yields.total rfl).congr (by simp [ReadablePart])

theorem yields_raisedText (content : Option Json) :
    Yields (raisedText content) (visibleText content)
      (∀ parts, content = some (.list parts) → ∀ part ∈ parts, ReadablePart part) := by
  rcases content with _ | content
  · exact (Yields.total rfl).congr (by simp)
  · cases content with
    | list parts =>
      refine Yields.congr (.bind (.mapM fun part _ => yields_raisedPart part) (.total rfl)) ?_
      simp
    | _ => exact (Yields.total rfl).congr (by simp)

theorem yields_raisedStop (finish : Option Json) (acts : Bool) :
    Yields (raisedStop finish acts) (stopReason finish acts)
      (∀ v, finish = some v → v.truthy = true → isHashable v = true) := by
  rcases finish with _ | finish
  · exact (Yields.total rfl).congr (by simp)
  · exact (Yields.guarded _ .typeError (stopReason (some finish) acts)).congr (by simp)

theorem yields_raisedActions (truncated : Bool) (rawCalls : List Json) :
    Yields (raisedActions a tooDeep truncated rawCalls) (actionsOf a truncated rawCalls)
      (truncated = false → ∀ call ∈ objectCalls rawCalls, ReadableCall tooDeep call.2) := by
  cases truncated with
  | true => exact (Yields.total rfl).congr (by simp)
  | false =>
    refine Yields.congr (Yields.mapM fun call _ => yields_raisedAction a tooDeep call.1 call.2) ?_
    simp

theorem yields_raisedTurn (request : DecisionRequest) (latencyMs : Nat)
    (data choice message : Dict) (rawCalls : List Json) :
    Yields (raisedTurn a tooDeep request latencyMs data choice message rawCalls)
      (turnOf a request latencyMs data choice message rawCalls)
      (ReadableTurn tooDeep data choice message rawCalls) := by
  unfold raisedTurn
  refine Yields.congr (.bind (yields_raisedActions a tooDeep _ _) (.bind (yields_raisedText _)
    (.bind (yields_dictOr _) (.bind (yields_intOr _) (.bind (yields_intOr _)
    (.bind (yields_raisedStop _ _) (.bind (yields_intOr _) (.bind (yields_intOr _)
    (.bind (yields_dictOr _) (.bind (yields_intOr _) (.total ?_))))))))))) ?_
  · simp only [← count_eq]
    rfl
  · constructor
    · rintro ⟨calls, parts, promptDetails, cached, written, finish, input, output,
        completionDetails, reasoning, _⟩
      exact {
        calls, parts, finish, promptDetails, cached, written, input, output, completionDetails
        reasoning }
    · intro readable
      exact ⟨readable.calls, readable.parts, readable.promptDetails, readable.cached,
        readable.written, readable.finish, readable.input, readable.output,
        readable.completionDetails, readable.reasoning, trivial⟩

end

/-! ## The call

A call either ends as `decide` says, or with an exception that is not of the protocol.
-/

def Escapes {α : Type} (outcome : Except Raised α) : Prop :=
  ∃ exception, outcome = .error (.escaped exception)

structure Tells {α : Type} (outcome : Except Raised α) (told : Except ModelError α)
    (condition : Prop) : Prop where
  told : condition → outcome = told.mapError .modelError
  needed : ¬Escapes outcome → condition

section
variable {α : Type} {p q : Prop}

theorem Tells.congr {outcome : Except Raised α} {told : Except ModelError α}
    (tells : Tells outcome told p) (same : p ↔ q) : Tells outcome told q where
  told condition := tells.told (same.mpr condition)
  needed kept := same.mp (tells.needed kept)

theorem Tells.error (error : ModelError) :
    Tells (α := α) (.error (.modelError error)) (.error error) True where
  told _ := rfl
  needed _ := trivial

theorem Tells.escaped (exception : Escape) (told : Except ModelError α) :
    Tells (.error (.escaped exception)) told False where
  told := False.elim
  needed kept := kept ⟨exception, rfl⟩

theorem Yields.tells {read : Except Escape α} {value : α} (reads : Yields read value p) :
    Tells (read.mapError .escaped) (.ok value) p where
  told condition := by
    rw [reads.given condition]
    rfl
  needed kept := by
    cases outcome : read with
    | error exception => exact absurd ⟨exception, by rw [outcome]; rfl⟩ kept
    | ok y => exact reads.needed y outcome

end

section
variable (a : Adapter) (tooDeep : String → Bool) (request : DecisionRequest) (latencyMs : Nat)

theorem tells_raisedError {α : Type} (status : Nat) (data : Dict) :
    Tells (α := α) (.error (raisedError a status data)) (.error (a.error status data))
      (infiniteCode data = false) := by
  unfold raisedError
  cases infiniteCode data with
  | true => exact (Tells.escaped _ _).congr (by simp)
  | false => exact (Tells.error _).congr (by simp)

/-- A message is refused, or is read with its list of calls. -/
theorem readMessage_cases (data choice message : Dict) :
    (refusedMessage choice message = true ∧
      ∃ error, readMessage a request latencyMs data choice message = .error error) ∨
    (refusedMessage choice message = false ∧
      readMessage a request latencyMs data choice message =
        .ok (turnOf a request latencyMs data choice message (listedCalls message))) := by
  unfold readMessage refusedMessage listedCalls
  dsimp only
  cases finishedBy (choice.get? "finish_reason") "error" with
  | true => exact .inl ⟨rfl, _, rfl⟩
  | false =>
    cases finishedBy (choice.get? "finish_reason") "content_filter" with
    | true => exact .inl ⟨rfl, _, rfl⟩
    | false =>
      cases message.get? "tool_calls" with
      | none => exact .inr ⟨rfl, rfl⟩
      | some calls =>
        cases calls with
        | list rawCalls => exact .inr ⟨rfl, rfl⟩
        | _ =>
          simp only [Bool.false_or, Bool.false_eq_true, ↓reduceIte]
          split
          · exact .inl ⟨‹_›, _, rfl⟩
          · exact .inr ⟨Bool.eq_false_iff.mpr ‹_›, rfl⟩

theorem tells_raisedMessage (data choice message : Dict) :
    Tells (raisedMessage a tooDeep request latencyMs data choice message)
      (readMessage a request latencyMs data choice message)
      (refusedMessage choice message = false →
        ReadableTurn tooDeep data choice message (listedCalls message)) := by
  obtain ⟨refused, error, read⟩ | ⟨listed, read⟩ :=
    readMessage_cases a request latencyMs data choice message
  · rw [raisedMessage, read]
    exact (Tells.error error).congr (by simp [refused])
  · have outcome : raisedMessage a tooDeep request latencyMs data choice message =
        (raisedTurn a tooDeep request latencyMs data choice message
          (listedCalls message)).mapError .escaped := by
      rw [raisedMessage, read]
    rw [outcome, read]
    exact (yields_raisedTurn a tooDeep request latencyMs data choice message _).tells.congr
      (by simp [listed])

theorem tells_raisedChoices (data : Dict) (noError : isTrue (data.get? "error") = false) :
    Tells (raisedChoices a tooDeep request latencyMs data) (readChoices a request latencyMs data)
      (ReadableData tooDeep data) := by
  unfold raisedChoices readChoices ReadableData
  rw [if_neg (by simp [noError])]
  cases data.get? "choices" with
  | none => exact Tells.error _
  | some choices =>
    cases choices with
    | list items =>
      cases items with
      | nil => exact Tells.error _
      | cons item rest =>
        cases item with
        | object choice =>
          dsimp only
          cases isTrue (Dict.get? choice "error") with
          | true => exact tells_raisedError a _ _
          | false =>
            cases Dict.get? choice "message" with
            | none => exact Tells.error _
            | some message =>
              cases message with
              | object message =>
                exact tells_raisedMessage a tooDeep request latencyMs data choice message
              | _ => exact Tells.error _
        | _ => exact Tells.error _
    | _ => exact Tells.error _

theorem tells_call (status : Nat) (body : Except LoadFault Json) :
    Tells (a.call tooDeep request latencyMs status body)
      (a.decide request latencyMs (.response status body.toOption))
      (a.tools = true → ReadableResponse tooDeep status body) := by
  unfold Adapter.call Adapter.decide
  cases a.tools with
  | false => exact Tells.congr (Tells.error _) (by simp)
  | true =>
    refine Tells.congr (p := ReadableResponse tooDeep status body) ?_ (by simp)
    have malformedBody : Tells (α := ModelTurn)
        (.error (.modelError (malformed "response body is not a JSON object")))
        (.error (malformed "response body is not a JSON object")) True := Tells.error _
    unfold ReadableResponse
    cases body with
    | error fault =>
      cases fault with
      | tooDeep => exact Tells.escaped _ _
      | invalid =>
        by_cases failed : 400 ≤ status
        · have := tells_raisedError (α := ModelTurn) a status []
          simpa [failed, Except.toOption, Json.orEmpty, infiniteCode, Dict.get?] using this
        · simpa [failed, Except.toOption] using malformedBody
    | ok value =>
      cases value with
      | object data =>
        by_cases failed : 400 ≤ status
        · simpa [failed, Except.toOption, Json.orEmpty] using tells_raisedError a status data
        · cases erroneous : isTrue (Dict.get? data "error") with
          | true =>
            have := tells_raisedError (α := ModelTurn) a 200 data
            simpa [failed, Except.toOption, erroneous, ReadableData] using this
          | false =>
            have := tells_raisedChoices a tooDeep request latencyMs data erroneous
            simpa [failed, Except.toOption, erroneous] using this
      | _ =>
        by_cases failed : 400 ≤ status
        · have := tells_raisedError (α := ModelTurn) a status []
          simpa [failed, Except.toOption, Json.orEmpty, infiniteCode, Dict.get?] using this
        · simpa [failed, Except.toOption] using malformedBody

end

/-! ## The protocol -/

theorem hear_modelError (e : EngineEnv) (d : Desk) (now : Python.Time) (replies : Replies)
    (s : Store) (state : InvestigationState) (iteration : Nat) (finalReason : Option String)
    {attempt : Nat} (toolset : ToolExecutor) (error : ModelError)
    (more : attempt ≤ d.engine.attempts) :
    d.hear e now replies s (.asking state iteration finalReason attempt toolset)
        (.error (.modelError error)) =
      d.record now s (errorRecord iteration attempt error)
        (d.afterError state iteration finalReason attempt toolset error) := by
  simp only [Desk.hear, Desk.work]
  exact if_neg (Nat.not_lt.mpr more)

/-- A response keeps the protocol exactly where what is read of it without a guard has the type
that is expected. -/
theorem keepsProtocol_iff (a : Adapter) (tooDeep : String → Bool) (request : DecisionRequest)
    (latencyMs status : Nat) (body : Except LoadFault Json) :
    KeepsProtocol a tooDeep request latencyMs status body ↔
      (a.tools = true → ReadableResponse tooDeep status body) := by
  have tells := tells_call a tooDeep request latencyMs status body
  constructor
  · intro keeps
    refine tells.needed ?_
    rintro ⟨exception, escaped⟩
    obtain ⟨turn, answer⟩ | ⟨error, answer⟩ := keeps.answered
    · simp [escaped] at answer
    · simp [escaped] at answer
  · intro readable
    have told := tells.told readable
    cases outcome : a.decide request latencyMs (.response status body.toOption) with
    | ok turn =>
      rw [outcome] at told
      exact ⟨.inl ⟨turn, told⟩, fun none => absurd told (none turn)⟩
    | error error =>
      rw [outcome] at told
      refine ⟨.inr ⟨error, told⟩, fun _ => ⟨error, ?_⟩⟩
      intro e d now replies s state iteration finalReason attempt toolset more
      rw [told]
      exact hear_modelError e d now replies s state iteration finalReason toolset error more

/-- A response that names the function of its call by a text. -/
def namedByText : Json :=
  .object [("choices", .list [.object [("message", .object
    [("tool_calls", .list [.object [("function", .str "get_logs")]])])]])]

/-- A call whose function is no object ends the run. -/
theorem not_keepsProtocol :
    ¬ ∀ (a : Adapter) (tooDeep : String → Bool) (request : DecisionRequest) (latencyMs status : Nat)
      (body : Except LoadFault Json), KeepsProtocol a tooDeep request latencyMs status body := by
  intro keeps
  have escaped : plainChat.call (fun _ => false) emptyRequest 1 200 (.ok namedByText) =
      .error (.escaped .attributeError) := rfl
  obtain ⟨turn, answer⟩ | ⟨error, answer⟩ :=
    (keeps plainChat (fun _ => false) emptyRequest 1 200 (.ok namedByText)).answered
  · simp [escaped] at answer
  · simp [escaped] at answer

end IncidentTriage.Verified
