import IncidentTriage.Verified.Providers
import IncidentTriage.Verified.Storable

/-! # What a model says, in the columns

Everything the engine hands on for one turn of the model is stored, exactly when the texts and
numbers that the turn keeps of the response can be stored, and those of the tools' results.
-/

namespace IncidentTriage.Verified

open IncidentTriage.Python IncidentTriage.Domain IncidentTriage.Incident IncidentTriage.Tools
  IncidentTriage.Agents IncidentTriage.Agents.OpenAICompatible

/-! ## What a response brings in -/

/-- What a call brings into the trace: its id, its name, and its arguments, as they came and as
they are read. -/
structure PlainCall (loads : String → Option Json) (call : Dict) : Prop where
  id : ∀ v, call.get? "id" = some v → v.truthy = true → storableText v.text = true
  name : ∀ v, (functionOf call).get? "name" = some v → storableText v.text = true
  came : ∀ v, (functionOf call).get? "arguments" = some v → storable v = true
  read : ∀ t v, (functionOf call).get? "arguments" = some (.str t) →
    (strip t).isEmpty = false → loads t = some v → storable v = true

def firstChoice (data : Dict) : Dict :=
  match data.get? "choices" with
  | some (.list (.object choice :: _)) => choice
  | _ => []

def spokenMessage (data : Dict) : Dict := Json.orEmpty ((firstChoice data).get? "message")

def spokenCalls (data : Dict) : List Json := messageCalls (spokenMessage data)

/-- What the response says beside its message, and the turn keeps. -/
def spokenFields (data : Dict) : List (Option Json) :=
  [data.get? "id", data.get? "provider", (firstChoice data).get? "finish_reason",
    (firstChoice data).get? "native_finish_reason",
    (Json.orEmpty (data.get? "usage")).get? "cost"]

/-- A response of which the columns hold all that the turn keeps: the visible text, the calls
where they are complete, the fields beside the message, and the name of the model. -/
structure SpokenPlain (a : Adapter) (data : Dict) : Prop where
  text : storableText (visibleText ((spokenMessage data).get? "content")) = true
  calls : finishedBy ((firstChoice data).get? "finish_reason") "length" = false →
    ∀ call, .object call ∈ spokenCalls data → PlainCall a.loads call
  fields : ∀ v, some v ∈ spokenFields data → storable v = true
  served : ∀ v, data.get? "model" = some v → v.truthy = true → storableText v.text = true
  configured : (∀ v, data.get? "model" = some v → v.truthy = false) → storableText a.model = true

theorem plainAction_iff {action : ModelAction} :
    PlainAction action ↔ storable (modelDump action) = true := by
  have keys : ∀ key ∈ ["call_id", "name", "arguments"], storableText key = true := by decide
  simp only [List.mem_cons, List.not_mem_nil, or_false, forall_eq_or_imp, forall_eq] at keys
  constructor
  · intro kept
    have arguments := kept.arguments
    rw [modelDump, storable]
    simp only [storableFields, keys, storable_str, kept.callId, kept.name, arguments,
      Bool.and_self]
  · intro dumped
    rw [modelDump, storable] at dumped
    simp only [storableFields, keys, storable_str, Bool.true_and, Bool.and_true,
      Bool.and_eq_true] at dumped
    exact ⟨dumped.1, dumped.2.1, dumped.2.2⟩

/-- The arguments are stored as they came. -/
theorem storable_storedArguments {call : Dict} :
    storable (storedArguments call) = true ↔
      ∀ v, (functionOf call).get? "arguments" = some v → storable v = true := by
  unfold storedArguments
  cases found : (functionOf call).get? "arguments" with
  | none =>
    refine iff_of_true (by decide) ?_
    intro v none
    cases none
  | some v =>
    simp only [Option.some.injEq, forall_eq']
    split_ifs with given
    · rfl
    · exact iff_of_true (by decide) (storable_of_falsy (Bool.eq_false_iff.mpr given))

theorem storable_value (key : String) (v : Json) (plain : storableText key = true) :
    storable (.object [(key, v)]) = storable v := by
  rw [storable, storableFields, storableFields, plain, Bool.true_and, Bool.and_true]

theorem plainCall_iff {loads : String → Option Json} {i : Nat} {call : Dict} :
    PlainCall loads call ↔
      PlainAction (toolAction loads i call) ∧ storable (storedArguments call) = true := by
  have id : storableText (callIdOf i call) = true ↔
      ∀ v, call.get? "id" = some v → v.truthy = true → storableText v.text = true := by
    have generated : storableText ("call_" ++ toString i) = true := by
      rw [storableText_append, storableText_toString]
      decide
    unfold callIdOf
    cases found : call.get? "id" with
    | none => exact iff_of_true generated fun v none => by cases none
    | some v =>
      simp only [Option.some.injEq, forall_eq']
      split_ifs with given
      · exact ⟨fun stored _ => stored, fun stored => stored given⟩
      · exact iff_of_true generated fun taken => absurd taken given
  have name : storableText (((functionOf call).get? "name").getD (.str "")).text = true ↔
      ∀ v, (functionOf call).get? "name" = some v → storableText v.text = true := by
    cases found : (functionOf call).get? "name" with
    | none => exact iff_of_true rfl fun v none => by cases none
    | some v => simp
  have read : (∀ v, (functionOf call).get? "arguments" = some v → storable v = true) →
      (storable (.object (parseArguments loads ((functionOf call).get? "arguments"))) = true ↔
        ∀ t v, (functionOf call).get? "arguments" = some (.str t) →
          (strip t).isEmpty = false → loads t = some v → storable v = true) := by
    intro came
    cases found : (functionOf call).get? "arguments" with
    | none => exact iff_of_true rfl fun t v none => by cases none
    | some given =>
      have plain := came given found
      cases given with
      | null => exact iff_of_true rfl fun t v other => by cases other
      | object fields => exact iff_of_true plain fun t v other => by cases other
      | bool _ | int _ | float _ | list _ =>
        refine iff_of_true ?_ fun t v other => by cases other
        rw [parseArguments, storable_value _ _ (by decide)]
        · exact plain
        all_goals simp
      | str t =>
        have same : (∀ text v, some (Json.str t) = some (.str text) → (strip text).isEmpty = false →
            loads text = some v → storable v = true) ↔
            ((strip t).isEmpty = false → ∀ v, loads t = some v → storable v = true) := by
          constructor
          · exact fun each given v loaded => each t v rfl given loaded
          · rintro one text v same given loaded
            cases same
            exact one given v loaded
        rw [same, parseArguments]
        cases blank : (strip t).isEmpty with
        | true => exact iff_of_true rfl fun other => by cases other
        | false =>
          rw [forall_prop_of_true rfl, if_neg Bool.false_ne_true]
          cases loaded : loads t with
          | none =>
            refine iff_of_true ?_ fun _ other => by cases other
            rw [storable_value _ _ (by decide)]
            exact storableText_truncate plain 200
          | some v =>
            simp only [Option.some.injEq, forall_eq']
            cases v with
            | object fields => rfl
            | null | bool _ | int _ | float _ | str _ | list _ =>
              rw [storable_value _ _ (by decide)]
  constructor
  · intro kept
    exact ⟨⟨id.mpr kept.id, name.mpr kept.name, (read kept.came).mpr kept.read⟩,
      storable_storedArguments.mpr kept.came⟩
  · rintro ⟨kept, stored⟩
    have came := storable_storedArguments.mp stored
    exact ⟨id.mp kept.callId, name.mp kept.name, came, (read came).mp kept.arguments⟩

theorem storable_storedCall {loads : String → Option Json} {i : Nat} {call : Dict} :
    storable (storedCall (toolAction loads i call) call) = true ↔
      storableText (toolAction loads i call).callId = true ∧
        storableText (toolAction loads i call).name = true ∧
        storable (storedArguments call) = true := by
  have keys : ∀ key ∈ ["id", "type", "function", "name", "arguments"],
      storableText key = true := by decide
  simp only [List.mem_cons, List.not_mem_nil, or_false, forall_eq_or_imp, forall_eq] at keys
  rw [storedCall, storable]
  simp only [storableFields, keys, storable_str, storable_object, Bool.true_and, Bool.and_true,
    Bool.and_eq_true]

/-- The actions and the calls as they are replayed are stored, exactly when the calls are
plain. -/
theorem storable_calls {a : Adapter} {rawCalls : List Json} :
    (∀ entry ∈ objectCalls rawCalls,
      storable (modelDump (toolAction a.loads entry.1 entry.2)) = true ∧
        storable (storedCall (toolAction a.loads entry.1 entry.2) entry.2) = true) ↔
      ∀ call, .object call ∈ rawCalls → PlainCall a.loads call := by
  have listed : ∀ call : Dict, .object call ∈ rawCalls ↔ ∃ i, (i, call) ∈ objectCalls rawCalls := by
    intro call
    constructor
    · intro member
      obtain ⟨i, here⟩ := List.getElem?_of_mem member
      exact ⟨i, List.mem_filterMap.mpr
        ⟨(.object call, i), List.mem_zipIdx_iff_getElem?.mpr here, rfl⟩⟩
    · rintro ⟨i, member⟩
      obtain ⟨⟨given, place⟩, entry, read⟩ := List.mem_filterMap.mp member
      have here := List.mem_of_getElem? (List.mem_zipIdx_iff_getElem?.mp entry)
      cases given with
      | object fields =>
        cases read
        exact here
      | null | bool _ | int _ | float _ | str _ | list _ => cases read
  have each : ∀ entry : Nat × Dict,
      (storable (modelDump (toolAction a.loads entry.1 entry.2)) = true ∧
        storable (storedCall (toolAction a.loads entry.1 entry.2) entry.2) = true) ↔
        PlainCall a.loads entry.2 := by
    intro entry
    rw [← plainAction_iff, storable_storedCall, plainCall_iff (i := entry.1)]
    constructor
    · exact fun kept => ⟨kept.1, kept.2.2.2⟩
    · exact fun kept => ⟨kept.1, kept.1.callId, kept.1.name, kept.2⟩
  simp only [each, listed]
  constructor
  · rintro kept call ⟨i, member⟩
    exact kept (i, call) member
  · exact fun kept entry member => kept entry.2 ⟨entry.1, member⟩

theorem storable_getD {value : Option Json} :
    storable (value.getD .null) = true ↔ ∀ v, value = some v → storable v = true := by
  cases value with
  | none => exact iff_of_true rfl fun v none => by cases none
  | some v => simp

theorem storable_cacheInfo {a : Adapter} {request : DecisionRequest}
    (digest : storableText (a.stablePrefixDigest request) = true) (read written : Nat) :
    storable (.object (a.cacheInfo request read written)) = true := by
  simp [Adapter.cacheInfo, storable, digest]
  cases a.promptCaching <;> decide

theorem storableText_stopReason (reason : StopReason) : storableText reason.value = true := by
  cases reason <;> decide

/-- The message as it is replayed. -/
theorem storable_storedMessage {a : Adapter} {text : String} {truncated : Bool}
    {rawCalls : List Json} :
    storable (.object (storedMessage a text truncated rawCalls)) = true ↔
      storableText text = true ∧ (truncated = false → ∀ entry ∈ objectCalls rawCalls,
        storable (storedCall (toolAction a.loads entry.1 entry.2) entry.2) = true) := by
  have keys : storableText "content" = true ∧ storableText "tool_calls" = true := by decide
  unfold storedMessage
  cases truncated with
  | true => simp [storable, keys]
  | false =>
    cases rawCalls with
    | nil => simp [storable, keys, objectCalls]
    | cons call calls =>
      simp [storable, keys]

/-- The model that the trace names. -/
theorem storableText_servedModel {a : Adapter} {request : DecisionRequest} {latencyMs : Nat}
    {data choice message : Dict} {rawCalls : List Json} :
    storableText (turnOf a request latencyMs data choice message rawCalls).servedModel = true ↔
      (∀ v, data.get? "model" = some v → v.truthy = true → storableText v.text = true) ∧
        ((∀ v, data.get? "model" = some v → v.truthy = false) → storableText a.model = true) := by
  simp only [turnOf]
  cases data.get? "model" with
  | none => simp
  | some served => cases given : served.truthy <;> simp [given]

/-- The record of a turn is stored, exactly when the response brings in nothing else. -/
theorem isStorable_turnRecord {a : Adapter} {request : DecisionRequest}
    (digest : storableText (a.stablePrefixDigest request) = true) (latencyMs iteration : Nat)
    (data : Dict) :
    (Handed.step (turnRecord iteration (turnOf a request latencyMs data (firstChoice data)
      (spokenMessage data) (spokenCalls data)))).isStorable = true ↔ SpokenPlain a data := by
  have keys : ∀ key ∈ ["text", "actions", "stop_reason", "usage", "served_model",
      "provider_payload", "cache", "message", "generation_id", "upstream_provider",
      "finish_reason", "native_finish_reason", "usage_reported", "cost", "input_tokens",
      "output_tokens", "cache_read_input_tokens", "cache_creation_input_tokens",
      "reasoning_tokens", "model turn ", ": ", " tool call(s)"], storableText key = true := by
    decide
  simp only [List.mem_cons, List.not_mem_nil, or_false, forall_eq_or_imp, forall_eq] at keys
  have action : (Handed.step (turnRecord iteration (turnOf a request latencyMs data
      (firstChoice data) (spokenMessage data) (spokenCalls data)))).texts.all storableText =
      true := by
    simp only [Handed.texts, turnRecord, Option.toList_none, Option.toList_some, List.nil_append,
      List.all_cons, List.all_nil, storableText_append, storableText_toString, keys, Bool.and_self]
  have calls : ((∀ action ∈ actionsOf a (finishedBy ((firstChoice data).get? "finish_reason")
        "length") (spokenCalls data), storable (modelDump action) = true) ∧
      (finishedBy ((firstChoice data).get? "finish_reason") "length" = false →
        ∀ entry ∈ objectCalls (spokenCalls data),
          storable (storedCall (toolAction a.loads entry.1 entry.2) entry.2) = true)) ↔
      (finishedBy ((firstChoice data).get? "finish_reason") "length" = false →
        ∀ call, .object call ∈ spokenCalls data → PlainCall a.loads call) := by
    rw [← storable_calls]
    unfold actionsOf
    cases finishedBy ((firstChoice data).get? "finish_reason") "length" with
    | true => simp
    | false =>
      simp only [Bool.false_eq_true, if_false, List.forall_mem_map, true_imp_iff, forall_and]
  have fields : storable (.object (turnRecord iteration (turnOf a request latencyMs data
      (firstChoice data) (spokenMessage data) (spokenCalls data))).fields) = true ↔
      storableText (visibleText ((spokenMessage data).get? "content")) = true ∧
      (∀ action ∈ actionsOf a (finishedBy ((firstChoice data).get? "finish_reason")
        "length") (spokenCalls data), storable (modelDump action) = true) ∧
      storableText (turnOf a request latencyMs data (firstChoice data) (spokenMessage data)
        (spokenCalls data)).servedModel = true ∧
      storable (.object (storedMessage a (visibleText ((spokenMessage data).get? "content"))
        (finishedBy ((firstChoice data).get? "finish_reason") "length")
        (spokenCalls data))) = true ∧
      ∀ value ∈ spokenFields data, storable (value.getD .null) = true := by
    have counts : ∀ usage : List (String × Nat), (∀ u ∈ usage, storableText u.1 = true) →
        storable (.object (usage.map (fun u => (u.1, .int u.2)))) = true := by
      intro usage named
      rw [storable_object, storableFields_eq, List.all_map, List.all_eq_true]
      intro u member
      exact (Bool.and_true _).trans (named u member)
    have usage := counts (turnOf a request latencyMs data (firstChoice data) (spokenMessage data)
      (spokenCalls data)).usage (by simp [turnOf, keys])
    have cache : storable (.object (turnOf a request latencyMs data (firstChoice data)
        (spokenMessage data) (spokenCalls data)).cache) = true :=
      storable_cacheInfo digest _ _
    have stopped := storableText_stopReason (turnOf a request latencyMs data (firstChoice data)
      (spokenMessage data) (spokenCalls data)).stopReason
    have flag : ∀ b, storable (.bool b) = true := fun _ => rfl
    rw [turnRecord, ModelTurn.fields, storable_object]
    simp only [storableFields, keys, storable_str, usage, cache, stopped, Bool.true_and,
      Bool.and_true, Bool.and_eq_true]
    simp only [turnOf, storable_list, List.all_map, List.all_eq_true, Function.comp,
      storable_object, storableFields, keys, flag, spokenFields, List.mem_cons, List.not_mem_nil,
      or_false, forall_eq_or_imp, forall_eq, Bool.true_and, Bool.and_true, Bool.and_eq_true]
  rw [Handed.isStorable, action, Bool.and_true, Handed.fields, fields, storable_storedMessage,
    storableText_servedModel]
  constructor
  · rintro ⟨text, actions, ⟨served, configured⟩, ⟨_, stored⟩, others⟩
    exact
      { text
        calls := calls.mp ⟨actions, stored⟩
        fields := fun v member => storable_getD.mp (others (some v) member) v rfl
        served
        configured }
  · intro plain
    obtain ⟨actions, stored⟩ := calls.mpr plain.calls
    refine ⟨plain.text, actions, ⟨plain.served, plain.configured⟩, ⟨plain.text, stored⟩, ?_⟩
    intro value member
    refine storable_getD.mpr ?_
    rintro v rfl
    exact plain.fields v member

/-- A turn is made of the first choice of its response. -/
theorem eq_turnOf {a : Adapter} {request : DecisionRequest} {latencyMs status : Nat}
    {data : Dict} {said : ModelTurn}
    (decided : a.decide request latencyMs (.response status (some (.object data))) = .ok said) :
    said = turnOf a request latencyMs data (firstChoice data) (spokenMessage data)
      (spokenCalls data) := by
  simp only [Adapter.decide] at decided
  split_ifs at decided
  unfold readChoices at decided
  split at decided
  · next choice others choices =>
    have chosen : firstChoice data = choice := by simp only [firstChoice, choices]
    split_ifs at decided
    split at decided
    · next message found =>
      have spoken : spokenMessage data = message := by
        simp only [spokenMessage, chosen, found, Json.orEmpty]
      rw [chosen, spokenCalls, spoken]
      exact eq_of_readMessage decided
    · cases decided
  · cases decided

/-- The actions of a stored turn are plain. -/
theorem plainAction_of_spoken {a : Adapter} {request : DecisionRequest} {latencyMs : Nat}
    {data : Dict} (plain : SpokenPlain a data) {action : ModelAction}
    (member : action ∈ (turnOf a request latencyMs data (firstChoice data) (spokenMessage data)
      (spokenCalls data)).actions) : PlainAction action := by
  simp only [turnOf, actionsOf] at member
  split_ifs at member with truncated
  · cases member
  · obtain ⟨entry, listed, rfl⟩ := List.mem_map.mp member
    exact plainAction_iff.mpr
      ((storable_calls.mpr (plain.calls (Bool.eq_false_iff.mpr truncated))) entry listed).1

/-- **What a turn hands on is stored, exactly when its response is plain and so are the results
of the tools it executes.**  Nothing between the model and the trace takes U+0000 and the
numbers that are not finite out of a response. -/
theorem turn_storable_iff {schemas : Schemas} (plain : SchemasPlain schemas) {a : Adapter}
    {request : DecisionRequest} (digest : storableText (a.stablePrefixDigest request) = true)
    {latencyMs status : Nat} {data : Dict} {said : ModelTurn}
    (decided : a.decide request latencyMs (.response status (some (.object data))) = .ok said)
    (row : InvestigationRow) (iteration : Nat) (outcomes : List ToolOutcome) :
    let turn := Turn.of row iteration (finalTurnReason row iteration false)
    (∀ handed ∈ handedTurn schemas turn said outcomes, handed.isStorable = true) ↔
      SpokenPlain a data ∧
        ∀ outcome ∈ executedOutcomes turn (decisionJobs schemas said) outcomes,
          outcome.isStorable = true := by
  intro turn
  have saidIs := eq_turnOf decided
  simp only [handedTurn, List.forall_mem_cons]
  rw [saidIs, isStorable_turnRecord digest, ← saidIs]
  refine and_congr_right fun spoken => ?_
  refine handedJobs_storable plain ?_ (fun reason final => storableText_finalTurnReason final) _
  intro job member
  rcases jobFrom_of_mem member with ⟨action, listed, origin⟩ | none
  · rw [saidIs] at listed
    exact .inl ⟨action, plainAction_of_spoken spoken listed, origin⟩
  · exact .inr ⟨_, none⟩

/-- A response that says this and asks for logs. -/
def saidAndAsked (content : String) : Dict :=
  [("choices", .list [.object [("message", .object [("content", .str content),
    ("tool_calls", .list [.object [("id", .str "c1"),
      ("function", .object [("name", .str "get_logs")])]])])]])]

def logsAsked (content : String) : ModelTurn :=
  turnOf plainChat emptyRequest 1 (saidAndAsked content) (firstChoice (saidAndAsked content))
    (spokenMessage (saidAndAsked content)) (spokenCalls (saidAndAsked content))

def newRow : InvestigationRow := newInvestigation 0 0 1 "openai_compatible" "model" [] {}

theorem schemasPlain_desk : SchemasPlain deskEnv.schemas where
  updates := by
    intro _ _ _ valid
    cases valid
  conclusions := by
    intro _ _ _ valid
    cases valid
  declarations := by
    intro _ _ _ valid
    cases valid
  problems := by
    intro _ _ _ rejected p member
    rcases rejected with empty | empty | empty <;> cases empty <;> cases member

theorem spokenPlain_logs : SpokenPlain plainChat (saidAndAsked "The pool is exhausted.") where
  text := by decide
  calls := by
    intro _ call member
    obtain asked := List.mem_singleton.mp member
    cases asked
    exact (plainCall_iff (i := 0)).mpr ⟨plainAction_iff.mpr (by decide), by decide⟩
  fields := by
    intro v member
    have absent : spokenFields (saidAndAsked "The pool is exhausted.") =
        [none, none, none, none, none] := rfl
    simp [absent] at member
  served := by
    intro v served
    cases served
  configured := by
    intro
    decide

theorem turn_storable_iff_logs :
    SpokenPlain plainChat (saidAndAsked "The pool is exhausted.") ∧
      ∀ handed ∈ handedTurn deskEnv.schemas (.of newRow 1 (finalTurnReason newRow 1 false))
        (logsAsked "The pool is exhausted.") [{ ok := true, observation := "no logs" }],
          handed.isStorable = true :=
  have decided : plainChat.decide emptyRequest 1
      (.response 200 (some (.object (saidAndAsked "The pool is exhausted.")))) =
        .ok (logsAsked "The pool is exhausted.") := rfl
  ⟨spokenPlain_logs,
    (turn_storable_iff schemasPlain_desk rfl decided newRow 1 _).mpr ⟨spokenPlain_logs, by decide⟩⟩

/-- U+0000 in the visible text loses the turn. -/
theorem not_turn_storable :
    ¬ ∀ (schemas : Schemas) (a : Adapter) (request : DecisionRequest) (latencyMs status : Nat)
      (data : Dict) (said : ModelTurn) (row : InvestigationRow) (iteration : Nat)
      (outcomes : List ToolOutcome), SchemasPlain schemas →
      storableText (a.stablePrefixDigest request) = true →
      a.decide request latencyMs (.response status (some (.object data))) = .ok said →
      (∀ outcome ∈ outcomes, outcome.isStorable = true) →
      ∀ handed ∈ handedTurn schemas (.of row iteration (finalTurnReason row iteration false)) said
        outcomes, handed.isStorable = true := by
  intro stored
  have turn := stored deskEnv.schemas plainChat emptyRequest 1 200 (saidAndAsked "pool\x00") _
    newRow 1 [] schemasPlain_desk rfl rfl (by simp) _ List.mem_cons_self
  exact absurd turn (by decide)

/-! ## The run -/

/-- A step of the engine that hands something on runs one command of incident-core. -/
theorem work_submits {e : EngineEnv} {d : Desk} {now : Time} {replies : Replies} {s : Store}
    {phase : Phase} {handed : Handed} (hands : phase.hands = some handed) :
    (d.work e now replies s phase).1 = d.submit e now s handed := by
  have done : ∀ {α : Type} (outcome : Except DomainError (α × Store)) (next : α → Phase),
      (ifDone s outcome next).1 = committed s outcome := by
    intro α outcome next
    cases outcome <;> rfl
  cases phase with
  | acting turn jobs toolset =>
    cases jobs with
    | nil =>
      obtain ⟨reason, final, rfl⟩ := Option.map_eq_some_iff.mp hands
      simp only [Desk.work, final]
      exact done _ _
    | cons job jobs =>
      cases job with
      | request asked =>
        obtain ⟨refusal, refused, rfl⟩ := Option.map_eq_some_iff.mp hands
        simp only [Desk.work, Desk.process, refused]
        exact done _ _
      | noAction | update | invalid | conclude | declare =>
        obtain rfl := Option.some.inj hands
        exact done _ _
  | answering turn asked outcome jobs toolset =>
    obtain rfl := Option.some.inj hands
    exact done _ _
  | claimed | contextual | looping | loaded | noticed | asking | failing | ended => cases hands

/-- The steps of one turn after its record, with what they hand on. -/
inductive TurnRun (e : EngineEnv) (d : Desk) : Phase → List Handed → Prop
  | stop (phase : Phase) : TurnRun e d phase []
  | acts (now : Time) (replies : Replies) (s : Store) {turn : Turn} {jobs : List Job}
      {toolset : ToolExecutor} {handed : List Handed}
      (goesOn : TurnRun e d (d.work e now replies s (.acting turn jobs toolset)).2 handed) :
      TurnRun e d (.acting turn jobs toolset)
        ((Phase.acting turn jobs toolset).hands.toList ++ handed)
  | answers (now : Time) (replies : Replies) (s : Store) {turn : Turn} {asked : ToolRequest}
      {outcome : ToolOutcome} {jobs : List Job} {toolset : ToolExecutor} {handed : List Handed}
      (goesOn : TurnRun e d
        (d.work e now replies s (.answering turn asked outcome jobs toolset)).2 handed) :
      TurnRun e d (.answering turn asked outcome jobs toolset)
        ((Phase.answering turn asked outcome jobs toolset).hands.toList ++ handed)

/-- What is left to hand on in a turn. -/
def handedFrom (outcomes : List ToolOutcome) : Phase → List Handed
  | .acting turn jobs _ => handedJobs turn jobs outcomes
  | .answering turn asked outcome jobs _ =>
    .step (toolRecord turn.iteration asked outcome) ::
      handedJobs (turn.spend outcome) jobs outcomes
  | _ => []

/-- A command that raises ends the run. -/
theorem ifDone_phase {α : Type} (s : Store) (outcome : Except DomainError (α × Store))
    (next : α → Phase) :
    (∃ a, (ifDone s outcome next).2 = next a) ∨ (ifDone s outcome next).2 = .ended none := by
  cases outcome with
  | error _ => exact .inr rfl
  | ok made => exact .inl ⟨made.1, rfl⟩

/-- What a run hands on is the beginning of what its turn hands on. -/
theorem TurnRun.handed_prefix {e : EngineEnv} {d : Desk} {phase : Phase} {handed : List Handed}
    (run : TurnRun e d phase handed) :
    ∃ outcomes, handed <+: handedFrom outcomes phase := by
  -- What follows the job after its command, or after the run is over.
  have follows : ∀ {α : Type} {s : Store} {made : Except DomainError (α × Store)}
      {next : α → Phase} {turn : Turn} {jobs : List Job} (toolset : ToolExecutor)
      {outcomes : List ToolOutcome} (first : List Handed) {handed : List Handed},
      (∀ a, next a = .acting turn jobs toolset ∨ ∃ status, next a = .ended status) →
      handed <+: handedFrom outcomes (ifDone s made next).2 →
        first ++ handed <+: first ++ handedJobs turn jobs outcomes := by
    intro α s made next turn jobs toolset outcomes first handed leads later
    have halts : ∀ status, handed <+: handedFrom outcomes (.ended status) →
        first ++ handed <+: first ++ handedJobs turn jobs outcomes := by
      intro status none
      rw [List.prefix_nil.mp none]
      exact (List.prefix_append_right_inj first).mpr List.nil_prefix
    rcases ifDone_phase s made next with ⟨a, led⟩ | raised
    · rcases leads a with acting | ⟨status, ended⟩
      · rw [led, acting] at later
        exact (List.prefix_append_right_inj first).mpr later
      · exact halts status (ended ▸ led ▸ later)
    · exact halts _ (raised ▸ later)
  induction run with
  | stop phase => exact ⟨[], List.nil_prefix⟩
  | @acts now replies s turn jobs toolset handed goesOn ih =>
    obtain ⟨outcomes, later⟩ := ih
    cases jobs with
    | nil =>
      refine ⟨outcomes, ?_⟩
      have nothing : handed = [] := by
        refine List.prefix_nil.mp ?_
        cases final : turn.finalReason with
        | none =>
          simp only [Desk.work, final] at later
          exact later
        | some reason =>
          simp only [Desk.work, final, Desk.escalate, ifDone] at later
          split at later <;> exact later
      subst nothing
      cases final : turn.finalReason with
      | none => simp [Phase.hands, handedFrom, handedJobs, final]
      | some reason => simp [Phase.hands, handedFrom, handedJobs, final]
    | cons job jobs =>
      cases job with
      | request asked =>
        cases refused : turn.refusal asked with
        | some refusal =>
          refine ⟨outcomes, ?_⟩
          simp only [Desk.work, Desk.process, refused] at later
          have onward := follows toolset (Phase.acting turn (.request asked :: jobs)
            toolset).hands.toList (fun _ => .inl rfl) later
          simpa only [Phase.hands, handedFrom, handedJobs, Job.hands, refused, Option.map_some,
            Option.toList_some, List.singleton_append] using onward
        | none =>
          simp only [Desk.work, Desk.process, refused] at later
          refine ⟨(executeTool e.compact toolset replies.tool asked.tool asked.arguments).1 ::
            outcomes, ?_⟩
          simpa only [Phase.hands, handedFrom, handedJobs, Job.hands, refused, Option.map_none,
            Option.toList_none, List.nil_append] using later
      | noAction | update | invalid =>
        exact ⟨outcomes, follows toolset _ (fun _ => .inl rfl) later⟩
      | conclude call =>
        refine ⟨outcomes, follows toolset _ (fun made => ?_) later⟩
        split_ifs
        · exact .inr ⟨_, rfl⟩
        · exact .inl rfl
      | declare call => exact ⟨outcomes, follows toolset _ (fun _ => .inr ⟨_, rfl⟩) later⟩
  | @answers now replies s turn asked outcome jobs toolset handed goesOn ih =>
    obtain ⟨outcomes, later⟩ := ih
    exact ⟨outcomes, follows toolset _ (fun _ => .inl rfl) later⟩

/-- The engine hands on the record of a turn, and then what `handedTurn` lists: all of it, or
what comes before the end of the run. -/
theorem turn_handed {e : EngineEnv} {d : Desk} {state : InvestigationState} {iteration : Nat}
    {finalReason : Option String} {toolset : ToolExecutor} {said : ModelTurn}
    {handed : List Handed}
    (run : TurnRun e d (.acting (.of state.investigation iteration finalReason)
      (decisionJobs e.schemas said) toolset) handed) :
    ∃ outcomes, .step (turnRecord iteration said) :: handed <+:
      handedTurn e.schemas (.of state.investigation iteration finalReason) said outcomes := by
  obtain ⟨outcomes, listed⟩ := run.handed_prefix
  exact ⟨outcomes, (List.prefix_cons_inj _).mpr listed⟩

/-- The model's turn is recorded, and its jobs follow. -/
theorem asking_submits {e : EngineEnv} {d : Desk} {now : Time} {replies : Replies} {s : Store}
    {state : InvestigationState} {iteration attempt : Nat} {finalReason : Option String}
    {toolset : ToolExecutor} {said : ModelTurn} (answered : replies.model = .ok said)
    (allowed : attempt ≤ d.engine.attempts) :
    (d.work e now replies s (.asking state iteration finalReason attempt toolset)).1 =
      d.submit e now s (.step (turnRecord iteration said)) ∧
    ((d.work e now replies s (.asking state iteration finalReason attempt toolset)).2 =
        .acting (.of state.investigation iteration finalReason) (decisionJobs e.schemas said)
          toolset ∨
      (d.work e now replies s (.asking state iteration finalReason attempt toolset)).2 =
        .ended none) := by
  simp only [Desk.work, if_neg (Nat.not_lt.mpr allowed), answered, Desk.submit, Desk.record]
  constructor
  · cases recordStep now s d.id d.engine.owner
      { turnRecord iteration said with leaseSeconds := d.engine.leaseSeconds } <;> rfl
  · exact (ifDone_phase s _ _).imp_left fun led => led.choose_spec

end IncidentTriage.Verified
