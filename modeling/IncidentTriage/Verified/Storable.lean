import IncidentTriage.Agents.Handed
import IncidentTriage.Python.Text
import IncidentTriage.Python.Uuids
import IncidentTriage.Verified.PendingJobs

/-! # What can be stored

Texts and values that the columns hold: what the engine makes of them can be stored too.  A
job of a turn whose actions are plain hands on nothing else.
-/

namespace IncidentTriage.Verified

open IncidentTriage.Python IncidentTriage.Domain IncidentTriage.Incident IncidentTriage.Tools
  IncidentTriage.Agents

/-! ## Texts -/

theorem storableText_iff {text : String} :
    storableText text = true ↔ ∀ c ∈ text.toList, c.toNat ≠ 0 := by
  simp [storableText]

@[simp] theorem storableText_append (a b : String) :
    storableText (a ++ b) = (storableText a && storableText b) := by
  simp [storableText, List.all_append]

theorem storableText_truncate {text : String} (plain : storableText text = true) (limit : Nat) :
    storableText (truncate text limit) = true := by
  rw [storableText_iff] at plain ⊢
  intro c member
  rw [truncate, String.toList_ofList] at member
  exact plain c (List.mem_of_mem_take member)

theorem storableText_intercalate {separator : String} {texts : List String}
    (separated : storableText separator = true) (each : ∀ t ∈ texts, storableText t = true) :
    storableText (separator.intercalate texts) = true := by
  induction texts with
  | nil => rfl
  | cons text texts ih =>
    have first := each text List.mem_cons_self
    have later := ih fun t member => each t (List.mem_cons_of_mem _ member)
    by_cases empty : texts = []
    · subst empty
      simpa using first
    · rw [String.intercalate_cons_of_ne_nil empty, storableText_append, storableText_append, first,
        separated, later]
      rfl

theorem storableText_toString (n : Nat) : storableText (toString n) = true := by
  rw [storableText_iff]
  intro c member zero
  have digit : c.isDigit = true := isDigit_of_mem_toDigits c (by simpa using member)
  simp only [Char.isDigit, Bool.and_eq_true, decide_eq_true_eq] at digit
  have low : 48 ≤ c.toNat := digit.1
  omega

theorem hexDigit_stored {n : Nat} (small : n < 16) : (hexDigit n).toNat ≠ 0 := by
  interval_cases n <;> decide

/-- `repr` escapes what cannot be stored. -/
theorem storableText_quoteRepr (text : String) : storableText (quoteRepr text) = true := by
  have quoted : ∀ quote : Char, quote.toNat ≠ 0 → ∀ c d, d ∈ reprChar quote c → d.toNat ≠ 0 := by
    intro quote mark c d member
    unfold reprChar at member
    split_ifs at member with escaped newline return_ tab shown
    · simp only [List.mem_cons, List.not_mem_nil, or_false] at member
      rcases member with rfl | rfl
      · decide
      · rcases Bool.or_eq_true _ _ |>.mp escaped with same | same
        · exact beq_iff_eq.mp same ▸ mark
        · exact beq_iff_eq.mp same ▸ by decide
    · simp only [List.mem_cons, List.not_mem_nil, or_false] at member
      rcases member with rfl | rfl <;> decide
    · simp only [List.mem_cons, List.not_mem_nil, or_false] at member
      rcases member with rfl | rfl <;> decide
    · simp only [List.mem_cons, List.not_mem_nil, or_false] at member
      rcases member with rfl | rfl <;> decide
    · obtain rfl := List.mem_singleton.mp member
      intro zero
      simp [printable, zero] at shown
    · rcases List.mem_append.mp member with mark | digit
      · simp only [List.mem_cons, List.not_mem_nil, or_false] at mark
        rcases mark with rfl | rfl <;> decide
      · obtain ⟨m, small, rfl⟩ := eq_hexDigit_of_mem digit
        exact hexDigit_stored small
  have mark : ∀ quote : Char, quote.toNat ≠ 0 →
      storableText (String.ofList ([quote] ++ text.toList.flatMap (reprChar quote) ++ [quote])) =
        true := by
    intro quote stored
    rw [storableText_iff, String.toList_ofList]
    intro d member
    simp only [List.mem_append, List.mem_singleton, List.mem_flatMap] at member
    rcases member with (rfl | ⟨c, _, inside⟩) | rfl
    · exact stored
    · exact quoted quote stored c d inside
    · exact stored
  simp only [quoteRepr]
  split_ifs
  · exact mark '"' (by decide)
  · exact mark '\'' (by decide)

/-! ## Values -/

@[simp] theorem storable_str (text : String) : storable (.str text) = storableText text := rfl

@[simp] theorem storable_object (fields : Dict) :
    storable (.object fields) = storableFields fields := by rw [storable]

@[simp] theorem storableItems_eq (items : List Json) :
    storableItems items = items.all storable := by
  induction items with
  | nil => rfl
  | cons item items ih => simp [storableItems, ih]

@[simp] theorem storableFields_eq (fields : Dict) :
    storableFields fields = fields.all (fun f => storableText f.1 && storable f.2) := by
  induction fields with
  | nil => rfl
  | cons field fields ih => simp [storableFields, ih]

@[simp] theorem storable_list (items : List Json) :
    storable (.list items) = items.all storable := by rw [storable, storableItems_eq]

/-- What is falsy can be stored. -/
theorem storable_of_falsy {v : Json} (falsy : v.truthy = false) : storable v = true := by
  cases v with
  | null => rfl
  | bool b => rfl
  | int i => rfl
  | float x =>
    have zero : x.value.eq (.finite 0) = true := by simpa [Json.truthy] using falsy
    cases value : x.value with
    | finite q => simp [storable, value]
    | nan => simp [value, FloatValue.eq] at zero
    | posInf => simp [value, FloatValue.eq] at zero
    | negInf => simp [value, FloatValue.eq] at zero
  | str text =>
    have empty : text = "" := by simpa [Json.truthy] using falsy
    subst empty
    rfl
  | list items =>
    have empty : items = [] := by simpa [Json.truthy] using falsy
    subst empty
    rfl
  | object fields =>
    have empty : fields = [] := by simpa [Json.truthy] using falsy
    subst empty
    rfl

/-! ## What becomes of an action -/

/-- A job that an action of the turn leads to. -/
inductive JobFrom (schemas : Schemas) (action : ModelAction) : Job → Prop
  | update (batch : HypothesisUpdateBatch)
      (valid : schemas.hypothesisUpdateBatch action.arguments = .ok batch) :
      JobFrom schemas action (.update { callId := action.callId, batch })
  | request : JobFrom schemas action (.request
      { callId := action.callId, tool := action.name, arguments := action.arguments })
  | conclude (result : FinalInvestigationResult)
      (valid : schemas.finalInvestigationResult action.arguments = .ok result) :
      JobFrom schemas action (.conclude { callId := action.callId, result })
  | declare (declaration : InconclusiveDeclaration)
      (valid : schemas.inconclusiveDeclaration action.arguments = .ok declaration) :
      JobFrom schemas action (.declare { callId := action.callId, declaration })
  | invalid (error : String)
      (origin : error = oneTerminalCall ∨ error = "unknown tool " ++ quoteRepr action.name ∨
        ∃ problems, error = errorText problems ∧
          (schemas.hypothesisUpdateBatch action.arguments = .error problems ∨
            schemas.finalInvestigationResult action.arguments = .error problems ∨
            schemas.inconclusiveDeclaration action.arguments = .error problems)) :
      JobFrom schemas action (.invalid { callId := action.callId, name := action.name, error })

theorem mem_jobList_invalid {d : InvestigationDecision} {action : ModelAction} {error : String}
    {job : Job} (member : job ∈ jobList (d.invalid action error)) :
    job ∈ jobList d ∨
      job = .invalid { callId := action.callId, name := action.name, error } := by
  simp only [mem_jobList, InvestigationDecision.invalid, List.mem_append,
    List.mem_singleton] at member ⊢
  rcases member with old | ⟨call, here | rfl, rfl⟩ | old
  · exact .inl (.inl old)
  · exact .inl (.inr (.inl ⟨call, here, rfl⟩))
  · exact .inr rfl
  · exact .inl (.inr (.inr old))

/-- One action adds one job. -/
theorem mem_interpretAction {schemas : Schemas} {names : List String} {d : InvestigationDecision}
    {action : ModelAction} {job : Job}
    (member : job ∈ jobList (interpretAction schemas names d action)) :
    job ∈ jobList d ∨ JobFrom schemas action job := by
  have rejected : ∀ error, (error = oneTerminalCall ∨
      error = "unknown tool " ++ quoteRepr action.name ∨
      ∃ problems, error = errorText problems ∧
        (schemas.hypothesisUpdateBatch action.arguments = .error problems ∨
          schemas.finalInvestigationResult action.arguments = .error problems ∨
          schemas.inconclusiveDeclaration action.arguments = .error problems)) →
      job ∈ jobList (d.invalid action error) → job ∈ jobList d ∨ JobFrom schemas action job := by
    intro error origin here
    refine (mem_jobList_invalid here).imp_right ?_
    rintro rfl
    exact .invalid error origin
  unfold interpretAction at member
  by_cases update : action.name = updateHypotheses
  · rw [if_pos update] at member
    split at member
    · rename_i problems invalid
      exact rejected _ (.inr (.inr ⟨problems, rfl, .inl invalid⟩)) member
    · rename_i batch valid
      simp only [mem_jobList, List.mem_append, List.mem_singleton] at member ⊢
      rcases member with ⟨call, here | rfl, rfl⟩ | other
      · exact .inl (.inl ⟨call, here, rfl⟩)
      · exact .inr (.update batch valid)
      · exact .inl (.inr other)
  rw [if_neg update] at member
  by_cases concluding : action.name = concludeInvestigation
  · rw [if_pos concluding] at member
    split at member
    · rename_i problems invalid
      exact rejected _ (.inr (.inr ⟨problems, rfl, .inr (.inl invalid)⟩)) member
    · rename_i result valid
      split_ifs at member with taken
      · exact rejected _ (.inl rfl) member
      · simp only [mem_jobList, Option.some.injEq] at member ⊢
        rcases member with old | old | old | ⟨call, rfl, rfl⟩ | old
        · exact .inl (.inl old)
        · exact .inl (.inr (.inl old))
        · exact .inl (.inr (.inr (.inl old)))
        · exact .inr (.conclude result valid)
        · exact .inl (.inr (.inr (.inr (.inr old))))
  rw [if_neg concluding] at member
  by_cases declaring : action.name = declareInconclusive
  · rw [if_pos declaring] at member
    split at member
    · rename_i problems invalid
      exact rejected _ (.inr (.inr ⟨problems, rfl, .inr (.inr invalid)⟩)) member
    · rename_i declaration valid
      split_ifs at member with taken
      · exact rejected _ (.inl rfl) member
      · simp only [mem_jobList, Option.some.injEq] at member ⊢
        rcases member with old | old | old | old | ⟨call, rfl, rfl⟩
        · exact .inl (.inl old)
        · exact .inl (.inr (.inl old))
        · exact .inl (.inr (.inr (.inl old)))
        · exact .inl (.inr (.inr (.inr (.inl old))))
        · exact .inr (.declare declaration valid)
  rw [if_neg declaring] at member
  split_ifs at member with requested
  · simp only [mem_jobList, List.mem_append, List.mem_singleton] at member ⊢
    rcases member with old | old | ⟨call, here | rfl, rfl⟩ | other
    · exact .inl (.inl old)
    · exact .inl (.inr (.inl old))
    · exact .inl (.inr (.inr (.inl ⟨call, here, rfl⟩)))
    · exact .inr .request
    · exact .inl (.inr (.inr (.inr other)))
  · exact rejected _ (.inr (.inl rfl)) member

/-- Every job of a turn comes from one of its actions, or says that there is none. -/
theorem jobFrom_of_mem {schemas : Schemas} {said : ModelTurn} {job : Job}
    (member : job ∈ decisionJobs schemas said) :
    (∃ action ∈ said.actions, JobFrom schemas action job) ∨
      job = .noAction said.stopReason.value := by
  have folded : ∀ (actions : List ModelAction) (d : InvestigationDecision),
      job ∈ jobList (actions.foldl (interpretAction schemas evidenceToolNames) d) →
      job ∈ jobList d ∨ ∃ action ∈ actions, JobFrom schemas action job := by
    intro actions
    induction actions with
    | nil => exact fun d here => .inl here
    | cons action actions ih =>
      intro d here
      rcases ih _ here with before | ⟨other, listed, origin⟩
      · exact (mem_interpretAction before).imp_right
          fun origin => ⟨action, List.mem_cons_self, origin⟩
      · exact .inr ⟨other, List.mem_cons_of_mem _ listed, origin⟩
  unfold decisionJobs jobsOf at member
  split_ifs at member
  · rcases folded said.actions _ member with none | some
    · simp [jobList] at none
    · exact .inl some
  · exact .inr (List.mem_singleton.mp member)

/-! ## What is handed on for a job -/

/-- The texts that the schemas report are made of the schema's own and of the arguments: they
bring in nothing that a column refuses. -/
structure SchemasPlain (schemas : Schemas) : Prop where
  updates : ∀ arguments batch, storable (.object arguments) = true →
    schemas.hypothesisUpdateBatch arguments = .ok batch →
      ∀ t ∈ batch.updates.flatMap updateTexts, storableText t = true
  conclusions : ∀ arguments result, storable (.object arguments) = true →
    schemas.finalInvestigationResult arguments = .ok result →
      storableText result.selectedHypothesisKey = true ∧
        ∀ t ∈ rcaTexts result.rca, storableText t = true
  declarations : ∀ arguments declaration, storable (.object arguments) = true →
    schemas.inconclusiveDeclaration arguments = .ok declaration →
      storableText declaration.reason = true ∧
        ∀ t ∈ declaration.evidenceGaps, storableText t = true
  problems : ∀ arguments problems, storable (.object arguments) = true →
    schemas.hypothesisUpdateBatch arguments = .error problems ∨
      schemas.finalInvestigationResult arguments = .error problems ∨
      schemas.inconclusiveDeclaration arguments = .error problems →
      ∀ p ∈ problems, storableText p.text = true

/-- An action whose texts and numbers can be stored. -/
structure PlainAction (action : ModelAction) : Prop where
  callId : storableText action.callId = true
  name : storableText action.name = true
  arguments : storable (.object action.arguments) = true

theorem storableText_errorText {problems : List Problem}
    (each : ∀ p ∈ problems, storableText p.text = true) :
    storableText (errorText problems) = true := by
  refine storableText_truncate (storableText_intercalate (by decide) ?_) _
  intro t member
  obtain ⟨p, listed, rfl⟩ := List.mem_map.mp member
  exact each p listed

theorem storableText_noActionText (stopReason : String) :
    storableText (noActionText stopReason) = true := by
  unfold noActionText
  split_ifs <;> decide +kernel

theorem storableText_refusal {turn : Turn} {request : ToolRequest} {code text : String}
    (refused : turn.refusal request = some (code, text)) :
    storableText code = true ∧ storableText text = true := by
  unfold Turn.refusal at refused
  split_ifs at refused
  · cases refused
    decide
  · cases refused
    decide

/-- What is handed on for a job of a plain action is stored. -/
theorem isStorable_of_job {schemas : Schemas} (plain : SchemasPlain schemas) {action : ModelAction}
    (kept : PlainAction action) {job : Job} (origin : JobFrom schemas action job) {turn : Turn}
    {handed : Handed} (hands : job.hands turn = some handed) : handed.isStorable = true := by
  cases origin with
  | update batch valid =>
    obtain rfl := Option.some.inj hands
    have texts := plain.updates _ _ kept.arguments valid
    simp only [Handed.isStorable, Handed.fields, Handed.texts, List.all_cons, kept.callId,
      Bool.and_eq_true, List.all_eq_true]
    exact ⟨rfl, trivial, texts⟩
  | request =>
    obtain ⟨⟨code, text⟩, refused, rfl⟩ := Option.map_eq_some_iff.mp hands
    obtain ⟨codeStored, textStored⟩ := storableText_refusal refused
    have arguments := kept.arguments
    simp only [storable, storableFields_eq] at arguments
    simp [Handed.isStorable, Handed.fields, Handed.texts, refusedRecord, storable, kept.callId,
      kept.name, codeStored, textStored, arguments]
    decide
  | conclude result valid =>
    obtain rfl := Option.some.inj hands
    obtain ⟨key, texts⟩ := plain.conclusions _ _ kept.arguments valid
    simp only [Handed.isStorable, Handed.fields, Handed.texts, List.all_cons, kept.callId, key,
      Bool.and_eq_true, List.all_eq_true]
    exact ⟨rfl, trivial, trivial, texts⟩
  | declare declaration valid =>
    obtain rfl := Option.some.inj hands
    obtain ⟨reason, gaps⟩ := plain.declarations _ _ kept.arguments valid
    simp [Handed.isStorable, Handed.fields, Handed.texts, storable, kept.callId, reason]
    exact ⟨by decide, gaps⟩
  | invalid error origin =>
    obtain rfl := Option.some.inj hands
    have stored : storableText error = true := by
      rcases origin with rfl | rfl | ⟨problems, rfl, rejected⟩
      · decide
      · rw [storableText_append, storableText_quoteRepr]
        decide
      · exact storableText_errorText (plain.problems _ _ kept.arguments rejected)
    simp [Handed.isStorable, Handed.fields, Handed.texts, invalidRecord, storable, kept.callId,
      kept.name, stored]
    decide

/-- The step of a tool request is stored, exactly when what the tool's result adds is. -/
theorem isStorable_toolRecord (iteration : Nat) {request : ToolRequest} (outcome : ToolOutcome)
    (callId : storableText request.callId = true) (tool : storableText request.tool = true)
    (arguments : storable (.object request.arguments) = true) :
    (Handed.step (toolRecord iteration request outcome)).isStorable = outcome.isStorable := by
  have optional : ∀ value : Option String,
      storable (optionalText value) = value.all storableText := by
    intro value
    cases value <;> rfl
  have key : ∀ key ∈ ["tool", "arguments", "ok", "error_code", "summary", "observation",
      "is_error", "counted", " -> ", "None"], storableText key = true := by decide
  simp only [List.mem_cons, List.not_mem_nil, or_false, forall_eq_or_imp, forall_eq] at key
  have fields : storable (.object (toolRecord iteration request outcome).fields) =
      outcome.isStorable := by
    have asked : storable (.str request.tool) = true := tool
    have observed : storable (.str outcome.observation) = storableText outcome.observation := rfl
    have flag : ∀ b, storable (.bool b) = true := fun _ => rfl
    rw [storable]
    simp only [toolRecord, storableFields, key, asked, arguments, flag, optional, observed,
      ToolOutcome.isStorable, Bool.true_and, Bool.and_true]
    cases storableText outcome.observation <;> cases outcome.errorCode.all storableText <;>
      cases outcome.summary.all storableText <;> rfl
  have texts : outcome.isStorable = true →
      (Handed.step (toolRecord iteration request outcome)).texts.all storableText = true := by
    intro stored
    have code : storableText (if outcome.ok then "ok" else outcome.errorCode.getD "None") =
        true := by
      simp only [ToolOutcome.isStorable, Bool.and_eq_true] at stored
      split_ifs
      · decide
      · cases found : outcome.errorCode with
        | none => decide
        | some code => simpa [found] using stored.1.2
    simp [Handed.texts, toolRecord, callId, tool, key, code]
  simp only [Handed.isStorable, Handed.fields, fields]
  cases stored : outcome.isStorable with
  | false => rfl
  | true => rw [texts stored]; rfl

/-- The reason a turn is the last one can be stored. -/
theorem storableText_finalTurnReason {row : InvestigationRow} {iteration : Nat} {pending : Bool}
    {reason : String} (final : finalTurnReason row iteration pending = some reason) :
    storableText reason = true := by
  simp only [finalTurnReason] at final
  split_ifs at final <;> cases final <;>
    simp only [storableText_append, storableText_toString, Bool.and_true] <;> decide

theorem isStorable_finalTurnOver {iteration : Nat} {reason : String}
    (stored : storableText reason = true) :
    (Handed.escalation iteration (finalTurnOver reason)).isStorable = true := by
  simp [Handed.isStorable, Handed.fields, Handed.texts, finalTurnOver, budgetExhausted, storable,
    stored]
  decide

theorem isStorable_noAction (iteration : Nat) (stopReason : String) :
    (Handed.step (feedbackRecord iteration (noActionText stopReason) "no_action")).isStorable =
      true := by
  simp [Handed.isStorable, Handed.fields, Handed.texts, feedbackRecord, storable,
    storableText_noActionText]
  decide

/-- A job of this turn: it comes from a plain action, or says that there is none. -/
def PlainJob (schemas : Schemas) (job : Job) : Prop :=
  (∃ action, PlainAction action ∧ JobFrom schemas action job) ∨
    ∃ stopReason, job = .noAction stopReason

theorem PlainJob.isStorable {schemas : Schemas} (plain : SchemasPlain schemas) {job : Job}
    (kept : PlainJob schemas job) {turn : Turn} {handed : Handed}
    (hands : job.hands turn = some handed) : handed.isStorable = true := by
  rcases kept with ⟨action, kept, origin⟩ | ⟨stopReason, rfl⟩
  · exact isStorable_of_job plain kept origin hands
  · obtain rfl := Option.some.inj hands
    exact isStorable_noAction turn.iteration stopReason

/-- Of the jobs of plain actions, all is stored exactly when the outcomes of the tools are. -/
theorem handedJobs_storable {schemas : Schemas} (plain : SchemasPlain schemas) {jobs : List Job}
    (kept : ∀ job ∈ jobs, PlainJob schemas job) {turn : Turn}
    (final : ∀ reason, turn.finalReason = some reason → storableText reason = true)
    (outcomes : List ToolOutcome) :
    (∀ handed ∈ handedJobs turn jobs outcomes, handed.isStorable = true) ↔
      ∀ outcome ∈ executedOutcomes turn jobs outcomes, outcome.isStorable = true := by
  induction jobs generalizing turn outcomes with
  | nil =>
    simp only [handedJobs, executedOutcomes, List.not_mem_nil, false_imp_iff, implies_true,
      iff_true]
    cases reason : turn.finalReason with
    | none => simp
    | some text => simpa using isStorable_finalTurnOver (final text reason)
  | cons job jobs ih =>
    have first := kept job List.mem_cons_self
    have later := fun j member => kept j (List.mem_cons_of_mem job member)
    have handsOn : (∀ handed ∈ (job.hands turn).toList ++ handedJobs turn jobs outcomes,
        handed.isStorable = true) ↔
        ∀ outcome ∈ executedOutcomes turn jobs outcomes, outcome.isStorable = true := by
      simp only [List.mem_append, Option.mem_toList, or_imp, forall_and]
      rw [ih later final]
      exact and_iff_right fun handed hands => first.isStorable plain hands
    cases job with
    | noAction | update | invalid | conclude | declare => exact handsOn
    | request asked =>
      cases refused : turn.refusal asked with
      | some refusal =>
        simp only [handedJobs, executedOutcomes, Job.hands, refused, Option.map_some] at handsOn ⊢
        exact handsOn
      | none =>
        simp only [handedJobs, executedOutcomes, Job.hands, refused, Option.map_none]
        cases outcomes with
        | nil => simp
        | cons outcome outcomes =>
          have step : (Handed.step (toolRecord turn.iteration asked outcome)).isStorable =
              outcome.isStorable := by
            rcases first with ⟨action, action_kept, origin⟩ | ⟨_, none⟩
            · cases origin
              exact isStorable_toolRecord _ _ action_kept.callId action_kept.name
                action_kept.arguments
            · cases none
          have spent : ∀ reason, (turn.spend outcome).finalReason = some reason →
              storableText reason = true := final
          simp only [List.forall_mem_cons, step, ih later spent]

end IncidentTriage.Verified
