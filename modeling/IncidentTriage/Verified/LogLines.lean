import IncidentTriage.Evidence.Loki

/-! # Log lines of any content

A line's severity is whatever JSON the service wrote.  The adapter gives an observation, which
counts every line once, exactly where the severities can be keys together.
-/

namespace IncidentTriage.Verified

open IncidentTriage.Python IncidentTriage.Domain IncidentTriage.Tools IncidentTriage.Evidence
  IncidentTriage.Evidence.Loki

/-! ## The property -/

/-- The answer leads to an observation that counts each line, and the executor to a result. -/
structure NormalisesLogs (p : LineParser) (limit : Nat) (streams : List LogStream) : Prop where
  observed : ∃ groups view,
    addLines p [] (linesOf streams) = .ok groups ∧ queryLogs p limit streams = .ok view ∧
      view.linesFetched = (streams.map (fun stream => stream.values.length)).sum ∧
      (groups.map (fun group => group.2.count)).sum = view.linesFetched ∧
      (view.severityCounts.map (fun count => count.2)).sum = view.linesFetched
  answered : ∀ (x : ToolExecutor) (problems : List Problem) (record : LogView → EvidenceItem)
    (arguments : Dict), ∃ outcome,
      x.executeLogs problems ((queryLogs p limit streams).map record) arguments = .ok outcome

/-! ## The condition -/

/-- The severity of a line, `None` where it is no JSON object. -/
def severityOf (p : LineParser) (line : String) : Json :=
  match p.loads line with
  | some (.object parsed) => (Dict.get? parsed "severity").getD .null
  | _ => .null

def isNonzeroNumber (severity : Json) : Bool := severity.truthy && severity.number?.isSome

/-- No severity is a list or an object, and none is a number where another is a text, falsy or
missing; no line is nested too deep. -/
structure PlainSeverities (p : LineParser) (lines : List String) : Prop where
  shallow : ∀ line ∈ lines, p.tooDeep line = false
  scalar : ∀ line ∈ lines, (severityOf p line).isScalar = true
  alike : ∀ line ∈ lines, ∀ line' ∈ lines,
    isNonzeroNumber (severityOf p line) = isNonzeroNumber (severityOf p line')

/-! ## Keys -/

theorem eq_of_floatEq {x y : FloatValue} (same : x.eq y = true) : x = y := by
  cases x with
  | nan => cases y <;> cases same
  | finite _ | posInf | negInf => cases y <;> simp_all [FloatValue.eq]

theorem number_of_eq {a b : Json} (same : a.eq b = true) : a.number? = b.number? := by
  unfold Json.eq at same
  split at same
  · rfl
  · rfl
  · rfl
  · rfl
  · split at same
    next x y left right =>
      rw [left, right, eq_of_floatEq same]
    next => cases same

theorem number_of_sameKey {a b : Json} (same : sameKey a b = true) : a.number? = b.number? := by
  rcases (Bool.or_eq_true _ _).mp same with equal | nans
  · exact number_of_eq equal
  · obtain ⟨left, right⟩ := (Bool.and_eq_true _ _).mp nans
    rw [eq_of_beq left, eq_of_beq right]

theorem truthy_of_number {a : Json} {x : FloatValue} (number : a.number? = some x) :
    a.truthy = !x.eq (.finite 0) := by
  cases a with
  | bool b =>
    obtain rfl := Option.some.inj number
    cases b <;> simp [Json.truthy, FloatValue.eq]
  | int n =>
    obtain rfl := Option.some.inj number
    simp [Json.truthy, FloatValue.eq, bne, beq_eq_decide]
  | float y =>
    obtain rfl := Option.some.inj number
    rfl
  | null | str _ | list _ | object _ => cases number

/-- The kind of a key depends on the number it is, if any. -/
theorem isNonzeroNumber_eq (a : Json) :
    isNonzeroNumber a = (a.number?.any fun x => !x.eq (.finite 0)) := by
  unfold isNonzeroNumber
  cases number : a.number? with
  | none => simp
  | some x => simp [truthy_of_number number]

theorem kind_of_sameKey {a b : Json} (same : sameKey a b = true) :
    isNonzeroNumber a = isNonzeroNumber b := by
  rw [isNonzeroNumber_eq, isNonzeroNumber_eq, number_of_sameKey same]

theorem isScalar_of_sameKey {a b : Json} (same : sameKey a b = true) :
    a.isScalar = b.isScalar := by
  cases a <;> cases b <;> simp_all [sameKey, Json.eq, Json.number?, Json.isScalar]

/-- What a key of the two sorts is. -/
def IsKey (key : Json) : Prop := isNonzeroNumber key = true ∨ ∃ text, key = .str text

theorem isKey_orText {severity : Json} (scalar : severity.isScalar = true) (default : String) :
    IsKey (orText severity default) := by
  unfold orText
  split
  next truthy =>
    cases severity with
    | str text => exact .inr ⟨text, rfl⟩
    | bool b => exact .inl (by simp [isNonzeroNumber, truthy, Json.number?])
    | int n => exact .inl (by simp [isNonzeroNumber, truthy, Json.number?])
    | float x => exact .inl (by simp [isNonzeroNumber, truthy, Json.number?])
    | null => cases truthy
    | list _ | object _ => cases scalar
  next => exact .inr ⟨default, rfl⟩

theorem kind_orText (severity : Json) (default : String) :
    isNonzeroNumber (orText severity default) = isNonzeroNumber severity := by
  unfold orText
  split
  · rfl
  next falsy => simp [isNonzeroNumber, falsy, Json.number?]

theorem kind_str (text : String) : isNonzeroNumber (.str text) = false := by
  simp [isNonzeroNumber, Json.number?]

theorem exists_lessKey {a b : Json} (left : IsKey a) (right : IsKey b) :
    (∃ less, lessKey a b = .ok less) ↔ isNonzeroNumber a = isNonzeroNumber b := by
  have number {key : Json} (nonzero : isNonzeroNumber key = true) : ∃ x, key.number? = some x :=
    Option.isSome_iff_exists.mp ((Bool.and_eq_true _ _).mp nonzero).2
  have mixed {key : Json} (nonzero : isNonzeroNumber key = true) (text : String) :
      key ≠ .str text := by
    rintro rfl
    rw [kind_str] at nonzero
    cases nonzero
  obtain nonzero | ⟨s, rfl⟩ := left <;> obtain nonzero' | ⟨t, rfl⟩ := right
  · obtain ⟨x, left⟩ := number nonzero
    obtain ⟨y, right⟩ := number nonzero'
    simp [lessKey, left, right, nonzero, nonzero']
  · have text := mixed nonzero
    simp [lessKey, Json.number?, nonzero, kind_str, text]
  · cases b with
    | str t => exact absurd rfl (mixed nonzero' t)
    | _ => simp [lessKey, Json.number?, nonzero', kind_str]
  · simp [lessKey, Json.number?, kind_str]

theorem exists_countedBefore {a b : Json × Nat} (left : IsKey a.1) (right : IsKey b.1) :
    (∃ less, countedBefore a b = .ok less) ↔ isNonzeroNumber a.1 = isNonzeroNumber b.1 := by
  unfold countedBefore
  cases same : sameKey a.1 b.1 with
  | true => simp [kind_of_sameKey same]
  | false => simpa using exists_lessKey left right

theorem exists_rankedBefore {a b : (Json × String) × LogGroup} (scalar : a.1.1.isScalar = true)
    (scalar' : b.1.1.isScalar = true) (alike : isNonzeroNumber a.1.1 = isNonzeroNumber b.1.1) :
    ∃ less, rankedBefore a b = .ok less := by
  unfold rankedBefore
  dsimp only
  split
  · exact ⟨_, rfl⟩
  · split
    · refine (exists_lessKey (isKey_orText scalar "") (isKey_orText scalar' "")).mpr ?_
      rw [kind_orText, kind_orText, alike]
    · exact ⟨_, rfl⟩

/-! ## Groups -/

section
variable {p : LineParser}

theorem severity_of_parseLine {line : String} {entry : LogEntry}
    (parsed : parseLine p line = .ok entry) :
    p.tooDeep line = false ∧ entry.severity = severityOf p line := by
  unfold parseLine at parsed
  split at parsed
  · cases parsed
  next shallow =>
    refine ⟨Bool.eq_false_iff.mpr shallow, ?_⟩
    unfold severityOf
    cases loaded : p.loads line with
    | none =>
      rw [loaded] at parsed
      obtain rfl := Except.ok.inj parsed
      rfl
    | some value =>
      rw [loaded] at parsed
      cases value <;> (obtain rfl := Except.ok.inj parsed; rfl)

theorem exists_parseLine {line : String} (shallow : p.tooDeep line = false) :
    ∃ entry, parseLine p line = .ok entry := by
  unfold parseLine
  rw [shallow]
  split
  · contradiction
  · split
    · exact ⟨_, rfl⟩
    · exact ⟨_, rfl⟩

/-- How many lines the groups hold. -/
def lineCount (groups : LogGroups) : Nat := (groups.map (fun group => group.2.count)).sum

theorem lineCount_of_addEntry {groups groups' : LogGroups} {entry : LogEntry}
    (added : addEntry groups entry = .ok groups') : lineCount groups' = lineCount groups + 1 := by
  unfold addEntry at added
  split at added
  · cases added
  · obtain rfl := Except.ok.inj added
    exact Groups.sum_upsert LogGroup.count rfl (fun _ => rfl) groups

/-- A property of severities that equal keys share holds of a group if it held before, or holds
of the new entry. -/
theorem exists_of_addEntry {groups groups' : LogGroups} {entry : LogEntry} {q : Json → Prop}
    (shared : ∀ a b, sameKey a b = true → (q a ↔ q b))
    (added : addEntry groups entry = .ok groups') :
    (∃ group ∈ groups', q group.1.1) ↔ (∃ group ∈ groups, q group.1.1) ∨ q entry.severity := by
  unfold addEntry at added
  split at added
  · cases added
  · obtain rfl := Except.ok.inj added
    refine Groups.exists_key_upsert (fun key : Json × String => q key.1) ?_ groups
    intro key agrees
    exact shared _ _ ((Bool.and_eq_true _ _).mp agrees).1

theorem scalar_of_addEntry {groups groups' : LogGroups} {entry : LogEntry}
    (added : addEntry groups entry = .ok groups') : entry.severity.isScalar = true := by
  unfold addEntry at added
  split at added
  · cases added
  next scalar => simpa using scalar

/-- What the groups of so many lines are, if there are any. -/
structure Grouped (p : LineParser) (groups : LogGroups) (lines : List String)
    (groups' : LogGroups) : Prop where
  shallow : ∀ line ∈ lines, p.tooDeep line = false
  scalar : ∀ line ∈ lines, (severityOf p line).isScalar = true
  count : lineCount groups' = lineCount groups + lines.length
  severity : ∀ q : Json → Prop, (∀ a b, sameKey a b = true → (q a ↔ q b)) →
    ((∃ group ∈ groups', q group.1.1) ↔
      (∃ group ∈ groups, q group.1.1) ∨ ∃ line ∈ lines, q (severityOf p line))

theorem grouped_of_addLines {groups groups' : LogGroups} {lines : List String}
    (added : addLines p groups lines = .ok groups') : Grouped p groups lines groups' := by
  induction lines generalizing groups with
  | nil =>
    obtain rfl := Except.ok.inj added
    exact ⟨by simp, by simp, by simp, by simp⟩
  | cons line lines ih =>
    unfold addLines at added
    split at added
    · cases added
    next entry parsed =>
      split at added
      · cases added
      next between joined =>
        obtain ⟨shallow, severity⟩ := severity_of_parseLine parsed
        have scalar := scalar_of_addEntry joined
        rw [severity] at scalar
        have rest := ih added
        refine ⟨?_, ?_, ?_, ?_⟩
        · simpa using ⟨shallow, rest.shallow⟩
        · simpa using ⟨scalar, rest.scalar⟩
        · rw [rest.count, lineCount_of_addEntry joined, List.length_cons]
          omega
        · intro q shared
          rw [rest.severity q shared, exists_of_addEntry shared joined, severity]
          simp only [List.mem_cons, exists_eq_or_imp, or_assoc]

theorem exists_addLines {groups : LogGroups} {lines : List String}
    (shallow : ∀ line ∈ lines, p.tooDeep line = false)
    (scalar : ∀ line ∈ lines, (severityOf p line).isScalar = true) :
    ∃ groups', addLines p groups lines = .ok groups' := by
  induction lines generalizing groups with
  | nil => exact ⟨groups, rfl⟩
  | cons line lines ih =>
    obtain ⟨entry, parsed⟩ := exists_parseLine (shallow line List.mem_cons_self)
    have plain : entry.severity.isScalar = true := by
      rw [(severity_of_parseLine parsed).2]
      exact scalar line List.mem_cons_self
    obtain ⟨between, joined⟩ : ∃ between, addEntry groups entry = .ok between :=
      ⟨_, if_neg (by simp [plain])⟩
    obtain ⟨groups', added⟩ := @ih between
      (fun other member => shallow other (List.mem_cons_of_mem line member))
      (fun other member => scalar other (List.mem_cons_of_mem line member))
    exact ⟨groups', by simp [addLines, parsed, joined, added]⟩

end

/-! ## Severity counts -/

/-- What `severity_counts` becomes with one more group. -/
def countGroup (counts : List (Json × Nat)) (group : (Json × String) × LogGroup) :
    List (Json × Nat) :=
  let severity := orText group.1.1 "UNSTRUCTURED"
  Groups.upsert (fun key => sameKey key severity) (severity, group.2.count)
    (fun count => count + group.2.count) counts

theorem severityCounts_eq (groups : LogGroups) :
    severityCounts groups = groups.foldl countGroup [] :=
  rfl

theorem sum_countGroups (groups : LogGroups) (counts : List (Json × Nat)) :
    ((groups.foldl countGroup counts).map (fun count => count.2)).sum =
      (counts.map (fun count => count.2)).sum + lineCount groups := by
  induction groups generalizing counts with
  | nil => rfl
  | cons group groups ih =>
    have one : ((countGroup counts group).map (fun count => count.2)).sum =
        (counts.map (fun count => count.2)).sum + group.2.count :=
      Groups.sum_upsert id rfl (fun _ => rfl) counts
    rw [List.foldl_cons, ih, one, lineCount, lineCount, List.map_cons, List.sum_cons]
    omega

theorem exists_of_countGroups {q : Json → Prop} (shared : ∀ a b, sameKey a b = true → (q a ↔ q b))
    (groups : LogGroups) (counts : List (Json × Nat)) :
    (∃ count ∈ groups.foldl countGroup counts, q count.1) ↔
      (∃ count ∈ counts, q count.1) ∨ ∃ group ∈ groups, q (orText group.1.1 "UNSTRUCTURED") := by
  induction groups generalizing counts with
  | nil => simp
  | cons group groups ih =>
    have one : (∃ count ∈ countGroup counts group, q count.1) ↔
        (∃ count ∈ counts, q count.1) ∨ q (orText group.1.1 "UNSTRUCTURED") := by
      refine Groups.exists_key_upsert q ?_ counts
      intro key agrees
      exact shared _ _ agrees
    rw [List.foldl_cons, ih]
    simp only [List.mem_cons, exists_eq_or_imp]
    rw [← or_assoc]
    exact or_congr_left one

theorem isKey_of_countGroups {groups : LogGroups} {counts : List (Json × Nat)}
    (scalar : ∀ group ∈ groups, group.1.1.isScalar = true)
    (keys : ∀ count ∈ counts, IsKey count.1) :
    ∀ count ∈ groups.foldl countGroup counts, IsKey count.1 := by
  induction groups generalizing counts with
  | nil => exact keys
  | cons group groups ih =>
    refine ih (fun other member => scalar other (List.mem_cons_of_mem group member)) ?_
    intro count member
    rcases Groups.key_of_mem_upsert member with new | ⟨old, listed, same⟩
    · rw [new]
      exact isKey_orText (scalar group List.mem_cons_self) _
    · rw [← same]
      exact keys old listed

/-! ## The observation -/

section
variable {p : LineParser} {limit : Nat} {streams : List LogStream} {groups : LogGroups}
  {view : LogView}

theorem length_linesOf (streams : List LogStream) :
    (linesOf streams).length = (streams.map (fun stream => stream.values.length)).sum := by
  simp [linesOf, List.length_flatMap]

theorem scalar_of_addLines {lines : List String} (added : addLines p [] lines = .ok groups) :
    ∀ group ∈ groups, group.1.1.isScalar = true := by
  intro group member
  by_contra bad
  have grouped := grouped_of_addLines added
  have shared (a b : Json) (same : sameKey a b = true) :
      a.isScalar ≠ true ↔ b.isScalar ≠ true := by
    rw [isScalar_of_sameKey same]
  obtain ⟨old, listed, -⟩ | ⟨line, listed, bad'⟩ :=
    (grouped.severity (fun s => s.isScalar ≠ true) shared).mp ⟨group, member, bad⟩
  · cases listed
  · exact bad' (grouped.scalar line listed)

theorem kind_shared (kind : Bool) (a b : Json) (same : sameKey a b = true) :
    isNonzeroNumber a = kind ↔ isNonzeroNumber b = kind := by
  rw [kind_of_sameKey same]

/-- The groups have the kinds of the lines. -/
theorem kind_of_addLines {lines : List String} (added : addLines p [] lines = .ok groups)
    (kind : Bool) : (∃ group ∈ groups, isNonzeroNumber group.1.1 = kind) ↔
      ∃ line ∈ lines, isNonzeroNumber (severityOf p line) = kind := by
  have kinds := (grouped_of_addLines added).severity (fun s => isNonzeroNumber s = kind)
    (kind_shared kind)
  simpa using kinds

/-- The counts have the kinds of the groups. -/
theorem kind_of_severityCounts (groups : LogGroups) (kind : Bool) :
    (∃ count ∈ severityCounts groups, isNonzeroNumber count.1 = kind) ↔
      ∃ group ∈ groups, isNonzeroNumber group.1.1 = kind := by
  have kinds := exists_of_countGroups (kind_shared kind) groups []
  simpa [kind_orText, severityCounts_eq] using kinds

/-- The steps of a query that gives an observation. -/
theorem of_queryLogs (read : queryLogs p limit streams = .ok view) :
    ∃ groups ranked, addLines p [] (linesOf streams) = .ok groups ∧
      Groups.sort rankedBefore groups = .ok ranked ∧
      Groups.sort countedBefore (severityCounts groups) = .ok view.severityCounts ∧
      view.linesFetched = (linesOf streams).length := by
  unfold queryLogs at read
  dsimp only at read
  split at read
  · cases read
  next groups added =>
    split at read
    · cases read
    next ranked sorted =>
      split at read
      · cases read
      next counts counted =>
        obtain rfl := Except.ok.inj read
        exact ⟨groups, ranked, added, sorted, counted, rfl⟩

/-- Each line is counted once among the groups, and once among the severities. -/
theorem counts_of_queryLogs (added : addLines p [] (linesOf streams) = .ok groups)
    (read : queryLogs p limit streams = .ok view) :
    lineCount groups = view.linesFetched ∧
      (view.severityCounts.map (fun count => count.2)).sum = view.linesFetched := by
  obtain ⟨groups', ranked, added', sorted, counted, fetched⟩ := of_queryLogs read
  obtain rfl := Except.ok.inj (added.symm.trans added')
  have grouped := (grouped_of_addLines added).count
  have total : lineCount groups = view.linesFetched := by
    rw [fetched, grouped]
    simp [lineCount]
  refine ⟨total, ?_⟩
  calc (view.severityCounts.map (fun count => count.2)).sum
      = ((severityCounts groups).map (fun count => count.2)).sum :=
        ((Groups.perm_of_sort counted).map _).sum_eq
    _ = lineCount groups := by
        rw [severityCounts_eq, sum_countGroups]
        simp
    _ = view.linesFetched := total

theorem plain_of_queryLogs (read : queryLogs p limit streams = .ok view) :
    PlainSeverities p (linesOf streams) := by
  obtain ⟨groups, ranked, added, sorted, counted, fetched⟩ := of_queryLogs read
  have grouped := grouped_of_addLines added
  have scalar := scalar_of_addLines added
  have keys : ∀ count ∈ severityCounts groups, IsKey count.1 :=
    isKey_of_countGroups scalar (by simp)
  have kinds := Groups.alike_of_sort (fun count : Json × Nat => isNonzeroNumber count.1)
    (fun a listed b listed' less compared =>
      (exists_countedBefore (keys a listed) (keys b listed')).mp ⟨less, compared⟩) counted
  refine ⟨grouped.shallow, grouped.scalar, ?_⟩
  intro line listed line' listed'
  -- each line leaves a key of its kind
  have found {line : String} (listed : line ∈ linesOf streams) :=
    (kind_of_severityCounts groups _).mpr ((kind_of_addLines added _).mpr ⟨line, listed, rfl⟩)
  obtain ⟨count, member, kind⟩ := found listed
  obtain ⟨count', member', kind'⟩ := found listed'
  rw [← kind, ← kind']
  exact kinds count member count' member'

theorem exists_queryLogs (limit : Nat) (plain : PlainSeverities p (linesOf streams)) :
    ∃ view, queryLogs p limit streams = .ok view := by
  obtain ⟨groups, added⟩ : ∃ groups, addLines p [] (linesOf streams) = .ok groups :=
    exists_addLines plain.shallow plain.scalar
  have scalar := scalar_of_addLines added
  have grouped := grouped_of_addLines added
  have alike : ∀ a ∈ groups, ∀ b ∈ groups, isNonzeroNumber a.1.1 = isNonzeroNumber b.1.1 := by
    intro a listed b listed'
    obtain ⟨line, member, kind⟩ := (kind_of_addLines added _).mp ⟨a, listed, rfl⟩
    obtain ⟨line', member', kind'⟩ := (kind_of_addLines added _).mp ⟨b, listed', rfl⟩
    rw [← kind, ← kind']
    exact plain.alike line member line' member'
  obtain ⟨ranked, sorted⟩ : ∃ ranked, Groups.sort rankedBefore groups = .ok ranked :=
    Groups.exists_sort fun a listed b listed' =>
      exists_rankedBefore (scalar a listed) (scalar b listed') (alike a listed b listed')
  have keys : ∀ count ∈ severityCounts groups, IsKey count.1 :=
    isKey_of_countGroups scalar (by simp)
  obtain ⟨counts, counted⟩ : ∃ counts,
      Groups.sort countedBefore (severityCounts groups) = .ok counts :=
    Groups.exists_sort fun a listed b listed' => by
      refine (exists_countedBefore (keys a listed) (keys b listed')).mpr ?_
      obtain ⟨group, member, kind⟩ := (kind_of_severityCounts groups _).mp ⟨a, listed, rfl⟩
      obtain ⟨group', member', kind'⟩ := (kind_of_severityCounts groups _).mp ⟨b, listed', rfl⟩
      rw [← kind, ← kind']
      exact alike group member group' member'
  exact ⟨_, by simp only [queryLogs, added, sorted, counted]; rfl⟩

end

/-! ## The result of a call -/

/-- The executor gives a result whatever the budget and the arguments exactly where the handler
raises nothing. -/
theorem executeLogs_answers {read : Except LogFault EvidenceItem} :
    (∀ (x : ToolExecutor) (problems : List Problem) (arguments : Dict), ∃ outcome,
      x.executeLogs problems read arguments = .ok outcome) ↔ ∃ item, read = .ok item := by
  constructor
  · intro answers
    obtain ⟨outcome, done⟩ := answers { budget := {} } [] []
    cases read with
    | error fault => cases done
    | ok item => exact ⟨item, rfl⟩
  · rintro ⟨item, rfl⟩ x problems arguments
    unfold ToolExecutor.executeLogs
    split
    · exact ⟨_, rfl⟩
    · dsimp only
      split
      · exact ⟨_, rfl⟩
      · exact ⟨_, rfl⟩

/-- Where the handler raises nothing, it is a call like any other. -/
theorem executeLogs_eq (x : ToolExecutor) (attempts : 0 < x.budget.maxAttemptsPerCall)
    (problems : List Problem) (item : EvidenceItem) (arguments : Dict) :
    x.executeLogs problems (.ok item) arguments =
      .ok (x.execute { problems, attempts := fun _ => .ok item } "get_logs" arguments) := by
  have registered : tools.contains "get_logs" = true := by decide
  obtain ⟨left, more⟩ : ∃ left, x.budget.maxAttemptsPerCall = left + 1 :=
    Nat.exists_eq_succ_of_ne_zero attempts.ne'
  unfold ToolExecutor.executeLogs ToolExecutor.execute
  rw [registered]
  cases x.overBudget "get_logs" arguments with
  | some error => rfl
  | none =>
    by_cases valid : problems = []
    · simp [valid, ToolExecutor.counted, more, attemptCall]
    · simp [valid]

/-- A line whose severity is a list. -/
def listedSeverity : List LogStream :=
  [{ values := [(0, "\x7b\"message\": \"x\", \"severity\": []\x7d")] }]

def listedParser : LineParser where
  loads _ := some (.object [("message", .str "x"), ("severity", .list [])])
  tooDeep _ := false

end IncidentTriage.Verified
