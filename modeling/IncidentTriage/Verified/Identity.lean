import IncidentTriage.Api.Alerts
import IncidentTriage.Library.Keys
import IncidentTriage.Verified.Correlation

/-! # Notifications and their keys

Two notifications of which one carries an external id have one idempotency key only if
they have one source, one external id and one status, unless an id is empty or a firing
one has the suffix of a resolved one: `told_apart_iff`.
-/

namespace IncidentTriage.Verified

open IncidentTriage.Python IncidentTriage.Domain IncidentTriage.Incident IncidentTriage.Api

/-! ## The key of an external id -/

/-- What `deriveAlertIdempotencyKey` makes of an external id. -/
def externalKey (source : AlertSource) (id : String) (status : AlertStatus) : String :=
  let key := source.value ++ ":external:" ++ id
  if status = .resolved then key ++ ":resolved" else key

theorem givenId_eq_some {externalId : Option String} {id : String} :
    givenId externalId = some id ↔ externalId = some id ∧ id ≠ "" := by
  unfold givenId
  rw [Option.filter_eq_some_iff]
  simp

theorem givenId_eq_none {externalId : Option String} :
    givenId externalId = none ↔ externalId = none ∨ externalId = some "" := by
  cases externalId with
  | none => simp [givenId]
  | some id =>
    by_cases empty : id = ""
    · simp [givenId, empty]
    · simp [givenId, empty, Option.filter]

section
variable {sha256 : String → String} {source : AlertSource} {externalId : Option String}
  {payload : Dict} {status : AlertStatus} {debounceSeconds : Int} {now : Time}

theorem deriveAlertIdempotencyKey_given {id : String} (given : givenId externalId = some id) :
    deriveAlertIdempotencyKey sha256 source externalId payload status debounceSeconds now =
      some (externalKey source id status) := by
  unfold deriveAlertIdempotencyKey
  rw [given]
  rfl

theorem deriveAlertIdempotencyKey_content (missing : givenId externalId = none)
    (nonzero : debounceSeconds ≠ 0) :
    deriveAlertIdempotencyKey sha256 source externalId payload status debounceSeconds now =
      some (source.value ++ ":content:" ++ sha256 (Json.object payload).dumps ++ ":" ++
        toString (now.fdiv (debounceSeconds * 1000000))) := by
  unfold deriveAlertIdempotencyKey
  rw [missing]
  exact if_neg nonzero

theorem deriveAlertIdempotencyKey_zero (missing : givenId externalId = none) :
    deriveAlertIdempotencyKey sha256 source externalId payload status 0 now = none := by
  unfold deriveAlertIdempotencyKey
  rw [missing]
  rfl

end

theorem colon_notMem_value (source : AlertSource) : ':' ∉ source.value.toList := by
  cases source <;> decide

theorem value_injective {a b : AlertSource} (same : a.value = b.value) : a = b := by
  cases a <;> cases b <;> first | rfl | exact absurd same (by decide)

/-- What follows the source in the key of an external id. -/
def externalRest (id : String) (status : AlertStatus) : List Char :=
  "external:".toList ++ (id.toList ++ if status = .resolved then ":resolved".toList else [])

theorem toList_externalKey (source : AlertSource) (id : String) (status : AlertStatus) :
    (externalKey source id status).toList =
      source.value.toList ++ ':' :: externalRest id status := by
  have tag : ":external:".toList = ':' :: "external:".toList := by decide
  unfold externalKey externalRest
  split_ifs
  · simp only [String.toList_append, tag, List.append_assoc, List.cons_append]
  · simp only [String.toList_append, tag, List.append_assoc, List.cons_append, List.append_nil]

/-- A firing alert whose id is that of the resolved one, with the suffix of its key. -/
def Shadows (source source' : AlertSource) (externalId externalId' : Option String)
    (status status' : AlertStatus) : Prop :=
  source = source' ∧ status = .firing ∧ status' = .resolved ∧
    ∃ id, externalId' = some id ∧ externalId = some (id ++ ":resolved")

theorem externalKey_eq {source source' : AlertSource} {id id' : String}
    {status status' : AlertStatus}
    (same : externalKey source id status = externalKey source' id' status') :
    source = source' ∧ id.toList ++ (if status = .resolved then ":resolved".toList else []) =
      id'.toList ++ (if status' = .resolved then ":resolved".toList else []) := by
  have listed := congrArg String.toList same
  rw [toList_externalKey, toList_externalKey] at listed
  obtain ⟨sources, rest⟩ :=
    Keys.eq_of_first (colon_notMem_value source) (colon_notMem_value source') listed
  unfold externalRest at rest
  exact ⟨value_injective (String.toList_injective sources),
    List.append_cancel_left rest⟩

/-- Two external ids have one key only if they are one, or one shadows the other. -/
theorem externalKey_cases {source source' : AlertSource} {id id' : String}
    {status status' : AlertStatus}
    (same : externalKey source id status = externalKey source' id' status') :
    (source = source' ∧ id = id' ∧ status = status') ∨
      Shadows source source' (some id) (some id') status status' ∨
      Shadows source' source (some id') (some id) status' status := by
  obtain ⟨rfl, ids⟩ := externalKey_eq same
  have suffixed : ∀ {a b : String}, a.toList = b.toList ++ ":resolved".toList →
      a = b ++ ":resolved" := by
    intro a b equal
    apply String.toList_injective
    rw [equal, String.toList_append]
  cases status with
  | firing =>
    cases status' with
    | firing => exact .inl ⟨rfl, String.toList_injective (by simpa using ids), rfl⟩
    | resolved =>
      have longer : id = id' ++ ":resolved" := suffixed (by simpa using ids)
      exact .inr (.inl ⟨rfl, rfl, rfl, id', rfl, congrArg some longer⟩)
  | resolved =>
    cases status' with
    | firing =>
      have longer : id' = id ++ ":resolved" := suffixed (by simpa using ids.symm)
      exact .inr (.inr ⟨rfl, rfl, rfl, id, rfl, congrArg some longer⟩)
    | resolved =>
      exact .inl ⟨rfl, String.toList_injective (List.append_cancel_right ids), rfl⟩

theorem Shadows.externalKey_eq {source source' : AlertSource} {id id' : String}
    {status status' : AlertStatus}
    (shadows : Shadows source source' (some id) (some id') status status') :
    externalKey source id status = externalKey source' id' status' := by
  obtain ⟨rfl, rfl, rfl, id, named, longer⟩ := shadows
  cases named
  cases longer
  simp [externalKey, String.append_assoc]

/-- The key of an external id is never the key of a content. -/
theorem externalKey_ne_content {source source' : AlertSource} {id digest : String}
    {status : AlertStatus} {bucket : Time} :
    externalKey source id status ≠
      source'.value ++ ":content:" ++ digest ++ ":" ++ toString bucket := by
  intro same
  have listed := congrArg String.toList same
  rw [toList_externalKey] at listed
  have content : (source'.value ++ ":content:" ++ digest ++ ":" ++ toString bucket).toList =
      source'.value.toList ++ ':' :: ("content:".toList ++ (digest.toList ++
        ':' :: (toString bucket).toList)) := by
    simp
  rw [content] at listed
  obtain ⟨_, rest⟩ :=
    Keys.eq_of_first (colon_notMem_value source) (colon_notMem_value source') listed
  cases (List.cons.inj rest).1

/-! ## Who treats an external id as present -/

/-- The key exists and does not depend on what the notification says, or when. -/
def KeyedById (sha256 : String → String) (debounceSeconds : Int) (externalId : Option String) :
    Prop :=
  ∀ source payload payload' status now now', ∃ key,
    deriveAlertIdempotencyKey sha256 source externalId payload status debounceSeconds now =
      some key ∧
    deriveAlertIdempotencyKey sha256 source externalId payload' status debounceSeconds now' =
      some key

/-- An alert of this id can be there already when it is inserted. -/
def InsertedById (externalId : Option String) : Prop :=
  ∃ s now command fingerprint, command.externalId = externalId ∧
    (insertAlertOrGetExisting s now command fingerprint).2.1 = true

/-- A resolution with this id can end an alert of another fingerprint. -/
def ResolvedById (externalId : Option String) : Prop :=
  ∃ s command fingerprint a alert, command.externalId = externalId ∧
    findAlertToResolve s command fingerprint = some (a, alert) ∧ alert.fingerprint ≠ fingerprint

/-- The three functions agree whether an external id is present. -/
structure PresenceAgrees (sha256 : String → String) (debounceSeconds : Int)
    (externalId : Option String) : Prop where
  inserted : KeyedById sha256 debounceSeconds externalId ↔ InsertedById externalId
  resolved : KeyedById sha256 debounceSeconds externalId ↔ ResolvedById externalId

theorem keyedById_iff {sha256 : String → String} {debounceSeconds : Int}
    {externalId : Option String} :
    KeyedById sha256 debounceSeconds externalId ↔ ∃ id, givenId externalId = some id := by
  constructor
  · intro keyed
    cases missing : givenId externalId with
    | some id => exact ⟨id, rfl⟩
    | none =>
      exfalso
      by_cases zero : debounceSeconds = 0
      · obtain ⟨key, derived, _⟩ := keyed .generic [] [] .firing 0 0
        rw [zero, deriveAlertIdempotencyKey_zero missing] at derived
        cases derived
      · -- one bucket later the same content has another key
        obtain ⟨key, first, second⟩ :=
          keyed .generic [] [] .firing 0 (debounceSeconds * 1000000)
        rw [deriveAlertIdempotencyKey_content missing zero] at first second
        obtain ⟨_, buckets⟩ := Keys.eq_of_numbered (Option.some.inj (first.trans second.symm))
        rw [Int.zero_fdiv, Int.fdiv_self (by omega)] at buckets
        cases buckets
  · rintro ⟨id, given⟩ source payload payload' status now now'
    exact ⟨_, deriveAlertIdempotencyKey_given given, deriveAlertIdempotencyKey_given given⟩

/-- An alert of this id, and nothing else. -/
def alertOf (id : String) : AlertReceivedCommand × Store :=
  let command : AlertReceivedCommand :=
    { idempotencyKey := id, source := .generic, externalId := some id, labels := []
      severity := .info }
  (command, insertAlert {} (newAlert command "seen" 0 .firing none))

theorem alertOf_found (id : String) : findExternal (alertOf id).2 .generic id =
    some (0, newAlert (alertOf id).1 "seen" 0 .firing none) := by
  unfold findExternal
  rw [Table.first_eq_some]
  refine ⟨rfl, by simp [newAlert, alertOf], ?_⟩
  intro j row before
  exact absurd before (Nat.not_lt_zero j)

theorem insertedById_iff {externalId : Option String} :
    InsertedById externalId ↔ externalId.isSome = true := by
  constructor
  · rintro ⟨s, now, command, fingerprint, rfl, existed⟩
    cases external : command.externalId with
    | some id => rfl
    | none => simp [insertAlertOrGetExisting, external] at existed
  · intro present
    obtain ⟨id, rfl⟩ := Option.isSome_iff_exists.mp present
    refine ⟨(alertOf id).2, 0, (alertOf id).1, "seen", rfl, ?_⟩
    unfold insertAlertOrGetExisting
    simp only [show (alertOf id).1.externalId = some id from rfl,
      show (alertOf id).1.source = .generic from rfl, alertOf_found]

theorem resolvedById_iff {externalId : Option String} :
    ResolvedById externalId ↔ externalId.isSome = true := by
  constructor
  · rintro ⟨s, command, fingerprint, a, alert, rfl, matched, other⟩
    cases external : command.externalId with
    | some id => rfl
    | none =>
      simp only [findAlertToResolve, external] at matched
      obtain ⟨_, own⟩ := Table.mem_select.mp (List.mem_of_find?_eq_some matched)
      simp only [Bool.and_eq_true, beq_iff_eq] at own
      exact absurd own.1.1 other
  · intro present
    obtain ⟨id, rfl⟩ := Option.isSome_iff_exists.mp present
    refine ⟨(alertOf id).2, (alertOf id).1, "other", 0,
      newAlert (alertOf id).1 "seen" 0 .firing none, rfl, ?_, by simp [newAlert]⟩
    exact alertOf_found id

theorem presenceAgrees_iff {sha256 : String → String} {debounceSeconds : Int}
    {externalId : Option String} :
    PresenceAgrees sha256 debounceSeconds externalId ↔ externalId ≠ some "" := by
  constructor
  · rintro agrees rfl
    obtain ⟨id, given⟩ := keyedById_iff.mp (agrees.inserted.mpr (insertedById_iff.mpr rfl))
    exact (givenId_eq_some.mp given).2 (Option.some.inj (givenId_eq_some.mp given).1).symm
  · intro given
    have present : (∃ id, givenId externalId = some id) ↔ externalId.isSome = true := by
      rw [Option.isSome_iff_exists]
      constructor
      · rintro ⟨id, named⟩
        exact ⟨id, (givenId_eq_some.mp named).1⟩
      · rintro ⟨id, rfl⟩
        exact ⟨id, givenId_eq_some.mpr ⟨rfl, fun empty => given (congrArg some empty)⟩⟩
    constructor
    · rw [keyedById_iff, insertedById_iff, present]
    · rw [keyedById_iff, resolvedById_iff, present]

/-! ## What processing puts on record -/

theorem ResolvedNotification.ledger {now : Time} {s s' : Store} {command : AlertReceivedCommand}
    {fingerprint : String} {r : AlertReceivedResult}
    (resolved : ResolvedNotification now s command fingerprint r s') :
    s'.alert.processedCommands = s.alert.processedCommands ++
      [{ idempotencyKey := command.idempotencyKey, result := r }] := by
  cases resolved <;> rfl

/-- A command that is not on record is put there. -/
theorem handleAlertReceived_appends {env : Env} {now : Time} {s s' : Store}
    {command : AlertReceivedCommand} {r : AlertReceivedResult}
    (done : handleAlertReceived env now s command = .ok (r, s'))
    (unprocessed : getProcessedCommand s command.idempotencyKey = none) :
    ∃ result, s'.alert.processedCommands = s.alert.processedCommands ++
      [{ idempotencyKey := command.idempotencyKey, result }] := by
  by_cases new : NewFiring s command
  · obtain ⟨i, created, r₁, s₁, done₁, attached, _⟩ := handleAlertReceived_attached env now new
    rw [done] at done₁
    cases done₁
    exact attached.ledger
  · unfold handleAlertReceived at done
    rw [unprocessed] at done
    unfold processAlertReceived at done
    by_cases resolved : command.status = .resolved
    · simp only [if_pos resolved] at done
      exact ⟨r, (processAlertResolved_cases done).ledger⟩
    · simp only [if_neg resolved] at done
      cases existing : existingAlert s command with
      | none => exact absurd ⟨unprocessed, alertStatus_firing resolved, existing⟩ new
      | some known =>
        obtain ⟨a, alert⟩ := known
        rw [insertAlertOrGetExisting_of_some existing] at done
        cases finalizeCommand_recorded done
        exact ⟨r, rfl⟩

/-- A command leaves at most its own key in the ledger. -/
theorem handleAlertReceived_ledger {env : Env} {now : Time} {s s' : Store}
    {command : AlertReceivedCommand} {r : AlertReceivedResult}
    (done : handleAlertReceived env now s command = .ok (r, s')) :
    s' = s ∨ ∃ result, s'.alert.processedCommands = s.alert.processedCommands ++
      [{ idempotencyKey := command.idempotencyKey, result }] := by
  cases seen : getProcessedCommand s command.idempotencyKey with
  | none => exact .inr (handleAlertReceived_appends done seen)
  | some existing =>
    unfold handleAlertReceived at done
    rw [seen] at done
    cases done
    exact .inl rfl

/-- A key that is new in the ledger is the command's. -/
theorem handleAlertReceived_newKey {env : Env} {now : Time} {s s' : Store}
    {command : AlertReceivedCommand} {r : AlertReceivedResult} {key : String}
    {row : ProcessedCommandRow}
    (done : handleAlertReceived env now s command = .ok (r, s'))
    (before : getProcessedCommand s key = none) (after : getProcessedCommand s' key = some row) :
    command.idempotencyKey = key := by
  rcases handleAlertReceived_ledger done with rfl | ⟨result, grown⟩
  · rw [before] at after
    cases after
  · unfold getProcessedCommand at before after
    rw [grown, List.find?_append, before, Option.none_or] at after
    have named := List.find?_some after
    have own := List.mem_singleton.mp (List.mem_of_find?_eq_some after)
    rw [own] at named
    exact beq_iff_eq.mp named

theorem alertStatus?_value (status : AlertStatus) : alertStatus? status.value = some status := by
  cases status <;> decide

theorem idempotencyKey_of_valid {key severity : String} {source : AlertSource}
    {externalId : Option String} {labels : Labels} {status : AlertStatus}
    {command : AlertReceivedCommand}
    (valid : alertReceivedCommand key source externalId labels severity status = .ok command) :
    command.idempotencyKey = key := by
  unfold alertReceivedCommand at valid
  simp only at valid
  split at valid
  · split_ifs at valid
    cases valid
    rfl
  · cases valid

theorem acceptAlert_handles {env : Env} {now : Time} {s s' : Store} {source : AlertSource}
    {externalId : Option String} {labels : Labels} {severity : String} {status : AlertStatus}
    {rawPayload : Dict} {idempotencyKey : Option String} {response : AlertAcceptedResponse}
    (accepted : acceptAlert env now s source externalId labels severity status.value rawPayload
      idempotencyKey = .ok (response, s')) :
    ∃ command r, handleAlertReceived env now s command = .ok (r, s') ∧
      commandKey env.sha256 source externalId rawPayload status now idempotencyKey =
        some command.idempotencyKey := by
  unfold acceptAlert at accepted
  rw [alertStatus?_value] at accepted
  cases keyed : commandKey env.sha256 source externalId rawPayload status now idempotencyKey with
  | none =>
    simp only [keyed] at accepted
    cases accepted
  | some key =>
    simp only [keyed] at accepted
    cases valid : alertReceivedCommand key source externalId labels severity status with
    | error invalid =>
      simp only [valid] at accepted
      cases accepted
    | ok command =>
      simp only [valid] at accepted
      cases done : handleAlertReceived env now s command with
      | error refusal =>
        rw [done] at accepted
        cases refusal <;> cases accepted
      | ok answer =>
        rw [done] at accepted
        cases accepted
        exact ⟨command, answer.1, done, congrArg some (idempotencyKey_of_valid valid).symm⟩

/-! ## Notifications -/

/-- A notification as `acceptAlert` receives it, without a key of its own. -/
structure Notification where
  source : AlertSource
  externalId : Option String
  labels : Labels
  severity : String
  status : AlertStatus
  rawPayload : Dict
  receivedAt : Time

def Notification.key (sha256 : String → String) (debounceSeconds : Int) (n : Notification) :
    Option String :=
  deriveAlertIdempotencyKey sha256 n.source n.externalId n.rawPayload n.status debounceSeconds
    n.receivedAt

def Notification.accept (env : Env) (s : Store) (n : Notification) :
    Except HttpException (AlertAcceptedResponse × Store) :=
  acceptAlert env n.receivedAt s n.source n.externalId n.labels n.severity n.status.value
    n.rawPayload none

def SameIdentity (m n : Notification) : Prop :=
  m.source = n.source ∧ m.externalId = n.externalId ∧ m.status = n.status

def OneKey (sha256 : String → String) (debounceSeconds : Int) (m n : Notification) : Prop :=
  ∃ key, m.key sha256 debounceSeconds = some key ∧ n.key sha256 debounceSeconds = some key

/-- Two notifications share an identity only if they are alike. -/
structure ToldApart (env : Env) (debounceSeconds : Int) (m n : Notification) : Prop where
  identified : m.externalId.isSome → n.externalId.isSome →
    OneKey env.sha256 debounceSeconds m n → SameIdentity m n
  apart : m.externalId.isSome ≠ n.externalId.isSome → ¬ OneKey env.sha256 debounceSeconds m n
  presence : PresenceAgrees env.sha256 debounceSeconds m.externalId
  presence' : PresenceAgrees env.sha256 debounceSeconds n.externalId
  /-- Where one of them carries an external id, accepting the first does not make the
  second a duplicate. -/
  unswallowed : m.externalId.isSome ∨ n.externalId.isSome → ∀ s response s' key row,
    m.accept env s = .ok (response, s') → n.key env.sha256 defaultDebounceSeconds = some key →
    getProcessedCommand s key = none → getProcessedCommand s' key = some row → SameIdentity m n

/-- No external id is empty, and none is another with the suffix of a resolved one. -/
structure NoClash (m n : Notification) : Prop where
  given : m.externalId ≠ some ""
  given' : n.externalId ≠ some ""
  unshadowed : ¬ Shadows m.source n.source m.externalId n.externalId m.status n.status
  unshadowed' : ¬ Shadows n.source m.source n.externalId m.externalId n.status m.status

section
variable {sha256 : String → String} {debounceSeconds : Int} {m n : Notification}

theorem Notification.key_of_id {id : String} (named : m.externalId = some id) (given : id ≠ "") :
    m.key sha256 debounceSeconds = some (externalKey m.source id m.status) :=
  deriveAlertIdempotencyKey_given (givenId_eq_some.mpr ⟨named, given⟩)

/-- The key of an id is not that of a notification without one. -/
theorem not_oneKey {id : String} (named : m.externalId = some id) (given : id ≠ "")
    (missing : n.externalId = none) :
    ∀ key, m.key sha256 debounceSeconds = some key → n.key sha256 debounceSeconds ≠ some key := by
  intro key keyed derived
  rw [Notification.key_of_id named given] at keyed
  cases keyed
  unfold Notification.key at derived
  by_cases zero : debounceSeconds = 0
  · rw [zero, deriveAlertIdempotencyKey_zero (givenId_eq_none.mpr (.inl missing))] at derived
    cases derived
  · rw [deriveAlertIdempotencyKey_content (givenId_eq_none.mpr (.inl missing)) zero] at derived
    exact externalKey_ne_content (Option.some.inj derived).symm

theorem NoClash.sameIdentity (free : NoClash m n)
    (carries : m.externalId.isSome ∨ n.externalId.isSome)
    (oneKey : OneKey sha256 debounceSeconds m n) : SameIdentity m n := by
  obtain ⟨given, given', unshadowed, unshadowed'⟩ := free
  obtain ⟨key, first, second⟩ := oneKey
  cases named : m.externalId with
  | none =>
    cases named' : n.externalId with
    | none => simp [named, named'] at carries
    | some id' =>
      have full : id' ≠ "" := by
        rintro rfl
        exact given' named'
      exact absurd first (not_oneKey named' full named key second)
  | some id =>
    have full : id ≠ "" := by
      rintro rfl
      exact given named
    cases named' : n.externalId with
    | none => exact absurd second (not_oneKey named full named' key first)
    | some id' =>
      have full' : id' ≠ "" := by
        rintro rfl
        exact given' named'
      rw [Notification.key_of_id named full] at first
      rw [Notification.key_of_id named' full'] at second
      have same := Option.some.inj (first.trans second.symm)
      rw [named, named'] at unshadowed unshadowed'
      rcases externalKey_cases same with ⟨sources, ids, statuses⟩ | shadows | shadows
      · exact ⟨sources, by rw [named, named', ids], statuses⟩
      · exact absurd shadows unshadowed
      · exact absurd shadows unshadowed'

/-- A firing alert that shadows a resolved one has its key. -/
theorem Shadows.oneKey
    (shadows : Shadows m.source n.source m.externalId n.externalId m.status n.status)
    (given : n.externalId ≠ some "") : OneKey sha256 debounceSeconds m n := by
  obtain ⟨source, fires, resolved, id, named, longer⟩ := shadows
  have full : id ≠ "" := by
    rintro rfl
    exact given named
  have full' : id ++ ":resolved" ≠ "" := by simp
  refine ⟨_, Notification.key_of_id longer full', ?_⟩
  rw [Notification.key_of_id named full, fires, resolved, source]
  exact congrArg some (Shadows.externalKey_eq ⟨rfl, rfl, rfl, id, rfl, rfl⟩).symm

end

/-- Two notifications never share an identity by mistake, unless an external id is empty
or one of them shadows the other. -/
theorem told_apart_iff (env : Env) (debounceSeconds : Int) (m n : Notification) :
    ToldApart env debounceSeconds m n ↔ NoClash m n := by
  constructor
  · rintro ⟨identified, _, presence, presence', _⟩
    have given := presenceAgrees_iff.mp presence
    have given' := presenceAgrees_iff.mp presence'
    refine ⟨given, given', ?_, ?_⟩
    · intro shadows
      obtain ⟨_, fires, resolved, id, named, longer⟩ := id shadows
      obtain ⟨_, _, statuses⟩ :=
        identified (by rw [longer]; rfl) (by rw [named]; rfl) (shadows.oneKey given')
      rw [fires, resolved] at statuses
      cases statuses
    · intro shadows
      obtain ⟨_, fires, resolved, id, named, longer⟩ := id shadows
      obtain ⟨key, second, first⟩ : OneKey env.sha256 debounceSeconds n m := shadows.oneKey given
      obtain ⟨_, _, statuses⟩ :=
        identified (by rw [named]; rfl) (by rw [longer]; rfl) ⟨key, first, second⟩
      rw [fires, resolved] at statuses
      cases statuses
  · intro free
    constructor
    · exact fun carries _ oneKey => free.sameIdentity (.inl carries) oneKey
    · intro differ oneKey
      have carries : m.externalId.isSome ∨ n.externalId.isSome := by
        by_contra neither
        push Not at neither
        simp [neither.1, neither.2] at differ
      obtain ⟨_, ids, _⟩ := free.sameIdentity carries oneKey
      exact differ (congrArg Option.isSome ids)
    · exact presenceAgrees_iff.mpr free.given
    · exact presenceAgrees_iff.mpr free.given'
    · intro carries s response s' key row accepted keyed before after
      obtain ⟨command, r, done, derived⟩ := acceptAlert_handles accepted
      rw [← handleAlertReceived_newKey done before after] at keyed
      exact free.sameIdentity carries ⟨_, derived, keyed⟩

/-- An alert whose external id ends like the key of a resolved one fires. -/
def suffixedFires : Notification where
  source := .pagerduty
  externalId := some "disk:resolved"
  labels := [("service", "payments"), ("environment", "production")]
  severity := "warning"
  status := .firing
  rawPayload := []
  receivedAt := 0

/-- Another alert is resolved. -/
def otherResolved : Notification :=
  { suffixedFires with externalId := some "disk", status := .resolved }

theorem not_told_apart : ¬ ∀ env debounceSeconds m n, ToldApart env debounceSeconds m n := by
  intro told
  have oneKey : OneKey paymentsEnv.sha256 60 suffixedFires otherResolved :=
    ⟨"pagerduty:external:disk:resolved", by decide +kernel, by decide +kernel⟩
  obtain ⟨_, ids, _⟩ := (told paymentsEnv 60 suffixedFires otherResolved).identified rfl rfl oneKey
  exact absurd ids (by decide)

end IncidentTriage.Verified
