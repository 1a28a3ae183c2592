import Mathlib.Data.List.Nodup
import Mathlib.Data.List.Perm.Lattice

/-! # Calls and their answers

A dialogue asks rounds of calls, named by identifiers, and answers them one at a time.
`openAfter` reads it from the left and keeps the calls that still wait for an answer: a
round may be asked only when nothing waits, and only a waiting call may be answered.
What it accepts answers every call of a finished round exactly once, before the next.
-/

namespace IncidentTriage.Dialogue

inductive Mark (κ : Type*) where
  | asked (ids : List κ)
  | answered (id : κ)
  deriving DecidableEq

variable {κ : Type*}

/-- The call that a mark answers. -/
def Mark.answer? : Mark κ → Option κ
  | .answered id => some id
  | .asked _ => none

/-- The calls that are answered, in order. -/
def answersOf (marks : List (Mark κ)) : List κ := marks.filterMap Mark.answer?

/-- No round is asked. -/
def OnlyAnswers (marks : List (Mark κ)) : Prop := ∀ ids, Mark.asked ids ∉ marks

@[simp] theorem answersOf_nil : answersOf ([] : List (Mark κ)) = [] := rfl

@[simp] theorem answersOf_answered (id : κ) (marks : List (Mark κ)) :
    answersOf (.answered id :: marks) = id :: answersOf marks := rfl

@[simp] theorem answersOf_asked (ids : List κ) (marks : List (Mark κ)) :
    answersOf (.asked ids :: marks) = answersOf marks := rfl

@[simp] theorem answersOf_append (marks more : List (Mark κ)) :
    answersOf (marks ++ more) = answersOf marks ++ answersOf more :=
  List.filterMap_append

theorem answersOf_map_answered (ids : List κ) : answersOf (ids.map Mark.answered) = ids := by
  induction ids with
  | nil => rfl
  | cons id ids ih =>
    rw [List.map_cons, answersOf_answered, ih]

theorem onlyAnswers_cons {id : κ} {marks : List (Mark κ)} :
    OnlyAnswers (.answered id :: marks) ↔ OnlyAnswers marks := by
  simp [OnlyAnswers]

theorem not_onlyAnswers_asked {ids : List κ} {marks : List (Mark κ)} :
    ¬ OnlyAnswers (.asked ids :: marks) :=
  fun only => only ids (by simp)

variable [DecidableEq κ]

/-! ## Reading a dialogue -/

/-- The calls that wait after a mark, where it comes in its turn. -/
def Mark.after (waiting : List κ) : Mark κ → Option (List κ)
  | .asked ids => if waiting = [] ∧ ids.Nodup then some ids else none
  | .answered id => if id ∈ waiting then some (waiting.erase id) else none

/-- The calls that wait after a dialogue, where all of it is in order. -/
def openAfter : List κ → List (Mark κ) → Option (List κ)
  | waiting, [] => some waiting
  | waiting, mark :: marks => (mark.after waiting).bind (openAfter · marks)

@[simp] theorem openAfter_nil (waiting : List κ) : openAfter waiting [] = some waiting := rfl

theorem openAfter_cons (waiting : List κ) (mark : Mark κ) (marks : List (Mark κ)) :
    openAfter waiting (mark :: marks) = (mark.after waiting).bind (openAfter · marks) := rfl

theorem openAfter_append (waiting : List κ) (marks more : List (Mark κ)) :
    openAfter waiting (marks ++ more) =
      (openAfter waiting marks).bind (openAfter · more) := by
  induction marks generalizing waiting with
  | nil => rfl
  | cons mark marks ih =>
    rw [List.cons_append, openAfter_cons, openAfter_cons]
    cases mark.after waiting with
    | none => rfl
    | some next => exact ih next

theorem openAfter_append_eq_some {waiting left : List κ} {marks more : List (Mark κ)} :
    openAfter waiting (marks ++ more) = some left ↔
      ∃ between, openAfter waiting marks = some between ∧ openAfter between more = some left := by
  rw [openAfter_append, Option.bind_eq_some_iff]

@[simp] theorem after_asked_eq_some {waiting ids left : List κ} :
    (Mark.asked ids).after waiting = some left ↔ waiting = [] ∧ ids.Nodup ∧ ids = left := by
  simp [Mark.after, and_assoc]

@[simp] theorem after_answered_eq_some {waiting left : List κ} {id : κ} :
    (Mark.answered id).after waiting = some left ↔ id ∈ waiting ∧ waiting.erase id = left := by
  simp [Mark.after]

theorem openAfter_asked {waiting ids left : List κ} {marks : List (Mark κ)} :
    openAfter waiting (.asked ids :: marks) = some left ↔
      waiting = [] ∧ ids.Nodup ∧ openAfter ids marks = some left := by
  rw [openAfter_cons, Option.bind_eq_some_iff]
  constructor
  · rintro ⟨next, asked, read⟩
    obtain ⟨none, nodup, rfl⟩ := after_asked_eq_some.mp asked
    exact ⟨none, nodup, read⟩
  · rintro ⟨none, nodup, read⟩
    exact ⟨ids, after_asked_eq_some.mpr ⟨none, nodup, rfl⟩, read⟩

theorem openAfter_answered {waiting left : List κ} {id : κ} {marks : List (Mark κ)} :
    openAfter waiting (.answered id :: marks) = some left ↔
      id ∈ waiting ∧ openAfter (waiting.erase id) marks = some left := by
  rw [openAfter_cons, Option.bind_eq_some_iff]
  constructor
  · rintro ⟨next, answered, read⟩
    obtain ⟨waits, rfl⟩ := after_answered_eq_some.mp answered
    exact ⟨waits, read⟩
  · rintro ⟨waits, read⟩
    exact ⟨waiting.erase id, after_answered_eq_some.mpr ⟨waits, rfl⟩, read⟩

/-- A call is asked once in its round. -/
theorem nodup_openAfter {waiting left : List κ} {marks : List (Mark κ)} (nodup : waiting.Nodup)
    (read : openAfter waiting marks = some left) : left.Nodup := by
  induction marks generalizing waiting with
  | nil =>
    cases read
    exact nodup
  | cons mark marks ih =>
    cases mark with
    | asked ids => exact ih (openAfter_asked.mp read).2.1 (openAfter_asked.mp read).2.2
    | answered id => exact ih (nodup.erase id) (openAfter_answered.mp read).2

/-! ## One round -/

section round

variable {waiting left : List κ} {marks : List (Mark κ)}

/-- Every answer answers a waiting call, and the others are left. -/
theorem perm_of_openAfter (only : OnlyAnswers marks) (read : openAfter waiting marks = some left) :
    (answersOf marks ++ left).Perm waiting := by
  induction marks generalizing waiting with
  | nil =>
    cases read
    exact .refl _
  | cons mark marks ih =>
    cases mark with
    | asked ids => exact absurd only not_onlyAnswers_asked
    | answered id =>
      obtain ⟨waits, read⟩ := openAfter_answered.mp read
      have rest := ih (onlyAnswers_cons.mp only) read
      rw [answersOf_answered, List.cons_append]
      exact (rest.cons id).trans (List.perm_cons_erase waits).symm

/-- What is left of a round are the calls without an answer. -/
theorem filter_of_openAfter (nodup : waiting.Nodup) (only : OnlyAnswers marks)
    (read : openAfter waiting marks = some left) :
    left = waiting.filter (fun id => !(answersOf marks).contains id) := by
  induction marks generalizing waiting with
  | nil =>
    cases read
    simp
  | cons mark marks ih =>
    cases mark with
    | asked ids => exact absurd only not_onlyAnswers_asked
    | answered id =>
      obtain ⟨waits, read⟩ := openAfter_answered.mp read
      rw [ih (nodup.erase id) (onlyAnswers_cons.mp only) read, nodup.erase_eq_filter,
        List.filter_filter]
      refine List.filter_congr fun other _ => ?_
      rw [answersOf_answered, List.contains_cons, Bool.not_or]
      exact Bool.and_comm _ _

/-- A round that is finished answered each of its calls once. -/
theorem count_of_openAfter (nodup : waiting.Nodup) (only : OnlyAnswers marks)
    (read : openAfter waiting marks = some []) {id : κ} (asked : id ∈ waiting) :
    (answersOf marks).count id = 1 := by
  have perm := perm_of_openAfter only read
  rw [List.append_nil] at perm
  rw [perm.count_eq]
  exact List.count_eq_one_of_mem nodup asked

end round

/-! ## A round among others -/

variable {before between after : List (Mark κ)} {ids next left : List κ}

/-- The round asked at a place of the dialogue, up to where it is cut. -/
theorem openAfter_round (read : openAfter [] (before ++ .asked ids :: between) = some left) :
    ids.Nodup ∧ openAfter ids between = some left := by
  obtain ⟨waiting, _, read⟩ := openAfter_append_eq_some.mp read
  exact (openAfter_asked.mp read).2

/-- The round before another one is finished. -/
theorem openAfter_finished_round
    (read : openAfter [] (before ++ .asked ids :: (between ++ .asked next :: after)) = some left) :
    ids.Nodup ∧ openAfter ids between = some [] := by
  obtain ⟨nodup, read⟩ := openAfter_round read
  obtain ⟨waiting, finished, read⟩ := openAfter_append_eq_some.mp read
  obtain ⟨rfl, _, _⟩ := openAfter_asked.mp read
  exact ⟨nodup, finished⟩

/-- Each call of a round that is followed by another is answered once, in between. -/
def AnsweredOnce (marks : List (Mark κ)) : Prop :=
  ∀ (before : List (Mark κ)) (ids : List κ) (between : List (Mark κ)) (next : List κ)
    (after : List (Mark κ)), marks = before ++ .asked ids :: (between ++ .asked next :: after) →
      OnlyAnswers between → ∀ id ∈ ids, (answersOf between).count id = 1

theorem answeredOnce_of_openAfter {marks : List (Mark κ)} (read : openAfter [] marks = some left) :
    AnsweredOnce marks := by
  rintro before ids between next after rfl only id asked
  obtain ⟨nodup, finished⟩ := openAfter_finished_round read
  exact count_of_openAfter nodup only finished asked

/-- What waits at the end of a dialogue are the calls of its last round without an answer. -/
theorem left_of_round (only : OnlyAnswers between)
    (read : openAfter [] (before ++ .asked ids :: between) = some left) :
    left = ids.filter (fun id => !(answersOf between).contains id) := by
  obtain ⟨nodup, read⟩ := openAfter_round read
  exact filter_of_openAfter nodup only read

theorem left_of_onlyAnswers {marks : List (Mark κ)} (only : OnlyAnswers marks)
    (read : openAfter [] marks = some left) : left = [] :=
  (List.append_eq_nil_iff.mp (List.perm_nil.mp (perm_of_openAfter only read))).2

/-! ## A dialogue whose reader does not hear one of the names -/

/-- The dialogue without the answers to one call. -/
def dropAnswers (silent : κ) (marks : List (Mark κ)) : List (Mark κ) :=
  marks.filter (fun mark => decide (mark ≠ .answered silent))

section drop

variable {silent id : κ} {marks : List (Mark κ)}

@[simp] theorem dropAnswers_append (marks more : List (Mark κ)) :
    dropAnswers silent (marks ++ more) = dropAnswers silent marks ++ dropAnswers silent more :=
  List.filter_append ..

@[simp] theorem dropAnswers_asked (ids : List κ) (marks : List (Mark κ)) :
    dropAnswers silent (.asked ids :: marks) = .asked ids :: dropAnswers silent marks :=
  List.filter_cons_of_pos (by simp)

theorem dropAnswers_silent (marks : List (Mark κ)) :
    dropAnswers silent (.answered silent :: marks) = dropAnswers silent marks :=
  List.filter_cons_of_neg (by simp)

theorem dropAnswers_answered (ne : id ≠ silent) (marks : List (Mark κ)) :
    dropAnswers silent (.answered id :: marks) = .answered id :: dropAnswers silent marks :=
  List.filter_cons_of_pos (by simp [ne])

theorem count_dropAnswers (ne : id ≠ silent) (marks : List (Mark κ)) :
    (answersOf (dropAnswers silent marks)).count id = (answersOf marks).count id := by
  induction marks with
  | nil => rfl
  | cons mark marks ih =>
    cases mark with
    | asked ids => simpa using ih
    | answered other =>
      by_cases same : other = silent
      · subst same
        rw [dropAnswers_silent, answersOf_answered, List.count_cons_of_ne ne.symm, ih]
      · rw [dropAnswers_answered same, answersOf_answered, answersOf_answered, List.count_cons,
          List.count_cons, ih]

theorem count_dropAnswers_silent (marks : List (Mark κ)) :
    (answersOf (dropAnswers silent marks)).count silent = 0 := by
  induction marks with
  | nil => rfl
  | cons mark marks ih =>
    cases mark with
    | asked ids => simpa using ih
    | answered other =>
      by_cases same : other = silent
      · subst same
        rw [dropAnswers_silent, ih]
      · rw [dropAnswers_answered same, answersOf_answered, List.count_cons_of_ne same, ih]

/-- Where a name is never asked, it is never answered. -/
theorem dropAnswers_unasked {waiting : List κ} (unasked : ∀ ids, Mark.asked ids ∈ marks →
    silent ∉ ids) (absent : silent ∉ waiting) (read : openAfter waiting marks = some left) :
    dropAnswers silent marks = marks := by
  induction marks generalizing waiting with
  | nil => rfl
  | cons mark marks ih =>
    have later : ∀ ids, Mark.asked ids ∈ marks → silent ∉ ids :=
      fun ids member => unasked ids (List.mem_cons_of_mem _ member)
    cases mark with
    | asked ids =>
      rw [dropAnswers_asked, ih later (unasked ids (by simp)) (openAfter_asked.mp read).2.2]
    | answered id =>
      obtain ⟨waits, read⟩ := openAfter_answered.mp read
      have ne : id ≠ silent := by
        rintro rfl
        exact absent waits
      rw [dropAnswers_answered ne, ih later (fun member => absent (List.mem_of_mem_erase member)) read]

theorem onlyAnswers_dropAnswers : OnlyAnswers (dropAnswers silent marks) ↔ OnlyAnswers marks := by
  simp [OnlyAnswers, dropAnswers, List.mem_filter]

/-- A round of what is heard is a round of the dialogue. -/
theorem exists_round_of_drop
    (heard : dropAnswers silent marks = before ++ .asked ids :: (between ++ .asked next :: after)) :
    ∃ before' between' after', marks = before' ++ .asked ids :: (between' ++ .asked next :: after') ∧
      dropAnswers silent between' = between := by
  obtain ⟨b, rest, rfl, _, heard⟩ := List.filter_eq_append_iff.mp heard
  obtain ⟨p, rest, rfl, _, _, heard⟩ := List.filter_eq_cons_iff.mp heard
  obtain ⟨m, rest, rfl, inside, heard⟩ := List.filter_eq_append_iff.mp heard
  obtain ⟨q, rest, rfl, dropped, _, _⟩ := List.filter_eq_cons_iff.mp heard
  refine ⟨b ++ p, m ++ q, rest, by simp, ?_⟩
  have nothing : dropAnswers silent q = [] := List.filter_eq_nil_iff.mpr dropped
  rw [dropAnswers_append, nothing, List.append_nil]
  exact inside

/-- Where a dialogue is in order, what is heard of it is, exactly if the silent name is asked
in no round that is followed by another. -/
theorem answeredOnce_drop_iff (read : openAfter [] marks = some left) :
    AnsweredOnce (dropAnswers silent marks) ↔
      ∀ (before : List (Mark κ)) (ids : List κ) (between : List (Mark κ)) (next : List κ)
        (after : List (Mark κ)), marks = before ++ .asked ids :: (between ++ .asked next :: after) →
          OnlyAnswers between → silent ∉ ids := by
  constructor
  · rintro once before ids between next after rfl only asked
    have one := once (dropAnswers silent before) ids (dropAnswers silent between) next
      (dropAnswers silent after) (by simp) (onlyAnswers_dropAnswers.mpr only) silent asked
    rw [count_dropAnswers_silent] at one
    exact absurd one (by decide)
  · intro unasked before ids between next after heard only id asked
    obtain ⟨before', between', after', whole, rfl⟩ := exists_round_of_drop heard
    have only' := onlyAnswers_dropAnswers.mp only
    have ne : id ≠ silent := by
      rintro rfl
      exact unasked before' ids between' next after' whole only' asked
    rw [count_dropAnswers ne]
    exact answeredOnce_of_openAfter read before' ids between' next after' whole only' id asked

end drop

end IncidentTriage.Dialogue
