import Mathlib.Data.List.Infix

/-! # Redacted texts

A scanner goes through a text from the left.  Where its matcher finds a word it writes a mark and
goes on behind the word; every other symbol it keeps.  A word that no mark can touch stands in
the result only where it stood in the text, at a place the scanner passed.
-/

namespace IncidentTriage.Redaction

variable {α : Type*}

/-- The length of the word that starts here, given the symbol before. -/
abbrev Matcher (α : Type*) := Option α → List α → Option Nat

/-- The text with a mark for each word; `skip` symbols of the last word are still to be passed. -/
def redactFrom (m : Matcher α) (mark : List α) : Option α → Nat → List α → List α
  | _, _, [] => []
  | _, skip + 1, a :: text => redactFrom m mark (some a) skip text
  | before, 0, a :: text =>
    match m before (a :: text) with
    | some (n + 1) => mark ++ redactFrom m mark (some a) n text
    | _ => a :: redactFrom m mark (some a) 0 text

/-- How many words are replaced. -/
def countFrom (m : Matcher α) : Option α → Nat → List α → Nat
  | _, _, [] => 0
  | _, skip + 1, a :: text => countFrom m (some a) skip text
  | before, 0, a :: text =>
    match m before (a :: text) with
    | some (n + 1) => countFrom m (some a) n text + 1
    | _ => countFrom m (some a) 0 text

def redact (m : Matcher α) (mark text : List α) : List α := redactFrom m mark none 0 text

def count (m : Matcher α) (text : List α) : Nat := countFrom m none 0 text

/-- The matcher finds a word somewhere in the text. -/
def Finds (m : Matcher α) (text : List α) : Prop :=
  ∃ front rest, text = front ++ rest ∧ m front.getLast? rest ≠ none

/-- What a matcher finds is there, and is not empty. -/
structure Sized (m : Matcher α) : Prop where
  pos : ∀ {before : Option α} {text : List α} {n : Nat}, m before text = some n → 0 < n
  le : ∀ {before : Option α} {text : List α} {n : Nat},
    m before text = some n → n ≤ text.length

/-! ## Scans -/

/-- A scan of a text that stands behind `before`. -/
inductive Scan (m : Matcher α) (mark : List α) : Option α → List α → List α → Prop
  | done (before : Option α) : Scan m mark before [] []
  | keep {before : Option α} {a : α} {text out : List α} (passed : m before (a :: text) = none)
      (later : Scan m mark (some a) text out) : Scan m mark before (a :: text) (a :: out)
  | found {before : Option α} {word text out : List α}
      (matched : m before (word ++ text) = some word.length) (nonempty : word ≠ [])
      (later : Scan m mark word.getLast? text out) :
      Scan m mark before (word ++ text) (mark ++ out)

theorem redactFrom_skip (m : Matcher α) (mark : List α) (before : Option α) (word text : List α) :
    redactFrom m mark before word.length (word ++ text) =
      redactFrom m mark (word.getLast?.or before) 0 text := by
  induction word generalizing before with
  | nil => simp
  | cons a word ih =>
    rw [List.length_cons, List.cons_append, redactFrom, ih]
    cases word with
    | nil => rfl
    | cons b word => simp [List.getLast?_cons]

theorem scan_redactFrom {m : Matcher α} (sized : Sized m) (mark : List α) (before : Option α)
    (text : List α) : Scan m mark before text (redactFrom m mark before 0 text) := by
  induction h : text.length using Nat.strong_induction_on generalizing before text with
  | _ length ih =>
    subst h
    cases text with
    | nil => exact .done before
    | cons a text =>
      rw [redactFrom]
      split
      · rename_i n matched
        have inside := sized.le matched
        obtain ⟨word, rest, rfl, full⟩ : ∃ word rest, text = word ++ rest ∧ word.length = n :=
          ⟨text.take n, text.drop n, (List.take_append_drop n text).symm, by
            rw [List.length_take, List.length_cons] at *
            omega⟩
        subst full
        rw [redactFrom_skip, ← List.cons_append]
        have same : word.getLast?.or (some a) = (a :: word).getLast? := by
          cases word with
          | nil => rfl
          | cons b word => simp [List.getLast?_cons]
        rw [same]
        refine .found (by simpa using matched) (List.cons_ne_nil a word) (ih _ ?_ _ _ rfl)
        simp only [List.length_cons, List.length_append]
        omega
      · rename_i short
        refine .keep ?_ (ih _ (by simp) _ _ rfl)
        cases matched : m before (a :: text) with
        | none => rfl
        | some n =>
          obtain ⟨k, rfl⟩ := Nat.exists_eq_succ_of_ne_zero (sized.pos matched).ne'
          exact absurd matched (short k)

theorem scan_redact {m : Matcher α} (sized : Sized m) (mark text : List α) :
    Scan m mark none text (redact m mark text) :=
  scan_redactFrom sized mark none text

/-- A text without words is kept. -/
theorem redactFrom_of_none {m : Matcher α} (mark : List α) {before : Option α} {text : List α}
    (none_ : ∀ front rest, text = front ++ rest → m (front.getLast?.or before) rest = none) :
    redactFrom m mark before 0 text = text ∧ countFrom m before 0 text = 0 := by
  induction text generalizing before with
  | nil => exact ⟨rfl, rfl⟩
  | cons a text ih =>
    have here := none_ [] (a :: text) rfl
    simp only [List.getLast?_nil, Option.none_or] at here
    obtain ⟨kept, none'⟩ := @ih (some a) fun front rest same => by
      have later := none_ (a :: front) rest (by rw [same, List.cons_append])
      rw [List.getLast?_cons] at later
      cases last : front.getLast? <;> simpa [last] using later
    constructor
    · rw [redactFrom, here]
      exact congrArg (a :: ·) kept
    · rw [countFrom, here]
      exact none'

theorem redact_of_not_finds {m : Matcher α} (mark : List α) {text : List α}
    (absent : ¬ Finds m text) : redact m mark text = text ∧ count m text = 0 := by
  refine redactFrom_of_none mark fun front rest same => ?_
  by_contra found
  exact absent ⟨front, rest, same, by simpa using found⟩

/-- Where nothing is counted, nothing is found. -/
theorem countFrom_eq_zero {m : Matcher α} (sized : Sized m) {before : Option α} {text : List α}
    (zero : countFrom m before 0 text = 0) (front rest : List α) (split : text = front ++ rest) :
    m (front.getLast?.or before) rest = none := by
  have here : ∀ (before : Option α) (a : α) (text : List α), countFrom m before 0 (a :: text) = 0 →
      m before (a :: text) = none ∧ countFrom m (some a) 0 text = 0 := by
    intro before a text zero
    rw [countFrom] at zero
    split at zero
    · cases zero
    · rename_i short
      refine ⟨?_, zero⟩
      cases matched : m before (a :: text) with
      | none => rfl
      | some n =>
        obtain ⟨k, rfl⟩ := Nat.exists_eq_succ_of_ne_zero (sized.pos matched).ne'
        exact absurd matched (short k)
  induction front generalizing before text with
  | nil =>
    rw [List.nil_append] at split
    rw [← split]
    cases text with
    | nil =>
      cases matched : m (([] : List α).getLast?.or before) [] with
      | none => rfl
      | some n => exact absurd (sized.le matched) (Nat.not_le.mpr (sized.pos matched))
    | cons a text => exact (here _ a text zero).1
  | cons a front ih =>
    subst split
    have later := ih (here _ a _ zero).2 rfl
    rw [List.getLast?_cons]
    cases last : front.getLast? <;> simpa [last] using later

theorem not_finds_of_count {m : Matcher α} (sized : Sized m) {text : List α}
    (zero : count m text = 0) : ¬ Finds m text := by
  rintro ⟨front, rest, split, found⟩
  have none_ := countFrom_eq_zero sized zero front rest split
  rw [Option.or_none] at none_
  exact found none_

/-! ## Words and marks that do not touch -/

/-- `v` does not start inside `w`. -/
def StartsOutside (v w : List α) : Prop :=
  ∀ rest, rest <:+ w → rest ≠ [] → ¬ rest <+: v ∧ ¬ v <+: rest

theorem StartsOutside.tail {v w : List α} {a : α} (outside : StartsOutside v (a :: w)) :
    StartsOutside v w :=
  fun rest suffix => outside rest (suffix.trans (List.suffix_cons a w))

/-- Neither starts inside the other. -/
structure Apart (mark word : List α) : Prop where
  outside : StartsOutside mark word
  unentered : StartsOutside word mark

theorem StartsOutside.front_ne {v w rest out : List α} (outside : StartsOutside v w)
    (nonempty : w ≠ []) : w ++ rest ≠ v ++ out := by
  intro same
  rcases List.prefix_or_prefix_of_prefix (List.prefix_append w rest)
    (same ▸ List.prefix_append v out) with shorter | longer
  · exact (outside w List.suffix_rfl nonempty).1 shorter
  · exact (outside w List.suffix_rfl nonempty).2 longer

theorem Apart.front_ne {mark word more rest out : List α} (apart : Apart mark word)
    (suffix : more <:+ mark) (nonempty : more ≠ []) : more ++ out ≠ word ++ rest := by
  intro same
  have := apart.unentered more suffix nonempty
  rcases List.prefix_or_prefix_of_prefix (List.prefix_append more out)
    (same ▸ List.prefix_append word rest) with shorter | longer
  · exact this.1 shorter
  · exact this.2 longer

/-- A word made of symbols the mark neither begins nor ends with, and of one it has not. -/
theorem apart_of_symbols {mark word : List α} {first last : α} (inner : List α)
    (shape : mark = first :: inner ++ [last]) (begins : first ∉ word) (ends : last ∉ word)
    (other : ∃ a ∈ word, a ∉ mark) : Apart mark word where
  outside := by
    intro rest suffix nonempty
    have members := suffix.subset
    subst shape
    constructor
    · intro front
      obtain ⟨a, rest, rfl⟩ := List.exists_cons_of_ne_nil nonempty
      obtain ⟨more, same⟩ := front
      rw [List.cons_append] at same
      obtain rfl := (List.cons.inj same).1
      exact begins (members List.mem_cons_self)
    · intro front
      exact begins (members (front.subset (by simp)))
  unentered := by
    intro rest suffix nonempty
    have members := suffix.subset
    subst shape
    obtain ⟨more, same⟩ := suffix
    have ended : last ∈ rest := by
      have lasts := congrArg List.getLast? same
      rw [List.getLast?_append_of_ne_nil _ nonempty, List.getLast?_concat] at lasts
      exact List.mem_of_getLast? lasts
    constructor
    · intro front
      exact ends (front.subset ended)
    · intro front
      obtain ⟨a, member, absent⟩ := other
      exact absent (members (front.subset member))

/-! ## Where a word of the result stood -/

theorem getLast?_cons_or (a : α) (front : List α) (before : Option α) :
    (a :: front).getLast?.or before = front.getLast?.or (some a) := by
  rw [List.getLast?_cons]
  cases front.getLast? <;> rfl

theorem getLast?_append_or {word : List α} (nonempty : word ≠ []) (front : List α)
    (before : Option α) :
    (word ++ front).getLast?.or before = front.getLast?.or word.getLast? := by
  rw [List.getLast?_append]
  obtain ⟨last, ended⟩ := Option.isSome_iff_exists.mp (List.getLast?_isSome.mpr nonempty)
  rw [ended]
  cases front.getLast? <;> rfl

/-- What no mark starts inside is kept. -/
theorem Scan.front {m : Matcher α} {mark word text rest : List α} {before : Option α}
    (scan : Scan m mark before text (word ++ rest)) (outside : StartsOutside mark word) :
    ∃ rest', text = word ++ rest' ∧ (word ≠ [] → m before (word ++ rest') = none) ∧
      Scan m mark (word.getLast?.or before) rest' rest := by
  induction word generalizing before text with
  | nil => exact ⟨text, rfl, fun same => absurd rfl same, scan⟩
  | cons a word ih =>
    generalize same : a :: word ++ rest = out at scan
    cases scan with
    | done => cases same
    | keep passed later =>
      obtain ⟨rfl, rfl⟩ := List.cons.inj same
      obtain ⟨rest', rfl, _, later⟩ := ih later outside.tail
      rw [getLast?_cons_or]
      exact ⟨rest', rfl, fun _ => passed, later⟩
    | found matched nonempty later =>
      exact absurd same (outside.front_ne (List.cons_ne_nil a word))

/-- What stands directly before a word: the symbol it stood behind, or a mark for a word of the
text. -/
def Behind (m : Matcher α) (before : Option α) (front front' word rest' : List α) : Prop :=
  front.getLast?.or before = front'.getLast?.or before ∨
    ∃ more found, front' = more ++ found ∧ found ≠ [] ∧
      m (more.getLast?.or before) (found ++ (word ++ rest')) = some found.length

theorem Behind.cons {m : Matcher α} {before : Option α} {a : α}
    {front front' word rest' : List α}
    (behind : Behind m (some a) front front' word rest') :
    Behind m before (a :: front) (a :: front') word rest' := by
  rcases behind with same | ⟨more, found, rfl, nonempty, matched⟩
  · exact .inl (by rw [getLast?_cons_or, getLast?_cons_or, same])
  · exact .inr ⟨a :: more, found, rfl, nonempty, by rwa [getLast?_cons_or]⟩

theorem Behind.append {m : Matcher α} {mark : List α} {before : Option α}
    {passed front front' word rest' : List α} (nonempty : passed ≠ [])
    (matched : m before (passed ++ (front' ++ (word ++ rest'))) = some passed.length)
    (first : front = [] → front' = [])
    (behind : Behind m passed.getLast? front front' word rest') :
    Behind m before (mark ++ front) (passed ++ front') word rest' := by
  rcases behind with same | ⟨more, found, rfl, present, matched'⟩
  · cases front with
    | nil =>
      rw [first rfl] at matched ⊢
      exact .inr ⟨[], passed, by simp, nonempty, by simpa using matched⟩
    | cons b front =>
      refine .inl ?_
      rw [getLast?_append_or nonempty, ← same, List.getLast?_append, List.getLast?_cons]
      rfl
  · exact .inr ⟨passed ++ more, found, (List.append_assoc ..).symm, present, by
      rwa [getLast?_append_or nonempty]⟩

/-- A word apart from the mark stood in the text, and the scanner passed it. -/
theorem Scan.place {m : Matcher α} {mark word text front rest : List α} {before : Option α}
    (scan : Scan m mark before text (front ++ (word ++ rest))) (apart : Apart mark word)
    (nonempty : word ≠ []) :
    ∃ front' rest', text = front' ++ (word ++ rest') ∧ (front = [] → front' = []) ∧
      m (front'.getLast?.or before) (word ++ rest') = none ∧
      Scan m mark word.getLast? rest' rest ∧ Behind m before front front' word rest' := by
  have marked : mark ≠ [] := by
    rintro rfl
    exact (apart.outside word List.suffix_rfl nonempty).2 List.nil_prefix
  have here : ∀ {before : Option α} {text : List α}, Scan m mark before text (word ++ rest) →
      ∃ front' rest', text = front' ++ (word ++ rest') ∧ (([] : List α) = [] → front' = []) ∧
        m (front'.getLast?.or before) (word ++ rest') = none ∧
        Scan m mark word.getLast? rest' rest ∧ Behind m before [] front' word rest' := by
    intro before text scan
    obtain ⟨rest', rfl, passed, later⟩ := scan.front apart.outside
    obtain ⟨last, ended⟩ := Option.isSome_iff_exists.mp (List.getLast?_isSome.mpr nonempty)
    rw [ended, Option.some_or, ← ended] at later
    exact ⟨[], rest', rfl, fun _ => rfl, passed nonempty, later, .inl rfl⟩
  generalize same : front ++ (word ++ rest) = out at scan
  induction scan generalizing front with
  | done before =>
    simp [nonempty] at same
  | @keep before a text out passed later ih =>
    cases front with
    | nil =>
      rw [List.nil_append] at same
      exact here (same ▸ .keep passed later)
    | cons b front =>
      obtain ⟨rfl, rest_⟩ := List.cons.inj same
      obtain ⟨front', rest', rfl, _, absent, kept, behind⟩ := ih rest_
      exact ⟨b :: front', rest', rfl, fun other => (List.cons_ne_nil b front other).elim,
        by rwa [getLast?_cons_or], kept, behind.cons⟩
  | @found before found text out matched present later ih =>
    have after : ∀ {more : List α}, front = mark ++ more → more ++ (word ++ rest) = out →
        ∃ front' rest', found ++ text = front' ++ (word ++ rest') ∧ (front = [] → front' = []) ∧
          m (front'.getLast?.or before) (word ++ rest') = none ∧
          Scan m mark word.getLast? rest' rest ∧ Behind m before front front' word rest' := by
      rintro more rfl rest_
      obtain ⟨front', rest', rfl, first, absent, kept, behind⟩ := ih rest_
      refine ⟨found ++ front', rest', (List.append_assoc ..).symm, ?_, ?_, kept,
        behind.append present matched first⟩
      · exact fun none_ => absurd (List.append_eq_nil_iff.mp none_).1 marked
      · rwa [getLast?_append_or present]
    rcases List.append_eq_append_iff.mp same with ⟨more, split, rest_⟩ | ⟨more, split, rest_⟩
    · by_cases empty : more = []
      · subst empty
        exact @after [] (by simpa using split.symm) (by simpa using rest_)
      · have suffix : more <:+ mark := split ▸ List.suffix_append front more
        exact absurd rest_.symm (apart.front_ne suffix empty)
    · exact after split rest_.symm

/-- A stretch of the result was kept as a whole, or some word starts inside it. -/
theorem Scan.stretch {m : Matcher α} {mark stretch text rest : List α} {before : Option α}
    (scan : Scan m mark before text (stretch ++ rest)) :
    (∃ rest', text = stretch ++ rest') ∨
      ∃ kept more found rest' ctx, stretch = kept ++ more ∧ more ≠ [] ∧
        text = kept ++ (found ++ rest') ∧ m ctx (found ++ rest') = some found.length := by
  induction stretch generalizing before text with
  | nil => exact .inl ⟨text, rfl⟩
  | cons a stretch ih =>
    generalize same : a :: stretch ++ rest = out at scan
    cases scan with
    | done => cases same
    | keep passed later =>
      obtain ⟨rfl, rfl⟩ := List.cons.inj same
      rcases ih later with ⟨rest', rfl⟩ | ⟨kept, more, found, rest', ctx, rfl, some_, rfl, matched⟩
      · exact .inl ⟨rest', rfl⟩
      · exact .inr ⟨a :: kept, more, found, rest', ctx, rfl, some_, rfl, matched⟩
    | @found _ found text _ matched nonempty later =>
      exact .inr ⟨[], a :: stretch, found, text, before, rfl, List.cons_ne_nil a stretch, rfl,
        matched⟩

/-! ## What is no longer found -/

/-- The words of a matcher are apart from the mark, and found whatever comes after them. -/
structure Firm (mark : List α) (m : Matcher α) : Prop extends Sized m where
  apart : ∀ {before : Option α} {word rest : List α},
    m before (word ++ rest) = some word.length → Apart mark word
  lasting : ∀ {before : Option α} {word rest : List α} (more : List α),
    m before (word ++ rest) = some word.length → m before (word ++ more) ≠ none

/-- A word of `m` directly behind one of `m'` is found there. -/
def FoundBehind (m m' : Matcher α) : Prop :=
  ∀ (before last : Option α) (found word rest more : List α),
    m last (word ++ rest) = some word.length →
    m' before (found ++ (word ++ more)) = some found.length → found ≠ [] →
    m found.getLast? (word ++ more) ≠ none

/-- What is found in the result is a word of the text that the scanner passed. -/
theorem Firm.of_redact {m m' : Matcher α} {mark text : List α} (firm : Firm mark m)
    (sized : Sized m') (follows : FoundBehind m m') (finds : Finds m (redact m' mark text)) :
    ∃ front rest, text = front ++ rest ∧ m front.getLast? rest ≠ none ∧
      m' front.getLast? rest = none := by
  obtain ⟨front, rest, split, found⟩ := finds
  obtain ⟨n, matched⟩ := Option.ne_none_iff_exists'.mp found
  obtain ⟨word, rest, rfl, full⟩ : ∃ word more, rest = word ++ more ∧ word.length = n :=
    ⟨rest.take n, rest.drop n, (List.take_append_drop n rest).symm, by
      rw [List.length_take]
      exact min_eq_left (firm.le matched)⟩
  subst full
  have nonempty := List.length_pos_iff.mp (firm.pos matched)
  have scan := scan_redact sized mark text
  rw [split] at scan
  obtain ⟨front', rest', rfl, _, passed, _, behind⟩ := scan.place (firm.apart matched) nonempty
  rw [Option.or_none] at passed
  refine ⟨front', word ++ rest', rfl, ?_, passed⟩
  rcases behind with same | ⟨more, words, rfl, present, matched'⟩
  · rw [Option.or_none, Option.or_none] at same
    rw [← same]
    exact firm.lasting rest' matched
  · rw [List.getLast?_append_of_ne_nil _ present]
    exact follows _ _ _ _ _ _ matched matched' present

theorem Firm.redacted {m : Matcher α} {mark : List α} (firm : Firm mark m) (follows : FoundBehind m m)
    (text : List α) : ¬ Finds m (redact m mark text) := by
  intro finds
  obtain ⟨front, rest, _, found, passed⟩ := firm.of_redact firm.toSized follows finds
  exact found passed

theorem Firm.kept {m m' : Matcher α} {mark text : List α} (firm : Firm mark m) (sized : Sized m')
    (follows : FoundBehind m m') (absent : ¬ Finds m text) : ¬ Finds m (redact m' mark text) := by
  intro finds
  obtain ⟨front, rest, split, found, _⟩ := firm.of_redact sized follows finds
  exact absent ⟨front, rest, split, found⟩

/-- What does not look back follows everything. -/
theorem Firm.follows {m : Matcher α} {mark : List α} (firm : Firm mark m)
    (blind : ∀ before before' text, m before text = m before' text) (m' : Matcher α) :
    FoundBehind m m' := by
  intro before last found word rest more matched _ _
  rw [blind found.getLast? last]
  exact firm.lasting more matched

/-! ## Fixed words -/

/-- One word. -/
def literal [DecidableEq α] (word : List α) : Matcher α :=
  fun _ text => if word <+: text then some word.length else none

section
variable [DecidableEq α] {word : List α}

theorem literal_eq_some {before : Option α} {text : List α} {n : Nat} :
    literal word before text = some n ↔ word <+: text ∧ n = word.length := by
  unfold literal
  split_ifs with front
  · simp [front, eq_comm]
  · simp [front]

theorem finds_literal {text : List α} : Finds (literal word) text ↔ word <:+: text := by
  constructor
  · rintro ⟨front, rest, rfl, found⟩
    obtain ⟨n, matched⟩ := Option.ne_none_iff_exists'.mp found
    exact (literal_eq_some.mp matched).1.isInfix.trans (List.suffix_append front rest).isInfix
  · rintro ⟨front, rest, rfl⟩
    refine ⟨front, word ++ rest, List.append_assoc .., ?_⟩
    exact Option.ne_none_iff_exists'.mpr
      ⟨_, literal_eq_some.mpr ⟨List.prefix_append word rest, rfl⟩⟩

theorem literal_word {before : Option α} {word' rest : List α}
    (matched : literal word before (word' ++ rest) = some word'.length) : word' = word := by
  obtain ⟨front, full⟩ := literal_eq_some.mp matched
  have shorter := List.prefix_of_prefix_length_le front (List.prefix_append word' rest) full.ge
  exact (shorter.eq_of_length full.symm).symm

theorem sized_literal (nonempty : word ≠ []) : Sized (literal word) where
  pos matched := by
    rw [(literal_eq_some.mp matched).2]
    exact List.length_pos_iff.mpr nonempty
  le matched := by
    obtain ⟨front, rfl⟩ := literal_eq_some.mp matched
    exact front.length_le

theorem firm_literal {mark : List α} (nonempty : word ≠ []) (apart : Apart mark word) :
    Firm mark (literal word) where
  toSized := sized_literal nonempty
  apart matched := literal_word matched ▸ apart
  lasting more matched := by
    obtain rfl := literal_word matched
    exact Option.ne_none_iff_exists'.mpr
      ⟨_, literal_eq_some.mpr ⟨List.prefix_append _ more, rfl⟩⟩

end

/-! ## One matcher after the other -/

def redactAll (ms : List (Matcher α)) (mark text : List α) : List α :=
  ms.foldl (fun text m => redact m mark text) text

@[simp] theorem redactAll_nil (mark text : List α) : redactAll [] mark text = text := rfl

@[simp] theorem redactAll_cons (m : Matcher α) (ms : List (Matcher α)) (mark text : List α) :
    redactAll (m :: ms) mark text = redactAll ms mark (redact m mark text) := rfl

theorem redactAll_append (ms ms' : List (Matcher α)) (mark text : List α) :
    redactAll (ms ++ ms') mark text = redactAll ms' mark (redactAll ms mark text) :=
  List.foldl_append

/-- Property of a text that every redaction keeps. -/
theorem redactAll_induction {ms : List (Matcher α)} {mark text : List α} {P : List α → Prop}
    (start : P text) (step : ∀ m ∈ ms, ∀ text, P text → P (redact m mark text)) :
    P (redactAll ms mark text) := by
  induction ms generalizing text with
  | nil => exact start
  | cons m ms ih =>
    exact ih (step m List.mem_cons_self text start)
      fun m' member => step m' (List.mem_cons_of_mem m member)

/-- Nothing is found any more by matchers that follow themselves and those after them. -/
theorem not_finds_redactAll {ms : List (Matcher α)} {mark : List α}
    (firm : ∀ m ∈ ms, Firm mark m) (self : ∀ m ∈ ms, FoundBehind m m)
    (later : ms.Pairwise fun m m' => FoundBehind m m') (text : List α) :
    ∀ m ∈ ms, ¬ Finds m (redactAll ms mark text) := by
  induction ms generalizing text with
  | nil => exact fun m member => absurd member List.not_mem_nil
  | cons m ms ih =>
    obtain ⟨follows, later⟩ := List.pairwise_cons.mp later
    intro m' member
    rcases List.mem_cons.mp member with rfl | member
    · rw [redactAll_cons]
      refine redactAll_induction (P := fun text => ¬ Finds m' text)
        ((firm _ member).redacted (self _ member) text) ?_
      intro m'' among text absent
      exact (firm _ member).kept (firm _ (List.mem_cons_of_mem _ among)).toSized
        (follows _ among) absent
    · exact ih (fun m member => firm m (List.mem_cons_of_mem _ member))
        (fun m member => self m (List.mem_cons_of_mem _ member)) later _ m' member

/-! ## Blurred texts -/

/-- Some words of a text, all of them in `found`, are blurred by a mark each. -/
inductive Blurs (mark : List α) (found : List α → Prop) : List α → List α → Prop
  | nil : Blurs mark found [] []
  | keep {a : α} {text out : List α} (later : Blurs mark found text out) :
      Blurs mark found (a :: text) (a :: out)
  | blur {word text out : List α} (isFound : found word) (later : Blurs mark found text out) :
      Blurs mark found (word ++ text) (mark ++ out)

theorem Scan.blurs {m : Matcher α} {mark text out : List α} {before : Option α}
    {found : List α → Prop} (scan : Scan m mark before text out)
    (words : ∀ {before : Option α} {word rest : List α},
      m before (word ++ rest) = some word.length → found word) : Blurs mark found text out := by
  induction scan with
  | done => exact .nil
  | keep _ _ ih => exact .keep ih
  | found matched _ _ ih => exact .blur (words matched) ih

theorem Blurs.front {mark word text rest : List α} {found : List α → Prop}
    (blurs : Blurs mark found text (word ++ rest)) (outside : StartsOutside mark word) :
    ∃ rest', text = word ++ rest' ∧ Blurs mark found rest' rest := by
  induction word generalizing text with
  | nil => exact ⟨text, rfl, blurs⟩
  | cons a word ih =>
    generalize same : a :: word ++ rest = out at blurs
    cases blurs with
    | nil => cases same
    | keep later =>
      obtain ⟨rfl, rfl⟩ := List.cons.inj same
      obtain ⟨rest', rfl, after⟩ := ih later outside.tail
      exact ⟨rest', rfl, after⟩
    | blur isFound later => exact absurd same (outside.front_ne (List.cons_ne_nil a word))

theorem Blurs.place {mark word text front rest : List α} {found : List α → Prop}
    (blurs : Blurs mark found text (front ++ (word ++ rest))) (apart : Apart mark word)
    (nonempty : word ≠ []) :
    ∃ front' rest', text = front' ++ (word ++ rest') ∧ Blurs mark found front' front ∧
      Blurs mark found rest' rest := by
  have here : ∀ {text : List α}, Blurs mark found text (word ++ rest) →
      ∃ front' rest', text = front' ++ (word ++ rest') ∧ Blurs mark found front' [] ∧
        Blurs mark found rest' rest := by
    intro text blurs
    obtain ⟨rest', rfl, later⟩ := blurs.front apart.outside
    exact ⟨[], rest', rfl, .nil, later⟩
  generalize same : front ++ (word ++ rest) = out at blurs
  induction blurs generalizing front with
  | nil => simp [nonempty] at same
  | @keep a text out later ih =>
    cases front with
    | nil => exact here (same ▸ .keep later)
    | cons b front =>
      obtain ⟨rfl, rest_⟩ := List.cons.inj same
      obtain ⟨front', rest', rfl, before, after⟩ := ih rest_
      exact ⟨b :: front', rest', rfl, .keep before, after⟩
  | @blur blurred text out isFound later ih =>
    have after : ∀ {more : List α}, front = mark ++ more → more ++ (word ++ rest) = out →
        ∃ front' rest', blurred ++ text = front' ++ (word ++ rest') ∧
          Blurs mark found front' front ∧ Blurs mark found rest' rest := by
      rintro more rfl rest_
      obtain ⟨front', rest', rfl, before, after⟩ := ih rest_
      exact ⟨blurred ++ front', rest', (List.append_assoc ..).symm, .blur isFound before, after⟩
    rcases List.append_eq_append_iff.mp same with ⟨more, split, rest_⟩ | ⟨more, split, rest_⟩
    · by_cases empty : more = []
      · subst empty
        exact @after [] (by simpa using split.symm) (by simpa using rest_)
      · have suffix : more <:+ mark := split ▸ List.suffix_append front more
        exact absurd rest_.symm (apart.front_ne suffix empty)
    · exact after split rest_.symm

/-- A text put together from free symbols and words. -/
inductive Filled (free : α → Prop) (found : List α → Prop) : List α → Prop
  | nil : Filled free found []
  | symbol {a : α} {text : List α} (isFree : free a) (later : Filled free found text) :
      Filled free found (a :: text)
  | word {word text : List α} (isFound : found word) (later : Filled free found text) :
      Filled free found (word ++ text)

section
variable {mark : List α} {free : α → Prop} {found : List α → Prop}

theorem filled_of_symbols {text : List α} (all : ∀ a ∈ text, free a) : Filled free found text := by
  induction text with
  | nil => exact .nil
  | cons a text ih =>
    exact .symbol (all a List.mem_cons_self)
      (ih fun b member => all b (List.mem_cons_of_mem a member))

theorem Filled.behind (apart : ∀ word, found word → Apart mark word ∧ word ≠ [])
    {piece text : List α}
    (suffix : piece <:+ mark) (filled : Filled free found (piece ++ text)) :
    Filled free found text := by
  induction piece with
  | nil => exact filled
  | cons a piece ih =>
    generalize same : a :: piece ++ text = out at filled
    cases filled with
    | nil => cases same
    | symbol isFree later =>
      obtain ⟨rfl, rfl⟩ := List.cons.inj same
      exact ih ((List.suffix_cons a piece).trans suffix) later
    | word isFound later =>
      exact absurd same ((apart _ isFound).1.front_ne suffix (List.cons_ne_nil a piece))

/-- What a filled text was blurred from is filled. -/
theorem Filled.unblurred (apart : ∀ word, found word → Apart mark word ∧ word ≠ [])
    (marked : mark ≠ []) {text out : List α} (blurs : Blurs mark found text out)
    (filled : Filled free found out) : Filled free found text := by
  induction h : out.length using Nat.strong_induction_on generalizing text out with
  | _ length ih =>
    subst h
    cases filled with
    | nil =>
      generalize same : ([] : List α) = out at blurs
      cases blurs with
      | nil => exact .nil
      | keep => cases same
      | blur => exact absurd (List.append_eq_nil_iff.mp same.symm).1 marked
    | word isFound later =>
      obtain ⟨outside, nonempty⟩ := apart _ isFound
      obtain ⟨rest, rfl, after⟩ := blurs.front outside.outside
      refine .word isFound (ih _ ?_ after later rfl)
      have := List.length_pos_iff.mpr nonempty
      rw [List.length_append]
      omega
    | @symbol a out isFree later =>
      generalize same : a :: out = out' at blurs
      cases blurs with
      | nil => cases same
      | keep blurs =>
        obtain ⟨rfl, rfl⟩ := List.cons.inj same
        exact .symbol isFree (ih _ (by simp) blurs later rfl)
      | @blur blurred text rest isFound blurs =>
        have kept : Filled free found rest := by
          refine Filled.behind apart List.suffix_rfl ?_
          rw [← same]
          exact .symbol isFree later
        refine .word isFound (ih _ ?_ blurs kept rfl)
        have := List.length_pos_iff.mpr marked
        have sizes := congrArg List.length same
        rw [List.length_append] at sizes
        omega

end

end IncidentTriage.Redaction
