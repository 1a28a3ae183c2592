import IncidentTriage.Verified.Providers
import Mathlib

/-! # Hidden reasoning

A text is read as think blocks by counting their tags.  The adapter takes out what stands
between an opening tag and the first closing tag behind it, and an opening tag without one
stays.
-/

namespace IncidentTriage.Verified

open IncidentTriage.Python IncidentTriage.Agents IncidentTriage.Agents.OpenAICompatible

/-! ## The property -/

def openingTag : List Char := ['<', 't', 'h', 'i', 'n', 'k', '>']

def closingTag : List Char := ['<', '/', 't', 'h', 'i', 'n', 'k', '>']

/-- A tag as it stands in a text, in letters of any case. -/
def Spells (tag mark : List Char) : Prop :=
  List.Forall₂ (fun letter c => matchesLetter letter c = true) tag mark

inductive Token where
  | char (c : Char)
  | opening
  | closing
  deriving DecidableEq, Repr

theorem afterTag_eq_some {tag text rest : List Char} :
    afterTag tag text = some rest ↔ ∃ mark, Spells tag mark ∧ text = mark ++ rest := by
  induction tag generalizing text with
  | nil =>
    rw [afterTag, Option.some.injEq]
    constructor
    · rintro rfl
      exact ⟨[], .nil, rfl⟩
    · rintro ⟨mark, spelt, rfl⟩
      cases spelt
      rfl
  | cons letter tag ih =>
    cases text with
    | nil =>
      refine iff_of_false (by simp [afterTag]) ?_
      rintro ⟨mark, spelt, same⟩
      cases spelt
      cases same
    | cons c text =>
      rw [afterTag]
      split_ifs with same
      · rw [ih]
        constructor
        · rintro ⟨mark, spelt, rfl⟩
          exact ⟨c :: mark, .cons same spelt, rfl⟩
        · rintro ⟨mark, spelt, whole⟩
          cases spelt with
          | cons _ spelt =>
            rw [List.cons_append, List.cons.injEq] at whole
            exact ⟨_, spelt, whole.2⟩
      · refine iff_of_false (by simp) ?_
        rintro ⟨mark, spelt, whole⟩
        cases spelt with
        | cons first _ =>
          rw [List.cons_append, List.cons.injEq] at whole
          exact same (whole.1 ▸ first)

theorem length_lt_of_afterTag {letter : Char} {tag text rest : List Char}
    (found : afterTag (letter :: tag) text = some rest) : rest.length < text.length := by
  obtain ⟨mark, spelt, rfl⟩ := afterTag_eq_some.mp found
  cases spelt
  simp only [List.length_append, List.length_cons]
  omega

/-- A text as tags and the characters between them. -/
def tokens (text : List Char) : List Token :=
  match text with
  | [] => []
  | c :: rest =>
    match _opened : afterTag openingTag (c :: rest) with
    | some after => .opening :: tokens after
    | none =>
      match _closed : afterTag closingTag (c :: rest) with
      | some after => .closing :: tokens after
      | none => .char c :: tokens rest
termination_by text.length
decreasing_by
  · exact length_lt_of_afterTag _opened
  · exact length_lt_of_afterTag _closed
  · exact Nat.lt_succ_self _

/-- The pieces of text outside the blocks, from inside so many of them.  A block ends with the
closing tag of its opening tag, or with the text. -/
def outside : Nat → List Token → List (List Char)
  | 0, [] => [[]]
  | 0, .char c :: rest => (outside 0 rest).modifyHead (c :: ·)
  | 0, .opening :: rest => [] :: outside 1 rest
  | 0, .closing :: rest => [] :: outside 0 rest
  | _ + 1, [] => []
  | depth + 1, .char _ :: rest => outside (depth + 1) rest
  | depth + 1, .opening :: rest => outside (depth + 2) rest
  | depth + 1, .closing :: rest => outside depth rest

def Blank (text : List Char) : Prop := ∀ c ∈ text, isSpace c = true

/-- A piece without some of the white space at its ends. -/
def Trims (piece shown : List Char) : Prop :=
  ∃ before after, Blank before ∧ Blank after ∧ piece = before ++ shown ++ after

def HasTag (text : List Char) : Prop :=
  ∃ before mark after, (Spells openingTag mark ∨ Spells closingTag mark) ∧
    text = before ++ mark ++ after

/-- What is shown of a text is all that stands outside its think blocks, in order, up to white
space at the ends of the pieces, and there is no tag in it. -/
structure HidesThinking (text shown : List Char) : Prop where
  noTag : ¬ HasTag shown
  kept : ∃ trimmed, List.Forall₂ Trims (outside 0 (tokens text)) trimmed ∧
    trimmed.flatten = shown

/-- The content of an answer that is text. -/
inductive IsContent : Json → String → Prop
  | text (text : String) : IsContent (.str text) text
  | parts {parts : List Json} {texts : List String}
      (each : List.Forall₂ (fun part text => ∃ fields, part = .object fields ∧
        Dict.get? fields "text" = some (.str text)) parts texts) :
      IsContent (.list parts) (String.join texts)

/-- The text of a turn hides the reasoning, and the stored message has that text and, beside
it, only tool calls. -/
def HidesReasoning (text : String) (turn : ModelTurn) : Prop :=
  HidesThinking text.toList turn.text.toList ∧
    ∃ calls, Dict.get? turn.providerPayload "message" =
      some (.object (("content", .str turn.text) :: calls)) ∧
        ∀ field ∈ calls, field.1 = "tool_calls"

/-! ## The condition -/

/-- Each opening tag outside a block has a closing tag behind it, and each closing tag outside
is missing; behind a block with another opening tag in it, all text outside is white space. -/
def WellClosed : (nested inside : Bool) → List Token → Prop
  | _, false, [] => True
  | _, true, [] => False
  | nested, false, .char c :: rest =>
    (nested = true → isSpace c = true) ∧ WellClosed nested false rest
  | nested, false, .opening :: rest => WellClosed nested true rest
  | _, false, .closing :: _ => False
  | nested, true, .char _ :: rest => WellClosed nested true rest
  | _, true, .opening :: rest => WellClosed true true rest
  | nested, true, .closing :: rest => WellClosed nested false rest

/-- Pieces put together, each but the first without the white space it begins with. -/
def putTogether : List (List Char) → List Char
  | [] => []
  | first :: others => first ++ (others.map (·.dropWhile isSpace)).flatten

/-- The tags of a text are well closed, and the text outside its blocks makes no tag. -/
def Separable (text : List Char) : Prop :=
  WellClosed false false (tokens text) ∧ ¬ HasTag (putTogether (outside 0 (tokens text)))

/-! ## Letters of tags -/

theorem eq_lt_of_matchesLetter {c : Char} (same : matchesLetter '<' c = true) : c = '<' := by
  have lower : c.toLower = '<' := by simpa [matchesLetter] using same
  have plain : c.isAlpha = false := by
    rw [← Char.isLower_toLower_eq_isAlpha, lower]
    rfl
  have other : ¬ c.isUpper = true := by
    intro upper
    rw [Char.isAlpha, upper] at plain
    cases plain
  rwa [Char.toLower_eq_of_not_isUpper other] at lower

theorem ink_of_matchesLetter {letter c : Char} (same : matchesLetter letter c = true)
    (ink : isSpace letter = false) : isSpace c = false := by
  by_contra space
  rw [Bool.not_eq_false] at space
  have small : c.toNat ≤ 32 ∨ c.toNat = 0x85 ∨ c.toNat = 0xa0 ∨ c.toNat = 0x1680 ∨
      (0x2000 ≤ c.toNat ∧ c.toNat ≤ 0x205f) ∨ c.toNat = 0x3000 := by
    simp only [isSpace, Bool.or_eq_true, Bool.and_eq_true, decide_eq_true_eq,
      List.contains_iff_mem, List.mem_cons, List.not_mem_nil, or_false] at space
    omega
  have other : ¬ c.isUpper = true := by
    intro upper
    simp only [Char.isUpper, decide_eq_true_eq, UInt32.le_iff_toNat_le, ge_iff_le] at upper
    have low : 65 ≤ c.toNat := upper.1
    have high : c.toNat ≤ 90 := upper.2
    omega
  simp only [matchesLetter, Char.toLower_eq_of_not_isUpper other, Bool.or_eq_true, beq_iff_eq,
    Bool.and_eq_true, List.contains_iff_mem, List.mem_cons, List.not_mem_nil, or_false] at same
  obtain (rfl | ⟨-, special⟩) | ⟨-, kelvin⟩ := same
  · rw [space] at ink
    cases ink
  · omega
  · omega

theorem letter_eq_lt {letter : Char} (same : matchesLetter letter '<' = true) : letter = '<' := by
  have lower : '<' = letter := by simpa [matchesLetter, Char.toLower] using same
  exact lower.symm

theorem Spells.not_mem {tag mark : List Char} (spelt : Spells tag mark) (other : '<' ∉ tag) :
    '<' ∉ mark := by
  induction spelt with
  | nil => exact List.not_mem_nil
  | cons same _ ih =>
    rw [List.mem_cons, not_or] at other ⊢
    refine ⟨?_, ih other.2⟩
    rintro rfl
    exact other.1 (letter_eq_lt same).symm

theorem Spells.ink {tag mark : List Char} (spelt : Spells tag mark)
    (ink : ∀ letter ∈ tag, isSpace letter = false) : ∀ c ∈ mark, isSpace c = false := by
  induction spelt with
  | nil => exact fun c member => absurd member List.not_mem_nil
  | cons same _ ih =>
    rw [List.forall_mem_cons] at ink ⊢
    exact ⟨ink_of_matchesLetter same ink.1, ih ink.2⟩

theorem spells_self {tag : List Char} (lower : tag.all (fun c => c.toLower == c) = true) :
    Spells tag tag := by
  refine List.forall₂_same.mpr fun c member => ?_
  rw [matchesLetter, List.all_eq_true.mp lower c member]
  rfl

/-- A tag begins with its only angle bracket to the left. -/
theorem Spells.cons_inv {tag mark : List Char} (spelt : Spells ('<' :: tag) mark)
    (other : '<' ∉ tag) : ∃ letters, mark = '<' :: letters ∧ '<' ∉ letters := by
  cases spelt with
  | cons same spelt => exact ⟨_, by rw [eq_lt_of_matchesLetter same], Spells.not_mem spelt other⟩

section
variable {mark rest : List Char}

theorem afterTag_of_spells {tag : List Char} (spelt : Spells tag mark) (rest : List Char) :
    afterTag tag (mark ++ rest) = some rest :=
  afterTag_eq_some.mpr ⟨mark, spelt, rfl⟩

theorem not_spells_both {letters : List Char} (opened : Spells openingTag mark)
    (closed : Spells closingTag letters) {after : List Char} : mark ++ rest ≠ letters ++ after := by
  obtain _ | ⟨_, _ | ⟨t, _⟩⟩ := opened
  obtain _ | ⟨_, _ | ⟨slash, _⟩⟩ := closed
  intro same
  simp only [List.cons_append, List.cons.injEq] at same
  rw [← same.2.1] at slash
  simp [matchesLetter] at t slash
  rw [t] at slash
  exact absurd slash (by decide)

theorem afterTag_closing_of_opening (opened : Spells openingTag mark) (rest : List Char) :
    afterTag closingTag (mark ++ rest) = none := by
  rw [Option.eq_none_iff_forall_ne_some]
  intro after found
  obtain ⟨letters, closed, same⟩ := afterTag_eq_some.mp found
  exact not_spells_both opened closed same

theorem afterTag_opening_of_closing (closed : Spells closingTag mark) (rest : List Char) :
    afterTag openingTag (mark ++ rest) = none := by
  rw [Option.eq_none_iff_forall_ne_some]
  intro after found
  obtain ⟨letters, opened, same⟩ := afterTag_eq_some.mp found
  exact not_spells_both opened closed same.symm

theorem afterTag_other {tag : List Char} {c : Char} (other : c ≠ '<') :
    afterTag ('<' :: tag) (c :: rest) = none := by
  rw [afterTag, if_neg]
  exact fun same => other (eq_lt_of_matchesLetter same)

/-! ## Tokens -/

theorem tokens_opening (spelt : Spells openingTag mark) :
    tokens (mark ++ rest) = .opening :: tokens rest := by
  have found := afterTag_of_spells spelt rest
  obtain ⟨letters, rfl, -⟩ := spelt.cons_inv (by decide)
  rw [List.cons_append] at found ⊢
  rw [tokens]
  split
  · next after found' =>
    rw [found] at found'
    rw [Option.some.inj found']
  · next none' =>
    rw [found] at none'
    cases none'

theorem tokens_closing (spelt : Spells closingTag mark) :
    tokens (mark ++ rest) = .closing :: tokens rest := by
  have found := afterTag_of_spells spelt rest
  have other := afterTag_opening_of_closing spelt rest
  obtain ⟨letters, rfl, -⟩ := spelt.cons_inv (by decide)
  rw [List.cons_append] at found other ⊢
  rw [tokens]
  split
  · next after found' =>
    rw [other] at found'
    cases found'
  · split
    · next after found' =>
      rw [found] at found'
      rw [Option.some.inj found']
    · next none' =>
      rw [found] at none'
      cases none'

theorem tokens_char {c : Char} (opened : afterTag openingTag (c :: rest) = none)
    (closed : afterTag closingTag (c :: rest) = none) :
    tokens (c :: rest) = .char c :: tokens rest := by
  rw [tokens]
  split
  · next after found =>
    rw [opened] at found
    cases found
  · split
    · next after found =>
      rw [closed] at found
      cases found
    · rfl

theorem tokens_space {c : Char} (space : isSpace c = true) :
    tokens (c :: rest) = .char c :: tokens rest := by
  have other : c ≠ '<' := by
    rintro rfl
    cases space
  exact tokens_char (afterTag_other other) (afterTag_other other)

end

theorem tokens_skip {skipped : List Char} (plain : '<' ∉ skipped) (rest : List Char) :
    tokens (skipped ++ rest) = skipped.map .char ++ tokens rest := by
  induction skipped with
  | nil => rfl
  | cons c skipped ih =>
    rw [List.mem_cons, not_or] at plain
    have other := Ne.symm plain.1
    rw [List.cons_append, tokens_char (afterTag_other other) (afterTag_other other), ih plain.2]
    rfl

/-- Induction on a text by what it begins with. -/
theorem text_induction {motive : List Char → Prop} (nil : motive [])
    (char : ∀ c rest, afterTag openingTag (c :: rest) = none →
      afterTag closingTag (c :: rest) = none →
      (∀ text, text.length ≤ rest.length → motive text) → motive (c :: rest))
    (opening : ∀ mark rest, Spells openingTag mark →
      (∀ text, text.length ≤ rest.length → motive text) → motive (mark ++ rest))
    (closing : ∀ mark rest, Spells closingTag mark →
      (∀ text, text.length ≤ rest.length → motive text) → motive (mark ++ rest))
    (text : List Char) : motive text := by
  have shorter : ∀ n, ∀ text, text.length ≤ n → motive text := by
    intro n
    induction n with
    | zero =>
      intro text none
      rw [List.eq_nil_of_length_eq_zero (Nat.le_zero.mp none)]
      exact nil
    | succ n ih =>
      intro text short
      cases text with
      | nil => exact nil
      | cons c rest =>
        cases opened : afterTag openingTag (c :: rest) with
        | some after =>
          have less := length_lt_of_afterTag opened
          obtain ⟨mark, spelt, whole⟩ := afterTag_eq_some.mp opened
          rw [whole]
          exact opening mark after spelt fun text le => ih text (by omega)
        | none =>
          cases closed : afterTag closingTag (c :: rest) with
          | some after =>
            have less := length_lt_of_afterTag closed
            obtain ⟨mark, spelt, whole⟩ := afterTag_eq_some.mp closed
            rw [whole]
            exact closing mark after spelt fun text le => ih text (by omega)
          | none =>
            rw [List.length_cons] at short
            exact char c rest opened closed fun text le => ih text (by omega)
  exact shorter text.length text (Nat.le_refl _)

/-! ## The first closing tag -/

theorem pastTag_skip {tag skipped : List Char} (plain : '<' ∉ skipped) (rest : List Char) :
    pastTag ('<' :: tag) (skipped ++ rest) = pastTag ('<' :: tag) rest := by
  induction skipped with
  | nil => rfl
  | cons c skipped ih =>
    rw [List.mem_cons, not_or] at plain
    rw [List.cons_append, pastTag, afterTag_other (Ne.symm plain.1), ih plain.2]

theorem pastTag_opening {mark rest : List Char} (spelt : Spells openingTag mark) :
    pastTag closingTag (mark ++ rest) = pastTag closingTag rest := by
  have other := afterTag_closing_of_opening spelt rest
  obtain ⟨letters, rfl, plain⟩ := spelt.cons_inv (by decide)
  rw [List.cons_append] at other ⊢
  rw [pastTag, other]
  exact pastTag_skip plain rest

theorem pastTag_closing {mark rest : List Char} (spelt : Spells closingTag mark) :
    pastTag closingTag (mark ++ rest) = some rest := by
  have found := afterTag_of_spells spelt rest
  obtain ⟨letters, rfl, -⟩ := spelt.cons_inv (by decide)
  rw [List.cons_append] at found ⊢
  rw [pastTag, found]

/-- The closing tag that is found is the first one among the tokens. -/
theorem tokens_of_pastTag (text : List Char) :
    match pastTag closingTag text with
    | none => .closing ∉ tokens text
    | some after => after.length ≤ text.length ∧
        ∃ inside, .closing ∉ inside ∧ tokens text = inside ++ .closing :: tokens after := by
  induction text using text_induction with
  | nil => simp [pastTag, tokens]
  | char c rest opened closed ih =>
    have here := ih rest (Nat.le_refl _)
    rw [tokens_char opened closed, pastTag, closed]
    simp only
    cases found : pastTag closingTag rest with
    | none =>
      rw [found] at here
      simpa using here
    | some after =>
      rw [found] at here
      obtain ⟨shorter, inside, none, split⟩ := here
      refine ⟨by simp only [List.length_cons]; omega, .char c :: inside, by simpa using none, ?_⟩
      rw [split, List.cons_append]
  | opening mark rest spelt ih =>
    have here := ih rest (Nat.le_refl _)
    rw [tokens_opening spelt, pastTag_opening spelt]
    cases found : pastTag closingTag rest with
    | none =>
      rw [found] at here
      simpa using here
    | some after =>
      rw [found] at here
      obtain ⟨shorter, inside, none, split⟩ := here
      refine ⟨by simp only [List.length_append]; omega, .opening :: inside, by simpa using none, ?_⟩
      rw [split, List.cons_append]
  | closing mark rest spelt ih =>
    rw [tokens_closing spelt, pastTag_closing spelt]
    exact ⟨by simp, [], by simp, rfl⟩

/-! ## The visible text -/

/-- Where the block at the head of a text ends, if there is one. -/
def blockEnd (text : List Char) : Option (List Char) :=
  (afterTag openingTag text).bind (pastTag closingTag)

theorem withoutThinking_succ (steps : Nat) (c : Char) (rest : List Char) :
    withoutThinking (steps + 1) (c :: rest) =
      match blockEnd (c :: rest) with
      | some after => withoutThinking steps (after.dropWhile isSpace)
      | none => c :: withoutThinking steps rest := rfl

theorem length_le_of_pastTag {text after : List Char}
    (found : pastTag closingTag text = some after) : after.length ≤ text.length := by
  have here := tokens_of_pastTag text
  rw [found] at here
  exact here.1

theorem length_of_blockEnd {c : Char} {rest after : List Char}
    (found : blockEnd (c :: rest) = some after) :
    (after.dropWhile isSpace).length ≤ rest.length := by
  obtain ⟨inside, opened, closed⟩ := Option.bind_eq_some_iff.mp found
  have first := length_lt_of_afterTag opened
  have second := length_le_of_pastTag closed
  have third := (List.dropWhile_sublist isSpace (l := after)).length_le
  rw [List.length_cons] at first
  omega

theorem withoutThinking_enough {steps more : Nat} {text : List Char} (enough : text.length ≤ steps)
    (enough' : text.length ≤ more) : withoutThinking steps text = withoutThinking more text := by
  induction steps generalizing more text with
  | zero =>
    rw [List.eq_nil_of_length_eq_zero (Nat.le_zero.mp enough)]
    cases more <;> rfl
  | succ steps ih =>
    cases text with
    | nil => cases more <;> rfl
    | cons c rest =>
      cases more with
      | zero => cases enough'
      | succ more =>
        rw [List.length_cons, Nat.succ_le_succ_iff] at enough enough'
        rw [withoutThinking_succ, withoutThinking_succ]
        cases found : blockEnd (c :: rest) with
        | none => exact congrArg (c :: ·) (ih enough enough')
        | some after =>
          have shorter := length_of_blockEnd found
          exact ih (shorter.trans enough) (shorter.trans enough')

/-- The text that is left. -/
def visible (text : List Char) : List Char := withoutThinking text.length text

theorem visible_cons (c : Char) (rest : List Char) :
    visible (c :: rest) =
      match blockEnd (c :: rest) with
      | some after => visible (after.dropWhile isSpace)
      | none => c :: visible rest := by
  rw [visible, List.length_cons, withoutThinking_succ]
  cases found : blockEnd (c :: rest) with
  | none => rfl
  | some after => exact withoutThinking_enough (length_of_blockEnd found) (Nat.le_refl _)

theorem visible_skip {skipped : List Char} (plain : '<' ∉ skipped) (rest : List Char) :
    visible (skipped ++ rest) = skipped ++ visible rest := by
  induction skipped with
  | nil => rfl
  | cons c skipped ih =>
    rw [List.mem_cons, not_or] at plain
    have none : blockEnd (c :: (skipped ++ rest)) = none := by
      rw [blockEnd, openingTag, afterTag_other (Ne.symm plain.1), Option.bind_none]
    rw [List.cons_append, visible_cons, none, ih plain.2, List.cons_append]

section
variable {mark rest : List Char}

theorem visible_char {c : Char} (opened : afterTag openingTag (c :: rest) = none) :
    visible (c :: rest) = c :: visible rest := by
  rw [visible_cons, blockEnd, opened, Option.bind_none]

theorem visible_closing (spelt : Spells closingTag mark) :
    visible (mark ++ rest) = mark ++ visible rest := by
  have other := afterTag_opening_of_closing spelt rest
  obtain ⟨letters, rfl, plain⟩ := spelt.cons_inv (by decide)
  rw [List.cons_append] at other ⊢
  rw [visible_char other, visible_skip plain, List.cons_append]

theorem visible_opening (spelt : Spells openingTag mark) :
    visible (mark ++ rest) =
      match pastTag closingTag rest with
      | some after => visible (after.dropWhile isSpace)
      | none => mark ++ visible rest := by
  have found := afterTag_of_spells spelt rest
  obtain ⟨letters, rfl, plain⟩ := spelt.cons_inv (by decide)
  rw [List.cons_append] at found ⊢
  rw [visible_cons, blockEnd, found, Option.bind_some]
  cases pastTag closingTag rest with
  | none => exact congrArg ('<' :: ·) (visible_skip plain rest)
  | some after => rfl

end

/-! ## Tags that are left -/

theorem HasTag.append_left {text : List Char} (tag : HasTag text) (before : List Char) :
    HasTag (before ++ text) := by
  obtain ⟨front, mark, after, spelt, rfl⟩ := tag
  exact ⟨before ++ front, mark, after, spelt, by simp only [List.append_assoc]⟩

theorem HasTag.append_right {text : List Char} (tag : HasTag text) (after : List Char) :
    HasTag (text ++ after) := by
  obtain ⟨front, mark, back, spelt, rfl⟩ := tag
  exact ⟨front, mark, back ++ after, spelt, by simp only [List.append_assoc]⟩

theorem spells_ink {mark : List Char} (spelt : Spells openingTag mark ∨ Spells closingTag mark) :
    ∃ c rest, mark = c :: rest ∧ ∀ x ∈ mark, isSpace x = false := by
  obtain opened | closed := spelt
  · obtain ⟨letters, same, -⟩ := opened.cons_inv (by decide)
    exact ⟨_, letters, same, opened.ink (List.forall_mem_iff_getElem.mpr (by decide))⟩
  · obtain ⟨letters, same, -⟩ := closed.cons_inv (by decide)
    exact ⟨_, letters, same, closed.ink (List.forall_mem_iff_getElem.mpr (by decide))⟩

theorem not_hasTag {text : List Char} (plain : '<' ∉ text) : ¬ HasTag text := by
  rintro ⟨before, mark, after, spelt, rfl⟩
  have bracket : '<' ∈ mark := by
    obtain opened | closed := spelt
    · obtain ⟨letters, rfl, -⟩ := opened.cons_inv (by decide)
      exact List.mem_cons_self
    · obtain ⟨letters, rfl, -⟩ := closed.cons_inv (by decide)
      exact List.mem_cons_self
  exact plain (List.mem_append_left _ (List.mem_append_right _ bracket))

/-- Stripping takes no tag away. -/
theorem hasTag_stripText {text : List Char} : HasTag (stripText text) ↔ HasTag text := by
  constructor
  · intro tag
    obtain ⟨back, cut⟩ := stripEnd_initial (text.dropWhile isSpace)
    have whole := List.takeWhile_append_dropWhile (p := isSpace) (l := text)
    rw [← whole, ← cut]
    exact (tag.append_right back).append_left _
  · rintro ⟨before, mark, after, spelt, rfl⟩
    obtain ⟨c, rest, same, ink⟩ := spells_ink spelt
    have inked : ∃ x ∈ mark, isSpace x = false := ⟨c, by simp [same], ink c (by simp [same])⟩
    have front : (before ++ mark ++ after).dropWhile isSpace =
        before.dropWhile isSpace ++ mark ++ after := by
      have starts : (mark ++ after).dropWhile isSpace = mark ++ after := by
        rw [same, List.cons_append, List.dropWhile_cons_of_neg (by simp [ink c, same])]
      rw [List.append_assoc, List.dropWhile_append, starts]
      split_ifs with blank
      · rw [List.isEmpty_iff.mp blank, List.nil_append]
      · rw [List.append_assoc]
    rw [stripText, front]
    by_cases blank : ∀ x ∈ after, isSpace x = true
    · have whole : stripEnd mark = mark :=
        stripEnd_eq_self.mpr fun x last => ink x (List.mem_of_getLast? last)
      rw [stripEnd_append_blank blank, stripEnd_append inked, whole]
      exact ⟨_, mark, [], spelt, by rw [List.append_nil]⟩
    · have inked' : ∃ x ∈ after, isSpace x = false := by simpa using blank
      rw [stripEnd_append inked']
      exact ⟨_, mark, _, spelt, rfl⟩

/-! ## What is left of the pieces -/

/-- `WellClosed` without the white space. -/
def TagsClosed : (inside : Bool) → List Token → Prop
  | false, [] => True
  | true, [] => False
  | false, .char _ :: rest => TagsClosed false rest
  | false, .opening :: rest => TagsClosed true rest
  | false, .closing :: _ => False
  | true, .char _ :: rest => TagsClosed true rest
  | true, .opening :: rest => TagsClosed true rest
  | true, .closing :: rest => TagsClosed false rest

/-- The pieces outside blocks that end with the first closing tag. -/
def flatPieces : (inside : Bool) → List Token → List (List Char)
  | false, [] => [[]]
  | true, [] => []
  | false, .char c :: rest => (flatPieces false rest).modifyHead (c :: ·)
  | false, .opening :: rest => [] :: flatPieces true rest
  | false, .closing :: rest => [] :: flatPieces false rest
  | true, .char _ :: rest => flatPieces true rest
  | true, .opening :: rest => flatPieces true rest
  | true, .closing :: rest => flatPieces false rest

theorem closed_of_wellClosed {nested inside : Bool} {ts : List Token}
    (well : WellClosed nested inside ts) : TagsClosed inside ts := by
  induction ts generalizing nested inside with
  | nil => cases inside <;> exact well
  | cons t ts ih =>
    cases inside with
    | false =>
      cases t with
      | char c => exact ih well.2
      | opening => exact ih well
      | closing => exact well
    | true =>
      cases t with
      | char c => exact ih well
      | opening => exact ih well
      | closing => exact ih well

theorem closed_inside {inside ts : List Token} (none : .closing ∉ inside) :
    TagsClosed true (inside ++ .closing :: ts) ↔ TagsClosed false ts := by
  induction inside with
  | nil => exact Iff.rfl
  | cons t inside ih =>
    rw [List.mem_cons, not_or] at none
    cases t with
    | char c => exact ih none.2
    | opening => exact ih none.2
    | closing => exact absurd rfl none.1

theorem flatPieces_inside {inside ts : List Token} (none : .closing ∉ inside) :
    flatPieces true (inside ++ .closing :: ts) = flatPieces false ts := by
  induction inside with
  | nil => rfl
  | cons t inside ih =>
    rw [List.mem_cons, not_or] at none
    cases t with
    | char c => exact ih none.2
    | opening => exact ih none.2
    | closing => exact absurd rfl none.1

theorem not_closed_inside {inside : List Token} (none : .closing ∉ inside) :
    ¬ TagsClosed true inside := by
  induction inside with
  | nil => exact id
  | cons t inside ih =>
    rw [List.mem_cons, not_or] at none
    cases t with
    | char c => exact ih none.2
    | opening => exact ih none.2
    | closing => exact absurd rfl none.1

theorem flatPieces_false_ne_nil (ts : List Token) : flatPieces false ts ≠ [] := by
  induction ts with
  | nil => simp [flatPieces]
  | cons t ts ih =>
    cases t with
    | char c => simpa [flatPieces] using ih
    | opening => simp [flatPieces]
    | closing => simp [flatPieces]

/-- White space at the head of a text is white space at the head of its first piece. -/
theorem flatPieces_dropWhile (text : List Char) :
    flatPieces false (tokens (text.dropWhile isSpace)) =
      (flatPieces false (tokens text)).modifyHead (·.dropWhile isSpace) := by
  induction text with
  | nil => simp [tokens, flatPieces]
  | cons c rest ih =>
    obtain ⟨first, others, pieces⟩ :=
      List.exists_cons_of_ne_nil (flatPieces_false_ne_nil (tokens rest))
    by_cases space : isSpace c = true
    · rw [List.dropWhile_cons_of_pos space, ih, tokens_space space, flatPieces, pieces]
      simp [space]
    · rw [List.dropWhile_cons_of_neg space, tokens]
      split
      · rfl
      · split
        · rfl
        · obtain ⟨first, others, pieces⟩ :=
            List.exists_cons_of_ne_nil (flatPieces_false_ne_nil (tokens rest))
          rw [flatPieces, pieces, List.modifyHead_cons, List.modifyHead_cons,
            List.dropWhile_cons_of_neg space]

theorem closed_dropWhile (text : List Char) :
    TagsClosed false (tokens (text.dropWhile isSpace)) ↔ TagsClosed false (tokens text) := by
  induction text with
  | nil => exact Iff.rfl
  | cons c rest ih =>
    by_cases space : isSpace c = true
    · rw [List.dropWhile_cons_of_pos space, ih, tokens_space space]
      rfl
    · rw [List.dropWhile_cons_of_neg space]

/-- What an opening tag makes of a text. -/
theorem opening_cases {mark : List Char} (spelt : Spells openingTag mark) (rest : List Char) :
    (¬ TagsClosed false (tokens (mark ++ rest)) ∧ visible (mark ++ rest) = mark ++ visible rest) ∨
    ∃ after, after.length ≤ rest.length ∧
      visible (mark ++ rest) = visible (after.dropWhile isSpace) ∧
      (TagsClosed false (tokens (mark ++ rest)) ↔ TagsClosed false (tokens after)) ∧
      flatPieces false (tokens (mark ++ rest)) = [] :: flatPieces false (tokens after) := by
  have split := tokens_of_pastTag rest
  rw [tokens_opening spelt, visible_opening spelt]
  cases found : pastTag closingTag rest with
  | none =>
    rw [found] at split
    exact .inl ⟨not_closed_inside split, rfl⟩
  | some after =>
    rw [found] at split
    obtain ⟨shorter, inside, none, parts⟩ := split
    refine .inr ⟨after, shorter, rfl, ?_, ?_⟩
    · rw [TagsClosed, parts, closed_inside none]
    · rw [flatPieces, parts, flatPieces_inside none]

theorem putTogether_modifyHead {pieces : List (List Char)} (nonempty : pieces ≠ []) (c : Char) :
    putTogether (pieces.modifyHead (c :: ·)) = c :: putTogether pieces := by
  obtain ⟨first, others, rfl⟩ := List.exists_cons_of_ne_nil nonempty
  rfl

/-- A text whose tags are closed is left with its pieces, put together. -/
theorem visible_eq {text : List Char} (closed : TagsClosed false (tokens text)) :
    visible text = putTogether (flatPieces false (tokens text)) := by
  induction text using text_induction with
  | nil => simp [visible, withoutThinking, tokens, flatPieces, putTogether]
  | char c rest opened closed' ih =>
    rw [tokens_char opened closed'] at closed ⊢
    rw [visible_char opened, ih rest (Nat.le_refl _) closed, flatPieces,
      putTogether_modifyHead (flatPieces_false_ne_nil _)]
  | opening mark rest spelt ih =>
    obtain ⟨open_, -⟩ | ⟨after, shorter, left, closed_iff, pieces⟩ := opening_cases spelt rest
    · exact absurd closed open_
    · rw [closed_iff, ← closed_dropWhile] at closed
      have less := (List.dropWhile_sublist isSpace (l := after)).length_le
      rw [left, pieces, ih _ (less.trans shorter) closed, flatPieces_dropWhile]
      obtain ⟨first, others, split⟩ :=
        List.exists_cons_of_ne_nil (flatPieces_false_ne_nil (tokens after))
      rw [split]
      rfl
  | closing mark rest spelt ih =>
    rw [tokens_closing spelt] at closed
    cases closed

/-- Where a tag is not closed, or closes nothing, a tag is left. -/
theorem closed_of_visible {text : List Char} (noTag : ¬ HasTag (visible text)) :
    TagsClosed false (tokens text) := by
  induction text using text_induction with
  | nil => simp [tokens, TagsClosed]
  | char c rest opened closed' ih =>
    rw [tokens_char opened closed']
    refine ih rest (Nat.le_refl _) fun tag => noTag ?_
    rw [visible_char opened]
    exact tag.append_left [c]
  | opening mark rest spelt ih =>
    obtain ⟨-, left⟩ | ⟨after, shorter, left, closed_iff, -⟩ := opening_cases spelt rest
    · refine absurd ?_ noTag
      rw [left]
      exact ⟨[], mark, _, .inl spelt, rfl⟩
    · have less := (List.dropWhile_sublist isSpace (l := after)).length_le
      rw [left] at noTag
      rw [closed_iff, ← closed_dropWhile]
      exact ih _ (less.trans shorter) noTag
  | closing mark rest spelt ih =>
    refine absurd ?_ noTag
    rw [visible_closing spelt]
    exact ⟨[], mark, _, .inr spelt, rfl⟩

/-! ## Blocks within blocks -/

def AllBlank (pieces : List (List Char)) : Prop := ∀ piece ∈ pieces, Blank piece

theorem outside_nested (inside : Bool) {ts : List Token} (closed : TagsClosed inside ts)
    (depth : Nat) : outside (depth + 1 + inside.toNat) ts = [] := by
  induction ts generalizing inside depth with
  | nil =>
    cases inside with
    | false => rfl
    | true => cases closed
  | cons t ts ih =>
    cases inside with
    | false =>
      cases t with
      | char c => exact ih false closed depth
      | opening => exact ih true closed depth
      | closing => cases closed
    | true =>
      cases t with
      | char c => exact ih true closed depth
      | opening => exact ih true closed (depth + 1)
      | closing => exact ih false closed depth

/-- Behind a block with another in it, the text is well closed where all pieces are blank. -/
theorem wellClosed_nested_iff {inside : Bool} {ts : List Token} :
    WellClosed true inside ts ↔ TagsClosed inside ts ∧ AllBlank (flatPieces inside ts) := by
  induction ts generalizing inside with
  | nil => cases inside <;> simp [WellClosed, TagsClosed, flatPieces, AllBlank, Blank]
  | cons t ts ih =>
    cases inside with
    | false =>
      cases t with
      | char c =>
        obtain ⟨first, others, pieces⟩ :=
          List.exists_cons_of_ne_nil (flatPieces_false_ne_nil ts)
        simp only [WellClosed, TagsClosed, flatPieces, ih, pieces, AllBlank, Blank,
          List.modifyHead_cons, List.forall_mem_cons]
        tauto
      | opening =>
        simp only [WellClosed, TagsClosed, flatPieces, ih, AllBlank, List.forall_mem_cons]
        simp [Blank]
      | closing => simp [WellClosed, TagsClosed]
    | true =>
      cases t with
      | char c => exact ih
      | opening => exact ih
      | closing => exact ih

theorem outside_ne_nil (ts : List Token) : outside 0 ts ≠ [] := by
  induction ts with
  | nil => simp [outside]
  | cons t ts ih =>
    cases t with
    | char c => simpa [outside] using ih
    | opening => simp [outside]
    | closing => simp [outside]

/-- The pieces between blocks are those outside every block, and blank ones. -/
theorem exists_flatPieces_eq (inside : Bool) {ts : List Token}
    (well : WellClosed false inside ts) :
    ∃ blanks, AllBlank blanks ∧ flatPieces inside ts = outside inside.toNat ts ++ blanks := by
  induction ts generalizing inside with
  | nil =>
    cases inside with
    | false => exact ⟨[], by simp [AllBlank], rfl⟩
    | true => cases well
  | cons t ts ih =>
    cases inside with
    | false =>
      cases t with
      | char c =>
        obtain ⟨blanks, blank, pieces⟩ := ih false well.2
        obtain ⟨first, others, split⟩ := List.exists_cons_of_ne_nil (outside_ne_nil ts)
        refine ⟨blanks, blank, ?_⟩
        rw [flatPieces, pieces, Bool.toNat_false, outside, split]
        rfl
      | opening =>
        obtain ⟨blanks, blank, pieces⟩ := ih true well
        refine ⟨blanks, blank, ?_⟩
        rw [flatPieces, pieces, Bool.toNat_false, outside]
        rfl
      | closing => cases well
    | true =>
      cases t with
      | char c => exact ih true well
      | opening =>
        have nested := wellClosed_nested_iff.mp (show WellClosed true true ts from well)
        have none : outside 2 ts = [] := outside_nested true nested.1 0
        refine ⟨flatPieces true ts, nested.2, ?_⟩
        rw [flatPieces, Bool.toNat_true, outside, none, List.nil_append]
      | closing => exact ih false well

/-! ## What is not white space -/

def inkOf (text : List Char) : List Char := text.filter (fun c => !isSpace c)

theorem inkOf_append (a b : List Char) : inkOf (a ++ b) = inkOf a ++ inkOf b :=
  List.filter_append _ _

theorem inkOf_eq_nil {text : List Char} : inkOf text = [] ↔ Blank text := by
  simp [inkOf, Blank]

theorem inkOf_dropWhile (text : List Char) : inkOf (text.dropWhile isSpace) = inkOf text := by
  have blank : Blank (text.takeWhile isSpace) := fun c member => List.mem_takeWhile_imp member
  have whole := List.takeWhile_append_dropWhile (p := isSpace) (l := text)
  conv_rhs => rw [← whole, inkOf_append, inkOf_eq_nil.mpr blank, List.nil_append]

theorem inkOf_reverse (text : List Char) : inkOf text.reverse = (inkOf text).reverse :=
  List.filter_reverse

theorem inkOf_stripEnd (text : List Char) : inkOf (stripEnd text) = inkOf text := by
  rw [stripEnd, inkOf_reverse, inkOf_dropWhile, inkOf_reverse, List.reverse_reverse]

theorem inkOf_putTogether (pieces : List (List Char)) :
    inkOf (putTogether pieces) = inkOf pieces.flatten := by
  have others : ∀ pieces : List (List Char),
      inkOf (pieces.map (·.dropWhile isSpace)).flatten = inkOf pieces.flatten := by
    intro pieces
    induction pieces with
    | nil => rfl
    | cons piece pieces ih =>
      rw [List.map_cons, List.flatten_cons, List.flatten_cons, inkOf_append, inkOf_append, ih,
        inkOf_dropWhile]
  cases pieces with
  | nil => rfl
  | cons first pieces =>
    rw [putTogether, List.flatten_cons, inkOf_append, inkOf_append, others]

theorem inkOf_trimmed {pieces trimmed : List (List Char)}
    (trims : List.Forall₂ Trims pieces trimmed) : inkOf trimmed.flatten = inkOf pieces.flatten := by
  induction trims with
  | nil => rfl
  | cons trims _ ih =>
    obtain ⟨before, after, front, back, rfl⟩ := trims
    rw [List.flatten_cons, List.flatten_cons, inkOf_append, inkOf_append, inkOf_append,
      inkOf_append, ih, inkOf_eq_nil.mpr front, inkOf_eq_nil.mpr back, List.nil_append,
      List.append_nil]

theorem flatten_modifyHead {pieces : List (List Char)} (nonempty : pieces ≠ []) (c : Char) :
    (pieces.modifyHead (c :: ·)).flatten = c :: pieces.flatten := by
  obtain ⟨first, others, rfl⟩ := List.exists_cons_of_ne_nil nonempty
  rfl

/-- If all that is not white space between blocks is outside every block, the text is well
closed. -/
theorem wellClosed_of_ink (inside : Bool) {ts : List Token} (closed : TagsClosed inside ts)
    (same : inkOf (flatPieces inside ts).flatten = inkOf (outside inside.toNat ts).flatten) :
    WellClosed false inside ts := by
  induction ts generalizing inside with
  | nil => cases inside <;> exact closed
  | cons t ts ih =>
    cases inside with
    | false =>
      cases t with
      | char c =>
        refine ⟨nofun, ih false closed ?_⟩
        rw [flatPieces, flatten_modifyHead (flatPieces_false_ne_nil ts), Bool.toNat_false, outside,
          flatten_modifyHead (outside_ne_nil ts)] at same
        have first : ∀ text, inkOf (c :: text) = inkOf [c] ++ inkOf text := inkOf_append [c]
        rw [first (flatPieces false ts).flatten, first (outside 0 ts).flatten] at same
        exact List.append_cancel_left same
      | opening => exact ih true closed same
      | closing => cases closed
    | true =>
      cases t with
      | char c => exact ih true closed same
      | opening =>
        have closed' : TagsClosed true ts := closed
        have none : outside 2 ts = [] := outside_nested true closed' 0
        rw [flatPieces, Bool.toNat_true, outside, none] at same
        have blank := inkOf_eq_nil.mp same
        refine wellClosed_nested_iff.mpr ⟨closed', ?_⟩
        intro piece member c among
        exact blank c (List.mem_flatten.mpr ⟨piece, member, among⟩)
      | closing => exact ih false closed same

/-! ## Trimming -/

theorem blank_nil : Blank [] := fun _ member => absurd member List.not_mem_nil

theorem Trims.refl (piece : List Char) : Trims piece piece :=
  ⟨[], [], blank_nil, blank_nil, by simp⟩

theorem Trims.trans {a b c : List Char} (first : Trims a b) (second : Trims b c) : Trims a c := by
  obtain ⟨front, back, blankFront, blankBack, rfl⟩ := first
  obtain ⟨front', back', blankFront', blankBack', rfl⟩ := second
  refine ⟨front ++ front', back' ++ back, ?_, ?_, by simp only [List.append_assoc]⟩
  · exact List.forall_mem_append.mpr ⟨blankFront, blankFront'⟩
  · exact List.forall_mem_append.mpr ⟨blankBack', blankBack⟩

theorem trims_dropWhile (piece : List Char) : Trims piece (piece.dropWhile isSpace) :=
  ⟨piece.takeWhile isSpace, [], fun c member => List.mem_takeWhile_imp member, blank_nil, by simp⟩

theorem trims_stripEnd (piece : List Char) : Trims piece (stripEnd piece) := by
  refine ⟨[], (piece.reverse.takeWhile isSpace).reverse, blank_nil, ?_, ?_⟩
  · exact fun c member => List.mem_takeWhile_imp (List.mem_reverse.mp member)
  · rw [List.nil_append, stripEnd, ← List.reverse_append, List.takeWhile_append_dropWhile,
      List.reverse_reverse]

theorem trims_nil {piece : List Char} (blank : Blank piece) : Trims piece [] :=
  ⟨piece, [], blank, blank_nil, by simp⟩

theorem forall₂_trims_trans {a b c : List (List Char)} (first : List.Forall₂ Trims a b)
    (second : List.Forall₂ Trims b c) : List.Forall₂ Trims a c := by
  induction first generalizing c with
  | nil => exact second
  | cons trims _ ih =>
    cases second with
    | cons trims' rest => exact .cons (trims.trans trims') (ih rest)

theorem forall₂_trims_refl (pieces : List (List Char)) : List.Forall₂ Trims pieces pieces :=
  List.forall₂_same.mpr fun piece _ => .refl piece

theorem exists_trims_putTogether (pieces : List (List Char)) :
    ∃ trimmed, List.Forall₂ Trims pieces trimmed ∧ trimmed.flatten = putTogether pieces := by
  cases pieces with
  | nil => exact ⟨[], .nil, rfl⟩
  | cons first others =>
    refine ⟨first :: others.map (·.dropWhile isSpace), .cons (.refl first) ?_, rfl⟩
    rw [List.forall₂_map_right_iff, List.forall₂_same]
    exact fun piece _ => trims_dropWhile piece

theorem exists_trims_front (pieces : List (List Char)) :
    ∃ trimmed, List.Forall₂ Trims pieces trimmed ∧
      trimmed.flatten = pieces.flatten.dropWhile isSpace := by
  induction pieces with
  | nil => exact ⟨[], .nil, rfl⟩
  | cons piece pieces ih =>
    rw [List.flatten_cons, List.dropWhile_append]
    split_ifs with blank
    · obtain ⟨trimmed, trims, same⟩ := ih
      rw [List.isEmpty_iff, List.dropWhile_eq_nil_iff] at blank
      exact ⟨[] :: trimmed, .cons (trims_nil blank) trims, same⟩
    · exact ⟨_ :: pieces, .cons (trims_dropWhile piece) (forall₂_trims_refl pieces), rfl⟩

theorem exists_trims_back (pieces : List (List Char)) :
    ∃ trimmed, List.Forall₂ Trims pieces trimmed ∧ trimmed.flatten = stripEnd pieces.flatten := by
  induction pieces using List.reverseRecOn with
  | nil => exact ⟨[], .nil, rfl⟩
  | append_singleton pieces piece ih =>
    rw [List.flatten_append, List.flatten_singleton]
    by_cases blank : ∀ c ∈ piece, isSpace c = true
    · obtain ⟨trimmed, trims, same⟩ := ih
      rw [stripEnd_append_blank blank]
      refine ⟨trimmed ++ [[]], List.rel_append trims (.cons (trims_nil blank) .nil), ?_⟩
      rw [List.flatten_append, same]
      simp
    · rw [stripEnd_append (by simpa using blank)]
      refine ⟨pieces ++ [stripEnd piece], List.rel_append (forall₂_trims_refl pieces)
        (.cons (trims_stripEnd piece) .nil), ?_⟩
      rw [List.flatten_append, List.flatten_singleton]

/-- Stripping the pieces put together only trims them. -/
theorem exists_trims_stripText (pieces : List (List Char)) :
    ∃ trimmed, List.Forall₂ Trims pieces trimmed ∧
      trimmed.flatten = stripText (putTogether pieces) := by
  obtain ⟨together, first, joined⟩ := exists_trims_putTogether pieces
  obtain ⟨front, second, cut⟩ := exists_trims_front together
  obtain ⟨back, third, stripped⟩ := exists_trims_back front
  refine ⟨back, forall₂_trims_trans first (forall₂_trims_trans second third), ?_⟩
  rw [stripped, cut, joined, stripText]

/-! ## The text of a turn -/

theorem putTogether_append_blanks {pieces blanks : List (List Char)} (nonempty : pieces ≠ [])
    (blank : AllBlank blanks) : putTogether (pieces ++ blanks) = putTogether pieces := by
  obtain ⟨first, others, rfl⟩ := List.exists_cons_of_ne_nil nonempty
  have none : (blanks.map (·.dropWhile isSpace)).flatten = [] := by
    simp only [List.flatten_eq_nil_iff, List.forall_mem_map]
    exact fun piece member => List.dropWhile_eq_nil_iff.mpr (blank piece member)
  rw [List.cons_append, putTogether, List.map_append, List.flatten_append, none, List.append_nil,
    putTogether]

theorem visible_of_wellClosed {text : List Char} (well : WellClosed false false (tokens text)) :
    visible text = putTogether (outside 0 (tokens text)) := by
  obtain ⟨blanks, blank, pieces⟩ := exists_flatPieces_eq false well
  rw [visible_eq (closed_of_wellClosed well), pieces]
  exact putTogether_append_blanks (outside_ne_nil _) blank

/-- What is left of a text hides its reasoning exactly when the text is separable. -/
theorem hidesThinking_iff (text : List Char) :
    HidesThinking text (stripText (visible text)) ↔ Separable text := by
  constructor
  · rintro ⟨noTag, trimmed, trims, same⟩
    have closed := closed_of_visible fun tag => noTag (hasTag_stripText.mpr tag)
    have ink := inkOf_trimmed trims
    rw [same, stripText, inkOf_stripEnd, inkOf_dropWhile, visible_eq closed, inkOf_putTogether]
      at ink
    have well := wellClosed_of_ink false closed ink
    refine ⟨well, fun tag => noTag ?_⟩
    rw [hasTag_stripText, visible_of_wellClosed well]
    exact tag
  · rintro ⟨well, noTag⟩
    rw [visible_of_wellClosed well]
    exact ⟨fun tag => noTag (hasTag_stripText.mp tag), exists_trims_stripText _⟩

theorem visibleText_of_isContent {content : Json} {text : String} (said : IsContent content text) :
    visibleText (some content) = String.ofList (stripText (visible text.toList)) := by
  have stripped : strip (withoutThink text) = String.ofList (stripText (visible text.toList)) := by
    rw [strip, withoutThink, String.toList_ofList]
    rfl
  cases said with
  | text text => exact stripped
  | @parts parts texts each =>
    have same : parts.map partText = texts := by
      clear stripped
      induction each with
      | nil => rfl
      | cons part _ ih =>
        obtain ⟨fields, rfl, found⟩ := part
        rw [List.map_cons, ih, partText, found]
    rw [visibleText, same]
    exact stripped

/-- The content of the answer that a reply holds. -/
def repliedContent (reply : Reply) : Option Json :=
  (repliedMessage reply).bind (fun message => Dict.get? message "content")

/-- A turn hides the reasoning in its content exactly when the content is separable. -/
theorem hidesReasoning_iff {a : Adapter} {request : DecisionRequest} {latencyMs : Nat}
    {reply : Reply} {turn : ModelTurn} (decided : a.decide request latencyMs reply = .ok turn)
    {content : Json} {text : String} (replied : repliedContent reply = some content)
    (said : IsContent content text) :
    HidesReasoning text turn ↔ Separable text.toList := by
  obtain ⟨data, choice, message, found, rfl⟩ := eq_of_chatDecide decided
  have content_ : Dict.get? message "content" = some content := by
    rwa [repliedContent, found, Option.bind_some] at replied
  have shown : (turnOf a request latencyMs data choice message (repliedCalls reply)).text =
      String.ofList (stripText (visible text.toList)) := by
    rw [← visibleText_of_isContent said, ← content_]
    rfl
  rw [HidesReasoning, shown, String.toList_ofList, hidesThinking_iff]
  refine and_iff_left ⟨_, by rw [← shown]; rfl, ?_⟩
  intro field member
  split_ifs at member
  · cases member
  · rw [List.mem_singleton.mp member]

/-- An answer of one message with a text for its content. -/
def textReply (text : String) : Reply :=
  .response 200 (some (.object [("choices", .list [.object [("message",
    .object [("content", .str text)])]])]))

theorem hidesReasoning_plan : ∃ turn,
    plainChat.decide emptyRequest 1 (textReply "<think>secret plan</think>Checking logs.") =
      .ok turn ∧ HidesReasoning "<think>secret plan</think>Checking logs." turn := by
  obtain ⟨turn, decided⟩ : ∃ turn, plainChat.decide emptyRequest 1
      (textReply "<think>secret plan</think>Checking logs.") = .ok turn := ⟨_, rfl⟩
  have read : tokens "<think>secret plan</think>Checking logs.".toList =
      .opening :: ("secret plan".toList.map .char ++
        .closing :: "Checking logs.".toList.map .char) := by
    have opened : Spells openingTag openingTag := spells_self rfl
    have closed : Spells closingTag closingTag := spells_self rfl
    have whole : "<think>secret plan</think>Checking logs.".toList = openingTag ++
        ("secret plan".toList ++ (closingTag ++ ("Checking logs.".toList ++ []))) := by decide
    rw [whole, tokens_opening opened, tokens_skip (by decide), tokens_closing closed,
      tokens_skip (by decide), tokens, List.append_nil]
  refine ⟨turn, decided, (hidesReasoning_iff decided rfl (.text _)).mpr ⟨?_, ?_⟩⟩
  · rw [read]
    simp [WellClosed]
  · rw [read]
    exact not_hasTag (by decide)

/-- A block that the generation did not close is stored. -/
theorem not_hidesReasoning : ∃ turn,
    plainChat.decide emptyRequest 1 (textReply "<think>a") = .ok turn ∧
      repliedContent (textReply "<think>a") = some (.str "<think>a") ∧
        ¬ HidesReasoning "<think>a" turn := by
  refine ⟨_, rfl, rfl, fun hides => hides.1.noTag ?_⟩
  exact ⟨[], openingTag, ['a'], .inl (spells_self rfl), by decide⟩

end IncidentTriage.Verified
