import Mathlib.Algebra.Group.Nat.Defs
import Mathlib.Data.List.TakeWhile

/-! # Python's reading of text

White space, line breaks, digits and the whole numbers they spell, and the splitting of a
text at a separator, over lists of characters.
-/

namespace IncidentTriage.Python

/-- `str.isspace` of a character, which is also `\s`. -/
def isSpace (c : Char) : Bool :=
  (9 ≤ c.toNat && c.toNat ≤ 13) || (28 ≤ c.toNat && c.toNat ≤ 32) ||
    (0x2000 ≤ c.toNat && c.toNat ≤ 0x200a) ||
    [0x85, 0xa0, 0x1680, 0x2028, 0x2029, 0x202f, 0x205f, 0x3000].contains c.toNat

def stripEnd (text : List Char) : List Char := (text.reverse.dropWhile isSpace).reverse

/-- `text.strip()`. -/
def stripText (text : List Char) : List Char := stripEnd (text.dropWhile isSpace)

def strip (s : String) : String :=
  String.ofList (((s.toList.dropWhile isSpace).reverse.dropWhile isSpace).reverse)

/-! ## Lines -/

/-- The newlines of a text stream: a carriage return ends a line, and a newline right after
one belongs to it. -/
def newlinesFrom : Bool → List Char → List Char
  | _, [] => []
  | returned, c :: rest =>
    if c = '\r' then '\n' :: newlinesFrom true rest
    else if returned && c == '\n' then newlinesFrom false rest
    else c :: newlinesFrom false rest

def universalNewlines (text : List Char) : List Char := newlinesFrom false text

/-- The characters that `splitlines` takes for the end of a line. -/
def isLineBreak (c : Char) : Bool :=
  (10 ≤ c.toNat && c.toNat ≤ 13) || (28 ≤ c.toNat && c.toNat ≤ 30) ||
    [0x85, 0x2028, 0x2029].contains c.toNat

/-- `text.splitlines()`: no empty line after the last break. -/
def splitLines (text : List Char) : List (List Char) :=
  let pieces := (universalNewlines text).splitOnP isLineBreak
  if pieces.getLast? = some [] then pieces.dropLast else pieces

/-- `text.split(separator, limit)`. -/
def splitAtMost (separator : Char) : Nat → List Char → List (List Char)
  | 0, text => [text]
  | limit + 1, text =>
    let before := text.takeWhile (fun c => c != separator)
    match text.dropWhile (fun c => c != separator) with
    | [] => [before]
    | _ :: after => before :: splitAtMost separator limit after

/-! ## Whole numbers -/

/-- The zeros of the scripts that have decimal digits; nine digits follow each. -/
def decimalZeros : List Nat :=
  [0x30, 0x660, 0x6f0, 0x7c0, 0x966, 0x9e6, 0xa66, 0xae6, 0xb66, 0xbe6, 0xc66, 0xce6, 0xd66, 0xde6,
    0xe50, 0xed0, 0xf20, 0x1040, 0x1090, 0x17e0, 0x1810, 0x1946, 0x19d0, 0x1a80, 0x1a90, 0x1b50,
    0x1bb0, 0x1c40, 0x1c50, 0xa620, 0xa8d0, 0xa900, 0xa9d0, 0xa9f0, 0xaa50, 0xabf0, 0xff10, 0x104a0,
    0x10d30, 0x11066, 0x110f0, 0x11136, 0x111d0, 0x112f0, 0x11450, 0x114d0, 0x11650, 0x116c0,
    0x11730, 0x118e0, 0x11950, 0x11c50, 0x11d50, 0x11da0, 0x11f50, 0x16a60, 0x16ac0, 0x16b50,
    0x1d7ce, 0x1d7d8, 0x1d7e2, 0x1d7ec, 0x1d7f6, 0x1e140, 0x1e2f0, 0x1e4d0, 0x1e950, 0x1fbf0]

/-- The value of a decimal digit. -/
def decimalValue (c : Char) : Option Nat :=
  (decimalZeros.find? (fun first => first ≤ c.toNat && c.toNat < first + 10)).map (c.toNat - ·)

/-- The first and last of the digits that spell no number: superscripts, numbers in circles
and the like. -/
def otherDigits : List (Nat × Nat) :=
  [(0xb2, 0xb3), (0xb9, 0xb9), (0x1369, 0x1371), (0x19da, 0x19da), (0x2070, 0x2070),
    (0x2074, 0x2079), (0x2080, 0x2089), (0x2460, 0x2468), (0x2474, 0x247c), (0x2488, 0x2490),
    (0x24ea, 0x24ea), (0x24f5, 0x24fd), (0x24ff, 0x24ff), (0x2776, 0x277e), (0x2780, 0x2788),
    (0x278a, 0x2792), (0x10a40, 0x10a43), (0x10e60, 0x10e68), (0x11052, 0x1105a),
    (0x1f100, 0x1f10a)]

/-- `text.isdigit()`. -/
def isDigitText (text : List Char) : Bool :=
  !text.isEmpty && text.all (fun c => (decimalValue c).isSome ||
    otherDigits.any (fun range => range.1 ≤ c.toNat && c.toNat ≤ range.2))

/-- Longer numerals are refused. -/
def maxNumeralDigits : Nat := 4300

/-- The number that digits spell, each of one decimal value. -/
def numeral (digits : List Char) : Option Nat :=
  if digits.isEmpty || maxNumeralDigits < digits.length then none
  else digits.foldlM (fun total c => (decimalValue c).map (fun d => 10 * total + d)) 0

/-- The digits of a numeral: a low line may stand between two of them. -/
def numeralDigits (text : List Char) : Option (List Char) :=
  let groups := text.splitOn '_'
  if groups.any List.isEmpty then none else some groups.flatten

/-- `int(text)`; `none` where it raises. -/
def intOfText (text : String) : Option Int :=
  match stripText text.toList with
  | '-' :: digits => ((numeralDigits digits).bind numeral).map (fun n => -(n : Int))
  | '+' :: digits => ((numeralDigits digits).bind numeral).map (fun n => (n : Int))
  | digits => ((numeralDigits digits).bind numeral).map (fun n => (n : Int))

/-! ## Small facts -/

theorem isSpace_of_isLineBreak {c : Char} (break_ : isLineBreak c = true) : isSpace c = true := by
  simp only [isLineBreak, isSpace, Bool.or_eq_true, Bool.and_eq_true, decide_eq_true_eq,
    List.contains_iff_mem, List.mem_cons, List.not_mem_nil, or_false] at break_ ⊢
  omega

/-- Nothing changes in a text without a carriage return. -/
theorem universalNewlines_append {text : List Char} (none : '\r' ∉ text) (rest : List Char) :
    universalNewlines (text ++ rest) = text ++ universalNewlines rest := by
  induction text with
  | nil => rfl
  | cons c text ih =>
    rw [List.mem_cons, not_or] at none
    rw [universalNewlines, List.cons_append, newlinesFrom, if_neg (Ne.symm none.1),
      Bool.false_and, if_neg Bool.false_ne_true, ← universalNewlines, ih none.2, List.cons_append]

theorem universalNewlines_of_not_mem {text : List Char} (none : '\r' ∉ text) :
    universalNewlines text = text := by
  simpa [universalNewlines, newlinesFrom] using universalNewlines_append none []

/-- What begins with another character than a newline is translated by itself. -/
theorem universalNewlines_append_cons {c : Char} (other : c ≠ '\n') (text rest : List Char) :
    universalNewlines (text ++ c :: rest) =
      universalNewlines text ++ universalNewlines (c :: rest) := by
  have same : newlinesFrom true (c :: rest) = newlinesFrom false (c :: rest) := by
    simp [newlinesFrom, other]
  have from_ : ∀ returned, newlinesFrom returned (text ++ c :: rest) =
      newlinesFrom returned text ++ newlinesFrom false (c :: rest) := by
    intro returned
    induction text generalizing returned with
    | nil =>
      cases returned with
      | false => rfl
      | true => exact same
    | cons x text ih =>
      simp only [List.cons_append, newlinesFrom, ih]
      split_ifs <;> simp
  exact from_ false

theorem not_mem_universalNewlines (text : List Char) : '\r' ∉ universalNewlines text := by
  have from_ : ∀ returned, '\r' ∉ newlinesFrom returned text := by
    intro returned
    induction text generalizing returned with
    | nil => simp [newlinesFrom]
    | cons c text ih =>
      simp only [newlinesFrom]
      split_ifs with return_ paired
      · simpa using ih true
      · exact ih false
      · rw [List.mem_cons, not_or]
        exact ⟨Ne.symm return_, ih false⟩
  exact from_ false

/-! ## White space at the ends -/

theorem stripEnd_eq_nil {text : List Char} : stripEnd text = [] ↔ ∀ c ∈ text, isSpace c = true := by
  simp [stripEnd, List.dropWhile_eq_nil_iff]

theorem stripText_eq_nil {text : List Char} :
    stripText text = [] ↔ ∀ c ∈ text, isSpace c = true := by
  rw [stripText, stripEnd_eq_nil]
  constructor
  · intro blank
    by_contra some_
    obtain ⟨c, member, ink⟩ := not_forall₂.mp some_
    have split := List.takeWhile_append_dropWhile (p := isSpace) (l := text)
    rw [← split, List.mem_append] at member
    rcases member with before | after
    · exact ink (List.mem_takeWhile_imp before)
    · exact ink (blank c after)
  · intro blank c member
    exact blank c ((List.dropWhile_sublist isSpace).subset member)

/-- Only the last part is cut where it is not blank. -/
theorem stripEnd_append {last : List Char} (ink : ∃ c ∈ last, isSpace c = false)
    (text : List Char) : stripEnd (text ++ last) = text ++ stripEnd last := by
  have left : last.reverse.dropWhile isSpace ≠ [] := by
    rw [Ne, List.dropWhile_eq_nil_iff]
    obtain ⟨c, member, ink⟩ := ink
    intro blank
    exact absurd (blank c (List.mem_reverse.mpr member)) (by simp [ink])
  rw [stripEnd, List.reverse_append, List.dropWhile_append, if_neg (by simpa using left),
    List.reverse_append, List.reverse_reverse, stripEnd]

theorem stripEnd_append_blank {blank : List Char} (spaces : ∀ c ∈ blank, isSpace c = true)
    (text : List Char) : stripEnd (text ++ blank) = stripEnd text := by
  have none : blank.reverse.dropWhile isSpace = [] :=
    List.dropWhile_eq_nil_iff.mpr fun c member => spaces c (List.mem_reverse.mp member)
  rw [stripEnd, List.reverse_append, List.dropWhile_append, none]
  rfl

theorem stripEnd_initial (text : List Char) : stripEnd text <+: text := by
  rw [stripEnd, ← List.reverse_suffix, List.reverse_reverse]
  exact List.dropWhile_suffix isSpace

/-- Nothing is cut from a text that ends with another character. -/
theorem stripEnd_eq_self {text : List Char} :
    stripEnd text = text ↔ ∀ c ∈ text.getLast?, isSpace c = false := by
  rw [stripEnd, List.reverse_eq_iff]
  cases reversed : text.reverse with
  | nil =>
    rw [List.reverse_eq_nil_iff.mp reversed]
    simp
  | cons c rest =>
    rw [← List.head?_reverse, reversed]
    by_cases space : isSpace c = true
    · refine iff_of_false ?_ (by simp [space])
      rw [List.dropWhile_cons_of_pos space]
      intro same
      have shorter := (List.dropWhile_sublist isSpace (l := rest)).length_le
      rw [same, List.length_cons] at shorter
      omega
    · refine iff_of_true (List.dropWhile_cons_of_neg space) (by simpa using space)

/-! ## Splitting -/

/-- The first of two or more pieces ends at the first separator. -/
theorem splitAtMost_succ_eq {separator : Char} {limit : Nat} {text before piece : List Char}
    {pieces : List (List Char)} :
    splitAtMost separator (limit + 1) text = before :: piece :: pieces ↔
      separator ∉ before ∧ ∃ after, text = before ++ separator :: after ∧
        splitAtMost separator limit after = piece :: pieces := by
  have other : ∀ {part : List Char}, separator ∉ part → ∀ c ∈ part, (c != separator) = true := by
    intro part absent c member
    simp only [bne_iff_ne]
    rintro rfl
    exact absent member
  constructor
  · intro split
    simp only [splitAtMost] at split
    cases rest : text.dropWhile (fun c => c != separator) with
    | nil => simp [rest] at split
    | cons mark after =>
      simp only [rest, List.cons.injEq] at split
      have here := List.head?_dropWhile_not (fun c => c != separator) text
      simp only [rest, List.head?_cons, Bool.not_eq_eq_eq_not, Bool.not_true, bne_eq_false_iff_eq]
        at here
      refine ⟨?_, after, ?_, split.2⟩
      · intro member
        rw [← split.1] at member
        exact absurd (List.mem_takeWhile_imp member) (by simp)
      · have whole := List.takeWhile_append_dropWhile (p := fun c => c != separator) (l := text)
        rw [rest, split.1, here] at whole
        exact whole.symm
  · rintro ⟨absent, after, rfl, split⟩
    simp only [splitAtMost]
    rw [List.takeWhile_append_of_pos (other absent), List.dropWhile_append_of_pos (other absent),
      List.dropWhile_cons_of_neg (by simp), List.takeWhile_cons_of_neg (by simp),
      List.append_nil]
    exact congrArg (before :: ·) split

theorem mem_of_mem_splitOnP {α : Type*} {p : α → Bool} {text piece : List α} {c : α}
    (among : piece ∈ text.splitOnP p) (member : c ∈ piece) : c ∈ text := by
  induction text generalizing piece with
  | nil =>
    rw [List.splitOnP_nil, List.mem_singleton] at among
    exact among ▸ member
  | cons x text ih =>
    rw [List.splitOnP_cons_eq_if_modifyHead] at among
    split_ifs at among with mark
    · rcases List.mem_cons.mp among with rfl | among
      · cases member
      · exact List.mem_cons_of_mem _ (ih among member)
    · obtain ⟨first, pieces, split⟩ := List.exists_cons_of_ne_nil (List.splitOnP_ne_nil p text)
      rw [split, List.modifyHead_cons, List.mem_cons] at among
      rcases among with rfl | among
      · rcases List.mem_cons.mp member with rfl | member
        · exact List.mem_cons_self
        · exact List.mem_cons_of_mem _ (ih (split ▸ List.mem_cons_self) member)
      · exact List.mem_cons_of_mem _ (ih (split ▸ List.mem_cons_of_mem _ among) member)

/-! ## Numerals -/

theorem decimalValue_of_isDigit {c : Char} (digit : c.isDigit = true) :
    decimalValue c = some (c.toNat - '0'.toNat) := by
  simp only [Char.isDigit, Bool.and_eq_true, decide_eq_true_eq] at digit
  have low : 48 ≤ c.toNat := digit.1
  have high : c.toNat ≤ 57 := digit.2
  rw [decimalValue, decimalZeros, List.find?_cons_of_pos (by simp; omega)]
  rfl

theorem isDigit_of_mem_toDigits {n : Nat} : ∀ c ∈ Nat.toDigits 10 n, c.isDigit = true :=
  fun _ member => Nat.isDigit_of_mem_toDigits (by decide) (by decide) member

theorem isDigitText_toDigits (n : Nat) : isDigitText (Nat.toDigits 10 n) = true := by
  rw [isDigitText, Bool.and_eq_true, List.all_eq_true]
  refine ⟨by simp, fun c member => ?_⟩
  rw [decimalValue_of_isDigit (isDigit_of_mem_toDigits c member)]
  rfl

theorem foldlM_decimalValue {digits : List Char} (all : ∀ c ∈ digits, c.isDigit = true)
    (total : Nat) :
    digits.foldlM (fun total c => (decimalValue c).map (fun d => 10 * total + d)) total =
      some (Nat.ofDigitChars 10 digits total) := by
  induction digits generalizing total with
  | nil => simp
  | cons c digits ih =>
    rw [List.foldlM_cons, decimalValue_of_isDigit (all c List.mem_cons_self), Option.map_some,
      Option.bind_eq_bind, Option.bind_some, ih fun x member => all x (List.mem_cons_of_mem _ member),
      Nat.ofDigitChars_cons]

/-- A number of no more digits than are read is spelt by its numeral. -/
theorem numeral_toDigits {n : Nat} (small : n < 10 ^ maxNumeralDigits) :
    numeral (Nat.toDigits 10 n) = some n := by
  have short : (Nat.toDigits 10 n).length ≤ maxNumeralDigits :=
    (Nat.length_toDigits_le_iff (by decide) (by decide)).mpr small
  have nonempty : (Nat.toDigits 10 n).isEmpty = false := by simp
  rw [numeral, nonempty, Bool.false_or, if_neg (by simpa using short),
    foldlM_decimalValue isDigit_of_mem_toDigits, Nat.ofDigitChars_ten_toDigits]

end IncidentTriage.Python
