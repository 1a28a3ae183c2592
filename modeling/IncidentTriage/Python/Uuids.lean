import IncidentTriage.Python.Json
import Mathlib.Tactic.IntervalCases

/-! # Reading a UUID

`uuid.UUID(text)` undoes `str(uuid)`, for the 128-bit values that UUIDs are.
-/

namespace IncidentTriage.Python

/-! ## `uuid.UUID` -/

/-- `text.replace(word, '')`. -/
def withoutWord (word : List Char) : Nat → List Char → List Char
  | 0, text => text
  | _ + 1, [] => []
  | fuel + 1, c :: rest =>
    if word.isPrefixOf (c :: rest) then withoutWord word fuel ((c :: rest).drop word.length)
    else c :: withoutWord word fuel rest

/-- The value of a hexadecimal digit. -/
def hexValue (c : Char) : Option Nat :=
  if '0' ≤ c ∧ c ≤ '9' then some (c.toNat - 48)
  else if 'a' ≤ c ∧ c ≤ 'f' then some (c.toNat - 87)
  else if 'A' ≤ c ∧ c ≤ 'F' then some (c.toNat - 55)
  else none

/-- `int(text, 16)` of hexadecimal digits. -/
def hexNumber (text : List Char) : Option Nat :=
  text.foldlM (fun n c => (hexValue c).map (n * 16 + ·)) 0

def isBrace (c : Char) : Bool := c = '\x7b' || c = '\x7d'

/-- `uuid.UUID(text)`, with `none` where it raises `ValueError`. -/
def parseUuid (text : String) : Option Uuid :=
  let text := withoutWord "urn:".toList text.length text.toList
  let text := withoutWord "uuid:".toList text.length text
  let text := ((text.dropWhile isBrace).reverse.dropWhile isBrace).reverse
  let digits := text.filter (· != '-')
  if digits.length = 32 then hexNumber digits else none

/-! ## Round trip -/

theorem hexValue_hexDigit {n : Nat} (small : n < 16) : hexValue (hexDigit n) = some n := by
  interval_cases n <;> decide

theorem length_hexDigits (width n : Nat) : (hexDigits width n).length = width := by
  induction width generalizing n with
  | zero => rfl
  | succ width ih => simp [hexDigits, ih]

theorem hexNumber_hexDigits {width n : Nat} (small : n < 16 ^ width) :
    hexNumber (hexDigits width n) = some n := by
  induction width generalizing n with
  | zero =>
    obtain rfl : n = 0 := by simpa using small
    rfl
  | succ width ih =>
    have front : hexNumber (hexDigits width (n / 16)) = some (n / 16) := by
      refine ih ?_
      rw [pow_succ] at small
      omega
    unfold hexNumber at front ⊢
    rw [hexDigits, List.foldlM_append, front]
    simp only [Option.bind_eq_bind, Option.bind_some, List.foldlM_cons, List.foldlM_nil,
      hexValue_hexDigit (Nat.mod_lt n (by decide)), Option.map_some, Option.pure_def]
    congr 1
    omega

theorem hexDigit_ne {n : Nat} (small : n < 16) :
    hexDigit n ≠ '-' ∧ hexDigit n ≠ 'u' ∧ isBrace (hexDigit n) = false := by
  interval_cases n <;> decide

theorem eq_hexDigit_of_mem {width n : Nat} {c : Char} (member : c ∈ hexDigits width n) :
    ∃ m < 16, c = hexDigit m := by
  induction width generalizing n with
  | zero => cases member
  | succ width ih =>
    obtain front | last := List.mem_append.mp member
    · exact ih front
    · exact ⟨n % 16, Nat.mod_lt n (by decide), List.mem_singleton.mp last⟩

/-- A word that starts with another character is not found. -/
theorem withoutWord_eq {word text : List Char} {c : Char} (head : word.head? = some c)
    (other : c ∉ text) (fuel : Nat) : withoutWord word fuel text = text := by
  obtain ⟨tail, rfl⟩ : ∃ tail, word = c :: tail := List.head?_eq_some_iff.mp head
  induction fuel generalizing text with
  | zero => rfl
  | succ fuel ih =>
    cases text with
    | nil => rfl
    | cons d rest =>
      have different : c ≠ d := by
        rintro rfl
        exact other List.mem_cons_self
      have later : c ∉ rest := fun member => other (List.mem_cons_of_mem d member)
      simp [withoutWord, different, ih later]

theorem dropWhile_eq {text : List Char} (plain : ∀ c ∈ text, isBrace c = false) :
    text.dropWhile isBrace = text := by
  cases text with
  | nil => rfl
  | cons c rest => rw [List.dropWhile_cons_of_neg (by simp [plain c List.mem_cons_self])]

/-- Groups of digits, joined by dashes. -/
def dashed (groups : List (List Char)) : List Char := ['-'].intercalate groups

theorem dashed_cons_cons (group next : List Char) (rest : List (List Char)) :
    dashed (group :: next :: rest) = group ++ '-' :: dashed (next :: rest) := by
  simp [dashed, List.intercalate_cons_cons]

theorem mem_dashed {groups : List (List Char)} {c : Char} (member : c ∈ dashed groups) :
    c = '-' ∨ c ∈ groups.flatten := by
  induction groups with
  | nil => cases member
  | cons group groups ih =>
    cases groups with
    | nil => exact .inr (by simpa [dashed] using member)
    | cons next rest =>
      rw [dashed_cons_cons, List.mem_append, List.mem_cons] at member
      rw [List.flatten_cons, List.mem_append]
      obtain here | dash | later := member
      · exact .inr (.inl here)
      · exact .inl dash
      · exact (ih later).imp_right .inr

/-- Without the dashes the groups are what they were. -/
theorem filter_dashed {groups : List (List Char)} (plain : ∀ c ∈ groups.flatten, c ≠ '-') :
    (dashed groups).filter (· != '-') = groups.flatten := by
  induction groups with
  | nil => rfl
  | cons group groups ih =>
    have here : group.filter (· != '-') = group := by
      rw [List.filter_eq_self]
      intro c member
      simpa using plain c (by simp [member])
    have later : ∀ c ∈ groups.flatten, c ≠ '-' := fun c member => plain c (by
      rw [List.flatten_cons]
      exact List.mem_append_right _ member)
    cases groups with
    | nil => simpa [dashed] using here
    | cons next rest =>
      rw [dashed_cons_cons, List.filter_append, here, List.filter_cons_of_neg (by decide), ih later]
      rfl

/-- The groups of a UUID's text. -/
def uuidGroups (digits : List Char) : List (List Char) :=
  [digits.take 8, (digits.drop 8).take 4, (digits.drop 12).take 4, (digits.drop 16).take 4,
    (digits.drop 20).take 12]

theorem flatten_uuidGroups {digits : List Char} (length : digits.length = 32) :
    (uuidGroups digits).flatten = digits := by
  have step (n k : Nat) : (digits.drop n).take k ++ digits.drop (n + k) = digits.drop n := by
    rw [← List.drop_drop, List.take_append_drop]
  have last : (digits.drop 20).take 12 = digits.drop 20 := by
    rw [List.take_of_length_le (by simp [length])]
  simp only [uuidGroups, List.flatten_cons, List.flatten_nil, List.append_nil, last]
  rw [step 16 4, step 12 4, step 8 4, List.take_append_drop]

theorem toList_uuidStr (id : Uuid) :
    (uuidStr id).toList = dashed (uuidGroups (hexDigits 32 id)) := by
  simp [uuidStr, uuidGroups, dashed]

theorem parseUuid_uuidStr {id : Uuid} (small : id < 2 ^ 128) :
    parseUuid (uuidStr id) = some id := by
  have groups := flatten_uuidGroups (length_hexDigits 32 id)
  have chars : ∀ c ∈ (uuidStr id).toList, c = '-' ∨ ∃ n < 16, c = hexDigit n := by
    intro c member
    rw [toList_uuidStr] at member
    refine (mem_dashed member).imp_right fun digit => ?_
    rw [groups] at digit
    exact eq_hexDigit_of_mem digit
  have noWord : 'u' ∉ (uuidStr id).toList := by
    intro member
    obtain dash | ⟨n, bound, digit⟩ := chars _ member
    · exact absurd dash (by decide)
    · exact (hexDigit_ne bound).2.1 digit.symm
  have noBrace : ∀ c ∈ (uuidStr id).toList, isBrace c = false := by
    intro c member
    obtain rfl | ⟨n, bound, rfl⟩ := chars c member
    · decide
    · exact (hexDigit_ne bound).2.2
  have digits : (uuidStr id).toList.filter (· != '-') = hexDigits 32 id := by
    rw [toList_uuidStr, filter_dashed, groups]
    rw [groups]
    intro c member
    obtain ⟨n, bound, rfl⟩ := eq_hexDigit_of_mem member
    exact (hexDigit_ne bound).1
  have trimmed : ((uuidStr id).toList.reverse.dropWhile isBrace).reverse = (uuidStr id).toList := by
    rw [dropWhile_eq fun c member => noBrace c (List.mem_reverse.mp member), List.reverse_reverse]
  simp only [parseUuid]
  rw [withoutWord_eq (by simp) noWord, withoutWord_eq (by simp) noWord, dropWhile_eq noBrace,
    trimmed, digits, if_pos (length_hexDigits 32 id)]
  exact hexNumber_hexDigits (by omega)

end IncidentTriage.Python
