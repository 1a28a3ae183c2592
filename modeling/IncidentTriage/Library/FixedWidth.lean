import Mathlib.Algebra.Order.Ring.Nat
import Mathlib.Data.Char
import Mathlib.Data.List.Lex

/-! # Fixed-width texts

Texts made of pieces of fixed width compare as what they spell: the first piece that differs
decides.  A spelling orders by a key if it is of one width and compares as the key does.
-/

namespace IncidentTriage.FixedWidth

/-! ## Pieces -/

theorem append_lt_append {u v s t : List Char} (same : u.length = v.length) :
    u ++ s < v ++ t ↔ u < v ∨ u = v ∧ s < t := by
  induction u generalizing v with
  | nil =>
    obtain rfl := List.length_eq_zero_iff.mp same.symm
    simp
  | cons c u ih =>
    obtain ⟨d, v, rfl⟩ := List.exists_cons_of_length_eq_add_one same.symm
    have shorter : u.length = v.length := Nat.succ.inj same
    rw [List.cons_append, List.cons_append, List.cons_lt_cons_iff, List.cons_lt_cons_iff,
      ih shorter, List.cons.injEq]
    tauto

/-- What compares alike is equal alike. -/
theorem eq_iff {u v : List Char} {m n : Nat} (less : u < v ↔ m < n) (more : v < u ↔ n < m) :
    u = v ↔ m = n := by
  constructor
  · rintro rfl
    simp only [lt_irrefl, false_iff] at less more
    omega
  · rintro rfl
    simp only [lt_irrefl, iff_false] at less more
    exact le_antisymm (not_lt.mp more) (not_lt.mp less)

/-- The last so many decimal digits of a number. -/
def digits : Nat → Nat → List Char
  | 0, _ => []
  | width + 1, n => digits width (n / 10) ++ [(n % 10).digitChar]

@[simp] theorem length_digits (width n : Nat) : (digits width n).length = width := by
  induction width generalizing n with
  | zero => rfl
  | succ width ih => simp [digits, ih]

theorem digitChar_lt {m n : Nat} (hm : m < 10) (hn : n < 10) :
    m.digitChar < n.digitChar ↔ m < n := by
  rw [Char.lt_def, UInt32.lt_iff_toNat_lt]
  change m.digitChar.toNat < n.digitChar.toNat ↔ m < n
  rw [Nat.toNat_digitChar_of_lt_ten hm, Nat.toNat_digitChar_of_lt_ten hn]
  omega

/-- Within the width the digits compare as the numbers. -/
theorem digits_lt {width m n : Nat} (hm : m < 10 ^ width) (hn : n < 10 ^ width) :
    digits width m < digits width n ↔ m < n := by
  induction width generalizing m n with
  | zero => simp_all [digits]
  | succ width ih =>
    rw [pow_succ] at hm hn
    have less := @ih (m / 10) (n / 10) (by omega) (by omega)
    have more := @ih (n / 10) (m / 10) (by omega) (by omega)
    rw [digits, digits, append_lt_append (by simp), less, eq_iff less more, List.cons_lt_cons_iff,
      digitChar_lt (Nat.mod_lt m (by decide)) (Nat.mod_lt n (by decide))]
    simp only [List.not_lt_nil, and_false, or_false]
    omega

/-! ## Spellings -/

/-- A spelling of one width that compares as the key. -/
structure OrdersBy {α : Type*} (spell : α → List Char) (key : α → Nat) : Prop where
  length (a b : α) : (spell a).length = (spell b).length
  lt (a b : α) : spell a < spell b ↔ key a < key b

variable {α : Type*} {spell finer : α → List Char} {key minor whole : α → Nat}

theorem OrdersBy.eq (byKey : OrdersBy spell key) (a b : α) : spell a = spell b ↔ key a = key b :=
  eq_iff (byKey.lt a b) (byKey.lt b a)

theorem orders_digits {width : Nat} (small : ∀ a, key a < 10 ^ width) :
    OrdersBy (fun a => digits width (key a)) key where
  length := by simp
  lt a b := digits_lt (small a) (small b)

/-- One spelling after another, where the second key decides between equals. -/
theorem OrdersBy.append (major : OrdersBy spell key) (fine : OrdersBy finer minor)
    (decides : ∀ a b, whole a < whole b ↔ key a < key b ∨ key a = key b ∧ minor a < minor b) :
    OrdersBy (fun a => spell a ++ finer a) whole where
  length a b := by simp only [List.length_append, major.length a b, fine.length a b]
  lt a b := by
    rw [append_lt_append (major.length a b), major.lt, major.eq, fine.lt, decides]

theorem OrdersBy.mark (byKey : OrdersBy spell key) (mark : List Char) :
    OrdersBy (fun a => spell a ++ mark) key where
  length a b := by simp only [List.length_append, byKey.length a b]
  lt a b := by
    rw [append_lt_append (byKey.length a b), byKey.lt]
    simp

/-- What numbers of one radix after another spell. -/
theorem radix_decides {radix : Nat} (small : ∀ a, minor a < radix) (a b : α) :
    key a * radix + minor a < key b * radix + minor b ↔
      key a < key b ∨ key a = key b ∧ minor a < minor b := by
  have ha := small a
  have hb := small b
  rcases lt_trichotomy (key a) (key b) with less | same | more
  · have gap : (key a + 1) * radix ≤ key b * radix := Nat.mul_le_mul_right radix less
    rw [Nat.add_mul, Nat.one_mul] at gap
    constructor
    · intro _
      exact .inl less
    · intro _
      omega
  · rw [same]
    simp
  · have gap : (key b + 1) * radix ≤ key a * radix := Nat.mul_le_mul_right radix more
    rw [Nat.add_mul, Nat.one_mul] at gap
    omega

end IncidentTriage.FixedWidth
