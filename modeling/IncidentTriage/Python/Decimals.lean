import IncidentTriage.Python.Floats
import Mathlib.Tactic.LinearCombination
import Mathlib.Tactic.NormNum
import Mathlib.Tactic.Positivity
import Mathlib.Tactic.Ring

/-! # The digits of a float

A float is printed with the fewest digits that are read as it; seventeen are always enough.
-/

namespace IncidentTriage.Python

/-- So many digits, and the power of ten they are multiplied with. -/
structure Digits where
  digits : Nat
  count : Nat
  exponent : Int
  deriving DecidableEq, Repr

def Digits.value (d : Digits) : ℚ := d.digits * 10 ^ d.exponent

/-- How many of the digits stand before the decimal point. -/
def Digits.point (d : Digits) : Int := d.count + d.exponent

/-- A multiple of a power of ten, in `n` digits; where it has one more it is itself such a
power. -/
def Digits.ofMultiple (n : Nat) (exponent multiple : Int) : Digits :=
  if multiple = 10 ^ n then { digits := 1, count := 1, exponent := exponent + n }
  else { digits := multiple.toNat, count := n, exponent }

/-- The two decimals of `n` digits around a value, the nearer one first. -/
def decimalsAround (q : ℚ) (n : Nat) : List Digits :=
  let exponent := Int.log 10 q + 1 - n
  let near := roundHalfEven (q / 10 ^ exponent)
  let far := if near < q / 10 ^ exponent then near + 1 else near - 1
  [.ofMultiple n exponent near, .ofMultiple n exponent far]

/-- The fewest digits that are read as a float, and of those the nearest. -/
def shortestDigits (q : ℚ) : Option Digits :=
  ((List.range 17).flatMap (fun n => decimalsAround q (n + 1))).find?
    (fun d => roundDouble d.value = q)

/-- The text of the digits, with an exponent where the point would stand too far away. -/
def Digits.layout (d : Digits) : List Char :=
  let text := Nat.toDigits 10 d.digits
  if -4 < d.point ∧ d.point ≤ 16 then
    if d.point ≤ 0 then '0' :: '.' :: (List.replicate (-d.point).toNat '0' ++ text)
    else if d.point < d.count then text.take d.point.toNat ++ '.' :: text.drop d.point.toNat
    else text ++ List.replicate (d.point.toNat - d.count) '0' ++ ['.', '0']
  else
    text.take 1 ++ (if 1 < d.count then '.' :: text.drop 1 else []) ++
      (if d.point ≤ 0 then ['e', '-'] else ['e', '+']) ++
      (twoDigits |d.point - 1|).toList

/-- `repr` of a float that is not negative. -/
def reprMagnitude (q : ℚ) : List Char :=
  match shortestDigits q with
  | some d => d.layout
  | none => []

/-- The float of a sign and a magnitude. -/
def pyFloat (negative : Bool) (magnitude : ℚ) : PyFloat where
  value := .finite (if negative then -magnitude else magnitude)
  text := String.ofList ((if negative then ['-'] else []) ++ reprMagnitude magnitude)

/-- `float(numeral)`, from the sign and the magnitude that are spelt. -/
def readFloat (negative : Bool) (magnitude : ℚ) : PyFloat :=
  pyFloat negative (roundDouble magnitude)

/-- A finite float that Python has, with its sign and its magnitude. -/
structure IsFloat (x : PyFloat) (negative : Bool) (magnitude : ℚ) : Prop where
  nonneg : 0 ≤ magnitude
  double : roundDouble magnitude = magnitude
  printed : x = pyFloat negative magnitude

example : (pyFloat true (1 / 10 + 1 / 180143985094819840)).text = "-0.1" := by decide +kernel
example : (pyFloat false (10 ^ 22)).text = "1e+22" := by decide +kernel

/-! ## Seventeen digits -/

/-- What is nearer to a multiple of its own unit than half of it is rounded to that multiple. -/
theorem roundDouble_of_near {q c : ℚ} {j : Int} (multiple : q = j * unitInLastPlace c)
    (near : |c - q| < unitInLastPlace c / 2) : roundDouble c = q := by
  have positive : 0 < unitInLastPlace c := by
    rw [unitInLastPlace]
    exact zpow_pos (by norm_num) _
  have scaled : |c / unitInLastPlace c - j| < 1 / 2 := by
    have same : c / unitInLastPlace c - j = (c - q) / unitInLastPlace c := by
      rw [multiple]
      field_simp
    rw [same, abs_div, abs_of_pos positive, div_lt_iff₀ positive]
    linarith
  have rounded : roundHalfEven (c / unitInLastPlace c) = j := by
    have both := roundHalfEven_near (c / unitInLastPlace c)
    rw [abs_lt] at scaled
    have below : (roundHalfEven (c / unitInLastPlace c) : ℚ) < j + 1 := by linarith
    have above : (j : ℚ) < roundHalfEven (c / unitInLastPlace c) + 1 := by linarith
    have below' : roundHalfEven (c / unitInLastPlace c) < j + 1 := by exact_mod_cast below
    have above' : j < roundHalfEven (c / unitInLastPlace c) + 1 := by exact_mod_cast above
    omega
  rw [roundDouble, rounded, ← multiple]

/-- A power of two is a multiple of each smaller one. -/
theorem exists_zpow_eq_mul {m n : Int} (le : n ≤ m) : ∃ j : Int, (2 : ℚ) ^ m = j * 2 ^ n := by
  refine ⟨2 ^ (m - n).toNat, ?_⟩
  push_cast
  rw [← zpow_natCast, Int.toNat_of_nonneg (by omega), ← zpow_add₀ (by norm_num)]
  congr 1
  omega

theorem unitInLastPlace_eq {c : ℚ} {l : Int} (positive : 0 < c) (low : 2 ^ l ≤ c)
    (high : c < 2 ^ (l + 1)) : unitInLastPlace c = 2 ^ max (l - 52) (-1074) := by
  have log : Int.log 2 c = l := by
    have two : (1 : Nat) < 2 := by decide
    have le : l ≤ Int.log 2 c := (Int.zpow_le_iff_le_log two positive).mp (by exact_mod_cast low)
    have lt : Int.log 2 c < l + 1 :=
      (Int.lt_zpow_iff_log_lt two positive).mp (by exact_mod_cast high)
    omega
  rw [unitInLastPlace, abs_of_pos positive, log]

/-- Where the error is less than one part in two times ten to the sixteenth, a float is read
back. -/
theorem roundDouble_of_close {q c : ℚ} (positive : 0 < q) (double : roundDouble q = q)
    (close : |c - q| ≤ q / (2 * 10 ^ 16)) : roundDouble c = q := by
  have two : (1 : Nat) < 2 := by decide
  set l := Int.log 2 q
  have low : (2 : ℚ) ^ l ≤ q := by exact_mod_cast Int.zpow_log_le_self two positive
  have high : q < (2 : ℚ) ^ (l + 1) := by exact_mod_cast Int.lt_zpow_succ_log_self two q
  have double_ : (2 : ℚ) ^ (l + 1) = 2 * 2 ^ l := by
    rw [zpow_add_one₀ (by norm_num), mul_comm]
  have power : (0 : ℚ) < 2 ^ l := zpow_pos (by norm_num) _
  have unit := unitInLastPlace_eq positive low high
  obtain ⟨k, multiple⟩ : ∃ k : Int, q = k * 2 ^ max (l - 52) (-1074) :=
    ⟨_, by rw [← unit]; exact double.symm⟩
  set u : ℚ := 2 ^ max (l - 52) (-1074) with u_def
  have unit_pos : 0 < u := zpow_pos (by norm_num) _
  have wide : (2 : ℚ) ^ l / 2 ^ 52 ≤ u := by
    have le : (2 : ℚ) ^ (l - 52) ≤ u := zpow_le_zpow_right₀ (by norm_num) (le_max_left _ _)
    have same : (2 : ℚ) ^ (l - 52) = 2 ^ l / 2 ^ 52 := by
      rw [zpow_sub₀ (by norm_num)]
      norm_num
    linarith
  -- no double is below its own unit
  have lowest : -1074 ≤ l := by
    by_contra less
    have unit_eq : max (l - 52) (-1074) = -1074 := by omega
    have small : q < u := by
      have le : (2 : ℚ) ^ (l + 1) ≤ u := by
        rw [u_def, unit_eq]
        exact zpow_le_zpow_right₀ (by norm_num) (by omega)
      linarith
    have one : 1 ≤ k := by
      by_contra none
      have nonpos : (k : ℚ) ≤ 0 := by exact_mod_cast (by omega : k ≤ 0)
      have := mul_nonpos_of_nonpos_of_nonneg nonpos unit_pos.le
      linarith
    have one' : (1 : ℚ) ≤ k := by exact_mod_cast one
    have := mul_le_mul_of_nonneg_right one' unit_pos.le
    linarith
  have ends := abs_le.mp close
  by_cases boundary : q = 2 ^ l ∧ c < q
  · -- below a power of two the units are half as wide
    obtain ⟨power_, below⟩ := boundary
    have half : (2 : ℚ) ^ (l - 1) = q / 2 := by
      rw [zpow_sub_one₀ (by norm_num), ← power_]
      rfl
    have unit_c : unitInLastPlace c = 2 ^ max (l - 1 - 52) (-1074) := by
      refine unitInLastPlace_eq (by linarith) (by linarith) ?_
      rw [sub_add_cancel, ← power_]
      exact below
    have wide_c : q / 2 ^ 53 ≤ unitInLastPlace c := by
      have le : (2 : ℚ) ^ (l - 53) ≤ 2 ^ max (l - 1 - 52) (-1074) :=
        zpow_le_zpow_right₀ (by norm_num) (by omega)
      have same : (2 : ℚ) ^ (l - 53) = q / 2 ^ 53 := by
        rw [zpow_sub₀ (by norm_num), ← power_]
        norm_num
      rw [unit_c]
      linarith
    obtain ⟨j, multiple_c⟩ := exists_zpow_eq_mul (by omega : max (l - 1 - 52) (-1074) ≤ l)
    refine roundDouble_of_near (by rw [unit_c, ← multiple_c, ← power_]) (close.trans_lt ?_)
    linarith
  · -- otherwise the decimal has the unit of the float
    obtain ⟨a, power_⟩ := exists_zpow_eq_mul (by omega : max (l - 52) (-1074) ≤ l)
    rw [← u_def] at power_
    have error : q / (2 * 10 ^ 16) < u / 2 := by linarith
    have above : 2 ^ l ≤ c := by
      rcases le_or_gt q c with le | below
      · linarith
      · have strict : 2 ^ l < q := lt_of_le_of_ne low fun same => boundary ⟨same.symm, below⟩
        rw [power_, multiple, mul_lt_mul_iff_of_pos_right unit_pos] at strict
        have next : (a : ℚ) + 1 ≤ k := by exact_mod_cast (by exact_mod_cast strict : a < k)
        have := mul_le_mul_of_nonneg_right next unit_pos.le
        linarith
    have under : c < 2 ^ (l + 1) := by
      have strict : (k : ℚ) * u < 2 * a * u := by
        rw [← multiple, mul_assoc, ← power_, ← double_]
        exact high
      rw [mul_lt_mul_iff_of_pos_right unit_pos] at strict
      have next : (k : ℚ) + 1 ≤ 2 * a := by exact_mod_cast (by exact_mod_cast strict : k < 2 * a)
      have := mul_le_mul_of_nonneg_right next unit_pos.le
      rw [double_, power_]
      linarith
    have unit_c := unitInLastPlace_eq (power.trans_le above) above under
    rw [← u_def] at unit_c
    exact roundDouble_of_near (by rw [unit_c]; exact multiple) (by rw [unit_c]; linarith)

/-! ## The shortest digits -/

theorem Digits.ofMultiple_value (n : Nat) (exponent : Int) {multiple : Int}
    (nonneg : 0 ≤ multiple) :
    (Digits.ofMultiple n exponent multiple).value = multiple * 10 ^ exponent := by
  rw [Digits.ofMultiple]
  split_ifs with power
  · rw [Digits.value, power, Nat.cast_one, one_mul, zpow_add₀ (by norm_num), zpow_natCast,
      mul_comm]
    push_cast
    rfl
  · have whole : ((multiple.toNat : Nat) : ℚ) = multiple := by
      exact_mod_cast Int.toNat_of_nonneg nonneg
    rw [Digits.value, whole]

section
variable {q : ℚ} {d : Digits}

theorem roundDouble_shortestDigits (found : shortestDigits q = some d) :
    roundDouble d.value = q := by
  simpa using List.find?_some found

theorem exists_ofMultiple (found : shortestDigits q = some d) :
    ∃ n < 17, ∃ multiple, d =
      Digits.ofMultiple (n + 1) (Int.log 10 q + 1 - (n + 1 : Nat)) multiple := by
  obtain ⟨n, member, among⟩ := List.mem_flatMap.mp (List.mem_of_find?_eq_some found)
  refine ⟨n, List.mem_range.mp member, ?_⟩
  simp only [decimalsAround, List.mem_cons, List.not_mem_nil, or_false] at among
  obtain rfl | rfl := among
  · exact ⟨_, rfl⟩
  · exact ⟨_, rfl⟩

theorem count_le (found : shortestDigits q = some d) : d.count ≤ 17 := by
  obtain ⟨n, small, multiple, rfl⟩ := exists_ofMultiple found
  rw [Digits.ofMultiple]
  split_ifs
  · exact Nat.le_of_ble_eq_true rfl
  · exact small

/-- The point stands behind the first digit of the value, or one place further where the
digits are a power of ten above it. -/
theorem point_eq (found : shortestDigits q = some d) : d.point = Int.log 10 q + 1 ∨
    d.point = Int.log 10 q + 2 ∧ d.value = 10 ^ (Int.log 10 q + 1) := by
  obtain ⟨n, small, multiple, rfl⟩ := exists_ofMultiple found
  rw [Digits.ofMultiple]
  split_ifs
  · refine .inr ⟨?_, ?_⟩
    · rw [Digits.point]
      push_cast
      ring
    · rw [Digits.value, sub_add_cancel, Nat.cast_one, one_mul]
  · refine .inl ?_
    rw [Digits.point]
    push_cast
    ring

/-- A float has its digits: seventeen are enough. -/
theorem exists_shortestDigits (nonneg : 0 ≤ q) (double : roundDouble q = q) :
    ∃ d, shortestDigits q = some d := by
  have ten : (1 : Nat) < 10 := by decide
  have scale : (0 : ℚ) < 10 ^ (Int.log 10 q - 16) := zpow_pos (by norm_num) _
  set near := roundHalfEven (q / 10 ^ (Int.log 10 q - 16))
  have near_nonneg : 0 ≤ near := by
    have floor := Int.floor_nonneg.mpr (div_nonneg nonneg scale.le)
    exact floor.trans (floor_le_roundHalfEven _)
  have member : Digits.ofMultiple 17 (Int.log 10 q - 16) near ∈
      (List.range 17).flatMap (fun n => decimalsAround q (n + 1)) := by
    refine List.mem_flatMap.mpr ⟨16, by decide, ?_⟩
    have exponent : Int.log 10 q + 1 - (16 + 1 : Nat) = Int.log 10 q - 16 := by
      push_cast
      ring
    rw [decimalsAround, exponent]
    exact List.mem_cons_self
  have read : roundDouble (Digits.ofMultiple 17 (Int.log 10 q - 16) near).value = q := by
    rw [Digits.ofMultiple_value 17 _ near_nonneg]
    obtain zero | positive := nonneg.eq_or_lt
    · have none : near = 0 := by
        simp only [near, ← zero, zero_div]
        exact roundHalfEven_intCast 0
      rw [none, Int.cast_zero, zero_mul, ← zero]
      rw [← zero] at double
      exact double
    · refine roundDouble_of_close positive double ?_
      have low : (10 : ℚ) ^ Int.log 10 q ≤ q := by
        exact_mod_cast Int.zpow_log_le_self ten positive
      have scale_eq : (10 : ℚ) ^ (Int.log 10 q - 16) = 10 ^ Int.log 10 q / 10 ^ 16 := by
        rw [zpow_sub₀ (by norm_num)]
        norm_num
      have both := roundHalfEven_near (q / 10 ^ (Int.log 10 q - 16))
      have error : |(near : ℚ) - q / 10 ^ (Int.log 10 q - 16)| ≤ 1 / 2 := by
        rw [abs_le]
        exact ⟨by linarith [both.1], by linarith [both.2]⟩
      have same : near * 10 ^ (Int.log 10 q - 16) - q =
          (near - q / 10 ^ (Int.log 10 q - 16)) * 10 ^ (Int.log 10 q - 16) := by
        field_simp
      rw [same, abs_mul, abs_of_pos scale]
      have scaled := mul_le_mul_of_nonneg_right error scale.le
      linarith
  have some_ : (((List.range 17).flatMap (fun n => decimalsAround q (n + 1))).find?
      (fun d => roundDouble d.value = q)).isSome := by
    rw [List.find?_isSome]
    exact ⟨_, member, by simpa using read⟩
  exact Option.isSome_iff_exists.mp some_

/-- The floats that are printed with a positive exponent. -/
theorem point_gt_iff (nonneg : 0 ≤ q) (found : shortestDigits q = some d) :
    16 < d.point ↔ 10 ^ 16 ≤ q := by
  have ten : (1 : Nat) < 10 := by decide
  obtain zero | positive := nonneg.eq_or_lt
  · have log : Int.log 10 q = 0 := Int.log_of_right_le_zero 10 zero.symm.le
    have low : d.point ≤ 2 := by
      obtain same | ⟨same, -⟩ := point_eq found
      · omega
      · omega
    refine iff_of_false (by omega) ?_
    rw [← zero]
    norm_num
  · have large : (10 : ℚ) ^ 16 ≤ q ↔ 16 ≤ Int.log 10 q := by
      rw [← Int.zpow_le_iff_le_log ten positive]
      norm_num
    constructor
    · intro far
      obtain same | ⟨same, power⟩ := point_eq found
      · exact large.mpr (by omega)
      · -- the power of ten above the value is a float
        obtain more | less := lt_or_ge 15 (Int.log 10 q)
        · exact large.mpr (by omega)
        · have log : Int.log 10 q = 15 := by omega
          have read := roundDouble_shortestDigits found
          rw [power, log] at read
          have exact_ : roundDouble (10 ^ (15 + 1 : Int)) = 10 ^ 16 := by decide +kernel
          rw [← read, exact_]
    · intro more
      have log := large.mp more
      obtain same | ⟨same, -⟩ := point_eq found
      · omega
      · omega

/-- What is printed with a positive exponent has no digits behind the point. -/
theorem exponent_nonneg (found : shortestDigits q = some d) (far : 16 < d.point) :
    0 ≤ d.exponent := by
  have count := count_le found
  rw [Digits.point] at far
  omega

end

end IncidentTriage.Python
