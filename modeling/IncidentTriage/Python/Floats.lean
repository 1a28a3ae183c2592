import IncidentTriage.Python.Json
import Mathlib.Data.Int.Log
import Mathlib.Tactic.Linarith

/-! # Rounding to a float

A float has 53 binary digits: the result of an operation is the exact value rounded to a
multiple of the unit in its last place.
-/

namespace IncidentTriage.Python

/-- The unit in the last place of the floats around a value. -/
def unitInLastPlace (q : ℚ) : ℚ := 2 ^ max (Int.log 2 |q| - 52) (-1074)

/-- The float nearest to a value, the even one of two. -/
def roundDouble (q : ℚ) : ℚ := roundHalfEven (q / unitInLastPlace q) * unitInLastPlace q

/-- `int(x)` of a finite float: towards zero. -/
def truncateFloat (q : ℚ) : Int := if 0 ≤ q then ⌊q⌋ else ⌈q⌉

theorem roundHalfEven_intCast (n : Int) : roundHalfEven (n : ℚ) = n := by
  simp [roundHalfEven]

theorem roundHalfEven_near (q : ℚ) :
    q - 1 / 2 ≤ roundHalfEven q ∧ (roundHalfEven q : ℚ) ≤ q + 1 / 2 := by
  have low := Int.floor_le q
  have high := Int.lt_floor_add_one q
  simp only [roundHalfEven]
  split_ifs with before after even
  · exact ⟨by linarith, by linarith⟩
  · push_cast
    exact ⟨by linarith, by linarith⟩
  · exact ⟨by linarith, by linarith⟩
  · push_cast
    exact ⟨by linarith, by linarith⟩

end IncidentTriage.Python
