import Mathlib.Data.Rat.Floor
import Mathlib.Tactic.Linarith

/-!
# Rounding to whole numbers

`roundHalfUp` takes the nearer whole number, and the greater of two that are as near.
`roundHalfAway` rounds halves away from zero, and so treats a number and its negative alike.
Both stay between whole bounds.
-/
namespace EventaApi.Library

/-- The nearest whole number, halves up. -/
def roundHalfUp (value : ℚ) : ℤ := ⌊value + 1 / 2⌋

/-- The nearest whole number, halves away from zero. -/
def roundHalfAway (value : ℚ) : ℤ := value.num.sign * roundHalfUp (|value|)

theorem le_roundHalfUp {value : ℚ} {bound : ℤ} (above : (bound : ℚ) ≤ value) :
    bound ≤ roundHalfUp value := by
  unfold roundHalfUp
  rw [Int.le_floor]
  linarith

theorem roundHalfUp_le {value : ℚ} {bound : ℤ} (below : value ≤ bound) :
    roundHalfUp value ≤ bound := by
  have next : ⌊value + 1 / 2⌋ < bound + 1 := by
    rw [Int.floor_lt]
    push_cast
    linarith
  exact Int.lt_add_one_iff.mp next

/-- Rounding keeps order. -/
theorem roundHalfUp_mono {small large : ℚ} (grows : small ≤ large) :
    roundHalfUp small ≤ roundHalfUp large := by
  unfold roundHalfUp
  exact Int.floor_mono (by linarith)

/-- A number and its negative round to whole numbers that are each other's negatives. -/
theorem roundHalfAway_neg (value : ℚ) : roundHalfAway (-value) = -roundHalfAway value := by
  unfold roundHalfAway
  rw [abs_neg, Rat.neg_num, Int.sign_neg, neg_mul]

/-- What lies between a whole number and its negative rounds to what does. -/
theorem abs_roundHalfAway_le {value : ℚ} {bound : ℤ} (within : |value| ≤ bound) :
    |roundHalfAway value| ≤ bound := by
  have least : 0 ≤ roundHalfUp (|value|) := le_roundHalfUp (by exact_mod_cast abs_nonneg value)
  have most : roundHalfUp (|value|) ≤ bound := roundHalfUp_le within
  have sign : |value.num.sign| ≤ 1 := by
    rcases Int.sign_trichotomy value.num with sign | sign | sign <;> rw [sign] <;> decide
  calc |roundHalfAway value| = |value.num.sign| * |roundHalfUp (|value|)| := abs_mul _ _
    _ ≤ 1 * |roundHalfUp (|value|)| := mul_le_mul_of_nonneg_right sign (abs_nonneg _)
    _ = roundHalfUp (|value|) := by rw [one_mul, abs_of_nonneg least]
    _ ≤ bound := most

end EventaApi.Library
