import Mathlib.Algebra.Order.Field.Basic
import Mathlib.Data.Rat.Floor
import Mathlib.Tactic.FieldSimp
import Mathlib.Tactic.Positivity

/-!
# Decimals of a fixed scale

Rounding to a number of digits after the point, halves away from zero, and the numbers
that such a rounding leaves alone.
-/

namespace SupplyChainTracker.Decimal

/-- The nearest integer, halves away from zero. -/
def roundAway (x : ℚ) : ℤ := if 0 ≤ x then ⌊x + 1 / 2⌋ else ⌈x - 1 / 2⌉

/-- The nearest number with so many digits after the point. -/
def round (scale : ℕ) (x : ℚ) : ℚ := roundAway (x * 10 ^ scale) / 10 ^ scale

/-- The number has no more digits after the point. -/
def Exact (scale : ℕ) (x : ℚ) : Prop := ∃ n : ℤ, x = n / 10 ^ scale

theorem roundAway_intCast (n : ℤ) : roundAway n = n := by
  unfold roundAway
  split_ifs
  · rw [Int.floor_eq_iff]
    constructor <;> linarith
  · rw [Int.ceil_eq_iff]
    constructor <;> linarith

theorem roundAway_nonneg {x : ℚ} (h : 0 ≤ x) : 0 ≤ roundAway x := by
  rw [roundAway, if_pos h]
  exact Int.floor_nonneg.mpr (by linarith)

/-- Rounding moves a number by half a unit at most. -/
theorem abs_roundAway_sub_le (x : ℚ) : |(roundAway x : ℚ) - x| ≤ 1 / 2 := by
  rw [abs_le, roundAway]
  split_ifs
  · have hle := Int.floor_le (x + 1 / 2)
    have hlt := Int.lt_floor_add_one (x + 1 / 2)
    constructor <;> linarith
  · have hle := Int.le_ceil (x - 1 / 2)
    have hlt := Int.ceil_lt_add_one (x - 1 / 2)
    constructor <;> linarith

variable {scale : ℕ} {x : ℚ}

/-- Rounding moves a number by half a unit of the last digit at most. -/
theorem abs_round_sub_le (scale : ℕ) (x : ℚ) : |round scale x - x| ≤ 1 / 2 / 10 ^ scale := by
  have hpos : (0 : ℚ) < 10 ^ scale := by positivity
  have hdiff : round scale x - x = (roundAway (x * 10 ^ scale) - x * 10 ^ scale) / 10 ^ scale := by
    rw [round, sub_div, mul_div_cancel_right₀ x hpos.ne']
  rw [hdiff, abs_div, abs_of_pos hpos]
  exact div_le_div_of_nonneg_right (abs_roundAway_sub_le _) hpos.le

/-- A rounded number is exact. -/
theorem exact_round (scale : ℕ) (x : ℚ) : Exact scale (round scale x) := ⟨_, rfl⟩

theorem round_nonneg (h : 0 ≤ x) : 0 ≤ round scale x := by
  have hscaled : 0 ≤ x * 10 ^ scale := by positivity
  have hrounded : (0 : ℚ) ≤ roundAway (x * 10 ^ scale) := by
    exact_mod_cast roundAway_nonneg hscaled
  unfold round
  positivity

/-- Rounding leaves exactly the exact numbers alone. -/
theorem round_eq_self_iff : round scale x = x ↔ Exact scale x := by
  constructor
  · intro h
    rw [← h]
    exact exact_round scale x
  · rintro ⟨n, rfl⟩
    have hscaled : (n / 10 ^ scale : ℚ) * 10 ^ scale = n := by field_simp
    rw [round, hscaled, roundAway_intCast]

example : round 2 (1 / 200) = 1 / 100 ∧ round 2 (-1 / 200) = -1 / 100 := by decide +kernel

end SupplyChainTracker.Decimal
