/-
GroBro/FloatArithmetic.lean

Float arithmetic over the rationals: an operation is the exact one, rounded.  Of the
rounding only two things are asked that IEEE 754 has in its range.  It keeps the order,
and two different floats have a difference that does not vanish, as underflow is gradual.

`grid` is such an arithmetic, that of the floats of one exponent.
-/
import Mathlib.Algebra.Order.Floor.Ring
import Mathlib.Algebra.Order.Field.Rat
import Mathlib.Data.Rat.Floor
import Mathlib.Tactic.Linarith
import Mathlib.Tactic.Positivity

structure FloatArithmetic where
  IsFloat : ℚ → Prop
  round : ℚ → ℚ
  isFloat_round : ∀ x, IsFloat (round x)
  monotone_round : Monotone round
  round_zero : round 0 = 0
  round_sub_pos : ∀ x y, IsFloat x → IsFloat y → y < x → 0 < round (x - y)

namespace FloatArithmetic

section Compare

variable (floats : FloatArithmetic) {x y : ℚ}

theorem isFloat_max (hx : floats.IsFloat x) (hy : floats.IsFloat y) : floats.IsFloat (max x y) := by
  rcases max_choice x y with hmax | hmax
  · rw [hmax]
    exact hx
  · rw [hmax]
    exact hy

/-- The sign of a rounded difference is that of the exact one. -/
theorem round_sub_pos_iff (hx : floats.IsFloat x) (hy : floats.IsFloat y) :
    0 < floats.round (x - y) ↔ y < x := by
  constructor
  · intro hpos
    by_contra hle
    have hround := floats.monotone_round (sub_nonpos.mpr (not_lt.mp hle))
    rw [floats.round_zero] at hround
    exact absurd hpos (not_lt.mpr hround)
  · exact floats.round_sub_pos x y hx hy

end Compare

/-! ### Floats of one exponent -/

/-- The multiples of `2 ^ -n`, with rounding to the nearest, and up in the middle. -/
def grid (n : ℕ) : FloatArithmetic where
  IsFloat x := ∃ k : ℤ, x = k / 2 ^ n
  round x := ⌊x * 2 ^ n + 1 / 2⌋ / 2 ^ n
  isFloat_round x := ⟨_, rfl⟩
  monotone_round x y hle := by
    have hscaled : x * 2 ^ n + 1 / 2 ≤ y * 2 ^ n + 1 / 2 := by gcongr
    have hfloor : (⌊x * 2 ^ n + 1 / 2⌋ : ℚ) ≤ ⌊y * 2 ^ n + 1 / 2⌋ :=
      Int.cast_le.mpr (Int.floor_mono hscaled)
    exact div_le_div_of_nonneg_right hfloor (by positivity)
  round_zero := by
    have hhalf : ⌊(0 : ℚ) * 2 ^ n + 1 / 2⌋ = 0 := by
      rw [Int.floor_eq_iff]
      constructor <;> norm_num
    rw [hhalf, Int.cast_zero, zero_div]
  round_sub_pos := by
    rintro x y ⟨k, rfl⟩ ⟨l, rfl⟩ hlt
    have hpow : (0 : ℚ) < 2 ^ n := by positivity
    -- on the grid a difference is one of the grid, and is not rounded
    have hexact : ((k : ℚ) / 2 ^ n - l / 2 ^ n) * 2 ^ n = ((k - l : ℤ) : ℚ) := by
      rw [← sub_div, div_mul_cancel₀ _ hpow.ne', Int.cast_sub]
    have hfloor : ⌊((k : ℚ) / 2 ^ n - l / 2 ^ n) * 2 ^ n + 1 / 2⌋ = k - l := by
      rw [hexact, Int.floor_eq_iff]
      constructor <;> linarith
    have hdiff : (0 : ℚ) < ((k - l : ℤ) : ℚ) := by
      rw [← hexact]
      exact mul_pos (sub_pos.mpr hlt) hpow
    show 0 < (⌊((k : ℚ) / 2 ^ n - l / 2 ^ n) * 2 ^ n + 1 / 2⌋ : ℚ) / 2 ^ n
    rw [hfloor]
    exact div_pos hdiff hpow

end FloatArithmetic
