import Mathlib.Data.Int.Log
import Mathlib.Data.Rat.Floor

/-!
# SkyfireBG.Lib.Float

Rational numbers rounded to single and double precision, to the nearest and at ties to the even one.
The exponent is not bounded here.
-/

namespace SkyfireBG

def roundEven (q : ℚ) : ℤ :=
  let d := q - ⌊q⌋
  if d < 1 / 2 then ⌊q⌋ else if 1 / 2 < d then ⌊q⌋ + 1 else ⌊q⌋ + ⌊q⌋ % 2

/-- `q` with `digits` binary digits behind the leading one. -/
def roundTo (digits : Nat) (q : ℚ) : ℚ :=
  if q = 0 then 0
  else roundEven (q / 2 ^ (Int.log 2 |q| - digits)) * 2 ^ (Int.log 2 |q| - digits)

def roundSingle (q : ℚ) : ℚ := roundTo 23 q

def roundDouble (q : ℚ) : ℚ := roundTo 52 q

variable {digits : Nat} {q : ℚ}

theorem roundTo_zero : roundTo digits 0 = 0 := if_pos rfl

@[simp] theorem roundSingle_zero : roundSingle 0 = 0 := roundTo_zero

@[simp] theorem roundDouble_zero : roundDouble 0 = 0 := roundTo_zero

theorem le_roundEven {n : ℤ} (h : n ≤ q) : n ≤ roundEven q := by
  have hfloor : n ≤ ⌊q⌋ := Int.le_floor.mpr h
  unfold roundEven
  dsimp only
  split_ifs <;> omega

/-- Rounding does not go below the leading digit. -/
theorem le_roundTo (h : 0 < q) : 2 ^ Int.log 2 q ≤ roundTo digits q := by
  have hscale : (0 : ℚ) < 2 ^ (Int.log 2 q - digits) := zpow_pos two_pos _
  have hsplit : (2 : ℚ) ^ Int.log 2 q = ((2 ^ digits : ℤ) : ℚ) * 2 ^ (Int.log 2 q - digits) := by
    rw [Int.cast_pow, Int.cast_ofNat, ← zpow_natCast, ← zpow_add₀ two_ne_zero, add_sub_cancel]
  have hdigits : ((2 ^ digits : ℤ) : ℚ) ≤ q / 2 ^ (Int.log 2 q - digits) := by
    rw [le_div_iff₀ hscale, ← hsplit]
    exact Int.zpow_log_le_self Nat.one_lt_two h
  rw [roundTo, if_neg h.ne', abs_of_pos h, hsplit]
  exact mul_le_mul_of_nonneg_right (Int.cast_le.mpr (le_roundEven hdigits)) hscale.le

theorem roundSingle_pos (h : 0 < q) : 0 < roundSingle q :=
  (zpow_pos two_pos _).trans_le (le_roundTo h)

theorem one_le_roundSingle (h : 1 ≤ q) : 1 ≤ roundSingle q := by
  have hpos : 0 < q := zero_lt_one.trans_le h
  refine le_trans (one_le_zpow₀ one_le_two ?_) (le_roundTo hpos)
  rw [← Int.zpow_le_iff_le_log Nat.one_lt_two hpos, zpow_zero]
  exact h

end SkyfireBG
