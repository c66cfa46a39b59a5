import Mathlib.Data.Int.Log
import Mathlib.Data.Rat.Floor

/-!
# Doubles

Arithmetic on the numbers of 53 significant bits, as rationals: every operation is exact and
then goes to the nearest such number, the even one of two.  Overflow, underflow, and the sign
of a zero are left out.
-/

namespace Lib.Binary64

/-- What the last of 53 bits counts in a figure. -/
def lastPlace (value : ℚ) : ℚ := 2 ^ (Int.log 2 |value| - 52)

/-- The nearest whole number, the even one of two. -/
def nearestEven (value : ℚ) : ℤ :=
  if Int.fract value = 1 / 2 then 2 * ((⌊value⌋ + 1) / 2) else ⌊value + 1 / 2⌋

/-- The double next to a figure. -/
def nearest (value : ℚ) : ℚ := nearestEven (value / lastPlace value) * lastPlace value

def add (left right : ℚ) : ℚ := nearest (left + right)

def mul (left right : ℚ) : ℚ := nearest (left * right)

def div (left right : ℚ) : ℚ := nearest (left / right)

/-- `Math.round`: the nearest whole number, the upper one of two. -/
def mathRound (value : ℚ) : ℤ := ⌊value + 1 / 2⌋

/-- `Number.EPSILON` -/
def epsilon : ℚ := 1 / 2 ^ 52

/-- A tenth is no double, so a multiplication by it is not a division by ten. -/
example : nearest (1 / 10) = 3602879701896397 / 2 ^ 55 ∧
    mul (87 / 4) (nearest (1 / 10)) ≠ div (mul (87 / 4) 10) 100 := by
  decide +kernel

end Lib.Binary64
