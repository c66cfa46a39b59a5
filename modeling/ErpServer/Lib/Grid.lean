import Mathlib.Algebra.Group.Subgroup.Finite
import Mathlib.Algebra.Group.Subgroup.ZPowers.Basic
import Mathlib.Algebra.Order.Floor.Ring
import Mathlib.Data.Rat.Floor
import Mathlib.Tactic.Linarith
import Mathlib.Tactic.FieldSimp
import Mathlib.Tactic.Ring

/-!
# Rounding onto a grid

A fixed-point figure is a member of the additive subgroup generated by one
`unit`.  This module develops the two roundings of decimal arithmetic, half away
from zero and truncation toward zero, over any ordered field with a floor.  Both
are idempotent on the grid, which is what lets a computation round as often as it
likes once its inputs are exact.
-/

namespace Lib.Grid

section Membership

variable {K : Type*} [Field K]

/-- The multiples of one unit. -/
def grid (unit : K) : AddSubgroup K := AddSubgroup.zmultiples unit

variable {unit value left right : K}

theorem mem_grid_iff : value ∈ grid unit ↔ ∃ count : ℤ, value = count * unit := by
  simp only [grid, AddSubgroup.mem_zmultiples_iff, zsmul_eq_mul]
  exact ⟨fun ⟨count, equal⟩ => ⟨count, equal.symm⟩, fun ⟨count, equal⟩ => ⟨count, equal.symm⟩⟩

theorem intMul_mem (count : ℤ) : (count : K) * unit ∈ grid unit :=
  mem_grid_iff.mpr ⟨count, rfl⟩

theorem unit_mem_grid : unit ∈ grid unit := AddSubgroup.mem_zmultiples unit

theorem min_mem_grid [LinearOrder K] (leftMem : left ∈ grid unit) (rightMem : right ∈ grid unit) :
    min left right ∈ grid unit := by
  rcases min_choice left right with equal | equal <;> rw [equal] <;> assumption

private theorem div_of_mem (unitNonzero : unit ≠ 0) {count : ℤ} (equal : value = count * unit) :
    value / unit = count := by
  rw [equal, mul_div_assoc, div_self unitNonzero, mul_one]

end Membership

section Rounding

variable {K : Type*} [Field K] [LinearOrder K] [FloorRing K]

/-- Round to the nearest multiple of `unit`, a tie going away from zero. -/
def halfUp (unit value : K) : K :=
  if 0 ≤ value then ⌊value / unit + 1 / 2⌋ * unit else -(⌊-value / unit + 1 / 2⌋ * unit)

/-- Round to the multiple of `unit` next to `value` on the side of zero. -/
def truncate (unit value : K) : K :=
  if 0 ≤ value then ⌊value / unit⌋ * unit else -(⌊-value / unit⌋ * unit)

/-- Half way between two multiples of `unit`. -/
def IsTie (unit value : K) : Prop := Int.fract (value / unit) = 1 / 2

instance (unit value : K) : Decidable (IsTie unit value) := inferInstanceAs (Decidable (_ = _))

variable {unit value : K}

theorem halfUp_mem : halfUp unit value ∈ grid unit := by
  unfold halfUp
  split
  · exact intMul_mem _
  · exact neg_mem (intMul_mem _)

theorem truncate_mem : truncate unit value ∈ grid unit := by
  unfold truncate
  split
  · exact intMul_mem _
  · exact neg_mem (intMul_mem _)

theorem halfUp_of_nonneg (nonneg : 0 ≤ value) :
    halfUp unit value = ⌊value / unit + 1 / 2⌋ * unit := if_pos nonneg

theorem truncate_of_nonneg (nonneg : 0 ≤ value) : truncate unit value = ⌊value / unit⌋ * unit :=
  if_pos nonneg

variable [IsStrictOrderedRing K]

theorem halfUp_zero : halfUp unit 0 = 0 := by
  have half : ⌊(1 : K) / 2⌋ = 0 := by
    rw [Int.floor_eq_zero_iff]
    constructor <;> norm_num
  rw [halfUp_of_nonneg le_rfl, zero_div, zero_add, half]
  simp

theorem halfUp_neg : halfUp unit (-value) = -halfUp unit value := by
  rcases lt_trichotomy value 0 with negative | rfl | positive
  · rw [halfUp_of_nonneg (by linarith), halfUp, if_neg (not_le.mpr negative), neg_neg]
  · rw [neg_zero, halfUp_zero, neg_zero]
  · rw [halfUp, if_neg (by linarith), halfUp_of_nonneg positive.le, neg_neg]

section Positive

variable (unitPos : 0 < unit)

include unitPos

/-- A figure already on the grid is left alone. -/
theorem halfUp_of_mem (member : value ∈ grid unit) : halfUp unit value = value := by
  obtain ⟨count, equal⟩ := mem_grid_iff.mp member
  have floorHalf (base : ℤ) : ⌊(base : K) + 1 / 2⌋ = base := by
    rw [Int.floor_eq_iff]
    constructor <;> linarith
  unfold halfUp
  split
  · rw [div_of_mem unitPos.ne' equal, floorHalf, ← equal]
  · have negated : -value = (-count : ℤ) * unit := by rw [equal]; push_cast; ring
    rw [div_of_mem unitPos.ne' negated, floorHalf, ← negated, neg_neg]

theorem halfUp_nonneg (nonneg : 0 ≤ value) : 0 ≤ halfUp unit value := by
  rw [halfUp_of_nonneg nonneg]
  have quotient : 0 ≤ value / unit := div_nonneg nonneg unitPos.le
  have floorNonneg : 0 ≤ ⌊value / unit + 1 / 2⌋ := Int.floor_nonneg.mpr (by linarith)
  exact mul_nonneg (by exact_mod_cast floorNonneg) unitPos.le

/-- Rounding keeps the order of figures that are not below zero. -/
theorem halfUp_mono {lower upper : K} (nonneg : 0 ≤ lower) (le : lower ≤ upper) :
    halfUp unit lower ≤ halfUp unit upper := by
  rw [halfUp_of_nonneg nonneg, halfUp_of_nonneg (nonneg.trans le)]
  apply mul_le_mul_of_nonneg_right _ unitPos.le
  have quotient : lower / unit ≤ upper / unit := div_le_div_of_nonneg_right le unitPos.le
  exact_mod_cast Int.floor_le_floor (by linarith)

/-- Rounding never passes a figure on the grid. -/
theorem halfUp_le_of_mem {upper : K} (nonneg : 0 ≤ value) (le : value ≤ upper)
    (member : upper ∈ grid unit) : halfUp unit value ≤ upper :=
  (halfUp_mono unitPos nonneg le).trans (halfUp_of_mem unitPos member).le

/-- Rounding moves a figure by half a unit at most. -/
theorem abs_halfUp_sub_le : |halfUp unit value - value| ≤ unit / 2 := by
  have near (figure : K) (nonneg : 0 ≤ figure) : |halfUp unit figure - figure| ≤ unit / 2 := by
    have whole : figure / unit * unit = figure := div_mul_cancel₀ figure unitPos.ne'
    have below := mul_le_mul_of_nonneg_right (Int.floor_le (figure / unit + 1 / 2)) unitPos.le
    have above :=
      mul_le_mul_of_nonneg_right (Int.lt_floor_add_one (figure / unit + 1 / 2)).le unitPos.le
    rw [halfUp_of_nonneg nonneg, abs_le]
    constructor <;> linarith
  rcases le_total 0 value with nonneg | nonpos
  · exact near value nonneg
  · have mirrored := near (-value) (neg_nonneg.mpr nonpos)
    rwa [halfUp_neg, ← neg_sub', abs_neg] at mirrored

/-- Rounded one by one, figures keep their total up to half a unit each. -/
theorem abs_sum_halfUp_sub_le (values : List K) :
    |(values.map (halfUp unit)).sum - values.sum| ≤ values.length * (unit / 2) := by
  induction values with
  | nil => simp
  | cons first rest ih =>
      have moved : |halfUp unit first - first| ≤ unit / 2 := abs_halfUp_sub_le unitPos
      rw [List.map_cons, List.sum_cons, List.sum_cons, List.length_cons]
      push_cast
      calc |halfUp unit first + (rest.map (halfUp unit)).sum - (first + rest.sum)|
          = |halfUp unit first - first + ((rest.map (halfUp unit)).sum - rest.sum)| := by
            rw [add_sub_add_comm]
        _ ≤ |halfUp unit first - first| + |(rest.map (halfUp unit)).sum - rest.sum| :=
            abs_add_le _ _
        _ ≤ unit / 2 + rest.length * (unit / 2) := add_le_add moved ih
        _ = (rest.length + 1) * (unit / 2) := by ring

/-- A figure rounds to nothing exactly when it is less than half a unit. -/
theorem halfUp_eq_zero_iff : halfUp unit value = 0 ↔ |value| < unit / 2 := by
  have near (figure : K) (nonneg : 0 ≤ figure) : halfUp unit figure = 0 ↔ figure < unit / 2 := by
    have floored : ⌊figure / unit + 1 / 2⌋ = 0 ↔ figure < unit / 2 := by
      have quotient : 0 ≤ figure / unit := div_nonneg nonneg unitPos.le
      rw [Int.floor_eq_zero_iff]
      constructor
      · intro inside
        have below : figure / unit < 1 / 2 := by linarith [inside.2]
        rw [div_lt_iff₀ unitPos] at below
        linarith
      · intro below
        have smaller : figure / unit < 1 / 2 := by
          rw [div_lt_iff₀ unitPos]
          linarith
        constructor <;> linarith
    rw [halfUp_of_nonneg nonneg, mul_eq_zero, or_iff_left unitPos.ne', Int.cast_eq_zero, floored]
  rcases le_total 0 value with nonneg | nonpos
  · rw [abs_of_nonneg nonneg]
    exact near value nonneg
  · rw [abs_of_nonpos nonpos, ← near (-value) (neg_nonneg.mpr nonpos), halfUp_neg, neg_eq_zero]

/-- The part of a unit a figure carries beyond the units it holds in full. -/
private theorem halfUp_sub_self (nonneg : 0 ≤ value) :
    halfUp unit value - value =
      ((if 1 / 2 ≤ Int.fract (value / unit) then 1 else 0) - Int.fract (value / unit)) * unit := by
  have held : ⌊value / unit⌋ * unit + Int.fract (value / unit) * unit = value := by
    rw [← add_mul, Int.floor_add_fract, div_mul_cancel₀ value unitPos.ne']
  have parts : (⌊value / unit⌋ : K) + Int.fract (value / unit) = value / unit :=
    Int.floor_add_fract _
  have below := Int.fract_lt_one (value / unit)
  have above := Int.fract_nonneg (value / unit)
  have floored : ⌊value / unit + 1 / 2⌋ =
      ⌊value / unit⌋ + if 1 / 2 ≤ Int.fract (value / unit) then 1 else 0 := by
    rw [Int.floor_eq_iff]
    split <;> push_cast <;> constructor <;> linarith
  rw [halfUp_of_nonneg nonneg, floored]
  split <;> push_cast <;> linarith

/-- Rounded one by one, figures come to no more than their total exactly when those that
round up are no more than the parts of a unit they carry between them. -/
theorem sum_halfUp_le_iff (values : List K) (nonneg : ∀ figure ∈ values, 0 ≤ figure) :
    (values.map (halfUp unit)).sum ≤ values.sum ↔
      ((values.countP fun figure => 1 / 2 ≤ Int.fract (figure / unit) : ℕ) : K) ≤
        (values.map fun figure => Int.fract (figure / unit)).sum := by
  have moved : (values.map (halfUp unit)).sum - values.sum =
      (((values.countP fun figure => 1 / 2 ≤ Int.fract (figure / unit) : ℕ) : K) -
        (values.map fun figure => Int.fract (figure / unit)).sum) * unit := by
    induction values with
    | nil => simp
    | cons first rest ih =>
        have later := ih fun figure member => nonneg figure (List.mem_cons_of_mem _ member)
        have here := halfUp_sub_self unitPos (nonneg first List.mem_cons_self)
        rw [List.map_cons, List.sum_cons, List.sum_cons, List.map_cons, List.sum_cons,
          List.countP_cons, add_sub_add_comm, here, later]
        simp only [decide_eq_true_eq]
        split <;> push_cast <;> ring
  rw [← sub_nonpos, moved]
  constructor
  · intro nonpos
    by_contra more
    have positive := mul_pos (sub_pos.mpr (not_le.mp more)) unitPos
    exact absurd nonpos (not_le.mpr positive)
  · intro fewer
    exact mul_nonpos_of_nonpos_of_nonneg (sub_nonpos.mpr fewer) unitPos.le

theorem truncate_of_mem (member : value ∈ grid unit) : truncate unit value = value := by
  obtain ⟨count, equal⟩ := mem_grid_iff.mp member
  unfold truncate
  split
  · rw [div_of_mem unitPos.ne' equal, Int.floor_intCast, ← equal]
  · have negated : -value = (-count : ℤ) * unit := by rw [equal]; push_cast; ring
    rw [div_of_mem unitPos.ne' negated, Int.floor_intCast, ← negated, neg_neg]

theorem truncate_nonneg (nonneg : 0 ≤ value) : 0 ≤ truncate unit value := by
  rw [truncate_of_nonneg nonneg]
  have floorNonneg : 0 ≤ ⌊value / unit⌋ := Int.floor_nonneg.mpr (div_nonneg nonneg unitPos.le)
  exact mul_nonneg (by exact_mod_cast floorNonneg) unitPos.le

theorem truncate_le (nonneg : 0 ≤ value) : truncate unit value ≤ value := by
  rw [truncate_of_nonneg nonneg, ← le_div_iff₀ unitPos]
  exact Int.floor_le _

theorem lt_truncate_add_unit (nonneg : 0 ≤ value) : value < truncate unit value + unit := by
  have below : value / unit < ⌊value / unit⌋ + 1 := Int.lt_floor_add_one _
  rw [truncate_of_nonneg nonneg]
  rw [div_lt_iff₀ unitPos] at below
  linarith

/-- Two grid figures less than one unit apart in order are in order. -/
theorem le_of_lt_add_unit {left right : K} (leftMem : left ∈ grid unit)
    (rightMem : right ∈ grid unit) (near : left < right + unit) : left ≤ right := by
  obtain ⟨leftCount, rfl⟩ := mem_grid_iff.mp leftMem
  obtain ⟨rightCount, rfl⟩ := mem_grid_iff.mp rightMem
  have counts : (leftCount : K) < rightCount + 1 := by
    have factored : (leftCount : K) * unit < (rightCount + 1) * unit := by linarith
    exact lt_of_mul_lt_mul_right factored unitPos.le
  have ordered : leftCount ≤ rightCount := by
    have integral : leftCount < rightCount + 1 := by exact_mod_cast counts
    omega
  exact mul_le_mul_of_nonneg_right (by exact_mod_cast ordered) unitPos.le

end Positive

end Rounding

end Lib.Grid
