import Mathlib.Algebra.BigOperators.Ring.List
import Mathlib.Algebra.Order.BigOperators.Group.List
import Mathlib.Data.List.Sort
import Mathlib.Data.Prod.Lex
import ErpServer.Lib.Grid

/-!
# Largest-remainder apportionment

A total is split across weights by cutting each exact share down to the grid and
handing what the cuts left, one unit at a time, to the parts that were cut
hardest.  The parts sum to the total exactly, and a total no larger than the
weights gives no part more than its weight.
-/

namespace Lib.Apportion

open Lib.Grid

/-! ## Handing out units -/

section HandOut

variable {K : Type*} [Field K]

/-- One unit to each of the indices. -/
private def bump (unit : K) (shares : List K) (indices : List ℕ) : List K :=
  indices.foldl (fun shares index => shares.modify index (· + unit)) shares

variable {shares : List K}

private theorem sum_modify (unit : K) {index : ℕ} (inBounds : index < shares.length) :
    (shares.modify index (· + unit)).sum = shares.sum + unit := by
  induction shares generalizing index with
  | nil => simp at inBounds
  | cons share rest ih =>
      cases index with
      | zero => simp; ring
      | succ index =>
          rw [List.modify_succ_cons, List.sum_cons, List.sum_cons, add_assoc,
            ih (by simpa using inBounds)]

variable {indices : List ℕ} {unit : K}

private theorem bump_sum (unit : K) (inBounds : ∀ index ∈ indices, index < shares.length) :
    (bump unit shares indices).sum = shares.sum + indices.length * unit := by
  induction indices generalizing shares with
  | nil => simp [bump]
  | cons index rest ih =>
      simp only [List.forall_mem_cons] at inBounds
      have later := @ih (shares.modify index (· + unit)) (by simpa using inBounds.2)
      rw [sum_modify unit inBounds.1] at later
      simp only [bump, List.foldl_cons, List.length_cons] at later ⊢
      rw [later]
      push_cast
      ring

private theorem bump_getElem? (unit : K) (nodup : indices.Nodup) (query : ℕ) :
    (bump unit shares indices)[query]? =
      shares[query]?.map fun share => if query ∈ indices then share + unit else share := by
  induction indices generalizing shares with
  | nil => simp [bump]
  | cons index rest ih =>
      simp only [List.nodup_cons] at nodup
      have later := @ih (shares.modify index (· + unit)) nodup.2
      simp only [bump, List.foldl_cons] at later ⊢
      rw [later, List.getElem?_modify]
      rcases eq_or_ne index query with rfl | different
      · simp [nodup.1, Function.comp_def]
      · simp [different, Ne.symm different]

variable [LinearOrder K]

/-- One unit to each index in turn while something is left. -/
def handOut (unit : K) : K → List ℕ → List K → List K
  | _, [], shares => shares
  | left, index :: rest, shares =>
      if left ≤ 0 then shares
      else handOut unit (left - unit) rest (shares.modify index (· + unit))

@[simp] theorem handOut_length (unit left : K) (order : List ℕ) (shares : List K) :
    (handOut unit left order shares).length = shares.length := by
  induction order generalizing left shares with
  | nil => rfl
  | cons index rest ih =>
      rw [handOut]
      split
      · rfl
      · rw [ih, List.length_modify]

/-- Handing out units keeps the shares on their grid. -/
theorem handOut_mem {left : K} {order : List ℕ} (sharesMem : ∀ share ∈ shares, share ∈ grid unit) :
    ∀ share ∈ handOut unit left order shares, share ∈ grid unit := by
  induction order generalizing left shares with
  | nil => exact sharesMem
  | cons index rest ih =>
      rw [handOut]
      split
      · exact sharesMem
      · apply ih
        intro share member
        obtain ⟨place, found⟩ := List.mem_iff_getElem?.mp member
        rw [List.getElem?_modify] at found
        obtain ⟨old, oldAt, same⟩ := Option.map_eq_some_iff.mp found
        have oldMem := sharesMem old (List.mem_of_getElem? oldAt)
        rw [← same]
        split
        · exact add_mem oldMem unit_mem_grid
        · exact oldMem

variable [IsStrictOrderedRing K]

private theorem handOut_eq_bump (unitPos : 0 < unit) (count : ℕ) (order : List ℕ) (shares : List K) :
    handOut unit (count * unit) order shares = bump unit shares (order.take count) := by
  induction order generalizing count shares with
  | nil => simp [handOut, bump]
  | cons index rest ih =>
      cases count with
      | zero => simp [handOut, bump]
      | succ count =>
          have left : ((count + 1 : ℕ) : K) * unit - unit = count * unit := by push_cast; ring
          have more : ¬ ((count + 1 : ℕ) : K) * unit ≤ 0 := by
            rw [not_le]
            positivity
          rw [handOut, if_neg more, left, ih]
          rfl

end HandOut

/-! ## Which parts are handed a unit -/

section Selection

variable {K : Type*} [Field K] [LinearOrder K] [IsStrictOrderedRing K] {unit : K}

variable {values : List K}

private theorem sum_lt_length_mul (nonempty : values ≠ []) (below : ∀ value ∈ values, value < unit) :
    values.sum < values.length * unit := by
  induction values with
  | nil => exact absurd rfl nonempty
  | cons value rest ih =>
      simp only [List.forall_mem_cons] at below
      simp only [List.sum_cons, List.length_cons, Nat.cast_add, Nat.cast_one, add_mul, one_mul]
      rcases eq_or_ne rest [] with rfl | more
      · simpa using below.1
      · have := ih more below.2
        linarith [below.1]

variable {count : ℕ}

private theorem count_le_length (unitPos : 0 < unit) (below : ∀ value ∈ values, value < unit)
    (sumEq : values.sum = count * unit) : count ≤ values.length := by
  rcases eq_or_ne values [] with rfl | nonempty
  · have zero : (count : K) = 0 := by
      have product : (count : K) * unit = 0 := by simpa using sumEq.symm
      exact (mul_eq_zero.mp product).resolve_right unitPos.ne'
    simpa using zero
  · have bound := sum_lt_length_mul nonempty below
    rw [sumEq] at bound
    exact_mod_cast (lt_of_mul_lt_mul_right bound unitPos.le).le

/-- In descending order, the first parts are positive as far as the units reach:
an earlier zero would leave only zeros behind it, and the parts before it are
each worth less than their unit. -/
private theorem taken_pos (descending : values.Pairwise (· ≥ ·))
    (nonneg : ∀ value ∈ values, 0 ≤ value) (below : ∀ value ∈ values, value < unit)
    (unitPos : 0 < unit) (sumEq : values.sum = count * unit) {value : K}
    (taken : value ∈ values.take count) : 0 < value := by
  refine lt_of_le_of_ne (nonneg value (List.mem_of_mem_take taken)) fun zero => ?_
  rw [← List.take_append_drop count values, List.pairwise_append] at descending
  have restZero : (values.drop count).sum ≤ 0 := by
    have atMost := List.sum_le_card_nsmul (values.drop count) 0 fun later member => by
      rw [zero]
      exact descending.2.2 value taken later member
    simpa using atMost
  have headBelow : (values.take count).sum < (values.take count).length * unit :=
    sum_lt_length_mul (List.ne_nil_of_mem taken)
      fun value member => below value (List.mem_of_mem_take member)
  have headLength : ((values.take count).length : K) * unit ≤ count * unit :=
    mul_le_mul_of_nonneg_right (by exact_mod_cast List.length_take_le _ _) unitPos.le
  have split : (values.take count).sum + (values.drop count).sum = count * unit := by
    rw [← List.sum_append, List.take_append_drop, sumEq]
  linarith

end Selection

/-! ## The apportionment -/

/-- One part as the ranking sees it. -/
structure Part (K : Type*) where
  index : ℕ
  remainder : K
  weight : K

section Apportion

variable {K : Type*} [Field K] [LinearOrder K] [FloorRing K]

/-- Larger remainders first, then larger weights, then the given order. -/
def Part.rank (part : Part K) : K ×ₗ K ×ₗ ℕ :=
  toLex (-part.remainder, toLex (-part.weight, part.index))

/-- The exact shares cut down to the grid. -/
def cutShares (unit total weightTotal : K) (weights : List K) : List K :=
  weights.map fun weight => truncate unit (total * weight / weightTotal)

/-- Each part with what its cut took. -/
def parts (unit total weightTotal : K) (weights : List K) : List (Part K) :=
  weights.mapIdx fun index weight =>
    ⟨index, total * weight / weightTotal - truncate unit (total * weight / weightTotal), weight⟩

/-- The positions in the order they are handed a unit. -/
def handOrder (unit total weightTotal : K) (weights : List K) : List ℕ :=
  ((parts unit total weightTotal weights).insertionSort fun left right =>
    left.rank ≤ right.rank).map Part.index

/-- Cut every share to the grid and hand out what the cuts left. -/
def apportion (unit total weightTotal : K) (weights : List K) : List K :=
  let shares := cutShares unit total weightTotal weights
  handOut unit (total - shares.sum) (handOrder unit total weightTotal weights) shares

variable {unit total weightTotal : K} {weights : List K}

private theorem parts_length : (parts unit total weightTotal weights).length = weights.length := by
  simp [parts]

private theorem parts_index (unit total weightTotal : K) (weights : List K) :
    (parts unit total weightTotal weights).map Part.index = List.range weights.length := by
  refine List.ext_getElem (by simp [parts]) fun index left right => by simp [parts]

variable {part : Part K} {share : K} {index : ℕ}

private theorem part_of_mem (member : part ∈ parts unit total weightTotal weights) :
    weights[part.index]? = some part.weight ∧
      part.remainder = total * part.weight / weightTotal -
        truncate unit (total * part.weight / weightTotal) := by
  simp only [parts, List.mem_mapIdx] at member
  obtain ⟨index, inBounds, rfl⟩ := member
  exact ⟨List.getElem?_eq_getElem inBounds, rfl⟩

private theorem handOrder_perm :
    (handOrder unit total weightTotal weights).Perm (List.range weights.length) := by
  rw [← parts_index unit total weightTotal weights]
  exact (List.perm_insertionSort _ _).map _

variable [IsStrictOrderedRing K]

/-- The remainders in hand-out order go down. -/
private theorem remainders_descending (unit total weightTotal : K) (weights : List K) :
    (((parts unit total weightTotal weights).insertionSort fun left right =>
      left.rank ≤ right.rank).map Part.remainder).Pairwise (· ≥ ·) := by
  have ranked := List.pairwise_insertionSort
    (fun left right : Part K => left.rank ≤ right.rank) (parts unit total weightTotal weights)
  refine List.pairwise_map.mpr (ranked.imp fun {left right} before => ?_)
  have first : -left.remainder ≤ -right.remainder := by
    rcases Prod.Lex.le_iff.mp before with less | same
    · exact less.le
    · exact same.1.le
  exact neg_le_neg_iff.mp first

/-! Everything below splits a non-negative total over non-negative weights that
come to a positive figure. -/

variable (unitPos : 0 < unit) (totalNonneg : 0 ≤ total)
  (weightsNonneg : ∀ weight ∈ weights, 0 ≤ weight) (weightsPos : 0 < weights.sum)

omit [FloorRing K] in
include totalNonneg weightsNonneg weightsPos in
private theorem exact_nonneg {weight : K} (member : weight ∈ weights) :
    0 ≤ total * weight / weights.sum :=
  div_nonneg (mul_nonneg totalNonneg (weightsNonneg weight member)) weightsPos.le

include unitPos totalNonneg weightsNonneg weightsPos

private theorem remainder_bounds (member : part ∈ parts unit total weights.sum weights) :
    0 ≤ part.remainder ∧ part.remainder < unit := by
  obtain ⟨found, equal⟩ := part_of_mem member
  have nonneg := exact_nonneg totalNonneg weightsNonneg weightsPos (List.mem_of_getElem? found)
  have below := truncate_le unitPos nonneg
  have above := lt_truncate_add_unit unitPos nonneg
  rw [equal]
  constructor <;> linarith

omit [IsStrictOrderedRing K] unitPos totalNonneg weightsNonneg in
private theorem exact_sum :
    (weights.map fun weight => total * weight / weights.sum).sum = total := by
  have factored (weight : K) : total * weight / weights.sum = total / weights.sum * weight := by
    ring
  simp only [factored]
  rw [List.sum_map_mul_left weights (fun weight => weight) (total / weights.sum), List.map_id']
  exact div_mul_cancel₀ _ weightsPos.ne'

omit [IsStrictOrderedRing K] unitPos totalNonneg weightsNonneg in
private theorem remainders_sum :
    ((parts unit total weights.sum weights).map Part.remainder).sum =
      total - (cutShares unit total weights.sum weights).sum := by
  have split : (parts unit total weights.sum weights).map Part.remainder =
      weights.map fun weight => total * weight / weights.sum -
        truncate unit (total * weight / weights.sum) := by
    refine List.ext_getElem (by simp [parts]) fun index left right => by simp [parts]
  have apart (values : List K) : (values.map fun weight => total * weight / weights.sum -
      truncate unit (total * weight / weights.sum)).sum =
        (values.map fun weight => total * weight / weights.sum).sum -
          (cutShares unit total weights.sum values).sum := by
    induction values with
    | nil => simp [cutShares]
    | cons value rest ih =>
        simp only [cutShares, List.map_cons, List.sum_cons] at ih ⊢
        rw [ih]
        ring
  rw [split, apart, exact_sum weightsPos]

/-- What the cuts left is a whole number of units, no more of them than parts. -/
private theorem left_units (totalMem : total ∈ grid unit) :
    ∃ count : ℕ, total - (cutShares unit total weights.sum weights).sum = count * unit ∧
      count ≤ weights.length := by
  have sharesMem : (cutShares unit total weights.sum weights).sum ∈ grid unit := by
    refine list_sum_mem fun share member => ?_
    obtain ⟨weight, -, rfl⟩ := List.mem_map.mp member
    exact truncate_mem
  obtain ⟨count, equal⟩ := mem_grid_iff.mp (sub_mem totalMem sharesMem)
  have bounds (part : Part K) (member : part ∈ parts unit total weights.sum weights) :
      0 ≤ part.remainder ∧ part.remainder < unit :=
    remainder_bounds unitPos totalNonneg weightsNonneg weightsPos member
  have nonneg : 0 ≤ (count : K) * unit := by
    rw [← equal, ← remainders_sum weightsPos]
    refine List.sum_nonneg fun remainder member => ?_
    obtain ⟨part, partMem, rfl⟩ := List.mem_map.mp member
    exact (bounds part partMem).1
  obtain ⟨natCount, rfl⟩ : ∃ natCount : ℕ, count = natCount := by
    refine Int.eq_ofNat_of_zero_le ?_
    exact_mod_cast nonneg_of_mul_nonneg_left nonneg unitPos
  refine ⟨natCount, by simpa using equal, ?_⟩
  have below : ∀ remainder ∈ (parts unit total weights.sum weights).map Part.remainder,
      remainder < unit := by
    intro remainder member
    obtain ⟨part, partMem, rfl⟩ := List.mem_map.mp member
    exact (bounds part partMem).2
  have sumEq : ((parts unit total weights.sum weights).map Part.remainder).sum = natCount * unit := by
    rw [remainders_sum weightsPos, equal, Int.cast_natCast]
  have lengths := count_le_length unitPos below sumEq
  simpa [parts_length] using lengths

/-- Every unit is handed out: the parts come to the total. -/
theorem apportion_sum (totalMem : total ∈ grid unit) :
    (apportion unit total weights.sum weights).sum = total := by
  obtain ⟨count, left, atMost⟩ := left_units unitPos totalNonneg weightsNonneg weightsPos totalMem
  have inBounds : ∀ index ∈ (handOrder unit total weights.sum weights).take count,
      index < (cutShares unit total weights.sum weights).length := by
    intro index member
    have ranged := handOrder_perm.subset (List.mem_of_mem_take member)
    simpa [cutShares] using ranged
  have taken : ((handOrder unit total weights.sum weights).take count).length = count := by
    rw [List.length_take, handOrder_perm.length_eq, List.length_range, min_eq_left atMost]
  simp only [apportion]
  rw [left, handOut_eq_bump unitPos, bump_sum unit inBounds, taken, ← left]
  ring

/-- A part is its cut share, or one unit more where the cut took something. -/
theorem apportion_getElem? (totalMem : total ∈ grid unit)
    (found : (apportion unit total weights.sum weights)[index]? = some share) :
    ∃ weight, weights[index]? = some weight ∧
      (share = truncate unit (total * weight / weights.sum) ∨
        share = truncate unit (total * weight / weights.sum) + unit ∧
          truncate unit (total * weight / weights.sum) < total * weight / weights.sum) := by
  obtain ⟨count, left, -⟩ := left_units unitPos totalNonneg weightsNonneg weightsPos totalMem
  have nodup : ((handOrder unit total weights.sum weights).take count).Nodup :=
    (handOrder_perm.nodup_iff.mpr List.nodup_range).sublist (List.take_sublist _ _)
  simp only [apportion] at found
  rw [left, handOut_eq_bump unitPos, bump_getElem? unit nodup, cutShares, List.getElem?_map] at found
  cases atIndex : weights[index]? with
  | none => simp [atIndex] at found
  | some weight =>
      refine ⟨weight, rfl, ?_⟩
      simp only [atIndex, Option.map_some, Option.some.injEq] at found
      split at found
      next handed =>
        right
        refine ⟨found.symm, ?_⟩
        rw [handOrder, ← List.map_take, List.mem_map] at handed
        obtain ⟨part, partMem, rfl⟩ := handed
        have isPart : part ∈ parts unit total weights.sum weights :=
          (List.perm_insertionSort _ _).subset (List.mem_of_mem_take partMem)
        obtain ⟨sameWeight, remainderEq⟩ := part_of_mem isPart
        obtain rfl : part.weight = weight := by simpa [atIndex] using sameWeight.symm
        have bounds (part : Part K) (member : part ∈ parts unit total weights.sum weights) :
            0 ≤ part.remainder ∧ part.remainder < unit :=
          remainder_bounds unitPos totalNonneg weightsNonneg weightsPos member
        have allBounds : ∀ remainder ∈ ((parts unit total weights.sum weights).insertionSort
            fun left right => left.rank ≤ right.rank).map Part.remainder,
            0 ≤ remainder ∧ remainder < unit := by
          intro remainder member
          obtain ⟨other, otherMem, rfl⟩ := List.mem_map.mp member
          exact bounds other ((List.perm_insertionSort _ _).subset otherMem)
        have sumEq : (((parts unit total weights.sum weights).insertionSort
            fun left right => left.rank ≤ right.rank).map Part.remainder).sum = count * unit := by
          rw [← left, ← remainders_sum weightsPos]
          exact ((List.perm_insertionSort _ _).map _).sum_eq
        have positive : 0 < part.remainder := by
          apply taken_pos (remainders_descending unit total weights.sum weights)
            (fun remainder member => (allBounds remainder member).1)
            (fun remainder member => (allBounds remainder member).2) unitPos sumEq
          rw [← List.map_take]
          exact List.mem_map_of_mem partMem
        rw [remainderEq] at positive
        linarith
      next => exact Or.inl found.symm

theorem apportion_mem (totalMem : total ∈ grid unit) :
    ∀ share ∈ apportion unit total weights.sum weights, share ∈ grid unit ∧ 0 ≤ share := by
  intro share member
  obtain ⟨index, found⟩ := List.mem_iff_getElem?.mp member
  obtain ⟨weight, weightFound, cases⟩ :=
    apportion_getElem? unitPos totalNonneg weightsNonneg weightsPos totalMem found
  have nonneg := truncate_nonneg unitPos (exact_nonneg totalNonneg weightsNonneg weightsPos
    (List.mem_of_getElem? weightFound))
  have unitMem : unit ∈ grid unit := unit_mem_grid
  rcases cases with rfl | ⟨rfl, -⟩
  · exact ⟨truncate_mem, nonneg⟩
  · exact ⟨add_mem truncate_mem unitMem, add_nonneg nonneg unitPos.le⟩

/-- Splitting no more than the weights come to gives no part more than its weight. -/
theorem apportion_le (totalMem : total ∈ grid unit) (fits : total ≤ weights.sum)
    (weightsMem : ∀ weight ∈ weights, weight ∈ grid unit)
    (found : (apportion unit total weights.sum weights)[index]? = some share) :
    ∃ weight, weights[index]? = some weight ∧ share ≤ weight := by
  obtain ⟨weight, weightFound, cases⟩ :=
    apportion_getElem? unitPos totalNonneg weightsNonneg weightsPos totalMem found
  have member := List.mem_of_getElem? weightFound
  have exactLe : total * weight / weights.sum ≤ weight := by
    rw [div_le_iff₀ weightsPos, mul_comm]
    exact mul_le_mul_of_nonneg_left fits (weightsNonneg weight member)
  have cutLe := truncate_le unitPos (exact_nonneg totalNonneg weightsNonneg weightsPos member)
  refine ⟨weight, weightFound, ?_⟩
  rcases cases with rfl | ⟨rfl, strict⟩
  · exact cutLe.trans exactLe
  · -- The weight is on the grid above the cut share, so it is a whole unit above it.
    have unitMem : unit ∈ grid unit := unit_mem_grid
    exact le_of_lt_add_unit unitPos (add_mem truncate_mem unitMem) (weightsMem weight member)
      (by linarith)

end Apportion

end Lib.Apportion
