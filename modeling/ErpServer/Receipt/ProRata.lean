import ErpServer.Receipt.Conservation

/-!
# The pro-rata split is within its weights

Every part is its exact share cut to the paisa, or one paisa more where the cut took
something.  So a deduction spread over the bills never asks a bill for more than it has left.
-/

namespace ErpServer.Receipt

open Lib

/-! ## The split -/

/-- An exact and bounded apportionment of a total. -/
structure ProRata (total : Decimal) (weights shares : List Decimal) : Prop where
  length : shares.length = weights.length
  figures : ∀ share ∈ shares, Figure share
  sum : shares.sum = total
  unweighted : ∀ (index : ℕ) (share : Decimal), shares[index]? = some share →
    weights[index]? = some 0 → share = 0
  near : ∀ (index : ℕ) (share weight : Decimal), shares[index]? = some share →
    weights[index]? = some weight → |share - total * weight / weights.sum| < paisa
  within : total ≤ weights.sum → ∀ (index : ℕ) (share weight : Decimal),
    shares[index]? = some share → weights[index]? = some weight → share ≤ weight

section Split

variable {total : Decimal} {weights : List Decimal}

/-- Nothing is split into nothing. -/
theorem distributeProRata_nothing (weights : List Decimal) :
    distributeProRata 0 weights = weights.map fun _ => 0 := by
  simp [distributeProRata]

/-- Something to split over something is apportioned. -/
theorem distributeProRata_eq (totalMem : total ∈ paise) (someTotal : total ≠ 0)
    (weightsMem : ∀ weight ∈ weights, weight ∈ paise) (weighted : 0 < weights.sum) :
    distributeProRata total weights = Apportion.apportion paisa total weights.sum weights := by
  have nonempty : weights.length ≠ 0 := by
    intro none
    rw [List.length_eq_zero_iff.mp none] at weighted
    exact lt_irrefl _ weighted
  have sharesMem : ∀ share ∈ Apportion.cutShares paisa total weights.sum weights,
      share ∈ paise := by
    intro share member
    obtain ⟨weight, -, rfl⟩ := List.mem_map.mp member
    exact Grid.truncate_mem
  simp only [distributeProRata, money_of_mem totalMem, sum_of_mem weightsMem]
  rw [if_neg (not_or.mpr ⟨nonempty, not_or.mpr ⟨someTotal, weighted.ne'⟩⟩),
    sum_of_mem sharesMem]
  rfl

theorem distributeProRata_proRata (totalMem : total ∈ paise) (totalNonneg : 0 ≤ total)
    (weights_figures : ∀ weight ∈ weights, Figure weight) (weighted : 0 < weights.sum) :
    ProRata total weights (distributeProRata total weights) := by
  have weightsMem : ∀ weight ∈ weights, weight ∈ paise := fun weight member =>
    (weights_figures weight member).exact
  have weightsNonneg : ∀ weight ∈ weights, 0 ≤ weight := fun weight member =>
    (weights_figures weight member).nonneg
  by_cases nothing : total = 0
  · rw [nothing, distributeProRata_nothing]
    constructor
    · rw [List.length_map]
    · intro share member
      obtain ⟨_, _, rfl⟩ := List.mem_map.mp member
      exact ⟨zero_mem _, le_rfl⟩
    · simp
    · intro index share found zero
      rw [List.getElem?_map, zero] at found
      exact (Option.some.inj found).symm
    · intro index share weight found weightAt
      rw [List.getElem?_map, weightAt] at found
      rw [← Option.some.inj found, zero_mul, zero_div, sub_zero, abs_zero]
      exact paisa_pos
    · intro _ index share weight found weightAt
      rw [List.getElem?_map, weightAt] at found
      rw [← Option.some.inj found]
      exact weightsNonneg weight (List.mem_of_getElem? weightAt)
  · have apportioned := distributeProRata_eq totalMem nothing weightsMem weighted
    have part {index : ℕ} {share weight : Decimal}
        (found : (distributeProRata total weights)[index]? = some share)
        (weightAt : weights[index]? = some weight) :
        share = Grid.truncate paisa (total * weight / weights.sum) ∨
          share = Grid.truncate paisa (total * weight / weights.sum) + paisa ∧
            Grid.truncate paisa (total * weight / weights.sum) < total * weight / weights.sum := by
      rw [apportioned] at found
      obtain ⟨other, otherAt, cut⟩ := Apportion.apportion_getElem? paisa_pos totalNonneg
        weightsNonneg weighted totalMem found
      rw [weightAt] at otherAt
      rw [Option.some.inj otherAt]
      exact cut
    constructor
    · exact distributeProRata_length total weights
    · rw [apportioned]
      intro share member
      have figure := Apportion.apportion_mem paisa_pos totalNonneg weightsNonneg weighted totalMem
        share member
      exact ⟨figure.1, figure.2⟩
    · rw [apportioned]
      exact Apportion.apportion_sum paisa_pos totalNonneg weightsNonneg weighted totalMem
    · intro index share found zero
      have cut := part found zero
      rw [mul_zero, zero_div, Grid.truncate_of_mem paisa_pos (zero_mem _)] at cut
      cases cut with
      | inl none => exact none
      | inr more => exact absurd more.2 (lt_irrefl _)
    · intro index share weight found weightAt
      have exactNonneg : 0 ≤ total * weight / weights.sum := div_nonneg
        (mul_nonneg totalNonneg (weightsNonneg weight (List.mem_of_getElem? weightAt)))
        weighted.le
      have below := Grid.truncate_le paisa_pos exactNonneg
      have above := Grid.lt_truncate_add_unit paisa_pos exactNonneg
      rw [abs_lt]
      cases part found weightAt with
      | inl cut =>
          rw [cut]
          constructor
          · linarith
          · linarith [paisa_pos]
      | inr more =>
          rw [more.1]
          constructor
          · linarith [paisa_pos, more.2]
          · linarith [more.2]
    · intro fits index share weight found weightAt
      rw [apportioned] at found
      obtain ⟨other, otherAt, le⟩ := Apportion.apportion_le paisa_pos totalNonneg weightsNonneg
        weighted totalMem fits weightsMem found
      rw [weightAt] at otherAt
      rw [Option.some.inj otherAt]
      exact le

/-- Of a negative total no part is more than nothing: the cut is towards zero, and nothing is
handed out. -/
theorem distributeProRata_nonpos (totalMem : total ∈ paise) (negative : total < 0)
    (weights_figures : ∀ weight ∈ weights, Figure weight) :
    ∀ share ∈ distributeProRata total weights, share ≤ 0 := by
  have weightsMem : ∀ weight ∈ weights, weight ∈ paise := fun weight member =>
    (weights_figures weight member).exact
  have weightsSum : 0 ≤ weights.sum :=
    List.sum_nonneg fun weight member => (weights_figures weight member).nonneg
  by_cases none : weights.sum = 0
  · have nothing : distributeProRata total weights = weights.map fun _ => 0 := by
      simp [distributeProRata, sum_of_mem weightsMem, none]
    rw [nothing]
    intro share member
    obtain ⟨_, _, rfl⟩ := List.mem_map.mp member
    exact le_rfl
  · have weighted : 0 < weights.sum := weightsSum.lt_of_ne (Ne.symm none)
    have cut (weight : Decimal) (member : weight ∈ weights) :
        total * weight / weights.sum ≤
            Grid.truncate paisa (total * weight / weights.sum) ∧
          Grid.truncate paisa (total * weight / weights.sum) ≤ 0 := by
      have nonneg : 0 ≤ -(total * weight / weights.sum) := by
        rw [← neg_div, ← neg_mul]
        exact div_nonneg (mul_nonneg (neg_nonneg.mpr negative.le)
          (weights_figures weight member).nonneg) weighted.le
      have mirrored : Grid.truncate paisa (total * weight / weights.sum) =
          -Grid.truncate paisa (-(total * weight / weights.sum)) := by
        rcases nonneg.eq_or_lt with zero | positive
        · rw [neg_eq_zero.mp zero.symm, neg_zero,
            Grid.truncate_of_mem paisa_pos (zero_mem _), neg_zero]
        · rw [Grid.truncate_of_nonneg nonneg, Grid.truncate, if_neg (by linarith)]
      have below := Grid.truncate_le paisa_pos nonneg
      have above := Grid.truncate_nonneg paisa_pos nonneg
      rw [mirrored]
      constructor
      · linarith
      · linarith
    have cutsAbove : total ≤ (Apportion.cutShares paisa total weights.sum weights).sum := by
      calc total = (weights.map fun weight => total * weight / weights.sum).sum := by
            have factored (weight : Decimal) :
                total * weight / weights.sum = total / weights.sum * weight := by ring
            simp only [factored]
            rw [List.sum_map_mul_left weights (fun weight => weight), List.map_id',
              div_mul_cancel₀ _ weighted.ne']
        _ ≤ _ := List.sum_le_sum fun weight member => (cut weight member).1
    have unmoved (order : List ℕ) (shares : List Decimal) {left : Decimal} (spent : left ≤ 0) :
        Apportion.handOut paisa left order shares = shares := by
      cases order with
      | nil => rfl
      | cons index rest => rw [Apportion.handOut, if_pos spent]
    rw [distributeProRata_eq totalMem negative.ne weightsMem weighted]
    intro share member
    change share ∈ Apportion.handOut paisa _ _ _ at member
    rw [unmoved _ _ (sub_nonpos.mpr cutsAbove)] at member
    obtain ⟨weight, inside, rfl⟩ := List.mem_map.mp member
    exact (cut weight inside).2

/-- Of a total that fits the weights, no part is more than its weight. -/
theorem share_le_weight (totalMem : total ∈ paise) (fits : total ≤ weights.sum)
    (weights_figures : ∀ weight ∈ weights, Figure weight) {index : ℕ} {share weight : Decimal}
    (found : (distributeProRata total weights)[index]? = some share)
    (weightAt : weights[index]? = some weight) : share ≤ weight := by
  have weightNonneg := (weights_figures weight (List.mem_of_getElem? weightAt)).nonneg
  rcases lt_trichotomy total 0 with negative | zero | positive
  · exact (distributeProRata_nonpos totalMem negative weights_figures share
      (List.mem_of_getElem? found)).trans weightNonneg
  · rw [zero, distributeProRata_nothing, List.getElem?_map, weightAt] at found
    rw [← Option.some.inj found]
    exact weightNonneg
  · have split := distributeProRata_proRata totalMem positive.le weights_figures
      (positive.trans_le fits)
    exact split.within fits index share weight found weightAt

/-- The parts are figures of two places, whatever the sign of the total. -/
theorem share_mem (total : Decimal) (weights : List Decimal) :
    ∀ share ∈ distributeProRata total weights, share ∈ paise := by
  simp only [distributeProRata]
  split
  · intro share member
    obtain ⟨_, _, rfl⟩ := List.mem_map.mp member
    exact zero_mem _
  · apply Apportion.handOut_mem
    intro share member
    obtain ⟨weight, -, rfl⟩ := List.mem_map.mp member
    exact Grid.truncate_mem

end Split

/-! ## Spreading never overspends a bill -/

/-- What is left of every bill is a figure of two places, and no less than nothing. -/
def HasRoom (capacity : List Room) : Prop := ∀ room ∈ capacity, Figure room.remaining

section Spreading

variable {input : AllocationInput} {sides : Sides} {line : AllocationOtherLine}

variable {capacity : List Room} {index : ℕ} {state : Reserved}

theorem HasRoom.set (room : HasRoom capacity) {level : Room} (figure : Figure level.remaining) :
    HasRoom (capacity.set index level) := by
  intro other member
  cases List.mem_or_eq_of_mem_set member with
  | inl old => exact room other old
  | inr new => rw [new]; exact figure

/-- Shares that the bills from a place on have room for are placed. -/
theorem placeShares_succeed (shares : List Decimal) (start : ℕ) {state : Reserved}
    (room : HasRoom state.capacity) (twoPlaces : ∀ share ∈ shares, share ∈ paise)
    (fits : ∀ (index : ℕ) (share : Decimal) (level : Room), shares[index]? = some share →
      state.capacity[start + index]? = some level → share ≤ level.remaining) :
    ∃ after, (shares.zipIdx start).foldlM (placeShare input sides line) state = .ok after ∧
      HasRoom after.capacity := by
  induction shares generalizing start state with
  | nil => exact ⟨state, rfl, room⟩
  | cons share rest ih =>
      have step : ∃ middle, placeShare input sides line state (share, start) = .ok middle ∧
          HasRoom middle.capacity ∧
          ∀ index, start < index → middle.capacity[index]? = state.capacity[index]? := by
        unfold placeShare placeDeduction takeFromBill
        simp only
        split
        · exact ⟨state, rfl, room, fun _ _ => rfl⟩
        · split
          · exact ⟨state, rfl, room, fun _ _ => rfl⟩
          · rename_i level found
            have le := fits 0 share level rfl found
            have figure := room level (List.mem_of_getElem? found)
            rw [if_neg (not_lt.mpr le)]
            refine ⟨_, rfl, room.set ⟨sub_mem figure.exact (twoPlaces share List.mem_cons_self),
              sub_nonneg.mpr le⟩, ?_⟩
            intro index later
            exact List.getElem?_set_ne later.ne
      obtain ⟨middle, here, middleRoom, behind⟩ := step
      obtain ⟨after, later, afterRoom⟩ := ih (start + 1) middleRoom
        (fun other member => twoPlaces other (List.mem_cons_of_mem _ member))
        (fun index other level found levelAt => by
          rw [behind _ (by omega)] at levelAt
          exact fits (index + 1) other level found (by rw [← levelAt]; congr 1; omega))
      refine ⟨after, ?_, afterRoom⟩
      rw [List.zipIdx_cons, List.foldlM_cons, here]
      exact later

/-- A line that is not pinned is spread over the bills, whatever its amount. -/
theorem spreadLine_keepsRoom (room : HasRoom state.capacity) (line : AllocationOtherLine) :
    ∃ after, spreadLine input sides state line = .ok after ∧ HasRoom after.capacity := by
  unfold spreadLine
  split
  · exact ⟨state, rfl, room⟩
  · have figures : ∀ weight ∈ state.capacity.map Pour.Level.remaining, Figure weight := by
      intro weight member
      obtain ⟨level, levelMem, rfl⟩ := List.mem_map.mp member
      exact room level levelMem
    have total : sum (state.capacity.map Pour.Level.remaining) =
        (state.capacity.map Pour.Level.remaining).sum :=
      sum_of_mem fun weight member => (figures weight member).exact
    have placedMem : min (money line.amount) (sum (state.capacity.map Pour.Level.remaining)) ∈
        paise := Grid.min_mem_grid (money_mem _) (sum_mem _)
    refine @placeShares_succeed input sides line _ 0
      { state with overflow := state.overflow + (money line.amount - min (money line.amount)
        (sum (state.capacity.map Pour.Level.remaining))) } room (share_mem _ _) ?_
    intro index share level found levelAt
    rw [Nat.zero_add] at levelAt
    refine share_le_weight placedMem ?_ figures found ?_
    · rw [← total]
      exact min_le_right _ _
    · rw [List.getElem?_map, levelAt]
      rfl

theorem spreadLines_keepRoom (room : HasRoom state.capacity) (lines : List AllocationOtherLine) :
    ∃ after, lines.foldlM (spreadLine input sides) state = .ok after ∧ HasRoom after.capacity :=
  Fold.foldlM_succeeds (spreadLine input sides)
    (motive := fun _ state => HasRoom state.capacity)
    (fun line _ _ held => spreadLine_keepsRoom held line) lines state room

theorem placeDeduction_room {field : String} {before after : Reserved} {amount : Decimal}
    (amountMem : amount ∈ paise) (room : HasRoom before.capacity)
    (run : placeDeduction input sides line field before index amount = .ok after) :
    HasRoom after.capacity := by
  unfold placeDeduction at run
  cases found : before.capacity[index]? with
  | none =>
      rw [found] at run
      rw [← Except.ok.inj run]
      exact room
  | some level =>
      rw [found] at run
      obtain ⟨capacity, taken, done⟩ := Fold.bind_eq_ok run
      obtain ⟨fits, rest⟩ := takeFromBill_ok taken
      rw [← Except.ok.inj done, rest]
      have figure := room level (List.mem_of_getElem? found)
      exact room.set ⟨sub_mem figure.exact amountMem, sub_nonneg.mpr fits⟩

/-- The pins take from a bill no more than it has left. -/
theorem reservePins_room (room : HasRoom capacity) {pinned : Reserved}
    (run : reservePins input sides capacity = .ok pinned) : HasRoom pinned.capacity := by
  refine Fold.foldlM_invariant run (motive := fun _ state => HasRoom state.capacity) room ?_
  intro _ entry before after _ held step
  unfold reservePinned at step
  split at step
  · cases step
  · split at step
    · cases step
    · refine Fold.foldlM_invariant step (motive := fun _ state => HasRoom state.capacity) held ?_
      intro _ pin earlier later _ kept placed
      unfold placePin at placed
      split at placed
      · cases placed
      · exact placeDeduction_room (money_mem _) kept placed

/-- The bills a document may allocate have room. -/
theorem initialCapacity_room {bills : List AllocationBill}
    (fits : assertBillsFit bills sides = .ok ()) : HasRoom (initialCapacity bills) := by
  intro room member
  obtain ⟨bill, billMem, rfl⟩ := List.mem_map.mp member
  exact ⟨money_mem _, money_nonneg ((assertBillsFit_ok fits).2 bill billMem).amountNonneg⟩

end Spreading

/-! ## Exact, bounded and never overspent -/

/-- The split is exact and bounded, so a deduction that is not pinned finds room on the bills:
whatever the bills and however many the lines, only a pin can overspend one. -/
theorem proRata_never_overspends {total : Decimal} {weights : List Decimal}
    (totalMem : total ∈ paise) (totalNonneg : 0 ≤ total)
    (weights_figures : ∀ weight ∈ weights, Figure weight) (weighted : 0 < weights.sum)
    (input : AllocationInput) (sides : Sides) :
    ProRata total weights (distributeProRata total weights) ∧
      (∀ (state : Reserved) (lines : List AllocationOtherLine), HasRoom state.capacity →
        ∃ after, lines.foldlM (spreadLine input sides) state = .ok after) ∧
      ∀ pinned, assertBillsFit input.bills sides = .ok () →
        reservePins input sides (initialCapacity input.bills) = .ok pinned →
          ∃ reserved, reserveDeductions input sides (initialCapacity input.bills) =
            .ok reserved := by
  refine ⟨distributeProRata_proRata totalMem totalNonneg weights_figures weighted, ?_, ?_⟩
  · intro state lines room
    obtain ⟨after, run, -⟩ := spreadLines_keepRoom room lines
    exact ⟨after, run⟩
  · intro pinned fits run
    obtain ⟨after, spread, -⟩ := spreadLines_keepRoom
      (reservePins_room (initialCapacity_room fits) run) (deductionsOf input sides)
    refine ⟨after, ?_⟩
    rw [reserveDeductions, run]
    exact spread

/-- A hundred over three equal bills, and a receipt whose deductions are not all pinned. -/
theorem hundred_never_overspends :
    ProRata 100 [1, 1, 1] (distributeProRata 100 [1, 1, 1]) ∧
      ∃ reserved, reserveDeductions mixedReceipt (sidesOf mixedReceipt)
        (initialCapacity mixedReceipt.bills) = .ok reserved := by
  have whole (units : ℤ) : (units : Decimal) ∈ paise := whole_mem units
  have weights : ∀ weight ∈ ([1, 1, 1] : List Decimal), Figure weight := by
    intro weight member
    have one : weight = 1 := by simpa using member
    rw [one]
    exact ⟨whole 1, one_pos.le⟩
  have never := @proRata_never_overspends 100 [1, 1, 1] (whole 100) (by norm_num) weights
    (by norm_num) mixedReceipt (sidesOf mixedReceipt)
  have pins : (reservePins mixedReceipt (sidesOf mixedReceipt)
      (initialCapacity mixedReceipt.bills)).isOk = true := by decide +kernel
  constructor
  · exact never.1
  · cases run : reservePins mixedReceipt (sidesOf mixedReceipt)
        (initialCapacity mixedReceipt.bills) with
    | ok pinned => exact never.2.2 pinned (by decide +kernel) run
    | error problem =>
        rw [run] at pins
        cases pins

end ErpServer.Receipt
