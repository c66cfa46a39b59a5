import ErpServer.Purchase.Payable

/-!
# The credit of a line

The tax of a line is credited, owed or lost in proportion to the quantity billed.  A line that
was billed nothing has no quantity to split its tax by, and a tax it carries on its share of
the charges falls out of all three.
-/

namespace ErpServer.Purchase

open Lib
open Receipt (Decimal paise)

/-- The tax of a line: GST and cess on its taxable value, which holds its share of the charges
before tax. -/
def lineTax (input : CalcIn) (b : BaseLine) : Decimal :=
  let taxable := b.netGross + (shareAt input.charges (baseLines input) b).before
  (gst taxable (if isTaxed b.itcClass then D b.line.gstPct else 0) input.interState).total +
    if isTaxed b.itcClass then
      r2 (taxable * D b.line.cessPct / HUNDRED + b.billed * D b.line.cessPerUnit)
    else 0

/-- What the calculation makes of a line. -/
def lineOf (input : CalcIn) (b : BaseLine) : CalcLineOut :=
  lineOut input.interState (shareAt input.charges (baseLines input) b) b

/-- The quantities of a bill are no less than nothing. -/
def HasQuantities (input : CalcIn) : Prop :=
  ∀ line ∈ input.lines, 0 ≤ line.billedQty ∧ 0 ≤ D line.receivedQty ∧ 0 ≤ D line.damagedQty

/-- The tax of a bill is partitioned: line by line into credit, credit that is owed and credit
that is lost, none of them negative; the cost takes the lost part only; and over the bill
what is credited and what is capitalised is the tax that is payable. -/
structure CreditPartitioned (input : CalcIn) : Prop where
  parts : ∀ line ∈ (calcPurchase input).lines,
    line.itcEligible + line.itcPending + line.itcIneligible = line.allTax
  eligible : ∀ line ∈ (calcPurchase input).lines, 0 ≤ line.itcEligible
  pending : ∀ line ∈ (calcPurchase input).lines, 0 ≤ line.itcPending
  ineligible : ∀ line ∈ (calcPurchase input).lines, 0 ≤ line.itcIneligible
  cost : ∀ b ∈ baseLines input, (lineOf input b).landedValue =
    b.netGross + (shareAt input.charges (baseLines input) b).loaded -
      (lineOf input b).shortValue + (lineOf input b).itcIneligible
  whole : (calcPurchase input).itcEligible + (calcPurchase input).itcPending +
      (calcPurchase input).itcIneligible =
    (calcPurchase input).tax.total + (calcPurchase input).cess + (calcPurchase input).chargeTax

/-! ## One line -/

section Credit

variable {b : BaseLine} {tax pending absorbed : Decimal}

theorem max0_nonneg (value : Decimal) : 0 ≤ max0 value := by
  unfold max0
  split
  · exact le_rfl
  · rename_i nonneg
    exact not_lt.mp nonneg

theorem max0_le {value bound : Decimal} (boundNonneg : 0 ≤ bound) (le : value ≤ bound) :
    max0 value ≤ bound := by
  unfold max0
  split
  · exact boundNonneg
  · exact le

/-- A part of a tax by quantity is within it. -/
theorem part_bounds (taxMem : tax ∈ paise) (nonneg : 0 ≤ tax) {qty : Decimal}
    (billed : 0 < b.billed) (qtyNonneg : 0 ≤ qty) (within : qty ≤ b.billed) :
    0 ≤ r2 (tax * qty / b.billed) ∧ r2 (tax * qty / b.billed) ≤ tax := by
  have low : 0 ≤ tax * qty / b.billed := div_nonneg (mul_nonneg nonneg qtyNonneg) billed.le
  constructor
  · exact Grid.halfUp_nonneg Receipt.paisa_pos low
  · apply Grid.halfUp_le_of_mem Receipt.paisa_pos low _ taxMem
    rw [div_le_iff₀ billed]
    exact mul_le_mul_of_nonneg_left within nonneg

/-- Where something is billed the credit is the tax. -/
theorem credit_sum (billed : b.billed ≠ 0) :
    (creditOf b tax pending absorbed).eligible + (creditOf b tax pending absorbed).pending +
      (creditOf b tax pending absorbed).ineligible = tax := by
  unfold creditOf
  by_cases taxed : tax = 0
  · rw [if_neg fun both => both.2 taxed, taxed]
    simp
  · rw [if_pos ⟨billed, taxed⟩]
    simp only
    split
    · simp only
      ring
    · simp only
      ring

/-- Nothing billed or nothing taxed, there is no credit. -/
theorem credit_none (none : b.billed = 0 ∨ tax = 0) :
    creditOf b tax pending absorbed = ⟨0, 0, 0⟩ := by
  unfold creditOf
  apply if_neg
  intro both
  cases none with
  | inl unbilled => exact both.1 unbilled
  | inr untaxed => exact both.2 untaxed

/-- A short quantity is either owed or absorbed, so no part is negative. -/
theorem credit_nonneg (taxMem : tax ∈ paise) (nonneg : 0 ≤ tax) (billed : 0 < b.billed)
    {short : Decimal} (shortNonneg : 0 ≤ short) (within : short ≤ b.billed)
    (one : pending = short ∧ absorbed = 0 ∨ pending = 0 ∧ absorbed = short) :
    0 ≤ (creditOf b tax pending absorbed).eligible ∧
      0 ≤ (creditOf b tax pending absorbed).pending ∧
        0 ≤ (creditOf b tax pending absorbed).ineligible := by
  have bounds := part_bounds taxMem nonneg billed shortNonneg within
  have nothing : r2 (tax * 0 / b.billed) = 0 := by
    rw [mul_zero, zero_div]
    exact Grid.halfUp_zero
  unfold creditOf
  split
  · simp only
    cases one with
    | inl owed =>
        rw [owed.1, owed.2, nothing]
        split
        · exact ⟨le_rfl, bounds.1, sub_nonneg.mpr bounds.2⟩
        · refine ⟨?_, bounds.1, le_rfl⟩
          rw [sub_zero]
          exact sub_nonneg.mpr bounds.2
    | inr lost =>
        rw [lost.1, lost.2, nothing]
        split
        · refine ⟨le_rfl, le_rfl, ?_⟩
          rw [sub_zero]
          exact nonneg
        · refine ⟨?_, le_rfl, bounds.1⟩
          rw [sub_zero]
          exact sub_nonneg.mpr bounds.2
  · exact ⟨le_rfl, le_rfl, le_rfl⟩

end Credit

/-! ## The lines of a bill -/

section Lines

variable {input : CalcIn}

theorem quantities_of_line (quantities : HasQuantities input) {b : BaseLine}
    (member : b ∈ baseLines input) : 0 ≤ b.billed ∧ 0 ≤ b.received ∧ 0 ≤ b.damaged := by
  obtain ⟨line, lineMem, rfl⟩ := List.mem_map.mp member
  obtain ⟨billed, received, damaged⟩ := quantities line lineMem
  refine ⟨billed, ?_, damaged⟩
  unfold baseLine
  simp only
  cases given : line.receivedQty with
  | none => exact max0_nonneg _
  | some qty =>
      rw [given] at received
      exact received

/-- The credit of a line is split by a short quantity that is wholly owed or absorbed. -/
theorem credit_lineOf (quantities : HasQuantities input) {b : BaseLine}
    (member : b ∈ baseLines input) :
    ∃ pending absorbed short, 0 ≤ short ∧ short ≤ b.billed ∧
      (pending = short ∧ absorbed = 0 ∨ pending = 0 ∧ absorbed = short) ∧
      (lineOf input b).itcEligible = (creditOf b (lineTax input b) pending absorbed).eligible ∧
      (lineOf input b).itcPending = (creditOf b (lineTax input b) pending absorbed).pending ∧
      (lineOf input b).itcIneligible =
        (creditOf b (lineTax input b) pending absorbed).ineligible := by
  obtain ⟨billed, received, damaged⟩ := quantities_of_line quantities member
  refine ⟨(lineOf input b).pendingShortQty, (lineOf input b).absorbedShortQty,
    (lineOf input b).shortQty, max0_nonneg _, max0_le billed ?_, ?_, rfl, rfl, rfl⟩
  · linarith
  · have pending : (lineOf input b).pendingShortQty =
        (lineOf input b).shortQty - (lineOf input b).absorbedShortQty := rfl
    have absorbed : (lineOf input b).absorbedShortQty =
        if (lineOf input b).shortQty = 0 ∨
            b.received * D b.line.shortagePct / HUNDRED < (lineOf input b).shortQty then 0
        else (lineOf input b).shortQty := rfl
    rw [pending, absorbed]
    split
    · exact Or.inl ⟨sub_zero _, rfl⟩
    · exact Or.inr ⟨sub_self _, rfl⟩

/-- The parts of a line are its tax, and none is negative, exactly when it has no tax or has
one that is positive on a quantity that was billed. -/
theorem line_partitioned_iff (quantities : HasQuantities input) {b : BaseLine}
    (member : b ∈ baseLines input) :
    ((lineOf input b).itcEligible + (lineOf input b).itcPending + (lineOf input b).itcIneligible =
        lineTax input b ∧
      0 ≤ (lineOf input b).itcEligible ∧ 0 ≤ (lineOf input b).itcPending ∧
        0 ≤ (lineOf input b).itcIneligible) ↔
      lineTax input b = 0 ∨ b.billed ≠ 0 ∧ 0 < lineTax input b := by
  obtain ⟨pending, absorbed, short, shortNonneg, within, one, eligible, owed, lost⟩ :=
    credit_lineOf quantities member
  have taxMem : lineTax input b ∈ paise := allTax_mem _ _ _
  have billedNonneg := (quantities_of_line quantities member).1
  rw [eligible, owed, lost]
  generalize lineTax input b = tax at taxMem
  constructor
  · intro parts
    obtain ⟨sum, first, second, third⟩ := parts
    by_cases none : b.billed = 0
    · rw [credit_none (Or.inl none)] at sum
      exact Or.inl (by simpa using sum.symm)
    · cases (by linarith : (0 : Decimal) ≤ tax).eq_or_lt with
      | inl zero => exact Or.inl zero.symm
      | inr positive => exact Or.inr ⟨none, positive⟩
  · intro either
    cases either with
    | inl untaxed =>
        rw [credit_none (Or.inr untaxed), untaxed]
        simp
    | inr taxed =>
        have billed : 0 < b.billed := billedNonneg.lt_of_ne (Ne.symm taxed.1)
        exact ⟨credit_sum taxed.1,
          credit_nonneg taxMem taxed.2.le billed shortNonneg within one⟩

end Lines

/-! ## The bill -/

/-- The tax of a bill is partitioned exactly when no line that was billed nothing carries a
tax, and no line a negative one. -/
theorem creditPartitioned_iff (input : CalcIn) (quantities : HasQuantities input) :
    CreditPartitioned input ↔ ∀ b ∈ baseLines input,
      lineTax input b = 0 ∨ b.billed ≠ 0 ∧ 0 < lineTax input b := by
  have linesEq : (calcPurchase input).lines = (baseLines input).map (lineOf input) := rfl
  constructor
  · intro partitioned b member
    have listed : lineOf input b ∈ (calcPurchase input).lines :=
      linesEq ▸ List.mem_map_of_mem member
    exact (line_partitioned_iff quantities member).mp
      ⟨partitioned.parts _ listed, partitioned.eligible _ listed, partitioned.pending _ listed,
        partitioned.ineligible _ listed⟩
  · intro taxed
    have each : ∀ line ∈ (calcPurchase input).lines,
        line.itcEligible + line.itcPending + line.itcIneligible = line.allTax ∧
          0 ≤ line.itcEligible ∧ 0 ≤ line.itcPending ∧ 0 ≤ line.itcIneligible := by
      intro line member
      rw [linesEq] at member
      obtain ⟨b, inside, rfl⟩ := List.mem_map.mp member
      exact (line_partitioned_iff quantities inside).mpr (taxed b inside)
    constructor
    · exact fun line member => (each line member).1
    · exact fun line member => (each line member).2.1
    · exact fun line member => (each line member).2.2.1
    · exact fun line member => (each line member).2.2.2
    · intro b member
      have loaded := loaded_lineOut input.interState (shareAt_spec reads_loaded input.charges
        member).1 (base_mem input member)
      change (lineOf input b).loaded = _ at loaded
      rw [← loaded, CalcLineOut.loaded]
      change _ = b.netGross + ((lineOf input b).landedValue - b.netGross -
        (lineOf input b).itcIneligible + (lineOf input b).shortValue) - _ + _
      ring
    · have lines : sumLines input CalcLineOut.itcEligible + sumLines input CalcLineOut.itcPending +
          sumLines input CalcLineOut.itcIneligible = sumLines input CalcLineOut.allTax := by
        simp only [sumLines, ← List.sum_map_add]
        exact congrArg List.sum (List.map_congr_left fun line member => (each line member).1)
      have taxes : sumLines input CalcLineOut.allTax =
          (calcPurchase input).tax.total + (calcPurchase input).cess := by
        simp only [sumLines, calcPurchase, Gst.total, ← List.sum_map_add]
        rfl
      rw [← taxes, ← lines]
      change sumLines input CalcLineOut.itcEligible + chargeTax input +
        sumLines input CalcLineOut.itcPending + sumLines input CalcLineOut.itcIneligible =
          _ + chargeTax input
      ring

theorem freightBill_partitioned : CreditPartitioned freightBill :=
  (creditPartitioned_iff freightBill (by unfold HasQuantities; decide +kernel)).mpr
    (by decide +kernel)

/-- Ten units billed and ten that came free, with freight of 100 before tax by weight. -/
def freeUnitsBill : CalcIn :=
  localBill
    [{ plainLine "1" 10 100 18 with weight := some 10 },
      { plainLine "2" 0 100 18 with freeQty := some 10, weight := some 10 }]
    [{ fixedCharge "freight" .ADD 100 true with alloc := .WEIGHT }]

/-- The free units carry a tax of 9 on their share of the freight, and it is in no part. -/
theorem freeUnits_lose_credit :
    ((calcPurchase freeUnitsBill).lines.map fun line =>
        (line.allTax, line.itcEligible, line.itcPending, line.itcIneligible)) =
      [(189, 189, 0, 0), (9, 0, 0, 0)] ∧ ¬CreditPartitioned freeUnitsBill := by
  have figures : ((calcPurchase freeUnitsBill).lines.map fun line =>
      (line.allTax, line.itcEligible, line.itcPending, line.itcIneligible)) =
      [(189, 189, 0, 0), (9, 0, 0, 0)] := by decide +kernel
  refine ⟨figures, ?_⟩
  intro partitioned
  have whole := partitioned.whole
  have unequal : ¬(calcPurchase freeUnitsBill).itcEligible +
      (calcPurchase freeUnitsBill).itcPending + (calcPurchase freeUnitsBill).itcIneligible =
        (calcPurchase freeUnitsBill).tax.total + (calcPurchase freeUnitsBill).cess +
          (calcPurchase freeUnitsBill).chargeTax := by decide +kernel
  exact unequal whole

end ErpServer.Purchase
