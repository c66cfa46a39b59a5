import ErpServer.Lib.DoubleEntry
import ErpServer.Lib.ListSum
import ErpServer.Sales.Legs

/-!
# What the legs of a sale carry

How far the legs of a bill and of a return balance, which of their amounts are
positive, and what they move on the party ledger, each as a formula over the figures
of the document.
-/

namespace ErpServer.Sales

open Lib Lib.DoubleEntry
open Receipt (Decimal DrCr paise)

/-- A voucher leg as double entry reads it. -/
def reading : Reading VoucherLeg Decimal where
  isDebit leg := leg.drCr = .DR
  amount := VoucherLeg.amount

/-- The movement on one ledger, debits less credits. -/
def movement (ledgerId : String) (legs : List VoucherLeg) : Decimal :=
  reading.net (legs.filter fun leg => leg.ledgerId = some ledgerId)

/-! ## The figures of a document -/

def TaxBucket.amounts (bucket : TaxBucket) : List Decimal := bucket.heads.map Prod.snd

/-- A charge and the heads of its own tax. -/
def ChargeLegInput.figures (charge : ChargeLegInput) : List Decimal :=
  charge.amount :: charge.bucket.amounts

def separate (charges : List ChargeLegInput) : List ChargeLegInput :=
  charges.filter ChargeLegInput.separatelyPosted

/-- What a document charges, figure by figure, a deduction below zero. -/
def saleFigures (input : ReturnLegInput) : List Decimal :=
  input.salesAmount :: input.taxes.flatMap TaxBucket.amounts ++
    (separate input.charges).flatMap ChargeLegInput.figures ++
    [input.roundOff, -input.cashDiscount, -input.schemeDiscount]

def billFigures (input : BillLegInput) : List Decimal :=
  input.tcsAmount :: saleFigures input.toReturnLegInput

/-- The face value of a bill. -/
def billTotal (input : BillLegInput) : Decimal := round2 (billFigures input).sum

/-- The face value of a return, by the arithmetic of the bill it mirrors. -/
def returnTotal (input : ReturnLegInput) : Decimal := round2 (saleFigures input).sum

/-- The tenders that are not on account. -/
def moneyTaken (tenders : List TenderLegInput) : Decimal :=
  ((tenders.filter fun tender => !tender.isCredit).map TenderLegInput.amount).sum

/-- What the set-offs bring over from the ledgers that held them. -/
def broughtOver (input : BillLegInput) : Decimal :=
  ((input.setOffs.filter fun setOff => setOff.ledgerId ≠ input.partyLedgerId).map fun setOff =>
    round2 setOff.amount).sum

/-! ## What goes astray -/

/-- The tax of a charge, head by head. -/
def TaxBucket.rounded (bucket : TaxBucket) : Decimal := (bucket.amounts.map round2).sum

/-- What the sum rounded once differs by from the figures rounded one by one. -/
def roundingDrift (figures : List Decimal) : Decimal :=
  round2 figures.sum - (figures.map round2).sum

/-- The tax of a charge the party is debited for and no leg carries: all of it where
the charge comes to zero, and twice where a deduction sends it to the wrong side. -/
def strayTax (charge : ChargeLegInput) : Decimal :=
  if round2 charge.amount = 0 then
    charge.bucket.rounded
  else if charge.amount < 0 then
    charge.bucket.rounded + charge.bucket.rounded
  else
    0

def strayChargeTax (charges : List ChargeLegInput) : Decimal :=
  ((separate charges).map strayTax).sum

/-- The figures of a return its legs carry: those of the document, the tax of its
charges left out. -/
def returnFigures (input : ReturnLegInput) : List Decimal :=
  input.salesAmount :: input.taxes.flatMap TaxBucket.amounts ++
    (separate input.charges).map ChargeLegInput.amount ++
    [input.roundOff, -input.cashDiscount, -input.schemeDiscount]

/-- The charges booked on the party's own ledger. -/
def ownCharges (partyLedgerId : String) (charges : List ChargeLegInput) : Decimal :=
  ((separate charges).map fun charge =>
    if charge.ledgerId = some partyLedgerId then round2 charge.amount else 0).sum

/-- What a tender moves on the party ledger beyond what it says: all of it is missing
where it comes to nothing or is kept on the party's own ledger, and one below zero
counts upward. -/
def tenderDrift (partyLedgerId : String) (tender : TenderLegInput) : Decimal :=
  if tender.isCredit then
    0
  else if round2 tender.amount = 0 ∨
      ¬tender.isLoyalty ∧ tender.tenderLedgerId = some partyLedgerId then
    -tender.amount
  else
    |tender.amount| - tender.amount

/-- What charges and tenders move on the party ledger that the document does not say. -/
def partyDrift (input : ReturnLegInput) : Decimal :=
  ownCharges input.partyLedgerId input.charges +
    (input.tenders.map (tenderDrift input.partyLedgerId)).sum

/-! ## Rounding -/

theorem round2_neg (value : Decimal) : round2 (-value) = -round2 value := Grid.halfUp_neg

theorem round2_abs (value : Decimal) :
    round2 |value| = if 0 ≤ value then round2 value else -round2 value := by
  split
  · next nonneg => rw [abs_of_nonneg nonneg]
  · next negative => rw [abs_of_neg (not_le.mp negative), round2_neg]

theorem TaxBucket.sum_amounts (bucket : TaxBucket) :
    bucket.amounts.sum =
      bucket.cgst + bucket.sgst + bucket.igst + bucket.cess + bucket.acess := by
  simp only [amounts, heads, List.map_cons, List.map_nil, List.sum_cons, List.sum_nil]
  ring

theorem ChargeLegInput.sum_figures (charge : ChargeLegInput) :
    charge.figures.sum = charge.amount + charge.cgst.getD 0 + charge.sgst.getD 0 +
      charge.igst.getD 0 + charge.cess.getD 0 := by
  rw [figures, List.sum_cons, TaxBucket.sum_amounts]
  simp only [bucket]
  ring

theorem sum_flatMap {α : Type} (items : List α) (figuresOf : α → List Decimal) :
    (items.flatMap figuresOf).sum = (items.map fun item => (figuresOf item).sum).sum := by
  induction items with
  | nil => rfl
  | cons item rest ih => simp [ih]

/-- The party is debited for the face value of the bill. -/
theorem billPartyDebit_eq (input : BillLegInput) : billPartyDebit input = billTotal input := by
  unfold billPartyDebit billTotal billFigures saleFigures
  apply congrArg round2
  simp only [List.sum_cons, List.sum_append, List.sum_nil, List.cons_append, sum_flatMap,
    TaxBucket.sum_amounts, ChargeLegInput.sum_figures, separate]
  ring

theorem returnPartyCredit_eq (input : ReturnLegInput) :
    returnPartyCredit input = round2 (returnFigures input).sum := by
  unfold returnPartyCredit returnFigures
  apply congrArg round2
  simp only [List.sum_cons, List.sum_append, List.sum_nil, List.cons_append, sum_flatMap,
    TaxBucket.sum_amounts, separate]
  ring

/-! ## The movement of each block -/

section Weighed

variable (weight : Option String → Decimal)

/-- Every leg counted by a weight of its ledger. -/
def weighed : Reading VoucherLeg Decimal := reading.weigh fun leg => weight leg.ledgerId

/-- One for a debit, one less than nothing for a credit. -/
def side : DrCr → Decimal
  | .DR => 1
  | .CR => -1

theorem signed_weighed (leg : VoucherLeg) :
    (weighed weight).signed leg = side leg.drCr * (weight leg.ledgerId * leg.amount) := by
  unfold weighed
  rw [Reading.signed_weigh]
  cases drCr : leg.drCr
  · simp [Reading.signed, reading, side, drCr]
  · simp [Reading.signed, reading, side, drCr]

theorem net_push (leg : VoucherLeg) :
    (weighed weight).net (push leg) =
      side leg.drCr * (weight leg.ledgerId * round2 leg.amount) := by
  unfold push
  split
  · next zero => rw [zero, mul_zero, mul_zero, Reading.net_nil]
  · rw [Reading.net_cons, Reading.net_nil, add_zero, signed_weighed]

theorem net_pushTaxLegs (buckets : List TaxBucket) (supplyNature : SupplyNature) (drCr : DrCr) :
    (weighed weight).net (pushTaxLegs buckets supplyNature drCr) =
      side drCr * (weight none * (buckets.map TaxBucket.rounded).sum) := by
  unfold pushTaxLegs
  rw [Reading.net_flatMap, ← List.sum_map_mul_left, ← List.sum_map_mul_left]
  congr 1
  apply List.map_congr_left
  intro bucket _
  rw [Reading.net_flatMap]
  simp only [net_push, TaxBucket.rounded, TaxBucket.amounts, List.map_map]
  rw [List.sum_map_mul_left, List.sum_map_mul_left]
  rfl

theorem net_billChargeLegs (supplyNature : SupplyNature) (charge : ChargeLegInput) :
    (weighed weight).net (billChargeLegs supplyNature charge) =
      if charge.separatelyPosted then
        -(weight charge.ledgerId * round2 charge.amount +
          weight none * (charge.bucket.rounded - strayTax charge))
      else 0 := by
  unfold billChargeLegs
  cases separatelyPosted : charge.separatelyPosted
  · simp
  · by_cases zero : round2 charge.amount = 0
    · simp [zero, strayTax]
    · simp only [zero, not_true_eq_false, or_self, ↓reduceIte, Reading.net_append, net_push,
        net_pushTaxLegs, List.map_cons, List.map_nil, List.sum_cons, List.sum_nil, round2_abs,
        strayTax]
      by_cases nonneg : 0 ≤ charge.amount
      · simp only [nonneg, not_lt.mpr nonneg, ↓reduceIte, side]
        ring
      · simp only [nonneg, not_le.mp nonneg, ↓reduceIte, side]
        ring

theorem net_returnChargeLegs (charge : ChargeLegInput) :
    (weighed weight).net (returnChargeLegs charge) =
      if charge.separatelyPosted then weight charge.ledgerId * round2 charge.amount else 0 := by
  unfold returnChargeLegs
  cases separatelyPosted : charge.separatelyPosted
  · simp
  · by_cases zero : round2 charge.amount = 0
    · simp [zero]
    · simp only [zero, not_true_eq_false, or_self, ↓reduceIte, net_push, round2_abs]
      by_cases nonneg : 0 ≤ charge.amount
      · simp only [nonneg, ↓reduceIte, side]
        ring
      · simp only [nonneg, ↓reduceIte, side]
        ring

theorem net_roundOffLegs (roundOff : Decimal) (gain : DrCr) (field : String) :
    (weighed weight).net (roundOffLegs roundOff gain field) =
      side gain * (weight none * round2 roundOff) := by
  unfold roundOffLegs
  split
  · next zero => rw [zero, mul_zero, mul_zero, Reading.net_nil]
  · rw [net_push, round2_abs]
    by_cases nonneg : 0 ≤ roundOff
    · simp only [nonneg, ↓reduceIte]
    · cases gain
      · simp [nonneg, side, DrCr.flip]
      · simp [nonneg, side, DrCr.flip]

/-- The goods pair moves nothing between the ledgers a document names. -/
theorem net_buildCogsLegs (cogsAmount : Decimal) (direction : CogsDirection) :
    (weighed weight).net (buildCogsLegs cogsAmount direction) = 0 := by
  unfold buildCogsLegs
  split
  · rfl
  · cases direction
    · simp [signed_weighed, side]
    · simp [signed_weighed, side]

/-- The ledger a tender is kept on. -/
def TenderLegInput.keptOn (tender : TenderLegInput) : Option String :=
  if tender.isLoyalty then none else tender.tenderLedgerId

/-- What a tender moves onto the party ledger. -/
def settled (partyLedgerId : String) (tender : TenderLegInput) : Decimal :=
  if tender.isCredit ∨ round2 tender.amount = 0 then
    0
  else
    (weight (some partyLedgerId) - weight tender.keptOn) * |tender.amount|

theorem net_billTenderLegs (tender : TenderLegInput) (partyLedgerId : String) :
    (weighed weight).net (buildTenderLegs tender partyLedgerId .BILL) =
      -settled weight partyLedgerId tender := by
  unfold buildTenderLegs settled
  split
  · rfl
  · cases loyalty : tender.isLoyalty
    · simp [signed_weighed, side, TenderLegInput.keptOn, loyalty]
      ring
    · simp [signed_weighed, side, TenderLegInput.keptOn, loyalty]
      ring

theorem net_returnTenderLegs (tender : TenderLegInput) (partyLedgerId : String) :
    (weighed weight).net (buildTenderLegs tender partyLedgerId .RETURN) =
      settled weight partyLedgerId tender := by
  unfold buildTenderLegs settled
  split
  · rfl
  · cases loyalty : tender.isLoyalty
    · simp [signed_weighed, side, TenderLegInput.keptOn, loyalty]
      ring
    · simp [signed_weighed, side, TenderLegInput.keptOn, loyalty]
      ring

theorem net_setOffLegs (partyLedgerId : String) (setOff : SetOffLegInput) :
    (weighed weight).net (setOffLegs partyLedgerId setOff) =
      if setOff.ledgerId = partyLedgerId then 0
      else (weight (some setOff.ledgerId) - weight (some partyLedgerId)) *
        round2 setOff.amount := by
  unfold setOffLegs
  split
  · rfl
  · rw [Reading.net_append, net_push, net_push]
    simp only [side]
    ring

/-- The figures that post under a role, a deduction below zero. -/
def roleFigures (input : ReturnLegInput) : Decimal :=
  round2 input.salesAmount + (input.taxes.map TaxBucket.rounded).sum + round2 input.roundOff -
    round2 input.cashDiscount - round2 input.schemeDiscount

theorem net_buildBillLegs (input : BillLegInput) :
    (weighed weight).net (buildBillLegs input) =
      weight (some input.partyLedgerId) * billTotal input -
        weight none * (roleFigures input.toReturnLegInput + round2 input.tcsAmount) -
        ((separate input.charges).map fun charge =>
          weight charge.ledgerId * round2 charge.amount +
            weight none * (charge.bucket.rounded - strayTax charge)).sum -
        (input.tenders.map (settled weight input.partyLedgerId)).sum +
        (input.setOffs.map fun setOff =>
          if setOff.ledgerId = input.partyLedgerId then 0
          else (weight (some setOff.ledgerId) - weight (some input.partyLedgerId)) *
            round2 setOff.amount).sum := by
  have charges : (weighed weight).net
      (input.charges.flatMap (billChargeLegs input.supplyNature)) =
        -((separate input.charges).map fun charge =>
          weight charge.ledgerId * round2 charge.amount +
            weight none * (charge.bucket.rounded - strayTax charge)).sum := by
    simp only [Reading.net_flatMap, net_billChargeLegs]
    rw [ListSum.sum_ite_filter, ListSum.sum_map_neg]
    rfl
  have tenders : (weighed weight).net
      (input.tenders.flatMap fun tender => buildTenderLegs tender input.partyLedgerId .BILL) =
        -(input.tenders.map (settled weight input.partyLedgerId)).sum := by
    simp only [Reading.net_flatMap, net_billTenderLegs]
    exact ListSum.sum_map_neg _ _
  have setOffs : (weighed weight).net (input.setOffs.flatMap (setOffLegs input.partyLedgerId)) =
      (input.setOffs.map fun setOff =>
        if setOff.ledgerId = input.partyLedgerId then 0
        else (weight (some setOff.ledgerId) - weight (some input.partyLedgerId)) *
          round2 setOff.amount).sum := by
    simp only [Reading.net_flatMap, net_setOffLegs]
  have face : round2 (billPartyDebit input) = billTotal input := by
    rw [billPartyDebit_eq]
    exact Receipt.money_money _
  unfold buildBillLegs
  simp only [Reading.net_append, net_push, net_pushTaxLegs, net_roundOffLegs, net_buildCogsLegs,
    charges, tenders, setOffs, face, side, roleFigures]
  ring

theorem net_buildReturnLegs (input : ReturnLegInput) :
    (weighed weight).net (buildReturnLegs input) =
      -(weight (some input.partyLedgerId) * returnPartyCredit input) +
        weight none * roleFigures input +
        ((separate input.charges).map fun charge =>
          weight charge.ledgerId * round2 charge.amount).sum +
        (input.tenders.map (settled weight input.partyLedgerId)).sum := by
  have charges : (weighed weight).net (input.charges.flatMap returnChargeLegs) =
      ((separate input.charges).map fun charge =>
        weight charge.ledgerId * round2 charge.amount).sum := by
    simp only [Reading.net_flatMap, net_returnChargeLegs]
    rw [ListSum.sum_ite_filter]
    rfl
  have tenders : (weighed weight).net
      (input.tenders.flatMap fun tender => buildTenderLegs tender input.partyLedgerId .RETURN) =
        (input.tenders.map (settled weight input.partyLedgerId)).sum := by
    simp only [Reading.net_flatMap, net_returnTenderLegs]
  have face : round2 (returnPartyCredit input) = returnPartyCredit input := by
    rw [returnPartyCredit_eq]
    exact Receipt.money_money _
  unfold buildReturnLegs
  simp only [Reading.net_append, net_push, net_pushTaxLegs, net_roundOffLegs, net_buildCogsLegs,
    charges, tenders, face, side, roleFigures]
  ring

end Weighed

/-! ## Both sides of the document -/

theorem net_eq_weighed (legs : List VoucherLeg) :
    reading.net legs = (weighed fun _ => 1).net legs :=
  (reading.net_weigh_one legs).symm

theorem movement_eq_weighed (ledgerId : String) (legs : List VoucherLeg) :
    movement ledgerId legs =
      (weighed fun ledger => if ledger = some ledgerId then 1 else 0).net legs := by
  unfold movement weighed
  rw [← reading.net_weigh_filter]
  simp only [decide_eq_true_eq]

theorem sum_separate_rounded (charges : List ChargeLegInput) :
    ((separate charges).flatMap ChargeLegInput.figures |>.map round2).sum =
      ((separate charges).map fun charge => round2 charge.amount).sum +
        ((separate charges).map fun charge => charge.bucket.rounded).sum := by
  rw [List.map_flatMap, sum_flatMap, ← List.sum_map_add]
  rfl

theorem sum_saleFigures_rounded (input : ReturnLegInput) :
    ((saleFigures input).map round2).sum = roleFigures input +
      ((separate input.charges).map fun charge => round2 charge.amount).sum +
      ((separate input.charges).map fun charge => charge.bucket.rounded).sum := by
  have taxes : ((input.taxes.flatMap TaxBucket.amounts).map round2).sum =
      (input.taxes.map TaxBucket.rounded).sum := by
    rw [List.map_flatMap, sum_flatMap]
    rfl
  unfold saleFigures roleFigures
  simp only [List.cons_append, List.map_cons, List.map_append, List.sum_cons, List.sum_append,
    List.map_nil, List.sum_nil, taxes, sum_separate_rounded, round2_neg]
  ring

theorem sum_returnFigures_rounded (input : ReturnLegInput) :
    ((returnFigures input).map round2).sum = roleFigures input +
      ((separate input.charges).map fun charge => round2 charge.amount).sum := by
  have taxes : ((input.taxes.flatMap TaxBucket.amounts).map round2).sum =
      (input.taxes.map TaxBucket.rounded).sum := by
    rw [List.map_flatMap, sum_flatMap]
    rfl
  unfold returnFigures roleFigures
  simp only [List.cons_append, List.map_cons, List.map_append, List.sum_cons, List.sum_append,
    List.map_nil, List.sum_nil, taxes, round2_neg, List.map_map]
  have charges : ((separate input.charges).map (round2 ∘ ChargeLegInput.amount)).sum =
      ((separate input.charges).map fun charge => round2 charge.amount).sum := rfl
  rw [charges]
  ring

theorem sum_settled_evenly (partyLedgerId : String) (tenders : List TenderLegInput) :
    (tenders.map (settled (fun _ => 1) partyLedgerId)).sum = 0 := by
  apply List.sum_eq_zero
  intro moved member
  obtain ⟨tender, -, rfl⟩ := List.mem_map.mp member
  simp [settled]

/-- By how much the debits of a bill exceed its credits. -/
theorem net_billLegs (input : BillLegInput) :
    reading.net (buildBillLegs input) =
      roundingDrift (billFigures input) + strayChargeTax input.charges := by
  have stray : ((separate input.charges).map fun charge =>
      round2 charge.amount + (charge.bucket.rounded - strayTax charge)).sum =
        ((separate input.charges).map fun charge => round2 charge.amount).sum +
          (((separate input.charges).map fun charge => charge.bucket.rounded).sum -
            strayChargeTax input.charges) := by
    rw [List.sum_map_add, ListSum.sum_map_sub]
    rfl
  rw [net_eq_weighed, net_buildBillLegs]
  simp only [one_mul, sub_self, zero_mul, ite_self, List.map_const', List.sum_replicate, nsmul_zero,
    sum_settled_evenly, stray]
  unfold roundingDrift billFigures billTotal
  simp only [List.map_cons, List.sum_cons, sum_saleFigures_rounded, billFigures]
  ring

/-- By how much the credits of a return exceed its debits. -/
theorem net_returnLegs (input : ReturnLegInput) :
    reading.net (buildReturnLegs input) = -roundingDrift (returnFigures input) := by
  rw [net_eq_weighed, net_buildReturnLegs]
  simp only [one_mul, sum_settled_evenly, returnPartyCredit_eq]
  unfold roundingDrift
  rw [sum_returnFigures_rounded]
  ring

/-! ## The party ledger -/

/-- A tender moves onto the party what it says, and its drift. -/
theorem settled_party (partyLedgerId : String) (tender : TenderLegInput) :
    settled (fun ledger => if ledger = some partyLedgerId then 1 else 0) partyLedgerId tender =
      (if !tender.isCredit then tender.amount else 0) + tenderDrift partyLedgerId tender := by
  unfold settled tenderDrift TenderLegInput.keptOn
  cases credit : tender.isCredit
  · by_cases zero : round2 tender.amount = 0
    · simp [zero]
    · cases loyalty : tender.isLoyalty
      · by_cases own : tender.tenderLedgerId = some partyLedgerId
        · simp [zero, own]
        · simp [zero, own]
      · simp [zero]
  · simp

theorem sum_settled_party (partyLedgerId : String) (tenders : List TenderLegInput) :
    (tenders.map (settled (fun ledger => if ledger = some partyLedgerId then 1 else 0)
      partyLedgerId)).sum =
        moneyTaken tenders + (tenders.map (tenderDrift partyLedgerId)).sum := by
  have each : (tenders.map (settled (fun ledger => if ledger = some partyLedgerId then 1 else 0)
      partyLedgerId)) = tenders.map fun tender =>
        (if !tender.isCredit then tender.amount else 0) + tenderDrift partyLedgerId tender := by
    apply List.map_congr_left
    intro tender _
    exact settled_party partyLedgerId tender
  rw [each, List.sum_map_add, ListSum.sum_ite_filter]
  rfl

/-- What the legs of a bill move on the party ledger. -/
theorem movement_billLegs (input : BillLegInput) :
    movement input.partyLedgerId (buildBillLegs input) =
      billTotal input - moneyTaken input.tenders - broughtOver input -
        partyDrift input.toReturnLegInput := by
  have setOffs : (input.setOffs.map fun setOff =>
      if setOff.ledgerId = input.partyLedgerId then (0 : Decimal)
      else ((if some setOff.ledgerId = some input.partyLedgerId then 1 else 0) -
        (if some input.partyLedgerId = some input.partyLedgerId then 1 else 0)) *
          round2 setOff.amount).sum = -broughtOver input := by
    unfold broughtOver
    rw [← ListSum.sum_ite_filter, ← ListSum.sum_map_neg]
    apply congrArg List.sum
    apply List.map_congr_left
    intro setOff _
    by_cases own : setOff.ledgerId = input.partyLedgerId
    · simp [own]
    · simp [own]
  rw [movement_eq_weighed, net_buildBillLegs, setOffs, sum_settled_party]
  unfold partyDrift ownCharges
  simp only [↓reduceIte, reduceCtorEq, zero_mul, one_mul, add_zero, ite_mul]
  ring

/-- What the legs of a return move on the party ledger. -/
theorem movement_returnLegs (input : ReturnLegInput) :
    movement input.partyLedgerId (buildReturnLegs input) =
      -(returnPartyCredit input - moneyTaken input.tenders) + partyDrift input := by
  rw [movement_eq_weighed, net_buildReturnLegs, sum_settled_party]
  unfold partyDrift ownCharges
  simp only [↓reduceIte, reduceCtorEq, zero_mul, one_mul, ite_mul]
  ring

end ErpServer.Sales
