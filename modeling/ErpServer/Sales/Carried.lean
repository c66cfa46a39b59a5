import ErpServer.Sales.LegBalance

/-!
# A document carried in full

What the legs of a bill and of a return are to do, and the documents for which they
do it: the two sides agree, no amount is below zero, and the party is left owing the
face value less what was paid.
-/

namespace ErpServer.Sales

open Lib Lib.DoubleEntry
open Receipt (Decimal DrCr paise)

/-! ## Positive amounts -/

def Positive (legs : List VoucherLeg) : Prop := ∀ leg ∈ legs, 0 < leg.amount

@[simp] theorem positive_nil : Positive [] := fun _ member => (List.not_mem_nil member).elim

theorem positive_append {left right : List VoucherLeg} :
    Positive (left ++ right) ↔ Positive left ∧ Positive right :=
  List.forall_mem_append

theorem positive_flatMap {α : Type} {items : List α} {legsOf : α → List VoucherLeg} :
    Positive (items.flatMap legsOf) ↔ ∀ item ∈ items, Positive (legsOf item) := by
  unfold Positive
  constructor
  · intro positive item member leg legMember
    exact positive leg (List.mem_flatMap.mpr ⟨item, member, legMember⟩)
  · intro positive leg legMember
    obtain ⟨item, member, within⟩ := List.mem_flatMap.mp legMember
    exact positive item member leg within

/-- A leg pushed as it stands is positive unless its figure rounds below zero. -/
theorem positive_push {leg : VoucherLeg} : Positive (push leg) ↔ 0 ≤ round2 leg.amount := by
  unfold push
  split
  · next zero => simp [zero]
  · next nonzero =>
      constructor
      · intro positive
        exact (positive _ List.mem_cons_self).le
      · intro nonneg leg' member
        rw [List.mem_singleton.mp member]
        exact lt_of_le_of_ne nonneg (Ne.symm nonzero)

variable {supplyNature : SupplyNature} {input : BillLegInput}

theorem positive_pushTaxLegs {buckets : List TaxBucket} {drCr : DrCr} :
    Positive (pushTaxLegs buckets supplyNature drCr) ↔
      ∀ figure ∈ buckets.flatMap TaxBucket.amounts, 0 ≤ round2 figure := by
  unfold pushTaxLegs TaxBucket.amounts
  simp only [positive_flatMap, positive_push, List.mem_flatMap, List.mem_map]
  constructor
  · rintro positive figure ⟨bucket, member, head, headMember, rfl⟩
    exact positive bucket member head headMember
  · intro positive bucket member head headMember
    exact positive head.2 ⟨bucket, member, head, headMember, rfl⟩

theorem round2_abs_nonneg (value : Decimal) : 0 ≤ round2 |value| :=
  Receipt.money_nonneg (abs_nonneg value)

theorem positive_roundOffLegs (roundOff : Decimal) (gain : DrCr) (field : String) :
    Positive (roundOffLegs roundOff gain field) := by
  unfold roundOffLegs
  split
  · exact positive_nil
  · exact positive_push.mpr (round2_abs_nonneg roundOff)

theorem abs_pos_of_round2 {value : Decimal} (nonzero : round2 value ≠ 0) : 0 < |value| := by
  apply abs_pos.mpr
  rintro rfl
  exact nonzero Receipt.money_zero

theorem positive_buildCogsLegs (cogsAmount : Decimal) (direction : CogsDirection) :
    Positive (buildCogsLegs cogsAmount direction) := by
  unfold buildCogsLegs
  split
  · exact positive_nil
  · next nonzero =>
      intro leg member
      simp only [List.mem_cons, List.not_mem_nil, or_false] at member
      rcases member with rfl | rfl
      · exact abs_pos_of_round2 nonzero
      · exact abs_pos_of_round2 nonzero

theorem positive_buildTenderLegs (tender : TenderLegInput) (partyLedgerId : String)
    (direction : TenderDirection) :
    Positive (buildTenderLegs tender partyLedgerId direction) := by
  unfold buildTenderLegs
  split
  · exact positive_nil
  · next writes =>
      have more : 0 < |tender.amount| := abs_pos_of_round2 fun zero => writes (Or.inr zero)
      intro leg member
      simp only [List.mem_cons, List.not_mem_nil, or_false] at member
      rcases member with rfl | rfl
      · split
        · exact more
        · exact more
      · exact more

/-- A charge with legs of its own. -/
def ChargeLegInput.posts (charge : ChargeLegInput) : Prop :=
  charge.separatelyPosted ∧ round2 charge.amount ≠ 0

instance (charge : ChargeLegInput) : Decidable charge.posts :=
  inferInstanceAs (Decidable (_ ∧ _))

theorem positive_billChargeLegs {charge : ChargeLegInput} :
    Positive (billChargeLegs supplyNature charge) ↔
      (charge.posts → ∀ figure ∈ charge.bucket.amounts, 0 ≤ round2 figure) := by
  unfold billChargeLegs ChargeLegInput.posts
  split
  · next skipped =>
      constructor
      · rintro - ⟨separatelyPosted, nonzero⟩
        exact (skipped.elim (· separatelyPosted) nonzero).elim
      · intro _
        exact positive_nil
  · next writes =>
      rw [positive_append, positive_push, positive_pushTaxLegs]
      simp only [List.flatMap_cons, List.flatMap_nil, List.append_nil]
      have posts : charge.separatelyPosted = true ∧ round2 charge.amount ≠ 0 := by
        simpa [not_or] using writes
      constructor
      · intro positive _
        exact positive.2
      · intro positive
        exact ⟨round2_abs_nonneg _, positive posts⟩

theorem positive_returnChargeLegs (charge : ChargeLegInput) :
    Positive (returnChargeLegs charge) := by
  unfold returnChargeLegs
  split
  · exact positive_nil
  · exact positive_push.mpr (round2_abs_nonneg _)

theorem positive_setOffLegs {partyLedgerId : String} {setOff : SetOffLegInput} :
    Positive (setOffLegs partyLedgerId setOff) ↔
      (setOff.ledgerId ≠ partyLedgerId → 0 ≤ round2 setOff.amount) := by
  unfold setOffLegs
  split
  · next own => simp [own]
  · next outside =>
      rw [positive_append, positive_push, positive_push]
      simp [outside]

/-! ## What the legs are to do -/

/-- The legs of a bill carry it: they balance, every amount is positive, and the party
is left owing the face value less the tenders not on account and the credits brought
over from other ledgers. -/
structure CarriesBill (input : BillLegInput) (legs : List VoucherLeg) : Prop where
  balanced : reading.Balanced legs
  positive : Positive legs
  party : movement input.partyLedgerId legs =
    billTotal input - moneyTaken input.tenders - broughtOver input

/-- The legs of a return carry it, the refund tenders on the other side. -/
structure CarriesReturn (input : ReturnLegInput) (legs : List VoucherLeg) : Prop where
  balanced : reading.Balanced legs
  positive : Positive legs
  party : movement input.partyLedgerId legs = -(returnTotal input - moneyTaken input.tenders)

/-! ## When they do -/

/-- No figure pushed as it stands rounds below zero. -/
structure BillSigns (input : BillLegInput) : Prop where
  total : 0 ≤ billTotal input
  sales : 0 ≤ round2 input.salesAmount
  taxes : ∀ figure ∈ input.taxes.flatMap TaxBucket.amounts, 0 ≤ round2 figure
  chargeTaxes : ∀ charge ∈ input.charges, charge.posts →
    ∀ figure ∈ charge.bucket.amounts, 0 ≤ round2 figure
  cashDiscount : 0 ≤ round2 input.cashDiscount
  schemeDiscount : 0 ≤ round2 input.schemeDiscount
  tcs : 0 ≤ round2 input.tcsAmount
  setOffs : ∀ setOff ∈ input.setOffs, setOff.ledgerId ≠ input.partyLedgerId →
    0 ≤ round2 setOff.amount

structure ReturnSigns (input : ReturnLegInput) : Prop where
  total : 0 ≤ round2 (returnFigures input).sum
  sales : 0 ≤ round2 input.salesAmount
  taxes : ∀ figure ∈ input.taxes.flatMap TaxBucket.amounts, 0 ≤ round2 figure
  cashDiscount : 0 ≤ round2 input.cashDiscount
  schemeDiscount : 0 ≤ round2 input.schemeDiscount

/-- The figures a tender and the goods are rounded from. -/
def settledFigures (input : ReturnLegInput) : List Decimal :=
  (input.tenders.filter fun tender => !tender.isCredit).map TenderLegInput.amount ++
    [input.cogsAmount]

/-- Every figure the legs of a bill are rounded from. -/
def roundedForBill (input : BillLegInput) : List Decimal :=
  (billFigures input).sum :: billFigures input ++ settledFigures input.toReturnLegInput ++
    (input.setOffs.filter fun setOff => setOff.ledgerId ≠ input.partyLedgerId).map
      SetOffLegInput.amount

/-- Every figure the legs of a return are rounded from, and its face value. -/
def roundedForReturn (input : ReturnLegInput) : List Decimal :=
  (saleFigures input).sum :: (returnFigures input).sum :: returnFigures input ++
    settledFigures input

/-- A bill its legs carry: the charge tax gone astray and the paise lost to rounding
come to nothing, no figure is below zero, and nothing beside the tenders moves the
party. -/
structure BillHolds (input : BillLegInput) : Prop where
  astray : roundingDrift (billFigures input) + strayChargeTax input.charges = 0
  signs : BillSigns input
  party : partyDrift input.toReturnLegInput = 0

/-- A return its legs carry: besides, the tax of its charges, which the legs leave out
on both sides, is not missing from the credit. -/
structure ReturnHolds (input : ReturnLegInput) : Prop where
  astray : roundingDrift (returnFigures input) = 0
  signs : ReturnSigns input
  party : returnTotal input - round2 (returnFigures input).sum + partyDrift input = 0

theorem positive_buildBillLegs : Positive (buildBillLegs input) ↔ BillSigns input := by
  have face : round2 (billPartyDebit input) = billTotal input := by
    rw [billPartyDebit_eq]
    exact Receipt.money_money _
  unfold buildBillLegs
  simp only [positive_append, positive_push, positive_pushTaxLegs, positive_flatMap,
    positive_billChargeLegs, positive_setOffLegs, positive_roundOffLegs, positive_buildCogsLegs,
    positive_buildTenderLegs, face]
  constructor
  · rintro ⟨⟨⟨⟨⟨⟨⟨⟨⟨⟨total, sales⟩, taxes⟩, chargeTaxes⟩, cash⟩, scheme⟩, -⟩, tcs⟩, -⟩, -⟩, setOffs⟩
    exact ⟨total, sales, taxes, chargeTaxes, cash, scheme, tcs, setOffs⟩
  · rintro ⟨total, sales, taxes, chargeTaxes, cash, scheme, tcs, setOffs⟩
    exact ⟨⟨⟨⟨⟨⟨⟨⟨⟨⟨total, sales⟩, taxes⟩, chargeTaxes⟩, cash⟩, scheme⟩, trivial⟩, tcs⟩, trivial⟩,
      fun _ _ => trivial⟩, setOffs⟩

theorem positive_buildReturnLegs {input : ReturnLegInput} :
    Positive (buildReturnLegs input) ↔ ReturnSigns input := by
  have face : round2 (returnPartyCredit input) = round2 (returnFigures input).sum := by
    rw [returnPartyCredit_eq]
    exact Receipt.money_money _
  unfold buildReturnLegs
  simp only [positive_append, positive_push, positive_pushTaxLegs, positive_flatMap,
    positive_returnChargeLegs, positive_roundOffLegs, positive_buildCogsLegs,
    positive_buildTenderLegs, face]
  constructor
  · rintro ⟨⟨⟨⟨⟨⟨⟨⟨total, sales⟩, taxes⟩, -⟩, cash⟩, scheme⟩, -⟩, -⟩, -⟩
    exact ⟨total, sales, taxes, cash, scheme⟩
  · rintro ⟨total, sales, taxes, cash, scheme⟩
    exact ⟨⟨⟨⟨⟨⟨⟨⟨total, sales⟩, taxes⟩, fun _ _ => trivial⟩, cash⟩, scheme⟩, trivial⟩, trivial⟩,
      fun _ _ => trivial⟩

theorem carriesBill_iff : CarriesBill input (buildBillLegs input) ↔ BillHolds input := by
  constructor
  · intro carries
    refine ⟨?_, positive_buildBillLegs.mp carries.positive, ?_⟩
    · rw [← net_billLegs]
      exact reading.balanced_iff.mp carries.balanced
    · have party := carries.party
      rw [movement_billLegs] at party
      linarith
  · intro holds
    refine ⟨?_, positive_buildBillLegs.mpr holds.signs, ?_⟩
    · rw [reading.balanced_iff, net_billLegs]
      exact holds.astray
    · rw [movement_billLegs, holds.party, sub_zero]

theorem carriesReturn_iff {input : ReturnLegInput} :
    CarriesReturn input (buildReturnLegs input) ↔ ReturnHolds input := by
  constructor
  · intro carries
    refine ⟨?_, positive_buildReturnLegs.mp carries.positive, ?_⟩
    · have balanced := reading.balanced_iff.mp carries.balanced
      rw [net_returnLegs] at balanced
      exact neg_eq_zero.mp balanced
    · have party := carries.party
      rw [movement_returnLegs, returnPartyCredit_eq] at party
      linarith
  · intro holds
    refine ⟨?_, positive_buildReturnLegs.mpr holds.signs, ?_⟩
    · rw [reading.balanced_iff, net_returnLegs, holds.astray, neg_zero]
    · have party := holds.party
      rw [movement_returnLegs, returnPartyCredit_eq]
      linarith

/-- Every bill and every return that rounds no tie is carried by its legs exactly where
nothing goes astray. -/
theorem documents_carried_iff (bill : BillLegInput) (ret : ReturnLegInput) :
    (NoTies (roundedForBill bill) → (CarriesBill bill (buildBillLegs bill) ↔ BillHolds bill)) ∧
      (NoTies (roundedForReturn ret) →
        (CarriesReturn ret (buildReturnLegs ret) ↔ ReturnHolds ret)) := by
  constructor
  · exact fun _ => carriesBill_iff
  · exact fun _ => carriesReturn_iff

/-- Goods of a thousand rupees with freight and its tax, a discount, a round-off, paid in
part by card. -/
def freightedBill : BillLegInput where
  partyLedgerId := "party"
  supplyNature := .INTRA
  salesAmount := 1000
  taxes := [⟨some "gst18", 90, 90, 0, 0, 0⟩]
  charges := [⟨some "freight", 50, true, some "gst18", some (9 / 2), some (9 / 2), none, none, none⟩]
  cashDiscount := 10
  schemeDiscount := 0
  roundOff := -2 / 5
  tenders := [⟨some "card", 600, false, false, none⟩, ⟨none, 500, false, true, none⟩]
  cogsAmount := 700
  tcsAmount := 0
  setOffs := [⟨"advances", 100, none⟩]

/-- The goods alone, coming back for a card refund. -/
def cardReturn : ReturnLegInput :=
  { freightedBill.toReturnLegInput with
    charges := [⟨some "handling", -20, true, none, none, none, none, none, none⟩] }

theorem freightedBill_carried :
    CarriesBill freightedBill (buildBillLegs freightedBill) ∧
      CarriesReturn cardReturn (buildReturnLegs cardReturn) := by
  have carried := documents_carried_iff freightedBill cardReturn
  constructor
  · apply (carried.1 (by decide +kernel)).mpr
    refine ⟨by decide +kernel, ?_, by decide +kernel⟩
    constructor <;> decide +kernel
  · apply (carried.2 (by decide +kernel)).mpr
    refine ⟨by decide +kernel, ?_, by decide +kernel⟩
    constructor <;> decide +kernel

/-- A rebate of a hundred rupees that takes its own tax back with it. -/
def taxedRebate : BillLegInput where
  partyLedgerId := "party"
  supplyNature := .INTRA
  salesAmount := 1000
  taxes := [⟨some "gst18", 90, 90, 0, 0, 0⟩]
  charges := [⟨some "rebate", -100, true, some "gst18", some (-9), some (-9), none, none, none⟩]
  cashDiscount := 0
  schemeDiscount := 0
  roundOff := 0
  tenders := []
  cogsAmount := 0
  tcsAmount := 0
  setOffs := []

/-- The tax of the rebate is pushed below zero on the side of the rebate: the voucher
misses its balance by twice the tax. -/
theorem taxedRebate_not_carried :
    ¬((∀ input : BillLegInput, CarriesBill input (buildBillLegs input)) ∧
      ∀ input : ReturnLegInput, CarriesReturn input (buildReturnLegs input)) := by
  intro carried
  have balanced := reading.balanced_iff.mp (carried.1 taxedRebate).balanced
  have off : reading.net (buildBillLegs taxedRebate) ≠ 0 := by decide +kernel
  exact off balanced

end ErpServer.Sales
