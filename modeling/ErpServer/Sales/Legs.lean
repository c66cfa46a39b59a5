import ErpServer.Receipt.Types

/-!
# The legs of a sale

The leg lists of a bill and of a sale return, in their fixed order, from a document
already loaded.
-/

namespace ErpServer.Sales

open Receipt (Decimal DrCr)

/-- The rounding of money.  The source adds an epsilon to send a tie away from zero, as exact
figures go; the doubles send some ties the other way, so nothing is said of a tie. -/
abbrev round2 (value : Decimal) : Decimal := Receipt.money value

/-- None of the figures is half way between two paise. -/
def NoTies (figures : List Decimal) : Prop :=
  ∀ figure ∈ figures, ¬Lib.Grid.IsTie (1 / 100) figure

instance (figures : List Decimal) : Decidable (NoTies figures) :=
  inferInstanceAs (Decidable (∀ figure ∈ figures, _))

inductive SupplyNature where
  | INTRA
  | INTER
  deriving DecidableEq, Repr

/-- The roles of the ledger map the builders name. -/
inductive LedgerRole where
  | SALES
  | SALES_RETURN
  | OUTPUT_CGST
  | OUTPUT_SGST
  | OUTPUT_IGST
  | OUTPUT_CESS
  | OUTPUT_ACESS
  | DISCOUNT_ALLOWED
  | SCHEME_DISCOUNT
  | ROUND_OFF
  | TCS_PAYABLE
  | COGS
  | INVENTORY
  | LOYALTY_REDEMPTION
  deriving DecidableEq, Repr

/-- One line of a voucher: a role or an explicit ledger, a side and an amount. -/
structure VoucherLeg where
  role : Option LedgerRole := none
  ledgerId : Option String := none
  drCr : DrCr
  amount : Decimal
  taxId : Option String := none
  supplyNature : Option SupplyNature := none
  remarks : Option String := none
  field : Option String := none
  roleTag : Option LedgerRole := none

/-! ## What the builders read -/

/-- One rate's worth of output tax. -/
structure TaxBucket where
  taxId : Option String
  cgst : Decimal
  sgst : Decimal
  igst : Decimal
  cess : Decimal
  acess : Decimal

/-- A charge row.  The amount is signed. -/
structure ChargeLegInput where
  ledgerId : Option String
  amount : Decimal
  separatelyPosted : Bool
  taxId : Option String
  cgst : Option Decimal
  sgst : Option Decimal
  igst : Option Decimal
  cess : Option Decimal
  name : Option String

structure TenderLegInput where
  tenderLedgerId : Option String
  amount : Decimal
  isLoyalty : Bool
  isCredit : Bool
  name : Option String

/-- A credit spent on the bill, under the ledger that held it. -/
structure SetOffLegInput where
  ledgerId : String
  amount : Decimal
  remarks : Option String

/-- What a return is built from, which is what a bill is built from less its set-offs
and the tax collected at source. -/
structure ReturnLegInput where
  partyLedgerId : String
  supplyNature : SupplyNature
  salesAmount : Decimal
  taxes : List TaxBucket
  charges : List ChargeLegInput
  cashDiscount : Decimal
  schemeDiscount : Decimal
  roundOff : Decimal
  tenders : List TenderLegInput
  cogsAmount : Decimal

structure BillLegInput extends ReturnLegInput where
  tcsAmount : Decimal
  setOffs : List SetOffLegInput

/-! ## Internals -/

/-- A zero leg is not an event. -/
def push (leg : VoucherLeg) : List VoucherLeg :=
  if round2 leg.amount = 0 then [] else [{ leg with amount := round2 leg.amount }]

def TaxBucket.heads (bucket : TaxBucket) : List (LedgerRole × Decimal) :=
  [(.OUTPUT_CGST, bucket.cgst), (.OUTPUT_SGST, bucket.sgst), (.OUTPUT_IGST, bucket.igst),
    (.OUTPUT_CESS, bucket.cess), (.OUTPUT_ACESS, bucket.acess)]

def pushTaxLegs (buckets : List TaxBucket) (supplyNature : SupplyNature) (drCr : DrCr) :
    List VoucherLeg :=
  buckets.flatMap fun bucket => bucket.heads.flatMap fun head =>
    push {
      role := some head.1
      roleTag := some head.1
      drCr := drCr
      amount := head.2
      taxId := bucket.taxId
      supplyNature := some supplyNature
      field := some "taxes" }

def ChargeLegInput.bucket (charge : ChargeLegInput) : TaxBucket where
  taxId := charge.taxId
  cgst := charge.cgst.getD 0
  sgst := charge.sgst.getD 0
  igst := charge.igst.getD 0
  cess := charge.cess.getD 0
  acess := 0

/-- What the party is debited for: everything the bill charges, before a tender. -/
def billPartyDebit (input : BillLegInput) : Decimal :=
  let tax := (input.taxes.map fun t => t.cgst + t.sgst + t.igst + t.cess + t.acess).sum
  let charges := ((input.charges.filter ChargeLegInput.separatelyPosted).map fun c =>
    c.amount + c.cgst.getD 0 + c.sgst.getD 0 + c.igst.getD 0 + c.cess.getD 0).sum
  round2 (input.salesAmount + tax + charges + input.roundOff + input.tcsAmount -
    input.cashDiscount - input.schemeDiscount)

def returnPartyCredit (input : ReturnLegInput) : Decimal :=
  let tax := (input.taxes.map fun t => t.cgst + t.sgst + t.igst + t.cess + t.acess).sum
  let charges :=
    ((input.charges.filter ChargeLegInput.separatelyPosted).map ChargeLegInput.amount).sum
  round2 (input.salesAmount + tax + charges + input.roundOff - input.cashDiscount -
    input.schemeDiscount)

/-! ## The builders -/

inductive CogsDirection where
  | ISSUE
  | RETURN
  deriving DecidableEq, Repr

/-- The goods against their cost.  Goods coming back run the other way. -/
def buildCogsLegs (cogsAmount : Decimal) (direction : CogsDirection) : List VoucherLeg :=
  if round2 cogsAmount = 0 then
    []
  else
    let out := direction = .ISSUE
    [{ role := some .COGS
       roleTag := some .COGS
       drCr := if out then .DR else .CR
       amount := |cogsAmount|
       field := some "cogsAmt" },
     { role := some .INVENTORY
       roleTag := some .INVENTORY
       drCr := if out then .CR else .DR
       amount := |cogsAmount|
       field := some "cogsAmt" }]

inductive TenderDirection where
  | BILL
  | RETURN
  deriving DecidableEq, Repr

/-- One tender's legs.  A tender on account writes none, the party stays debited; a
loyalty tender ignores the ledger of its master. -/
def buildTenderLegs (tender : TenderLegInput) (partyLedgerId : String)
    (direction : TenderDirection) : List VoucherLeg :=
  if tender.isCredit ∨ round2 tender.amount = 0 then
    []
  else
    let paying := direction = .BILL
    let settlement : VoucherLeg :=
      if tender.isLoyalty then
        { role := some .LOYALTY_REDEMPTION
          roleTag := some .LOYALTY_REDEMPTION
          drCr := if paying then .DR else .CR
          amount := |tender.amount|
          field := some "tenders" }
      else
        { ledgerId := tender.tenderLedgerId
          drCr := if paying then .DR else .CR
          amount := |tender.amount|
          remarks := tender.name
          field := some "tenders" }
    [settlement,
      { ledgerId := some partyLedgerId
        drCr := if paying then .CR else .DR
        amount := |tender.amount|
        remarks := tender.name }]

/-- A charge that posts separately, and its tax, on a bill. -/
def billChargeLegs (supplyNature : SupplyNature) (charge : ChargeLegInput) : List VoucherLeg :=
  if ¬charge.separatelyPosted ∨ round2 charge.amount = 0 then
    []
  else
    -- A negative charge is a deduction and posts on the other side.
    let drCr : DrCr := if 0 ≤ charge.amount then .CR else .DR
    push {
      ledgerId := charge.ledgerId
      drCr := drCr
      amount := |charge.amount|
      remarks := charge.name
      field := some "charges" } ++
    pushTaxLegs [charge.bucket] supplyNature drCr

/-- A charge that posts separately on a return. -/
def returnChargeLegs (charge : ChargeLegInput) : List VoucherLeg :=
  if ¬charge.separatelyPosted ∨ round2 charge.amount = 0 then
    []
  else
    push {
      ledgerId := charge.ledgerId
      drCr := if 0 ≤ charge.amount then .DR else .CR
      amount := |charge.amount|
      remarks := charge.name
      field := some "charges" }

/-- The round-off, either way: `gain` is the side of one that adds to the document. -/
def roundOffLegs (roundOff : Decimal) (gain : DrCr) (field : String) : List VoucherLeg :=
  if round2 roundOff = 0 then
    []
  else
    push {
      role := some .ROUND_OFF
      roleTag := some .ROUND_OFF
      drCr := if 0 ≤ roundOff then gain else gain.flip
      amount := |roundOff|
      field := some field }

/-- Only a credit held outside the party ledger moves: a debit where it sat, a credit
to the party. -/
def setOffLegs (partyLedgerId : String) (setOff : SetOffLegInput) : List VoucherLeg :=
  if setOff.ledgerId = partyLedgerId then
    []
  else
    let remarks := setOff.remarks.getD "Advance adjusted"
    push {
      ledgerId := some setOff.ledgerId
      drCr := .DR
      amount := setOff.amount
      remarks := some remarks } ++
    push {
      ledgerId := some partyLedgerId
      drCr := .CR
      amount := setOff.amount
      remarks := some remarks }

/-- The legs of a bill.  The order is the contract: the row numbers follow it. -/
def buildBillLegs (input : BillLegInput) : List VoucherLeg :=
  push {
    ledgerId := some input.partyLedgerId
    drCr := .DR
    amount := billPartyDebit input
    remarks := some "Bill value" } ++
  push {
    role := some .SALES
    roleTag := some .SALES
    drCr := .CR
    amount := input.salesAmount
    supplyNature := some input.supplyNature
    field := some "sbTaxableAmt" } ++
  pushTaxLegs input.taxes input.supplyNature .CR ++
  input.charges.flatMap (billChargeLegs input.supplyNature) ++
  push {
    role := some .DISCOUNT_ALLOWED
    roleTag := some .DISCOUNT_ALLOWED
    drCr := .DR
    amount := input.cashDiscount
    field := some "sbCashDisc" } ++
  push {
    role := some .SCHEME_DISCOUNT
    roleTag := some .SCHEME_DISCOUNT
    drCr := .DR
    amount := input.schemeDiscount
    field := some "sbSchDisc" } ++
  roundOffLegs input.roundOff .CR "sbRoundOff" ++
  push {
    role := some .TCS_PAYABLE
    roleTag := some .TCS_PAYABLE
    drCr := .CR
    amount := input.tcsAmount
    field := some "sbTcsAmt" } ++
  buildCogsLegs input.cogsAmount .ISSUE ++
  input.tenders.flatMap (fun tender => buildTenderLegs tender input.partyLedgerId .BILL) ++
  input.setOffs.flatMap (setOffLegs input.partyLedgerId)

/-- The legs of a sale return, the mirror of a bill under a sales role of its own. -/
def buildReturnLegs (input : ReturnLegInput) : List VoucherLeg :=
  push {
    ledgerId := some input.partyLedgerId
    drCr := .CR
    amount := returnPartyCredit input
    remarks := some "Return value" } ++
  push {
    role := some .SALES_RETURN
    roleTag := some .SALES_RETURN
    drCr := .DR
    amount := input.salesAmount
    supplyNature := some input.supplyNature
    field := some "srTaxableAmt" } ++
  pushTaxLegs input.taxes input.supplyNature .DR ++
  input.charges.flatMap returnChargeLegs ++
  push {
    role := some .DISCOUNT_ALLOWED
    roleTag := some .DISCOUNT_ALLOWED
    drCr := .CR
    amount := input.cashDiscount
    field := some "srCashDisc" } ++
  push {
    role := some .SCHEME_DISCOUNT
    roleTag := some .SCHEME_DISCOUNT
    drCr := .CR
    amount := input.schemeDiscount
    field := some "srSchDisc" } ++
  roundOffLegs input.roundOff .DR "srRoundOff" ++
  buildCogsLegs input.cogsAmount .RETURN ++
  input.tenders.flatMap fun tender => buildTenderLegs tender input.partyLedgerId .RETURN

end ErpServer.Sales
