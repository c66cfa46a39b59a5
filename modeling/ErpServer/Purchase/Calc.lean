import ErpServer.Lib.Spread
import ErpServer.Receipt.Types

/-!
# The purchase calculation

One pure function for the order, the goods receipt, the bill and the return: lines to
their net gross, charges spread over them, tax, credit and cost line by line, and the
totals of the bill.  Figures are exact; money is rounded to two places where the bill
prints it, never earlier.
-/

namespace ErpServer.Purchase

open Lib
open Receipt (Decimal paise)

/-- A figure left out counts as zero. -/
abbrev D (value : Option Decimal) : Decimal := value.getD 0

def HUNDRED : Decimal := 100

abbrev r2 (value : Decimal) : Decimal := Receipt.money value

def r6 (value : Decimal) : Decimal := Grid.halfUp (1 / 1000000) value

def max0 (value : Decimal) : Decimal := if value < 0 then 0 else value

/-! ## What goes in -/

inductive ItcClass where
  | ELIGIBLE
  | INELIGIBLE
  | BLOCKED_17_5
  | RCM
  | COMPOSITION
  | UNREGISTERED
  deriving DecidableEq, Repr

inductive ChargeType where
  | ADD
  | DEDUCT
  deriving DecidableEq, Repr

inductive ChargeMethod where
  | FIXED
  | PERCENT
  | QTY
  | NET_QTY
  | KG
  | QTL
  | TON
  deriving DecidableEq, Repr

inductive ChargeAlloc where
  | VALUE
  | QTY
  | WEIGHT
  | NONE
  deriving DecidableEq, Repr

inductive SupplierTaxMode where
  | REGULAR
  | COMPOSITION
  | UNREGISTERED
  deriving DecidableEq, Repr

/-- A line as it is typed. -/
structure CalcLineIn where
  key : String
  billedQty : Decimal
  receivedQty : Option Decimal
  damagedQty : Option Decimal
  freeQty : Option Decimal
  toBaseFactor : Option Decimal
  rate : Decimal
  discPct : Option Decimal
  discPerQty : Option Decimal
  discAmt : Option Decimal
  schPct : Option Decimal
  schPerQty : Option Decimal
  schAmt : Option Decimal
  extraDiscAmt : Option Decimal
  gstPct : Option Decimal
  cessPct : Option Decimal
  cessPerUnit : Option Decimal
  weight : Option Decimal
  itcClass : Option ItcClass
  shortagePct : Option Decimal
  deriving DecidableEq, Repr

structure Payee where
  partyId : String
  amount : Option Decimal
  deriving DecidableEq, Repr

/-- A charge, with the flags of its master.  One off the bill is always landing cost:
where a charge is built, the flag is set so. -/
structure CalcChargeIn where
  key : String
  type : ChargeType
  method : ChargeMethod
  rate : Decimal
  amount : Option Decimal
  alloc : ChargeAlloc
  beforeTax : Bool
  onBill : Bool
  landingCost : Bool
  taxPct : Option Decimal
  payees : List Payee
  lineKeys : Option (List String)
  offBillLanding : onBill = false → landingCost = true

/-- A bill to calculate.  The step is a rupee, or nothing where the payable is not
rounded; what matters is that it is money. -/
structure CalcIn where
  interState : Bool
  supplierTaxMode : Option SupplierTaxMode
  lines : List CalcLineIn
  charges : List CalcChargeIn
  tcsAmount : Option Decimal
  roundOffStep : Option Decimal
  stepExact : roundOffStep.getD 1 ∈ paise

/-! ## What comes out -/

structure Gst where
  cgst : Decimal
  sgst : Decimal
  igst : Decimal
  deriving DecidableEq, Repr

def Gst.total (tax : Gst) : Decimal := tax.cgst + tax.sgst + tax.igst

/-- A line with its figures. -/
structure CalcLineOut where
  key : String
  gross : Decimal
  discAmt : Decimal
  schAmt : Decimal
  extraDiscAmt : Decimal
  netGross : Decimal
  chrgBeforeTax : Decimal
  chrgAfterTax : Decimal
  offbillShare : Decimal
  taxable : Decimal
  gstPct : Decimal
  tax : Gst
  cess : Decimal
  total : Decimal
  shortQty : Decimal
  absorbedShortQty : Decimal
  pendingShortQty : Decimal
  itcClass : ItcClass
  itcEligible : Decimal
  itcPending : Decimal
  itcIneligible : Decimal
  shortValue : Decimal
  landedValue : Decimal
  landedCostWot : Decimal
  deriving DecidableEq, Repr

structure PayeeOut where
  partyId : String
  amount : Decimal
  deriving DecidableEq, Repr

structure CalcChargeOut where
  key : String
  amount : Decimal
  tax : Gst
  lineShares : OrderedMap String Decimal
  payees : List PayeeOut
  deriving DecidableEq, Repr

/-- A bill calculated. -/
structure CalcOut where
  lines : List CalcLineOut
  charges : List CalcChargeOut
  gross : Decimal
  discount : Decimal
  taxable : Decimal
  tax : Gst
  cess : Decimal
  chargesOnBill : Decimal
  chargeTax : Decimal
  tcs : Decimal
  roundOff : Decimal
  netPayable : Decimal
  offbillCharges : Decimal
  shortValue : Decimal
  itcEligible : Decimal
  itcPending : Decimal
  itcIneligible : Decimal
  deriving DecidableEq, Repr

/-! ## Splits -/

/-- The amount over the weights, two places, the residue on the last weighted entry. -/
def spread (amount : Decimal) (weights : List Decimal) : List Decimal :=
  Spread.spread r2 amount weights

/-- IGST across states, or CGST and SGST halves each rounded on its own. -/
def gst (taxable pct : Decimal) (interState : Bool) : Gst :=
  if pct = 0 ∨ taxable = 0 then ⟨0, 0, 0⟩
  else if interState then ⟨0, 0, r2 (taxable * pct / HUNDRED)⟩
  else
    let half := r2 (taxable * pct / 2 / HUNDRED)
    ⟨half, half, 0⟩

/-! ## 1 · Lines to net gross -/

structure BaseLine where
  line : CalcLineIn
  billed : Decimal
  received : Decimal
  damaged : Decimal
  free : Decimal
  factor : Decimal
  weight : Decimal
  gross : Decimal
  discAmt : Decimal
  schAmt : Decimal
  extraDiscAmt : Decimal
  netGross : Decimal
  itcClass : ItcClass
  deriving DecidableEq, Repr

/-- A composition or unregistered supplier gives a bill of supply. -/
def noTaxSupplier (mode : Option SupplierTaxMode) : Bool :=
  mode = some .COMPOSITION || mode = some .UNREGISTERED

/-- The supplier's type overrides the class of a line. -/
def itcClassOf (mode : Option SupplierTaxMode) (itcClass : Option ItcClass) : ItcClass :=
  match mode with
  | some .COMPOSITION => .COMPOSITION
  | some .UNREGISTERED => .UNREGISTERED
  | some .REGULAR => itcClass.getD .ELIGIBLE
  | none => itcClass.getD .ELIGIBLE

/-- A discount: a percentage of what it is taken off, or so much per unit, or an
amount; the first of the three that is given. -/
def reduction (pct perQty amount : Option Decimal) (base billed : Decimal) : Decimal :=
  if D pct ≠ 0 then r2 (base * D pct / HUNDRED)
  else if D perQty ≠ 0 then r2 (billed * D perQty)
  else r2 (D amount)

def baseLine (mode : Option SupplierTaxMode) (line : CalcLineIn) : BaseLine :=
  let billed := line.billedQty
  let damaged := D line.damagedQty
  let gross := r2 (billed * line.rate)
  let discAmt := reduction line.discPct line.discPerQty line.discAmt gross billed
  let afterDisc := gross - discAmt
  let schAmt := reduction line.schPct line.schPerQty line.schAmt afterDisc billed
  let extraDiscAmt := r2 (D line.extraDiscAmt)
  { line := line
    billed := billed
    received := match line.receivedQty with
      | none => max0 (billed - damaged)
      | some received => received
    damaged := damaged
    free := D line.freeQty
    factor := line.toBaseFactor.getD 1
    weight := D line.weight
    gross := gross
    discAmt := discAmt
    schAmt := schAmt
    extraDiscAmt := extraDiscAmt
    netGross := afterDisc - schAmt - extraDiscAmt
    itcClass := itcClassOf mode line.itcClass }

def baseLines (input : CalcIn) : List BaseLine :=
  input.lines.map (baseLine input.supplierTaxMode)

/-! ## 2 · Charges: amount, then spread -/

/-- The lines a charge is restricted to. -/
def chargeLines (charge : CalcChargeIn) (base : List BaseLine) : List BaseLine :=
  base.filter fun b => match charge.lineKeys with
    | none => true
    | some keys => b.line.key ∈ keys

/-- A typed amount wins over the method. -/
def chargeAmount (charge : CalcChargeIn) (base : List BaseLine) : Decimal :=
  let lines := chargeLines charge base
  let qty := (lines.map BaseLine.billed).sum
  let wt := (lines.map BaseLine.weight).sum
  if D charge.amount ≠ 0 then r2 |D charge.amount|
  else match charge.method with
    | .FIXED => r2 |charge.rate|
    | .PERCENT => r2 ((lines.map BaseLine.netGross).sum * charge.rate / HUNDRED)
    | .QTY => r2 (qty * charge.rate)
    | .NET_QTY => r2 (qty * charge.rate)
    | .KG => r2 (wt * charge.rate)
    | .QTL => r2 (wt * charge.rate / 100)
    | .TON => r2 (wt * charge.rate / 1000)

def signedAmount (charge : CalcChargeIn) (base : List BaseLine) : Decimal :=
  match charge.type with
  | .DEDUCT => -chargeAmount charge base
  | .ADD => chargeAmount charge base

/-- What a charge is spread by: the weights its allocation names, or the net gross
where all of those are zero. -/
def chargeWeights (charge : CalcChargeIn) (base : List BaseLine) : List Decimal :=
  let lines := chargeLines charge base
  let weights := lines.map fun b => match charge.alloc with
    | .QTY => b.billed * b.factor
    | .WEIGHT => b.weight
    | .VALUE => b.netGross
    | .NONE => b.netGross
  if weights.any fun weight => weight ≠ 0 then weights else lines.map BaseLine.netGross

def chargeParts (charge : CalcChargeIn) (base : List BaseLine) : List Decimal :=
  spread (signedAmount charge base) (chargeWeights charge base)

/-- What a line has been given of the charges so far. -/
structure LineShare where
  before : Decimal
  after : Decimal
  offbill : Decimal
  beforeNotLanding : Decimal
  afterNotLanding : Decimal
  deriving DecidableEq, Repr

def LineShare.zero : LineShare := ⟨0, 0, 0, 0, 0⟩

def LineShare.add (charge : CalcChargeIn) (part : Decimal) (share : LineShare) : LineShare :=
  if charge.onBill then
    if charge.beforeTax then
      { share with
        before := share.before + part
        beforeNotLanding := if charge.landingCost then share.beforeNotLanding
          else share.beforeNotLanding + part }
    else
      { share with
        after := share.after + part
        afterNotLanding := if charge.landingCost then share.afterNotLanding
          else share.afterNotLanding + part }
  else { share with offbill := share.offbill + part }

/-- One part of a charge, put under the key of its line. -/
def addPart (charge : CalcChargeIn) (shares : OrderedMap String LineShare)
    (entry : BaseLine × Decimal) : OrderedMap String LineShare :=
  match shares.get? entry.1.line.key with
  | none => shares
  | some share => shares.set entry.1.line.key (share.add charge entry.2)

/-- The lines of a charge, each with its part. -/
def chargeEntries (charge : CalcChargeIn) (base : List BaseLine) : List (BaseLine × Decimal) :=
  (chargeLines charge base).zip (chargeParts charge base)

def addCharge (base : List BaseLine) (shares : OrderedMap String LineShare)
    (charge : CalcChargeIn) : OrderedMap String LineShare :=
  (chargeEntries charge base).foldl (addPart charge) shares

def sharesOf (charges : List CalcChargeIn) (base : List BaseLine) :
    OrderedMap String LineShare :=
  charges.foldl (addCharge base) (.ofList (base.map fun b => (b.line.key, LineShare.zero)))

/-- Given amounts win; the open ones take the rest in turn. -/
def payeeAmounts : List Payee → List Decimal → List PayeeOut
  | [], _ => []
  | payee :: payees, rest =>
      match payee.amount with
      | some amount => ⟨payee.partyId, r2 amount⟩ :: payeeAmounts payees rest
      | none => ⟨payee.partyId, rest.headD 0⟩ :: payeeAmounts payees rest.tail

def chargePayees (charge : CalcChargeIn) (amount : Decimal) : List PayeeOut :=
  if charge.onBill then []
  else
    let given := ((charge.payees.filterMap Payee.amount).map r2).sum
    let openPayees := charge.payees.filter fun payee => payee.amount.isNone
    payeeAmounts charge.payees (spread (amount - given) (openPayees.map fun _ => 1))

def chargeOut (input : CalcIn) (base : List BaseLine) (charge : CalcChargeIn) : CalcChargeOut :=
  let signed := signedAmount charge base
  { key := charge.key
    amount := signed
    tax := if charge.onBill && !charge.beforeTax && !noTaxSupplier input.supplierTaxMode &&
        D charge.taxPct ≠ 0 then gst signed (D charge.taxPct) input.interState
      else ⟨0, 0, 0⟩
    lineShares := .ofList ((chargeEntries charge base).map fun entry =>
      (entry.1.line.key, entry.2))
    payees := chargePayees charge (chargeAmount charge base) }

/-! ## 3 · Tax, credit, short and cost of a line -/

def isTaxed (itcClass : ItcClass) : Bool :=
  !(itcClass = .COMPOSITION || itcClass = .UNREGISTERED || itcClass = .RCM)

/-- The credit of a line: on what arrived, on what is still owed, and what is lost. -/
structure Credit where
  eligible : Decimal
  pending : Decimal
  ineligible : Decimal
  deriving DecidableEq, Repr

def creditOf (b : BaseLine) (tax pending absorbed : Decimal) : Credit :=
  if b.billed ≠ 0 ∧ tax ≠ 0 then
    let pendingPart := r2 (tax * pending / b.billed)
    let lostPart := r2 (tax * absorbed / b.billed)
    if b.itcClass = .INELIGIBLE ∨ b.itcClass = .BLOCKED_17_5 then
      ⟨0, pendingPart, tax - pendingPart⟩
    else ⟨tax - pendingPart - lostPart, pendingPart, lostPart⟩
  else ⟨0, 0, 0⟩

def lineOut (interState : Bool) (share : LineShare) (b : BaseLine) : CalcLineOut :=
  let taxable := b.netGross + share.before
  let gstPct := if isTaxed b.itcClass then D b.line.gstPct else 0
  let t := gst taxable gstPct interState
  let cess := if isTaxed b.itcClass then
      r2 (taxable * D b.line.cessPct / HUNDRED + b.billed * D b.line.cessPerUnit)
    else 0
  let tax := t.cgst + t.sgst + t.igst + cess
  let short := max0 (b.billed - b.received - b.damaged)
  let allowance := b.received * D b.line.shortagePct / HUNDRED
  let absorbed := if short = 0 ∨ allowance < short then 0 else short
  let pending := short - absorbed
  let credit := creditOf b tax pending absorbed
  let shortValue := if b.billed = 0 then 0 else r2 (taxable * pending / b.billed)
  let landedValue := r2 (taxable - share.beforeNotLanding + (share.after - share.afterNotLanding) +
    share.offbill + credit.ineligible - shortValue)
  let inQtyBase := (b.received + b.damaged + b.free) * b.factor
  { key := b.line.key
    gross := b.gross
    discAmt := b.discAmt
    schAmt := b.schAmt
    extraDiscAmt := b.extraDiscAmt
    netGross := b.netGross
    chrgBeforeTax := share.before
    chrgAfterTax := share.after
    offbillShare := share.offbill
    taxable := taxable
    gstPct := gstPct
    tax := t
    cess := cess
    total := taxable + tax
    shortQty := short
    absorbedShortQty := absorbed
    pendingShortQty := pending
    itcClass := b.itcClass
    itcEligible := credit.eligible
    itcPending := credit.pending
    itcIneligible := credit.ineligible
    shortValue := shortValue
    landedValue := landedValue
    landedCostWot := if inQtyBase = 0 then 0 else r6 (landedValue / inQtyBase) }

/-! ## 4 · The bill -/

def linesOut (input : CalcIn) : List CalcLineOut :=
  let base := baseLines input
  let shares := sharesOf input.charges base
  base.map fun b => lineOut input.interState ((shares.get? b.line.key).getD .zero) b

def chargesOut (input : CalcIn) : List CalcChargeOut :=
  input.charges.map (chargeOut input (baseLines input))

/-- The amounts of the charges of one kind. -/
def chargesWhere (kind : CalcChargeIn → Bool) (input : CalcIn) : Decimal :=
  (((input.charges.zip (chargesOut input)).filter fun entry => kind entry.1).map fun entry =>
    entry.2.amount).sum

def sumLines (input : CalcIn) (figure : CalcLineOut → Decimal) : Decimal :=
  ((linesOut input).map figure).sum

def onBillAfter (input : CalcIn) : Decimal :=
  chargesWhere (fun charge => charge.onBill && !charge.beforeTax) input

def chargeTax (input : CalcIn) : Decimal :=
  ((chargesOut input).map fun charge => charge.tax.total).sum

/-- The payable before it is rounded. -/
def rawPayable (input : CalcIn) : Decimal :=
  sumLines input CalcLineOut.total + onBillAfter input + chargeTax input + r2 (D input.tcsAmount)

/-- Rounded half up to the step; no step, no rounding. -/
def roundToStep (raw step : Decimal) : Decimal :=
  if step = 0 then raw else Grid.halfUp 1 (raw / step) * step

def calcPurchase (input : CalcIn) : CalcOut :=
  let raw := rawPayable input
  let rounded := roundToStep raw (input.roundOffStep.getD 1)
  { lines := linesOut input
    charges := chargesOut input
    gross := sumLines input CalcLineOut.gross
    discount := sumLines input fun line => line.discAmt + line.schAmt + line.extraDiscAmt
    taxable := sumLines input CalcLineOut.taxable
    tax := ⟨sumLines input fun line => line.tax.cgst, sumLines input fun line => line.tax.sgst,
      sumLines input fun line => line.tax.igst⟩
    cess := sumLines input CalcLineOut.cess
    chargesOnBill := onBillAfter input + sumLines input CalcLineOut.chrgBeforeTax
    chargeTax := chargeTax input
    tcs := r2 (D input.tcsAmount)
    roundOff := r2 (rounded - raw)
    netPayable := r2 rounded
    offbillCharges := chargesWhere (fun charge => !charge.onBill) input
    shortValue := sumLines input CalcLineOut.shortValue
    itcEligible := sumLines input CalcLineOut.itcEligible + chargeTax input
    itcPending := sumLines input CalcLineOut.itcPending
    itcIneligible := sumLines input CalcLineOut.itcIneligible }

end ErpServer.Purchase
