import ErpServer.Lib.DoubleEntry
import ErpServer.Vouchers.Facts

/-!
# Deriving an expense voucher

The lines become debit legs, the input tax that may be claimed becomes debit legs of its own
by ledger, and the tenders become the credit legs.  Tax that may not be claimed is part of
what the line cost.  Every refusal is collected.
-/

namespace ErpServer.Expense

open Lib
open Receipt (Decimal DrCr money toFixed)
open Vouchers

/-! ## What is read -/

inductive ExpenseErrorCode where
  | TOTAL_MISMATCH
  | LEDGER_NOT_EXPENSE
  | GST_INCOMPLETE
  | GST_RATE_MISSING
  | GST_LEDGER_UNMAPPED
  | TENDER_NOT_ALLOWED
  | NO_LINES
  deriving DecidableEq, Repr

abbrev Refusal := VoucherRefusal ExpenseErrorCode

/-- A line as it is typed. -/
structure ExpenseLineInput where
  rowNo : ℕ
  ledgerId : Uuid
  /-- Without a GST bill the line's whole amount, with one its taxable value. -/
  amount : Decimal
  description : Option String
  costCentreId : Option Uuid
  taxId : Option Uuid
  hsn : Option Text
  /-- Claim the input tax. -/
  itc : Bool

structure ExpenseGstBillInput where
  supplierGstin : Option Text
  invoiceNo : String
  invoiceDate : String
  placeOfSupplyCode : Option Text

structure ExpenseDraftLines where
  lines : List ExpenseLineInput
  gstBill : Option ExpenseGstBillInput

/-- A tender row as the payment normalises it: a figure of two places above zero. -/
structure NormalisedPaymentTender where
  rowNo : ℕ
  tenderId : Uuid
  tenderName : String
  tenderTypeId : ℕ
  tenderTypeName : String
  tenderLedgerId : Uuid
  clearingLedgerId : Option Uuid
  amount : Decimal
  mdrAmt : Decimal
  refNo : Option String
  isCheque : Bool
  isPdc : Bool
  tdId : Option Uuid
  amount_mem : amount ∈ Receipt.paise
  amount_pos : 0 < amount

inductive ExpenseMoneyFrom where
  | DRAWER | SAFE | LEDGER
  deriving DecidableEq, Repr

structure ExpenseFacts where
  company : CompanyFacts
  ledgers : Uuid → Option LedgerFacts
  /-- The line ledgers that sit under an Expenses group. -/
  expenseLedgerIds : Uuid → Bool
  party : Option LedgerFacts
  taxRates : Uuid → Option TaxRateFacts
  /-- The ledger of an input component, by rate and nature. -/
  roleLedgers : GstComponent → Uuid → SupplyNature → Option ResolvedRoleLedger
  tenders : List NormalisedPaymentTender
  ledgerNames : Uuid → Option String
  cashFrom : ExpenseMoneyFrom
  cashLedgerId : Option Uuid

def CASH_TENDER_TYPE_ID : ℕ := 1

/-! ## What is returned -/

structure VoucherLeg where
  ledgerId : Uuid
  /-- The input tax it posts. -/
  role : Option GstComponent
  drCr : DrCr
  amount : Decimal
  remarks : Option String
  field : String
  deriving DecidableEq, Repr

def inputRole (component : GstComponent) : String := "INPUT_" ++ component.toString

structure DerivedGstLine where
  rowNo : ℕ
  ledgerId : Uuid
  ledgerName : String
  hsn : Option Text
  isService : Bool
  taxable : Decimal
  rate : TaxRateFacts
  tax : GstAmounts
  itcEligibility : ItcClass
  /-- The input-tax ledgers it posted to. -/
  taxLedgers : GstComponent → Option Uuid

structure GstHead where
  supplyNature : SupplyNature
  placeOfSupplyCode : Text
  supplierGstin : Text
  invoiceNo : String
  invoiceDate : String
  deriving DecidableEq, Repr

structure DerivedGst where
  head : GstHead
  taxable : Decimal
  tax : GstAmounts
  lines : List DerivedGstLine

structure ExpenseLinePayload where
  line : ExpenseLineInput
  ledgerName : Option String
  taxName : Option String
  tax : GstAmounts
  total : Decimal
  itcEligibility : Option ItcClass

structure ExpenseTenderPayload where
  tdId : Option Uuid
  rowNo : ℕ
  tenderId : Uuid
  tenderName : String
  tenderTypeId : ℕ
  tenderTypeName : String
  amount : Decimal
  refNo : Option String
  ledgerId : Uuid
  ledgerName : Option String
  moneyFrom : ExpenseMoneyFrom

structure ExpenseLegPayload where
  rowNo : ℕ
  drCr : DrCr
  ledgerId : Uuid
  ledgerName : Option String
  role : Option GstComponent
  amount : Decimal
  remarks : Option String
  /-- The expense line it comes from. -/
  line : Option ℕ

structure ExpenseDerivedPayload where
  total : Decimal
  taxable : Decimal
  tax : GstAmounts
  supplyNature : Option SupplyNature
  placeOfSupplyCode : Option Text
  lines : List ExpenseLinePayload
  tenders : List ExpenseTenderPayload
  legs : List ExpenseLegPayload

/-- All that is derived of an expense. -/
structure DerivedExpense where
  payload : ExpenseDerivedPayload
  /-- In row order: lines, input tax, tenders. -/
  legs : List VoucherLeg
  /-- The cost centre of each line leg. -/
  costCentres : List (ℕ × Uuid)
  gst : Option DerivedGst
  refusals : List Refusal

/-! ## The bill -/

variable (cases : Text.CaseMapping)

def isDigit (char : Char) : Bool := '0' ≤ char ∧ char ≤ '9'

/-- Two digits, then thirteen digits or capital letters. -/
def isGstin (gstin : Text) : Bool :=
  gstin.length = 15 ∧ (gstin.take 2).all isDigit ∧
    (gstin.drop 2).all fun char => isDigit char ∨ ('A' ≤ char ∧ char ≤ 'Z')

/-- The GSTIN typed, or the supplier ledger's own. -/
def gstinOf (facts : ExpenseFacts) (bill : ExpenseGstBillInput) : Text :=
  cases.toUpperCase (Text.trim ((bill.supplierGstin.or (facts.party.bind (·.gstin))).getD []))

def headOf (facts : ExpenseFacts) (bill : ExpenseGstBillInput) : GstHead :=
  let gstin := gstinOf cases facts bill
  let pos := bill.placeOfSupplyCode.getD
    (if gstin.take 2 = [] then facts.company.stateCode else gstin.take 2)
  { supplyNature := if pos = facts.company.stateCode then .INTRA else .INTER
    placeOfSupplyCode := pos
    supplierGstin := gstin
    invoiceNo := bill.invoiceNo
    invoiceDate := bill.invoiceDate }

def billRefusals (facts : ExpenseFacts) (bill : ExpenseGstBillInput) : List Refusal :=
  (if facts.party.isNone then
    [⟨.GST_INCOMPLETE, "An expense with a GST bill names its supplier ledger (partyId): " ++
      "GSTR-2 files the bill under it", some "partyId", none⟩]
  else []) ++
  if isGstin (gstinOf cases facts bill) then []
  else
    [⟨.GST_INCOMPLETE, "A GST bill needs the supplier’s GSTIN — type it, or give the supplier " ++
      "ledger one", some "gstBill.supplierGstin", none⟩]

/-! ## A line -/

def lineField (line : ExpenseLineInput) : String := "lines." ++ toString line.rowNo

def rowText (line : ExpenseLineInput) : String := "Row " ++ toString line.rowNo

def rowRefusals (seenRows : List ℕ) (line : ExpenseLineInput) : List Refusal :=
  if line.rowNo ∈ seenRows then
    [⟨.NO_LINES, rowText line ++ " appears twice", some (lineField line), some line.rowNo⟩]
  else []

def ledgerRefusals (facts : ExpenseFacts) (line : ExpenseLineInput) : List Refusal :=
  match facts.ledgers line.ledgerId with
  | none => notLive
  | some ledger =>
      if !ledger.isActive || ledger.isDeleted then notLive
      else if !facts.expenseLedgerIds ledger.ledId || ledger.isParty ||
          isMoneyLedger cases ledger then
        [⟨.LEDGER_NOT_EXPENSE, rowText line ++ ": " ++ ledger.name ++
          " is not an expense ledger — a supplier is paid by a bill-wise Payment, money is " ++
          "moved by a contra", some (lineField line ++ ".ledgerId"), some line.rowNo⟩]
      else []
where
  notLive : List Refusal :=
    [⟨.LEDGER_NOT_EXPENSE, rowText line ++ ": not a live ledger of this company",
      some (lineField line ++ ".ledgerId"), some line.rowNo⟩]

def amountRefusals (line : ExpenseLineInput) : List Refusal :=
  if money line.amount ≤ 0 then
    [⟨.NO_LINES, rowText line ++ ": the amount must be above zero",
      some (lineField line ++ ".amount"), some line.rowNo⟩]
  else []

/-- The rate of a line of a GST bill, or why there is none. -/
def rateOf (facts : ExpenseFacts) (line : ExpenseLineInput) : Except Refusal TaxRateFacts :=
  match line.taxId with
  | none =>
      .error ⟨.GST_INCOMPLETE, rowText line ++ ": pick the GST rate",
        some (lineField line ++ ".taxId"), some line.rowNo⟩
  | some taxId =>
      match (facts.taxRates taxId).filter (·.isActive) with
      | none =>
          .error ⟨.GST_RATE_MISSING, rowText line ++ ": the GST rate named is not an active rate",
            some (lineField line ++ ".taxId"), some line.rowNo⟩
      | some rate => .ok rate

def itcOf (facts : ExpenseFacts) (line : ExpenseLineInput) : ItcClass :=
  if line.itc then
    (itcClassOf cases ((facts.ledgers line.ledgerId).bind (·.itcEligibility))).getD
      (if isServiceCode line.hsn then .INPUT_SERVICES else .INPUTS)
  else .INELIGIBLE

/-- What a ledger of input tax has been posted. -/
structure TaxLeg where
  role : GstComponent
  amount : Decimal
  rows : List ℕ
  deriving DecidableEq, Repr

/-- The input tax posted so far, and the components no ledger answers for. -/
structure InputTax where
  taxLegs : OrderedMap Uuid TaxLeg
  unmapped : List GstComponent
  taxLedgers : GstComponent → Option Uuid
  refusals : List Refusal

/-- Add to the ledger's leg, which takes the first component posted to it. -/
def postTax (taxLegs : OrderedMap Uuid TaxLeg) (ledgerId : Uuid) (component : GstComponent)
    (value : Decimal) (rowNo : ℕ) : OrderedMap Uuid TaxLeg :=
  match taxLegs.get? ledgerId with
  | some current =>
      taxLegs.set ledgerId
        { current with amount := current.amount + value, rows := current.rows ++ [rowNo] }
  | none => taxLegs.set ledgerId ⟨component, value, [rowNo]⟩

/-- One component of a line's tax. -/
def claimComponent (facts : ExpenseFacts) (head : GstHead) (rate : TaxRateFacts)
    (line : ExpenseLineInput) (tax : GstAmounts) (posted : InputTax) (component : GstComponent) :
    InputTax :=
  if tax.get component = 0 then posted
  else
    match facts.roleLedgers component rate.taxId head.supplyNature with
    | none =>
        if component ∈ posted.unmapped then posted
        else
          { posted with
            unmapped := posted.unmapped ++ [component]
            refusals := posted.refusals ++
              [⟨.GST_LEDGER_UNMAPPED, "No ledger is mapped for " ++ inputRole component ++ " (" ++
                head.supplyNature.describe ++ "-state) — map it in Posting Ledgers (menu 250)",
                some (lineField line ++ ".taxId"), some line.rowNo⟩] }
    | some hit =>
        { posted with
          taxLegs := postTax posted.taxLegs hit.ledgerId component (tax.get component) line.rowNo
          taxLedgers := fun other =>
            if other = component then some hit.ledgerId else posted.taxLedgers other }

def GST_COMPONENTS : List GstComponent := [.CGST, .SGST, .IGST, .CESS]

/-- The tax of a line that may be claimed goes to the ledgers of its components. -/
def claimTax (facts : ExpenseFacts) (head : GstHead) (rate : TaxRateFacts)
    (line : ExpenseLineInput) (tax : GstAmounts) (taxLegs : OrderedMap Uuid TaxLeg)
    (unmapped : List GstComponent) : InputTax :=
  GST_COMPONENTS.foldl (claimComponent facts head rate line tax)
    ⟨taxLegs, unmapped, fun _ => none, []⟩

/-! ## The lines -/

/-- The variables of the loop over the lines. -/
structure LineRun where
  lineLegs : List VoucherLeg
  costCentres : List (ℕ × Uuid)
  lines : List ExpenseLinePayload
  gstLines : List DerivedGstLine
  taxLegs : OrderedMap Uuid TaxLeg
  unmapped : List GstComponent
  seenRows : List ℕ
  total : Decimal
  taxable : Decimal
  tax : GstAmounts
  refusals : List Refusal

def LineRun.start (refusals : List Refusal) : LineRun :=
  ⟨[], [], [], [], .empty, [], [], 0, 0, .zero, refusals⟩

/-- What the GST of a line comes to. -/
structure LineGst where
  tax : GstAmounts
  costTax : Decimal
  itcEligibility : Option ItcClass
  taxName : Option String
  gstLine : Option DerivedGstLine
  taxLegs : OrderedMap Uuid TaxLeg
  unmapped : List GstComponent
  refusals : List Refusal

/-- The GST of a line of a bill; without credit the tax is what the expense cost. -/
def gstOf (facts : ExpenseFacts) (head : Option GstHead) (run : LineRun)
    (line : ExpenseLineInput) : LineGst :=
  match head with
  | none => ⟨.zero, 0, none, none, none, run.taxLegs, run.unmapped, []⟩
  | some head =>
      match rateOf facts line with
      | .error refusal => ⟨.zero, 0, none, none, none, run.taxLegs, run.unmapped, [refusal]⟩
      | .ok rate =>
          let amount := money line.amount
          let tax := taxOf head.supplyNature rate amount
          let eligibility := itcOf cases facts line
          let claimed :=
            if eligibility = .INELIGIBLE then ⟨run.taxLegs, run.unmapped, fun _ => none, []⟩
            else claimTax facts head rate line tax run.taxLegs run.unmapped
          { tax := tax
            costTax := if eligibility = .INELIGIBLE then tax.total else 0
            itcEligibility := some eligibility
            taxName := some rate.name
            gstLine := (facts.ledgers line.ledgerId).map fun ledger =>
              { rowNo := line.rowNo
                ledgerId := ledger.ledId
                ledgerName := ledger.name
                hsn := line.hsn
                isService := isServiceCode line.hsn
                taxable := amount
                rate := rate
                tax := tax
                itcEligibility := eligibility
                taxLedgers := claimed.taxLedgers }
            taxLegs := claimed.taxLegs
            unmapped := claimed.unmapped
            refusals := claimed.refusals }

def lineLeg (line : ExpenseLineInput) (costTax : Decimal) : VoucherLeg where
  ledgerId := line.ledgerId
  role := none
  drCr := .DR
  amount := money (money line.amount + costTax)
  remarks := line.description
  field := lineField line ++ ".ledgerId"

def deriveLine (facts : ExpenseFacts) (head : Option GstHead) (run : LineRun)
    (line : ExpenseLineInput) : LineRun :=
  let amount := money line.amount
  let gst := gstOf cases facts head run line
  let lineLegs := run.lineLegs ++ [lineLeg line gst.costTax]
  { lineLegs := lineLegs
    costCentres := run.costCentres ++ (line.costCentreId.map fun centre =>
      (lineLegs.length, centre)).toList
    lines := run.lines ++ [{
      line := line
      ledgerName := (facts.ledgers line.ledgerId).map (·.name)
      taxName := gst.taxName
      tax := ⟨money gst.tax.cgst, money gst.tax.sgst, money gst.tax.igst, money gst.tax.cess⟩
      total := money (amount + gst.tax.total)
      itcEligibility := gst.itcEligibility }]
    gstLines := run.gstLines ++ gst.gstLine.toList
    taxLegs := gst.taxLegs
    unmapped := gst.unmapped
    seenRows := line.rowNo :: run.seenRows
    total := run.total + (amount + gst.tax.total)
    taxable := run.taxable + amount
    tax := run.tax.plus gst.tax
    refusals := run.refusals ++ rowRefusals run.seenRows line ++ ledgerRefusals cases facts line ++
      amountRefusals line ++ gst.refusals }

/-! ## The tenders -/

def tenderField (tender : NormalisedPaymentTender) : String :=
  "tenders." ++ toString tender.rowNo

def tenderRefusals (tender : NormalisedPaymentTender) : List Refusal :=
  (if tender.isCheque || tender.isPdc then
    [⟨.TENDER_NOT_ALLOWED, "Tender " ++ toString tender.rowNo ++ ": an expense is not paid by " ++
      "cheque here — a cheque goes on a bill-wise Payment, which keeps the issued-cheque register",
      some (tenderField tender ++ ".tdTenderId"), none⟩]
  else []) ++
  if 0 < tender.mdrAmt then
    [⟨.TENDER_NOT_ALLOWED, "Tender " ++ toString tender.rowNo ++ ": a bank charge is an expense " ++
      "line of its own, not a tender deduction", some (tenderField tender ++ ".tdMdrAmt"), none⟩]
  else []

/-- Where a tender's money comes from: the till's ledger for cash, else the tender's own. -/
def tenderLedger (facts : ExpenseFacts) (tender : NormalisedPaymentTender) : Uuid :=
  let own := tender.clearingLedgerId.getD tender.tenderLedgerId
  if tender.tenderTypeId = CASH_TENDER_TYPE_ID then facts.cashLedgerId.getD own else own

def tenderLeg (facts : ExpenseFacts) (tender : NormalisedPaymentTender) : VoucherLeg where
  ledgerId := tenderLedger facts tender
  role := none
  drCr := .CR
  amount := money tender.amount
  remarks := some (match tender.refNo with
    | some refNo => if refNo = "" then tender.tenderName else tender.tenderName ++ " " ++ refNo
    | none => tender.tenderName)
  field := tenderField tender ++ ".tdTenderId"

def tenderPayload (facts : ExpenseFacts) (tender : NormalisedPaymentTender) :
    ExpenseTenderPayload where
  tdId := tender.tdId
  rowNo := tender.rowNo
  tenderId := tender.tenderId
  tenderName := tender.tenderName
  tenderTypeId := tender.tenderTypeId
  tenderTypeName := tender.tenderTypeName
  amount := money tender.amount
  refNo := tender.refNo
  ledgerId := tenderLedger facts tender
  ledgerName := facts.ledgerNames (tenderLedger facts tender)
  moneyFrom := if tender.tenderTypeId = CASH_TENDER_TYPE_ID then facts.cashFrom else .LEDGER

def paidOf (facts : ExpenseFacts) : Decimal := (facts.tenders.map (·.amount)).sum

def totalRefusals (paid total : Decimal) : List Refusal :=
  if paid = total then []
  else
    [⟨.TOTAL_MISMATCH, "The lines come to " ++ toFixed total ++ " and the tenders to " ++
      toFixed paid ++ ": they must be equal", some "tenders", none⟩]

/-! ## The voucher -/

def taxLegOf (entry : Uuid × TaxLeg) : VoucherLeg where
  ledgerId := entry.1
  role := some entry.2.role
  drCr := .DR
  amount := money entry.2.amount
  remarks := some ("Input " ++ entry.2.role.toString ++ " on rows " ++
    ", ".intercalate (entry.2.rows.map toString))
  field := "gstBill"

def legPayload (draft : ExpenseDraftLines) (facts : ExpenseFacts) (lineLegs : ℕ)
    (entry : VoucherLeg × ℕ) : ExpenseLegPayload where
  rowNo := entry.2 + 1
  drCr := entry.1.drCr
  ledgerId := entry.1.ledgerId
  ledgerName := ((facts.ledgers entry.1.ledgerId).map (·.name)).or
    (facts.ledgerNames entry.1.ledgerId)
  role := entry.1.role
  amount := entry.1.amount
  remarks := entry.1.remarks
  line := if entry.2 < lineLegs then draft.lines[entry.2]?.map (·.rowNo) else none

/-- The refusals before the lines: those of the bill, and that there are lines. -/
def headRefusals (draft : ExpenseDraftLines) (facts : ExpenseFacts) : List Refusal :=
  (match draft.gstBill with
    | none => []
    | some bill => billRefusals cases facts bill) ++
  if draft.lines = [] then
    [⟨.NO_LINES, "An expense voucher has at least one line", some "lines", none⟩]
  else []

def runLines (draft : ExpenseDraftLines) (facts : ExpenseFacts) : LineRun :=
  draft.lines.foldl (deriveLine cases facts (draft.gstBill.map (headOf cases facts)))
    (.start (headRefusals cases draft facts))

def legsOf (facts : ExpenseFacts) (run : LineRun) : List VoucherLeg :=
  run.lineLegs ++ run.taxLegs.entries.map taxLegOf ++ facts.tenders.map (tenderLeg facts)

def deriveExpense (draft : ExpenseDraftLines) (facts : ExpenseFacts) : DerivedExpense :=
  let head := draft.gstBill.map (headOf cases facts)
  let run := runLines cases draft facts
  let legs := legsOf facts run
  { payload :=
      { total := money run.total
        taxable := money run.taxable
        tax := ⟨money run.tax.cgst, money run.tax.sgst, money run.tax.igst, money run.tax.cess⟩
        supplyNature := head.map (·.supplyNature)
        placeOfSupplyCode := head.map (·.placeOfSupplyCode)
        lines := run.lines
        tenders := facts.tenders.map (tenderPayload facts)
        legs := legs.zipIdx.map (legPayload draft facts run.lineLegs.length) }
    legs := legs
    costCentres := run.costCentres
    gst := match head with
      | none => none
      | some head =>
          if run.gstLines = [] then none
          else some ⟨head, run.taxable, run.tax, run.gstLines⟩
    refusals := run.refusals ++ facts.tenders.flatMap tenderRefusals ++
      totalRefusals (paidOf facts) run.total }

end ErpServer.Expense
