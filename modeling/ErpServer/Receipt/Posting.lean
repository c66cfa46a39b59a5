import ErpServer.Receipt.Lines
import ErpServer.Lib.DoubleEntry
import ErpServer.Receipt.AllocationEngine

/-!
# The bills a post names

The outstanding row of a bill, with what its table promises of it, the lock a post
takes on the rows it names, and the checks that such a row is the thing the post
thinks it is.
-/

namespace ErpServer.Receipt

open Lib

namespace VCH

def BILL_NOT_FOUND : String := "VCH_BILL_NOT_FOUND"
def BILL_WRONG_PARTY : String := "VCH_BILL_WRONG_PARTY"
def BILL_WRONG_SIDE : String := "VCH_BILL_WRONG_SIDE"

end VCH

inductive BillType where
  | SALES
  | PURCHASE
  | SALES_RETURN
  | PURCHASE_RETURN
  | OPENING
  | ADVANCE
  | INTEREST
  | JOURNAL
  deriving DecidableEq, Repr

def BillType.toString : BillType → String
  | SALES => "SALES"
  | PURCHASE => "PURCHASE"
  | SALES_RETURN => "SALES_RETURN"
  | PURCHASE_RETURN => "PURCHASE_RETURN"
  | OPENING => "OPENING"
  | ADVANCE => "ADVANCE"
  | INTEREST => "INTEREST"
  | JOURNAL => "JOURNAL"

def RECEIVABLE_BILL_TYPES : List BillType := [.SALES, .OPENING, .INTEREST, .JOURNAL, .PURCHASE_RETURN]

def CREDIT_BILL_TYPES : List BillType := [.ADVANCE, .SALES_RETURN, .OPENING, .JOURNAL]

/-- The three cached totals of a bill. -/
structure SettledAmounts where
  alloc : Decimal
  disc : Decimal
  writeoff : Decimal
  deriving DecidableEq, Repr

def SettledAmounts.total (amounts : SettledAmounts) : Decimal :=
  amounts.alloc + amounts.disc + amounts.writeoff

/-- What the table accepts beside a bill amount: two-place figures, none negative,
that never add up past the bill (`ck_abl_settled`). -/
structure CkAblSettled (billAmount : Decimal) (amounts : SettledAmounts) : Prop where
  allocExact : money amounts.alloc = amounts.alloc
  discExact : money amounts.disc = amounts.disc
  writeoffExact : money amounts.writeoff = amounts.writeoff
  allocNonneg : 0 ≤ amounts.alloc
  discNonneg : 0 ≤ amounts.disc
  writeoffNonneg : 0 ≤ amounts.writeoff
  fits : amounts.total ≤ billAmount

/-- The outstanding row of a bill. -/
structure AccBillBalance where
  ablId : String
  ablAccYear : String
  ablPartyId : String
  ablCompanyId : String
  ablBillType : BillType
  ablDocRefno : String
  ablBillAmount : Decimal
  ablSettled : SettledAmounts
  ablSettledOn : Option Date
  ablDrCr : DrCr
  ablIsDeleted : Bool
  amountExact : money ablBillAmount = ablBillAmount
  amountPositive : 0 < ablBillAmount
  settledFits : CkAblSettled ablBillAmount ablSettled

namespace AccBillBalance

def ref (bill : AccBillBalance) : BillRef := ⟨bill.ablId, bill.ablAccYear⟩

/-- The generated column: what no settlement has covered yet. -/
def ablPendingAmount (bill : AccBillBalance) : Decimal :=
  bill.ablBillAmount - bill.ablSettled.alloc - bill.ablSettled.disc - bill.ablSettled.writeoff

theorem pending_eq (bill : AccBillBalance) :
    bill.ablPendingAmount = bill.ablBillAmount - bill.ablSettled.total := by
  simp only [ablPendingAmount, SettledAmounts.total]
  ring

/-- The column constraint keeps what is left from going negative. -/
theorem pending_nonneg (bill : AccBillBalance) : 0 ≤ bill.ablPendingAmount := by
  rw [pending_eq]
  exact sub_nonneg.mpr bill.settledFits.fits

theorem pending_mem (bill : AccBillBalance) : bill.ablPendingAmount ∈ paise := by
  have exact (value : Decimal) : money value = value → value ∈ paise := by
    intro equal
    rw [← equal]
    exact money_mem value
  have amount := exact _ bill.amountExact
  have alloc := exact _ bill.settledFits.allocExact
  have disc := exact _ bill.settledFits.discExact
  have writeoff := exact _ bill.settledFits.writeoffExact
  exact sub_mem (sub_mem (sub_mem amount alloc) disc) writeoff

end AccBillBalance

/-- The rows a post names, as it finds them once it holds their locks. -/
def lockBills (table : List AccBillBalance) (named : List BillRef) :
    OrderedMap String AccBillBalance :=
  .ofList ((table.filter fun bill =>
    bill.ablId ∈ named.map BillRef.billId && bill.ablAccYear ∈ named.map BillRef.billAccYear).map
      fun bill => (bill.ref.key, bill))

inductive BillKind where
  | RECEIVABLE
  | CREDIT
  deriving DecidableEq, Repr

def BillKind.allowed : BillKind → List BillType
  | RECEIVABLE => RECEIVABLE_BILL_TYPES
  | CREDIT => CREDIT_BILL_TYPES

def BillKind.wantSide : BillKind → DrCr
  | RECEIVABLE => .DR
  | CREDIT => .CR

/-- What a post expects of a bill it names. -/
structure BillExpectation where
  billId : String
  partyId : String
  companyId : String
  kind : BillKind
  field : String

/-- Alive, this party's, this company's, and on the right side of their account. -/
def assertBillUsable (bill : Option AccBillBalance) (expect : BillExpectation) :
    Except ReceiptError AccBillBalance :=
  let refuse (code message : String) : Except ReceiptError AccBillBalance :=
    throwAccountsBadRequest "Validation failed" [⟨expect.field, code, message⟩]
  let notFound : Except ReceiptError AccBillBalance :=
    throwAccountsNotFound "Bill not found" expect.field ("No live bill " ++ expect.billId)
      VCH.BILL_NOT_FOUND
  match bill with
  | none => notFound
  | some bill =>
      if bill.ablIsDeleted then notFound
      else if bill.ablPartyId ≠ expect.partyId then
        refuse VCH.BILL_WRONG_PARTY ("Bill " ++ bill.ablDocRefno ++ " belongs to another party")
      else if bill.ablCompanyId ≠ expect.companyId then
        refuse VCH.BILL_WRONG_PARTY ("Bill " ++ bill.ablDocRefno ++ " belongs to another company")
      else if bill.ablBillType ∉ expect.kind.allowed then
        refuse VCH.BILL_WRONG_SIDE ("Bill " ++ bill.ablDocRefno ++ " is a " ++
          bill.ablBillType.toString ++ " bill and cannot be settled as " ++
          (match expect.kind with
            | .RECEIVABLE => "a receivable"
            | .CREDIT => "a credit") ++ " by a receipt")
      else if bill.ablDrCr ≠ expect.kind.wantSide then
        refuse VCH.BILL_WRONG_SIDE ("Bill " ++ bill.ablDocRefno ++ " sits on the " ++
          bill.ablDrCr.toString ++ " side of this party's account, and a " ++
          (match expect.kind with
            | .RECEIVABLE => "receivable"
            | .CREDIT => "credit") ++ " must be " ++ expect.kind.wantSide.toString)
      else .ok bill

/-- What an accepted bill is. -/
structure Usable (expect : BillExpectation) (bill : AccBillBalance) : Prop where
  alive : bill.ablIsDeleted = false
  party : bill.ablPartyId = expect.partyId
  company : bill.ablCompanyId = expect.companyId
  type : bill.ablBillType ∈ expect.kind.allowed
  side : bill.ablDrCr = expect.kind.wantSide

variable {bill : AccBillBalance}

theorem assertBillUsable_ok {found : Option AccBillBalance} {expect : BillExpectation}
    (run : assertBillUsable found expect = .ok bill) : found = some bill ∧ Usable expect bill := by
  cases found with
  | none => cases run
  | some row =>
      simp only [assertBillUsable] at run
      split at run
      · cases run
      next alive =>
        split at run
        · cases run
        next party =>
          split at run
          · cases run
          next company =>
            split at run
            · cases run
            next type =>
              split at run
              · cases run
              next side =>
                cases run
                exact ⟨rfl, by simpa using alive, not_not.mp party, not_not.mp company,
                  not_not.mp type, not_not.mp side⟩

theorem of_lockBills {table : List AccBillBalance} {named : List BillRef} {key : String}
    (found : (lockBills table named).get? key = some bill) : bill ∈ table ∧ bill.ref.key = key := by
  have member := OrderedMap.mem_of_get?_ofList found
  rw [List.mem_map] at member
  cases member with
  | intro row facts =>
      have same := Prod.mk.inj facts.2
      rw [← same.2, ← same.1]
      exact ⟨List.mem_of_mem_filter facts.1, rfl⟩

/-- How a held credit settles: a return is a note, anything else an advance. -/
def creditRouting (billType : BillType) : BillAdjType × BillSettlementMode :=
  if billType = .SALES_RETURN then (.NOTE_ADJUST, .CREDIT_NOTE) else (.ADVANCE_ADJUST, .ADVANCE)

/-! ## Posting a receipt

The steps of a post, from the stored rows to the posted headers: the rows put back
through the normalisation the draft went through, the bills and credits as they are
found under their locks, the engine, the vouchers, their legs, and the balance check
that stands before a header becomes POSTED.  Numbering, accounting years and the
registers of cheques and tenders are left out: they refuse or record, and write no
leg. -/

open DoubleEntry

/-! ## The request -/

structure PostReceiptAllocationDto where
  billId : String
  billAccYear : String
  amount : ℚ≥0
  discount : Option ℚ≥0
  writeoff : Option ℚ≥0
  roundoff : Option ℚ≥0
  writeoffApprovedBy : Option String

def PostReceiptAllocationDto.ref (row : PostReceiptAllocationDto) : BillRef :=
  ⟨row.billId, row.billAccYear⟩

structure PostReceiptCreditDto where
  billId : String
  billAccYear : String
  amount : ℚ≥0

def PostReceiptCreditDto.ref (row : PostReceiptCreditDto) : BillRef :=
  ⟨row.billId, row.billAccYear⟩

structure PostReceiptOtherLinePinDto where
  lineNo : ℕ
  billId : String
  billAccYear : String
  amount : ℚ≥0

structure PostReceiptDto where
  allocations : List PostReceiptAllocationDto
  creditsApplied : List PostReceiptCreditDto
  otherLineBills : List PostReceiptOtherLinePinDto
  onAccount : ℚ≥0

/-- What one post reads besides the bills: the stored header, tender rows and draft
lines, the masters and settings, and the numbers its vouchers are given. -/
structure ReceiptPost where
  avhPartyId : String
  avhCompanyId : String
  avhBranchId : String
  avhVoucherDate : Date
  tenders : List SaveReceiptTenderDto
  draftLines : List SaveReceiptOtherLineDto
  dto : PostReceiptDto
  masters : List AccTenderMaster
  ledgers : List AccLedgerMaster
  party : ReceiptParty
  tcsBasis : TcsBasis
  writeoffApprovalAbove : Decimal
  cashLedgerId : Option String
  ledgerForRole : String → Option ResolvedRoleLedger
  voucherRefno : VoucherKey → String

namespace ReceiptPost

def tenderContext (post : ReceiptPost) : TenderContext :=
  ⟨post.masters, post.avhCompanyId, post.avhBranchId, post.avhVoucherDate⟩

def lineContext (post : ReceiptPost) : LineContext :=
  ⟨post.avhCompanyId, post.avhPartyId, post.party, post.tcsBasis, post.ledgers,
    post.ledgerForRole⟩

end ReceiptPost

/-! ## The lines, rebuilt -/

def roleFieldName (role : String) : String :=
  if role = ReceiptLedgerRole.DISCOUNT_ALLOWED then "allocations.discount"
  else if role = ReceiptLedgerRole.WRITE_OFF then "allocations.writeoff"
  else if role = ReceiptLedgerRole.ROUND_OFF then "allocations.roundoff"
  else if role = ReceiptLedgerRole.BANK_CHARGES then "tenders.tdMdrAmt"
  else if role = ReceiptLedgerRole.SURCHARGE_RECOVERED then "tenders.tdSurchargeAmt"
  else "otherLines"

/-- Refuse when any of the roles is unmapped, naming every one that is. -/
def requireReceiptRoleLedgers (ledgerForRole : String → Option ResolvedRoleLedger)
    (roles : List String) : Except ReceiptError Unit :=
  let unmapped := roles.eraseDups.filter fun role => (ledgerForRole role).isNone
  if unmapped ≠ [] then
    throwAccountsBadRequest "Posting ledgers are not configured" (unmapped.map fun role =>
      ⟨roleFieldName role, ACC.ROLE_UNMAPPED, "receipt: nothing maps \"" ++ role ++
        "\" to a ledger — accounts.acc_ledger_map has no row for it"⟩)
  else .ok ()

/-- The roles the server adds and the ones a reduction needs. -/
def serverRoles : List String :=
  [ReceiptLedgerRole.BANK_CHARGES, ReceiptLedgerRole.SURCHARGE_RECOVERED,
    ReceiptLedgerRole.DISCOUNT_ALLOWED, ReceiptLedgerRole.WRITE_OFF, ReceiptLedgerRole.ROUND_OFF]

structure RebuiltLines where
  tenders : List NormalisedTender
  otherLines : List NormalisedOtherLine
  deriving DecidableEq, Repr

/-- The stored rows, put back through the same normalisation the draft went through. -/
def rebuildLines (post : ReceiptPost) : Except ReceiptError RebuiltLines := do
  let tenders ← normaliseTenders post.tenderContext post.tenders
  requireReceiptRoleLedgers post.ledgerForRole
    (post.draftLines.filterMap SaveReceiptOtherLineDto.role ++ serverRoles)
  let band ← normaliseOtherLines post.lineContext post.draftLines tenders
  .ok ⟨tenders, band.lines⟩

def CASH_TENDER_TYPE_ID : ℕ := 1

/-- Cash of a back-office device goes to the safe the till named. -/
def routeCash (cashLedgerId : Option String) (tender : NormalisedTender) : NormalisedTender :=
  match cashLedgerId with
  | none => tender
  | some ledgerId =>
      if tender.tenderTypeId = CASH_TENDER_TYPE_ID then
        { tender with tenderLedgerId := ledgerId, clearingLedgerId := none }
      else tender

/-! ## The bills and the engine -/

def usableBill (post : ReceiptPost) (locked : OrderedMap String AccBillBalance) (ref : BillRef)
    (kind : BillKind) (field : String) : Except ReceiptError AccBillBalance :=
  assertBillUsable (locked.get? ref.key)
    { billId := ref.billId
      partyId := post.avhPartyId
      companyId := post.avhCompanyId
      kind := kind
      field := field }

def allocationBill (post : ReceiptPost) (locked : OrderedMap String AccBillBalance)
    (entry : PostReceiptAllocationDto × ℕ) : Except ReceiptError AllocationBill := do
  let row := entry.1
  let bill ← usableBill post locked row.ref .RECEIVABLE
    ("allocations." ++ toString entry.2 ++ ".billId")
  .ok
    { billId := bill.ablId
      billAccYear := bill.ablAccYear
      docRefno := bill.ablDocRefno
      amount := money row.amount
      discount := money (row.discount.getD 0)
      writeoff := money (row.writeoff.getD 0)
      roundoff := money (row.roundoff.getD 0)
      pendingAmount := bill.ablPendingAmount
      writeoffApprovedBy := row.writeoffApprovedBy }

def allocationCredit (post : ReceiptPost) (locked : OrderedMap String AccBillBalance)
    (entry : PostReceiptCreditDto × ℕ) : Except ReceiptError AllocationCredit := do
  let row := entry.1
  let bill ← usableBill post locked row.ref .CREDIT
    ("creditsApplied." ++ toString entry.2 ++ ".billId")
  let routing := creditRouting bill.ablBillType
  .ok
    { billId := bill.ablId
      billAccYear := bill.ablAccYear
      docRefno := bill.ablDocRefno
      amount := money row.amount
      pendingAmount := bill.ablPendingAmount
      adjType := routing.1
      settlementMode := routing.2 }

def assertWriteoffApproved (threshold : Decimal) (entry : AllocationBill × ℕ) :
    Except ReceiptError Unit :=
  let bill := entry.1
  if 0 < bill.writeoff ∧ threshold < bill.writeoff ∧ !isGiven bill.writeoffApprovedBy then
    throwAccountsBadRequest "Validation failed"
      [⟨"allocations." ++ toString entry.2 ++ ".writeoffApprovedBy", ACC.WRITEOFF_APPROVER,
        "Writing off " ++ toFixed bill.writeoff ++ " on " ++ bill.docRefno ++
          " needs an approver (accounts.writeoff_approval_above is " ++ toFixed threshold ++ ")"⟩]
  else .ok ()

def allocationLine (line : NormalisedOtherLine) : AllocationOtherLine where
  lineNo := line.lineNo
  drCr := line.drCr
  amount := line.amount
  settlesBill := line.settlesBill
  settlementMode := line.settlementMode
  isInstrumentSplit := line.isInstrumentSplit
  approvedBy := none

def allocationTender (tender : NormalisedTender) : AllocationTender where
  tenderRowNo := tender.rowNo
  amount := tender.amount
  isCheque := tender.isCheque
  isPostDated := tender.isPdc
  instrumentDate := tender.instrumentDate

def allocationPin (pin : PostReceiptOtherLinePinDto) : AllocationPin where
  lineNo := pin.lineNo
  billId := pin.billId
  billAccYear := pin.billAccYear
  amount := money pin.amount

/-- What the engine is handed. -/
def allocationInput (post : ReceiptPost) (lines : RebuiltLines) (bills : List AllocationBill)
    (credits : List AllocationCredit) : AllocationInput where
  receiptDate := post.avhVoucherDate
  bills := bills
  credits := credits
  otherLines := lines.otherLines.map allocationLine
  tenders := lines.tenders.map allocationTender
  pins := post.dto.otherLineBills.map allocationPin
  claimedOnAccount := money post.dto.onAccount
  direction := none

/-- A receipt the engine has accepted, before anything is written. -/
structure PreparedReceipt where
  lines : RebuiltLines
  bills : List AllocationBill
  credits : List AllocationCredit
  plan : AllocationResult
  deriving DecidableEq, Repr

/-- The bills and credits a post names. -/
def namedBills (dto : PostReceiptDto) : List BillRef :=
  dto.allocations.map PostReceiptAllocationDto.ref ++
    dto.creditsApplied.map PostReceiptCreditDto.ref

/-- Steps 2 to 5: the lines rebuilt, the bills read under their locks, the engine run. -/
def prepareReceipt (table : List AccBillBalance) (post : ReceiptPost) :
    Except ReceiptError PreparedReceipt := do
  let rebuilt ← rebuildLines post
  let lines : RebuiltLines := { rebuilt with
    tenders := rebuilt.tenders.map (routeCash post.cashLedgerId) }
  let locked := lockBills table (namedBills post.dto)
  let bills ← post.dto.allocations.zipIdx.mapM (allocationBill post locked)
  let credits ← post.dto.creditsApplied.zipIdx.mapM (allocationCredit post locked)
  let _ ← bills.zipIdx.mapM (assertWriteoffApproved post.writeoffApprovalAbove)
  let plan ← rethrowAllocationError (allocate (allocationInput post lines bills credits))
  .ok ⟨lines, bills, credits, plan⟩

/-! ## The vouchers -/

/-- One voucher being built; the receipt's own has no tender row. -/
structure PlannedVoucher where
  key : VoucherKey
  tenderRowNo : Option ℕ
  voucherDate : Date
  docAmount : Decimal
  voucherRefno : String
  deriving DecidableEq, Repr

def receiptVoucher (post : ReceiptPost) (tenders : List NormalisedTender) : PlannedVoucher where
  key := RECEIPT_VOUCHER_KEY
  tenderRowNo := none
  voucherDate := post.avhVoucherDate
  docAmount := sum ((tenders.filter fun tender => !tender.isPdc).map NormalisedTender.amount)
  voucherRefno := post.voucherRefno RECEIPT_VOUCHER_KEY

def pdcVoucher (post : ReceiptPost) (tender : NormalisedTender) : PlannedVoucher where
  key := pdcVoucherKey tender.rowNo
  tenderRowNo := some tender.rowNo
  voucherDate := tender.instrumentDate.getD post.avhVoucherDate
  docAmount := tender.amount
  voucherRefno := post.voucherRefno (pdcVoucherKey tender.rowNo)

/-- The receipt, plus one voucher for each post-dated cheque. -/
def vouchersOf (post : ReceiptPost) (tenders : List NormalisedTender) : List PlannedVoucher :=
  receiptVoucher post tenders ::
    (tenders.filter fun tender => tender.isPdc).map (pdcVoucher post)

def planVouchers (post : ReceiptPost) (prepared : PreparedReceipt) :
    Except ReceiptError (List PlannedVoucher) :=
  let vouchers := vouchersOf post prepared.lines.tenders
  match prepared.plan.partyCreditByVoucher.keys.find? fun key =>
      !vouchers.any fun voucher => voucher.key = key with
  | some key =>
      throwAccountsBadRequest "Allocation could not be completed"
        [⟨"tenders", ACC.INVALID,
          "The allocation names a voucher \"" ++ key ++ "\" that has no instrument"⟩]
  | none => .ok vouchers

/-! ## The legs -/

/-- One leg of a voucher; the columns copied from the header are left out. -/
structure AccVoucher where
  voucherKey : VoucherKey
  avRowNo : ℕ
  avDrCr : DrCr
  avLedgerId : String
  avAmount : Decimal
  avRole : Option String
  avRemarks : Option String
  deriving DecidableEq, Repr

/-- How a leg is read as an entry. -/
def legReading : Reading AccVoucher Decimal := ⟨fun leg => leg.avDrCr = .DR, AccVoucher.avAmount⟩

/-- A leg of a voucher before it has a row number, written only for more than zero. -/
def pushLeg (voucher : PlannedVoucher) (drCr : DrCr) (ledgerId : String) (amount : Decimal)
    (role remarks : Option String) : List AccVoucher :=
  Reading.entry ⟨voucher.key, 0, drCr, ledgerId, amount, role, remarks⟩ amount

/-- Where an instrument's money goes: to the clearing ledger when the master has one. -/
def NormalisedTender.instrumentLedger (tender : NormalisedTender) : String :=
  tender.clearingLedgerId.getD tender.tenderLedgerId

def NormalisedTender.remarks (tender : NormalisedTender) : String :=
  match tender.refNo with
  | some refNo => tender.tenderName ++ " " ++ refNo
  | none => tender.tenderName

/-- The instruments a voucher carries. -/
def tendersHere (voucher : PlannedVoucher) (tenders : List NormalisedTender) :
    List NormalisedTender :=
  tenders.filter fun tender => match voucher.tenderRowNo with
    | none => !tender.isPdc
    | some rowNo => tender.rowNo = rowNo

/-- The money, net of the cut that never arrives. -/
def instrumentLegs (voucher : PlannedVoucher) (tenders : List NormalisedTender) :
    List AccVoucher :=
  (tendersHere voucher tenders).flatMap fun tender =>
    pushLeg voucher .DR tender.instrumentLedger (tender.amount - tender.mdrAmt) none
      (some tender.remarks)

def otherLineLegs (voucher : PlannedVoucher) (lines : List NormalisedOtherLine) :
    List AccVoucher :=
  lines.flatMap fun line =>
    pushLeg voucher line.drCr line.ledgerId line.amount line.role line.narration

/-- One leg for the whole receipt, whichever bills the reduction was spread over. -/
def pushReduction (post : ReceiptPost) (voucher : PlannedVoucher) (bills : List AllocationBill)
    (role : String) (pick : AllocationBill → Decimal) : Except ReceiptError (List AccVoucher) :=
  let total := sum (bills.map pick)
  if total ≤ 0 then .ok []
  else do
    requireReceiptRoleLedgers post.ledgerForRole [role]
    match post.ledgerForRole role with
    | none => .ok []
    | some ledger => .ok (pushLeg voucher .DR ledger.ledgerId total (some role) none)

/-- The band of other ledgers and the three reductions, on the receipt's own voucher. -/
def receiptOnlyLegs (post : ReceiptPost) (prepared : PreparedReceipt) (voucher : PlannedVoucher) :
    Except ReceiptError (List AccVoucher) := do
  let discount ← pushReduction post voucher prepared.bills ReceiptLedgerRole.DISCOUNT_ALLOWED
    AllocationBill.discount
  let writeoff ← pushReduction post voucher prepared.bills ReceiptLedgerRole.WRITE_OFF
    AllocationBill.writeoff
  let roundoff ← pushReduction post voucher prepared.bills ReceiptLedgerRole.ROUND_OFF
    AllocationBill.roundoff
  .ok (otherLineLegs voucher prepared.lines.otherLines ++ discount ++ writeoff ++ roundoff)

def partyLeg (post : ReceiptPost) (prepared : PreparedReceipt) (voucher : PlannedVoucher) :
    List AccVoucher :=
  pushLeg voucher .CR post.avhPartyId
    ((prepared.plan.partyCreditByVoucher.get? voucher.key).getD 0) none none

/-- Number the rows of one voucher from one. -/
def numberRows (legs : List AccVoucher) : List AccVoucher :=
  legs.mapIdx fun index leg => { leg with avRowNo := index + 1 }

def legsOf (post : ReceiptPost) (prepared : PreparedReceipt) (voucher : PlannedVoucher) :
    Except ReceiptError (List AccVoucher) := do
  let own ← match voucher.tenderRowNo with
    | none => receiptOnlyLegs post prepared voucher
    | some _ => .ok []
  .ok (numberRows (instrumentLegs voucher prepared.lines.tenders ++ own ++
    partyLeg post prepared voucher))

/-- Step 9, voucher by voucher. -/
def writeLegs (post : ReceiptPost) (prepared : PreparedReceipt) (vouchers : List PlannedVoucher) :
    Except ReceiptError (List AccVoucher) := do
  let written ← vouchers.mapM (legsOf post prepared)
  .ok written.flatten

/-! ## The headers -/

structure VoucherTotals where
  totalDebit : Decimal
  totalCredit : Decimal
  difference : Decimal
  deriving DecidableEq, Repr

/-- What a voucher's legs come to, read back from the legs. -/
def deriveVoucherTotals (legs : List AccVoucher) (key : VoucherKey) : VoucherTotals :=
  let own := legs.filter fun leg => leg.voucherKey = key
  let totalDebit := money (legReading.debits own)
  let totalCredit := money (legReading.credits own)
  ⟨totalDebit, totalCredit, totalDebit - totalCredit⟩

structure PostedHeader where
  key : VoucherKey
  avhDocAmount : Decimal
  avhAdjustAmount : Decimal
  avhOppositeLedgerId : Option String
  deriving DecidableEq, Repr

/-- The single ledger the instruments of a voucher went to, when there is one. -/
def oppositeLedger (voucher : PlannedVoucher) (tenders : List NormalisedTender) : Option String :=
  match ((tendersHere voucher tenders).map NormalisedTender.instrumentLedger).eraseDups with
  | [ledgerId] => some ledgerId
  | _ => none

/-- A header becomes POSTED only when its legs balance. -/
def postHeader (prepared : PreparedReceipt) (legs : List AccVoucher) (voucher : PlannedVoucher) :
    Except ReceiptError PostedHeader :=
  let totals := deriveVoucherTotals legs voucher.key
  if totals.difference ≠ 0 then
    throwAccountsBadRequest "The voucher does not balance"
      [⟨"avhVoucherId", VCH.UNBALANCED,
        voucher.voucherRefno ++ " is out by " ++ toFixed totals.difference ++ " (debit " ++
          toFixed totals.totalDebit ++ ", credit " ++ toFixed totals.totalCredit ++ ")"⟩]
  else .ok
    { key := voucher.key
      avhDocAmount := voucher.docAmount
      avhAdjustAmount := (prepared.plan.adjustAmountByVoucher.get? voucher.key).getD 0
      avhOppositeLedgerId := oppositeLedger voucher prepared.lines.tenders }

/-- Step 15, the last: every header, in the order the vouchers were planned. -/
def postHeaders (prepared : PreparedReceipt) (legs : List AccVoucher)
    (vouchers : List PlannedVoucher) : Except ReceiptError (List PostedHeader) :=
  vouchers.mapM (postHeader prepared legs)

end ErpServer.Receipt
