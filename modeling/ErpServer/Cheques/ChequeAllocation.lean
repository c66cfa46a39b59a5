import Mathlib.Data.Int.ConditionallyCompleteOrder
import ErpServer.BillBalance.Recompute

/-!
# Pouring a cheque's money into bills

The adapter between one cheque and the receipt's allocation engine: where the bills
come from, the plan, the adjustment rows and the advance it is written as, and the
re-issue voucher around it.  Branch, tenant, salesman, session and user travel with
every row and are read by nothing here; they are left out.
-/

namespace ErpServer.Cheques

open Lib Receipt BillBalance

namespace CHQ

def ALLOCATION_WRONG : String := "CHQ_ALLOCATION_WRONG"

end CHQ

namespace VCH

def CHEQUE_STATE : String := "VCH_CHEQUE_STATE"

end VCH

/-- Why a cheque route stops: an answer of its own, the engine's, a constraint, or a
null read as a value. -/
inductive ChequeRefusal where
  | http (error : ReceiptError)
  | allocation (error : AllocationError)
  | database (error : DatabaseError)
  | typeError
  deriving DecidableEq, Repr

def orHttp {α : Type} : Except ReceiptError α → Except ChequeRefusal α :=
  Except.mapError .http

def orAllocation {α : Type} : Except AllocationError α → Except ChequeRefusal α :=
  Except.mapError .allocation

def orDatabase {α : Type} : Except DatabaseError α → Except ChequeRefusal α :=
  Except.mapError .database

def throwChequeConflict {α : Type} (message : String) (details : List AllocationErrorDetail) :
    Except ChequeRefusal α := .error (.http ⟨.CONFLICT, message, details⟩)

def throwChequeBadRequest {α : Type} (details : List AllocationErrorDetail) :
    Except ChequeRefusal α := .error (.http ⟨.BAD_REQUEST, "Validation failed", details⟩)

/-! ## The rows -/

/-- What the check on an id promises: the bar that joins the parts of a key is not in
it. -/
def IsUuid (id : String) : Prop := '|' ∉ id.toList

instance (id : String) : Decidable (IsUuid id) := inferInstanceAs (Decidable ('|' ∉ id.toList))

abbrev Uuid := { id : String // IsUuid id }

inductive PdcPostingMode where
  | ON_RECEIPT
  | ON_CLEARING
  deriving DecidableEq, Repr

/-- The register row of a cheque, held under its lock. -/
structure LockedCheque where
  apdId : String
  apdAccYear : String
  apdCompanyId : String
  apdPartyId : String
  apdInstrumentNo : String
  apdInstrumentDate : Date
  apdAmount : Decimal
  apdPostingMode : PdcPostingMode
  apdTenderId : Option String
  amountExact : money apdAmount = apdAmount
  amountPositive : 0 < apdAmount

/-- The state of a bill, generated from its amounts. -/
inductive AblStatus where
  | OPEN
  | PARTIAL
  | CLOSED
  deriving DecidableEq, Repr

/-- The outstanding row of a bill with the columns a list of bills is read by. -/
structure BillRow extends AccBillBalance where
  ablDueDate : Option Date
  ablDocDate : Date
  ablVoucherId : Option String
  isUuid : IsUuid ablId

def BillRow.ablStatus (bill : BillRow) : AblStatus :=
  if bill.ablPendingAmount ≤ 0 then .CLOSED
  else if 0 < bill.ablSettled.total then .PARTIAL
  else .OPEN

/-- A settlement row with what names it and the cheque behind it. -/
structure AdjustmentRow extends AccBillAdjustment where
  abjId : String
  abjRowNo : ℕ
  abjVoucherId : String
  abjVoucherAccYear : String
  abjDrCr : DrCr
  abjSettlementMode : BillSettlementMode
  abjAgainstBill : Option BillRef
  abjTenderId : Option String
  abjTenderAccYear : Option String
  abjChequeId : Option String
  abjChequeAccYear : Option String
  abjApprovedBy : Option String
  abjRemarks : Option String
  isUuid : IsUuid abjBillId

/-! ## The request -/

structure ChequeAllocationScope where
  voucherId : String
  accYear : String
  companyId : String
  branchId : String
  partyId : String
  adjDate : Date
  isPostDated : Bool
  cheque : LockedCheque
  tenderId : Option String
  tenderAccYear : Option String

/-- One row the operator named; its figures carry the minimum of zero their
decorators ask for. -/
structure ChequeAllocationDto where
  billId : String
  billAccYear : String
  amount : ℚ≥0
  discount : Option ℚ≥0
  writeoff : Option ℚ≥0
  writeoffApprovedBy : Option String
  isUuid : IsUuid billId

/-- What a bounce took off one bill. -/
structure RestoredAllocation where
  billId : String
  billAccYear : String
  amount : Decimal
  discount : Decimal
  writeoff : Decimal
  roundoff : Decimal
  writeoffApprovedBy : Option String
  isUuid : IsUuid billId
  exact : ∀ figure ∈ [amount, discount, writeoff, roundoff], money figure = figure

inductive ChequeAllocationRequest where
  | NAMED (rows : List ChequeAllocationDto)
  | AUTO_FIFO
  | RESTORE (rows : List RestoredAllocation)

def namedOrAutoFifo (rows : List ChequeAllocationDto) : ChequeAllocationRequest :=
  if 0 < rows.length then .NAMED rows else .AUTO_FIFO

def ChequeAllocationDto.ref (row : ChequeAllocationDto) : BillRef := ⟨row.billId, row.billAccYear⟩

def RestoredAllocation.ref (row : RestoredAllocation) : BillRef := ⟨row.billId, row.billAccYear⟩

/-- A table of bills as the lock reads it. -/
def balances (table : List BillRow) : List AccBillBalance := table.map BillRow.toAccBillBalance

/-! ## Named bills -/

def usableBill (locked : OrderedMap String AccBillBalance) (scope : ChequeAllocationScope)
    (ref : BillRef) (index : ℕ) : Except ChequeRefusal AccBillBalance :=
  orHttp (assertBillUsable (locked.get? ref.key)
    { billId := ref.billId
      partyId := scope.partyId
      companyId := scope.companyId
      kind := .RECEIVABLE
      field := "allocations." ++ toString index ++ ".billId" })

/-- A cheque rounds nothing off: a named bill has no round-off. -/
def namedBill (locked : OrderedMap String AccBillBalance) (scope : ChequeAllocationScope)
    (entry : ChequeAllocationDto × ℕ) : Except ChequeRefusal AllocationBill := do
  let bill ← usableBill locked scope entry.1.ref entry.2
  .ok
    { billId := bill.ablId
      billAccYear := bill.ablAccYear
      docRefno := bill.ablDocRefno
      amount := money entry.1.amount
      discount := money (entry.1.discount.getD 0)
      writeoff := money (entry.1.writeoff.getD 0)
      roundoff := 0
      pendingAmount := bill.ablPendingAmount
      writeoffApprovedBy := entry.1.writeoffApprovedBy }

def loadNamedBills (held : List BillRow) (scope : ChequeAllocationScope)
    (requested : List ChequeAllocationDto) : Except ChequeRefusal (List AllocationBill) :=
  requested.zipIdx.mapM
    (namedBill (lockBills (balances held) (requested.map ChequeAllocationDto.ref)) scope)

/-! ## Restored bills -/

def RestoredAllocation.settled (row : RestoredAllocation) : Decimal :=
  row.amount + row.discount + row.writeoff + row.roundoff

/-- The bill the bounce took from has to exist still. -/
def assertStillThere (locked : OrderedMap String AccBillBalance) (scope : ChequeAllocationScope)
    (entry : RestoredAllocation × ℕ) : Except ChequeRefusal Unit :=
  let gone (refno : String) : Except ChequeRefusal Unit :=
    throwChequeConflict "Cannot restore the allocation" [{
      field := "allocations." ++ toString entry.2 ++ ".billId"
      code := CHQ.ALLOCATION_WRONG
      message := scope.cheque.apdInstrumentNo ++ " settled " ++ toFixed entry.1.settled ++
        " against bill " ++ refno ++ ", which no longer exists. Re-present it with " ++
        "explicit allocations saying where that money should go instead." }]
  match locked.get? entry.1.ref.key with
  | none => gone entry.1.billId
  | some bill => if bill.ablIsDeleted then gone bill.ablDocRefno else .ok ()

/-- The bill takes its share back whole, or the re-presentation is refused. -/
def restoreOn (scope : ChequeAllocationScope) (entry : RestoredAllocation × ℕ)
    (bill : AccBillBalance) : Except ChequeRefusal AllocationBill :=
  if bill.ablPendingAmount < entry.1.settled then
    throwChequeConflict "Cannot restore the allocation" [{
      field := "allocations." ++ toString entry.2 ++ ".amount"
      code := CHQ.ALLOCATION_WRONG
      message := scope.cheque.apdInstrumentNo ++ " settled " ++ toFixed entry.1.settled ++
        " against bill " ++ bill.ablDocRefno ++ ", which now has only " ++
        toFixed bill.ablPendingAmount ++ " pending — something else has paid it since the " ++
        "bounce. Re-present it with explicit allocations." }]
  else
    .ok
      { billId := bill.ablId
        billAccYear := bill.ablAccYear
        docRefno := bill.ablDocRefno
        amount := entry.1.amount
        discount := entry.1.discount
        writeoff := entry.1.writeoff
        roundoff := entry.1.roundoff
        pendingAmount := bill.ablPendingAmount
        writeoffApprovedBy := entry.1.writeoffApprovedBy }

def restoredBill (locked : OrderedMap String AccBillBalance) (scope : ChequeAllocationScope)
    (entry : RestoredAllocation × ℕ) : Except ChequeRefusal AllocationBill := do
  assertStillThere locked scope entry
  let bill ← usableBill locked scope entry.1.ref entry.2
  restoreOn scope entry bill

def loadRestoredBills (held : List BillRow) (scope : ChequeAllocationScope)
    (restored : List RestoredAllocation) : Except ChequeRefusal (List AllocationBill) :=
  restored.zipIdx.mapM
    (restoredBill (lockBills (balances held) (restored.map RestoredAllocation.ref)) scope)

/-! ## Oldest due first -/

section DueOrder

/-- The order a list of bills is read in; a bill without a due date comes last. The
database compares references by its collation, of which this is the key. -/
def BillRow.dueOrder {κ : Type} (collate : String → κ) (bill : BillRow) :
    WithTop Date ×ₗ Date ×ₗ κ :=
  toLex (bill.ablDueDate, toLex (bill.ablDocDate, collate bill.ablDocRefno))

/-- An open receivable of a party. -/
def isOpenReceivable (partyId companyId : String) (bill : BillRow) : Bool :=
  bill.ablPartyId = partyId && bill.ablCompanyId = companyId && !bill.ablIsDeleted &&
    bill.ablDrCr = .DR && bill.ablBillType ∈ RECEIVABLE_BILL_TYPES && bill.ablStatus ≠ .CLOSED

variable {κ : Type} [LinearOrder κ] (collate : String → κ)

/-- The open receivables in due order, the first five hundred of them. -/
def fifoCandidates (read : List BillRow) (scope : ChequeAllocationScope) : List BillRow :=
  ((read.filter (isOpenReceivable scope.partyId scope.companyId)).insertionSort
    fun left right => left.dueOrder collate ≤ right.dueOrder collate).take 500

/-- Fill the bills in the order given until nothing is left. -/
def fillInOrder (locked : OrderedMap String AccBillBalance) :
    Decimal → List BillRef → List AllocationBill
  | _, [] => []
  | left, candidate :: rest =>
      if left ≤ 0 then []
      else
        match locked.get? candidate.key with
        | none => fillInOrder locked left rest
        | some bill =>
            if bill.ablIsDeleted ∨ bill.ablPendingAmount ≤ 0 then fillInOrder locked left rest
            else
              let take := min left bill.ablPendingAmount
              { billId := bill.ablId
                billAccYear := bill.ablAccYear
                docRefno := bill.ablDocRefno
                amount := take
                discount := 0
                writeoff := 0
                roundoff := 0
                pendingAmount := bill.ablPendingAmount
                writeoffApprovedBy := none } :: fillInOrder locked (left - take) rest

/-- The bills as the list was read and as they stood once their locks were held. -/
def autoFifoBills (read held : List BillRow) (scope : ChequeAllocationScope) (amount : Decimal) :
    List AllocationBill :=
  let candidates := (fifoCandidates collate read scope).map fun bill => bill.ref
  fillInOrder (lockBills (balances held) candidates) amount candidates

/-! ## Writing the plan -/

/-- A row of the plan as the table takes it, or the constraint it breaks. -/
def adjustmentRow (scope : ChequeAllocationScope) (adjId : String) (rowNo : ℕ)
    (adjustment : AllocationAdjustment) : Except DatabaseError AdjustmentRow :=
  if valid : money adjustment.amount = adjustment.amount ∧ 0 < adjustment.amount ∧
      IsUuid adjustment.billId then
    .ok
      { abjCompanyId := scope.companyId
        abjBranchId := scope.branchId
        abjAccYear := scope.accYear
        abjBillId := adjustment.billId
        abjBillAccYear := adjustment.billAccYear
        abjAdjType := adjustment.adjType
        abjAdjDate := scope.adjDate
        abjAmount := adjustment.amount
        abjIsPostDated := scope.isPostDated
        abjReversalOfId := none
        abjIsDeleted := false
        amountExact := valid.1
        reversalSign := valid.2.1
        abjId := adjId
        abjRowNo := rowNo
        abjVoucherId := scope.voucherId
        abjVoucherAccYear := scope.accYear
        abjDrCr := adjustment.drCr
        abjSettlementMode := adjustment.settlementMode
        abjAgainstBill := adjustment.againstBill
        abjTenderId := scope.tenderId
        abjTenderAccYear := if scope.tenderId.isSome then scope.tenderAccYear else none
        abjChequeId := some scope.cheque.apdId
        abjChequeAccYear := some scope.cheque.apdAccYear
        abjApprovedBy := adjustment.approvedBy
        abjRemarks := adjustment.remarks
        isUuid := valid.2.2 }
  else .error ⟨"ck_abj_reversal_sign"⟩

/-- The ids are the ones the table gives the new rows. -/
def writeAdjustments (scope : ChequeAllocationScope) (ids : ℕ → String) (plan : AllocationResult) :
    Except DatabaseError (List AdjustmentRow) :=
  plan.adjustments.zipIdx.mapM fun entry =>
    adjustmentRow scope (ids entry.2) (entry.2 + 1) entry.1

/-- A remainder is always an advance, a credit the company holds. -/
def writeAdvanceBill (scope : ChequeAllocationScope) (ablId : Uuid) (plan : AllocationResult) :
    Except DatabaseError (Option BillRow) :=
  if plan.totalOnAccount ≤ 0 then .ok none
  else if valid : money plan.totalOnAccount = plan.totalOnAccount ∧ 0 < plan.totalOnAccount then
    .ok (some
      { ablId := ablId.val
        ablAccYear := scope.accYear
        ablPartyId := scope.partyId
        ablCompanyId := scope.companyId
        ablBillType := .ADVANCE
        ablDocRefno := "ADV/" ++ scope.cheque.apdInstrumentNo
        ablBillAmount := plan.totalOnAccount
        ablSettled := ⟨0, 0, 0⟩
        ablSettledOn := none
        ablDrCr := .CR
        ablIsDeleted := false
        amountExact := valid.1
        amountPositive := valid.2
        settledFits :=
          ⟨money_zero, money_zero, money_zero, le_rfl, le_rfl, le_rfl, by
            simpa [SettledAmounts.total] using valid.2.le⟩
        ablDueDate := none
        ablDocDate := scope.adjDate
        ablVoucherId := some scope.voucherId
        isUuid := ablId.property })
  else .error ⟨"ck_abl_amount"⟩

/-! ## The allocation -/

/-- What an allocation came to. -/
structure ChequeAllocationOutcome where
  plan : AllocationResult
  bills : List BillRef
  partyCredit : Decimal
  onAccount : Decimal
  rows : List AdjustmentRow
  advance : Option BillRow

/-- Where the request takes its bills from. -/
def chequeBills (read held : List BillRow) (scope : ChequeAllocationScope) (amount : Decimal) :
    ChequeAllocationRequest → Except ChequeRefusal (List AllocationBill)
  | .NAMED rows => loadNamedBills held scope rows
  | .RESTORE rows => loadRestoredBills held scope rows
  | .AUTO_FIFO => .ok (autoFifoBills collate read held scope amount)

def assertWithinCheque (scope : ChequeAllocationScope) (amount allocated : Decimal)
    (request : ChequeAllocationRequest) : Except ChequeRefusal Unit :=
  if amount < allocated then
    match request with
    | .RESTORE _ =>
        throwChequeConflict "Cannot restore the allocation" [{
          field := "allocations"
          code := CHQ.ALLOCATION_WRONG
          message := "The bounce of " ++ scope.cheque.apdInstrumentNo ++ " took " ++
            toFixed allocated ++ " off the bills, but the cheque is for " ++ toFixed amount ++
            ". Re-present it with explicit allocations." }]
    | _ =>
        throwChequeBadRequest [{
          field := "allocations"
          code := CHQ.ALLOCATION_WRONG
          message := "The allocations come to " ++ toFixed allocated ++ " but " ++
            scope.cheque.apdInstrumentNo ++ " is for " ++ toFixed amount ++ "." }]
  else .ok ()

/-- One tender and nothing else, so the identity leaves the remainder no choice. -/
def chequeInput (scope : ChequeAllocationScope) (amount : Decimal) (bills : List AllocationBill)
    (allocated : Decimal) : AllocationInput where
  receiptDate := scope.adjDate
  bills := bills
  credits := []
  otherLines := []
  tenders := [⟨1, amount, true, false, some scope.cheque.apdInstrumentDate⟩]
  pins := []
  claimedOnAccount := amount - allocated
  direction := none

def allocateChequeMoney (read held : List BillRow) (scope : ChequeAllocationScope)
    (ids : ℕ → String) (advanceId : Uuid) (request : ChequeAllocationRequest) :
    Except ChequeRefusal ChequeAllocationOutcome := do
  let amount := money scope.cheque.apdAmount
  let bills ← chequeBills collate read held scope amount request
  let allocated := sum (bills.map AllocationBill.amount)
  assertWithinCheque scope amount allocated request
  let plan ← orAllocation (allocate (chequeInput scope amount bills allocated))
  let rows ← orDatabase (writeAdjustments scope ids plan)
  let advance ← orDatabase (writeAdvanceBill scope advanceId plan)
  .ok
    { plan := plan
      bills := bills.map AllocationBill.ref
      partyCredit := (plan.partyCreditByVoucher.get? RECEIPT_VOUCHER_KEY).getD 0
      onAccount := plan.totalOnAccount
      rows := rows
      advance := advance }

/-! ## The re-issue -/

structure ChequeLegSpec where
  drCr : DrCr
  ledgerId : String
  amount : Decimal
  remarks : String
  deriving DecidableEq, Repr

/-- What the two re-issues hand the half they share. -/
structure ReissueParams where
  cheque : LockedCheque
  amount : Decimal
  instrumentNo : String
  instrumentDate : Date
  voucherDate : Date
  allocations : List ChequeAllocationDto
  /-- What the bounce took off the bills, when there is a bounce to undo. -/
  restoreReversedBy : Option (List RestoredAllocation)
  what : String
  isPostDated : Bool
  amountExact : money amount = amount
  amountPositive : 0 < amount

/-- The ids a re-issue's rows are given, and the ledger its instrument lies in. -/
structure ReissuePlace where
  voucherId : String
  voucherAccYear : String
  branchId : String
  inHandLedgerId : String
  /-- The register row the voucher belongs to. -/
  apdId : String
  apdAccYear : String
  ids : ℕ → String
  advanceId : Uuid

/-- The voucher of a cheque replaced. -/
structure Reissued where
  legs : List ChequeLegSpec
  outcome : Option ChequeAllocationOutcome

/-- Named allocations win; otherwise the bounce is undone, and without one the oldest
bills are filled. -/
def allocationRequest (params : ReissueParams) : ChequeAllocationRequest :=
  if 0 < params.allocations.length then .NAMED params.allocations
  else
    match params.restoreReversedBy with
    | none => namedOrAutoFifo params.allocations
    | some rows => .RESTORE rows

/-- The cheque is in hand again and the party is credited for it. -/
def reissueLegs (params : ReissueParams) (inHandLedgerId : String) : List ChequeLegSpec :=
  let remarks := "Cheque " ++ params.instrumentNo ++ " " ++ params.what
  [⟨.DR, inHandLedgerId, params.amount, remarks⟩,
    ⟨.CR, params.cheque.apdPartyId, params.amount, remarks⟩]

def reissueScope (params : ReissueParams) (place : ReissuePlace) : ChequeAllocationScope where
  voucherId := place.voucherId
  accYear := place.voucherAccYear
  companyId := params.cheque.apdCompanyId
  branchId := place.branchId
  partyId := params.cheque.apdPartyId
  adjDate := params.voucherDate
  isPostDated := params.isPostDated
  cheque :=
    { params.cheque with
        apdId := place.apdId
        apdAccYear := place.apdAccYear
        apdInstrumentNo := params.instrumentNo
        apdInstrumentDate := params.instrumentDate
        apdAmount := params.amount
        amountExact := params.amountExact
        amountPositive := params.amountPositive }
  tenderId := params.cheque.apdTenderId
  tenderAccYear := if params.cheque.apdTenderId.isSome then some params.cheque.apdAccYear else none

/-- The half re-present and replace share, for a cheque no sale bill took without a
counter row.  Under `ON_CLEARING` nothing is posted. -/
def reissue (read held : List BillRow) (params : ReissueParams) (place : ReissuePlace) :
    Except ChequeRefusal Reissued :=
  match params.cheque.apdPostingMode with
  | .ON_CLEARING =>
      if 0 < params.allocations.length then
        throwChequeBadRequest [{
          field := "allocations"
          code := VCH.CHEQUE_STATE
          message := params.instrumentNo ++ " is an ON_CLEARING cheque, so its bills are " ++
            "settled when it clears and not before. Allocate on /cheques/clear." }]
      else .ok ⟨[], none⟩
  | .ON_RECEIPT => do
      let outcome ← allocateChequeMoney collate read held (reissueScope params place) place.ids
        place.advanceId (allocationRequest params)
      .ok ⟨reissueLegs params place.inHandLedgerId, some outcome⟩

end DueOrder

end ErpServer.Cheques
