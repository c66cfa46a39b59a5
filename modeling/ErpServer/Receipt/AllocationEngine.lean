import ErpServer.Receipt.Types

/-!
# The allocation engine

A receipt is a pool of sources poured into a list of bills, with what is left held
on account: deductions reserve their share first, then the credits, the instant
money and the post-dated cheques pour in that order, the reductions are written
beside them, and the remainder becomes an advance.  The engine is pure; it reads
an `AllocationInput` and returns rows or throws.

A mutable array that runs parallel to the bills is one list of bills with their
remaining capacity, and a cursor into the sources is the pour of `Lib.Pour`.
-/

namespace ErpServer.Receipt

open Lib

/-! ## Sides -/

/-- The sides one direction reads by.  Every rule is written against these names,
never against a side directly. -/
structure Sides where
  direction : AllocationDirection
  settle : DrCr
  mirror : DrCr
  deduction : DrCr
  extra : DrCr
  moved : String
  route : String
  deriving DecidableEq, Repr

def sidesOf (input : AllocationInput) : Sides :=
  match input.direction with
  | some .OUT => ⟨.OUT, .DR, .CR, .CR, .DR, "Paid", "/payments/open-items"⟩
  | _ => ⟨.IN, .CR, .DR, .DR, .CR, "Received", "/receipts/open-items"⟩

def Sides.doc (sides : Sides) : String :=
  match sides.direction with
  | .OUT => "payment"
  | .IN => "receipt"

def isDeduction (line : AllocationOtherLine) (sides : Sides) : Bool :=
  line.drCr = sides.deduction && line.settlesBill && !line.isInstrumentSplit

def isFloating (line : AllocationOtherLine) (sides : Sides) : Bool :=
  line.drCr = sides.deduction && !line.settlesBill && !line.isInstrumentSplit

def isExtra (line : AllocationOtherLine) (sides : Sides) : Bool :=
  line.drCr = sides.extra

/-! ## Validation -/

def AllocationBill.settled (bill : AllocationBill) : Decimal :=
  money bill.amount + bill.discount + bill.writeoff + bill.roundoff

/-- The body of the loop over the bills. -/
def assertBillFits (sides : Sides) (seen : List String) (index : ℕ) (bill : AllocationBill) :
    Except AllocationError Unit :=
  if bill.ref.key ∈ seen then
    invalid "Validation failed" [{
      field := "allocations." ++ toString index ++ ".billId"
      code := ACC.INVALID
      message := "Bill " ++ bill.docRefno ++
        " appears twice. Send one row per bill with the total." }]
  else if bill.amount < 0 ∨ bill.discount < 0 ∨ bill.writeoff < 0 ∨ bill.roundoff < 0 then
    invalid "Validation failed" [{
      field := "allocations." ++ toString index ++ ".amount"
      code := VCH.LINE_AMOUNT
      message := "Bill " ++ bill.docRefno ++
        ": amount, discount, write-off and round-off are all positive figures" }]
  else if bill.settled ≤ 0 then
    invalid "Validation failed" [{
      field := "allocations." ++ toString index ++ ".amount"
      code := VCH.LINE_AMOUNT
      message := "Bill " ++ bill.docRefno ++
        " settles nothing. Leave it out rather than sending a zero row." }]
  else if money bill.pendingAmount < bill.settled then
    conflict ("Bill moved while this " ++ sides.doc ++ " was being entered") [{
      field := "allocations." ++ toString index ++ ".amount"
      code := ACC.BILL_MOVED
      message := "Bill " ++ bill.docRefno ++ " has " ++ toFixed (money bill.pendingAmount) ++
        " pending, but this " ++ sides.doc ++ " settles " ++ toFixed bill.settled ++
        " against it" }]
  else .ok ()

def assertBillsFitFrom (sides : Sides) :
    List String → ℕ → List AllocationBill → Except AllocationError Unit
  | _, _, [] => .ok ()
  | seen, index, bill :: rest => do
      assertBillFits sides seen index bill
      assertBillsFitFrom sides (bill.ref.key :: seen) (index + 1) rest

def assertBillsFit (bills : List AllocationBill) (sides : Sides) : Except AllocationError Unit :=
  assertBillsFitFrom sides [] 0 bills

def assertCreditFits (sides : Sides) (seen : List String) (index : ℕ)
    (credit : AllocationCredit) : Except AllocationError Unit :=
  if credit.ref.key ∈ seen then
    invalid "Validation failed" [{
      field := "creditsApplied." ++ toString index ++ ".billId"
      code := ACC.INVALID
      message := "Credit " ++ credit.docRefno ++
        " appears twice. Send one row per credit with the total." }]
  else if money credit.amount ≤ 0 then
    invalid "Validation failed" [{
      field := "creditsApplied." ++ toString index ++ ".amount"
      code := VCH.LINE_AMOUNT
      message := "Credit " ++ credit.docRefno ++ " applies nothing. Leave it out." }]
  else if money credit.pendingAmount < money credit.amount then
    conflict ("Credit moved while this " ++ sides.doc ++ " was being entered") [{
      field := "creditsApplied." ++ toString index ++ ".amount"
      code := ACC.CREDIT_MOVED
      message := "Credit " ++ credit.docRefno ++ " has " ++
        toFixed (money credit.pendingAmount) ++ " left, but this " ++ sides.doc ++ " applies " ++
        toFixed (money credit.amount) ++ " of it" }]
  else .ok ()

def assertCreditsFitFrom (sides : Sides) :
    List String → ℕ → List AllocationCredit → Except AllocationError Unit
  | _, _, [] => .ok ()
  | seen, index, credit :: rest => do
      assertCreditFits sides seen index credit
      assertCreditsFitFrom sides (credit.ref.key :: seen) (index + 1) rest

def assertCreditsFit (credits : List AllocationCredit) (sides : Sides) :
    Except AllocationError Unit :=
  assertCreditsFitFrom sides [] 0 credits

/-- The rounded amounts of the other lines of one kind, added up. -/
def sumOfLines (input : AllocationInput) (kind : AllocationOtherLine → Bool) : Decimal :=
  sum ((input.otherLines.filter kind).map fun line => money line.amount)

/-- The rounded amounts of the tenders of one kind, added up. -/
def sumOfTenders (input : AllocationInput) (kind : AllocationTender → Bool) : Decimal :=
  sum ((input.tenders.filter kind).map fun tender => money tender.amount)

/-- Money and deductions and credits against allocations, on account and extras,
to the paisa; and extras only out of money that has arrived. -/
def assertIdentity (input : AllocationInput) (sides : Sides) : Except AllocationError Unit :=
  let moneyMoved := sumOfTenders input fun _ => true
  let deductions := sumOfLines input fun line =>
    line.drCr = sides.deduction && !line.isInstrumentSplit
  let extras := sumOfLines input fun line => isExtra line sides
  let credits := sum (input.credits.map fun credit => money credit.amount)
  let allocated := sum (input.bills.map fun bill => money bill.amount)
  let claimed := money input.claimedOnAccount
  let left := moneyMoved + deductions + credits
  let right := allocated + claimed + extras
  let instant := sumOfTenders input fun tender => !tender.isPostDated
  let other := match sides.direction with
    | .OUT => "charges"
    | .IN => "income"
  if left ≠ right then
    invalid ("The " ++ sides.doc ++ " does not balance") [{
      field := "onAccount"
      code := VCH.UNBALANCED
      message := sides.moved ++ " " ++ toFixed moneyMoved ++ " + deductions " ++
        toFixed deductions ++ " + credits " ++ toFixed credits ++ " = " ++ toFixed left ++
        ", but allocated " ++ toFixed allocated ++ " + on account " ++ toFixed claimed ++
        " + other " ++ other ++ " " ++ toFixed extras ++ " = " ++ toFixed right ++
        ". Out by " ++ toFixed (left - right) ++ "." }]
  else if instant < extras then
    invalid "Validation failed" [{
      field := "otherLines"
      code := ACC.OTHER_LINE_UNFUNDED
      message := "Other " ++ other ++ " of " ++ toFixed extras ++ " needs money that has " ++
        (match sides.direction with
          | .OUT => "left"
          | .IN => "arrived") ++
        ", and only " ++ toFixed instant ++ " has. A post-dated cheque cannot fund it." }]
  else .ok ()

/-! ## Step 1: deductions reserve -/

/-- A bill and what may still be placed on it. -/
abbrev Room := Pour.Level AllocationBill Decimal

/-- What the deductions have placed so far, and what no bill had room for. -/
structure Reserved where
  capacity : List Room
  rows : List AllocationAdjustment
  overflow : Decimal

def deductionRow (input : AllocationInput) (sides : Sides) (bill : AllocationBill)
    (line : AllocationOtherLine) (amount : Decimal) : AllocationAdjustment where
  billId := bill.billId
  billAccYear := bill.billAccYear
  adjType := .ALLOCATION
  settlementMode := line.settlementMode
  drCr := sides.settle
  amount := amount
  adjDate := input.receiptDate
  isPostDated := false
  voucherKey := RECEIPT_VOUCHER_KEY
  tenderRowNo := none
  otherLineNo := some line.lineNo
  againstBill := none
  approvedBy := line.approvedBy
  countsToAdjustAmount := true
  remarks := none

def takeFromBill (capacity : List Room) (index : ℕ) (room : Room) (amount : Decimal)
    (field : String) : Except AllocationError (List Room) :=
  if room.remaining < amount then
    invalid "Validation failed" [{
      field := field
      code := VCH.BILL_OVERSPENT
      message := "Bill " ++ room.holder.docRefno ++ " has room for " ++ toFixed room.remaining ++
        " more, but " ++ toFixed amount ++
        " was aimed at it. Raise the bill's amount or lower the line." }]
  else .ok (capacity.set index ⟨room.holder, room.remaining - amount⟩)

/-- Take from the bill at an index and push the row; no caller passes an index
outside the bills. -/
def placeDeduction (input : AllocationInput) (sides : Sides) (line : AllocationOtherLine)
    (field : String) (state : Reserved) (index : ℕ) (amount : Decimal) :
    Except AllocationError Reserved :=
  match state.capacity[index]? with
  | none => .ok state
  | some room => do
      let capacity ← takeFromBill state.capacity index room amount field
      .ok { state with
        capacity := capacity
        rows := state.rows ++ [deductionRow input sides room.holder line amount] }

/-- The pins of each line, lines in the order they are first pinned. -/
def groupPins (pins : List AllocationPin) : OrderedMap ℕ (List AllocationPin) :=
  .groupBy AllocationPin.lineNo pins

def billIndex (bills : List AllocationBill) : OrderedMap String ℕ :=
  .ofList (bills.mapIdx fun index bill => (bill.ref.key, index))

def placePin (input : AllocationInput) (sides : Sides) (line : AllocationOtherLine)
    (state : Reserved) (pin : AllocationPin) : Except AllocationError Reserved :=
  match (billIndex input.bills).get? pin.ref.key with
  | none =>
      invalid "Validation failed" [{
        field := "otherLineBills"
        code := ACC.INVALID
        message := "Line " ++ toString line.lineNo ++
          " is pinned to a bill this document does not allocate against" }]
  | some index =>
      placeDeduction input sides line ("otherLineBills (line " ++ toString line.lineNo ++ ")")
        state index (money pin.amount)

def pinnedTotal (pins : List AllocationPin) : Decimal := sum (pins.map fun pin => money pin.amount)

def deductionsOf (input : AllocationInput) (sides : Sides) : List AllocationOtherLine :=
  input.otherLines.filter fun line => isDeduction line sides

/-- One pinned line: it must be a deduction, and its pins must add up to it. -/
def reservePinned (input : AllocationInput) (sides : Sides) (state : Reserved)
    (entry : ℕ × List AllocationPin) : Except AllocationError Reserved :=
  match (deductionsOf input sides).find? fun candidate => candidate.lineNo = entry.1 with
  | none =>
      invalid "Validation failed" [{
        field := "otherLineBills"
        code := ACC.INVALID
        message := "Line " ++ toString entry.1 ++
          " is pinned to a bill, but it is not a deduction that settles one. Only a " ++
          sides.deduction.toString ++ " other-ledger line with settlesBill can be pinned." }]
  | some line =>
      if pinnedTotal entry.2 ≠ money line.amount then
        invalid "Validation failed" [{
          field := "otherLineBills"
          code := ACC.INVALID
          message := "Line " ++ toString entry.1 ++ " is " ++ toFixed (money line.amount) ++
            " but its pins add up to " ++ toFixed (pinnedTotal entry.2) ++
            ". Pin all of a line or none of it." }]
      else
        entry.2.foldlM (placePin input sides line) state

/-- All the pinned lines, before any spreading. -/
def reservePins (input : AllocationInput) (sides : Sides) (capacity : List Room) :
    Except AllocationError Reserved :=
  (groupPins input.pins).entries.foldlM (reservePinned input sides) ⟨capacity, [], 0⟩

/-- One share of a spread line. -/
def placeShare (input : AllocationInput) (sides : Sides) (line : AllocationOtherLine)
    (state : Reserved) (entry : Decimal × ℕ) : Except AllocationError Reserved :=
  if entry.1 = 0 then .ok state
  else
    placeDeduction input sides line ("otherLines." ++ toString line.lineNo ++ ".amount") state
      entry.2 entry.1

/-- An unpinned line fills the bills' remaining room and no more. -/
def spreadLine (input : AllocationInput) (sides : Sides) (state : Reserved)
    (line : AllocationOtherLine) : Except AllocationError Reserved :=
  if (groupPins input.pins).has line.lineNo then .ok state
  else
    let room := state.capacity.map Pour.Level.remaining
    let placed := min (money line.amount) (sum room)
    let overflow := state.overflow + (money line.amount - placed)
    (distributeProRata placed room).zipIdx.foldlM (placeShare input sides line)
      { state with overflow := overflow }

def reserveDeductions (input : AllocationInput) (sides : Sides) (capacity : List Room) :
    Except AllocationError Reserved := do
  let pinned ← reservePins input sides capacity
  (deductionsOf input sides).foldlM (spreadLine input sides) pinned

/-! ## Step 2: the pour -/

inductive SourceKind where
  | CREDIT
  | MONEY
  | CHEQUE
  deriving DecidableEq, Repr

/-- Where a pool of value came from. -/
structure SourceOrigin where
  kind : SourceKind
  voucherKey : VoucherKey
  adjDate : Date
  isPostDated : Bool
  settlementMode : BillSettlementMode
  tenderRowNo : Option ℕ
  credit : Option AllocationCredit
  deriving DecidableEq, Repr

/-- A pool of value waiting to be poured into bills. -/
abbrev Source := Pour.Level SourceOrigin Decimal

def creditOrigin (input : AllocationInput) (credit : AllocationCredit) : SourceOrigin :=
  ⟨.CREDIT, RECEIPT_VOUCHER_KEY, input.receiptDate, false, credit.settlementMode, none,
    some credit⟩

def moneyOrigin (input : AllocationInput) : SourceOrigin :=
  ⟨.MONEY, RECEIPT_VOUCHER_KEY, input.receiptDate, false, .MIXED, none, none⟩

def chequeOrigin (input : AllocationInput) (cheque : AllocationTender) : SourceOrigin :=
  ⟨.CHEQUE, RECEIPT_VOUCHER_KEY, input.receiptDate, false, .CHEQUE, some cheque.tenderRowNo, none⟩

/-- Dated the cheque, which is what makes it settle on maturity. -/
def postDatedOrigin (input : AllocationInput) (cheque : AllocationTender) : SourceOrigin :=
  ⟨.CHEQUE, pdcVoucherKey cheque.tenderRowNo, cheque.instrumentDate.getD input.receiptDate, true,
    .CHEQUE, some cheque.tenderRowNo, none⟩

/-- The tenders that are not post-dated, by row number. -/
def instantTenders (input : AllocationInput) : List AllocationTender :=
  (input.tenders.filter fun tender => !tender.isPostDated).insertionSort fun left right =>
    left.tenderRowNo ≤ right.tenderRowNo

/-- What a post-dated cheque is ordered by: its maturity, then its row number. -/
def AllocationTender.maturity (tender : AllocationTender) : Date ×ₗ ℕ :=
  toLex (tender.instrumentDate.getD 0, tender.tenderRowNo)

def postDatedTenders (input : AllocationInput) : List AllocationTender :=
  (input.tenders.filter fun tender => tender.isPostDated).insertionSort fun left right =>
    left.maturity ≤ right.maturity

/-- A source is pushed only when something is left of it. -/
def pushSource (origin : SourceOrigin) (remaining : Decimal) : List Source :=
  if 0 < remaining then [⟨origin, remaining⟩] else []

/-- The current-dated cheques, less the extras the pooled money did not cover. -/
def chequeSources (input : AllocationInput) : Decimal → List AllocationTender → List Source
  | _, [] => []
  | extras, cheque :: rest =>
      let amount := money cheque.amount
      let take := min extras amount
      pushSource (chequeOrigin input cheque) (amount - take) ++
        chequeSources input (extras - take) rest

/-- The sources in consumption order, the extras taken off the front of the
instant money. -/
def buildSources (input : AllocationInput) (sides : Sides) : List Source :=
  let credits := input.credits.map fun credit => ⟨creditOrigin input credit, money credit.amount⟩
  let instant := instantTenders input
  let pooled := instant.filter fun tender => !tender.isCheque
  let currentCheques := instant.filter fun tender => tender.isCheque
  let extras := sumOfLines input fun line => isExtra line sides
  let pooledTotal := sum (pooled.map fun tender => money tender.amount)
  let takeFromPooled := min extras pooledTotal
  credits ++ pushSource (moneyOrigin input) (pooledTotal - takeFromPooled) ++
    chequeSources input (extras - takeFromPooled) currentCheques ++
    (postDatedTenders input).map fun cheque =>
      ⟨postDatedOrigin input cheque, money cheque.amount⟩

/-- One source landing on one bill.  A credit gives a pair: the row on the bill
being settled and the mirror on the credit being spent. -/
def settlementRows (sides : Sides)
    (transfer : Pour.Transfer AllocationBill SourceOrigin Decimal) : List AllocationAdjustment :=
  let bill := transfer.target
  let source := transfer.source
  let base : AllocationAdjustment :=
    { billId := bill.billId
      billAccYear := bill.billAccYear
      adjType := .ALLOCATION
      settlementMode := source.settlementMode
      drCr := sides.settle
      amount := transfer.amount
      adjDate := source.adjDate
      isPostDated := source.isPostDated
      voucherKey := source.voucherKey
      tenderRowNo := source.tenderRowNo
      otherLineNo := none
      againstBill := none
      approvedBy := none
      countsToAdjustAmount := true
      remarks := none }
  match source.kind, source.credit with
  | .CREDIT, some credit =>
      [{ base with
          adjType := credit.adjType
          settlementMode := credit.settlementMode
          againstBill := some credit.ref
          remarks := some ("Settled from " ++ credit.docRefno) },
        { base with
          billId := credit.billId
          billAccYear := credit.billAccYear
          adjType := credit.adjType
          settlementMode := credit.settlementMode
          drCr := sides.mirror
          againstBill := some bill.ref
          countsToAdjustAmount := false
          remarks := some ("Applied to " ++ bill.docRefno) }]
  | _, _ => [base]

/-! ## Step 3: discount, write-off and round-off -/

def reductionRow (input : AllocationInput) (sides : Sides) (bill : AllocationBill)
    (adjType : BillAdjType) (settlementMode : BillSettlementMode) (amount : Decimal)
    (approvedBy : Option String) : AllocationAdjustment where
  billId := bill.billId
  billAccYear := bill.billAccYear
  adjType := adjType
  settlementMode := settlementMode
  drCr := sides.settle
  amount := amount
  adjDate := input.receiptDate
  isPostDated := false
  voucherKey := RECEIPT_VOUCHER_KEY
  tenderRowNo := none
  otherLineNo := none
  againstBill := none
  approvedBy := approvedBy
  countsToAdjustAmount := true
  remarks := none

/-- An approver is a text with something in it. -/
def approved : Option String → Bool
  | none => false
  | some approver => approver ≠ ""

def billReductions (input : AllocationInput) (sides : Sides) (bill : AllocationBill) :
    Except AllocationError (List AllocationAdjustment) :=
  let discount := money bill.discount
  let writeoff := money bill.writeoff
  let roundoff := money bill.roundoff
  if 0 < writeoff ∧ approved bill.writeoffApprovedBy = false then
    invalid "Validation failed" [{
      field := "allocations.writeoffApprovedBy"
      code := ACC.WRITEOFF_APPROVER
      message := "Writing off " ++ toFixed writeoff ++ " on " ++ bill.docRefno ++
        " needs an approver" }]
  else
    .ok ((if 0 < discount then
          [reductionRow input sides bill .DISCOUNT .DISCOUNT discount none] else []) ++
      (if 0 < writeoff then
          [reductionRow input sides bill .WRITEOFF .WRITEOFF writeoff bill.writeoffApprovedBy]
        else []) ++
      (if 0 < roundoff then
          [reductionRow input sides bill .ROUND_OFF .ROUND_OFF roundoff none] else []))

def addReductions (input : AllocationInput) (sides : Sides) :
    List AllocationBill → Except AllocationError (List AllocationAdjustment)
  | [] => .ok []
  | bill :: rest => do
      let here ← billReductions input sides bill
      let later ← addReductions input sides rest
      .ok (here ++ later)

/-! ## Step 4: the remainder -/

/-- The remainders held so far, per voucher. -/
abbrev Held := OrderedMap VoucherKey AllocationOnAccount

def addOnAccount (byVoucher : Held) (voucherKey : VoucherKey) (amount : Decimal) (onDate : Date) :
    Held :=
  if amount ≤ 0 then byVoucher
  else
    let existing := byVoucher.get? voucherKey
    byVoucher.set voucherKey
      { voucherKey := voucherKey
        amount := (existing.map AllocationOnAccount.amount).getD 0 + amount
        onDate := (existing.map AllocationOnAccount.onDate).getD onDate }

/-- A source with something left is held on account; a credit is refused, since
spending an advance to create another moves nothing. -/
def holdSource (byVoucher : Held) (source : Source) : Except AllocationError Held :=
  if source.remaining ≤ 0 then .ok byVoucher
  else if source.holder.kind = .CREDIT then
    invalid "Validation failed" [{
      field := "creditsApplied"
      code := ACC.CREDIT_OVERSPENT
      message := (source.holder.credit.map AllocationCredit.docRefno).getD "A credit" ++ " has " ++
        toFixed source.remaining ++ " left over. A credit may only be applied to a bill — it " ++
        "cannot be held on account again. Apply less of it." }]
  else .ok (addOnAccount byVoucher source.holder.voucherKey source.remaining source.holder.adjDate)

def collectOnAccount (input : AllocationInput) (sides : Sides) (sources : List Source)
    (deductionOverflow : Decimal) : Except AllocationError (List AllocationOnAccount) := do
  let byVoucher ← sources.foldlM holdSource .empty
  let floating := sumOfLines input fun line => isFloating line sides
  let all := addOnAccount byVoucher RECEIPT_VOUCHER_KEY (floating + deductionOverflow)
    input.receiptDate
  .ok (all.values.map fun entry => { entry with amount := money entry.amount })

/-! ## Derivations -/

def totalPerVoucher (adjustments : List AllocationAdjustment) : OrderedMap VoucherKey Decimal :=
  let counted := adjustments.filter fun row => row.countsToAdjustAmount
  (OrderedMap.accumulate .empty
    (counted.map fun row => (row.voucherKey, row.amount))).mapValues money

/-- The sign a row has in the party leg: the mirror row of a pair is taken off. -/
def AllocationAdjustment.signed (sides : Sides) (row : AllocationAdjustment) : Decimal :=
  if row.drCr = sides.settle then row.amount else -row.amount

/-- A voucher with no movement still gets its key. -/
def ensureKey (totals : OrderedMap VoucherKey Decimal) (key : VoucherKey) :
    OrderedMap VoucherKey Decimal :=
  if totals.has key then totals else totals.set key 0

/-- What is posted to each voucher: the rows, then what is held on account. -/
def partyPostings (sides : Sides) (adjustments : List AllocationAdjustment)
    (onAccount : List AllocationOnAccount) : List (VoucherKey × Decimal) :=
  adjustments.map (fun row => (row.voucherKey, row.signed sides)) ++
    onAccount.map fun entry => (entry.voucherKey, entry.amount)

/-- The one party leg each voucher needs, derived from the bill side. -/
def partyLegPerVoucher (input : AllocationInput) (sides : Sides)
    (adjustments : List AllocationAdjustment) (onAccount : List AllocationOnAccount) :
    OrderedMap VoucherKey Decimal :=
  let totals := OrderedMap.accumulate .empty (partyPostings sides adjustments onAccount)
  let postDated := input.tenders.filter fun tender => tender.isPostDated
  let keys := RECEIPT_VOUCHER_KEY :: postDated.map fun tender => pdcVoucherKey tender.tenderRowNo
  (keys.foldl ensureKey totals).mapValues money

/-! ## The engine -/

/-- The first bill the pour left short. -/
def findUnfilled (capacity : List Room) : Option (Room × ℕ) :=
  capacity.zipIdx.find? fun entry => entry.1.remaining ≠ 0

/-- The self-check after the pour: every bill must be exactly full. -/
def assertFilled (sides : Sides) (capacity : List Room) : Except AllocationError Unit :=
  match findUnfilled capacity with
  | none => .ok ()
  | some (room, index) =>
      invalid "Allocation could not be completed" [{
        field := "allocations." ++ toString index ++ ".amount"
        code := VCH.UNBALANCED
        message := "Bill " ++ room.holder.docRefno ++ " is short by " ++ toFixed room.remaining ++
          " — the " ++ sides.doc ++
          " does not carry enough money, credit or deduction to settle what it claims" }]

/-- The self-check on the remainder: what is held is what the client claimed. -/
def assertOnAccount (sides : Sides) (totalOnAccount claimed : Decimal) :
    Except AllocationError Unit :=
  if totalOnAccount ≠ money claimed then
    invalid "Validation failed" [{
      field := "onAccount"
      code := ACC.INVALID
      message := "The server holds " ++ toFixed totalOnAccount ++ " on account, not " ++
        toFixed (money claimed) ++ ". The client's figure is a preview; re-read " ++
        sides.route ++ " and re-post." }]
  else .ok ()

/-- The bills before anything is placed on them. -/
def initialCapacity (bills : List AllocationBill) : List Room :=
  bills.map fun bill => ⟨bill, money bill.amount⟩

def allocate (input : AllocationInput) : Except AllocationError AllocationResult := do
  let sides := sidesOf input
  assertBillsFit input.bills sides
  assertCreditsFit input.credits sides
  assertIdentity input sides
  let reserved ← reserveDeductions input sides (initialCapacity input.bills)
  let poured := Pour.pour reserved.capacity (buildSources input sides)
  assertFilled sides poured.targets
  let reductions ← addReductions input sides input.bills
  let adjustments := reserved.rows ++ poured.transfers.flatMap (settlementRows sides) ++ reductions
  let onAccount ← collectOnAccount input sides poured.sources reserved.overflow
  let totalOnAccount := sum (onAccount.map AllocationOnAccount.amount)
  assertOnAccount sides totalOnAccount input.claimedOnAccount
  .ok
    { adjustments := adjustments
      onAccount := onAccount
      totalOnAccount := totalOnAccount
      adjustAmountByVoucher := totalPerVoucher adjustments
      partyCreditByVoucher := partyLegPerVoucher input sides adjustments onAccount
      partyLegSide := sides.settle }

end ErpServer.Receipt
