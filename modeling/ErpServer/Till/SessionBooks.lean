import ErpServer.Lib.Journal
import ErpServer.Till.Drawer

/-!
# A till session and its legs

One session from its opening to its close, and again after a reopening: the money documents'
cash tender rows, the movements, the counts and decisions, and every voucher that carries
the session.  A voucher is undone by its mirror, which carries the session too.
-/

namespace ErpServer.Till.Session

open Lib
open Receipt (money)

abbrev LedgerId := ℕ

/-- The ledgers a branch's till posts on: the CASH tender's is none of the others. -/
structure TillLedgers where
  tillCash : LedgerId
  safe : LedgerId
  /-- `TILL_CASH_AWAITING`. -/
  awaiting : LedgerId
  /-- `CASH_SHORT_EXCESS`. -/
  shortExcess : LedgerId
  /-- `TENDER_SUSPENSE`. -/
  suspense : LedgerId
  /-- The cashier's. -/
  staffAdvance : LedgerId
  apart : tillCash ∉ [safe, awaiting, shortExcess, suspense, staffAdvance]

inductive TillFloatMode where
  | ISSUED | CARRIED | NONE
  deriving DecidableEq, Repr

/-- The settings a step reads, the counter's default float with them. -/
structure SessionSettings where
  floatMode : TillFloatMode
  tcnDefaultFloat : Decimal
  maxRecounts : ℕ
  cashTolerance : Decimal
  /-- `till.handover_receipt` is `REQUIRED`. -/
  handoverRequired : Bool
  deriving DecidableEq, Repr

/-- What a voucher of the session is for. -/
inductive SessionSource where
  | tender (row : ℕ)
  | movement (row : ℕ)
  | receipt (row : ℕ)
  | openVariance
  | closeVariance
  | reversal (voucher : ℕ)
  deriving DecidableEq, Repr

abbrev SessionVoucher := Journal.Entry SessionSource LedgerId Decimal

/-- A cash tender row and the voucher its leg is on. -/
structure CashRow where
  row : TenderRow
  tdIsVoided : Bool := false
  tdVoucherId : ℕ
  deriving DecidableEq, Repr

/-- Cash moved in or out of the drawer. -/
structure SessionMovement where
  tcmKind : TillMovementKind
  tcmAmount : Decimal
  tcmStatus : TillMovementStatus := .POSTED
  /-- None for an exchange. -/
  tcmVoucherId : Option ℕ
  tcmReceiptStatus : Option TillReceiptStatus := none
  deriving DecidableEq, Repr

/-- The session's live `CLOSE`-stage variance of the cash. -/
structure SessionVariance where
  tvrExpected : Decimal
  tvrCounted : Decimal
  tvrTreatment : TillVarianceTreatment
  tvrPosted : Bool := false
  /-- None too where there was nothing to book. -/
  tvrVoucherId : Option ℕ := none
  deriving DecidableEq, Repr

/-- A session with all its rows and vouchers. -/
structure SessionBook where
  tssStatus : TillSessionStatus
  tssFloatMode : TillFloatMode
  tssFloatIssued : Decimal
  tssFloatCounted : Decimal
  tssCountAttempts : ℕ := 0
  tssRecountsGranted : ℕ := 0
  /-- `tss_close_count_id` is set. -/
  tssCloseCount : Bool := false
  tssCashCounted : Decimal := 0
  tssHandedOver : Decimal := 0
  tssFloatLeft : Decimal := 0
  rows : List CashRow := []
  movements : List SessionMovement := []
  variance : Option SessionVariance := none
  vouchers : List SessionVoucher := []
  deriving DecidableEq, Repr

/-! ## The expectation -/

/-- What the posted movements of some kinds come to. -/
def SessionBook.moved (book : SessionBook) (kinds : List TillMovementKind) : Decimal :=
  ((book.movements.filter fun movement =>
    movement.tcmStatus = .POSTED && movement.tcmKind ∈ kinds).map (·.tcmAmount)).sum

def SessionBook.liveRows (book : SessionBook) : List TenderRow :=
  (book.rows.filter (!·.tdIsVoided)).map (·.row)

/-- `TillLedgerService.expected`, its cash line, while the session is not closed. -/
def SessionBook.expectation (book : SessionBook) : TenderExpectation :=
  cashExpectation book.tssFloatCounted (book.moved [.TOP_UP, .PAID_IN]) (book.moved [.PICKUP, .DROP])
    book.liveRows

/-! ## Postings -/

section Postings

variable (ledgers : TillLedgers) (book : SessionBook)

def SessionBook.postLegs (source : SessionSource) (legs : List (LedgerId × Decimal)) : SessionBook :=
  { book with vouchers := Journal.post book.vouchers source legs }

def SessionBook.reverseLegs (voucher : ℕ) : SessionBook :=
  { book with vouchers := Journal.reverse book.vouchers voucher (.reversal voucher) }

/-- A movement and its voucher against another ledger; an exchange has none. -/
def SessionBook.postMovement (kind : TillMovementKind) (amount : Decimal) (other : LedgerId)
    (awaiting : Bool) : SessionBook :=
  let size := money amount
  let receipt := if awaiting then some TillReceiptStatus.AWAITING else none
  if kind = .EXCHANGE then
    { book with movements := book.movements ++ [⟨kind, size, .POSTED, none, none⟩] }
  else
    let legs := if kind ∈ INTO_TILL then Journal.between ledgers.tillCash other size
      else Journal.between other ledgers.tillCash size
    { book.postLegs (.movement book.movements.length) legs with
      movements := book.movements ++ [⟨kind, size, .POSTED, some book.vouchers.length, receipt⟩] }

def SessionBook.voidMovement (row : ℕ) (movement : SessionMovement) : SessionBook :=
  let reversed := match movement.tcmVoucherId with
    | some voucher => book.reverseLegs voucher
    | none => book
  { reversed with movements := reversed.movements.modify row ({ · with tcmStatus := .VOIDED }) }

/-- The ledger a variance's counter leg goes to. -/
def TillLedgers.varianceCounterLedger : TillVarianceTreatment → LedgerId
  | .RECOVER => ledgers.staffAdvance
  | .SUSPENSE => ledgers.suspense
  | _ => ledgers.shortExcess

/-- A variance's voucher, and which it is: none for a variance of zero. -/
def SessionBook.postVarianceVoucher (source : SessionSource) (variance : Decimal)
    (treatment : TillVarianceTreatment) : SessionBook × Option ℕ :=
  let counter := ledgers.varianceCounterLedger treatment
  let size := money |variance|
  if variance = 0 then (book, none)
  else
    (book.postLegs source (if variance < 0 then Journal.between counter ledgers.tillCash size
      else Journal.between ledgers.tillCash counter size), some book.vouchers.length)

/-- A bag received from the ledger it waited on. -/
def SessionBook.postReceive (row : ℕ) (received : Decimal) : SessionBook :=
  let posted := if 0 < received then
      book.postLegs (.receipt row) (Journal.between ledgers.safe ledgers.awaiting (money received))
    else book
  { posted with
    movements := posted.movements.modify row ({ · with tcmReceiptStatus := some .RECEIVED }) }

/-- What the till-cash legs of the session come to, mirrors included. -/
def SessionBook.tillCashLegs : Decimal := Journal.balance book.vouchers ledgers.tillCash

end Postings

/-! ## Opening -/

structure OpenInput where
  /-- The counter has no drawer. -/
  noDrawer : Bool := false
  floatMode : Option TillFloatMode := none
  floatIssued : Option Decimal := none
  /-- `tss_float_left` of the counter's last close. -/
  carriedFrom : Option Decimal := none
  /-- What each line of the opening count comes to. -/
  lines : List Decimal
  deriving DecidableEq, Repr

/-- The float's mode and what was issued. -/
def openFloat (settings : SessionSettings) (input : OpenInput) : Option (TillFloatMode × Decimal) :=
  let floatMode := if input.noDrawer then .NONE else input.floatMode.getD settings.floatMode
  match floatMode with
  | .ISSUED =>
      let floatIssued := input.floatIssued.getD settings.tcnDefaultFloat
      if floatIssued < 0 then none else some (.ISSUED, floatIssued)
  | .CARRIED => input.carriedFrom.map fun floatLeft => (.CARRIED, floatLeft)
  | .NONE => if input.floatIssued.getD 0 ≠ 0 then none else some (.NONE, 0)

/-- The float out of the safe, if one is issued. -/
def SessionBook.issueFloat (ledgers : TillLedgers) (book : SessionBook) (floatIssued : Decimal) :
    SessionBook :=
  if book.tssFloatMode = .ISSUED ∧ floatIssued ≠ 0 then
    book.postMovement ledgers .FLOAT_ISSUE floatIssued ledgers.safe false
  else book

/-- The session, with its float issued and the opening count's variance posted. -/
def openSession (ledgers : TillLedgers) (settings : SessionSettings) (input : OpenInput) :
    Option SessionBook :=
  match openFloat settings input with
  | none => none
  | some (floatMode, floatIssued) =>
      -- Last `ck_tcm_amount`, on the row of the float issued.
      if floatMode = .NONE ∧ input.lines ≠ [] ∨ input.lines.any (· < 0) ∨
          floatMode = .ISSUED ∧ floatIssued ≠ 0 ∧ money floatIssued = 0 then none
      else
        let floatCounted := input.lines.sum
        let opened : SessionBook :=
          { tssStatus := .OPEN
            tssFloatMode := floatMode
            tssFloatIssued := money floatIssued
            tssFloatCounted := money floatCounted }
        if floatMode = .NONE then some opened
        else
          some ((opened.issueFloat ledgers floatIssued).postVarianceVoucher ledgers .openVariance
            (floatCounted - floatIssued) .EXPENSE).1

/-! ## Counting and closing -/

inductive TillCountOutcome where
  | ACCEPTED | RECOUNT_REQUIRED | SENT_FOR_APPROVAL
  deriving DecidableEq, Repr

/-- `endBillingIn`. -/
def SessionBook.endBilling (book : SessionBook) : SessionBook := { book with tssStatus := .COUNTING }

/-- A count: what each of its cash lines comes to, whether another tender of the drawer is
out of tolerance, and whether it was forced. -/
def countIn (settings : SessionSettings) (book : SessionBook) (lines : List Decimal)
    (othersOut forced : Bool) : Option (SessionBook × TillCountOutcome) :=
  let maxAttempts := 1 + settings.maxRecounts + book.tssRecountsGranted
  if (!forced && maxAttempts ≤ book.tssCountAttempts) || lines.any (· < 0) then none
  else
    let expected := book.expectation.expected
    let counted := lines.sum
    let within : Bool := |counted - expected| ≤ settings.cashTolerance
    let attemptNo := book.tssCountAttempts + 1
    let outcome : TillCountOutcome :=
      if within && !othersOut then .ACCEPTED
      else if forced || maxAttempts ≤ attemptNo then .SENT_FOR_APPROVAL
      else .RECOUNT_REQUIRED
    let attempted := { book with tssCountAttempts := attemptNo }
    if outcome = .RECOUNT_REQUIRED then some (attempted, outcome)
    else
      -- The variances of the last final count are replaced.
      some ({ attempted with
        tssCloseCount := true
        tssCashCounted := money counted
        tssStatus := if outcome = .SENT_FOR_APPROVAL then .PENDING_APPROVAL else book.tssStatus
        variance := some
          { tvrExpected := expected
            tvrCounted := money counted
            tvrTreatment := if !within && outcome = .SENT_FOR_APPROVAL then .PENDING
              else .WITHIN_TOLERANCE } }, outcome)

/-- An approval names a treatment; without one the count is to be made again. -/
def decideVariance (book : SessionBook) (approval : Option TillVarianceTreatment) :
    Option SessionBook :=
  if book.tssStatus = .PENDING_APPROVAL then
    match approval with
    | some treatment =>
        if treatment ∈ APPROVABLE_TREATMENTS then
          some { book with
            tssStatus := .COUNTING
            variance := book.variance.map fun variance =>
              if variance.tvrTreatment = .PENDING then { variance with tvrTreatment := treatment }
              else variance }
        else none
    | none => some { book with
        tssStatus := .COUNTING
        tssRecountsGranted := book.tssRecountsGranted + 1
        tssCloseCount := false
        tssCashCounted := 0 }
  else none

/-- What stays in the drawer. -/
def closeFloat (settings : SessionSettings) (cashCounted : Decimal) (floatLeft : Option Decimal) :
    Decimal :=
  floatLeft.getD
    (if settings.floatMode = .CARRIED then min cashCounted settings.tcnDefaultFloat else 0)

/-- The variance posted, unless it waits. -/
def SessionBook.settleVariance (ledgers : TillLedgers) (book : SessionBook) : SessionBook :=
  match book.variance with
  | some variance =>
      if variance.tvrPosted ∨ variance.tvrTreatment = .PENDING then book
      else
        let posted := book.postVarianceVoucher ledgers .closeVariance
          (variance.tvrCounted - variance.tvrExpected) variance.tvrTreatment
        { posted.1 with
          variance := some { variance with tvrPosted := true, tvrVoucherId := posted.2 } }
  | none => book

/-- What leaves the drawer at the close, if anything does. -/
def SessionBook.handOver (ledgers : TillLedgers) (settings : SessionSettings) (book : SessionBook)
    (handedOver : Decimal) : SessionBook :=
  if 0 < handedOver then
    book.postMovement ledgers .CLOSE_HANDOVER handedOver
      (if settings.handoverRequired then ledgers.awaiting else ledgers.safe) settings.handoverRequired
  else book

def closeIn (ledgers : TillLedgers) (settings : SessionSettings) (book : SessionBook)
    (floatLeft : Option Decimal) : Option SessionBook :=
  let undecided := book.variance.any fun variance =>
    !variance.tvrPosted && variance.tvrTreatment = .PENDING
  if book.tssStatus = .PENDING_APPROVAL ∨ ¬book.tssCloseCount ∨ undecided then none
  else
    let left := closeFloat settings book.tssCashCounted floatLeft
    if left < 0 ∨ book.tssCashCounted < left then none
    else
      let handedOver := book.tssCashCounted - left
      -- `ck_tcm_amount` on the hand-over's row, `ck_tss_disposal` on the session's.
      if 0 < handedOver ∧ money handedOver = 0 ∨
          money handedOver + money left ≠ book.tssCashCounted then none
      else
        some { (book.settleVariance ledgers).handOver ledgers settings handedOver with
          tssStatus := .CLOSED
          tssHandedOver := money handedOver
          tssFloatLeft := money left }

/-- The count's, then, if it was accepted, the close's. -/
def forceCloseIn (ledgers : TillLedgers) (settings : SessionSettings) (book : SessionBook)
    (lines : List Decimal) (othersOut : Bool) (floatLeft : Option Decimal) : Option SessionBook :=
  let ended := if book.tssStatus = .COUNTING then book else book.endBilling
  match countIn settings ended lines othersOut true with
  | some (counted, .ACCEPTED) => closeIn ledgers settings counted floatLeft
  | some (counted, _) => some counted
  | none => none

/-! ## Reopening -/

def SessionMovement.isHandOver (movement : SessionMovement) : Bool :=
  movement.tcmKind = .CLOSE_HANDOVER && movement.tcmStatus = .POSTED

/-- The hand-over of a place voided. -/
def SessionBook.voidHandOver (book : SessionBook) (row : ℕ) : SessionBook :=
  match book.movements[row]? with
  | some movement => if movement.isHandOver then book.voidMovement row movement else book
  | none => book

/-- The posted variance mirrored: a reversed row is not read again. -/
def SessionBook.reverseVariance (book : SessionBook) : SessionBook :=
  match book.variance with
  | some variance =>
      if variance.tvrPosted then
        let reversed := match variance.tvrVoucherId with
          | some voucher => book.reverseLegs voucher
          | none => book
        { reversed with variance := none }
      else book
  | none => book

def reopenSession (book : SessionBook) : Option SessionBook :=
  let received := book.movements.any fun movement =>
    movement.isHandOver && movement.tcmReceiptStatus = some .RECEIVED
  if book.tssStatus ≠ .CLOSED ∨ received then none
  else
    let voided := (List.range book.movements.length).foldl SessionBook.voidHandOver book
    some { voided.reverseVariance with
      tssStatus := .COUNTING
      tssCloseCount := false
      tssCashCounted := 0
      tssHandedOver := 0
      tssFloatLeft := 0
      tssRecountsGranted := book.tssRecountsGranted + 1 }

/-! ## Steps -/

/-- What happens to a session.  A bill may arrive late, a re-tender voids a row whatever the
session's status; other rows come and go while the drawer takes money. -/
inductive SessionStep where
  | tender (row : TenderRow) (late : Bool)
  | voidTender (row : ℕ) (retender : Bool)
  | move (kind : TillMovementKind) (amount : Decimal) (ledger : LedgerId)
  | voidMovement (row : ℕ)
  | receive (row : ℕ) (received : Decimal)
  | suspend
  | resume
  | endBilling
  | count (lines : List Decimal) (othersOut : Bool)
  | decide (approval : Option TillVarianceTreatment)
  | close (floatLeft : Option Decimal)
  | forceClose (lines : List Decimal) (othersOut : Bool) (floatLeft : Option Decimal)
  | reopen
  deriving DecidableEq, Repr

/-- Posted by hand at the counter. -/
def HAND_MOVEMENTS : List TillMovementKind := [.DROP, .PAID_IN, .EXCHANGE, .PICKUP, .TOP_UP]

def MOVABLE : List TillSessionStatus := [.OPEN, .SUSPENDED]

def COUNTED : List TillSessionStatus := [.COUNTING, .PENDING_APPROVAL, .CLOSED]

/-- The other side of a movement posted by hand. -/
def otherLedger (ledgers : TillLedgers) (settings : SessionSettings) (kind : TillMovementKind)
    (ledger : LedgerId) : LedgerId :=
  if kind = .PAID_IN then ledger
  else if kind = .DROP ∧ settings.handoverRequired then ledgers.awaiting
  else ledgers.safe

/-- A step of the session, under the settings it reads; none where it is refused. -/
def sessionStep (ledgers : TillLedgers) (settings : SessionSettings) (book : SessionBook) :
    SessionStep → Option SessionBook
  | .tender row late =>
      if book.tssStatus = .OPEN ∨ (late ∧ book.tssStatus ∈ COUNTED) then
        some { book.postLegs (.tender book.rows.length) [(ledgers.tillCash, row.signed)] with
          rows := book.rows ++ [⟨row, false, book.vouchers.length⟩] }
      else none
  | .voidTender row retender =>
      match book.rows[row]? with
      | some entry =>
          if ¬entry.tdIsVoided ∧ (retender ∨ book.tssStatus ∈ MOVABLE) then
            some { book.reverseLegs entry.tdVoucherId with
              rows := book.rows.modify row ({ · with tdIsVoided := true }) }
          else none
      | none => none
  | .move kind amount ledger =>
      -- The request's amount, and `ck_tcm_amount` on the row's.
      if kind ∈ HAND_MOVEMENTS ∧ book.tssStatus ∈ MOVABLE ∧ 0 < amount ∧ money amount ≠ 0 then
        some (book.postMovement ledgers kind amount (otherLedger ledgers settings kind ledger)
          (kind = .DROP && settings.handoverRequired))
      else none
  | .voidMovement row =>
      match book.movements[row]? with
      | some movement =>
          if (book.tssStatus ∈ MOVABLE ∨ book.tssStatus = .COUNTING) ∧ ¬book.tssCloseCount ∧
              movement.tcmStatus = .POSTED ∧ movement.tcmKind ∈ HAND_MOVEMENTS ∧
              movement.tcmReceiptStatus ≠ some .RECEIVED then
            some (book.voidMovement row movement)
          else none
      | none => none
  | .receive row received =>
      match book.movements[row]? with
      | some movement =>
          if movement.tcmStatus = .POSTED ∧ movement.tcmReceiptStatus = some .AWAITING ∧
              0 ≤ received then
            some (book.postReceive ledgers row received)
          else none
      | none => none
  | .suspend => if book.tssStatus = .OPEN then some { book with tssStatus := .SUSPENDED } else none
  | .resume => if book.tssStatus = .SUSPENDED then some { book with tssStatus := .OPEN } else none
  | .endBilling => if book.tssStatus ∈ MOVABLE then some book.endBilling else none
  | .count lines othersOut =>
      if book.tssStatus = .COUNTING then
        (countIn settings book lines othersOut false).map Prod.fst
      else none
  | .decide approval => decideVariance book approval
  | .close floatLeft =>
      if book.tssStatus = .COUNTING ∨ book.tssStatus = .PENDING_APPROVAL then
        closeIn ledgers settings book floatLeft
      else none
  | .forceClose lines othersOut floatLeft =>
      if book.tssStatus ∈ MOVABLE ∨ book.tssStatus = .COUNTING then
        forceCloseIn ledgers settings book lines othersOut floatLeft
      else none
  | .reopen => reopenSession book

end ErpServer.Till.Session
