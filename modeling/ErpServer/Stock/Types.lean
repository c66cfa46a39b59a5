import Mathlib.Data.List.MinMax
import ErpServer.Receipt.Types

/-!
# The stock tables

The append-only stock ledger, and every table kept beside it: the balance of each
holding, the cost of each item in a branch, the lots, the goods on the road between two
branches, and what sales orders hold against the shelf.  A document is named by its id,
which stands for the id and the year it is filed under.
-/

namespace ErpServer.Stock

open Lib
open Receipt (Decimal)

abbrev Uuid := ℕ
abbrev Date := ℤ
abbrev Instant := ℤ

/-- `ROUND(value, 2)`, the scale of values. -/
abbrev round2 (value : Decimal) : Decimal := Receipt.money value

/-- `ROUND(value, 6)`, the scale of rates. -/
def round6 (value : Decimal) : Decimal := Grid.halfUp (1 / 1000000) value

/-- `round(value, 4)`, the scale of reserved quantities.  A figure half way between two is
sent away from zero here, and by the doubles either way: nothing is said of one. -/
def round4 (value : Decimal) : Decimal := Grid.halfUp (1 / 10000) value

/-- `NULLIF(value, 0)`: a zero is "not stated". -/
def nullif0 (value : Decimal) : Option Decimal := if value = 0 then none else some value

/-! ## Vocabularies -/

inductive StockBucket where
  | SALEABLE
  | DAMAGED
  | QUARANTINE
  | EXPIRED
  | SAMPLE
  deriving DecidableEq, Repr

inductive StockVoucherType where
  | OPENING
  | RECEIPT
  | ISSUE
  | ADJUSTMENT
  | TRANSFER_OUT
  | TRANSFER_IN
  | DAMAGE
  | EXPIRY_WRITEOFF
  | PHYSICAL
  | REPACK_IN
  | REPACK_OUT
  deriving DecidableEq, Repr

inductive StockVoucherStatus where
  | DRAFT
  | POSTED
  | IN_TRANSIT
  | RECEIVED
  | CANCELLED
  deriving DecidableEq, Repr

inductive StockRateSource where
  | AVG_COST
  | LAST_PURCHASE
  | LOT_COST
  | MRP
  | MANUAL
  deriving DecidableEq, Repr

inductive StockPostShape where
  | SIMPLE
  | COUNT
  | TRANSFER_OUT
  | TRANSFER_IN
  | BUCKET_MOVE
  deriving DecidableEq, Repr

inductive StockQuantityMode where
  | QTY
  | COUNT
  deriving DecidableEq, Repr

inductive LineDirection where
  | DOCUMENT
  | REASON
  deriving DecidableEq, Repr

inductive StockTxnType where
  | OPENING
  | PURCHASE
  | PURCHASE_RETURN
  | SALE
  | SALE_RETURN
  | DC_ISSUE
  | DC_RETURN
  | TRANSFER_OUT
  | TRANSFER_IN
  | ADJUST_PLUS
  | ADJUST_MINUS
  | PHYSICAL_PLUS
  | PHYSICAL_MINUS
  | DAMAGE
  | EXPIRY_WRITEOFF
  | REPACK_IN
  | REPACK_OUT
  | BUCKET_IN
  | BUCKET_OUT
  | GIFT_ISSUE
  | SAMPLE_ISSUE
  deriving DecidableEq, Repr

/-- `sml_direction`: stock comes in or goes out. -/
inductive Direction where
  | IN
  | OUT
  deriving DecidableEq, Repr

def Direction.sign : Direction → Decimal
  | .IN => 1
  | .OUT => -1

inductive StockLotStatus where
  | ACTIVE
  | CLOSED
  | BLOCKED
  | EXPIRED
  deriving DecidableEq, Repr

inductive StockTransitStatus where
  | IN_TRANSIT
  | PARTIAL
  | RECEIVED
  | CANCELLED
  deriving DecidableEq, Repr

inductive StockReservationStatus where
  | OPEN
  | PARTIAL
  | CONSUMED
  | RELEASED
  | EXPIRED
  deriving DecidableEq, Repr

inductive AllowNegative where
  | ALLOW
  | WARN
  | BLOCK
  deriving DecidableEq, Repr

inductive IssueStrategy where
  | FEFO
  | FIFO
  | LIFO
  | MANUAL
  deriving DecidableEq, Repr

inductive StockValuationMethod where
  | WAVG
  | LOT_ACTUAL
  deriving DecidableEq, Repr

/-! ## Policies -/

/-- The effective tracking policy of an item on a date. -/
structure StockTrackPolicy where
  trackBatch : Bool
  trackMrp : Bool
  trackSalePrice : Bool
  trackExpiry : Bool
  trackSerial : Bool
  trackSupplier : Bool
  issueStrategy : IssueStrategy
  allowNegative : AllowNegative
  deriving DecidableEq, Repr

namespace StockTrackPolicy

/-- No policy row is a complete answer. -/
def noPolicy : StockTrackPolicy where
  trackBatch := false
  trackMrp := false
  trackSalePrice := false
  trackExpiry := false
  trackSerial := false
  trackSupplier := false
  issueStrategy := .FEFO
  allowNegative := .ALLOW

def tracksAny (policy : StockTrackPolicy) : Bool :=
  policy.trackBatch || policy.trackMrp || policy.trackSalePrice || policy.trackExpiry ||
    policy.trackSerial || policy.trackSupplier

/-- A plain item is costed at its average, a tracked one by its lots; the table holds the
column to the flags. -/
def valuationMethod (policy : StockTrackPolicy) : StockValuationMethod :=
  if policy.tracksAny then .LOT_ACTUAL else .WAVG

end StockTrackPolicy

/-- The identity of a lot, a dimension that is not tracked blanked to its sentinel. -/
structure LotKey where
  batch : String
  mrp : Decimal
  salePrice : Decimal
  expiry : Date
  serial : String
  supplier : Uuid
  deriving DecidableEq, Repr

/-- What the engine reads of the masters: the policy of a company, branch and item on a
date, the tax of an item on a date, and the id minted from a lot's identity. -/
structure StockMasters where
  policy : Uuid → Uuid → Uuid → Date → StockTrackPolicy
  itemTaxPerc : Uuid → Date → Option Decimal
  lotIdentityUuid : Uuid → Uuid → LotKey → Uuid

/-! ## Places -/

/-- One lot of one item on one shelf in one condition. -/
structure Holding where
  companyId : Uuid
  branchId : Uuid
  godownId : Uuid
  itemId : Uuid
  lotId : Uuid
  bucket : StockBucket
  deriving DecidableEq, Repr

/-- An item in a branch, the grain of the average. -/
structure ItemScope where
  companyId : Uuid
  branchId : Uuid
  itemId : Uuid
  deriving DecidableEq, Repr

/-- A lot in a branch, the grain of a lot's own cost. -/
structure LotScope where
  companyId : Uuid
  branchId : Uuid
  itemId : Uuid
  lotId : Uuid
  deriving DecidableEq, Repr

def Holding.item (holding : Holding) : ItemScope :=
  ⟨holding.companyId, holding.branchId, holding.itemId⟩

def Holding.lot (holding : Holding) : LotScope :=
  ⟨holding.companyId, holding.branchId, holding.itemId, holding.lotId⟩

def LotScope.item (lot : LotScope) : ItemScope := ⟨lot.companyId, lot.branchId, lot.itemId⟩

/-! ## The ledger -/

/-- A movement of stock. -/
structure LedgerRow where
  smlId : ℕ
  holding : Holding
  srcDocId : Uuid
  lineNo : ℕ
  splitNo : ℕ
  txnType : StockTxnType
  direction : Direction
  docDate : Date
  docDatetime : Instant
  baseQty : Decimal
  freeBaseQty : Decimal
  costRate : Decimal
  costValue : Decimal
  costRateWot : Decimal
  costValueWot : Decimal
  docRate : Decimal
  isReversal : Bool
  reversesId : Option ℕ
  deriving DecidableEq, Repr

namespace LedgerRow

def qty (row : LedgerRow) : Decimal := row.baseQty + row.freeBaseQty

/-- The generated column. -/
def signedBaseQty (row : LedgerRow) : Decimal := row.direction.sign * row.qty

def item (row : LedgerRow) : ItemScope := row.holding.item

def lot (row : LedgerRow) : LotScope := row.holding.lot

end LedgerRow

/-! ## Tables derived from it -/

/-- What a balance takes from the ledger. -/
structure Accumulators where
  inQty : Decimal
  outQty : Decimal
  freeInQty : Decimal
  freeOutQty : Decimal
  firstInDate : Option Date
  lastInDate : Option Date
  lastOutDate : Option Date
  deriving DecidableEq, Repr

/-- What one place holds. -/
structure StockBalance extends Accumulators where
  reservedQty : Decimal
  transitInQty : Decimal
  avgCostRate : Decimal
  avgCostRateWot : Decimal
  stockValue : Decimal
  stockValueWot : Decimal
  deriving DecidableEq, Repr

/-- The generated column: what is physically here, free goods included. -/
def Accumulators.onHandQty (balance : Accumulators) : Decimal :=
  balance.inQty + balance.freeInQty - balance.outQty - balance.freeOutQty

/-- The generated column: what may still be sold. -/
def StockBalance.availableQty (balance : StockBalance) : Decimal :=
  balance.onHandQty - balance.reservedQty

/-- A balance row as the table defaults it. -/
def StockBalance.opened : StockBalance where
  inQty := 0
  outQty := 0
  freeInQty := 0
  freeOutQty := 0
  firstInDate := none
  lastInDate := none
  lastOutDate := none
  reservedQty := 0
  transitInQty := 0
  avgCostRate := 0
  avgCostRateWot := 0
  stockValue := 0
  stockValueWot := 0

/-- The average cost of an item. -/
structure StockItemCost where
  totalQty : Decimal
  totalValue : Decimal
  totalValueWot : Decimal
  avgCostRate : Decimal
  avgCostRateWot : Decimal
  maxCostRate : Decimal
  lastPurchaseRate : Decimal
  lastPurchaseDate : Option Date
  lastSaleRate : Decimal
  lastSaleDate : Option Date
  deriving DecidableEq, Repr

/-- A lot on file, under its identity. -/
structure StockLot where
  companyId : Uuid
  itemId : Uuid
  key : LotKey
  batchNo : Option String
  mrp : Option Decimal
  salePrice : Option Decimal
  expiryDate : Option Date
  serialNo : Option String
  supplierId : Option Uuid
  costRate : Decimal
  costRateWot : Decimal
  createdOn : Instant
  totalOnHand : Decimal
  status : StockLotStatus
  closedOn : Option Instant
  deriving DecidableEq, Repr

/-- Goods on their way between branches. -/
structure StockTransit where
  sttId : ℕ
  companyId : Uuid
  fromBranchId : Uuid
  fromGodownId : Uuid
  toBranchId : Uuid
  toGodownId : Uuid
  itemId : Uuid
  lotId : Uuid
  bucket : StockBucket
  outVoucherId : Uuid
  sentQty : Decimal
  receivedQty : Decimal
  damageQty : Decimal
  costRate : Decimal
  costRateWot : Decimal
  transitValue : Decimal
  status : StockTransitStatus
  inVoucherId : Option Uuid
  deriving DecidableEq, Repr

/-- What an order holds of one place. -/
structure StockReservation where
  srvId : ℕ
  holding : Holding
  srcDocId : Uuid
  lineNo : ℕ
  reservedQty : Decimal
  consumedQty : Decimal
  releasedQty : Decimal
  reservedOn : Instant
  status : StockReservationStatus
  deriving DecidableEq, Repr

namespace StockReservation

/-- The generated column: what is still holding stock. -/
def openQty (reservation : StockReservation) : Decimal :=
  reservation.reservedQty - reservation.consumedQty - reservation.releasedQty

def isOpen (reservation : StockReservation) : Bool :=
  reservation.status = .OPEN || reservation.status = .PARTIAL

end StockReservation

/-- A value-only movement of stock on hand: a bill priced off its receipt. -/
structure StockCostRevaluation where
  lot : LotScope
  value : Decimal
  valueWot : Decimal
  deriving DecidableEq, Repr

/-! ## Documents -/

structure StockReason where
  code : String
  /-- `none` is a reason that works both ways. -/
  direction : Option Direction
  allowedTxnTypes : List StockTxnType
  deriving DecidableEq, Repr

/-- The per-type rules the engine reads. -/
structure StockVoucherTypeRules where
  voucherType : StockVoucherType
  isInward : Bool
  ledgerTxnTypes : List StockTxnType
  quantityMode : StockQuantityMode
  lineDirection : LineDirection
  defaultRateSource : Option StockRateSource
  blockNegative : Bool
  postShape : StockPostShape
  typed : ledgerTxnTypes ≠ []
  counted : quantityMode = .COUNT ↔ postShape = .COUNT
  despatched : voucherType = .TRANSFER_OUT ↔ postShape = .TRANSFER_OUT
  received : voucherType = .TRANSFER_IN ↔ postShape = .TRANSFER_IN
  deriving DecidableEq

/-- A line, or a split of one. -/
structure StockVoucherItem where
  lineNo : ℕ
  splitNo : ℕ
  itemId : Uuid
  lotId : Option Uuid
  godownId : Uuid
  bucket : StockBucket
  toBucket : Option StockBucket
  batchNo : Option String
  mrp : Option Decimal
  salePrice : Option Decimal
  expiryDate : Option Date
  serialNo : Option String
  supplierId : Option Uuid
  baseQty : Decimal
  freeBaseQty : Decimal
  /-- The generated column of a count: counted less book. -/
  diffQty : Option Decimal
  costRate : Decimal
  costRateWot : Decimal
  taxPerc : Option Decimal
  direction : Option Direction
  reason : Option StockReason
  deriving DecidableEq, Repr

/-- A document that moves stock. -/
structure StockVoucher where
  rules : StockVoucherTypeRules
  companyId : Uuid
  branchId : Uuid
  docDate : Date
  docDatetime : Instant
  rateSource : Option StockRateSource
  reason : Option StockReason
  toGodownId : Option Uuid
  toBranchId : Option Uuid
  linkSrcDocId : Option Uuid
  status : StockVoucherStatus
  isDeleted : Bool
  items : List StockVoucherItem
  deriving DecidableEq

/-! ## The whole store -/

/-- The tables of the stock. -/
structure StockTables where
  vouchers : OrderedMap Uuid StockVoucher
  ledger : List LedgerRow
  balances : OrderedMap Holding StockBalance
  itemCosts : OrderedMap ItemScope StockItemCost
  lots : OrderedMap Uuid StockLot
  transit : List StockTransit
  reservations : List StockReservation
  revaluations : List StockCostRevaluation
  deriving DecidableEq

namespace StockTables

def empty : StockTables where
  vouchers := .empty
  ledger := []
  balances := .empty
  itemCosts := .empty
  lots := .empty
  transit := []
  reservations := []
  revaluations := []

end StockTables

/-! ## Refusals -/

inductive StockErrorCode where
  | VOUCHER_NOT_FOUND
  | VOUCHER_ALREADY_CANCELLED
  | VOUCHER_STATUS_CHANGED
  | VOUCHER_NOT_DRAFT
  | VOUCHER_NOT_DELETABLE
  | LINES_REQUIRED
  | LINE_DUPLICATE
  | LINE_QTY_NEGATIVE
  | LINE_LOT_REQUIRED
  | LINE_COST_UNRESOLVED
  | PICK_MANUAL_LOT_REQUIRED
  | PICK_NO_STOCK
  | TO_GODOWN_REQUIRED
  | RECEIPT_NO_TRANSFER
  | TRANSFER_NOT_FOUND
  | TRANSFER_DELETED
  | TRANSFER_OTHER_BRANCH
  | TRANSFER_NOT_IN_TRANSIT
  | RECEIPT_NOT_IN_TRANSIT
  | RECEIPT_BUCKET_AMBIGUOUS
  | RECEIPT_OVER_REMAINING
  | TRANSFER_NOTHING_RECEIVED
  | TRANSFER_NOT_CANCELLABLE
  | RECEIPT_NOT_CANCELLABLE
  | TRANSFER_RECALL_RECEIVED
  | NEGATIVE_BLOCKED
  | CANCEL_WOULD_GO_NEGATIVE
  | FREE_QTY_EXCEEDS_FREE_STOCK
  deriving DecidableEq, Repr

structure StockErrorDetail where
  field : String
  code : StockErrorCode
  deriving DecidableEq, Repr

/-- What an operation is refused with: a 409, a 422, or a constraint of the database. -/
inductive StockError where
  | conflict (errors : List StockErrorDetail)
  | unprocessable (errors : List StockErrorDetail)
  | database (constraint : String)
  deriving DecidableEq, Repr

end ErpServer.Stock
