import ErpServer.Stock.Types

/-!
# The derived figures, rebuilt

Every figure kept beside the ledger is recomputed from the rows that exist, for the
holdings, lots and items it is asked for, and never incremented.
-/

namespace ErpServer.Stock

open Lib
open Receipt (Decimal)

/-! ## Reading the ledger -/

/-- The live mirror of a row. -/
def reversed (ledger : List LedgerRow) (row : LedgerRow) : Bool :=
  ledger.any fun rev => rev.isReversal && rev.reversesId == some row.smlId

/-- A forward row that no cancel has mirrored. -/
def unreversed (ledger : List LedgerRow) (row : LedgerRow) : Bool :=
  !row.isReversal && !reversed ledger row

def sumOf (amount : LedgerRow → Decimal) (rows : List LedgerRow) : Decimal := (rows.map amount).sum

/-- `ORDER BY sml_doc_datetime DESC, sml_id DESC`, the first. -/
def latest : List LedgerRow → Option LedgerRow
  | [] => none
  | row :: rest =>
      match latest rest with
      | none => some row
      | some last =>
          if row.docDatetime < last.docDatetime ∨
              row.docDatetime = last.docDatetime ∧ row.smlId ≤ last.smlId then some last
          else some row

/-! ## Balances -/

/-- A zero row for every one of the holdings that has none yet. -/
def ensureBalanceRows (holdings : List Holding) (balances : OrderedMap Holding StockBalance) :
    OrderedMap Holding StockBalance :=
  balances.insertMissing (fun _ => .opened) holdings

/-- What the open reservations of a holding still hold. -/
def reservedOf (reservations : List StockReservation) (holding : Holding) : Decimal :=
  ((reservations.filter fun reservation =>
    reservation.holding = holding && reservation.isOpen).map (·.openQty)).sum

/-- `sbl_reserved_qty`, recomputed for the holdings given. -/
def refreshReserved (reservations : List StockReservation) (holdings : List Holding)
    (balances : OrderedMap Holding StockBalance) : OrderedMap Holding StockBalance :=
  balances.update fun holding balance =>
    if holding ∈ holdings then { balance with reservedQty := reservedOf reservations holding }
    else balance

/-- Every holding one document's reservations sit on, in any status. -/
def reservationHoldingsOf (reservations : List StockReservation) (srcDocId : Uuid) :
    List Holding :=
  ((reservations.filter (·.srcDocId = srcDocId)).map (·.holding)).dedup

/-! ## Costs -/

/-- A cost with and without tax. -/
structure CostRate where
  rate : Decimal
  rateWot : Decimal
  deriving DecidableEq, Repr

/-- Quantity, value, and the cost the last standing row carried. -/
structure Valued where
  qty : Decimal
  value : Decimal
  valueWot : Decimal
  lastRate : Decimal
  lastRateWot : Decimal
  deriving DecidableEq, Repr

def valuedOf (ledger rows : List LedgerRow) (revalued : List StockCostRevaluation) : Valued :=
  let last := latest (rows.filter (unreversed ledger))
  { qty := sumOf (·.signedBaseQty) rows
    value := sumOf (fun row => row.direction.sign * row.costValue) rows +
      (revalued.map (·.value)).sum
    valueWot := sumOf (fun row => row.direction.sign * row.costValueWot) rows +
      (revalued.map (·.valueWot)).sum
    lastRate := (last.map (·.costRate)).getD 0
    lastRateWot := (last.map (·.costRateWot)).getD 0 }

/-- Value over quantity while there is quantity, the last cost after. -/
def Valued.average (valued : Valued) : CostRate where
  rate := if 0 < valued.qty then round6 (valued.value / valued.qty) else valued.lastRate
  rateWot := if 0 < valued.qty then round6 (valued.valueWot / valued.qty) else valued.lastRateWot

def lotValued (ledger : List LedgerRow) (revaluations : List StockCostRevaluation)
    (lot : LotScope) : Valued :=
  valuedOf ledger (ledger.filter fun row => row.lot = lot) (revaluations.filter (·.lot = lot))

/-- A lot's own cost in a branch. -/
def lotCostOf (ledger : List LedgerRow) (revaluations : List StockCostRevaluation)
    (lot : LotScope) : CostRate := (lotValued ledger revaluations lot).average

/-- A cost written onto a balance row, with the value it gives the row. -/
def StockBalance.costed (balance : StockBalance) (cost : CostRate) : StockBalance :=
  { balance with
    avgCostRate := cost.rate
    avgCostRateWot := cost.rateWot
    stockValue := round2 (balance.onHandQty * cost.rate)
    stockValueWot := round2 (balance.onHandQty * cost.rateWot) }

/-- Each lot's own cost onto every balance row of the lot in its branch. -/
def rebuildLotCosts (ledger : List LedgerRow) (revaluations : List StockCostRevaluation)
    (lots : List LotScope) (balances : OrderedMap Holding StockBalance) :
    OrderedMap Holding StockBalance :=
  balances.update fun holding balance =>
    if holding.lot ∈ lots then balance.costed (lotCostOf ledger revaluations holding.lot)
    else balance

def BUCKET_MOVE_TXN_TYPES : List StockTxnType := [.BUCKET_OUT, .BUCKET_IN]

/-- An inward that counts as a purchase: a bucket move does not. -/
def isPurchase (row : LedgerRow) : Bool :=
  row.direction = .IN && !(BUCKET_MOVE_TXN_TYPES.contains row.txnType)

/-- A sale that carried a document rate. -/
def isRatedSale (row : LedgerRow) : Bool :=
  row.direction = .OUT && row.txnType = .SALE && row.docRate ≠ 0

def itemValued (ledger : List LedgerRow) (revaluations : List StockCostRevaluation)
    (item : ItemScope) : Valued :=
  valuedOf ledger (ledger.filter fun row => row.item = item) (revaluations.filter (·.lot.item = item))

def itemCostOf (ledger : List LedgerRow) (revaluations : List StockCostRevaluation)
    (item : ItemScope) : StockItemCost :=
  let standing := (ledger.filter fun row => row.item = item).filter (unreversed ledger)
  let valued := itemValued ledger revaluations item
  let lastIn := latest (standing.filter isPurchase)
  let lastSale := latest (standing.filter isRatedSale)
  { totalQty := valued.qty
    totalValue := valued.value
    totalValueWot := valued.valueWot
    avgCostRate := valued.average.rate
    avgCostRateWot := valued.average.rateWot
    maxCostRate := (((standing.filter isPurchase).map (·.costRate)).max?).getD 0
    lastPurchaseRate := (lastIn.map (·.costRate)).getD 0
    lastPurchaseDate := lastIn.map (·.docDate)
    lastSaleRate := (lastSale.map (·.docRate)).getD 0
    lastSaleDate := lastSale.map (·.docDate) }

def StockItemCost.average (cost : StockItemCost) : CostRate := ⟨cost.avgCostRate, cost.avgCostRateWot⟩

/-- `stock_item_cost` for every one of the items. -/
def rebuildItemCosts (ledger : List LedgerRow) (revaluations : List StockCostRevaluation)
    (items : List ItemScope) (itemCosts : OrderedMap ItemScope StockItemCost) :
    OrderedMap ItemScope StockItemCost :=
  itemCosts.upsert (fun item _ => itemCostOf ledger revaluations item) items

/-- The average of each plain item onto every balance row of the item in its branch. -/
def stampItemAverage (itemCosts : OrderedMap ItemScope StockItemCost) (plain : List ItemScope)
    (balances : OrderedMap Holding StockBalance) : OrderedMap Holding StockBalance :=
  balances.update fun holding balance =>
    if holding.item ∈ plain then
      match itemCosts.get? holding.item with
      | some cost => balance.costed cost.average
      | none => balance
    else balance

end ErpServer.Stock
