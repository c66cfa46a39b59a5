import ErpServer.Stock.Picking

/-!
# The lots a document needs

An inward line opens the lot its identity keys to unless it is there already, and so does a
line of an item nothing tracks.
-/

namespace ErpServer.Stock

open Lib
open Receipt (Decimal)

section Lots

variable (masters : StockMasters) (tables : StockTables) (voucher : StockVoucher)

/-- A lot as its first line opens it. -/
def openedLot (line : Costed) (postedOn : Instant) : StockLot :=
  let policy := policyOf masters voucher line.line
  { companyId := voucher.companyId
    itemId := line.line.itemId
    key := lotIdentityKey policy line.line
    batchNo := if policy.trackBatch then line.line.batchNo else none
    mrp := if policy.trackMrp then line.line.mrp else none
    salePrice := if policy.trackSalePrice then line.line.salePrice else none
    expiryDate := if policy.trackExpiry then line.line.expiryDate else none
    serialNo := if policy.trackSerial then line.line.serialNo else none
    supplierId := if policy.trackSupplier then line.line.supplierId else none
    costRate := line.lineCostRate
    costRateWot := line.lineCostRateWot
    createdOn := postedOn
    totalOnHand := 0
    status := .ACTIVE
    closedOn := none }

def ckSltPrices (lot : StockLot) : Bool :=
  0 ≤ lot.mrp.getD 0 && 0 ≤ lot.salePrice.getD 0 && 0 ≤ lot.costRate && 0 ≤ lot.costRateWot

/-- `ON CONFLICT DO NOTHING`, on the id and on the identity. -/
def insertLot (lots : OrderedMap Uuid StockLot) (lot : StockLot) : OrderedMap Uuid StockLot :=
  let lotId := masters.lotIdentityUuid lot.companyId lot.itemId lot.key
  if lots.has lotId || lots.values.any fun other => other.companyId = lot.companyId &&
      other.itemId = lot.itemId && other.key = lot.key then lots
  else lots.set lotId lot

/-- The lots the document needs, opened if they do not exist.  An outward line never opens
a lot for a tracked item. -/
def resolveLots (postedOn : Instant) : Except StockError (OrderedMap Uuid StockLot) :=
  let opening := (costed masters tables voucher voucher.items).filter fun line =>
    line.line.lotId.isNone && (lineDirection voucher line.line = some .IN ||
      !(policyOf masters voucher line.line).tracksAny)
  let lots := opening.map fun line => openedLot masters voucher line postedOn
  if lots.all ckSltPrices then .ok (lots.foldl (insertLot masters) tables.lots)
  else .error (.database "ck_slt_prices")

end Lots

/-- The valuation of an item on the document's date. -/
def valuationOn (masters : StockMasters) (docDate : Date) (item : ItemScope) :
    StockValuationMethod :=
  (masters.policy item.companyId item.branchId item.itemId docDate).valuationMethod

end ErpServer.Stock
