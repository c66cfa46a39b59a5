import Mathlib.Order.WithBot
import ErpServer.Stock.Rebuild

/-!
# What a line moves, and at what cost

The chain every posting phase starts from: the policy of each line, the lot it names or
its identity keys to, the way it moves, and the cost it is valued at.  An outward line
never states its cost: it is relieved at what the stock cost.
-/

namespace ErpServer.Stock

open Lib
open Receipt (Decimal)

/-! ## Identity -/

/-- `NULLIF(upper(btrim(label)), '')`; letters beyond ASCII, which the collation of the database
folds, are left as they are. -/
def foldLabel (label : Option String) : Option String :=
  let trimmed := (((label.getD "").toList.dropWhile (· = ' ')).reverse.dropWhile (· = ' ')).reverse
  if trimmed = [] then none else some (String.ofList (trimmed.map Char.toUpper))

/-- The six identity dimensions, blanked wherever the policy does not track them. -/
def lotIdentityKey (policy : StockTrackPolicy) (line : StockVoucherItem) : LotKey where
  batch := (if policy.trackBatch then foldLabel line.batchNo else none).getD "~"
  mrp := (if policy.trackMrp then line.mrp else none).getD (-1)
  salePrice := (if policy.trackSalePrice then line.salePrice else none).getD (-1)
  expiry := (if policy.trackExpiry then line.expiryDate else none).getD (-719162)
  serial := (if policy.trackSerial then foldLabel line.serialNo else none).getD "~"
  supplier := (if policy.trackSupplier then line.supplierId else none).getD 0

/-- The lot a line names, or the one its identity keys to. -/
def lotOfLine (lots : OrderedMap Uuid StockLot) (companyId : Uuid) (line : StockVoucherItem)
    (key : LotKey) : Option (Uuid × StockLot) :=
  lots.entries.find? fun entry =>
    match line.lotId with
    | some lotId => entry.1 = lotId
    | none => entry.2.companyId = companyId && entry.2.itemId = line.itemId && entry.2.key = key

/-! ## Direction -/

/-- The reason a line moves under: its own, else the document's. -/
def lineReason (voucher : StockVoucher) (line : StockVoucherItem) : Option StockReason :=
  line.reason <|> voucher.reason

/-- Which way a line moves; a count's lines take their sign from the variance. -/
def lineDirection (voucher : StockVoucher) (line : StockVoucherItem) : Option Direction :=
  let docDirection : Option Direction :=
    if voucher.rules.quantityMode = .COUNT then none
    else if voucher.rules.isInward then some .IN else some .OUT
  match voucher.rules.lineDirection with
  | .DOCUMENT => docDirection
  | .REASON => line.direction <|> ((lineReason voucher line).bind (·.direction)) <|> docDirection

/-! ## Quantity -/

/-- What a line moves: its quantity, or the variance of a count. -/
def moveBaseQty (voucher : StockVoucher) (line : StockVoucherItem) : Decimal :=
  if voucher.rules.quantityMode = .COUNT then |line.diffQty.getD 0| else line.baseQty

def moveFreeBaseQty (voucher : StockVoucher) (line : StockVoucherItem) : Decimal :=
  if voucher.rules.quantityMode = .COUNT then 0 else line.freeBaseQty

def moveQty (voucher : StockVoucher) (line : StockVoucherItem) : Decimal :=
  moveBaseQty voucher line + moveFreeBaseQty voucher line

/-- A line relieved from stock: outward, or a count that found less. -/
def isRelieved (voucher : StockVoucher) (line : StockVoucherItem) : Bool :=
  lineDirection voucher line = some .OUT ||
    (voucher.rules.quantityMode = .COUNT && line.diffQty.getD 0 < 0)

/-! ## Cost -/

/-- The highest of a lot's rates over its balance rows in a branch. -/
def highestRate (balances : OrderedMap Holding StockBalance) (lot : LotScope)
    (rate : StockBalance → Decimal) : Option Decimal :=
  ((balances.entries.filter fun entry => entry.1.lot = lot).map fun entry => rate entry.2).max?

/-- A line with its lot, and what the lot costs in the branch where the policy costs it. -/
structure Lotted where
  line : StockVoucherItem
  lot : Option (Uuid × StockLot)
  lotRate : Option Decimal
  lotRateWot : Option Decimal

def lotted (masters : StockMasters) (tables : StockTables) (voucher : StockVoucher)
    (line : StockVoucherItem) : Lotted :=
  let policy := masters.policy voucher.companyId voucher.branchId line.itemId voucher.docDate
  let lot := lotOfLine tables.lots voucher.companyId line (lotIdentityKey policy line)
  let rateOf (rate : StockBalance → Decimal) : Option Decimal :=
    match policy.valuationMethod, lot with
    | .LOT_ACTUAL, some found =>
        highestRate tables.balances ⟨voucher.companyId, voucher.branchId, line.itemId, found.1⟩ rate
    | _, _ => none
  { line
    lot
    lotRate := (rateOf (·.avgCostRate)).bind nullif0
    -- `GREATEST` passes over a null, so a rate that is not there reads 0 and is not stated.
    lotRateWot := nullif0 (max ((rateOf (·.avgCostRateWot)).getD 0) 0) }

/-- What a line takes with it when it leaves: the lot's own cost, else the average, and
only when neither exists the figure keyed. -/
def relievedRate (cost : Option StockItemCost) (lotted : Lotted) : Decimal :=
  (lotted.lotRate <|> (cost.bind fun cost => nullif0 cost.avgCostRate) <|>
    nullif0 lotted.line.costRate).getD 0

/-- The without-tax rate comes from where the cost came from. -/
def relievedRateWot (cost : Option StockItemCost) (lotted : Lotted) : Option Decimal :=
  match lotted.lotRate, cost.bind fun cost => nullif0 cost.avgCostRate with
  | some _, _ => lotted.lotRateWot
  | none, some _ => nullif0 (max ((cost.map (·.avgCostRateWot)).getD 0) 0)
  | none, none => nullif0 lotted.line.costRateWot

def RELOT_OUT_CODE : String := "RELOT_OUT"
def RELOT_IN_CODE : String := "RELOT_IN"

def hasReason (code : String) (voucher : StockVoucher) (line : StockVoucherItem) : Bool :=
  ((lineReason voucher line).map (·.code)) = some code

/-- The out halves of a re-lot, which its in half inherits its cost from. -/
def relotLines (voucher : StockVoucher) (all : List Lotted) (lotted : Lotted)
    (valuation : StockValuationMethod) : List Lotted :=
  if valuation = .LOT_ACTUAL && lineDirection voucher lotted.line = some .IN &&
      hasReason RELOT_IN_CODE voucher lotted.line then
    all.filter fun other => other.line.itemId = lotted.line.itemId &&
      lineDirection voucher other.line = some .OUT && hasReason RELOT_OUT_CODE voucher other.line
  else []

/-- The transit rows of a despatch for one item and lot to one godown. -/
def transitMatches (transit : List StockTransit) (outId itemId lotId godownId : Uuid) :
    List StockTransit :=
  transit.filter fun row => row.outVoucherId = outId && row.itemId = itemId &&
    row.lotId = lotId && row.toGodownId = godownId

/-- The one a receipt is matched to: the bucket only breaks a tie. -/
def matchTransit (transit : List StockTransit) (outId itemId lotId godownId : Uuid)
    (bucket : StockBucket) : Option StockTransit :=
  let matching := transitMatches transit outId itemId lotId godownId
  (matching.find? fun row => row.bucket = bucket) <|> matching.head?

def matchLine (transit : List StockTransit) (outId : Uuid) (line : StockVoucherItem) :
    Option StockTransit :=
  line.lotId.bind fun lotId =>
    matchTransit transit outId line.itemId lotId line.godownId line.bucket

/-- A line priced: what the ledger row will be valued at. -/
structure Costed where
  line : StockVoucherItem
  lot : Option (Uuid × StockLot)
  lineCostRate : Decimal
  lineCostRateWot : Decimal

section Priced

variable (masters : StockMasters) (tables : StockTables) (voucher : StockVoucher)

def rateSourceOf : Option StockRateSource :=
  voucher.rateSource <|> voucher.rules.defaultRateSource <|>
    if voucher.rules.postShape = .TRANSFER_OUT ∨ voucher.rules.postShape = .TRANSFER_IN
    then some .AVG_COST else none

/-- An inward line's cost: what it states, and only a zero falls through to the
document's rate source. -/
def statedRate (cost : Option StockItemCost) (lotted : Lotted) : Decimal :=
  (nullif0 lotted.line.costRate <|>
    match rateSourceOf voucher with
    | some .AVG_COST => lotted.lotRate <|> cost.map (·.avgCostRate)
    | some .LAST_PURCHASE => cost.map (·.lastPurchaseRate)
    | some .LOT_COST => lotted.lotRate <|> lotted.lot.map (·.2.costRate)
    | some .MRP => lotted.line.mrp
    | _ => none).getD 0

def statedRateWot (cost : Option StockItemCost) (lotted : Lotted) : Option Decimal :=
  if lotted.line.costRate ≠ 0 then nullif0 lotted.line.costRateWot
  else match rateSourceOf voucher, lotted.lotRate with
    | some .AVG_COST, some _ => lotted.lotRateWot
    | some .AVG_COST, none => nullif0 (max ((cost.map (·.avgCostRateWot)).getD 0) 0)
    | some .LOT_COST, some _ => lotted.lotRateWot
    | some .LOT_COST, none => (lotted.lot.map (·.2.costRateWot)).bind nullif0
    | _, _ => none

/-- `line_cost_rate` and `stated_cost_rate_wot`. -/
def priced (all : List Lotted) (lotted : Lotted) : Decimal × Option Decimal :=
  let policy := masters.policy voucher.companyId voucher.branchId lotted.line.itemId voucher.docDate
  let cost := tables.itemCosts.get? ⟨voucher.companyId, voucher.branchId, lotted.line.itemId⟩
  let relot := relotLines voucher all lotted policy.valuationMethod
  let relotQty := (relot.map fun other => moveQty voucher other.line).sum
  let relotValue := (relot.map fun other =>
    moveQty voucher other.line * relievedRate cost other).sum
  let relotValueWot := (relot.map fun other =>
    moveQty voucher other.line * (relievedRateWot cost other).getD 0).sum
  if voucher.rules.postShape = .TRANSFER_IN then
    let transit := voucher.linkSrcDocId.bind fun outId => matchLine tables.transit outId lotted.line
    ((transit.map (·.costRate)).getD 0, some ((transit.map (·.costRateWot)).getD 0))
  else if isRelieved voucher lotted.line then
    (relievedRate cost lotted, relievedRateWot cost lotted)
  else if 0 < relotQty then
    (round6 (relotValue / relotQty), nullif0 (round6 (relotValueWot / relotQty)))
  else (statedRate voucher cost lotted, statedRateWot voucher cost lotted)

/-- Every line of a document priced; a without-tax cost nothing stated is derived from
the line's tax, a count's from the item's own. -/
def costed (items : List StockVoucherItem) : List Costed :=
  let all := items.map (lotted masters tables voucher)
  all.map fun lotted =>
    let (rate, statedWot) := priced masters tables voucher all lotted
    let tax :=
      if voucher.rules.quantityMode = .COUNT then
        masters.itemTaxPerc lotted.line.itemId voucher.docDate
      else lotted.line.taxPerc
    { line := lotted.line
      lot := lotted.lot
      lineCostRate := rate
      lineCostRateWot := statedWot.getD (round6 (rate / (1 + tax.getD 0 / 100))) }

end Priced

/-! ## Which lot a line issues from

An outward line that names no lot, of a tracked item whose identity is incomplete or
keys to no lot, has its lots picked in the godown by the item's issue strategy, and is
split across them. -/

section Pick

variable (masters : StockMasters) (tables : StockTables) (voucher : StockVoucher)

def policyOf (line : StockVoucherItem) : StockTrackPolicy :=
  masters.policy voucher.companyId voucher.branchId line.itemId voucher.docDate

/-- A zero price is "not stated", as a blank batch is. -/
def identityIncomplete (policy : StockTrackPolicy) (line : StockVoucherItem) : Bool :=
  (policy.trackBatch && line.batchNo.getD "" = "") ||
    (policy.trackExpiry && line.expiryDate.isNone) ||
    (policy.trackMrp && line.mrp.getD 0 = 0) ||
    (policy.trackSalePrice && line.salePrice.getD 0 = 0) ||
    (policy.trackSerial && line.serialNo.getD "" = "") ||
    (policy.trackSupplier && line.supplierId.isNone)

def lotlessOutwardLine (line : StockVoucherItem) : Bool :=
  let policy := policyOf masters voucher line
  line.lotId.isNone && (identityIncomplete policy line ||
    (policy.tracksAny &&
      (lotOfLine tables.lots voucher.companyId line (lotIdentityKey policy line)).isNone))

/-- Whatever identity the line did state limits the lots it may issue from. -/
def issueNarrowing (policy : StockTrackPolicy) (key : LotKey) (lot : StockLot) : Bool :=
  (!policy.trackBatch || key.batch = "~" || lot.key.batch = key.batch) &&
    (!policy.trackMrp || key.mrp = -1 || key.mrp = 0 || lot.key.mrp = key.mrp) &&
    (!policy.trackSalePrice || key.salePrice = -1 || key.salePrice = 0 ||
      lot.key.salePrice = key.salePrice) &&
    (!policy.trackExpiry || key.expiry = -719162 || lot.key.expiry = key.expiry) &&
    (!policy.trackSerial || key.serial = "~" || lot.key.serial = key.serial) &&
    (!policy.trackSupplier || key.supplier = 0 || lot.key.supplier = key.supplier)

structure PickableLot where
  lotId : Uuid
  lot : StockLot
  balance : StockBalance

/-- `ORDER BY` several dates, each `ASC NULLS LAST`. -/
def sortsBefore : List (Option Date) → List (Option Date) → Bool
  | [], _ => true
  | _ :: _, [] => false
  | some first :: rest, some second :: others =>
      first < second || first = second && sortsBefore rest others
  | some _ :: _, none :: _ => true
  | none :: _, some _ :: _ => false
  | none :: rest, none :: others => sortsBefore rest others

/-- The order a strategy picks in: under LIFO the dates descend. -/
def pickOrder (strategy : IssueStrategy) (pickable : PickableLot) : List (Option Date) :=
  match strategy with
  | .LIFO => [pickable.balance.firstInDate.map (-·), some (-pickable.lot.createdOn)]
  | .FIFO => [pickable.balance.firstInDate, some pickable.lot.createdOn]
  | _ => [pickable.lot.expiryDate, pickable.balance.firstInDate, some pickable.lot.createdOn]

def pickableLots (line : StockVoucherItem) : List PickableLot :=
  let policy := policyOf masters voucher line
  let key := lotIdentityKey policy line
  let candidates := tables.balances.entries.filterMap fun (entry : Holding × StockBalance) =>
    if entry.1.companyId = voucher.companyId ∧ entry.1.branchId = voucher.branchId ∧
        entry.1.godownId = line.godownId ∧ entry.1.itemId = line.itemId ∧
        entry.1.bucket = line.bucket ∧ (0 : Decimal) < entry.2.availableQty then
      match tables.lots.get? entry.1.lotId with
      | some lot =>
          if (lot.status = .ACTIVE ∨ lot.status = .CLOSED) ∧ issueNarrowing policy key lot then
            some ⟨entry.1.lotId, lot, entry.2⟩
          else none
      | none => none
    else none
  candidates.insertionSort fun left right =>
    sortsBefore (pickOrder policy.issueStrategy left) (pickOrder policy.issueStrategy right)

/-- Greedy in strategy order; the last lot takes whatever is left. -/
def takeFrom : Decimal → List PickableLot → List (StockLot × Uuid × Decimal)
  | _, [] => []
  | remaining, [last] => if remaining ≤ 0 then [] else [(last.lot, last.lotId, remaining)]
  | remaining, lot :: more :: rest =>
      if remaining ≤ 0 then []
      else
        let take := min remaining lot.balance.availableQty
        if take ≤ 0 then takeFrom remaining (more :: rest)
        else (lot.lot, lot.lotId, take) :: takeFrom (remaining - take) (more :: rest)

/-- A line as it issues from one of the lots picked for it. -/
def onLot (line : StockVoucherItem) (lotId : Uuid) (lot : StockLot) (base free : Decimal) :
    StockVoucherItem :=
  { line with
    lotId := some lotId
    batchNo := lot.batchNo <|> line.batchNo
    expiryDate := lot.expiryDate <|> line.expiryDate
    mrp := lot.mrp <|> line.mrp
    salePrice := lot.salePrice <|> line.salePrice
    serialNo := lot.serialNo <|> line.serialNo
    supplierId := lot.supplierId <|> line.supplierId
    baseQty := base
    freeBaseQty := free }

/-- Free quantity is apportioned first, from the first split on. -/
def splitLines (line : StockVoucherItem) : Decimal → List (StockLot × Uuid × Decimal) →
    List StockVoucherItem
  | _, [] => []
  | freeLeft, (lot, lotId, qty) :: rest =>
      let free := min freeLeft qty
      onLot line lotId lot (qty - free) free :: splitLines line (freeLeft - free) rest

/-- The first split is the line itself; each further one is a new line under the next
split number, which does not carry the line's own direction. -/
def numberSplits (nextSplitNo : ℕ) : List StockVoucherItem → List StockVoucherItem
  | [] => []
  | first :: rest => first :: (rest.zipIdx nextSplitNo).map fun (split, splitNo) =>
      { split with splitNo := splitNo, direction := none }

/-- The lines whose lots are picked. -/
def isPicked (line : StockVoucherItem) : Bool :=
  lineDirection voucher line = some .OUT && lotlessOutwardLine masters tables voucher line &&
    0 < line.baseQty + line.freeBaseQty

/-- The rows inserted for a line beside its own. -/
def furtherSplits (line : StockVoucherItem) : ℕ :=
  if isPicked masters tables voucher line then
    (takeFrom (line.baseQty + line.freeBaseQty) (pickableLots masters tables voucher line)).length - 1
  else 0

/-- Every row inserted takes the highest split number of its line number, plus one, so those
of an earlier row of that number are counted. -/
def nextSplitNo (line : StockVoucherItem) : ℕ :=
  let siblings := voucher.items.filter (·.lineNo = line.lineNo)
  ((siblings.map (·.splitNo)).max?).getD 0 + 1 +
    ((siblings.filter (·.splitNo < line.splitNo)).map (furtherSplits masters tables voucher)).sum

def pickLine (line : StockVoucherItem) : Except StockErrorDetail (List StockVoucherItem) :=
  if !isPicked masters tables voucher line then .ok [line]
  else if (policyOf masters voucher line).issueStrategy = .MANUAL then
    .error ⟨s!"lines.{line.lineNo}", .PICK_MANUAL_LOT_REQUIRED⟩
  else match pickableLots masters tables voucher line with
    | [] => .error ⟨s!"lines.{line.lineNo}", .PICK_NO_STOCK⟩
    | lots =>
        let takes := takeFrom (line.baseQty + line.freeBaseQty) lots
        .ok (numberSplits (nextSplitNo masters tables voucher line)
          (splitLines line line.freeBaseQty takes))

/-- `ck_svi_batch_split`, of the rows inserted: a split above the first has a batch number. -/
def batchSplit (splits : List StockVoucherItem) : Bool :=
  splits.tail.all fun split => split.splitNo = 1 || split.batchNo.isSome

/-- Every line with its lots picked, or every line that could not be, at once.  A row that the
table refuses ends the walk before those are reported. -/
def pickIssueLots : Except StockError (List StockVoucherItem) :=
  let picked := voucher.items.map (pickLine masters tables voucher)
  let errors := picked.filterMap fun result =>
    match result with
    | .error problem => some problem
    | .ok _ => none
  let splits := picked.filterMap Except.toOption
  if !splits.all batchSplit then .error (.database "ck_svi_batch_split")
  else if errors ≠ [] then .error (.unprocessable errors)
  else
    let lines := splits.flatten
    .ok (lines.insertionSort fun left right =>
      toLex (left.lineNo, left.splitNo) ≤ toLex (right.lineNo, right.splitNo))

end Pick

end ErpServer.Stock
