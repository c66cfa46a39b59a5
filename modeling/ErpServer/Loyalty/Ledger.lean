import ErpServer.Receipt.Types

/-!
# The loyalty ledger

Every movement of every wallet, the one writer of the ledger, and the figures kept
beside it: what is drawn from each lot, and the buckets of each wallet.  A row is never
edited and never deleted.
-/

namespace ErpServer.Loyalty

open Lib
open Receipt (Decimal)

abbrev Date := ℤ

/-- `round(value, 4)`, the scale of points. -/
def round4 (value : Decimal) : Decimal := Grid.halfUp (1 / 10000) value

inductive LoyaltyTxnType where
  | EARN
  | REDEEM
  | GIFT
  | EXPIRE
  | ADJUST
  | TRANSFER
  | OPENING
  deriving DecidableEq, Repr

/-- The types whose positive rows are lots. -/
def LOYALTY_LOT_TXN_TYPES : List LoyaltyTxnType := [.EARN, .OPENING, .ADJUST, .TRANSFER]

inductive LoyaltySrcDocType where
  | SALE_BILL
  | SALE_RETURN
  | SALES_ORDER
  | RECEIPT
  | LOYALTY_ADJUST
  | GIFT_REDEEM
  | EXPIRY_RUN
  | OTHER
  deriving DecidableEq, Repr

inductive LoyaltyMemberStatus where
  | ACTIVE
  | SUSPENDED
  | CLOSED
  | MERGED
  deriving DecidableEq, Repr

/-- A row of the ledger by its id and the year of its event. -/
structure LoyaltyLotKey where
  lotId : ℕ
  lotAccYear : String
  deriving DecidableEq, Repr

/-- The document a row comes from. -/
structure SrcDoc where
  docType : LoyaltySrcDocType
  docId : String
  deriving DecidableEq, Repr

/-- A ledger row as the service composes it. -/
structure LoyaltyLedgerRowInput where
  compId : String
  accYear : String
  memberId : String
  txnType : LoyaltyTxnType
  rowNo : ℕ
  points : Decimal
  txnDate : Date
  lot : Option LoyaltyLotKey := none
  expiresOn : Option Date := none
  activeFrom : Option Date := none
  src : Option SrcDoc := none
  tenderId : Option String := none
  reversalOf : Option LoyaltyLotKey := none
  approvedBy : Option String := none
  deriving DecidableEq, Repr

/-- The part of a ledger row that never changes. -/
structure LedgerEntry extends LoyaltyLedgerRowInput where
  lldId : ℕ
  deriving DecidableEq, Repr

/-- A ledger row with what has been drawn from it, which only a lot uses. -/
structure LedgerRow extends LedgerEntry where
  consumedPoints : Decimal
  deriving DecidableEq, Repr

def LedgerEntry.key (entry : LedgerEntry) : LoyaltyLotKey := ⟨entry.lldId, entry.accYear⟩

/-- The generated column: what is left of a positive row. -/
def LedgerRow.lotBalance (row : LedgerRow) : Decimal :=
  if 0 < row.points then row.points - row.consumedPoints else 0

/-- A wallet and the buckets summed from the ledger. -/
structure LoyaltyMember where
  lmbId : String
  lmbCompId : String
  lmbStatus : LoyaltyMemberStatus
  lmbIsDeleted : Bool
  earnedPoints : Decimal
  redeemedPoints : Decimal
  expiredPoints : Decimal
  giftPoints : Decimal
  adjustedPoints : Decimal
  deriving DecidableEq, Repr

/-- The generated column: what the customer holds. -/
def LoyaltyMember.balancePoints (member : LoyaltyMember) : Decimal :=
  member.earnedPoints + member.adjustedPoints - member.redeemedPoints - member.expiredPoints -
    member.giftPoints

/-- The ledger and the members. -/
structure Wallets where
  ledger : List LedgerRow
  members : List LoyaltyMember
  deriving DecidableEq, Repr

def Wallets.entries (wallets : Wallets) : List LedgerEntry :=
  wallets.ledger.map LedgerRow.toLedgerEntry

/-- What a movement is refused with. -/
inductive LoyaltyError where
  | invalid (field : String)
  | refused (field : String)
  | database (constraint : String)
  | disagree (memberId : String) (left points : Decimal) (txnDate : Date)
  deriving DecidableEq, Repr

/-! ## What the database refuses -/

/-- Points are stored with four places. -/
def stored (row : LoyaltyLedgerRowInput) : LoyaltyLedgerRowInput :=
  { row with points := round4 row.points }

def ckSign (row : LoyaltyLedgerRowInput) : Bool :=
  match row.txnType with
  | .EARN | .OPENING => row.reversalOf.isNone = decide (0 < row.points)
  | .REDEEM | .GIFT | .EXPIRE => row.reversalOf.isNone = decide (row.points < 0)
  | .ADJUST | .TRANSFER => true

def ckLotRequired (row : LoyaltyLedgerRowInput) : Bool :=
  match row.txnType with
  | .REDEEM | .GIFT | .EXPIRE => row.lot.isSome || row.reversalOf.isSome
  | .TRANSFER | .ADJUST => true
  | .EARN | .OPENING => row.lot.isNone

def ckLotDates (row : LoyaltyLedgerRowInput) : Bool :=
  (row.expiresOn.isNone || 0 < row.points) && (row.activeFrom.isNone || 0 < row.points) &&
    row.expiresOn.all fun expiresOn => row.txnDate ≤ expiresOn

def ckTender (row : LoyaltyLedgerRowInput) : Bool :=
  (row.txnType ≠ .REDEEM || row.tenderId.isSome || row.reversalOf.isSome) &&
    (row.txnType ≠ .GIFT || row.tenderId.isNone)

/-- The check constraints of a row, the first that fails. -/
def checkRow (row : LoyaltyLedgerRowInput) : Except LoyaltyError Unit :=
  if row.points = 0 then .error (.database "ck_lld_points_nonzero")
  else if !ckSign row then .error (.database "ck_lld_sign")
  else if !ckLotRequired row then .error (.database "ck_lld_lot_required")
  else if !ckLotDates row then .error (.database "ck_lld_lot_dates")
  else if !ckTender row then .error (.database "ck_lld_redeem_tender")
  else if row.txnType = .ADJUST ∧ row.approvedBy = none then
    .error (.database "ck_lld_adjust_approval")
  else if row.rowNo = 0 then .error (.database "ck_lld_row_no")
  else .ok ()

/-- `ux_lld_src_row`: one row of a number under a document, year and type. -/
def sameSrcRow (left right : LoyaltyLedgerRowInput) : Bool :=
  left.src.isSome && left.src = right.src && left.accYear = right.accYear &&
    left.txnType = right.txnType && left.rowNo = right.rowNo

/-- `ux_lld_reversal`: one reversal of a row in a year. -/
def sameReversal (left right : LoyaltyLedgerRowInput) : Bool :=
  left.reversalOf.isSome &&
    left.reversalOf.map LoyaltyLotKey.lotId = right.reversalOf.map LoyaltyLotKey.lotId &&
    left.accYear = right.accYear

/-- Insert rows one after another, each under the next id. -/
def insertRows : List LedgerRow → List LoyaltyLedgerRowInput → Except LoyaltyError (List LedgerRow)
  | ledger, [] => .ok ledger
  | ledger, row :: rest => do
      let row := stored row
      checkRow row
      if ledger.any fun other => sameSrcRow row other.toLoyaltyLedgerRowInput then
        .error (.database "ux_lld_src_row")
      else if ledger.any fun other => sameReversal row other.toLoyaltyLedgerRowInput then
        .error (.database "ux_lld_reversal")
      else
        insertRows (ledger ++ [⟨⟨row, ledger.length⟩, 0⟩]) rest

/-! ## Recompute, never increment -/

/-- The rows of a lot: those that name it as their lot, and those that reverse it. -/
def namesLot (key : LoyaltyLotKey) (entry : LedgerEntry) : Bool :=
  entry.lot = some key || entry.reversalOf.map LoyaltyLotKey.lotId = some key.lotId

/-- What has been drawn from a lot. -/
def consumedFrom (entries : List LedgerEntry) (key : LoyaltyLotKey) : Decimal :=
  -((entries.filter (namesLot key)).map fun entry => entry.points).sum

def recomputeLots (lots : List LoyaltyLotKey) (wallets : Wallets) : Wallets :=
  { wallets with
    ledger := wallets.ledger.map fun row =>
      if row.key ∈ lots then { row with consumedPoints := consumedFrom wallets.entries row.key }
      else row }

/-- The points of a member under some types. -/
def pointsOf (entries : List LedgerEntry) (memberId : String) (types : List LoyaltyTxnType) :
    Decimal :=
  ((entries.filter fun entry => entry.memberId = memberId ∧ entry.txnType ∈ types).map
    fun entry => entry.points).sum

def LoyaltyMember.recompute (entries : List LedgerEntry) (member : LoyaltyMember) :
    LoyaltyMember :=
  { member with
    earnedPoints := pointsOf entries member.lmbId [.EARN, .OPENING]
    redeemedPoints := -pointsOf entries member.lmbId [.REDEEM]
    expiredPoints := -pointsOf entries member.lmbId [.EXPIRE]
    giftPoints := -pointsOf entries member.lmbId [.GIFT]
    adjustedPoints := pointsOf entries member.lmbId [.ADJUST, .TRANSFER] }

def recomputeMembers (memberIds : List String) (wallets : Wallets) : Wallets :=
  { wallets with
    members := wallets.members.map fun member =>
      if member.lmbId ∈ memberIds then member.recompute wallets.entries else member }

/-- The lots a batch touches: those its rows draw on, and those its lot rows reverse. -/
def touchedLots (rows : List LoyaltyLedgerRowInput) : List LoyaltyLotKey :=
  rows.flatMap fun row =>
    row.lot.toList ++ if row.txnType ∈ LOYALTY_LOT_TXN_TYPES then row.reversalOf.toList else []

/-- The one writer: insert the rows, then the lots they touched, then the members. -/
def writeLedgerRows (wallets : Wallets) (rows : List LoyaltyLedgerRowInput) :
    Except LoyaltyError Wallets :=
  if rows = [] then
    .ok wallets
  else do
    let ledger ← insertRows wallets.ledger rows
    .ok (recomputeMembers (rows.map fun row => row.memberId)
      (recomputeLots (touchedLots rows) { wallets with ledger := ledger }))

/-! ## The reads -/

/-- A lot with something left in it. -/
def isOpenLot (memberId : String) (row : LedgerRow) : Bool :=
  row.memberId = memberId && row.txnType ∈ LOYALTY_LOT_TXN_TYPES && 0 < row.lotBalance

/-- A lot that may be spent on a date: past its cooling period, not yet lapsed. -/
def isSpendable (memberId : String) (onDate : Date) (row : LedgerRow) : Bool :=
  isOpenLot memberId row && (row.activeFrom.all fun activeFrom => activeFrom ≤ onDate) &&
    row.expiresOn.all fun expiresOn => onDate ≤ expiresOn

/-- Oldest expiry first, then oldest earned; lots that never expire last of all. -/
def fifo (left right : LedgerRow) : Bool :=
  match left.expiresOn, right.expiresOn with
  | some _, none => true
  | none, some _ => false
  | some earlier, some later =>
      if earlier ≠ later then earlier ≤ later
      else if left.txnDate ≠ right.txnDate then left.txnDate ≤ right.txnDate
      else left.lldId ≤ right.lldId
  | none, none =>
      if left.txnDate ≠ right.txnDate then left.txnDate ≤ right.txnDate
      else left.lldId ≤ right.lldId

def lots (wallets : Wallets) (memberId : String) (onDate : Date) : List LedgerRow :=
  (wallets.ledger.filter (isSpendable memberId onDate)).insertionSort fun left right =>
    fifo left right

/-- What may be spent on a date. -/
def redeemable (wallets : Wallets) (memberId : String) (onDate : Date) : Decimal :=
  ((wallets.ledger.filter (isSpendable memberId onDate)).map LedgerRow.lotBalance).sum

/-- What the customer holds. -/
def balance (wallets : Wallets) (memberId : String) : Decimal :=
  ((wallets.members.find? fun member => member.lmbId = memberId).map
    LoyaltyMember.balancePoints).getD 0

/-- The highest row number used under a document, by type. -/
def maxRowNo (wallets : Wallets) (src : SrcDoc) (accYear : String) (txnType : LoyaltyTxnType) : ℕ :=
  ((wallets.ledger.filter fun row =>
    row.src = some src ∧ row.accYear = accYear ∧ row.txnType = txnType).map
      fun row => row.rowNo).foldl max 0

/-- Whether a row has been reversed already. -/
def isReversed (wallets : Wallets) (id : ℕ) : Bool :=
  wallets.ledger.any fun row => row.reversalOf.map LoyaltyLotKey.lotId = some id

/-! ## Loyalty schemes

The schemes of a company with the branches and customers they run for, and which of them
a bill falls under. -/

/-- `round(value, 2)`, the scale of money. -/
def round2 (value : Decimal) : Decimal := Grid.halfUp (1 / 100) value

/-! ## The bill -/

/-- `ck_lsc_bill_type`, of which a bill has one of the last two. -/
inductive LoyaltyBillType where
  | ALL
  | CASH
  | CREDIT
  deriving DecidableEq, Repr

structure LoyaltyBillLine where
  lineNo : ℕ
  itemId : String
  qty : Decimal
  grossAmt : Decimal
  netAmt : Decimal
  taxableAmt : Decimal
  isFree : Bool
  allowLoyalty : Bool
  groupId : Option String
  categoryId : Option String
  brandId : Option String
  sectionId : Option String
  deriving DecidableEq, Repr

structure LoyaltyBillSource where
  docId : String
  accYear : String
  companyId : String
  branchId : String
  custId : String
  docDate : Date
  docType : LoyaltySrcDocType
  billType : Option LoyaltyBillType
  memberId : Option String
  chargesAmt : Decimal
  redeemedAmount : Decimal
  custGroupId : Option String
  lines : List LoyaltyBillLine
  deriving DecidableEq, Repr

/-! ## The scheme -/

inductive LoyaltySchemeType where
  | EARN
  | REDEEM
  | BOTH
  deriving DecidableEq, Repr

inductive LoyaltySchemeStatus where
  | DRAFT
  | APPROVED
  | SUSPENDED
  | CLOSED
  deriving DecidableEq, Repr

/-- What the earning base is measured over. -/
inductive LoyaltyApplyOn where
  | BILL_AMOUNT
  | BILL_QTY
  | ITEM_AMOUNT
  | ITEM_QTY
  deriving DecidableEq, Repr

/-- Which of the line's three amounts is the base. -/
inductive LoyaltyAmountType where
  | GROSS_AMOUNT
  | NET_AMOUNT
  | TAXABLE_AMOUNT
  deriving DecidableEq, Repr

inductive LoyaltyRounding where
  | ROUND
  | FLOOR
  | CEIL
  | NONE
  deriving DecidableEq, Repr

/-- Everything, or what the child table lists. -/
inductive LoyaltyScope where
  | ALL
  | LIST
  deriving DecidableEq, Repr

inductive LoyaltyPoolMode where
  | COMPANY
  | BRANCH
  deriving DecidableEq, Repr

/-- The resolved scheme, with what the engine reads off it. -/
structure LoyaltyScheme where
  lscId : String
  code : String
  name : String
  type : LoyaltySchemeType
  priority : ℕ
  applyOn : LoyaltyApplyOn
  amountType : LoyaltyAmountType
  billType : LoyaltyBillType
  itemScope : LoyaltyScope
  branchScope : LoyaltyScope
  custScope : LoyaltyScope
  minBillAmount : Decimal
  maxEarnPoints : Option Decimal
  earnOnDiscounted : Bool
  earnOnCharges : Bool
  earnWithRedeem : Bool
  rounding : LoyaltyRounding
  pointsDecimals : ℤ
  allowPointRedeem : Bool
  redeemValuePerPoint : Decimal
  minRedeemPoints : Decimal
  maxRedeemPoints : Option Decimal
  maxRedeemPerc : Option Decimal
  redeemMinBillAmount : Decimal
  redeemMultiple : Option Decimal
  startDate : Option Date
  endDate : Option Date
  poolMode : LoyaltyPoolMode
  allowCrossBranchRedeem : Bool
  deriving DecidableEq, Repr

/-- A row of `loyalty_scheme_branch`. -/
structure SchemeBranch where
  lsbBranchId : String
  lsbIsExclude : Bool
  lsbIsDeleted : Bool
  lsbIsActive : Bool
  deriving DecidableEq, Repr

/-- `ck_lsp_kind` -/
inductive SchemePartyKind where
  | CUSTOMER
  | CUSTOMER_GROUP
  deriving DecidableEq, Repr

/-- A row of `loyalty_scheme_party`. -/
structure SchemeParty where
  lspKind : SchemePartyKind
  lspScopeId : String
  lspIsExclude : Bool
  lspIsDeleted : Bool
  lspIsActive : Bool
  deriving DecidableEq, Repr

/-- In the order of `getUTCDay()`. -/
inductive Weekday where
  | SUN
  | MON
  | TUE
  | WED
  | THU
  | FRI
  | SAT
  deriving DecidableEq, Repr

def WEEKDAYS : List Weekday := [.SUN, .MON, .TUE, .WED, .THU, .FRI, .SAT]

/-- A scheme that allows a redemption says what a point is worth. -/
def ckRedeemRate (scheme : LoyaltyScheme) : Bool :=
  !scheme.allowPointRedeem || 0 < scheme.redeemValuePerPoint

/-- A row of `loyalty_scheme` with its branches and customers. -/
structure SchemeRow extends LoyaltyScheme where
  lscCompId : String
  lscStatus : LoyaltySchemeStatus
  lscIsActive : Bool
  lscIsDeleted : Bool
  lscValidFromTime : Option ℕ
  lscValidToTime : Option ℕ
  lscValidWeekdays : Option (List Weekday)
  lscCreatedOn : ℤ
  branches : List SchemeBranch
  parties : List SchemeParty
  redeemRate : ckRedeemRate toLoyaltyScheme = true

/-! ## Which scheme a bill falls under -/

/-- The day of the week; day 0 was a Thursday. -/
def weekdayOf (docDate : Date) : Weekday := WEEKDAYS.getD ((docDate + 4) % 7).toNat .SUN

def SchemeBranch.names (bill : LoyaltyBillSource) (isExclude : Bool) (row : SchemeBranch) : Bool :=
  row.lsbBranchId = bill.branchId && row.lsbIsExclude = isExclude && !row.lsbIsDeleted &&
    row.lsbIsActive

def SchemeParty.names (bill : LoyaltyBillSource) (isExclude : Bool) (row : SchemeParty) : Bool :=
  row.lspIsExclude = isExclude && !row.lspIsDeleted && row.lspIsActive &&
    match row.lspKind with
    | .CUSTOMER => row.lspScopeId = bill.custId
    | .CUSTOMER_GROUP => some row.lspScopeId = bill.custGroupId

/-- A time window is only tested when the caller gave a time. -/
def SchemeRow.openAt (row : SchemeRow) : Option ℕ → Bool
  | none => true
  | some time =>
      match row.lscValidFromTime, row.lscValidToTime with
      | some opens, some closes => opens ≤ time && time ≤ closes
      | _, _ => true

/-- What the query asks of a scheme, its type apart. -/
def SchemeRow.covers (bill : LoyaltyBillSource) (atTime : Option ℕ) (row : SchemeRow) : Bool :=
  row.lscCompId = bill.companyId && !row.lscIsDeleted && row.lscIsActive &&
    row.lscStatus = .APPROVED &&
    (row.startDate.all fun startDate => startDate ≤ bill.docDate) &&
    (row.endDate.all fun endDate => bill.docDate ≤ endDate) &&
    (row.lscValidWeekdays.all fun weekdays => weekdayOf bill.docDate ∈ weekdays) &&
    row.openAt atTime &&
    (row.billType = .ALL || row.billType = bill.billType.getD .ALL) &&
    (row.branchScope = .ALL || row.branches.any (SchemeBranch.names bill false)) &&
    !row.branches.any (SchemeBranch.names bill true) &&
    (row.custScope = .ALL || row.parties.any (SchemeParty.names bill false)) &&
    !row.parties.any (SchemeParty.names bill true)

/-- Highest priority first; the newest scheme breaks a tie. -/
def SchemeRow.outranks (left right : SchemeRow) : Prop :=
  right.priority < left.priority ∨
    right.priority = left.priority ∧ right.lscCreatedOn ≤ left.lscCreatedOn

instance : DecidableRel SchemeRow.outranks := fun left right =>
  inferInstanceAs (Decidable (right.priority < left.priority ∨
    right.priority = left.priority ∧ right.lscCreatedOn ≤ left.lscCreatedOn))

def rankedSchemes (schemes : List SchemeRow) : List SchemeRow :=
  schemes.insertionSort SchemeRow.outranks

structure ResolveOptions where
  atTime : Option ℕ := none
  forRedeem : Bool := false
  deriving DecidableEq, Repr

def ResolveOptions.wantTypes (opts : ResolveOptions) : List LoyaltySchemeType :=
  if opts.forRedeem then [.REDEEM, .BOTH] else [.EARN, .BOTH]

/-- The scheme a bill earns on, or redeems under: the first in rank of those that cover it. -/
def resolveScheme (schemes : List SchemeRow) (bill : LoyaltyBillSource) (opts : ResolveOptions) :
    Option LoyaltyScheme :=
  ((rankedSchemes schemes).find? fun row =>
    row.covers bill opts.atTime && row.type ∈ opts.wantTypes).map SchemeRow.toLoyaltyScheme

end ErpServer.Loyalty
