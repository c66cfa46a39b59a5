import ErpServer.Lib.Binary64
import ErpServer.Loyalty.Movements

/-!
# What a bill earns

The earning arithmetic, with no writes: the lines that earn, the base, the slab or item
rule that prices it, and the points of each line that a return claws back from.
-/

namespace ErpServer.Loyalty

open Lib
open Receipt (Decimal)

/-! ## The rules of a scheme -/

/-- `ck_lsi_kind` -/
inductive ItemRuleKind where
  | ITEM
  | ITEM_GROUP
  | ITEM_CATEGORY
  | ITEM_BRAND
  | ITEM_SECTION
  deriving DecidableEq, Repr

/-- A statement about one line.  The database keeps the id of its scope in the column of
its kind. -/
structure ItemRule where
  id : String
  kind : ItemRuleKind
  itemId : Option String
  groupId : Option String
  categoryId : Option String
  brandId : Option String
  sectionId : Option String
  isExclude : Bool
  factor : Option Decimal
  points : Option Decimal
  maxPoints : Option Decimal
  matchPriority : ℤ
  deriving DecidableEq, Repr

/-- A band of bases and what it awards. -/
structure Slab where
  id : String
  itemId : Option String
  exceeds : Option Decimal
  upto : Option Decimal
  each : Option Decimal
  points : Option Decimal
  factor : Option Decimal
  maxPoints : Option Decimal
  deriving DecidableEq, Repr

/-- A row of `loyalty_scheme_item`. -/
structure SchemeItem extends ItemRule where
  lsiLscId : String
  lsiIsDeleted : Bool
  lsiIsActive : Bool
  deriving DecidableEq, Repr

/-- A row of `loyalty_scheme_slab`. -/
structure SchemeSlab extends Slab where
  lssLscId : String
  lssSlno : ℕ
  lssIsDeleted : Bool
  lssIsActive : Bool
  deriving DecidableEq, Repr

/-- The masters the engine reads. -/
structure LoyaltyMasters where
  schemes : List SchemeRow
  items : List SchemeItem
  slabs : List SchemeSlab

def LoyaltyMasters.schemeItems (masters : LoyaltyMasters) (lscId : String) : List ItemRule :=
  (masters.items.filter fun row =>
    row.lsiLscId = lscId ∧ !row.lsiIsDeleted ∧ row.lsiIsActive).map SchemeItem.toItemRule

/-- `ORDER BY lss_exceeds NULLS FIRST, lss_slno` -/
def SchemeSlab.before (left right : SchemeSlab) : Bool :=
  match left.exceeds, right.exceeds with
  | none, some _ => true
  | some _, none => false
  | none, none => left.lssSlno ≤ right.lssSlno
  | some lower, some upper => lower < upper || lower = upper && left.lssSlno ≤ right.lssSlno

def LoyaltyMasters.schemeSlabs (masters : LoyaltyMasters) (lscId : String) : List Slab :=
  ((masters.slabs.filter fun row =>
    row.lssLscId = lscId ∧ !row.lssIsDeleted ∧ row.lssIsActive).insertionSort
      fun left right => left.before right).map SchemeSlab.toSlab

/-! ## Matching -/

def ruleMatchesLine (rule : ItemRule) (line : LoyaltyBillLine) : Bool :=
  match rule.kind with
  | .ITEM => rule.itemId = some line.itemId
  | .ITEM_GROUP => rule.groupId.isSome && rule.groupId = line.groupId
  | .ITEM_CATEGORY => rule.categoryId.isSome && rule.categoryId = line.categoryId
  | .ITEM_BRAND => rule.brandId.isSome && rule.brandId = line.brandId
  | .ITEM_SECTION => rule.sectionId.isSome && rule.sectionId = line.sectionId

/-- The most specific kind wins, unless somebody has set a priority. -/
def KIND_SPECIFICITY : ItemRuleKind → ℕ
  | .ITEM => 5
  | .ITEM_GROUP => 4
  | .ITEM_CATEGORY => 3
  | .ITEM_BRAND => 2
  | .ITEM_SECTION => 1

def ItemRule.beats (left right : ItemRule) : Bool :=
  right.matchPriority < left.matchPriority ||
    right.matchPriority = left.matchPriority &&
      KIND_SPECIFICITY right.kind ≤ KIND_SPECIFICITY left.kind

def matchItemRule (line : LoyaltyBillLine) (rules : List ItemRule) : Option ItemRule :=
  ((rules.filter fun rule => !rule.isExclude && ruleMatchesLine rule line).insertionSort
    fun left right => left.beats right).head?

/-- An exclusion beats every inclusion. -/
def excludedByItemRule (line : LoyaltyBillLine) (rules : List ItemRule) : Bool :=
  rules.any fun rule => rule.isExclude && ruleMatchesLine rule line

def Slab.covers (base : Decimal) (itemId : Option String) (slab : Slab) : Bool :=
  (slab.itemId = none || slab.itemId = itemId) && (slab.exceeds.all fun exceeds => exceeds < base) &&
    slab.upto.all fun upto => base ≤ upto

/-- The slab covering a base; one of the item beats one of the whole bill. -/
def matchSlab (base : Decimal) (slabs : List Slab) (itemId : Option String) : Option Slab :=
  ((slabs.filter (Slab.covers base itemId)).insertionSort fun left right =>
    left.itemId.isSome || right.itemId.isNone).head?

/-! ## Points -/

/-- So many points for every whole block, or a flat award, or points per unit of base. -/
def award (base : Decimal) (each points factor maxPoints : Option Decimal) : Decimal :=
  let p :=
    match each.filter (0 < ·) with
    | some each => ⌊base / each⌋ * points.getD 0
    | none =>
        match points.filter (0 < ·) with
        | some points => points
        | none =>
            match factor.filter (0 < ·) with
            | some factor => base * factor
            | none => 0
  match maxPoints.filter (0 < ·) with
  | some maxPoints => min p maxPoints
  | none => p

def Slab.award (slab : Slab) (base : Decimal) : Decimal :=
  Loyalty.award base slab.each slab.points slab.factor slab.maxPoints

/-- An item rule has no blocks. -/
def ItemRule.award (rule : ItemRule) (base : Decimal) : Decimal :=
  Loyalty.award base none rule.points rule.factor rule.maxPoints

def roundPoints (value : Decimal) (method : LoyaltyRounding) (decimals : ℤ) : Decimal :=
  let f : Decimal := 10 ^ (max 0 decimals).toNat
  match method with
  | .FLOOR => ⌊value * f⌋ / f
  | .CEIL => ⌈value * f⌉ / f
  | .NONE => value
  | .ROUND => ⌊value * f + 1 / 2⌋ / f

/-! ## The award of a bill -/

/-- Why a document earns nothing. -/
inductive LoyaltyReason where
  | noMember
  | noScheme
  | noEligibleLine
  | belowMinimum (baseAmount minBillAmount : Decimal)
  | noSlab (code : String) (base : Decimal)
  | awardsNothing
  deriving DecidableEq, Repr

def LoyaltyReason.text (number : Decimal → String) : LoyaltyReason → String
  | noMember => "No loyalty member on this document"
  | noScheme => "No approved earning scheme covers this document"
  | noEligibleLine => "No line on this document is eligible to earn"
  | belowMinimum baseAmount minBillAmount =>
      "Document base " ++ number baseAmount ++ " is below the scheme minimum " ++
        number minBillAmount
  | noSlab code base => "No slab of scheme " ++ code ++ " covers a base of " ++ number base
  | awardsNothing => "Scheme awards no points for this document"

/-- The snapshot of a line. -/
structure LoyaltyLinePoints where
  lineNo : ℕ
  points : Decimal
  pv : Decimal
  deriving DecidableEq, Repr

structure ComputedEarn where
  points : Decimal
  baseAmount : Decimal
  baseQty : Decimal
  lines : List LoyaltyLinePoints
  lssId : Option String
  lsiId : Option String
  reason : Option LoyaltyReason
  deriving DecidableEq, Repr

def ComputedEarn.none (reason : LoyaltyReason) : ComputedEarn where
  points := 0
  baseAmount := 0
  baseQty := 0
  lines := []
  lssId := Option.none
  lsiId := Option.none
  reason := some reason

section Scheme

variable (scheme : LoyaltyScheme) (itemRules : List ItemRule) (slabs : List Slab)

def earns (line : LoyaltyBillLine) : Bool :=
  !(line.isFree || !line.allowLoyalty) && !excludedByItemRule line itemRules &&
    -- A list means "these items", and an unlisted item is outside it.
    (scheme.itemScope ≠ .LIST || (matchItemRule line itemRules).isSome)

def amountOf (line : LoyaltyBillLine) : Decimal :=
  if !scheme.earnOnDiscounted then line.grossAmt
  else
    match scheme.amountType with
    | .GROSS_AMOUNT => line.grossAmt
    | .NET_AMOUNT => line.netAmt
    | .TAXABLE_AMOUNT => line.taxableAmt

def byAmount : Bool := scheme.applyOn = .BILL_AMOUNT || scheme.applyOn = .ITEM_AMOUNT

def perLine : Bool := scheme.applyOn = .ITEM_AMOUNT || scheme.applyOn = .ITEM_QTY

/-- The amount or the quantity a line stands for. -/
def measureOf (line : LoyaltyBillLine) : Decimal :=
  if byAmount scheme then amountOf scheme line else line.qty

/-- The amount the points are reckoned on. -/
def baseAmountOf (bill : LoyaltyBillSource) (eligible : List LoyaltyBillLine) : Decimal :=
  let amounts := (eligible.map (amountOf scheme)).sum
  if byAmount scheme then
    let charged := if scheme.earnOnCharges then amounts + bill.chargesAmt else amounts
    -- Points must not buy points.
    round2 (if !scheme.earnWithRedeem then max 0 (charged - bill.redeemedAmount) else charged)
  else round2 amounts

/-- What the lines have earned so far, and the first slab and item rule that priced one. -/
structure LineAwards where
  raw : Decimal := 0
  lines : List LoyaltyLinePoints := []
  lssId : Option String := none
  lsiId : Option String := none
  deriving DecidableEq, Repr

def linePoints (line : LoyaltyBillLine) (points : Decimal) : LoyaltyLinePoints where
  lineNo := line.lineNo
  points := points
  pv := if 0 < line.qty then points / line.qty else 0

/-- The points of one line, by its item rule where that awards something and else by its
slab, and the slab and item rule that have priced a line so far. -/
def priceLine (soFar : LineAwards) (line : LoyaltyBillLine) :
    Decimal × Option String × Option String :=
  let lineBase := measureOf scheme line
  let rule := matchItemRule line itemRules
  let byRule := (rule.map fun rule => rule.award lineBase).getD 0
  if 0 < byRule then (byRule, soFar.lssId, soFar.lsiId.or (rule.map ItemRule.id))
  else
    match matchSlab lineBase slabs (some line.itemId) with
    | some slab => (slab.award lineBase, soFar.lssId.or (some slab.id), soFar.lsiId)
    | none => (byRule, soFar.lssId, soFar.lsiId)

def awardLine (soFar : LineAwards) (line : LoyaltyBillLine) : LineAwards :=
  let priced := priceLine scheme itemRules slabs soFar line
  if 0 < priced.1 then
    { raw := soFar.raw + priced.1
      lines := soFar.lines ++ [linePoints line priced.1]
      lssId := priced.2.1
      lsiId := priced.2.2 }
  else { soFar with lssId := priced.2.1, lsiId := priced.2.2 }

/-- Spread the award of the bill over the lines that produced it. -/
def spreadLine (raw spread : Decimal) (line : LoyaltyBillLine) : LoyaltyLinePoints :=
  let share := if 0 < spread then measureOf scheme line / spread else 0
  linePoints line (raw * share)

/-- The award before it is rounded and capped. -/
def rawAwards (bill : LoyaltyBillSource) (eligible : List LoyaltyBillLine) :
    Except LoyaltyReason LineAwards :=
  if perLine scheme then
    .ok (eligible.foldl (awardLine scheme itemRules slabs) {})
  else
    let base :=
      if byAmount scheme then baseAmountOf scheme bill eligible
      else (eligible.map LoyaltyBillLine.qty).sum
    match matchSlab base slabs none with
    | none => .error (.noSlab scheme.code base)
    | some slab =>
        let raw := slab.award base
        .ok ⟨raw, eligible.map (spreadLine scheme raw base), some slab.id, none⟩

/-- The points awarded after rounding and the cap. -/
def awardedPoints (raw : Decimal) : Decimal :=
  let points := roundPoints raw scheme.rounding scheme.pointsDecimals
  match scheme.maxEarnPoints.filter (0 < ·) with
  | some maxEarnPoints => min points maxEarnPoints
  | none => points

/-- Bring the snapshot of a line to what was awarded. -/
def LoyaltyLinePoints.rescale (k : Decimal) (line : LoyaltyLinePoints) : LoyaltyLinePoints :=
  { line with points := round4 (line.points * k), pv := round4 (line.pv * k) }

def snapshotLines (raw points : Decimal) (lines : List LoyaltyLinePoints) :
    List LoyaltyLinePoints :=
  if 0 < raw ∧ points ≠ raw then lines.map (LoyaltyLinePoints.rescale (points / raw)) else lines

/-- The earning arithmetic. -/
def computeEarn (bill : LoyaltyBillSource) : ComputedEarn :=
  let eligible := bill.lines.filter (earns scheme itemRules)
  if eligible = [] then .none .noEligibleLine
  else
    let baseAmount := baseAmountOf scheme bill eligible
    if baseAmount < scheme.minBillAmount then
      .none (.belowMinimum baseAmount scheme.minBillAmount)
    else
      match rawAwards scheme itemRules slabs bill eligible with
      | .error reason => .none reason
      | .ok awards =>
          let points := awardedPoints scheme awards.raw
          { points := points
            baseAmount := baseAmount
            baseQty := (eligible.map LoyaltyBillLine.qty).sum
            lines := snapshotLines awards.raw points awards.lines
            lssId := awards.lssId
            lsiId := awards.lsiId
            reason := none }

end Scheme

structure LoyaltyEarnResult where
  memberId : Option String
  schemeId : Option String
  points : Decimal
  baseAmount : Decimal
  baseQty : Decimal
  lines : List LoyaltyLinePoints
  reason : Option LoyaltyReason
  deriving DecidableEq, Repr

/-- `earn` under `dryRun`, which the post runs before it writes its row. -/
def earnDryRun (masters : LoyaltyMasters) (bill : LoyaltyBillSource) (memberId : Option String)
    (scheme : Option LoyaltyScheme) : LoyaltyEarnResult :=
  let memberId := memberId.or bill.memberId
  let empty (schemeId : Option String) (reason : LoyaltyReason) : LoyaltyEarnResult :=
    ⟨memberId, schemeId, 0, 0, 0, [], some reason⟩
  if memberId = none then empty none .noMember
  else
    match scheme with
    | none => empty none .noScheme
    | some scheme =>
        let computed := computeEarn scheme (masters.schemeItems scheme.lscId)
          (masters.schemeSlabs scheme.lscId) bill
        if computed.points ≤ 0 then
          empty (some scheme.lscId) (computed.reason.getD .awardsNothing)
        else
          ⟨memberId, some scheme.lscId, computed.points, computed.baseAmount, computed.baseQty,
            computed.lines, none⟩

/-! ## Redemptions

What the till quotes for a redemption before the bill is posted, and the checks the post
makes before it draws the points.  What a redemption is worth and may settle is compared to
the paisa, so it is computed as the source does, on doubles. -/

/-- `round(value, 2)` of a double, as the figure its double is written for. -/
def roundNumber (value : Decimal) : Decimal :=
  let nudge := if value < 0 then -Binary64.epsilon else Binary64.epsilon
  Binary64.mathRound (Binary64.mul (Binary64.add value nudge) 100) / 100

/-- What points may settle of, added up line by line. -/
def billAmountOf (bill : LoyaltyBillSource) : Decimal :=
  Binary64.add (bill.lines.foldl (fun total line =>
    Binary64.add total (Binary64.nearest line.netAmt)) 0) (Binary64.nearest bill.chargesAmt)

/-- The money some points are worth at a rate. -/
def priceOf (points rate : Decimal) : Decimal :=
  roundNumber (Binary64.mul (Binary64.nearest points) (Binary64.nearest rate))

/-! ## The post -/

/-- A loyalty tender of the bill. -/
structure LoyaltyTender where
  tenderId : String
  tenderAccYear : String
  points : Decimal
  amount : Decimal
  masterRate : Option Decimal := none
  deriving DecidableEq, Repr

/-- Why a redemption is refused. -/
inductive RedeemRefusal where
  | noMember
  | noScheme
  | notAllowed (code : String)
  | crossBranch (code : String)
  | noRate (code : String)
  | wrongAmount (amount points rate expected : Decimal)
  | smallBill (redeemMinBillAmount billAmount : Decimal)
  | belowMinimum (minRedeemPoints points : Decimal)
  | aboveMaximum (maxRedeemPoints points : Decimal)
  | aboveShare (maxRedeemPerc cap expected : Decimal)
  | notAMultiple (redeemMultiple points : Decimal)
  deriving DecidableEq, Repr

def RedeemRefusal.field : RedeemRefusal → String
  | noMember => "loyaltyMemberId"
  | noRate _ => "loyaltyRate"
  | wrongAmount _ _ _ _ => "tenderAmount"
  | aboveShare _ _ _ => "tenderAmount"
  | _ => "loyaltyPoints"

def RedeemRefusal.text (number : Decimal → String) : RedeemRefusal → String
  | noMember => "This document redeems points but names no loyalty member"
  | noScheme => "No approved scheme allows a redemption against this document"
  | notAllowed code => "Scheme " ++ code ++ " does not allow point redemption"
  | crossBranch code =>
      "Scheme " ++ code ++ " pools points by branch and does not allow cross-branch redemption"
  | noRate code => "Scheme " ++ code ++ " has no redemption rate and the tender master gave none"
  | wrongAmount amount points rate expected =>
      "Redemption amount " ++ number amount ++ " does not equal " ++ number points ++
        " points at " ++ number rate ++ " (" ++ number expected ++ ")"
  | smallBill redeemMinBillAmount billAmount =>
      "A redemption needs a bill of at least " ++ number redeemMinBillAmount ++
        "; this one is " ++ number billAmount
  | belowMinimum minRedeemPoints points =>
      "At least " ++ number minRedeemPoints ++ " points must be redeemed at once; " ++
        number points ++ " were offered"
  | aboveMaximum maxRedeemPoints points =>
      "At most " ++ number maxRedeemPoints ++ " points may be redeemed on one bill; " ++
        number points ++ " were offered"
  | aboveShare maxRedeemPerc cap expected =>
      "Points may settle at most " ++ number maxRedeemPerc ++ "% of this bill (" ++ number cap ++
        "); " ++ number expected ++ " was offered"
  | notAMultiple redeemMultiple points =>
      "Points are redeemed in multiples of " ++ number redeemMultiple ++ "; " ++ number points ++
        " is not one"

/-- A redemption is refused, or the wallet cannot be drawn on. -/
inductive RedeemError where
  | refused (refusal : RedeemRefusal)
  | wallet (error : LoyaltyError)
  deriving DecidableEq, Repr

/-- The distance of a figure from the nearest whole number. -/
def offWhole (steps : Decimal) : Decimal := |steps - ⌊steps + 1 / 2⌋|

section Checks

variable (bill : LoyaltyBillSource) (tender : LoyaltyTender) (scheme : LoyaltyScheme)

def redeemRate : Decimal :=
  if 0 < scheme.redeemValuePerPoint then scheme.redeemValuePerPoint else tender.masterRate.getD 0

/-- The money the points are worth, re-derived from the points. -/
def expectedAmount : Decimal := priceOf tender.points (redeemRate tender scheme)

/-- The most that points may settle of a bill: the bill times the percentage, by a hundred. -/
def redeemCap (maxRedeemPerc : Decimal) : Decimal :=
  roundNumber (Binary64.div
    (Binary64.mul (billAmountOf bill) (Binary64.nearest maxRedeemPerc)) 100)

def checkMaximum : Except RedeemRefusal Unit :=
  match scheme.maxRedeemPoints.filter (0 < ·) with
  | none => .ok ()
  | some maxRedeemPoints =>
      if maxRedeemPoints < tender.points then
        .error (.aboveMaximum maxRedeemPoints tender.points)
      else .ok ()

def checkShare : Except RedeemRefusal Unit :=
  match scheme.maxRedeemPerc.filter (0 < ·) with
  | none => .ok ()
  | some maxRedeemPerc =>
      let cap := redeemCap bill maxRedeemPerc
      if cap < expectedAmount tender scheme then
        .error (.aboveShare maxRedeemPerc cap (expectedAmount tender scheme))
      else .ok ()

def checkMultiple : Except RedeemRefusal Unit :=
  match scheme.redeemMultiple.filter (0 < ·) with
  | none => .ok ()
  | some redeemMultiple =>
      if 1 / 1000000000 < offWhole (tender.points / redeemMultiple) then
        .error (.notAMultiple redeemMultiple tender.points)
      else .ok ()

/-- The limits of the scheme, the first that a tender breaks. -/
def checkLimits : Except RedeemRefusal Unit :=
  if 0 < scheme.redeemMinBillAmount ∧
      billAmountOf bill < Binary64.nearest scheme.redeemMinBillAmount then
    .error (.smallBill scheme.redeemMinBillAmount (roundNumber (billAmountOf bill)))
  else if 0 < scheme.minRedeemPoints ∧ tender.points < scheme.minRedeemPoints then
    .error (.belowMinimum scheme.minRedeemPoints tender.points)
  else do
    checkMaximum tender scheme
    checkShare bill tender scheme
    checkMultiple tender scheme

/-- What the scheme asks of a tender, `elsewhere` counting the open lots of other
branches. -/
def checkTender (elsewhere : ℕ) : Except RedeemRefusal Unit :=
  if !scheme.allowPointRedeem then
    .error (.notAllowed scheme.code)
  else if scheme.poolMode = .BRANCH ∧ !scheme.allowCrossBranchRedeem ∧ 0 < elsewhere then
    .error (.crossBranch scheme.code)
  else
    let rate := redeemRate tender scheme
    if ¬0 < rate then
      .error (.noRate scheme.code)
    else if roundNumber (Binary64.nearest tender.amount) ≠ expectedAmount tender scheme then
      .error (.wrongAmount tender.amount tender.points rate (expectedAmount tender scheme))
    else
      checkLimits bill tender scheme

end Checks

/-- The ledger with the branch each row was written at. -/
structure BranchLedger where
  wallets : Wallets
  lldBranchId : LedgerEntry → String

/-- The open lots of a member that other branches issued. -/
def lotsElsewhere (books : BranchLedger) (memberId branchId : String) : ℕ :=
  (books.wallets.ledger.filter fun row =>
    isOpenLot memberId row && books.lldBranchId row.toLedgerEntry ≠ branchId).length

structure RedeemOptions where
  memberId : Option String := none
  /-- Left out where the scheme is to be resolved. -/
  scheme : Option (Option LoyaltyScheme) := none
  deriving DecidableEq, Repr

structure Redeemed where
  rowsWritten : ℕ
  points : Decimal
  amount : Decimal
  rate : Decimal
  deriving DecidableEq, Repr

/-- Draw the points a tender spends. -/
def redeem (masters : LoyaltyMasters) (books : BranchLedger) (bill : LoyaltyBillSource)
    (tender : LoyaltyTender) (opts : RedeemOptions) : Except RedeemError (Redeemed × Wallets) :=
  if ¬0 < tender.points then
    .ok (⟨0, 0, 0, 0⟩, books.wallets)
  else
    match opts.memberId.or bill.memberId with
    | none => .error (.refused .noMember)
    | some memberId =>
        match opts.scheme.getD (resolveScheme masters.schemes bill { forRedeem := true }) with
        | none => .error (.refused .noScheme)
        | some scheme =>
            match checkTender bill tender scheme (lotsElsewhere books memberId bill.branchId) with
            | .error refusal => .error (.refused refusal)
            | .ok _ =>
                match consume books.wallets memberId tender.points .REDEEM
                  ⟨bill.accYear, bill.docDate, some ⟨bill.docType, bill.docId⟩,
                    some tender.tenderId, none⟩ with
                | .error error => .error (.wallet error)
                | .ok after =>
                    .ok (⟨after.ledger.length - books.wallets.ledger.length, tender.points,
                      expectedAmount tender scheme, redeemRate tender scheme⟩, after)

/-! ## The preview -/

structure LoyaltyPreview where
  memberId : Option String
  balance : Decimal
  redeemable : Decimal
  rate : Decimal
  minPoints : Decimal
  maxPoints : Option Decimal
  maxRedeemAmount : Option Decimal
  multiple : Option Decimal
  earnPreview : Decimal
  schemeId : Option String
  schemeName : Option String
  allowPointRedeem : Bool
  deriving DecidableEq, Repr

/-- The cap as the preview quotes it: the bill times a hundredth of the percentage. -/
def quotedCap (bill : LoyaltyBillSource) (maxRedeemPerc : Decimal) : Decimal :=
  roundNumber (Binary64.mul (billAmountOf bill)
    (Binary64.div (Binary64.nearest maxRedeemPerc) 100))

/-- The tender panel's whole loyalty block. -/
def preview (masters : LoyaltyMasters) (wallets : Wallets) (bill : LoyaltyBillSource) :
    LoyaltyPreview :=
  let scheme := resolveScheme masters.schemes bill {}
  let earn := bill.memberId.map fun memberId => earnDryRun masters bill (some memberId) scheme
  { memberId := bill.memberId
    balance := (bill.memberId.map (balance wallets)).getD 0
    redeemable :=
      (bill.memberId.map fun memberId => redeemable wallets memberId bill.docDate).getD 0
    rate := (scheme.map LoyaltyScheme.redeemValuePerPoint).getD 0
    minPoints := (scheme.map LoyaltyScheme.minRedeemPoints).getD 0
    maxPoints := scheme.bind LoyaltyScheme.maxRedeemPoints
    maxRedeemAmount :=
      ((scheme.bind LoyaltyScheme.maxRedeemPerc).filter (0 < ·)).map (quotedCap bill)
    multiple := scheme.bind LoyaltyScheme.redeemMultiple
    earnPreview := (earn.map LoyaltyEarnResult.points).getD 0
    schemeId := scheme.map LoyaltyScheme.lscId
    schemeName := scheme.map LoyaltyScheme.name
    allowPointRedeem := (scheme.map LoyaltyScheme.allowPointRedeem).getD false }

end ErpServer.Loyalty
