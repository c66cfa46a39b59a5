import ErpServer.Loyalty.Ledger

/-!
# The movements of a wallet

Earning, drawing, adjusting, closing, undoing and expiring: every public method that
composes ledger rows, each writing through the one writer.
-/

namespace ErpServer.Loyalty

open Receipt (Decimal)

/-! ## Earning -/

/-- What the scheme awards a document, computed before anything is written. -/
structure EarnInput where
  companyId : String
  accYear : String
  memberId : String
  src : SrcDoc
  docDate : Date
  points : Decimal
  expiresOn : Option Date
  activeFrom : Option Date

/-- Award a document's points: one row, which is a lot. -/
def earn (wallets : Wallets) (bill : EarnInput) : Except LoyaltyError Wallets :=
  if bill.points ≤ 0 then
    .ok wallets
  else
    writeLedgerRows wallets [{
      compId := bill.companyId
      accYear := bill.accYear
      memberId := bill.memberId
      txnType := .EARN
      rowNo := maxRowNo wallets bill.src bill.accYear .EARN + 1
      points := bill.points
      txnDate := bill.docDate
      expiresOn := bill.expiresOn
      activeFrom := bill.activeFrom
      src := some bill.src }]

/-! ## Drawing -/

/-- The types a draw may write. -/
inductive LoyaltyConsumeType where
  | REDEEM
  | GIFT
  | EXPIRE
  | ADJUST
  deriving DecidableEq, Repr

def LoyaltyConsumeType.txnType : LoyaltyConsumeType → LoyaltyTxnType
  | REDEEM => .REDEEM
  | GIFT => .GIFT
  | EXPIRE => .EXPIRE
  | ADJUST => .ADJUST

structure LoyaltyConsumeOptions where
  accYear : String
  txnDate : Date
  src : Option SrcDoc
  tenderId : Option String
  approvedBy : Option String

/-- The row that takes some points from a lot. -/
def drawRow (member : LoyaltyMember) (memberId : String) (txnType : LoyaltyConsumeType)
    (opts : LoyaltyConsumeOptions) (lot : LedgerRow) (rowNo : ℕ) (take : Decimal) :
    LoyaltyLedgerRowInput where
  compId := member.lmbCompId
  accYear := opts.accYear
  memberId := memberId
  txnType := txnType.txnType
  rowNo := rowNo
  points := -take
  txnDate := opts.txnDate
  lot := some lot.key
  src := opts.src
  tenderId := opts.tenderId
  approvedBy := opts.approvedBy

/-- Walk the lots in order, one row each, and what is left to draw after the last. -/
def drawLots (row : LedgerRow → ℕ → Decimal → LoyaltyLedgerRowInput) :
    List LedgerRow → ℕ → Decimal → List LoyaltyLedgerRowInput × Decimal
  | [], _, left => ([], left)
  | lot :: rest, rowNo, left =>
      if left ≤ 0 then
        ([], left)
      else
        let take := min left lot.lotBalance
        if take ≤ 0 then
          drawLots row rest rowNo left
        else
          let later := drawLots row rest (rowNo + 1) (round4 (left - take))
          (row lot rowNo take :: later.1, later.2)

/-- Draw points out of a wallet, oldest lot first, one row for each lot touched. -/
def consume (wallets : Wallets) (memberId : String) (points : Decimal)
    (txnType : LoyaltyConsumeType) (opts : LoyaltyConsumeOptions) : Except LoyaltyError Wallets :=
  if ¬0 < points then
    .ok wallets
  else if txnType = .REDEEM ∧ opts.tenderId = none then
    .error (.invalid "tenderId")
  else if txnType = .GIFT ∧ opts.tenderId.isSome then
    .error (.invalid "tenderId")
  else if txnType = .ADJUST ∧ (opts.tenderId.isSome ∨ opts.approvedBy = none) then
    .error (.invalid (if opts.tenderId.isSome then "tenderId" else "approvedBy"))
  else
    match wallets.members.find? fun member => member.lmbId = memberId with
    | none => .error (.invalid "memberId")
    | some member =>
        if redeemable wallets memberId opts.txnDate < points then
          .error (.refused "loyaltyPoints")
        else
          let firstRowNo :=
            match opts.src with
            | some src => maxRowNo wallets src opts.accYear txnType.txnType + 1
            | none => 1
          let drawn := drawLots (drawRow member memberId txnType opts)
            (lots wallets memberId opts.txnDate) firstRowNo points
          if 0 < drawn.2 then
            .error (.disagree memberId drawn.2 points opts.txnDate)
          else
            writeLedgerRows wallets drawn.1

/-! ## The manual movements -/

structure LoyaltyAdjustInput where
  memberId : String
  companyId : String
  accYear : String
  txnDate : Date
  docId : String
  points : Decimal
  expiresOn : Option Date
  approvedBy : Option String

/-- The checks every manual movement shares. -/
def lockMember (wallets : Wallets) (memberId companyId : String)
    (refuseStatuses : List LoyaltyMemberStatus) : Except LoyaltyError LoyaltyMember :=
  match wallets.members.find? fun member => member.lmbId = memberId with
  | none => .error (.invalid "memberId")
  | some row =>
      if row.lmbIsDeleted ∨ row.lmbCompId ≠ companyId then .error (.invalid "memberId")
      else if row.lmbStatus ∈ refuseStatuses then .error (.refused "memberId")
      else .ok row

/-- A manual adjustment: upward a lot, downward a draw like any other. -/
def adjust (wallets : Wallets) (input : LoyaltyAdjustInput) : Except LoyaltyError Wallets :=
  if input.points = 0 then
    .error (.invalid "points")
  else if input.approvedBy = none then
    .error (.invalid "approvedBy")
  else if input.expiresOn.any fun expiresOn => expiresOn < input.txnDate then
    .error (.invalid "expiresOn")
  else do
    let _ ← lockMember wallets input.memberId input.companyId [.CLOSED, .MERGED]
    let src : SrcDoc := ⟨.LOYALTY_ADJUST, input.docId⟩
    if 0 < input.points then
      writeLedgerRows wallets [{
        compId := input.companyId
        accYear := input.accYear
        memberId := input.memberId
        txnType := .ADJUST
        rowNo := 1
        points := round4 input.points
        txnDate := input.txnDate
        expiresOn := input.expiresOn
        src := some src
        approvedBy := input.approvedBy }]
    else
      consume wallets input.memberId (round4 (-input.points)) .ADJUST
        ⟨input.accYear, input.txnDate, some src, none, input.approvedBy⟩

/-- Every open lot of a member, cooling and lapsed ones too. -/
def openLots (wallets : Wallets) (memberId : String) : List LedgerRow :=
  (wallets.ledger.filter (isOpenLot memberId)).insertionSort fun left right => fifo left right

/-- One row for each lot, numbered on. -/
def numbered {α : Type} (row : α → ℕ → LoyaltyLedgerRowInput) (first : ℕ) (items : List α) :
    List LoyaltyLedgerRowInput :=
  (items.zipIdx first).map fun item => row item.1 item.2

/-- Zero a wallet about to be closed: every open lot, and whatever the balance holds
beyond its lots. -/
def drain (wallets : Wallets) (input : LoyaltyAdjustInput) : Except LoyaltyError Wallets :=
  if input.approvedBy = none then
    .error (.invalid "approvedBy")
  else do
    let _ ← lockMember wallets input.memberId input.companyId [.MERGED]
    let lots := openLots wallets input.memberId
    let src : SrcDoc := ⟨.LOYALTY_ADJUST, input.docId⟩
    let row (lot : Option LoyaltyLotKey) (rowNo : ℕ) (points : Decimal) : LoyaltyLedgerRowInput :=
      { compId := input.companyId
        accYear := input.accYear
        memberId := input.memberId
        txnType := .ADJUST
        rowNo := rowNo
        points := points
        txnDate := input.txnDate
        lot := lot
        src := some src
        approvedBy := input.approvedBy }
    let rows := numbered (fun lot rowNo => row (some lot.key) rowNo (-lot.lotBalance)) 1 lots
    let lotted := lots.foldl (fun lotted lot => round4 (lotted + lot.lotBalance)) 0
    let remainder := round4 (balance wallets input.memberId - lotted)
    writeLedgerRows wallets
      (if remainder ≠ 0 then rows ++ [row none (rows.length + 1) (-remainder)] else rows)

/-! ## Undoing -/

/-- The document a reversal is filed under. -/
structure ReversedDoc where
  src : SrcDoc
  accYear : String

def typeOrder : LoyaltyTxnType → ℕ
  | .ADJUST => 0
  | .EARN => 1
  | .EXPIRE => 2
  | .GIFT => 3
  | .OPENING => 4
  | .REDEEM => 5
  | .TRANSFER => 6

/-- The rows of a document that are not reversals, by type and row number. -/
def originals (wallets : Wallets) (src : SrcDoc) (also : LedgerRow → Bool) : List LedgerRow :=
  (wallets.ledger.filter fun row =>
    row.src = some src && row.reversalOf = none && also row).insertionSort fun left right =>
      toLex (typeOrder left.txnType, left.rowNo) ≤ toLex (typeOrder right.txnType, right.rowNo)

/-- What undoing a row writes: an award taken back as far as it is still there, a draw
given back to its lot. -/
def reversalOf? (doc : ReversedDoc) (o : LedgerRow) : Option LoyaltyLedgerRowInput :=
  let base : LoyaltyLedgerRowInput :=
    { compId := o.compId
      accYear := doc.accYear
      memberId := o.memberId
      txnType := o.txnType
      rowNo := 0
      points := 0
      txnDate := o.txnDate
      src := some doc.src
      reversalOf := some o.key }
  match o.txnType with
  | .EARN =>
      let take := min o.points (max 0 o.lotBalance)
      if take ≤ 0 then none else some { base with points := -take }
  | .REDEEM | .GIFT =>
      some { base with points := -o.points, lot := o.lot, tenderId := o.tenderId }
  | _ => none

/-- Number the rows of a batch on from the document, type by type. -/
def numberOn (next : LoyaltyTxnType → ℕ) :
    List LoyaltyLedgerRowInput → List LoyaltyLedgerRowInput
  | [] => []
  | row :: rest =>
      { row with rowNo := next row.txnType + 1 } ::
        numberOn (fun txnType => if txnType = row.txnType then next txnType + 1 else next txnType)
          rest

/-- Undo the rows of a document that nothing has undone yet. -/
def reverseRows (wallets : Wallets) (doc : ReversedDoc) (rows : List LedgerRow) :
    Except LoyaltyError Wallets :=
  let open' := rows.filter fun o => !isReversed wallets o.lldId
  writeLedgerRows wallets
    (numberOn (maxRowNo wallets doc.src doc.accYear) (open'.filterMap (reversalOf? doc)))

/-- Cancel: take back what the document awarded, and give back what it spent. -/
def reverseForCancel (wallets : Wallets) (doc : ReversedDoc) : Except LoyaltyError Wallets :=
  reverseRows wallets doc (originals wallets doc.src fun _ => true)

/-- One tender was voided: only its draws come back. -/
def reverseRedeemForTender (wallets : Wallets) (doc : ReversedDoc) (tenderId : String) :
    Except LoyaltyError Wallets :=
  reverseRows wallets doc
    (originals wallets doc.src fun row => row.tenderId = some tenderId && row.txnType = .REDEEM)

structure ReturnInput where
  docId : String
  accYear : String
  docDate : Date
  memberId : String

def clamp01 (value : Decimal) : Decimal := min 1 (max 0 value)

/-- Claw back the points the returned portion earned, as far as they are still there. -/
def clawbackForReturn (wallets : Wallets) (ret : ReturnInput) (share earnedOnBill : Decimal)
    (ignores : Bool) : Except LoyaltyError Wallets :=
  if ignores then
    .ok wallets
  else
    let want := round4 (earnedOnBill * clamp01 share)
    if ¬0 < want then
      .ok wallets
    else
      let take := min want (redeemable wallets ret.memberId ret.docDate)
      if ¬0 < take then
        .ok wallets
      else
        consume wallets ret.memberId take .EXPIRE
          ⟨ret.accYear, ret.docDate, some ⟨.SALE_RETURN, ret.docId⟩, none, none⟩

/-! ## The nightly sweep -/

/-- The id of a run: the same company on the same day gives the same one. -/
def runId (companyId : String) (on : Date) : String := companyId ++ "|" ++ toString on

/-- A lot with something left in it that lapsed before a date. -/
def isLapsed (companyId : String) (on : Date) (row : LedgerRow) : Bool :=
  row.compId = companyId && row.txnType ∈ LOYALTY_LOT_TXN_TYPES && 0 < row.lotBalance &&
    row.expiresOn.any fun expiresOn => expiresOn < on

/-- The row that takes all a lapsed lot still holds. -/
def expireRow (companyId accYear : String) (on : Date) (lot : LedgerRow) (rowNo : ℕ) :
    LoyaltyLedgerRowInput where
  compId := lot.compId
  accYear := accYear
  memberId := lot.memberId
  txnType := .EXPIRE
  rowNo := rowNo
  points := -lot.lotBalance
  txnDate := on
  lot := some lot.key
  src := some ⟨.EXPIRY_RUN, runId companyId on⟩

/-- Sweep the lapsed points of a company. -/
def expiryRun (wallets : Wallets) (companyId accYear : String) (on : Date) :
    Except LoyaltyError Wallets :=
  let lapsed := (wallets.ledger.filter (isLapsed companyId on)).insertionSort fun left right =>
    fifo left right
  writeLedgerRows wallets (numbered (expireRow companyId accYear on) 1 lapsed)

/-! ## Histories -/

/-- The movements of the ledger, each run to completion. -/
inductive Movement where
  | earn (bill : EarnInput)
  | consume (memberId : String) (points : Decimal) (txnType : LoyaltyConsumeType)
      (opts : LoyaltyConsumeOptions)
  | adjust (input : LoyaltyAdjustInput)
  | drain (input : LoyaltyAdjustInput)
  | reverseForCancel (doc : ReversedDoc)
  | reverseRedeemForTender (doc : ReversedDoc) (tenderId : String)
  | clawbackForReturn (ret : ReturnInput) (share earnedOnBill : Decimal) (ignores : Bool)
  | expiryRun (companyId accYear : String) (on : Date)

def run (wallets : Wallets) : Movement → Except LoyaltyError Wallets
  | .earn bill => earn wallets bill
  | .consume memberId points txnType opts => consume wallets memberId points txnType opts
  | .adjust input => adjust wallets input
  | .drain input => drain wallets input
  | .reverseForCancel doc => reverseForCancel wallets doc
  | .reverseRedeemForTender doc tenderId => reverseRedeemForTender wallets doc tenderId
  | .clawbackForReturn ret share earnedOnBill ignores =>
      clawbackForReturn wallets ret share earnedOnBill ignores
  | .expiryRun companyId accYear on => expiryRun wallets companyId accYear on

/-- Wallets before any movement: nothing in the ledger, every bucket at zero. -/
structure Opening (wallets : Wallets) : Prop where
  ledger : wallets.ledger = []
  members : ∀ member ∈ wallets.members, member.recompute [] = member

/-- The wallets a history leads to.  A movement that is refused leaves nothing behind. -/
inductive Reachable : Wallets → Prop where
  | opening {wallets : Wallets} (opening : Opening wallets) : Reachable wallets
  | step {wallets after : Wallets} (movement : Movement) (before : Reachable wallets)
      (moved : run wallets movement = .ok after) : Reachable after

end ErpServer.Loyalty
