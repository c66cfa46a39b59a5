import ErpServer.Loyalty.Undoing

/-!
# A wallet equals its lots

Whatever moved a wallet, it holds what its lots hold, no lot is below nothing or above
what it was opened with, and a draw that passed its check finds all of its points.
-/

namespace ErpServer.Loyalty

open Lib
open Receipt (Decimal)

/-! ## Every movement, every history -/

variable {wallets : Wallets} {error : LoyaltyError}

variable {after : Wallets} {memberId : String}

/-- One movement keeps the ledger sound. -/
theorem run_sound (sound : Sound wallets) (movement : Movement)
    (moved : run wallets movement = .ok after) : Sound after := by
  cases movement with
  | earn bill => exact earn_sound sound moved
  | consume memberId points txnType opts => exact consume_sound sound moved
  | adjust input => exact adjust_sound sound moved
  | drain input => exact drain_sound sound moved
  | reverseForCancel doc => exact originals_sound sound moved
  | reverseRedeemForTender doc tenderId => exact originals_sound sound moved
  | clawbackForReturn ret share earnedOnBill ignores => exact clawbackForReturn_sound sound moved
  | expiryRun companyId accYear on => exact expiryRun_sound sound moved

/-- Every history leads to a sound ledger. -/
theorem reachable_sound (reachable : Reachable wallets) : Sound wallets := by
  induction reachable with
  | opening opening => exact opening.sound
  | step movement before moved ih => exact run_sound ih movement moved

/-! ## Lots and wallet never disagree -/

/-- Not the error of a draw whose lots and wallet disagree. -/
def LoyaltyError.Ordinary : LoyaltyError → Prop
  | .disagree _ _ _ _ => False
  | _ => True

theorem insertRows_ordinary {ledger : List LedgerRow} {rows : List LoyaltyLedgerRowInput}
    (refused : insertRows ledger rows = .error error) : error.Ordinary := by
  induction rows generalizing ledger with
  | nil => cases refused
  | cons row rest ih =>
      unfold insertRows at refused
      dsimp only at refused
      cases checked : checkRow (stored row) with
      | error failed =>
          rw [checked] at refused
          cases refused
          unfold checkRow at checked
          repeat' split at checked
          all_goals
            cases checked
            try trivial
      | ok _ =>
          rw [checked] at refused
          change (if _ then _ else _) = _ at refused
          split at refused
          · cases refused
            trivial
          · split at refused
            · cases refused
              trivial
            · exact ih refused

theorem writeLedgerRows_ordinary {rows : List LoyaltyLedgerRowInput}
    (refused : writeLedgerRows wallets rows = .error error) : error.Ordinary := by
  unfold writeLedgerRows at refused
  split at refused
  · cases refused
  · cases inserted : insertRows wallets.ledger rows with
    | error failed =>
        rw [inserted] at refused
        cases refused
        exact insertRows_ordinary inserted
    | ok ledger =>
        rw [inserted] at refused
        cases refused

theorem lockMember_ordinary {companyId : String} {refuseStatuses : List LoyaltyMemberStatus}
    (refused : lockMember wallets memberId companyId refuseStatuses = .error error) :
    error.Ordinary := by
  unfold lockMember at refused
  split at refused
  · cases refused
    trivial
  · split at refused
    · cases refused
      trivial
    split at refused
    · cases refused
      trivial
    · cases refused

/-- The lots that may be spent give all that may be spent. -/
theorem consume_ordinary {points : Decimal} {txnType : LoyaltyConsumeType}
    {opts : LoyaltyConsumeOptions} (sound : Sound wallets)
    (refused : consume wallets memberId points txnType opts = .error error) : error.Ordinary := by
  rcases consume_cases wallets memberId points txnType opts with
    same | ⟨field, invalid⟩ | ⟨field, unspendable⟩ | ⟨member, firstRowNo, enough, drawn⟩
  · rw [same] at refused
    cases refused
  · rw [invalid] at refused
    cases refused
    trivial
  · rw [unspendable] at refused
    cases refused
    trivial
  · have total : points ≤ ((lots wallets memberId opts.txnDate).map LedgerRow.lotBalance).sum := by
      have perm := (List.perm_insertionSort (fun left right => fifo left right = true)
        (wallets.ledger.filter (isSpendable memberId opts.txnDate))).map LedgerRow.lotBalance
      exact enough.trans perm.sum_eq.ge
    have ofLots {lot : LedgerRow} (lotMember : lot ∈ lots wallets memberId opts.txnDate) :
        lot ∈ wallets.ledger ∧ IsLot lot.toLoyaltyLedgerRowInput :=
      ⟨(mem_lots lotMember).1,
        (sound.isLot_of_open (mem_lots lotMember).1 (mem_lots lotMember).2).1⟩
    have nothing := @drawLots_left (drawRow member memberId txnType opts)
      (lots wallets memberId opts.txnDate) firstRowNo points
      (fun lot lotMember => sound.lotBalance_mem (ofLots lotMember).1 (ofLots lotMember).2)
      (fun lot lotMember => sound.lotBalance_nonneg (ofLots lotMember).1 (ofLots lotMember).2)
      total
    rw [drawn] at refused
    dsimp only at refused
    rw [if_neg nothing.not_gt] at refused
    exact writeLedgerRows_ordinary refused

theorem run_ordinary {movement : Movement} (sound : Sound wallets)
    (refused : run wallets movement = .error error) : error.Ordinary := by
  cases movement with
  | earn bill =>
      change earn wallets bill = _ at refused
      unfold earn at refused
      split at refused
      · cases refused
      · exact writeLedgerRows_ordinary refused
  | consume memberId points txnType opts => exact consume_ordinary sound refused
  | adjust input =>
      change adjust wallets input = _ at refused
      unfold adjust at refused
      split at refused
      · cases refused
        trivial
      split at refused
      · cases refused
        trivial
      split at refused
      · cases refused
        trivial
      cases locked : lockMember wallets input.memberId input.companyId [.CLOSED, .MERGED] with
      | error failed =>
          rw [locked] at refused
          cases refused
          exact lockMember_ordinary locked
      | ok member =>
          rw [locked] at refused
          change (if _ then _ else _) = _ at refused
          split at refused
          · exact writeLedgerRows_ordinary refused
          · exact consume_ordinary sound refused
  | drain input =>
      change drain wallets input = _ at refused
      unfold drain at refused
      split at refused
      · cases refused
        trivial
      cases locked : lockMember wallets input.memberId input.companyId [.MERGED] with
      | error failed =>
          rw [locked] at refused
          cases refused
          exact lockMember_ordinary locked
      | ok member =>
          rw [locked] at refused
          exact writeLedgerRows_ordinary refused
  | reverseForCancel doc => exact writeLedgerRows_ordinary refused
  | reverseRedeemForTender doc tenderId => exact writeLedgerRows_ordinary refused
  | clawbackForReturn ret share earnedOnBill ignores =>
      change clawbackForReturn wallets ret share earnedOnBill ignores = _ at refused
      unfold clawbackForReturn at refused
      split at refused
      · cases refused
      dsimp only at refused
      split at refused
      · cases refused
      split at refused
      · cases refused
      · exact consume_ordinary sound refused
  | expiryRun companyId accYear on => exact writeLedgerRows_ordinary refused

/-- After any history: every lot holds between nothing and what it was opened with, every
wallet holds what its lots hold and so at least what may be spent, and no movement finds
the two to disagree. -/
theorem reachable_agrees {wallets : Wallets} (reachable : Reachable wallets) :
    (∀ row ∈ wallets.ledger, opensLot row.toLoyaltyLedgerRowInput = true →
      0 ≤ row.lotBalance ∧ row.lotBalance ≤ row.points) ∧
    (∀ member ∈ wallets.members,
      member.balancePoints = ((wallets.ledger.filter fun row =>
        row.memberId = member.lmbId && opensLot row.toLoyaltyLedgerRowInput).map
          LedgerRow.lotBalance).sum ∧
      ∀ onDate, redeemable wallets member.lmbId onDate ≤ member.balancePoints) ∧
    ∀ movement memberId left points txnDate,
      run wallets movement ≠ .error (.disagree memberId left points txnDate) := by
  have sound := reachable_sound reachable
  refine ⟨?_, ?_, ?_⟩
  · intro row rowMember opens
    have isLot := sound.isLot rowMember opens
    exact ⟨sound.lotBalance_nonneg rowMember isLot, sound.lotBalance_le rowMember isLot⟩
  · intro member memberOf
    exact ⟨balance_eq_lots sound memberOf, redeemable_le_balance sound memberOf⟩
  · intro movement memberId left points txnDate disagree
    exact run_ordinary sound disagree

/-! ## A gift given back -/

def emptyWallet : Wallets where
  ledger := []
  members := [⟨"M1", "C1", .ACTIVE, false, 0, 0, 0, 0, 0⟩]

/-- An award, a gift paid out of it, and the award's bill cancelled. -/
def giftedMovements : List Movement :=
  [.earn ⟨"C1", "2025-26", "M1", ⟨.SALE_BILL, "B1"⟩, 10, 100, some 400, none⟩,
    .consume "M1" 30 .GIFT ⟨"2025-26", 20, some ⟨.GIFT_REDEEM, "G1"⟩, none, none⟩,
    .reverseForCancel ⟨⟨.SALE_BILL, "B1"⟩, "2025-26"⟩]

/-- Movements one after another. -/
def runAll (wallets : Wallets) (movements : List Movement) : Except LoyaltyError Wallets :=
  movements.foldlM run wallets

theorem runAll_reachable {movements : List Movement} (reachable : Reachable wallets)
    (moved : runAll wallets movements = .ok after) : Reachable after := by
  induction movements generalizing wallets with
  | nil =>
      cases moved
      exact reachable
  | cons movement rest ih =>
      obtain ⟨next, first, later⟩ := Fold.bind_eq_ok moved
      exact ih (.step movement reachable first) later

/-- What is left of the award after the gift is taken back: the wallet is empty, and so is
its lot. -/
def giftedWallet : Wallets where
  ledger :=
    [⟨⟨{ compId := "C1", accYear := "2025-26", memberId := "M1", txnType := .EARN, rowNo := 1,
         points := 100, txnDate := 10, expiresOn := some 400, src := some ⟨.SALE_BILL, "B1"⟩ }, 0⟩,
      100⟩,
    ⟨⟨{ compId := "C1", accYear := "2025-26", memberId := "M1", txnType := .GIFT, rowNo := 1,
        points := -30, txnDate := 20, lot := some ⟨0, "2025-26"⟩,
        src := some ⟨.GIFT_REDEEM, "G1"⟩ }, 1⟩, 0⟩,
    ⟨⟨{ compId := "C1", accYear := "2025-26", memberId := "M1", txnType := .EARN, rowNo := 2,
        points := -70, txnDate := 10, src := some ⟨.SALE_BILL, "B1"⟩,
        reversalOf := some ⟨0, "2025-26"⟩ }, 2⟩, 0⟩]
  members := [⟨"M1", "C1", .ACTIVE, false, 30, 0, 0, 30, 0⟩]

theorem giftedWallet_agrees :
    runAll emptyWallet giftedMovements = .ok giftedWallet ∧
      (∀ row ∈ giftedWallet.ledger, opensLot row.toLoyaltyLedgerRowInput = true →
        0 ≤ row.lotBalance ∧ row.lotBalance ≤ row.points) := by
  have moved : runAll emptyWallet giftedMovements = .ok giftedWallet := by decide +kernel
  have opening : Opening emptyWallet := ⟨rfl, by decide +kernel⟩
  exact ⟨moved, (reachable_agrees (runAll_reachable (.opening opening) moved)).1⟩

/-! ## Movements as transactions

The movements of one wallet as the statements they are made of, and how a database under
READ COMMITTED runs several of them at once.  A statement sees what had been committed
when it began, and what its own transaction wrote.  The row of the wallet is locked by
`FOR UPDATE` inside `consume`, and by the recompute of the buckets until the commit; the
rows of the lots by the recompute of the lots.  A statement that waits for a row writes
what it computed before it waited. -/

/-! ## The statements of a movement -/

/-- The statements still to come: reads, a lock of the wallet, and at last one batch for
the one writer. -/
inductive Program where
  | read (next : Wallets → Program)
  | lock (next : Wallets → Program)
  | write (rows : List LoyaltyLedgerRowInput)
  | stop (outcome : Except LoyaltyError Unit)

/-- The statements with nothing in between. -/
def Program.run (wallets : Wallets) : Program → Except LoyaltyError Wallets
  | .read next => (next wallets).run wallets
  | .lock next => (next wallets).run wallets
  | .write rows => writeLedgerRows wallets rows
  | .stop outcome => outcome.map fun _ => wallets

/-- The statements of `consume` from the walk of the lots on. -/
def drawProgram (member : LoyaltyMember) (memberId : String) (points : Decimal)
    (txnType : LoyaltyConsumeType) (opts : LoyaltyConsumeOptions) (spendable : List LedgerRow)
    (firstRowNo : ℕ) : Program :=
  let drawn := drawLots (drawRow member memberId txnType opts) spendable firstRowNo points
  if 0 < drawn.2 then .stop (.error (.disagree memberId drawn.2 points opts.txnDate))
  else .write drawn.1

/-- The statements of `consume` once the wallet is locked. -/
def lockedProgram (memberId : String) (points : Decimal) (txnType : LoyaltyConsumeType)
    (opts : LoyaltyConsumeOptions) (locked : Wallets) : Program :=
  match locked.members.find? fun member => member.lmbId = memberId with
  | none => .stop (.error (.invalid "memberId"))
  | some member =>
      .read fun avail =>
        if redeemable avail memberId opts.txnDate < points then
          .stop (.error (.refused "loyaltyPoints"))
        else
          .read fun spendable =>
            let draw := drawProgram member memberId points txnType opts
              (lots spendable memberId opts.txnDate)
            match opts.src with
            | some src =>
                .read fun used => draw (maxRowNo used src opts.accYear txnType.txnType + 1)
            | none => draw 1

def consumeProgram (memberId : String) (points : Decimal) (txnType : LoyaltyConsumeType)
    (opts : LoyaltyConsumeOptions) : Program :=
  if ¬0 < points then
    .stop (.ok ())
  else if txnType = .REDEEM ∧ opts.tenderId = none then
    .stop (.error (.invalid "tenderId"))
  else if txnType = .GIFT ∧ opts.tenderId.isSome then
    .stop (.error (.invalid "tenderId"))
  else if txnType = .ADJUST ∧ (opts.tenderId.isSome ∨ opts.approvedBy = none) then
    .stop (.error (.invalid (if opts.tenderId.isSome then "tenderId" else "approvedBy")))
  else
    .lock (lockedProgram memberId points txnType opts)

/-- No lock: what a lot holds is read, and taken back later. -/
def reverseForCancelProgram (doc : ReversedDoc) : Program :=
  .read fun seen =>
    let rows := originals seen doc.src fun _ => true
    if rows = [] then
      .stop (.ok ())
    else
      .read fun already =>
        .read fun used =>
          .write (numberOn (maxRowNo used doc.src doc.accYear)
            ((rows.filter fun o => !isReversed already o.lldId).filterMap (reversalOf? doc)))

def clawbackForReturnProgram (ret : ReturnInput) (share earnedOnBill : Decimal)
    (ignores : Bool) : Program :=
  if ignores then
    .stop (.ok ())
  else
    let want := round4 (earnedOnBill * clamp01 share)
    if ¬0 < want then
      .stop (.ok ())
    else
      .read fun avail =>
        let take := min want (redeemable avail ret.memberId ret.docDate)
        if ¬0 < take then
          .stop (.ok ())
        else
          consumeProgram ret.memberId take .EXPIRE
            ⟨ret.accYear, ret.docDate, some ⟨.SALE_RETURN, ret.docId⟩, none, none⟩

/-- No lock here either. -/
def expiryRunProgram (companyId accYear : String) (on : Date) : Program :=
  .read fun seen =>
    let lapsed := (seen.ledger.filter (isLapsed companyId on)).insertionSort fun left right =>
      fifo left right
    .write (numbered (expireRow companyId accYear on) 1 lapsed)

/-- The movements that run side by side. -/
inductive Transaction where
  | consume (memberId : String) (points : Decimal) (txnType : LoyaltyConsumeType)
      (opts : LoyaltyConsumeOptions)
  | reverseForCancel (doc : ReversedDoc)
  | clawbackForReturn (ret : ReturnInput) (share earnedOnBill : Decimal) (ignores : Bool)
  | expiryRun (companyId accYear : String) (on : Date)

def Transaction.movement : Transaction → Movement
  | consume memberId points txnType opts => .consume memberId points txnType opts
  | reverseForCancel doc => .reverseForCancel doc
  | clawbackForReturn ret share earnedOnBill ignores =>
      .clawbackForReturn ret share earnedOnBill ignores
  | expiryRun companyId accYear on => .expiryRun companyId accYear on

/-- The draws are on the given wallet.  What the others touch is read from the ledger. -/
def Transaction.On (wallet : String) : Transaction → Prop
  | consume memberId _ _ _ => memberId = wallet
  | clawbackForReturn ret _ _ _ => ret.memberId = wallet
  | reverseForCancel _ | expiryRun _ _ _ => True

def Transaction.program : Transaction → Program
  | consume memberId points txnType opts => consumeProgram memberId points txnType opts
  | reverseForCancel doc => reverseForCancelProgram doc
  | clawbackForReturn ret share earnedOnBill ignores =>
      clawbackForReturnProgram ret share earnedOnBill ignores
  | expiryRun companyId accYear on => expiryRunProgram companyId accYear on

/-! ## Transactions side by side -/

/-- How far a transaction has come.  The two recomputes remember the rows they saw. -/
inductive Stage where
  | running (program : Program)
  | inserted (rows : List LoyaltyLedgerRowInput)
  | lotsRead (rows : List LoyaltyLedgerRowInput) (lotsSaw : List LedgerEntry)
  | lotsWritten (rows : List LoyaltyLedgerRowInput) (lotsSaw : List LedgerEntry)
  | membersRead (rows : List LoyaltyLedgerRowInput) (lotsSaw membersSaw : List LedgerEntry)
  | membersWritten (rows : List LoyaltyLedgerRowInput) (lotsSaw membersSaw : List LedgerEntry)
  | ended (outcome : Except LoyaltyError Unit)

/-- The rows inserted and not yet committed. -/
def Stage.rows : Stage → List LoyaltyLedgerRowInput
  | running _ | ended _ => []
  | inserted rows | lotsRead rows _ | lotsWritten rows _ | membersRead rows _ _
  | membersWritten rows _ _ => rows

/-- The lots whose rows are locked. -/
def Stage.lotLocks : Stage → List LoyaltyLotKey
  | lotsWritten rows _ | membersRead rows _ _ | membersWritten rows _ _ => touchedLots rows
  | _ => []

def Stage.isEnded : Stage → Bool
  | ended _ => true
  | _ => false

def Stage.isCommitted : Stage → Bool
  | ended (.ok _) => true
  | _ => false

/-- A transaction, whether it locked the wallet itself, and how many batches had been
committed when it read first, or when it took the lock. -/
structure Thread where
  stage : Stage
  locks : Bool := false
  since : Option ℕ := none

/-- What is committed, the transactions in flight, and which of them has the row of the
wallet locked. -/
structure Server where
  wallets : Wallets
  threads : List Thread
  holder : Option ℕ := none
  commits : ℕ := 0

/-- A unique index holds a row back while another transaction has its like in flight. -/
def clash (rows others : List LoyaltyLedgerRowInput) : Bool :=
  rows.any fun row => others.any fun other =>
    sameSrcRow (stored row) (stored other) || sameReversal (stored row) (stored other)

/-- The wallets as a transaction sees them that has inserted some rows. -/
def Wallets.withRows (wallets : Wallets) (rows : List LoyaltyLedgerRowInput) : Wallets :=
  { wallets with
    ledger := wallets.ledger ++ (placed wallets.ledger.length rows).map unspent }

/-- The rows, and what the recomputes wrote, once committed. -/
def commitRows (wallets : Wallets) (rows : List LoyaltyLedgerRowInput)
    (lotsSaw membersSaw : List LedgerEntry) : Wallets where
  ledger := (wallets.withRows rows).ledger.map fun row =>
    if row.key ∈ touchedLots rows then
      { row with consumedPoints := consumedFrom lotsSaw row.key }
    else row
  members := wallets.members.map fun member =>
    if member.lmbId ∈ rows.map (fun row => row.memberId) then member.recompute membersSaw
    else member

def Server.move (server : Server) (i : ℕ) (thread : Thread) : Server :=
  { server with threads := server.threads.set i thread }

/-- A transaction that ends lets go of the wallet. -/
def Server.finish (server : Server) (i : ℕ) (thread : Thread)
    (outcome : Except LoyaltyError Unit) : Server :=
  { server.move i { thread with stage := .ended outcome } with
    holder := if server.holder = some i then none else server.holder }

/-- The next statement of a transaction, unless it waits or has ended. -/
def step (server : Server) (i : ℕ) : Option Server :=
  match server.threads[i]? with
  | none => none
  | some thread =>
      match thread.stage with
      | .running (.read next) =>
          some (server.move i
            { thread with
              stage := .running (next server.wallets)
              since := thread.since.or (some server.commits) })
      | .running (.lock next) =>
          if server.holder = none then
            some
              { server.move i
                  { stage := .running (next server.wallets)
                    locks := true
                    since := some server.commits } with
                holder := some i }
          else
            none
      | .running (.write rows) =>
          if rows = [] then
            some (server.finish i thread (.ok ()))
          else if server.threads.any fun other => clash rows other.stage.rows then
            none
          else
            match insertRows server.wallets.ledger rows with
            | .error error => some (server.finish i thread (.error error))
            | .ok _ =>
                some (server.move i
                  { thread with
                    stage := .inserted rows
                    since := thread.since.or (some server.commits) })
      | .running (.stop outcome) => some (server.finish i thread outcome)
      | .inserted rows =>
          some (server.move i
            { thread with stage := .lotsRead rows (server.wallets.withRows rows).entries })
      | .lotsRead rows lotsSaw =>
          if server.threads.any fun other =>
              other.stage.lotLocks.any fun lot => lot ∈ touchedLots rows then
            none
          else
            some (server.move i { thread with stage := .lotsWritten rows lotsSaw })
      | .lotsWritten rows lotsSaw =>
          some (server.move i
            { thread with
              stage := .membersRead rows lotsSaw (server.wallets.withRows rows).entries })
      | .membersRead rows lotsSaw membersSaw =>
          if server.holder = none ∨ server.holder = some i then
            some
              { server.move i { thread with stage := .membersWritten rows lotsSaw membersSaw } with
                holder := some i }
          else
            none
      | .membersWritten rows lotsSaw membersSaw =>
          some
            { server.finish i thread (.ok ()) with
              wallets := commitRows server.wallets rows lotsSaw membersSaw
              commits := server.commits + 1 }
      | .ended _ => none

/-- The statements of a schedule, each of the transaction it names. -/
def runSchedule (server : Server) (schedule : List ℕ) : Option Server :=
  schedule.foldlM step server

/-- Transactions that have not begun, on the one wallet of a history. -/
structure Start (memberId : String) (server : Server) : Prop where
  reachable : Reachable server.wallets
  oneWallet : ∀ row ∈ server.wallets.ledger, row.memberId = memberId
  threads : ∀ thread ∈ server.threads, ∃ transaction : Transaction,
    transaction.On memberId ∧ thread = { stage := .running transaction.program }
  free : server.holder = none
  commits : server.commits = 0

end ErpServer.Loyalty
