import Mathlib.Data.Int.Notation
import ErpServer.Lib.Numbering
import ErpServer.Till.Drawer

/-!
# A branch's business days under READ COMMITTED

The transactions that open, close and reopen a business day, and those of its sessions,
statement by statement.  A close or a reopen holds the day's row `FOR UPDATE`.  A session
open reads the day without a lock; its row is then inserted under the key-share lock its
foreign key takes on the day, which waits for a close and makes a close wait.  Nothing
reads an inserted session before it commits, so its insert and its commit are one step
here.
-/

namespace ErpServer.Till.DayClose

open Lib.Interleaving

inductive TillDayStatus where
  | OPEN | CLOSING | CLOSED
  deriving DecidableEq, Repr

/-- The branch a row is of. -/
structure Scope where
  companyId : String
  branchId : String
  deriving DecidableEq, Repr

/-- A business day; its id is its place. -/
structure TillBusinessDay where
  scope : Scope
  tbdBusinessDate : ℤ
  tbdStatus : TillDayStatus := .OPEN
  tbdZNo : Option ℕ := none
  tbdReopenCount : ℕ := 0
  deriving DecidableEq, Repr

/-- A session; its id is its place. -/
structure TillSession where
  tssDayId : ℕ
  tssStatus : TillSessionStatus
  /-- Its posted bags with `tcm_receipt_status = AWAITING`. -/
  awaiting : ℕ
  deriving DecidableEq, Repr

/-- A `DAY_CLOSE` row of the journal. -/
structure DayCloseEvent where
  tevDayId : ℕ
  zNo : ℕ
  reopenCount : ℕ
  deriving DecidableEq, Repr

/-- The days, the sessions and the journal of closes. -/
structure DayTables where
  days : List TillBusinessDay
  sessions : List TillSession
  /-- In the order of their commits. -/
  journal : List DayCloseEvent
  deriving DecidableEq, Repr

/-- `LIVE_SESSION_STATUSES`, which are `FORCE_CLOSABLE` too. -/
def LIVE_SESSION_STATUSES : List TillSessionStatus := [.OPEN, .SUSPENDED, .COUNTING]

def HOLDING_SESSION_STATUSES : List TillSessionStatus :=
  LIVE_SESSION_STATUSES ++ [.PENDING_APPROVAL]

/-! ## The checklist -/

/-- The items that can be RED. -/
inductive TillCloseCheckCode where
  | SESSIONS_LIVE | SESSIONS_PENDING_APPROVAL | CASH_TO_APPROVE | VARIANCE_UNDECIDED
  | MOVEMENTS_UNPOSTED | SAFE_NOT_COUNTED
  deriving DecidableEq, Repr

def CLOSE_EXCEPTION_CODES : List TillCloseCheckCode := [.SESSIONS_LIVE, .SAFE_NOT_COUNTED]

/-- What a statement reads of the world outside: the business date, what of the checklist
is RED for reasons not kept here, and whether a forced count is in tolerance. -/
structure Outside where
  businessDate : ℤ := 0
  varianceUndecided : Bool := false
  movementsUnposted : Bool := false
  safeNotCounted : Bool := false
  inTolerance : Bool := true
  deriving DecidableEq, Repr

/-- The sessions of a day with their ids, as a transaction reads them that has closed some
of them itself. -/
def sessionsOf (sessions : List TillSession) (forced : List ℕ) (day : ℕ) :
    List (TillSession × ℕ) :=
  (sessions.zipIdx.filter fun entry => entry.1.tssDayId = day).map fun entry =>
    if entry.2 ∈ forced then ({ entry.1 with tssStatus := .CLOSED }, entry.2) else entry

/-- `check`'s first statement: the sessions. -/
def sessionReds (sessions : List TillSession) (forced : List ℕ) (day : ℕ) :
    List TillCloseCheckCode :=
  let ofDay := sessionsOf sessions forced day
  (if ofDay.any (·.1.tssStatus ∈ LIVE_SESSION_STATUSES) then [.SESSIONS_LIVE] else []) ++
    if ofDay.any (·.1.tssStatus = .PENDING_APPROVAL) then [.SESSIONS_PENDING_APPROVAL] else []

/-- The next one: the cash that waits for its receipt. -/
def cashReds (sessions : List TillSession) (day : ℕ) : List TillCloseCheckCode :=
  if (sessionsOf sessions [] day).any (0 < ·.1.awaiting) then [.CASH_TO_APPROVE] else []

/-- The rest of it. -/
def Outside.reds (now : Outside) : List TillCloseCheckCode :=
  (if now.varianceUndecided then [.VARIANCE_UNDECIDED] else []) ++
    (if now.movementsUnposted then [.MOVEMENTS_UNPOSTED] else []) ++
      if now.safeNotCounted then [.SAFE_NOT_COUNTED] else []

/-- What an exception does not cover. -/
def uncovered (reds : List TillCloseCheckCode) : List TillCloseCheckCode :=
  reds.filter fun code => code ∉ CLOSE_EXCEPTION_CODES

/-! ## What a session's own transactions do -/

/-- A transaction of one session.  A call that receives bags of several sessions is one
receipt for each. -/
inductive SessionTurn where
  | suspend | resume | endBilling
  /-- A final count out of tolerance. -/
  | sendForApproval
  | decideVariance
  /-- A drop, which waits for its receipt or goes straight into the safe. -/
  | drop (awaits : Bool)
  /-- A drop that waits, voided. -/
  | voidDrop
  /-- A close, with a hand-over that waits or none that does. -/
  | close (awaits : Bool)
  | forceClose (inTolerance awaits : Bool)
  | receive (bags : ℕ)
  | approveCash
  deriving DecidableEq, Repr

/-- The session, read under its lock, as the transaction leaves it; none where it is
refused. -/
def SessionTurn.apply (session : TillSession) : SessionTurn → Option TillSession
  | suspend => if session.tssStatus = .OPEN then some { session with tssStatus := .SUSPENDED } else none
  | resume => if session.tssStatus = .SUSPENDED then some { session with tssStatus := .OPEN } else none
  | endBilling =>
      if session.tssStatus = .OPEN ∨ session.tssStatus = .SUSPENDED then
        some { session with tssStatus := .COUNTING }
      else none
  | sendForApproval =>
      if session.tssStatus = .COUNTING then some { session with tssStatus := .PENDING_APPROVAL }
      else none
  | decideVariance =>
      if session.tssStatus = .PENDING_APPROVAL then some { session with tssStatus := .COUNTING }
      else none
  | drop awaits =>
      if session.tssStatus = .OPEN ∨ session.tssStatus = .SUSPENDED then
        some { session with awaiting := session.awaiting + awaits.toNat }
      else none
  | voidDrop =>
      if session.tssStatus ∈ LIVE_SESSION_STATUSES ∧ 0 < session.awaiting then
        some { session with awaiting := session.awaiting - 1 }
      else none
  | close awaits =>
      if session.tssStatus = .COUNTING then
        some { session with tssStatus := .CLOSED, awaiting := session.awaiting + awaits.toNat }
      else none
  | forceClose inTolerance awaits =>
      if session.tssStatus ∈ LIVE_SESSION_STATUSES then
        if inTolerance then
          some { session with tssStatus := .CLOSED, awaiting := session.awaiting + awaits.toNat }
        else some { session with tssStatus := .PENDING_APPROVAL }
      else none
  | receive bags =>
      if bags ≤ session.awaiting then some { session with awaiting := session.awaiting - bags }
      else none
  | approveCash =>
      if session.tssStatus = .CLOSED ∧ 0 < session.awaiting then some { session with awaiting := 0 }
      else none

/-! ## The statements -/

/-- The rows and keys a transaction locks. -/
inductive DayLock where
  /-- The key a new day's row takes in `ux_tbd_date` until it commits. -/
  | date (scope : Scope) (businessDate : ℤ)
  | day (tbdId : ℕ)
  | session (tssId : ℕ)
  /-- The advisory lock of the branch's Z numbers. -/
  | zSeries (branchId : String)
  deriving DecidableEq, Repr

/-- Who opens a day. -/
inductive OpenedBy where
  | SESSION | MANAGER
  deriving DecidableEq, Repr

/-- A close past its judgement: the day, the row read under its lock, whether an exception
was approved, and the sessions it has force-closed. -/
structure Closing where
  tbdId : ℕ
  day : TillBusinessDay
  approved : Bool
  forced : List ℕ
  deriving DecidableEq, Repr

/-- What a transaction is at. -/
inductive DayTask where
  | open (scope : Scope) (dayAutoOpen : Bool) (openedBy : OpenedBy)
  | insertDay (scope : Scope) (dayAutoOpen : Bool) (openedBy : OpenedBy) (businessDate : ℤ)
  | dayKeyTaken (scope : Scope) (openedBy : OpenedBy) (businessDate : ℤ)
  | readDay (scope : Scope) (openedBy : OpenedBy) (businessDate : ℤ)
  | dayCreated (openedBy : OpenedBy) (day : TillBusinessDay)
  | insertSession (tbdId : ℕ)
  | sessionInserted (tbdId : ℕ)
  | turn (tssId : ℕ) (turn : SessionTurn)
  | turnLocked (tssId : ℕ) (turn : SessionTurn)
  | close (tbdId : ℕ) (exception : Option (List ℕ))
  | peeked (tbdId : ℕ) (exception : Option (List ℕ))
  | sessionsPeeked (tbdId : ℕ) (exception : Option (List ℕ)) (reds : List TillCloseCheckCode)
  | cashPeeked (tbdId : ℕ) (exception : Option (List ℕ)) (reds : List TillCloseCheckCode)
  | liveCounts (tbdId : ℕ) (counts : List ℕ)
  | liveDrops (tbdId : ℕ) (live : List ℕ)
  | lockDay (tbdId : ℕ) (approved : Option (List ℕ))
  | dayLocked (tbdId : ℕ) (approved : Option (List ℕ))
  | forceClose (closing : Closing) (live : List ℕ)
  | forceLocked (closing : Closing) (tssId : ℕ) (live : List ℕ)
  | sessionsChecked (closing : Closing) (reds : List TillCloseCheckCode)
  | cashChecked (closing : Closing) (reds : List TillCloseCheckCode)
  | nextZ (closing : Closing)
  | closed (closing : Closing) (zNo : ℕ)
  | reopen (tbdId : ℕ)
  | reopenPeeked (tbdId : ℕ)
  | reopenLocked (tbdId : ℕ)
  | reopenable (tbdId : ℕ) (day : TillBusinessDay)
  deriving DecidableEq, Repr

/-- The live day of a branch's business date. -/
def DayTables.dayOf (tables : DayTables) (scope : Scope) (businessDate : ℤ) : Option ℕ :=
  tables.days.findIdx? fun day => day.scope = scope && day.tbdBusinessDate = businessDate

/-- A later business day of the branch is closed. -/
def DayTables.laterClosed (tables : DayTables) (day : TillBusinessDay) : Bool :=
  tables.days.any fun other => other.scope = day.scope && other.tbdStatus = .CLOSED &&
    day.tbdBusinessDate < other.tbdBusinessDate

/-- `liveCounts`' sessions. -/
def DayTables.liveOf (tables : DayTables) (day : ℕ) : List ℕ :=
  ((sessionsOf tables.sessions [] day).filter fun entry =>
    entry.1.tssStatus ∈ LIVE_SESSION_STATUSES).map Prod.snd

/-- The branch's Z numbers. -/
def DayTables.zNosOf (tables : DayTables) (scope : Scope) : List ℕ :=
  tables.days.filterMap fun day => if day.scope = scope then day.tbdZNo else none

/-- The check again, under the day's lock: what is left of it. -/
def Closing.left (closing : Closing) (reds : List TillCloseCheckCode) : List TillCloseCheckCode :=
  if closing.approved then uncovered reds else reds

/-- The close's writes. -/
def DayTables.closeDay (tables : DayTables) (closing : Closing) (zNo : ℕ) : DayTables where
  days := tables.days.modify closing.tbdId fun day =>
    { day with tbdStatus := .CLOSED, tbdZNo := some zNo }
  sessions := tables.sessions.mapIdx fun tssId session =>
    if tssId ∈ closing.forced then { session with tssStatus := .CLOSED } else session
  journal := tables.journal ++ [⟨closing.tbdId, zNo, closing.day.tbdReopenCount⟩]

/-- The next statement of a transaction.  Refusals that read nothing kept here (rights,
PINs, reasons, the counter, the float, holds) are rollbacks. -/
def dayProgram : Program DayTables Outside DayTask DayLock :=
  fun tables now task =>
    match task with
    | .open scope dayAutoOpen openedBy =>
        .goTo (.insertDay scope dayAutoOpen openedBy now.businessDate)
    | .insertDay scope dayAutoOpen openedBy businessDate =>
        match tables.dayOf scope businessDate with
        | some _ => .goTo (.readDay scope openedBy businessDate)
        | none =>
            if dayAutoOpen ∨ openedBy = .MANAGER then
              .lock (.date scope businessDate) (.dayKeyTaken scope openedBy businessDate)
            else .abort
    | .dayKeyTaken scope openedBy businessDate =>
        -- the holder before may have committed the day it inserted
        match tables.dayOf scope businessDate with
        | some _ => .goTo (.readDay scope openedBy businessDate)
        | none => .goTo (.dayCreated openedBy { scope, tbdBusinessDate := businessDate })
    | .readDay scope openedBy businessDate =>
        match tables.dayOf scope businessDate with
        | some tbdId =>
            match tables.days[tbdId]?.map TillBusinessDay.tbdStatus, openedBy with
            | some .OPEN, .SESSION => .goTo (.insertSession tbdId)
            | _, _ => .abort
        | none => .abort
    | .dayCreated .MANAGER day => .commit { tables with days := tables.days ++ [day] }
    | .dayCreated .SESSION day =>
        .commit { tables with
          days := tables.days ++ [day]
          sessions := tables.sessions ++ [⟨tables.days.length, .OPEN, 0⟩] }
    | .insertSession tbdId => .lock (.day tbdId) (.sessionInserted tbdId)
    | .sessionInserted tbdId =>
        .commit { tables with sessions := tables.sessions ++ [⟨tbdId, .OPEN, 0⟩] }
    | .turn tssId turn => .lock (.session tssId) (.turnLocked tssId turn)
    | .turnLocked tssId turn =>
        match tables.sessions[tssId]?.bind fun session => turn.apply session with
        | some session => .commit { tables with sessions := tables.sessions.set tssId session }
        | none => .abort
    | .close tbdId exception =>
        match tables.days[tbdId]? with
        | some day => if day.tbdStatus = .CLOSED then .abort else .goTo (.peeked tbdId exception)
        | none => .abort
    | .peeked tbdId exception =>
        .goTo (.sessionsPeeked tbdId exception (sessionReds tables.sessions [] tbdId))
    | .sessionsPeeked tbdId exception reds =>
        .goTo (.cashPeeked tbdId exception (reds ++ cashReds tables.sessions tbdId))
    | .cashPeeked tbdId exception found =>
        let reds := found ++ now.reds
        if reds = [] then .goTo (.lockDay tbdId none)
        else
          match exception with
          | none => .abort
          | some counts => if uncovered reds = [] then .goTo (.liveCounts tbdId counts) else .abort
    | .liveCounts tbdId counts =>
        let live := tables.liveOf tbdId
        if live ⊆ counts ∧ counts ⊆ live then .goTo (.liveDrops tbdId live) else .abort
    | .liveDrops tbdId live =>
        if live.any fun tssId => tables.sessions[tssId]?.any fun session => 0 < session.awaiting then .abort
        else .goTo (.lockDay tbdId (some live))
    | .lockDay tbdId approved => .lock (.day tbdId) (.dayLocked tbdId approved)
    | .dayLocked tbdId approved =>
        match tables.days[tbdId]? with
        | some day =>
            if day.tbdStatus = .CLOSED then .abort
            else .goTo (.forceClose ⟨tbdId, day, approved.isSome, []⟩ (approved.getD []))
        | none => .abort
    | .forceClose closing (tssId :: live) => .lock (.session tssId) (.forceLocked closing tssId live)
    | .forceLocked closing tssId live =>
        -- its own hand-over is received at once
        if tables.sessions[tssId]?.any (fun session => session.tssStatus ∈ LIVE_SESSION_STATUSES) ∧
            now.inTolerance then
          .goTo (.forceClose { closing with forced := tssId :: closing.forced } live)
        else .abort
    | .forceClose closing [] =>
        .goTo (.sessionsChecked closing (sessionReds tables.sessions closing.forced closing.tbdId))
    | .sessionsChecked closing reds =>
        .goTo (.cashChecked closing (reds ++ cashReds tables.sessions closing.tbdId))
    | .cashChecked closing reds =>
        if closing.left (reds ++ now.reds) = [] then
          match closing.day.tbdZNo with
          | some zNo => .goTo (.closed closing zNo)
          | none => .lock (.zSeries closing.day.scope.branchId) (.nextZ closing)
        else .abort
    | .nextZ closing =>
        .goTo (.closed closing (Lib.Numbering.next (tables.zNosOf closing.day.scope)))
    | .closed closing zNo => .commit (tables.closeDay closing zNo)
    | .reopen tbdId =>
        match tables.days[tbdId]? with
        | some day =>
            if day.tbdStatus = .CLOSED ∧ ¬tables.laterClosed day then .goTo (.reopenPeeked tbdId)
            else .abort
        | none => .abort
    | .reopenPeeked tbdId => .lock (.day tbdId) (.reopenLocked tbdId)
    | .reopenLocked tbdId =>
        match tables.days[tbdId]? with
        | some day => if day.tbdStatus = .CLOSED then .goTo (.reopenable tbdId day) else .abort
        | none => .abort
    | .reopenable tbdId day =>
        if tables.laterClosed day then .abort
        else
          .commit { tables with
            days := tables.days.modify tbdId fun day =>
              { day with tbdStatus := .OPEN, tbdReopenCount := day.tbdReopenCount + 1 } }

/-- What runs side by side. -/
inductive DayTransaction where
  | openSession (scope : Scope) (dayAutoOpen : Bool)
  | openDay (scope : Scope)
  | turn (tssId : ℕ) (turn : SessionTurn)
  | close (tbdId : ℕ) (exception : Option (List ℕ))
  | reopen (tbdId : ℕ)
  deriving DecidableEq, Repr

def DayTransaction.task : DayTransaction → DayTask
  | openSession scope dayAutoOpen => .open scope dayAutoOpen .SESSION
  | openDay scope => .open scope true .MANAGER
  | turn tssId step => .turn tssId step
  | close tbdId exception => .close tbdId exception
  | reopen tbdId => .reopen tbdId

/-- Transactions that have not begun. -/
def dayServer (tables : DayTables) (transactions : List DayTransaction) :
    Server DayTables DayTask DayLock :=
  ⟨tables, (transactions.map DayTransaction.task).map fun task => ⟨some task, []⟩⟩

/-- A session is inserted while its day is not closed, and a close with an exception that
checks again finds no live session but those it has counted. -/
def Orderly (tables : DayTables) (_now : Outside) : DayTask → Prop
  | .sessionInserted tbdId => ∀ day ∈ tables.days[tbdId]?, day.tbdStatus ≠ .CLOSED
  | .forceClose closing [] => closing.approved = true →
      ∀ entry ∈ sessionsOf tables.sessions closing.forced closing.tbdId,
        entry.1.tssStatus ∉ LIVE_SESSION_STATUSES
  | _ => True

instance (tables : DayTables) (now : Outside) (task : DayTask) :
    Decidable (Orderly tables now task) := by
  unfold Orderly
  split
  · infer_instance
  · infer_instance
  · exact instDecidableTrue

end ErpServer.Till.DayClose
