import Mathlib.Tactic.LinearCombination
import ErpServer.Receipt.Types
import ErpServer.Till.Safe

/-!
# What a drawer should hold

The expectation of a session's drawer, from the counted float, the cash tender rows of its
live documents and its movements.
-/

namespace ErpServer.Till

open Receipt (money)

inductive TillVarianceTreatment where
  | PENDING | WITHIN_TOLERANCE | EXPENSE | RECOVER | SUSPENSE
  deriving DecidableEq, Repr

def INTO_TILL : List TillMovementKind := [.FLOAT_ISSUE, .TOP_UP, .PAID_IN]

def APPROVABLE_TREATMENTS : List TillVarianceTreatment := [.EXPENSE, .RECOVER, .SUSPENSE]

inductive TillSessionStatus where
  | OPEN | SUSPENDED | COUNTING | PENDING_APPROVAL | CLOSED | VOIDED
  deriving DecidableEq, Repr

inductive TenderSrcDocType where
  | SALE_BILL | SALES_ORDER | SALE_RETURN | OTHER | RECEIPT | PAYMENT | EXPENSE
  deriving DecidableEq, Repr

inductive TenderDrCr where
  | DR | CR
  deriving DecidableEq, Repr

/-- A cash tender row of a money document. -/
structure TenderRow where
  tdSrcDocType : TenderSrcDocType
  tdDrCr : TenderDrCr
  tdAmount : Decimal
  tdSurchargeAmt : Decimal := 0
  deriving DecidableEq, Repr

/-- What the tender took, surcharge included. -/
def TenderRow.tdTotalAmt (row : TenderRow) : Decimal := money (row.tdAmount + row.tdSurchargeAmt)

/-- What a row brings into the drawer, out of it where negative. -/
def TenderRow.signed (row : TenderRow) : Decimal :=
  match row.tdDrCr with
  | .DR => row.tdTotalAmt
  | .CR => -row.tdTotalAmt

def SALE_DOCS : List TenderSrcDocType := [.SALE_BILL, .SALES_ORDER, .SALE_RETURN, .OTHER]

def MONEY_DOCS : List TenderSrcDocType := [.RECEIPT, .PAYMENT, .EXPENSE]

/-- `COALESCE(sum(td_total_amt) FILTER (WHERE …), 0)` of one column. -/
def totalOf (rows : List TenderRow) (drCr : TenderDrCr) (docs : List TenderSrcDocType) : Decimal :=
  ((rows.filter fun row => row.tdDrCr = drCr && row.tdSrcDocType ∈ docs).map (·.tdTotalAmt)).sum

/-- The cash line of an expectation. -/
structure TenderExpectation where
  float : Decimal
  sales : Decimal
  refund : Decimal
  receipt : Decimal
  payment : Decimal
  expense : Decimal
  movedIn : Decimal
  movedOut : Decimal
  deriving DecidableEq, Repr

def TenderExpectation.expected (cash : TenderExpectation) : Decimal :=
  cash.float + cash.sales - cash.refund + cash.receipt - cash.payment - cash.expense +
    cash.movedIn - cash.movedOut

/-- The cash line from the rows that are live. -/
def cashExpectation (float movedIn movedOut : Decimal) (rows : List TenderRow) : TenderExpectation where
  float := float
  sales := totalOf rows .DR SALE_DOCS
  refund := totalOf rows .CR SALE_DOCS
  receipt := totalOf rows .DR MONEY_DOCS
  payment := totalOf rows .CR [.RECEIPT, .PAYMENT]
  expense := totalOf rows .CR [.EXPENSE]
  movedIn := movedIn
  movedOut := movedOut

theorem totalOf_cons (row : TenderRow) (rows : List TenderRow) (drCr : TenderDrCr)
    (docs : List TenderSrcDocType) : totalOf (row :: rows) drCr docs =
      (if row.tdDrCr = drCr ∧ row.tdSrcDocType ∈ docs then row.tdTotalAmt else 0) +
        totalOf rows drCr docs := by
  rw [totalOf, List.filter_cons]
  by_cases counts : row.tdDrCr = drCr ∧ row.tdSrcDocType ∈ docs
  · have selected : (row.tdDrCr = drCr && row.tdSrcDocType ∈ docs) = true := by simp [counts]
    rw [if_pos selected, if_pos counts, List.map_cons, List.sum_cons, totalOf]
  · have skipped : ¬(row.tdDrCr = drCr && row.tdSrcDocType ∈ docs) = true := by simpa using counts
    rw [if_neg skipped, if_neg counts, zero_add, totalOf]

/-- Every row is in exactly one column, with its sign. -/
theorem cashExpectation_expected (float movedIn movedOut : Decimal) (rows : List TenderRow) :
    (cashExpectation float movedIn movedOut rows).expected =
      float + movedIn - movedOut + (rows.map TenderRow.signed).sum := by
  induction rows with
  | nil => simp [TenderExpectation.expected, cashExpectation, totalOf]
  | cons row rest ih =>
      rw [List.map_cons, List.sum_cons]
      simp only [TenderExpectation.expected, cashExpectation] at ih ⊢
      simp only [totalOf_cons]
      have one : (if row.tdDrCr = .DR ∧ row.tdSrcDocType ∈ SALE_DOCS then row.tdTotalAmt else 0) -
          (if row.tdDrCr = .CR ∧ row.tdSrcDocType ∈ SALE_DOCS then row.tdTotalAmt else 0) +
          (if row.tdDrCr = .DR ∧ row.tdSrcDocType ∈ MONEY_DOCS then row.tdTotalAmt else 0) -
          (if row.tdDrCr = .CR ∧ row.tdSrcDocType ∈ [.RECEIPT, .PAYMENT] then row.tdTotalAmt else 0) -
          (if row.tdDrCr = .CR ∧ row.tdSrcDocType ∈ [.EXPENSE] then row.tdTotalAmt else 0) =
          row.signed := by
        simp only [TenderRow.signed]
        cases row.tdDrCr <;> cases row.tdSrcDocType <;> simp [SALE_DOCS, MONEY_DOCS]
      linear_combination ih + one

/-! ## A drawer under READ COMMITTED

The transactions that put money through a session's drawer and those that end, count,
decide and close it, statement by statement.  The second kind hold the session's row.  A
money document reads the session and the drawer's cash without a lock, and its tender rows
are live once it commits. -/

open Lib.Interleaving

/-- The cash variance of a session's final count. -/
structure CloseVariance where
  tvrExpected : Decimal
  tvrCounted : Decimal
  tvrTreatment : TillVarianceTreatment
  /-- The documents its expectation was made of, with their places: not stored, kept here
  to speak of them. -/
  inside : List (List TenderRow × ℕ)
  deriving DecidableEq, Repr

/-- A session, with its last final count. -/
structure TillSession where
  tssStatus : TillSessionStatus
  tssBillingEndedOn : Option Instant := none
  tssClosedOn : Option Instant := none
  tssCountAttempts : ℕ := 0
  tssRecountsGranted : ℕ := 0
  /-- `tss_close_count_id` is set. -/
  tssCloseCount : Bool := false
  variance : Option CloseVariance := none
  deriving DecidableEq, Repr

/-- A session as it opens. -/
def TillSession.opened : TillSession where
  tssStatus := .OPEN

/-- A money document that resolves to a session, by name or as the one its device holds. -/
structure MoneyDocument where
  session : ℕ
  named : Bool
  docTime : Option Instant := none
  arrivedAt : Option Instant := none
  lateArrivalOk : Bool := false
  cashIn : Bool := false
  /-- Its post names the cash it pays out. -/
  paysOut : Bool := false
  /-- Its cash tender rows. -/
  rows : List TenderRow
  deriving DecidableEq, Repr

/-- What its post says it pays out: the amounts of its cash, surcharge left out. -/
def MoneyDocument.cashOut (document : MoneyDocument) : Decimal :=
  if document.paysOut then
    ((document.rows.filter (·.tdDrCr = .CR)).map (·.tdAmount)).sum
  else 0

/-- A document that committed. -/
structure PostedDocument where
  document : MoneyDocument
  /-- Journalled as `LATE_ARRIVAL`. -/
  late : Bool
  deriving DecidableEq, Repr

/-- The sessions and the documents committed. -/
structure TillTables where
  sessions : List TillSession
  /-- In the order of their commits. -/
  documents : List PostedDocument
  deriving DecidableEq, Repr

/-! ## What does not change -/

inductive CashOutOverExpected where
  | REFUSE | ALLOW
  deriving DecidableEq, Repr

/-- The settings the till reads. -/
structure TillSettings where
  cashOutOverExpected : CashOutOverExpected
  maxRecounts : ℕ
  cashTolerance : Decimal
  tcnCashBlockLimit : Decimal
  deriving DecidableEq, Repr

/-- A session's counted float and its posted movements. -/
structure Drawer where
  tssFloatCounted : Decimal
  movedIn : Decimal
  movedOut : Decimal
  deriving DecidableEq, Repr

/-- The settings, and the drawer of each session. -/
structure TillShop where
  settings : TillSettings
  drawers : List Drawer
  deriving DecidableEq, Repr

def TillShop.drawer (shop : TillShop) (session : ℕ) : Drawer := shop.drawers.getD session ⟨0, 0, 0⟩

/-! ## The drawer's cash -/

/-- The rows stamped with a session, document by document, with each document's place. -/
def stampedOn (documents : List PostedDocument) (session : ℕ) : List (List TenderRow × ℕ) :=
  (documents.zipIdx.filter fun entry => entry.1.document.session = session).map fun entry =>
    (entry.1.document.rows, entry.2)

/-- What a session's drawer should hold, from the rows stamped with it. -/
def TillShop.expected (shop : TillShop) (session : ℕ) (stamped : List (List TenderRow × ℕ)) :
    Decimal :=
  let drawer := shop.drawer session
  (cashExpectation drawer.tssFloatCounted drawer.movedIn drawer.movedOut
    (stamped.flatMap (·.1))).expected

/-- `cashState`'s figure, from what is committed. -/
def TillShop.cash (shop : TillShop) (tables : TillTables) (session : ℕ) : Decimal :=
  shop.expected session (stampedOn tables.documents session)

/-! ## The statements -/

/-- What a transaction is at. -/
inductive TillTask where
  | post (document : MoneyDocument)
  | live (document : MoneyDocument)
  | unblocked (document : MoneyDocument)
  | written (document : MoneyDocument) (late : Bool)
  | endBilling (session : ℕ)
  | endBillingLocked (session : ℕ)
  | count (session : ℕ) (counted : Decimal) (othersOut : Bool)
  | countLocked (session : ℕ) (counted : Decimal) (othersOut : Bool)
  | counting (session : ℕ) (row : TillSession) (counted : Decimal) (othersOut : Bool)
  | counted (session : ℕ) (row : TillSession)
  | decide (session : ℕ) (approval : Option TillVarianceTreatment)
  | decideLocked (session : ℕ) (approval : Option TillVarianceTreatment)
  | close (session : ℕ)
  | closeLocked (session : ℕ)
  | updated (session : ℕ) (row : TillSession)
  deriving DecidableEq, Repr

/-- The rows a transaction locks. -/
abbrev SessionLock := ℕ

/-- `resolveForMoney`'s check of the session it read: none where it refuses, else whether
the document is a late arrival. -/
def resolveForMoney (document : MoneyDocument) (session : TillSession) : Option Bool :=
  if document.named ∧ session.tssStatus ≠ .OPEN ∧ session.tssStatus ≠ .SUSPENDED then
    match document.docTime, document.arrivedAt, session.tssBillingEndedOn.or session.tssClosedOn with
    | some docTime, some arrivedAt, some stoppedAt =>
        if document.lateArrivalOk ∧ session.tssStatus ≠ .VOIDED ∧ docTime ≤ stoppedAt ∧
            stoppedAt < arrivedAt then some true
        else none
    | _, _, _ => none
  else if session.tssStatus = .OPEN then some false
  else none

/-- `countIn`: accepted within the tolerance, with no other tender of the drawer out of it, sent
for approval on the last attempt, else to be counted again.  A final count freezes its
expectation. -/
def countIn (settings : TillSettings) (session : TillSession) (counted expected : Decimal)
    (othersOut : Bool) (inside : List (List TenderRow × ℕ)) : TillSession :=
  let attemptNo := session.tssCountAttempts + 1
  let isLast := 1 + settings.maxRecounts + session.tssRecountsGranted ≤ attemptNo
  let within : Bool := |counted - expected| ≤ settings.cashTolerance
  let attempted := { session with tssCountAttempts := attemptNo }
  if within && !othersOut then
    { attempted with
      tssCloseCount := true
      variance := some ⟨expected, counted, .WITHIN_TOLERANCE, inside⟩ }
  else if isLast then
    { attempted with
      tssStatus := .PENDING_APPROVAL
      tssCloseCount := true
      variance := some
        ⟨expected, counted, if within then .WITHIN_TOLERANCE else .PENDING, inside⟩ }
  else attempted

/-- A variance decided: approved with a treatment, else to be counted again. -/
def decideVariance (session : TillSession) : Option TillVarianceTreatment → TillSession
  | some treatment =>
      { session with
        tssStatus := .COUNTING
        variance := session.variance.map fun variance =>
          if variance.tvrTreatment = .PENDING then { variance with tvrTreatment := treatment }
          else variance }
  | none =>
      { session with
        tssStatus := .COUNTING
        tssRecountsGranted := session.tssRecountsGranted + 1
        tssCloseCount := false }

/-- A session may close: counted, its variance decided. -/
def TillSession.closable (session : TillSession) : Bool :=
  session.tssStatus = .COUNTING && session.tssCloseCount &&
    !session.variance.any (·.tvrTreatment = .PENDING)

/-- The next statement of a transaction on the till.  Refusals that read nothing kept here
(rights, devices, the day's cut-off, the float left) are rollbacks. -/
def tillProgram (shop : TillShop) : Program TillTables Instant TillTask SessionLock :=
  fun tables now task =>
    match task with
    | .post document =>
        match tables.sessions[document.session]?.bind (resolveForMoney document) with
        | some true => .goTo (.written document true)
        | some false => .goTo (.live document)
        | none => .abort
    | .live document =>
        let blockLimit := shop.settings.tcnCashBlockLimit
        if document.cashIn ∧ 0 < blockLimit ∧ blockLimit ≤ shop.cash tables document.session then .abort
        else .goTo (.unblocked document)
    | .unblocked document =>
        if 0 < document.cashOut ∧ shop.settings.cashOutOverExpected = .REFUSE ∧
            shop.cash tables document.session < document.cashOut then .abort
        else .goTo (.written document false)
    | .written document late =>
        .commit { tables with documents := tables.documents ++ [⟨document, late⟩] }
    | .endBilling session => .lock session (.endBillingLocked session)
    | .endBillingLocked session =>
        match tables.sessions[session]? with
        | some row =>
            if row.tssStatus = .OPEN ∨ row.tssStatus = .SUSPENDED then
              .goTo (.updated session { row with tssStatus := .COUNTING, tssBillingEndedOn := some now })
            else .abort
        | none => .abort
    | .count session counted othersOut => .lock session (.countLocked session counted othersOut)
    | .countLocked session counted othersOut =>
        match tables.sessions[session]? with
        | some row =>
            if row.tssStatus = .COUNTING ∧
                row.tssCountAttempts < 1 + shop.settings.maxRecounts + row.tssRecountsGranted then
              .goTo (.counting session row counted othersOut)
            else .abort
        | none => .abort
    | .counting session row counted othersOut =>
        let inside := stampedOn tables.documents session
        let expected := shop.cash tables session
        .goTo (.counted session (countIn shop.settings row counted expected othersOut inside))
    | .counted session row => .commit { tables with sessions := tables.sessions.set session row }
    | .decide session approval => .lock session (.decideLocked session approval)
    | .decideLocked session approval =>
        match tables.sessions[session]? with
        | some row =>
            if row.tssStatus = .PENDING_APPROVAL ∧ approval.all (· ∈ APPROVABLE_TREATMENTS) then
              .goTo (.updated session (decideVariance row approval))
            else .abort
        | none => .abort
    | .close session => .lock session (.closeLocked session)
    | .closeLocked session =>
        match tables.sessions[session]? with
        | some row =>
            if row.closable then
              .goTo (.updated session { row with tssStatus := .CLOSED, tssClosedOn := some now })
            else .abort
        | none => .abort
    | .updated session row => .commit { tables with sessions := tables.sessions.set session row }

/-- What runs side by side. -/
inductive TillTransaction where
  | post (document : MoneyDocument)
  | endBilling (session : ℕ)
  | count (session : ℕ) (counted : Decimal) (othersOut : Bool)
  | decide (session : ℕ) (approval : Option TillVarianceTreatment)
  | close (session : ℕ)
  deriving DecidableEq, Repr

def TillTransaction.task : TillTransaction → TillTask
  | post document => .post document
  | endBilling session => .endBilling session
  | count session counted othersOut => .count session counted othersOut
  | decide session approval => .decide session approval
  | close session => .close session

/-- The sessions open and nothing billed, and transactions that have not begun. -/
def tillServer (shop : TillShop) (transactions : List TillTransaction) :
    Server TillTables TillTask SessionLock :=
  ⟨⟨shop.drawers.map fun _ => TillSession.opened, []⟩,
    (transactions.map TillTransaction.task).map fun task => ⟨some task, []⟩⟩

/-! ## Commits in time -/

/-- What a document's rows take out of the drawer. -/
def MoneyDocument.taken (document : MoneyDocument) : Decimal :=
  -(document.rows.map TenderRow.signed).sum

/-- Every document of a session but the late ones is in an expectation. -/
def Included (documents : List PostedDocument) (session : ℕ) (inside : List (List TenderRow × ℕ)) :
    Prop :=
  ∀ entry ∈ documents.zipIdx, entry.1.document.session = session → entry.1.late = false →
    (entry.1.document.rows, entry.2) ∈ inside

instance (documents : List PostedDocument) (session : ℕ) (inside : List (List TenderRow × ℕ)) :
    Decidable (Included documents session inside) :=
  inferInstanceAs (Decidable (∀ entry ∈ documents.zipIdx, entry.1.document.session = session →
    entry.1.late = false → (entry.1.document.rows, entry.2) ∈ inside))

/-- A session's final count stands. -/
def TillTables.counted (tables : TillTables) (session : ℕ) : Bool :=
  tables.sessions[session]?.any (·.tssCloseCount)

/-- A document commits before a final count of its session does, unless it came late, and
where it pays out, the drawer still holds what it takes; a final count that commits has
read every document that has. -/
structure InTime (shop : TillShop) (tables : TillTables) (now : Instant) (task : TillTask) : Prop where
  document : ∀ document, task = .written document false → tables.counted document.session = false
  covered : shop.settings.cashOutOverExpected = .REFUSE → ∀ document late,
    task = .written document late → 0 < document.cashOut →
      document.taken ≤ shop.cash tables document.session
  count : ∀ session row, task = .counted session row → row.tssCloseCount = true →
    ∀ variance ∈ row.variance, Included tables.documents session variance.inside

/-- The condition, computed. -/
def inTime (shop : TillShop) (tables : TillTables) : TillTask → Bool
  | .written document late =>
      (late || !tables.counted document.session) &&
        (shop.settings.cashOutOverExpected ≠ .REFUSE || document.cashOut ≤ 0 ||
          document.taken ≤ shop.cash tables document.session)
  | .counted session row =>
      !row.tssCloseCount || row.variance.all fun variance =>
        Included tables.documents session variance.inside
  | _ => true

theorem inTime_iff {shop : TillShop} {tables : TillTables} {now : Instant} {task : TillTask} :
    inTime shop tables task = true ↔ InTime shop tables now task := by
  constructor
  · intro checked
    refine ⟨?_, ?_, ?_⟩
    · rintro document rfl
      simp only [inTime, Bool.false_or, Bool.and_eq_true, Bool.not_eq_true'] at checked
      exact checked.1
    · rintro refuse document late rfl pays
      simp only [inTime, refuse, Bool.and_eq_true, Bool.or_eq_true, decide_eq_true_eq] at checked
      rcases checked.2 with (allowed | nothing) | covers
      · exact (allowed rfl).elim
      · exact (not_le.mpr pays nothing).elim
      · exact covers
    · rintro session row rfl final variance member
      simp only [inTime, final, Bool.not_true, Bool.false_or, Option.all_eq_true,
        decide_eq_true_eq] at checked
      exact checked variance member
  · rintro ⟨document, covered, count⟩
    cases task with
    | written other late =>
        simp only [inTime, Bool.and_eq_true, Bool.or_eq_true, Bool.not_eq_true', decide_eq_true_eq]
        constructor
        · cases late with
          | true => exact Or.inl rfl
          | false => exact Or.inr (document other rfl)
        · by_cases refuse : shop.settings.cashOutOverExpected = .REFUSE
          · rcases le_or_gt other.cashOut 0 with nothing | pays
            · exact Or.inl (Or.inr nothing)
            · exact Or.inr (covered refuse other late rfl pays)
          · exact Or.inl (Or.inl refuse)
    | counted session row =>
        simp only [inTime, Bool.or_eq_true, Bool.not_eq_true', Option.all_eq_true, decide_eq_true_eq]
        cases final : row.tssCloseCount with
        | false => exact Or.inl rfl
        | true => exact Or.inr (count session row rfl final)
    | _ => rfl

instance (shop : TillShop) (tables : TillTables) (now : Instant) (task : TillTask) :
    Decidable (InTime shop tables now task) :=
  decidable_of_iff (inTime shop tables task = true) inTime_iff

end ErpServer.Till
