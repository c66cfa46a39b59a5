import Mathlib.Algebra.BigOperators.Group.List.Basic
import Mathlib.Algebra.Order.Ring.Int
import Mathlib.Algebra.Order.Field.Rat
import ErpServer.Lib.Interleaving

/-!
# What bills draw from an order or a challan

A bill names lines of the order or the delivery challan it comes from.  What has been
billed of a line, the line's status and the document's are not kept up step by step: they
are derived again from every posted bill.
-/

namespace ErpServer.Sales

/-- A quantity in whole thousandths, as the columns store it (`numeric(15,3)`). -/
abbrev Quantity := ℤ

inductive SourceKind where
  | SALES_ORDER | DELIVERY_CHALLAN
  deriving DecidableEq, Repr

inductive LineStatus where
  | OPEN | PARTIAL | BILLED | RETURNED | CLOSED
  | PENDING | DELIVERED | CANCELLED
  deriving DecidableEq, Repr

inductive FulfilStatus where
  | OPEN | PARTIAL | BILLED | RETURNED | CLOSED
  | PENDING | COMPLETED | CANCELLED
  deriving DecidableEq, Repr

inductive SourceStatus where
  | DRAFT | CONFIRMED | PARTIAL | COMPLETED | CANCELLED | POSTED
  deriving DecidableEq, Repr

/-- A line of the source: `sdi_…` of a challan, `soi_…` of an order. -/
structure SourceLine where
  /-- What the line was for. -/
  qty : Quantity
  /-- `soi_net_qty`, revised upwards by an over-delivery; a challan's own quantity. -/
  netQty : Quantity
  /-- `sdi_billed_qty`, `soi_delivered_qty`. -/
  billedQty : Quantity
  /-- `sdi_returned_qty`, `soi_cancelled_qty`. -/
  returnedQty : Quantity
  lineStatus : LineStatus
  deriving DecidableEq, Repr

/-- `sdi_open_qty`, `soi_pending_qty`. -/
def SourceLine.openQty (line : SourceLine) : Quantity :=
  line.netQty - line.billedQty - line.returnedQty

/-- A challan or an order, with its lines. -/
structure SourceDocument where
  status : SourceStatus
  fulfilStatus : FulfilStatus
  lines : List SourceLine
  deriving DecidableEq, Repr

inductive BillStatus where
  | DRAFT | POSTED | CANCELLED
  deriving DecidableEq, Repr

/-- A bill line drawn from a line of the source. -/
structure SaleBillItem where
  line : ℕ
  /-- `sbi_src_item_id` is set; else an order's line is named by its number alone. -/
  srcItem : Bool := true
  sbiBillQty : Quantity
  /-- In the order line's own terms. -/
  sbiNetQty : Quantity
  deriving DecidableEq, Repr

/-- A bill, live or not. -/
structure SaleBill where
  sbStatus : BillStatus
  items : List SaleBillItem
  /-- Its deleted rows, which go on naming their lines. -/
  retired : List SaleBillItem := []
  deriving DecidableEq, Repr

/-- A row of the bill, deleted ones with it, names the challan (`dcRefsOfBill`). -/
def SaleBill.names (bill : SaleBill) : Bool :=
  (bill.items ++ bill.retired).any (·.srcItem)

/-- What one bill line counts for: orders sum net quantities, challans billed ones. -/
def SaleBillItem.drawn (kind : SourceKind) (item : SaleBillItem) : Quantity :=
  match kind with
  | .SALES_ORDER => item.sbiNetQty
  | .DELIVERY_CHALLAN => if item.srcItem then item.sbiBillQty else 0

/-- What a bill takes of a line, once posted. -/
def SaleBill.takes (kind : SourceKind) (line : ℕ) (bill : SaleBill) : Quantity :=
  if bill.sbStatus = .POSTED then
    ((bill.items.filter (·.line = line)).map (SaleBillItem.drawn kind)).sum
  else 0

/-- What the posted bills take of a line. -/
def billedOf (kind : SourceKind) (bills : List SaleBill) (line : ℕ) : Quantity :=
  (bills.map (SaleBill.takes kind line)).sum

/-! ## The re-derivation -/

/-- `sdi_line_status`. -/
def dcLineStatus (qty billed returned : Quantity) : LineStatus :=
  if billed ≤ 0 ∧ returned ≤ 0 then .OPEN
  else if 0 < qty - billed - returned then .PARTIAL
  else if 0 < billed ∧ returned ≤ 0 then .BILLED
  else if 0 < returned ∧ billed ≤ 0 then .RETURNED
  else .CLOSED

/-- `soi_line_status`. -/
def deriveLineStatus (netQty delivered cancelled : Quantity) : LineStatus :=
  if netQty ≤ 0 then .PENDING
  else if netQty - delivered - cancelled ≤ 0 then
    if delivered ≤ 0 then .CANCELLED else .DELIVERED
  else if 0 < delivered + cancelled then .PARTIAL
  else .PENDING

/-- A line that holds a billed quantity: an order's is revised up to what was delivered. -/
def SourceLine.settle (kind : SourceKind) (line : SourceLine) (billed : Quantity) : SourceLine :=
  match kind with
  | .DELIVERY_CHALLAN =>
      { line with
        billedQty := billed
        lineStatus := dcLineStatus line.qty billed line.returnedQty }
  | .SALES_ORDER =>
      let netQty := if line.netQty - billed - line.returnedQty < 0 then billed + line.returnedQty
        else line.netQty
      { line with
        netQty
        billedQty := billed
        lineStatus := deriveLineStatus netQty billed line.returnedQty }

/-- `sdc_fulfil_status`. -/
def dcFulfilStatus (lines : List SourceLine) : FulfilStatus :=
  if lines = [] then .OPEN
  else if lines.all (·.lineStatus = .OPEN) then .OPEN
  else if lines.all (fun line => line.lineStatus = .BILLED ∨ line.lineStatus = .CLOSED) ∧
      lines.any (·.lineStatus = .BILLED) then .BILLED
  else if lines.all (fun line => line.lineStatus = .RETURNED ∨ line.lineStatus = .CLOSED) ∧
      lines.any (·.lineStatus = .RETURNED) then .RETURNED
  else if lines.all (fun line => line.lineStatus ≠ .OPEN ∧ line.lineStatus ≠ .PARTIAL) then .CLOSED
  else .PARTIAL

/-- `deriveOrderStatus`: the fulfilment, and the status of an order with nothing left. -/
def deriveOrderStatus (lines : List SourceLine) : FulfilStatus × Option SourceStatus :=
  let delivered : Bool := 0 < (lines.map (·.billedQty)).sum
  let deliveredItems := (lines.filter fun line =>
    line.lineStatus = .DELIVERED ∨ line.lineStatus = .CANCELLED).length
  if lines.length ≤ deliveredItems then
    if delivered then (.COMPLETED, some .COMPLETED) else (.CANCELLED, some .CANCELLED)
  else if 0 < deliveredItems ∨ delivered then (.PARTIAL, none)
  else (.PENDING, none)

/-- The document's own status, from its lines. -/
def SourceDocument.rollUp (kind : SourceKind) (source : SourceDocument) (lines : List SourceLine) :
    SourceDocument :=
  match kind with
  | .DELIVERY_CHALLAN => { source with fulfilStatus := dcFulfilStatus lines, lines }
  | .SALES_ORDER =>
      { status := (deriveOrderStatus lines).2.getD source.status
        fulfilStatus := (deriveOrderStatus lines).1
        lines }

/-- Some lines settled on given quantities, and the document with them. -/
def SourceDocument.settle (kind : SourceKind) (source : SourceDocument) (touched : ℕ → Bool)
    (billed : ℕ → Quantity) : SourceDocument :=
  source.rollUp kind (source.lines.mapIdx fun index line =>
    if touched index then line.settle kind (billed index) else line)

/-- Every line settled on what the posted bills take of it. -/
def rederive (kind : SourceKind) (bills : List SaleBill) (source : SourceDocument) : SourceDocument :=
  source.settle kind (fun _ => true) (billedOf kind bills)

/-- The lines `syncOrderFulfilment` is handed, and those that carry billed quantity. -/
def touchedBy (bills : List SaleBill) (named : List SaleBillItem) (line : ℕ) : Bool :=
  named.any (·.line = line) ||
    bills.any fun bill => bill.sbStatus = .POSTED && bill.items.any (·.line = line)

def syncOrderFulfilment (bills : List SaleBill) (named : List SaleBillItem) (source : SourceDocument) :
    SourceDocument :=
  source.settle .SALES_ORDER (touchedBy bills named) (billedOf .SALES_ORDER bills)

/-! ## Settling twice -/

@[simp] theorem SourceLine.settle_settle (kind : SourceKind) (line : SourceLine) (billed : Quantity) :
    (line.settle kind billed).settle kind billed = line.settle kind billed := by
  cases kind with
  | DELIVERY_CHALLAN => rfl
  | SALES_ORDER =>
      simp only [SourceLine.settle]
      by_cases short : line.netQty - billed - line.returnedQty < 0
      · have settled : ¬billed + line.returnedQty - billed - line.returnedQty < 0 := by
          rw [add_sub_cancel_left, sub_self]
          exact lt_irrefl 0
        simp only [if_pos short, if_neg settled]
      · simp only [if_neg short]

theorem rollUp_rollUp (kind : SourceKind) (source : SourceDocument) (lines : List SourceLine) :
    (source.rollUp kind lines).rollUp kind lines = source.rollUp kind lines := by
  cases kind with
  | DELIVERY_CHALLAN => rfl
  | SALES_ORDER =>
      simp only [SourceDocument.rollUp]
      cases (deriveOrderStatus lines).2 <;> rfl

@[simp] theorem rollUp_lines (kind : SourceKind) (source : SourceDocument) (lines : List SourceLine) :
    (source.rollUp kind lines).lines = lines := by
  cases kind <;> rfl

/-- What was re-derived is what a re-derivation gives. -/
theorem rederive_rederive (kind : SourceKind) (bills : List SaleBill) (source : SourceDocument) :
    rederive kind bills (rederive kind bills source) = rederive kind bills source := by
  have lines : (rederive kind bills source).lines.mapIdx (fun index line =>
      line.settle kind (billedOf kind bills index)) = (rederive kind bills source).lines := by
    simp only [rederive, SourceDocument.settle, rollUp_lines, if_true, List.mapIdx_mapIdx]
    congr 1
    funext index line
    exact SourceLine.settle_settle kind line _
  have same : rederive kind bills (rederive kind bills source) =
      (rederive kind bills source).rollUp kind ((rederive kind bills source).lines.mapIdx
        fun index line => line.settle kind (billedOf kind bills index)) := by
    simp only [rederive, SourceDocument.settle, if_true]
  rw [same, lines]
  simp only [rederive, SourceDocument.settle, rollUp_lines]
  exact rollUp_rollUp kind source _

/-! ## Bills side by side on one source

The posts, amendments and cancellations of bills drawn from one order or challan,
statement by statement.  Each holds its own bill's header.  The guard reads the source's
lines without a lock.  At the end the source is derived again: an order's header is locked
first, a challan's lines are summed by the statement that then waits for them. -/

open Lib.Interleaving

/-- The sources and the bills. -/
structure SourceTables where
  source : SourceDocument
  bills : List SaleBill
  deriving DecidableEq, Repr

inductive SourceLock where
  | bill (id : ℕ)
  | source
  deriving DecidableEq, Repr

/-- What is done to a bill.  An amendment leaves it other lines, and deletes rows; a row
it neither keeps nor deletes now names another source. -/
inductive BillVerb where
  | post
  | amend (items retired : List SaleBillItem)
  | cancel
  deriving DecidableEq, Repr

/-- What a transaction is at: `next` is the bill as it will leave it, `prior` the lines it
had, `source` the order as the transaction itself wrote it. -/
inductive BillTask where
  | start (bill : ℕ) (verb : BillVerb)
  | locked (bill : ℕ) (verb : BillVerb)
  | guarding (bill : ℕ) (next : SaleBill)
  | checked (bill : ℕ) (next : SaleBill)
  | summed (bill : ℕ) (next : SaleBill) (billed : List Quantity)
  | derived (bill : ℕ) (next : SaleBill) (billed : List Quantity)
  | ordered (bill : ℕ) (next : SaleBill)
  | amending (bill : ℕ) (next : SaleBill) (prior : List SaleBillItem)
  | released (bill : ℕ) (next : SaleBill) (prior : List SaleBillItem)
  | guardingOwn (bill : ℕ) (next : SaleBill) (source : SourceDocument)
  | synced (bill : ℕ) (next : SaleBill) (source : SourceDocument)
  deriving DecidableEq, Repr

/-- A bill as its transaction leaves it. -/
def SourceTables.withBill (tables : SourceTables) (bill : ℕ) (next : SaleBill) : List SaleBill :=
  tables.bills.modify bill fun _ => next

/-- The order or challan may be billed. -/
def SourceDocument.billable (kind : SourceKind) (source : SourceDocument) : Bool :=
  match kind with
  | .SALES_ORDER => source.status = .CONFIRMED || source.status = .PARTIAL
  | .DELIVERY_CHALLAN => source.status = .POSTED

/-- What the guard adds up of a line: the quantities billed, of the lines named by id. -/
def takenOf (items : List SaleBillItem) (line : ℕ) : Quantity :=
  ((items.filter fun item => item.srcItem && item.line = line).map (·.sbiBillQty)).sum

/-- `guardSources`: the source may be billed, and each line named has what is taken of it
open, to half a thousandth. -/
def guardSources (kind : SourceKind) (source : SourceDocument) (items : List SaleBillItem) : Bool :=
  let named := match kind with
    | .SALES_ORDER => items
    | .DELIVERY_CHALLAN => items.filter (·.srcItem)
  (named.isEmpty || source.billable kind) &&
    (items.filter (·.srcItem)).all fun item =>
      match source.lines[item.line]? with
      | some line => (takenOf items item.line : ℚ) ≤ line.openQty + 1 / 2
      | none => false

/-- What the posted bills take of each line of a source. -/
def billedOfEach (kind : SourceKind) (source : SourceDocument) (bills : List SaleBill) : List Quantity :=
  (List.range source.lines.length).map (billedOf kind bills)

/-- A challan as the re-derivation writes it: the sums, then the statuses from the rows. -/
def recomputeOne (source : SourceDocument) (billed : List Quantity) : SourceDocument :=
  source.settle .DELIVERY_CHALLAN (fun _ => true) fun line => billed.getD line 0

/-- The next statement of a transaction on a bill.  Refusals that read nothing kept here
(rights, settings, stock, the money side) are rollbacks. -/
def billProgram (kind : SourceKind) : Program SourceTables Unit BillTask SourceLock :=
  fun tables _ task =>
    match task with
    | .start bill verb => .lock (.bill bill) (.locked bill verb)
    | .locked bill verb =>
        match tables.bills[bill]? with
        | none => .abort
        | some row =>
            match verb with
            | .post =>
                if row.sbStatus = .DRAFT then .goTo (.guarding bill { row with sbStatus := .POSTED })
                else .abort
            | .amend items retired =>
                if row.sbStatus = .POSTED then
                  let next : SaleBill := ⟨.POSTED, items, row.retired ++ retired⟩
                  match kind with
                  | .DELIVERY_CHALLAN => .goTo (.guarding bill next)
                  | .SALES_ORDER => .goTo (.amending bill next row.items)
                else .abort
            | .cancel =>
                if row.sbStatus = .POSTED then .goTo (.checked bill { row with sbStatus := .CANCELLED })
                else .abort
    | .guarding bill next =>
        if guardSources kind tables.source next.items then .goTo (.checked bill next) else .abort
    | .checked bill next =>
        match kind with
        | .DELIVERY_CHALLAN =>
            if next.names then
              -- The statement begins here and sees what is committed now.
              .goTo (.summed bill next (billedOfEach kind tables.source (tables.withBill bill next)))
            else .commit { tables with bills := tables.withBill bill next }
        | .SALES_ORDER => .lock .source (.ordered bill next)
    | .summed bill next billed => .lock .source (.derived bill next billed)
    | .derived bill next billed =>
        .commit ⟨recomputeOne tables.source billed, tables.withBill bill next⟩
    | .ordered bill next =>
        let bills := tables.withBill bill next
        .commit ⟨syncOrderFulfilment bills next.items tables.source, bills⟩
    | .amending bill next prior => .lock .source (.released bill next prior)
    | .released bill next prior =>
        -- The bill is a draft again while its lines are saved.
        let bills := tables.withBill bill { next with sbStatus := .DRAFT }
        .goTo (.guardingOwn bill next (syncOrderFulfilment bills (prior ++ next.items) tables.source))
    | .guardingOwn bill next source =>
        if guardSources kind source next.items then .goTo (.synced bill next source) else .abort
    | .synced bill next source =>
        let bills := tables.withBill bill next
        .commit ⟨syncOrderFulfilment bills next.items source, bills⟩

/-- The bill a transaction leaves once it holds the source: a draft, while an order's bill
is amended. -/
def BillTask.leaves : BillTask → Option (ℕ × SaleBill)
  | summed bill next _ => some (bill, next)
  | ordered bill next => some (bill, next)
  | released bill next _ => some (bill, { next with sbStatus := .DRAFT })
  | synced bill next _ => some (bill, next)
  | _ => none

/-- With a bill left so, what is billed and returned of a line is within it. -/
def SourceTables.fits (tables : SourceTables) (kind : SourceKind) (bill : ℕ) (next : SaleBill)
    (index : ℕ) (line : SourceLine) : Prop :=
  billedOf kind (tables.withBill bill next) index + line.returnedQty ≤ line.qty

instance (tables : SourceTables) (kind : SourceKind) (bill : ℕ) (next : SaleBill) (index : ℕ)
    (line : SourceLine) : Decidable (tables.fits kind bill next index line) :=
  inferInstanceAs (Decidable (_ ≤ _))

/-- What a bill takes of a line as it is committed. -/
def SourceTables.takesNow (tables : SourceTables) (kind : SourceKind) (bill index : ℕ) : Quantity :=
  (tables.bills[bill]?.map (SaleBill.takes kind index)).getD 0

/-- Of each line a bill takes no more than before, or no more than is left. -/
def SourceTables.Room (tables : SourceTables) (kind : SourceKind) (bill : ℕ) (next : SaleBill) : Prop :=
  ∀ entry ∈ tables.source.lines.zipIdx,
    next.takes kind entry.2 ≤ tables.takesNow kind bill entry.2 ∨
      tables.fits kind bill next entry.2 entry.1

instance (tables : SourceTables) (kind : SourceKind) (bill : ℕ) (next : SaleBill) :
    Decidable (tables.Room kind bill next) :=
  inferInstanceAs (Decidable (∀ entry ∈ tables.source.lines.zipIdx, _ ∨ _))

/-- The bill takes something of the source as it is committed. -/
def SourceTables.drawsNow (tables : SourceTables) (kind : SourceKind) (bill : ℕ) : Bool :=
  (List.range tables.source.lines.length).any fun index => tables.takesNow kind bill index ≠ 0

/-- When a challan's lines are got hold of, what was summed is still what is committed;
when the source is held, it has room for the bill; and a bill that names a challan no
longer took nothing of it. -/
structure UpToDate (kind : SourceKind) (tables : SourceTables) (now : Unit) (task : BillTask) : Prop where
  summed : ∀ bill next billed, task = .summed bill next billed →
    billed = billedOfEach kind tables.source (tables.withBill bill next)
  room : ∀ bill next, task.leaves = some (bill, next) → tables.Room kind bill next
  named : ∀ bill next, task = .checked bill next → kind = .DELIVERY_CHALLAN →
    next.names = true ∨ tables.drawsNow kind bill = false

/-- What was summed is still what is committed, and what is left alone took nothing. -/
def sumsStand (kind : SourceKind) (tables : SourceTables) : BillTask → Bool
  | .summed bill next billed => billed = billedOfEach kind tables.source (tables.withBill bill next)
  | .checked bill next => kind = .SALES_ORDER || next.names || !tables.drawsNow kind bill
  | _ => true

/-- The condition, computed. -/
def upToDate (kind : SourceKind) (tables : SourceTables) (task : BillTask) : Bool :=
  sumsStand kind tables task && task.leaves.all fun left => decide (tables.Room kind left.1 left.2)

theorem upToDate_iff {kind : SourceKind} {tables : SourceTables} {now : Unit} {task : BillTask} :
    upToDate kind tables task = true ↔ UpToDate kind tables now task := by
  rw [upToDate, Bool.and_eq_true, Option.all_eq_true]
  constructor
  · rintro ⟨stands, room⟩
    constructor
    · rintro bill next billed rfl
      exact of_decide_eq_true stands
    · intro bill next leaves
      exact of_decide_eq_true (room (bill, next) leaves)
    · rintro bill next rfl rfl
      simpa [sumsStand] using stands
  · rintro ⟨summed, room, named⟩
    constructor
    · cases task with
      | summed bill next billed => exact decide_eq_true (summed bill next billed rfl)
      | checked bill next =>
          cases kind with
          | SALES_ORDER => rfl
          | DELIVERY_CHALLAN => simpa [sumsStand] using named bill next rfl rfl
      | _ => rfl
    · intro left leaves
      exact decide_eq_true (room left.1 left.2 leaves)

instance (kind : SourceKind) (tables : SourceTables) (now : Unit) (task : BillTask) :
    Decidable (UpToDate kind tables now task) :=
  decidable_of_iff (upToDate kind tables task = true) upToDate_iff

/-- A line of a new order or challan: what it is for and what came back of it. -/
structure OpenLine where
  qty : Quantity
  returnedQty : Quantity
  within : returnedQty ≤ qty

/-- A source nothing is billed of, and its bills in draft. -/
def sourceTables (kind : SourceKind) (status : SourceStatus) (lines : List OpenLine)
    (drafts : List (List SaleBillItem)) : SourceTables where
  source := rederive kind []
    { status
      fulfilStatus := .OPEN
      lines := lines.map fun line => ⟨line.qty, line.qty, 0, line.returnedQty, .OPEN⟩ }
  bills := drafts.map fun items => { sbStatus := .DRAFT, items }

/-- Transactions on the bills that have not begun. -/
def billServer (tables : SourceTables) (transactions : List (ℕ × BillVerb)) :
    Server SourceTables BillTask SourceLock :=
  ⟨tables, (transactions.map fun entry => BillTask.start entry.1 entry.2).map fun task => ⟨some task, []⟩⟩

end ErpServer.Sales
