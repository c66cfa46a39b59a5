import Mathlib.Algebra.BigOperators.Group.List.Basic
import Mathlib.Algebra.Order.Field.Rat
import Mathlib.Data.List.Nodup
import Mathlib.Tactic.Abel
import ErpServer.Lib.Interleaving

/-!
# What a safe should hold

A safe is counted, and between two counts it should hold the last counted figure with
every flow stamped after that count.  A flow is a cash movement that names the safe, a
void of one, a bag received into it, or back-office cash on its ledger.
-/

namespace ErpServer.Till

abbrev Decimal := ℚ
abbrev Instant := ℤ

inductive TillMovementKind where
  | FLOAT_ISSUE | TOP_UP | PICKUP | DROP | CLOSE_HANDOVER | PAID_IN | REMIT | SAFE_TRANSFER | EXCHANGE
  deriving DecidableEq, Repr

inductive TillMovementStatus where
  | POSTED | VOIDED
  deriving DecidableEq, Repr

inductive TillReceiptStatus where
  | AWAITING | RECEIVED
  deriving DecidableEq, Repr

inductive TillRemitMode where
  | BANK_DEPOSIT | CIT
  deriving DecidableEq, Repr

inductive TillRemitStatus where
  | DEPOSITED | IN_TRANSIT | CONFIRMED
  deriving DecidableEq, Repr

/-- A cash movement that names the safe. -/
structure TillCashMovement where
  tcmKind : TillMovementKind
  /-- None for a movement of the cash office. -/
  tcmSessionId : Option ℕ := none
  tcmAmount : Decimal
  tcmCreatedOn : Instant
  tcmStatus : TillMovementStatus := .POSTED
  tcmVoidedOn : Option Instant := none
  /-- None where the cash goes straight into the safe. -/
  tcmReceiptStatus : Option TillReceiptStatus := none
  tcmReceivedOn : Option Instant := none
  tcmReceivedAmount : Option Decimal := none
  tcmRemitStatus : Option TillRemitStatus := none
  tcmVoucherId : Option ℕ := none
  deriving DecidableEq, Repr

/-- Cash of a back-office voucher on the safe's ledger. -/
structure OfficeCash where
  received : Bool
  tdTotalAmt : Decimal
  avhPostedOn : Instant
  avhCancelledOn : Option Instant := none
  deriving DecidableEq, Repr

inductive FlowCategory where
  | movement (kind : TillMovementKind)
  | MONEY_IN
  | MONEY_OUT
  deriving DecidableEq, Repr

inductive FlowEvent where
  | created | voided | received | posted | cancelled
  deriving DecidableEq, Repr

/-- Cash through the safe: what happened to which row, when, and how much. -/
structure Flow where
  row : ℕ
  event : FlowEvent
  cat : FlowCategory
  stamp : Instant
  amt : Decimal
  deriving DecidableEq, Repr

/-- A count of the safe, in the order of their ids. -/
structure TillCount where
  tctCountedOn : Instant
  tctTotalCounted : Decimal
  tctExpected : Decimal
  /-- The flows its expectation was made of: not stored, kept here to speak of them. -/
  inside : List Flow
  deriving DecidableEq, Repr

/-- What is committed of one safe. -/
structure SafeTables where
  movements : List TillCashMovement
  officeCash : List OfficeCash
  counts : List TillCount
  deriving DecidableEq, Repr

/-! ## The flows -/

/-- Into the safe, out of it, or neither. -/
def FlowCategory.inward : FlowCategory → Bool
  | movement .CLOSE_HANDOVER | movement .DROP | movement .PICKUP | MONEY_IN => true
  | _ => false

def FlowCategory.outward : FlowCategory → Bool
  | movement .FLOAT_ISSUE | movement .TOP_UP | movement .REMIT | movement .SAFE_TRANSFER
  | MONEY_OUT => true
  | _ => false

/-- A movement straight in or out is a flow at its creation and back at its void; a bag
that waited is one once received, for what was received. -/
def TillCashMovement.flows (movement : TillCashMovement) (row : ℕ) : List Flow :=
  let cat := FlowCategory.movement movement.tcmKind
  match movement.tcmReceiptStatus with
  | none =>
      if movement.tcmKind = .PAID_IN then []
      else ⟨row, .created, cat, movement.tcmCreatedOn, movement.tcmAmount⟩ ::
        movement.tcmVoidedOn.toList.map fun on => ⟨row, .voided, cat, on, -movement.tcmAmount⟩
  | some .AWAITING => []
  | some .RECEIVED =>
      if movement.tcmStatus = .POSTED then
        movement.tcmReceivedOn.toList.map fun on =>
          ⟨row, .received, cat, on, movement.tcmReceivedAmount.getD 0⟩
      else []

def OfficeCash.flows (cash : OfficeCash) (row : ℕ) : List Flow :=
  let cat := if cash.received then FlowCategory.MONEY_IN else .MONEY_OUT
  ⟨row, .posted, cat, cash.avhPostedOn, cash.tdTotalAmt⟩ ::
    cash.avhCancelledOn.toList.map fun on => ⟨row, .cancelled, cat, on, -cash.tdTotalAmt⟩

def SafeTables.flows (tables : SafeTables) : List Flow :=
  (tables.movements.zipIdx.flatMap fun entry => entry.1.flows entry.2) ++
    tables.officeCash.zipIdx.flatMap fun entry => entry.1.flows entry.2

def stampedAfter (after : Option Instant) (flow : Flow) : Bool := after.all (· < flow.stamp)

/-- The flows stamped after an instant: all of them where there is none. -/
def flowsOf (tables : SafeTables) (after : Option Instant) : List Flow :=
  tables.flows.filter (stampedAfter after)

def inOf (flows : List Flow) : Decimal := ((flows.filter (·.cat.inward)).map (·.amt)).sum

def outOf (flows : List Flow) : Decimal := ((flows.filter (·.cat.outward)).map (·.amt)).sum

def netOf (flows : List Flow) : Decimal := inOf flows - outOf flows

/-! ## The expectation -/

/-- `ORDER BY tct_counted_on DESC, tct_id DESC`, the first. -/
def lastCount (counts : List TillCount) : Option TillCount :=
  counts.foldl (fun last count =>
    match last with
    | some before => if count.tctCountedOn < before.tctCountedOn then some before else some count
    | none => some count) none

/-- A count stamped no earlier than the last one is the last one. -/
theorem lastCount_append {counts : List TillCount} {count : TillCount}
    (later : ∀ last ∈ lastCount counts, last.tctCountedOn ≤ count.tctCountedOn) :
    lastCount (counts ++ [count]) = some count := by
  rw [lastCount, List.foldl_append, ← lastCount]
  cases found : lastCount counts with
  | none => rfl
  | some last =>
      have bound := later last found
      simp [not_lt.mpr bound]

/-- When the safe was last counted. -/
def SafeTables.lastCountedOn (tables : SafeTables) : Option Instant :=
  (lastCount tables.counts).map (·.tctCountedOn)

/-- What a safe should hold, and why. -/
structure SafeState where
  lastCount : Option TillCount
  opening : Decimal
  flows : List Flow
  expected : Decimal
  book : Decimal
  deriving DecidableEq, Repr

/-- The figures of a safe from its last count, its flows since and its book: before any
count the opening is the book less every flow, unless the ledger is shared. -/
def safeState (ledgerShared : Bool) (last : Option TillCount) (flows : List Flow)
    (book : Decimal) : SafeState :=
  let opening :=
    match last with
    | some count => count.tctTotalCounted
    | none => if ledgerShared then 0 else book - netOf flows
  { lastCount := last
    opening
    flows
    expected := opening + inOf flows - outOf flows
    book }

def stateOf (ledgerShared : Bool) (tables : SafeTables) (book : Decimal) : SafeState :=
  safeState ledgerShared (lastCount tables.counts) (flowsOf tables tables.lastCountedOn) book

theorem safeState_expected (ledgerShared : Bool) (last : Option TillCount) (flows : List Flow)
    (book : Decimal) : (safeState ledgerShared last flows book).expected =
      (safeState ledgerShared last flows book).opening + netOf flows := by
  simp only [safeState, netOf]
  abel

/-! ## No flow twice -/

theorem TillCashMovement.mem_flows {movement : TillCashMovement} {row : ℕ} {flow : Flow}
    (member : flow ∈ movement.flows row) : flow.row = row ∧ flow.event ≠ .posted ∧
      flow.event ≠ .cancelled := by
  simp only [flows] at member
  split at member
  · split at member
    · cases member
    · rcases List.mem_cons.mp member with rfl | voided
      · simp
      · obtain ⟨on, _, rfl⟩ := List.mem_map.mp voided
        simp
  · cases member
  · split at member
    · obtain ⟨on, _, rfl⟩ := List.mem_map.mp member
      simp
    · cases member

theorem TillCashMovement.nodup_flows (movement : TillCashMovement) (row : ℕ) :
    (movement.flows row).Nodup := by
  simp only [flows]
  split
  · split
    · exact List.nodup_nil
    · cases movement.tcmVoidedOn <;> simp
  · exact List.nodup_nil
  · split
    · cases movement.tcmReceivedOn <;> simp
    · exact List.nodup_nil

theorem OfficeCash.mem_flows {cash : OfficeCash} {row : ℕ} {flow : Flow}
    (member : flow ∈ cash.flows row) :
    flow.row = row ∧ (flow.event = .posted ∨ flow.event = .cancelled) := by
  simp only [flows] at member
  rcases List.mem_cons.mp member with rfl | cancelled
  · simp
  · obtain ⟨on, _, rfl⟩ := List.mem_map.mp cancelled
    simp

theorem OfficeCash.nodup_flows (cash : OfficeCash) (row : ℕ) : (cash.flows row).Nodup := by
  simp only [flows]
  cases cash.avhCancelledOn <;> simp

/-- Rows whose flows say which row they are of have no flow in common. -/
theorem nodup_flatMap_zipIdx {α : Type} {rows : List α} {flows : α → ℕ → List Flow}
    (nodup : ∀ row index, (flows row index).Nodup)
    (named : ∀ row index, ∀ flow ∈ flows row index, flow.row = index) :
    (rows.zipIdx.flatMap fun entry => flows entry.1 entry.2).Nodup := by
  apply List.nodup_flatMap.mpr
  constructor
  · intro entry _
    exact nodup entry.1 entry.2
  · have distinct : (rows.zipIdx.map Prod.snd).Nodup := by
      rw [List.zipIdx_map_snd]
      exact List.nodup_range'
    rw [List.Nodup, List.pairwise_map] at distinct
    apply distinct.imp
    intro first second different flow firstMember secondMember
    apply different
    exact (named _ _ flow firstMember).symm.trans (named _ _ flow secondMember)

theorem SafeTables.nodup_flows (tables : SafeTables) : tables.flows.Nodup := by
  rw [flows, List.nodup_append]
  refine ⟨?_, ?_, ?_⟩
  · apply nodup_flatMap_zipIdx
    · exact TillCashMovement.nodup_flows
    · intro movement row flow member
      exact (TillCashMovement.mem_flows member).1
  · apply nodup_flatMap_zipIdx
    · exact OfficeCash.nodup_flows
    · intro cash row flow member
      exact (OfficeCash.mem_flows member).1
  · intro flow member other otherMember same
    subst same
    obtain ⟨entry, _, ofMovement⟩ := List.mem_flatMap.mp member
    obtain ⟨cash, _, ofCash⟩ := List.mem_flatMap.mp otherMember
    have events := TillCashMovement.mem_flows ofMovement
    rcases (OfficeCash.mem_flows ofCash).2 with posted | cancelled
    · exact events.2.1 posted
    · exact events.2.2 cancelled

/-! ## A safe under READ COMMITTED

The transactions that move a safe's cash and those that count it, statement by statement.
A count and a remittance hold the safe's row `FOR UPDATE`; the void of a movement and its
receipt hold their session's row and not the safe's.  A new movement holds its session's,
and its INSERT takes the key-share lock of `fk_tcm_safe` on the safe's row, which waits for
a count and makes a count wait.  As it reads nothing more, inserts that share the lock
commit as if one waited for the other.  A stamp is the clock reading of the statement that
writes it, made before that statement waits, and the row it is on appears when the
transaction commits. -/

open Lib.Interleaving

/-- The rows a transaction locks. -/
inductive SafeLock where
  | safe
  | session (id : ℕ)
  | movement (row : ℕ)
  deriving DecidableEq, Repr

/-- What a transaction wrote to the movements. -/
inductive Change where
  | insert (movement : TillCashMovement)
  | void (row : ℕ) (on : Instant)
  | receive (row : ℕ) (on : Instant) (amount : Decimal)
  deriving DecidableEq, Repr

/-- Why the safe's figures are read under its lock. -/
inductive Purpose where
  | count (total : Decimal)
  | remit (amount : Decimal) (mode : TillRemitMode)
  deriving DecidableEq, Repr

/-- What a transaction is at. -/
inductive SafeTask where
  | post (session : ℕ) (kind : TillMovementKind) (amount : Decimal) (awaiting : Bool)
  | postLocked (session : ℕ) (kind : TillMovementKind) (amount : Decimal) (awaiting : Bool)
  | insertMovement (movement : TillCashMovement)
  | void (row : ℕ)
  | voidLocked (row : ℕ)
  | receive (bags : List (ℕ × Decimal))
  | receiving (bags : List (ℕ × Decimal)) (changes : List Change)
  | receivingSession (row : ℕ) (amount : Decimal) (rest : List (ℕ × Decimal)) (changes : List Change)
  | receivingLocked (row : ℕ) (amount : Decimal) (rest : List (ℕ × Decimal)) (changes : List Change)
  | reopen (session : ℕ)
  | reopenLocked (session : ℕ)
  | reopening (rows : List ℕ) (changes : List Change)
  | office (purpose : Purpose)
  | safeLocked (purpose : Purpose)
  | flowsRead (purpose : Purpose) (last : Option TillCount) (flows : List Flow)
  | stateRead (purpose : Purpose) (state : SafeState) (inside : List Flow)
  | counted (count : TillCount)
  | voidRemit (row : ℕ)
  | voidRemitLocked (row : ℕ)
  | voidRemitSafe (row : ℕ)
  | written (changes : List Change)
  deriving DecidableEq, Repr

/-- The safe's ledger: whether another safe posts to it, and what it held of its own. -/
structure SafeLedger where
  ledgerShared : Bool
  opening : Decimal
  deriving DecidableEq, Repr

/-- The ledger's balance: every flow was posted with a voucher. -/
def bookOf (safe : SafeLedger) (tables : SafeTables) : Decimal := safe.opening + netOf tables.flows

/-! ## Writes -/

def TillCashMovement.voided (movement : TillCashMovement) (on : Instant) : TillCashMovement :=
  { movement with tcmStatus := .VOIDED, tcmVoidedOn := some on }

def TillCashMovement.received (movement : TillCashMovement) (on : Instant) (amount : Decimal) :
    TillCashMovement :=
  { movement with
    tcmReceiptStatus := some .RECEIVED
    tcmReceivedOn := some on
    tcmReceivedAmount := some amount }

def Change.apply (tables : SafeTables) : Change → SafeTables
  | insert movement => { tables with movements := tables.movements ++ [movement] }
  | void row on => { tables with movements := tables.movements.modify row (·.voided on) }
  | receive row on amount =>
      { tables with movements := tables.movements.modify row (·.received on amount) }

def SafeTables.write (tables : SafeTables) (changes : List Change) : SafeTables :=
  changes.foldl Change.apply tables

/-- The kinds a session writes that name the safe. -/
def sessionKinds : List TillMovementKind :=
  [.FLOAT_ISSUE, .TOP_UP, .PICKUP, .DROP, .CLOSE_HANDOVER]

def RECEIPT_MOVEMENTS : List TillMovementKind := [.DROP, .CLOSE_HANDOVER]

def VOIDABLE_MOVEMENTS : List TillMovementKind := [.DROP, .PAID_IN, .EXCHANGE, .PICKUP, .TOP_UP]

/-- `postMovement`'s row. -/
def postedMovement (session : ℕ) (kind : TillMovementKind) (amount : Decimal) (awaiting : Bool)
    (now : Instant) : TillCashMovement where
  tcmKind := kind
  tcmSessionId := some session
  tcmAmount := amount
  tcmCreatedOn := now
  tcmReceiptStatus := if awaiting then some .AWAITING else none

/-- `postRemit`'s row. -/
def remittance (amount : Decimal) (mode : TillRemitMode) (now : Instant) : TillCashMovement where
  tcmKind := .REMIT
  tcmAmount := amount
  tcmCreatedOn := now
  tcmRemitStatus := match mode with
    | .CIT => some .IN_TRANSIT
    | .BANK_DEPOSIT => some .DEPOSITED

/-- A bag that still waits to be received. -/
def TillCashMovement.awaits (movement : TillCashMovement) : Bool :=
  movement.tcmReceiptStatus = some .AWAITING && movement.tcmStatus = .POSTED

/-- What a void under the session's lock asks of the row. -/
def TillCashMovement.voidable (movement : TillCashMovement) : Bool :=
  movement.tcmStatus = .POSTED && movement.tcmKind ∈ VOIDABLE_MOVEMENTS &&
    movement.tcmReceiptStatus ≠ some .RECEIVED

/-- What a void of a remittance asks of the row. -/
def TillCashMovement.remitVoidable (movement : TillCashMovement) : Bool :=
  movement.tcmKind = .REMIT && movement.tcmStatus = .POSTED &&
    movement.tcmRemitStatus ≠ some .CONFIRMED

/-- The live hand-overs of a session. -/
def handOvers (tables : SafeTables) (session : ℕ) : List (TillCashMovement × ℕ) :=
  tables.movements.zipIdx.filter fun entry =>
    entry.1.tcmSessionId = some session && entry.1.tcmStatus = .POSTED &&
      entry.1.tcmKind = .CLOSE_HANDOVER

/-! ## The statements -/

/-- The next statement of a transaction on the safe.  Refusals that read nothing kept here
(rights, reasons, a session's status, a closed day) are rollbacks. -/
def safeProgram (safe : SafeLedger) : Program SafeTables Instant SafeTask SafeLock :=
  fun tables now task =>
    match task with
    | .post session kind amount awaiting =>
        if kind ∉ sessionKinds ∨ awaiting ∧ kind ∉ RECEIPT_MOVEMENTS then .abort
        else .lock (.session session) (.postLocked session kind amount awaiting)
    | .postLocked session kind amount awaiting =>
        .goTo (.insertMovement (postedMovement session kind amount awaiting now))
    | .insertMovement movement => .lock .safe (.written [.insert movement])
    | .void row =>
        match tables.movements[row]?.bind (·.tcmSessionId) with
        | some session => .lock (.session session) (.voidLocked row)
        | none => .abort
    | .voidLocked row =>
        match tables.movements[row]? with
        | some movement =>
            if movement.voidable then .goTo (.written [.void row now]) else .abort
        | none => .abort
    | .receive bags =>
        if (bags.map (·.1)).Nodup then .goTo (.receiving bags []) else .abort
    | .receiving [] changes => .goTo (.written changes)
    | .receiving ((row, amount) :: rest) changes =>
        match tables.movements[row]?.bind (·.tcmSessionId) with
        | some session => .lock (.session session) (.receivingSession row amount rest changes)
        | none => .abort
    | .receivingSession row amount rest changes =>
        .lock (.movement row) (.receivingLocked row amount rest changes)
    | .receivingLocked row amount rest changes =>
        match tables.movements[row]? with
        | some movement =>
            if movement.awaits then .goTo (.receiving rest (.receive row now amount :: changes))
            else .abort
        | none => .abort
    | .reopen session => .lock (.session session) (.reopenLocked session)
    | .reopenLocked session =>
        let rows := handOvers tables session
        if rows.any fun entry => entry.1.tcmReceiptStatus = some .RECEIVED then .abort
        else .goTo (.reopening (rows.map (·.2)) [])
    | .reopening [] changes => .goTo (.written changes)
    | .reopening (row :: rest) changes => .goTo (.reopening rest (.void row now :: changes))
    | .office purpose => .lock .safe (.safeLocked purpose)
    | .safeLocked purpose =>
        .goTo (.flowsRead purpose (lastCount tables.counts) (flowsOf tables tables.lastCountedOn))
    | .flowsRead purpose last flows =>
        -- The book is read by a later statement, and before any count it is the expectation.
        let inside := if last = none ∧ !safe.ledgerShared then tables.flows else flows
        .goTo (.stateRead purpose (safeState safe.ledgerShared last flows (bookOf safe tables)) inside)
    | .stateRead (.count total) state inside =>
        .goTo (.counted ⟨now, total, state.expected, inside⟩)
    | .stateRead (.remit amount mode) state _ =>
        if amount ≤ 0 ∨ state.expected < amount then .abort
        else .goTo (.written [.insert (remittance amount mode now)])
    | .counted count => .commit { tables with counts := tables.counts ++ [count] }
    | .voidRemit row => .lock (.movement row) (.voidRemitLocked row)
    | .voidRemitLocked row =>
        match tables.movements[row]? with
        | some movement =>
            if movement.remitVoidable then .lock .safe (.voidRemitSafe row) else .abort
        | none => .abort
    | .voidRemitSafe row =>
        match tables.movements[row]? with
        | some movement =>
            if tables.counts.any (movement.tcmCreatedOn < ·.tctCountedOn) then .abort
            else .goTo (.written [.void row now])
        | none => .abort
    | .written changes => .commit (tables.write changes)

/-- What runs side by side. -/
inductive SafeTransaction where
  | post (session : ℕ) (kind : TillMovementKind) (amount : Decimal) (awaiting : Bool)
  | void (row : ℕ)
  | receive (bags : List (ℕ × Decimal))
  | reopen (session : ℕ)
  | count (total : Decimal)
  | remit (amount : Decimal) (mode : TillRemitMode)
  | voidRemit (row : ℕ)
  deriving DecidableEq, Repr

def SafeTransaction.task : SafeTransaction → SafeTask
  | post session kind amount awaiting => .post session kind amount awaiting
  | void row => .void row
  | receive bags => .receive bags
  | reopen session => .reopen session
  | count total => .office (.count total)
  | remit amount mode => .office (.remit amount mode)
  | voidRemit row => .voidRemit row

/-- A safe nothing has moved or counted, and transactions that have not begun. -/
def safeServer (officeCash : List OfficeCash) (transactions : List SafeTransaction) :
    Server SafeTables SafeTask SafeLock :=
  ⟨⟨[], officeCash, []⟩, (transactions.map SafeTransaction.task).map fun task => ⟨some task, []⟩⟩

/-! ## Stamps in the order of the commits -/

/-- The stamps of the flows a change brings. -/
def Change.stamps (tables : SafeTables) : Change → List Instant
  | insert movement => (movement.flows 0).map (·.stamp)
  | void row on =>
      (tables.movements[row]?.toList.filter fun movement => movement.tcmReceiptStatus = none).map
        fun _ => on
  | receive _ on _ => [on]

/-- What a transaction about to commit wrote. -/
def SafeTask.changes : SafeTask → List Change
  | written changes => changes
  | _ => []

def SafeTask.count : SafeTask → Option TillCount
  | counted count => some count
  | _ => none

/-- What moves cash commits flows stamped after the last count; a count that commits is
stamped no earlier than the last one, at or after each flow it was made of, and before
each flow committed since it read. -/
structure Timely (tables : SafeTables) (now : Instant) (task : SafeTask) : Prop where
  flows : ∀ change ∈ task.changes, ∀ stamp ∈ change.stamps tables,
    ∀ last ∈ tables.lastCountedOn, last < stamp
  last : ∀ count ∈ task.count, ∀ last ∈ tables.lastCountedOn, last ≤ count.tctCountedOn
  cut : ∀ count ∈ task.count, ∀ flow ∈ flowsOf tables tables.lastCountedOn,
    (flow.stamp ≤ count.tctCountedOn ↔ flow ∈ count.inside)

instance (tables : SafeTables) (now : Instant) (task : SafeTask) :
    Decidable (Timely tables now task) :=
  decidable_of_iff
    ((∀ change ∈ task.changes, ∀ stamp ∈ change.stamps tables,
        ∀ last ∈ tables.lastCountedOn, last < stamp) ∧
      (∀ count ∈ task.count, ∀ last ∈ tables.lastCountedOn, last ≤ count.tctCountedOn) ∧
      ∀ count ∈ task.count, ∀ flow ∈ flowsOf tables tables.lastCountedOn,
        (flow.stamp ≤ count.tctCountedOn ↔ flow ∈ count.inside))
    ⟨fun ⟨flows, last, cut⟩ => ⟨flows, last, cut⟩, fun ⟨flows, last, cut⟩ => ⟨flows, last, cut⟩⟩

end ErpServer.Till
