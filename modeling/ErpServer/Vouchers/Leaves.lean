import ErpServer.Lib.Rendering
import ErpServer.Vouchers.Derive

/-!
# Cheque leaves promised by a derivation

A payment's cheque takes the next leaf of its book, counted on across the cheque lines of the
voucher.  The counts are kept under the input object, so a second derivation of the object
starts where the first ended.
-/

namespace ErpServer.Vouchers

open Lib
open Receipt (Decimal DrCr)

variable (cases : Text.CaseMapping)

/-! ## A derivation with leaves promised before it -/

/-- The loop over the lines, with these leaves promised. -/
def deriveLinesFrom (promised : Promised) (input : DeriveInput) : LineRun :=
  (sortedLines input).foldl (deriveLine cases input) ⟨[], promised, [],
    if input.lines = [] then [ofHeader .NO_LINES "Type at least one line" "lines"] else []⟩

def deriveFromRun (run : LineRun) (input : DeriveInput) : Except DeriveFault Derived := do
  let one ← deriveTdsOne cases input (readParty cases input) run.typed
  let many ← deriveTdsMany cases input run.typed
  let bands := bandsFrom cases run input one many
  let billwise ← deriveBills input
    (settlementModeOf cases bands.typed (bands.ledgerIds input.type)) (bands.lines input.type)
  .ok (assemble input bands billwise)

/-- A derivation, and the leaves the input holds promised after it, whatever becomes of it. -/
def deriveFrom (promised : Promised) (input : DeriveInput) :
    Except DeriveFault Derived × Promised :=
  let run := deriveLinesFrom cases promised input
  (deriveFromRun cases run input, run.promised)

/-- An object derived for the first time holds no promise. -/
theorem deriveFrom_empty (input : DeriveInput) :
    (deriveFrom cases .empty input).1 = derive cases input := by
  have same : deriveLinesFrom cases .empty input = deriveLines cases input := rfl
  rw [deriveFrom, same, deriveFromRun, derive, deriveBands, bind_assoc]
  apply bind_congr
  intro one
  rw [bind_assoc]
  rfl

/-- The second derivation of an object. -/
def deriveAgain (input : DeriveInput) : Except DeriveFault Derived :=
  (deriveFrom cases (deriveFrom cases .empty input).2 input).1

/-! ## The leaves of a voucher -/

/-- A leaf a voucher draws: the row of its line, its book and its number. -/
structure Leaf where
  row : ℕ
  book : ChequeBookFacts
  number : Text

namespace InternalInstrument

/-- The leaf an instrument draws, if it is a cheque issued. -/
def leaf (ins : InternalInstrument) : Option Leaf :=
  ins.chequeBook.bind fun book => ins.nextLeaf.map fun number => ⟨ins.lineRowNo, book, number⟩

end InternalInstrument

def InternalLeg.leaf (leg : InternalLeg) : Option Leaf :=
  if leg.source = .INSTRUMENT then leg.instrument.bind InternalInstrument.leaf else none

/-- The leaves of a voucher, in the order of its instruments. -/
def leavesOf (derived : Derived) : List Leaf :=
  derived.voucher.legs.filterMap InternalLeg.leaf

/-- The leaves drawn from a book. -/
def leavesOfBook (bookId : Uuid) (leaves : List Leaf) : List Leaf :=
  leaves.filter fun leaf => leaf.book.chequeBookId = bookId

/-- Leaves in row order, each the next of its book and within it, and none drawn twice. -/
structure LeavesInOrder (leaves : List Leaf) : Prop where
  byRows : leaves.Pairwise fun earlier later => earlier.row < later.row
  consecutive : ∀ bookId index leaf, (leavesOfBook bookId leaves)[index]? = some leaf →
    leaf.number = formatLeaf (leaf.book.nextLeaf + index) leaf.book.leafWidth ∧
      leaf.book.nextLeaf + index ≤ leaf.book.leafTo
  distinct : leaves.Pairwise fun earlier later =>
    earlier.book = later.book → earlier.number ≠ later.number

/-- A line of a payment whose cheque finds a leaf: the bank it is drawn on is live, and its book
is open, of that bank and not past its last leaf. -/
structure DrawsLeaf (input : DeriveInput) (line : TypedLineInput) : Prop where
  known : ∃ ledger, input.ledgers line.ledgerId = some ledger
  takesInstruments : input.type.instruments = true
  payment : input.type.partySide = .DR
  debited : line.drCr = .DR
  cheque : ∃ ins tender bankId bank book,
    line.instrument = some ins ∧
    input.tenders ins.tenderId = some tender ∧ tender.isDeleted = false ∧
    tender.companyId = input.company.companyId ∧ tender.isActive = true ∧
    tender.typeId = CHEQUE_TENDER_TYPE_ID ∧ tender.isCash = false ∧
    ins.bankLedgerId = some bankId ∧ input.ledgers bankId = some bank ∧
    isBankLedger cases bank = true ∧ bank.isActive = true ∧ bank.isDeleted = false ∧
    ins.chequeBookId.bind input.chequeBooks = some book ∧ book.isDeleted = false ∧
    book.companyId = input.company.companyId ∧ book.bankLedgerId = bank.ledId ∧
    book.status = .ACTIVE ∧ book.nextLeaf ≤ book.leafTo

/-- No line draws a leaf, among those that are the first of their row number. -/
def NoLeafDrawn (input : DeriveInput) : Prop :=
  ∀ before line after, sortedLines input = before ++ line :: after →
    line.rowNo ∉ before.map (·.rowNo) → ¬DrawsLeaf cases input line

end ErpServer.Vouchers
