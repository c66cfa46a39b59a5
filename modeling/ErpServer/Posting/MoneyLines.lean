import ErpServer.Receipt.Types
import ErpServer.Lib.ListSum

/-!
# A tender for every money line

The ledger of a line says where the money sits, the tender row how it moved.  A voucher's
lines on cash and bank ledgers are summed by ledger and side and held against the tender
rows that cover the voucher; what is short is labelled with a tender of the server's
choice, or reported.
-/

namespace ErpServer.Posting

open Lib
open Receipt (Decimal DrCr money)

abbrev Uuid := ℕ

abbrev Instant := ℤ

/-- A ledger and the side a line is on. -/
abbrev LedgerSide := Uuid × DrCr

/-! ## Masters -/

inductive LedgerType where
  | CASH
  | BANK
  | OTHER
  deriving DecidableEq, Repr

structure Ledger where
  ledId : Uuid
  ledName : String
  ledgerType : LedgerType
  deriving DecidableEq, Repr

structure TenderMaster where
  tndId : Uuid
  companyId : Uuid
  /-- `none` is a tender of the whole company. -/
  branchId : Option Uuid
  typeId : ℕ
  ledgerId : Uuid
  isActive : Bool
  isDeleted : Bool
  isDefault : Bool
  displayPosition : ℤ
  createdOn : Instant
  deriving DecidableEq, Repr

structure Masters where
  ledgers : List Ledger
  tenders : List TenderMaster
  deriving DecidableEq, Repr

def CASH_TENDER_TYPE_ID : ℕ := 1

def CHEQUE_TENDER_TYPE_ID : ℕ := 5

def BANK_TENDER_TYPE_ID : ℕ := 6

/-! ## The voucher -/

inductive SrcModule where
  | TILL
  | SALES
  | ACCOUNTS
  | OTHER
  deriving DecidableEq, Repr

inductive SrcDocType where
  | SALE_BILL_RETENDER
  | OTHER
  deriving DecidableEq, Repr

/-- How the server may label a bank line that nothing covers. -/
inductive BankTender where
  | BANK
  | CHEQUE
  deriving DecidableEq, Repr

/-- A tender the document itself named for a ledger and side. -/
structure NamedTender where
  ledgerId : Uuid
  drCr : DrCr
  tenderId : Uuid
  deriving DecidableEq, Repr

structure MoneyLineScope where
  voucherId : Uuid
  companyId : Uuid
  branchId : Uuid
  srcModule : Option SrcModule
  srcDocType : Option SrcDocType
  srcDocId : Option Uuid
  partyId : Option Uuid
  bankTender : Option BankTender
  tenders : List NamedTender
  docLabel : Option String
  deriving DecidableEq, Repr

/-- A leg that moves money. -/
structure MoneyLeg where
  ledgerId : Option Uuid
  drCr : DrCr
  amount : Decimal
  deriving DecidableEq, Repr

namespace MoneyLineScope

/-- The tender row a re-tender's contra voided. -/
def replaced (scope : MoneyLineScope) : Option Uuid :=
  if scope.srcDocType = some .SALE_BILL_RETENDER then scope.srcDocId else none

/-- The document behind the voucher. -/
def ownDoc (scope : MoneyLineScope) : Option Uuid :=
  if scope.replaced.isSome then none else scope.srcDocId

end MoneyLineScope

def srcModuleOf : Option SrcModule → SrcModule
  | some .TILL => .TILL
  | some .SALES => .SALES
  | _ => .ACCOUNTS

/-! ## Tender rows -/

inductive TenderSrcDocType where
  | VOUCHER
  | OTHER
  deriving DecidableEq, Repr

def MONEY_LINE_SRC_DOC_TYPE : TenderSrcDocType := .VOUCHER

/-- A tender row of a document. -/
structure TenderDetail where
  tdId : Uuid
  srcModule : SrcModule
  srcDocType : TenderSrcDocType
  srcDocId : Uuid
  rowNo : ℕ
  partyLedgerId : Uuid
  voucherId : Option Uuid
  replacesId : Option Uuid
  tenderId : Uuid
  tenderTypeId : ℕ
  tenderLedgerId : Uuid
  settleLedgerId : Option Uuid
  drCr : DrCr
  amount : Decimal
  totalAmt : Decimal
  isDeleted : Bool
  deriving DecidableEq, Repr

namespace TenderDetail

/-- The ledgers a row covers: the one it names, and its settlement ledger. -/
def names (row : TenderDetail) (ledgerId : Uuid) : Bool :=
  row.tenderLedgerId = ledgerId || row.settleLedgerId = some ledgerId

/-- A row that is the voucher's own, that replaced the one its contra voided, or that is
the document's own and claimed by no other voucher. -/
def isLinked (scope : MoneyLineScope) (row : TenderDetail) : Bool :=
  !row.isDeleted &&
    (row.voucherId = some scope.voucherId || row.srcDocId = scope.voucherId ||
      (scope.replaced.isSome && row.replacesId = scope.replaced) ||
      (scope.ownDoc = some row.srcDocId && row.voucherId = none))

end TenderDetail

/-- What a row that is linked to the voucher covers of a ledger side. -/
def linkedAmount (scope : MoneyLineScope) (key : LedgerSide) (row : TenderDetail) : Decimal :=
  if row.isLinked scope && row.names key.1 && decide (row.drCr = key.2) then row.amount else 0

/-- The row a contra voided covers the side the contra credits it back on. -/
def voidedAmount (key : LedgerSide) (row : TenderDetail) : Decimal :=
  if row.tenderLedgerId = key.1 ∧ row.drCr.flip = key.2 then row.amount else 0

/-- The row a re-tender's contra voided, deleted or not. -/
def voidedRow (table : List TenderDetail) (scope : MoneyLineScope) : Option TenderDetail :=
  scope.replaced.bind fun replaced => table.find? fun row => row.tdId = replaced

/-- The amounts of the rows that cover the voucher, for one ledger and side. -/
def coveredAmount (table : List TenderDetail) (scope : MoneyLineScope) (key : LedgerSide) :
    Decimal :=
  (table.map (linkedAmount scope key)).sum + (voidedRow table scope).elim 0 (voidedAmount key)

/-! ## The tender of a line -/

inductive MoneyLineCode where
  | MONEY_LINE_NO_TENDER
  | NO_TENDER_FOR_LEDGER
  deriving DecidableEq, Repr

structure PickRefusal where
  code : MoneyLineCode
  message : String
  deriving DecidableEq, Repr

structure TenderPick where
  tenderId : Uuid
  typeId : ℕ
  deriving DecidableEq, Repr

/-- The branch's own tenders first, then the default ones, by position and by age. -/
def TenderMaster.before (first second : TenderMaster) : Bool :=
  if first.branchId.isNone ≠ second.branchId.isNone then second.branchId.isNone
  else if first.isDefault ≠ second.isDefault then first.isDefault
  else if first.displayPosition ≠ second.displayPosition then
    first.displayPosition < second.displayPosition
  else first.createdOn ≤ second.createdOn

/-- The tender the server may put on a line nothing covers, or why it may not. -/
def tenderFor (masters : Masters) (scope : MoneyLineScope) (ledger : Ledger) :
    Except PickRefusal TenderPick :=
  if ledger.ledgerType = .BANK ∧ scope.bankTender = none then
    .error ⟨.MONEY_LINE_NO_TENDER, ledger.ledName ++
      " is a bank ledger: its line names the tender it moved by (Bank / NEFT or a " ++
      "cheque) — pick the money side from the tender list"⟩
  else
    let typeId :=
      if ledger.ledgerType = .CASH then CASH_TENDER_TYPE_ID
      else if scope.bankTender = some .CHEQUE then CHEQUE_TENDER_TYPE_ID
      else BANK_TENDER_TYPE_ID
    let rows := masters.tenders.filter fun tender =>
      tender.companyId = scope.companyId &&
        (tender.branchId = none || tender.branchId = some scope.branchId) &&
        tender.typeId = typeId && tender.isActive && !tender.isDeleted &&
        (typeId ≠ BANK_TENDER_TYPE_ID || tender.ledgerId = ledger.ledId)
    match rows.insertionSort (fun first second => first.before second) with
    | [] =>
        let kind := if typeId = CASH_TENDER_TYPE_ID then "CASH"
          else if typeId = BANK_TENDER_TYPE_ID then "BANK" else "CHEQUE"
        .error ⟨.NO_TENDER_FOR_LEDGER,
          if typeId = BANK_TENDER_TYPE_ID then
            ledger.ledName ++ " has no BANK tender: create its tender in Tender Master (e.g. \"" ++
              ledger.ledName ++ " – NEFT/IMPS\")"
          else "No active " ++ kind ++ " tender in this branch for " ++ ledger.ledName ++
            ": create it in Tender Master"⟩
    | first :: rest =>
        if typeId = BANK_TENDER_TYPE_ID ∧ rest ≠ [] then
          .error ⟨.MONEY_LINE_NO_TENDER, "More than one BANK tender points at " ++
            ledger.ledName ++ ": the line must name which one"⟩
        else .ok ⟨first.tndId, typeId⟩

/-- A tender the document named. -/
def namedTender (masters : Masters) (tenderId : Uuid) : Except PickRefusal TenderPick :=
  match masters.tenders.find? fun tender => tender.tndId = tenderId && !tender.isDeleted with
  | some row => .ok ⟨tenderId, row.typeId⟩
  | none => .error ⟨.MONEY_LINE_NO_TENDER, s!"Tender {tenderId} is not a live tender"⟩

def pickTender (masters : Masters) (scope : MoneyLineScope) (key : LedgerSide) (ledger : Ledger) :
    Except PickRefusal TenderPick :=
  match scope.tenders.find? fun named => named.ledgerId = key.1 && named.drCr = key.2 with
  | some named => namedTender masters named.tenderId
  | none => tenderFor masters scope ledger

/-- Who the money went to or came from: the voucher's party, else the biggest leg on the
other side, else the line's own ledger. -/
def counterpartOf (legs : List MoneyLeg) (partyId : Option Uuid) (key : LedgerSide) : Uuid :=
  match partyId with
  | some party => party
  | none =>
      let best := legs.foldl (fun best leg =>
        match leg.ledgerId with
        | none => best
        | some ledgerId =>
            if leg.drCr = key.2 ∨ ledgerId = key.1 then best
            else
              match best with
              | none => some (ledgerId, leg.amount)
              | some held => if held.2 < leg.amount then some (ledgerId, leg.amount) else best)
        (none : Option (Uuid × Decimal))
      (best.map Prod.fst).getD key.1

/-! ## Labelling the lines -/

/-- A money line the server could not label. -/
structure MoneyLineGap where
  ledgerId : Uuid
  ledgerName : String
  ledgerType : LedgerType
  drCr : DrCr
  amount : Decimal
  code : MoneyLineCode
  message : String
  deriving DecidableEq, Repr

def MoneyLineGap.key (gap : MoneyLineGap) : LedgerSide := (gap.ledgerId, gap.drCr)

/-- The legs that move an amount on a ledger, under the ledger and side. -/
def postings (legs : List MoneyLeg) : List (LedgerSide × Decimal) :=
  legs.filterMap fun leg =>
    if leg.amount = 0 then none
    else leg.ledgerId.map fun ledgerId => ((ledgerId, leg.drCr), leg.amount)

/-- What the legs come to, by ledger and side. -/
def needs (legs : List MoneyLeg) : OrderedMap LedgerSide Decimal :=
  OrderedMap.empty.accumulate (postings legs)

/-- A ledger that is one of the cash and bank ledgers. -/
def moneyLedger (masters : Masters) (ledgerId : Uuid) : Option Ledger :=
  masters.ledgers.find? fun ledger =>
    ledger.ledId = ledgerId && (ledger.ledgerType = .CASH || ledger.ledgerType = .BANK)

def nextRowNo (table : List TenderDetail) (scope : MoneyLineScope) : ℕ :=
  ((table.filter fun row =>
    row.srcDocId = scope.voucherId && row.srcDocType = MONEY_LINE_SRC_DOC_TYPE).map
      (·.rowNo)).foldr max 0 + 1

/-- The id of a new row, which no row and no document of the scope has. -/
def freshId (table : List TenderDetail) (scope : MoneyLineScope) : Uuid :=
  (table.map (·.tdId)).sum + scope.srcDocId.getD 0 + 1

/-- What the lines labelled so far have left. -/
structure Labelling where
  table : List TenderDetail
  gaps : List MoneyLineGap
  rowNo : ℕ
  written : ℕ
  deriving DecidableEq, Repr

/-- The row the server writes for what is short. -/
def moneyLineRow (scope : MoneyLineScope) (legs : List MoneyLeg) (labelling : Labelling)
    (key : LedgerSide) (short : Decimal) (pick : TenderPick) : TenderDetail where
  tdId := freshId labelling.table scope
  srcModule := srcModuleOf scope.srcModule
  srcDocType := MONEY_LINE_SRC_DOC_TYPE
  srcDocId := scope.voucherId
  rowNo := labelling.rowNo
  partyLedgerId := counterpartOf legs scope.partyId key
  voucherId := some scope.voucherId
  replacesId := none
  tenderId := pick.tenderId
  tenderTypeId := pick.typeId
  tenderLedgerId := key.1
  settleLedgerId := none
  drCr := key.2
  amount := short
  totalAmt := short
  isDeleted := false

section Cover

variable (masters : Masters) (scope : MoneyLineScope) (legs : List MoneyLeg)

/-- One ledger side, held against what covered the voucher before anything was written. -/
def labelLine (covered : LedgerSide → Decimal) (labelling : Labelling)
    (need : LedgerSide × Decimal) : Labelling :=
  match moneyLedger masters need.1.1 with
  | none => labelling
  | some ledger =>
      let short := money (need.2 - covered need.1)
      if short ≤ 0 then labelling
      else
        match pickTender masters scope need.1 ledger with
        | .error refusal =>
            { labelling with
              gaps := labelling.gaps ++ [⟨need.1.1, ledger.ledName, ledger.ledgerType, need.1.2,
                short, refusal.code, refusal.message⟩] }
        | .ok pick =>
            { labelling with
              table := labelling.table ++ [moneyLineRow scope legs labelling need.1 short pick]
              rowNo := labelling.rowNo + 1
              written := labelling.written + 1 }

/-- The loop over the ledger sides.  With none of them on a cash or bank ledger the source
returns early, with what the loop returns. -/
def labelLines (table : List TenderDetail) : Labelling :=
  (needs legs).entries.foldl (labelLine masters scope legs (coveredAmount table scope))
    ⟨table, [], nextRowNo table scope, 0⟩

structure Covered where
  written : ℕ
  gaps : List MoneyLineGap
  deriving DecidableEq, Repr

structure MoneyLineErrorDetail where
  field : String
  code : MoneyLineCode
  message : String
  deriving DecidableEq, Repr

structure Unprocessable where
  message : String
  errors : List MoneyLineErrorDetail
  deriving DecidableEq, Repr

/-- The refusal of an accounts document. -/
def refusalOf (gaps : List MoneyLineGap) : Unprocessable :=
  ⟨scope.docLabel.getD "The voucher" ++ " has a cash / bank line with no tender",
    gaps.map fun gap => ⟨"tender", gap.code, gap.message⟩⟩

/-- Gaps refuse an accounts document; the counter is never refused. -/
def coverMoneyLines (table : List TenderDetail) :
    Except Unprocessable (List TenderDetail × Covered) :=
  let labelling := labelLines masters scope legs table
  if labelling.gaps ≠ [] ∧ scope.srcModule ≠ some .SALES then
    .error (refusalOf scope labelling.gaps)
  else .ok (labelling.table, ⟨labelling.written, labelling.gaps⟩)

end Cover

/-- The rows the server wrote for a restated voucher's old legs go first. -/
def retireMoneyLineRows (table : List TenderDetail) (voucherId : Uuid) : List TenderDetail :=
  table.map fun row =>
    if row.voucherId = some voucherId ∧ row.srcDocType = MONEY_LINE_SRC_DOC_TYPE then
      { row with isDeleted := true }
    else row

end ErpServer.Posting

namespace ErpServer.Posting

open Lib
open Receipt (Decimal DrCr money paisa paise)

/-! ## What the labelling writes

The loop over the ledger sides writes a row for every side that is short and has a tender,
and a gap for every side that is short and has none.  The rows it writes cover the sides
they are for and nothing else. -/

/-! ## The sides that are short -/

/-- The cash and bank sides the legs move, with what they come to. -/
def moneySides (masters : Masters) (legs : List MoneyLeg) : List (LedgerSide × Decimal) :=
  (needs legs).entries.filter fun need => (moneyLedger masters need.1.1).isSome

/-- What covers the voucher falls short of a side by. -/
def shortage (table : List TenderDetail) (scope : MoneyLineScope) (need : LedgerSide × Decimal) :
    Decimal :=
  need.2 - coveredAmount table scope need.1

/-- A side that has a tender, named or picked. -/
def hasTender (masters : Masters) (scope : MoneyLineScope) (key : LedgerSide) : Bool :=
  match moneyLedger masters key.1 with
  | none => false
  | some ledger => (pickTender masters scope key ledger).isOk

def TenderDetail.key (row : TenderDetail) : LedgerSide := (row.tenderLedgerId, row.drCr)

/-- A row of the kind the server writes for a voucher's line. -/
structure IsMoneyLineRow (scope : MoneyLineScope) (row : TenderDetail) : Prop where
  ofVoucher : row.voucherId = some scope.voucherId
  srcDocType : row.srcDocType = MONEY_LINE_SRC_DOC_TYPE
  settles : row.settleLedgerId = none
  live : row.isDeleted = false
  unvoided : scope.replaced ≠ some row.tdId

section Run

variable (masters : Masters) (scope : MoneyLineScope) (legs : List MoneyLeg)
  (covered : LedgerSide → Decimal)

/-- The sides of some that get a row. -/
def labelled (sides : List (LedgerSide × Decimal)) : List (LedgerSide × Decimal) :=
  sides.filter fun need => (moneyLedger masters need.1.1).isSome &&
    decide (0 < money (need.2 - covered need.1)) && hasTender masters scope need.1

/-- The sides of some that get a gap. -/
def unlabelled (sides : List (LedgerSide × Decimal)) : List (LedgerSide × Decimal) :=
  sides.filter fun need => (moneyLedger masters need.1.1).isSome &&
    decide (0 < money (need.2 - covered need.1)) && !hasTender masters scope need.1

/-- What a run of the loop over some sides adds to where it started. -/
structure Labels (start : Labelling) (sides : List (LedgerSide × Decimal)) (reached : Labelling)
    (rows : List TenderDetail) : Prop where
  table : reached.table = start.table ++ rows
  amounts : rows.map (fun row => (row.key, row.amount)) =
    (labelled masters scope covered sides).map fun need =>
      (need.1, money (need.2 - covered need.1))
  gaps : reached.gaps.map (·.key) =
    start.gaps.map (·.key) ++ (unlabelled masters scope covered sides).map Prod.fst
  written : reached.written = start.written + rows.length
  kind : ∀ row ∈ rows, IsMoneyLineRow scope row
  fresh : ∀ row ∈ rows, row.tdId ∉ start.table.map (·.tdId)

theorem freshId_not_mem (table : List TenderDetail) :
    freshId table scope ∉ table.map (·.tdId) := by
  intro member
  have bound : freshId table scope ≤ (table.map (·.tdId)).sum :=
    List.single_le_sum (fun _ _ => Nat.zero_le _) _ member
  exact absurd bound (not_le.mpr (Nat.lt_succ_of_le (Nat.le_add_right _ _)))

theorem freshId_unvoided (table : List TenderDetail) :
    scope.replaced ≠ some (freshId table scope) := by
  intro voided
  unfold MoneyLineScope.replaced at voided
  split at voided
  · have beyond : scope.srcDocId.getD 0 < freshId table scope :=
      Nat.lt_succ_of_le (Nat.le_add_left _ _)
    rw [voided, Option.getD_some] at beyond
    exact lt_irrefl _ beyond
  · cases voided

variable {masters scope legs covered}

variable (scope legs) in
theorem moneyLineRow_kind (labelling : Labelling) (key : LedgerSide) (short : Decimal)
    (pick : TenderPick) :
    IsMoneyLineRow scope (moneyLineRow scope legs labelling key short pick) where
  ofVoucher := rfl
  srcDocType := rfl
  settles := rfl
  live := rfl
  unvoided := freshId_unvoided scope labelling.table

theorem Labels.nil (start : Labelling) : Labels masters scope covered start [] start [] where
  table := (List.append_nil _).symm
  amounts := rfl
  gaps := (List.append_nil _).symm
  written := rfl
  kind := fun _ member => absurd member List.not_mem_nil
  fresh := fun _ member => absurd member List.not_mem_nil

variable (legs) in
/-- What one side does, by whether it is short and whether it has a tender. -/
theorem labelLine_cases (start : Labelling) (need : LedgerSide × Decimal) :
    (labelled masters scope covered [need] = [] ∧ unlabelled masters scope covered [need] = [] ∧
        labelLine masters scope legs covered start need = start) ∨
      (labelled masters scope covered [need] = [] ∧
        unlabelled masters scope covered [need] = [need] ∧
        ∃ gap : MoneyLineGap, gap.key = need.1 ∧
          labelLine masters scope legs covered start need =
            { start with gaps := start.gaps ++ [gap] }) ∨
      (labelled masters scope covered [need] = [need] ∧
        unlabelled masters scope covered [need] = [] ∧
        ∃ pick, labelLine masters scope legs covered start need =
          { start with
            table := start.table ++ [moneyLineRow scope legs start need.1
              (money (need.2 - covered need.1)) pick]
            rowNo := start.rowNo + 1
            written := start.written + 1 }) := by
  cases ledger : moneyLedger masters need.1.1 with
  | none =>
      left
      simp [labelled, unlabelled, labelLine, ledger]
  | some found =>
      by_cases short : 0 < money (need.2 - covered need.1)
      · cases picked : pickTender masters scope need.1 found with
        | error refusal =>
            right
            left
            refine ⟨?_, ?_, ⟨need.1.1, found.ledName, found.ledgerType, need.1.2,
              money (need.2 - covered need.1), refusal.code, refusal.message⟩, rfl, ?_⟩
            · simp [labelled, hasTender, ledger, picked, Except.isOk, Except.toBool]
            · simp [unlabelled, hasTender, ledger, picked, short, Except.isOk, Except.toBool]
            · simp [labelLine, ledger, picked, not_le.mpr short]
        | ok pick =>
            right
            right
            refine ⟨?_, ?_, pick, ?_⟩
            · simp [labelled, hasTender, ledger, picked, short, Except.isOk, Except.toBool]
            · simp [unlabelled, hasTender, ledger, picked, Except.isOk, Except.toBool]
            · simp [labelLine, ledger, picked, not_le.mpr short]
      · left
        simp [labelled, unlabelled, labelLine, ledger, short, not_lt.mp short]

theorem labelled_cons (need : LedgerSide × Decimal) (rest : List (LedgerSide × Decimal)) :
    labelled masters scope covered (need :: rest) =
      labelled masters scope covered [need] ++ labelled masters scope covered rest := by
  simp only [labelled, List.filter_cons, List.filter_nil]
  split <;> rfl

theorem unlabelled_cons (need : LedgerSide × Decimal) (rest : List (LedgerSide × Decimal)) :
    unlabelled masters scope covered (need :: rest) =
      unlabelled masters scope covered [need] ++ unlabelled masters scope covered rest := by
  simp only [unlabelled, List.filter_cons, List.filter_nil]
  split <;> rfl

theorem labels_run (start : Labelling) (sides : List (LedgerSide × Decimal)) :
    ∃ rows, Labels masters scope covered start sides
      (sides.foldl (labelLine masters scope legs covered) start) rows := by
  induction sides generalizing start with
  | nil => exact ⟨[], Labels.nil start⟩
  | cons need rest ih =>
      rw [List.foldl_cons]
      rcases labelLine_cases legs start need with
        ⟨noRow, noGap, same⟩ | ⟨noRow, gapped, gap, key, reached⟩ | ⟨rowed, noGap, pick, reached⟩
      · obtain ⟨rows, labels⟩ := ih start
        rw [same]
        refine ⟨rows, labels.table, ?_, ?_, labels.written, labels.kind, labels.fresh⟩
        · rw [labelled_cons, noRow]
          exact labels.amounts
        · rw [unlabelled_cons, noGap]
          exact labels.gaps
      · rw [reached]
        obtain ⟨rows, labels⟩ := ih { start with gaps := start.gaps ++ [gap] }
        refine ⟨rows, labels.table, ?_, ?_, labels.written, labels.kind, labels.fresh⟩
        · rw [labelled_cons, noRow]
          exact labels.amounts
        · rw [unlabelled_cons, gapped, labels.gaps]
          simp [key]
      · rw [reached]
        obtain ⟨rows, labels⟩ := ih _
        have kind := moneyLineRow_kind scope legs start need.1
          (money (need.2 - covered need.1)) pick
        have fresh := freshId_not_mem scope start.table
        refine ⟨moneyLineRow scope legs start need.1 (money (need.2 - covered need.1)) pick :: rows,
          ?_, ?_, ?_, ?_, ?_, ?_⟩
        · rw [labels.table, List.append_assoc]
          rfl
        · rw [labelled_cons, rowed, List.map_cons, labels.amounts]
          rfl
        · rw [unlabelled_cons, noGap]
          exact labels.gaps
        · rw [labels.written, List.length_cons]
          change start.written + 1 + rows.length = start.written + (rows.length + 1)
          omega
        · intro row member
          cases List.mem_cons.mp member with
          | inl same =>
              rw [same]
              exact kind
          | inr later => exact labels.kind row later
        · intro row member
          cases List.mem_cons.mp member with
          | inl same =>
              rw [same]
              exact fresh
          | inr later =>
              intro earlier
              apply labels.fresh row later
              rw [List.map_append]
              exact List.mem_append_left _ earlier

/-! ## What the new rows cover -/

/-- A row of the server's own covers the side it is for, in full. -/
theorem linkedAmount_of_kind {row : TenderDetail} (kind : IsMoneyLineRow scope row)
    (key : LedgerSide) :
    linkedAmount scope key row = if row.key = key then row.amount else 0 := by
  have linked : row.isLinked scope = true := by
    simp [TenderDetail.isLinked, kind.live, kind.ofVoucher]
  have named : (row.names key.1 && decide (row.drCr = key.2)) = decide (row.key = key) := by
    rw [Bool.eq_iff_iff]
    simp [TenderDetail.names, kind.settles, TenderDetail.key, Prod.ext_iff]
  rw [linkedAmount, linked, Bool.true_and, named]
  simp

variable {rows table : List TenderDetail}

theorem voidedRow_append (kind : ∀ row ∈ rows, IsMoneyLineRow scope row) :
    voidedRow (table ++ rows) scope = voidedRow table scope := by
  unfold voidedRow
  cases replaced : scope.replaced with
  | none => rfl
  | some voided =>
      have unvoided : rows.find? (fun row => row.tdId = voided) = none := by
        apply List.find?_eq_none.mpr
        intro row member same
        apply (kind row member).unvoided
        rw [replaced, of_decide_eq_true same]
      rw [Option.bind_some, Option.bind_some, List.find?_append, unvoided, Option.or_none]

/-- Rows of the server's own add what they are for. -/
theorem coveredAmount_append (kind : ∀ row ∈ rows, IsMoneyLineRow scope row) (key : LedgerSide) :
    coveredAmount (table ++ rows) scope key =
      coveredAmount table scope key +
        OrderedMap.totalOf key (rows.map fun row => (row.key, row.amount)) := by
  have added : (rows.map (linkedAmount scope key)).sum =
      OrderedMap.totalOf key (rows.map fun row => (row.key, row.amount)) := by
    have each : rows.map (linkedAmount scope key) =
        rows.map fun row => if row.key = key then row.amount else 0 :=
      List.map_congr_left fun row member => linkedAmount_of_kind (kind row member) key
    rw [each, OrderedMap.totalOf, List.filter_map, List.map_map]
    have summed := ListSum.sum_ite_filter rows (·.amount) fun row => row.key = key
    simp only [decide_eq_true_eq] at summed
    rw [summed]
    rfl
  rw [coveredAmount, coveredAmount, voidedRow_append kind, List.map_append, List.sum_append, added]
  ring

end Run

/-! ## The whole call -/

section Call

variable (masters : Masters) (scope : MoneyLineScope) (legs : List MoneyLeg)
  (table : List TenderDetail)

theorem needs_nodup : (needs legs).keys.Nodup :=
  OrderedMap.keys_accumulate_nodup (by simp) _

theorem moneySides_nodup : ((moneySides masters legs).map Prod.fst).Nodup :=
  (needs_nodup legs).sublist ((List.filter_sublist).map _)

/-- The sides a call gives a row. -/
def labelledSides : List (LedgerSide × Decimal) :=
  labelled masters scope (coveredAmount table scope) (needs legs).entries

/-- The sides a call gives a gap. -/
def unlabelledSides : List (LedgerSide × Decimal) :=
  unlabelled masters scope (coveredAmount table scope) (needs legs).entries

variable {masters scope legs table} {need : LedgerSide × Decimal}

theorem mem_labelledSides :
    need ∈ labelledSides masters scope legs table ↔
      need ∈ moneySides masters legs ∧ 0 < money (shortage table scope need) ∧
        hasTender masters scope need.1 = true := by
  simp [labelledSides, labelled, moneySides, shortage, and_assoc]

theorem mem_unlabelledSides :
    need ∈ unlabelledSides masters scope legs table ↔
      need ∈ moneySides masters legs ∧ 0 < money (shortage table scope need) ∧
        hasTender masters scope need.1 = false := by
  simp [unlabelledSides, unlabelled, moneySides, shortage, and_assoc]

variable (masters scope legs table) in
/-- A call writes its rows after those that were there. -/
theorem labelLines_spec : ∃ rows,
    Labels masters scope (coveredAmount table scope) ⟨table, [], nextRowNo table scope, 0⟩
      (needs legs).entries (labelLines masters scope legs table) rows :=
  labels_run _ _

/-- After a call a side is covered by what covered it, and by what it was labelled with. -/
theorem coveredAmount_labelled {rows : List TenderDetail}
    (labels : Labels masters scope (coveredAmount table scope)
      ⟨table, [], nextRowNo table scope, 0⟩ (needs legs).entries
      (labelLines masters scope legs table) rows)
    (member : need ∈ moneySides masters legs) :
    coveredAmount (labelLines masters scope legs table).table scope need.1 =
      coveredAmount table scope need.1 +
        if hasTender masters scope need.1 ∧ 0 < money (shortage table scope need) then
          money (shortage table scope need)
        else 0 := by
  rw [labels.table]
  change coveredAmount (table ++ rows) scope need.1 = _
  rw [coveredAmount_append labels.kind, labels.amounts]
  congr 1
  have sides : labelled masters scope (coveredAmount table scope) (needs legs).entries =
      labelledSides masters scope legs table := rfl
  rw [sides, OrderedMap.totalOf, List.filter_map, List.map_map]
  have nodup : ((labelledSides masters scope legs table).map Prod.fst).Nodup :=
    (needs_nodup legs).sublist ((List.filter_sublist).map _)
  split
  · case isTrue rowed =>
      have listed : need ∈ labelledSides masters scope legs table :=
        mem_labelledSides.mpr ⟨member, rowed.2, rowed.1⟩
      have one := ListSum.filter_key_eq nodup listed
      change (((labelledSides masters scope legs table).filter fun other =>
        other.1 = need.1).map _).sum = _
      rw [one]
      simp [shortage]
  · case isFalse unrowed =>
      have none : (labelledSides masters scope legs table).filter (fun other =>
          other.1 = need.1) = [] := by
        apply List.filter_eq_nil_iff.mpr
        intro other otherMem same
        obtain ⟨otherMoney, short, tender⟩ := mem_labelledSides.mp otherMem
        have equal : other = need := by
          have otherKey : other.1 = need.1 := of_decide_eq_true same
          exact List.inj_on_of_nodup_map (moneySides_nodup masters legs) otherMoney member otherKey
        subst equal
        exact unrowed ⟨tender, short⟩
      change (((labelledSides masters scope legs table).filter fun other =>
        other.1 = need.1).map _).sum = _
      rw [none]
      rfl

end Call

end ErpServer.Posting
