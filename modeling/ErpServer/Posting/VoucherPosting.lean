import ErpServer.Lib.DoubleEntry
import ErpServer.Posting.MoneyLines

/-!
# Posting, restating and reversing a voucher

The one routine that writes a voucher: its header and its legs, posted together.  An amend
takes the header back to draft and retires its legs, so that the new ones go into the same
header.  A cancel writes the mirror voucher and marks the original.  A call that throws is
rolled back with its transaction.
-/

namespace ErpServer.Posting

open Lib
open Receipt (Decimal DrCr money toFixed)

/-- The epsilon of the source sends a tie away from zero, as exact figures go by themselves. -/
abbrev round2 (value : Decimal) : Decimal := money value

/-! ## What a document hands over -/

inductive SupplyNature where
  | INTRA
  | INTER
  deriving DecidableEq, Repr

/-- A line of a voucher: a role or an explicit ledger, a side and an amount. -/
structure VoucherLeg where
  role : Option String
  ledgerId : Option Uuid
  drCr : DrCr
  amount : Decimal
  taxId : Option Uuid
  supplyNature : Option SupplyNature
  remarks : Option String
  docId : Option Uuid
  docAccYear : Option String
  docRefno : Option String
  field : Option String
  roleTag : Option String
  oppLedgerId : Option Uuid
  deriving DecidableEq, Repr

/-- The document a voucher is written for; the three columns are set together. -/
structure SourceDoc where
  srcModule : String
  srcDocType : String
  srcDocId : Uuid
  deriving DecidableEq, Repr

structure VoucherHeaderInput where
  companyId : Uuid
  branchId : Uuid
  tenantId : Option Uuid
  accYear : String
  voucherTypeId : ℕ
  voucherDate : String
  source : Option SourceDoc
  docLabel : Option String
  docRefno : Option String
  docDate : Option String
  usrRefno : Option String
  docAmount : Decimal
  roundOff : Decimal
  partyId : Option Uuid
  userId : Uuid
  sessionId : Option Uuid
  deviceId : Option Uuid
  remarks : Option String
  /-- A number the document already holds. -/
  presetRefno : Option String
  presetNo : Option ℕ
  /-- Amend: the voucher taken back to draft. -/
  restateVoucherId : Option Uuid
  /-- The draft the register wrote. -/
  draftVoucherId : Option Uuid
  deriving DecidableEq, Repr

structure VoucherLegSource where
  header : VoucherHeaderInput
  legs : List VoucherLeg
  bankTender : Option BankTender
  /-- The document writes its tender rows after the legs. -/
  deferred : Bool
  deriving DecidableEq, Repr

/-- What a call reads of the masters, and the numbers it draws. -/
structure PostingFacts where
  masters : Masters
  roleLedger : String → Option Uuid → Option SupplyNature → Option Uuid
  /-- The type a mirror is numbered in. -/
  reversalTypeId : Option ℕ
  slno : ℕ
  lastNo : ℕ
  refno : String

/-! ## The tables -/

inductive VoucherStatus where
  | DRAFT
  | APPROVED
  | POSTED
  | CANCELLED
  deriving DecidableEq, Repr

def VoucherStatus.text : VoucherStatus → String
  | .DRAFT => "DRAFT"
  | .APPROVED => "APPROVED"
  | .POSTED => "POSTED"
  | .CANCELLED => "CANCELLED"

/-- A voucher in its year. -/
structure VoucherKey where
  voucherId : Uuid
  accYear : String
  deriving DecidableEq, Repr

/-- The header of a voucher. -/
structure VoucherHeader where
  voucherId : Uuid
  accYear : String
  companyId : Uuid
  branchId : Uuid
  tenantId : Option Uuid
  voucherTypeId : ℕ
  voucherNo : Option ℕ
  voucherSlno : Option ℕ
  voucherRefno : Option String
  voucherDate : String
  source : Option SourceDoc
  usrRefno : Option String
  docRefno : Option String
  docDate : String
  docAmount : Decimal
  roundOff : Decimal
  partyId : Option Uuid
  remarks : Option String
  /-- The voucher a mirror answers. -/
  against : Option VoucherKey
  reversal : Option VoucherKey
  status : VoucherStatus
  cancelReason : Option String
  userId : Uuid
  sessionId : Option Uuid
  deviceId : Option Uuid
  revisionNo : ℕ
  isDeleted : Bool
  deriving DecidableEq, Repr

def VoucherHeader.key (header : VoucherHeader) : VoucherKey := ⟨header.voucherId, header.accYear⟩

/-- The ledger of a leg, and the keys under it that a leg carries. -/
structure LegKey where
  ledgerId : Uuid
  oppLedgerId : Option Uuid
  costCentreId : Option Uuid
  docId : Option Uuid
  docRefno : Option String
  docAccYear : Option String
  role : Option String
  deriving DecidableEq, Repr

/-- What a leg books. -/
structure LegEntry where
  drCr : DrCr
  key : LegKey
  amount : Decimal
  deriving DecidableEq, Repr

/-- A leg as the table keeps it. -/
structure VoucherRow where
  voucherId : Uuid
  accYear : String
  companyId : Uuid
  branchId : Uuid
  tenantId : Option Uuid
  voucherTypeId : ℕ
  voucherNo : ℕ
  rowNo : ℕ
  voucherDate : String
  voucherRefno : String
  docDate : String
  entry : LegEntry
  remarks : Option String
  sessionId : Option Uuid
  userId : Uuid
  isDeleted : Bool
  deriving DecidableEq, Repr

def VoucherRow.voucherKey (row : VoucherRow) : VoucherKey := ⟨row.voucherId, row.accYear⟩

/-- The headers and rows of all vouchers. -/
structure PostingTables where
  headers : List VoucherHeader
  rows : List VoucherRow
  tenders : List TenderDetail
  deriving DecidableEq, Repr

namespace PostingTables

variable (tables : PostingTables)

/-- The legs of a voucher that are not retired. -/
def liveRows (key : VoucherKey) : List VoucherRow :=
  tables.rows.filter fun row => row.voucherKey = key && !row.isDeleted

/-- What the live legs of a voucher book. -/
def entries (key : VoucherKey) : List LegEntry := (tables.liveRows key).map (·.entry)

/-- A live header by its id and year. -/
def header? (key : VoucherKey) : Option VoucherHeader :=
  tables.headers.find? fun header => header.key = key && !header.isDeleted

/-- An id no header has. -/
def freshVoucherId : Uuid := (tables.headers.map (·.voucherId)).sum + 1

end PostingTables

/-- How the entries are read: by side and amount. -/
def entryReading : DoubleEntry.Reading LegEntry Decimal where
  isDebit entry := entry.drCr = .DR
  amount entry := entry.amount

instance (entries : List LegEntry) : Decidable (entryReading.Balanced entries) :=
  inferInstanceAs (Decidable (_ = _))

/-! ## Refusals -/

inductive PostConstraint where
  | ux_avh_src
  | ux_avh_doc_refno
  | ux_avh_voucher_no
  | ux_avh_voucher_slno
  | ux_av_voucher_row
  | ck_avh_balanced
  | ck_av_amount
  | ck_av_self
  | ck_av_doc_pair
  | not_null
  deriving DecidableEq, Repr

inductive PostFault where
  | noLegs (message : String)
  | unmapped (message : String) (fields : List String)
  | unnamed (message : String)
  | unbalanced (message : String)
  | notDraft (message : String)
  | noReversalType (message : String)
  | moneyLines (refusal : Unprocessable)
  /-- A constraint of the tables. -/
  | constraint (broken : PostConstraint)
  deriving DecidableEq, Repr

/-- What a refusal calls the document. -/
def describe (header : VoucherHeaderInput) : String :=
  let what := ((header.source.map (·.srcDocType)).or header.docLabel).getD "Voucher"
  let which := ((header.source.map fun source => toString source.srcDocId).or
    header.docRefno).getD ""
  if which = "" then what else what ++ " " ++ which

/-! ## Ledgers and sides -/

/-- Every role that nothing answers is reported at once. -/
def resolveLegLedgers (facts : PostingFacts) (header : VoucherHeaderInput)
    (legs : List VoucherLeg) : Except PostFault (List Uuid) :=
  let unmapped := legs.filter fun leg => leg.ledgerId.isNone &&
    leg.role.any fun role => (facts.roleLedger role leg.taxId leg.supplyNature).isNone
  if unmapped ≠ [] then
    .error (.unmapped (header.docLabel.getD "Bill" ++ " cannot be posted")
      (unmapped.map fun leg => (leg.field.or leg.role).getD ""))
  else
    legs.mapM fun leg =>
      match leg.ledgerId.or (leg.role.bind fun role =>
          facts.roleLedger role leg.taxId leg.supplyNature) with
      | some ledgerId => .ok ledgerId
      | none => .error (.unnamed ("A voucher leg names neither a role nor a ledger (" ++
          leg.field.getD "?" ++ ")"))

/-- A figure without the zeros it ends in. -/
def figureText (value : Decimal) : String :=
  String.ofList (((toFixed value).toList.reverse.dropWhile (· = '0')).dropWhile (· = '.')).reverse

/-- The amounts of a side, whatever their sign. -/
def sideOf (side : DrCr) (legs : List VoucherLeg) : Decimal :=
  ((legs.filter fun leg => leg.drCr = side).map fun leg => |leg.amount|).sum

/-- The debits and the credits. -/
structure Sides where
  dr : Decimal
  cr : Decimal
  deriving DecidableEq, Repr

def sumSides (legs : List VoucherLeg) : Sides :=
  ⟨round2 (sideOf .DR legs), round2 (sideOf .CR legs)⟩

def assertBalanced (header : VoucherHeaderInput) (legs : List VoucherLeg) :
    Except PostFault Unit :=
  let sides := sumSides legs
  if round2 sides.dr ≠ round2 sides.cr then
    let diff := round2 (sides.dr - sides.cr)
    .error (.unbalanced (describe header ++ " does not balance: debits " ++
      figureText (round2 sides.dr) ++ ", credits " ++ figureText (round2 sides.cr) ++ ", " ++
      (if 0 < diff then "debit" else "credit") ++ " heavy by " ++ figureText |diff|))
  else .ok ()

/-! ## Headers -/

/-- Two headers one of the unique indexes does not admit together. -/
def VoucherHeader.clash (held new : VoucherHeader) : Option PostConstraint :=
  if held.isDeleted || new.isDeleted || held.companyId ≠ new.companyId ||
      held.accYear ≠ new.accYear then none
  else if held.status ≠ .DRAFT ∧ new.status ≠ .DRAFT ∧ held.branchId = new.branchId ∧
      held.voucherTypeId = new.voucherTypeId ∧ held.voucherNo = new.voucherNo ∧
      new.voucherNo.isSome then some .ux_avh_voucher_no
  else if held.status ≠ .DRAFT ∧ new.status ≠ .DRAFT ∧ held.voucherSlno = new.voucherSlno ∧
      new.voucherSlno.isSome then some .ux_avh_voucher_slno
  else if held.status ≠ .CANCELLED ∧ new.status ≠ .CANCELLED ∧ held.source = new.source ∧
      new.source.isSome then some .ux_avh_src
  else if held.status ≠ .CANCELLED ∧ new.status ≠ .CANCELLED ∧ held.partyId = new.partyId ∧
      new.partyId.isSome ∧ held.voucherTypeId = new.voucherTypeId ∧
      held.docRefno = new.docRefno ∧ new.docRefno.isSome then some .ux_avh_doc_refno
  else none

namespace PostingTables

/-- A header goes in beside the others. -/
def insertHeader (tables : PostingTables) (new : VoucherHeader) :
    Except PostFault PostingTables :=
  match tables.headers.findSome? fun held => held.clash new with
  | some broken => .error (.constraint broken)
  | none => .ok { tables with headers := tables.headers ++ [new] }

/-- A posted header whose live legs do not balance is refused. -/
def checkBalanced (tables : PostingTables) (new : VoucherHeader) : Except PostFault Unit :=
  if new.status = .POSTED ∧ ¬entryReading.Balanced (tables.entries new.key) then
    .error (.constraint .ck_avh_balanced)
  else .ok ()

/-- A header as it is rewritten, in its own place. -/
def updateHeader (tables : PostingTables) (new : VoucherHeader) :
    Except PostFault PostingTables := do
  match (tables.headers.filter fun held => held.key ≠ new.key).findSome? fun held =>
      held.clash new with
  | some broken => .error (.constraint broken)
  | none =>
      tables.checkBalanced new
      .ok { tables with
        headers := tables.headers.map fun held => if held.key = new.key then new else held }

/-- The constraint a leg breaks, beside the legs there are. -/
def rowClash (tables : PostingTables) (row : VoucherRow) : Option PostConstraint :=
  if row.entry.amount ≤ 0 then some .ck_av_amount
  else if row.entry.key.oppLedgerId = some row.entry.key.ledgerId then some .ck_av_self
  else if row.entry.key.docId.isSome ≠ row.entry.key.docAccYear.isSome then some .ck_av_doc_pair
  else if (tables.liveRows row.voucherKey).any fun held => held.rowNo = row.rowNo then
    some .ux_av_voucher_row
  else none

/-- Legs go in together; the totals of their header follow, and its balance is checked. -/
def insertRows (tables : PostingTables) (header : VoucherHeader) (rows : List VoucherRow) :
    Except PostFault PostingTables :=
  match rows.findSome? tables.rowClash with
  | some broken => .error (.constraint broken)
  | none => do
      let after := { tables with rows := tables.rows ++ rows }
      after.checkBalanced header
      .ok after

end PostingTables

/-! ## Legs -/

/-- The number a voucher is written under. -/
structure VoucherNumber where
  refno : String
  lastNo : ℕ
  deriving DecidableEq, Repr

def legEntry (leg : VoucherLeg) (ledgerId : Uuid) : LegEntry where
  drCr := leg.drCr
  key :=
    { ledgerId := ledgerId
      oppLedgerId := leg.oppLedgerId
      costCentreId := none
      docId := leg.docId
      docRefno := leg.docRefno
      docAccYear := leg.docAccYear
      role := leg.roleTag.or leg.role }
  amount := round2 |leg.amount|

/-- The legs in their order, numbered from 1. -/
def legRows (doc : VoucherLegSource) (legs : List VoucherLeg) (ledgers : List Uuid)
    (voucherId : Uuid) (number : VoucherNumber) : List VoucherRow :=
  (legs.zip ledgers).mapIdx fun index entry =>
    { voucherId := voucherId
      accYear := doc.header.accYear
      companyId := doc.header.companyId
      branchId := doc.header.branchId
      tenantId := doc.header.tenantId
      voucherTypeId := doc.header.voucherTypeId
      voucherNo := number.lastNo
      rowNo := index + 1
      voucherDate := doc.header.voucherDate
      voucherRefno := number.refno
      docDate := doc.header.docDate.getD doc.header.voucherDate
      entry := legEntry entry.1 entry.2
      remarks := entry.1.remarks
      sessionId := doc.header.sessionId
      userId := doc.header.userId
      isDeleted := false }

def moneyModule (source : SourceDoc) : SrcModule :=
  if source.srcModule = "TILL" then .TILL
  else if source.srcModule = "SALES" then .SALES
  else if source.srcModule = "ACCOUNTS" then .ACCOUNTS
  else .OTHER

def moneyScope (doc : VoucherLegSource) (voucherId : Uuid) : MoneyLineScope where
  voucherId := voucherId
  companyId := doc.header.companyId
  branchId := doc.header.branchId
  srcModule := doc.header.source.map moneyModule
  srcDocType := doc.header.source.map fun source =>
    if source.srcDocType = "SALE_BILL_RETENDER" then .SALE_BILL_RETENDER else .OTHER
  srcDocId := doc.header.source.map (·.srcDocId)
  partyId := doc.header.partyId
  bankTender := doc.bankTender
  tenders := []
  docLabel := some (describe doc.header)

def moneyLegs (legs : List VoucherLeg) (ledgers : List Uuid) : List MoneyLeg :=
  (legs.zip ledgers).map fun entry => ⟨some entry.2, entry.1.drCr, |entry.1.amount|⟩

/-- An amend's legs are judged afresh: the tender rows written for the old ones go. -/
def insertLegs (facts : PostingFacts) (doc : VoucherLegSource) (legs : List VoucherLeg)
    (ledgers : List Uuid) (header : VoucherHeader) (number : VoucherNumber)
    (tables : PostingTables) : Except PostFault PostingTables := do
  let written ← tables.insertRows header (legRows doc legs ledgers header.voucherId number)
  let kept := if doc.header.restateVoucherId.isSome then
      retireMoneyLineRows written.tenders header.voucherId
    else written.tenders
  if doc.deferred then .ok { written with tenders := kept }
  else
    match coverMoneyLines facts.masters (moneyScope doc header.voucherId)
        (moneyLegs legs ledgers) kept with
    | .error refusal => .error (.moneyLines refusal)
    | .ok (tenders, _) => .ok { written with tenders := tenders }

/-! ## Posting -/

structure VoucherPostingResult where
  voucherId : Uuid
  voucherRefno : String
  voucherSlno : ℕ
  voucherLastNo : ℕ
  totalDebit : Decimal
  totalCredit : Decimal
  legCount : ℕ
  deriving DecidableEq, Repr

def postingResult (voucherId : Uuid) (slno : ℕ) (number : VoucherNumber)
    (legs : List VoucherLeg) : VoucherPostingResult :=
  ⟨voucherId, number.refno, slno, number.lastNo, (sumSides legs).dr, (sumSides legs).cr,
    legs.length⟩

/-- What the document may have changed, restated in its header. -/
def restated (doc : VoucherLegSource) (header : VoucherHeader) : VoucherHeader :=
  { header with
    voucherDate := doc.header.voucherDate
    usrRefno := doc.header.usrRefno
    docRefno := doc.header.docRefno
    docDate := doc.header.docDate.getD doc.header.voucherDate
    docAmount := round2 doc.header.docAmount
    roundOff := round2 doc.header.roundOff
    partyId := doc.header.partyId
    remarks := doc.header.remarks
    userId := doc.header.userId
    sessionId := doc.header.sessionId }

def reopened (doc : VoucherLegSource) (header : VoucherHeader) : VoucherHeader :=
  { restated doc header with revisionNo := header.revisionNo + 1 }

def VoucherHeader.posted (header : VoucherHeader) : VoucherHeader :=
  { header with status := .POSTED }

/-- The new legs into the header that was taken back to draft. -/
def restateLegs (facts : PostingFacts) (doc : VoucherLegSource) (legs : List VoucherLeg)
    (ledgers : List Uuid) (voucherId : Uuid) (tables : PostingTables) :
    Except PostFault (PostingTables × VoucherPostingResult) :=
  match (tables.header? ⟨voucherId, doc.header.accYear⟩).filter (·.status = .DRAFT) with
  | none => .error (.notDraft (describe doc.header ++ ": voucher " ++ toString voucherId ++
      " is not in DRAFT — retireForRestate must run first"))
  | some kept =>
      match kept.voucherNo, kept.voucherSlno, kept.voucherRefno with
      | some lastNo, some slno, some refno => do
          let again := reopened doc kept
          let opened ← tables.updateHeader again
          let written ← insertLegs facts doc legs ledgers again ⟨refno, lastNo⟩ opened
          let posted ← written.updateHeader again.posted
          .ok (posted, postingResult voucherId slno ⟨refno, lastNo⟩ legs)
      | _, _, _ => .error (.constraint .not_null)

/-- A draft under its number. -/
def numbered (facts : PostingFacts) (doc : VoucherLegSource) (draft : VoucherHeader) :
    VoucherHeader :=
  { restated doc draft with
    voucherTypeId := doc.header.voucherTypeId
    voucherNo := some facts.lastNo
    voucherSlno := some facts.slno
    voucherRefno := some facts.refno }

/-- The register's way in: the draft is numbered as it is posted. -/
def postIntoDraft (facts : PostingFacts) (doc : VoucherLegSource) (legs : List VoucherLeg)
    (ledgers : List Uuid) (voucherId : Uuid) (tables : PostingTables) :
    Except PostFault (PostingTables × VoucherPostingResult) :=
  let found := tables.header? ⟨voucherId, doc.header.accYear⟩
  match found.filter (·.status = .DRAFT) with
  | none => .error (.notDraft (describe doc.header ++ ": voucher " ++ toString voucherId ++
      " is " ++ (found.map (·.status.text)).getD "missing" ++ ", not a DRAFT"))
  | some draft => do
      let number : VoucherNumber := ⟨facts.refno, facts.lastNo⟩
      let written ← insertLegs facts doc legs ledgers draft number tables
      let posted ← written.updateHeader (numbered facts doc draft).posted
      .ok (posted, postingResult voucherId facts.slno number legs)

/-- The number the document holds already, or the one drawn. -/
def numberFor (facts : PostingFacts) (header : VoucherHeaderInput) : VoucherNumber :=
  match header.presetRefno.filter (· ≠ "") with
  | some refno => ⟨refno, header.presetNo.getD facts.slno⟩
  | none => ⟨facts.refno, facts.lastNo⟩

def newHeader (facts : PostingFacts) (doc : VoucherLegSource) (voucherId : Uuid) :
    VoucherHeader where
  voucherId := voucherId
  accYear := doc.header.accYear
  companyId := doc.header.companyId
  branchId := doc.header.branchId
  tenantId := doc.header.tenantId
  voucherTypeId := doc.header.voucherTypeId
  voucherNo := some (numberFor facts doc.header).lastNo
  voucherSlno := some facts.slno
  voucherRefno := some (numberFor facts doc.header).refno
  voucherDate := doc.header.voucherDate
  source := doc.header.source
  usrRefno := doc.header.usrRefno
  docRefno := doc.header.docRefno
  docDate := doc.header.docDate.getD doc.header.voucherDate
  docAmount := round2 doc.header.docAmount
  roundOff := round2 doc.header.roundOff
  partyId := doc.header.partyId
  remarks := doc.header.remarks
  against := none
  reversal := none
  status := .POSTED
  cancelReason := none
  userId := doc.header.userId
  sessionId := doc.header.sessionId
  deviceId := doc.header.deviceId
  revisionNo := 0
  isDeleted := false

/-- The legs that come to something. -/
def countedLegs (doc : VoucherLegSource) : List VoucherLeg :=
  doc.legs.filter fun leg => round2 leg.amount ≠ 0

/-- A header of its own, posted with its legs. -/
def postFresh (facts : PostingFacts) (doc : VoucherLegSource) (legs : List VoucherLeg)
    (ledgers : List Uuid) (tables : PostingTables) :
    Except PostFault (PostingTables × VoucherPostingResult) := do
  let header := newHeader facts doc tables.freshVoucherId
  let opened ← tables.insertHeader header
  let written ← insertLegs facts doc legs ledgers header (numberFor facts doc.header) opened
  .ok (written, postingResult header.voucherId facts.slno (numberFor facts doc.header) legs)

def postLegs (facts : PostingFacts) (doc : VoucherLegSource) (tables : PostingTables) :
    Except PostFault (PostingTables × VoucherPostingResult) :=
  let legs := countedLegs doc
  if legs = [] then .error (.noLegs (describe doc.header ++ " produced no voucher legs"))
  else do
    let ledgers ← resolveLegLedgers facts doc.header legs
    assertBalanced doc.header legs
    match doc.header.restateVoucherId, doc.header.draftVoucherId with
    | some voucherId, _ => restateLegs facts doc legs ledgers voucherId tables
    | none, some voucherId => postIntoDraft facts doc legs ledgers voucherId tables
    | none, none => postFresh facts doc legs ledgers tables

def VoucherHeader.drafted (header : VoucherHeader) : VoucherHeader :=
  { header with status := .DRAFT }

/-- Amend, step one: a posted voucher back to draft and its legs retired. -/
def retireForRestate (key : VoucherKey) (tables : PostingTables) : PostingTables × Bool :=
  match (tables.header? key).filter (·.status = .POSTED) with
  | none => (tables, false)
  | some _ =>
      ({ tables with
        headers := tables.headers.map fun header =>
          if header.key = key ∧ header.isDeleted = false ∧ header.status = .POSTED then
            header.drafted
          else header
        rows := tables.rows.map fun row =>
          if row.voucherKey = key ∧ row.isDeleted = false then { row with isDeleted := true }
          else row }, true)

/-! ## Reversing -/

def LegEntry.mirror (entry : LegEntry) : LegEntry := { entry with drCr := entry.drCr.flip }

def reversalRemarks (original : VoucherHeader) (reason : String) : String :=
  "Reversal of " ++ original.voucherRefno.getD (toString original.voucherId) ++ ": " ++ reason

def VoucherHeader.cancelled (header : VoucherHeader) (reason : String) : VoucherHeader :=
  { header with status := .CANCELLED, cancelReason := some reason }

def VoucherHeader.reversedBy (header : VoucherHeader) (mirror : VoucherKey) : VoucherHeader :=
  { header with reversal := some mirror }

/-- The mirror of a voucher: no source and no reference of its own, and what it answers. -/
def mirrorHeader (facts : PostingFacts) (typeId : ℕ) (reason : String)
    (original : VoucherHeader) (voucherId : Uuid) : VoucherHeader :=
  { original with
    voucherId := voucherId
    voucherTypeId := typeId
    voucherNo := some facts.lastNo
    voucherSlno := some facts.slno
    voucherRefno := some facts.refno
    source := none
    usrRefno := none
    docRefno := none
    remarks := some (reversalRemarks original reason)
    against := some original.key
    reversal := none
    status := .POSTED
    cancelReason := none
    revisionNo := 0
    isDeleted := false }

/-- A leg mirrored: the same ledger and the same amount on the other side. -/
def mirrorRow (facts : PostingFacts) (typeId : ℕ) (remarks : String) (voucherId : Uuid)
    (row : VoucherRow) : VoucherRow :=
  { row with
    voucherId := voucherId
    voucherTypeId := typeId
    voucherNo := facts.lastNo
    voucherRefno := facts.refno
    entry := row.entry.mirror
    remarks := some remarks
    isDeleted := false }

structure Reversed where
  voucherId : Uuid
  legCount : ℕ
  deriving DecidableEq, Repr

/-- The original leaves the live set first, then the mirror is written, then they are linked. -/
def reverseLegs (facts : PostingFacts) (key : VoucherKey) (reason : String)
    (tables : PostingTables) : Except PostFault (PostingTables × Option Reversed) :=
  match tables.header? key with
  | none => .ok (tables, none)
  | some original =>
      -- already reversed: a repeated cancel writes no second mirror
      if original.reversal.isSome ∨ original.status = .CANCELLED then .ok (tables, none)
      else do
        let left ← tables.updateHeader (original.cancelled reason)
        match facts.reversalTypeId with
        | none => .error (.noReversalType ("Voucher type 'Rev' is missing — apply migration " ++
            "20260925150000_reversal_voucher_type"))
        | some typeId =>
            let mirror := mirrorHeader facts typeId reason original left.freshVoucherId
            let opened ← left.insertHeader mirror
            let rows := (opened.liveRows key).map
              (mirrorRow facts typeId (reversalRemarks original reason) mirror.voucherId)
            let written ← opened.insertRows mirror rows
            let linked ← written.updateHeader
              ((original.cancelled reason).reversedBy mirror.key)
            .ok (linked, some ⟨mirror.voucherId, rows.length⟩)

end ErpServer.Posting
