import ErpServer.Vouchers.Facts

/-!
# What the voucher derivation reads and returns

A voucher is typed lines, a type whose rules say who the party is and what is generated, and
the facts of the masters.  A field no part of the derivation reads is left out.
-/

namespace ErpServer.Vouchers

open Lib
open Receipt (Decimal DrCr BillSettlementMode)

/-! ## Dates -/

/-- A calendar date, as its ISO text has it. -/
structure IsoDate where
  year : ℕ
  month : ℕ
  day : ℕ
  deriving DecidableEq, Repr

namespace IsoDate

/-- ISO texts compare as their years, then their months, then their days. -/
def before (left right : IsoDate) : Bool :=
  left.year < right.year ∨ (left.year = right.year ∧
    (left.month < right.month ∨ (left.month = right.month ∧ left.day < right.day)))

def isLeap (year : ℕ) : Bool := year % 4 = 0 ∧ (year % 100 ≠ 0 ∨ year % 400 = 0)

def daysIn (year month : ℕ) : ℕ :=
  if month = 2 then (if isLeap year then 29 else 28)
  else if month = 4 ∨ month = 6 ∨ month = 9 ∨ month = 11 then 30
  else 31

def next (date : IsoDate) : IsoDate :=
  if date.day < daysIn date.year date.month then { date with day := date.day + 1 }
  else if date.month < 12 then ⟨date.year, date.month + 1, 1⟩
  else ⟨date.year + 1, 1, 1⟩

def addDays (date : IsoDate) (days : ℕ) : IsoDate := Nat.iterate next days date

/-- The April to March year a date falls in. -/
def accYearOfDate (date : IsoDate) : String :=
  let start := if 4 ≤ date.month then date.year else date.year - 1
  toString start ++ "-" ++ toString (start + 1)

private def padded (width : ℕ) (number : ℕ) : String :=
  String.ofList (List.leftpad width '0' (toString number).toList)

def text (date : IsoDate) : String :=
  padded 4 date.year ++ "-" ++ padded 2 date.month ++ "-" ++ padded 2 date.day

end IsoDate

/-! ## Refusals -/

inductive VoucherErrorCode where
  | UNBALANCED | NO_LINES | LINE_AMOUNT | LEDGER_SIDE | LEDGER_INACTIVE | LEDGER_NOT_FOUND
  | INSTRUMENT_LEDGER | PARTY_MODE | PARTY_NOT_FOUND | BILLWISE_SHORT | BILL_OVERSPENT
  | BILL_NOT_FOUND | BILL_WRONG_PARTY | BILL_WRONG_SIDE | ALLOCATION_LINE | PERIOD_LOCKED
  | YEAR_CLOSED | GST_RATE_MISSING | GST_LEDGER_UNMAPPED | GST_LEDGER_TYPED | GST_NOT_ALLOWED
  | TDS_UNMAPPED | TDS_RATE_MISSING | TDS_BELOW_THRESHOLD | BACKDATED | DUP_DOC_REFNO
  | DOC_REFNO_REQUIRED | INVALID | INSTRUMENT_NOT_ALLOWED | INSTRUMENT_TENDER | CHEQUE_DETAILS
  | BANK_REQUIRED | BOOK_REQUIRED | BOOK_FINISHED | BOOK_BANK | MONEY_LINE_NO_TENDER
  | MONEY_LEDGER_NOT_ALLOWED
  deriving DecidableEq, Repr

abbrev Refusal := VoucherRefusal VoucherErrorCode

abbrev GuardContext := VoucherGuardContext VoucherErrorCode

/-- What a derivation reports, in the order it reports it. -/
inductive Note where
  | refuse (refusal : Refusal)
  | warn (refusal : Refusal)

/-- A warning refuses too, unless it is overridden or the run is dry. -/
def Note.refuses (ctx : GuardContext) : Note → Bool
  | .refuse _ => true
  | .warn refusal => !((ctx.overrides.contains refusal.code && ctx.canOverride) || ctx.dryRun)

def Note.report (ctx : GuardContext) : Note → GuardContext
  | .refuse refusal => ctx.refuse refusal
  | .warn refusal => ctx.warn refusal

/-! ## The type -/

inductive PartyMode where
  | NONE | ONE | MANY
  deriving DecidableEq, Repr

inductive PartySide where
  | DR | CR | ANY
  deriving DecidableEq, Repr

/-- The side a type fixes for its party, if it does. -/
def PartySide.fixed : PartySide → Option DrCr
  | .DR => some .DR
  | .CR => some .CR
  | .ANY => none

inductive BillwiseMode where
  | OFF | DEMAND | RAISE | OPTIONAL
  deriving DecidableEq, Repr

inductive GstSide where
  | INPUT | OUTPUT
  deriving DecidableEq, Repr

inductive TdsMode where
  | OFF | DEDUCT
  deriving DecidableEq, Repr

inductive VoucherNature where
  | RECEIPT | PAYMENT | CONTRA | JOURNAL | PURCHASE | SALES | CREDIT_NOTE | DEBIT_NOTE | OTHER
  deriving DecidableEq, Repr

inductive BillType where
  | SALES | PURCHASE | SALES_RETURN | PURCHASE_RETURN | OPENING | ADVANCE | INTEREST | JOURNAL
  deriving DecidableEq, Repr

structure VoucherGroupRef where
  groupId : Uuid
  name : String

structure VoucherTypeRules where
  typeCode : String
  typeName : String
  nature : VoucherNature
  partyMode : PartyMode
  partySide : PartySide
  billwiseMode : BillwiseMode
  raiseBillType : Option BillType
  /-- None listed is any group. -/
  drGroups : List VoucherGroupRef
  crGroups : List VoucherGroupRef
  gstRegister : Option String
  gstSide : Option GstSide
  tdsMode : TdsMode
  /-- The lines carry their tenders, and the money legs are generated. -/
  instruments : Bool
  /-- A type that raises a bill names its kind. -/
  raise_named : billwiseMode = .RAISE → raiseBillType ≠ none

/-! ## More facts -/

structure TdsRateFacts where
  sectionName : String
  deducteeType : Text
  rate : Decimal
  noPanRate : Decimal
  thresholdSingle : Decimal
  thresholdAnnual : Decimal
  rate_nonneg : 0 ≤ rate
  rate_le : rate ≤ 100
  noPanRate_nonneg : 0 ≤ noPanRate
  noPanRate_le : noPanRate ≤ 100
  thresholdSingle_nonneg : 0 ≤ thresholdSingle
  thresholdAnnual_nonneg : 0 ≤ thresholdAnnual

structure TdsFacts where
  rate : Option TdsRateFacts
  annualBaseSoFar : Decimal

structure BillFacts where
  ablId : Uuid
  ablAccYear : String
  partyId : Uuid
  billType : BillType
  docRefno : String
  side : DrCr
  pendingAmount : Decimal
  isDeleted : Bool
  isActive : Bool
  companyId : Uuid

structure TenderFacts where
  name : String
  typeId : ℕ
  typeName : String
  isCash : Bool
  needsRef : Bool
  ledgerId : Uuid
  ledgerName : String
  /-- The clearing ledger the money waits in, when the master names one. -/
  settlementLedgerId : Option Uuid
  isActive : Bool
  isDeleted : Bool
  companyId : Uuid

inductive ChequeBookStatus where
  | ACTIVE | FINISHED | CLOSED
  deriving DecidableEq, Repr

structure ChequeBookFacts where
  chequeBookId : Uuid
  companyId : Uuid
  bankLedgerId : Uuid
  bankName : String
  bookNo : String
  leafTo : ℕ
  nextLeaf : ℕ
  leafWidth : ℕ
  status : ChequeBookStatus
  isDeleted : Bool

def CHEQUE_TENDER_TYPE_ID : ℕ := 5

/-- Credit shapes, which move no money in. -/
def EXCLUDED_INSTRUMENT_TYPES : List ℕ := [7, 8, 9, 10]

def settlementModeForTenderType (typeId : ℕ) : BillSettlementMode :=
  if typeId = 1 then .CASH
  else if typeId = 2 then .CARD
  else if typeId = 3 then .UPI
  else if typeId = 4 then .WALLET
  else if typeId = CHEQUE_TENDER_TYPE_ID then .CHEQUE
  else if typeId = 10 then .LOYALTY
  else if typeId = 11 then .VOUCHER
  else .BANK

/-- A leaf's number on its cheque. -/
def formatLeaf (leaf width : ℕ) : Text := List.leftpad width '0' (toString leaf).toList

/-! ## The input -/

structure ChequeDetail where
  drawerName : Option Text
  bankBranch : Option Text
  ifsc : Option Text
  micr : Option Text
  deriving DecidableEq, Repr

/-- The instrument a typed line carries, as it was sent. -/
structure InstrumentInput where
  tenderId : Uuid
  refNo : Option Text
  instrumentDate : Option IsoDate
  bankName : Option Text
  cheque : Option ChequeDetail
  bankLedgerId : Option Uuid
  chequeBookId : Option Uuid
  favouring : Option Text
  acPayee : Option Bool

structure LineGstInput where
  taxId : Uuid
  hsn : Option Text
  itcEligibility : Option ItcClass
  deriving DecidableEq, Repr

/-- A line as it is typed. -/
structure TypedLineInput where
  rowNo : ℕ
  drCr : DrCr
  ledgerId : Uuid
  amount : Decimal
  remarks : Option String
  gst : Option LineGstInput
  /-- None leaves it to the ledger. -/
  tdsBase : Option Bool
  instrument : Option InstrumentInput
  /-- A Contra line's tender. -/
  tenderId : Option Uuid

structure AllocationInput where
  index : ℕ
  lineRowNo : ℕ
  billId : Uuid
  billAccYear : String
  amount : Decimal

structure VoucherHeader where
  date : IsoDate
  partyId : Option Uuid
  posStcd : Option Text
  reverseCharge : Bool
  docRefno : Option String

inductive DocRefnoClash where
  | INDEX | OTHER
  deriving DecidableEq, Repr

inductive BackdateMode where
  | OFF | WARN | REFUSE
  deriving DecidableEq, Repr

/-- The roles a derivation asks a ledger for. -/
inductive VoucherRole where
  | INPUT (component : GstComponent)
  | OUTPUT (component : GstComponent)
  | RCM_PAYABLE (component : GstComponent)
  | TDS_PAYABLE
  deriving DecidableEq, Repr

def VoucherRole.toString : VoucherRole → String
  | .INPUT component => "INPUT_" ++ component.toString
  | .OUTPUT component => "OUTPUT_" ++ component.toString
  | .RCM_PAYABLE component => "RCM_" ++ component.toString ++ "_PAYABLE"
  | .TDS_PAYABLE => "TDS_PAYABLE"

/-- What a voucher is derived from. -/
structure DeriveInput where
  type : VoucherTypeRules
  header : VoucherHeader
  lines : List TypedLineInput
  allocations : List AllocationInput
  /-- The credit days typed for a new bill. -/
  newBillDueDays : Option ℤ
  company : CompanyFacts
  ledgers : Uuid → Option LedgerFacts
  instrumentLedgers : Uuid → Bool
  generatedRoleLedgers : Uuid → Bool
  taxRates : Uuid → Option TaxRateFacts
  roleLedgers : VoucherRole → Option Uuid → Option SupplyNature → Option ResolvedRoleLedger
  party : Option LedgerFacts
  creditDaysByLedger : Uuid → Option ℤ
  tds : Option TdsFacts
  tdsByParty : Uuid → Option TdsFacts
  /-- A bill by its id and the year it is filed under. -/
  bills : Uuid → String → Option BillFacts
  bills_keyed : ∀ {billId year bill}, bills billId year = some bill →
    bill.ablId = billId ∧ bill.ablAccYear = year
  docRefnoClash : Option DocRefnoClash
  backdateMode : BackdateMode
  /-- None allows it. -/
  allowAdvance : Option Bool
  today : IsoDate
  ctx : GuardContext
  tenders : Uuid → Option TenderFacts
  /-- Party, cheque number and year. -/
  registeredCheques : Uuid → Text → String → Bool
  /-- Why a year is closed or locked. -/
  closedYears : String → Option String
  chequeBooks : Uuid → Option ChequeBookFacts

/-! ## The output -/

inductive LegSource where
  | TYPED | GST | RCM | TDS | PARTY | INSTRUMENT
  deriving DecidableEq, Repr

/-- An instrument as the derivation resolved it. -/
structure InternalInstrument where
  lineRowNo : ℕ
  tender : TenderFacts
  ledgerId : Uuid
  ledgerName : String
  refNo : Option Text
  instrumentDate : Option IsoDate
  bankName : Option Text
  isCheque : Bool
  isPostDated : Bool
  postsOn : Option IsoDate
  cheque : Option ChequeDetail
  settlementMode : BillSettlementMode
  issued : Bool
  bankLedgerId : Option Uuid
  chequeBook : Option ChequeBookFacts
  nextLeaf : Option Text
  favouring : Option Text
  acPayee : Bool

/-- A typed line as a leg. -/
structure TypedLeg where
  lineRowNo : ℕ
  drCr : DrCr
  ledger : LedgerFacts
  amount : Decimal
  remarks : Option String
  gst : Option LineGstInput
  isTdsBase : Bool
  instrument : Option InternalInstrument

def TypedLeg.postDated (leg : TypedLeg) : Bool := leg.instrument.any (·.isPostDated)

def TypedLeg.postsOn (leg : TypedLeg) : Option IsoDate := leg.instrument.bind (·.postsOn)

/-- The ledger of a leg, with its facts where the leg was typed or is the party's. -/
structure LegLedger where
  ledId : Uuid
  name : String
  groupName : Option String
  facts : Option LedgerFacts

/-- A leg of the voucher. -/
structure InternalLeg where
  rowNo : ℕ
  lineRowNo : Option ℕ
  drCr : DrCr
  ledger : LegLedger
  amount : Decimal
  source : LegSource
  role : Option VoucherRole
  remarks : Option String
  fromRows : List ℕ
  gst : Option LineGstInput
  isTdsBase : Bool
  oppLedgerId : Option Uuid
  postDated : Bool
  postsOn : Option IsoDate
  instrument : Option InternalInstrument

structure InternalGstLine where
  lineRowNo : ℕ
  taxableLedgerId : Uuid
  rate : TaxRateFacts
  hsn : Option Text
  isService : Bool
  itcEligibility : Option ItcClass
  taxable : Decimal
  tax : GstAmounts
  ledgerIds : GstComponent → Option Uuid

inductive GstDocType where
  | INVOICE | CREDIT_NOTE | DEBIT_NOTE | OTHER
  deriving DecidableEq, Repr

inductive GstTranNature where
  | PURCHASE | SALE | CREDIT_NOTE | DEBIT_NOTE | OTHER
  deriving DecidableEq, Repr

inductive GstDocFlow where
  | INWARD | OUTWARD | INTERNAL
  deriving DecidableEq, Repr

/-- How the registers file a document. -/
structure GstDoc where
  docType : GstDocType
  tranNature : GstTranNature
  docFlow : GstDocFlow
  docSign : ℤ
  deriving DecidableEq, Repr

structure InternalGst where
  register : Option String
  side : GstSide
  doc : GstDoc
  supplyNature : SupplyNature
  posStcd : Text
  reverseCharge : Bool
  taxable : Decimal
  tax : GstAmounts
  lines : List InternalGstLine

/-- The register's closed deductee list. -/
inductive RegisterDeductee where
  | COMPANY | NON_COMPANY
  deriving DecidableEq, Repr

inductive TdsRateSource where
  | MASTER | NO_PAN | BELOW_THRESHOLD
  deriving DecidableEq, Repr

structure InternalTds where
  tdsSection : Text
  sectionName : String
  deducteeType : Text
  registerDeductee : RegisterDeductee
  rate : Decimal
  rateSource : TdsRateSource
  base : Decimal
  tax : Decimal
  deducted : Bool
  reason : Option String
  fromRows : List ℕ
  ledgerId : Option Uuid
  party : LedgerFacts
  lineRowNo : Option ℕ

structure InternalBill where
  lineRowNo : ℕ
  legRowNo : ℕ
  party : LedgerFacts
  billType : BillType
  side : DrCr
  amount : Decimal
  docRefno : Option String
  dueDays : ℕ
  dueDate : Option IsoDate
  isAdvance : Bool

inductive AdjType where
  | ALLOCATION | ADVANCE_ADJUST | NOTE_ADJUST | TRANSFER
  deriving DecidableEq, Repr

structure InternalAllocation where
  index : ℕ
  lineRowNo : ℕ
  legRowNo : ℕ
  party : LedgerFacts
  bill : BillFacts
  amount : Decimal
  adjType : AdjType
  settlementMode : BillSettlementMode
  postDated : Bool
  adjDate : IsoDate
  instrumentLineRowNo : Option ℕ

/-- A post-dated cheque line, which posts on a voucher of its own. -/
structure InternalPostDated where
  lineRowNo : ℕ
  partyLegRowNo : ℕ
  instrumentLegRowNo : ℕ
  extraLegRowNos : List ℕ
  party : LedgerFacts
  amount : Decimal
  postsOn : IsoDate
  accYear : String
  instrument : InternalInstrument

structure DerivedParty where
  ledger : LedgerFacts
  side : DrCr
  amount : Decimal
  rowNo : ℕ

/-- All that is derived of a voucher. -/
structure DerivedInternal where
  legs : List InternalLeg
  debit : Decimal
  credit : Decimal
  difference : Decimal
  party : Option DerivedParty
  gst : Option InternalGst
  tds : Option InternalTds
  tdsLines : List InternalTds
  bills : List InternalBill
  allocations : List InternalAllocation
  postDated : List InternalPostDated

end ErpServer.Vouchers
