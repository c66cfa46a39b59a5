import ErpServer.Lib.Numbering
import ErpServer.Lib.UniqueIndex
import ErpServer.Receipt.Types

/-!
# A sales document's cheques in the register

`syncDocPdcRegister` over the live tenders of a document and the rows of the cheque
register, write by write.  The register keeps what the database checks of it: a write that
would break a check or repeat an instrument is an error, and an error rolls the call back.
Texts that only describe a row (the bank, the drawer, the remarks) are left out.
-/

namespace ErpServer.Sales.PdcRegister

open ErpServer.Receipt (Decimal)

/-! ## Days -/

/-- A day as its year, its month from 0 and its day of the month. -/
structure UtcDay where
  year : ℤ
  month : ℤ
  day : ℤ
  deriving DecidableEq, Repr

def isLeapYear (year : ℤ) : Bool :=
  (year % 4 = 0 && year % 100 ≠ 0) || year % 400 = 0

/-- The days of a year before a month of it. -/
def daysBeforeMonth (year month : ℤ) : ℤ :=
  [0, 31, 59, 90, 120, 151, 181, 212, 243, 273, 304, 334].getD month.toNat 0 +
    if 2 ≤ month ∧ isLeapYear year then 1 else 0

def daysBeforeYear (year : ℤ) : ℤ :=
  365 * (year - 1970) + (year - 1969) / 4 - (year - 1901) / 100 + (year - 1601) / 400

/-- The days since 1970 of a day whose month may lie outside the year and whose day
outside the month, as `Date` counts them. -/
def makeDay (year month day : ℤ) : ℤ :=
  let inYear := year + month / 12
  daysBeforeYear inYear + daysBeforeMonth inYear (month % 12) + (day - 1)

def UtcDay.getTime (date : UtcDay) : ℤ := makeDay date.year date.month date.day

def daysInMonth (year month : ℤ) : ℤ := makeDay year (month + 1) 1 - makeDay year month 1

/-- A date plus a number of months as the database adds them: the month's last day where
the day is past it. -/
def UtcDay.plusMonths (date : UtcDay) (months : ℤ) : ℤ :=
  makeDay date.year (date.month + months)
    (min date.day (daysInMonth date.year (date.month + months)))

def INSTRUMENT_DATE_MONTHS_BACK : ℤ := 3

def INSTRUMENT_DATE_YEARS_FORWARD : ℤ := 1

/-! ## Texts -/

/-- A text as its UTF-16 code units. -/
abbrev JsString := List UInt16

/-- What `trim` takes off: white space and line ends. -/
def isWhiteSpace (unit : UInt16) : Bool :=
  (0x09 ≤ unit && unit ≤ 0x0d) || (0x2000 ≤ unit && unit ≤ 0x200a) ||
    unit ∈ [0x20, 0xa0, 0x1680, 0x2028, 0x2029, 0x202f, 0x205f, 0x3000, 0xfeff]

def JsString.trim (text : JsString) : JsString :=
  ((text.dropWhile isWhiteSpace).reverse.dropWhile isWhiteSpace).reverse

def INSTRUMENT_NO_MAX_LENGTH : ℕ := 30

/-! ## The register -/

inductive PdcStatus where
  | HELD | DEPOSITED | CLEARED | BOUNCED | RETURNED | CANCELLED | REPLACED
  deriving DecidableEq, Repr

/-- `ck_apd_tra_type`: a cheque we received, or one we issued. -/
inductive TraType where
  | R | P
  deriving DecidableEq, Repr

inductive InstrumentType where
  | CHEQUE | DD | PAY_ORDER | ECS | NACH | UPI_MANDATE
  deriving DecidableEq, Repr

inductive PostingMode where
  | ON_RECEIPT | ON_CLEARING
  deriving DecidableEq, Repr

structure PdcVoucher where
  voucherId : String
  accYear : String
  deriving DecidableEq, Repr

/-- A cheque on the register. -/
structure AccPdcRegister where
  apdId : ℕ
  apdAccYear : String
  apdCompanyId : String
  apdBranchId : String
  apdTenantId : Option String
  apdTraType : TraType
  apdPartyId : String
  apdSalesmanId : Option String
  apdInstrumentType : InstrumentType
  apdInstrumentNo : JsString
  apdInstrumentDate : UtcDay
  apdAmount : Decimal
  apdReceivedOn : UtcDay
  apdBankLedgerId : Option String
  apdTenderId : Option String
  apdPostingMode : PostingMode
  /-- `apd_voucher_id` and `apd_voucher_acc_year`. -/
  apdVoucher : Option PdcVoucher
  apdStatus : PdcStatus
  apdStatusBy : Option String
  apdCancelReason : Option String := none
  apdIsActive : Bool := true
  apdIsDeleted : Bool := false
  deriving DecidableEq, Repr

namespace AccPdcRegister

/-- Neither deleted nor cancelled. -/
def live (row : AccPdcRegister) : Bool := !row.apdIsDeleted && row.apdStatus ≠ .CANCELLED

/-- The key of `ux_apd_instrument`, for the rows it covers. -/
def uxApdInstrument (row : AccPdcRegister) :
    Option (String × String × InstrumentType × JsString × String) :=
  if row.live ∧ row.apdTraType = .R then
    some (row.apdCompanyId, row.apdPartyId, row.apdInstrumentType, row.apdInstrumentNo,
      row.apdAccYear)
  else none

/-- `ck_apd_amount`, `ck_apd_dates`, `ck_apd_posting` and `ck_apd_cancelled`. -/
structure Checks (row : AccPdcRegister) : Prop where
  amount : 0 < row.apdAmount
  earliest : row.apdReceivedOn.plusMonths (-3) ≤ row.apdInstrumentDate.getTime
  latest : row.apdInstrumentDate.getTime ≤ row.apdReceivedOn.plusMonths 12
  posting : row.apdPostingMode = .ON_RECEIPT → row.apdVoucher ≠ none
  cancelled : row.apdStatus = .CANCELLED ∨ row.apdStatus = .RETURNED → row.apdCancelReason ≠ none

instance (row : AccPdcRegister) : Decidable row.Checks :=
  decidable_of_iff (0 < row.apdAmount ∧
      row.apdReceivedOn.plusMonths (-3) ≤ row.apdInstrumentDate.getTime ∧
      row.apdInstrumentDate.getTime ≤ row.apdReceivedOn.plusMonths 12 ∧
      (row.apdPostingMode = .ON_RECEIPT → row.apdVoucher ≠ none) ∧
      (row.apdStatus = .CANCELLED ∨ row.apdStatus = .RETURNED → row.apdCancelReason ≠ none))
    ⟨fun ⟨amount, earliest, latest, posting, cancelled⟩ =>
      ⟨amount, earliest, latest, posting, cancelled⟩,
      fun checks => ⟨checks.amount, checks.earliest, checks.latest, checks.posting,
        checks.cancelled⟩⟩

end AccPdcRegister

open Lib.UniqueIndex AccPdcRegister

/-- The rows of the register, as the database keeps them. -/
structure Register where
  rows : List AccPdcRegister
  ids : (rows.map apdId).Nodup
  instruments : Unique uxApdInstrument rows
  checks : ∀ row ∈ rows, row.Checks

inductive SalesErrorCode where
  | CHEQUE_NUMBER_MISSING | CHEQUE_DATE_MISSING | CHEQUE_BACKDATED | CHEQUE_STALE
  | CHEQUE_DATE_TOO_FAR | CHEQUE_REPEATED | CHEQUE_ALREADY_REGISTERED | CHEQUE_LOCKED_IN_REGISTER
  deriving DecidableEq, Repr

/-- A refusal, or an error of the database. -/
inductive PdcError where
  | refuse (code : SalesErrorCode)
  | checkViolation
  | uniqueViolation
  deriving DecidableEq, Repr

namespace Register

/-- What is written has to pass the checks and the index. -/
def written (rows : List AccPdcRegister) (ids : (rows.map apdId).Nodup) :
    Except PdcError Register :=
  if checks : ∀ row ∈ rows, row.Checks then
    if instruments : Unique uxApdInstrument rows then .ok ⟨rows, ids, instruments, checks⟩
    else .error .uniqueViolation
  else .error .checkViolation

/-- A change of a row's other columns. -/
def keepingId (change : AccPdcRegister → AccPdcRegister) (row : AccPdcRegister) : AccPdcRegister :=
  { change row with apdId := row.apdId }

def update (register : Register) (id : ℕ) (change : AccPdcRegister → AccPdcRegister) :
    Except PdcError Register :=
  written (updateAt apdId register.rows id (keepingId change)) (by
    have keeps : ∀ row, (keepingId change row).apdId = row.apdId := fun _ => rfl
    rw [ids_updateAt keeps]
    exact register.ids)

/-- An id no row has. -/
def newId (register : Register) : ℕ := Lib.Numbering.next (register.rows.map apdId)

theorem newId_fresh (register : Register) : register.newId ∉ register.rows.map apdId := by
  intro member
  have below : register.newId ≤ (register.rows.map apdId).foldr max 0 :=
    List.le_max_of_le member le_rfl
  exact absurd below (Nat.not_succ_le_self _)

def create (register : Register) (row : AccPdcRegister) : Except PdcError Register :=
  written (register.rows ++ [{ row with apdId := register.newId }]) (by
    rw [List.map_append, List.map_singleton, List.nodup_append_comm]
    exact List.nodup_cons.mpr ⟨register.newId_fresh, register.ids⟩)

end Register

/-! ## The document -/

/-- The document that takes the cheques. -/
structure PdcDocument where
  companyId : String
  branchId : String
  tenantId : Option String
  accYear : String
  docDate : UtcDay
  partyId : String
  salesmanId : Option String
  userId : Option String
  deriving DecidableEq, Repr

structure PdcDocumentRules where
  refuseBackdated : Bool
  checkDateWindow : Bool
  deriving DecidableEq, Repr

structure PdcTenderLine where
  tdId : String
  tdRowNo : ℤ
  tdTenderTypeId : ℕ
  tdTotalAmt : Decimal
  tdRefNo : Option JsString
  tdInstrumentDate : Option UtcDay
  tdSettleLedgerId : Option String
  deriving DecidableEq, Repr

/-- A document's tender lines: the live ones, and the ids of the deleted and voided. -/
structure DocTenders where
  live : List PdcTenderLine
  gone : List String
  ids : (live.map PdcTenderLine.tdId ++ gone).Nodup

def DocTenders.tdIds (tenders : DocTenders) : List String :=
  tenders.live.map PdcTenderLine.tdId ++ tenders.gone

/-- What the caller says of the voucher and of the rows it cancels. -/
structure PdcOptions where
  voucher : Option PdcVoucher
  keepStoredVoucher : Bool
  removedReason : String
  deriving DecidableEq, Repr

def CHEQUE_TENDER_TYPE_ID : ℕ := 5

def toRegistrableCheques (tenders : List PdcTenderLine) : List PdcTenderLine :=
  (tenders.filter fun tender =>
    tender.tdTenderTypeId = CHEQUE_TENDER_TYPE_ID && decide (0 < tender.tdTotalAmt)).insertionSort
      fun left right => left.tdRowNo ≤ right.tdRowNo

def requireInstrumentNo (cheque : PdcTenderLine) : Except PdcError JsString :=
  match cheque.tdRefNo.map JsString.trim with
  | none | some [] => .error (.refuse .CHEQUE_NUMBER_MISSING)
  | some instrumentNo => .ok (instrumentNo.take INSTRUMENT_NO_MAX_LENGTH)

def requireInstrumentDate (cheque : PdcTenderLine) (received : UtcDay) (rules : PdcDocumentRules) :
    Except PdcError UtcDay :=
  match cheque.tdInstrumentDate with
  | none => .error (.refuse .CHEQUE_DATE_MISSING)
  | some instrumentDate =>
      if rules.refuseBackdated ∧ instrumentDate.getTime < received.getTime then
        .error (.refuse .CHEQUE_BACKDATED)
      else if ¬rules.checkDateWindow then .ok instrumentDate
      else
        let earliest := makeDay received.year (received.month - INSTRUMENT_DATE_MONTHS_BACK) received.day
        let latest := makeDay (received.year + INSTRUMENT_DATE_YEARS_FORWARD) received.month received.day
        if instrumentDate.getTime < earliest then .error (.refuse .CHEQUE_STALE)
        else if latest < instrumentDate.getTime then .error (.refuse .CHEQUE_DATE_TOO_FAR)
        else .ok instrumentDate

/-- Each number once, among those `seen` too. -/
def ensureNoRepeatedInstrument (seen : List JsString) :
    List PdcTenderLine → Except PdcError Unit
  | [] => .ok ()
  | cheque :: rest => do
      let instrumentNo ← requireInstrumentNo cheque
      if instrumentNo ∈ seen then .error (.refuse .CHEQUE_REPEATED)
      else ensureNoRepeatedInstrument (instrumentNo :: seen) rest

/-- The document's live rows: those of its year that name one of its tenders. -/
def ofDocument (doc : PdcDocument) (tenders : DocTenders) (row : AccPdcRegister) : Bool :=
  row.live && row.apdAccYear = doc.accYear &&
    row.apdTenderId.any fun tenderId => tenderId ∈ tenders.tdIds

def findDocPdcRows (doc : PdcDocument) (tenders : DocTenders) (register : Register) :
    List AccPdcRegister :=
  register.rows.filter (ofDocument doc tenders)

def ensureInstrumentIsHeld (row : AccPdcRegister) : Except PdcError Unit :=
  if row.apdStatus = .HELD then .ok () else .error (.refuse .CHEQUE_LOCKED_IN_REGISTER)

/-- The live rows of other tenders under a number of the document's. -/
def clashing (doc : PdcDocument) (cheques : List PdcTenderLine) (numbers : List JsString)
    (row : AccPdcRegister) : Bool :=
  row.apdCompanyId = doc.companyId && row.apdAccYear = doc.accYear &&
    row.apdPartyId = doc.partyId && row.apdInstrumentType = .CHEQUE &&
    row.apdInstrumentNo ∈ numbers && row.live &&
    !row.apdTenderId.any fun tenderId => tenderId ∈ cheques.map PdcTenderLine.tdId

def ensureInstrumentsAreFree (doc : PdcDocument) (register : Register)
    (cheques : List PdcTenderLine) : Except PdcError Unit := do
  let numbers ← cheques.mapM requireInstrumentNo
  if register.rows.any (clashing doc cheques numbers) then
    .error (.refuse .CHEQUE_ALREADY_REGISTERED)
  else .ok ()

def cancelPdcRow (doc : PdcDocument) (reason : String) (register : Register)
    (row : AccPdcRegister) : Except PdcError Register :=
  register.update row.apdId fun stored =>
    { stored with
      apdStatus := .CANCELLED
      apdCancelReason := some reason
      apdStatusBy := doc.userId
      apdIsActive := false }

/-- `byTender`: the last of the rows that name a tender. -/
def storedRow (existing : List AccPdcRegister) (tdId : String) : Option AccPdcRegister :=
  (existing.filter fun row => row.apdTenderId = some tdId).getLast?

/-- The columns a cheque writes into its row. -/
def chequeData (doc : PdcDocument) (cheque : PdcTenderLine) (instrumentNo : JsString)
    (instrumentDate : UtcDay) (row : AccPdcRegister) : AccPdcRegister :=
  { row with
    apdCompanyId := doc.companyId
    apdBranchId := doc.branchId
    apdTenantId := doc.tenantId
    apdTraType := .R
    apdPartyId := doc.partyId
    apdSalesmanId := doc.salesmanId
    apdInstrumentType := .CHEQUE
    apdInstrumentNo := instrumentNo
    apdInstrumentDate := instrumentDate
    apdAmount := cheque.tdTotalAmt
    apdReceivedOn := doc.docDate
    apdBankLedgerId := cheque.tdSettleLedgerId
    apdTenderId := some cheque.tdId }

def voucherData (voucher : Option PdcVoucher) (row : AccPdcRegister) : AccPdcRegister :=
  { row with
    apdPostingMode := if voucher.isSome then .ON_RECEIPT else .ON_CLEARING
    apdVoucher := voucher }

/-- A stored row with its cheque's columns, and the voucher's unless that is kept. -/
def resynced (doc : PdcDocument) (opts : PdcOptions) (cheque : PdcTenderLine)
    (instrumentNo : JsString) (instrumentDate : UtcDay) (row : AccPdcRegister) : AccPdcRegister :=
  let data := chequeData doc cheque instrumentNo instrumentDate row
  if opts.keepStoredVoucher then data else voucherData opts.voucher data

/-- A cheque's row before it is registered: held, in the document's year. -/
def newRow (doc : PdcDocument) (cheque : PdcTenderLine) (instrumentNo : JsString)
    (instrumentDate : UtcDay) (voucher : Option PdcVoucher) : AccPdcRegister :=
  voucherData voucher
    { apdId := 0
      apdAccYear := doc.accYear
      apdCompanyId := doc.companyId
      apdBranchId := doc.branchId
      apdTenantId := doc.tenantId
      apdTraType := .R
      apdPartyId := doc.partyId
      apdSalesmanId := doc.salesmanId
      apdInstrumentType := .CHEQUE
      apdInstrumentNo := instrumentNo
      apdInstrumentDate := instrumentDate
      apdAmount := cheque.tdTotalAmt
      apdReceivedOn := doc.docDate
      apdBankLedgerId := cheque.tdSettleLedgerId
      apdTenderId := some cheque.tdId
      apdPostingMode := .ON_CLEARING
      apdVoucher := none
      apdStatus := .HELD
      apdStatusBy := doc.userId }

section Sync

variable (doc : PdcDocument) (rules : PdcDocumentRules) (tenders : DocTenders) (opts : PdcOptions)

/-- One turn of the loop over the cheques. -/
def registerCheque (existing : List AccPdcRegister) (register : Register) (cheque : PdcTenderLine) :
    Except PdcError Register := do
  let instrumentNo ← requireInstrumentNo cheque
  let instrumentDate ← requireInstrumentDate cheque doc.docDate rules
  match storedRow existing cheque.tdId with
  | some stored =>
      ensureInstrumentIsHeld stored
      register.update stored.apdId (resynced doc opts cheque instrumentNo instrumentDate)
  | none => register.create (newRow doc cheque instrumentNo instrumentDate opts.voucher)

/-- The rows whose cheque is gone. -/
def cancelGone (cheques : List PdcTenderLine) (register : Register) :
    List AccPdcRegister → Except PdcError Register
  | [] => .ok register
  | row :: rest =>
      if row.apdTenderId.any fun tenderId => tenderId ∈ cheques.map PdcTenderLine.tdId then
        cancelGone cheques register rest
      else do
        ensureInstrumentIsHeld row
        let register ← cancelPdcRow doc opts.removedReason register row
        cancelGone cheques register rest

def syncDocPdcRegister (register : Register) : Except PdcError Register := do
  let cheques := toRegistrableCheques tenders.live
  let existing := findDocPdcRows doc tenders register
  if cheques = [] ∧ existing = [] then return register
  ensureNoRepeatedInstrument [] cheques
  let register ← cancelGone doc opts cheques register existing
  ensureInstrumentsAreFree doc register cheques
  cheques.foldlM (registerCheque doc rules opts existing) register

/-- The register after the call: a refusal rolls its transaction back. -/
def synced (register : Register) : Register :=
  match syncDocPdcRegister doc rules tenders opts register with
  | .ok later => later
  | .error _ => register

end Sync

end ErpServer.Sales.PdcRegister
