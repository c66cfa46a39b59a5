import Mathlib.Data.NNRat.Defs
import ErpServer.Receipt.Types

/-!
# Turning what the client sent into what the module posts

The two normalisations a receipt goes through, when it is saved and again when it
is posted: the tender rows against their masters, and the other-ledger lines with
the bank charges and the surcharge the server adds itself.  What no modelled
function reads is left out: card and UPI references, cheque details, notes.
-/

namespace ErpServer.Receipt

open Lib

/-! ## Refusals -/

namespace VCH

def LEDGER_INACTIVE : String := "VCH_LEDGER_INACTIVE"
def LEDGER_NOT_FOUND : String := "VCH_LEDGER_NOT_FOUND"
def INSTRUMENT_TENDER : String := "VCH_INSTRUMENT_TENDER"
def CHEQUE_DETAILS : String := "VCH_CHEQUE_DETAILS"

end VCH

namespace ACC

def NO_TENDER : String := "ACC_NO_TENDER"
def TENDER_NOT_FOUND : String := "ACC_TENDER_NOT_FOUND"
def TENDER_NOT_USABLE : String := "ACC_TENDER_NOT_USABLE"
def TENDER_LEDGER_FIXED : String := "ACC_TENDER_LEDGER_FIXED"
def CHANGE_WRONG : String := "ACC_CHANGE_WRONG"
def PARTY_AS_LINE : String := "ACC_PARTY_AS_LINE"
def ROLE_UNMAPPED : String := "ACC_ROLE_UNMAPPED"

end ACC

inductive HttpStatus where
  | BAD_REQUEST
  | NOT_FOUND
  | CONFLICT
  deriving DecidableEq, Repr

/-- What a receipt route answers when it refuses. -/
structure ReceiptError where
  status : HttpStatus
  message : String
  details : List AllocationErrorDetail
  deriving DecidableEq, Repr

def throwAccountsBadRequest {α : Type} (message : String) (details : List AllocationErrorDetail) :
    Except ReceiptError α := .error ⟨.BAD_REQUEST, message, details⟩

def throwAccountsNotFound {α : Type} (message field detail code : String) :
    Except ReceiptError α := .error ⟨.NOT_FOUND, message, [⟨field, code, detail⟩]⟩

/-- The engine knows nothing about HTTP; its two kinds of failure are mapped here. -/
def rethrowAllocationError {α : Type} : Except AllocationError α → Except ReceiptError α
  | .ok value => .ok value
  | .error problem => .error
      ⟨match problem.kind with
        | .CONFLICT => .CONFLICT
        | .VALIDATION => .BAD_REQUEST, problem.message, problem.details⟩

/-! ## Text -/

/-- The white space and line ends a JavaScript trim takes off. -/
def isTrimmed (char : Char) : Bool :=
  char.toNat ∈ [0x09, 0x0A, 0x0B, 0x0C, 0x0D, 0x20, 0xA0, 0x1680, 0x2028, 0x2029, 0x202F, 0x205F,
    0x3000, 0xFEFF] || (0x2000 ≤ char.toNat && char.toNat ≤ 0x200A)

def trimOrNull (value : Option String) : Option String :=
  value.bind fun text =>
    let trimmed := ((text.toList.dropWhile isTrimmed).reverse.dropWhile isTrimmed).reverse
    if trimmed.isEmpty then none else some (String.ofList trimmed)

/-- A text that is there and not empty, as a condition reads it. -/
def isGiven (value : Option String) : Bool :=
  match value with
  | some text => text ≠ ""
  | none => false

/-! ## Tenders -/

/-- One tender row of the request; its figures carry the minimum of zero their
decorators ask for. -/
structure SaveReceiptTenderDto where
  tdRowNo : ℕ
  tdTenderId : String
  tdTenderTypeId : ℕ
  tdTenderLedgerId : Option String
  tdAmount : ℚ≥0
  tdReceivedAmt : Option ℚ≥0
  tdChangeAmt : Option ℚ≥0
  tdMdrAmt : Option ℚ≥0
  tdSurchargePerc : Option ℚ≥0
  tdSurchargeAmt : Option ℚ≥0
  tdRefNo : Option String
  tdBankName : Option String
  tdInstrumentDate : Option Date

/-- A row of the tender master. -/
structure AccTenderMaster where
  tndId : String
  tndName : String
  tndCompanyId : String
  tndBranchId : Option String
  tndTypeId : ℕ
  tndLedgerId : Option String
  tndSettlementLedgerId : Option String
  tndSurchargePerc : Decimal
  tndSurchargeAmount : Decimal
  tndEditLedger : Bool
  tndEditSurcharge : Bool
  tndIsActive : Bool
  tndIsDeleted : Bool

structure NormalisedTender where
  rowNo : ℕ
  tenderName : String
  tenderTypeId : ℕ
  tenderLedgerId : String
  clearingLedgerId : Option String
  amount : Decimal
  receivedAmt : Decimal
  changeAmt : Decimal
  mdrAmt : Decimal
  surchargePerc : Decimal
  surchargeAmt : Decimal
  refNo : Option String
  bankName : Option String
  instrumentDate : Option Date
  isCheque : Bool
  isPdc : Bool
  deriving DecidableEq, Repr

def CHEQUE_TENDER_TYPE_ID : ℕ := 5

/-- What the tenders of one receipt are read against. -/
structure TenderContext where
  masters : List AccTenderMaster
  companyId : String
  branchId : String
  receiptDate : Date

def tenderField (index : ℕ) (name : String) : String :=
  "tenders." ++ toString index ++ "." ++ name

/-- The live master a row names. -/
def masterOf (context : TenderContext) (tender : SaveReceiptTenderDto) : Option AccTenderMaster :=
  context.masters.find? fun master => master.tndId = tender.tdTenderId && !master.tndIsDeleted

/-- The master is in use, of this company and branch, and of the type the row claims. -/
def assertTenderUsable (context : TenderContext) (index : ℕ) (tender : SaveReceiptTenderDto)
    (master : AccTenderMaster) : Except ReceiptError Unit :=
  let refuse (name message : String) : Except ReceiptError Unit :=
    throwAccountsBadRequest "Validation failed"
      [⟨tenderField index name, ACC.TENDER_NOT_USABLE, message⟩]
  if !master.tndIsActive then
    refuse "tdTenderId" ("Tender \"" ++ master.tndName ++ "\" is inactive")
  else if master.tndCompanyId ≠ context.companyId then
    refuse "tdTenderId" ("Tender \"" ++ master.tndName ++ "\" belongs to another company")
  else if master.tndBranchId ≠ none ∧ master.tndBranchId ≠ some context.branchId then
    refuse "tdTenderId" ("Tender \"" ++ master.tndName ++ "\" is not available at this branch")
  else if master.tndTypeId ≠ tender.tdTenderTypeId then
    refuse "tdTenderTypeId" ("Tender \"" ++ master.tndName ++ "\" is type " ++
      toString master.tndTypeId ++ ", not " ++ toString tender.tdTenderTypeId)
  else .ok ()

/-- A cheque's boxes that are empty. -/
def missingChequeDetails (tender : SaveReceiptTenderDto) : List String :=
  (if tender.tdInstrumentDate.isNone then ["tdInstrumentDate"] else []) ++
    (if (trimOrNull tender.tdRefNo).isNone then ["tdRefNo"] else []) ++
    (if (trimOrNull tender.tdBankName).isNone then ["tdBankName"] else [])

/-- An amount above zero, a cheque complete, and cash net of its change. -/
def assertTenderAmounts (index : ℕ) (tender : SaveReceiptTenderDto) (master : AccTenderMaster) :
    Except ReceiptError Unit :=
  let amount := money tender.tdAmount
  let missing := missingChequeDetails tender
  let received := money (tender.tdReceivedAmt.getD 0)
  let change := money (tender.tdChangeAmt.getD 0)
  if amount ≤ 0 then
    throwAccountsBadRequest "Validation failed"
      [⟨tenderField index "tdAmount", VCH.LINE_AMOUNT, "A tender row must carry more than zero"⟩]
  else if master.tndTypeId = CHEQUE_TENDER_TYPE_ID ∧ missing ≠ [] then
    throwAccountsBadRequest "Validation failed"
      [⟨tenderField index (missing.headD ""), VCH.CHEQUE_DETAILS,
        "A cheque needs " ++ ", ".intercalate missing⟩]
  else if 0 < received ∧ received - change ≠ amount then
    throwAccountsBadRequest "Validation failed"
      [⟨tenderField index "tdReceivedAmt", ACC.CHANGE_WRONG,
        "Received " ++ toFixed received ++ " less change " ++ toFixed change ++ " is " ++
          toFixed (received - change) ++ ", but the row is for " ++ toFixed amount⟩]
  else .ok ()

/-- The ledger is the master's unless the master allows an override. -/
def tenderLedger (index : ℕ) (tender : SaveReceiptTenderDto) (master : AccTenderMaster) :
    Except ReceiptError String :=
  let ledgerId := if master.tndEditLedger then tender.tdTenderLedgerId <|> master.tndLedgerId
    else master.tndLedgerId
  if !master.tndEditLedger ∧ isGiven tender.tdTenderLedgerId ∧
      tender.tdTenderLedgerId ≠ master.tndLedgerId then
    throwAccountsBadRequest "Validation failed"
      [⟨tenderField index "tdTenderLedgerId", ACC.TENDER_LEDGER_FIXED,
        "Tender \"" ++ master.tndName ++ "\" does not allow its ledger to be changed"⟩]
  else if isGiven ledgerId then .ok (ledgerId.getD "")
  else
    throwAccountsBadRequest "Validation failed"
      [⟨tenderField index "tdTenderId", VCH.INSTRUMENT_TENDER,
        "Tender \"" ++ master.tndName ++ "\" posts to no ledger: it cannot take money on a receipt"⟩]

def surchargePercOf (tender : SaveReceiptTenderDto) (master : AccTenderMaster) : Decimal :=
  if master.tndEditSurcharge then money ((tender.tdSurchargePerc.map (↑)).getD master.tndSurchargePerc)
  else money master.tndSurchargePerc

/-- The surcharge is inside the instrument, not on top of it. -/
def surchargeAmtOf (tender : SaveReceiptTenderDto) (master : AccTenderMaster) : Decimal :=
  let perc := surchargePercOf tender master
  if master.tndEditSurcharge then
    money ((tender.tdSurchargeAmt.map (↑)).getD master.tndSurchargeAmount)
  else if 0 < perc then money (money tender.tdAmount * perc / (perc + 100))
  else money master.tndSurchargeAmount

/-- A cheque dated after the receipt. -/
def isPostDated (receiptDate : Date) (typeId : ℕ) (instrumentDate : Option Date) : Bool :=
  typeId = CHEQUE_TENDER_TYPE_ID && instrumentDate.any (receiptDate < ·)

/-- The body of the loop over the tender rows. -/
def normaliseTender (context : TenderContext) (seenRowNos : List ℕ) (index : ℕ)
    (tender : SaveReceiptTenderDto) : Except ReceiptError NormalisedTender := do
  if tender.tdRowNo ∈ seenRowNos then
    throwAccountsBadRequest "Validation failed"
      [⟨tenderField index "tdRowNo", ACC.INVALID,
        "Row number " ++ toString tender.tdRowNo ++ " appears twice"⟩]
  else match masterOf context tender with
    | none =>
        throwAccountsNotFound "Tender not found" (tenderField index "tdTenderId")
          ("No live tender with id " ++ tender.tdTenderId) ACC.TENDER_NOT_FOUND
    | some master => do
        assertTenderUsable context index tender master
        assertTenderAmounts index tender master
        let tenderLedgerId ← tenderLedger index tender master
        .ok
          { rowNo := tender.tdRowNo
            tenderName := master.tndName
            tenderTypeId := master.tndTypeId
            tenderLedgerId := tenderLedgerId
            clearingLedgerId := master.tndSettlementLedgerId
            amount := money tender.tdAmount
            receivedAmt := money (tender.tdReceivedAmt.getD 0)
            changeAmt := money (tender.tdChangeAmt.getD 0)
            mdrAmt := money (tender.tdMdrAmt.getD 0)
            surchargePerc := surchargePercOf tender master
            surchargeAmt := surchargeAmtOf tender master
            refNo := trimOrNull tender.tdRefNo
            bankName := trimOrNull tender.tdBankName
            instrumentDate := tender.tdInstrumentDate
            isCheque := master.tndTypeId = CHEQUE_TENDER_TYPE_ID
            isPdc := isPostDated context.receiptDate master.tndTypeId tender.tdInstrumentDate }

def normaliseTendersFrom (context : TenderContext) :
    List ℕ → ℕ → List SaveReceiptTenderDto → Except ReceiptError (List NormalisedTender)
  | _, _, [] => .ok []
  | seenRowNos, index, tender :: rest => do
      let first ← normaliseTender context seenRowNos index tender
      let others ← normaliseTendersFrom context (tender.tdRowNo :: seenRowNos) (index + 1) rest
      .ok (first :: others)

/-- Every tender row, resolved against its master, checked and put in row order. -/
def normaliseTenders (context : TenderContext) (tenders : List SaveReceiptTenderDto) :
    Except ReceiptError (List NormalisedTender) := do
  if tenders = [] then
    throwAccountsBadRequest "Validation failed"
      [⟨"tenders", ACC.NO_TENDER,
        "A receipt with no instruments is a journal, not a receipt. Even a receipt settled " ++
          "entirely from a credit the party holds needs a journal voucher instead."⟩]
  else
    let normalised ← normaliseTendersFrom context [] 0 tenders
    .ok (normalised.insertionSort fun left right => left.rowNo ≤ right.rowNo)

/-! ## Other-ledger lines -/

/-- One other-ledger line of the request. -/
structure SaveReceiptOtherLineDto where
  role : Option String
  ledgerId : Option String
  drCr : DrCr
  amount : ℚ≥0
  settlesBill : Option Bool
  narration : Option String

structure NormalisedOtherLine where
  lineNo : ℕ
  role : Option String
  ledgerId : String
  ledgerName : Option String
  drCr : DrCr
  amount : Decimal
  settlesBill : Bool
  narration : Option String
  settlementMode : BillSettlementMode
  isInstrumentSplit : Bool
  deriving DecidableEq, Repr

/-- A ledger with its name, as a role resolves to it. -/
structure ResolvedRoleLedger where
  ledgerId : String
  ledgerName : String
  deriving DecidableEq, Repr

/-- A row of the ledger master. -/
structure AccLedgerMaster where
  ledId : String
  ledName : String
  ledCompanyId : Option String
  ledIsActive : Bool
  ledIsDeleted : Bool

structure ReceiptParty where
  ledIsTdsApplicable : Bool
  ledIsTcsApplicable : Bool

inductive TcsBasis where
  | SALES
  | RECEIPT
  deriving DecidableEq, Repr

namespace ReceiptLedgerRole

def TDS_RECEIVABLE : String := "TDS_RECEIVABLE"
def BANK_CHARGES : String := "BANK_CHARGES"
def SURCHARGE_RECOVERED : String := "SURCHARGE_RECOVERED"
def CLAIMS_ALLOWED : String := "CLAIMS_ALLOWED"
def INTEREST_INCOME : String := "INTEREST_INCOME"
def DISCOUNT_ALLOWED : String := "DISCOUNT_ALLOWED"
def WRITE_OFF : String := "WRITE_OFF"
def ROUND_OFF : String := "ROUND_OFF"
def TCS_PAYABLE : String := "TCS_PAYABLE"

end ReceiptLedgerRole

/-- The side each role posts on. -/
def ROLE_SIDE : List (String × DrCr) :=
  [(ReceiptLedgerRole.TDS_RECEIVABLE, .DR), (ReceiptLedgerRole.BANK_CHARGES, .DR),
    (ReceiptLedgerRole.SURCHARGE_RECOVERED, .CR), (ReceiptLedgerRole.CLAIMS_ALLOWED, .DR),
    (ReceiptLedgerRole.INTEREST_INCOME, .CR), (ReceiptLedgerRole.DISCOUNT_ALLOWED, .DR),
    (ReceiptLedgerRole.WRITE_OFF, .DR), (ReceiptLedgerRole.ROUND_OFF, .DR),
    (ReceiptLedgerRole.TCS_PAYABLE, .CR)]

/-- The roles that are deductions, and what each settles a bill as. -/
def ROLE_SETTLEMENT_MODE : List (String × BillSettlementMode) :=
  [(ReceiptLedgerRole.TDS_RECEIVABLE, .TDS), (ReceiptLedgerRole.CLAIMS_ALLOWED, .CLAIM)]

def FREE_LEDGER_SETTLEMENT_MODE : BillSettlementMode := .JOURNAL

/-- What the other lines of one receipt are read against. -/
structure LineContext where
  companyId : String
  partyId : String
  party : ReceiptParty
  tcsBasis : TcsBasis
  ledgers : List AccLedgerMaster
  ledgerForRole : String → Option ResolvedRoleLedger

def lineField (index : ℕ) (name : String) : String :=
  "otherLines." ++ toString index ++ "." ++ name

/-- A line naming a role: its side, its ledger and whether it settles. -/
def normaliseRoleLine (context : LineContext) (index : ℕ) (line : SaveReceiptOtherLineDto)
    (role : String) : Except ReceiptError NormalisedOtherLine :=
  let mode := ROLE_SETTLEMENT_MODE.lookup role
  let settles := line.drCr = .DR && line.settlesBill.getD mode.isSome
  match ROLE_SIDE.lookup role with
  | none =>
      throwAccountsBadRequest "Validation failed"
        [⟨lineField index "role", ACC.INVALID,
          "\"" ++ role ++ "\" is not a role a receipt may post to. Use one of " ++
            ", ".intercalate (ROLE_SIDE.map Prod.fst) ++ ", or pick a ledger by hand."⟩]
  | some side =>
      if side ≠ line.drCr then
        throwAccountsBadRequest "Validation failed"
          [⟨lineField index "drCr", ACC.INVALID,
            role ++ " posts " ++ side.toString ++ ", not " ++ line.drCr.toString⟩]
      else match context.ledgerForRole role with
        | none =>
            throwAccountsBadRequest "Posting ledgers are not configured"
              [⟨lineField index "role", ACC.ROLE_UNMAPPED,
                "Nothing maps \"" ++ role ++
                  "\" to a ledger — accounts.acc_ledger_map has no row for it"⟩]
        | some mapped =>
            if settles ∧ mode = none then
              throwAccountsBadRequest "Validation failed"
                [⟨lineField index "settlesBill", ACC.INVALID,
                  role ++ " cannot settle a bill — it is not a deduction the customer withheld " ++
                    "from what they owe. Leave settlesBill off."⟩]
            else .ok
              { lineNo := index + 1
                role := some role
                ledgerId := mapped.ledgerId
                ledgerName := some mapped.ledgerName
                drCr := line.drCr
                amount := money line.amount
                settlesBill := settles
                narration := trimOrNull line.narration
                settlementMode := mode.getD FREE_LEDGER_SETTLEMENT_MODE
                isInstrumentSplit := false }

/-- A line naming a ledger the operator picked. -/
def normaliseFreeLine (context : LineContext) (index : ℕ) (line : SaveReceiptOtherLineDto)
    (ledgerId : String) : Except ReceiptError NormalisedOtherLine :=
  match context.ledgers.find? fun ledger => ledger.ledId = ledgerId && !ledger.ledIsDeleted &&
      (ledger.ledCompanyId = none || ledger.ledCompanyId = some context.companyId) with
  | none =>
      throwAccountsNotFound "Ledger not found" (lineField index "ledgerId")
        ("No live ledger " ++ ledgerId ++ " is visible to this company") VCH.LEDGER_NOT_FOUND
  | some ledger =>
      if !ledger.ledIsActive then
        throwAccountsBadRequest "Validation failed"
          [⟨lineField index "ledgerId", VCH.LEDGER_INACTIVE,
            "\"" ++ ledger.ledName ++ "\" is inactive"⟩]
      else if ledger.ledId = context.partyId then
        throwAccountsBadRequest "Validation failed"
          [⟨lineField index "ledgerId", ACC.PARTY_AS_LINE,
            "\"" ++ ledger.ledName ++
              "\" is the party of this receipt and cannot also be a line on it"⟩]
      else .ok
        { lineNo := index + 1
          role := none
          ledgerId := ledger.ledId
          ledgerName := some ledger.ledName
          drCr := line.drCr
          amount := money line.amount
          settlesBill := line.drCr = .DR && line.settlesBill.getD false
          narration := trimOrNull line.narration
          settlementMode := FREE_LEDGER_SETTLEMENT_MODE
          isInstrumentSplit := false }

/-- The body of the loop over the other lines. -/
def normaliseOtherLine (context : LineContext) (index : ℕ) (line : SaveReceiptOtherLineDto) :
    Except ReceiptError NormalisedOtherLine :=
  if money line.amount ≤ 0 then
    throwAccountsBadRequest "Validation failed"
      [⟨lineField index "amount", VCH.LINE_AMOUNT, "An other-ledger line must carry more than zero"⟩]
  else if isGiven line.role = isGiven line.ledgerId then
    throwAccountsBadRequest "Validation failed"
      [⟨lineField index "role", ACC.INVALID,
        "Give the line either a role — which every report can find again — or a ledger " ++
          "chosen by hand. Not both, and not neither."⟩]
  else if isGiven line.role then normaliseRoleLine context index line (line.role.getD "")
  else normaliseFreeLine context index line (line.ledgerId.getD "")

def normaliseOtherLinesFrom (context : LineContext) :
    ℕ → List SaveReceiptOtherLineDto → Except ReceiptError (List NormalisedOtherLine)
  | _, [] => .ok []
  | index, line :: rest => do
      let first ← normaliseOtherLine context index line
      let others ← normaliseOtherLinesFrom context (index + 1) rest
      .ok (first :: others)

/-- A split of the instruments the server can compute: the role it posts under, its
side and its total. -/
structure InstrumentSplit where
  role : String
  drCr : DrCr
  total : Decimal
  field : String
  what : String

def suppliedFor (role : String) (lines : List NormalisedOtherLine) : Decimal :=
  ((lines.filter fun line => line.role = some role).map NormalisedOtherLine.amount).sum

/-- The client's own lines of the role, marked so that the identity leaves a debit
split out. -/
def markSplit (spec : InstrumentSplit) (line : NormalisedOtherLine) : NormalisedOtherLine :=
  if line.role = some spec.role then { line with isInstrumentSplit := spec.drCr = .DR } else line

/-- The line of a split, added when the client left it out and refused when the client
sent one that disagrees with the tenders. -/
def seedInstrumentSplit (context : LineContext) (spec : InstrumentSplit)
    (lines : List NormalisedOtherLine) : Except ReceiptError (List NormalisedOtherLine) :=
  let supplied := suppliedFor spec.role lines
  if spec.total ≤ 0 then
    if 0 < supplied then
      throwAccountsBadRequest "Validation failed"
        [⟨spec.field, ACC.INVALID,
          "The payload carries " ++ toFixed supplied ++ " of " ++ spec.what ++
            ", but no tender row has any. Put it on the instrument it came from."⟩]
    else .ok lines
  else if lines.any fun line => line.role = some spec.role then
    if supplied ≠ spec.total then
      throwAccountsBadRequest "Validation failed"
        [⟨spec.field, ACC.INVALID,
          "The tenders carry " ++ toFixed spec.total ++ " of " ++ spec.what ++ " and the " ++
            spec.role ++ " line " ++ "says " ++ toFixed supplied ++ ". They must agree."⟩]
    else .ok (lines.map (markSplit spec))
  else match context.ledgerForRole spec.role with
    | none =>
        throwAccountsBadRequest "Posting ledgers are not configured"
          [⟨spec.field, ACC.ROLE_UNMAPPED,
            "The tenders carry " ++ toFixed spec.total ++ " of " ++ spec.what ++
              ", and nothing maps \"" ++ spec.role ++ "\" to a ledger"⟩]
    | some mapped => .ok (lines ++ [
        { lineNo := lines.length + 1
          role := some spec.role
          ledgerId := mapped.ledgerId
          ledgerName := some mapped.ledgerName
          drCr := spec.drCr
          amount := spec.total
          settlesBill := false
          narration := none
          settlementMode := FREE_LEDGER_SETTLEMENT_MODE
          isInstrumentSplit := spec.drCr = .DR }])

def bankChargesSplit (tenders : List NormalisedTender) : InstrumentSplit where
  role := ReceiptLedgerRole.BANK_CHARGES
  drCr := .DR
  total := sum (tenders.map NormalisedTender.mdrAmt)
  field := "tenders.tdMdrAmt"
  what := "bank charges"

def surchargeSplit (tenders : List NormalisedTender) : InstrumentSplit where
  role := ReceiptLedgerRole.SURCHARGE_RECOVERED
  drCr := .CR
  total := sum (tenders.map NormalisedTender.surchargeAmt)
  field := "tenders.tdSurchargeAmt"
  what := "card surcharge"

/-- What the party's flags ask for that the payload has not got. -/
def expectedRoles (context : LineContext) (lines : List NormalisedOtherLine) : List String :=
  let isPresent (role : String) : Bool := lines.any fun line => line.role = some role
  (if context.party.ledIsTdsApplicable && !isPresent ReceiptLedgerRole.TDS_RECEIVABLE then
    [ReceiptLedgerRole.TDS_RECEIVABLE] else []) ++
  (if context.party.ledIsTcsApplicable && context.tcsBasis = .RECEIPT &&
      !isPresent ReceiptLedgerRole.TCS_PAYABLE then
    [ReceiptLedgerRole.TCS_PAYABLE] else [])

/-- The normalised other-ledger band and the roles it should have had. -/
structure OtherLines where
  lines : List NormalisedOtherLine
  missing : List String

/-- The other-ledger band, validated and completed. -/
def normaliseOtherLines (context : LineContext) (lines : List SaveReceiptOtherLineDto)
    (tenders : List NormalisedTender) : Except ReceiptError OtherLines := do
  let normalised ← normaliseOtherLinesFrom context 0 lines
  let charged ← seedInstrumentSplit context (bankChargesSplit tenders) normalised
  let completed ← seedInstrumentSplit context (surchargeSplit tenders) charged
  .ok ⟨completed, expectedRoles context completed⟩

end ErpServer.Receipt
