import ErpServer.Vouchers.Types

/-!
# The money side of a line

The money side of a voucher is a tender, never a typed cash or bank ledger.  A line's
instrument is checked against its tender and the type; a payment's cheque takes the next leaf
of its book, counted on across the lines of the voucher.
-/

namespace ErpServer.Vouchers

open Lib
open Receipt (Decimal DrCr)

variable (cases : Text.CaseMapping)

def opposite : DrCr → DrCr
  | .DR => .CR
  | .CR => .DR

def rowText (rowNo : ℕ) : String := "Row " ++ toString rowNo

def lineField (line : TypedLineInput) : String := "lines." ++ toString line.rowNo

def ofLine (line : TypedLineInput) (code : VoucherErrorCode) (message field : String) : Refusal :=
  ⟨code, rowText line.rowNo ++ ": " ++ message, some (lineField line ++ field), some line.rowNo⟩

/-- A text trimmed, none when nothing is left of it. -/
def trimmed (text : Option Text) : Option Text :=
  match Text.trim (text.getD []) with
  | [] => none
  | rest => some rest

def shown (text : Option Text) : String := String.ofList (text.getD [])

/-! ## No typed cash or bank ledger -/

def CONTRA_TYPE_CODE : String := "Con"
def CASH_TYPE_ID : ℕ := 1
def BANK_TYPE_ID : ℕ := 6

/-- Whether a Contra line's tender is that of its ledger: cash on cash, a bank's on the bank. -/
def contraFits (tender : TenderFacts) (ledger : LedgerFacts) : Bool :=
  (tender.typeId = CASH_TYPE_ID ∧ isMoneyLedger cases ledger ∧ !isBankLedger cases ledger) ∨
    (tender.typeId = BANK_TYPE_ID ∧ tender.ledgerId = ledger.ledId)

def contraRefusal (line : TypedLineInput) (ledger : LedgerFacts) (tender : TenderFacts) :
    Refusal :=
  ofLine line .INSTRUMENT_TENDER
    (if tender.typeId = CASH_TYPE_ID ∨ tender.typeId = BANK_TYPE_ID then
      "\"" ++ tender.name ++ "\" is " ++
        (if tender.typeId = CASH_TYPE_ID then "cash" else tender.ledgerName ++ "'s") ++ "; " ++
        ledger.name ++ " takes " ++
        (if isBankLedger cases ledger then "its own BANK tender"
          else if isMoneyLedger cases ledger then "the CASH tender"
          else "no tender — a Contra line is cash or bank")
    else "a Contra moves money between cash and bank — \"" ++ tender.name ++ "\" (" ++
      tender.typeName ++ ") is neither") ".tenderId"

def moneySideRule (input : DeriveInput) (line : TypedLineInput) (ledger : LedgerFacts) :
    List Refusal :=
  let isContra := input.type.typeCode = CONTRA_TYPE_CODE
  let money := isMoneyLedger cases ledger
  if line.tenderId.isSome ∧ ¬isContra then
    [ofLine line .INSTRUMENT_NOT_ALLOWED ("tenderId is a Contra line's — a " ++
      input.type.typeName ++ " names its tender in the line's instrument") ".tenderId"]
  else if isContra then
    match line.tenderId with
    | none =>
        [ofLine line .MONEY_LINE_NO_TENDER ("a Contra moves money between cash and bank — pick " ++
          "this side's tender (Cash, or the bank's NEFT / IMPS tender)") ".tenderId"]
    | some tenderId =>
        match (input.tenders tenderId).filter fun tender =>
            !tender.isDeleted && tender.isActive && tender.companyId = input.company.companyId with
        | none =>
            [ofLine line .INSTRUMENT_TENDER "no such live tender for this company" ".tenderId"]
        | some tender =>
            if contraFits cases tender ledger then [] else [contraRefusal cases line ledger tender]
  else if !money then []
  else if input.type.instruments then
    [ofLine line .MONEY_LINE_NO_TENDER (ledger.name ++ " is a cash / bank ledger — the money " ++
      "side is picked from the tender list (the line's instrument), not typed") ".ledgerId"]
  else
    [ofLine line .MONEY_LEDGER_NOT_ALLOWED (ledger.name ++ " is a cash / bank ledger, and a " ++
      input.type.typeName ++ " has no money side — money in or out goes on a Receipt / Payment " ++
      "Voucher with its tender (bank charges or interest from the statement: a Payment / " ++
      "Receipt with the bank's NEFT tender, never a Journal)") ".ledgerId"]

/-! ## Instruments -/

/-- The leaves promised to earlier lines, per book. -/
abbrev Promised := OrderedMap Uuid ℕ

structure InstrumentRead where
  instrument : InternalInstrument
  promised : Promised
  notes : List Refusal

def PAYABLE_TENDER_TYPES : List ℕ := [1, 3, 5, 6]

/-- A year that is closed, or locked, takes no cheque. -/
def closedNotes (input : DeriveInput) (line : TypedLineInput) (posts : IsoDate) (cheque : String) :
    List Refusal :=
  let year := posts.accYearOfDate
  match (input.closedYears year).filter (· ≠ "") with
  | none => []
  | some closed =>
      [ofLine line (if "locked".isPrefixOf closed then .PERIOD_LOCKED else .YEAR_CLOSED)
        (cheque ++ " would post on " ++ posts.text ++ ", and " ++ year ++ " is " ++ closed)
        ".instrument.instrumentDate"]

/-- Where an issued instrument posts: the tender's own ledger for cash, else the bank named. -/
structure IssuedFrom where
  ledgerId : Uuid
  ledgerName : String
  bankLedgerId : Option Uuid

def issuedFrom (input : DeriveInput) (line : TypedLineInput) (ins : InstrumentInput)
    (tender : TenderFacts) : Except Refusal IssuedFrom :=
  if tender.isCash then
    .ok ⟨tender.settlementLedgerId.getD tender.ledgerId, tender.ledgerName, none⟩
  else
    match ins.bankLedgerId with
    | none =>
        .error (ofLine line .BANK_REQUIRED ("say which bank account the " ++
          String.ofList (cases.toLowerCase tender.typeName.toList) ++ " is drawn on")
          ".instrument.bankLedgerId")
    | some bankId =>
        match (input.ledgers bankId).filter fun bank =>
            isBankLedger cases bank && bank.isActive && !bank.isDeleted with
        | none =>
            .error (ofLine line .BANK_REQUIRED
              (((input.ledgers bankId).map (·.name)).getD "that ledger" ++
                " is not a live bank account (Bank Accounts / Bank OD)")
              ".instrument.bankLedgerId")
        | some bank =>
            if tender.typeId ≠ CHEQUE_TENDER_TYPE_ID ∧ tender.needsRef ∧
                trimmed ins.refNo = none then
              .error (ofLine line .INSTRUMENT_TENDER ("\"" ++ tender.name ++
                "\" needs a reference number") ".instrument.refNo")
            else .ok ⟨bank.ledId, bank.name, some bank.ledId⟩

/-- The book a cheque's leaf comes from, and the leaf. -/
def nextLeafOf (input : DeriveInput) (promised : Promised) (line : TypedLineInput)
    (ins : InstrumentInput) (from_ : IssuedFrom) : Except Refusal (ChequeBookFacts × ℕ) :=
  match (ins.chequeBookId.bind input.chequeBooks).filter fun book =>
      !book.isDeleted && book.companyId = input.company.companyId with
  | none =>
      .error (ofLine line .BOOK_REQUIRED
        (if ins.chequeBookId.isSome then "no such cheque book for this company"
          else "a cheque names the book its leaf comes from") ".instrument.chequeBookId")
  | some book =>
      let offset := (promised.get? book.chequeBookId).getD 0
      let leafNo := book.nextLeaf + offset
      if some book.bankLedgerId ≠ from_.bankLedgerId then
        .error (ofLine line .BOOK_BANK ("book " ++ book.bookNo ++ " is drawn on " ++
          book.bankName ++ ", not " ++ from_.ledgerName) ".instrument.chequeBookId")
      else if book.status ≠ .ACTIVE ∨ book.leafTo < leafNo then
        .error (ofLine line .BOOK_FINISHED
          (if book.status = .CLOSED then "book " ++ book.bookNo ++ " is closed"
            else "book " ++ book.bookNo ++ " has no leaf left" ++
              (if 0 < offset then " for this line" else "") ++ " — start a new book")
          ".instrument.chequeBookId")
      else .ok (book, leafNo)

/-- A payment's instrument: a cheque takes the next leaf of its book. -/
def readIssuedInstrument (input : DeriveInput) (promised : Promised) (line : TypedLineInput)
    (ins : InstrumentInput) (party : LedgerFacts) (tender : TenderFacts) :
    Except Refusal InstrumentRead :=
  let isCheque := tender.typeId = CHEQUE_TENDER_TYPE_ID
  if tender.typeId ∉ PAYABLE_TENDER_TYPES then
    .error (ofLine line .INSTRUMENT_TENDER ("\"" ++ tender.name ++ "\" (" ++ tender.typeName ++
      ") cannot pay a " ++ input.type.typeName ++ " — use cash, a cheque, UPI or a bank transfer")
      ".instrument.tenderId")
  else do
    let from_ ← issuedFrom cases input line ins tender
    let instrumentDate :=
      if isCheque then some (ins.instrumentDate.getD input.header.date) else none
    let isPostDated := isCheque && instrumentDate.any fun date => input.header.date.before date
    let postsOn := if isPostDated then instrumentDate else none
    let instrument : InternalInstrument :=
      { lineRowNo := line.rowNo
        tender := tender
        ledgerId := from_.ledgerId
        ledgerName := from_.ledgerName
        refNo := trimmed ins.refNo
        instrumentDate := instrumentDate
        bankName := from_.bankLedgerId.map fun _ => from_.ledgerName.toList
        isCheque := isCheque
        isPostDated := isPostDated
        postsOn := postsOn
        cheque := none
        settlementMode := settlementModeForTenderType tender.typeId
        issued := true
        bankLedgerId := from_.bankLedgerId
        chequeBook := none
        nextLeaf := none
        favouring := some ((trimmed ins.favouring).getD party.name.toList)
        acPayee := isCheque && ins.acPayee.getD true }
    if isCheque then
      let (book, leafNo) ← nextLeafOf input promised line ins from_
      let leaf := formatLeaf leafNo book.leafWidth
      .ok
        { instrument := { instrument with
            refNo := some leaf, chequeBook := some book, nextLeaf := some leaf }
          promised := promised.set book.chequeBookId
            ((promised.get? book.chequeBookId).getD 0 + 1)
          notes := closedNotes input line (postsOn.getD input.header.date) "the cheque" }
    else .ok ⟨instrument, promised, []⟩

/-- What a received cheque must say and does not. -/
def missingDetails (ins : InstrumentInput) : List String :=
  (if ins.instrumentDate.isNone then ["instrumentDate"] else []) ++
    (if (trimmed ins.refNo).isNone then ["refNo"] else []) ++
    if (trimmed ins.bankName).isNone then ["bankName"] else []

/-- What a received instrument must carry: a cheque its details, others their reference. -/
def receivedRefusal (line : TypedLineInput) (ins : InstrumentInput) (tender : TenderFacts) :
    Option Refusal :=
  if tender.typeId = CHEQUE_TENDER_TYPE_ID then
    match missingDetails ins with
    | [] => none
    | first :: rest =>
        some (ofLine line .CHEQUE_DETAILS ("a cheque needs " ++
          ", ".intercalate (first :: rest)) (".instrument." ++ first))
  else if tender.needsRef ∧ trimmed ins.refNo = none then
    some (ofLine line .INSTRUMENT_TENDER ("\"" ++ tender.name ++ "\" needs a reference number")
      ".instrument.refNo")
  else none

def registeredNotes (input : DeriveInput) (line : TypedLineInput) (ledger : LedgerFacts)
    (refNo : Option Text) (posts : IsoDate) : List Refusal :=
  let year := posts.accYearOfDate
  if input.registeredCheques ledger.ledId (refNo.getD []) year then
    [ofLine line .CHEQUE_DETAILS ("cheque " ++ shown refNo ++ " of " ++ ledger.name ++
      " is already in the register for " ++ year) ".instrument.refNo"]
  else []

/-- An instrument received: a cheque dated later than the voucher is post-dated. -/
def readReceivedInstrument (input : DeriveInput) (promised : Promised) (line : TypedLineInput)
    (ins : InstrumentInput) (ledger : LedgerFacts) (tender : TenderFacts) :
    Except Refusal InstrumentRead :=
  match receivedRefusal line ins tender with
  | some refusal => .error refusal
  | none =>
      let isCheque := tender.typeId = CHEQUE_TENDER_TYPE_ID
      let isPostDated := isCheque && ins.instrumentDate.any fun date =>
        input.header.date.before date
      let postsOn := if isPostDated then ins.instrumentDate else none
      let posts := postsOn.getD input.header.date
      let refNo := trimmed ins.refNo
      .ok
        { instrument :=
            { lineRowNo := line.rowNo
              tender := tender
              ledgerId := tender.settlementLedgerId.getD tender.ledgerId
              ledgerName := tender.ledgerName
              refNo := refNo
              instrumentDate := ins.instrumentDate
              bankName := trimmed ins.bankName
              isCheque := isCheque
              isPostDated := isPostDated
              postsOn := postsOn
              cheque := if isCheque then
                  some ⟨trimmed (ins.cheque.bind (·.drawerName)),
                    trimmed (ins.cheque.bind (·.bankBranch)), trimmed (ins.cheque.bind (·.ifsc)),
                    trimmed (ins.cheque.bind (·.micr))⟩
                else none
              settlementMode := settlementModeForTenderType tender.typeId
              issued := false
              bankLedgerId := none
              chequeBook := none
              nextLeaf := none
              favouring := none
              acPayee := false }
          promised := promised
          notes := if isCheque then
              closedNotes input line posts ("cheque " ++ shown refNo) ++
                registeredNotes input line ledger refNo posts
            else [] }

/-- A line's instrument, checked against its tender and the type. -/
def readInstrument (input : DeriveInput) (promised : Promised) (line : TypedLineInput)
    (ins : InstrumentInput) (ledger : LedgerFacts) : Except Refusal InstrumentRead :=
  if !input.type.instruments then
    .error (ofLine line .INSTRUMENT_NOT_ALLOWED ("a " ++ input.type.typeName ++
      " takes no instruments — the money side is typed") ".instrument")
  else if input.type.partySide.fixed.any fun side => line.drCr ≠ side then
    .error (ofLine line .INSTRUMENT_NOT_ALLOWED ("an instrument sits on a " ++
      ((input.type.partySide.fixed.map DrCr.toString).getD "ANY") ++
      " line (the party's side); the " ++ line.drCr.toString ++ " leg is generated from it")
      ".instrument")
  else
    match (input.tenders ins.tenderId).filter fun tender =>
        !tender.isDeleted && tender.companyId = input.company.companyId with
    | none =>
        .error (ofLine line .INSTRUMENT_TENDER "no such tender for this company"
          ".instrument.tenderId")
    | some tender =>
        if !tender.isActive then
          .error (ofLine line .INSTRUMENT_TENDER ("tender \"" ++ tender.name ++ "\" is inactive")
            ".instrument.tenderId")
        else if tender.typeId ∈ EXCLUDED_INSTRUMENT_TYPES then
          .error (ofLine line .INSTRUMENT_TENDER ("\"" ++ tender.name ++ "\" (" ++
            tender.typeName ++ ") moves no money in and cannot be an instrument here")
            ".instrument.tenderId")
        else if input.type.partySide = .DR then
          readIssuedInstrument cases input promised line ins ledger tender
        else readReceivedInstrument input promised line ins ledger tender

end ErpServer.Vouchers
