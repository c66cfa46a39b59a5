import ErpServer.Receipt.Types

/-!
# Counting a drawer

The lines of a count, priced and keyed to the tenders the session expects, and the
comparison of what was counted with what was expected.
-/

namespace ErpServer.Till.Count

open Lib
open Receipt (Decimal)

def CASH_TENDER_TYPE_ID : ℕ := 1

inductive TenderCloseMode where
  | DENOM
  | SLIPS
  | STATEMENT
  | NONE
  deriving DecidableEq, Repr

def TenderCloseMode.toString : TenderCloseMode → String
  | .DENOM => "DENOM"
  | .SLIPS => "SLIPS"
  | .STATEMENT => "STATEMENT"
  | .NONE => "NONE"

/-- Only cash and slips are counted at the till. -/
def TenderCloseMode.countable : TenderCloseMode → Bool
  | .DENOM | .SLIPS => true
  | .STATEMENT | .NONE => false

structure AccTenderType where
  ttmTypeId : ℕ
  ttmTypeName : String
  ttmCloseMode : TenderCloseMode
  deriving DecidableEq, Repr

/-- A map filled from the rows of a query: the last row of an id wins. -/
def typeById (types : List AccTenderType) : OrderedMap ℕ AccTenderType :=
  OrderedMap.ofList (types.map fun row => (row.ttmTypeId, row))

/-- What a tender should come to. -/
structure TenderExpectation where
  tenderTypeId : ℕ
  tenderTypeName : String
  closeMode : TenderCloseMode
  tenderId : Option String
  tenderName : Option String
  ledgerId : Option String
  opening : Decimal
  sales : Decimal
  refund : Decimal
  receipt : Decimal
  payment : Decimal
  expense : Decimal
  movedIn : Decimal
  movedOut : Decimal
  paidFromBank : Decimal
  txnCount : ℕ
  noRefCount : ℕ
  deriving DecidableEq, Repr

/-- open + sales − refund + receipt − payment − expense + in − out. -/
def TenderExpectation.expected (row : TenderExpectation) : Decimal :=
  row.opening + row.sales - row.refund + row.receipt - row.payment - row.expense + row.movedIn -
    row.movedOut

/-- A line of a count, as it is sent. -/
structure TillCountLineInput where
  tenderTypeId : ℕ
  tenderId : Option String
  denominationId : Option String
  qty : ℕ
  enteredAmount : Decimal
  batchRef : Option String
  deriving DecidableEq, Repr

/-- A line with its amount. -/
structure PricedLine extends TillCountLineInput where
  faceValue : Decimal
  amount : Decimal
  deriving DecidableEq, Repr

structure CountSettings where
  cashTolerance : Decimal
  noncashTolerance : Decimal
  closeByTerminal : Bool
  deriving DecidableEq, Repr

inductive CountErrorCode where
  | COUNT_INVALID
  deriving DecidableEq, Repr

structure CountError where
  code : CountErrorCode
  message : String
  field : String
  deriving DecidableEq, Repr

def lineField (index : ℕ) (name : String) : String :=
  "lines." ++ toString index ++ "." ++ name

def countInvalid (message : String) (index : ℕ) (name : String) : CountError :=
  ⟨.COUNT_INVALID, message, lineField index name⟩

/-- An id that was sent: an empty one counts as none. -/
def sent (id : Option String) : Option String := id.filter fun text => text ≠ ""

/-- The two parts the key string joins, `*` for no tender. -/
def tenderKey (typeId : ℕ) (tenderId : Option String) : ℕ × String :=
  (typeId, tenderId.getD "*")

def TenderExpectation.key (row : TenderExpectation) : ℕ × String :=
  tenderKey row.tenderTypeId row.tenderId

/-! ## What the session expects -/

/-- The till's own cash tender. -/
structure TillCashTender where
  tenderId : String
  tenderName : String
  ledgerId : String

/-- The tender rows of a session, summed for each type and tender. -/
structure TenderTotals where
  typeId : ℕ
  tenderId : Option String
  tenderName : Option String
  ledgerId : Option String
  sales : Decimal
  refund : Decimal
  receipt : Decimal
  payment : Decimal
  expense : Decimal
  txnCount : ℕ
  noRefCount : ℕ

/-- The drawer's row before the cash rows are added. -/
def cashRow (types : List AccTenderType) (cashTender : TillCashTender)
    (floatCounted movedIn movedOut : Decimal) : TenderExpectation where
  tenderTypeId := CASH_TENDER_TYPE_ID
  tenderTypeName :=
    (((typeById types).get? CASH_TENDER_TYPE_ID).map AccTenderType.ttmTypeName).getD "CASH"
  closeMode := .DENOM
  tenderId := some cashTender.tenderId
  tenderName := some cashTender.tenderName
  ledgerId := some cashTender.ledgerId
  opening := floatCounted
  sales := 0
  refund := 0
  receipt := 0
  payment := 0
  expense := 0
  movedIn := movedIn
  movedOut := movedOut
  paidFromBank := 0
  txnCount := 0
  noRefCount := 0

/-- Every cash tender row lands in the one drawer. -/
def addCash (cash : TenderExpectation) (row : TenderTotals) : TenderExpectation :=
  { cash with
    sales := cash.sales + row.sales
    refund := cash.refund + row.refund
    receipt := cash.receipt + row.receipt
    payment := cash.payment + row.payment
    expense := cash.expense + row.expense
    txnCount := cash.txnCount + row.txnCount }

/-- The row of a tender that is not cash.  What it paid out is the bank's, and not
counted. -/
def otherRow (types : List AccTenderType) (row : TenderTotals) : TenderExpectation where
  tenderTypeId := row.typeId
  tenderTypeName :=
    (((typeById types).get? row.typeId).map AccTenderType.ttmTypeName).getD (toString row.typeId)
  closeMode := (((typeById types).get? row.typeId).map AccTenderType.ttmCloseMode).getD .NONE
  tenderId := row.tenderId
  tenderName := row.tenderName
  ledgerId := row.ledgerId
  opening := 0
  sales := row.sales
  refund := row.refund
  receipt := row.receipt
  payment := 0
  expense := 0
  movedIn := 0
  movedOut := 0
  paidFromBank := row.payment + row.expense
  txnCount := row.txnCount
  noRefCount := row.noRefCount

/-- Cash first, always, then a row for each other type and tender. -/
def expected (types : List AccTenderType) (cashTender : TillCashTender)
    (floatCounted movedIn movedOut : Decimal) (rows : List TenderTotals) :
    List TenderExpectation :=
  (rows.filter fun row => row.typeId = CASH_TENDER_TYPE_ID).foldl addCash
      (cashRow types cashTender floatCounted movedIn movedOut) ::
    (rows.filter fun row => row.typeId ≠ CASH_TENDER_TYPE_ID).map (otherRow types)

/-! ## The lines -/

structure TillDenomination where
  tdnId : String
  tdnValue : Decimal

def valueOf (denominations : List TillDenomination) : OrderedMap String Decimal :=
  OrderedMap.ofList (denominations.map fun row => (row.tdnId, row.tdnValue))

/-- The amount of one line: face value by pieces, or the amount typed. -/
def priceLine (denominations : List TillDenomination) (index : ℕ) (line : TillCountLineInput) :
    Except CountError PricedLine :=
  match sent line.denominationId with
  | some denominationId =>
      match (valueOf denominations).get? denominationId with
      | none => .error (countInvalid "Unknown or withdrawn denomination" index "denominationId")
      | some face =>
          if line.tenderTypeId ≠ CASH_TENDER_TYPE_ID then
            .error (countInvalid "Only cash is counted by denomination" index "denominationId")
          else .ok { line with faceValue := face, amount := face * line.qty }
  | none =>
      if line.enteredAmount < 0 then
        .error (countInvalid "An amount counted cannot be negative" index "enteredAmount")
      else .ok { line with faceValue := 0, amount := line.enteredAmount }

def priceLines (denominations : List TillDenomination) (lines : List TillCountLineInput) :
    Except CountError (List PricedLine) :=
  lines.zipIdx.mapM fun entry => priceLine denominations entry.2 entry.1

def checkCountable (types : List AccTenderType) (entry : TillCountLineInput × ℕ) :
    Except CountError Unit :=
  match (typeById types).get? entry.1.tenderTypeId with
  | none =>
      .error (countInvalid ("Unknown tender type " ++ toString entry.1.tenderTypeId) entry.2
        "tenderTypeId")
  | some type =>
      if type.ttmCloseMode.countable then .ok ()
      else
        .error (countInvalid
          (type.ttmTypeName ++ " is not counted at the till (" ++ type.ttmCloseMode.toString ++
            "): it is reconciled against its statement")
          entry.2 "tenderTypeId")

/-- STATEMENT and NONE tenders are never counted at the till. -/
def assertCountable (types : List AccTenderType) (lines : List TillCountLineInput) :
    Except CountError Unit :=
  lines.zipIdx.forM (checkCountable types)

/-- The rows of a type. -/
def rowsOfType (expectations : List TenderExpectation) (typeId : ℕ) : List TenderExpectation :=
  expectations.filter fun row => row.tenderTypeId = typeId

def checkTerminal (expectations : List TenderExpectation) (entry : TillCountLineInput × ℕ) :
    Except CountError Unit :=
  if entry.1.tenderTypeId = CASH_TENDER_TYPE_ID ∨ (sent entry.1.tenderId).isSome then .ok ()
  else
    match rowsOfType expectations entry.1.tenderTypeId with
    | first :: second :: rest =>
        let terminals := first :: second :: rest
        .error (countInvalid
          ("This session took " ++ first.tenderTypeName ++ " money on " ++
            toString terminals.length ++ " terminals (" ++
            ", ".intercalate (terminals.map fun row =>
              (row.tenderName.orElse fun _ => row.tenderId).getD "null") ++
            "): count each batch on its own line, naming its tender")
          entry.2 "tenderId")
    | _ => .ok ()

/-- Under `tender.close_by_terminal`, a line of a type taken on two terminals says which. -/
def assertTerminalNamed (expectations : List TenderExpectation)
    (lines : List TillCountLineInput) : Except CountError Unit :=
  lines.zipIdx.forM (checkTerminal expectations)

/-! ## The comparison -/

structure CountedTender where
  tenderTypeId : ℕ
  tenderId : Option String
  amount : Decimal
  slips : ℕ
  deriving DecidableEq, Repr

/-- The type and tender a line is counted under: the drawer, the tender it names, or the
only row of its type. -/
def placeOf (expectations : List TenderExpectation) (line : PricedLine) : ℕ × Option String :=
  if line.tenderTypeId = CASH_TENDER_TYPE_ID then
    match expectations.find? fun row => row.tenderTypeId = CASH_TENDER_TYPE_ID with
    | some cash => (cash.tenderTypeId, cash.tenderId)
    -- There always is a cash row.
    | none => (line.tenderTypeId, none)
  else
    match sent line.tenderId, rowsOfType expectations line.tenderTypeId with
    | none, [only] => (line.tenderTypeId, only.tenderId)
    | _, _ => (line.tenderTypeId, line.tenderId)

def slipsOf (line : PricedLine) : ℕ :=
  if line.tenderTypeId = CASH_TENDER_TYPE_ID then 0 else line.qty

def addCounted (expectations : List TenderExpectation)
    (counted : OrderedMap (ℕ × String) CountedTender) (line : PricedLine) :
    OrderedMap (ℕ × String) CountedTender :=
  let place := placeOf expectations line
  let key := tenderKey place.1 place.2
  let row := (counted.get? key).getD ⟨place.1, place.2, 0, 0⟩
  counted.set key { row with amount := row.amount + line.amount, slips := row.slips + slipsOf line }

def countedByTender (priced : List PricedLine) (expectations : List TenderExpectation) :
    OrderedMap (ℕ × String) CountedTender :=
  priced.foldl (addCounted expectations) OrderedMap.empty

/-- A tender compared: `counted` is `none` where it is not counted at the till. -/
structure ComparedRow where
  expectation : TenderExpectation
  counted : Option Decimal
  slips : Option ℕ
  variance : Decimal
  tolerance : Decimal
  within : Bool
  deriving DecidableEq, Repr

/-- A counted tender nobody expected: a slip row with nothing expected. -/
def orphan (counted : CountedTender) : TenderExpectation where
  tenderTypeId := counted.tenderTypeId
  tenderTypeName := toString counted.tenderTypeId
  closeMode := .SLIPS
  tenderId := counted.tenderId
  tenderName := none
  ledgerId := none
  opening := 0
  sales := 0
  refund := 0
  receipt := 0
  payment := 0
  expense := 0
  movedIn := 0
  movedOut := 0
  paidFromBank := 0
  txnCount := 0
  noRefCount := 0

def compareExpected (settings : CountSettings)
    (counted : OrderedMap (ℕ × String) CountedTender) (row : TenderExpectation) : ComparedRow :=
  if row.closeMode.countable then
    let hit := counted.get? row.key
    let amount := (hit.map CountedTender.amount).getD 0
    let tolerance :=
      if row.tenderTypeId = CASH_TENDER_TYPE_ID then settings.cashTolerance
      else settings.noncashTolerance
    let variance := amount - row.expected
    { expectation := row
      counted := some amount
      slips := some ((hit.map CountedTender.slips).getD 0)
      variance, tolerance
      within := decide (|variance| ≤ tolerance) }
  else
    { expectation := row
      counted := none
      slips := none
      variance := 0
      tolerance := 0
      within := true }

def compareOrphan (settings : CountSettings) (counted : CountedTender) : ComparedRow where
  expectation := orphan counted
  counted := some counted.amount
  slips := some counted.slips
  variance := counted.amount
  tolerance := settings.noncashTolerance
  within := decide (|counted.amount| ≤ settings.noncashTolerance)

/-- The counted tenders no expectation row has. -/
def unexpected (expectations : List TenderExpectation)
    (counted : OrderedMap (ℕ × String) CountedTender) : List ((ℕ × String) × CountedTender) :=
  counted.entries.filter fun entry => entry.1 ∉ expectations.map TenderExpectation.key

/-- Expected against counted, row by row. -/
def compare (expectations : List TenderExpectation)
    (counted : OrderedMap (ℕ × String) CountedTender) (settings : CountSettings) :
    List ComparedRow :=
  expectations.map (compareExpected settings counted) ++
    (unexpected expectations counted).map fun entry => compareOrphan settings entry.2

/-- The rows of a count, from its lines. -/
def countRows (types : List AccTenderType) (denominations : List TillDenomination)
    (settings : CountSettings) (expectations : List TenderExpectation)
    (lines : List TillCountLineInput) : Except CountError (List PricedLine × List ComparedRow) := do
  let priced ← priceLines denominations lines
  assertCountable types lines
  -- One batch total for each terminal.
  (if settings.closeByTerminal then assertTerminalNamed expectations lines else pure ())
  pure (priced, compare expectations (countedByTender priced expectations) settings)

end ErpServer.Till.Count
