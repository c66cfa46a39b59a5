import ErpServer.Lib.DoubleEntry
import ErpServer.Vouchers.TdsBand

/-!
# The party leg and the balance

A voucher with one party ends on the leg that balances it.  Today's legs must agree; a
post-dated pair balances by itself.
-/

namespace ErpServer.Vouchers

open Lib Lib.DoubleEntry
open Receipt (Decimal DrCr money toFixed)

variable (cases : Text.CaseMapping)

def legReading : Reading InternalLeg Decimal where
  isDebit leg := leg.drCr = .DR
  amount := InternalLeg.amount

/-! ## The party leg -/

/-- The balancing leg, when the lines leave something for the party. -/
structure Balancing where
  party : Option DerivedParty
  legs : List InternalLeg
  notes : List Note

def nothingLeft (partySide : DrCr) (dr cr : Decimal) : Refusal :=
  ofHeader .UNBALANCED ("The lines leave nothing for the party: " ++
    (if partySide = .CR then "debits" else "credits") ++ " " ++
    toFixed (if partySide = .CR then dr else cr) ++ " against " ++
    toFixed (if partySide = .CR then cr else dr) ++ " on the party's own side") "lines"

def partyLeg (party : LedgerFacts) (partySide : DrCr) (amount : Decimal) (typed : List TypedLeg) :
    InternalLeg where
  rowNo := 0
  lineRowNo := none
  drCr := partySide
  ledger := ⟨party.ledId, party.name, some party.groupName, some party⟩
  amount := money amount
  source := .PARTY
  role := none
  remarks := some "Balances the voucher"
  fromRows := typed.map (·.lineRowNo)
  gst := none
  isTdsBase := false
  oppLedgerId := none
  postDated := false
  postsOn := none
  instrument := none

/-- What the legs leave for a party on this side. -/
def leftForParty (partySide : DrCr) (legs : List InternalLeg) : Decimal :=
  if partySide = .CR then legReading.debits legs - legReading.credits legs
  else legReading.credits legs - legReading.debits legs

def balanceParty (read : PartyRead) (typed : List TypedLeg) (legs : List InternalLeg) :
    Balancing :=
  match read.party, read.side with
  | some party, some partySide =>
      let amount := leftForParty partySide legs
      if amount ≤ 0 then
        ⟨none, [], [.refuse (nothingLeft partySide (legReading.debits legs)
          (legReading.credits legs))]⟩
      else
        ⟨some ⟨party, partySide, money amount, legs.length + 1⟩,
          [partyLeg party partySide amount typed], []⟩
  | _, _ => ⟨none, [], []⟩

/-! ## The opposite ledger -/

/-- The party's ledger, or those of the parties on the lines. -/
def partyLedgerIds (type : VoucherTypeRules) (party : Option DerivedParty)
    (typed : List TypedLeg) : List Uuid :=
  match party with
  | some party => [party.ledger.ledId]
  | none =>
      if type.partyMode = .MANY then
        ((typed.filter (·.ledger.isParty)).map (·.ledger.ledId)).dedup
      else []

/-- The party on every other leg, when there is exactly one; an instrument's pair already
names each other. -/
def nameOpposite (ledgerIds : List Uuid) (legs : List InternalLeg) : List InternalLeg :=
  match ledgerIds with
  | [only] =>
      legs.map fun leg =>
        if leg.instrument.isSome then leg
        else { leg with oppLedgerId := if leg.ledger.ledId = only then none else some only }
  | _ => legs

/-! ## The balance -/

structure Totals where
  debit : Decimal
  credit : Decimal
  difference : Decimal

def todayLegs (legs : List InternalLeg) : List InternalLeg := legs.filter (!·.postDated)

def totalsOf (legs : List InternalLeg) : Totals :=
  let debit := money (legReading.debits (todayLegs legs))
  let credit := money (legReading.credits (todayLegs legs))
  ⟨debit, credit, debit - credit⟩

def unbalanced (totals : Totals) : Refusal :=
  ofHeader .UNBALANCED ("The voucher does not balance: debits " ++ toFixed totals.debit ++
    ", credits " ++ toFixed totals.credit ++ ", " ++
    (if 0 < totals.difference then "debit" else "credit") ++ " heavy by " ++
    toFixed |totals.difference|) "lines"

def balanceNotes (type : VoucherTypeRules) (typed : List TypedLeg) (legs : List InternalLeg) :
    List Note :=
  (if todayLegs legs = [] ∧ typed ≠ [] then
    [.refuse (ofHeader .NO_LINES ("Every line is post-dated, so nothing posts today — " ++
      "a post-dated cheque needs at least one line that does") "lines")] else []) ++
  if (totalsOf legs).difference ≠ 0 ∧ typed ≠ [] ∧ type.partyMode ≠ .ONE then
    [.refuse (unbalanced (totalsOf legs))]
  else []

end ErpServer.Vouchers

namespace ErpServer.Vouchers

open Lib
open Receipt (Decimal DrCr BillSettlementMode money toFixed)

/-! ## Bills and allocations

An allocation settles a live bill of its party line, on the other side, within what the bill
has pending.  What a receipt or a payment leaves unallocated is an advance; other types may
raise a bill. -/

variable (cases : Text.CaseMapping)

/-- A leg on a party, as the allocations name it: by its line, or line 0 for the header's. -/
structure PartyLine where
  lineRowNo : ℕ
  legRowNo : ℕ
  ledger : LedgerFacts
  side : DrCr
  amount : Decimal
  instrument : Option InternalInstrument

/-- The party leg, or the typed lines on parties. -/
def partyLines (type : VoucherTypeRules) (party : Option DerivedParty) (typed : List TypedLeg) :
    List PartyLine :=
  match party with
  | some party => [⟨0, party.rowNo, party.ledger, party.side, party.amount, none⟩]
  | none =>
      if type.partyMode = .MANY then
        (typed.zipIdx.filter fun entry =>
          entry.1.ledger.isParty || entry.1.ledger.isBillByBill).map fun entry =>
            ⟨entry.1.lineRowNo, entry.2 + 1, entry.1.ledger, entry.1.drCr, entry.1.amount,
              entry.1.instrument⟩
      else []

/-- What the money legs say. -/
def settlementModeOf (typed : List TypedLeg) (ledgerIds : List Uuid) : BillSettlementMode :=
  let kinds := ((typed.filter fun leg =>
      leg.ledger.ledId ∉ ledgerIds && isMoneyLedger cases leg.ledger).map fun leg =>
    if leg.ledger.groupNames.any (fun name => cases.toLowerCase name = "cash-in-hand".toList) then
      BillSettlementMode.CASH
    else .BANK).dedup
  match kinds with
  | [] => .VOUCHER
  | [only] => only
  | _ => .MIXED

/-! ## Allocations -/

def allocationText (a : AllocationInput) : String := "allocations[" ++ toString a.index ++ "]"

def ofAllocation (a : AllocationInput) (code : VoucherErrorCode) (message field : String) :
    Refusal :=
  ⟨code, allocationText a ++ message, some ("allocations." ++ toString a.index ++ field), none⟩

/-- The party line and the live bill an allocation names, or what is wrong with it. -/
def checkAllocation (input : DeriveInput) (lines : List PartyLine) (a : AllocationInput) :
    Except Refusal (PartyLine × BillFacts) :=
  match lines.find? fun line => line.lineRowNo = a.lineRowNo with
  | none =>
      .error (ofAllocation a .ALLOCATION_LINE (" names line " ++ toString a.lineRowNo ++
        ", which is not a party line") ".lineRowNo")
  | some line =>
      if a.amount ≤ 0 then
        .error (ofAllocation a .LINE_AMOUNT ": the amount must be above zero" ".amount")
      else
        match (input.bills a.billId a.billAccYear).filter fun bill =>
            !bill.isDeleted && bill.isActive && bill.companyId = input.company.companyId with
        | none =>
            .error (ofAllocation a .BILL_NOT_FOUND (": no live bill " ++ toString a.billId ++
              " in " ++ a.billAccYear) ".billId")
        | some bill =>
            if bill.partyId ≠ line.ledger.ledId then
              .error (ofAllocation a .BILL_WRONG_PARTY (": bill " ++ bill.docRefno ++
                " belongs to another party") ".billId")
            else if bill.side = line.side then
              .error (ofAllocation a .BILL_WRONG_SIDE (": bill " ++ bill.docRefno ++
                " sits on the " ++ bill.side.toString ++ " side, and a " ++ line.side.toString ++
                " party leg settles " ++ (opposite line.side).toString ++ " bills") ".billId")
            else .ok (line, bill)

def adjTypeOf (type : VoucherTypeRules) (line : PartyLine) (bill : BillFacts) : AdjType :=
  if type.billwiseMode = .DEMAND ∨
      (type.billwiseMode = .OPTIONAL ∧ !line.ledger.isBillByBill) then .ALLOCATION
  else if bill.billType = .ADVANCE then .ADVANCE_ADJUST
  else if type.nature = .JOURNAL then .TRANSFER
  else .NOTE_ADJUST

def settlementOf (type : VoucherTypeRules) (moneyMode : BillSettlementMode) (line : PartyLine) :
    AdjType → BillSettlementMode
  | .ALLOCATION =>
      if type.billwiseMode = .DEMAND then (line.instrument.map (·.settlementMode)).getD moneyMode
      else .JOURNAL
  | .ADVANCE_ADJUST => .ADVANCE
  | .TRANSFER => .JOURNAL
  | .NOTE_ADJUST => .CREDIT_NOTE

def internalAllocation (input : DeriveInput) (moneyMode : BillSettlementMode)
    (a : AllocationInput) (line : PartyLine) (bill : BillFacts) : InternalAllocation where
  index := a.index
  lineRowNo := a.lineRowNo
  legRowNo := line.legRowNo
  party := line.ledger
  bill := bill
  amount := money a.amount
  adjType := adjTypeOf input.type line bill
  settlementMode := settlementOf input.type moneyMode line (adjTypeOf input.type line bill)
  postDated := line.instrument.any (·.isPostDated)
  adjDate := (line.instrument.bind (·.postsOn)).getD input.header.date
  instrumentLineRowNo := line.instrument.map fun _ => line.lineRowNo

/-- The variables of the loop over the allocations. -/
structure AllocationRun where
  /-- What is allocated against each bill so far, as typed. -/
  perBill : OrderedMap (Uuid × String) Decimal
  allocations : List InternalAllocation
  notes : List Note

def overspent (a : AllocationInput) (bill : BillFacts) (used : Decimal) : Refusal :=
  ⟨.BILL_OVERSPENT, "Bill " ++ bill.docRefno ++ " has only " ++ toFixed bill.pendingAmount ++
    " pending, but " ++ toFixed used ++ " is allocated against it",
    some ("allocations." ++ toString a.index ++ ".amount"), none⟩

/-- The body of the loop over the allocations. -/
def allocate (input : DeriveInput) (moneyMode : BillSettlementMode) (lines : List PartyLine)
    (run : AllocationRun) (a : AllocationInput) : Except DeriveFault AllocationRun :=
  match checkAllocation input lines a with
  | .error refusal => .ok { run with notes := run.notes ++ [.refuse refusal] }
  | .ok (line, bill) =>
      let used := (run.perBill.get? (bill.ablId, bill.ablAccYear)).getD 0 + a.amount
      let counted : AllocationRun :=
        { perBill := run.perBill.set (bill.ablId, bill.ablAccYear) used
          allocations := run.allocations ++ [internalAllocation input moneyMode a line bill]
          notes := run.notes }
      if bill.pendingAmount < used then
        -- another counter may have spent it first; on a dry run it joins the list and still counts
        if input.ctx.dryRun then
          .ok { counted with notes := run.notes ++ [.refuse (overspent a bill used)] }
        else .error (.conflict (overspent a bill used))
      else .ok counted

/-! ## Advances and raised bills -/

/-- What a party line's allocations come to, rounded. -/
def allocatedTo (allocations : List InternalAllocation) (line : PartyLine) : Decimal :=
  ((allocations.filter fun row => row.lineRowNo = line.lineRowNo).map (·.amount)).sum

def shortRefusal (message : String) : Note :=
  .refuse (ofHeader .BILLWISE_SHORT message "allocations")

def advanceBill (line : PartyLine) (allocated : Decimal) : InternalBill where
  lineRowNo := line.lineRowNo
  legRowNo := line.legRowNo
  party := line.ledger
  billType := .ADVANCE
  side := line.side
  amount := money (line.amount - allocated)
  docRefno := none
  dueDays := 0
  dueDate := none
  isAdvance := true

/-- A bill that is demanded bill by bill keeps what is left as an advance, when it may. -/
def demandLine (input : DeriveInput) (line : PartyLine) (allocated : Decimal) :
    List InternalBill × List Note :=
  if allocated = line.amount then ([], [])
  else if input.allowAdvance = some false ∨ moneySideOf input.type.nature = none then
    ([], [shortRefusal (line.ledger.name ++ ": " ++ toFixed line.amount ++
      " must be allocated bill by bill — " ++ toFixed allocated ++ " is")])
  else ([advanceBill line allocated], [])

def raisedBill (input : DeriveInput) (line : PartyLine) (billType : BillType) : InternalBill :=
  let dueDays := (input.newBillDueDays.getD
    ((input.creditDaysByLedger line.ledger.ledId).getD 0)).toNat
  { lineRowNo := line.lineRowNo
    legRowNo := line.legRowNo
    party := line.ledger
    billType := billType
    side := line.side
    amount := line.amount
    docRefno := input.header.docRefno
    dueDays := dueDays
    dueDate := some (input.header.date.addDays dueDays)
    isAdvance := false }

/-- A type raises a bill always, or, when it may, for a bill-by-bill party. -/
def raises (type : VoucherTypeRules) (line : PartyLine) : Bool :=
  type.billwiseMode = .RAISE ∨ (type.billwiseMode = .OPTIONAL ∧ line.ledger.isBillByBill)

def BillType.toString : BillType → String
  | .SALES => "SALES"
  | .PURCHASE => "PURCHASE"
  | .SALES_RETURN => "SALES_RETURN"
  | .PURCHASE_RETURN => "PURCHASE_RETURN"
  | .OPENING => "OPENING"
  | .ADVANCE => "ADVANCE"
  | .INTEREST => "INTEREST"
  | .JOURNAL => "JOURNAL"

/-- A purchase or sales bill is known by a reference. -/
def docRefnoRequired (input : DeriveInput) (billType : BillType) : List Note :=
  if (billType = .PURCHASE ∨ billType = .SALES) ∧ input.header.docRefno.getD "" = "" then
    [.refuse (ofHeader .DOC_REFNO_REQUIRED ("A " ++ input.type.typeName ++ " raises a " ++
      billType.toString ++ " bill and needs the " ++
      (if billType = .PURCHASE then "supplier's bill number" else "customer's reference"))
      "header.docRefno")]
  else []

/-- The body of the loop over the party lines: its bill, and what is wrong. -/
def settleLine (input : DeriveInput) (allocations : List InternalAllocation) (line : PartyLine) :
    List InternalBill × List Note :=
  let allocated := allocatedTo allocations line
  if line.amount < allocated then
    ([], [shortRefusal (line.ledger.name ++ ": " ++ toFixed allocated ++
      " is allocated against a party amount of " ++ toFixed line.amount)])
  else if input.type.billwiseMode = .DEMAND then demandLine input line allocated
  else
    match input.type.raiseBillType.filter fun _ => raises input.type line with
    | none => ([], [])
    | some billType => ([raisedBill input line billType], docRefnoRequired input billType)

/-- What the bill-wise step emits. -/
structure Billwise where
  bills : List InternalBill
  allocations : List InternalAllocation
  notes : List Note

def deriveBills (input : DeriveInput) (moneyMode : BillSettlementMode) (lines : List PartyLine) :
    Except DeriveFault Billwise :=
  if input.type.billwiseMode = .OFF then
    .ok ⟨[], [], if input.allocations ≠ [] then
      [.refuse (ofHeader .ALLOCATION_LINE ("A " ++ input.type.typeName ++
        " carries no bill-wise allocation") "allocations")] else []⟩
  else do
    let run ← input.allocations.foldlM (allocate input moneyMode lines) ⟨.empty, [], []⟩
    let settled := lines.map (settleLine input run.allocations)
    .ok ⟨settled.flatMap Prod.fst, run.allocations, run.notes ++ settled.flatMap Prod.snd⟩

end ErpServer.Vouchers
