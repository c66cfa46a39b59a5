import ErpServer.Vouchers.Instruments

/-!
# Typed lines and the party

The typed lines are checked in row order and become the voucher's first legs.  Every
instrument generates the leg of its money, on the other side.  A type with one party takes it
from the header.
-/

namespace ErpServer.Vouchers

open Lib
open Receipt (Decimal DrCr money)

variable (cases : Text.CaseMapping)

/-! ## The header -/

def ofHeader (code : VoucherErrorCode) (message field : String) : Refusal :=
  ⟨code, message, some field, none⟩

def backdatedNotes (input : DeriveInput) : List Note :=
  if input.header.date.before input.today ∧ input.backdateMode ≠ .OFF then
    let refusal := ofHeader .BACKDATED
      (input.header.date.text ++ " is before today (" ++ input.today.text ++ ")") "header.date"
    if input.backdateMode = .REFUSE then [.refuse refusal] else [.warn refusal]
  else []

def docRefnoNotes (input : DeriveInput) : List Note :=
  let docRefno := input.header.docRefno.getD ""
  match input.docRefnoClash with
  | none => []
  | some .INDEX =>
      [.refuse (ofHeader .DUP_DOC_REFNO (docRefno ++ " is already on a live " ++
        input.type.typeName ++ " for this party in this year") "header.docRefno")]
  | some .OTHER =>
      [.warn (ofHeader .DUP_DOC_REFNO (docRefno ++
        " is already on another live voucher for this party") "header.docRefno")]

/-! ## Sides -/

inductive SideVerdict where
  | OK | GROUPS | MONEY_ONLY | NO_MONEY
  deriving DecidableEq, Repr

/-- The money side of a nature, if it has one. -/
def moneySideOf : VoucherNature → Option DrCr
  | .RECEIPT => some .DR
  | .PAYMENT => some .CR
  | _ => none

def groupsOf (type : VoucherTypeRules) : DrCr → List VoucherGroupRef
  | .DR => type.drGroups
  | .CR => type.crGroups

/-- The nature's rule speaks first, then the group list of the side. -/
def sideVerdict (type : VoucherTypeRules) (side : DrCr) (ledger : LedgerFacts) : SideVerdict :=
  let money := isMoneyLedger cases ledger
  let groups := groupsOf type side
  if (moneySideOf type.nature).any (fun moneySide => side = moneySide ∧ !money) then .MONEY_ONLY
  else if (moneySideOf type.nature).any (fun moneySide => side ≠ moneySide ∧ money) then .NO_MONEY
  else if groups ≠ [] ∧ !(ledger.groupPath.any fun group =>
      groups.any fun listed => listed.groupId = group) then .GROUPS
  else .OK

def sideNames (type : VoucherTypeRules) (side : DrCr) : String :=
  ", ".intercalate ((groupsOf type side).map (·.name))

/-- The sentence a side refusal carries. -/
def sideRefusal (type : VoucherTypeRules) (side : DrCr) (ledger : LedgerFacts)
    (verdict : SideVerdict) : String :=
  let verb := match side with
    | .DR => "debited"
    | .CR => "credited"
  match verdict with
  | .MONEY_ONLY =>
      ledger.name ++ " (" ++ ledger.groupName ++ ") may not be " ++ verb ++ " on a " ++
        type.typeName ++ " — the " ++ side.toString ++ " side takes cash or bank only"
  | .NO_MONEY =>
      ledger.name ++ " may not be " ++ verb ++ " on a " ++ type.typeName ++ " — " ++
        (if type.nature = .RECEIPT then "cash to bank is a Contra" else "bank to cash is a Contra")
  | _ =>
      ledger.name ++ " (" ++ ledger.groupName ++ ") may not be " ++ verb ++ " on a " ++
        type.typeName ++ (if groupsOf type side = [] then "" else
          " — the " ++ side.toString ++ " side takes " ++ sideNames type side)

/-! ## Typed lines -/

/-- The variables of the loop over the lines. -/
structure LineRun where
  seenRows : List ℕ
  promised : Promised
  typed : List TypedLeg
  notes : List Refusal

/-- The checks of a line against its ledger and the type. -/
def ledgerRefusals (input : DeriveInput) (line : TypedLineInput) (ledger : LedgerFacts) :
    List Refusal :=
  let verdict := sideVerdict cases input.type line.drCr ledger
  (if !ledger.isActive || ledger.isDeleted then
    [ofLine line .LEDGER_INACTIVE (ledger.name ++ " is inactive") ".ledgerId"] else []) ++
  (if verdict ≠ .OK then
    [ofLine line .LEDGER_SIDE (sideRefusal input.type line.drCr ledger verdict) ".ledgerId"]
    else []) ++
  moneySideRule cases input line ledger ++
  (if input.instrumentLedgers ledger.ledId then
    [ofLine line .INSTRUMENT_LEDGER (ledger.name ++ " is an instrument-controlled ledger — use " ++
      "Received / Issued Cheques (menu 51 / 52)") ".ledgerId"] else []) ++
  (if input.type.gstRegister.isSome && input.generatedRoleLedgers ledger.ledId then
    [ofLine line .GST_LEDGER_TYPED (ledger.name ++ " is a tax ledger the GST band generates — " ++
      "type the taxable line with its rate instead") ".ledgerId"] else []) ++
  if input.type.gstRegister.isNone && line.gst.isSome then
    [ofLine line .GST_NOT_ALLOWED ("a " ++ input.type.typeName ++
      " feeds no GST register, so a line carries no rate") ".gst"] else []

def typedLeg (line : TypedLineInput) (ledger : LedgerFacts)
    (instrument : Option InternalInstrument) : TypedLeg where
  lineRowNo := line.rowNo
  drCr := line.drCr
  ledger := ledger
  amount := money line.amount
  remarks := line.remarks
  gst := line.gst
  isTdsBase := line.tdsBase.getD ledger.isTdsApplicable
  instrument := instrument

def amountRefusals (line : TypedLineInput) : List Refusal :=
  if line.amount ≤ 0 then
    [ofLine line .LINE_AMOUNT "the amount must be above zero" ".amount"]
  else []

/-- The body of the loop over the lines. -/
def deriveLine (input : DeriveInput) (run : LineRun) (line : TypedLineInput) : LineRun :=
  if line.rowNo ∈ run.seenRows then
    { run with
      notes := run.notes ++ [⟨.INVALID, rowText line.rowNo ++ " appears twice",
        some (lineField line), some line.rowNo⟩] }
  else
    let seenRows := line.rowNo :: run.seenRows
    match input.ledgers line.ledgerId with
    | none =>
        { run with
          seenRows := seenRows
          notes := run.notes ++ amountRefusals line ++
            [ofLine line .LEDGER_NOT_FOUND "no such ledger is visible to this company"
              ".ledgerId"] }
    | some ledger =>
        let notes := run.notes ++ amountRefusals line ++ ledgerRefusals cases input line ledger
        match line.instrument with
        | none => ⟨seenRows, run.promised, run.typed ++ [typedLeg line ledger none], notes⟩
        | some ins =>
            match readInstrument cases input run.promised line ins ledger with
            | .error refusal =>
                ⟨seenRows, run.promised, run.typed ++ [typedLeg line ledger none],
                  notes ++ [refusal]⟩
            | .ok read =>
                ⟨seenRows, read.promised,
                  run.typed ++ [typedLeg line ledger (some read.instrument)], notes ++ read.notes⟩

/-- The lines in row order. -/
def sortedLines (input : DeriveInput) : List TypedLineInput :=
  input.lines.insertionSort fun left right => left.rowNo ≤ right.rowNo

def deriveLines (input : DeriveInput) : LineRun :=
  (sortedLines input).foldl (deriveLine cases input) ⟨[], .empty, [],
    if input.lines = [] then [ofHeader .NO_LINES "Type at least one line" "lines"] else []⟩

/-! ## Instrument legs -/

/-- The leg an instrument generates: the line's amount on the other side, on its ledger. -/
def instrumentLeg (leg : TypedLeg) (ins : InternalInstrument) : InternalLeg where
  rowNo := 0
  lineRowNo := none
  drCr := opposite leg.drCr
  ledger := ⟨ins.ledgerId, ins.ledgerName, none, none⟩
  amount := leg.amount
  source := .INSTRUMENT
  role := none
  remarks := some (if ins.refNo.isSome then ins.tender.name ++ " " ++ shown ins.refNo
    else ins.tender.name)
  fromRows := [leg.lineRowNo]
  gst := none
  isTdsBase := false
  oppLedgerId := some leg.ledger.ledId
  postDated := ins.isPostDated
  postsOn := ins.postsOn
  instrument := some ins

def instrumentLegs (typed : List TypedLeg) : List InternalLeg :=
  typed.filterMap fun leg => leg.instrument.map (instrumentLeg leg)

/-- A typed line's leg; with an instrument it names the instrument's ledger. -/
def TypedLeg.toLeg (leg : TypedLeg) : InternalLeg where
  rowNo := 0
  lineRowNo := some leg.lineRowNo
  drCr := leg.drCr
  ledger := ⟨leg.ledger.ledId, leg.ledger.name, some leg.ledger.groupName, some leg.ledger⟩
  amount := leg.amount
  source := .TYPED
  role := none
  remarks := leg.remarks
  fromRows := []
  gst := leg.gst
  isTdsBase := leg.isTdsBase
  oppLedgerId := leg.instrument.map (·.ledgerId)
  postDated := leg.postDated
  postsOn := leg.postsOn
  instrument := leg.instrument

/-! ## The party -/

/-- The header's party and its side, and what is wrong with them. -/
structure PartyRead where
  party : Option LedgerFacts
  side : Option DrCr
  notes : List Refusal

def partySideNotes (type : VoucherTypeRules) (party : LedgerFacts) (side : DrCr) : List Refusal :=
  let verdict := sideVerdict cases type side party
  if verdict = .OK then []
  else
    [ofHeader .LEDGER_SIDE
      (if verdict = .GROUPS then
        party.name ++ " (" ++ party.groupName ++ ") cannot be the party of a " ++ type.typeName ++
          (if groupsOf type side = [] then "" else " — it takes " ++ sideNames type side)
      else sideRefusal type side party verdict) "header.partyId"]

def readParty (input : DeriveInput) : PartyRead :=
  let type := input.type
  if type.partyMode = .ONE then
    match input.header.partyId, input.party with
    | none, _ =>
        ⟨none, none, [ofHeader .PARTY_MODE ("A " ++ type.typeName ++ " needs one party")
          "header.partyId"]⟩
    | some _, none =>
        ⟨none, none, [ofHeader .PARTY_NOT_FOUND
          "No such party ledger is visible to this company" "header.partyId"]⟩
    | some _, some party =>
        let inactive :=
          if !party.isActive || party.isDeleted then
            [ofHeader .LEDGER_INACTIVE (party.name ++ " is inactive") "header.partyId"]
          else []
        match type.partySide.fixed with
        | none =>
            ⟨some party, none, inactive ++ [ofHeader .INVALID
              (type.typeName ++ " names no party side (vchr_party_side)") "header.typeCode"]⟩
        | some side => ⟨some party, some side, inactive ++ partySideNotes cases type party side⟩
  else
    ⟨none, none,
      if input.header.partyId.isSome then
        [ofHeader .PARTY_MODE
          (if type.partyMode = .NONE then "A " ++ type.typeName ++ " carries no party"
            else "A " ++ type.typeName ++ " names its parties on the lines, not on the header")
          "header.partyId"]
      else []⟩

end ErpServer.Vouchers
