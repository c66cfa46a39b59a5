import ErpServer.Vouchers.Lines

/-!
# The GST band

Every typed line with a rate is taxed once and its tax split.  The components go to the
ledgers their roles name, opposite the party, one leg a ledger and side; under reverse charge
the matching payables go on the party's own side.
-/

namespace ErpServer.Vouchers

open Lib
open Receipt (Decimal DrCr money)

variable (cases : Text.CaseMapping)

def gstDoc (type : VoucherTypeRules) : GstDoc :=
  match type.nature with
  | .PURCHASE => ⟨.INVOICE, .PURCHASE, .INWARD, 1⟩
  | .SALES => ⟨.INVOICE, .SALE, .OUTWARD, 1⟩
  | .CREDIT_NOTE => ⟨.CREDIT_NOTE, .CREDIT_NOTE, .OUTWARD, -1⟩
  | .DEBIT_NOTE => ⟨.DEBIT_NOTE, .DEBIT_NOTE, .OUTWARD, 1⟩
  | _ => ⟨.OTHER, .OTHER, .INTERNAL, 1⟩

/-- What the band reads besides the lines. -/
structure GstHead where
  side : GstSide
  supplyNature : SupplyNature
  posStcd : Text
  reverseCharge : Bool
  partySide : DrCr

def GstHead.taxSide (head : GstHead) : DrCr := opposite head.partySide

def gstHead (input : DeriveInput) (party : Option LedgerFacts) (side : GstSide)
    (partySide : DrCr) : GstHead :=
  let rcm := input.header.reverseCharge && side = .INPUT
  let posStcd := input.header.posStcd.getD
    (if side = .OUTPUT ∧ !rcm then (party.bind (·.stateCode)).getD input.company.stateCode
      else input.company.stateCode)
  { side := side
    supplyNature := if posStcd = input.company.stateCode then .INTRA else .INTER
    posStcd := posStcd
    reverseCharge := rcm
    partySide := partySide }

def taxRole (side : GstSide) (component : GstComponent) : VoucherRole :=
  match side with
  | .INPUT => .INPUT component
  | .OUTPUT => .OUTPUT component

/-- The ledger of a role: by rate and nature, by nature, by rate, then for all. -/
def roleLedger (input : DeriveInput) (nature : SupplyNature) (role : VoucherRole)
    (taxId : Uuid) : Option ResolvedRoleLedger :=
  (input.roleLedgers role (some taxId) (some nature)).or
    ((input.roleLedgers role none (some nature)).or
      ((input.roleLedgers role (some taxId) none).or (input.roleLedgers role none none)))

/-- What a ledger and side have been posted. -/
structure GstEntry where
  name : String
  role : VoucherRole
  amount : Decimal
  rows : List ℕ
  deriving DecidableEq, Repr

/-- The postings so far, and the roles no ledger answers for. -/
structure GstPosted where
  byLedger : OrderedMap (Uuid × DrCr) GstEntry
  unmapped : List VoucherRole
  notes : List Refusal

/-- A component to post: its role, its side and its amount. -/
structure GstPosting where
  role : VoucherRole
  side : DrCr
  amount : Decimal

/-- Add to the leg of the ledger and side, which takes the first role posted to it. -/
def addEntry (byLedger : OrderedMap (Uuid × DrCr) GstEntry) (ledger : ResolvedRoleLedger)
    (posting : GstPosting) (lineRowNo : ℕ) : OrderedMap (Uuid × DrCr) GstEntry :=
  match byLedger.get? (ledger.ledgerId, posting.side) with
  | some current =>
      byLedger.set (ledger.ledgerId, posting.side)
        { current with
          amount := current.amount + posting.amount
          rows := current.rows ++ [lineRowNo] }
  | none =>
      byLedger.set (ledger.ledgerId, posting.side)
        ⟨ledger.ledgerName, posting.role, posting.amount, [lineRowNo]⟩

/-- Post one component of a line, unless it is nothing or no ledger answers for its role. -/
def postGst (input : DeriveInput) (nature : SupplyNature) (taxId : Uuid) (lineRowNo : ℕ)
    (posted : GstPosted) (posting : GstPosting) : GstPosted :=
  if posting.amount = 0 then posted
  else
    match roleLedger input nature posting.role taxId with
    | none =>
        if posting.role ∈ posted.unmapped then posted
        else
          { posted with
            unmapped := posted.unmapped ++ [posting.role]
            notes := posted.notes ++ [⟨.GST_LEDGER_UNMAPPED, "No ledger is mapped for " ++
              posting.role.toString ++ " (" ++ nature.describe ++
              "-state) — map it in Posting Ledgers (menu 250)",
              some ("lines." ++ toString lineRowNo ++ ".gst.taxId"), some lineRowNo⟩] }
    | some ledger =>
        { posted with byLedger := addEntry posted.byLedger ledger posting lineRowNo }

/-- The components of a line opposite the party, and under reverse charge those on its side. -/
def lineDues (head : GstHead) (tax : GstAmounts) : List GstPosting :=
  ([.CGST, .SGST, .IGST, .CESS] : List GstComponent).map (fun component =>
    ⟨taxRole head.side component, head.taxSide, tax.get component⟩) ++
  if head.reverseCharge then
    ([.CGST, .SGST, .IGST] : List GstComponent).map fun component =>
      ⟨.RCM_PAYABLE component, head.partySide, tax.get component⟩
  else []

/-- The ledgers a line's components posted to. -/
def lineLedgers (input : DeriveInput) (head : GstHead) (taxId : Uuid) (tax : GstAmounts)
    (component : GstComponent) : Option Uuid :=
  if tax.get component = 0 then none
  else (roleLedger input head.supplyNature (taxRole head.side component) taxId).map (·.ledgerId)

/-- Cess under reverse charge has no payable to go to. -/
def cessNotes (head : GstHead) (lineRowNo : ℕ) (tax : GstAmounts) : List Refusal :=
  if head.reverseCharge ∧ tax.cess ≠ 0 then
    [⟨.GST_LEDGER_UNMAPPED, rowText lineRowNo ++
      ": cess under reverse charge has no RCM payable role",
      some ("lines." ++ toString lineRowNo ++ ".gst.taxId"), some lineRowNo⟩]
  else []

/-- The credit class of a line: typed, the ledger's, or on the input side by its code. -/
def itcOf (side : GstSide) (leg : TypedLeg) (gst : LineGstInput) : Option ItcClass :=
  gst.itcEligibility.or ((itcClassOf cases leg.ledger.itcEligibility).or
    (match side with
      | .INPUT => some (if isServiceCode gst.hsn then .INPUT_SERVICES else .INPUTS)
      | .OUTPUT => none))

/-- The variables of the loop over the taxed lines. -/
structure GstRun where
  posted : GstPosted
  lines : List InternalGstLine
  taxable : Decimal
  tax : GstAmounts

def gstLine (input : DeriveInput) (head : GstHead) (leg : TypedLeg) (gst : LineGstInput)
    (rate : TaxRateFacts) : InternalGstLine :=
  let tax := taxOf head.supplyNature rate leg.amount
  { lineRowNo := leg.lineRowNo
    taxableLedgerId := leg.ledger.ledId
    rate := rate
    hsn := trimmed gst.hsn
    isService := isServiceCode gst.hsn
    itcEligibility := itcOf cases head.side leg gst
    taxable := leg.amount
    tax := tax
    ledgerIds := lineLedgers input head gst.taxId tax }

/-- The body of the loop over the taxed lines. -/
def taxLine (input : DeriveInput) (head : GstHead) (run : GstRun)
    (entry : TypedLeg × LineGstInput) : GstRun :=
  let leg := entry.1
  let gst := entry.2
  match (input.taxRates gst.taxId).filter (·.isActive) with
  | none =>
      { run with posted := { run.posted with
        notes := run.posted.notes ++ [⟨.GST_RATE_MISSING, rowText leg.lineRowNo ++
          ": the GST rate named is not an active rate",
          some ("lines." ++ toString leg.lineRowNo ++ ".gst.taxId"), some leg.lineRowNo⟩] } }
  | some rate =>
      let tax := taxOf head.supplyNature rate leg.amount
      let posted := (lineDues head tax).foldl
        (postGst input head.supplyNature gst.taxId leg.lineRowNo) run.posted
      { posted := { posted with notes := posted.notes ++ cessNotes head leg.lineRowNo tax }
        lines := run.lines ++ [gstLine cases input head leg gst rate]
        taxable := run.taxable + leg.amount
        tax := run.tax.plus tax }

def isRcmRole : VoucherRole → Bool
  | .RCM_PAYABLE _ => true
  | _ => false

/-- The leg of a ledger and side. -/
def gstLeg (entry : (Uuid × DrCr) × GstEntry) : InternalLeg where
  rowNo := 0
  lineRowNo := none
  drCr := entry.1.2
  ledger := ⟨entry.1.1, entry.2.name, none, none⟩
  amount := money entry.2.amount
  source := if isRcmRole entry.2.role then .RCM else .GST
  role := some entry.2.role
  remarks := some (if isRcmRole entry.2.role then "Reverse charge payable"
    else "From the GST band")
  fromRows := entry.2.rows.reverse.dedup.reverse
  gst := none
  isTdsBase := false
  oppLedgerId := none
  postDated := false
  postsOn := none
  instrument := none

/-- What the band derives. -/
structure GstBand where
  gst : Option InternalGst
  legs : List InternalLeg
  notes : List Refusal

/-- The typed legs with a rate, when the type feeds a register. -/
def gstTyped (input : DeriveInput) (typed : List TypedLeg) : List (TypedLeg × LineGstInput) :=
  if input.type.gstRegister.isSome then
    typed.filterMap fun leg => leg.gst.map fun gst => (leg, gst)
  else []

def runGst (input : DeriveInput) (head : GstHead) (entries : List (TypedLeg × LineGstInput)) :
    GstRun :=
  entries.foldl (taxLine cases input head) ⟨⟨.empty, [], []⟩, [], 0, .zero⟩

/-- What is reported of the band. -/
def gstOf (input : DeriveInput) (head : GstHead) (run : GstRun) : InternalGst where
  register := input.type.gstRegister
  side := head.side
  doc := gstDoc input.type
  supplyNature := head.supplyNature
  posStcd := head.posStcd
  reverseCharge := head.reverseCharge
  taxable := run.taxable
  tax := run.tax
  lines := run.lines

def gstBand (input : DeriveInput) (head : GstHead) (entries : List (TypedLeg × LineGstInput)) :
    GstBand :=
  let run := runGst cases input head entries
  ⟨some (gstOf input head run), run.posted.byLedger.entries.map gstLeg, run.posted.notes⟩

def deriveGst (input : DeriveInput) (party : PartyRead) (typed : List TypedLeg) : GstBand :=
  match input.type.gstSide, party.side with
  | some side, some partySide =>
      let entries := gstTyped input typed
      if entries = [] then ⟨none, [], []⟩
      else gstBand cases input (gstHead input party.party side partySide) entries
  | _, _ => ⟨none, [], []⟩

end ErpServer.Vouchers
