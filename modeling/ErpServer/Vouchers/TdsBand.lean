import ErpServer.Vouchers.GstBand

/-!
# Tax deducted at source

A voucher with one party deducts once, on the lines that count toward the base.  With parties
on the lines the deduction is worked out for each deductee.  A payment types the net each
party is paid, and the deduction is on the gross.
-/

namespace ErpServer.Vouchers

open Lib
open Receipt (Decimal DrCr money toFixed)

variable (cases : Text.CaseMapping)

/-- How a derivation ends without a voucher. -/
inductive DeriveFault where
  /-- A conflict, thrown. -/
  | conflict (refusal : Refusal)
  /-- At a rate of the whole amount the gross divides by zero, and no figure is finite. -/
  | notFinite

/-! ## Rates and thresholds -/

/-- Whether a base crosses the section's threshold: no threshold at all, above the
single-payment one, or the year's running total above the annual one. -/
def crossesTdsThreshold (base cumulative : Decimal) (rate : TdsRateFacts) : Bool :=
  let single := rate.thresholdSingle
  let annual := rate.thresholdAnnual
  0 < base ∧ ((single = 0 ∧ annual = 0) ∨ (0 < single ∧ single < base) ∨
    (0 < annual ∧ annual < cumulative))

/-- A company, or everyone else. -/
def registerDeductee (ledgerType : Option Text) : RegisterDeductee :=
  if cases.toUpperCase (Text.trim (ledgerType.getD [])) = "COMPANY".toList then .COMPANY
  else .NON_COMPANY

/-- Without a PAN the higher rate applies. -/
def tdsPercent (party : LedgerFacts) (rate : TdsRateFacts) : Decimal :=
  if given party.pan then rate.rate else rate.noPanRate

def tdsRateSource (party : LedgerFacts) : TdsRateSource :=
  if given party.pan then .MASTER else .NO_PAN

/-- What leaves the net once the rate is deducted. -/
def grossUp (pct net : Decimal) : Decimal :=
  if pct = 0 then net else money (net / (1 - pct / 100))

/-- A rate of three places, without the zeros it ends in. -/
def rateText (pct : Decimal) : String :=
  let count := ⌊pct * 1000 + 1 / 2⌋.toNat
  let places :=
    ((List.leftpad 3 '0' (toString (count % 1000)).toList).reverse.dropWhile (· = '0')).reverse
  toString (count / 1000) ++ String.ofList (if places = [] then [] else '.' :: places)

/-! ## Records and legs -/

def tdsRecord (party : LedgerFacts) (tdsSection : Text) (rate : TdsRateFacts)
    (rateSource : TdsRateSource) (base tax : Decimal) (reason : Option String)
    (fromRows : List ℕ) (ledgerId : Option Uuid) (lineRowNo : Option ℕ) : InternalTds where
  tdsSection := tdsSection
  sectionName := rate.sectionName
  deducteeType := party.tdsDeducteeType.getD rate.deducteeType
  registerDeductee := registerDeductee cases party.tdsDeducteeType
  rate := tdsPercent party rate
  rateSource := rateSource
  base := base
  tax := tax
  deducted := 0 < tax
  reason := reason
  fromRows := fromRows
  ledgerId := ledgerId
  party := party
  lineRowNo := lineRowNo

def tdsLeg (ledger : ResolvedRoleLedger) (tax : Decimal) (remarks : String) (fromRows : List ℕ)
    (postDated : Bool) (postsOn : Option IsoDate) : InternalLeg where
  rowNo := 0
  lineRowNo := none
  drCr := .CR
  ledger := ⟨ledger.ledgerId, ledger.ledgerName, none, none⟩
  amount := tax
  source := .TDS
  role := some .TDS_PAYABLE
  remarks := some remarks
  fromRows := fromRows
  gst := none
  isTdsBase := false
  oppLedgerId := none
  postDated := postDated
  postsOn := postsOn
  instrument := none

def tdsRemarks (tdsSection : Text) (pct base : Decimal) : String :=
  "TDS " ++ String.ofList tdsSection ++ " @ " ++ rateText pct ++ "% on " ++ toFixed base

def thresholdText (tdsSection : Text) (rate : TdsRateFacts) (cumulative : Decimal) : String :=
  " is within the " ++ String.ofList tdsSection ++ " threshold (single " ++
    toFixed rate.thresholdSingle ++ ", annual " ++ toFixed rate.thresholdAnnual ++ "; " ++
    toFixed cumulative ++ " so far this year)"

def tdsUnmapped : Refusal :=
  ⟨.TDS_UNMAPPED, "No ledger is mapped for TDS_PAYABLE — map it in Posting Ledgers (menu 250)",
    some "lines", none⟩

def tdsPayable (input : DeriveInput) : Option ResolvedRoleLedger :=
  input.roleLedgers .TDS_PAYABLE none none

def shownType (deducteeType : Option Text) : String :=
  (deducteeType.map String.ofList).getD "ANY"

/-! ## One party -/

/-- What a header party's deduction adds to the voucher. -/
structure TdsOne where
  record : Option InternalTds
  legs : List InternalLeg
  notes : List Note

/-- A type that pays its party against bills: it types the net. -/
def paymentShaped (type : VoucherTypeRules) : Bool :=
  type.billwiseMode = .DEMAND ∧ type.partySide = .DR

/-- The base and the tax of a net: a payment's net is grossed up. -/
def tdsFigures (type : VoucherTypeRules) (pct net : Decimal) : Decimal × Decimal :=
  if paymentShaped type ∧ pct ≠ 0 then (grossUp pct net, grossUp pct net - net)
  else (net, money (net * pct / 100))

/-- The typed lines the deduction counts. -/
def tdsBaseLegs (partySide : DrCr) (typed : List TypedLeg) : List TypedLeg :=
  typed.filter fun leg => leg.isTdsBase && leg.drCr = opposite partySide

def belowReason (tdsSection : Text) (rate : TdsRateFacts) (base cumulative : Decimal) : String :=
  if base = 0 then "no line counts toward the TDS base"
  else toFixed base ++ thresholdText tdsSection rate cumulative

/-- The deduction of a party whose section and rate are known. -/
def deductOne (input : DeriveInput) (party : LedgerFacts) (partySide : DrCr)
    (typed : List TypedLeg) (tdsSection : Text) (rate : TdsRateFacts)
    (annualBaseSoFar : Decimal) : Except DeriveFault TdsOne :=
  let baseLegs := tdsBaseLegs partySide typed
  let net := (baseLegs.map (·.amount)).sum
  let pct := tdsPercent party rate
  if paymentShaped input.type ∧ pct = 100 then .error .notFinite
  else
    let (base, tax) := tdsFigures input.type pct net
    let cumulative := annualBaseSoFar + base
    let fromRows := baseLegs.map (·.lineRowNo)
    if !crossesTdsThreshold base cumulative rate then
      -- nothing ticked is a choice, not a threshold: it passes silently
      let reason := belowReason tdsSection rate base cumulative
      .ok
        { record := some (tdsRecord cases party tdsSection rate .BELOW_THRESHOLD base 0
            (some reason) fromRows none none)
          legs := []
          notes := if base = 0 then [] else
            [.warn (ofHeader .TDS_BELOW_THRESHOLD ("No TDS deducted: " ++ reason) "lines")] }
    else
      .ok
        { record := some (tdsRecord cases party tdsSection rate (tdsRateSource party) base tax none
            fromRows ((tdsPayable input).map (·.ledgerId)) none)
          legs := match tdsPayable input with
            | none => []
            | some ledger =>
                if 0 < tax then
                  [tdsLeg ledger tax (tdsRemarks tdsSection pct base) fromRows false none]
                else []
          notes := match tdsPayable input with
            | none => [.refuse tdsUnmapped]
            | some _ => [] }

def deriveTdsOne (input : DeriveInput) (read : PartyRead) (typed : List TypedLeg) :
    Except DeriveFault TdsOne :=
  match read.party, read.side with
  | some party, some partySide =>
      if input.type.tdsMode = .DEDUCT ∧ party.isTdsApplicable then
        let tdsSection := Text.trim (party.tdsSection.getD [])
        if tdsSection = [] then
          .ok ⟨none, [], [.refuse (ofHeader .TDS_RATE_MISSING
            (party.name ++ " is TDS-applicable but names no section") "header.partyId")]⟩
        else
          match input.tds.bind fun facts => facts.rate.map fun rate => (facts, rate) with
          | none =>
              .ok ⟨none, [], [.refuse (ofHeader .TDS_RATE_MISSING
                ("No TDS rate is in force for section " ++ String.ofList tdsSection ++ " (" ++
                  shownType party.tdsDeducteeType ++ ") on " ++ input.header.date.text)
                "header.partyId")]⟩
          | some (facts, rate) =>
              deductOne cases input party partySide typed tdsSection rate facts.annualBaseSoFar
      else .ok ⟨none, [], []⟩
  | _, _ => .ok ⟨none, [], []⟩

/-! ## Parties on the lines -/

/-- A typed line whose ledger is a deductee, on the type's side. -/
def isDeducteeLine (type : VoucherTypeRules) (leg : TypedLeg) : Bool :=
  (leg.ledger.isParty || leg.ledger.isBillByBill) && leg.ledger.isTdsApplicable &&
    leg.isTdsBase && type.partySide.fixed.all fun side => leg.drCr = side

/-- The lines of every deductee, in the order the deductees first appear. -/
def byDeductee (type : VoucherTypeRules) (typed : List TypedLeg) :
    OrderedMap Uuid (List TypedLeg) :=
  OrderedMap.groupBy (·.ledger.ledId) (typed.filter (isDeducteeLine type))

/-- The variables of the loop over the deductees. -/
structure TdsRun where
  /-- The typed lines, those deducted from already grossed up. -/
  typed : List TypedLeg
  legs : List InternalLeg
  records : List InternalTds
  unmappedTold : Bool
  notes : List Note

/-- Gross up the lines of these rows. -/
def grossLines (pct : Decimal) (fromRows : List ℕ) (typed : List TypedLeg) : List TypedLeg :=
  typed.map fun leg =>
    if leg.lineRowNo ∈ fromRows then { leg with amount := grossUp pct leg.amount } else leg

def refuseLine (code : VoucherErrorCode) (message : String) (first line : ℕ) : Note :=
  .refuse ⟨code, message, some ("lines." ++ toString first ++ ".ledgerId"), some line⟩

/-- The deduction of a deductee above the threshold. -/
def withhold (input : DeriveInput) (run : TdsRun) (party : LedgerFacts) (group : List TypedLeg)
    (first : ℕ) (tdsSection : Text) (rate : TdsRateFacts) (base tax : Decimal) : TdsRun :=
  let fromRows := group.map (·.lineRowNo)
  let dated := (group.filter TypedLeg.postDated).head?
  let pct := tdsPercent party rate
  match tdsPayable input with
  | none =>
      if run.unmappedTold then run
      else { run with unmappedTold := true, notes := run.notes ++ [.refuse tdsUnmapped] }
  | some ledger =>
      -- a post-dated cheque's TDS leg goes with it, so the deduction must sit on that one line
      match dated.filter fun _ => 0 < tax ∧ 1 < group.length with
      | some late =>
          { run with notes := run.notes ++ [refuseLine .INVALID (rowText late.lineRowNo ++ ": " ++
              party.name ++ " has TDS deducted across " ++ toString group.length ++
              " lines and one is a post-dated cheque — pay the post-dated cheque on a voucher " ++
              "of its own") first late.lineRowNo] }
      | none =>
          { run with
            typed := if 0 < tax then grossLines pct fromRows run.typed else run.typed
            legs := run.legs ++ if 0 < tax then
                [tdsLeg ledger tax (tdsRemarks tdsSection pct base ++ " — " ++ party.name) fromRows
                  dated.isSome (dated.bind TypedLeg.postsOn)]
              else []
            records := run.records ++ [tdsRecord cases party tdsSection rate (tdsRateSource party)
              base tax none fromRows (some ledger.ledgerId) (some first)] }

/-- A deductee whose section and rate are known: grossed up line by line. -/
def deductMany (input : DeriveInput) (run : TdsRun) (party : LedgerFacts) (group : List TypedLeg)
    (first : ℕ) (tdsSection : Text) (rate : TdsRateFacts) (annualBaseSoFar : Decimal) :
    Except DeriveFault TdsRun :=
  let pct := tdsPercent party rate
  if pct = 100 then .error .notFinite
  else
    let base := (group.map fun leg => grossUp pct leg.amount).sum
    let tax := (group.map fun leg => grossUp pct leg.amount - leg.amount).sum
    if !crossesTdsThreshold base (annualBaseSoFar + base) rate then
      -- nothing is deducted, so the base recorded is what was paid
      let paid := (group.map (·.amount)).sum
      let reason := toFixed paid ++ " to " ++ party.name ++
        thresholdText tdsSection rate (annualBaseSoFar + paid)
      .ok { run with
        records := run.records ++ [tdsRecord cases party tdsSection rate .BELOW_THRESHOLD paid 0
          (some reason) (group.map (·.lineRowNo)) none (some first)]
        notes := run.notes ++ [.warn ⟨.TDS_BELOW_THRESHOLD, "No TDS deducted: " ++ reason,
          some ("lines." ++ toString first ++ ".ledgerId"), some first⟩] }
    else .ok (withhold cases input run party group first tdsSection rate base tax)

/-- The body of the loop over the deductees. -/
def deductGroup (input : DeriveInput) (run : TdsRun) (group : List TypedLeg) :
    Except DeriveFault TdsRun :=
  match group with
  | [] => .ok run
  | leg :: _ =>
      let party := leg.ledger
      let first := leg.lineRowNo
      let refused (code : VoucherErrorCode) (message : String) : Except DeriveFault TdsRun :=
        .ok { run with notes := run.notes ++ [refuseLine code message first first] }
      if !paymentShaped input.type then
        refused .INVALID (rowText first ++ ": TDS on a multi-party " ++ input.type.typeName ++
          " is worked out only when it pays parties (party side DR, bills demanded)")
      else
        let tdsSection := Text.trim (party.tdsSection.getD [])
        if tdsSection = [] then
          refused .TDS_RATE_MISSING (party.name ++ " is TDS-applicable but names no section")
        else
          match (input.tdsByParty party.ledId).bind fun facts =>
              facts.rate.map fun rate => (facts, rate) with
          | none =>
              refused .TDS_RATE_MISSING ("No TDS rate is in force for section " ++
                String.ofList tdsSection ++ " (" ++ shownType party.tdsDeducteeType ++ ") on " ++
                input.header.date.text ++ " — " ++ party.name)
          | some (facts, rate) =>
              deductMany cases input run party group first tdsSection rate facts.annualBaseSoFar

/-- The deductions of a voucher with parties on its lines. -/
def deriveTdsMany (input : DeriveInput) (typed : List TypedLeg) : Except DeriveFault TdsRun :=
  let start : TdsRun := ⟨typed, [], [], false, []⟩
  if input.type.tdsMode = .DEDUCT ∧ input.type.partyMode = .MANY then
    (byDeductee input.type typed).values.foldlM (deductGroup cases input) start
  else .ok start

end ErpServer.Vouchers
