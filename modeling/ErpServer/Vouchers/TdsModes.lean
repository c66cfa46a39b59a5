import ErpServer.Vouchers.GstExact

/-!
# One party and several

A payment to one party and one to several discharge what is paid and the tax withheld.  With
several, a party below the threshold is recorded at what was paid; with one it is recorded at
the gross, so the two agree only where there is nothing between them.
-/

namespace ErpServer.Vouchers

open Lib
open Receipt (Decimal DrCr Figure money money_mem money_of_mem paise)

variable {cases : Text.CaseMapping} {input : DeriveInput}

/-! ## What was typed -/

/-- What the lines of these rows were typed for. -/
def typedFor (input : DeriveInput) (rows : List ℕ) : Decimal :=
  (((sortedLines input).filter fun line => line.rowNo ∈ rows).map fun line =>
    money line.amount).sum

/-- The lines that debit a party. -/
def linesOn (input : DeriveInput) (party : Uuid) : List TypedLineInput :=
  (sortedLines input).filter fun line =>
    line.drCr = .DR && (input.ledgers line.ledgerId).any fun ledger => ledger.ledId = party

def typedOn (input : DeriveInput) (party : Uuid) : Decimal :=
  ((linesOn input party).map fun line => money line.amount).sum

/-- The lines a payment to one party deducts on. -/
def baseLines (input : DeriveInput) : List TypedLineInput :=
  (sortedLines input).filter fun line => line.drCr = .CR &&
    line.tdsBase.getD ((input.ledgers line.ledgerId).any (·.isTdsApplicable))

/-- The net a payment to one party types. -/
def typedNet (input : DeriveInput) : Decimal :=
  ((baseLines input).map fun line => money line.amount).sum

/-! ## The law -/

/-- What the voucher debits a party on its typed lines. -/
def dischargedOn (voucher : DerivedInternal) (party : Uuid) : Decimal :=
  ((voucher.legs.filter fun leg => leg.source = .TYPED && leg.drCr = .DR &&
    leg.ledger.ledId = party).map (·.amount)).sum

/-- What leaves by the instruments against a party. -/
def leftByInstruments (voucher : DerivedInternal) (party : Uuid) : Decimal :=
  ((voucher.legs.filter fun leg => leg.source = .INSTRUMENT && leg.drCr = .CR &&
    leg.instrument.isSome && leg.oppLedgerId = some party).map (·.amount)).sum

def isTdsLeg (leg : InternalLeg) : Bool := leg.source = .TDS

/-- The legs below the party's, without the tax withheld. -/
def paidLegs (voucher : DerivedInternal) : List InternalLeg :=
  voucher.legs.filter fun leg => !isTdsLeg leg && leg.source ≠ .PARTY

def recordedTax (voucher : DerivedInternal) : Decimal := (voucher.tdsLines.map (·.tax)).sum

/-- A payment to one party, and the same payment as the only row of its party. -/
structure SamePayment (one many : DeriveInput) (party : LedgerFacts) (row : TypedLineInput) :
    Prop where
  shaped : paymentShaped one.type = true ∧ paymentShaped many.type = true
  deducts : one.type.tdsMode = .DEDUCT ∧ many.type.tdsMode = .DEDUCT
  modes : one.type.partyMode = .ONE ∧ many.type.partyMode = .MANY
  ofOne : one.party = some party
  ofMany : many.ledgers row.ledgerId = some party
  onParty : (party.isParty || party.isBillByBill) = true
  applicable : party.isTdsApplicable = true
  counted : row.tdsBase.getD true = true
  single : linesOn many party.ledId = [row]
  amount : money row.amount = typedNet one
  facts : many.tdsByParty party.ledId = one.tds

/-- How a payment's deductions agree with what is paid, discharged and recorded. -/
structure TdsLaw (cases : Text.CaseMapping) (input : DeriveInput) (voucher : DerivedInternal) :
    Prop where
  /-- The party is discharged of what the other legs pay it and the tax withheld. -/
  one : ∀ party, voucher.party = some party →
    party.amount = leftForParty party.side (paidLegs voucher) + recordedTax voucher
  /-- So is every party on the lines, of what was typed for it. -/
  many : input.type.partyMode = .MANY → ∀ party,
    dischargedOn voucher party = typedOn input party + taxOn party voucher.tdsLines
  /-- Lines paid by instruments are paid what was typed. -/
  instruments : ∀ party, (∀ line ∈ linesOn input party, line.instrument.isSome = true) →
    leftByInstruments voucher party = typedOn input party
  payable : ((voucher.legs.filter isTdsLeg).map (·.amount)).sum = recordedTax voucher
  /-- Below the threshold nothing is withheld, and what was paid is recorded. -/
  below : ∀ record ∈ voucher.tdsLines, record.rateSource = .BELOW_THRESHOLD →
    record.tax = 0 ∧ record.base = typedFor input record.fromRows
  /-- The same payment as a single row of several parties has the same base, tax and net. -/
  alike : ∀ (other : DeriveInput) (party : LedgerFacts) (row : TypedLineInput)
      (derived : Derived), SamePayment input other party row →
      derive cases other = .ok derived → derived.Accepted other.ctx →
    ∃ mine theirs, voucher.tdsLines = [mine] ∧
      derived.voucher.tdsLines.filter (fun record => record.party.ledId = party.ledId) =
        [theirs] ∧ mine.base = theirs.base ∧ mine.tax = theirs.tax ∧
      typedFor input mine.fromRows = typedFor other theirs.fromRows

/-- The gross of a payment to one party crosses the threshold, or is its net. -/
def CrossesOrExact (input : DeriveInput) : Prop :=
  ∀ party facts rate, input.type.partyMode = .ONE → input.type.tdsMode = .DEDUCT →
    input.party = some party → party.isTdsApplicable = true → input.tds = some facts →
    facts.rate = some rate →
      crossesTdsThreshold (grossUp (tdsPercent party rate) (typedNet input))
          (facts.annualBaseSoFar + grossUp (tdsPercent party rate) (typedNet input)) rate = true ∨
        grossUp (tdsPercent party rate) (typedNet input) = typedNet input

/-! ## Lines and legs -/

section Lines

variable {lines : List TypedLineInput} {typed : List TypedLeg}

/-- Lines come to what their legs do. -/
theorem sum_lines_legs (legs : List.Forall₂ (LineLeg input) lines typed) :
    (lines.map fun line => money line.amount).sum = (typed.map (·.amount)).sum := by
  induction legs with
  | nil => rfl
  | cons becomes _ ih =>
      rw [List.map_cons, List.map_cons, List.sum_cons, List.sum_cons, ih, becomes.amount]

/-- Lines kept as their legs are. -/
theorem kept_legs {keepLine : TypedLineInput → Bool} {keepLeg : TypedLeg → Bool}
    (legs : List.Forall₂ (LineLeg input) lines typed)
    (alike : ∀ line leg, LineLeg input line leg → keepLine line = keepLeg leg) :
    List.Forall₂ (LineLeg input) (lines.filter keepLine) (typed.filter keepLeg) := by
  apply List.rel_filter _ legs
  intro line leg becomes
  exact Bool.eq_iff_iff.mp (alike line leg becomes)

theorem filter_rows (nodup : (typed.map (·.lineRowNo)).Nodup) (keep : TypedLeg → Bool) :
    typed.filter (fun leg => leg.lineRowNo ∈ rowsOf (typed.filter keep)) = typed.filter keep := by
  apply List.filter_congr
  intro leg member
  apply Bool.eq_iff_iff.mpr
  rw [decide_eq_true_eq, rowsOf, List.mem_map]
  constructor
  · rintro ⟨other, otherMember, same⟩
    rw [List.mem_filter] at otherMember
    rw [← List.inj_on_of_nodup_map nodup otherMember.1 member same]
    exact otherMember.2
  · intro kept
    exact ⟨leg, List.mem_filter.mpr ⟨member, kept⟩, rfl⟩

/-- What rows of legs were typed for. -/
theorem typedFor_rows (read : ReadLines input (sortedLines input) (deriveLines cases input))
    (keep : TypedLeg → Bool) :
    typedFor input (rowsOf ((deriveLines cases input).typed.filter keep)) =
      (((deriveLines cases input).typed.filter keep).map (·.amount)).sum := by
  rw [typedFor]
  conv_rhs => rw [← filter_rows read.rows_nodup keep]
  apply sum_lines_legs (kept_legs read.legs _)
  intro line leg becomes
  rw [becomes.rowNo]

/-- The legs of the lines that debit a party. -/
theorem linesOn_legs (legs : List.Forall₂ (LineLeg input) (sortedLines input) typed)
    (party : Uuid) :
    List.Forall₂ (LineLeg input) (linesOn input party) (debitsOn party typed) := by
  apply kept_legs legs
  intro line leg becomes
  rw [becomes.ledger, Option.any_some, becomes.side, Bool.decide_and, Bool.and_comm]

theorem typedOn_eq (legs : List.Forall₂ (LineLeg input) (sortedLines input) typed) (party : Uuid) :
    typedOn input party = ((debitsOn party typed).map (·.amount)).sum :=
  sum_lines_legs (linesOn_legs legs party)

theorem typedNet_eq (legs : List.Forall₂ (LineLeg input) (sortedLines input) typed) :
    typedNet input = netOf .DR typed := by
  apply sum_lines_legs (kept_legs legs _)
  intro line leg becomes
  rw [becomes.ledger, Option.any_some, becomes.isTdsBase, becomes.side, Bool.and_comm]
  rfl

end Lines

/-! ## The legs of the law -/

section Legs

variable {one : TdsOne} {many : TdsRun} {voucher : DerivedInternal}

/-- The tax legs withheld are those of the deductions. -/
theorem tdsLegs_eq
    (legs : voucher.legs = (bandsOf cases input one many).voucherLegs input.type)
    {keep : InternalLeg → Bool} (bare : ∀ leg, keep leg.bare = keep leg)
    (onlyTds : ∀ leg, keep leg = true → leg.source = .TDS) :
    ((voucher.legs.filter keep).map (·.amount)).sum =
      (((one.legs ++ many.legs).filter keep).map (·.amount)).sum := by
  have apart (source : LegSource) (other : LegSource.TDS ≠ source) {legs : List InternalLeg}
      (sources : ∀ leg ∈ legs, leg.source = source) : legs.filter keep = [] :=
    filter_other_source (fun leg kept => (onlyTds leg kept).trans_ne other) sources
  have notTax : ∀ leg, keep leg = true → leg.source ≠ .GST ∧ leg.source ≠ .RCM :=
    fun leg kept => ⟨(onlyTds leg kept).trans_ne LegSource.noConfusion,
      (onlyTds leg kept).trans_ne LegSource.noConfusion⟩
  rw [legs, sum_voucherLegs bare, filter_allLegs,
    apart .TYPED LegSource.noConfusion fun leg => @toLeg_source many.typed leg,
    apart .INSTRUMENT LegSource.noConfusion
      fun leg => @instrumentLegs_source (deriveLines cases input).typed leg, filter_gstLegs notTax,
    apart .PARTY LegSource.noConfusion
      fun leg => @balancing_source (bandsOf cases input one many) leg]
  simp only [List.append_nil, List.nil_append, List.filter_append]

/-- The typed legs are the lines as they end. -/
theorem dischargedOn_eq (oneCredits : CreditsOfTax one.legs) (manyCredits : CreditsOfTax many.legs)
    (legs : voucher.legs = (bandsOf cases input one many).voucherLegs input.type) (party : Uuid) :
    dischargedOn voucher party = ((debitsOn party many.typed).map (·.amount)).sum := by
  have bare : ∀ leg : InternalLeg, (leg.bare.source = .TYPED && leg.bare.drCr = .DR &&
      leg.bare.ledger.ledId = party : Bool) = (leg.source = .TYPED && leg.drCr = .DR &&
        leg.ledger.ledId = party : Bool) := fun _ => rfl
  have onlyTyped : ∀ leg : InternalLeg, (leg.source = .TYPED && leg.drCr = .DR &&
      leg.ledger.ledId = party : Bool) = true → leg.source = .TYPED := by
    intro leg kept
    simp only [Bool.and_eq_true, decide_eq_true_eq] at kept
    exact kept.1.1
  have others : (generatedLegs cases input one many).filter (fun leg => leg.source = .TYPED &&
      leg.drCr = .DR && leg.ledger.ledId = party) = [] := by
    apply List.filter_eq_nil_iff.mpr
    intro leg member kept
    exact (generatedLegs_source oneCredits manyCredits member).1 (onlyTyped leg kept)
  have noParty := @filter_other_source _ .PARTY
    (fun leg kept => (onlyTyped leg kept).trans_ne LegSource.noConfusion) _
    fun leg => @balancing_source (bandsOf cases input one many) leg
  rw [dischargedOn, legs, sum_voucherLegs bare, Bands.allLegs, bandsOf_legs, List.filter_append,
    List.filter_append, others, noParty, List.append_nil, List.append_nil, List.filter_map,
    List.map_map, debitsOn]
  congr 2
  apply List.filter_congr
  intro leg _
  simp only [Function.comp_apply, TypedLeg.toLeg, decide_true, Bool.true_and, Bool.decide_and]
  exact Bool.and_comm _ _

/-- An instrument's leg against a party. -/
def isInstrumentOn (party : Uuid) (leg : InternalLeg) : Bool :=
  leg.source = .INSTRUMENT && leg.drCr = .CR && leg.instrument.isSome &&
    leg.oppLedgerId = some party

theorem isInstrumentOn_bare (party : Uuid) (leg : InternalLeg) :
    isInstrumentOn party leg.bare = isInstrumentOn party leg := by
  simp only [isInstrumentOn, InternalLeg.bare]
  by_cases ins : leg.instrument.isSome = true
  · simp only [if_pos ins]
    congr
  · simp [ins]

theorem instrumentLegs_sum (party : Uuid) (typed : List TypedLeg) :
    (((instrumentLegs typed).filter (isInstrumentOn party)).map (·.amount)).sum =
      (((debitsOn party typed).filter fun leg => leg.instrument.isSome).map (·.amount)).sum := by
  induction typed with
  | nil => rfl
  | cons leg rest ih =>
      rw [instrumentLegs] at ih
      rw [instrumentLegs, List.filterMap_cons, debitsOn, List.filter_cons]
      cases ins : leg.instrument with
      | none =>
          simp only [Option.map_none]
          split
          · rw [List.filter_cons, ins]
            exact ih
          · exact ih
      | some instrument =>
          have side : isInstrumentOn party (instrumentLeg leg instrument) =
              decide (leg.ledger.ledId = party ∧ leg.drCr = .DR) := by
            cases drCr : leg.drCr with
            | DR => simp [isInstrumentOn, instrumentLeg, drCr, opposite]
            | CR => simp [isInstrumentOn, instrumentLeg, drCr, opposite]
          simp only [Option.map_some, List.filter_cons, side]
          split
          · rw [List.filter_cons, ins, Option.isSome_some, if_pos rfl, List.map_cons, List.map_cons,
              List.sum_cons, List.sum_cons, ih]
            rfl
          · exact ih

/-- What leaves by the instruments against a party is what their lines were typed for. -/
theorem leftByInstruments_eq (oneCredits : CreditsOfTax one.legs)
    (manyCredits : CreditsOfTax many.legs)
    (legs : voucher.legs = (bandsOf cases input one many).voucherLegs input.type) (party : Uuid) :
    leftByInstruments voucher party = (((debitsOn party (deriveLines cases input).typed).filter
      fun leg => leg.instrument.isSome).map (·.amount)).sum := by
  have only : ∀ leg, isInstrumentOn party leg = true → leg.source = .INSTRUMENT := by
    intro leg kept
    simp only [isInstrumentOn, Bool.and_eq_true, decide_eq_true_eq] at kept
    exact kept.1.1.1
  have apart (source : LegSource) (other : LegSource.INSTRUMENT ≠ source)
      {legs : List InternalLeg} (sources : ∀ leg ∈ legs, leg.source = source) :
      legs.filter (isInstrumentOn party) = [] :=
    filter_other_source (fun leg kept => (only leg kept).trans_ne other) sources
  have notTax : ∀ leg, isInstrumentOn party leg = true →
      leg.source ≠ .GST ∧ leg.source ≠ .RCM :=
    fun leg kept => ⟨(only leg kept).trans_ne LegSource.noConfusion,
      (only leg kept).trans_ne LegSource.noConfusion⟩
  have shape : leftByInstruments voucher party =
      ((voucher.legs.filter (isInstrumentOn party)).map (·.amount)).sum := rfl
  rw [shape, legs, sum_voucherLegs (isInstrumentOn_bare party), filter_allLegs,
    apart .TYPED LegSource.noConfusion fun leg => @toLeg_source many.typed leg,
    filter_gstLegs notTax,
    apart .TDS LegSource.noConfusion fun leg member => (oneCredits leg member).1,
    apart .TDS LegSource.noConfusion fun leg member => (manyCredits leg member).1,
    apart .PARTY LegSource.noConfusion
      fun leg => @balancing_source (bandsOf cases input one many) leg]
  simp only [List.append_nil, List.nil_append]
  exact instrumentLegs_sum party _

end Legs

end ErpServer.Vouchers
