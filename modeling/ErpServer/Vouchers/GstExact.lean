import ErpServer.Vouchers.GstRuns

/-!
# The GST band is exact

Side by side the legs of the band come to the tax of its lines, and head by head too where no
two heads share a ledger.  Under reverse charge the two sides cancel, and the party's leg
carries no tax.
-/

namespace ErpServer.Vouchers

open Lib Lib.DoubleEntry
open Receipt (Decimal DrCr Figure money money_mem money_of_mem paisa paise)

variable {cases : Text.CaseMapping} {input : DeriveInput} {head : GstHead} {tax : GstAmounts}

/-! ## What is due of a line -/

def onSide (side : DrCr) : Count := fun other _ => other = side

def underRole (role : VoucherRole) : Count := fun _ other => other = role

theorem opposite_ne (side : DrCr) : opposite side ≠ side := by
  cases side with
  | DR => exact DrCr.noConfusion
  | CR => exact DrCr.noConfusion

/-- The payables of a line under reverse charge. -/
def reverseTax (head : GstHead) (tax : GstAmounts) : Decimal :=
  if head.reverseCharge then tax.cgst + tax.sgst + tax.igst else 0

theorem dues_taxSide : countedDues (onSide head.taxSide) (lineDues head tax) = tax.total := by
  have other : head.partySide ≠ head.taxSide := (opposite_ne head.partySide).symm
  rw [lineDues]
  split
  · simp [countedDues, onSide, other, GstAmounts.get, GstAmounts.total, add_assoc]
  · simp [countedDues, onSide, GstAmounts.get, GstAmounts.total, add_assoc]

theorem dues_partySide : countedDues (onSide head.partySide) (lineDues head tax) =
    reverseTax head tax := by
  have other : head.taxSide ≠ head.partySide := opposite_ne head.partySide
  rw [lineDues, reverseTax]
  split
  · simp [countedDues, onSide, other, GstAmounts.get, add_assoc]
  · simp [countedDues, onSide, other]

theorem taxRole_ne_payable (side : GstSide) (component other : GstComponent) :
    taxRole side component ≠ .RCM_PAYABLE other := by
  cases side with
  | INPUT => exact VoucherRole.noConfusion
  | OUTPUT => exact VoucherRole.noConfusion

theorem taxRole_inj (side : GstSide) (component other : GstComponent) :
    taxRole side component = taxRole side other ↔ component = other := by
  cases side with
  | INPUT => exact ⟨VoucherRole.INPUT.inj, congrArg _⟩
  | OUTPUT => exact ⟨VoucherRole.OUTPUT.inj, congrArg _⟩

/-- What is due under a role of tax is its component. -/
theorem dues_taxRole (component : GstComponent) :
    countedDues (underRole (taxRole head.side component)) (lineDues head tax) =
      tax.get component := by
  have payable (other : GstComponent) : VoucherRole.RCM_PAYABLE other ≠
      taxRole head.side component := (taxRole_ne_payable _ _ _).symm
  rw [lineDues]
  cases component with
  | CGST =>
      split
      · simp [countedDues, underRole, taxRole_inj, payable]
      · simp [countedDues, underRole, taxRole_inj]
  | SGST =>
      split
      · simp [countedDues, underRole, taxRole_inj, payable]
      · simp [countedDues, underRole, taxRole_inj]
  | IGST =>
      split
      · simp [countedDues, underRole, taxRole_inj, payable]
      · simp [countedDues, underRole, taxRole_inj]
  | CESS =>
      split
      · simp [countedDues, underRole, taxRole_inj, payable]
      · simp [countedDues, underRole, taxRole_inj]

theorem onSide_fair (side : DrCr) : Fair input head (onSide side) :=
  fun _ _ _ _ _ _ _ _ _ _ _ _ => rfl

/-- No two heads of tax post to one ledger. -/
def HeadsApart (input : DeriveInput) (nature : SupplyNature) (side : GstSide) : Prop :=
  ∀ component other taxId otherTax ledger otherLedger,
    roleLedger input nature (taxRole side component) taxId = some ledger →
    roleLedger input nature (taxRole side other) otherTax = some otherLedger →
    ledger.ledgerId = otherLedger.ledgerId → component = other

theorem underRole_fair (apart : HeadsApart input head.supplyNature head.side)
    (component : GstComponent) : Fair input head (underRole (taxRole head.side component)) := by
  intro side first second firstTax secondTax firstLedger secondLedger firstDue secondDue
    firstMapped secondMapped same
  have sides : head.partySide ≠ head.taxSide := (opposite_ne head.partySide).symm
  rcases firstDue with ⟨onTax, one, rfl⟩ | ⟨onParty, one, rfl⟩
  · rcases secondDue with ⟨_, two, rfl⟩ | ⟨onParty, _, _⟩
    · rw [apart one two _ _ _ _ firstMapped secondMapped same]
    · exact absurd (onParty.symm.trans onTax) sides
  · rcases secondDue with ⟨onTax, _, _⟩ | ⟨_, two, rfl⟩
    · exact absurd (onParty.symm.trans onTax) sides
    · rw [underRole, underRole, decide_eq_false (taxRole_ne_payable _ _ _).symm,
        decide_eq_false (taxRole_ne_payable _ _ _).symm]

/-! ## The legs of the band -/

def isTaxLeg (leg : InternalLeg) : Bool := leg.source = .GST || leg.source = .RCM

/-- What the tax legs on a side come to. -/
def taxOnSide (side : DrCr) (voucher : DerivedInternal) : Decimal :=
  ((voucher.legs.filter fun leg => isTaxLeg leg && leg.drCr = side).map (·.amount)).sum

/-- What the tax legs under a role come to. -/
def taxUnder (role : VoucherRole) (voucher : DerivedInternal) : Decimal :=
  ((voucher.legs.filter fun leg => isTaxLeg leg && leg.role = some role).map (·.amount)).sum

theorem isTaxLeg_gstLeg (entry : (Uuid × DrCr) × GstEntry) : isTaxLeg (gstLeg entry) = true := by
  rw [isTaxLeg, gstLeg_source]
  split
  · rfl
  · rfl

section Band

variable {one : TdsOne} {many : TdsRun} {keep : InternalLeg → Bool} {counts : Count}

theorem isTaxLeg_ne {leg : InternalLeg} (taxed : isTaxLeg leg = true) {source : LegSource}
    (other : source ≠ .GST ∧ source ≠ .RCM) : leg.source ≠ source := by
  intro same
  rw [isTaxLeg, same, decide_eq_false other.1, decide_eq_false other.2] at taxed
  cases taxed

/-- Only the band's legs are tax legs. -/
theorem filter_taxLegs (oneCredits : CreditsOfTax one.legs) (manyCredits : CreditsOfTax many.legs)
    (onlyTax : ∀ leg, keep leg = true → isTaxLeg leg = true) :
    (bandsOf cases input one many).allLegs.filter keep =
      (deriveGst cases input (readParty cases input) (deriveLines cases input).typed).legs.filter
        keep := by
  have apart (source : LegSource) (other : source ≠ .GST ∧ source ≠ .RCM)
      {legs : List InternalLeg} (sources : ∀ leg ∈ legs, leg.source = source) :
      legs.filter keep = [] :=
    filter_other_source (fun leg kept => isTaxLeg_ne (onlyTax leg kept) other) sources
  rw [filter_allLegs,
    apart .TYPED ⟨LegSource.noConfusion, LegSource.noConfusion⟩
      fun leg => @toLeg_source many.typed leg,
    apart .INSTRUMENT ⟨LegSource.noConfusion, LegSource.noConfusion⟩
      fun leg => @instrumentLegs_source (deriveLines cases input).typed leg,
    apart .TDS ⟨LegSource.noConfusion, LegSource.noConfusion⟩
      fun leg member => (oneCredits leg member).1,
    apart .TDS ⟨LegSource.noConfusion, LegSource.noConfusion⟩
      fun leg member => (manyCredits leg member).1,
    apart .PARTY ⟨LegSource.noConfusion, LegSource.noConfusion⟩
      fun leg => @balancing_source (bandsOf cases input one many) leg]
  simp only [List.append_nil, List.nil_append]

/-- What counts among the legs of the band is what counts in its books. -/
theorem sum_gstLegs {byLedger : OrderedMap (Uuid × DrCr) GstEntry}
    (books : Books input head byLedger)
    (agrees : ∀ entry, keep (gstLeg entry) = counts entry.1.2 entry.2.role) :
    (((byLedger.entries.map gstLeg).filter keep).map (·.amount)).sum =
      countedTotal counts byLedger := by
  rw [countedTotal]
  have exact : ∀ entry ∈ byLedger.entries, entry.2.amount ∈ paise :=
    fun entry member => (books entry member).2.1.1
  clear books
  generalize byLedger.entries = entries at exact ⊢
  induction entries with
  | nil => rfl
  | cons entry rest ih =>
      have others := ih fun entry member => exact entry (List.mem_cons_of_mem _ member)
      have same : (gstLeg entry).amount = entry.2.amount :=
        money_of_mem (exact entry List.mem_cons_self)
      rw [List.map_cons, List.filter_cons, agrees, List.map_cons, List.sum_cons, ← others]
      split
      · rw [List.map_cons, List.sum_cons, same]
      · rw [zero_add]

end Band

/-! ## The voucher -/

/-- The legs below the party's, without the band's. -/
def untaxedLegs (voucher : DerivedInternal) : List InternalLeg :=
  voucher.legs.filter fun leg => !isTaxLeg leg && leg.source ≠ .PARTY

/-- A line's tax is rounded once and then split, by where it is supplied. -/
structure ExactLine (nature : SupplyNature) (line : InternalGstLine) : Prop where
  whole : line.tax.cgst + line.tax.sgst + line.tax.igst =
    money (line.taxable * line.rate.ratePerc / 100)
  halves : |line.tax.cgst - line.tax.sgst| ≤ paisa
  intra : nature = .INTRA → line.tax.igst = 0
  inter : nature = .INTER → line.tax.cgst = 0 ∧ line.tax.sgst = 0

/-- A band is exact line by line. -/
structure GstLines (input : DeriveInput) (gst : InternalGst) : Prop where
  /-- Every line with a rate is taxed, in row order, on its own amount. -/
  lines : gst.lines.map (fun line => (line.lineRowNo, line.taxable)) =
    ((sortedLines input).filter (·.gst.isSome)).map fun line => (line.rowNo, money line.amount)
  nature : gst.supplyNature = .INTRA ↔ gst.posStcd = input.company.stateCode
  exact : ∀ line ∈ gst.lines, ExactLine gst.supplyNature line
  taxable : gst.taxable = (gst.lines.map (·.taxable)).sum
  heads : ∀ component, gst.tax.get component =
    (gst.lines.map fun line => line.tax.get component).sum

/-- A band's legs are exact, and the party's with them. -/
structure GstLegs (input : DeriveInput) (voucher : DerivedInternal) (gst : InternalGst)
    (party : DerivedParty) : Prop where
  isParty : voucher.party = some party
  /-- The legs opposite the party come to the reported tax, all heads together. -/
  taxSide : taxOnSide (opposite party.side) voucher = gst.tax.total
  /-- Head by head where no two heads share a ledger. -/
  byHead : HeadsApart input gst.supplyNature gst.side → ∀ component,
    taxUnder (taxRole gst.side component) voucher = gst.tax.get component
  /-- Under reverse charge the legs on the party's side come to it as well. -/
  reversed : taxOnSide party.side voucher = if gst.reverseCharge then gst.tax.total else 0
  /-- So the party's leg carries the tax, or under reverse charge none. -/
  carried : party.amount = leftForParty party.side (untaxedLegs voucher) +
    if gst.reverseCharge then 0 else gst.tax.total

/-! ## From the band to the voucher -/

variable {typed : List TypedLeg}

/-- A band that found lines to tax. -/
theorem deriveGst_banded {read : PartyRead} {gst : InternalGst}
    (found : (deriveGst cases input read typed).gst = some gst) :
    ∃ side partySide, read.side = some partySide ∧ input.type.gstRegister.isSome = true ∧
      deriveGst cases input read typed =
        gstBand cases input (gstHead input read.party side partySide) (gstTyped input typed) := by
  rw [deriveGst] at found ⊢
  split at found
  · next side partySide isSide isPartySide =>
      simp only [isPartySide] at found ⊢
      split at found
      · cases found
      · next taxed =>
          refine ⟨side, partySide, rfl, ?_, if_neg taxed⟩
          by_contra unregistered
          exact taxed (if_neg unregistered)
  · cases found

theorem TaxedAs.pairs {entries : List (TypedLeg × LineGstInput)} {lines : List InternalGstLine}
    (taxed : List.Forall₂ (TaxedAs input head) entries lines) :
    lines.map (fun line => (line.lineRowNo, line.taxable)) =
      entries.map fun entry => (entry.1.lineRowNo, entry.1.amount) := by
  induction taxed with
  | nil => rfl
  | cons here _ ih => rw [List.map_cons, List.map_cons, here.lineRowNo, here.taxable, ih]

/-- The taxed legs are those of the lines with a rate. -/
theorem gstTyped_lines {done : List TypedLineInput}
    (registered : input.type.gstRegister.isSome = true)
    (legs : List.Forall₂ (LineLeg input) done typed) :
    (gstTyped input typed).map (fun entry => (entry.1.lineRowNo, entry.1.amount)) =
      (done.filter (·.gst.isSome)).map fun line => (line.rowNo, money line.amount) := by
  rw [gstTyped, if_pos registered]
  induction legs with
  | nil => rfl
  | @cons line leg rest others becomes _ ih =>
      rw [List.filter_cons]
      cases rated : leg.gst with
      | none =>
          have unrated : line.gst = none := becomes.gst.symm.trans rated
          rw [List.filterMap_cons, rated, unrated]
          exact ih
      | some gst =>
          have same : line.gst = some gst := becomes.gst.symm.trans rated
          rw [List.filterMap_cons, rated, same]
          simp only [Option.map_some, Option.isSome_some, if_true, List.map_cons, ih,
            becomes.rowNo, becomes.amount]

section Voucher

variable {derived : Derived} {one : TdsOne} {many : TdsRun} {billwise : Billwise}
variable {gst : InternalGst}

variable {voucher : DerivedInternal} {done : List (TypedLeg × LineGstInput)}

/-- The tax legs that count come to what was due of them. -/
theorem taxLegs_sum (oneCredits : CreditsOfTax one.legs) (manyCredits : CreditsOfTax many.legs)
    (band : deriveGst cases input (readParty cases input) (deriveLines cases input).typed =
      gstBand cases input head (gstTyped input (deriveLines cases input).typed))
    (taxing : Taxing input head (gstTyped input (deriveLines cases input).typed)
      (runGst cases input head (gstTyped input (deriveLines cases input).typed)))
    (legs : voucher.legs = (bandsOf cases input one many).voucherLegs input.type)
    {keep : InternalLeg → Bool} {counts : Count} (fair : Fair input head counts)
    (bare : ∀ leg, (isTaxLeg leg.bare && keep leg.bare) = (isTaxLeg leg && keep leg))
    (agrees : ∀ entry, keep (gstLeg entry) = counts entry.1.2 entry.2.role) :
    ((voucher.legs.filter fun leg => isTaxLeg leg && keep leg).map (·.amount)).sum =
      ((runGst cases input head (gstTyped input (deriveLines cases input).typed)).lines.map
        fun line => countedDues counts (lineDues head line.tax)).sum := by
  have onlyTax : ∀ leg, (isTaxLeg leg && keep leg) = true → isTaxLeg leg = true := by
    intro leg kept
    exact (Bool.and_eq_true _ _ ▸ kept).1
  have ofEntry : ∀ entry, (isTaxLeg (gstLeg entry) && keep (gstLeg entry)) =
      counts entry.1.2 entry.2.role := by
    intro entry
    rw [isTaxLeg_gstLeg, Bool.true_and, agrees]
  rw [legs, sum_voucherLegs bare, filter_taxLegs oneCredits manyCredits onlyTax, band, gstBand,
    sum_gstLegs taxing.books ofEntry, taxing.counted counts fair]

variable {run : GstRun}

theorem Taxing.total (taxing : Taxing input head done run) :
    run.tax.total = (run.lines.map fun line => line.tax.total).sum := by
  have parts : (run.lines.map fun line => line.tax.total).sum =
      (run.lines.map fun line => line.tax.get .CGST).sum +
        (run.lines.map fun line => line.tax.get .SGST).sum +
        (run.lines.map fun line => line.tax.get .IGST).sum +
        (run.lines.map fun line => line.tax.get .CESS).sum := by
    simp only [← List.sum_map_add]
    rfl
  rw [parts, ← taxing.tax, ← taxing.tax, ← taxing.tax, ← taxing.tax]
  rfl

/-- Under reverse charge all the tax is payable, for no cess is due. -/
theorem Taxing.payable (taxing : Taxing input head done run) :
    (run.lines.map fun line => reverseTax head line.tax).sum =
      if head.reverseCharge then run.tax.total else 0 := by
  rw [taxing.total]
  by_cases reverse : head.reverseCharge = true
  · rw [if_pos reverse]
    congr 1
    apply List.map_congr_left
    intro line member
    rw [reverseTax, if_pos reverse, GstAmounts.total, taxing.cess reverse line member, add_zero]
  · simp [reverseTax, reverse]

theorem gstHead_nature (party : Option LedgerFacts) (side : GstSide) (partySide : DrCr) :
    (gstHead input party side partySide).supplyNature = .INTRA ↔
      (gstHead input party side partySide).posStcd = input.company.stateCode := by
  have shape : (gstHead input party side partySide).supplyNature =
      if (gstHead input party side partySide).posStcd = input.company.stateCode then .INTRA
      else .INTER := rfl
  rw [shape]
  by_cases same : (gstHead input party side partySide).posStcd = input.company.stateCode
  · rw [if_pos same]
    exact iff_of_true rfl same
  · rw [if_neg same]
    exact iff_of_false SupplyNature.noConfusion same

theorem TaxedAs.exact {entry : TypedLeg × LineGstInput} {line : InternalGstLine}
    (taxed : TaxedAs input head entry line) : ExactLine head.supplyNature line := by
  have heads := taxOf_heads head.supplyNature line.rate line.taxable
  rw [← taxed.tax] at heads
  constructor
  · rw [taxed.tax]
    exact taxOf_split _ _ _
  · rw [taxed.tax]
    exact taxOf_halves _ _ _
  · intro intra
    rw [intra] at heads
    exact heads
  · intro inter
    rw [inter] at heads
    exact heads

theorem Taxing.gstLines {party : Option LedgerFacts} {side : GstSide} {partySide : DrCr}
    {typed : List TypedLeg} (registered : input.type.gstRegister.isSome = true)
    (legs : List.Forall₂ (LineLeg input) (sortedLines input) typed)
    (taxing : Taxing input (gstHead input party side partySide) (gstTyped input typed) run) :
    GstLines input (gstOf input (gstHead input party side partySide) run) := by
  constructor
  · exact (TaxedAs.pairs taxing.lines).trans (gstTyped_lines registered legs)
  · exact gstHead_nature party side partySide
  · intro line member
    obtain ⟨entry, _, taxed⟩ := Fold.forall₂_right taxing.lines member
    exact taxed.exact
  · exact taxing.taxable
  · exact taxing.tax

theorem Taxing.gstLegs {party : DerivedParty} (oneCredits : CreditsOfTax one.legs)
    (manyCredits : CreditsOfTax many.legs)
    (band : deriveGst cases input (readParty cases input) (deriveLines cases input).typed =
      gstBand cases input head (gstTyped input (deriveLines cases input).typed))
    (taxing : Taxing input head (gstTyped input (deriveLines cases input).typed)
      (runGst cases input head (gstTyped input (deriveLines cases input).typed)))
    (legs : voucher.legs = (bandsOf cases input one many).voucherLegs input.type)
    (isParty : voucher.party = some party) (side : head.partySide = party.side)
    (exact : ∀ leg ∈ (bandsOf cases input one many).legs, leg.amount ∈ paise)
    (amount : party.amount = money (leftForParty party.side (bandsOf cases input one many).legs)) :
    GstLegs input voucher (gstOf input head
      (runGst cases input head (gstTyped input (deriveLines cases input).typed))) party := by
  have onTax : taxOnSide head.taxSide voucher =
      (runGst cases input head (gstTyped input (deriveLines cases input).typed)).tax.total := by
    rw [taxOnSide, taxLegs_sum oneCredits manyCredits band taxing legs (onSide_fair head.taxSide)
      (fun _ => rfl) fun _ => rfl, taxing.total]
    simp only [dues_taxSide]
  have onParty : taxOnSide head.partySide voucher = if head.reverseCharge then
      (runGst cases input head (gstTyped input (deriveLines cases input).typed)).tax.total
      else 0 := by
    rw [taxOnSide, taxLegs_sum oneCredits manyCredits band taxing legs (onSide_fair head.partySide)
      (fun _ => rfl) fun _ => rfl, ← taxing.payable]
    simp only [dues_partySide]
  have taxed (other : DrCr) : sideSum other ((bandsOf cases input one many).legs.filter isTaxLeg) =
      taxOnSide other voucher :=
    sideSum_picked (fun _ => rfl)
      (fun leg taxed => isTaxLeg_ne taxed ⟨LegSource.noConfusion, LegSource.noConfusion⟩) legs other
  rw [GstHead.taxSide, side] at onTax
  rw [side] at onParty
  refine ⟨isParty, onTax, ?_, onParty, ?_⟩
  · intro apart component
    rw [taxUnder, taxLegs_sum oneCredits manyCredits band taxing legs
      (underRole_fair apart component) (fun _ => rfl) fun entry => ?_]
    · simp only [dues_taxRole]
      exact (taxing.tax component).symm
    · exact decide_eq_decide.mpr Option.some_inj
  · have left : leftForParty party.side (bandsOf cases input one many).legs ∈ paise := by
      rw [leftForParty_eq]
      exact sub_mem (sideSum_mem exact _) (sideSum_mem exact _)
    rw [amount, money_of_mem left, leftForParty_eq, leftForParty_eq,
      sideSum_split isTaxLeg (opposite party.side), sideSum_split isTaxLeg party.side,
      taxed, taxed, untaxedLegs, sideSum_below (fun _ => rfl) oneCredits manyCredits legs,
      sideSum_below (fun _ => rfl) oneCredits manyCredits legs, onTax, onParty]
    change _ = _ + if head.reverseCharge = true then 0 else
      (runGst cases input head (gstTyped input (deriveLines cases input).typed)).tax.total
    split
    · ring
    · ring

/-- The GST band of a voucher that refuses nothing: exact line by line, the legs against the
reported tax, and the party's leg with the tax or, under reverse charge, without. -/
theorem gst_band_exact (ok : derive cases input = .ok derived)
    (accepted : derived.Accepted input.ctx) (reported : derived.voucher.gst = some gst) :
    GstLines input gst ∧ ∃ party, GstLegs input derived.voucher gst party := by
  obtain ⟨one, many, billwise, ran⟩ := derive_ran ok
  have quiet := ran.quiet accepted
  obtain ⟨_, exact, oneCredits, manyCredits⟩ := ran.typed quiet
  have read := deriveLines_read quiet.lines
  have figures : ∀ leg ∈ (deriveLines cases input).typed, Figure leg.amount :=
    fun leg member => read.figure member
  rw [ran.derived_eq] at reported ⊢
  obtain ⟨side, partySide, isSide, registered, band⟩ := deriveGst_banded reported
  obtain ⟨party, isParty⟩ := readParty_side isSide
  have clean := quiet.band
  have found : (deriveGst cases input (readParty cases input)
      (deriveLines cases input).typed).gst = some gst := reported
  rw [band] at clean found
  obtain rfl := Option.some.inj found
  have nonneg : ∀ entry ∈ gstTyped input (deriveLines cases input).typed, 0 ≤ entry.1.amount := by
    intro entry member
    rw [gstTyped, if_pos registered] at member
    obtain ⟨leg, legMember, made⟩ := List.mem_filterMap.mp member
    obtain ⟨_, _, rfl⟩ := Option.map_eq_some_iff.mp made
    exact (figures leg legMember).nonneg
  have taxing := runGst_taxing nonneg clean
  have balanced := congrArg Balancing.party (balanceParty_ok isParty isSide quiet.balancing)
  refine ⟨taxing.gstLines registered read.legs, _,
    taxing.gstLegs oneCredits manyCredits band rfl balanced rfl ?_ rfl⟩
  exact fun leg member => bandsOf_exact oneCredits manyCredits exact figures member

end Voucher

/-! ## One ledger for two heads -/

private theorem taxed_unraised (raise : BillwiseMode.OFF = .RAISE) :
    (none : Option BillType) ≠ none := by
  cases raise

private theorem atEighteen_nonneg : (0 : Decimal) ≤ 18 := by
  norm_num

private theorem noCess_le : (0 : Decimal) ≤ 0 :=
  le_rfl

private def taxedType : VoucherTypeRules where
  typeCode := "PurA"
  typeName := "Purchase (Accounting)"
  nature := .PURCHASE
  partyMode := .ONE
  partySide := .CR
  billwiseMode := .OFF
  raiseBillType := none
  drGroups := []
  crGroups := []
  gstRegister := some "GSTR2"
  gstSide := some .INPUT
  tdsMode := .OFF
  instruments := false
  raise_named := taxed_unraised

/-- Freight of 1,000 at 18%, both halves of the tax on one ledger. -/
private def freight : DeriveInput :=
  { blank taxedType with
    header := ⟨⟨2026, 9, 15⟩, some 2, none, false, some "B-17"⟩
    lines := [⟨1, .DR, 5, 1000, none, some ⟨7, none, none⟩, none, none, none⟩]
    ledgers := fun _ => some (plainLedger 5 "Freight")
    party := some (plainLedger 2 "Arasan Mills")
    taxRates := fun _ => some ⟨7, "18%", 18, 0, .NONE, true, atEighteen_nonneg, noCess_le⟩
    roleLedgers := fun _ _ _ => some ⟨21, "Input tax"⟩ }

private def reports (input : DeriveInput) (check : DerivedInternal → InternalGst → Bool)
    (derived : Derived) : Bool :=
  decide (derived.Accepted input.ctx) && derived.voucher.gst.any (check derived.voucher)

private theorem exists_reported {check : DerivedInternal → InternalGst → Bool}
    (passes : (derive cases input).toOption.any (reports input check) = true) :
    ∃ derived gst, derive cases input = .ok derived ∧ derived.Accepted input.ctx ∧
      derived.voucher.gst = some gst ∧ check derived.voucher gst = true := by
  obtain ⟨derived, ok, reported⟩ := exists_derived passes
  rw [reports, Bool.and_eq_true, decide_eq_true_eq, Option.any_eq_true] at reported
  obtain ⟨accepted, gst, isGst, checked⟩ := reported
  exact ⟨derived, gst, ok, accepted, isGst, checked⟩

theorem freight_exact : ∃ derived gst, derive ⟨id, id⟩ freight = .ok derived ∧
    derived.voucher.gst = some gst ∧ GstLines freight gst ∧
      ∃ party, GstLegs freight derived.voucher gst party := by
  have passes :
      (derive ⟨id, id⟩ freight).toOption.any (reports freight fun _ _ => true) = true := by
    decide +kernel
  obtain ⟨derived, gst, ok, accepted, isGst, _⟩ := exists_reported passes
  exact ⟨derived, gst, ok, isGst, gst_band_exact ok accepted isGst⟩

/-- The leg of a ledger two heads share goes by the first of them, for both. -/
theorem heads_share_leg :
    ¬∀ (cases : Text.CaseMapping) (input : DeriveInput) (derived : Derived) (gst : InternalGst),
      derive cases input = .ok derived → derived.Accepted input.ctx →
        derived.voucher.gst = some gst → GstLines input gst ∧
          (∀ component, taxUnder (taxRole gst.side component) derived.voucher =
            gst.tax.get component) ∧ ∃ party, GstLegs input derived.voucher gst party := by
  intro claimed
  have passes : (derive ⟨id, id⟩ freight).toOption.any (reports freight fun voucher gst =>
      decide (taxUnder (taxRole gst.side .CGST) voucher ≠ gst.tax.get .CGST)) = true := by
    decide +kernel
  obtain ⟨derived, gst, ok, accepted, isGst, differs⟩ := exists_reported passes
  have byHead := (claimed ⟨id, id⟩ freight derived gst ok accepted isGst).2.1
  exact of_decide_eq_true differs (byHead .CGST)

end ErpServer.Vouchers
