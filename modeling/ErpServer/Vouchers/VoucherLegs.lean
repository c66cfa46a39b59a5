import ErpServer.Vouchers.TdsRuns

/-!
# The legs of a voucher

Its legs are the typed lines, then those of the bands, then the party's, numbered in that
order and each naming its opposite.  So a sum that looks at neither is one over the bands.
-/

namespace ErpServer.Vouchers

open Lib
open Receipt (Decimal DrCr Figure money money_mem money_of_mem paise)

variable {cases : Text.CaseMapping} {input : DeriveInput} {bands : Bands}
variable {type : VoucherTypeRules}

/-! ## Numbers and opposites -/

/-- A leg without its number, and without its opposite unless it is of an instrument. -/
def InternalLeg.bare (leg : InternalLeg) : InternalLeg :=
  { leg with
    rowNo := 0
    oppLedgerId := if leg.instrument.isSome then leg.oppLedgerId else none }

theorem nameOpposite_bare (ledgerIds : List Uuid) (legs : List InternalLeg) :
    (nameOpposite ledgerIds legs).map InternalLeg.bare = legs.map InternalLeg.bare := by
  cases ledgerIds with
  | nil => rfl
  | cons only rest =>
      cases rest with
      | cons second others => rfl
      | nil =>
          rw [nameOpposite, List.map_map]
          apply List.map_congr_left
          intro leg _
          simp only [Function.comp_apply]
          split
          · rfl
          · next plain => simp only [InternalLeg.bare, if_neg plain]

theorem numberLegs_bare (legs : List InternalLeg) :
    (numberLegs legs).map InternalLeg.bare = legs.map InternalLeg.bare := by
  apply List.ext_getElem
  · simp [numberLegs]
  · intro index within _
    simp [numberLegs, InternalLeg.bare]

/-- The legs of the bands and the party's. -/
def Bands.allLegs (bands : Bands) : List InternalLeg := bands.legs ++ bands.balancing.legs

theorem voucherLegs_bare :
    (bands.voucherLegs type).map InternalLeg.bare = bands.allLegs.map InternalLeg.bare := by
  rw [Bands.voucherLegs, numberLegs_bare, nameOpposite_bare, Bands.allLegs]

variable {keep : InternalLeg → Bool} {leg : InternalLeg} {read : PartyRead}
variable {legs : List InternalLeg} {one : TdsOne} {many : TdsRun}

theorem sum_filter_bare (keeps : ∀ leg, keep leg.bare = keep leg) (legs : List InternalLeg) :
    ((legs.filter keep).map (·.amount)).sum =
      (((legs.map InternalLeg.bare).filter keep).map (·.amount)).sum := by
  induction legs with
  | nil => rfl
  | cons leg rest ih =>
      rw [List.map_cons, List.filter_cons, List.filter_cons, keeps]
      split
      · rw [List.map_cons, List.map_cons, List.sum_cons, List.sum_cons, ih]
        rfl
      · exact ih

/-- Sums that look at no number, and at opposites of instruments only. -/
theorem sum_voucherLegs (keeps : ∀ leg, keep leg.bare = keep leg) :
    (((bands.voucherLegs type).filter keep).map (·.amount)).sum =
      ((bands.allLegs.filter keep).map (·.amount)).sum := by
  rw [sum_filter_bare keeps, voucherLegs_bare, ← sum_filter_bare keeps]

/-- A leg of the voucher is one of the bands or the party's, at its number. -/
theorem mem_voucherLegs (member : leg ∈ bands.voucherLegs type) :
    ∃ index, ∃ within : index < bands.allLegs.length,
      leg.rowNo = index + 1 ∧ leg.bare = (bands.allLegs.get ⟨index, within⟩).bare := by
  obtain ⟨index, within, rfl⟩ := List.getElem_of_mem member
  have sizes := congrArg List.length (@voucherLegs_bare bands type)
  rw [List.length_map, List.length_map] at sizes
  refine ⟨index, sizes ▸ within, ?_, ?_⟩
  · simp [Bands.voucherLegs, numberLegs]
  · have same := congrArg (fun legs => legs[index]?) (@voucherLegs_bare bands type)
    simp only [List.getElem?_map, List.getElem?_eq_getElem within,
      List.getElem?_eq_getElem (sizes ▸ within : index < bands.allLegs.length), Option.map_some,
      Option.some.injEq] at same
    exact same

/-! ## Where the legs come from -/

theorem instrumentLegs_source (typed : List TypedLeg) {leg : InternalLeg}
    (member : leg ∈ instrumentLegs typed) : leg.source = .INSTRUMENT := by
  obtain ⟨line, _, made⟩ := List.mem_filterMap.mp member
  obtain ⟨ins, _, rfl⟩ := Option.map_eq_some_iff.mp made
  rfl

theorem toLeg_source (typed : List TypedLeg) {leg : InternalLeg}
    (member : leg ∈ typed.map TypedLeg.toLeg) : leg.source = .TYPED := by
  obtain ⟨line, _, rfl⟩ := List.mem_map.mp member
  rfl

theorem gstLeg_source (entry : (Uuid × DrCr) × GstEntry) :
    (gstLeg entry).source = if isRcmRole entry.2.role then .RCM else .GST := rfl

theorem deriveGst_source {typed : List TypedLeg}
    (member : leg ∈ (deriveGst cases input read typed).legs) :
    leg.source = .GST ∨ leg.source = .RCM := by
  rw [deriveGst] at member
  split at member
  · simp only at member
    split at member
    · cases member
    · obtain ⟨entry, _, rfl⟩ := List.mem_map.mp member
      rw [gstLeg_source]
      split
      · exact Or.inr rfl
      · exact Or.inl rfl
  · cases member

theorem balanceParty_source {typed : List TypedLeg}
    (member : leg ∈ (balanceParty read typed legs).legs) : leg.source = .PARTY := by
  rw [balanceParty] at member
  split at member
  · simp only at member
    split at member
    · cases member
    · rw [List.mem_singleton] at member
      rw [member]
      rfl
  · cases member

theorem balancing_source {leg : InternalLeg} (member : leg ∈ bands.balancing.legs) :
    leg.source = .PARTY :=
  balanceParty_source member

variable {party : LedgerFacts} {ctx : GuardContext} {voucher : DerivedInternal}

theorem RecordsOne.credits {tdsSection : Text} {rate : TdsRateFacts}
    {annualBaseSoFar base tax : Decimal} {rows : List ℕ} (exact : tax ∈ paise)
    (records : RecordsOne cases input party tdsSection rate annualBaseSoFar base tax rows one) :
    CreditsOfTax one.legs := by
  cases records with
  | below within =>
      intro leg member
      cases member
  | above crosses =>
      intro leg member
      simp only at member
      split at member
      · rw [List.mem_singleton] at member
        rw [member]
        exact ⟨rfl, rfl, exact⟩
      · cases member

theorem tdsFigures_mem {pct net : Decimal} (exact : net ∈ paise) :
    (tdsFigures type pct net).1 ∈ paise ∧ (tdsFigures type pct net).2 ∈ paise := by
  rw [tdsFigures]
  split
  · exact ⟨grossUp_mem exact, sub_mem (grossUp_mem exact) exact⟩
  · exact ⟨exact, money_mem _⟩

theorem netOf_mem {partySide : DrCr} {typed : List TypedLeg}
    (figures : ∀ leg ∈ typed, Figure leg.amount) : netOf partySide typed ∈ paise := by
  apply sum_mem_paise
  intro leg member
  exact (figures leg (List.mem_of_mem_filter member)).exact

theorem DeductsOne.credits {typed : List TypedLeg} (figures : ∀ leg ∈ typed, Figure leg.amount)
    (deducts : DeductsOne cases input typed read one) (quiet : Quiet ctx one.notes) :
    CreditsOfTax one.legs := by
  cases deducts with
  | nothing exempt =>
      intro leg member
      cases member
  | deducted deducts known rated ok =>
      obtain ⟨_, records⟩ := deductOne_records ok quiet
      exact records.credits (tdsFigures_mem (netOf_mem figures)).2

/-- The legs generated before the party's. -/
def generatedLegs (cases : Text.CaseMapping) (input : DeriveInput) (one : TdsOne)
    (many : TdsRun) : List InternalLeg :=
  instrumentLegs (deriveLines cases input).typed ++
    ((deriveGst cases input (readParty cases input) (deriveLines cases input).typed).legs ++
      (one.legs ++ many.legs))

theorem bandsOf_legs : (bandsOf cases input one many).legs =
    many.typed.map TypedLeg.toLeg ++ generatedLegs cases input one many := by
  simp only [bandsOf, bandsFrom, generatedLegs, List.append_assoc]

/-- A generated leg is neither typed nor the party's. -/
theorem generatedLegs_source {one : TdsOne} {many : TdsRun}
    (oneCredits : CreditsOfTax one.legs) (manyCredits : CreditsOfTax many.legs) {leg : InternalLeg}
    (member : leg ∈ generatedLegs cases input one many) :
    leg.source ≠ .TYPED ∧ leg.source ≠ .PARTY := by
  have apart {source : LegSource} (same : leg.source = source) (typed : source ≠ .TYPED)
      (party : source ≠ .PARTY) : leg.source ≠ .TYPED ∧ leg.source ≠ .PARTY := by
    rw [same]
    exact ⟨typed, party⟩
  rcases List.mem_append.mp member with instrument | later
  · exact apart (instrumentLegs_source _ instrument) LegSource.noConfusion LegSource.noConfusion
  · rcases List.mem_append.mp later with tax | withheld
    · rcases deriveGst_source tax with gst | rcm
      · exact apart gst LegSource.noConfusion LegSource.noConfusion
      · exact apart rcm LegSource.noConfusion LegSource.noConfusion
    · rcases List.mem_append.mp withheld with ofOne | ofMany
      · exact apart (oneCredits leg ofOne).1 LegSource.noConfusion LegSource.noConfusion
      · exact apart (manyCredits leg ofMany).1 LegSource.noConfusion LegSource.noConfusion

theorem bandsOf_ne_party (oneCredits : CreditsOfTax one.legs) (manyCredits : CreditsOfTax many.legs)
    (member : leg ∈ (bandsOf cases input one many).legs) : leg.source ≠ .PARTY := by
  rw [bandsOf_legs] at member
  rcases List.mem_append.mp member with typed | generated
  · rw [toLeg_source _ typed]
    exact LegSource.noConfusion
  · exact (generatedLegs_source oneCredits manyCredits generated).2

/-- Every leg below the party's is of two places. -/
theorem bandsOf_exact (oneCredits : CreditsOfTax one.legs) (manyCredits : CreditsOfTax many.legs)
    (exact : ∀ leg ∈ many.typed, leg.amount ∈ paise)
    (figures : ∀ leg ∈ (deriveLines cases input).typed, Figure leg.amount)
    (member : leg ∈ (bandsOf cases input one many).legs) : leg.amount ∈ paise := by
  rw [bandsOf_legs, generatedLegs] at member
  simp only [List.mem_append] at member
  rcases member with typed | instrument | tax | ofOne | ofMany
  · obtain ⟨line, lineMember, rfl⟩ := List.mem_map.mp typed
    exact exact line lineMember
  · obtain ⟨line, lineMember, made⟩ := List.mem_filterMap.mp instrument
    obtain ⟨ins, _, rfl⟩ := Option.map_eq_some_iff.mp made
    exact (figures line lineMember).exact
  · rw [deriveGst] at tax
    split at tax
    · simp only at tax
      split at tax
      · cases tax
      · obtain ⟨entry, _, rfl⟩ := List.mem_map.mp tax
        exact money_mem _
    · cases tax
  · exact (oneCredits leg ofOne).2.2
  · exact (manyCredits leg ofMany).2.2

/-- Legs of another source are not kept. -/
theorem filter_other_source {keep : InternalLeg → Bool} {source : LegSource}
    (others : ∀ leg, keep leg = true → leg.source ≠ source) {legs : List InternalLeg}
    (sources : ∀ leg ∈ legs, leg.source = source) : legs.filter keep = [] := by
  apply List.filter_eq_nil_iff.mpr
  intro leg member kept
  exact others leg kept (sources leg member)

/-- Nor are the legs of the GST band, when what is kept is not of it. -/
theorem filter_gstLegs {typed : List TypedLeg}
    (others : ∀ leg, keep leg = true → leg.source ≠ .GST ∧ leg.source ≠ .RCM) :
    (deriveGst cases input read typed).legs.filter keep = [] := by
  apply List.filter_eq_nil_iff.mpr
  intro leg member kept
  cases deriveGst_source member with
  | inl gst => exact (others leg kept).1 gst
  | inr rcm => exact (others leg kept).2 rcm

/-- A filter of all the legs, source by source. -/
theorem filter_allLegs (keep : InternalLeg → Bool) :
    (bandsOf cases input one many).allLegs.filter keep =
      (many.typed.map TypedLeg.toLeg).filter keep ++
        ((instrumentLegs (deriveLines cases input).typed).filter keep ++
          ((deriveGst cases input (readParty cases input)
              (deriveLines cases input).typed).legs.filter keep ++
            (one.legs.filter keep ++ (many.legs.filter keep ++
              (bandsOf cases input one many).balancing.legs.filter keep)))) := by
  rw [Bands.allLegs, bandsOf_legs, generatedLegs]
  simp only [List.filter_append, List.append_assoc]

/-! ## Side by side -/

/-- What the legs on a side come to. -/
def sideSum (side : DrCr) (legs : List InternalLeg) : Decimal :=
  ((legs.filter fun leg => leg.drCr = side).map (·.amount)).sum

theorem sideSum_cons (side : DrCr) (leg : InternalLeg) (legs : List InternalLeg) :
    sideSum side (leg :: legs) = (if leg.drCr = side then leg.amount else 0) + sideSum side legs := by
  rw [sideSum, sideSum, List.filter_cons]
  by_cases on : leg.drCr = side
  · simp [on]
  · simp [on]

theorem sideSum_append (side : DrCr) (left right : List InternalLeg) :
    sideSum side (left ++ right) = sideSum side left + sideSum side right := by
  rw [sideSum, List.filter_append, List.map_append, List.sum_append]
  rfl

/-- The legs that are kept and those that are not. -/
theorem sideSum_split (keep : InternalLeg → Bool) (side : DrCr) (legs : List InternalLeg) :
    sideSum side legs =
      sideSum side (legs.filter keep) + sideSum side (legs.filter fun leg => !keep leg) := by
  rw [sideSum, sideSum, sideSum, List.filter_comm _ keep, List.filter_comm _ fun leg => !keep leg]
  exact (ListSum.sum_filter_add _ _ keep).symm

theorem sideSum_mem (exact : ∀ leg ∈ legs, leg.amount ∈ paise) (side : DrCr) :
    sideSum side legs ∈ paise := by
  apply sum_mem_paise
  intro leg member
  exact exact leg (List.mem_of_mem_filter member)

theorem debits_eq (legs : List InternalLeg) : legReading.debits legs = sideSum .DR legs := rfl

theorem credits_eq (legs : List InternalLeg) : legReading.credits legs = sideSum .CR legs := by
  rw [sideSum, DoubleEntry.Reading.credits]
  congr 2
  apply List.filter_congr
  intro leg _
  cases drCr : leg.drCr with
  | DR => simp [legReading, drCr]
  | CR => simp [legReading, drCr]

/-- A party is left what stands opposite it, less what stands on its side. -/
theorem leftForParty_eq (side : DrCr) (legs : List InternalLeg) :
    leftForParty side legs = sideSum (opposite side) legs - sideSum side legs := by
  rw [leftForParty, debits_eq, credits_eq]
  cases side with
  | DR => rfl
  | CR => rfl

/-- The legs below the party's, without those dropped, side by side. -/
theorem sideSum_below {drop : InternalLeg → Bool} (bare : ∀ leg, drop leg.bare = drop leg)
    (oneCredits : CreditsOfTax one.legs) (manyCredits : CreditsOfTax many.legs)
    (legs : voucher.legs = (bandsOf cases input one many).voucherLegs input.type) (side : DrCr) :
    sideSum side (voucher.legs.filter fun leg => !drop leg && leg.source ≠ .PARTY) =
      sideSum side ((bandsOf cases input one many).legs.filter fun leg => !drop leg) := by
  have keeps : ∀ leg : InternalLeg,
      (decide (leg.bare.drCr = side) && (!drop leg.bare && leg.bare.source ≠ .PARTY)) =
        (decide (leg.drCr = side) && (!drop leg && leg.source ≠ .PARTY)) := by
    intro leg
    rw [bare]
    rfl
  have noParty : (bandsOf cases input one many).balancing.legs.filter
      (fun leg => decide (leg.drCr = side) && (!drop leg && leg.source ≠ .PARTY)) = [] := by
    apply List.filter_eq_nil_iff.mpr
    intro leg member kept
    simp only [Bool.and_eq_true, decide_eq_true_eq] at kept
    exact kept.2.2 (balanceParty_source member)
  rw [sideSum, List.filter_filter, legs, sum_voucherLegs keeps, Bands.allLegs,
    List.filter_append, noParty, List.append_nil, sideSum, List.filter_filter]
  congr 2
  apply List.filter_congr
  intro leg member
  simp [bandsOf_ne_party oneCredits manyCredits member]

/-- The legs picked, side by side, where the party's is not picked. -/
theorem sideSum_picked {pick : InternalLeg → Bool} (bare : ∀ leg, pick leg.bare = pick leg)
    (notParty : ∀ leg, pick leg = true → leg.source ≠ .PARTY)
    (legs : voucher.legs = (bandsOf cases input one many).voucherLegs input.type) (side : DrCr) :
    sideSum side ((bandsOf cases input one many).legs.filter pick) =
      ((voucher.legs.filter fun leg => pick leg && leg.drCr = side).map (·.amount)).sum := by
  have keeps : ∀ leg : InternalLeg, (pick leg.bare && decide (leg.bare.drCr = side)) =
      (pick leg && decide (leg.drCr = side)) := by
    intro leg
    rw [bare]
    rfl
  have noParty : (bandsOf cases input one many).balancing.legs.filter
      (fun leg => pick leg && decide (leg.drCr = side)) = [] := by
    apply List.filter_eq_nil_iff.mpr
    intro leg member kept
    exact notParty leg ((Bool.and_eq_true _ _).mp kept).1 (balanceParty_source member)
  rw [legs, sum_voucherLegs keeps, Bands.allLegs, List.filter_append, noParty, List.append_nil,
    sideSum, List.filter_filter]
  congr 2
  apply List.filter_congr
  intro leg _
  exact Bool.and_comm _ _

/-- The party leg of a voucher that refuses nothing. -/
theorem balanceParty_ok {typed : List TypedLeg} {side : DrCr} (isParty : read.party = some party)
    (isSide : read.side = some side) (quiet : Quiet ctx (balanceParty read typed legs).notes) :
    balanceParty read typed legs =
      ⟨some ⟨party, side, money (leftForParty side legs), legs.length + 1⟩,
        [partyLeg party side (leftForParty side legs) typed], []⟩ := by
  rw [balanceParty] at quiet ⊢
  simp only [isParty, isSide] at quiet ⊢
  split
  · next nothing =>
      rw [if_pos nothing] at quiet
      cases quiet _ List.mem_cons_self
  · rfl

/-- The lines as they end have distinct rows and exact amounts, and the deductions are credits. -/
theorem Ran.typed {derived : Derived} {billwise : Billwise}
    (ran : Ran cases input one many billwise derived)
    (quiet : QuietSteps cases input one many billwise) :
    (many.typed.map (·.lineRowNo)).Nodup ∧ (∀ leg ∈ many.typed, leg.amount ∈ paise) ∧
      CreditsOfTax one.legs ∧ CreditsOfTax many.legs := by
  have read := deriveLines_read quiet.lines
  have figures := fun leg (member : leg ∈ (deriveLines cases input).typed) => read.figure member
  obtain ⟨done, price, held, _⟩ :=
    deriveTdsMany_deducting figures read.rows_nodup ran.many_ok quiet.deductedMany
  have deducts := deriveTdsOne_deducts ran.one_ok quiet.deductedOne
  refine ⟨?_, ?_, deducts.credits figures quiet.deductedOne, held.legs⟩
  · rw [held.repriced, List.map_map]
    exact read.rows_nodup
  · rw [held.repriced]
    intro leg member
    obtain ⟨typed, typedMember, rfl⟩ := List.mem_map.mp member
    exact (held.figures typed typedMember).1.exact

end ErpServer.Vouchers
