import ErpServer.Vouchers.TdsModes

/-!
# Where the two deductions agree

A payment that refuses nothing keeps every part of the law but one.  With one party the base
recorded below the threshold is the gross, so the law holds just where that gross crosses the
threshold or is what was paid.
-/

namespace ErpServer.Vouchers

open Lib
open Receipt (Decimal DrCr Figure money money_mem money_of_mem paise)

variable {cases : Text.CaseMapping} {input : DeriveInput} {derived : Derived}

/-! ## The party -/

theorem shaped_side (shaped : paymentShaped input.type = true) :
    input.type.partySide.fixed = some .DR := by
  simp only [paymentShaped, decide_eq_true_eq] at shaped
  rw [shaped.2]
  rfl

variable {typed : List TypedLeg}

/-- The party of the voucher is the header's, left what its legs leave it. -/
theorem balanceParty_party {read : PartyRead} {legs : List InternalLeg} {party : DerivedParty}
    (isParty : (balanceParty read typed legs).party = some party) :
    read.side = some party.side ∧ party.amount = money (leftForParty party.side legs) := by
  rw [balanceParty] at isParty
  split at isParty
  · next found partySide _ isSide =>
      simp only at isParty
      split at isParty
      · cases isParty
      · cases isParty
        exact ⟨isSide, rfl⟩
  · cases isParty

/-! ## One party -/

/-- What is recorded of a payment to one party. -/
structure OneRecord (input : DeriveInput) (typed : List TypedLeg) (party : LedgerFacts)
    (facts : TdsFacts) (rate : TdsRateFacts) (record : InternalTds) : Prop where
  mode : input.type.partyMode = .ONE
  ofParty : input.party = some party
  deducts : input.type.tdsMode = .DEDUCT ∧ party.isTdsApplicable = true
  known : input.tds = some facts
  rated : facts.rate = some rate
  fromRows : record.fromRows = rowsOf (tdsBaseLegs .DR typed)
  base : record.base = grossUp (tdsPercent party rate) (netOf .DR typed)
  above : crossesTdsThreshold (grossUp (tdsPercent party rate) (netOf .DR typed))
      (facts.annualBaseSoFar + grossUp (tdsPercent party rate) (netOf .DR typed)) rate = true →
    record.tax = grossUp (tdsPercent party rate) (netOf .DR typed) - netOf .DR typed ∧
      record.rateSource ≠ .BELOW_THRESHOLD
  below : crossesTdsThreshold (grossUp (tdsPercent party rate) (netOf .DR typed))
      (facts.annualBaseSoFar + grossUp (tdsPercent party rate) (netOf .DR typed)) rate = false →
    record.tax = 0 ∧ record.rateSource = .BELOW_THRESHOLD

variable {type : VoucherTypeRules}

theorem tdsFigures_shaped (shaped : paymentShaped type = true) (pct net : Decimal) :
    tdsFigures type pct net = (grossUp pct net, grossUp pct net - net) := by
  rw [tdsFigures]
  split
  · rfl
  · next exempt =>
      have zero : pct = 0 := by
        by_contra rated
        exact exempt ⟨shaped, rated⟩
      have nothing : money 0 = 0 := money_of_mem (zero_mem _)
      rw [zero, grossUp, if_pos rfl, mul_zero, zero_div, nothing, sub_self]

theorem netOf_figure {side : DrCr} (figures : ∀ leg ∈ typed, Figure leg.amount) :
    Figure (netOf side typed) := by
  refine ⟨netOf_mem figures, List.sum_nonneg ?_⟩
  intro amount member
  obtain ⟨leg, legMember, rfl⟩ := List.mem_map.mp member
  exact (figures leg (List.mem_of_mem_filter legMember)).nonneg

/-- A payment to one party records its gross, and its legs are the tax recorded. -/
theorem DeductsOne.records {ctx : GuardContext} {one : TdsOne}
    (shaped : paymentShaped input.type = true) (figures : ∀ leg ∈ typed, Figure leg.amount)
    (deducts : DeductsOne cases input typed (readParty cases input) one)
    (quiet : Quiet ctx one.notes) :
    (one.legs.map (·.amount)).sum = (one.record.toList.map (·.tax)).sum ∧
      (∀ record, one.record = some record →
        ∃ party facts rate, OneRecord input typed party facts rate record) ∧
      (one.record = none → ∀ party, (readParty cases input).party = some party →
        ∀ side, (readParty cases input).side = some side →
          ¬(input.type.tdsMode = .DEDUCT ∧ party.isTdsApplicable = true)) := by
  generalize isRead : readParty cases input = read at deducts
  cases deducts with
  | nothing exempt =>
      refine ⟨rfl, ?_, fun _ => exempt⟩
      intro record recorded
      cases recorded
  | @deducted party side refusals one tdsSection facts rate deducts known rated ok =>
      have ofParty := @readParty_of cases input party (by rw [isRead])
      have onSide := @readParty_on cases input side (by rw [isRead])
      rw [shaped_side shaped] at onSide
      cases onSide
      obtain ⟨finite, records⟩ := deductOne_records ok quiet
      rw [tdsFigures_shaped shaped] at records
      have less : tdsPercent party rate < 100 :=
        (tdsPercent_le party rate).lt_of_ne fun whole => finite ⟨shaped, whole⟩
      have net : Figure (netOf .DR typed) := netOf_figure figures
      have nonneg := sub_nonneg.mpr (le_grossUp (tdsPercent_nonneg party rate) less net)
      cases records with
      | below within =>
          refine ⟨List.sum_singleton.symm, ?_, fun none => absurd none (Option.some_ne_none _)⟩
          intro record recorded
          cases recorded
          refine ⟨party, facts, rate, ofParty.1, ofParty.2, deducts, known, rated, rfl, rfl, ?_,
            fun _ => ⟨rfl, rfl⟩⟩
          intro crosses
          rw [within] at crosses
          cases crosses
      | above crosses =>
          refine ⟨?_, ?_, fun none => absurd none (Option.some_ne_none _)⟩
          · simp only [Option.toList_some, List.map_cons, List.map_nil, List.sum_singleton]
            split
            · rw [List.map_singleton, List.sum_singleton]
              rfl
            · next none => exact (nonneg.antisymm (not_lt.mp none))
          · intro record recorded
            cases recorded
            refine ⟨party, facts, rate, ofParty.1, ofParty.2, deducts, known, rated, rfl, rfl,
              fun _ => ⟨rfl, tdsRateSource_ne _⟩, ?_⟩
            intro within
            rw [crosses] at within
            cases within

/-! ## Several parties -/

theorem deriveTdsMany_off {many : TdsRun}
    (off : ¬(input.type.tdsMode = .DEDUCT ∧ input.type.partyMode = .MANY))
    (ok : deriveTdsMany cases input typed = .ok many) : many.records = [] := by
  rw [deriveTdsMany, if_neg off] at ok
  cases ok
  rfl

/-- The records of a party are those of its group. -/
theorem records_of_party {entries : List (Uuid × List TypedLeg)} {records : List InternalTds}
    (recorded : List.Forall₂ (Recorded input) entries records)
    (groups : ∀ entry ∈ entries, GroupOf input.type typed entry) (party : Uuid) :
    List.Forall₂ (Recorded input) (entries.filter fun entry => entry.1 = party)
      (records.filter fun record => record.party.ledId = party) := by
  induction recorded with
  | nil => exact .nil
  | @cons entry record _ _ here _ ih =>
      have rest := ih fun entry member => groups entry (List.mem_cons_of_mem _ member)
      have same := here.party (groups entry List.mem_cons_self)
      rw [List.filter_cons, List.filter_cons, same]
      split
      · exact .cons here rest
      · exact rest

/-- A deductee has one group. -/
theorem byDeductee_one {leg : TypedLeg} (member : leg ∈ typed)
    (deductee : isDeducteeLine type leg = true) :
    ∃ group, (byDeductee type typed).entries.filter (fun entry => entry.1 = leg.ledger.ledId) =
      [(leg.ledger.ledId, group)] ∧ GroupOf type typed (leg.ledger.ledId, group) := by
  obtain ⟨keys, groups⟩ := byDeductee_groups type typed
  have listed : leg.ledger.ledId ∈ (byDeductee type typed).keys := by
    rw [byDeductee, OrderedMap.mem_keys_groupBy]
    exact List.mem_map_of_mem (List.mem_filter.mpr ⟨member, deductee⟩)
  obtain ⟨⟨key, group⟩, entryMember, rfl⟩ := List.mem_map.mp listed
  exact ⟨group, ListSum.filter_key_eq keys entryMember, groups _ entryMember⟩

/-- A party with one line is a group of its leg. -/
theorem GroupOf.single {key : Uuid} {group : List TypedLeg} {leg : TypedLeg}
    (isGroup : GroupOf input.type typed (key, group)) (shaped : paymentShaped input.type = true)
    (single : debitsOn key typed = [leg]) (deductee : isDeducteeLine input.type leg = true) :
    group = [leg] := by
  have ofDebits : (typed.filter (isDeducteeLine input.type)).filter
      (fun other => other.ledger.ledId = key) =
        (debitsOn key typed).filter (isDeducteeLine input.type) := by
    rw [debitsOn, List.filter_filter, List.filter_filter]
    apply List.filter_congr
    intro other _
    apply Bool.eq_iff_iff.mpr
    simp only [Bool.and_eq_true, decide_eq_true_eq]
    constructor
    · rintro ⟨ofKey, isDeductee⟩
      exact ⟨isDeductee, ofKey, isDeducteeLine_debit shaped isDeductee⟩
    · rintro ⟨isDeductee, ofKey, _⟩
      exact ⟨ofKey, isDeductee⟩
  have group := isGroup.2.trans ofDebits
  rw [single, List.filter_cons, if_pos deductee, List.filter_nil] at group
  exact group

/-- The row of the payment is one deductee's only line. -/
theorem SamePayment.leg {one many : DeriveInput} {party : LedgerFacts} {row : TypedLineInput}
    (same : SamePayment one many party row)
    (legs : List.Forall₂ (LineLeg many) (sortedLines many) typed) :
    ∃ leg ∈ typed, leg.ledger = party ∧ leg.amount = typedNet one ∧
      isDeducteeLine many.type leg = true ∧ debitsOn party.ledId typed = [leg] := by
  have pairs := linesOn_legs legs party.ledId
  rw [same.single] at pairs
  obtain ⟨leg, rest, becomes, none, single⟩ := List.forall₂_cons_left_iff.mp pairs
  rw [List.forall₂_nil_left_iff.mp none] at single
  have member : leg ∈ debitsOn party.ledId typed := by
    rw [single]
    exact List.mem_singleton_self leg
  simp only [debitsOn, List.mem_filter, decide_eq_true_eq] at member
  have ofParty : leg.ledger = party := by
    have found := becomes.ledger
    rw [same.ofMany] at found
    exact (Option.some.inj found).symm
  refine ⟨leg, member.1, ofParty, becomes.amount.trans same.amount, ?_, single⟩
  have base : leg.isTdsBase = true := by
    rw [becomes.isTdsBase, ofParty, same.applicable]
    exact same.counted
  simp only [isDeducteeLine, ofParty, same.onParty, same.applicable, base,
    shaped_side same.shaped.2, member.2.2, Option.all_some, decide_true, Bool.and_self]

/-! ## A payment that refuses nothing -/

/-- What the steps of a payment leave to its voucher. -/
structure Paid (cases : Text.CaseMapping) (input : DeriveInput) (one : TdsOne) (many : TdsRun)
    (voucher : DerivedInternal) : Prop where
  shaped : paymentShaped input.type = true
  read : ReadLines input (sortedLines input) (deriveLines cases input)
  clean : (readParty cases input).notes = []
  legs : voucher.legs = (bandsOf cases input one many).voucherLegs input.type
  party : voucher.party = (bandsOf cases input one many).balancing.party
  tdsLines : voucher.tdsLines = one.record.toList ++ many.records
  exact : ∀ leg ∈ (bandsOf cases input one many).legs, leg.amount ∈ paise
  oneCredits : CreditsOfTax one.legs
  manyCredits : CreditsOfTax many.legs
  oneWithheld : (one.legs.map (·.amount)).sum = (one.record.toList.map (·.tax)).sum
  oneRecorded : ∀ record, one.record = some record → ∃ party facts rate,
    OneRecord input (deriveLines cases input).typed party facts rate record
  oneExempt : one.record = none → ∀ party, (readParty cases input).party = some party →
    ∀ side, (readParty cases input).side = some side →
      ¬(input.type.tdsMode = .DEDUCT ∧ party.isTdsApplicable = true)
  manyOff : input.type.partyMode ≠ .MANY → many.records = []
  manyWithheld : (many.legs.map (·.amount)).sum = (many.records.map (·.tax)).sum
  discharged : ∀ party, ((debitsOn party many.typed).map (·.amount)).sum =
    typedOn input party + taxOn party many.records
  manyRecorded : ∃ entries, List.Forall₂ (Recorded input) entries many.records ∧
    (∀ entry ∈ entries, GroupOf input.type (deriveLines cases input).typed entry) ∧
    (input.type.tdsMode = .DEDUCT ∧ input.type.partyMode = .MANY →
      entries = (byDeductee input.type (deriveLines cases input).typed).entries)

theorem derive_paid (ok : derive cases input = .ok derived)
    (accepted : derived.Accepted input.ctx) (shaped : paymentShaped input.type = true) :
    ∃ one many, Paid cases input one many derived.voucher := by
  obtain ⟨one, many, billwise, ran⟩ := derive_ran ok
  have quiet := ran.quiet accepted
  obtain ⟨_, exact, oneCredits, manyCredits⟩ := ran.typed quiet
  have read := deriveLines_read quiet.lines
  have figures : ∀ leg ∈ (deriveLines cases input).typed, Figure leg.amount :=
    fun leg member => read.figure member
  obtain ⟨entries, price, held, on⟩ :=
    deriveTdsMany_deducting figures read.rows_nodup ran.many_ok quiet.deductedMany
  have deducts := deriveTdsOne_deducts ran.one_ok quiet.deductedOne
  have records := deducts.records shaped figures quiet.deductedOne
  have off (none : ¬(input.type.tdsMode = .DEDUCT ∧ input.type.partyMode = .MANY)) :
      many.records = [] := deriveTdsMany_off none ran.many_ok
  refine ⟨one, many, ?_⟩
  rw [ran.derived_eq]
  constructor
  · exact shaped
  · exact read
  · exact quiet.read
  · rfl
  · rfl
  · rfl
  · exact fun leg member => bandsOf_exact oneCredits manyCredits exact figures member
  · exact oneCredits
  · exact manyCredits
  · exact records.1
  · exact records.2.1
  · exact records.2.2
  · exact fun several => off fun both => several both.2
  · exact held.withheld
  · intro party
    have debits : debitsOn party many.typed =
        (debitsOn party (deriveLines cases input).typed).map
          fun leg => { leg with amount := price leg } := by
      rw [held.repriced, debitsOn, List.filter_map]
      rfl
    rw [debits, List.map_map, typedOn_eq read.legs, ← held.discharged party]
    rfl
  · refine ⟨entries, held.recorded, ?_, on⟩
    by_cases both : input.type.tdsMode = .DEDUCT ∧ input.type.partyMode = .MANY
    · rw [on both]
      exact (byDeductee_groups _ _).2
    · have none := held.recorded
      rw [off both, List.forall₂_nil_right_iff] at none
      rw [none]
      intro entry member
      cases member

namespace Paid

variable {one : TdsOne} {many : TdsRun} {voucher : DerivedInternal}

/-! ### Discharged and withheld -/

theorem recordedTax_eq (paid : Paid cases input one many voucher) :
    recordedTax voucher = ((one.legs ++ many.legs).map (·.amount)).sum := by
  rw [recordedTax, paid.tdsLines, List.map_append, List.sum_append, ← paid.oneWithheld,
    ← paid.manyWithheld, List.map_append, List.sum_append]

theorem credits (paid : Paid cases input one many voucher) :
    CreditsOfTax (one.legs ++ many.legs) :=
  List.forall_mem_append.mpr ⟨paid.oneCredits, paid.manyCredits⟩

theorem payable (paid : Paid cases input one many voucher) :
    ((voucher.legs.filter isTdsLeg).map (·.amount)).sum = recordedTax voucher := by
  have all : (one.legs ++ many.legs).filter isTdsLeg = one.legs ++ many.legs := by
    apply List.filter_eq_self.mpr
    intro leg member
    exact decide_eq_true (paid.credits leg member).1
  have ofTds : ∀ leg, isTdsLeg leg = true → leg.source = .TDS :=
    fun leg isTds => of_decide_eq_true isTds
  rw [tdsLegs_eq paid.legs (fun _ => rfl) ofTds, all, paid.recordedTax_eq]

/-- The tax withheld is on the credit side. -/
theorem withheldOn (paid : Paid cases input one many voucher) (side : DrCr) :
    sideSum side ((bandsOf cases input one many).legs.filter isTdsLeg) =
      if side = .CR then recordedTax voucher else 0 := by
  have ofTds : ∀ leg : InternalLeg, (isTdsLeg leg && leg.drCr = side) = true →
      leg.source = .TDS := by
    intro leg kept
    exact of_decide_eq_true ((Bool.and_eq_true _ _).mp kept).1
  have notParty : ∀ leg : InternalLeg, isTdsLeg leg = true → leg.source ≠ .PARTY := by
    intro leg isTds
    rw [of_decide_eq_true isTds]
    exact LegSource.noConfusion
  rw [sideSum_picked (fun _ => rfl) notParty paid.legs, tdsLegs_eq paid.legs (fun _ => rfl) ofTds,
    paid.recordedTax_eq]
  cases side with
  | DR =>
      have none : (one.legs ++ many.legs).filter
          (fun leg => isTdsLeg leg && leg.drCr = .DR) = [] := by
        apply List.filter_eq_nil_iff.mpr
        intro leg member kept
        rw [(paid.credits leg member).2.1, Bool.and_eq_true] at kept
        cases of_decide_eq_true kept.2
      rw [none]
      rfl
  | CR =>
      have all : (one.legs ++ many.legs).filter (fun leg => isTdsLeg leg && leg.drCr = .CR) =
          one.legs ++ many.legs := by
        apply List.filter_eq_self.mpr
        intro leg member
        rw [(paid.credits leg member).2.1, isTdsLeg, (paid.credits leg member).1]
        rfl
      rw [all, if_pos rfl]

/-- The party's leg is what the other legs pay and the tax withheld. -/
theorem oneParty (paid : Paid cases input one many voucher) {party : DerivedParty}
    (isParty : voucher.party = some party) :
    party.amount = leftForParty party.side (paidLegs voucher) + recordedTax voucher := by
  rw [paid.party] at isParty
  obtain ⟨isSide, amount⟩ := balanceParty_party isParty
  have debit : party.side = .DR := by
    have fixed := readParty_on isSide
    rw [shaped_side paid.shaped] at fixed
    exact (Option.some.inj fixed).symm
  have left : leftForParty party.side (bandsOf cases input one many).legs ∈ paise := by
    rw [leftForParty_eq]
    exact sub_mem (sideSum_mem paid.exact _) (sideSum_mem paid.exact _)
  have others (side : DrCr) : sideSum side (paidLegs voucher) =
      sideSum side ((bandsOf cases input one many).legs.filter fun leg => !isTdsLeg leg) :=
    sideSum_below (fun _ => rfl) paid.oneCredits paid.manyCredits paid.legs side
  rw [amount, money_of_mem left, leftForParty_eq, leftForParty_eq, others, others,
    sideSum_split isTdsLeg (opposite party.side), sideSum_split isTdsLeg party.side,
    paid.withheldOn, paid.withheldOn, debit]
  simp only [opposite, if_true, reduceCtorEq, if_false]
  ring

theorem oneRecord_none (paid : Paid cases input one many voucher)
    (several : input.type.partyMode = .MANY) : one.record = none := by
  cases recorded : one.record with
  | none => rfl
  | some record =>
      obtain ⟨_, _, _, ofOne⟩ := paid.oneRecorded record recorded
      cases several.symm.trans ofOne.mode

/-- Every party on the lines is discharged of what was typed and of its tax. -/
theorem manyParties (paid : Paid cases input one many voucher)
    (several : input.type.partyMode = .MANY) (party : Uuid) :
    dischargedOn voucher party = typedOn input party + taxOn party voucher.tdsLines := by
  rw [dischargedOn_eq paid.oneCredits paid.manyCredits paid.legs, paid.discharged, paid.tdsLines,
    paid.oneRecord_none several]
  rfl

/-- Lines paid by instruments are paid what was typed for them. -/
theorem byInstruments (paid : Paid cases input one many voucher) {party : Uuid}
    (instrumented : ∀ line ∈ linesOn input party, line.instrument.isSome = true) :
    leftByInstruments voucher party = typedOn input party := by
  have pairs := linesOn_legs paid.read.legs party
  have all : (debitsOn party (deriveLines cases input).typed).filter
      (fun leg => leg.instrument.isSome) = debitsOn party (deriveLines cases input).typed := by
    apply List.filter_eq_self.mpr
    intro leg member
    obtain ⟨line, listed, becomes⟩ := Fold.forall₂_right pairs member
    rw [becomes.instrument]
    exact instrumented line listed
  rw [leftByInstruments_eq paid.oneCredits paid.manyCredits paid.legs, all,
    typedOn_eq paid.read.legs]

/-! ### Below the threshold -/

variable {party : LedgerFacts} {record : InternalTds}

/-- A payment to one party that deducts has one record. -/
theorem oneRecord_some (paid : Paid cases input one many voucher)
    (mode : input.type.partyMode = .ONE) (deducts : input.type.tdsMode = .DEDUCT)
    (isParty : input.party = some party) (applicable : party.isTdsApplicable = true) :
    ∃ record facts rate, voucher.tdsLines = [record] ∧
      OneRecord input (deriveLines cases input).typed party facts rate record := by
  obtain ⟨partyRead, sideRead⟩ :=
    readParty_reads mode isParty (shaped_side paid.shaped) paid.clean
  have off : input.type.partyMode ≠ .MANY := by
    rw [mode]
    exact PartyMode.noConfusion
  have lines := paid.tdsLines
  rw [paid.manyOff off, List.append_nil] at lines
  cases recorded : one.record with
  | none =>
      exact absurd ⟨deducts, applicable⟩ (paid.oneExempt recorded party partyRead _ sideRead)
  | some record =>
      obtain ⟨other, facts, rate, ofOne⟩ := paid.oneRecorded record recorded
      have same := ofOne.ofParty
      rw [isParty] at same
      cases Option.some.inj same
      refine ⟨record, facts, rate, ?_, ofOne⟩
      rw [lines, recorded]
      rfl

/-- With several parties what was paid is recorded. -/
theorem manyBelow (paid : Paid cases input one many voucher) (member : record ∈ many.records)
    (isBelow : record.rateSource = .BELOW_THRESHOLD) :
    record.tax = 0 ∧ record.base = typedFor input record.fromRows := by
  obtain ⟨entries, pairs, groups, _⟩ := paid.manyRecorded
  obtain ⟨entry, listed, leg, rest, facts, rate, _, ofGroup⟩ := Fold.forall₂_right pairs member
  have within : crossesTdsThreshold (groupBase (tdsPercent leg.ledger rate) entry.2)
      (facts.annualBaseSoFar + groupBase (tdsPercent leg.ledger rate) entry.2) rate = false := by
    apply Bool.eq_false_iff.mpr
    intro crosses
    exact (ofGroup.above crosses).2.2 isBelow
  have isGroup := (groups entry listed).2
  rw [List.filter_filter] at isGroup
  rw [(ofGroup.below within).1, ofGroup.fromRows, isGroup, typedFor_rows paid.read]
  exact ⟨(ofGroup.below within).2.1, rfl⟩

variable {facts : TdsFacts} {rate : TdsRateFacts} {row : TypedLineInput} {other : DeriveInput}

/-- The net of a payment to one party is what its rows were typed for. -/
theorem typedFor_one (paid : Paid cases input one many voucher)
    (ofOne : OneRecord input (deriveLines cases input).typed party facts rate record) :
    typedFor input record.fromRows = typedNet input := by
  rw [ofOne.fromRows, tdsBaseLegs, typedFor_rows paid.read, typedNet_eq paid.read.legs]
  rfl

/-- With one party the gross is, so the two agree where there is nothing between them. -/
theorem oneBelow (paid : Paid cases input one many voucher) (exact : CrossesOrExact input)
    (recorded : one.record = some record) (isBelow : record.rateSource = .BELOW_THRESHOLD) :
    record.tax = 0 ∧ record.base = typedFor input record.fromRows := by
  obtain ⟨party, facts, rate, ofOne⟩ := paid.oneRecorded record recorded
  have alternatives := exact party facts rate ofOne.mode ofOne.deducts.1 ofOne.ofParty
    ofOne.deducts.2 ofOne.known ofOne.rated
  rw [paid.typedFor_one ofOne, ofOne.base]
  rw [typedNet_eq paid.read.legs] at alternatives ⊢
  rcases alternatives with crosses | same
  · exact absurd isBelow (ofOne.above crosses).2
  · refine ⟨(ofOne.below ?_).1, same⟩
    apply Bool.eq_false_iff.mpr
    intro crosses
    exact (ofOne.above crosses).2 isBelow

theorem below (paid : Paid cases input one many voucher) (exact : CrossesOrExact input)
    (member : record ∈ voucher.tdsLines) (isBelow : record.rateSource = .BELOW_THRESHOLD) :
    record.tax = 0 ∧ record.base = typedFor input record.fromRows := by
  rw [paid.tdsLines, List.mem_append] at member
  cases member with
  | inl ofOne => exact paid.oneBelow exact (Option.mem_toList.mp ofOne) isBelow
  | inr ofMany => exact paid.manyBelow ofMany isBelow

/-! ### The same payment -/

/-- The only row of a party is recorded at its own gross, or at what was paid. -/
theorem manyRecord_single {payment : DeriveInput} (paid : Paid cases input one many voucher)
    (same : SamePayment payment input party row) :
    ∃ leg facts rate record, leg.ledger = party ∧ leg.amount = typedNet payment ∧
      voucher.tdsLines.filter (fun record => record.party.ledId = party.ledId) = [record] ∧
      typedFor input record.fromRows = typedNet payment ∧
      GroupRecord input party [leg] facts rate record := by
  obtain ⟨leg, member, ofParty, amount, deductee, single⟩ := same.leg paid.read.legs
  obtain ⟨entries, pairs, groups, on⟩ := paid.manyRecorded
  obtain ⟨group, onlyEntry, isGroup⟩ := byDeductee_one member deductee
  rw [ofParty] at onlyEntry isGroup
  have only := records_of_party pairs groups party.ledId
  rw [on ⟨same.deducts.2, same.modes.2⟩, onlyEntry] at only
  obtain ⟨record, rest, recorded, none, isOnly⟩ := List.forall₂_cons_left_iff.mp only
  rw [List.forall₂_nil_left_iff.mp none] at isOnly
  obtain ⟨head, others, facts, rate, shape, ofGroup⟩ := recorded
  rw [isGroup.single paid.shaped single deductee] at shape ofGroup
  cases shape
  rw [ofParty] at ofGroup
  refine ⟨leg, facts, rate, record, ofParty, amount, ?_, ?_, ofGroup⟩
  · rw [paid.tdsLines, paid.oneRecord_none same.modes.2]
    exact isOnly
  · have debits := typedFor_rows paid.read
      fun leg => decide (leg.ledger.ledId = party.ledId ∧ leg.drCr = .DR)
    rw [← debitsOn, single, List.map_singleton, List.sum_singleton, amount] at debits
    rw [ofGroup.fromRows, debits]

/-- A payment and its only row, at one rate, have the same base and tax. -/
theorem alike_records {leg : TypedLeg} {mine theirs : InternalTds}
    (ofOne : OneRecord input typed party facts rate mine)
    (ofGroup : GroupRecord other party [leg] facts rate theirs)
    (amount : leg.amount = netOf .DR typed)
    (exact : crossesTdsThreshold (grossUp (tdsPercent party rate) (netOf .DR typed))
        (facts.annualBaseSoFar + grossUp (tdsPercent party rate) (netOf .DR typed)) rate = true ∨
      grossUp (tdsPercent party rate) (netOf .DR typed) = netOf .DR typed) :
    mine.base = theirs.base ∧ mine.tax = theirs.tax := by
  have base : groupBase (tdsPercent party rate) [leg] =
      grossUp (tdsPercent party rate) (netOf .DR typed) := by
    rw [groupBase, List.map_singleton, List.sum_singleton, amount]
  have tax : groupTax (tdsPercent party rate) [leg] =
      grossUp (tdsPercent party rate) (netOf .DR typed) - netOf .DR typed := by
    rw [groupTax, List.map_singleton, List.sum_singleton, amount]
  have paid : groupPaid [leg] = netOf .DR typed := by
    rw [groupPaid, List.map_singleton, List.sum_singleton, amount]
  have above := ofGroup.above
  have below := ofGroup.below
  rw [base, tax] at above
  rw [base, paid] at below
  rw [ofOne.base]
  cases crosses : crossesTdsThreshold (grossUp (tdsPercent party rate) (netOf .DR typed))
      (facts.annualBaseSoFar + grossUp (tdsPercent party rate) (netOf .DR typed)) rate with
  | true =>
      rw [(above crosses).1, (above crosses).2.1, (ofOne.above crosses).1]
      exact ⟨rfl, rfl⟩
  | false =>
      rw [(below crosses).1, (below crosses).2.1, (ofOne.below crosses).1]
      refine ⟨?_, rfl⟩
      cases exact with
      | inl crossing =>
          rw [crosses] at crossing
          cases crossing
      | inr same => exact same

theorem alike (paid : Paid cases input one many voucher) (exact : CrossesOrExact input)
    {twin : Derived} (same : SamePayment input other party row) (ok : derive cases other = .ok twin)
    (accepted : twin.Accepted other.ctx) : ∃ mine theirs, voucher.tdsLines = [mine] ∧
      twin.voucher.tdsLines.filter (fun record => record.party.ledId = party.ledId) = [theirs] ∧
      mine.base = theirs.base ∧ mine.tax = theirs.tax ∧
      typedFor input mine.fromRows = typedFor other theirs.fromRows := by
  obtain ⟨mine, facts, rate, lines, ofOne⟩ :=
    paid.oneRecord_some same.modes.1 same.deducts.1 same.ofOne same.applicable
  obtain ⟨_, _, ofOther⟩ := derive_paid ok accepted same.shaped.2
  obtain ⟨leg, otherFacts, otherRate, theirs, _, amount, only, net, ofGroup⟩ :=
    ofOther.manyRecord_single same
  have sameFacts := ofGroup.known
  rw [same.facts, ofOne.known] at sameFacts
  cases Option.some.inj sameFacts
  have sameRate := ofGroup.rated
  rw [ofOne.rated] at sameRate
  cases Option.some.inj sameRate
  have alternatives := exact party facts rate ofOne.mode ofOne.deducts.1 ofOne.ofParty
    ofOne.deducts.2 ofOne.known ofOne.rated
  rw [typedNet_eq paid.read.legs] at alternatives amount
  have alike := alike_records ofOne ofGroup amount alternatives
  refine ⟨mine, theirs, lines, only, alike.1, alike.2, ?_⟩
  rw [net, paid.typedFor_one ofOne]

end Paid

/-- A payment that refuses nothing keeps the law of its deductions exactly when the gross of its
one party crosses the threshold or is what was paid; with several parties it always does. -/
theorem tds_modes_agree (ok : derive cases input = .ok derived)
    (accepted : derived.Accepted input.ctx) (shaped : paymentShaped input.type = true) :
    TdsLaw cases input derived.voucher ↔ CrossesOrExact input := by
  obtain ⟨one, many, paid⟩ := derive_paid ok accepted shaped
  constructor
  · intro law party facts rate mode deducts isParty applicable known rated
    obtain ⟨record, otherFacts, otherRate, lines, ofOne⟩ :=
      paid.oneRecord_some mode deducts isParty applicable
    have sameFacts := ofOne.known
    rw [known] at sameFacts
    cases Option.some.inj sameFacts
    have sameRate := ofOne.rated
    rw [rated] at sameRate
    cases Option.some.inj sameRate
    rw [typedNet_eq paid.read.legs]
    cases crosses : crossesTdsThreshold (grossUp (tdsPercent party rate)
        (netOf .DR (deriveLines cases input).typed)) (facts.annualBaseSoFar +
          grossUp (tdsPercent party rate) (netOf .DR (deriveLines cases input).typed)) rate with
    | true => exact Or.inl rfl
    | false =>
        have member : record ∈ derived.voucher.tdsLines := by
          rw [lines]
          exact List.mem_singleton_self record
        have recorded := (law.below record member (ofOne.below crosses).2).2
        rw [paid.typedFor_one ofOne, ofOne.base, typedNet_eq paid.read.legs] at recorded
        exact Or.inr recorded
  · intro exact
    constructor
    · exact fun party isParty => paid.oneParty isParty
    · exact fun several party => paid.manyParties several party
    · exact fun party instrumented => paid.byInstruments instrumented
    · exact paid.payable
    · exact fun record member isBelow => paid.below exact member isBelow
    · exact fun other party row twin same twinOk twinAccepted =>
        paid.alike exact same twinOk twinAccepted

/-! ## A contractor below the threshold -/

private theorem dues_unraised (raise : BillwiseMode.DEMAND = .RAISE) :
    (none : Option BillType) ≠ none := by
  cases raise

/-- Dues set against a contractor's bills. -/
private def duesType : VoucherTypeRules where
  typeCode := "Dues"
  typeName := "Contract Dues"
  nature := .JOURNAL
  partyMode := .ONE
  partySide := .DR
  billwiseMode := .DEMAND
  raiseBillType := none
  drGroups := []
  crGroups := []
  gstRegister := none
  gstSide := none
  tdsMode := .DEDUCT
  instruments := false
  raise_named := dues_unraised

private def contractor : LedgerFacts :=
  { plainLedger 2 "Kumar Contractors" with
    isParty := true
    isBillByBill := true
    isTdsApplicable := true
    tdsSection := some "194C".toList
    pan := some "AAAPK1234C".toList }

private theorem two_nonneg : (0 : Decimal) ≤ 2 := by
  norm_num

private theorem two_le : (2 : Decimal) ≤ 100 := by
  norm_num

private theorem twenty_nonneg : (0 : Decimal) ≤ 20 := by
  norm_num

private theorem twenty_le : (20 : Decimal) ≤ 100 := by
  norm_num

private theorem unlimited_nonneg : (0 : Decimal) ≤ 0 := by
  norm_num

/-- Two per cent above this much in one payment, and no limit for the year. -/
private def contractRate (single : Decimal) (nonneg : 0 ≤ single) : TdsRateFacts :=
  ⟨"Contractors", "ANY".toList, 2, 20, single, 0, two_nonneg, two_le, twenty_nonneg, twenty_le,
    nonneg, unlimited_nonneg⟩

private def contractBill (pending : Decimal) : BillFacts :=
  ⟨8, "2026-2027", 2, .PURCHASE, "K-8", .CR, pending, false, true, 1⟩

private theorem contractBill_keyed {pending : Decimal} {billId : Uuid} {year : String}
    {bill : BillFacts}
    (found : (if billId = 8 ∧ year = "2026-2027" then some (contractBill pending) else none) =
      some bill) : bill.ablId = billId ∧ bill.ablAccYear = year := by
  split at found
  · next key =>
      cases found
      exact ⟨key.1.symm, key.2.symm⟩
  · cases found

/-- 1,000 of a contractor's dues, and a bill of what they come to. -/
private def dues (rate : TdsRateFacts) (gross : Decimal) : DeriveInput :=
  { blank duesType with
    header := ⟨⟨2026, 9, 15⟩, some 2, none, false, none⟩
    lines := [⟨1, .CR, 5, 1000, none, none, some true, none, none⟩]
    allocations := [⟨0, 0, 8, "2026-2027", gross⟩]
    ledgers := fun _ => some (plainLedger 5 "Retention")
    party := some contractor
    tds := some ⟨some rate, 0⟩
    roleLedgers := fun _ _ _ => some ⟨21, "TDS payable"⟩
    bills := fun billId year =>
      if billId = 8 ∧ year = "2026-2027" then some (contractBill gross) else none
    bills_keyed := contractBill_keyed
    ctx := ⟨false, [.TDS_BELOW_THRESHOLD], true, [], []⟩ }

private def deducts (input : DeriveInput) (check : DerivedInternal → Bool) (derived : Derived) :
    Bool :=
  decide (derived.Accepted input.ctx) && check derived.voucher

private theorem exists_deducted {check : DerivedInternal → Bool}
    (passes : (derive cases input).toOption.any (deducts input check) = true) :
    ∃ derived, derive cases input = .ok derived ∧ derived.Accepted input.ctx ∧
      check derived.voucher = true := by
  obtain ⟨derived, ok, deducted⟩ := exists_derived passes
  rw [deducts, Bool.and_eq_true, decide_eq_true_eq] at deducted
  exact ⟨derived, ok, deducted⟩

private theorem dues_crosses :
    CrossesOrExact (dues (contractRate 0 unlimited_nonneg) (102041 / 100)) := by
  intro party facts rate _ _ isParty _ known rated
  cases Option.some.inj isParty
  cases Option.some.inj known
  cases Option.some.inj rated
  left
  decide +kernel

theorem dues_deducted : ∃ derived,
    derive ⟨id, id⟩ (dues (contractRate 0 unlimited_nonneg) (102041 / 100)) = .ok derived ∧
      TdsLaw ⟨id, id⟩ (dues (contractRate 0 unlimited_nonneg) (102041 / 100)) derived.voucher := by
  have passes : (derive ⟨id, id⟩ (dues (contractRate 0 unlimited_nonneg) (102041 / 100))).toOption.any
      (deducts (dues (contractRate 0 unlimited_nonneg) (102041 / 100)) fun _ => true) = true := by
    decide +kernel
  obtain ⟨derived, ok, accepted, _⟩ := exists_deducted passes
  exact ⟨derived, ok, (tds_modes_agree ok accepted rfl).mpr dues_crosses⟩

private theorem limit_nonneg : (0 : Decimal) ≤ 30000 := by
  norm_num

/-- 1,000 is paid within the threshold, and 1,020.41 is recorded. -/
theorem gross_recorded_below :
    ¬∀ (cases : Text.CaseMapping) (input : DeriveInput) (derived : Derived),
      derive cases input = .ok derived → derived.Accepted input.ctx →
        paymentShaped input.type = true → TdsLaw cases input derived.voucher := by
  intro claimed
  have passes : (derive ⟨id, id⟩ (dues (contractRate 30000 limit_nonneg) 1000)).toOption.any
      (deducts (dues (contractRate 30000 limit_nonneg) 1000) fun voucher =>
        voucher.tdsLines.any fun record => decide (record.rateSource = .BELOW_THRESHOLD ∧
          record.base ≠ typedFor (dues (contractRate 30000 limit_nonneg) 1000)
            record.fromRows)) = true := by
    decide +kernel
  obtain ⟨derived, ok, accepted, checked⟩ := exists_deducted passes
  obtain ⟨record, member, differs⟩ := List.any_eq_true.mp checked
  rw [decide_eq_true_eq] at differs
  exact differs.2 ((claimed _ _ derived ok accepted rfl).below record member differs.1).2

end ErpServer.Vouchers
