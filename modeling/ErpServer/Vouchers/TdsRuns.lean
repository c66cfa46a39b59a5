import ErpServer.Vouchers.TdsSteps

/-!
# The deductions of a voucher with several parties

A run over the deductees grosses up the lines of those above the threshold and no other, each
line once.  So the lines of a party come to what was typed for them and the tax recorded.
-/

namespace ErpServer.Vouchers

open Lib
open Receipt (Decimal DrCr Figure money money_mem money_nonneg paise)

variable {cases : Text.CaseMapping} {input : DeriveInput} {ctx : GuardContext}

/-! ## Grossing up -/

variable {net pct : Decimal} {group typed : List TypedLeg} {run : TdsRun}

/-- A gross is a figure of two places when its net is. -/
theorem grossUp_mem (exact : net ∈ paise) : grossUp pct net ∈ paise := by
  rw [grossUp]
  split
  · exact exact
  · exact money_mem _

theorem sum_mem_paise {α : Type*} {items : List α} {amount : α → Decimal}
    (members : ∀ item ∈ items, amount item ∈ paise) : (items.map amount).sum ∈ paise := by
  apply list_sum_mem
  intro value member
  obtain ⟨item, itemMember, rfl⟩ := List.mem_map.mp member
  exact members item itemMember

/-! ## The records -/

/-- What is recorded of a deductee. -/
structure GroupRecord (input : DeriveInput) (party : LedgerFacts) (group : List TypedLeg)
    (facts : TdsFacts) (rate : TdsRateFacts) (record : InternalTds) : Prop where
  known : input.tdsByParty party.ledId = some facts
  rated : facts.rate = some rate
  finite : tdsPercent party rate ≠ 100
  ofParty : record.party = party
  fromRows : record.fromRows = rowsOf group
  above : crossesTdsThreshold (groupBase (tdsPercent party rate) group)
      (facts.annualBaseSoFar + groupBase (tdsPercent party rate) group) rate = true →
    record.base = groupBase (tdsPercent party rate) group ∧
      record.tax = groupTax (tdsPercent party rate) group ∧
      record.rateSource ≠ .BELOW_THRESHOLD
  below : crossesTdsThreshold (groupBase (tdsPercent party rate) group)
      (facts.annualBaseSoFar + groupBase (tdsPercent party rate) group) rate = false →
    record.base = groupPaid group ∧ record.tax = 0 ∧ record.rateSource = .BELOW_THRESHOLD

/-- A deductee and what is recorded of it. -/
def Recorded (input : DeriveInput) (entry : Uuid × List TypedLeg) (record : InternalTds) : Prop :=
  ∃ leg rest facts rate, entry.2 = leg :: rest ∧
    GroupRecord input leg.ledger entry.2 facts rate record

theorem tdsRateSource_ne (party : LedgerFacts) : tdsRateSource party ≠ .BELOW_THRESHOLD := by
  rw [tdsRateSource]
  split
  · exact TdsRateSource.noConfusion
  · exact TdsRateSource.noConfusion

/-! ## One deductee -/

theorem tdsPercent_nonneg (party : LedgerFacts) (rate : TdsRateFacts) :
    0 ≤ tdsPercent party rate := by
  rw [tdsPercent]
  split
  · exact rate.rate_nonneg
  · exact rate.noPanRate_nonneg

theorem tdsPercent_le (party : LedgerFacts) (rate : TdsRateFacts) :
    tdsPercent party rate ≤ 100 := by
  rw [tdsPercent]
  split
  · exact rate.rate_le
  · exact rate.noPanRate_le

/-- A gross is at least its net. -/
theorem le_grossUp (nonneg : 0 ≤ pct) (finite : pct < 100) (figure : Figure net) :
    net ≤ grossUp pct net := by
  rw [grossUp]
  split
  · exact le_rfl
  · have left : 0 < 1 - pct / 100 := by linarith
    have more : net ≤ net / (1 - pct / 100) := by
      rw [le_div_iff₀ left]
      have share : 0 ≤ net * (pct / 100) :=
        mul_nonneg figure.nonneg (div_nonneg nonneg (by norm_num))
      linarith
    calc net = money net := figure.money.symm
      _ ≤ money (net / (1 - pct / 100)) := Grid.halfUp_mono Receipt.paisa_pos figure.nonneg more

theorem grossUp_figure (nonneg : 0 ≤ pct) (finite : pct < 100) (figure : Figure net) :
    Figure (grossUp pct net) ∧ (0 < grossUp pct net ↔ 0 < net) := by
  have more := le_grossUp nonneg finite figure
  refine ⟨⟨grossUp_mem figure.exact, figure.nonneg.trans more⟩, ?_⟩
  constructor
  · intro positive
    apply figure.nonneg.lt_of_ne
    intro zero
    rw [← zero, grossUp] at positive
    split at positive
    · exact absurd positive (lt_irrefl _)
    · rw [zero_div, Receipt.money_of_mem (zero_mem _)] at positive
      exact absurd positive (lt_irrefl _)
  · intro positive
    exact positive.trans_le more

theorem groupTax_nonneg (nonneg : 0 ≤ pct) (finite : pct < 100)
    (figures : ∀ leg ∈ group, Figure leg.amount) : 0 ≤ groupTax pct group := by
  apply List.sum_nonneg
  intro tax member
  obtain ⟨leg, legMember, rfl⟩ := List.mem_map.mp member
  exact sub_nonneg.mpr (le_grossUp nonneg finite (figures leg legMember))

/-- The lines of these rows at another price. -/
def reprice (price : Decimal → Decimal) (rows : List ℕ) (typed : List TypedLeg) : List TypedLeg :=
  typed.map fun leg =>
    if leg.lineRowNo ∈ rows then { leg with amount := price leg.amount } else leg

theorem reprice_id (rows : List ℕ) (typed : List TypedLeg) : reprice id rows typed = typed := by
  rw [reprice]
  conv_rhs => rw [← List.map_id typed]
  apply List.map_congr_left
  intro leg _
  exact ite_self leg

/-- A leg that goes with the post-dated line of a row. -/
def travelsWith (row : ℕ) (leg : InternalLeg) : Bool := leg.postDated && row ∈ leg.fromRows

/-- The legs a deductee adds: its tax, which goes with its line where that is post-dated. -/
structure TaxLegs (group : List TypedLeg) (price : Decimal → Decimal) (tax : Decimal)
    (legs : List InternalLeg) : Prop where
  sum : (legs.map (·.amount)).sum = tax
  credits : CreditsOfTax legs
  positive : ∀ leg ∈ legs, 0 < leg.amount
  rows : ∀ leg ∈ legs, leg.fromRows = rowsOf group
  dated : ∀ leg ∈ legs, leg.postDated = true → ∃ line, group = [line] ∧ line.postDated = true
  travels : ∀ line ∈ group, line.postDated = true →
    ((legs.filter (travelsWith line.lineRowNo)).map (·.amount)).sum =
      price line.amount - line.amount

theorem TaxLegs.none (group : List TypedLeg) : TaxLegs group id 0 [] where
  sum := rfl
  credits leg member := by cases member
  positive leg member := by cases member
  rows leg member := by cases member
  dated leg member := by cases member
  travels line _ _ := (sub_self line.amount).symm

theorem TaxLegs.one {ledger : ResolvedRoleLedger} {remarks : String} {postDated : Bool}
    {postsOn : Option IsoDate} (figures : ∀ leg ∈ group, Figure leg.amount)
    (positive : 0 < groupTax pct group)
    (today : postDated = false → ∀ leg ∈ group, leg.postDated = false)
    (alone : postDated = true → ∃ leg, group = [leg] ∧ leg.postDated = true) :
    TaxLegs group (grossUp pct) (groupTax pct group)
      [tdsLeg ledger (groupTax pct group) remarks (rowsOf group) postDated postsOn] := by
  constructor
  · exact List.sum_singleton
  · intro leg member
    rw [List.mem_singleton.mp member]
    refine ⟨rfl, rfl, ?_⟩
    apply sum_mem_paise
    intro line lineMember
    exact sub_mem (grossUp_mem (figures line lineMember).exact) (figures line lineMember).exact
  · intro leg member
    rw [List.mem_singleton.mp member]
    exact positive
  · intro leg member
    rw [List.mem_singleton.mp member]
    rfl
  · intro leg member dated
    rw [List.mem_singleton.mp member] at dated
    exact alone dated
  · intro line member dated
    have travelling : postDated = true := by
      cases late : postDated with
      | true => rfl
      | false =>
          rw [today late line member] at dated
          cases dated
    obtain ⟨only, single, _⟩ := alone travelling
    rw [single, List.mem_singleton] at member
    have goes : travelsWith line.lineRowNo (tdsLeg ledger (groupTax pct group) remarks
        (rowsOf group) postDated postsOn) = true := by
      rw [travelsWith, Bool.and_eq_true, decide_eq_true_eq, single, member]
      exact ⟨travelling, List.mem_singleton_self _⟩
    rw [List.filter_cons, if_pos goes, List.filter_nil, List.map_singleton, List.sum_singleton,
      member]
    change groupTax pct group = _
    rw [single, groupTax, List.map_singleton, List.sum_singleton]

/-- What one deductee changes in the run: its own lines, and by the tax recorded of it. -/
structure TdsRun.Takes (input : DeriveInput) (before : TdsRun) (entry : Uuid × List TypedLeg)
    (after : TdsRun) (record : InternalTds) (price : Decimal → Decimal) : Prop where
  shaped : paymentShaped input.type = true
  told : after.unmappedTold = before.unmappedTold
  recorded : Recorded input entry record
  records : after.records = before.records ++ [record]
  figures : ∀ amount, Figure amount → Figure (price amount) ∧ (0 < price amount ↔ 0 < amount)
  typed : after.typed = reprice price (rowsOf entry.2) before.typed
  tax : record.tax = (entry.2.map fun leg => price leg.amount - leg.amount).sum
  legs : ∃ legs, after.legs = before.legs ++ legs ∧ TaxLegs entry.2 price record.tax legs

theorem deductGroup_takes {after : TdsRun} {key : Uuid} (some : group ≠ [])
    (figures : ∀ leg ∈ group, Figure leg.amount)
    (ok : deductGroup cases input run group = .ok after) (quiet : Quiet ctx after.notes)
    (told : run.unmappedTold = false) :
    ∃ record price, TdsRun.Takes input run (key, group) after record price := by
  cases group with
  | nil => exact absurd rfl some
  | cons leg rest =>
      obtain ⟨shaped, facts, rate, known, rated, finite, deducts⟩ :=
        deductGroup_deducts ok quiet told
      have less : tdsPercent leg.ledger rate < 100 := (tdsPercent_le _ _).lt_of_ne finite
      have nonneg := groupTax_nonneg (tdsPercent_nonneg leg.ledger rate) less figures
      cases deducts with
      | below within =>
          refine ⟨_, id, shaped, rfl, ⟨leg, rest, facts, rate, rfl, ?_⟩, rfl,
            fun _ figure => ⟨figure, Iff.rfl⟩, (reprice_id _ _).symm, ?_, [],
            (List.append_nil _).symm, .none _⟩
          · refine ⟨known, rated, finite, rfl, rfl, ?_, fun _ => ⟨rfl, rfl, rfl⟩⟩
            intro crosses
            rw [within] at crosses
            cases crosses
          · simp [tdsRecord]
      | above crosses today alone =>
          have recorded (tdsSection ledgerId first) : GroupRecord input leg.ledger (leg :: rest)
              facts rate (tdsRecord cases leg.ledger tdsSection rate (tdsRateSource leg.ledger)
                (groupBase (tdsPercent leg.ledger rate) (leg :: rest))
                (groupTax (tdsPercent leg.ledger rate) (leg :: rest)) none (rowsOf (leg :: rest))
                ledgerId first) := by
            refine ⟨known, rated, finite, rfl, rfl, fun _ => ⟨rfl, rfl, tdsRateSource_ne _⟩, ?_⟩
            intro within
            rw [crosses] at within
            cases within
          by_cases positive : 0 < groupTax (tdsPercent leg.ledger rate) (leg :: rest)
          · refine ⟨_, grossUp (tdsPercent leg.ledger rate), shaped, rfl,
              ⟨leg, rest, facts, rate, rfl, recorded _ _ _⟩, rfl,
              fun _ => grossUp_figure (tdsPercent_nonneg _ _) less, ?_, rfl, _, rfl, ?_⟩
            · simp only [if_pos positive]
              rfl
            · rw [if_pos positive]
              exact .one figures positive today fun dated => alone dated positive
          · have zero := le_antisymm (not_lt.mp positive) nonneg
            refine ⟨_, id, shaped, rfl, ⟨leg, rest, facts, rate, rfl, recorded _ _ _⟩, rfl,
              fun _ figure => ⟨figure, Iff.rfl⟩, ?_, ?_, [], ?_, ?_⟩
            · simp only [if_neg positive]
              exact (reprice_id _ _).symm
            · simp [tdsRecord, zero]
            · simp only [if_neg positive]
            · have none := TaxLegs.none (leg :: rest)
              rw [← zero] at none
              exact none

/-! ## The run -/

/-- The legs of a party on the debit side. -/
def debitsOn (party : Uuid) (typed : List TypedLeg) : List TypedLeg :=
  typed.filter fun leg => leg.ledger.ledId = party ∧ leg.drCr = .DR

/-- What the records of a party withhold. -/
def taxOn (party : Uuid) (records : List InternalTds) : Decimal :=
  ((records.filter fun record => record.party.ledId = party).map (·.tax)).sum

/-- The lines of a deductee: every deductee line of its ledger. -/
def GroupOf (type : VoucherTypeRules) (typed : List TypedLeg) (entry : Uuid × List TypedLeg) :
    Prop :=
  entry.2 ≠ [] ∧ entry.2 = (typed.filter (isDeducteeLine type)).filter fun leg =>
    leg.ledger.ledId = entry.1

/-- The run once these deductees are done, over the lines as they were typed. -/
structure Deducting (input : DeriveInput) (typed : List TypedLeg)
    (done : List (Uuid × List TypedLeg)) (price : TypedLeg → Decimal) (run : TdsRun) : Prop where
  told : run.unmappedTold = false
  repriced : run.typed = typed.map fun leg => { leg with amount := price leg }
  /-- Lines of parties not yet reached are as typed. -/
  untouched : ∀ leg ∈ typed, leg.ledger.ledId ∉ done.map Prod.fst → price leg = leg.amount
  figures : ∀ leg ∈ typed, Figure (price leg) ∧ (0 < price leg ↔ 0 < leg.amount)
  recorded : List.Forall₂ (Recorded input) done run.records
  discharged : ∀ party, ((debitsOn party typed).map price).sum =
    ((debitsOn party typed).map (·.amount)).sum + taxOn party run.records
  withheld : (run.legs.map (·.amount)).sum = (run.records.map (·.tax)).sum
  legs : CreditsOfTax run.legs
  positive : ∀ leg ∈ run.legs, 0 < leg.amount
  /-- A leg that is post-dated goes with one line that is. -/
  dated : ∀ leg ∈ run.legs, leg.postDated = true → ∃ line ∈ typed, line.postDated = true ∧
    line.drCr = .DR ∧ leg.fromRows = [line.lineRowNo]
  /-- What goes with a post-dated line is what it was grossed up by. -/
  travels : ∀ line ∈ typed, line.postDated = true →
    ((run.legs.filter (travelsWith line.lineRowNo)).map (·.amount)).sum =
      price line - line.amount

section Step

variable {typed : List TypedLeg} {entry : Uuid × List TypedLeg}

/-- The lines with a row of the group are the group. -/
theorem GroupOf.mem_iff (isGroup : GroupOf input.type typed entry)
    (nodup : (typed.map (·.lineRowNo)).Nodup) {leg : TypedLeg} (member : leg ∈ typed) :
    leg.lineRowNo ∈ rowsOf entry.2 ↔
      isDeducteeLine input.type leg = true ∧ leg.ledger.ledId = entry.1 := by
  rw [rowsOf, isGroup.2, List.mem_map]
  constructor
  · rintro ⟨other, otherMember, same⟩
    simp only [List.mem_filter, decide_eq_true_eq] at otherMember
    have equal := List.inj_on_of_nodup_map nodup otherMember.1.1 member same
    rw [← equal]
    exact ⟨otherMember.1.2, otherMember.2⟩
  · rintro ⟨deductee, ofKey⟩
    refine ⟨leg, ?_, rfl⟩
    simp only [List.mem_filter, decide_eq_true_eq]
    exact ⟨⟨member, deductee⟩, ofKey⟩

/-- A payment's deductee lines are debits. -/
theorem isDeducteeLine_debit {leg : TypedLeg} (shaped : paymentShaped input.type = true)
    (deductee : isDeducteeLine input.type leg = true) : leg.drCr = .DR := by
  simp only [paymentShaped, decide_eq_true_eq] at shaped
  simp only [isDeducteeLine, shaped.2, PartySide.fixed, Option.all_some, Bool.and_eq_true,
    decide_eq_true_eq] at deductee
  exact deductee.2

/-- On the debit side of its party the lines of the group are the group. -/
theorem GroupOf.debitsOn_filter (isGroup : GroupOf input.type typed entry)
    (nodup : (typed.map (·.lineRowNo)).Nodup) (shaped : paymentShaped input.type = true) :
    (debitsOn entry.1 typed).filter (fun leg => leg.lineRowNo ∈ rowsOf entry.2) = entry.2 := by
  have mem {leg : TypedLeg} (member : leg ∈ typed) := isGroup.mem_iff nodup member
  rw [debitsOn, List.filter_filter]
  conv_rhs => rw [isGroup.2, List.filter_filter]
  apply List.filter_congr
  intro leg member
  apply Bool.eq_iff_iff.mpr
  simp only [Bool.and_eq_true, decide_eq_true_eq, mem member]
  constructor
  · rintro ⟨⟨deductee, ofKey⟩, _⟩
    exact ⟨ofKey, deductee⟩
  · rintro ⟨ofKey, deductee⟩
    exact ⟨⟨deductee, ofKey⟩, ofKey, isDeducteeLine_debit shaped deductee⟩

/-- On the debit side of another party the group has no line. -/
theorem GroupOf.debitsOn_other (isGroup : GroupOf input.type typed entry)
    (nodup : (typed.map (·.lineRowNo)).Nodup) {party : Uuid} (other : party ≠ entry.1) :
    (debitsOn party typed).filter (fun leg => leg.lineRowNo ∈ rowsOf entry.2) = [] := by
  apply List.filter_eq_nil_iff.mpr
  intro leg member inRows
  simp only [debitsOn, List.mem_filter, decide_eq_true_eq] at member inRows
  exact other (member.2.1 ▸ ((isGroup.mem_iff nodup member.1).mp inRows).2)

/-- A deductee's record is of the party of its lines. -/
theorem Recorded.party {record : InternalTds} (recorded : Recorded input entry record)
    (isGroup : GroupOf input.type typed entry) : record.party.ledId = entry.1 := by
  obtain ⟨leg, rest, facts, rate, shape, isRecord⟩ := recorded
  have member : leg ∈ entry.2 := by
    rw [shape]
    exact List.mem_cons_self
  rw [isGroup.2] at member
  rw [isRecord.ofParty]
  exact of_decide_eq_true (List.mem_filter.mp member).2

theorem taxOn_append (party : Uuid) (records : List InternalTds) (record : InternalTds) :
    taxOn party (records ++ [record]) =
      taxOn party records + if record.party.ledId = party then record.tax else 0 := by
  rw [taxOn, taxOn, List.filter_append, List.map_append, List.sum_append]
  by_cases same : record.party.ledId = party
  · simp [same]
  · simp [same]

variable {done : List (Uuid × List TypedLeg)} {price : TypedLeg → Decimal} {before after : TdsRun}
variable {record : InternalTds} {step : Decimal → Decimal}

/-- The price of a line once the deductee is done. -/
def priceAfter (price : TypedLeg → Decimal) (step : Decimal → Decimal) (rows : List ℕ)
    (leg : TypedLeg) : Decimal :=
  if leg.lineRowNo ∈ rows then step (price leg) else price leg

/-- What a step adds to the debits of a party is the tax recorded of it. -/
theorem Deducting.discharged_take (held : Deducting input typed done price before)
    (nodup : (typed.map (·.lineRowNo)).Nodup) (isGroup : GroupOf input.type typed entry)
    (fresh : entry.1 ∉ done.map Prod.fst) (takes : before.Takes input entry after record step)
    (party : Uuid) :
    ((debitsOn party typed).map (priceAfter price step (rowsOf entry.2))).sum =
      ((debitsOn party typed).map price).sum +
        if record.party.ledId = party then record.tax else 0 := by
  have split (leg : TypedLeg) : priceAfter price step (rowsOf entry.2) leg = price leg +
      if leg.lineRowNo ∈ rowsOf entry.2 then step (price leg) - price leg else 0 := by
    rw [priceAfter]
    split
    · ring
    · ring
  have added := ListSum.sum_ite_filter (debitsOn party typed)
    (fun leg => step (price leg) - price leg) fun leg => leg.lineRowNo ∈ rowsOf entry.2
  simp only [decide_eq_true_eq] at added
  rw [List.map_congr_left fun leg _ => split leg, List.sum_map_add, added,
    takes.recorded.party isGroup]
  by_cases same : entry.1 = party
  · rw [if_pos same, ← same, isGroup.debitsOn_filter nodup takes.shaped, takes.tax]
    congr 2
    apply List.map_congr_left
    intro leg member
    have inTyped : leg ∈ typed ∧ leg.ledger.ledId = entry.1 := by
      rw [isGroup.2] at member
      simp only [List.mem_filter, decide_eq_true_eq] at member
      exact ⟨member.1.1, member.2⟩
    have notDone : leg.ledger.ledId ∉ done.map Prod.fst := by
      rw [inTyped.2]
      exact fresh
    rw [held.untouched leg inTyped.1 notDone]
  · rw [if_neg same, isGroup.debitsOn_other nodup (Ne.symm same)]
    rfl

theorem Deducting.take (held : Deducting input typed done price before)
    (nodup : (typed.map (·.lineRowNo)).Nodup) (isGroup : GroupOf input.type typed entry)
    (fresh : entry.1 ∉ done.map Prod.fst) (takes : before.Takes input entry after record step) :
    Deducting input typed (done ++ [entry]) (priceAfter price step (rowsOf entry.2)) after := by
  obtain ⟨added, legs, taxLegs⟩ := takes.legs
  have inTyped {leg : TypedLeg} (member : leg ∈ entry.2) :
      leg ∈ typed ∧ isDeducteeLine input.type leg = true := by
    rw [isGroup.2] at member
    exact List.mem_filter.mp (List.mem_of_mem_filter member)
  constructor
  · rw [takes.told, held.told]
  · rw [takes.typed, held.repriced, reprice, List.map_map]
    apply List.map_congr_left
    intro leg _
    simp only [Function.comp_apply, priceAfter]
    split
    · rfl
    · rfl
  · intro leg member notDone
    rw [List.map_append, List.mem_append, not_or] at notDone
    have notKey : leg.ledger.ledId ≠ entry.1 := by
      intro same
      apply notDone.2
      rw [same]
      exact List.mem_cons_self
    have notRow : leg.lineRowNo ∉ rowsOf entry.2 := by
      intro inRows
      exact notKey ((isGroup.mem_iff nodup member).mp inRows).2
    rw [priceAfter, if_neg notRow]
    exact held.untouched leg member notDone.1
  · intro leg member
    have before := held.figures leg member
    rw [priceAfter]
    split
    · have after := takes.figures _ before.1
      exact ⟨after.1, after.2.trans before.2⟩
    · exact before
  · rw [takes.records]
    exact List.rel_append held.recorded (.cons takes.recorded .nil)
  · intro party
    rw [held.discharged_take nodup isGroup fresh takes, held.discharged, takes.records,
      taxOn_append]
    ring
  · rw [legs, takes.records, List.map_append, List.sum_append, List.map_append, List.sum_append,
      held.withheld, taxLegs.sum, List.map_singleton, List.sum_singleton]
  · rw [legs]
    exact List.forall_mem_append.mpr ⟨held.legs, taxLegs.credits⟩
  · rw [legs]
    exact List.forall_mem_append.mpr ⟨held.positive, taxLegs.positive⟩
  · rw [legs]
    apply List.forall_mem_append.mpr ⟨held.dated, _⟩
    intro leg member late
    obtain ⟨line, single, dated⟩ := taxLegs.dated leg member late
    have listed : line ∈ entry.2 := by
      rw [single]
      exact List.mem_singleton_self line
    refine ⟨line, (inTyped listed).1, dated, isDeducteeLine_debit takes.shaped (inTyped listed).2,
      ?_⟩
    rw [taxLegs.rows leg member, single]
    rfl
  · intro line member dated
    rw [legs, List.filter_append, List.map_append, List.sum_append,
      held.travels line member dated, priceAfter]
    split
    · next inRows =>
        have listed : line ∈ entry.2 := by
          rw [isGroup.2]
          obtain ⟨deductee, ofKey⟩ := (isGroup.mem_iff nodup member).mp inRows
          exact List.mem_filter.mpr ⟨List.mem_filter.mpr ⟨member, deductee⟩, decide_eq_true ofKey⟩
        have notDone : line.ledger.ledId ∉ done.map Prod.fst := by
          rw [((isGroup.mem_iff nodup member).mp inRows).2]
          exact fresh
        rw [taxLegs.travels line listed dated, held.untouched line member notDone, sub_self,
          zero_add]
    · next notRow =>
        have none : added.filter (travelsWith line.lineRowNo) = [] := by
          apply List.filter_eq_nil_iff.mpr
          intro leg legMember goes
          rw [travelsWith, taxLegs.rows leg legMember, Bool.and_eq_true, decide_eq_true_eq] at goes
          exact notRow goes.2
        rw [none, List.map_nil, List.sum_nil, add_zero]

end Step

/-- A run starts with the lines as they were typed. -/
theorem Deducting.start (figures : ∀ leg ∈ typed, Figure leg.amount) :
    Deducting input typed [] TypedLeg.amount ⟨typed, [], [], false, []⟩ where
  told := rfl
  repriced := (List.map_id typed).symm
  untouched _ _ _ := rfl
  figures leg member := ⟨figures leg member, Iff.rfl⟩
  recorded := .nil
  discharged _ := (add_zero _).symm
  withheld := rfl
  legs _ member := by cases member
  positive _ member := by cases member
  dated _ member := by cases member
  travels line _ _ := (sub_self line.amount).symm

/-- A deductee only adds to what is reported. -/
theorem deductGroup_notes {after : TdsRun} (ok : deductGroup cases input run group = .ok after) :
    ∃ more, after.notes = run.notes ++ more := by
  have kept : ∃ more, run.notes = run.notes ++ more := ⟨[], (List.append_nil _).symm⟩
  cases group with
  | nil =>
      cases ok
      exact kept
  | cons leg rest =>
      simp only [deductGroup] at ok
      split at ok
      · cases ok
        exact ⟨_, rfl⟩
      · split at ok
        · cases ok
          exact ⟨_, rfl⟩
        · split at ok
          · cases ok
            exact ⟨_, rfl⟩
          · rw [deductMany] at ok
            split at ok
            · cases ok
            · simp only at ok
              split at ok
              · cases ok
                exact ⟨_, rfl⟩
              · cases ok
                rw [withhold]
                cases tdsPayable input with
                | none =>
                    simp only
                    split
                    · exact kept
                    · exact ⟨_, rfl⟩
                | some ledger =>
                    simp only
                    split
                    · exact ⟨_, rfl⟩
                    · exact kept

theorem deductGroups_run {entries : List (Uuid × List TypedLeg)}
    (figures : ∀ leg ∈ typed, Figure leg.amount) (nodup : (typed.map (·.lineRowNo)).Nodup)
    (keys : (entries.map Prod.fst).Nodup)
    (groups : ∀ entry ∈ entries, GroupOf input.type typed entry)
    (ok : (entries.map Prod.snd).foldlM (deductGroup cases input) ⟨typed, [], [], false, []⟩ =
      .ok run) (quiet : Quiet ctx run.notes) :
    ∃ price, Deducting input typed entries price run := by
  induction entries using List.reverseRecOn generalizing run with
  | nil =>
      cases ok
      exact ⟨_, .start figures⟩
  | append_singleton done entry ih =>
      rw [List.map_append, List.foldlM_append] at ok
      obtain ⟨before, earlier, last⟩ := Fold.bind_eq_ok ok
      rw [List.map_singleton, List.foldlM_cons] at last
      obtain ⟨after, here, same⟩ := Fold.bind_eq_ok last
      cases same
      obtain ⟨more, notes⟩ := deductGroup_notes here
      rw [List.map_append, List.nodup_append] at keys
      have quietBefore : Quiet ctx before.notes := by
        rw [notes] at quiet
        exact (quiet_append.mp quiet).1
      obtain ⟨price, held⟩ := ih keys.1
        (fun entry member => groups entry (List.mem_append_left _ member)) earlier quietBefore
      have isGroup := groups entry (List.mem_append_right _ List.mem_cons_self)
      have inTyped : ∀ leg ∈ entry.2, Figure leg.amount := by
        intro leg member
        rw [isGroup.2] at member
        exact figures leg (List.mem_of_mem_filter (List.mem_of_mem_filter member))
      have fresh : entry.1 ∉ done.map Prod.fst := by
        intro listed
        exact keys.2.2 entry.1 listed entry.1 List.mem_cons_self rfl
      obtain ⟨record, step, takes⟩ := deductGroup_takes isGroup.1 inTyped here quiet held.told
      exact ⟨_, held.take nodup isGroup fresh takes⟩

/-- The deductees of a voucher are groups of its lines, each of its own key. -/
theorem byDeductee_groups (type : VoucherTypeRules) (typed : List TypedLeg) :
    ((byDeductee type typed).entries.map Prod.fst).Nodup ∧
      ∀ entry ∈ (byDeductee type typed).entries, GroupOf type typed entry := by
  refine ⟨OrderedMap.keys_groupBy_nodup _ _, ?_⟩
  intro entry member
  have found := OrderedMap.get?_of_mem (OrderedMap.keys_groupBy_nodup _ _) member
  rw [OrderedMap.get?_groupBy] at found
  split at found
  · next listed =>
      have group := (Option.some.inj found).symm
      obtain ⟨leg, legMember, ofKey⟩ := List.mem_map.mp listed
      refine ⟨?_, group⟩
      rw [group]
      apply List.ne_nil_of_mem
      exact List.mem_filter.mpr ⟨legMember, decide_eq_true ofKey⟩
  · cases found

/-- The deductions of a voucher that refuses nothing. -/
theorem deriveTdsMany_deducting {many : TdsRun} (figures : ∀ leg ∈ typed, Figure leg.amount)
    (nodup : (typed.map (·.lineRowNo)).Nodup) (ok : deriveTdsMany cases input typed = .ok many)
    (quiet : Quiet ctx many.notes) : ∃ done price, Deducting input typed done price many ∧
      (input.type.tdsMode = .DEDUCT ∧ input.type.partyMode = .MANY →
        done = (byDeductee input.type typed).entries) := by
  rw [deriveTdsMany] at ok
  split at ok
  · obtain ⟨keys, groups⟩ := byDeductee_groups input.type typed
    obtain ⟨price, held⟩ := deductGroups_run figures nodup keys groups ok quiet
    exact ⟨_, price, held, fun _ => rfl⟩
  · next off =>
      cases ok
      exact ⟨[], _, .start figures, fun on => absurd on off⟩

end ErpServer.Vouchers
