import ErpServer.Receipt.PartyLeg
import ErpServer.Receipt.Prepared

/-!
# Whether the vouchers of a receipt balance

The legs of a receipt are written from the money and the party leg from the bills.
On each voucher they differ by the cut of the acquirer: the instrument leg is net
of it on the voucher of its tender, the bank charges of all tenders together stand
on the receipt's own.
-/

namespace ErpServer.Receipt

open Lib Lib.Fold DoubleEntry

/-! ## The legs of one voucher -/

section Legs

variable (voucher : PlannedVoucher)

theorem net_pushLeg_debit (ledgerId : String) (amount : Decimal) (role remarks : Option String) :
    legReading.net (pushLeg voucher .DR ledgerId amount role remarks) = max 0 amount :=
  legReading.net_entry_debit rfl rfl

theorem net_pushLeg_credit (ledgerId : String) (amount : Decimal) (role remarks : Option String) :
    legReading.net (pushLeg voucher .CR ledgerId amount role remarks) = -max 0 amount :=
  legReading.net_entry_credit rfl rfl

variable {leg : AccVoucher}

theorem pushLeg_key {drCr : DrCr} {ledgerId : String} {amount : Decimal}
    {role remarks : Option String}
    (member : leg ∈ pushLeg voucher drCr ledgerId amount role remarks) :
    leg.voucherKey = voucher.key := by
  rw [(Reading.mem_entry member).1]

/-- What never arrives of a tender's money. -/
def cut (tender : NormalisedTender) : Decimal := min tender.amount tender.mdrAmt

theorem net_instrumentLegs (tenders : List NormalisedTender) :
    legReading.net (instrumentLegs voucher tenders) =
      ((tendersHere voucher tenders).map fun tender => tender.amount - cut tender).sum := by
  rw [instrumentLegs, Reading.net_flatMap]
  refine congrArg List.sum (List.map_congr_left fun tender _ => ?_)
  rw [net_pushLeg_debit, cut]
  rcases le_total tender.amount tender.mdrAmt with less | more
  · rw [max_eq_left (sub_nonpos.mpr less), min_eq_left less, sub_self]
  · rw [max_eq_right (sub_nonneg.mpr more), min_eq_right more]

def lineTotal (kind : NormalisedOtherLine → Bool) (lines : List NormalisedOtherLine) : Decimal :=
  ((lines.filter kind).map NormalisedOtherLine.amount).sum

variable {lines : List NormalisedOtherLine}

theorem net_otherLineLegs (sound : ∀ line ∈ lines, SoundLine line) (split : ∀ line ∈ lines,
      line.isInstrumentSplit = decide (line.role = some ReceiptLedgerRole.BANK_CHARGES)) :
    legReading.net (otherLineLegs voucher lines) =
      lineTotal (fun line => line.drCr = .DR && !line.isInstrumentSplit) lines +
        suppliedFor ReceiptLedgerRole.BANK_CHARGES lines -
          lineTotal (fun line => line.drCr = .CR) lines := by
  induction lines with
  | nil => simp [otherLineLegs, lineTotal, suppliedFor]
  | cons line rest ih =>
      rw [List.forall_mem_cons] at sound split
      have later := ih sound.2 split.2
      have positive := max_eq_right sound.1.positive.le
      simp only [otherLineLegs, lineTotal, suppliedFor] at later
      simp only [otherLineLegs, lineTotal, suppliedFor, List.flatMap_cons, Reading.net_append,
        later, List.filter_cons]
      by_cases isCharge : line.role = some ReceiptLedgerRole.BANK_CHARGES
      · -- Bank charges stand on the debit side, so the split is a debit.
        have debit : line.drCr = .DR := by
          have side := sound.1.side _ isCharge
          rw [show ROLE_SIDE.lookup ReceiptLedgerRole.BANK_CHARGES = some DrCr.DR from rfl] at side
          exact (Option.some.inj side).symm
        rw [debit, net_pushLeg_debit, positive, split.1]
        simp only [isCharge, decide_true, Bool.not_true, Bool.and_false, if_true, List.map_cons,
          List.sum_cons, Bool.false_eq_true, if_false, reduceCtorEq, decide_false]
        ring
      · rw [split.1]
        cases side : line.drCr with
        | DR =>
            rw [net_pushLeg_debit, positive]
            simp only [isCharge, decide_true, decide_false, Bool.not_false, Bool.and_true, if_true,
              List.map_cons, List.sum_cons, Bool.false_eq_true, if_false, reduceCtorEq]
            ring
        | CR =>
            rw [net_pushLeg_credit, positive]
            simp only [isCharge, decide_true, decide_false, Bool.and_true, if_true, Bool.not_false,
              List.map_cons, List.sum_cons, Bool.false_eq_true, if_false, reduceCtorEq]
            ring

theorem otherLineLegs_key (member : leg ∈ otherLineLegs voucher lines) :
    leg.voucherKey = voucher.key := by
  obtain ⟨line, -, written⟩ := List.mem_flatMap.mp member
  exact pushLeg_key voucher written

theorem instrumentLegs_key {tenders : List NormalisedTender}
    (member : leg ∈ instrumentLegs voucher tenders) : leg.voucherKey = voucher.key := by
  obtain ⟨tender, -, written⟩ := List.mem_flatMap.mp member
  exact pushLeg_key voucher written

/-- One reduction of the receipt: a leg for what it comes to. -/
theorem pushReduction_ok {post : ReceiptPost} {bills : List AllocationBill} {role : String}
    {pick : AllocationBill → Decimal} {ledger : ResolvedRoleLedger}
    (mapped : post.ledgerForRole role = some ledger) (figures : ∀ bill ∈ bills, Figure (pick bill)) :
    ∃ legs, pushReduction post voucher bills role pick = .ok legs ∧
      legReading.net legs = (bills.map pick).sum ∧
        ∀ leg ∈ legs, leg.voucherKey = voucher.key := by
  have figure : Figure (bills.map pick).sum := .sumMap figures
  have exact : sum (bills.map pick) = (bills.map pick).sum := figure.money
  have found : requireReceiptRoleLedgers post.ledgerForRole [role] = .ok () := by
    apply requireReceiptRoleLedgers_ok.mpr
    intro other member
    rw [List.mem_singleton.mp member]
    exact ⟨ledger, mapped⟩
  simp only [pushReduction, exact]
  split
  next nothing =>
    refine ⟨[], rfl, ?_, by simp⟩
    rw [Reading.net_nil]
    exact (le_antisymm nothing figure.nonneg).symm
  next more =>
    rw [found]
    simp only [mapped]
    refine ⟨_, rfl, ?_, ?_⟩
    · rw [net_pushLeg_debit, max_eq_right figure.nonneg]
    · intro leg member
      exact pushLeg_key voucher member

theorem net_numberRows (legs : List AccVoucher) :
    legReading.net (numberRows legs) = legReading.net legs := by
  have signed : (numberRows legs).map legReading.signed = legs.map legReading.signed := by
    apply List.ext_getElem
    · simp [numberRows]
    · intro index left right
      simp [numberRows, Reading.signed, legReading]
  rw [Reading.net, Reading.net, signed]

theorem numberRows_key {legs : List AccVoucher} (keyed : ∀ leg ∈ legs, leg.voucherKey = voucher.key)
    (member : leg ∈ numberRows legs) : leg.voucherKey = voucher.key := by
  rw [numberRows, List.mem_mapIdx] at member
  obtain ⟨index, inBounds, rfl⟩ := member
  exact keyed legs[index] (List.getElem_mem inBounds)

end Legs

/-! ## The two kinds of voucher -/

section Vouchers

variable {table : List AccBillBalance} {post : ReceiptPost} {prepared : PreparedReceipt}
  (prepares : Prepares table post prepared)

include prepares

/-- The receipt's own legs besides the money and the party: the band and the
reductions. -/
theorem Prepares.receiptOnlyLegs_ok (voucher : PlannedVoucher) :
    ∃ own, receiptOnlyLegs post prepared voucher = .ok own ∧
      legReading.net own =
        lineTotal (fun line => line.drCr = .DR && !line.isInstrumentSplit)
            prepared.lines.otherLines +
          (prepared.lines.tenders.map NormalisedTender.mdrAmt).sum -
            lineTotal (fun line => line.drCr = .CR) prepared.lines.otherLines +
          (prepared.bills.map fun bill => bill.discount + bill.writeoff + bill.roundoff).sum ∧
      ∀ leg ∈ own, leg.voucherKey = voucher.key := by
  obtain ⟨discountLedger, discountMapped⟩ :=
    prepares.roles ReceiptLedgerRole.DISCOUNT_ALLOWED (by decide)
  obtain ⟨writeoffLedger, writeoffMapped⟩ :=
    prepares.roles ReceiptLedgerRole.WRITE_OFF (by decide)
  obtain ⟨roundoffLedger, roundoffMapped⟩ :=
    prepares.roles ReceiptLedgerRole.ROUND_OFF (by decide)
  obtain ⟨discount, discountRun, discountNet, discountKey⟩ :=
    pushReduction_ok voucher discountMapped fun bill member => (prepares.bills bill member).discount
  obtain ⟨writeoff, writeoffRun, writeoffNet, writeoffKey⟩ :=
    pushReduction_ok voucher writeoffMapped fun bill member => (prepares.bills bill member).writeoff
  obtain ⟨roundoff, roundoffRun, roundoffNet, roundoffKey⟩ :=
    pushReduction_ok voucher roundoffMapped fun bill member => (prepares.bills bill member).roundoff
  have mdrExact : sum (prepared.lines.tenders.map NormalisedTender.mdrAmt) =
      (prepared.lines.tenders.map NormalisedTender.mdrAmt).sum := by
    apply sum_of_mem
    intro value member
    obtain ⟨tender, tenderMem, rfl⟩ := List.mem_map.mp member
    exact (prepares.tender_facts tenderMem).2.2.exact
  have reductions : (prepared.bills.map AllocationBill.discount).sum +
      (prepared.bills.map AllocationBill.writeoff).sum +
        (prepared.bills.map AllocationBill.roundoff).sum =
      (prepared.bills.map fun bill => bill.discount + bill.writeoff + bill.roundoff).sum := by
    rw [List.sum_map_add, List.sum_map_add]
  refine ⟨_, by rw [receiptOnlyLegs, discountRun, writeoffRun, roundoffRun]; rfl, ?_, ?_⟩
  · rw [Reading.net_append, Reading.net_append, Reading.net_append,
      net_otherLineLegs voucher prepares.band.band.sound prepares.band.split,
      prepares.band.supplied, mdrExact, discountNet, writeoffNet, roundoffNet, ← reductions]
    ring
  · intro leg member
    simp only [List.mem_append] at member
    rcases member with ((line | reduced) | reduced) | reduced
    · exact otherLineLegs_key voucher line
    · exact discountKey leg reduced
    · exact writeoffKey leg reduced
    · exact roundoffKey leg reduced

omit prepares in
theorem totalOfLines_inputOf (kind : AllocationOtherLine → Bool) :
    totalOfLines (inputOf post prepared) kind =
      lineTotal (fun line => kind (allocationLine line)) prepared.lines.otherLines := by
  simp [totalOfLines, lineTotal, allocationInput, List.filter_map, Function.comp_def,
    allocationLine]

omit prepares in
theorem totalOfTenders_inputOf (kind : AllocationTender → Bool) :
    totalOfTenders (inputOf post prepared) kind =
      ((prepared.lines.tenders.filter fun tender => kind (allocationTender tender)).map
        NormalisedTender.amount).sum := by
  simp [totalOfTenders, allocationInput, List.filter_map, Function.comp_def, allocationTender]

/-- The party leg of the receipt's own voucher, from the money side. -/
theorem Prepares.partyCredit_receipt :
    ∃ credit, prepared.plan.partyCreditByVoucher.get? RECEIPT_VOUCHER_KEY = some credit ∧
      0 ≤ credit ∧ credit =
        ((prepared.lines.tenders.filter fun tender => !tender.isPdc).map
            NormalisedTender.amount).sum -
          lineTotal (fun line => line.drCr = .CR) prepared.lines.otherLines +
          lineTotal (fun line => line.drCr = .DR && !line.isInstrumentSplit)
            prepared.lines.otherLines +
          (prepared.bills.map fun bill => bill.discount + bill.writeoff + bill.roundoff).sum := by
  obtain ⟨reserved, reductions, run⟩ := prepares.allocates
  have exact := prepares.twoPlaces
  have leg := run.partyCredit_receipt exact
  refine ⟨_, leg, ?_, ?_⟩
  · have funded := run.balanced.funded
    have lines := (exact.figure_totalOfLines fun line => line.drCr =
      (sidesOf (inputOf post prepared)).deduction && !line.isInstrumentSplit).nonneg
    have reduced : 0 ≤ ((inputOf post prepared).bills.map fun bill =>
        bill.discount + bill.writeoff + bill.roundoff).sum := by
      apply List.sum_nonneg
      intro value member
      obtain ⟨bill, billMem, rfl⟩ := List.mem_map.mp member
      have facts := prepares.bills bill billMem
      exact add_nonneg (add_nonneg facts.discount.nonneg facts.writeoff.nonneg)
        facts.roundoff.nonneg
    unfold moneySideLeg
    linarith
  · rw [moneySideLeg, totalOfTenders_inputOf, totalOfLines_inputOf, totalOfLines_inputOf]
    rfl

variable {tender : NormalisedTender} {legs : List AccVoucher}

theorem Prepares.partyCredit_pdc (member : tender ∈ prepared.lines.tenders)
    (isPdc : tender.isPdc = true) :
    prepared.plan.partyCreditByVoucher.get? (pdcVoucherKey tender.rowNo) = some tender.amount := by
  obtain ⟨reserved, reductions, run⟩ := prepares.allocates
  exact run.partyCredit_postDated prepares.twoPlaces prepares.distinctTenders
    (List.mem_map_of_mem member : allocationTender tender ∈ _) isPdc

/-- On the receipt's own voucher the bank charges of every tender stand against the
cut of its instant ones. -/
theorem Prepares.legsOf_receipt :
    ∃ legs, legsOf post prepared (receiptVoucher post prepared.lines.tenders) = .ok legs ∧
      legReading.net legs = (prepared.lines.tenders.map NormalisedTender.mdrAmt).sum -
        ((prepared.lines.tenders.filter fun tender => !tender.isPdc).map cut).sum := by
  obtain ⟨own, ownRun, ownNet, -⟩ :=
    prepares.receiptOnlyLegs_ok (receiptVoucher post prepared.lines.tenders)
  obtain ⟨credit, found, nonneg, value⟩ := prepares.partyCredit_receipt
  have written : legsOf post prepared (receiptVoucher post prepared.lines.tenders) =
      .ok (numberRows (instrumentLegs (receiptVoucher post prepared.lines.tenders)
        prepared.lines.tenders ++ own ++
          partyLeg post prepared (receiptVoucher post prepared.lines.tenders))) := by
    change (receiptOnlyLegs post prepared (receiptVoucher post prepared.lines.tenders) >>= _) = _
    rw [ownRun]
    rfl
  refine ⟨_, written, ?_⟩
  have here : tendersHere (receiptVoucher post prepared.lines.tenders) prepared.lines.tenders =
      prepared.lines.tenders.filter fun tender => !tender.isPdc := rfl
  have party : legReading.net (partyLeg post prepared
      (receiptVoucher post prepared.lines.tenders)) = -credit := by
    rw [partyLeg, net_pushLeg_credit]
    simp only [receiptVoucher, found, Option.getD_some, max_eq_right nonneg]
  have money : ((prepared.lines.tenders.filter fun tender => !tender.isPdc).map fun tender =>
      tender.amount - cut tender).sum =
      ((prepared.lines.tenders.filter fun tender => !tender.isPdc).map
        NormalisedTender.amount).sum -
      ((prepared.lines.tenders.filter fun tender => !tender.isPdc).map cut).sum :=
    ListSum.sum_map_sub _ _ _
  rw [net_numberRows, Reading.net_append, Reading.net_append, net_instrumentLegs, here, money,
    ownNet, party, value]
  ring

/-- On the voucher of a post-dated cheque the party leg exceeds the money by its cut. -/
theorem Prepares.legsOf_pdc (member : tender ∈ prepared.lines.tenders) (isPdc : tender.isPdc = true) :
    ∃ legs, legsOf post prepared (pdcVoucher post tender) = .ok legs ∧
      legReading.net legs = -cut tender := by
  refine ⟨_, rfl, ?_⟩
  have here : tendersHere (pdcVoucher post tender) prepared.lines.tenders = [tender] :=
    ListSum.filter_key_eq prepares.tenders.rowNos member
  have party : legReading.net (partyLeg post prepared (pdcVoucher post tender)) =
      -tender.amount := by
    have found := prepares.partyCredit_pdc member isPdc
    rw [partyLeg, net_pushLeg_credit]
    simp only [pdcVoucher, found, Option.getD_some,
      max_eq_right (prepares.tender_facts member).1.nonneg]
  rw [net_numberRows, List.append_nil, Reading.net_append, net_instrumentLegs, here, party]
  simp only [List.map_cons, List.map_nil, List.sum_singleton]
  ring

theorem Prepares.legsOf_key {voucher : PlannedVoucher}
    (run : legsOf post prepared voucher = .ok legs) :
    ∀ leg ∈ legs, leg.voucherKey = voucher.key := by
  have inner : ∃ own, legs = numberRows (instrumentLegs voucher prepared.lines.tenders ++ own ++
      partyLeg post prepared voucher) ∧ ∀ leg ∈ own, leg.voucherKey = voucher.key := by
    cases rowNo : voucher.tenderRowNo with
    | none =>
        simp only [legsOf, rowNo] at run
        obtain ⟨own, ownRun, run⟩ := bind_eq_ok run
        cases run
        obtain ⟨other, otherRun, -, keyed⟩ := prepares.receiptOnlyLegs_ok voucher
        rw [ownRun] at otherRun
        cases otherRun
        exact ⟨own, rfl, keyed⟩
    | some number =>
        simp only [legsOf, rowNo] at run
        cases run
        exact ⟨[], rfl, by simp⟩
  obtain ⟨own, rfl, keyed⟩ := inner
  intro leg member
  apply numberRows_key voucher ?_ member
  intro leg member
  simp only [List.mem_append] at member
  rcases member with (money | band) | party
  · exact instrumentLegs_key voucher money
  · exact keyed leg band
  · exact pushLeg_key voucher party

/-! ## All vouchers together -/

theorem Prepares.vouchers_nodup :
    ((vouchersOf post prepared.lines.tenders).map PlannedVoucher.key).Nodup := by
  rw [vouchersOf, List.map_cons, List.map_map, List.nodup_cons]
  constructor
  · intro member
    obtain ⟨tender, -, equal⟩ := List.mem_map.mp member
    exact pdcVoucherKey_ne_receipt _ equal
  · have keys : PlannedVoucher.key ∘ pdcVoucher post =
        pdcVoucherKey ∘ NormalisedTender.rowNo := rfl
    rw [keys, ← List.map_map]
    apply List.Nodup.map
    · intro left right equal
      exact pdcVoucherKey_inj.mp equal
    · exact prepares.tenders.rowNos.sublist (List.filter_sublist.map _)

theorem Prepares.planVouchers_ok :
    planVouchers post prepared = .ok (vouchersOf post prepared.lines.tenders) := by
  obtain ⟨reserved, reductions, run⟩ := prepares.allocates
  simp only [planVouchers]
  split
  next key found =>
    exfalso
    have isKey := List.mem_of_find?_eq_some found
    have noVoucher := List.find?_some found
    simp only [Bool.not_eq_true', List.any_eq_false, decide_eq_true_eq] at noVoucher
    obtain ⟨value, lookup⟩ := (OrderedMap.mem_keys_iff _ _).mp isKey
    have isVoucher : IsVoucherOf (inputOf post prepared) key := by
      by_contra other
      rw [(run.partyCredit_get? prepares.twoPlaces key).2 other] at lookup
      cases lookup
    rcases isVoucher with rfl | ⟨tender, member, isPostDated, rfl⟩
    · exact noVoucher _ List.mem_cons_self rfl
    · obtain ⟨source, sourceMem, rfl⟩ := List.mem_map.mp member
      apply noVoucher (pdcVoucher post source) _ rfl
      apply List.mem_cons_of_mem
      exact List.mem_map_of_mem (List.mem_filter.mpr ⟨sourceMem, isPostDated⟩)
  next => rfl

/-- Every voucher is written, and its legs are found again under its key. -/
theorem Prepares.writeLegs_ok :
    ∃ legs, writeLegs post prepared (vouchersOf post prepared.lines.tenders) = .ok legs ∧
      ∀ voucher ∈ vouchersOf post prepared.lines.tenders,
        ∃ own, legsOf post prepared voucher = .ok own ∧
          legs.filter (fun leg => leg.voucherKey = voucher.key) = own := by
  have each : ∀ voucher ∈ vouchersOf post prepared.lines.tenders,
      ∃ own, legsOf post prepared voucher = .ok own := by
    intro voucher member
    rcases List.mem_cons.mp member with rfl | member
    · obtain ⟨own, run, -⟩ := prepares.legsOf_receipt
      exact ⟨own, run⟩
    · obtain ⟨tender, tenderMem, rfl⟩ := List.mem_map.mp member
      exact ⟨_, rfl⟩
  obtain ⟨written, run⟩ := mapM_succeeds each
  refine ⟨written.flatten, by rw [writeLegs, run]; rfl, ?_⟩
  intro voucher member
  exact ListSum.filter_flatten_key prepares.vouchers_nodup
    (fun voucher own ownRun => prepares.legsOf_key ownRun) (mapM_ok.mp run) member

/-- The cut of a tender is all of its MDR exactly when the MDR fits the tender. -/
theorem Prepares.vouchers_net_iff :
    ((prepared.lines.tenders.map NormalisedTender.mdrAmt).sum -
        ((prepared.lines.tenders.filter fun tender => !tender.isPdc).map cut).sum = 0 ∧
      ∀ tender ∈ prepared.lines.tenders, tender.isPdc = true → -cut tender = 0) ↔
    ∀ tender ∈ prepared.lines.tenders,
      tender.mdrAmt ≤ if tender.isPdc then 0 else tender.amount := by
  have cut_zero : ∀ tender ∈ prepared.lines.tenders, -cut tender = 0 ↔ tender.mdrAmt ≤ 0 := by
    intro tender member
    have facts := prepares.tender_facts member
    rw [neg_eq_zero, cut]
    constructor
    · intro zero
      rcases min_choice tender.amount tender.mdrAmt with equal | equal
      · rw [equal] at zero
        exact absurd zero facts.2.1.ne'
      · rw [equal] at zero
        exact zero.le
    · intro atMost
      rw [le_antisymm atMost facts.2.2.nonneg, min_eq_right facts.1.nonneg]
  have apart := ListSum.sum_filter_add prepared.lines.tenders NormalisedTender.mdrAmt
    fun tender => tender.isPdc
  have instant := ListSum.sum_map_sub
    (prepared.lines.tenders.filter fun tender => !tender.isPdc) NormalisedTender.mdrAmt cut
  have gap_nonneg : ∀ tender : NormalisedTender, 0 ≤ tender.mdrAmt - cut tender := by
    intro tender
    exact sub_nonneg.mpr (min_le_right _ _)
  constructor
  · intro balanced tender member
    have postDatedZero : ((prepared.lines.tenders.filter fun tender => tender.isPdc).map
        NormalisedTender.mdrAmt).sum = 0 := by
      apply List.sum_eq_zero
      intro value valueMem
      obtain ⟨other, otherMem, rfl⟩ := List.mem_map.mp valueMem
      have inside := List.mem_filter.mp otherMem
      exact le_antisymm ((cut_zero other inside.1).mp (balanced.2 other inside.1 inside.2))
        (prepares.tender_facts inside.1).2.2.nonneg
    cases isPdc : tender.isPdc with
    | true =>
        rw [if_pos rfl]
        exact (cut_zero tender member).mp (balanced.2 tender member isPdc)
    | false =>
        rw [if_neg Bool.false_ne_true]
        have gapMem : tender.mdrAmt - cut tender ∈ (prepared.lines.tenders.filter fun tender =>
            !tender.isPdc).map fun tender => tender.mdrAmt - cut tender :=
          List.mem_map_of_mem (List.mem_filter.mpr ⟨member, by simp [isPdc]⟩)
        have noGap : tender.mdrAmt - cut tender ≤ 0 := by
          refine (List.single_le_sum ?_ _ gapMem).trans (le_of_eq ?_)
          · intro value valueMem
            obtain ⟨other, -, rfl⟩ := List.mem_map.mp valueMem
            exact gap_nonneg other
          · linarith [balanced.1]
        exact (sub_nonpos.mp noGap).trans (min_le_left _ _)
  · intro fits
    have postDated : ∀ tender ∈ prepared.lines.tenders, tender.isPdc = true →
        tender.mdrAmt ≤ 0 := by
      intro tender member isPdc
      have fit := fits tender member
      rwa [if_pos isPdc] at fit
    constructor
    · have noPostDated : ((prepared.lines.tenders.filter fun tender => tender.isPdc).map
          NormalisedTender.mdrAmt).sum = 0 := by
        apply List.sum_eq_zero
        intro value valueMem
        obtain ⟨other, otherMem, rfl⟩ := List.mem_map.mp valueMem
        have inside := List.mem_filter.mp otherMem
        exact le_antisymm (postDated other inside.1 inside.2)
          (prepares.tender_facts inside.1).2.2.nonneg
      have noGap : ((prepared.lines.tenders.filter fun tender => !tender.isPdc).map fun tender =>
          tender.mdrAmt - cut tender).sum = 0 := by
        apply List.sum_eq_zero
        intro value valueMem
        obtain ⟨other, otherMem, rfl⟩ := List.mem_map.mp valueMem
        have inside := List.mem_filter.mp otherMem
        have fit := fits other inside.1
        have isInstant : other.isPdc = false := by simpa using inside.2
        rw [isInstant, if_neg Bool.false_ne_true] at fit
        rw [cut, min_eq_right fit, sub_self]
      linarith
    · intro tender member isPdc
      exact (cut_zero tender member).mpr (postDated tender member isPdc)

/-- Every voucher of the receipt balances exactly when the MDR of each tender fits
what that tender brings in now. -/
theorem Prepares.balanced_iff (written : ∀ voucher ∈ vouchersOf post prepared.lines.tenders,
      ∃ own, legsOf post prepared voucher = .ok own ∧
        legs.filter (fun leg => leg.voucherKey = voucher.key) = own) :
    (∀ voucher ∈ vouchersOf post prepared.lines.tenders,
      legReading.Balanced (legs.filter fun leg => leg.voucherKey = voucher.key)) ↔
    ∀ tender ∈ prepared.lines.tenders,
      tender.mdrAmt ≤ if tender.isPdc then 0 else tender.amount := by
  rw [← prepares.vouchers_net_iff]
  have net (voucher : PlannedVoucher) {own : List AccVoucher}
      (member : voucher ∈ vouchersOf post prepared.lines.tenders)
      (run : legsOf post prepared voucher = .ok own) :
      legReading.Balanced (legs.filter fun leg => leg.voucherKey = voucher.key) ↔
        legReading.net own = 0 := by
    obtain ⟨other, otherRun, equal⟩ := written voucher member
    rw [run] at otherRun
    cases otherRun
    rw [equal, Reading.balanced_iff]
  rw [vouchersOf] at net ⊢
  rw [List.forall_mem_cons]
  apply and_congr
  · obtain ⟨own, run, ownNet⟩ := prepares.legsOf_receipt
    rw [net _ List.mem_cons_self run, ownNet]
  · constructor
    · intro balanced tender member isPdc
      obtain ⟨own, run, ownNet⟩ := prepares.legsOf_pdc member isPdc
      have isVoucher : pdcVoucher post tender ∈
          (prepared.lines.tenders.filter fun tender => tender.isPdc).map (pdcVoucher post) :=
        List.mem_map_of_mem (List.mem_filter.mpr ⟨member, isPdc⟩)
      rw [← ownNet]
      exact (net _ (List.mem_cons_of_mem _ isVoucher) run).mp (balanced _ isVoucher)
    · intro zero voucher member
      obtain ⟨tender, tenderMem, rfl⟩ := List.mem_map.mp member
      have inside := List.mem_filter.mp tenderMem
      obtain ⟨own, run, ownNet⟩ := prepares.legsOf_pdc inside.1 inside.2
      rw [net _ (List.mem_cons_of_mem _ member) run, ownNet]
      exact zero tender inside.1 inside.2

end Vouchers

/-! ## The check before POSTED -/

variable {legs : List AccVoucher}

/-- A header is posted exactly when what its legs come to agrees. -/
theorem postHeaders_ok_iff {prepared : PreparedReceipt} {vouchers : List PlannedVoucher} :
    (∃ headers, postHeaders prepared legs vouchers = .ok headers) ↔
      ∀ voucher ∈ vouchers, (deriveVoucherTotals legs voucher.key).difference = 0 := by
  constructor
  · intro posted voucher member
    obtain ⟨headers, run⟩ := posted
    obtain ⟨header, -, here⟩ := forall₂_left (mapM_ok.mp run) member
    simp only [postHeader] at here
    split at here
    · cases here
    next equal => exact not_not.mp equal
  · intro agree
    apply mapM_succeeds
    intro voucher member
    simp only [postHeader]
    rw [if_neg (not_not.mpr (agree voucher member))]
    exact ⟨_, rfl⟩

theorem difference_of_balanced {key : VoucherKey}
    (balanced : legReading.Balanced (legs.filter fun leg => leg.voucherKey = key)) :
    (deriveVoucherTotals legs key).difference = 0 := by
  simp only [deriveVoucherTotals]
  rw [balanced, sub_self]

/-- The MDR of a tender row fits what the row brings in now: all of an instant tender,
nothing of a post-dated cheque. -/
def MdrFits (receiptDate : Date) (row : SaveReceiptTenderDto) : Prop :=
  money (row.tdMdrAmt.getD 0) ≤
    if isPostDated receiptDate row.tdTenderTypeId row.tdInstrumentDate then 0
    else money row.tdAmount

theorem NormalisesTenders.mdrFits_iff {receiptDate : Date} {rows : List SaveReceiptTenderDto}
    {tenders : List NormalisedTender} (normalises : NormalisesTenders receiptDate rows tenders) :
    (∀ tender ∈ tenders, tender.mdrAmt ≤ if tender.isPdc then 0 else tender.amount) ↔
      ∀ row ∈ rows, MdrFits receiptDate row := by
  have same {row : SaveReceiptTenderDto} {tender : NormalisedTender}
      (facts : NormalisesTender receiptDate row tender) :
      (tender.mdrAmt ≤ if tender.isPdc then 0 else tender.amount) ↔ MdrFits receiptDate row := by
    rw [facts.mdrAmt, facts.isPdc, facts.amount, MdrFits]
  constructor
  · intro fits row member
    obtain ⟨tender, tenderMem, facts⟩ := normalises.ofRow row member
    exact (same facts).mp (fits tender tenderMem)
  · intro fits tender member
    obtain ⟨row, rowMem, facts⟩ := normalises.ofTender tender member
    exact (same facts).mpr (fits row rowMem)

/-- Of a receipt the normalisations and the engine accepted, every voucher balances
and every header is posted exactly when the MDR of every tender row fits what that
row brings in now. -/
theorem receipt_vouchers_balance_iff {table : List AccBillBalance} {post : ReceiptPost}
    {prepared : PreparedReceipt} (run : prepareReceipt table post = .ok prepared) :
    ∃ vouchers legs, planVouchers post prepared = .ok vouchers ∧
      writeLegs post prepared vouchers = .ok legs ∧
      (((∀ voucher ∈ vouchers,
          legReading.Balanced (legs.filter fun leg => leg.voucherKey = voucher.key)) ∧
        ∃ headers, postHeaders prepared legs vouchers = .ok headers) ↔
      ∀ row ∈ post.tenders, MdrFits post.avhVoucherDate row) := by
  have prepares := prepareReceipt_ok run
  obtain ⟨legs, legsRun, written⟩ := prepares.writeLegs_ok
  refine ⟨_, legs, prepares.planVouchers_ok, legsRun, ?_⟩
  rw [← prepares.tenders.mdrFits_iff, ← prepares.balanced_iff written]
  constructor
  · intro balanced
    exact balanced.1
  · intro balanced
    refine ⟨balanced, postHeaders_ok_iff.mpr ?_⟩
    intro voucher member
    exact difference_of_balanced (balanced voucher member)

/-! ## A card and a cheque -/

/-- A bill of 100, all of it pending. -/
def billOfHundred : AccBillBalance where
  ablId := "b1"
  ablAccYear := "2026-2027"
  ablPartyId := "p1"
  ablCompanyId := "c1"
  ablBillType := .SALES
  ablDocRefno := "INV/1"
  ablBillAmount := 100
  ablSettled := ⟨0, 0, 0⟩
  ablSettledOn := none
  ablDrCr := .DR
  ablIsDeleted := false
  amountExact := by decide +kernel
  amountPositive := by decide +kernel
  settledFits := by constructor <;> decide +kernel

def cardMaster : AccTenderMaster where
  tndId := "card"
  tndName := "Card"
  tndCompanyId := "c1"
  tndBranchId := none
  tndTypeId := 2
  tndLedgerId := some "bank"
  tndSettlementLedgerId := some "clearing"
  tndSurchargePerc := 0
  tndSurchargeAmount := 0
  tndEditLedger := false
  tndEditSurcharge := false
  tndIsActive := true
  tndIsDeleted := false

def chequeMaster : AccTenderMaster :=
  { cardMaster with tndId := "cheque", tndName := "Cheque", tndTypeId := 5,
                    tndSettlementLedgerId := none }

def cardRow : SaveReceiptTenderDto where
  tdRowNo := 1
  tdTenderId := "card"
  tdTenderTypeId := 2
  tdTenderLedgerId := none
  tdAmount := 60
  tdReceivedAmt := none
  tdChangeAmt := none
  tdMdrAmt := some 1
  tdSurchargePerc := none
  tdSurchargeAmt := none
  tdRefNo := none
  tdBankName := none
  tdInstrumentDate := none

/-- A cheque dated thirty days after the receipt. -/
def chequeRow (mdrAmt : Option ℚ≥0) : SaveReceiptTenderDto :=
  { cardRow with
    tdRowNo := 2
    tdTenderId := "cheque"
    tdTenderTypeId := 5
    tdAmount := 40
    tdMdrAmt := mdrAmt
    tdRefNo := some "000123"
    tdBankName := some "KVB"
    tdInstrumentDate := some 130 }

/-- The bill of 100, paid by card and by a post-dated cheque. -/
def cardAndCheque (chequeMdr : Option ℚ≥0) : ReceiptPost where
  avhPartyId := "p1"
  avhCompanyId := "c1"
  avhBranchId := "br1"
  avhVoucherDate := 100
  tenders := [cardRow, chequeRow chequeMdr]
  draftLines := []
  dto := ⟨[⟨"b1", "2026-2027", 100, none, none, none, none⟩], [], [], 0⟩
  masters := [cardMaster, chequeMaster]
  ledgers := []
  party := ⟨false, false⟩
  tcsBasis := .RECEIPT
  writeoffApprovalAbove := 0
  cashLedgerId := none
  ledgerForRole role := some ⟨role, role⟩
  voucherRefno key := key

/-- What each voucher of a receipt comes to, debit and credit. -/
def voucherTotals (table : List AccBillBalance) (post : ReceiptPost) :
    Except ReceiptError (List (VoucherKey × Decimal × Decimal)) := do
  let prepared ← prepareReceipt table post
  let vouchers ← planVouchers post prepared
  let legs ← writeLegs post prepared vouchers
  .ok (vouchers.map fun voucher =>
    let own := legs.filter fun leg => leg.voucherKey = voucher.key
    (voucher.key, legReading.debits own, legReading.credits own))

/-- With the card's MDR alone every voucher balances and the receipt is posted. -/
theorem cardAndCheque_balances : ∃ prepared vouchers legs headers,
    prepareReceipt [billOfHundred] (cardAndCheque none) = .ok prepared ∧
      planVouchers (cardAndCheque none) prepared = .ok vouchers ∧
      writeLegs (cardAndCheque none) prepared vouchers = .ok legs ∧
      (∀ voucher ∈ vouchers,
        legReading.Balanced (legs.filter fun leg => leg.voucherKey = voucher.key)) ∧
      postHeaders prepared legs vouchers = .ok headers := by
  have accepted : (prepareReceipt [billOfHundred] (cardAndCheque none)).isOk = true := by
    decide +kernel
  cases run : prepareReceipt [billOfHundred] (cardAndCheque none) with
  | error problem =>
      rw [run] at accepted
      cases accepted
  | ok prepared =>
      obtain ⟨vouchers, legs, planned, written, iff⟩ := receipt_vouchers_balance_iff run
      have fits : ∀ row ∈ (cardAndCheque none).tenders,
          MdrFits (cardAndCheque none).avhVoucherDate row := by
        simp only [cardAndCheque, List.forall_mem_cons, MdrFits]
        constructor <;> decide +kernel
      obtain ⟨balanced, headers, posted⟩ := iff.mpr fits
      exact ⟨prepared, vouchers, legs, headers, rfl, planned, written, balanced, posted⟩

/-- One rupee of MDR on the post-dated cheque puts both vouchers out by one: the
cheque's own is written 39 against 40, and the receipt's 61 against 60, so that it
cannot be posted. -/
theorem chequeMdr_unbalanced :
    voucherTotals [billOfHundred] (cardAndCheque (some 1)) =
        .ok [("RECEIPT", 61, 60), ("PDC:2", 39, 40)] ∧
      ¬ ∀ (table : List AccBillBalance) (post : ReceiptPost) (prepared : PreparedReceipt)
        (vouchers : List PlannedVoucher) (legs : List AccVoucher),
        prepareReceipt table post = .ok prepared → planVouchers post prepared = .ok vouchers →
        writeLegs post prepared vouchers = .ok legs →
        (∀ voucher ∈ vouchers,
          legReading.Balanced (legs.filter fun leg => leg.voucherKey = voucher.key)) ∧
        ∃ headers, postHeaders prepared legs vouchers = .ok headers := by
  have totals : voucherTotals [billOfHundred] (cardAndCheque (some 1)) =
      .ok [("RECEIPT", 61, 60), ("PDC:2", 39, 40)] := by
    decide +kernel
  refine ⟨totals, ?_⟩
  intro always
  obtain ⟨prepared, preparedRun, totals⟩ := bind_eq_ok totals
  obtain ⟨vouchers, vouchersRun, totals⟩ := bind_eq_ok totals
  obtain ⟨legs, legsRun, totals⟩ := bind_eq_ok totals
  have balanced := (always _ _ _ _ _ preparedRun vouchersRun legsRun).1
  have isThere : ((("RECEIPT", 61, 60) : VoucherKey × Decimal × Decimal)) ∈
      vouchers.map fun voucher =>
        (voucher.key,
          legReading.debits (legs.filter fun leg => leg.voucherKey = voucher.key),
          legReading.credits (legs.filter fun leg => leg.voucherKey = voucher.key)) := by
    rw [Except.ok.inj totals]
    exact List.mem_cons_self
  obtain ⟨voucher, member, equal⟩ := List.mem_map.mp isThere
  have agree := balanced voucher member
  rw [Prod.mk.injEq, Prod.mk.injEq] at equal
  rw [Reading.Balanced, equal.2.1, equal.2.2] at agree
  norm_num at agree

end ErpServer.Receipt
