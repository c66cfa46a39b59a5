import ErpServer.Receipt.Reserve
import ErpServer.Receipt.Sources

/-!
# Conservation

What an allocation that returns has conserved: bill by bill, credit by credit,
cheque by cheque, deduction line by deduction line, and on account.
-/

namespace ErpServer.Receipt

open Lib Lib.Fold

/-! ## The run of the engine -/

/-- The pour of an input, given what the deductions reserved. -/
def pouredOf (input : AllocationInput) (reserved : Reserved) :
    Pour.Poured AllocationBill SourceOrigin Decimal :=
  Pour.pour reserved.capacity (buildSources input (sidesOf input))

/-- Everything a run that returned went through. -/
structure Allocates (input : AllocationInput) (result : AllocationResult) (reserved : Reserved)
    (reductions : List AllocationAdjustment) : Prop where
  billsNodup : (input.bills.map AllocationBill.ref).Nodup
  billsFit : ∀ bill ∈ input.bills, BillFits bill
  creditsNodup : (input.credits.map AllocationCredit.ref).Nodup
  balanced : Balanced input (sidesOf input)
  deductions : DeductionsReserved input (sidesOf input) reserved
  filled : ∀ room ∈ (pouredOf input reserved).targets, room.remaining = 0
  reductionsRun : addReductions input (sidesOf input) input.bills = .ok reductions
  adjustments : result.adjustments = reserved.rows ++
    (pouredOf input reserved).transfers.flatMap (settlementRows (sidesOf input)) ++ reductions
  holds : HoldsRemainder input (sidesOf input) (pouredOf input reserved).sources
    reserved.overflow result.onAccount
  onAccount : (result.onAccount.map AllocationOnAccount.amount).sum = input.claimedOnAccount
  partyCredit : result.partyCreditByVoucher =
    partyLegPerVoucher input (sidesOf input) result.adjustments result.onAccount

variable {sides : Sides} {input : AllocationInput}

theorem assertFilled_ok {capacity : List Room} (run : assertFilled sides capacity = .ok ()) :
    ∀ room ∈ capacity, room.remaining = 0 := by
  unfold assertFilled at run
  split at run
  next none =>
    intro room member
    obtain ⟨index, inBounds, rfl⟩ := List.mem_iff_getElem.mp member
    have entry : (capacity[index], index) ∈ capacity.zipIdx :=
      List.mem_zipIdx_iff_getElem?.mpr (List.getElem?_eq_getElem inBounds)
    simpa using List.find?_eq_none.mp none _ entry
  · cases run

theorem assertOnAccount_ok {total claimed : Decimal}
    (run : assertOnAccount sides total claimed = .ok ()) : total = money claimed := by
  unfold assertOnAccount at run
  split at run
  · cases run
  next equal => exact not_not.mp equal

theorem pouredOf_figures {reserved : Reserved} (exact : TwoPlaces input)
    (reserves : Reserves input (sidesOf input) reserved) :
    (∀ transfer ∈ (pouredOf input reserved).transfers, transfer.amount ∈ paise) ∧
      ∀ source ∈ (pouredOf input reserved).sources, Figure source.remaining := by
  have sources : ∀ source ∈ buildSources input (sidesOf input), Figure source.remaining :=
    buildSources_figures exact
  have members := Pour.pour_mem paise
    (fun room member => (reserves.figures room member).exact)
    fun source member => (sources source member).exact
  have nonneg := Pour.pour_sources_nonneg reserved.capacity
    fun source member => (sources source member).nonneg
  exact ⟨members.1, fun source member => ⟨members.2 source member, nonneg source member⟩⟩

theorem allocate_ok {result : AllocationResult} (exact : TwoPlaces input)
    (distinct : DistinctLines input) (run : allocate input = .ok result) :
    ∃ reserved reductions, Allocates input result reserved reductions := by
  obtain ⟨⟨⟩, billsRun, run⟩ := bind_eq_ok run
  obtain ⟨⟨⟩, creditsRun, run⟩ := bind_eq_ok run
  obtain ⟨⟨⟩, identityRun, run⟩ := bind_eq_ok run
  obtain ⟨reserved, reserveRun, run⟩ := bind_eq_ok run
  obtain ⟨⟨⟩, filledRun, run⟩ := bind_eq_ok run
  obtain ⟨reductions, reductionsRun, run⟩ := bind_eq_ok run
  obtain ⟨onAccount, collectRun, run⟩ := bind_eq_ok run
  obtain ⟨⟨⟩, onAccountRun, run⟩ := bind_eq_ok run
  obtain rfl := Except.ok.inj run
  have deductions := reserveDeductions_ok exact distinct reserveRun
  have holds := collectOnAccount_ok exact (pouredOf_figures exact deductions.reserves).2
    deductions.overflow collectRun
  refine ⟨reserved, reductions, (assertBillsFit_ok billsRun).1, (assertBillsFit_ok billsRun).2,
    (assertCreditsFit_ok creditsRun).1, assertIdentity_ok exact identityRun, deductions,
    assertFilled_ok filledRun, reductionsRun, rfl, holds, ?_, rfl⟩
  have sums := assertOnAccount_ok onAccountRun
  rw [exact.claimed.money, sum_of_mem] at sums
  · exact sums
  · intro value member
    obtain ⟨entry, entryMem, rfl⟩ := List.mem_map.mp member
    exact holds.exact entry entryMem

/-! ## Totals of all rows -/

section Totals

variable {input : AllocationInput} {result : AllocationResult} {reserved : Reserved}
  {reductions : List AllocationAdjustment}

/-- A transfer of the pour comes from a source of the input and goes to one of its
bills. -/
theorem Allocates.transfer (run : Allocates input result reserved reductions)
    {transfer : Pour.Transfer AllocationBill SourceOrigin Decimal}
    (member : transfer ∈ (pouredOf input reserved).transfers) :
    transfer.target ∈ input.bills ∧ 0 < transfer.amount ∧ IsOrigin input transfer.source := by
  obtain ⟨target, positive, source⟩ := Pour.pour_transfer member
  rw [run.deductions.reserves.holders] at target
  obtain ⟨origin, originMem, equal⟩ := List.mem_map.mp source
  rw [← equal]
  exact ⟨target, positive, buildSources_origin originMem⟩

/-- A total over the rows is its total over the three stages. -/
theorem Allocates.rowTotal_eq (run : Allocates input result reserved reductions)
    (weight : AllocationAdjustment → Decimal)
    (moveWeight : AllocationBill → SourceOrigin → Decimal)
    (each : ∀ bill ∈ input.bills, ∀ source, IsOrigin input source → ∀ amount,
      rowTotal weight (settlementRows (sidesOf input) ⟨bill, source, amount⟩) =
        moveWeight bill source * amount) :
    rowTotal weight result.adjustments =
      rowTotal weight reserved.rows + Pour.moved moveWeight (pouredOf input reserved).transfers +
        rowTotal weight reductions := by
  rw [run.adjustments, rowTotal_append, rowTotal_append, rowTotal_flatMap]
  intro transfer member
  obtain ⟨target, -, origin⟩ := run.transfer member
  exact each transfer.target target transfer.source origin transfer.amount

/-- A deduction row as every stage sees it. -/
structure DeductionRow (sides : Sides) (row : AllocationAdjustment) : Prop where
  side : row.drCr = sides.settle
  voucher : row.voucherKey = RECEIPT_VOUCHER_KEY
  against : row.againstBill = none
  exact : row.amount ∈ paise

variable {row : AllocationAdjustment} {sides : Sides}

theorem Allocates.deductionRow (run : Allocates input result reserved reductions)
    (member : row ∈ reserved.rows) : DeductionRow (sidesOf input) row := by
  obtain ⟨_, -, _, -, _, figure, rfl⟩ := run.deductions.reserves.rows row member
  exact ⟨rfl, rfl, rfl, figure.exact⟩

theorem Allocates.reductionRow (run : Allocates input result reserved reductions)
    (member : row ∈ reductions) :
    ReductionRow (sidesOf input) input.bills row := addReductions_spec run.reductionsRun row member

/-- Whose row of the plan this is: on the settle side a bill's of the input, on the
mirror side a credit's. -/
def IsOwned (input : AllocationInput) (row : AllocationAdjustment) : Prop :=
  (row.drCr = (sidesOf input).settle ∧ ∃ bill ∈ input.bills, row.ref = bill.ref) ∨
    (row.drCr = (sidesOf input).mirror ∧ ∃ credit ∈ input.credits, row.ref = credit.ref)

theorem isOwned_settlementRows {transfer : Pour.Transfer AllocationBill SourceOrigin Decimal}
    (target : transfer.target ∈ input.bills) (origin : IsOrigin input transfer.source)
    (member : row ∈ settlementRows (sidesOf input) transfer) :
    IsOwned input row ∧ row.amount = transfer.amount := by
  obtain ⟨bill, source, amount⟩ := transfer
  rw [settlementRows_eq _ _ _ origin, List.mem_cons] at member
  cases member with
  | inl settled =>
      rw [settled]
      exact ⟨Or.inl ⟨rfl, bill, target, rfl⟩, rfl⟩
  | inr mirrored =>
      cases origin with
      | credit credit creditMem =>
          rw [List.mem_singleton.mp mirrored]
          exact ⟨Or.inr ⟨rfl, credit, creditMem, rfl⟩, rfl⟩
      | money => cases mirrored
      | cheque => cases mirrored
      | postDated => cases mirrored

theorem Allocates.row_owned (run : Allocates input result reserved reductions)
    (exact : TwoPlaces input) (member : row ∈ result.adjustments) :
    IsOwned input row ∧ row.amount ∈ paise := by
  rw [run.adjustments, List.mem_append, List.mem_append] at member
  rcases member with (deduction | settled) | reduction
  · obtain ⟨bill, billMem, _, -, _, figure, equal⟩ :=
      run.deductions.reserves.rows row deduction
    rw [equal]
    exact ⟨Or.inl ⟨rfl, bill, billMem, rfl⟩, figure.exact⟩
  · obtain ⟨transfer, transferMem, written⟩ := List.mem_flatMap.mp settled
    have facts := run.transfer transferMem
    have owned := isOwned_settlementRows facts.1 facts.2.2 written
    rw [owned.2]
    exact ⟨owned.1, (pouredOf_figures exact run.deductions.reserves).1 transfer transferMem⟩
  · have spec := run.reductionRow reduction
    exact ⟨Or.inl ⟨spec.side, spec.bill⟩, spec.exact⟩

theorem Allocates.reductions_total (run : Allocates input result reserved reductions)
    (exact : TwoPlaces input) (weight : BillRef → Decimal) :
    rowTotal (fun row => weight row.ref) reductions =
      (input.bills.map fun bill => weight bill.ref * bill.reduction).sum :=
  addReductions_total run.reductionsRun exact.billDiscount exact.billWriteoff exact.billRoundoff weight

/-! ## Bill by bill -/

variable {bill : AllocationBill} {tender : AllocationTender}

/-- The rows on the settle side of a bill are everything it settles: its capacity
was filled to the brim by deductions and sources, and its reductions stand beside
them. -/
theorem Allocates.bill_rows (run : Allocates input result reserved reductions)
    (exact : TwoPlaces input) (member : bill ∈ input.bills) :
    amountWhere (fun row => row.drCr = (sidesOf input).settle && row.ref = bill.ref)
      result.adjustments = bill.amount + bill.discount + bill.writeoff + bill.roundoff := by
  let weight : BillRef → Decimal := fun ref => if ref = bill.ref then 1 else 0
  have onSettle {rows : List AllocationAdjustment}
      (side : ∀ row ∈ rows, row.drCr = (sidesOf input).settle) :
      rowTotal (fun row =>
        if (decide (row.drCr = (sidesOf input).settle) && decide (row.ref = bill.ref)) then
          (1 : Decimal) else 0) rows = rowTotal (fun row => weight row.ref) rows :=
    rowTotal_congr fun row rowMem => by simp [side row rowMem, weight]
  have only (amount : AllocationBill → Decimal) :
      (input.bills.map fun other => weight other.ref * amount other).sum = amount bill := by
    have key := ListSum.sum_key run.billsNodup amount member
    simpa [weight] using key
  rw [amountWhere_eq, run.rowTotal_eq _ fun target _ => weight target.ref]
  · rw [onSettle fun row rowMem => (run.deductionRow rowMem).side,
      onSettle fun row rowMem => (run.reductionRow rowMem).side,
      run.reductions_total exact, only]
    have conserved := run.deductions.reserves.conserved weight
    have demand := Pour.pour_demand (fun other : AllocationBill => weight other.ref)
      reserved.capacity (buildSources input (sidesOf input))
    have full := Pour.weighted_eq_zero (fun other : AllocationBill => weight other.ref) run.filled
    have start : Pour.weighted (fun other : AllocationBill => weight other.ref)
        (initialCapacity input.bills) = bill.amount := by
      rw [← only AllocationBill.amount, Pour.weighted, initialCapacity, List.map_map]
      refine congrArg List.sum (List.map_congr_left fun other otherMem => ?_)
      simp [(exact.billAmount other otherMem).money]
    rw [pouredOf] at full ⊢
    rw [AllocationBill.reduction]
    linarith
  · intro target _ source origin amount
    rw [settlementRows_eq _ _ _ origin]
    have mirrorSide := sidesOf_settle_ne_mirror input
    cases origin <;>
      simp [settleRow, mirrorRows, mirrorRow, creditOrigin, moneyOrigin, chequeOrigin,
        postDatedOrigin, mirrorSide, weight, AllocationAdjustment.ref, AllocationBill.ref]

/-! ## Credit by credit -/

/-- A source spends the credit of this reference. -/
def spends (ref : BillRef) (source : SourceOrigin) : Decimal :=
  if source.credit.map AllocationCredit.ref = some ref then 1 else 0

theorem Allocates.credit_rows (run : Allocates input result reserved reductions)
    (exact : TwoPlaces input) {credit : AllocationCredit} (member : credit ∈ input.credits) :
    amountWhere (fun row => row.drCr = (sidesOf input).mirror && row.ref = credit.ref)
      result.adjustments = credit.amount := by
  have mirrorSide := sidesOf_settle_ne_mirror input
  have offMirror {rows : List AllocationAdjustment}
      (side : ∀ row ∈ rows, row.drCr = (sidesOf input).settle) :
      rowTotal (fun row =>
        if (decide (row.drCr = (sidesOf input).mirror) && decide (row.ref = credit.ref)) then
          (1 : Decimal) else 0) rows = 0 :=
    rowTotal_eq_zero fun row rowMem => by simp [side row rowMem, mirrorSide.symm]
  rw [amountWhere_eq, run.rowTotal_eq _ fun _ source => spends credit.ref source]
  · have supply := Pour.pour_supply (spends credit.ref) reserved.capacity
      (buildSources input (sidesOf input))
    have spent : Pour.weighted (spends credit.ref) (pouredOf input reserved).sources = 0 := by
      refine List.sum_eq_zero fun value valueMem => ?_
      obtain ⟨source, sourceMem, rfl⟩ := List.mem_map.mp valueMem
      have held : source.holder ∈ (buildSources input (sidesOf input)).map Pour.Level.holder := by
        rw [← Pour.pour_sources_holders reserved.capacity]
        exact List.mem_map_of_mem sourceMem
      obtain ⟨start, startMem, equal⟩ := List.mem_map.mp held
      have origin := buildSources_origin startMem
      have dry := run.holds.creditsSpent source sourceMem
      rw [equal] at origin
      cases originEq : source.holder with
      | mk kind key date postDated mode row held =>
        rw [originEq] at origin dry
        cases origin with
        | credit other otherMem => rw [dry rfl, mul_zero]
        | money => simp [spends]
        | cheque tender tenderMem => simp [spends]
        | postDated tender tenderMem isPostDated => simp [spends]
    have sources : Pour.weighted (spends credit.ref) (buildSources input (sidesOf input)) =
        credit.amount := by
      rw [buildSources_weighted exact run.balanced (spends credit.ref) 0
        (by simp [spends, moneyOrigin]) (by simp [spends, chequeOrigin])]
      simpa [spends, creditOrigin, postDatedOrigin] using
        ListSum.sum_key run.creditsNodup AllocationCredit.amount member
    rw [pouredOf] at spent
    rw [offMirror fun row rowMem => (run.deductionRow rowMem).side,
      offMirror fun row rowMem => (run.reductionRow rowMem).side, pouredOf]
    linarith
  · intro target _ source origin amount
    rw [settlementRows_eq _ _ _ origin]
    cases origin <;>
      simp [settleRow, mirrorRows, mirrorRow, creditOrigin, moneyOrigin, chequeOrigin,
        postDatedOrigin, mirrorSide.symm, spends, AllocationAdjustment.ref, AllocationCredit.ref]

/-- Every mirror row stands behind its settle row, crosswise and for the same amount;
every other row settles from no bill. -/
inductive Paired (sides : Sides) : List AllocationAdjustment → Prop where
  | nil : Paired sides []
  | single {row : AllocationAdjustment} {rows : List AllocationAdjustment}
      (side : row.drCr = sides.settle) (against : row.againstBill = none)
      (rest : Paired sides rows) : Paired sides (row :: rows)
  | pair {settled mirrored : AllocationAdjustment} {rows : List AllocationAdjustment}
      (settledSide : settled.drCr = sides.settle) (mirroredSide : mirrored.drCr = sides.mirror)
      (amount : settled.amount = mirrored.amount)
      (settledAgainst : settled.againstBill = some mirrored.ref)
      (mirroredAgainst : mirrored.againstBill = some settled.ref)
      (rest : Paired sides rows) : Paired sides (settled :: mirrored :: rows)

theorem Paired.append {left right : List AllocationAdjustment} (leftPaired : Paired sides left)
    (rightPaired : Paired sides right) : Paired sides (left ++ right) := by
  induction leftPaired with
  | nil => exact rightPaired
  | single side against rest ih => exact .single side against ih
  | pair settledSide mirroredSide amount settledAgainst mirroredAgainst rest ih =>
      exact .pair settledSide mirroredSide amount settledAgainst mirroredAgainst ih

theorem paired_of_single {rows : List AllocationAdjustment}
    (each : ∀ row ∈ rows, row.drCr = sides.settle ∧ row.againstBill = none) :
    Paired sides rows := by
  induction rows with
  | nil => exact .nil
  | cons row rest ih =>
      simp only [List.forall_mem_cons] at each
      exact .single each.1.1 each.1.2 (ih each.2)

theorem paired_settlementRows {source : SourceOrigin} {amount : Decimal}
    (origin : IsOrigin input source) :
    Paired sides (settlementRows sides ⟨bill, source, amount⟩) := by
  rw [settlementRows_eq _ _ _ origin]
  cases origin with
  | credit credit member => exact .pair rfl rfl rfl rfl rfl .nil
  | money => exact .single rfl rfl .nil
  | cheque tender member => exact .single rfl rfl .nil
  | postDated tender member isPostDated => exact .single rfl rfl .nil

theorem paired_flatMap {transfers : List (Pour.Transfer AllocationBill SourceOrigin Decimal)}
    (origins : ∀ transfer ∈ transfers, IsOrigin input transfer.source) :
    Paired sides (transfers.flatMap (settlementRows sides)) := by
  induction transfers with
  | nil => exact .nil
  | cons transfer rest ih =>
      simp only [List.forall_mem_cons] at origins
      exact .append (paired_settlementRows origins.1) (ih origins.2)

theorem Allocates.paired (run : Allocates input result reserved reductions) :
    Paired (sidesOf input) result.adjustments := by
  rw [run.adjustments]
  refine .append (.append (paired_of_single fun row member => ?_)
    (paired_flatMap fun transfer member => (run.transfer member).2.2))
    (paired_of_single fun row member => ?_)
  · exact ⟨(run.deductionRow member).side, (run.deductionRow member).against⟩
  · exact ⟨(run.reductionRow member).side, (run.reductionRow member).against⟩

/-! ## Voucher by voucher -/

/-- What the rows of one voucher come to, mirror rows taken off. -/
def voucherTotal (sides : Sides) (key : VoucherKey) (rows : List AllocationAdjustment) : Decimal :=
  rowTotal (fun row => if row.voucherKey = key then (if row.drCr = sides.settle then 1 else -1)
    else 0) rows

/-- What is held on account on one voucher. -/
def onAccountOf (result : AllocationResult) (key : VoucherKey) : Decimal :=
  ((result.onAccount.filter fun entry => entry.voucherKey = key).map
    AllocationOnAccount.amount).sum

/-- What the instant money of an input leaves once the extras are paid. -/
def instantLeft (input : AllocationInput) : Decimal :=
  totalOfTenders input (fun tender => !tender.isPostDated) -
    totalOfLines input fun line => isExtra line (sidesOf input)

theorem Allocates.sources_receipt (run : Allocates input result reserved reductions)
    (exact : TwoPlaces input) :
    Pour.weighted (moneyOf RECEIPT_VOUCHER_KEY) (buildSources input (sidesOf input)) =
      instantLeft input := by
  rw [buildSources_weighted exact run.balanced _ 1 (by simp [moneyOf, moneyWeight, moneyOrigin])
    (by simp [moneyOf, moneyWeight, chequeOrigin])]
  simp [moneyOf, moneyWeight, creditOrigin, postDatedOrigin, pdcVoucherKey_ne_receipt, instantLeft]

theorem Allocates.sources_postDated (run : Allocates input result reserved reductions)
    (exact : TwoPlaces input) (distinct : DistinctTenders input) (member : tender ∈ input.tenders)
    (isPostDated : tender.isPostDated = true) :
    Pour.weighted (moneyOf (pdcVoucherKey tender.tenderRowNo))
      (buildSources input (sidesOf input)) = tender.amount := by
  have receiptNe := (pdcVoucherKey_ne_receipt tender.tenderRowNo).symm
  rw [buildSources_weighted exact run.balanced _ 0
    (by simp [moneyOf, moneyWeight, moneyOrigin, receiptNe])
    (by simp [moneyOf, moneyWeight, chequeOrigin, receiptNe])]
  have nodup : ((input.tenders.filter fun tender => tender.isPostDated).map
      AllocationTender.tenderRowNo).Nodup := distinct.sublist (List.filter_sublist.map _)
  have only := ListSum.sum_key nodup AllocationTender.amount
    (List.mem_filter.mpr ⟨member, isPostDated⟩)
  simpa [moneyOf, moneyWeight, creditOrigin, postDatedOrigin, pdcVoucherKey_inj] using only

/-- The rows and the remainder of a voucher come to the money its sources carried,
with the deductions, the reductions and the floating lines on the receipt's own. -/
theorem Allocates.voucher_total (run : Allocates input result reserved reductions)
    (exact : TwoPlaces input) (key : VoucherKey) :
    voucherTotal (sidesOf input) key result.adjustments + onAccountOf result key =
      Pour.weighted (moneyOf key) (buildSources input (sidesOf input)) +
        if RECEIPT_VOUCHER_KEY = key then
          totalOfLines input (fun line => isDeduction line (sidesOf input)) +
            totalOfLines input (fun line => isFloating line (sidesOf input)) +
            (input.bills.map AllocationBill.reduction).sum
        else 0 := by
  have held : onAccountOf result key = (result.onAccount.map fun entry =>
      if entry.voucherKey = key then entry.amount else 0).sum := by
    have filtered := ListSum.sum_ite_filter result.onAccount AllocationOnAccount.amount
      fun entry => decide (entry.voucherKey = key)
    simpa [onAccountOf] using filtered.symm
  have onReceipt {rows : List AllocationAdjustment}
      (each : ∀ row ∈ rows, row.drCr = (sidesOf input).settle ∧
        row.voucherKey = RECEIPT_VOUCHER_KEY) :
      voucherTotal (sidesOf input) key rows =
        if RECEIPT_VOUCHER_KEY = key then rowTotal (fun _ => 1) rows else 0 := by
    split
    next equal =>
      refine rowTotal_congr fun row member => ?_
      simp [(each row member).1, (each row member).2, equal]
    next different =>
      refine rowTotal_eq_zero fun row member => ?_
      simp [(each row member).2, different]
  have reductions := run.reductions_total exact fun _ => 1
  have supply := Pour.pour_supply (moneyOf key) reserved.capacity
    (buildSources input (sidesOf input))
  rw [held, run.holds.total_of, voucherTotal, run.rowTotal_eq _ fun _ source => moneyOf key source]
  · change voucherTotal (sidesOf input) key reserved.rows + _ +
      voucherTotal (sidesOf input) key _ + _ = _
    rw [onReceipt fun row member =>
        ⟨(run.deductionRow member).side, (run.deductionRow member).voucher⟩,
      onReceipt fun row member =>
        ⟨(run.reductionRow member).side, (run.reductionRow member).voucher⟩, ← supply, pouredOf]
    simp only [one_mul] at reductions
    rw [reductions, ← run.deductions.total]
    split <;> ring
  · intro target _ source origin amount
    rw [settlementRows_eq _ _ _ origin]
    have mirrorSide := sidesOf_settle_ne_mirror input
    by_cases same : source.voucherKey = key <;> cases origin <;>
      simp_all [settleRow, mirrorRows, mirrorRow, creditOrigin, moneyOrigin, chequeOrigin,
        postDatedOrigin, moneyOf, moneyWeight]

/-- On the voucher of a post-dated cheque every row settles, so the signed total is
the plain one. -/
theorem Allocates.voucherTotal_postDated (run : Allocates input result reserved reductions)
    (tenderRowNo : ℕ) :
    voucherTotal (sidesOf input) (pdcVoucherKey tenderRowNo) result.adjustments =
      amountWhere (fun row => row.voucherKey = pdcVoucherKey tenderRowNo) result.adjustments := by
  rw [amountWhere_eq]
  refine rowTotal_congr fun row member => ?_
  have receiptNe := (pdcVoucherKey_ne_receipt tenderRowNo).symm
  rw [run.adjustments] at member
  simp only [List.mem_append, List.mem_flatMap] at member
  rcases member with (deduction | ⟨transfer, transferMem, rowMem⟩) | reduction
  · simp [(run.deductionRow deduction).voucher, receiptNe]
  · obtain ⟨-, -, origin⟩ := run.transfer transferMem
    rw [settlementRows_eq _ _ _ origin, List.mem_cons] at rowMem
    rcases rowMem with rfl | mirrored
    · by_cases same : transfer.source.voucherKey = pdcVoucherKey tenderRowNo <;>
        simp [settleRow, same]
    · obtain ⟨credit, -, rfl⟩ := List.mem_map.mp mirrored
      simp [mirrorRow, receiptNe]
  · simp [(run.reductionRow reduction).voucher, receiptNe]

theorem Allocates.postDated_rows (run : Allocates input result reserved reductions)
    (exact : TwoPlaces input) (distinct : DistinctTenders input) (member : tender ∈ input.tenders)
    (isPostDated : tender.isPostDated = true) :
    amountWhere (fun row => row.voucherKey = pdcVoucherKey tender.tenderRowNo)
      result.adjustments + onAccountOf result (pdcVoucherKey tender.tenderRowNo) =
        tender.amount := by
  have receiptNe := (pdcVoucherKey_ne_receipt tender.tenderRowNo).symm
  rw [← run.voucherTotal_postDated, run.voucher_total exact,
    run.sources_postDated exact distinct member isPostDated, if_neg receiptNe, add_zero]

/-! ## Line by line -/

theorem Allocates.line_rows (run : Allocates input result reserved reductions) (lineNo : ℕ) :
    amountWhere (fun row => row.otherLineNo = some lineNo) result.adjustments =
      rowTotal (byLine fun other => if other = lineNo then 1 else 0) reserved.rows := by
  rw [amountWhere_eq, run.rowTotal_eq _ fun _ _ => 0]
  · have noReduction : rowTotal (fun row => if decide (row.otherLineNo = some lineNo) then
        (1 : Decimal) else 0) reductions = 0 :=
      rowTotal_eq_zero fun row member => by simp [(run.reductionRow member).line]
    have noTransfer : Pour.moved (fun (_ : AllocationBill) (_ : SourceOrigin) => (0 : Decimal))
        (pouredOf input reserved).transfers = 0 := by
      simp [Pour.moved]
    rw [noReduction, noTransfer, add_zero, add_zero]
    refine rowTotal_congr fun row member => ?_
    obtain ⟨_, -, line, -, _, -, rfl⟩ := run.deductions.reserves.rows row member
    by_cases same : line.lineNo = lineNo <;> simp [byLine, Receipt.deductionRow, same]
  · intro target _ source origin amount
    rw [settlementRows_eq _ _ _ origin]
    cases origin <;> simp [settleRow, mirrorRows, mirrorRow, creditOrigin, moneyOrigin,
      chequeOrigin, postDatedOrigin]

end Totals

/-! ## The conservation theorem -/

/-- Everything an allocation conserves. -/
structure Conserves (input : AllocationInput) (result : AllocationResult) : Prop where
  bills : ∀ bill ∈ input.bills,
    amountWhere (fun row => row.drCr = (sidesOf input).settle && row.ref = bill.ref)
        result.adjustments = bill.amount + bill.discount + bill.writeoff + bill.roundoff ∧
      bill.amount + bill.discount + bill.writeoff + bill.roundoff ≤ bill.pendingAmount
  credits : ∀ credit ∈ input.credits,
    amountWhere (fun row => row.drCr = (sidesOf input).mirror && row.ref = credit.ref)
      result.adjustments = credit.amount
  paired : Paired (sidesOf input) result.adjustments
  postDated : ∀ tender ∈ input.tenders, tender.isPostDated = true →
    amountWhere (fun row => row.voucherKey = pdcVoucherKey tender.tenderRowNo)
      result.adjustments + onAccountOf result (pdcVoucherKey tender.tenderRowNo) = tender.amount
  lines : ∀ line ∈ input.otherLines, isDeduction line (sidesOf input) = true →
    amountWhere (fun row => row.otherLineNo = some line.lineNo) result.adjustments ≤
        line.amount ∧
      (line.lineNo ∈ input.pins.map AllocationPin.lineNo →
        amountWhere (fun row => row.otherLineNo = some line.lineNo) result.adjustments =
          line.amount)
  onAccount : (result.onAccount.map AllocationOnAccount.amount).sum = input.claimedOnAccount
  onAccountKeys : (result.onAccount.map AllocationOnAccount.voucherKey).Nodup
  onAccountPos : ∀ entry ∈ result.onAccount, 0 < entry.amount

/-- An allocation of exact figures that returns conserves every bill, credit, cheque
and deduction line. -/
theorem allocate_conserves {input : AllocationInput} {result : AllocationResult}
    (exact : TwoPlaces input) (tenders : DistinctTenders input) (lines : DistinctLines input)
    (run : allocate input = .ok result) : Conserves input result := by
  obtain ⟨reserved, reductions, run⟩ := allocate_ok exact lines run
  refine ⟨fun bill member => ⟨run.bill_rows exact member, ?_⟩,
    fun credit member => run.credit_rows exact member, run.paired,
    fun tender member isPostDated => run.postDated_rows exact tenders member isPostDated,
    fun line member deduction => ?_, run.onAccount, run.holds.nodup, run.holds.positive⟩
  · have pending := (run.billsFit bill member).pending
    rwa [AllocationBill.settled, (exact.billAmount bill member).money,
      (exact.billPending bill member).money] at pending
  · have spec := run.deductions.line line (List.mem_filter.mpr ⟨member, deduction⟩)
    rw [run.line_rows]
    exact ⟨spec.1, fun pinned => spec.2 ((isPinned_iff line).mpr pinned)⟩

/-- Two bills, a credit, a pinned and an unpinned deduction, an extra, a floating
line, cash, a current cheque and a post-dated one. -/
def mixedReceipt : AllocationInput where
  receiptDate := 100
  bills :=
    [⟨"b1", "2026-2027", "INV-1", 100, 5, 0, 0, 200, none⟩,
      ⟨"b2", "2026-2027", "INV-2", 101 / 2, 0, 1, 1 / 4, 60, some "u1"⟩]
  credits := [⟨"c1", "2026-2027", "ADV-1", 30, 40, .ADVANCE_ADJUST, .ADVANCE⟩]
  otherLines :=
    [⟨1, .DR, 10, true, .TDS, false, none⟩, ⟨2, .DR, 20, true, .CLAIM, false, none⟩,
      ⟨3, .CR, 5, false, .JOURNAL, false, none⟩, ⟨4, .DR, 1, false, .JOURNAL, false, none⟩]
  tenders :=
    [⟨1, 60, false, false, none⟩, ⟨2, 20, true, false, some 100⟩, ⟨3, 20, true, true, some 130⟩]
  pins := [⟨1, "b1", "2026-2027", 10⟩]
  claimedOnAccount := 11 / 2
  direction := none

theorem mixedReceipt_exact : TwoPlaces mixedReceipt := by
  constructor <;> decide +kernel

theorem mixedReceipt_conserves :
    ∃ result, allocate mixedReceipt = .ok result ∧ Conserves mixedReceipt result := by
  have returns : (allocate mixedReceipt).isOk = true := by decide +kernel
  cases run : allocate mixedReceipt with
  | error problem =>
      rw [run] at returns
      cases returns
  | ok result =>
      exact ⟨result, rfl, allocate_conserves mixedReceipt_exact (by unfold DistinctTenders; decide)
        (by unfold DistinctLines; decide) run⟩

end ErpServer.Receipt

