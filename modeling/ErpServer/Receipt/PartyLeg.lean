import ErpServer.Receipt.Conservation

/-!
# The party leg

The engine derives the party leg of each voucher from the rows it happened to
emit; the ledger legs are written from the money.  The two agree voucher by
voucher, and no credit appears in either.
-/

namespace ErpServer.Receipt

open Lib

theorem get?_ensureKey (totals : OrderedMap VoucherKey Decimal) (key query : VoucherKey) :
    (ensureKey totals key).get? query =
      if query = key then some ((totals.get? key).getD 0) else totals.get? query := by
  unfold ensureKey
  cases found : totals.get? key with
  | none => simp [OrderedMap.has, found, OrderedMap.get?_set]
  | some value =>
      by_cases equal : query = key
      · simp [OrderedMap.has, equal, found]
      · simp [OrderedMap.has, equal, found]

/-- Ensuring keys gives the missing ones a zero. -/
theorem get?_ensureKeys (keys : List VoucherKey) (totals : OrderedMap VoucherKey Decimal)
    (query : VoucherKey) :
    (keys.foldl ensureKey totals).get? query =
      if query ∈ keys then some ((totals.get? query).getD 0) else totals.get? query := by
  induction keys generalizing totals with
  | nil => simp
  | cons key rest ih =>
      rw [List.foldl_cons, ih, get?_ensureKey]
      by_cases equal : query = key
      · subst equal
        simp
      · simp [equal]

section PartyLeg

variable {input : AllocationInput} {result : AllocationResult} {reserved : Reserved}
  {reductions : List AllocationAdjustment}

theorem totalOf_partyPostings (result : AllocationResult) (sides : Sides) (key : VoucherKey) :
    OrderedMap.totalOf key (partyPostings sides result.adjustments result.onAccount) =
      voucherTotal sides key result.adjustments + onAccountOf result key := by
  have rows : OrderedMap.totalOf key (result.adjustments.map fun row =>
      (row.voucherKey, row.signed sides)) = voucherTotal sides key result.adjustments := by
    induction result.adjustments with
    | nil => rfl
    | cons row rest ih =>
        rw [List.map_cons, OrderedMap.totalOf_cons, ih]
        simp only [voucherTotal, rowTotal_cons, AllocationAdjustment.signed]
        by_cases same : row.voucherKey = key <;> by_cases side : row.drCr = sides.settle <;>
          simp [same, side]
  have held : OrderedMap.totalOf key (result.onAccount.map fun entry =>
      (entry.voucherKey, entry.amount)) = onAccountOf result key := by
    simp [OrderedMap.totalOf, onAccountOf, List.filter_map, Function.comp_def]
  rw [partyPostings, OrderedMap.totalOf_append, rows, held]

/-- The vouchers a receipt has: its own, and one for each post-dated cheque. -/
def IsVoucherOf (input : AllocationInput) (key : VoucherKey) : Prop :=
  key = RECEIPT_VOUCHER_KEY ∨ ∃ tender ∈ input.tenders, tender.isPostDated = true ∧
    key = pdcVoucherKey tender.tenderRowNo

theorem IsOrigin.isVoucher {source : SourceOrigin} (origin : IsOrigin input source) :
    IsVoucherOf input source.voucherKey := by
  cases origin with
  | credit credit member => exact Or.inl rfl
  | money => exact Or.inl rfl
  | cheque tender member => exact Or.inl rfl
  | postDated tender member isPostDated => exact Or.inr ⟨tender, member, isPostDated, rfl⟩

theorem Allocates.row_isVoucher (run : Allocates input result reserved reductions)
    {row : AllocationAdjustment} (member : row ∈ result.adjustments) :
    IsVoucherOf input row.voucherKey := by
  rw [run.adjustments] at member
  simp only [List.mem_append, List.mem_flatMap] at member
  rcases member with (deduction | ⟨transfer, transferMem, rowMem⟩) | reduction
  · exact Or.inl (run.deductionRow deduction).voucher
  · obtain ⟨-, -, origin⟩ := run.transfer transferMem
    rw [settlementRows_eq _ _ _ origin, List.mem_cons] at rowMem
    rcases rowMem with rfl | mirrored
    · exact origin.isVoucher
    · obtain ⟨credit, -, rfl⟩ := List.mem_map.mp mirrored
      exact Or.inl rfl
  · exact Or.inl (run.reductionRow reduction).voucher

/-- Something is held only on a voucher some source or the receipt itself has. -/
theorem Allocates.held_isVoucher (run : Allocates input result reserved reductions)
    {entry : AllocationOnAccount} (member : entry ∈ result.onAccount) :
    IsVoucherOf input entry.voucherKey := by
  by_contra none
  have notReceipt : RECEIPT_VOUCHER_KEY ≠ entry.voucherKey := fun equal =>
    none (Or.inl equal.symm)
  have total := run.holds.total_of entry.voucherKey
  have own := ListSum.sum_key run.holds.nodup AllocationOnAccount.amount member
  have noSource : Pour.weighted (moneyOf entry.voucherKey) (pouredOf input reserved).sources =
      0 := by
    refine List.sum_eq_zero fun value valueMem => ?_
    obtain ⟨source, sourceMem, rfl⟩ := List.mem_map.mp valueMem
    have held : source.holder ∈ (buildSources input (sidesOf input)).map Pour.Level.holder := by
      rw [← Pour.pour_sources_holders reserved.capacity]
      exact List.mem_map_of_mem sourceMem
    obtain ⟨start, startMem, equal⟩ := List.mem_map.mp held
    have voucher := (buildSources_origin startMem).isVoucher
    rw [equal] at voucher
    have different : source.holder.voucherKey ≠ entry.voucherKey := fun same => none (same ▸ voucher)
    simp [moneyOf, moneyWeight, different]
  rw [own, noSource, if_neg notReceipt, add_zero] at total
  exact (run.holds.positive entry member).ne' total

/-- The amounts of a run are exact, so rounding the party leg changes nothing. -/
theorem Allocates.postings_exact (run : Allocates input result reserved reductions)
    (exact : TwoPlaces input) (key : VoucherKey) :
    voucherTotal (sidesOf input) key result.adjustments + onAccountOf result key ∈ paise := by
  have rowExact : ∀ row ∈ result.adjustments, row.amount ∈ paise := by
    intro row member
    rw [run.adjustments] at member
    simp only [List.mem_append, List.mem_flatMap] at member
    rcases member with (deduction | ⟨transfer, transferMem, rowMem⟩) | reduction
    · exact (run.deductionRow deduction).exact
    · have amount := (pouredOf_figures exact run.deductions.reserves).1 transfer transferMem
      rw [settlementRows_eq _ _ _ (run.transfer transferMem).2.2, List.mem_cons] at rowMem
      rcases rowMem with rfl | mirrored
      · exact amount
      · obtain ⟨credit, -, rfl⟩ := List.mem_map.mp mirrored
        exact amount
    · exact (run.reductionRow reduction).exact
  refine add_mem (list_sum_mem fun value member => ?_) (list_sum_mem fun value member => ?_)
  · obtain ⟨row, rowMem, rfl⟩ := List.mem_map.mp member
    by_cases same : row.voucherKey = key <;> by_cases side : row.drCr = (sidesOf input).settle
    · simpa [same, side] using rowExact row rowMem
    · simpa [same, side] using rowExact row rowMem
    · simp [same]
    · simp [same]
  · obtain ⟨entry, entryMem, rfl⟩ := List.mem_map.mp member
    exact run.holds.exact entry (List.mem_of_mem_filter entryMem)

/-- The party leg of each voucher, and of no other key. -/
theorem Allocates.partyCredit_get? (run : Allocates input result reserved reductions)
    (exact : TwoPlaces input) (key : VoucherKey) :
    (IsVoucherOf input key → result.partyCreditByVoucher.get? key =
      some (voucherTotal (sidesOf input) key result.adjustments + onAccountOf result key)) ∧
    (¬ IsVoucherOf input key → result.partyCreditByVoucher.get? key = none) := by
  have keys : key ∈ RECEIPT_VOUCHER_KEY :: (input.tenders.filter fun tender =>
      tender.isPostDated).map (fun tender => pdcVoucherKey tender.tenderRowNo) ↔
        IsVoucherOf input key := by
    simp only [List.mem_cons, List.mem_map, List.mem_filter, IsVoucherOf, and_assoc]
    exact or_congr_right ⟨fun ⟨tender, member, isPostDated, equal⟩ =>
      ⟨tender, member, isPostDated, equal.symm⟩, fun ⟨tender, member, isPostDated, equal⟩ =>
      ⟨tender, member, isPostDated, equal.symm⟩⟩
  have posted : key ∈ (partyPostings (sidesOf input) result.adjustments
      result.onAccount).map Prod.fst → IsVoucherOf input key := by
    simp only [partyPostings, List.map_append, List.map_map, List.mem_append, List.mem_map,
      Function.comp_apply]
    rintro (⟨row, member, rfl⟩ | ⟨entry, member, rfl⟩)
    · exact run.row_isVoucher member
    · exact run.held_isVoucher member
  have value := totalOf_partyPostings result (sidesOf input) key
  rw [run.partyCredit]
  simp only [partyLegPerVoucher, OrderedMap.get?_mapValues, get?_ensureKeys,
    OrderedMap.get?_accumulate]
  constructor
  · intro isVoucher
    rw [if_pos (keys.mpr isVoucher), Option.map_some, Option.some.injEq, ← value]
    split
    · rw [OrderedMap.get?_empty, Option.getD_none, zero_add, Option.getD_some]
      exact money_of_mem (value ▸ run.postings_exact exact key)
    next absent =>
      have nothing : OrderedMap.totalOf key (partyPostings (sidesOf input) result.adjustments
          result.onAccount) = 0 := by
        have filtered : (partyPostings (sidesOf input) result.adjustments
            result.onAccount).filter (fun posting => posting.1 = key) = [] := by
          refine List.filter_eq_nil_iff.mpr fun posting member same => ?_
          exact absent (Or.inr (of_decide_eq_true same ▸ List.mem_map_of_mem member))
        simp [OrderedMap.totalOf, filtered]
      simp [nothing]
  · intro noVoucher
    rw [if_neg (mt keys.mp noVoucher), if_neg]
    · rfl
    · rintro (present | postedHere)
      · simp at present
      · exact noVoucher (posted postedHere)

/-- The ledger side of the receipt's own party leg: the money that arrived, less the
extras, with every deduction-side line that is no split and every reduction. -/
def moneySideLeg (input : AllocationInput) : Decimal :=
  totalOfTenders input (fun tender => !tender.isPostDated) -
    totalOfLines input (fun line => isExtra line (sidesOf input)) +
    totalOfLines input (fun line =>
      line.drCr = (sidesOf input).deduction && !line.isInstrumentSplit) +
    (input.bills.map fun bill => bill.discount + bill.writeoff + bill.roundoff).sum

theorem Allocates.partyCredit_receipt (run : Allocates input result reserved reductions)
    (exact : TwoPlaces input) :
    result.partyCreditByVoucher.get? RECEIPT_VOUCHER_KEY = some (moneySideLeg input) := by
  rw [(run.partyCredit_get? exact _).1 (Or.inl rfl), run.voucher_total exact,
    run.sources_receipt exact, if_pos rfl, moneySideLeg, totalOfLines_deductions, instantLeft]
  exact congrArg some (add_assoc _ _ _).symm

theorem Allocates.partyCredit_postDated (run : Allocates input result reserved reductions)
    (exact : TwoPlaces input) (distinct : DistinctTenders input) {tender : AllocationTender}
    (member : tender ∈ input.tenders) (isPostDated : tender.isPostDated = true) :
    result.partyCreditByVoucher.get? (pdcVoucherKey tender.tenderRowNo) = some tender.amount := by
  rw [(run.partyCredit_get? exact _).1 (Or.inr ⟨tender, member, isPostDated, rfl⟩),
    run.voucher_total exact, run.sources_postDated exact distinct member isPostDated,
    if_neg (pdcVoucherKey_ne_receipt _).symm, add_zero]

end PartyLeg

/-- The party leg the engine derives from the bills is the one the money asks for, on
the receipt's own voucher and on each cheque's, and there is no other leg. -/
theorem partyCredit_eq_moneySide {input : AllocationInput} {result : AllocationResult}
    (exact : TwoPlaces input) (tenders : DistinctTenders input) (lines : DistinctLines input)
    (run : allocate input = .ok result) :
    result.partyCreditByVoucher.get? RECEIPT_VOUCHER_KEY = some (moneySideLeg input) ∧
      (∀ tender ∈ input.tenders, tender.isPostDated = true →
        result.partyCreditByVoucher.get? (pdcVoucherKey tender.tenderRowNo) =
          some tender.amount) ∧
      ∀ key ∈ result.partyCreditByVoucher.keys, key = RECEIPT_VOUCHER_KEY ∨
        ∃ tender ∈ input.tenders, tender.isPostDated = true ∧
          key = pdcVoucherKey tender.tenderRowNo := by
  obtain ⟨reserved, reductions, run⟩ := allocate_ok exact lines run
  refine ⟨run.partyCredit_receipt exact, fun tender member isPostDated =>
    run.partyCredit_postDated exact tenders member isPostDated, fun key member => ?_⟩
  by_contra noVoucher
  obtain ⟨value, found⟩ := (OrderedMap.mem_keys_iff _ _).mp member
  rw [(run.partyCredit_get? exact key).2 noVoucher] at found
  cases found

/-- The mixed receipt: 80 of instant money less 5 of extras, 31 of deductions and
6.25 of reductions, and its cheque on a voucher of its own. -/
theorem mixedReceipt_partyCredit : ∃ result, allocate mixedReceipt = .ok result ∧
    result.partyCreditByVoucher.get? RECEIPT_VOUCHER_KEY = some (449 / 4) ∧
    result.partyCreditByVoucher.get? (pdcVoucherKey 3) = some 20 := by
  have returns : (allocate mixedReceipt).isOk = true := by decide +kernel
  cases run : allocate mixedReceipt with
  | error problem =>
      rw [run] at returns
      cases returns
  | ok result =>
      have legs := partyCredit_eq_moneySide mixedReceipt_exact
        (by unfold DistinctTenders; decide) (by unfold DistinctLines; decide) run
      have receipt : moneySideLeg mixedReceipt = 449 / 4 := by decide +kernel
      exact ⟨result, rfl, receipt ▸ legs.1,
        legs.2.1 ⟨3, 20, true, true, some 130⟩ (by decide +kernel) rfl⟩

/-! ## The order of the tenders

The engine sorts the tenders before it reads them one by one, and reads them in their own
order only to add them up and to give each voucher its key.  Row numbers that no two tenders
share make the sorted tenders the same whatever order they came in, so the order leaves no
trace. -/

/-! ## Sorting by a key of its own -/

/-- Sorting forgets the order of items whose keys tell them apart. -/
theorem insertionSort_perm_eq {α β : Type*} [LinearOrder β] (key : α → β) {left right : List α}
    (same : left.Perm right) (apart : ∀ a ∈ left, ∀ b ∈ left, key a = key b → a = b) :
    left.insertionSort (fun a b => key a ≤ key b) =
      right.insertionSort (fun a b => key a ≤ key b) := by
  have total : Std.Total fun a b : α => key a ≤ key b := ⟨fun a b => le_total _ _⟩
  have trans : IsTrans α fun a b => key a ≤ key b := ⟨fun _ _ _ first second => first.trans second⟩
  have sorted : (left.insertionSort fun a b => key a ≤ key b).Perm
      (right.insertionSort fun a b => key a ≤ key b) :=
    ((List.perm_insertionSort _ left).trans same).trans (List.perm_insertionSort _ right).symm
  have tied : ∀ a b, a ∈ left.insertionSort (fun a b => key a ≤ key b) →
      b ∈ right.insertionSort (fun a b => key a ≤ key b) → key a ≤ key b → key b ≤ key a →
        a = b := by
    intro a b aLeft bRight below above
    apply apart a ((List.mem_insertionSort _).mp aLeft) b
    · exact same.mem_iff.mpr ((List.mem_insertionSort _).mp bRight)
    · exact le_antisymm below above
  exact sorted.eq_of_pairwise tied (List.pairwise_insertionSort _ _)
    (List.pairwise_insertionSort _ _)

section Order

variable {input : AllocationInput} {tenders : List AllocationTender}

/-- The same input, its tenders in another order. -/
def reordered (input : AllocationInput) (tenders : List AllocationTender) : AllocationInput :=
  { input with tenders := tenders }

theorem sumOfTenders_reordered (same : input.tenders.Perm tenders)
    (kind : AllocationTender → Bool) :
    sumOfTenders (reordered input tenders) kind = sumOfTenders input kind := by
  have rows := (same.filter kind).map fun tender => money tender.amount
  simp only [sumOfTenders, sum]
  exact congrArg money rows.sum_eq.symm

theorem assertIdentity_reordered (same : input.tenders.Perm tenders) (sides : Sides) :
    assertIdentity (reordered input tenders) sides = assertIdentity input sides := by
  have sums := sumOfTenders_reordered same
  simp only [assertIdentity, sums]
  rfl

theorem chequeSources_reordered (extras : Decimal) (cheques : List AllocationTender) :
    chequeSources (reordered input tenders) extras cheques =
      chequeSources input extras cheques := by
  induction cheques generalizing extras with
  | nil => rfl
  | cons cheque rest ih =>
      rw [chequeSources, chequeSources, ih]
      rfl

theorem addReductions_reordered (sides : Sides) (bills : List AllocationBill) :
    addReductions (reordered input tenders) sides bills = addReductions input sides bills := by
  induction bills with
  | nil => rfl
  | cons bill rest ih =>
      rw [addReductions, addReductions, ih]
      rfl

/-- The party legs of a run are those of the rows and entries it returned. -/
theorem allocate_partyCredit {result : AllocationResult} (run : allocate input = .ok result) :
    result.partyCreditByVoucher =
      partyLegPerVoucher input (sidesOf input) result.adjustments result.onAccount := by
  obtain ⟨_, _, afterBills⟩ := Fold.bind_eq_ok run
  obtain ⟨_, _, afterCredits⟩ := Fold.bind_eq_ok afterBills
  obtain ⟨_, _, afterIdentity⟩ := Fold.bind_eq_ok afterCredits
  obtain ⟨_, _, afterReserve⟩ := Fold.bind_eq_ok afterIdentity
  obtain ⟨_, _, afterPour⟩ := Fold.bind_eq_ok afterReserve
  obtain ⟨_, _, afterReductions⟩ := Fold.bind_eq_ok afterPour
  obtain ⟨_, _, afterHeld⟩ := Fold.bind_eq_ok afterReductions
  obtain ⟨_, _, returned⟩ := Fold.bind_eq_ok afterHeld
  rw [← Except.ok.inj returned]

/-- Every voucher has the key it had, and the posting it had. -/
theorem partyLegPerVoucher_reordered (same : input.tenders.Perm tenders) (sides : Sides)
    (adjustments : List AllocationAdjustment) (onAccount : List AllocationOnAccount)
    (key : VoucherKey) :
    (partyLegPerVoucher (reordered input tenders) sides adjustments onAccount).get? key =
      (partyLegPerVoucher input sides adjustments onAccount).get? key := by
  have keys := ((same.filter fun tender => tender.isPostDated).map fun tender =>
    pdcVoucherKey tender.tenderRowNo).cons RECEIPT_VOUCHER_KEY
  simp only [partyLegPerVoucher, OrderedMap.get?_mapValues, get?_ensureKeys]
  exact congrArg (Option.map money) (if_congr keys.symm.mem_iff rfl rfl)

section Rows

variable (same : input.tenders.Perm tenders)
variable (distinct : (input.tenders.map AllocationTender.tenderRowNo).Nodup)

include same distinct

theorem instantTenders_reordered :
    instantTenders (reordered input tenders) = instantTenders input := by
  symm
  apply insertionSort_perm_eq AllocationTender.tenderRowNo
    (same.filter fun tender => !tender.isPostDated)
  intro a aMem b bMem row
  exact List.inj_on_of_nodup_map distinct (List.mem_filter.mp aMem).1 (List.mem_filter.mp bMem).1
    row

theorem postDatedTenders_reordered :
    postDatedTenders (reordered input tenders) = postDatedTenders input := by
  symm
  apply insertionSort_perm_eq AllocationTender.maturity
    (same.filter fun tender => tender.isPostDated)
  intro a aMem b bMem maturity
  exact List.inj_on_of_nodup_map distinct (List.mem_filter.mp aMem).1 (List.mem_filter.mp bMem).1
    (congrArg (fun key => (ofLex key).2) maturity)

theorem buildSources_reordered (sides : Sides) :
    buildSources (reordered input tenders) sides = buildSources input sides := by
  have instant := instantTenders_reordered same distinct
  have postDated := postDatedTenders_reordered same distinct
  simp only [buildSources, instant, postDated, chequeSources_reordered]
  rfl

/-- The engine returns what it returned but for the order of the vouchers' keys, or throws what
it threw. -/
theorem allocate_reordered :
    allocate (reordered input tenders) = (allocate input).map fun result =>
      { result with
        partyCreditByVoucher := partyLegPerVoucher (reordered input tenders) (sidesOf input)
          result.adjustments result.onAccount } := by
  have sources := buildSources_reordered same distinct (sidesOf input)
  have identity := assertIdentity_reordered same (sidesOf input)
  have sides : sidesOf (reordered input tenders) = sidesOf input := rfl
  have bills : (reordered input tenders).bills = input.bills := rfl
  have credits : (reordered input tenders).credits = input.credits := rfl
  have claimed : (reordered input tenders).claimedOnAccount = input.claimedOnAccount := rfl
  have reserve (capacity : List Room) : reserveDeductions (reordered input tenders)
      (sidesOf input) capacity = reserveDeductions input (sidesOf input) capacity := rfl
  have hold (left : List Source) (overflow : Decimal) : collectOnAccount (reordered input tenders)
      (sidesOf input) left overflow = collectOnAccount input (sidesOf input) left overflow := rfl
  simp only [allocate, sides, bills, credits, claimed, sources, identity, reserve, hold,
    addReductions_reordered]
  cases assertBillsFit input.bills (sidesOf input) with
  | error problem => rfl
  | ok _ =>
  cases assertCreditsFit input.credits (sidesOf input) with
  | error problem => rfl
  | ok _ =>
  cases assertIdentity input (sidesOf input) with
  | error problem => rfl
  | ok _ =>
  cases reserveDeductions input (sidesOf input) (initialCapacity input.bills) with
  | error problem => rfl
  | ok reserved =>
      simp only [bind, Except.bind]
      generalize Pour.pour reserved.capacity (buildSources input (sidesOf input)) = poured
      cases assertFilled (sidesOf input) poured.targets with
      | error problem => rfl
      | ok _ =>
      cases addReductions input (sidesOf input) input.bills with
      | error problem => rfl
      | ok reductions =>
      cases collectOnAccount input (sidesOf input) poured.sources reserved.overflow with
      | error problem => rfl
      | ok onAccount =>
          simp only
          cases assertOnAccount (sidesOf input)
              (sum (onAccount.map AllocationOnAccount.amount)) input.claimedOnAccount with
          | error problem => rfl
          | ok _ => rfl

end Rows

/-- The same rows in the same order, the same entries on account and the same totals. -/
structure SameAllocation (left right : AllocationResult) : Prop where
  adjustments : left.adjustments = right.adjustments
  onAccount : left.onAccount = right.onAccount
  totalOnAccount : left.totalOnAccount = right.totalOnAccount
  adjustAmount : left.adjustAmountByVoucher = right.adjustAmountByVoucher
  partyCredit : ∀ key, left.partyCreditByVoucher.get? key = right.partyCreditByVoucher.get? key
  partyLegSide : left.partyLegSide = right.partyLegSide

/-- Tenders in another order are refused with the same words, or allocated the same. -/
theorem allocate_order_irrelevant (same : input.tenders.Perm tenders)
    (distinct : (input.tenders.map AllocationTender.tenderRowNo).Nodup) :
    (∃ problem, allocate input = .error problem ∧
        allocate (reordered input tenders) = .error problem) ∨
      ∃ left right, allocate input = .ok left ∧ allocate (reordered input tenders) = .ok right ∧
        SameAllocation left right := by
  have reorders := allocate_reordered same distinct
  cases run : allocate input with
  | error problem =>
      rw [run] at reorders
      exact Or.inl ⟨problem, rfl, reorders⟩
  | ok left =>
      rw [run] at reorders
      have party : left.partyCreditByVoucher =
          partyLegPerVoucher input (sidesOf input) left.adjustments left.onAccount :=
        allocate_partyCredit run
      refine Or.inr ⟨left, _, rfl, reorders, rfl, rfl, rfl, rfl, ?_, rfl⟩
      intro key
      rw [party]
      exact (partyLegPerVoucher_reordered same (sidesOf input) left.adjustments left.onAccount
        key).symm

end Order

/-- The mixed receipt with its tenders from last to first. -/
theorem mixedReceipt_reversed :
    ∃ left right, allocate mixedReceipt = .ok left ∧
      allocate (reordered mixedReceipt mixedReceipt.tenders.reverse) = .ok right ∧
        SameAllocation left right := by
  have returns : (allocate mixedReceipt).isOk = true := by decide +kernel
  cases allocate_order_irrelevant (List.reverse_perm mixedReceipt.tenders).symm
      (by decide : (mixedReceipt.tenders.map AllocationTender.tenderRowNo).Nodup) with
  | inl refused =>
      obtain ⟨problem, run, -⟩ := refused
      rw [run] at returns
      cases returns
  | inr allocated => exact allocated

end ErpServer.Receipt
