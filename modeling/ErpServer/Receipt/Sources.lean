import ErpServer.Receipt.Rows

/-!
# The sources and what is left of them

Where a source can come from, what the sources of each kind carry, what rows a
source leaves on a bill, and what becomes of the part no bill took.
-/

namespace ErpServer.Receipt

open Lib Lib.Fold

/-- The four places value comes from. -/
inductive IsOrigin (input : AllocationInput) : SourceOrigin → Prop where
  | credit (credit : AllocationCredit) (member : credit ∈ input.credits) :
      IsOrigin input (creditOrigin input credit)
  | money : IsOrigin input (moneyOrigin input)
  | cheque (tender : AllocationTender) (member : tender ∈ input.tenders) :
      IsOrigin input (chequeOrigin input tender)
  | postDated (tender : AllocationTender) (member : tender ∈ input.tenders)
      (isPostDated : tender.isPostDated = true) : IsOrigin input (postDatedOrigin input tender)

section Build

variable {input : AllocationInput} {sides : Sides}

variable {source : Source}

variable {extras remaining : Decimal} {tender : AllocationTender} {cheques : List AllocationTender}

private theorem mem_pushSource {origin : SourceOrigin}
    (member : source ∈ pushSource origin remaining) :
    source = ⟨origin, remaining⟩ ∧ 0 < remaining := by
  unfold pushSource at member
  split at member
  next positive => exact ⟨by simpa using member, positive⟩
  next => simp at member

private theorem weighted_pushSource (weight : SourceOrigin → Decimal) (origin : SourceOrigin)
    (nonneg : 0 ≤ remaining) :
    Pour.weighted weight (pushSource origin remaining) = weight origin * remaining := by
  unfold pushSource
  split
  · simp
  next zero => simp [le_antisymm (not_lt.mp zero) nonneg]

private theorem mem_instantTenders (member : tender ∈ instantTenders input) :
    tender ∈ input.tenders :=
  List.mem_of_mem_filter ((List.perm_insertionSort _ _).subset member)

private theorem mem_postDatedTenders (member : tender ∈ postDatedTenders input) :
    tender ∈ input.tenders ∧ tender.isPostDated = true :=
  List.mem_filter.mp ((List.perm_insertionSort _ _).subset member)

private theorem mem_chequeSources (extrasMem : extras ∈ paise)
    (member : source ∈ chequeSources input extras cheques) :
    (∃ cheque ∈ cheques, source.holder = chequeOrigin input cheque) ∧
      Figure source.remaining := by
  induction cheques generalizing extras with
  | nil => simp [chequeSources] at member
  | cons cheque rest ih =>
      have takeMem : min extras (money cheque.amount) ∈ paise :=
        Grid.min_mem_grid extrasMem (money_mem _)
      rcases List.mem_append.mp member with here | later
      · obtain ⟨rfl, positive⟩ := mem_pushSource here
        exact ⟨⟨cheque, List.mem_cons_self, rfl⟩, sub_mem (money_mem _) takeMem, positive.le⟩
      · obtain ⟨⟨other, otherMem, holder⟩, figure⟩ := ih (sub_mem extrasMem takeMem) later
        exact ⟨⟨other, List.mem_cons_of_mem _ otherMem, holder⟩, figure⟩

private theorem left_mem (input : AllocationInput) (sides : Sides) (pooled : List Decimal) :
    sumOfLines input (fun line => isExtra line sides) -
      min (sumOfLines input fun line => isExtra line sides) (sum pooled) ∈ paise :=
  sub_mem (sum_mem _) (Grid.min_mem_grid (sum_mem _) (sum_mem _))

theorem buildSources_origin (member : source ∈ buildSources input sides) :
    IsOrigin input source.holder := by
  simp only [buildSources, List.mem_append, List.mem_map] at member
  rcases member with ((⟨credit, creditMem, rfl⟩ | money) | cheque) | ⟨tender, tenderMem, rfl⟩
  · exact .credit credit creditMem
  · rw [(mem_pushSource money).1]
    exact .money
  · obtain ⟨⟨tender, tenderMem, holder⟩, -⟩ := mem_chequeSources (left_mem ..) cheque
    rw [holder]
    exact .cheque tender (mem_instantTenders (List.mem_of_mem_filter tenderMem))
  · obtain ⟨isTender, isPostDated⟩ := mem_postDatedTenders tenderMem
    exact .postDated tender isTender isPostDated

theorem buildSources_figures (exact : TwoPlaces input) :
    ∀ source ∈ buildSources input sides, Figure source.remaining := by
  intro source member
  simp only [buildSources, List.mem_append, List.mem_map] at member
  rcases member with ((⟨credit, creditMem, rfl⟩ | money) | cheque) | ⟨tender, tenderMem, rfl⟩
  · exact ⟨money_mem _, money_nonneg (exact.creditAmount credit creditMem).nonneg⟩
  · obtain ⟨rfl, positive⟩ := mem_pushSource money
    exact ⟨sub_mem (sum_mem _) (Grid.min_mem_grid (sum_mem _) (sum_mem _)), positive.le⟩
  · exact (mem_chequeSources (left_mem ..) cheque).2
  · exact ⟨money_mem _,
      money_nonneg (exact.tenderAmount tender (mem_postDatedTenders tenderMem).1).nonneg⟩

/-- The current cheques carry what they are worth less the extras they pay for. -/
private theorem chequeSources_weighted (weight : SourceOrigin → Decimal) {value : Decimal}
    (uniform : ∀ tender, weight (chequeOrigin input tender) = value) (extrasNonneg : 0 ≤ extras)
    (figures : ∀ cheque ∈ cheques, Figure cheque.amount)
    (covered : extras ≤ (cheques.map AllocationTender.amount).sum) :
    Pour.weighted weight (chequeSources input extras cheques) =
      value * ((cheques.map AllocationTender.amount).sum - extras) := by
  induction cheques generalizing extras with
  | nil =>
      have none : extras = 0 := le_antisymm (by simpa using covered) extrasNonneg
      simp [chequeSources, none]
  | cons cheque rest ih =>
      simp only [List.forall_mem_cons, List.map_cons, List.sum_cons] at figures covered ⊢
      have restNonneg : 0 ≤ (rest.map AllocationTender.amount).sum :=
        (Figure.sumMap figures.2).nonneg
      have takeLe : min extras cheque.amount ≤ extras := min_le_left _ _
      have leftCovered : extras - min extras cheque.amount ≤
          (rest.map AllocationTender.amount).sum := by
        rcases min_choice extras cheque.amount with all | some <;> linarith
      rw [chequeSources, Pour.weighted_append, figures.1.money,
        weighted_pushSource weight _ (sub_nonneg.mpr (min_le_right _ _)), uniform,
        ih (sub_nonneg.mpr takeLe) figures.2 leftCovered]
      ring

theorem sum_instantTenders (input : AllocationInput) :
    ((instantTenders input).map AllocationTender.amount).sum =
      totalOfTenders input fun tender => !tender.isPostDated :=
  ((List.perm_insertionSort _ _).map _).sum_eq

theorem sum_postDatedTenders (input : AllocationInput) (amount : AllocationTender → Decimal) :
    ((postDatedTenders input).map amount).sum =
      ((input.tenders.filter fun tender => tender.isPostDated).map amount).sum :=
  ((List.perm_insertionSort _ _).map _).sum_eq

/-- The instant tenders carry the instant money less the extras. -/
private theorem instant_weighted (exact : TwoPlaces input) (balanced : Balanced input sides)
    (weight : SourceOrigin → Decimal) (value : Decimal) (money : weight (moneyOrigin input) = value)
    (uniform : ∀ tender, weight (chequeOrigin input tender) = value) :
    let instant := instantTenders input
    let extras := totalOfLines input fun line => isExtra line sides
    let pooled := ((instant.filter fun tender => !tender.isCheque).map
      AllocationTender.amount).sum
    Pour.weighted weight (pushSource (moneyOrigin input) (pooled - min extras pooled)) +
      Pour.weighted weight (chequeSources input (extras - min extras pooled)
        (instant.filter fun tender => tender.isCheque)) =
      value * (totalOfTenders input (fun tender => !tender.isPostDated) - extras) := by
  intro instant extras pooled
  have figures : ∀ tender ∈ instant, Figure tender.amount := fun tender member =>
    exact.tenderAmount tender (mem_instantTenders member)
  have split := ListSum.sum_filter_add instant AllocationTender.amount fun tender => tender.isCheque
  rw [sum_instantTenders] at split
  have funded : extras ≤ totalOfTenders input fun tender => !tender.isPostDated := balanced.funded
  have extrasNonneg : 0 ≤ extras := (exact.figure_totalOfLines _).nonneg
  have chequesNonneg : 0 ≤ ((instant.filter fun tender => tender.isCheque).map
      AllocationTender.amount).sum :=
    (Figure.sumMap fun tender member => figures tender (List.mem_of_mem_filter member)).nonneg
  have covered : extras - min extras pooled ≤
      ((instant.filter fun tender => tender.isCheque).map AllocationTender.amount).sum := by
    rcases min_choice extras pooled with all | some <;> linarith
  rw [weighted_pushSource weight _ (sub_nonneg.mpr (min_le_right _ _)), money,
    chequeSources_weighted weight uniform (sub_nonneg.mpr (min_le_left _ _))
      (fun tender member => figures tender (List.mem_of_mem_filter member)) covered, ← split]
  ring

/-- What the sources carry together, under weights that do not tell one instant
source from another. -/
theorem buildSources_weighted (exact : TwoPlaces input) (balanced : Balanced input sides)
    (weight : SourceOrigin → Decimal) (value : Decimal) (money : weight (moneyOrigin input) = value)
    (uniform : ∀ tender, weight (chequeOrigin input tender) = value) :
    Pour.weighted weight (buildSources input sides) =
      (input.credits.map fun credit => weight (creditOrigin input credit) * credit.amount).sum +
        value * (totalOfTenders input (fun tender => !tender.isPostDated) -
          totalOfLines input fun line => isExtra line sides) +
        ((input.tenders.filter fun tender => tender.isPostDated).map fun tender =>
          weight (postDatedOrigin input tender) * tender.amount).sum := by
  have instant := instant_weighted exact balanced weight value money uniform
  have pooled : sum (((instantTenders input).filter fun tender => !tender.isCheque).map
      fun tender => Receipt.money tender.amount) =
      (((instantTenders input).filter fun tender => !tender.isCheque).map
        AllocationTender.amount).sum :=
    sum_money_map fun tender member =>
      exact.tenderAmount tender (mem_instantTenders (List.mem_of_mem_filter member))
  have credits : Pour.weighted weight (input.credits.map fun credit =>
      (⟨creditOrigin input credit, Receipt.money credit.amount⟩ : Source)) =
        (input.credits.map fun credit =>
          weight (creditOrigin input credit) * credit.amount).sum := by
    rw [Pour.weighted, List.map_map]
    refine congrArg List.sum (List.map_congr_left fun credit member => ?_)
    simp [(exact.creditAmount credit member).money]
  have postDated : Pour.weighted weight ((postDatedTenders input).map fun cheque =>
      (⟨postDatedOrigin input cheque, Receipt.money cheque.amount⟩ : Source)) =
        ((input.tenders.filter fun tender => tender.isPostDated).map fun tender =>
          weight (postDatedOrigin input tender) * tender.amount).sum := by
    rw [← sum_postDatedTenders, Pour.weighted, List.map_map]
    refine congrArg List.sum (List.map_congr_left fun tender member => ?_)
    simp [(exact.tenderAmount tender (mem_postDatedTenders member).1).money]
  simp only [buildSources, Pour.weighted_append, exact.sumOfLines_eq, pooled, credits, postDated]
  linarith

end Build

/-! ## The rows of a transfer -/

section SettlementRows

variable {input : AllocationInput} (sides : Sides) (bill : AllocationBill) (amount : Decimal)

/-- The row a source leaves on the bill it lands on. -/
def settleRow (source : SourceOrigin) : AllocationAdjustment :=
  { billId := bill.billId
    billAccYear := bill.billAccYear
    adjType := (source.credit.map AllocationCredit.adjType).getD .ALLOCATION
    settlementMode := source.settlementMode
    drCr := sides.settle
    amount := amount
    adjDate := source.adjDate
    isPostDated := source.isPostDated
    voucherKey := source.voucherKey
    tenderRowNo := source.tenderRowNo
    otherLineNo := none
    againstBill := source.credit.map AllocationCredit.ref
    approvedBy := none
    countsToAdjustAmount := true
    remarks := source.credit.map fun credit => "Settled from " ++ credit.docRefno }

/-- The row a credit leaves on itself. -/
def mirrorRow (input : AllocationInput) (credit : AllocationCredit) : AllocationAdjustment :=
  { billId := credit.billId
    billAccYear := credit.billAccYear
    adjType := credit.adjType
    settlementMode := credit.settlementMode
    drCr := sides.mirror
    amount := amount
    adjDate := input.receiptDate
    isPostDated := false
    voucherKey := RECEIPT_VOUCHER_KEY
    tenderRowNo := none
    otherLineNo := none
    againstBill := some bill.ref
    approvedBy := none
    countsToAdjustAmount := false
    remarks := some ("Applied to " ++ bill.docRefno) }

/-- The mirror rows a source leaves: one when it is a credit. -/
def mirrorRows (input : AllocationInput) (source : SourceOrigin) : List AllocationAdjustment :=
  source.credit.toList.map (mirrorRow sides bill amount input)

theorem settlementRows_eq {source : SourceOrigin} (origin : IsOrigin input source) :
    settlementRows sides ⟨bill, source, amount⟩ =
      settleRow sides bill amount source :: mirrorRows sides bill amount input source := by
  cases origin <;> rfl

end SettlementRows

/-! ## The remainder -/

section OnAccount

/-- The entries of the map are kept under their own keys, each for more than
nothing. -/
structure HeldOk (byVoucher : Held) : Prop where
  keyed : ∀ entry ∈ byVoucher.entries, entry.2.voucherKey = entry.1
  nodup : byVoucher.keys.Nodup
  exact : ∀ entry ∈ byVoucher.entries, entry.2.amount ∈ paise
  positive : ∀ entry ∈ byVoucher.entries, 0 < entry.2.amount

/-- What is held, each voucher with its weight. -/
def heldTotal (weight : VoucherKey → Decimal) (byVoucher : Held) : Decimal :=
  (byVoucher.entries.map fun entry => weight entry.2.voucherKey * entry.2.amount).sum

theorem heldOk_empty : HeldOk .empty where
  keyed entry member := by simp [OrderedMap.empty] at member
  nodup := List.nodup_nil
  exact entry member := by simp [OrderedMap.empty] at member
  positive entry member := by simp [OrderedMap.empty] at member

variable {byVoucher : Held} {voucherKey : VoucherKey} {amount : Decimal} {onDate : Date}

theorem addOnAccount_ok (ok : HeldOk byVoucher) (figure : Figure amount) :
    HeldOk (addOnAccount byVoucher voucherKey amount onDate) := by
  unfold addOnAccount
  split
  · exact ok
  next positive =>
    have existingOk : ∀ existing, byVoucher.get? voucherKey = some existing →
        existing.amount ∈ paise ∧ 0 < existing.amount := fun existing found =>
      ⟨ok.exact _ (OrderedMap.mem_of_get? found), ok.positive _ (OrderedMap.mem_of_get? found)⟩
    refine ⟨fun entry member => ?_, OrderedMap.keys_set_nodup ok.nodup _ _,
      fun entry member => ?_, fun entry member => ?_⟩ <;>
      rcases OrderedMap.mem_entries_set member with rfl | old
    · rfl
    · exact ok.keyed entry old
    · cases found : byVoucher.get? voucherKey with
      | none => simpa [found] using figure.exact
      | some existing => simpa [found] using add_mem (existingOk existing found).1 figure.exact
    · exact ok.exact entry old
    · cases found : byVoucher.get? voucherKey with
      | none => simpa [found] using positive
      | some existing =>
          have := (existingOk existing found).2
          simp only [Option.map_some, Option.getD_some]
          linarith
    · exact ok.positive entry old

theorem addOnAccount_total (ok : HeldOk byVoucher) (figure : Figure amount)
    (weight : VoucherKey → Decimal) :
    heldTotal weight (addOnAccount byVoucher voucherKey amount onDate) =
      heldTotal weight byVoucher + weight voucherKey * amount := by
  unfold addOnAccount
  split
  next none => simp [le_antisymm none figure.nonneg]
  next =>
    refine OrderedMap.sum_set (fun _ entry => weight entry.voucherKey * entry.amount)
      byVoucher _ _ _ ?_
    cases found : byVoucher.get? voucherKey with
    | none => simp
    | some existing =>
        have keyed : existing.voucherKey = voucherKey :=
          ok.keyed _ (OrderedMap.mem_of_get? found)
        simp only [Option.map_some, Option.getD_some, Option.elim_some, keyed, mul_add]

/-- The weight of a source's voucher, credits left out. -/
def moneyWeight (weight : VoucherKey → Decimal) (origin : SourceOrigin) : Decimal :=
  if origin.kind = .CREDIT then 0 else weight origin.voucherKey

/-- A source that is not a credit and belongs to one voucher. -/
def moneyOf (key : VoucherKey) : SourceOrigin → Decimal :=
  moneyWeight fun other => if other = key then 1 else 0

theorem holdSource_ok {source : Source} {after : Held}
    (run : holdSource byVoucher source = .ok after) (ok : HeldOk byVoucher)
    (figure : Figure source.remaining) :
    HeldOk after ∧ (source.holder.kind = .CREDIT → source.remaining = 0) ∧
      ∀ weight, heldTotal weight after =
        heldTotal weight byVoucher + moneyWeight weight source.holder * source.remaining := by
  unfold holdSource at run
  split at run
  next dry =>
    obtain rfl := Except.ok.inj run
    have zero := le_antisymm dry figure.nonneg
    exact ⟨ok, fun _ => zero, by simp [zero]⟩
  next =>
    split at run
    · cases run
    next notCredit =>
      obtain rfl := Except.ok.inj run
      refine ⟨addOnAccount_ok ok figure, fun isCredit => absurd isCredit notCredit,
        fun weight => ?_⟩
      rw [addOnAccount_total ok figure, moneyWeight, if_neg notCredit]

/-- What is held on account: no credit is, no voucher twice, each remainder for more
than nothing, and for each voucher what its money, the floating lines and the
overflow left. -/
structure HoldsRemainder (input : AllocationInput) (sides : Sides) (sources : List Source)
    (overflow : Decimal) (onAccount : List AllocationOnAccount) : Prop where
  creditsSpent : ∀ source ∈ sources, source.holder.kind = .CREDIT → source.remaining = 0
  nodup : (onAccount.map AllocationOnAccount.voucherKey).Nodup
  exact : ∀ entry ∈ onAccount, entry.amount ∈ paise
  positive : ∀ entry ∈ onAccount, 0 < entry.amount
  total : ∀ weight : VoucherKey → Decimal,
    (onAccount.map fun entry => weight entry.voucherKey * entry.amount).sum =
      Pour.weighted (moneyWeight weight) sources + weight RECEIPT_VOUCHER_KEY *
        (totalOfLines input (fun line => isFloating line sides) + overflow)

variable {input : AllocationInput} {overflow : Decimal} {onAccount : List AllocationOnAccount}
variable {sources : List Source} {sides : Sides}

theorem collectOnAccount_ok (exact : TwoPlaces input)
    (figures : ∀ source ∈ sources, Figure source.remaining) (overflowFigure : Figure overflow)
    (run : collectOnAccount input sides sources overflow = .ok onAccount) :
    HoldsRemainder input sides sources overflow onAccount := by
  obtain ⟨held, heldRun, run⟩ := bind_eq_ok run
  obtain rfl := Except.ok.inj run
  obtain ⟨ok, spent, totals⟩ := foldlM_invariant heldRun (motive := fun done state =>
    HeldOk state ∧ (∀ source ∈ done, source.holder.kind = .CREDIT → source.remaining = 0) ∧
      ∀ weight, heldTotal weight state = Pour.weighted (moneyWeight weight) done)
    ⟨heldOk_empty, by simp, fun weight => rfl⟩ (by
      rintro done source before after member ⟨ok, spent, totals⟩ step
      obtain ⟨nextOk, dry, next⟩ := holdSource_ok step ok (figures source member)
      refine ⟨nextOk, ?_, fun weight => ?_⟩
      · simp only [List.forall_mem_append, List.forall_mem_singleton]
        exact ⟨spent, dry⟩
      · rw [next, totals, Pour.weighted_append]
        simp)
  have floating : Figure (sumOfLines input (fun line => isFloating line sides) + overflow) := by
    rw [exact.sumOfLines_eq]
    exact (exact.figure_totalOfLines _).add overflowFigure
  set all := addOnAccount held RECEIPT_VOUCHER_KEY
    (sumOfLines input (fun line => isFloating line sides) + overflow) input.receiptDate with allEq
  have allOk : HeldOk all := addOnAccount_ok ok floating
  have money : ∀ entry ∈ all.entries, Receipt.money entry.2.amount = entry.2.amount :=
    fun entry member => money_of_mem (allOk.exact entry member)
  refine ⟨spent, ?_, ?_, ?_, fun weight => ?_⟩
  · have keys : (all.values.map fun entry =>
        { entry with amount := Receipt.money entry.amount }).map AllocationOnAccount.voucherKey =
          all.keys := by
      simp only [OrderedMap.values, OrderedMap.keys, List.map_map]
      exact List.map_congr_left fun entry member => allOk.keyed entry member
    rw [keys]
    exact allOk.nodup
  · intro entry member
    simp only [OrderedMap.values, List.map_map, List.mem_map] at member
    obtain ⟨source, -, rfl⟩ := member
    exact money_mem _
  · intro entry member
    simp only [OrderedMap.values, List.map_map, List.mem_map] at member
    obtain ⟨source, sourceMem, rfl⟩ := member
    simpa [money source sourceMem] using allOk.positive source sourceMem
  · have whole : heldTotal weight all = heldTotal weight held + weight RECEIPT_VOUCHER_KEY *
        (sumOfLines input (fun line => isFloating line sides) + overflow) :=
      addOnAccount_total ok floating weight
    rw [ totals, exact.sumOfLines_eq] at whole
    rw [← whole, heldTotal, OrderedMap.values, List.map_map, List.map_map]
    refine congrArg List.sum (List.map_congr_left fun entry member => ?_)
    simp [money entry member]

/-- What is held on one voucher. -/
theorem HoldsRemainder.total_of (holds : HoldsRemainder input sides sources overflow onAccount)
    (key : VoucherKey) :
    (onAccount.map fun entry => if entry.voucherKey = key then entry.amount else 0).sum =
      Pour.weighted (moneyOf key) sources +
        if RECEIPT_VOUCHER_KEY = key then
          totalOfLines input (fun line => isFloating line sides) + overflow
        else 0 := by
  have total := holds.total fun other => if other = key then 1 else 0
  simpa only [ite_mul, one_mul, zero_mul, moneyOf] using total

/-- What is held altogether is what the sources have left, the credits having nothing,
with the floating lines and the overflow. -/
theorem HoldsRemainder.total_all (holds : HoldsRemainder input sides sources overflow onAccount) :
    (onAccount.map AllocationOnAccount.amount).sum =
      Pour.total sources + (totalOfLines input (fun line => isFloating line sides) + overflow) := by
  have total := holds.total fun _ => 1
  have left : Pour.weighted (moneyWeight fun _ => 1) sources = Pour.total sources := by
    rw [← Pour.weighted_one]
    refine congrArg List.sum (List.map_congr_left fun source member => ?_)
    by_cases credit : source.holder.kind = .CREDIT
    · simp [holds.creditsSpent source member credit]
    · simp [moneyWeight, credit]
  simpa only [one_mul, left] using total

end OnAccount

end ErpServer.Receipt
