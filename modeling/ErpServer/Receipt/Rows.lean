import ErpServer.Lib.ListSum
import ErpServer.Receipt.AllocationEngine

/-!
# What the validation establishes

The domain the engine is meant for, exact two-place figures, and what an input
satisfies once the three assertions have let it through.
-/

namespace ErpServer.Receipt

open Lib Lib.Fold

/-- A non-negative figure of two decimal places. -/
structure Figure (value : Decimal) : Prop where
  exact : value ∈ paise
  nonneg : 0 ≤ value

variable {value : Decimal} {bills : List AllocationBill} {credits : List AllocationCredit}

theorem Figure.money (figure : Figure value) :
    Receipt.money value = value := money_of_mem figure.exact

theorem figure_iff : Figure value ↔ Receipt.money value = value ∧ 0 ≤ value :=
  ⟨fun figure => ⟨figure.money, figure.nonneg⟩, fun ⟨equal, nonneg⟩ =>
    ⟨equal ▸ money_mem value, nonneg⟩⟩

instance (value : Decimal) : Decidable (Figure value) := decidable_of_iff _ figure_iff.symm

theorem Figure.zero : Figure 0 := ⟨zero_mem _, le_rfl⟩

variable {left right : Decimal} {seen : List String} {index : ℕ} {sides : Sides}

theorem Figure.add (leftFigure : Figure left) (rightFigure : Figure right) :
    Figure (left + right) :=
  ⟨add_mem leftFigure.exact rightFigure.exact, add_nonneg leftFigure.nonneg rightFigure.nonneg⟩

theorem Figure.sub (leftFigure : Figure left) (rightFigure : Figure right) (ordered : right ≤ left) :
    Figure (left - right) :=
  ⟨sub_mem leftFigure.exact rightFigure.exact, sub_nonneg.mpr ordered⟩

theorem Figure.min (leftFigure : Figure left) (rightFigure : Figure right) :
    Figure (min left right) :=
  ⟨Grid.min_mem_grid leftFigure.exact rightFigure.exact,
    le_min leftFigure.nonneg rightFigure.nonneg⟩

theorem Figure.listSum {values : List Decimal} (figures : ∀ value ∈ values, Figure value) :
    Figure values.sum :=
  ⟨list_sum_mem fun value member => (figures value member).exact,
    List.sum_nonneg fun value member => (figures value member).nonneg⟩

theorem Figure.sumMap {α : Type*} {items : List α} {amount : α → Decimal}
    (figures : ∀ item ∈ items, Figure (amount item)) : Figure (items.map amount).sum :=
  .listSum fun value member => by
    obtain ⟨item, itemMem, rfl⟩ := List.mem_map.mp member
    exact figures item itemMem

/-- On exact figures a rounded sum of rounded amounts is the plain sum. -/
theorem sum_money_map {α : Type*} {items : List α} {amount : α → Decimal}
    (figures : ∀ item ∈ items, Figure (amount item)) :
    sum (items.map fun item => money (amount item)) = (items.map amount).sum := by
  rw [sum_map_money]
  exact congrArg List.sum (List.map_congr_left fun item member => (figures item member).money)

/-- Every figure the engine reads is a non-negative two-place figure. -/
structure TwoPlaces (input : AllocationInput) : Prop where
  billAmount : ∀ bill ∈ input.bills, Figure bill.amount
  billDiscount : ∀ bill ∈ input.bills, Figure bill.discount
  billWriteoff : ∀ bill ∈ input.bills, Figure bill.writeoff
  billRoundoff : ∀ bill ∈ input.bills, Figure bill.roundoff
  billPending : ∀ bill ∈ input.bills, Figure bill.pendingAmount
  creditAmount : ∀ credit ∈ input.credits, Figure credit.amount
  creditPending : ∀ credit ∈ input.credits, Figure credit.pendingAmount
  lineAmount : ∀ line ∈ input.otherLines, Figure line.amount
  tenderAmount : ∀ tender ∈ input.tenders, Figure tender.amount
  pinAmount : ∀ pin ∈ input.pins, Figure pin.amount
  claimed : Figure input.claimedOnAccount

def DistinctLines (input : AllocationInput) : Prop :=
  (input.otherLines.map AllocationOtherLine.lineNo).Nodup

def DistinctTenders (input : AllocationInput) : Prop :=
  (input.tenders.map AllocationTender.tenderRowNo).Nodup

/-! ## Plain sums -/

def totalOfLines (input : AllocationInput) (kind : AllocationOtherLine → Bool) : Decimal :=
  ((input.otherLines.filter kind).map AllocationOtherLine.amount).sum

def totalOfTenders (input : AllocationInput) (kind : AllocationTender → Bool) : Decimal :=
  ((input.tenders.filter kind).map AllocationTender.amount).sum

def totalOfCredits (input : AllocationInput) : Decimal :=
  (input.credits.map AllocationCredit.amount).sum

def totalOfBills (input : AllocationInput) : Decimal :=
  (input.bills.map AllocationBill.amount).sum

namespace TwoPlaces

variable {input : AllocationInput} (exact : TwoPlaces input)

include exact

theorem sumOfLines_eq (kind : AllocationOtherLine → Bool) :
    sumOfLines input kind = totalOfLines input kind :=
  sum_money_map fun line member => exact.lineAmount line (List.mem_of_mem_filter member)

theorem sumOfTenders_eq (kind : AllocationTender → Bool) :
    sumOfTenders input kind = totalOfTenders input kind :=
  sum_money_map fun tender member => exact.tenderAmount tender (List.mem_of_mem_filter member)

theorem figure_totalOfLines (kind : AllocationOtherLine → Bool) :
    Figure (totalOfLines input kind) :=
  .sumMap fun line member => exact.lineAmount line (List.mem_of_mem_filter member)

end TwoPlaces

/-- A deduction-side line that is no split either settles a bill or floats. -/
theorem totalOfLines_deductions (input : AllocationInput) (sides : Sides) :
    totalOfLines input (fun line => line.drCr = sides.deduction && !line.isInstrumentSplit) =
      totalOfLines input (fun line => isDeduction line sides) +
        totalOfLines input fun line => isFloating line sides := by
  unfold totalOfLines
  induction input.otherLines with
  | nil => simp
  | cons line rest ih =>
      have either : (decide (line.drCr = sides.deduction) && !line.isInstrumentSplit) =
          (isDeduction line sides || isFloating line sides) := by
        cases settles : line.settlesBill <;> simp [isDeduction, isFloating, settles]
      have notBoth : ¬ (isDeduction line sides = true ∧ isFloating line sides = true) := by
        cases settles : line.settlesBill <;> simp [isDeduction, isFloating, settles]
      cases deduction : isDeduction line sides <;> cases floating : isFloating line sides <;>
        simp_all [add_assoc, add_left_comm]

/-- A loop that checks each item against the keys before it and goes on with its own finds
every key once. -/
theorem keys_nodup_of_loop {ι : Type*} {keyOf : ι → String} {Fits : ι → Prop}
    {loop : List String → ℕ → List ι → Except AllocationError Unit}
    (step : ∀ seen index item rest, loop seen index (item :: rest) = .ok () →
      (keyOf item ∉ seen ∧ Fits item) ∧ loop (keyOf item :: seen) (index + 1) rest = .ok ())
    {items : List ι} (run : loop seen index items = .ok ()) :
    (items.map keyOf).Nodup ∧ ∀ item ∈ items, keyOf item ∉ seen ∧ Fits item := by
  induction items generalizing seen index with
  | nil => simp
  | cons item rest ih =>
      obtain ⟨⟨unseen, fits⟩, later⟩ := step seen index item rest run
      obtain ⟨nodup, others⟩ := ih later
      simp only [List.mem_cons, not_or] at others
      simp only [List.map_cons, List.nodup_cons, List.mem_map, List.forall_mem_cons, not_exists,
        not_and]
      exact ⟨⟨fun other member => (others other member).1.1, nodup⟩, ⟨unseen, fits⟩,
        fun other member => ⟨(others other member).1.2, (others other member).2⟩⟩

/-! ## The bills -/

/-- What one pass of the loop over the bills establishes. -/
structure BillFits (bill : AllocationBill) : Prop where
  amountNonneg : 0 ≤ bill.amount
  discountNonneg : 0 ≤ bill.discount
  writeoffNonneg : 0 ≤ bill.writeoff
  roundoffNonneg : 0 ≤ bill.roundoff
  settledPos : 0 < bill.settled
  pending : bill.settled ≤ money bill.pendingAmount

theorem assertBillFits_ok {bill : AllocationBill}
    (run : assertBillFits sides seen index bill = .ok ()) :
    bill.ref.key ∉ seen ∧ BillFits bill := by
  unfold assertBillFits at run
  split at run
  · cases run
  next unseen =>
    split at run
    · cases run
    next nonneg =>
      split at run
      · cases run
      next positive =>
        split at run
        · cases run
        next fits =>
          simp only [not_or, not_lt, not_le] at nonneg positive fits
          exact ⟨unseen, nonneg.1, nonneg.2.1, nonneg.2.2.1, nonneg.2.2.2, positive, fits⟩

theorem assertBillsFitFrom_ok (run : assertBillsFitFrom sides seen index bills = .ok ()) :
    (bills.map fun bill => bill.ref.key).Nodup ∧
      ∀ bill ∈ bills, bill.ref.key ∉ seen ∧ BillFits bill := by
  apply keys_nodup_of_loop _ run
  intro seen index bill rest run
  obtain ⟨⟨⟩, here, later⟩ := bind_eq_ok run
  exact ⟨assertBillFits_ok here, later⟩

theorem assertBillsFit_ok (run : assertBillsFit bills sides = .ok ()) :
    (bills.map AllocationBill.ref).Nodup ∧ ∀ bill ∈ bills, BillFits bill := by
  obtain ⟨nodup, fits⟩ := assertBillsFitFrom_ok run
  refine ⟨.of_map BillRef.key ?_, fun bill member => (fits bill member).2⟩
  simpa [Function.comp_def] using nodup

/-! ## The credits -/

/-- What one pass of the loop over the credits establishes. -/
structure CreditFits (credit : AllocationCredit) : Prop where
  amountPos : 0 < money credit.amount
  pending : money credit.amount ≤ money credit.pendingAmount

theorem assertCreditFits_ok {credit : AllocationCredit}
    (run : assertCreditFits sides seen index credit = .ok ()) :
    credit.ref.key ∉ seen ∧ CreditFits credit := by
  unfold assertCreditFits at run
  split at run
  · cases run
  next unseen =>
    split at run
    · cases run
    next positive =>
      split at run
      · cases run
      next fits => exact ⟨unseen, not_le.mp positive, not_lt.mp fits⟩

theorem assertCreditsFitFrom_ok (run : assertCreditsFitFrom sides seen index credits = .ok ()) :
    (credits.map fun credit => credit.ref.key).Nodup ∧
      ∀ credit ∈ credits, credit.ref.key ∉ seen ∧ CreditFits credit := by
  apply keys_nodup_of_loop _ run
  intro seen index credit rest run
  obtain ⟨⟨⟩, here, later⟩ := bind_eq_ok run
  exact ⟨assertCreditFits_ok here, later⟩

theorem assertCreditsFit_ok (run : assertCreditsFit credits sides = .ok ()) :
    (credits.map AllocationCredit.ref).Nodup ∧ ∀ credit ∈ credits, CreditFits credit := by
  obtain ⟨nodup, fits⟩ := assertCreditsFitFrom_ok run
  refine ⟨.of_map BillRef.key ?_, fun credit member => (fits credit member).2⟩
  simpa [Function.comp_def] using nodup

/-! ## The identity -/

/-- The identity on exact figures: everything that came in is allocated, claimed on
account or income, and the income is covered by money that has arrived. -/
structure Balanced (input : AllocationInput) (sides : Sides) : Prop where
  identity : totalOfTenders input (fun _ => true) +
      (totalOfLines input (fun line => isDeduction line sides) +
        totalOfLines input fun line => isFloating line sides) + totalOfCredits input =
    totalOfBills input + input.claimedOnAccount + totalOfLines input fun line => isExtra line sides
  funded : totalOfLines input (fun line => isExtra line sides) ≤
    totalOfTenders input fun tender => !tender.isPostDated

theorem assertIdentity_ok {input : AllocationInput} (exact : TwoPlaces input)
    (run : assertIdentity input sides = .ok ()) : Balanced input sides := by
  simp only [assertIdentity] at run
  split at run
  · cases run
  next equal =>
    split at run
    · cases run
    next funded =>
      have credits := sum_money_map exact.creditAmount
      have bills := sum_money_map exact.billAmount
      simp only [exact.sumOfTenders_eq, exact.sumOfLines_eq, exact.claimed.money, credits, bills,
        totalOfLines_deductions, not_not, not_lt] at equal funded
      exact ⟨equal, funded⟩

end ErpServer.Receipt

namespace ErpServer.Receipt

open Lib Lib.Fold

/-! ## Totals over adjustment rows

Every statement about the rows is a weighted total of their amounts.  The module
gives the rows of each stage their totals: a deduction row, the rows one transfer
leaves, and the reduction rows of the bills. -/

/-- The amounts of the rows, each counted with the weight of its row. -/
def rowTotal (weight : AllocationAdjustment → Decimal) (rows : List AllocationAdjustment) :
    Decimal :=
  (rows.map fun row => weight row * row.amount).sum

/-- What the rows of one kind come to. -/
def amountWhere (kind : AllocationAdjustment → Bool) (rows : List AllocationAdjustment) :
    Decimal :=
  ((rows.filter kind).map AllocationAdjustment.amount).sum

theorem amountWhere_eq (kind : AllocationAdjustment → Bool) (rows : List AllocationAdjustment) :
    amountWhere kind rows = rowTotal (fun row => if kind row then 1 else 0) rows := by
  induction rows with
  | nil => rfl
  | cons row rest ih =>
      unfold amountWhere rowTotal at ih ⊢
      cases kindEq : kind row <;> simp [kindEq, ih]

section RowTotal

variable (weight : AllocationAdjustment → Decimal)

@[simp] theorem rowTotal_nil : rowTotal weight [] = 0 := rfl

@[simp] theorem rowTotal_cons (row : AllocationAdjustment) (rows : List AllocationAdjustment) :
    rowTotal weight (row :: rows) = weight row * row.amount + rowTotal weight rows := by
  simp [rowTotal]

@[simp] theorem rowTotal_append (left right : List AllocationAdjustment) :
    rowTotal weight (left ++ right) = rowTotal weight left + rowTotal weight right := by
  simp [rowTotal]

variable {weight}

theorem rowTotal_congr {other : AllocationAdjustment → Decimal}
    {rows : List AllocationAdjustment} (agree : ∀ row ∈ rows, weight row = other row) :
    rowTotal weight rows = rowTotal other rows := by
  unfold rowTotal
  exact congrArg List.sum (List.map_congr_left fun row member => by rw [agree row member])

theorem rowTotal_eq_zero {rows : List AllocationAdjustment}
    (weightless : ∀ row ∈ rows, weight row = 0) : rowTotal weight rows = 0 := by
  have zero : rowTotal weight rows = rowTotal (fun _ => 0) rows := rowTotal_congr weightless
  rw [zero]
  simp [rowTotal]

/-- The rows of the transfers total what the transfers moved, once one transfer's
rows do. -/
theorem rowTotal_flatMap {rowsOf : Pour.Transfer AllocationBill SourceOrigin Decimal →
      List AllocationAdjustment}
    {moveWeight : AllocationBill → SourceOrigin → Decimal}
    {transfers : List (Pour.Transfer AllocationBill SourceOrigin Decimal)}
    (each : ∀ transfer ∈ transfers, rowTotal weight (rowsOf transfer) =
      moveWeight transfer.target transfer.source * transfer.amount) :
    rowTotal weight (transfers.flatMap rowsOf) = Pour.moved moveWeight transfers := by
  induction transfers with
  | nil => rfl
  | cons transfer rest ih =>
      simp only [List.forall_mem_cons] at each
      rw [List.flatMap_cons, rowTotal_append, Pour.moved_cons, each.1, ih each.2]

end RowTotal

/-! ## Sides -/

theorem sidesOf_settle_ne_mirror (input : AllocationInput) :
    (sidesOf input).mirror ≠ (sidesOf input).settle := by
  unfold sidesOf
  split <;> decide

/-! ## The reductions of the bills -/

/-- What the three reductions take off a bill. -/
def AllocationBill.reduction (bill : AllocationBill) : Decimal :=
  bill.discount + bill.writeoff + bill.roundoff

/-- A reduction row as every stage sees it: on the settle side of its bill, on the
receipt's own voucher, from no line, tender or credit. -/
structure ReductionRow (sides : Sides) (bills : List AllocationBill)
    (row : AllocationAdjustment) : Prop where
  side : row.drCr = sides.settle
  voucher : row.voucherKey = RECEIPT_VOUCHER_KEY
  line : row.otherLineNo = none
  against : row.againstBill = none
  positive : 0 < row.amount
  exact : row.amount ∈ paise
  counts : row.countsToAdjustAmount = true
  bill : ∃ bill ∈ bills, row.ref = bill.ref

variable {bill : AllocationBill} {input : AllocationInput} {sides : Sides}
variable {rows : List AllocationAdjustment}

variable {adjType : BillAdjType} {mode : BillSettlementMode} {value : Decimal}
variable {approvedBy : Option String} {bills : List AllocationBill}

private theorem reductionRow_spec {row : AllocationAdjustment}
    (member : row ∈ if 0 < money value then
      [reductionRow input sides bill adjType mode (money value) approvedBy] else []) :
    ReductionRow sides [bill] row := by
  split at member
  next positive =>
    obtain rfl := List.mem_singleton.mp member
    exact ⟨rfl, rfl, rfl, rfl, positive, money_mem value, rfl, bill, by simp, rfl⟩
  next => simp at member

private theorem rowTotal_reduction (figure : Figure value) (weight : BillRef → Decimal) :
    rowTotal (fun row => weight row.ref) (if 0 < money value then
      [reductionRow input sides bill adjType mode (money value) approvedBy] else []) =
        weight bill.ref * value := by
  rw [figure.money]
  split
  · simp [reductionRow, AllocationAdjustment.ref, AllocationBill.ref]
  next zero => simp [le_antisymm (not_lt.mp zero) figure.nonneg]

theorem billReductions_spec (run : billReductions input sides bill = .ok rows) :
    ∀ row ∈ rows, ReductionRow sides [bill] row := by
  simp only [billReductions] at run
  split at run
  · cases run
  · obtain rfl := Except.ok.inj run
    intro row member
    rcases List.mem_append.mp member with earlier | last
    · rcases List.mem_append.mp earlier with first | second
      · exact reductionRow_spec first
      · exact reductionRow_spec second
    · exact reductionRow_spec last

theorem billReductions_total (run : billReductions input sides bill = .ok rows)
    (discount : Figure bill.discount) (writeoff : Figure bill.writeoff)
    (roundoff : Figure bill.roundoff) (weight : BillRef → Decimal) :
    rowTotal (fun row => weight row.ref) rows = weight bill.ref * bill.reduction := by
  simp only [billReductions] at run
  split at run
  · cases run
  · obtain rfl := Except.ok.inj run
    rw [rowTotal_append, rowTotal_append, rowTotal_reduction discount,
      rowTotal_reduction writeoff, rowTotal_reduction roundoff, AllocationBill.reduction]
    ring

theorem addReductions_spec (run : addReductions input sides bills = .ok rows) :
    ∀ row ∈ rows, ReductionRow sides bills row := by
  induction bills generalizing rows with
  | nil =>
      obtain rfl := Except.ok.inj run
      simp
  | cons bill rest ih =>
      obtain ⟨here, hereRun, run⟩ := bind_eq_ok run
      obtain ⟨later, laterRun, run⟩ := bind_eq_ok run
      obtain rfl := Except.ok.inj run
      intro row member
      rcases List.mem_append.mp member with first | second
      · have spec := billReductions_spec hereRun row first
        obtain ⟨owner, ownerMem, named⟩ := spec.bill
        obtain rfl := List.mem_singleton.mp ownerMem
        exact { spec with bill := ⟨owner, List.mem_cons_self, named⟩ }
      · have spec := ih laterRun row second
        obtain ⟨owner, ownerMem, named⟩ := spec.bill
        exact { spec with bill := ⟨owner, List.mem_cons_of_mem _ ownerMem, named⟩ }

theorem addReductions_total (run : addReductions input sides bills = .ok rows)
    (discount : ∀ bill ∈ bills, Figure bill.discount)
    (writeoff : ∀ bill ∈ bills, Figure bill.writeoff)
    (roundoff : ∀ bill ∈ bills, Figure bill.roundoff) (weight : BillRef → Decimal) :
    rowTotal (fun row => weight row.ref) rows =
      (bills.map fun bill => weight bill.ref * bill.reduction).sum := by
  induction bills generalizing rows with
  | nil =>
      obtain rfl := Except.ok.inj run
      rfl
  | cons bill rest ih =>
      obtain ⟨here, hereRun, run⟩ := bind_eq_ok run
      obtain ⟨later, laterRun, run⟩ := bind_eq_ok run
      obtain rfl := Except.ok.inj run
      simp only [List.forall_mem_cons] at discount writeoff roundoff
      rw [rowTotal_append, billReductions_total hereRun discount.1 writeoff.1 roundoff.1,
        ih laterRun discount.2 writeoff.2 roundoff.2, List.map_cons, List.sum_cons]

end ErpServer.Receipt
