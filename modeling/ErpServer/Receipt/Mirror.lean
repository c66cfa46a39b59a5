import ErpServer.Lib.Fold
import ErpServer.Receipt.AllocationEngine

/-!
# The payment mirrors the receipt

The payment runs the same engine with every side flipped.  Flip the direction and
the side of every other line, and the engine throws the same error or returns the
same rows with their sides flipped.  The relation is followed through every stage.
-/

namespace ErpServer.Receipt

open Lib Lib.Fold

/-! ## The swap -/

/-- An absent direction is the receipt's. -/
def AllocationDirection.opposite : Option AllocationDirection → AllocationDirection
  | some .OUT => .IN
  | _ => .OUT

def AllocationOtherLine.swap (line : AllocationOtherLine) : AllocationOtherLine :=
  { line with drCr := line.drCr.flip }

/-- The same input in the other direction. -/
def AllocationInput.swap (input : AllocationInput) : AllocationInput :=
  { input with
    otherLines := input.otherLines.map AllocationOtherLine.swap
    direction := some (.opposite input.direction) }

def AllocationAdjustment.swap (row : AllocationAdjustment) : AllocationAdjustment :=
  { row with drCr := row.drCr.flip }

/-- The same rows on the other side. -/
def AllocationResult.swap (result : AllocationResult) : AllocationResult :=
  { result with
    adjustments := result.adjustments.map AllocationAdjustment.swap
    partyLegSide := result.partyLegSide.flip }

def Reserved.swap (state : Reserved) : Reserved :=
  { state with rows := state.rows.map AllocationAdjustment.swap }

/-- What a caller reads off an error: its kind, and the field and code of each detail. -/
def AllocationError.shape (problem : AllocationError) :
    AllocationErrorKind × List (String × String) :=
  (problem.kind, problem.details.map fun detail => (detail.field, detail.code))

/-- Two refusals of one field and code have one shape, whatever their words. -/
theorem simulates_invalid {α β : Type} {relate : α → β} {message message' : String}
    {detail detail' : AllocationErrorDetail} (field : detail'.field = detail.field)
    (code : detail'.code = detail.code) :
    Simulates AllocationError.shape relate (invalid message [detail]) (invalid message' [detail']) :=
  simulates_error (by simp [AllocationError.shape, field, code])

/-- Two tables of sides with every side flipped. -/
structure Flipped (sides other : Sides) : Prop where
  settle : other.settle = sides.settle.flip
  mirror : other.mirror = sides.mirror.flip
  deduction : other.deduction = sides.deduction.flip
  extra : other.extra = sides.extra.flip

theorem sidesOf_swap (input : AllocationInput) : Flipped (sidesOf input) (sidesOf input.swap) := by
  rcases directionEq : input.direction with _ | direction
  · constructor <;> simp [sidesOf, AllocationInput.swap, directionEq,
      AllocationDirection.opposite, DrCr.flip]
  · cases direction <;> constructor <;> simp [sidesOf, AllocationInput.swap, directionEq,
      AllocationDirection.opposite, DrCr.flip]

section Stages

variable {input : AllocationInput} {sides other : Sides}

/-! ## The assertions -/

theorem assertBillsFit_flipped (bills : List AllocationBill) (sides other : Sides) :
    Simulates AllocationError.shape id (assertBillsFit bills sides)
      (assertBillsFit bills other) := by
  have each (seen : List String) (index : ℕ) (bill : AllocationBill) :
      Simulates AllocationError.shape id (assertBillFits sides seen index bill)
        (assertBillFits other seen index bill) := by
    unfold assertBillFits
    repeat' split
    all_goals rfl
  suffices loop : ∀ seen index, Simulates AllocationError.shape id
      (assertBillsFitFrom sides seen index bills) (assertBillsFitFrom other seen index bills) from
    loop [] 0
  induction bills with
  | nil => exact fun _ _ => rfl
  | cons bill rest ih => exact fun seen index => (each seen index bill).bind fun _ => ih _ _

theorem assertCreditsFit_flipped (credits : List AllocationCredit) (sides other : Sides) :
    Simulates AllocationError.shape id (assertCreditsFit credits sides)
      (assertCreditsFit credits other) := by
  have each (seen : List String) (index : ℕ) (credit : AllocationCredit) :
      Simulates AllocationError.shape id (assertCreditFits sides seen index credit)
        (assertCreditFits other seen index credit) := by
    unfold assertCreditFits
    repeat' split
    all_goals rfl
  suffices loop : ∀ seen index, Simulates AllocationError.shape id
      (assertCreditsFitFrom sides seen index credits)
      (assertCreditsFitFrom other seen index credits) from loop [] 0
  induction credits with
  | nil => exact fun _ _ => rfl
  | cons credit rest ih => exact fun seen index => (each seen index credit).bind fun _ => ih _ _

theorem sumOfLines_swap {kind swapped : AllocationOtherLine → Bool}
    (agree : ∀ line, swapped line.swap = kind line) :
    sumOfLines input.swap swapped = sumOfLines input kind := by
  have kinds : swapped ∘ AllocationOtherLine.swap = kind := funext agree
  simp only [sumOfLines, AllocationInput.swap, List.filter_map, List.map_map, kinds]
  rfl

theorem chequeSources_swap (extras : Decimal) (cheques : List AllocationTender) :
    chequeSources input.swap extras cheques = chequeSources input extras cheques := by
  induction cheques generalizing extras with
  | nil => rfl
  | cons cheque rest ih =>
      simp only [chequeSources, ih]
      rfl

theorem totalPerVoucher_swap (rows : List AllocationAdjustment) :
    totalPerVoucher (rows.map AllocationAdjustment.swap) = totalPerVoucher rows := by
  simp only [totalPerVoucher, List.filter_map, List.map_map]
  rfl

section Kinds

variable (flipped : Flipped sides other)

include flipped

theorem isDeduction_swap (line : AllocationOtherLine) :
    isDeduction line.swap other = isDeduction line sides := by
  simp [isDeduction, AllocationOtherLine.swap, flipped.deduction, DrCr.flip_inj]

theorem isFloating_swap (line : AllocationOtherLine) :
    isFloating line.swap other = isFloating line sides := by
  simp [isFloating, AllocationOtherLine.swap, flipped.deduction, DrCr.flip_inj]

theorem isExtra_swap (line : AllocationOtherLine) :
    isExtra line.swap other = isExtra line sides := by
  simp [isExtra, AllocationOtherLine.swap, flipped.extra, DrCr.flip_inj]

theorem assertIdentity_swap : Simulates AllocationError.shape id (assertIdentity input sides)
    (assertIdentity input.swap other) := by
  have deductions : sumOfLines input.swap (fun line =>
      line.drCr = other.deduction && !line.isInstrumentSplit) = sumOfLines input fun line =>
        line.drCr = sides.deduction && !line.isInstrumentSplit :=
    sumOfLines_swap fun line => by
      simp [AllocationOtherLine.swap, flipped.deduction, DrCr.flip_inj]
  have extras : sumOfLines input.swap (fun line => isExtra line other) =
      sumOfLines input fun line => isExtra line sides :=
    sumOfLines_swap (isExtra_swap flipped)
  have tenders (kind : AllocationTender → Bool) :
      sumOfTenders input.swap kind = sumOfTenders input kind := rfl
  have rest : input.swap.credits = input.credits ∧ input.swap.bills = input.bills ∧
      input.swap.claimedOnAccount = input.claimedOnAccount := ⟨rfl, rfl, rfl⟩
  simp only [assertIdentity, deductions, extras, tenders, rest]
  split
  · exact simulates_invalid rfl rfl
  · split
    · exact simulates_invalid rfl rfl
    · exact simulates_ok rfl

/-! ## The deductions -/

theorem deductionRow_swap (bill : AllocationBill) (line : AllocationOtherLine)
    (amount : Decimal) : deductionRow input.swap other bill line.swap amount =
      (deductionRow input sides bill line amount).swap := by
  simp [deductionRow, AllocationAdjustment.swap, flipped.settle, AllocationInput.swap,
    AllocationOtherLine.swap]

theorem placeDeduction_swap (line : AllocationOtherLine) (field : String) (state : Reserved)
    (index : ℕ) (amount : Decimal) : Simulates AllocationError.shape Reserved.swap
      (placeDeduction input sides line field state index amount)
      (placeDeduction input.swap other line.swap field state.swap index amount) := by
  have capacity : state.swap.capacity = state.capacity := rfl
  unfold placeDeduction
  rw [capacity]
  split
  · rfl
  next room found =>
    have taken : Simulates AllocationError.shape id
        (takeFromBill state.capacity index room amount field)
        (takeFromBill state.capacity index room amount field) := by
      simp only [takeFromBill]
      split <;> rfl
    refine taken.bind fun capacity => ?_
    exact simulates_ok (by simp [Reserved.swap, deductionRow_swap flipped])

theorem deductionsOf_swap :
    deductionsOf input.swap other = (deductionsOf input sides).map AllocationOtherLine.swap := by
  have kinds : (fun line => isDeduction line other) ∘ AllocationOtherLine.swap =
      fun line => isDeduction line sides := funext (isDeduction_swap flipped)
  simp only [deductionsOf, AllocationInput.swap, List.filter_map, kinds]

theorem reservePinned_swap (state : Reserved) (entry : ℕ × List AllocationPin) :
    Simulates AllocationError.shape Reserved.swap (reservePinned input sides state entry)
      (reservePinned input.swap other state.swap entry) := by
  unfold reservePinned
  rw [deductionsOf_swap flipped, List.find?_map]
  have numbers : (fun candidate : AllocationOtherLine => decide (candidate.lineNo = entry.1)) ∘
      AllocationOtherLine.swap = fun candidate => decide (candidate.lineNo = entry.1) := rfl
  rw [numbers]
  cases (deductionsOf input sides).find? fun candidate => candidate.lineNo = entry.1 with
  | none => rfl
  | some line =>
      simp only [Option.map_some]
      have amount : line.swap.amount = line.amount := rfl
      rw [amount]
      split
      · rfl
      · refine simulates_foldlM Reserved.swap (fun before pin _ => ?_) state
        have index : billIndex input.swap.bills = billIndex input.bills := rfl
        unfold placePin
        rw [index]
        split
        · rfl
        · exact placeDeduction_swap flipped line _ before _ _

theorem spreadLine_swap (state : Reserved) (line : AllocationOtherLine) :
    Simulates AllocationError.shape Reserved.swap (spreadLine input sides state line)
      (spreadLine input.swap other state.swap line.swap) := by
  have pins : groupPins input.swap.pins = groupPins input.pins := rfl
  have same : line.swap.lineNo = line.lineNo ∧ line.swap.amount = line.amount ∧
      state.swap.capacity = state.capacity ∧ state.swap.overflow = state.overflow :=
    ⟨rfl, rfl, rfl, rfl⟩
  simp only [spreadLine, pins, same]
  split
  · rfl
  · refine simulates_foldlM Reserved.swap (fun before entry _ => ?_) { state with overflow := _ }
    unfold placeShare
    split
    · rfl
    · exact placeDeduction_swap flipped line _ before _ _

theorem reserveDeductions_swap (capacity : List Room) :
    Simulates AllocationError.shape Reserved.swap (reserveDeductions input sides capacity)
      (reserveDeductions input.swap other capacity) := by
  have pins : groupPins input.swap.pins = groupPins input.pins := rfl
  refine Simulates.bind (?_ : Simulates AllocationError.shape Reserved.swap _ _) fun pinned => ?_
  · unfold reservePins
    rw [pins]
    exact simulates_foldlM Reserved.swap (fun before entry _ => reservePinned_swap flipped before entry) _
  · rw [deductionsOf_swap flipped, List.foldlM_map]
    exact simulates_foldlM Reserved.swap (fun before line _ => spreadLine_swap flipped before line) pinned

/-! ## The pour, the reductions and the remainder -/

theorem buildSources_swap : buildSources input.swap other = buildSources input sides := by
  have extras : sumOfLines input.swap (fun line => isExtra line other) =
      sumOfLines input fun line => isExtra line sides :=
    sumOfLines_swap (isExtra_swap flipped)
  simp only [buildSources, extras, chequeSources_swap]
  rfl

theorem settlementRows_swap (transfer : Pour.Transfer AllocationBill SourceOrigin Decimal) :
    settlementRows other transfer =
      (settlementRows sides transfer).map AllocationAdjustment.swap := by
  obtain ⟨bill, ⟨kind, voucherKey, adjDate, isPostDated, mode, tenderRowNo, credit⟩, amount⟩ :=
    transfer
  cases kind <;> cases credit <;>
    simp [settlementRows, AllocationAdjustment.swap, flipped.settle, flipped.mirror]

theorem billReductions_swap (bill : AllocationBill) :
    Simulates AllocationError.shape (List.map AllocationAdjustment.swap)
      (billReductions input sides bill) (billReductions input.swap other bill) := by
  have rows (adjType : BillAdjType) (mode : BillSettlementMode) (amount : Decimal)
      (approvedBy : Option String) :
      reductionRow input.swap other bill adjType mode amount approvedBy =
        (reductionRow input sides bill adjType mode amount approvedBy).swap := by
    simp [reductionRow, AllocationAdjustment.swap, flipped.settle, AllocationInput.swap]
  unfold billReductions
  simp only [rows]
  split
  · rfl
  · refine simulates_ok ?_
    simp only [List.map_append]
    congr 1
    · congr 1 <;> split <;> rfl
    · split <;> rfl

theorem addReductions_swap (bills : List AllocationBill) :
    Simulates AllocationError.shape (List.map AllocationAdjustment.swap)
      (addReductions input sides bills) (addReductions input.swap other bills) := by
  induction bills with
  | nil => rfl
  | cons bill rest ih =>
      refine (billReductions_swap flipped bill).bind fun here => ih.bind fun later => ?_
      exact simulates_ok List.map_append.symm

theorem collectOnAccount_swap (sources : List Source) (overflow : Decimal) :
    Simulates AllocationError.shape id (collectOnAccount input sides sources overflow)
      (collectOnAccount input.swap other sources overflow) := by
  have floating : sumOfLines input.swap (fun line => isFloating line other) =
      sumOfLines input fun line => isFloating line sides :=
    sumOfLines_swap (isFloating_swap flipped)
  refine Simulates.bind (?_ : Simulates AllocationError.shape id _ _) fun held => ?_
  · cases sources.foldlM holdSource .empty <;> rfl
  · simp only [floating]
    rfl

/-! ## The derivations -/

theorem partyLegPerVoucher_swap (rows : List AllocationAdjustment)
    (onAccount : List AllocationOnAccount) :
    partyLegPerVoucher input.swap other (rows.map AllocationAdjustment.swap) onAccount =
      partyLegPerVoucher input sides rows onAccount := by
  have postings : partyPostings other (rows.map AllocationAdjustment.swap) onAccount =
      partyPostings sides rows onAccount := by
    simp only [partyPostings, List.map_map]
    congr 1
    refine List.map_congr_left fun row _ => ?_
    simp [AllocationAdjustment.signed, AllocationAdjustment.swap, flipped.settle, DrCr.flip_inj]
  simp only [partyLegPerVoucher, postings]
  rfl

end Kinds

theorem assertFilled_flipped (capacity : List Room) (sides other : Sides) :
    Simulates AllocationError.shape id (assertFilled sides capacity)
      (assertFilled other capacity) := by
  unfold assertFilled
  split <;> rfl

theorem assertOnAccount_flipped (total claimed : Decimal) (sides other : Sides) :
    Simulates AllocationError.shape id (assertOnAccount sides total claimed)
      (assertOnAccount other total claimed) := by
  unfold assertOnAccount
  split <;> rfl

end Stages

/-- The engine in the other direction throws an error of the same kind, fields and
codes, or returns the same result with the sides of its rows and of its party leg
flipped. -/
theorem allocate_swap (input : AllocationInput) :
    (allocate input.swap).mapError AllocationError.shape =
      AllocationResult.swap <$> (allocate input).mapError AllocationError.shape := by
  have flipped := sidesOf_swap input
  change Simulates AllocationError.shape AllocationResult.swap _ _
  refine (assertBillsFit_flipped _ _ _).bind fun _ => ?_
  refine (assertCreditsFit_flipped _ _ _).bind fun _ => ?_
  refine (assertIdentity_swap flipped).bind fun _ => ?_
  refine (reserveDeductions_swap flipped _).bind fun reserved => ?_
  have capacity : reserved.swap.capacity = reserved.capacity := rfl
  have rows : reserved.swap.rows = reserved.rows.map AllocationAdjustment.swap := rfl
  have overflow : reserved.swap.overflow = reserved.overflow := rfl
  have settlement : settlementRows (sidesOf input.swap) = fun transfer =>
      (settlementRows (sidesOf input) transfer).map AllocationAdjustment.swap :=
    funext (settlementRows_swap flipped)
  simp only [buildSources_swap flipped, capacity, rows, overflow, settlement,
    ← List.map_flatMap]
  refine (assertFilled_flipped _ _ _).bind fun _ => ?_
  refine (addReductions_swap flipped _).bind fun reductions => ?_
  refine (collectOnAccount_swap flipped _ _).bind fun onAccount => ?_
  refine (assertOnAccount_flipped _ _ _ _).bind fun _ => ?_
  refine simulates_ok ?_
  simp only [AllocationResult.swap, ← List.map_append, totalPerVoucher_swap,
    partyLegPerVoucher_swap flipped, flipped.settle, id]

end ErpServer.Receipt
