import ErpServer.Cheques.ChequeAllocation
import ErpServer.Receipt.PartyLeg
import ErpServer.Lib.InOrder

/-!
# The plan of one cheque

What the receipt's engine makes of an input with one cheque, some bills and nothing
else: every row lies on a bill of the input, each bill gets each kind of row for
exactly its own figure, and the remainder is the cheque less what it settles.
-/

namespace ErpServer.Cheques

open Lib Lib.Fold Receipt BillBalance

/-- The figures of a bill handed to the engine are two-place figures. -/
structure ExactBill (bill : AllocationBill) : Prop where
  amount : bill.amount ∈ paise
  discount : bill.discount ∈ paise
  writeoff : bill.writeoff ∈ paise
  roundoff : bill.roundoff ∈ paise
  pending : bill.pendingAmount ∈ paise

theorem amounts_mem {bills : List AllocationBill} (exact : ∀ bill ∈ bills, ExactBill bill) :
    (bills.map AllocationBill.amount).sum ∈ paise := by
  apply list_sum_mem
  intro value member
  rw [List.mem_map] at member
  cases member with
  | intro bill facts => exact facts.2 ▸ (exact bill facts.1).amount

/-- A weight of a row that reads the bill and the type of it. -/
abbrev TypedWeight := BillRef → BillAdjType → Decimal

/-- What a bill asks for, each type counted with its own weight. -/
def weightedShares (weight : TypedWeight) (bill : AllocationBill) : Decimal :=
  weight bill.ref .ALLOCATION * bill.amount + weight bill.ref .DISCOUNT * bill.discount +
    weight bill.ref .WRITEOFF * bill.writeoff + weight bill.ref .ROUND_OFF * bill.roundoff

def rowWeight (weight : TypedWeight) (row : AllocationAdjustment) : Decimal :=
  weight row.ref row.adjType

section Plan

variable {scope : ChequeAllocationScope} {amount allocated : Decimal}
  {bills : List AllocationBill} {plan : AllocationResult}

/-- The validation of the engine supplies the signs of the figures. -/
theorem chequeInput_twoPlaces (amountFigure : Figure amount)
    (exact : ∀ bill ∈ bills, ExactBill bill) (claimed : Figure (amount - allocated))
    (run : allocate (chequeInput scope amount bills allocated) = .ok plan) :
    TwoPlaces (chequeInput scope amount bills allocated) := by
  have fits : ∀ bill ∈ bills, BillFits bill := by
    cases bind_eq_ok run with
    | intro _ accepted => exact (assertBillsFit_ok accepted.1).2
  have pending : ∀ bill ∈ bills, Figure bill.pendingAmount := by
    intro bill member
    have covered := (fits bill member).settledPos.trans_le (fits bill member).pending
    rw [money_of_mem (exact bill member).pending] at covered
    exact ⟨(exact bill member).pending, covered.le⟩
  constructor
  · intro bill member
    exact ⟨(exact bill member).amount, (fits bill member).amountNonneg⟩
  · intro bill member
    exact ⟨(exact bill member).discount, (fits bill member).discountNonneg⟩
  · intro bill member
    exact ⟨(exact bill member).writeoff, (fits bill member).writeoffNonneg⟩
  · intro bill member
    exact ⟨(exact bill member).roundoff, (fits bill member).roundoffNonneg⟩
  · exact pending
  · intro credit member
    cases member
  · intro credit member
    cases member
  · intro line member
    cases member
  · intro tender member
    rw [List.mem_singleton.mp member]
    exact amountFigure
  · intro pin member
    cases member
  · exact claimed

theorem chequeInput_distinctLines :
    DistinctLines (chequeInput scope amount bills allocated) := List.nodup_nil

section Run

variable {reserved : Reserved} {reductions : List AllocationAdjustment}

/-- There is nothing to deduct. -/
theorem no_deductions
    (run : Allocates (chequeInput scope amount bills allocated) plan reserved reductions) :
    reserved.rows = [] := by
  apply List.eq_nil_iff_forall_not_mem.mpr
  intro row member
  have placed := run.deductions.reserves.rows row member
  cases placed with
  | intro bill rest =>
      cases rest.2 with
      | intro line source => cases source.1

/-- The only money poured is the cheque's, and it leaves allocations. -/
theorem settled_type {source : SourceOrigin}
    (origin : IsOrigin (chequeInput scope amount bills allocated) source) (bill : AllocationBill)
    (moved : Decimal) (sides : Sides) :
    settlementRows sides ⟨bill, source, moved⟩ = [settleRow sides bill moved source] ∧
      (settleRow sides bill moved source).adjType = .ALLOCATION := by
  rw [settlementRows_eq sides bill moved origin]
  cases origin with
  | credit credit member => cases member
  | money => exact ⟨rfl, rfl⟩
  | cheque tender member => exact ⟨rfl, rfl⟩
  | postDated tender member isPostDated => exact ⟨rfl, rfl⟩

variable {input : AllocationInput} {sides : Sides}

private theorem reductionRow_weight {bill : AllocationBill} {adjType : BillAdjType}
    {mode : BillSettlementMode} {value : Decimal} {approvedBy : Option String}
    (figure : Figure value) (weight : TypedWeight) :
    rowTotal (rowWeight weight) (if 0 < money value then
      [reductionRow input sides bill adjType mode (money value) approvedBy] else []) =
        weight bill.ref adjType * value := by
  rw [figure.money]
  split
  · simp [reductionRow, rowWeight, AllocationAdjustment.ref, AllocationBill.ref]
  next zero => simp [le_antisymm (not_lt.mp zero) figure.nonneg]

/-- The reduction rows, each under its own type. -/
theorem reductions_weight {rest : List AllocationBill} {rows : List AllocationAdjustment}
    (run : addReductions input sides rest = .ok rows)
    (discount : ∀ bill ∈ rest, Figure bill.discount)
    (writeoff : ∀ bill ∈ rest, Figure bill.writeoff)
    (roundoff : ∀ bill ∈ rest, Figure bill.roundoff) (weight : TypedWeight) :
    rowTotal (rowWeight weight) rows =
      (rest.map fun bill => weight bill.ref .DISCOUNT * bill.discount +
        weight bill.ref .WRITEOFF * bill.writeoff +
        weight bill.ref .ROUND_OFF * bill.roundoff).sum := by
  induction rest generalizing rows with
  | nil =>
      cases run
      rfl
  | cons bill rest ih =>
      rw [List.forall_mem_cons] at discount writeoff roundoff
      cases hereRun : billReductions input sides bill with
      | error problem =>
          rw [addReductions, hereRun] at run
          cases run
      | ok here =>
          rw [addReductions, hereRun] at run
          cases laterRun : addReductions input sides rest with
          | error problem =>
              rw [laterRun] at run
              cases run
          | ok later =>
              rw [laterRun] at run
              cases run
              have first : rowTotal (rowWeight weight) here =
                  weight bill.ref .DISCOUNT * bill.discount +
                    weight bill.ref .WRITEOFF * bill.writeoff +
                    weight bill.ref .ROUND_OFF * bill.roundoff := by
                simp only [billReductions] at hereRun
                split at hereRun
                · cases hereRun
                · cases hereRun
                  rw [rowTotal_append, rowTotal_append, reductionRow_weight discount.1,
                    reductionRow_weight writeoff.1, reductionRow_weight roundoff.1]
              rw [rowTotal_append, first, ih laterRun discount.2 writeoff.2 roundoff.2,
                List.map_cons, List.sum_cons]

end Run

/-- What the engine's plan for one cheque comes to. -/
structure PlansCheque (amount : Decimal) (bills : List AllocationBill) (plan : AllocationResult) :
    Prop where
  nodup : (bills.map AllocationBill.ref).Nodup
  fits : ∀ bill ∈ bills, BillFits bill
  owned : ∀ row ∈ plan.adjustments, row.drCr = .CR ∧ ∃ bill ∈ bills, row.ref = bill.ref
  shares : ∀ weight : TypedWeight, rowTotal (rowWeight weight) plan.adjustments =
    (bills.map (weightedShares weight)).sum
  onAccount : plan.totalOnAccount = amount - (bills.map AllocationBill.amount).sum
  partyCredit : plan.partyCreditByVoucher.get? RECEIPT_VOUCHER_KEY =
    some (amount + (bills.map AllocationBill.reduction).sum)

theorem allocate_totalOnAccount {input : AllocationInput}
    (run : allocate input = .ok plan) : plan.totalOnAccount = money input.claimedOnAccount := by
  obtain ⟨_, -, run⟩ := bind_eq_ok run
  obtain ⟨_, -, run⟩ := bind_eq_ok run
  obtain ⟨_, -, run⟩ := bind_eq_ok run
  obtain ⟨_, -, run⟩ := bind_eq_ok run
  obtain ⟨_, -, run⟩ := bind_eq_ok run
  obtain ⟨_, -, run⟩ := bind_eq_ok run
  obtain ⟨_, -, run⟩ := bind_eq_ok run
  obtain ⟨_, held, run⟩ := bind_eq_ok run
  cases run
  exact assertOnAccount_ok held

theorem plansCheque (amountFigure : Figure amount) (exact : ∀ bill ∈ bills, ExactBill bill)
    (within : (bills.map AllocationBill.amount).sum ≤ amount)
    (run : allocate (chequeInput scope amount bills (bills.map AllocationBill.amount).sum) =
      .ok plan) : PlansCheque amount bills plan := by
  have claimed : Figure (amount - (bills.map AllocationBill.amount).sum) :=
    ⟨sub_mem amountFigure.exact (amounts_mem exact), sub_nonneg.mpr within⟩
  have figures := chequeInput_twoPlaces amountFigure exact claimed run
  have held := allocate_totalOnAccount run
  obtain ⟨reserved, reductions, allocates⟩ :=
    allocate_ok figures chequeInput_distinctLines run
  have none := no_deductions allocates
  constructor
  · exact allocates.billsNodup
  · exact allocates.billsFit
  · intro row member
    have owned := (allocates.row_owned figures member).1
    cases owned with
    | inl settled => exact settled
    | inr mirrored =>
        cases mirrored.2 with
        | intro credit facts => cases facts.1
  · intro weight
    have each : ∀ bill ∈ bills, ∀ source,
        IsOrigin (chequeInput scope amount bills (bills.map AllocationBill.amount).sum) source →
        ∀ moved, rowTotal (rowWeight weight) (settlementRows
          (sidesOf (chequeInput scope amount bills (bills.map AllocationBill.amount).sum))
          ⟨bill, source, moved⟩) = weight bill.ref .ALLOCATION * moved := by
      intro bill _ source origin moved
      have single := settled_type origin bill moved
        (sidesOf (chequeInput scope amount bills (bills.map AllocationBill.amount).sum))
      rw [single.1, rowTotal_cons, rowTotal_nil, add_zero, rowWeight, single.2]
      rfl
    -- Nothing was reserved, so the pour starts from the whole of every bill and ends on none.
    have start := allocates.deductions.reserves.conserved fun ref => weight ref .ALLOCATION
    have demand := Pour.pour_demand (fun bill : AllocationBill => weight bill.ref .ALLOCATION)
      reserved.capacity (buildSources
        (chequeInput scope amount bills (bills.map AllocationBill.amount).sum)
        (sidesOf (chequeInput scope amount bills (bills.map AllocationBill.amount).sum)))
    have full := Pour.weighted_eq_zero
      (fun bill : AllocationBill => weight bill.ref .ALLOCATION) allocates.filled
    have opening : Pour.weighted (fun bill : AllocationBill => weight bill.ref .ALLOCATION)
        (initialCapacity bills) =
          (bills.map fun bill => weight bill.ref .ALLOCATION * bill.amount).sum := by
      rw [Pour.weighted, initialCapacity, List.map_map]
      refine congrArg List.sum (List.map_congr_left fun bill member => ?_)
      simp [money_of_mem (exact bill member).amount]
    have reduced := reductions_weight allocates.reductionsRun figures.billDiscount
      figures.billWriteoff figures.billRoundoff weight
    have poured := allocates.rowTotal_eq (rowWeight weight)
      (fun bill _ => weight bill.ref .ALLOCATION) each
    have split : (bills.map (weightedShares weight)).sum =
        (bills.map fun bill => weight bill.ref .ALLOCATION * bill.amount).sum +
          (bills.map fun bill => weight bill.ref .DISCOUNT * bill.discount +
            weight bill.ref .WRITEOFF * bill.writeoff +
            weight bill.ref .ROUND_OFF * bill.roundoff).sum := by
      rw [← List.sum_map_add]
      refine congrArg List.sum (List.map_congr_left fun bill _ => ?_)
      rw [weightedShares]
      ring
    have inputBills : (chequeInput scope amount bills
        (bills.map AllocationBill.amount).sum).bills = bills := rfl
    rw [none, rowTotal_nil, zero_add, inputBills, opening] at start
    rw [pouredOf] at full poured
    rw [none, rowTotal_nil, zero_add, reduced, inputBills] at poured
    linarith
  · rw [held, chequeInput]
    exact money_of_mem claimed.exact
  · have tenders : totalOfTenders (chequeInput scope amount bills
        (bills.map AllocationBill.amount).sum) (fun tender => !tender.isPostDated) = amount := by
      simp [chequeInput, totalOfTenders]
    have lines (kind : AllocationOtherLine → Bool) : totalOfLines (chequeInput scope amount bills
        (bills.map AllocationBill.amount).sum) kind = 0 := rfl
    rw [allocates.partyCredit_receipt figures, moneySideLeg, tenders, lines, lines, sub_zero,
      add_zero]
    rfl

end Plan

/-! ## Where a cheque's money goes

What an allocation that returns has put on each bill and on account, mode by mode,
and when that is what the rules ask for: oldest due first with nothing passed over,
and as much credited to the party's bills as the re-issue voucher credits the party. -/

/-- Renaming the refusal of a step changes nothing of a step that returned. -/
theorem mapError_ok {ε δ α : Type} {rename : ε → δ} {step : Except ε α} {value : α}
    (run : Except.mapError rename step = .ok value) : step = .ok value := by
  cases step with
  | error problem => cases run
  | ok result =>
      cases run
      rfl

/-! ## Keys -/

theorem key_toList (ref : BillRef) :
    ref.key.toList = ref.billId.toList ++ '|' :: ref.billAccYear.toList := by
  simp [BillRef.key]

/-- Without a bar in the ids a key names one bill. -/
theorem key_inj {left right : BillRef} (leftUuid : IsUuid left.billId)
    (rightUuid : IsUuid right.billId) (same : left.key = right.key) : left = right := by
  have chars := congrArg String.toList same
  rw [key_toList, key_toList] at chars
  have cut (ref : BillRef) (uuid : IsUuid ref.billId) :
      (ref.billId.toList ++ '|' :: ref.billAccYear.toList).takeWhile (fun char => char ≠ '|') =
        ref.billId.toList := by
    rw [List.takeWhile_append_of_pos]
    · simp
    · intro char member
      have different : char ≠ '|' := fun equal => uuid (equal ▸ member)
      simpa using different
  have ids := cut left leftUuid
  rw [chars, cut right rightUuid] at ids
  rw [ids, List.append_cancel_left_eq, List.cons.injEq] at chars
  cases left with
  | mk leftId leftYear =>
      cases right with
      | mk rightId rightYear =>
          have sameId : leftId = rightId := String.ext ids.symm
          have sameYear : leftYear = rightYear := String.ext chars.2
          rw [sameId, sameYear]

section Locks

variable {held : List BillRow} {named : List BillRef}

/-- What the lock finds under a reference is the row of that reference. -/
theorem found_under_lock {ref : BillRef} {bill : AccBillBalance} (uuid : IsUuid ref.billId)
    (found : (lockBills (balances held) named).get? ref.key = some bill) :
    ∃ row ∈ held, row.toAccBillBalance = bill ∧ row.ref = ref := by
  have facts := of_lockBills found
  have member := List.mem_map.mp facts.1
  cases member with
  | intro row inHeld =>
      refine ⟨row, inHeld.1, inHeld.2, ?_⟩
      apply key_inj row.isUuid uuid
      rw [inHeld.2]
      exact facts.2

/-- And every row the post names is found. -/
theorem get?_lockBills (once : (held.map fun row => row.ref).Nodup) {row : BillRow}
    (member : row ∈ held) (listed : row.ref ∈ named) :
    (lockBills (balances held) named).get? row.ref.key = some row.toAccBillBalance := by
  have isKey : row.ref.key ∈ (lockBills (balances held) named).keys := by
    rw [lockBills, OrderedMap.mem_keys_ofList, List.map_map, List.mem_map]
    refine ⟨row.toAccBillBalance, List.mem_filter.mpr ⟨List.mem_map_of_mem member, ?_⟩, rfl⟩
    have id : row.ablId ∈ named.map BillRef.billId := List.mem_map_of_mem listed
    have year : row.ablAccYear ∈ named.map BillRef.billAccYear := List.mem_map_of_mem listed
    simp [id, year]
  have present := (OrderedMap.mem_keys_iff _ _).mp isKey
  cases present with
  | intro bill found =>
      have other := found_under_lock row.isUuid found
      cases other with
      | intro otherRow facts =>
          have same := List.inj_on_of_nodup_map once facts.1 member facts.2.2
          rw [found, ← facts.2.1, same]

end Locks

/-! ## The bills drawn -/

/-- A bill handed to the engine carries exact figures and the pending amount of its own
row. -/
structure Drawn (held : List BillRow) (bill : AllocationBill) : Prop where
  exact : ExactBill bill
  row : ∃ row ∈ held, row.ref = bill.ref ∧ row.ablPendingAmount = bill.pendingAmount

/-- One bill a request names, with what it asks for on it. -/
structure Ask where
  ref : BillRef
  amount : Decimal
  reduction : Decimal
  deriving DecidableEq

def ChequeAllocationDto.ask (row : ChequeAllocationDto) : Ask :=
  ⟨row.ref, money row.amount, money (row.discount.getD 0) + money (row.writeoff.getD 0)⟩

def RestoredAllocation.ask (row : RestoredAllocation) : Ask :=
  ⟨row.ref, row.amount, row.discount + row.writeoff + row.roundoff⟩

/-- What a request asks for bill by bill; the oldest-first mode asks for nothing by
name. -/
def ChequeAllocationRequest.asks : ChequeAllocationRequest → List Ask
  | .NAMED rows => rows.map ChequeAllocationDto.ask
  | .RESTORE rows => rows.map RestoredAllocation.ask
  | .AUTO_FIFO => []

/-- Discounts, write-offs and round-offs asked for beside the money. -/
def ChequeAllocationRequest.reductions (request : ChequeAllocationRequest) : Decimal :=
  (request.asks.map Ask.reduction).sum

def askOf (bill : AllocationBill) : Ask := ⟨bill.ref, bill.amount, bill.reduction⟩

section Bills

variable {held : List BillRow} {scope : ChequeAllocationScope}

variable {named : List BillRef}

theorem usableBill_ok {ref : BillRef} {index : ℕ} {bill : AccBillBalance} (uuid : IsUuid ref.billId)
    (run : usableBill (lockBills (balances held) named) scope ref index = .ok bill) :
    ∃ row ∈ held, row.toAccBillBalance = bill ∧ row.ref = ref := by
  exact found_under_lock uuid (assertBillUsable_ok (mapError_ok run)).1

variable {bill : AllocationBill}

theorem namedBill_ok {entry : ChequeAllocationDto × ℕ}
    (run : namedBill (lockBills (balances held) named) scope entry = .ok bill) :
    Drawn held bill ∧ askOf bill = entry.1.ask := by
  obtain ⟨found, usable, run⟩ := bind_eq_ok run
  cases run
  obtain ⟨row, member, same, named⟩ := usableBill_ok entry.1.isUuid usable
  constructor
  · constructor
    · exact ⟨money_mem _, money_mem _, money_mem _, zero_mem _, found.pending_mem⟩
    · exact ⟨row, member, by rw [same]; rfl, by rw [same]⟩
  · have ref : (⟨found.ablId, found.ablAccYear⟩ : BillRef) = entry.1.ref := by
      rw [← named, same]
      rfl
    rw [askOf, AllocationBill.ref, AllocationBill.reduction, add_zero, ref,
      ChequeAllocationDto.ask]

theorem RestoredAllocation.mem_paise (row : RestoredAllocation) {figure : Decimal}
    (member : figure ∈ [row.amount, row.discount, row.writeoff, row.roundoff]) :
    figure ∈ paise := by
  rw [← row.exact figure member]
  exact money_mem _

theorem restoredBill_ok {entry : RestoredAllocation × ℕ}
    (run : restoredBill (lockBills (balances held) named) scope entry = .ok bill) :
    Drawn held bill ∧ askOf bill = entry.1.ask := by
  obtain ⟨_, -, run⟩ := bind_eq_ok run
  obtain ⟨found, usable, run⟩ := bind_eq_ok run
  obtain ⟨row, member, same, named⟩ := usableBill_ok entry.1.isUuid usable
  rw [restoreOn] at run
  split at run
  · cases run
  · cases run
    constructor
    · constructor
      · exact ⟨entry.1.mem_paise (by simp), entry.1.mem_paise (by simp),
          entry.1.mem_paise (by simp), entry.1.mem_paise (by simp), found.pending_mem⟩
      · exact ⟨row, member, by rw [same]; rfl, by rw [same]⟩
    · have ref : (⟨found.ablId, found.ablAccYear⟩ : BillRef) = entry.1.ref := by
        rw [← named, same]
        rfl
      rw [askOf, AllocationBill.ref, AllocationBill.reduction, ref, RestoredAllocation.ask]

/-- Pairs that agree bill by bill give the asks of the request. -/
theorem asks_of_pairs {ι : Type} {rows : List ι} {bills : List AllocationBill}
    {ask : ι → Ask} (pairs : List.Forall₂
      (fun (entry : ι × ℕ) bill => Drawn held bill ∧ askOf bill = ask entry.1) rows.zipIdx bills) :
    (∀ bill ∈ bills, Drawn held bill) ∧ bills.map askOf = rows.map ask := by
  constructor
  · intro bill member
    have paired := forall₂_right pairs member
    cases paired with
    | intro entry facts => exact facts.2.1
  · have same : List.Forall₂ (fun left right => left = right) (rows.zipIdx.map fun entry =>
        ask entry.1) (bills.map askOf) := by
      rw [List.forall₂_map_left_iff, List.forall₂_map_right_iff]
      exact pairs.imp fun entry bill facts => facts.2.symm
    rw [List.forall₂_eq_eq_eq] at same
    have plain : rows.zipIdx.map (fun entry => ask entry.1) = rows.map ask := by
      rw [← Function.comp_def ask Prod.fst, ← List.map_map, List.zipIdx_map_fst]
    rw [← same, plain]

end Bills

/-! ## Oldest due first -/

/-- What a bill can take under the locks. -/
def roomUnder (locked : OrderedMap String AccBillBalance) (ref : BillRef) : Decimal :=
  match locked.get? ref.key with
  | none => 0
  | some bill => if bill.ablIsDeleted ∨ bill.ablPendingAmount ≤ 0 then 0 else bill.ablPendingAmount

/-- What a list of bills puts on one reference. -/
def amountOn (bills : List AllocationBill) (ref : BillRef) : Decimal :=
  ((bills.filter fun bill => bill.ref = ref).map AllocationBill.amount).sum

theorem amountOn_cons (bill : AllocationBill) (bills : List AllocationBill) (ref : BillRef) :
    amountOn (bill :: bills) ref = (if bill.ref = ref then bill.amount else 0) +
      amountOn bills ref := by
  by_cases here : bill.ref = ref
  · simp [amountOn, here]
  · simp [amountOn, here]

section Fifo

variable {locked : OrderedMap String AccBillBalance}

theorem roomUnder_nonneg (ref : BillRef) : 0 ≤ roomUnder locked ref := by
  rw [roomUnder]
  split
  · exact le_rfl
  · split
    · exact le_rfl
    next bill _ open_ =>
      rw [not_or, not_le] at open_
      exact open_.2.le

/-- Every lock is held under the reference of its own bill. -/
def OwnLocks (locked : OrderedMap String AccBillBalance) (candidates : List BillRef) : Prop :=
  ∀ candidate ∈ candidates, ∀ bill, locked.get? candidate.key = some bill → bill.ref = candidate

variable {left : Decimal} {candidates : List BillRef}

theorem fillInOrder_dry (dry : left ≤ 0) (candidates : List BillRef) :
    fillInOrder locked left candidates = [] := by
  cases candidates with
  | nil => rfl
  | cons candidate rest => rw [fillInOrder, if_pos dry]

/-- A candidate without room is passed over; one with room takes what is left of the
money, up to its room. -/
theorem fillInOrder_cons (wet : 0 < left) {candidate : BillRef} {rest : List BillRef}
    (own : OwnLocks locked (candidate :: rest)) : (roomUnder locked candidate = 0 ∧
      fillInOrder locked left (candidate :: rest) = fillInOrder locked left rest) ∨
    ∃ bill : AllocationBill, bill.ref = candidate ∧
      bill.amount = min left (roomUnder locked candidate) ∧
      fillInOrder locked left (candidate :: rest) =
        bill :: fillInOrder locked (left - bill.amount) rest := by
  rw [fillInOrder, if_neg (not_le.mpr wet), roomUnder]
  cases found : locked.get? candidate.key with
  | none => exact Or.inl ⟨rfl, rfl⟩
  | some bill =>
      by_cases closed : bill.ablIsDeleted ∨ bill.ablPendingAmount ≤ 0
      · left
        constructor
        · exact if_pos closed
        · exact if_pos closed
      · right
        refine ⟨_, ?_, ?_, if_neg closed⟩
        · exact own candidate List.mem_cons_self bill found
        · exact congrArg (min left) (if_neg closed).symm

theorem fillInOrder_taken (nonneg : 0 ≤ left) (nodup : candidates.Nodup)
    (own : OwnLocks locked candidates) (query : BillRef) :
    amountOn (fillInOrder locked left candidates) query =
      InOrder.taken (roomUnder locked) left candidates query := by
  induction candidates generalizing left with
  | nil => rfl
  | cons candidate rest ih =>
      rcases nonneg.eq_or_lt with dry | wet
      · rw [fillInOrder_dry dry.ge]
        apply le_antisymm
        · exact InOrder.taken_nonneg roomUnder_nonneg nonneg query
        · have bound : InOrder.taken (roomUnder locked) left (candidate :: rest) query ≤ left :=
            InOrder.taken_le_left roomUnder_nonneg nonneg query
          exact bound.trans dry.ge
      · rw [List.nodup_cons] at nodup
        have ownRest : OwnLocks locked rest := fun other member =>
          own other (List.mem_cons_of_mem _ member)
        have apart : InOrder.taken (roomUnder locked)
            (left - min left (roomUnder locked candidate)) rest candidate = 0 :=
          InOrder.taken_of_not_mem nodup.1
        have later := ih (sub_nonneg.mpr (min_le_left left (roomUnder locked candidate))) nodup.2
          ownRest
        rw [InOrder.taken]
        rcases fillInOrder_cons wet own with ⟨full, passed⟩ | ⟨bill, ref, amount, takes⟩
        · rw [full, min_eq_right nonneg, sub_zero] at apart later ⊢
          rw [passed, later]
          by_cases here : query = candidate
          · rw [if_pos here, here, apart]
          · rw [if_neg here]
        · rw [takes, amountOn_cons, ref, amount, later]
          by_cases here : query = candidate
          · rw [if_pos here.symm, if_pos here, here, apart, add_zero]
          · rw [if_neg (Ne.symm here), if_neg here, zero_add]

variable {bill : AllocationBill}

/-- Only candidates are filled. -/
theorem fillInOrder_refs (own_left : Decimal) (own : OwnLocks locked candidates)
    (member : bill ∈ fillInOrder locked own_left candidates) : bill.ref ∈ candidates := by
  induction candidates generalizing own_left with
  | nil => cases member
  | cons candidate rest ih =>
      have ownRest : OwnLocks locked rest := fun other otherMem =>
        own other (List.mem_cons_of_mem _ otherMem)
      rcases le_or_gt own_left 0 with dry | wet
      · rw [fillInOrder_dry dry] at member
        cases member
      · rcases fillInOrder_cons wet own with ⟨_, passed⟩ | ⟨first, ref, _, takes⟩
        · rw [passed] at member
          exact List.mem_cons_of_mem _ (ih _ ownRest member)
        · rw [takes, List.mem_cons] at member
          cases member with
          | inl here =>
              rw [here, ref]
              exact List.mem_cons_self
          | inr further => exact List.mem_cons_of_mem _ (ih _ ownRest further)

/-- A filled bill is the one under its lock, and what it takes is exact. -/
theorem fillInOrder_drawn {held : List BillRow} {named : List BillRef} (leftMem : left ∈ paise)
    (uuids : ∀ candidate ∈ candidates, IsUuid candidate.billId)
    (member : bill ∈ fillInOrder (lockBills (balances held) named) left candidates) :
    Drawn held bill ∧ bill.reduction = 0 := by
  induction candidates generalizing left with
  | nil => cases member
  | cons candidate rest ih =>
      have uuidsRest : ∀ other ∈ rest, IsUuid other.billId := fun other otherMem =>
        uuids other (List.mem_cons_of_mem _ otherMem)
      rw [fillInOrder] at member
      split at member
      · cases member
      · split at member
        · exact ih leftMem uuidsRest member
        next found foundRun =>
          split at member
          · exact ih leftMem uuidsRest member
          · have row := found_under_lock (uuids candidate List.mem_cons_self) foundRun
            have taken : min left found.ablPendingAmount ∈ paise :=
              Grid.min_mem_grid leftMem found.pending_mem
            cases List.mem_cons.mp member with
            | inl here =>
                rw [here]
                constructor
                · constructor
                  · exact ⟨taken, zero_mem _, zero_mem _, zero_mem _, found.pending_mem⟩
                  · cases row with
                    | intro source facts =>
                        refine ⟨source, facts.1, ?_, ?_⟩
                        · rw [← facts.2.1]
                          rfl
                        · rw [← facts.2.1]
                · simp [AllocationBill.reduction]
            | inr further => exact ih (sub_mem leftMem taken) uuidsRest further

end Fifo

end ErpServer.Cheques
