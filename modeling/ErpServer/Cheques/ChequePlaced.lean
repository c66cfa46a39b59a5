import Mathlib.Data.String.Basic
import ErpServer.Cheques.ChequePlan

/-!
# When the money goes where the rules say

The rules a cheque's money is placed by, and the condition under which a re-issue
keeps all of them: the list of five hundred bills reaches far enough, and nothing is
taken off the bills beside the money.
-/

namespace ErpServer.Cheques

open Lib Lib.Fold Receipt BillBalance

/-! ## What was written -/

/-- What the written rows put on one bill. -/
def settledOn (rows : List AdjustmentRow) (ref : BillRef) : Decimal :=
  ((rows.filter fun row => row.ref = ref).map fun row => row.abjAmount).sum

/-- What the rows and the advance credit the party with. -/
def ChequeAllocationOutcome.credited (outcome : ChequeAllocationOutcome) : Decimal :=
  (outcome.rows.map fun row => row.abjAmount).sum +
    (outcome.advance.map fun bill => bill.ablBillAmount).getD 0

variable {scope : ChequeAllocationScope} {plan : AllocationResult}

variable {row : AdjustmentRow} {rows : List AdjustmentRow} {ids : ℕ → String}

theorem adjustmentRow_ok {adjId : String} {rowNo : ℕ} {adjustment : AllocationAdjustment}
    (run : adjustmentRow scope adjId rowNo adjustment = .ok row) :
    row.ref = adjustment.ref ∧ row.abjAdjType = adjustment.adjType ∧
      row.abjAmount = adjustment.amount := by
  rw [adjustmentRow] at run
  split at run
  · cases run
    exact ⟨rfl, rfl, rfl⟩
  · cases run

/-- The rows carry the plan's bills, types and amounts, in its order. -/
theorem writeAdjustments_ok (run : writeAdjustments scope ids plan = .ok rows)
    (weight : TypedWeight) :
    (rows.map fun row => weight row.ref row.abjAdjType * row.abjAmount).sum =
      rowTotal (rowWeight weight) plan.adjustments := by
  have pairs := mapM_ok.mp run
  have same : List.Forall₂ (fun left right => left = right)
      (plan.adjustments.zipIdx.map fun entry =>
        weight entry.1.ref entry.1.adjType * entry.1.amount)
      (rows.map fun row => weight row.ref row.abjAdjType * row.abjAmount) := by
    rw [List.forall₂_map_left_iff, List.forall₂_map_right_iff]
    apply pairs.imp
    intro entry row written
    have facts := adjustmentRow_ok written
    rw [facts.1, facts.2.1, facts.2.2]
  rw [List.forall₂_eq_eq_eq] at same
  have plain : plan.adjustments.zipIdx.map (fun entry =>
      weight entry.1.ref entry.1.adjType * entry.1.amount) =
        plan.adjustments.map fun row => weight row.ref row.adjType * row.amount := by
    rw [← Function.comp_def (fun row : AllocationAdjustment =>
      weight row.ref row.adjType * row.amount) Prod.fst, ← List.map_map, List.zipIdx_map_fst]
  rw [← same, plain]
  rfl

theorem writeAdjustments_owned (run : writeAdjustments scope ids plan = .ok rows)
    (member : row ∈ rows) : ∃ adjustment ∈ plan.adjustments, row.ref = adjustment.ref := by
  have paired := forall₂_right (mapM_ok.mp run) member
  cases paired with
  | intro entry facts =>
      exact ⟨entry.1, List.fst_mem_of_mem_zipIdx facts.1, (adjustmentRow_ok facts.2).1⟩

theorem writeAdvanceBill_ok {advanceId : Uuid} {advance : Option BillRow}
    (run : writeAdvanceBill scope advanceId plan = .ok advance) (nonneg : 0 ≤ plan.totalOnAccount) :
    (advance.map fun bill => bill.ablBillAmount).getD 0 = plan.totalOnAccount := by
  rw [writeAdvanceBill] at run
  split at run
  next none =>
    cases run
    exact le_antisymm nonneg none
  next =>
    split at run
    · cases run
      rfl
    · cases run

/-! ## One allocation -/

/-- The table of bills when the list was read and once the locks were held: a row each,
and between the two the dates and the reference of a bill stay what they are. -/
structure Receivables where
  read : List BillRow
  held : List BillRow
  readOnce : (read.map fun bill => bill.ref).Nodup
  heldOnce : (held.map fun bill => bill.ref).Nodup
  sameBill : ∀ before ∈ read, ∀ after ∈ held, before.ref = after.ref →
    before.ablDueDate = after.ablDueDate ∧ before.ablDocDate = after.ablDocDate ∧
      before.ablDocRefno = after.ablDocRefno

section Allocated

variable {κ : Type} [LinearOrder κ] {collate : String → κ} {read held : List BillRow}
  {scope : ChequeAllocationScope} {ids : ℕ → String} {advanceId : Uuid}
  {request : ChequeAllocationRequest} {outcome : ChequeAllocationOutcome}

/-- Everything an allocation that returned went through. -/
structure Allocated (collate : String → κ) (read held : List BillRow)
    (scope : ChequeAllocationScope) (request : ChequeAllocationRequest)
    (outcome : ChequeAllocationOutcome) (bills : List AllocationBill) : Prop where
  source : chequeBills collate read held scope scope.cheque.apdAmount request = .ok bills
  drawn : ∀ bill ∈ bills, Drawn held bill
  plans : PlansCheque scope.cheque.apdAmount bills outcome.plan
  owned : ∀ row ∈ outcome.rows, ∃ bill ∈ bills, row.ref = bill.ref
  shares : ∀ weight : TypedWeight,
    (outcome.rows.map fun row => weight row.ref row.abjAdjType * row.abjAmount).sum =
      (bills.map (weightedShares weight)).sum
  onAccount : outcome.onAccount =
    scope.cheque.apdAmount - (bills.map AllocationBill.amount).sum
  nonneg : 0 ≤ outcome.onAccount
  advance : (outcome.advance.map fun bill => bill.ablBillAmount).getD 0 = outcome.onAccount

theorem chequeAmount_figure (cheque : LockedCheque) : Figure cheque.apdAmount :=
  ⟨cheque.amountExact ▸ money_mem _, cheque.amountPositive.le⟩

theorem fifoCandidates_uuid {ref : BillRef}
    (member : ref ∈ (fifoCandidates collate read scope).map fun bill => bill.ref) :
    IsUuid ref.billId := by
  rw [List.mem_map] at member
  cases member with
  | intro bill facts => exact facts.2 ▸ bill.isUuid

theorem chequeBills_drawn {bills : List AllocationBill}
    (run : chequeBills collate read held scope scope.cheque.apdAmount request = .ok bills) :
    (∀ bill ∈ bills, Drawn held bill) ∧
      ((bills.map askOf = request.asks ∧ request ≠ .AUTO_FIFO) ∨
        (request = .AUTO_FIFO ∧ ∀ bill ∈ bills, bill.reduction = 0)) := by
  cases request with
  | NAMED rows =>
      have spec := asks_of_pairs ((mapM_ok.mp run).imp fun entry bill ran => namedBill_ok ran)
      exact ⟨spec.1, Or.inl ⟨spec.2, nofun⟩⟩
  | RESTORE rows =>
      have spec := asks_of_pairs ((mapM_ok.mp run).imp fun entry bill ran => restoredBill_ok ran)
      exact ⟨spec.1, Or.inl ⟨spec.2, nofun⟩⟩
  | AUTO_FIFO =>
      cases run
      have spec {bill : AllocationBill} (member : bill ∈ autoFifoBills collate read held scope
          scope.cheque.apdAmount) : Drawn held bill ∧ bill.reduction = 0 :=
        fillInOrder_drawn (chequeAmount_figure scope.cheque).exact
          (fun ref refMem => fifoCandidates_uuid refMem) member
      exact ⟨fun bill member => (spec member).1, Or.inr ⟨rfl, fun bill member => (spec member).2⟩⟩

theorem assertWithinCheque_ok {amount allocated : Decimal} {nothing : Unit}
    (run : assertWithinCheque scope amount allocated request = .ok nothing) :
    allocated ≤ amount := by
  by_contra more
  cases request with
  | NAMED rows =>
      rw [assertWithinCheque, if_pos (not_le.mp more)] at run
      · cases run
      · nofun
  | AUTO_FIFO =>
      rw [assertWithinCheque, if_pos (not_le.mp more)] at run
      · cases run
      · nofun
  | RESTORE rows =>
      rw [assertWithinCheque, if_pos (not_le.mp more)] at run
      cases run

/-- The plan behind an allocation that returned, and what was written of it. -/
structure Planned (collate : String → κ) (read held : List BillRow)
    (scope : ChequeAllocationScope) (ids : ℕ → String) (advanceId : Uuid)
    (request : ChequeAllocationRequest) (outcome : ChequeAllocationOutcome)
    (bills : List AllocationBill) : Prop where
  source : chequeBills collate read held scope scope.cheque.apdAmount request = .ok bills
  within : (bills.map AllocationBill.amount).sum ≤ scope.cheque.apdAmount
  planned : allocate (chequeInput scope scope.cheque.apdAmount bills
    (bills.map AllocationBill.amount).sum) = .ok outcome.plan
  rows : writeAdjustments scope ids outcome.plan = .ok outcome.rows
  advance : writeAdvanceBill scope advanceId outcome.plan = .ok outcome.advance
  onAccount : outcome.onAccount = outcome.plan.totalOnAccount

theorem planned_of_run (run : allocateChequeMoney collate read held scope ids advanceId request =
    .ok outcome) : ∃ bills, Planned collate read held scope ids advanceId request outcome bills := by
  simp only [allocateChequeMoney, scope.cheque.amountExact] at run
  obtain ⟨bills, source, run⟩ := bind_eq_ok run
  obtain ⟨_, within, run⟩ := bind_eq_ok run
  obtain ⟨plan, planRun, run⟩ := bind_eq_ok run
  obtain ⟨rows, rowsRun, run⟩ := bind_eq_ok run
  obtain ⟨advance, advanceRun, run⟩ := bind_eq_ok run
  cases run
  have drawn := (chequeBills_drawn source).1
  have exactTotal : sum (bills.map AllocationBill.amount) =
      (bills.map AllocationBill.amount).sum := by
    apply sum_of_mem
    intro value member
    rw [List.mem_map] at member
    cases member with
    | intro bill facts => exact facts.2 ▸ (drawn bill facts.1).exact.amount
  rw [exactTotal] at within planRun
  exact ⟨bills, source, assertWithinCheque_ok within, mapError_ok planRun, mapError_ok rowsRun,
    mapError_ok advanceRun, rfl⟩

theorem Planned.allocated {bills : List AllocationBill}
    (planned : Planned collate read held scope ids advanceId request outcome bills) :
    Allocated collate read held scope request outcome bills := by
  have drawn := (chequeBills_drawn planned.source).1
  have plans := plansCheque (chequeAmount_figure scope.cheque)
    (fun bill member => (drawn bill member).exact) planned.within planned.planned
  have nonneg : 0 ≤ outcome.plan.totalOnAccount := by
    rw [plans.onAccount]
    exact sub_nonneg.mpr planned.within
  constructor
  · exact planned.source
  · exact drawn
  · exact plans
  · intro row member
    have written := writeAdjustments_owned planned.rows member
    cases written with
    | intro adjustment facts =>
        rw [facts.2]
        exact (plans.owned adjustment facts.1).2
  · intro weight
    rw [writeAdjustments_ok planned.rows, plans.shares]
  · exact planned.onAccount.trans plans.onAccount
  · rw [planned.onAccount]
    exact nonneg
  · rw [planned.onAccount]
    exact writeAdvanceBill_ok planned.advance nonneg

theorem allocated_of_run (run : allocateChequeMoney collate read held scope ids advanceId request =
    .ok outcome) : ∃ bills, Allocated collate read held scope request outcome bills := by
  cases planned_of_run run with
  | intro bills planned => exact ⟨bills, planned.allocated⟩

variable {bills : List AllocationBill}

/-- What lies on one bill is what the bills of the plan ask for on it. -/
theorem Allocated.settledOn_eq (allocated : Allocated collate read held scope request outcome bills)
    (ref : BillRef) : settledOn outcome.rows ref =
      ((bills.filter fun bill => bill.ref = ref).map fun bill =>
        bill.amount + bill.reduction).sum := by
  have shares := allocated.shares fun other _ => if other = ref then 1 else 0
  have rows := ListSum.sum_ite_filter outcome.rows (fun row => row.abjAmount)
    fun row => decide (row.ref = ref)
  have asked := ListSum.sum_ite_filter bills (fun bill => bill.amount + bill.reduction)
    fun bill => decide (bill.ref = ref)
  rw [settledOn, ← rows, ← asked]
  have left : (outcome.rows.map fun row =>
      (if row.ref = ref then (1 : Decimal) else 0) * row.abjAmount) =
        outcome.rows.map fun row => if decide (row.ref = ref) then row.abjAmount else 0 := by
    apply List.map_congr_left
    intro row _
    by_cases here : row.ref = ref <;> simp [here]
  have right : (bills.map (weightedShares fun other _ => if other = ref then 1 else 0)) =
      bills.map fun bill => if decide (bill.ref = ref) then bill.amount + bill.reduction else 0 := by
    apply List.map_congr_left
    intro bill _
    by_cases here : bill.ref = ref
    · simp [weightedShares, here, AllocationBill.reduction]
      ring
    · simp [weightedShares, here]
  rw [left, right] at shares
  exact shares

theorem Allocated.settledOn_bill
    (allocated : Allocated collate read held scope request outcome bills) {bill : AllocationBill}
    (member : bill ∈ bills) : settledOn outcome.rows bill.ref = bill.amount + bill.reduction := by
  rw [allocated.settledOn_eq, ListSum.filter_key_eq allocated.plans.nodup member]
  simp

theorem Allocated.rows_sum (allocated : Allocated collate read held scope request outcome bills) :
    (outcome.rows.map fun row => row.abjAmount).sum =
      (bills.map AllocationBill.amount).sum + (bills.map AllocationBill.reduction).sum := by
  have shares := allocated.shares fun _ _ => 1
  have right : bills.map (weightedShares fun _ _ => 1) =
      bills.map fun bill => bill.amount + bill.reduction := by
    apply List.map_congr_left
    intro bill _
    simp only [weightedShares, AllocationBill.reduction]
    ring
  simp only [one_mul] at shares
  rw [shares, right, List.sum_map_add]

/-- What a request asks for beside the money is what the bills are reduced by. -/
theorem Allocated.reductions (allocated : Allocated collate read held scope request outcome bills) :
    (bills.map AllocationBill.reduction).sum = request.reductions := by
  have drawn := (chequeBills_drawn allocated.source).2
  cases drawn with
  | inl named =>
      rw [ChequeAllocationRequest.reductions, ← named.1, List.map_map]
      rfl
  | inr fifo =>
      rw [fifo.1]
      apply List.sum_eq_zero
      intro value member
      rw [List.mem_map] at member
      cases member with
      | intro bill facts => exact facts.2 ▸ fifo.2 bill facts.1

theorem Allocated.credited (allocated : Allocated collate read held scope request outcome bills) :
    outcome.credited = scope.cheque.apdAmount + request.reductions := by
  rw [ChequeAllocationOutcome.credited, allocated.advance, allocated.rows_sum, allocated.onAccount,
    allocated.reductions]
  ring

/-- Every bill has room for what was put on it. -/
theorem Allocated.within (allocated : Allocated collate read held scope request outcome bills)
    (once : (held.map fun bill => bill.ref).Nodup) {row : BillRow} (member : row ∈ held) :
    settledOn outcome.rows row.ref ≤ row.ablPendingAmount := by
  by_cases asked : ∃ bill ∈ bills, bill.ref = row.ref
  · obtain ⟨bill, billMem, same⟩ := asked
    obtain ⟨other, otherMem, otherRef, pending⟩ := (allocated.drawn bill billMem).row
    have isRow : other = row := List.inj_on_of_nodup_map once otherMem member
      (otherRef.trans same)
    have fits := (allocated.plans.fits bill billMem).pending
    have exact := (allocated.drawn bill billMem).exact
    rw [AllocationBill.settled, money_of_mem exact.amount, money_of_mem exact.pending, ← pending,
      isRow] at fits
    rw [← same, allocated.settledOn_bill billMem, AllocationBill.reduction]
    linarith
  · rw [allocated.settledOn_eq]
    have none : bills.filter (fun bill => bill.ref = row.ref) = [] := by
      apply List.filter_eq_nil_iff.mpr
      intro bill billMem here
      exact asked ⟨bill, billMem, of_decide_eq_true here⟩
    rw [none]
    exact row.pending_nonneg

/-! ## Oldest due first -/

def openReceivables (held : List BillRow) (scope : ChequeAllocationScope) : List BillRow :=
  held.filter (isOpenReceivable scope.partyId scope.companyId)

/-- Nothing is left over while a receivable is open, and nothing is settled ahead of a
bill that is due earlier. -/
structure FollowsDueOrder (collate : String → κ) (held : List BillRow)
    (scope : ChequeAllocationScope) (outcome : ChequeAllocationOutcome) : Prop where
  nothingOver : 0 < outcome.onAccount → ∀ bill ∈ openReceivables held scope,
    settledOn outcome.rows bill.ref = bill.ablPendingAmount
  oldestFirst : ∀ later ∈ held, 0 < settledOn outcome.rows later.ref →
    ∀ earlier ∈ openReceivables held scope, earlier.dueOrder collate < later.dueOrder collate →
      settledOn outcome.rows earlier.ref = earlier.ablPendingAmount

/-- The bills of the list, as references. -/
def listedRefs (collate : String → κ) (read : List BillRow) (scope : ChequeAllocationScope) :
    List BillRef :=
  (fifoCandidates collate read scope).map fun bill => bill.ref

/-- A receivable that is open and not on the list stands behind bills of the list that
take the whole cheque. -/
def ListReaches (collate : String → κ) (read held : List BillRow)
    (scope : ChequeAllocationScope) : Prop :=
  ∀ bill ∈ openReceivables held scope, bill.ref ∉ listedRefs collate read scope →
    scope.cheque.apdAmount ≤ (((fifoCandidates collate read scope).filter fun listed =>
      listed.dueOrder collate ≤ bill.dueOrder collate).map fun listed =>
        roomUnder (lockBills (balances held) (listedRefs collate read scope)) listed.ref).sum

/-- The place a reference has in the due order, as it was read. -/
def dueOf (collate : String → κ) (read : List BillRow) (ref : BillRef) :
    WithBot (WithTop Date ×ₗ Date ×ₗ κ) :=
  (read.find? fun bill => bill.ref = ref).elim ⊥ fun bill => (bill.dueOrder collate : WithBot _)

section DueOrder

variable {listings : Receivables} {bill : BillRow}

omit [LinearOrder κ] in
theorem dueOf_read (member : bill ∈ listings.read) :
    dueOf collate listings.read bill.ref = bill.dueOrder collate := by
  cases found : listings.read.find? fun other => other.ref = bill.ref with
  | none =>
      have absent := List.find?_eq_none.mp found bill member
      simp at absent
  | some other =>
      have same : other.ref = bill.ref := by simpa using List.find?_some found
      have isBill := List.inj_on_of_nodup_map listings.readOnce (List.mem_of_find?_eq_some found)
        member same
      rw [dueOf, found, isBill]
      rfl

theorem mem_fifoCandidates (member : bill ∈ fifoCandidates collate read scope) :
    bill ∈ read ∧ isOpenReceivable scope.partyId scope.companyId bill = true := by
  have sorted := List.mem_of_mem_take member
  rw [List.mem_insertionSort] at sorted
  exact List.mem_filter.mp sorted

theorem dueOf_held (member : bill ∈ listings.held)
    (listed : bill.ref ∈ listedRefs collate listings.read scope) :
    dueOf collate listings.read bill.ref = bill.dueOrder collate := by
  rw [listedRefs, List.mem_map] at listed
  cases listed with
  | intro candidate facts =>
      have inRead := (mem_fifoCandidates facts.1).1
      have dates := listings.sameBill candidate inRead bill member facts.2
      rw [← facts.2, dueOf_read inRead, BillRow.dueOrder, BillRow.dueOrder, dates.1, dates.2.1,
        dates.2.2]

theorem listedRefs_nodup (once : (read.map fun bill => bill.ref).Nodup) :
    (listedRefs collate read scope).Nodup := by
  have kept : ((read.filter (isOpenReceivable scope.partyId scope.companyId)).map
      fun bill => bill.ref).Nodup := once.sublist (List.filter_sublist.map _)
  have sorted := ((List.perm_insertionSort (fun left right : BillRow =>
    left.dueOrder collate ≤ right.dueOrder collate)
      (read.filter (isOpenReceivable scope.partyId scope.companyId))).map
        fun bill => bill.ref).nodup_iff.mpr kept
  exact sorted.sublist ((List.take_sublist _ _).map _)

theorem fifoCandidates_sorted : (fifoCandidates collate read scope).Pairwise
    fun before after => before.dueOrder collate ≤ after.dueOrder collate := by
  have total : Std.Total fun left right : BillRow =>
      left.dueOrder collate ≤ right.dueOrder collate := ⟨fun left right => le_total _ _⟩
  have trans : IsTrans BillRow fun left right =>
      left.dueOrder collate ≤ right.dueOrder collate := ⟨fun _ _ _ => le_trans⟩
  exact (List.pairwise_insertionSort _ _).sublist (List.take_sublist _ _)

theorem listedRefs_sorted : (listedRefs collate listings.read scope).Pairwise
    fun before after => dueOf collate listings.read before ≤ dueOf collate listings.read after := by
  rw [listedRefs, List.pairwise_map]
  apply fifoCandidates_sorted.imp_of_mem
  intro before after beforeMem afterMem ordered
  rw [dueOf_read (mem_fifoCandidates beforeMem).1, dueOf_read (mem_fifoCandidates afterMem).1]
  exact WithBot.coe_le_coe.mpr ordered

theorem listed_ownLocks : OwnLocks (lockBills (balances held) (listedRefs collate read scope))
    (listedRefs collate read scope) := by
  intro candidate member bill found
  have row := found_under_lock (fifoCandidates_uuid member) found
  cases row with
  | intro source facts =>
      rw [← facts.2.1]
      exact facts.2.2

/-- What the list up to a place has room for, row by row or reference by reference. -/
theorem room_upTo (bound : WithTop Date ×ₗ Date ×ₗ κ) (room : BillRef → Decimal) :
    (((fifoCandidates collate listings.read scope).filter fun listed =>
        listed.dueOrder collate ≤ bound).map fun listed => room listed.ref).sum =
      (((listedRefs collate listings.read scope).filter fun ref =>
        dueOf collate listings.read ref ≤ (bound : WithBot _)).map room).sum := by
  rw [listedRefs, List.filter_map, List.map_map]
  have same : (fifoCandidates collate listings.read scope).filter (fun listed =>
      listed.dueOrder collate ≤ bound) = (fifoCandidates collate listings.read scope).filter
        ((fun ref => decide (dueOf collate listings.read ref ≤ (bound : WithBot _))) ∘
          fun bill => bill.ref) := by
    apply List.filter_congr
    intro listed member
    rw [Function.comp_apply, dueOf_read (mem_fifoCandidates member).1]
    exact decide_eq_decide.mpr WithBot.coe_le_coe.symm
  rw [same]
  rfl

/-- A listed receivable has its pending amount as room. -/
theorem room_of_open (member : bill ∈ openReceivables listings.held scope)
    (listed : bill.ref ∈ listedRefs collate listings.read scope) :
    roomUnder (lockBills (balances listings.held) (listedRefs collate listings.read scope))
      bill.ref = bill.ablPendingAmount := by
  rw [openReceivables, List.mem_filter] at member
  have found := get?_lockBills listings.heldOnce member.1 listed
  have kind := member.2
  simp only [isOpenReceivable, BillRow.ablStatus, Bool.and_eq_true, decide_eq_true_eq,
    Bool.not_eq_true'] at kind
  have alive : bill.ablIsDeleted = false := kind.1.1.1.2
  have pending : ¬ bill.ablPendingAmount ≤ 0 := by
    intro closed
    exact of_decide_eq_true kind.2 (if_pos closed)
  rw [roomUnder, found]
  simp [alive, pending]

section Fifo

variable (allocated :
  Allocated collate listings.read listings.held scope .AUTO_FIFO outcome bills)

include allocated

/-- What a bill takes is what filling the list in order gives it. -/
theorem settledOn_taken (ref : BillRef) : settledOn outcome.rows ref =
    InOrder.taken (roomUnder (lockBills (balances listings.held)
      (listedRefs collate listings.read scope))) scope.cheque.apdAmount
        (listedRefs collate listings.read scope) ref := by
  have drawn := (chequeBills_drawn allocated.source).2
  have noReduction : ∀ bill ∈ bills, bill.reduction = 0 := by
    cases drawn with
    | inl named => exact absurd rfl named.2
    | inr fifo => exact fifo.2
  have source : bills = fillInOrder (lockBills (balances listings.held)
      (listedRefs collate listings.read scope)) scope.cheque.apdAmount
        (listedRefs collate listings.read scope) := (Except.ok.inj allocated.source).symm
  rw [← fillInOrder_taken scope.cheque.amountPositive.le (listedRefs_nodup listings.readOnce)
    listed_ownLocks, ← source, allocated.settledOn_eq, amountOn]
  refine congrArg List.sum (List.map_congr_left fun bill member => ?_)
  rw [noReduction bill (List.mem_of_mem_filter member), add_zero]

theorem sum_taken_listed : ((listedRefs collate listings.read scope).map
    (settledOn outcome.rows)).sum = scope.cheque.apdAmount - outcome.onAccount := by
  have drawn := (chequeBills_drawn allocated.source).2
  have source : bills = fillInOrder (lockBills (balances listings.held)
      (listedRefs collate listings.read scope)) scope.cheque.apdAmount
        (listedRefs collate listings.read scope) := (Except.ok.inj allocated.source).symm
  have keys : ((listedRefs collate listings.read scope).map id).Nodup := by
    rw [List.map_id]
    exact listedRefs_nodup listings.readOnce
  have named : ∀ bill ∈ bills, ∃ ref ∈ listedRefs collate listings.read scope,
      some bill.ref = some (id ref) := by
    intro bill member
    rw [source] at member
    exact ⟨bill.ref, fillInOrder_refs _ listed_ownLocks member, rfl⟩
  have owner := ListSum.sum_by_owner keys AllocationBill.amount named
  have each : ∀ ref ∈ listedRefs collate listings.read scope, settledOn outcome.rows ref =
      ((bills.filter fun bill => some bill.ref = some (id ref)).map AllocationBill.amount).sum := by
    intro ref _
    rw [allocated.settledOn_eq]
    simp only [id, Option.some.injEq]
    refine congrArg List.sum (List.map_congr_left fun bill member => ?_)
    cases drawn with
    | inl byName => exact absurd rfl byName.2
    | inr fifo => rw [fifo.2 bill (List.mem_of_mem_filter member), add_zero]
  rw [List.map_congr_left each, ← owner, allocated.onAccount, sub_sub_cancel]

theorem followsDueOrder_of_reaches
    (reaches : ListReaches collate listings.read listings.held scope) :
    FollowsDueOrder collate listings.held scope outcome := by
  have money := scope.cheque.amountPositive.le
  have once : (listedRefs collate listings.read scope).Nodup := listedRefs_nodup listings.readOnce
  constructor
  · intro remains bill openMem
    have spare : ((listedRefs collate listings.read scope).map (roomUnder (lockBills
        (balances listings.held) (listedRefs collate listings.read scope)))).sum <
          scope.cheque.apdAmount := by
      have total := sum_taken_listed allocated
      rw [List.map_congr_left fun ref _ => settledOn_taken allocated ref,
        InOrder.sum_taken roomUnder_nonneg money once] at total
      by_contra full
      rw [min_eq_left (not_lt.mp full)] at total
      linarith
    by_cases listed : bill.ref ∈ listedRefs collate listings.read scope
    · rw [settledOn_taken allocated, InOrder.taken_eq_room roomUnder_nonneg money spare.le listed,
        room_of_open openMem listed]
    · have covered := reaches bill openMem listed
      rw [room_upTo] at covered
      have part : ((listedRefs collate listings.read scope).filter fun ref =>
          dueOf collate listings.read ref ≤ (bill.dueOrder collate : WithBot _)).Sublist
            (listedRefs collate listings.read scope) := List.filter_sublist
      have bounded := (part.map (roomUnder (lockBills (balances listings.held)
        (listedRefs collate listings.read scope)))).sum_le_sum (fun value member => by
          rw [List.mem_map] at member
          cases member with
          | intro ref facts => exact facts.2 ▸ roomUnder_nonneg ref)
      exact absurd (covered.trans bounded) (not_le.mpr spare)
  · intro later laterMem reached earlier openMem before
    have inHeld := (List.mem_filter.mp openMem).1
    rw [settledOn_taken allocated] at reached
    have laterListed : later.ref ∈ listedRefs collate listings.read scope := by
      by_contra absent
      rw [InOrder.taken_of_not_mem absent] at reached
      exact lt_irrefl _ reached
    have laterDue := dueOf_held laterMem laterListed
    by_cases listed : earlier.ref ∈ listedRefs collate listings.read scope
    · rw [settledOn_taken allocated, ← room_of_open openMem listed]
      apply InOrder.earlier_full (dueOf collate listings.read) roomUnder_nonneg money
        listedRefs_sorted listed _ reached
      rw [dueOf_held inHeld listed, laterDue]
      exact WithBot.coe_lt_coe.mpr before
    · have covered := reaches earlier openMem listed
      rw [room_upTo] at covered
      have past : (earlier.dueOrder collate : WithBot _) < dueOf collate listings.read later.ref := by
        rw [laterDue]
        exact WithBot.coe_lt_coe.mpr before
      rw [InOrder.taken_past (dueOf collate listings.read) roomUnder_nonneg money
        listedRefs_sorted covered past] at reached
      exact absurd reached (lt_irrefl _)

theorem reaches_of_followsDueOrder (follows : FollowsDueOrder collate listings.held scope outcome) :
    ListReaches collate listings.read listings.held scope := by
  intro bill openMem unlisted
  have money := scope.cheque.amountPositive.le
  have untouched : settledOn outcome.rows bill.ref = 0 := by
    rw [settledOn_taken allocated, InOrder.taken_of_not_mem unlisted]
  have stillOpen : settledOn outcome.rows bill.ref ≠ bill.ablPendingAmount := by
    intro settled
    have kind := (List.mem_filter.mp openMem).2
    simp only [isOpenReceivable, BillRow.ablStatus, Bool.and_eq_true, decide_eq_true_eq] at kind
    exact of_decide_eq_true kind.2 (if_pos (by rw [← settled, untouched]))
  have spent : outcome.onAccount = 0 := by
    apply le_antisymm _ allocated.nonneg
    by_contra remains
    exact stillOpen (follows.nothingOver (not_le.mp remains) bill openMem)
  have total := sum_taken_listed allocated
  -- Past the place of the bill nothing was settled, so all of it lies before.
  have past : ∀ ref ∈ listedRefs collate listings.read scope,
      decide (dueOf collate listings.read ref ≤ (bill.dueOrder collate : WithBot _)) = false →
        settledOn outcome.rows ref = 0 := by
    intro ref refMem further
    by_contra reached
    have taken := settledOn_taken allocated ref
    have positive : 0 < settledOn outcome.rows ref := by
      apply lt_of_le_of_ne _ (Ne.symm reached)
      rw [taken]
      exact InOrder.taken_nonneg roomUnder_nonneg money ref
    have room : settledOn outcome.rows ref ≤ roomUnder (lockBills (balances listings.held)
        (listedRefs collate listings.read scope)) ref := by
      rw [taken]
      exact InOrder.taken_le_room roomUnder_nonneg money ref
    cases found : (lockBills (balances listings.held)
        (listedRefs collate listings.read scope)).get? ref.key with
    | none =>
        rw [roomUnder, found] at room
        exact absurd positive (not_lt.mpr room)
    | some locked =>
        obtain ⟨later, laterMem, -, laterRef⟩ :=
          found_under_lock (fifoCandidates_uuid refMem) found
        rw [← laterRef] at refMem further positive
        rw [dueOf_held laterMem refMem, decide_eq_false_iff_not, not_le] at further
        exact stillOpen (follows.oldestFirst later laterMem positive bill openMem
          (WithBot.coe_lt_coe.mp further))
  rw [room_upTo]
  calc scope.cheque.apdAmount
      = ((listedRefs collate listings.read scope).map (settledOn outcome.rows)).sum := by
        rw [total, spent, sub_zero]
    _ = (((listedRefs collate listings.read scope).filter fun ref =>
          decide (dueOf collate listings.read ref ≤ (bill.dueOrder collate : WithBot _))).map
            (settledOn outcome.rows)).sum := (ListSum.sum_filter_of_zero past).symm
    _ ≤ _ := by
        apply List.sum_le_sum
        intro ref _
        rw [settledOn_taken allocated]
        exact InOrder.taken_le_room roomUnder_nonneg money ref

end Fifo

end DueOrder

/-! ## The rules -/

/-- What the legs of a voucher credit the party with. -/
def partyLeg (legs : List ChequeLegSpec) (partyId : String) : Decimal :=
  ((legs.filter fun leg => leg.drCr = .CR && leg.ledgerId = partyId).map
    ChequeLegSpec.amount).sum

/-- A cheque's money goes where the rules say. -/
structure MoneyPlaced (collate : String → κ) (held : List BillRow)
    (params : ReissueParams) (place : ReissuePlace) (legs : List ChequeLegSpec)
    (outcome : ChequeAllocationOutcome) : Prop where
  dueOrder : allocationRequest params = .AUTO_FIFO →
    FollowsDueOrder collate held (reissueScope params place) outcome
  /-- The rows settle exactly what was asked for, to the paisa, and nothing else. -/
  asked : ∀ ask ∈ (allocationRequest params).asks,
    settledOn outcome.rows ask.ref = ask.amount + ask.reduction
  onlyAsked : allocationRequest params ≠ .AUTO_FIFO → ∀ row ∈ outcome.rows,
    ∃ ask ∈ (allocationRequest params).asks, row.ref = ask.ref
  total : (outcome.rows.map fun row => row.abjAmount).sum + outcome.onAccount =
    params.amount + (allocationRequest params).reductions
  noneBelowZero : ∀ bill ∈ held, settledOn outcome.rows bill.ref ≤ bill.ablPendingAmount
  partyLeg : partyLeg legs params.cheque.apdPartyId = outcome.credited

variable {listings : Receivables} {params : ReissueParams} {place : ReissuePlace}
  {legs : List ChequeLegSpec}

/-- A re-issue that placed money wrote the two legs and ran one allocation. -/
theorem reissue_ok (run : reissue collate read held params place = .ok ⟨legs, some outcome⟩) :
    legs = reissueLegs params place.inHandLedgerId ∧
      ∃ bills, Allocated collate read held (reissueScope params place)
        (allocationRequest params) outcome bills := by
  rw [reissue] at run
  split at run
  · split at run
    · cases run
    · cases run
  · cases bind_eq_ok run with
    | intro result steps =>
        cases steps.2
        exact ⟨rfl, allocated_of_run steps.1⟩

theorem partyLeg_reissueLegs (params : ReissueParams) (inHandLedgerId : String) :
    partyLeg (reissueLegs params inHandLedgerId) params.cheque.apdPartyId = params.amount := by
  simp [partyLeg, reissueLegs]

/-- The leg is fixed before the plan is known; the bills are credited with as much when
nothing is reduced. -/
theorem partyLeg_eq_credited_iff
    (run : reissue collate read held params place = .ok ⟨legs, some outcome⟩) :
    partyLeg legs params.cheque.apdPartyId = outcome.credited ↔
      (allocationRequest params).reductions = 0 := by
  have spec := reissue_ok run
  cases spec.2 with
  | intro bills allocated =>
      rw [spec.1, partyLeg_reissueLegs, allocated.credited]
      exact left_eq_add

theorem Allocated.asked (allocated : Allocated collate read held scope request outcome bills)
    {ask : Ask} (member : ask ∈ request.asks) :
    settledOn outcome.rows ask.ref = ask.amount + ask.reduction := by
  cases (chequeBills_drawn allocated.source).2 with
  | inl named =>
      rw [← named.1, List.mem_map] at member
      cases member with
      | intro bill facts =>
          rw [← facts.2]
          exact allocated.settledOn_bill facts.1
  | inr fifo =>
      rw [fifo.1] at member
      cases member

theorem Allocated.onlyAsked (allocated : Allocated collate read held scope request outcome bills)
    (byName : request ≠ .AUTO_FIFO) {row : AdjustmentRow} (member : row ∈ outcome.rows) :
    ∃ ask ∈ request.asks, row.ref = ask.ref := by
  cases (chequeBills_drawn allocated.source).2 with
  | inl named =>
      cases allocated.owned row member with
      | intro bill facts =>
          rw [← named.1]
          exact ⟨askOf bill, List.mem_map_of_mem facts.1, facts.2⟩
  | inr fifo => exact absurd fifo.1 byName

/-- The money of a re-issue goes where the rules say exactly when the list reaches far
enough and nothing is taken off the bills beside the money. -/
theorem reissue_places_money_iff
    (run : reissue collate listings.read listings.held params place = .ok ⟨legs, some outcome⟩) :
    MoneyPlaced collate listings.held params place legs outcome ↔
      (allocationRequest params = .AUTO_FIFO →
        ListReaches collate listings.read listings.held (reissueScope params place)) ∧
      (allocationRequest params).reductions = 0 := by
  have leg := partyLeg_eq_credited_iff run
  have spec := reissue_ok run
  cases spec.2 with
  | intro bills allocated =>
      constructor
      · intro placed
        refine ⟨fun fifo => ?_, leg.mp placed.partyLeg⟩
        have follows := placed.dueOrder fifo
        rw [fifo] at allocated
        exact reaches_of_followsDueOrder allocated follows
      · intro condition
        constructor
        · intro fifo
          have reaches := condition.1 fifo
          rw [fifo] at allocated
          exact followsDueOrder_of_reaches allocated reaches
        · exact fun ask member => allocated.asked member
        · exact fun byName row member => allocated.onlyAsked byName member
        · rw [allocated.rows_sum, allocated.onAccount, allocated.reductions]
          change _ + (params.amount - _) = _
          ring
        · exact fun bill member => allocated.within listings.heldOnce member
        · exact leg.mpr condition.2

end Allocated

/-! ## Two re-issues -/

private def receivable (id : String) (refno : String) (amount : ℚ) (due : Option Date)
    (exact : money amount = amount) (positive : 0 < amount) (isUuid : IsUuid id) : BillRow where
  ablId := id
  ablAccYear := "2026-2027"
  ablPartyId := "party"
  ablCompanyId := "company"
  ablBillType := .SALES
  ablDocRefno := refno
  ablBillAmount := amount
  ablSettled := ⟨0, 0, 0⟩
  ablSettledOn := none
  ablDrCr := .DR
  ablIsDeleted := false
  amountExact := exact
  amountPositive := positive
  settledFits :=
    ⟨money_zero, money_zero, money_zero, le_rfl, le_rfl, le_rfl, by
      simpa [SettledAmounts.total] using positive.le⟩
  ablDueDate := due
  ablDocDate := 100
  ablVoucherId := some "invoice"
  isUuid := isUuid

/-- Three receivables, the last without a due date. -/
def threeReceivables : List BillRow :=
  [receivable "b3" "INV-3" 70 none (by decide +kernel) (by norm_num) (by decide),
    receivable "b1" "INV-1" 60 (some 110) (by decide +kernel) (by norm_num) (by decide),
    receivable "b2" "INV-2" 50 (some 120) (by decide +kernel) (by norm_num) (by decide)]

def threeListings : Receivables where
  read := threeReceivables
  held := threeReceivables
  readOnce := by decide
  heldOnce := by decide
  sameBill := by
    intro before beforeMem after afterMem same
    have once : (threeReceivables.map fun bill => bill.ref).Nodup := by decide
    have equal := List.inj_on_of_nodup_map once beforeMem afterMem same
    rw [equal]
    exact ⟨rfl, rfl, rfl⟩

private def bounced : LockedCheque where
  apdId := "c1"
  apdAccYear := "2026-2027"
  apdCompanyId := "company"
  apdPartyId := "party"
  apdInstrumentNo := "000451"
  apdInstrumentDate := 130
  apdAmount := 90
  apdPostingMode := .ON_RECEIPT
  apdTenderId := some "tender"
  amountExact := by decide +kernel
  amountPositive := by norm_num

/-- The cheque is replaced, and the operator may name bills for it. -/
def replacement (allocations : List ChequeAllocationDto) : ReissueParams where
  cheque := bounced
  amount := 90
  instrumentNo := "000452"
  instrumentDate := 140
  voucherDate := 140
  allocations := allocations
  restoreReversedBy := none
  what := "replaced"
  isPostDated := false
  amountExact := by decide +kernel
  amountPositive := by norm_num

def replacementPlace : ReissuePlace where
  voucherId := "receipt"
  voucherAccYear := "2026-2027"
  branchId := "branch"
  inHandLedgerId := "cheques in hand"
  apdId := "c2"
  apdAccYear := "2026-2027"
  ids := fun index => "row " ++ toString index
  advanceId := ⟨"advance", by decide⟩

/-- With no bills named the cheque fills the oldest of three, and the list holds all of
them. -/
theorem replacement_fills_oldest : ∃ legs outcome,
    reissue id threeListings.read threeListings.held (replacement []) replacementPlace =
        .ok ⟨legs, some outcome⟩ ∧
      MoneyPlaced id threeListings.held (replacement []) replacementPlace legs outcome := by
  have returns : ((reissue id threeListings.read threeListings.held (replacement [])
      replacementPlace).toOption.bind Reissued.outcome).isSome = true := by decide +kernel
  cases run : reissue id threeListings.read threeListings.held (replacement [])
      replacementPlace with
  | error problem =>
      rw [run] at returns
      cases returns
  | ok result =>
      cases result with
      | mk legs outcome =>
          cases outcome with
          | none =>
              rw [run] at returns
              cases returns
          | some outcome =>
              refine ⟨legs, outcome, rfl, (reissue_places_money_iff run).mpr ⟨fun _ => ?_, rfl⟩⟩
              intro bill openMem unlisted
              have inHeld := (List.mem_filter.mp openMem).1
              have all : ∀ other ∈ threeListings.held, other.ref ∈ listedRefs id
                  threeListings.read (reissueScope (replacement []) replacementPlace) := by
                decide +kernel
              exact absurd (all bill inHeld) unlisted

/-- A discount of 10 beside the 46 and the 44 the operator names. -/
def withDiscount : List ChequeAllocationDto :=
  [⟨"b1", "2026-2027", 46, some 10, none, none, by decide⟩,
    ⟨"b2", "2026-2027", 44, none, none, none, by decide⟩]

/-- The bills are credited with 100 and the voucher credits the party with 90. -/
theorem discounted_replacement_misses_leg : ∃ legs outcome,
    reissue id threeListings.read threeListings.held (replacement withDiscount)
        replacementPlace = .ok ⟨legs, some outcome⟩ ∧
      ¬ MoneyPlaced id threeListings.held (replacement withDiscount) replacementPlace legs
        outcome := by
  have returns : ((reissue id threeListings.read threeListings.held (replacement withDiscount)
      replacementPlace).toOption.bind Reissued.outcome).isSome = true := by decide +kernel
  cases run : reissue id threeListings.read threeListings.held (replacement withDiscount)
      replacementPlace with
  | error problem =>
      rw [run] at returns
      cases returns
  | ok result =>
      cases result with
      | mk legs outcome =>
          cases outcome with
          | none =>
              rw [run] at returns
              cases returns
          | some outcome =>
              refine ⟨legs, outcome, rfl, fun placed => ?_⟩
              have none := (partyLeg_eq_credited_iff run).mp placed.partyLeg
              have ten : (allocationRequest (replacement withDiscount)).reductions = 10 := by
                decide +kernel
              rw [ten] at none
              norm_num at none

end ErpServer.Cheques
