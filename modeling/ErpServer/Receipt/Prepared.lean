import ErpServer.Receipt.Conservation
import ErpServer.Receipt.Normalised

/-!
# A prepared receipt

What holds of a receipt the normalisations and the engine have accepted: its
tenders and lines are sound, its bills and credits are rows of the table, and the
engine ran on exact figures.
-/

namespace ErpServer.Receipt

open Lib Lib.Fold

/-- The row of the table one bill or credit was read from. -/
structure ReadFrom (table : List AccBillBalance) (post : ReceiptPost) (kind : BillKind)
    (ref : BillRef) (pendingAmount : Decimal) (row : AccBillBalance) : Prop where
  member : row ∈ table
  ref : row.ref = ref
  pending : pendingAmount = row.ablPendingAmount
  alive : row.ablIsDeleted = false
  side : row.ablDrCr = kind.wantSide

variable {table : List AccBillBalance} {named : List BillRef} {post : ReceiptPost}

theorem usableBill_ok {ref : BillRef} {kind : BillKind} {field : String} {row : AccBillBalance}
    (run : usableBill post (lockBills table named) ref kind field = .ok row) :
    ReadFrom table post kind row.ref row.ablPendingAmount row ∧ row.ref.key = ref.key := by
  have facts := assertBillUsable_ok run
  have locked := of_lockBills facts.1
  exact ⟨⟨locked.1, rfl, rfl, facts.2.alive, facts.2.side⟩, locked.2⟩

/-- What a row of the request asks to take off its bill, money and reductions. -/
def PostReceiptAllocationDto.settles (row : PostReceiptAllocationDto) : Decimal :=
  money row.amount + money (row.discount.getD 0) + money (row.writeoff.getD 0) +
    money (row.roundoff.getD 0)

/-- What the engine is told of a bill: figures, read from a receivable of the table. -/
structure ReadBill (table : List AccBillBalance) (post : ReceiptPost) (bill : AllocationBill) :
    Prop where
  amount : Figure bill.amount
  discount : Figure bill.discount
  writeoff : Figure bill.writeoff
  roundoff : Figure bill.roundoff
  row : ∃ row, ReadFrom table post .RECEIVABLE bill.ref bill.pendingAmount row

/-- The row of the request a bill was read for. -/
structure AsksBill (source : PostReceiptAllocationDto) (bill : AllocationBill) : Prop where
  key : bill.ref.key = source.ref.key
  settles : bill.amount + bill.discount + bill.writeoff + bill.roundoff = source.settles

theorem figure_money (value : ℚ≥0) : Figure (money value) :=
  ⟨money_mem _, money_nonneg (NNRat.cast_nonneg _)⟩

theorem allocationBill_ok {entry : PostReceiptAllocationDto × ℕ} {bill : AllocationBill}
    (run : allocationBill post (lockBills table named) entry = .ok bill) :
    ReadBill table post bill ∧ AsksBill entry.1 bill := by
  obtain ⟨row, found, run⟩ := bind_eq_ok run
  cases run
  have read := usableBill_ok found
  exact ⟨⟨figure_money _, figure_money _, figure_money _, figure_money _, row, read.1⟩,
    read.2, rfl⟩

/-- What the engine is told of a credit. -/
structure ReadCredit (table : List AccBillBalance) (post : ReceiptPost)
    (credit : AllocationCredit) : Prop where
  amount : Figure credit.amount
  row : ∃ row, ReadFrom table post .CREDIT credit.ref credit.pendingAmount row
  adjType : credit.adjType = .NOTE_ADJUST ∨ credit.adjType = .ADVANCE_ADJUST

structure AsksCredit (source : PostReceiptCreditDto) (credit : AllocationCredit) : Prop where
  key : credit.ref.key = source.ref.key
  spends : credit.amount = money source.amount

theorem allocationCredit_ok {entry : PostReceiptCreditDto × ℕ} {credit : AllocationCredit}
    (run : allocationCredit post (lockBills table named) entry = .ok credit) :
    ReadCredit table post credit ∧ AsksCredit entry.1 credit := by
  obtain ⟨row, found, run⟩ := bind_eq_ok run
  cases run
  have read := usableBill_ok found
  refine ⟨⟨figure_money _, ⟨row, read.1⟩, ?_⟩, read.2, rfl⟩
  simp only [creditRouting]
  split
  · exact Or.inl rfl
  · exact Or.inr rfl

/-- A relation that does not look at the index of an entry holds of the entries. -/
theorem forall₂_of_zipIdx {α β : Type} {relate : α × ℕ → β → Prop} {asked : α → β → Prop}
    {items : List α} {results : List β} (pairs : List.Forall₂ relate items.zipIdx results)
    (weaken : ∀ entry result, relate entry result → asked entry.1 result) :
    List.Forall₂ asked items results := by
  have firsts : items = items.zipIdx.map Prod.fst := by simp
  rw [firsts, List.forall₂_map_left_iff]
  exact pairs.imp weaken

theorem rethrowAllocationError_ok {α : Type} {run : Except AllocationError α} {value : α}
    (accepted : rethrowAllocationError run = .ok value) : run = .ok value := by
  cases run with
  | ok other =>
      cases accepted
      rfl
  | error problem => cases accepted

theorem requireReceiptRoleLedgers_ok {ledgerForRole : String → Option ResolvedRoleLedger}
    {roles : List String} :
    requireReceiptRoleLedgers ledgerForRole roles = .ok () ↔
      ∀ role ∈ roles, ∃ ledger, ledgerForRole role = some ledger := by
  have none_iff : (roles.eraseDups.filter fun role => (ledgerForRole role).isNone) = [] ↔
      ∀ role ∈ roles, ∃ ledger, ledgerForRole role = some ledger := by
    rw [List.filter_eq_nil_iff]
    constructor
    · intro mapped role member
      have found := mapped role (List.mem_eraseDups.mpr member)
      cases lookup : ledgerForRole role with
      | none => simp [lookup] at found
      | some ledger => exact ⟨ledger, rfl⟩
    · intro mapped role member
      cases mapped role (List.mem_eraseDups.mp member) with
      | intro ledger found => simp [found]
  rw [← none_iff]
  simp only [requireReceiptRoleLedgers]
  split
  next unmapped =>
    constructor
    · intro run
      cases run
    · intro mapped
      exact absurd mapped unmapped
  next mapped =>
    constructor
    · intro _
      exact not_not.mp mapped
    · intro _
      rfl

/-- The input the engine accepted. -/
abbrev inputOf (post : ReceiptPost) (prepared : PreparedReceipt) : AllocationInput :=
  allocationInput post prepared.lines prepared.bills prepared.credits

/-- A receipt the normalisations and the engine have accepted. -/
structure Prepares (table : List AccBillBalance) (post : ReceiptPost)
    (prepared : PreparedReceipt) : Prop where
  tenders : NormalisesTenders post.avhVoucherDate post.tenders prepared.lines.tenders
  band : CompletedBand (sum (prepared.lines.tenders.map NormalisedTender.mdrAmt))
    prepared.lines.otherLines
  roles : ∀ role ∈ serverRoles, ∃ ledger, post.ledgerForRole role = some ledger
  bills : ∀ bill ∈ prepared.bills, ReadBill table post bill
  credits : ∀ credit ∈ prepared.credits, ReadCredit table post credit
  asksBills : List.Forall₂ AsksBill post.dto.allocations prepared.bills
  asksCredits : List.Forall₂ AsksCredit post.dto.creditsApplied prepared.credits
  run : allocate (inputOf post prepared) = .ok prepared.plan

@[simp] theorem routeCash_mdrAmt (cashLedgerId : Option String) (tender : NormalisedTender) :
    (routeCash cashLedgerId tender).mdrAmt = tender.mdrAmt := by
  unfold routeCash
  split
  · rfl
  · split <;> rfl

theorem prepareReceipt_ok {prepared : PreparedReceipt}
    (run : prepareReceipt table post = .ok prepared) : Prepares table post prepared := by
  obtain ⟨rebuilt, rebuiltRun, run⟩ := bind_eq_ok run
  obtain ⟨bills, billsRun, run⟩ := bind_eq_ok run
  obtain ⟨credits, creditsRun, run⟩ := bind_eq_ok run
  obtain ⟨approved, approvedRun, run⟩ := bind_eq_ok run
  obtain ⟨plan, planRun, run⟩ := bind_eq_ok run
  cases run
  obtain ⟨tenders, tendersRun, rebuiltRun⟩ := bind_eq_ok rebuiltRun
  obtain ⟨⟨⟩, rolesRun, rebuiltRun⟩ := bind_eq_ok rebuiltRun
  obtain ⟨band, bandRun, rebuiltRun⟩ := bind_eq_ok rebuiltRun
  cases rebuiltRun
  have normalises := normaliseTenders_ok tendersRun
  have mdrNonneg : 0 ≤ sum (tenders.map NormalisedTender.mdrAmt) := by
    apply money_nonneg
    apply List.sum_nonneg
    intro value member
    obtain ⟨tender, tenderMem, rfl⟩ := List.mem_map.mp member
    obtain ⟨row, -, facts⟩ := normalises.ofTender tender tenderMem
    exact facts.mdr_figure.nonneg
  have sameMdr : (tenders.map (routeCash post.cashLedgerId)).map NormalisedTender.mdrAmt =
      tenders.map NormalisedTender.mdrAmt := by
    simp [Function.comp_def]
  constructor
  · exact normalises.routeCash post.cashLedgerId
  · rw [sameMdr]
    exact normaliseOtherLines_ok bandRun mdrNonneg
  · intro role member
    exact requireReceiptRoleLedgers_ok.mp rolesRun role (List.mem_append_right _ member)
  · intro bill member
    obtain ⟨entry, -, billRun⟩ := forall₂_right (mapM_ok.mp billsRun) member
    exact (allocationBill_ok billRun).1
  · intro credit member
    obtain ⟨entry, -, creditRun⟩ := forall₂_right (mapM_ok.mp creditsRun) member
    exact (allocationCredit_ok creditRun).1
  · exact forall₂_of_zipIdx (mapM_ok.mp billsRun) fun _ _ run => (allocationBill_ok run).2
  · exact forall₂_of_zipIdx (mapM_ok.mp creditsRun) fun _ _ run => (allocationCredit_ok run).2
  · exact rethrowAllocationError_ok planRun

namespace Prepares

variable {table : List AccBillBalance} {post : ReceiptPost} {prepared : PreparedReceipt}
  (prepares : Prepares table post prepared)

include prepares

theorem tender_facts {tender : NormalisedTender} (member : tender ∈ prepared.lines.tenders) :
    Figure tender.amount ∧ 0 < tender.amount ∧ Figure tender.mdrAmt := by
  obtain ⟨row, -, facts⟩ := prepares.tenders.ofTender tender member
  exact ⟨facts.amount_figure, facts.positive, facts.mdr_figure⟩

theorem twoPlaces : TwoPlaces (inputOf post prepared) := by
  constructor
  · intro bill member
    exact (prepares.bills bill member).amount
  · intro bill member
    exact (prepares.bills bill member).discount
  · intro bill member
    exact (prepares.bills bill member).writeoff
  · intro bill member
    exact (prepares.bills bill member).roundoff
  · intro bill member
    obtain ⟨row, read⟩ := (prepares.bills bill member).row
    rw [read.pending]
    exact ⟨row.pending_mem, row.pending_nonneg⟩
  · intro credit member
    exact (prepares.credits credit member).amount
  · intro credit member
    obtain ⟨row, read⟩ := (prepares.credits credit member).row
    rw [read.pending]
    exact ⟨row.pending_mem, row.pending_nonneg⟩
  · intro line member
    obtain ⟨source, sourceMem, rfl⟩ := List.mem_map.mp member
    have sound := prepares.band.band.sound source sourceMem
    exact ⟨sound.exact, sound.positive.le⟩
  · intro tender member
    obtain ⟨source, sourceMem, rfl⟩ := List.mem_map.mp member
    exact (prepares.tender_facts sourceMem).1
  · intro pin member
    obtain ⟨source, -, rfl⟩ := List.mem_map.mp member
    exact figure_money source.amount
  · exact figure_money post.dto.onAccount

theorem distinctLines : DistinctLines (inputOf post prepared) := by
  have numbers : (inputOf post prepared).otherLines.map AllocationOtherLine.lineNo =
      prepared.lines.otherLines.map NormalisedOtherLine.lineNo := by
    simp [allocationInput, allocationLine, Function.comp_def]
  rw [DistinctLines, numbers, prepares.band.band.numbers]
  exact List.nodup_range'

theorem distinctTenders : DistinctTenders (inputOf post prepared) := by
  have numbers : (inputOf post prepared).tenders.map AllocationTender.tenderRowNo =
      prepared.lines.tenders.map NormalisedTender.rowNo := by
    simp [allocationInput, allocationTender, Function.comp_def]
  rw [DistinctTenders, numbers]
  exact prepares.tenders.rowNos

/-- The engine's run, with all it conserves. -/
theorem allocates : ∃ reserved reductions,
    Allocates (inputOf post prepared) prepared.plan reserved reductions :=
  allocate_ok prepares.twoPlaces prepares.distinctLines prepares.run

end Prepares

end ErpServer.Receipt
