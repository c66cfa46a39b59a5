import ErpServer.BillBalance.Recompute
import ErpServer.Receipt.VoucherBalance

/-!
# Bills settled past their amount

A post reads what is pending on its own day, and that leaves out the post-dated
cheques already held for a bill.  A run whose posts leave room for those keeps every
bill within its amount on every day to come.
-/

namespace ErpServer.BillBalance

open Lib Lib.Fold Receipt

/-! ## The invariant -/

/-- Every row settles a bill of the table, and on no day to come do the rows of a
bill count past its amount. -/
structure Sound (system : System) : Prop where
  distinct : (system.books.bills.map fun bill => bill.ref.key).Nodup
  owned : ∀ row ∈ system.books.adjustments, row.ref ∈ system.books.bills.map AccBillBalance.ref
  fits : ∀ bill ∈ system.books.bills, ∀ date, system.today ≤ date →
    countedSettlement system.books.adjustments date bill.ref ≤ bill.ablBillAmount

/-- On every day from today on a bill has room for one more figure beside the rows
that count by then, the post-dated ones among them. -/
def HasRoom (system : System) (ref : BillRef) (figure : Decimal) : Prop :=
  ∀ bill ∈ system.books.bills, bill.ref.key = ref.key → ∀ date, system.today ≤ date →
    countedSettlement system.books.adjustments date bill.ref + figure ≤ bill.ablBillAmount

/-- There is room for everything a post asks to settle and to spend. -/
structure RoomForPost (system : System) (posting : ReceiptPosting) : Prop where
  bills : ∀ row ∈ posting.dto.allocations, HasRoom system row.ref row.settles
  credits : ∀ row ∈ posting.dto.creditsApplied, HasRoom system row.ref (money row.amount)

def LeavesRoom (system : System) : Event → Prop
  | .post posting => RoomForPost system posting
  | .dayPasses => True
  | .recompute _ => True
  | .regularise _ => True

/-! ## What a post adds to a bill -/

/-- What a plan takes off one bill. -/
def planTotal (plan : AllocationResult) (ref : BillRef) : Decimal :=
  amountWhere (fun row => row.ref = ref) plan.adjustments

section Plan

variable {table : List AccBillBalance} {post : ReceiptPost} {prepared : PreparedReceipt}

/-- A key names one row of the table. -/
theorem eq_of_ref (distinct : (table.map fun bill => bill.ref.key).Nodup)
    {left right : AccBillBalance} (leftMem : left ∈ table) (rightMem : right ∈ table)
    (same : left.ref = right.ref) : left = right :=
  List.inj_on_of_nodup_map distinct leftMem rightMem (congrArg BillRef.key same)

/-- The rows that name a bill come all from one side of the plan. -/
theorem planTotal_side (side : DrCr) {plan : AllocationResult} {ref : BillRef}
    (owned : ∀ row ∈ plan.adjustments, row.ref = ref → row.drCr = side) :
    planTotal plan ref =
      amountWhere (fun row => row.drCr = side && row.ref = ref) plan.adjustments := by
  unfold planTotal amountWhere
  refine congrArg (fun rows => (rows.map AllocationAdjustment.amount).sum)
    (List.filter_congr fun row member => ?_)
  by_cases named : row.ref = ref
  · simp [named, owned row member named]
  · simp [named]

section Accepted

variable (prepares : Prepares table post prepared)
  (distinct : (table.map fun bill => bill.ref.key).Nodup) {bill : AccBillBalance}
  (member : bill ∈ table)

include prepares distinct member

variable {named : AllocationBill}

/-- A row of the table that a post read as a receivable stands on the debit side. -/
theorem debit_of_named (namedMem : named ∈ prepared.bills) (same : bill.ref = named.ref) :
    bill.ablDrCr = .DR := by
  obtain ⟨row, read⟩ := (prepares.bills named namedMem).row
  rw [eq_of_ref distinct member read.member (same.trans read.ref.symm)]
  exact read.side

theorem credit_of_named {named : AllocationCredit} (namedMem : named ∈ prepared.credits)
    (same : bill.ref = named.ref) : bill.ablDrCr = .CR := by
  obtain ⟨row, read⟩ := (prepares.credits named namedMem).row
  rw [eq_of_ref distinct member read.member (same.trans read.ref.symm)]
  exact read.side

theorem planTotal_bill (namedMem : named ∈ prepared.bills) (same : bill.ref = named.ref) :
    planTotal prepared.plan bill.ref =
      named.amount + named.discount + named.writeoff + named.roundoff := by
  obtain ⟨reserved, reductions, run⟩ := prepares.allocates
  rw [planTotal_side (sidesOf (inputOf post prepared)).settle, same,
    run.bill_rows prepares.twoPlaces namedMem]
  intro row rowMem rowRef
  cases (run.row_owned prepares.twoPlaces rowMem).1 with
  | inl here => exact here.1
  | inr there =>
      -- The bill would be a receivable and a credit at once.
      obtain ⟨-, other, otherMem, otherRef⟩ := there
      have side := debit_of_named prepares distinct member namedMem same
      rw [credit_of_named prepares distinct member otherMem (rowRef.symm.trans otherRef)] at side
      cases side

theorem planTotal_credit {named : AllocationCredit} (namedMem : named ∈ prepared.credits)
    (same : bill.ref = named.ref) : planTotal prepared.plan bill.ref = named.amount := by
  obtain ⟨reserved, reductions, run⟩ := prepares.allocates
  rw [planTotal_side (sidesOf (inputOf post prepared)).mirror, same,
    run.credit_rows prepares.twoPlaces namedMem]
  intro row rowMem rowRef
  cases (run.row_owned prepares.twoPlaces rowMem).1 with
  | inr here => exact here.1
  | inl there =>
      obtain ⟨-, other, otherMem, otherRef⟩ := there
      have side := credit_of_named prepares distinct member namedMem same
      rw [debit_of_named prepares distinct member otherMem (rowRef.symm.trans otherRef)] at side
      cases side

/-- What a row of the request asks of a bill, its plan takes off it. -/
theorem planTotal_settles {source : PostReceiptAllocationDto}
    (sourceMem : source ∈ post.dto.allocations) (key : bill.ref.key = source.ref.key) :
    planTotal prepared.plan bill.ref = source.settles := by
  obtain ⟨named, namedMem, asks⟩ := forall₂_left prepares.asksBills sourceMem
  obtain ⟨row, read⟩ := (prepares.bills named namedMem).row
  have same : bill.ref = named.ref := by
    rw [← read.ref]
    have keys : bill.ref.key = row.ref.key := by rw [read.ref, asks.key, key]
    rw [List.inj_on_of_nodup_map distinct member read.member keys]
  rw [planTotal_bill prepares distinct member namedMem same, asks.settles]

theorem planTotal_spends {source : PostReceiptCreditDto}
    (sourceMem : source ∈ post.dto.creditsApplied) (key : bill.ref.key = source.ref.key) :
    planTotal prepared.plan bill.ref = money source.amount := by
  obtain ⟨named, namedMem, asks⟩ := forall₂_left prepares.asksCredits sourceMem
  obtain ⟨row, read⟩ := (prepares.credits named namedMem).row
  have same : bill.ref = named.ref := by
    rw [← read.ref]
    have keys : bill.ref.key = row.ref.key := by rw [read.ref, asks.key, key]
    rw [List.inj_on_of_nodup_map distinct member read.member keys]
  rw [planTotal_credit prepares distinct member namedMem same, asks.spends]

/-- What a plan takes off a row of the table is what the request asks of it, once. -/
theorem planTotal_cases :
    (∃ source ∈ post.dto.allocations, bill.ref.key = source.ref.key ∧
        planTotal prepared.plan bill.ref = source.settles) ∨
      (∃ source ∈ post.dto.creditsApplied, bill.ref.key = source.ref.key ∧
        planTotal prepared.plan bill.ref = money source.amount) ∨
      planTotal prepared.plan bill.ref = 0 := by
  obtain ⟨reserved, reductions, run⟩ := prepares.allocates
  by_cases unnamed : ∀ row ∈ prepared.plan.adjustments, row.ref ≠ bill.ref
  · right; right
    unfold planTotal amountWhere
    rw [List.filter_eq_nil_iff.mpr fun row rowMem => by simpa using unnamed row rowMem]
    rfl
  · simp only [not_forall, not_not] at unnamed
    obtain ⟨row, rowMem, rowRef⟩ := unnamed
    cases (run.row_owned prepares.twoPlaces rowMem).1 with
    | inl settled =>
        left
        obtain ⟨-, named, namedMem, namedRef⟩ := settled
        obtain ⟨source, sourceMem, asks⟩ := forall₂_right prepares.asksBills namedMem
        have key : bill.ref.key = source.ref.key := by rw [← rowRef, namedRef, asks.key]
        exact ⟨source, sourceMem, key, planTotal_settles prepares distinct member sourceMem key⟩
    | inr spent =>
        right; left
        obtain ⟨-, named, namedMem, namedRef⟩ := spent
        obtain ⟨source, sourceMem, asks⟩ := forall₂_right prepares.asksCredits namedMem
        have key : bill.ref.key = source.ref.key := by rw [← rowRef, namedRef, asks.key]
        exact ⟨source, sourceMem, key, planTotal_spends prepares distinct member sourceMem key⟩

end Accepted

end Plan

/-! ## What a post writes -/

/-- A row as a plan had it stored. -/
structure Stored (bills : List AccBillBalance) (adjustment : AllocationAdjustment)
    (row : AccBillAdjustment) : Prop where
  ref : row.ref = adjustment.ref
  owned : row.ref ∈ bills.map AccBillBalance.ref
  amount : row.abjAmount = money adjustment.amount
  positive : 0 < row.abjAmount
  alive : row.abjIsDeleted = false

variable {bills : List AccBillBalance} {posting : ReceiptPosting} {rows : List AccBillAdjustment}
variable {after books : Books}

theorem adjustmentRow_ok {adjustment : AllocationAdjustment} {row : AccBillAdjustment}
    (run : adjustmentRow posting bills adjustment = .ok row) : Stored bills adjustment row := by
  simp only [adjustmentRow] at run
  split at run
  · cases run
  next owned =>
    split at run
    · cases run
    · split at run
      next positive =>
        cases run
        exact ⟨rfl, not_not.mp owned, rfl, positive, rfl⟩
      · cases run

variable {plan : AllocationResult} {date today : Date} {others : List AccBillBalance}
variable {system : System}

/-- The rows a plan had stored for a bill come to what the plan takes off it. -/
theorem sum_stored (stored : List.Forall₂ (Stored bills) plan.adjustments rows)
    (exact : ∀ adjustment ∈ plan.adjustments, adjustment.amount ∈ paise) (ref : BillRef) :
    ((rows.filter fun row => row.ref = ref).map AccBillAdjustment.abjAmount).sum =
      planTotal plan ref := by
  unfold planTotal amountWhere
  generalize plan.adjustments = planned at stored exact
  induction stored with
  | nil => rfl
  | cons here later ih =>
      rw [List.forall_mem_cons] at exact
      have rest := ih exact.2
      rw [List.filter_cons, List.filter_cons, here.ref]
      split
      · rw [List.map_cons, List.sum_cons, List.map_cons, List.sum_cons, rest, here.amount,
          money_of_mem exact.1]
      · exact rest

theorem countedSettlement_append (old rows : List AccBillAdjustment) (date : Date)
    (ref : BillRef) :
    countedSettlement (old ++ rows) date ref =
      countedSettlement old date ref + countedSettlement rows date ref := by
  simp only [countedSettlement_eq, countedRows, List.filter_append, List.map_append,
    List.sum_append]

/-- Rows that are all for money count for no more than they come to. -/
theorem countedSettlement_le (positive : ∀ row ∈ rows, 0 < row.abjAmount) (date : Date)
    (ref : BillRef) : countedSettlement rows date ref ≤
      ((rows.filter fun row => row.ref = ref).map AccBillAdjustment.abjAmount).sum := by
  rw [countedSettlement_eq]
  apply List.Sublist.sum_le_sum
  · apply List.Sublist.map
    apply List.monotone_filter_right
    intro row counts
    simp only [Bool.and_eq_true] at counts
    exact counts.1.2
  · intro amount member
    obtain ⟨row, rowMem, rfl⟩ := List.mem_map.mp member
    exact (positive row (List.mem_of_mem_filter rowMem)).le

/-- They count for more as the days pass. -/
theorem countedSettlement_mono (positive : ∀ row ∈ rows, 0 < row.abjAmount) {later : Date}
    (sooner : date ≤ later) (ref : BillRef) :
    countedSettlement rows date ref ≤ countedSettlement rows later ref := by
  rw [countedSettlement_eq, countedSettlement_eq]
  apply List.Sublist.sum_le_sum
  · apply List.Sublist.map
    apply List.monotone_filter_right
    intro row counts
    simp only [countsOn, Bool.and_eq_true, Bool.not_eq_true', Bool.and_eq_false_iff,
      decide_eq_false_iff_not, not_lt] at counts ⊢
    exact ⟨counts.1, counts.2.imp id fun due => due.trans sooner⟩
  · intro amount member
    obtain ⟨row, rowMem, rfl⟩ := List.mem_map.mp member
    exact (positive row (List.mem_of_mem_filter rowMem)).le

/-- In the end they all count. -/
theorem countedSettlement_all (due : ∀ row ∈ rows, row.abjIsDeleted = false ∧ row.abjAdjDate ≤ date)
    (ref : BillRef) : countedSettlement rows date ref =
      ((rows.filter fun row => row.ref = ref).map AccBillAdjustment.abjAmount).sum := by
  rw [countedSettlement_eq, countedRows]
  refine congrArg (fun rows => (rows.map AccBillAdjustment.abjAmount).sum)
    (List.filter_congr fun row member => ?_)
  have facts := due row member
  simp [countsOn, facts.1, not_lt.mpr facts.2]

/-- Rows of other bills count for nothing. -/
theorem countedSettlement_other {ref : BillRef} (other : ∀ row ∈ rows, row.ref ≠ ref) (date : Date) :
    countedSettlement rows date ref = 0 := by
  rw [countedSettlement_eq, countedRows, List.filter_eq_nil_iff.mpr]
  · rfl
  · intro row member
    simp [other row member]

/-- The advances stand behind the bills there were, under keys of their own. -/
structure Extends (before after : Books) : Prop where
  adjustments : after.adjustments = before.adjustments
  bills : ∃ fresh, after.bills = before.bills ++ fresh
  distinct : (before.bills.map fun bill => bill.ref.key).Nodup →
    (after.bills.map fun bill => bill.ref.key).Nodup

theorem createAdvance_ok {entry : AllocationOnAccount}
    (run : createAdvance posting books entry = .ok after) : Extends books after := by
  simp only [createAdvance] at run
  split at run
  · cases run
    exact ⟨rfl, ⟨[], by simp⟩, id⟩
  · split at run
    · cases run
    next unused =>
      split at run
      · cases run
        refine ⟨rfl, ⟨_, rfl⟩, ?_⟩
        intro nodup
        rw [List.map_append, List.map_singleton, ← List.concat_eq_append]
        exact List.Nodup.concat unused nodup
      · cases run

theorem Extends.trans {first middle last : Books} (earlier : Extends first middle)
    (later : Extends middle last) : Extends first last := by
  obtain ⟨fresh, bills⟩ := earlier.bills
  obtain ⟨more, moreBills⟩ := later.bills
  constructor
  · exact later.adjustments.trans earlier.adjustments
  · exact ⟨fresh ++ more, by rw [moreBills, bills, List.append_assoc]⟩
  · exact fun nodup => later.distinct (earlier.distinct nodup)

theorem writeAdvanceBills_ok (run : writeAdvanceBills posting plan books = .ok after) :
    Extends books after := by
  apply foldlM_invariant run (motive := fun _ state => Extends books state)
  · exact ⟨rfl, ⟨[], by simp⟩, id⟩
  · intro _ entry before next _ extended created
    exact extended.trans (createAdvance_ok created)

/-! ## One step -/

theorem mapError_ok {ε ζ α : Type} {run : Except ε α} {image : ε → ζ} {value : α}
    (accepted : run.mapError image = .ok value) : run = .ok value := by
  cases run with
  | ok other =>
      cases accepted
      rfl
  | error problem => cases accepted

/-- What a post does to the tables: rows for its plan behind the rows, its advances
behind the bills, and caches refreshed. -/
structure Posts (books : Books) (posting : ReceiptPosting) (after : Books) : Prop where
  planned : ∃ prepared rows advanced, Prepares books.bills posting.toReceiptPost prepared ∧
    List.Forall₂ (Stored books.bills) prepared.plan.adjustments rows ∧
    Extends ⟨books.bills, books.adjustments ++ rows⟩ advanced ∧
    after.adjustments = books.adjustments ++ rows ∧
    after.bills.map fixedPart = advanced.bills.map fixedPart

theorem postInTransaction_ok (run : postInTransaction today books posting = .ok after) :
    Posts books posting after := by
  obtain ⟨prepared, preparedRun, run⟩ := bind_eq_ok run
  obtain ⟨vouchers, -, run⟩ := bind_eq_ok run
  obtain ⟨legs, -, run⟩ := bind_eq_ok run
  obtain ⟨adjusted, adjustedRun, run⟩ := bind_eq_ok run
  obtain ⟨advanced, advancedRun, run⟩ := bind_eq_ok run
  obtain ⟨refreshed, refreshedRun, run⟩ := bind_eq_ok run
  obtain ⟨headers, -, run⟩ := bind_eq_ok run
  cases run
  obtain ⟨rows, rowsRun, stored⟩ := bind_eq_ok (mapError_ok adjustedRun)
  cases stored
  have extended := writeAdvanceBills_ok (mapError_ok advancedRun)
  constructor
  refine ⟨prepared, rows, advanced, prepareReceipt_ok (mapError_ok preparedRun), ?_, extended,
    extended.adjustments, recomputeBills_fixed (mapError_ok refreshedRun)⟩
  exact (mapM_ok.mp rowsRun).imp fun _ _ => adjustmentRow_ok

theorem refs_of_fixed (same : others.map fixedPart = bills.map fixedPart) :
    others.map AccBillBalance.ref = bills.map AccBillBalance.ref := by
  have firsts := congrArg (List.map Prod.fst) same
  rw [List.map_map, List.map_map] at firsts
  exact firsts

/-- The invariant speaks of no cached column. -/
theorem Sound.of_fixed {adjustments : List AccBillAdjustment}
    (sound : Sound ⟨today, bills, adjustments⟩) (same : others.map fixedPart = bills.map fixedPart) :
    Sound ⟨today, others, adjustments⟩ := by
  have refs := refs_of_fixed same
  constructor
  · have keys : others.map (fun bill => bill.ref.key) = bills.map fun bill => bill.ref.key := by
      simpa [Function.comp_def] using congrArg (List.map BillRef.key) refs
    exact keys ▸ sound.distinct
  · intro row member
    rw [refs]
    exact sound.owned row member
  · intro bill member date later
    have twin : fixedPart bill ∈ bills.map fixedPart := by
      rw [← same]
      exact List.mem_map_of_mem member
    obtain ⟨other, otherMem, equal⟩ := List.mem_map.mp twin
    rw [fixedPart, fixedPart, Prod.mk.injEq] at equal
    rw [← equal.1, ← equal.2]
    exact sound.fits other otherMem date later

/-- A post that leaves room keeps the invariant. -/
theorem Sound.posted (sound : Sound system) (room : RoomForPost system posting)
    (run : postInTransaction system.today system.books posting = .ok after) :
    Sound { system with books := after } := by
  obtain ⟨prepared, rows, advanced, prepares, stored, extended, adjustments, bills⟩ :=
    (postInTransaction_ok run).planned
  obtain ⟨reserved, reductions, allocates⟩ := prepares.allocates
  obtain ⟨fresh, advances⟩ := extended.bills
  have distinct := extended.distinct sound.distinct
  have own : ∀ row ∈ rows, row.ref ∈ system.books.bills.map AccBillBalance.ref := by
    intro row member
    obtain ⟨_, -, facts⟩ := forall₂_right stored member
    exact facts.owned
  have positive : ∀ row ∈ rows, 0 < row.abjAmount := by
    intro row member
    obtain ⟨_, -, facts⟩ := forall₂_right stored member
    exact facts.positive
  have ownAll : ∀ row ∈ system.books.adjustments ++ rows,
      row.ref ∈ system.books.bills.map AccBillBalance.ref := by
    intro row member
    cases List.mem_append.mp member with
    | inl old => exact sound.owned row old
    | inr new => exact own row new
  have written : Sound ⟨system.today, advanced.bills, system.books.adjustments ++ rows⟩ := by
    constructor
    · exact distinct
    · intro row member
      rw [advances, List.map_append]
      exact List.mem_append_left _ (ownAll row member)
    · intro bill member date later
      rw [advances, List.mem_append] at member
      cases member with
      | inl old =>
          have added : countedSettlement rows date bill.ref ≤ planTotal prepared.plan bill.ref := by
            rw [← sum_stored stored fun adjustment adjustmentMem =>
              (allocates.row_owned prepares.twoPlaces adjustmentMem).2]
            exact countedSettlement_le positive date bill.ref
          rw [countedSettlement_append]
          rcases planTotal_cases prepares sound.distinct old with
            ⟨source, sourceMem, key, asked⟩ | ⟨source, sourceMem, key, asked⟩ | nothing
          · have fits := room.bills source sourceMem bill old key date later
            linarith
          · have fits := room.credits source sourceMem bill old key date later
            linarith
          · have fits := sound.fits bill old date later
            linarith
      | inr new =>
          -- No row names an advance that has only just been raised.
          have unnamed : ∀ row ∈ system.books.adjustments ++ rows, row.ref ≠ bill.ref := by
            intro row rowMem same
            obtain ⟨other, otherMem, otherRef⟩ := List.mem_map.mp (ownAll row rowMem)
            rw [advances, List.map_append] at distinct
            have apart := (List.nodup_append.mp distinct).2.2 other.ref.key
              (List.mem_map_of_mem (f := fun bill => bill.ref.key) otherMem) bill.ref.key
              (List.mem_map_of_mem (f := fun bill => bill.ref.key) new)
            apply apart
            rw [otherRef, same]
          rw [countedSettlement_other unnamed]
          exact bill.amountPositive.le
  have refreshed := written.of_fixed bills
  rw [← adjustments] at refreshed
  exact refreshed

theorem exists_later (rows : List AccBillAdjustment) (date : Date) :
    ∃ later, date ≤ later ∧ ∀ row ∈ rows, row.abjAdjDate ≤ later := by
  induction rows with
  | nil => exact ⟨date, le_rfl, by simp⟩
  | cons row rest ih =>
      obtain ⟨later, sooner, due⟩ := ih
      refine ⟨max later row.abjAdjDate, sooner.trans (le_max_left _ _), ?_⟩
      rw [List.forall_mem_cons]
      constructor
      · exact le_max_right _ _
      · exact fun other member => (due other member).trans (le_max_left _ _)

/-- Where no row was ever reversed, the room is exactly what a post needs: without it
some bill counts past its amount once every row has come due. -/
theorem posted_sound_iff {system : System} {posting : ReceiptPosting} {after : Books}
    (sound : Sound system)
    (forward : ∀ row ∈ system.books.adjustments, row.abjReversalOfId = none)
    (run : postInTransaction system.today system.books posting = .ok after) :
    Sound { system with books := after } ↔ RoomForPost system posting := by
  constructor
  · intro later
    obtain ⟨prepared, rows, advanced, prepares, stored, extended, adjustments, bills⟩ :=
      (postInTransaction_ok run).planned
    obtain ⟨reserved, reductions, allocates⟩ := prepares.allocates
    obtain ⟨fresh, advances⟩ := extended.bills
    have positive : ∀ row ∈ system.books.adjustments, 0 < row.abjAmount := by
      intro row member
      have sign := row.reversalSign
      rw [CkAbjReversalSign, forward row member, Option.isNone_none, if_pos rfl] at sign
      exact sign
    have room {bill : AccBillBalance} (member : bill ∈ system.books.bills) (date : Date)
        (today : system.today ≤ date) :
        countedSettlement system.books.adjustments date bill.ref +
          planTotal prepared.plan bill.ref ≤ bill.ablBillAmount := by
      obtain ⟨last, sooner, due⟩ := exists_later rows date
      have twin : fixedPart bill ∈ after.bills.map fixedPart := by
        rw [bills, advances]
        exact List.mem_map_of_mem (List.mem_append_left _ member)
      obtain ⟨other, otherMem, equal⟩ := List.mem_map.mp twin
      rw [fixedPart, fixedPart, Prod.mk.injEq] at equal
      have fits := later.fits other otherMem last (today.trans sooner)
      rw [equal.1, equal.2, adjustments, countedSettlement_append,
        countedSettlement_all (?_ : ∀ row ∈ rows, _), sum_stored stored] at fits
      · have grows := countedSettlement_mono positive sooner bill.ref
        linarith
      · exact fun adjustment adjustmentMem =>
          (allocates.row_owned prepares.twoPlaces adjustmentMem).2
      · intro row rowMem
        obtain ⟨_, -, facts⟩ := forall₂_right stored rowMem
        exact ⟨facts.alive, due row rowMem⟩
    constructor
    · intro source sourceMem bill member key date today
      have fits := room member date today
      rwa [planTotal_settles prepares sound.distinct member sourceMem key] at fits
    · intro source sourceMem bill member key date today
      have fits := room member date today
      rwa [planTotal_spends prepares sound.distinct member sourceMem key] at fits
  · intro room
    exact sound.posted room run

theorem regulariseBatches_fixed (adjustments : List AccBillAdjustment) (asOf : Date)
    (batches : List (List BillRef)) (done : Regularised) :
    (regulariseBatches adjustments asOf batches done).bills.map fixedPart =
      done.bills.map fixedPart := by
  induction batches generalizing done with
  | nil => rfl
  | cons batch rest ih =>
      rw [regulariseBatches]
      split
      · rfl
      next after run =>
        rw [ih]
        exact recomputeBills_fixed run

theorem Sound.step {after : System} {event : Event} (sound : Sound system)
    (room : LeavesRoom system event) (step : Step system event after) : Sound after := by
  cases step with
  | posted run => exact sound.posted room run
  | dayPassed =>
      constructor
      · exact sound.distinct
      · exact sound.owned
      · intro bill member date later
        apply sound.fits bill member date
        exact (le_add_of_nonneg_right zero_le_one).trans later
  | recomputed run => exact sound.of_fixed (recomputeBills_fixed run)
  | regularised => exact sound.of_fixed (regulariseBatches_fixed _ _ _ _)

/-! ## Runs -/

/-- One event of a run whose posts leave room. -/
def RoomyStep (before after : System) : Prop :=
  ∃ event, LeavesRoom before event ∧ Step before event after

theorem Sound.run {start finish : System} (sound : Sound start)
    (run : Relation.ReflTransGen RoomyStep start finish) : Sound finish := by
  induction run with
  | refl => exact sound
  | tail _ last ih =>
      obtain ⟨event, room, step⟩ := last
      exact ih.step room step

/-- From tables that are sound, a run whose posts leave room for the post-dated rows
reaches only states in which no bill counts past its amount or is pending below
nothing. -/
theorem bills_stay_within {start finish : System} (sound : Sound start)
    (run : Relation.ReflTransGen RoomyStep start finish) :
    ∀ bill ∈ finish.books.bills,
      countedSettlement finish.books.adjustments finish.today bill.ref ≤ bill.ablBillAmount ∧
        0 ≤ bill.ablPendingAmount := by
  intro bill member
  constructor
  · exact (sound.run run).fits bill member finish.today le_rfl
  · exact bill.pending_nonneg

/-! ## A cheque for tomorrow, and cash today -/

/-- The bill of 100 on day 100, with nothing settled of it. -/
def freshBill : System := ⟨100, [billOfHundred], []⟩

/-- The card's money and the cheque's, together. -/
def wholeBill : ℚ≥0 := cardRow.tdAmount + (chequeRow none).tdAmount

/-- The bill of 100, paid by a cheque dated the next day. -/
def chequeForTomorrow : ReceiptPosting where
  toReceiptPost := { cardAndCheque none with
    tenders := [{ chequeRow none with
                  tdRowNo := 1, tdAmount := wholeBill, tdInstrumentDate := some 101 }] }
  accYearOf _ := "2026-2027"
  advanceIdOf key := key

def cashMaster : AccTenderMaster :=
  { cardMaster with tndId := "cash", tndName := "Cash", tndTypeId := 1,
                    tndSettlementLedgerId := none }

/-- The same bill, paid in cash. -/
def cashToday : ReceiptPosting where
  toReceiptPost := { cardAndCheque none with
    tenders := [{ cardRow with
                  tdTenderId := "cash", tdTenderTypeId := 1, tdAmount := wholeBill
                  tdMdrAmt := none }]
    masters := [cashMaster] }
  accYearOf _ := "2026-2027"
  advanceIdOf key := key

theorem freshBill_sound : Sound freshBill := by
  constructor
  · exact List.nodup_singleton _
  · intro row member
    cases member
  · intro bill member date _
    rw [countedSettlement_other (by simp [freshBill])]
    exact bill.amountPositive.le

/-- On tables with nothing settled a bill has room for all of it. -/
theorem chequeForTomorrow_room : RoomForPost freshBill chequeForTomorrow := by
  constructor
  · intro source sourceMem bill member _ date _
    have isSource : source = ⟨"b1", "2026-2027", 100, none, none, none, none⟩ :=
      List.mem_singleton.mp sourceMem
    have settles : source.settles = 100 := by
      rw [isSource]
      decide +kernel
    rw [countedSettlement_other (by simp [freshBill]), settles, List.mem_singleton.mp member]
    decide +kernel
  · intro source sourceMem
    cases sourceMem

/-- The cheque is accepted, and the next day, when it counts, the bill is within its
amount. -/
theorem chequeForTomorrow_within : ∃ held,
    postInTransaction 100 freshBill.books chequeForTomorrow = .ok held ∧
      ∀ bill ∈ held.bills,
        countedSettlement held.adjustments 101 bill.ref ≤ bill.ablBillAmount ∧
          0 ≤ bill.ablPendingAmount := by
  have accepted : (postInTransaction 100 freshBill.books chequeForTomorrow).isOk = true := by
    decide +kernel
  cases run : postInTransaction 100 freshBill.books chequeForTomorrow with
  | error problem =>
      rw [run] at accepted
      cases accepted
  | ok held =>
      refine ⟨held, rfl, ?_⟩
      apply @bills_stay_within freshBill ⟨101, held⟩ freshBill_sound
      apply Relation.ReflTransGen.tail (b := ⟨100, held⟩)
      · exact Relation.ReflTransGen.single
          ⟨.post chequeForTomorrow, chequeForTomorrow_room, .posted run⟩
      · exact ⟨.dayPasses, trivial, .dayPassed⟩

/-- On tables with no reversal the cheque has its room, and leaves them sound. -/
theorem chequeForTomorrow_sound : ∃ held,
    postInTransaction 100 freshBill.books chequeForTomorrow = .ok held ∧ Sound ⟨100, held⟩ := by
  have accepted : (postInTransaction 100 freshBill.books chequeForTomorrow).isOk = true := by
    decide +kernel
  have forward : ∀ row ∈ freshBill.books.adjustments, row.abjReversalOfId = none :=
    fun _ member => absurd member List.not_mem_nil
  cases run : postInTransaction 100 freshBill.books chequeForTomorrow with
  | error problem =>
      rw [run] at accepted
      cases accepted
  | ok held =>
      exact ⟨held, rfl, (posted_sound_iff freshBill_sound forward run).mpr chequeForTomorrow_room⟩

/-- What the two receipts make of the tables: the bills, and what is counted for the
one of them on the day and on the next. -/
def twoReceipts : Except PostError (List (BillRef × Decimal) × Decimal × Decimal) := do
  let held ← postInTransaction 100 freshBill.books chequeForTomorrow
  let paid ← postInTransaction 100 held cashToday
  .ok (paid.bills.map fixedPart, countedSettlement paid.adjustments 100 billOfHundred.ref,
    countedSettlement paid.adjustments 101 billOfHundred.ref)

/-- Both receipts are accepted for the full bill, and from the next day on the bill of
100 counts 200. -/
theorem twoReceipts_oversettle :
    twoReceipts = .ok ([(billOfHundred.ref, 100)], 100, 200) ∧
      ¬ ∀ start finish : System, Sound start →
        Relation.ReflTransGen (fun before after => ∃ event, Step before event after) start finish →
        ∀ bill ∈ finish.books.bills,
          countedSettlement finish.books.adjustments finish.today bill.ref ≤ bill.ablBillAmount ∧
            0 ≤ bill.ablPendingAmount := by
  have totals : twoReceipts = .ok ([(billOfHundred.ref, 100)], 100, 200) := by decide +kernel
  refine ⟨totals, ?_⟩
  intro always
  obtain ⟨held, heldRun, totals⟩ := bind_eq_ok totals
  obtain ⟨paid, paidRun, totals⟩ := bind_eq_ok totals
  have figures := Except.ok.inj totals
  rw [Prod.mk.injEq, Prod.mk.injEq] at figures
  have isThere : (billOfHundred.ref, (100 : Decimal)) ∈ paid.bills.map fixedPart := by
    rw [figures.1]
    exact List.mem_cons_self
  obtain ⟨bill, member, equal⟩ := List.mem_map.mp isThere
  rw [fixedPart, Prod.mk.injEq] at equal
  have within := always freshBill ⟨101, paid⟩ freshBill_sound ?_ bill member
  · rw [equal.1, equal.2, figures.2.2] at within
    norm_num at within
  · apply Relation.ReflTransGen.tail (b := ⟨100, paid⟩)
    · apply Relation.ReflTransGen.tail (b := ⟨100, held⟩)
      · exact Relation.ReflTransGen.single ⟨.post chequeForTomorrow, .posted heldRun⟩
      · exact ⟨.post cashToday, .posted paidRun⟩
    · exact ⟨.dayPasses, .dayPassed⟩

end ErpServer.BillBalance
