import ErpServer.Lib.Fold
import ErpServer.Receipt.Posting

/-!
# Recomputing the cached totals of a bill

The adjustment rows are the record of what settled a bill; the totals on the bill
are a cache of them.  The recompute reads the live rows, leaves out the post-dated
ones whose day has not come, and writes back the bills whose figures moved.  What it
does for the temporary credits beside the bills is left out.
-/

namespace ErpServer.BillBalance

open Lib Lib.Fold Receipt

/-- Only a reversal may be negative, and a reversal must always be
(`ck_abj_reversal_sign`). -/
def CkAbjReversalSign (reversalOfId : Option String) (amount : Decimal) : Prop :=
  if reversalOfId.isNone then 0 < amount else amount < 0

/-- One settlement of a bill. -/
structure AccBillAdjustment where
  abjCompanyId : String
  abjBranchId : String
  abjAccYear : String
  abjBillId : String
  abjBillAccYear : String
  abjAdjType : BillAdjType
  abjAdjDate : Date
  abjAmount : Decimal
  abjIsPostDated : Bool
  abjReversalOfId : Option String
  abjIsDeleted : Bool
  amountExact : money abjAmount = abjAmount
  reversalSign : CkAbjReversalSign abjReversalOfId abjAmount

/-- The bill a row settles. -/
def AccBillAdjustment.ref (row : AccBillAdjustment) : BillRef :=
  ⟨row.abjBillId, row.abjBillAccYear⟩

/-- The constraint a statement broke; the transaction it stood in is rolled back. -/
structure DatabaseError where
  constraint : String
  deriving DecidableEq, Repr

/-! ## The totals of the live rows -/

/-- The types that fold into the allocated amount. -/
def ALLOCATING_TYPES : List BillAdjType := [.ALLOCATION, .ADVANCE_ADJUST, .NOTE_ADJUST, .TRANSFER]

/-- The two that fold into the discount. -/
def DISCOUNTING_TYPES : List BillAdjType := [.DISCOUNT, .ROUND_OFF]

structure Totals where
  settled : SettledAmounts
  lastOn : Option Date
  deriving DecidableEq, Repr

def emptyTotals : Totals := ⟨⟨0, 0, 0⟩, none⟩

/-- Put an amount in the column its type folds into. -/
def addByType (amounts : SettledAmounts) (adjType : BillAdjType) (amount : Decimal) :
    SettledAmounts :=
  if adjType ∈ ALLOCATING_TYPES then { amounts with alloc := amounts.alloc + amount }
  else if adjType ∈ DISCOUNTING_TYPES then { amounts with disc := amounts.disc + amount }
  else if adjType = .WRITEOFF then { amounts with writeoff := amounts.writeoff + amount }
  else amounts

def Totals.count (bucket : Totals) (row : AccBillAdjustment) : Totals where
  settled := addByType bucket.settled row.abjAdjType row.abjAmount
  lastOn := match bucket.lastOn with
    | none => some row.abjAdjDate
    | some last => some (if last < row.abjAdjDate then row.abjAdjDate else last)

/-- A post-dated row is there from the day it is written, and counts for nothing until
its own day. -/
def countsOn (asOf : Date) (row : AccBillAdjustment) : Bool :=
  !(row.abjIsPostDated && decide (asOf < row.abjAdjDate))

/-- Each bill once, however often a caller names it. -/
def dedupe (bills : List BillRef) : List BillRef :=
  (OrderedMap.ofList (bills.map fun bill => (bill.key, bill))).values

def addRow (asOf : Date) (totals : OrderedMap String Totals) (row : AccBillAdjustment) :
    OrderedMap String Totals :=
  if countsOn asOf row then
    match totals.get? row.ref.key with
    | none => totals
    | some bucket => totals.set row.ref.key (bucket.count row)
  else totals

/-- The rows of the named bills, added up bill by bill. -/
def totalsOf (adjustments : List AccBillAdjustment) (unique : List BillRef) (asOf : Date) :
    OrderedMap String Totals :=
  (adjustments.filter fun row => !row.abjIsDeleted && row.ref ∈ unique).foldl (addRow asOf)
    (.ofList (unique.map fun bill => (bill.key, emptyTotals)))

/-! ## Writing them back -/

structure RecomputedBill where
  billId : String
  accYear : String
  changed : Bool
  billAmount : Decimal
  settled : SettledAmounts
  pendingAmount : Decimal
  settledOn : Option Date
  deriving DecidableEq, Repr

/-- What the rows make of a bill, and whether that differs from what it carries. -/
def recomputed (bill : AccBillBalance) (bucket : Totals) : RecomputedBill :=
  let settled := money (bucket.settled.alloc + bucket.settled.disc + bucket.settled.writeoff)
  let pending := money (bill.ablBillAmount - settled)
  let settledOn := if pending ≤ 0 then bucket.lastOn else none
  let columns : SettledAmounts :=
    ⟨money bucket.settled.alloc, money bucket.settled.disc, money bucket.settled.writeoff⟩
  { billId := bill.ablId
    accYear := bill.ablAccYear
    changed := bill.ablSettled ≠ columns || bill.ablSettledOn ≠ settledOn
    billAmount := bill.ablBillAmount
    settled := columns
    pendingAmount := pending
    settledOn := settledOn }

instance (billAmount : Decimal) (amounts : SettledAmounts) :
    Decidable (CkAblSettled billAmount amounts) :=
  decidable_of_iff
    (money amounts.alloc = amounts.alloc ∧ money amounts.disc = amounts.disc ∧
      money amounts.writeoff = amounts.writeoff ∧ 0 ≤ amounts.alloc ∧ 0 ≤ amounts.disc ∧
      0 ≤ amounts.writeoff ∧ amounts.total ≤ billAmount)
    ⟨fun holds => ⟨holds.1, holds.2.1, holds.2.2.1, holds.2.2.2.1, holds.2.2.2.2.1,
        holds.2.2.2.2.2.1, holds.2.2.2.2.2.2⟩,
      fun holds => ⟨holds.allocExact, holds.discExact, holds.writeoffExact, holds.allocNonneg,
        holds.discNonneg, holds.writeoffNonneg, holds.fits⟩⟩

/-- The update of one bill: only when something moved, and only within the bill. -/
def writeBack (bill : AccBillBalance) (result : RecomputedBill) :
    Except DatabaseError AccBillBalance :=
  if result.changed then
    if fits : CkAblSettled bill.ablBillAmount result.settled then
      .ok { bill with
              ablSettled := result.settled
              ablSettledOn := result.settledOn
              settledFits := fits }
    else .error ⟨"ck_abl_settled"⟩
  else .ok bill

/-- One row of the table: as it is, or recomputed when it was named. -/
def recomputeBill (unique : List BillRef) (totals : OrderedMap String Totals)
    (bill : AccBillBalance) : Except DatabaseError (AccBillBalance × Option RecomputedBill) :=
  if bill.ref ∈ unique then
    match totals.get? bill.ref.key with
    | none => .ok (bill, none)
    | some bucket => do
        let result := recomputed bill bucket
        let after ← writeBack bill result
        .ok (after, some result)
  else .ok (bill, none)

structure Recomputed where
  bills : List AccBillBalance
  results : List RecomputedBill

def recomputeBills (adjustments : List AccBillAdjustment) (named : List BillRef) (asOf : Date)
    (bills : List AccBillBalance) : Except DatabaseError Recomputed :=
  let unique := dedupe named
  if unique = [] then .ok ⟨bills, []⟩
  else do
    let refreshed ← bills.mapM (recomputeBill unique (totalsOf adjustments unique asOf))
    .ok ⟨refreshed.map Prod.fst, refreshed.filterMap Prod.snd⟩

/-! ## What a bill has been settled by -/

/-- The live rows of a bill that count on a day. -/
def countedRows (adjustments : List AccBillAdjustment) (asOf : Date) (ref : BillRef) :
    List AccBillAdjustment :=
  adjustments.filter fun row => !row.abjIsDeleted && row.ref = ref && countsOn asOf row

/-- The settlement a recompute of one bill derives from its rows. -/
def countedSettlement (adjustments : List AccBillAdjustment) (asOf : Date) (ref : BillRef) :
    Decimal :=
  (((totalsOf adjustments [ref] asOf).get? ref.key).getD emptyTotals).settled.total

theorem total_addByType (amounts : SettledAmounts) (adjType : BillAdjType) (amount : Decimal) :
    (addByType amounts adjType amount).total = amounts.total + amount := by
  simp only [addByType, SettledAmounts.total]
  cases adjType <;> simp only [ALLOCATING_TYPES, DISCOUNTING_TYPES] <;> simp <;> ring

/-- Every row lands in one of the three columns. -/
theorem total_count (rows : List AccBillAdjustment) (bucket : Totals) :
    (rows.foldl Totals.count bucket).settled.total =
      bucket.settled.total + (rows.map AccBillAdjustment.abjAmount).sum := by
  induction rows generalizing bucket with
  | nil => simp
  | cons row rest ih =>
      rw [List.foldl_cons, ih, Totals.count, total_addByType, List.map_cons, List.sum_cons]
      ring

/-- A list of bills in which a key names one bill. -/
def DistinctKeys (unique : List BillRef) : Prop :=
  ∀ left ∈ unique, ∀ right ∈ unique, left.key = right.key → left = right

theorem dedupe_distinct (named : List BillRef) : DistinctKeys (dedupe named) := by
  intro left leftMem right rightMem same
  have found {bill : BillRef} (member : bill ∈ dedupe named) :
      (OrderedMap.ofList (named.map fun bill => (bill.key, bill))).get? bill.key = some bill := by
    obtain ⟨entry, entryMem, equal⟩ := List.mem_map.mp member
    have here := OrderedMap.get?_of_mem (OrderedMap.keys_ofList_nodup _) entryMem
    obtain ⟨other, -, named⟩ := List.mem_map.mp (OrderedMap.mem_of_get?_ofList here)
    rw [Prod.mk.injEq] at named
    rw [← equal, ← named.2, named.1, here, named.2]
  have leftFound := found leftMem
  rw [same, found rightMem] at leftFound
  exact (Option.some.inj leftFound).symm

section Buckets

variable {ρ β : Type*}

/-- The bucket of a named bill has counted the live rows of that bill that count on
the day. -/
theorem get?_bucketsOf {refOf : ρ → BillRef} {counts : ρ → Bool} {step : β → ρ → β}
    {feed : OrderedMap String β → ρ → OrderedMap String β}
    (feeds : OrderedMap.Feeds (fun row => (refOf row).key) counts step feed) (live : ρ → Bool)
    (initial : β) (rows : List ρ) {unique : List BillRef} (distinct : DistinctKeys unique)
    {ref : BillRef} (member : ref ∈ unique) :
    ((rows.filter fun row => live row && refOf row ∈ unique).foldl feed
      (.ofList (unique.map fun bill => (bill.key, initial)))).get? ref.key =
      some ((rows.filter fun row => live row && refOf row = ref && counts row).foldl step
        initial) := by
  have start : (OrderedMap.ofList (unique.map fun bill => (bill.key, initial))).get? ref.key =
      some initial := by
    have isKey : ref.key ∈ (OrderedMap.ofList
        (unique.map fun bill => (bill.key, initial))).keys := by
      rw [OrderedMap.mem_keys_ofList, List.map_map]
      exact List.mem_map_of_mem (f := fun bill => bill.key) member
    obtain ⟨bucket, found⟩ := (OrderedMap.mem_keys_iff _ _).mp isKey
    obtain ⟨bill, -, equal⟩ := List.mem_map.mp (OrderedMap.mem_of_get?_ofList found)
    rw [found, ← (Prod.mk.inj equal).2]
  rw [feeds.get?_foldl, start, Option.map_some, List.filter_filter]
  have own : (rows.filter fun row => ((refOf row).key = ref.key && counts row) &&
      (live row && refOf row ∈ unique)) =
        rows.filter fun row => live row && refOf row = ref && counts row := by
    apply List.filter_congr
    intro row _
    have same : ((refOf row).key = ref.key ∧ refOf row ∈ unique) ↔ refOf row = ref := by
      constructor
      · intro both
        exact distinct (refOf row) both.2 ref member both.1
      · intro equal
        rw [equal]
        exact ⟨rfl, member⟩
    by_cases equal : refOf row = ref
    · simp [equal, member, Bool.and_comm]
    · by_cases keyEq : (refOf row).key = ref.key
      · have notNamed : refOf row ∉ unique := fun inside => equal (same.mp ⟨keyEq, inside⟩)
        simp [equal, notNamed]
      · simp [equal, keyEq]
  rw [own]

end Buckets

theorem addRow_feeds (asOf : Date) :
    OrderedMap.Feeds (fun row : AccBillAdjustment => row.ref.key) (countsOn asOf) Totals.count
      (addRow asOf) := by
  intro totals row
  unfold addRow
  cases totals.get? row.ref.key <;> rfl

variable {unique : List BillRef} {bill : AccBillBalance}

theorem get?_totalsOf (adjustments : List AccBillAdjustment) (distinct : DistinctKeys unique)
    (asOf : Date) {ref : BillRef} (member : ref ∈ unique) :
    (totalsOf adjustments unique asOf).get? ref.key =
      some ((countedRows adjustments asOf ref).foldl Totals.count emptyTotals) :=
  get?_bucketsOf (addRow_feeds asOf) (fun row => !row.abjIsDeleted) emptyTotals adjustments
    distinct member

theorem countedSettlement_eq (adjustments : List AccBillAdjustment) (asOf : Date)
    (ref : BillRef) :
    countedSettlement adjustments asOf ref =
      ((countedRows adjustments asOf ref).map AccBillAdjustment.abjAmount).sum := by
  have single : DistinctKeys [ref] := by
    intro left leftMem right rightMem _
    rw [List.mem_singleton.mp leftMem, List.mem_singleton.mp rightMem]
  rw [countedSettlement, get?_totalsOf adjustments single asOf List.mem_cons_self,
    Option.getD_some, total_count]
  simp [emptyTotals, SettledAmounts.total]

/-! ## What a recompute leaves alone -/

/-- What names a bill and what it is for; a recompute touches neither. -/
def fixedPart (bill : AccBillBalance) : BillRef × Decimal := (bill.ref, bill.ablBillAmount)

theorem writeBack_fixed {after : AccBillBalance} {result : RecomputedBill}
    (run : writeBack bill result = .ok after) : fixedPart after = fixedPart bill := by
  simp only [writeBack] at run
  split at run
  · split at run
    · cases run
      rfl
    · cases run
  · cases run
    rfl

theorem recomputeBill_fixed {totals : OrderedMap String Totals}
    {after : AccBillBalance × Option RecomputedBill}
    (run : recomputeBill unique totals bill = .ok after) : fixedPart after.1 = fixedPart bill := by
  simp only [recomputeBill] at run
  split at run
  · split at run
    · cases run
      rfl
    · obtain ⟨written, writtenRun, run⟩ := bind_eq_ok run
      cases run
      exact writeBack_fixed writtenRun
  · cases run
    rfl

theorem recomputeBills_fixed {adjustments : List AccBillAdjustment} {named : List BillRef}
    {asOf : Date} {bills : List AccBillBalance} {after : Recomputed}
    (run : recomputeBills adjustments named asOf bills = .ok after) :
    after.bills.map fixedPart = bills.map fixedPart := by
  simp only [recomputeBills] at run
  split at run
  · cases run
    rfl
  · obtain ⟨refreshed, refreshedRun, run⟩ := bind_eq_ok run
    cases run
    have pairs := mapM_ok.mp refreshedRun
    clear refreshedRun run
    induction pairs with
    | nil => rfl
    | cons here later ih =>
        simp only [List.map_cons] at ih ⊢
        rw [recomputeBill_fixed here, ih]

/-! ## What a recompute reports -/

/-- The three columns are two-place figures. -/
structure ExactAmounts (amounts : SettledAmounts) : Prop where
  alloc : amounts.alloc ∈ paise
  disc : amounts.disc ∈ paise
  writeoff : amounts.writeoff ∈ paise

theorem ExactAmounts.addByType {amounts : SettledAmounts} (exact : ExactAmounts amounts)
    (adjType : BillAdjType) {amount : Decimal} (amountMem : amount ∈ paise) :
    ExactAmounts (addByType amounts adjType amount) := by
  unfold BillBalance.addByType
  split
  · exact { exact with alloc := add_mem exact.alloc amountMem }
  · split
    · exact { exact with disc := add_mem exact.disc amountMem }
    · split
      · exact { exact with writeoff := add_mem exact.writeoff amountMem }
      · exact exact

theorem AccBillAdjustment.amount_mem (row : AccBillAdjustment) : row.abjAmount ∈ paise := by
  rw [← row.amountExact]
  exact money_mem _

theorem exactAmounts_count (rows : List AccBillAdjustment) {bucket : Totals}
    (exact : ExactAmounts bucket.settled) :
    ExactAmounts (rows.foldl Totals.count bucket).settled := by
  induction rows generalizing bucket with
  | nil => exact exact
  | cons row rest ih => exact ih (exact.addByType row.abjAdjType row.amount_mem)

theorem recomputed_settled {bill : AccBillBalance} {bucket : Totals}
    (exact : ExactAmounts bucket.settled) : (recomputed bill bucket).settled = bucket.settled := by
  simp only [recomputed, money_of_mem exact.alloc, money_of_mem exact.disc,
    money_of_mem exact.writeoff]

/-! ## The history of the bills

What moves the two tables, one transaction at a time: a receipt is posted, a day
passes, some bills are recomputed, the post-dated ones are regularised.  A
transaction that is refused leaves the tables as they were and is no step. -/

/-- The two tables. -/
structure Books where
  bills : List AccBillBalance
  adjustments : List AccBillAdjustment

/-! ## Posting a receipt -/

inductive PostError where
  | receipt (problem : ReceiptError)
  | database (problem : DatabaseError)
  deriving DecidableEq, Repr

/-- A post, with the year each of its vouchers falls in and the id an advance raised
on it is given. -/
structure ReceiptPosting extends ReceiptPost where
  accYearOf : VoucherKey → String
  advanceIdOf : VoucherKey → String

/-- One row of the plan, stored: for money on a bill that exists, or not at all. -/
def adjustmentRow (posting : ReceiptPosting) (bills : List AccBillBalance)
    (adjustment : AllocationAdjustment) : Except DatabaseError AccBillAdjustment :=
  if adjustment.ref ∉ bills.map AccBillBalance.ref then .error ⟨"fk_abj_bill"⟩
  else if money adjustment.amount = 0 then .error ⟨"ck_abj_amount"⟩
  else if positive : 0 < money adjustment.amount then
    .ok { abjCompanyId := posting.avhCompanyId
          abjBranchId := posting.avhBranchId
          abjAccYear := posting.accYearOf adjustment.voucherKey
          abjBillId := adjustment.billId
          abjBillAccYear := adjustment.billAccYear
          abjAdjType := adjustment.adjType
          abjAdjDate := adjustment.adjDate
          abjAmount := money adjustment.amount
          abjIsPostDated := adjustment.isPostDated
          abjReversalOfId := none
          abjIsDeleted := false
          amountExact := money_money _
          reversalSign := positive }
  else .error ⟨"ck_abj_reversal_sign"⟩

/-- Step 10. -/
def writeAdjustments (posting : ReceiptPosting) (plan : AllocationResult) (books : Books) :
    Except DatabaseError Books := do
  let rows ← plan.adjustments.mapM (adjustmentRow posting books.bills)
  .ok { books with adjustments := books.adjustments ++ rows }

theorem ckAblSettled_zero {billAmount : Decimal} (positive : 0 < billAmount) :
    CkAblSettled billAmount ⟨0, 0, 0⟩ := by
  constructor
  · exact money_zero
  · exact money_zero
  · exact money_zero
  · exact le_rfl
  · exact le_rfl
  · exact le_rfl
  · simpa [SettledAmounts.total] using positive.le

/-- One remainder becomes an advance the company owes the party. -/
def createAdvance (posting : ReceiptPosting) (books : Books) (entry : AllocationOnAccount) :
    Except DatabaseError Books :=
  let ref : BillRef := ⟨posting.advanceIdOf entry.voucherKey, posting.accYearOf entry.voucherKey⟩
  if entry.amount ≤ 0 then .ok books
  else if ref.key ∈ books.bills.map fun bill => bill.ref.key then
    .error ⟨"pk_acc_bill_balance"⟩
  else if positive : 0 < money entry.amount then
    .ok { books with
          bills := books.bills ++
            [{ ablId := ref.billId
               ablAccYear := ref.billAccYear
               ablPartyId := posting.avhPartyId
               ablCompanyId := posting.avhCompanyId
               ablBillType := .ADVANCE
               ablDocRefno := posting.voucherRefno entry.voucherKey
               ablBillAmount := money entry.amount
               ablSettled := ⟨0, 0, 0⟩
               ablSettledOn := none
               ablDrCr := .CR
               ablIsDeleted := false
               amountExact := money_money _
               amountPositive := positive
               settledFits := ckAblSettled_zero positive }] }
  else .error ⟨"ck_abl_amount"⟩

/-- Step 11, voucher by voucher. -/
def writeAdvanceBills (posting : ReceiptPosting) (plan : AllocationResult) (books : Books) :
    Except DatabaseError Books :=
  plan.onAccount.foldlM (createAdvance posting) books

/-- The bills and credits whose caches a post refreshes. -/
def touchedBills (prepared : PreparedReceipt) : List BillRef :=
  prepared.bills.map AllocationBill.ref ++ prepared.credits.map AllocationCredit.ref

/-- One post, from the rows it reads under its locks to the headers it marks POSTED. -/
def postInTransaction (today : Date) (books : Books) (posting : ReceiptPosting) :
    Except PostError Books := do
  let prepared ← (prepareReceipt books.bills posting.toReceiptPost).mapError .receipt
  let vouchers ← (planVouchers posting.toReceiptPost prepared).mapError .receipt
  let legs ← (writeLegs posting.toReceiptPost prepared vouchers).mapError .receipt
  let adjusted ← (writeAdjustments posting prepared.plan books).mapError .database
  let advanced ← (writeAdvanceBills posting prepared.plan adjusted).mapError .database
  let refreshed ← (recomputeBills advanced.adjustments (touchedBills prepared) today
    advanced.bills).mapError .database
  let _ ← (postHeaders prepared legs vouchers).mapError .receipt
  .ok { advanced with bills := refreshed.bills }

/-! ## Regularising -/

/-- Who the sweep is run for; the branch and the year only narrow it. -/
structure RegulariseScope where
  companyId : String
  branchId : Option String
  accYear : Option String

def RegulariseScope.covers (scope : RegulariseScope) (row : AccBillAdjustment) : Bool :=
  row.abjCompanyId = scope.companyId &&
    (!isGiven scope.branchId || scope.branchId = some row.abjBranchId) &&
    (!isGiven scope.accYear || scope.accYear = some row.abjAccYear)

/-- The bills holding a post-dated row that has matured. -/
def dueBills (adjustments : List AccBillAdjustment) (scope : RegulariseScope) (asOf : Date) :
    List BillRef :=
  ((adjustments.filter fun row => scope.covers row && row.abjIsPostDated && !row.abjIsDeleted &&
    decide (row.abjAdjDate ≤ asOf)).map AccBillAdjustment.ref).eraseDups

/-- How far a sweep came: a batch that is refused ends it, and the ones before stay. -/
structure Regularised where
  bills : List AccBillBalance
  billsRegularised : ℕ
  billsExamined : ℕ
  refused : Option DatabaseError

/-- Each batch in a transaction of its own. -/
def regulariseBatches (adjustments : List AccBillAdjustment) (asOf : Date) :
    List (List BillRef) → Regularised → Regularised
  | [], done => done
  | batch :: rest, done =>
      match recomputeBills adjustments batch asOf done.bills with
      | .error problem => { done with refused := some problem }
      | .ok after => regulariseBatches adjustments asOf rest
          { bills := after.bills
            billsRegularised := done.billsRegularised +
              (after.results.filter fun result => result.changed).length
            billsExamined := done.billsExamined + batch.length
            refused := none }

def BATCH_SIZE : ℕ := 500

def regularisePostDated (scope : RegulariseScope) (asOf : Date) (books : Books) : Regularised :=
  regulariseBatches books.adjustments asOf
    ((dueBills books.adjustments scope asOf).toChunks BATCH_SIZE) ⟨books.bills, 0, 0, none⟩

/-! ## Runs -/

/-- The tables, and the day it is. -/
structure System where
  today : Date
  books : Books

inductive Event where
  | post (posting : ReceiptPosting)
  | dayPasses
  | recompute (named : List BillRef)
  | regularise (scope : RegulariseScope)

/-- What one event that is not refused does. -/
inductive Step (system : System) : Event → System → Prop
  | posted {posting : ReceiptPosting} {after : Books}
      (run : postInTransaction system.today system.books posting = .ok after) :
      Step system (.post posting) { system with books := after }
  | dayPassed : Step system .dayPasses { system with today := system.today + 1 }
  | recomputed {named : List BillRef} {after : Recomputed}
      (run : recomputeBills system.books.adjustments named system.today system.books.bills =
        .ok after) :
      Step system (.recompute named) { system with
        books := { system.books with bills := after.bills } }
  | regularised {scope : RegulariseScope} :
      Step system (.regularise scope) { system with
        books := { system.books with
          bills := (regularisePostDated scope system.today system.books).bills } }

end ErpServer.BillBalance
