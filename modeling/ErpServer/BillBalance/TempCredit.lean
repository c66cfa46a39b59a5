import Mathlib.Data.Int.ConditionallyCompleteOrder
import Mathlib.Data.List.MinMax
import ErpServer.BillBalance.Recompute

/-!
# Temporary credits beside the bills

A temporary credit carries a copy of what is pending on its bill, and a status that says
how the bill was closed: by its last movement, written off or settled.  The movement that
counts is found in one pass over the rows; a later one takes over from an earlier one.
-/

namespace ErpServer.BillBalance

open Lib Lib.Fold Receipt

/-! ## The last movement of a bill -/

/-- An adjustment row with what tells it from the others: who it is, when it was written
and the document that wrote it. -/
structure AdjustmentRow extends AccBillAdjustment where
  abjId : String
  abjCreatedOn : ℤ
  abjVoucherId : Option String

structure Movement where
  on : Date
  createdOn : ℤ
  adjType : BillAdjType
  voucherId : Option String
  deriving DecidableEq, Repr

def AdjustmentRow.movement (row : AdjustmentRow) : Movement :=
  ⟨row.abjAdjDate, row.abjCreatedOn, row.abjAdjType, row.abjVoucherId⟩

/-- By date, then by when it was written, then a WRITEOFF first on a tie. -/
def laterMovement (a b : Movement) : Bool :=
  if a.on ≠ b.on then b.on < a.on
  else if a.createdOn ≠ b.createdOn then b.createdOn < a.createdOn
  else a.adjType = .WRITEOFF && b.adjType ≠ .WRITEOFF

def countMovement (last : Option Movement) (row : AdjustmentRow) : Option Movement :=
  match last with
  | none => some row.movement
  | some last => if laterMovement row.movement last then some row.movement else some last

def addMovement (asOf : Date) (lasts : OrderedMap String (Option Movement))
    (row : AdjustmentRow) : OrderedMap String (Option Movement) :=
  if countsOn asOf row.toAccBillAdjustment then
    match lasts.get? row.ref.key with
    | none => lasts
    | some last => lasts.set row.ref.key (countMovement last row)
  else lasts

/-- The last movement of each of the named bills, found in the pass that adds up their rows. -/
def lastMovementsOf (adjustments : List AdjustmentRow) (unique : List BillRef) (asOf : Date) :
    OrderedMap String (Option Movement) :=
  (adjustments.filter fun row => !row.abjIsDeleted && row.ref ∈ unique).foldl (addMovement asOf)
    (.ofList (unique.map fun bill => (bill.key, none)))

/-! ## The credits -/

inductive TempCreditStatus where
  | OPEN
  | PARTIAL
  | SETTLED
  | WRITTEN_OFF
  | CANCELLED
  deriving DecidableEq, Repr

/-- A credit given for a time. -/
structure AccTempCredit where
  atcId : String
  atcAblId : String
  atcAblAccYear : String
  atcCreditAmount : Decimal
  atcBalanceAmount : Decimal
  atcStatus : TempCreditStatus
  atcSettledOn : Option Date
  atcIsDeleted : Bool
  deriving DecidableEq, Repr

def AccTempCredit.bill (credit : AccTempCredit) : BillRef := ⟨credit.atcAblId, credit.atcAblAccYear⟩

/-- The `CASE` of the update. -/
def statusOf (credit : AccTempCredit) (pending : Decimal) (writtenOff : Bool) : TempCreditStatus :=
  if credit.atcStatus = .CANCELLED then .CANCELLED
  else if pending ≤ 0 && writtenOff then .WRITTEN_OFF
  else if pending ≤ 0 then .SETTLED
  else if pending < credit.atcCreditAmount then .PARTIAL
  else .OPEN

def followBill (asOf : Date) (pending : Decimal) (writtenOff : Bool) (credit : AccTempCredit) :
    AccTempCredit :=
  { credit with
    atcBalanceAmount := min credit.atcCreditAmount (max 0 pending)
    atcStatus := statusOf credit pending writtenOff
    atcSettledOn := if pending ≤ 0 then some (credit.atcSettledOn.getD asOf) else none }

/-- The update of one credit, where it is live and of a bill that was named. -/
def refreshCredit (unique writtenOff : List BillRef) (asOf : Date) (bills : List AccBillBalance)
    (credit : AccTempCredit) : AccTempCredit :=
  if !credit.atcIsDeleted && credit.bill ∈ unique then
    match bills.find? fun bill => bill.ref = credit.bill with
    | none => credit
    | some bill =>
        followBill asOf bill.ablPendingAmount (decide (credit.bill ∈ writtenOff)) credit
  else credit

structure Ledgers where
  bills : List AccBillBalance
  credits : List AccTempCredit

/-- A bill nothing is left on and whose last movement was a WRITEOFF. -/
def writtenOffOf (lasts : OrderedMap String (Option Movement)) (result : RecomputedBill) :
    Option BillRef :=
  let bill : BillRef := ⟨result.billId, result.accYear⟩
  if result.pendingAmount ≤ 0 &&
      ((lasts.get? bill.key).join.map Movement.adjType) = some .WRITEOFF then some bill
  else none

/-- The recompute with the credits beside the bills. -/
def recomputeLedgers (adjustments : List AdjustmentRow) (named : List BillRef) (asOf : Date)
    (ledgers : Ledgers) : Except DatabaseError (Ledgers × List RecomputedBill) := do
  let unique := dedupe named
  let done ← recomputeBills (adjustments.map AdjustmentRow.toAccBillAdjustment) named asOf
    ledgers.bills
  let lasts := lastMovementsOf adjustments unique asOf
  let writtenOff := done.results.filterMap (writtenOffOf lasts)
  let credits := ledgers.credits.map (refreshCredit unique writtenOff asOf done.bills)
  .ok (⟨done.bills, credits⟩, done.results)

/-! ## What a bill's rows come to, in whatever order -/

theorem addByType_comm (amounts : SettledAmounts) (one other : BillAdjType)
    (amount further : Decimal) :
    addByType (addByType amounts one amount) other further =
      addByType (addByType amounts other further) one amount := by
  cases one <;> cases other <;>
    simp only [addByType, ALLOCATING_TYPES, DISCOUNTING_TYPES] <;> simp [add_right_comm]

/-- A row and its reversal come to nothing. -/
theorem addByType_neg (amounts : SettledAmounts) (adjType : BillAdjType) (amount : Decimal) :
    addByType (addByType amounts adjType amount) adjType (-amount) = amounts := by
  cases adjType <;> simp [addByType, ALLOCATING_TYPES, DISCOUNTING_TYPES]

theorem lastOn_count (bucket : Totals) (row : AccBillAdjustment) :
    (bucket.count row).lastOn = some (bucket.lastOn.elim row.abjAdjDate (max · row.abjAdjDate)) := by
  simp only [Totals.count]
  cases bucket.lastOn with
  | none => rfl
  | some last =>
      simp only [Option.elim_some, Option.some.injEq]
      split
      · case isTrue later => exact (max_eq_right later.le).symm
      · case isFalse notLater => exact (max_eq_left (not_lt.mp notLater)).symm

theorem count_comm (bucket : Totals) (row other : AccBillAdjustment) :
    (bucket.count row).count other = (bucket.count other).count row := by
  have settled : ((bucket.count row).count other).settled =
      ((bucket.count other).count row).settled := addByType_comm _ _ _ _ _
  have lastOn : ((bucket.count row).count other).lastOn =
      ((bucket.count other).count row).lastOn := by
    rw [lastOn_count, lastOn_count, lastOn_count, lastOn_count, Option.elim_some, Option.elim_some]
    cases bucket.lastOn with
    | none => simp [max_comm]
    | some last => simp [max_right_comm]
  exact congrArg₂ Totals.mk settled lastOn

theorem foldl_count_perm {rows reread : List AccBillAdjustment} (perm : reread.Perm rows)
    (bucket : Totals) : reread.foldl Totals.count bucket = rows.foldl Totals.count bucket :=
  perm.foldl_eq' (fun row _ other _ bucket => count_comm bucket row other) bucket

/-! ## Which movement is the last -/

/-- Date, time of writing, and whether it writes off. -/
def Movement.key (movement : Movement) : Date ×ₗ ℤ ×ₗ Bool :=
  toLex (movement.on, toLex (movement.createdOn, decide (movement.adjType = .WRITEOFF)))

theorem laterMovement_iff (a b : Movement) : laterMovement a b = true ↔ b.key < a.key := by
  simp only [laterMovement, Movement.key, Prod.Lex.toLex_lt_toLex]
  by_cases days : a.on = b.on
  · by_cases times : a.createdOn = b.createdOn
    · by_cases left : a.adjType = .WRITEOFF <;> by_cases right : b.adjType = .WRITEOFF <;>
        simp [days, times, left, right]
    · simp [days, times, Ne.symm times]
  · simp [days, Ne.symm days]

/-- The pass keeps a movement of the greatest key. -/
theorem foldl_countMovement (rows : List AdjustmentRow) :
    rows.foldl countMovement none = (rows.map AdjustmentRow.movement).argmax Movement.key := by
  rw [List.argmax, List.foldl_map]
  congr 1
  funext last row
  cases last with
  | none => rfl
  | some last => simp only [countMovement, List.argAux, laterMovement_iff]

/-- Whether the last movement writes off can be read off the rows: one that does stands
among the latest. -/
theorem last_writes_off_iff (rows : List AdjustmentRow) :
    (rows.foldl countMovement none).map Movement.adjType = some .WRITEOFF ↔
      ∃ row ∈ rows, row.abjAdjType = .WRITEOFF ∧
        ∀ other ∈ rows, other.movement.key ≤ row.movement.key := by
  rw [foldl_countMovement, Option.map_eq_some_iff]
  constructor
  · intro ⟨last, isLast, writesOff⟩
    obtain ⟨row, rowMem, rfl⟩ := List.mem_map.mp (List.argmax_mem isLast)
    refine ⟨row, rowMem, writesOff, ?_⟩
    intro other otherMem
    exact List.le_of_mem_argmax (List.mem_map_of_mem otherMem) isLast
  · intro ⟨row, rowMem, writesOff, latest⟩
    cases isLast : (rows.map AdjustmentRow.movement).argmax Movement.key with
    | none =>
        rw [List.argmax_eq_none, List.map_eq_nil_iff] at isLast
        rw [isLast] at rowMem
        cases rowMem
    | some last =>
        refine ⟨last, rfl, ?_⟩
        obtain ⟨other, otherMem, rfl⟩ := List.mem_map.mp (List.argmax_mem isLast)
        have least := List.le_of_mem_argmax (List.mem_map_of_mem rowMem) isLast
        have same := le_antisymm (latest other otherMem) least
        simp only [Movement.key, EmbeddingLike.apply_eq_iff_eq, Prod.mk.injEq] at same
        have kinds := same.2.2
        simp only [AdjustmentRow.movement, writesOff, decide_true] at kinds
        exact of_decide_eq_true kinds

/-! ## The rows a bill is recomputed from -/

/-- The live rows of a bill that count on a day. -/
def countedMoves (adjustments : List AdjustmentRow) (asOf : Date) (ref : BillRef) :
    List AdjustmentRow :=
  adjustments.filter fun row =>
    !row.abjIsDeleted && row.ref = ref && countsOn asOf row.toAccBillAdjustment

theorem countedRows_map (adjustments : List AdjustmentRow) (asOf : Date) (ref : BillRef) :
    countedRows (adjustments.map AdjustmentRow.toAccBillAdjustment) asOf ref =
      (countedMoves adjustments asOf ref).map AdjustmentRow.toAccBillAdjustment := by
  rw [countedRows, List.filter_map]
  rfl

/-- What the rows of a bill add up to. -/
def bucketOf (adjustments : List AdjustmentRow) (asOf : Date) (ref : BillRef) : Totals :=
  ((countedMoves adjustments asOf ref).map AdjustmentRow.toAccBillAdjustment).foldl Totals.count
    emptyTotals

def lastWritesOff (adjustments : List AdjustmentRow) (asOf : Date) (ref : BillRef) : Bool :=
  ((countedMoves adjustments asOf ref).foldl countMovement none).map Movement.adjType =
    some .WRITEOFF

theorem addMovement_feeds (asOf : Date) :
    OrderedMap.Feeds (fun row : AdjustmentRow => row.ref.key)
      (fun row => countsOn asOf row.toAccBillAdjustment) countMovement (addMovement asOf) := by
  intro lasts row
  unfold addMovement
  cases lasts.get? row.ref.key <;> rfl

variable {ref : BillRef} {after : Ledgers × List RecomputedBill}

theorem get?_lastMovementsOf (adjustments : List AdjustmentRow) {unique : List BillRef}
    (distinct : DistinctKeys unique) (asOf : Date) (member : ref ∈ unique) :
    (lastMovementsOf adjustments unique asOf).get? ref.key =
      some ((countedMoves adjustments asOf ref).foldl countMovement none) :=
  get?_bucketsOf (addMovement_feeds asOf) (fun row => !row.abjIsDeleted) none adjustments distinct
    member

variable {adjustments reread : List AdjustmentRow} {bill : AccBillBalance} {bucket : Totals}
variable {named : List BillRef} {asOf : Date} {ledgers : Ledgers}

/-- Only the live rows matter, and not the order they are read in. -/
theorem countedMoves_perm
    (same : (reread.filter (!·.abjIsDeleted)).Perm (adjustments.filter (!·.abjIsDeleted)))
    (asOf : Date) (ref : BillRef) :
    (countedMoves reread asOf ref).Perm (countedMoves adjustments asOf ref) := by
  have split (rows : List AdjustmentRow) : countedMoves rows asOf ref =
      (rows.filter (!·.abjIsDeleted)).filter fun row =>
        row.ref = ref && countsOn asOf row.toAccBillAdjustment := by
    rw [List.filter_filter]
    apply List.filter_congr
    intro row _
    cases row.abjIsDeleted <;> simp
  rw [split, split]
  exact same.filter _

theorem bucketOf_perm
    (same : (reread.filter (!·.abjIsDeleted)).Perm (adjustments.filter (!·.abjIsDeleted)))
    (asOf : Date) (ref : BillRef) : bucketOf reread asOf ref = bucketOf adjustments asOf ref :=
  foldl_count_perm ((countedMoves_perm same asOf ref).map _) _

theorem lastWritesOff_perm
    (same : (reread.filter (!·.abjIsDeleted)).Perm (adjustments.filter (!·.abjIsDeleted)))
    (asOf : Date) (ref : BillRef) :
    lastWritesOff reread asOf ref = lastWritesOff adjustments asOf ref := by
  have perm := countedMoves_perm same asOf ref
  simp only [lastWritesOff, last_writes_off_iff, perm.mem_iff]

/-! ## What a bill and its credits become -/

theorem exactAmounts_bucketOf (adjustments : List AdjustmentRow) (asOf : Date) (ref : BillRef) :
    ExactAmounts (bucketOf adjustments asOf ref).settled :=
  exactAmounts_count _ ⟨zero_mem _, zero_mem _, zero_mem _⟩

/-- A bill as a recompute leaves it. -/
def refreshedBill (bill : AccBillBalance) (bucket : Totals) : AccBillBalance :=
  if fits : CkAblSettled bill.ablBillAmount (recomputed bill bucket).settled then
    { bill with
      ablSettled := (recomputed bill bucket).settled
      ablSettledOn := (recomputed bill bucket).settledOn
      settledFits := fits }
  else bill

theorem refreshedBill_of_unchanged (unchanged : (recomputed bill bucket).changed = false) :
    refreshedBill bill bucket = bill := by
  simp only [recomputed, Bool.or_eq_false_iff, decide_eq_false_iff_not, ne_eq,
    not_not] at unchanged
  have settled : bill.ablSettled = (recomputed bill bucket).settled := unchanged.1
  have settledOn : bill.ablSettledOn = (recomputed bill bucket).settledOn := unchanged.2
  have fits := bill.settledFits
  rw [settled] at fits
  rw [refreshedBill, dif_pos fits]
  cases bill
  simp only at settled settledOn
  simp only [← settled, ← settledOn]

/-- A run that is accepted leaves the bill refreshed, whether or not it had to write. -/
theorem writeBack_eq (bill : AccBillBalance) (bucket : Totals) :
    writeBack bill (recomputed bill bucket) =
      if CkAblSettled bill.ablBillAmount (recomputed bill bucket).settled then
        .ok (refreshedBill bill bucket)
      else .error ⟨"ck_abl_settled"⟩ := by
  unfold writeBack
  cases moved : (recomputed bill bucket).changed with
  | true =>
      unfold refreshedBill
      rw [if_pos rfl]
      split <;> rfl
  | false =>
      have settled : bill.ablSettled = (recomputed bill bucket).settled := by
        simp only [recomputed, Bool.or_eq_false_iff, decide_eq_false_iff_not, ne_eq,
          not_not] at moved
        exact moved.1
      have fits := bill.settledFits
      rw [settled] at fits
      rw [if_neg Bool.false_ne_true, if_pos fits, refreshedBill_of_unchanged moved]

/-- The bill takes the run: its rows add up to figures the table accepts. -/
def Fits (adjustments : List AdjustmentRow) (asOf : Date) (bill : AccBillBalance) : Prop :=
  CkAblSettled bill.ablBillAmount
    (recomputed bill (bucketOf adjustments asOf bill.ref)).settled

instance (adjustments : List AdjustmentRow) (asOf : Date) (bill : AccBillBalance) :
    Decidable (Fits adjustments asOf bill) :=
  inferInstanceAs (Decidable (CkAblSettled _ _))

section Run

variable (adjustments : List AdjustmentRow) (named : List BillRef) (asOf : Date)

def billAfter (bill : AccBillBalance) : AccBillBalance :=
  if bill.ref ∈ named then refreshedBill bill (bucketOf adjustments asOf bill.ref) else bill

def resultOf (bill : AccBillBalance) : Option RecomputedBill :=
  if bill.ref ∈ named then some (recomputed bill (bucketOf adjustments asOf bill.ref)) else none

/-- A credit as a run leaves it, from the bills the run began with. -/
def creditAfter (bills : List AccBillBalance) (credit : AccTempCredit) : AccTempCredit :=
  if !credit.atcIsDeleted && credit.bill ∈ named then
    match bills.find? fun bill => bill.ref = credit.bill with
    | none => credit
    | some bill =>
        followBill asOf (refreshedBill bill (bucketOf adjustments asOf bill.ref)).ablPendingAmount
          (lastWritesOff adjustments asOf bill.ref) credit
  else credit

end Run

theorem mem_dedupe (distinct : DistinctKeys named) : ref ∈ dedupe named ↔ ref ∈ named := by
  have back {value : BillRef} (member : value ∈ dedupe named) : value ∈ named := by
    obtain ⟨entry, entryMem, equal⟩ := List.mem_map.mp member
    have here := OrderedMap.get?_of_mem (OrderedMap.keys_ofList_nodup _) entryMem
    obtain ⟨other, otherMem, isEntry⟩ := List.mem_map.mp (OrderedMap.mem_of_get?_ofList here)
    rw [← equal, ← congrArg Prod.snd isEntry]
    exact otherMem
  constructor
  · exact back
  · intro member
    have isKey : ref.key ∈ (OrderedMap.ofList (named.map fun bill => (bill.key, bill))).keys := by
      rw [OrderedMap.mem_keys_ofList, List.map_map]
      exact List.mem_map_of_mem (f := fun bill => bill.key) member
    obtain ⟨value, found⟩ := (OrderedMap.mem_keys_iff _ _).mp isKey
    obtain ⟨other, otherMem, isEntry⟩ := List.mem_map.mp (OrderedMap.mem_of_get?_ofList found)
    have same : other = ref :=
      distinct other otherMem ref member (congrArg Prod.fst isEntry)
    have entry := OrderedMap.mem_of_get? found
    have isRef : value = ref := (congrArg Prod.snd isEntry).symm.trans same
    rw [isRef] at entry
    exact List.mem_map_of_mem (f := Prod.snd) entry

theorem recomputeBill_eq {adjustments : List AdjustmentRow} {named : List BillRef}
    (distinct : DistinctKeys named) (asOf : Date) (bill : AccBillBalance) :
    recomputeBill (dedupe named)
        (totalsOf (adjustments.map AdjustmentRow.toAccBillAdjustment) (dedupe named) asOf) bill =
      if bill.ref ∈ named → Fits adjustments asOf bill then
        .ok (billAfter adjustments named asOf bill, resultOf adjustments named asOf bill)
      else .error ⟨"ck_abl_settled"⟩ := by
  unfold recomputeBill billAfter resultOf
  by_cases member : bill.ref ∈ named
  · have unique := (mem_dedupe distinct).mpr member
    rw [if_pos unique, get?_totalsOf _ (dedupe_distinct named) asOf unique, countedRows_map]
    simp only [member, forall_const, if_true]
    rw [← bucketOf, writeBack_eq]
    by_cases fits : Fits adjustments asOf bill
    · have settled : CkAblSettled bill.ablBillAmount
          (recomputed bill (bucketOf adjustments asOf bill.ref)).settled := fits
      rw [if_pos fits, if_pos settled]
      rfl
    · have refused : ¬CkAblSettled bill.ablBillAmount
          (recomputed bill (bucketOf adjustments asOf bill.ref)).settled := fits
      rw [if_neg fits, if_neg refused]
      rfl
  · rw [if_neg (mt (mem_dedupe distinct).mp member)]
    simp only [member, false_implies, if_true, if_false]

/-- A recompute refuses as a whole, or refreshes every named bill. -/
theorem recomputeBills_eq (distinct : DistinctKeys named) (asOf : Date)
    (bills : List AccBillBalance) :
    recomputeBills (adjustments.map AdjustmentRow.toAccBillAdjustment) named asOf bills =
      if ∀ bill ∈ bills, bill.ref ∈ named → Fits adjustments asOf bill then
        .ok ⟨bills.map (billAfter adjustments named asOf),
          bills.filterMap (resultOf adjustments named asOf)⟩
      else .error ⟨"ck_abl_settled"⟩ := by
  unfold recomputeBills
  by_cases nobody : dedupe named = []
  · have unnamed (ref : BillRef) : ref ∉ named := by
      rw [← mem_dedupe distinct, nobody]
      exact List.not_mem_nil
    simp only [nobody, if_true, unnamed, false_implies, implies_true]
    have same (bill : AccBillBalance) : billAfter adjustments named asOf bill = bill :=
      if_neg (unnamed bill.ref)
    have still := List.map_id'' same bills
    have nothing : bills.filterMap (resultOf adjustments named asOf) = [] :=
      List.filterMap_eq_nil_iff.mpr fun bill _ => if_neg (unnamed bill.ref)
    rw [still, nothing]
  · have each := funext (@recomputeBill_eq adjustments _ distinct asOf)
    simp only [nobody, if_false]
    rw [each, mapM_ite]
    split
    · have firsts : (bills.map fun bill => (billAfter adjustments named asOf bill,
          resultOf adjustments named asOf bill)).map Prod.fst =
            bills.map (billAfter adjustments named asOf) := by
        rw [List.map_map]
        rfl
      have seconds : (bills.map fun bill => (billAfter adjustments named asOf bill,
          resultOf adjustments named asOf bill)).filterMap Prod.snd =
            bills.filterMap (resultOf adjustments named asOf) := by
        rw [List.filterMap_map]
        rfl
      exact congrArg Except.ok (congrArg₂ Recomputed.mk firsts seconds)
    · rfl

/-! ## The run with its credits -/

theorem ref_refreshedBill (bill : AccBillBalance) (bucket : Totals) :
    (refreshedBill bill bucket).ref = bill.ref := by
  unfold refreshedBill
  split <;> rfl

theorem amount_refreshedBill (bill : AccBillBalance) (bucket : Totals) :
    (refreshedBill bill bucket).ablBillAmount = bill.ablBillAmount := by
  unfold refreshedBill
  split <;> rfl

/-- What is left on a bill, as reported and as stored. -/
theorem pending_refreshedBill (exact : ExactAmounts bucket.settled)
    (fits : CkAblSettled bill.ablBillAmount (recomputed bill bucket).settled) :
    (refreshedBill bill bucket).ablPendingAmount = bill.ablBillAmount - bucket.settled.total ∧
      (recomputed bill bucket).pendingAmount = bill.ablBillAmount - bucket.settled.total := by
  have columns := @recomputed_settled bill _ exact
  have amount : bill.ablBillAmount ∈ paise := by
    rw [← bill.amountExact]
    exact money_mem _
  have total : bucket.settled.total ∈ paise :=
    add_mem (add_mem exact.alloc exact.disc) exact.writeoff
  constructor
  · rw [refreshedBill, dif_pos fits, AccBillBalance.pending_eq]
    exact congrArg (fun amounts => bill.ablBillAmount - SettledAmounts.total amounts) columns
  · have settled : bucket.settled.alloc + bucket.settled.disc + bucket.settled.writeoff =
        bucket.settled.total := rfl
    simp only [recomputed, settled, money_of_mem total, money_of_mem (sub_mem amount total)]

/-- A second run finds the figures it would write. -/
theorem recomputed_refreshedBill
    (fits : CkAblSettled bill.ablBillAmount (recomputed bill bucket).settled) :
    recomputed (refreshedBill bill bucket) bucket =
      { recomputed bill bucket with changed := false } := by
  rw [refreshedBill, dif_pos fits]
  simp [recomputed]

theorem refreshedBill_again
    (fits : CkAblSettled bill.ablBillAmount (recomputed bill bucket).settled) :
    refreshedBill (refreshedBill bill bucket) bucket = refreshedBill bill bucket := by
  apply refreshedBill_of_unchanged
  rw [recomputed_refreshedBill fits]

theorem followBill_again (asOf : Date) (pending : Decimal) (writtenOff : Bool)
    (credit : AccTempCredit) :
    followBill asOf pending writtenOff (followBill asOf pending writtenOff credit) =
      followBill asOf pending writtenOff credit := by
  simp only [followBill, statusOf]
  by_cases cancelled : credit.atcStatus = .CANCELLED
  · by_cases left : pending ≤ 0 <;> simp [left, cancelled]
  · by_cases left : pending ≤ 0
    · cases writtenOff <;> simp [left, cancelled]
    · by_cases part : pending < credit.atcCreditAmount <;> simp [left, part, cancelled]

theorem writtenOffOf_recomputed (distinct : DistinctKeys named) (asOf : Date)
    (member : bill.ref ∈ named) (bucket : Totals) :
    writtenOffOf (lastMovementsOf adjustments (dedupe named) asOf) (recomputed bill bucket) =
      if (recomputed bill bucket).pendingAmount ≤ 0 && lastWritesOff adjustments asOf bill.ref then
        some bill.ref
      else none := by
  have last := get?_lastMovementsOf adjustments (dedupe_distinct named) asOf
    ((mem_dedupe distinct).mpr member)
  have isRef : (⟨(recomputed bill bucket).billId, (recomputed bill bucket).accYear⟩ : BillRef) =
      bill.ref := rfl
  simp only [writtenOffOf, isRef, last, Option.join_some, lastWritesOff]
  congr

section Run

variable {adjustments : List AdjustmentRow} {named : List BillRef} {asOf : Date}
  {bills : List AccBillBalance}

theorem ref_billAfter (bill : AccBillBalance) :
    (billAfter adjustments named asOf bill).ref = bill.ref := by
  unfold billAfter
  split
  · exact ref_refreshedBill _ _
  · rfl

/-- The bills written off are those nothing is left on whose last movement writes off. -/
theorem mem_writtenOff (distinct : DistinctKeys named) (pk : (bills.map AccBillBalance.ref).Nodup)
    (billMem : bill ∈ bills) (member : bill.ref ∈ named) :
    bill.ref ∈ (bills.filterMap (resultOf adjustments named asOf)).filterMap
        (writtenOffOf (lastMovementsOf adjustments (dedupe named) asOf)) ↔
      (recomputed bill (bucketOf adjustments asOf bill.ref)).pendingAmount ≤ 0 ∧
        lastWritesOff adjustments asOf bill.ref = true := by
  constructor
  · intro listed
    obtain ⟨result, resultMem, isRef⟩ := List.mem_filterMap.mp listed
    obtain ⟨other, otherMem, isResult⟩ := List.mem_filterMap.mp resultMem
    unfold resultOf at isResult
    split at isResult
    · case isTrue otherNamed =>
        obtain rfl := Option.some.inj isResult
        rw [writtenOffOf_recomputed distinct asOf otherNamed] at isRef
        split at isRef
        · case isTrue holds =>
            have same := List.inj_on_of_nodup_map pk otherMem billMem (Option.some.inj isRef)
            rw [same, Bool.and_eq_true, decide_eq_true_eq] at holds
            exact holds
        · cases isRef
    · cases isResult
  · intro holds
    rw [List.mem_filterMap]
    refine ⟨recomputed bill (bucketOf adjustments asOf bill.ref), ?_, ?_⟩
    · exact List.mem_filterMap.mpr ⟨bill, billMem, if_pos member⟩
    · rw [writtenOffOf_recomputed distinct asOf member, if_pos]
      rw [Bool.and_eq_true, decide_eq_true_eq]
      exact holds

theorem find?_billAfter (ref : BillRef) :
    (bills.map (billAfter adjustments named asOf)).find? (fun bill => bill.ref = ref) =
      (bills.find? fun bill => bill.ref = ref).map (billAfter adjustments named asOf) := by
  rw [List.find?_map]
  simp only [Function.comp_def, ref_billAfter]

theorem followBill_of_pending (asOf : Date) (pending : Decimal) (writtenOff : Bool)
    (credit : AccTempCredit) :
    followBill asOf pending (decide (pending ≤ 0 ∧ writtenOff = true)) credit =
      followBill asOf pending writtenOff credit := by
  simp only [followBill, statusOf]
  by_cases left : pending ≤ 0 <;> simp [left]

theorem refreshCredit_eq (distinct : DistinctKeys named)
    (pk : (bills.map AccBillBalance.ref).Nodup)
    (fits : ∀ bill ∈ bills, bill.ref ∈ named → Fits adjustments asOf bill)
    (credit : AccTempCredit) :
    refreshCredit (dedupe named) ((bills.filterMap (resultOf adjustments named asOf)).filterMap
        (writtenOffOf (lastMovementsOf adjustments (dedupe named) asOf))) asOf
        (bills.map (billAfter adjustments named asOf)) credit =
      creditAfter adjustments named asOf bills credit := by
  unfold refreshCredit creditAfter
  simp only [mem_dedupe distinct, find?_billAfter]
  split
  · case isTrue taken =>
      rw [Bool.and_eq_true, decide_eq_true_eq] at taken
      cases found : bills.find? fun bill => bill.ref = credit.bill with
      | none => rfl
      | some bill =>
          have billMem := List.mem_of_find?_eq_some found
          have isBill := List.find?_some found
          rw [decide_eq_true_eq] at isBill
          have member : bill.ref ∈ named := by
            rw [isBill]
            exact taken.2
          have pendings := pending_refreshedBill (exactAmounts_bucketOf adjustments asOf bill.ref)
            (fits bill billMem member)
          have after : billAfter adjustments named asOf bill =
              refreshedBill bill (bucketOf adjustments asOf bill.ref) := if_pos member
          simp only [Option.map_some, ← isBill, after,
            mem_writtenOff distinct pk billMem member, pendings.2.trans pendings.1.symm]
          exact followBill_of_pending _ _ _ _
  · rfl

/-- A run refuses as a whole, or leaves every bill and every credit as its rows have it. -/
theorem recomputeLedgers_eq (distinct : DistinctKeys named)
    (pk : (ledgers.bills.map AccBillBalance.ref).Nodup) :
    recomputeLedgers adjustments named asOf ledgers =
      if ∀ bill ∈ ledgers.bills, bill.ref ∈ named → Fits adjustments asOf bill then
        .ok (⟨ledgers.bills.map (billAfter adjustments named asOf),
          ledgers.credits.map (creditAfter adjustments named asOf ledgers.bills)⟩,
          ledgers.bills.filterMap (resultOf adjustments named asOf))
      else .error ⟨"ck_abl_settled"⟩ := by
  unfold recomputeLedgers
  rw [recomputeBills_eq distinct]
  by_cases fits : ∀ bill ∈ ledgers.bills, bill.ref ∈ named → Fits adjustments asOf bill
  · rw [if_pos fits, if_pos fits]
    have credits := List.map_congr_left (l := ledgers.credits) fun credit _ =>
      refreshCredit_eq distinct pk fits credit
    exact congrArg (fun credits => Except.ok (Ledgers.mk _ credits, _)) credits
  · rw [if_neg fits, if_neg fits]
    rfl

end Run

/-! ## A function of the live rows -/

section Twice

variable {adjustments : List AdjustmentRow} {asOf : Date}

variable {named : List BillRef}

theorem fits_billAfter (bill : AccBillBalance) :
    Fits adjustments asOf (billAfter adjustments named asOf bill) ↔
      Fits adjustments asOf bill := by
  unfold Fits
  rw [ref_billAfter, billAfter]
  split
  · rw [amount_refreshedBill]
    exact Iff.rfl
  · exact Iff.rfl

variable {first second : List BillRef} {bills : List AccBillBalance}

/-- Bills taken in two batches are left as one run leaves them. -/
theorem billAfter_twice (cover : ∀ ref, ref ∈ named ↔ ref ∈ first ∨ ref ∈ second)
    (fits : bill.ref ∈ named → Fits adjustments asOf bill) :
    billAfter adjustments second asOf (billAfter adjustments first asOf bill) =
      billAfter adjustments named asOf bill := by
  by_cases inFirst : bill.ref ∈ first
  · have inNamed := (cover bill.ref).mpr (Or.inl inFirst)
    have once (batch : List BillRef) (member : bill.ref ∈ batch) :
        billAfter adjustments batch asOf bill =
          refreshedBill bill (bucketOf adjustments asOf bill.ref) := if_pos member
    rw [once first inFirst, once named inNamed, billAfter, ref_refreshedBill]
    split
    · exact refreshedBill_again (fits inNamed)
    · rfl
  · have untouched : billAfter adjustments first asOf bill = bill := if_neg inFirst
    rw [untouched, billAfter, billAfter]
    simp only [cover, inFirst, false_or]

theorem bill_followBill (pending : Decimal) (writtenOff : Bool) (credit : AccTempCredit) :
    (followBill asOf pending writtenOff credit).bill = credit.bill ∧
      (followBill asOf pending writtenOff credit).atcIsDeleted = credit.atcIsDeleted :=
  ⟨rfl, rfl⟩

theorem creditAfter_kept {named : List BillRef} {bills : List AccBillBalance}
    (credit : AccTempCredit) :
    (creditAfter adjustments named asOf bills credit).bill = credit.bill ∧
      (creditAfter adjustments named asOf bills credit).atcIsDeleted = credit.atcIsDeleted := by
  unfold creditAfter
  split
  · cases bills.find? fun bill => bill.ref = credit.bill with
    | none => exact ⟨rfl, rfl⟩
    | some bill => exact bill_followBill _ _ _
  · exact ⟨rfl, rfl⟩

theorem creditAfter_of_found {credit : AccTempCredit} (live : credit.atcIsDeleted = false)
    (member : credit.bill ∈ named)
    (found : bills.find? (fun bill => bill.ref = credit.bill) = some bill) :
    creditAfter adjustments named asOf bills credit =
      followBill asOf (refreshedBill bill (bucketOf adjustments asOf bill.ref)).ablPendingAmount
        (lastWritesOff adjustments asOf bill.ref) credit := by
  unfold creditAfter
  rw [if_pos (by simp [live, member]), found]

theorem creditAfter_of_not_found {named : List BillRef} {bills : List AccBillBalance}
    {credit : AccTempCredit}
    (none : credit.atcIsDeleted = true ∨ credit.bill ∉ named ∨
      bills.find? (fun bill => bill.ref = credit.bill) = none) :
    creditAfter adjustments named asOf bills credit = credit := by
  unfold creditAfter
  split
  · case isTrue taken =>
      rw [Bool.and_eq_true, Bool.not_eq_true', decide_eq_true_eq] at taken
      obtain deleted | unnamed | missing := none
      · rw [taken.1] at deleted
        cases deleted
      · exact absurd taken.2 unnamed
      · rw [missing]
  · rfl

/-- So are the credits beside them. -/
theorem creditAfter_twice (cover : ∀ ref, ref ∈ named ↔ ref ∈ first ∨ ref ∈ second)
    (fits : ∀ bill ∈ bills, bill.ref ∈ named → Fits adjustments asOf bill) (credit : AccTempCredit) :
    creditAfter adjustments second asOf (bills.map (billAfter adjustments first asOf))
        (creditAfter adjustments first asOf bills credit) =
      creditAfter adjustments named asOf bills credit := by
  have kept := @creditAfter_kept adjustments asOf first bills credit
  cases deleted : credit.atcIsDeleted with
  | true =>
      rw [creditAfter_of_not_found (Or.inl (kept.2.trans deleted)),
        creditAfter_of_not_found (Or.inl deleted), creditAfter_of_not_found (Or.inl deleted)]
  | false =>
      cases found : bills.find? fun bill => bill.ref = credit.bill with
      | none =>
          have still : (bills.map (billAfter adjustments first asOf)).find? (fun bill =>
              bill.ref = (creditAfter adjustments first asOf bills credit).bill) = none := by
            rw [kept.1, find?_billAfter, found, Option.map_none]
          rw [creditAfter_of_not_found (Or.inr (Or.inr still)),
            creditAfter_of_not_found (Or.inr (Or.inr found)),
            creditAfter_of_not_found (Or.inr (Or.inr found))]
      | some bill =>
          have isBill := List.find?_some found
          rw [decide_eq_true_eq] at isBill
          have later : (bills.map (billAfter adjustments first asOf)).find? (fun bill =>
              bill.ref = (creditAfter adjustments first asOf bills credit).bill) =
                some (billAfter adjustments first asOf bill) := by
            rw [kept.1, find?_billAfter, found, Option.map_some]
          have live := kept.2.trans deleted
          by_cases inSecond : credit.bill ∈ second
          · have inNamed := (cover credit.bill).mpr (Or.inr inSecond)
            have member : bill.ref ∈ named := isBill ▸ inNamed
            have fitsBill := fits bill (List.mem_of_find?_eq_some found) member
            have same : refreshedBill (billAfter adjustments first asOf bill)
                (bucketOf adjustments asOf bill.ref) =
                  refreshedBill bill (bucketOf adjustments asOf bill.ref) := by
              unfold billAfter
              split
              · exact refreshedBill_again fitsBill
              · rfl
            rw [creditAfter_of_found live (kept.1 ▸ inSecond) later,
              creditAfter_of_found deleted inNamed found, ref_billAfter, same]
            by_cases inFirst : credit.bill ∈ first
            · rw [creditAfter_of_found deleted inFirst found, followBill_again]
            · rw [creditAfter_of_not_found (Or.inr (Or.inl inFirst))]
          · rw [creditAfter_of_not_found (Or.inr (Or.inl (kept.1 ▸ inSecond)))]
            by_cases inFirst : credit.bill ∈ first
            · rw [creditAfter_of_found deleted inFirst found, creditAfter_of_found deleted
                ((cover credit.bill).mpr (Or.inl inFirst)) found]
            · have unnamed : credit.bill ∉ named := by
                rw [cover]
                exact not_or.mpr ⟨inFirst, inSecond⟩
              rw [creditAfter_of_not_found (Or.inr (Or.inl inFirst)),
                creditAfter_of_not_found (Or.inr (Or.inl unnamed))]

end Twice

/-- Rows that come to the same, and a request that names the same bills, run alike. -/
theorem recomputeLedgers_congr {request : List BillRef} (distinct : DistinctKeys named)
    (pk : (ledgers.bills.map AccBillBalance.ref).Nodup) (names : ∀ ref, ref ∈ request ↔ ref ∈ named)
    (buckets : ∀ ref, bucketOf reread asOf ref = bucketOf adjustments asOf ref)
    (lasts : ∀ ref, lastWritesOff reread asOf ref = lastWritesOff adjustments asOf ref) :
    recomputeLedgers reread request asOf ledgers =
      recomputeLedgers adjustments named asOf ledgers := by
  have distinctRequest : DistinctKeys request := by
    intro left leftMem right rightMem
    exact distinct left ((names left).mp leftMem) right ((names right).mp rightMem)
  have bills : billAfter reread request asOf = billAfter adjustments named asOf := by
    funext bill
    simp only [billAfter, names, buckets]
  have results : resultOf reread request asOf = resultOf adjustments named asOf := by
    funext bill
    simp only [resultOf, names, buckets]
  have credits : creditAfter reread request asOf ledgers.bills =
      creditAfter adjustments named asOf ledgers.bills := by
    funext credit
    simp only [creditAfter, names, buckets, lasts]
  have fits : (∀ bill ∈ ledgers.bills, bill.ref ∈ request → Fits reread asOf bill) ↔
      ∀ bill ∈ ledgers.bills, bill.ref ∈ named → Fits adjustments asOf bill := by
    simp only [names, Fits, buckets]
  rw [recomputeLedgers_eq distinctRequest pk, recomputeLedgers_eq distinct pk, bills, results,
    credits, if_congr fits rfl rfl]

theorem recomputeLedgers_ok (distinct : DistinctKeys named)
    (pk : (ledgers.bills.map AccBillBalance.ref).Nodup) :
    recomputeLedgers adjustments named asOf ledgers = .ok after ↔
      (∀ bill ∈ ledgers.bills, bill.ref ∈ named → Fits adjustments asOf bill) ∧
        after = (⟨ledgers.bills.map (billAfter adjustments named asOf),
          ledgers.credits.map (creditAfter adjustments named asOf ledgers.bills)⟩,
          ledgers.bills.filterMap (resultOf adjustments named asOf)) := by
  rw [recomputeLedgers_eq distinct pk]
  constructor
  · intro run
    split at run
    · case isTrue fits =>
        cases run
        exact ⟨fits, rfl⟩
    · cases run
  · intro ⟨fits, equal⟩
    rw [if_pos fits, equal]

theorem map_ref_billAfter (bills : List AccBillBalance) :
    (bills.map (billAfter adjustments named asOf)).map AccBillBalance.ref =
      bills.map AccBillBalance.ref := by
  rw [List.map_map]
  exact List.map_congr_left fun bill _ => ref_billAfter bill

/-- What one run makes, two runs over its batches make. -/
theorem recomputeLedgers_twice {first second : List BillRef} (distinct : DistinctKeys named)
    (pk : (ledgers.bills.map AccBillBalance.ref).Nodup)
    (cover : ∀ ref, ref ∈ named ↔ ref ∈ first ∨ ref ∈ second)
    (run : recomputeLedgers adjustments named asOf ledgers = .ok after) :
    ∃ half, recomputeLedgers adjustments first asOf ledgers = .ok half ∧
      half.2 = ledgers.bills.filterMap (resultOf adjustments first asOf) ∧
      recomputeLedgers adjustments second asOf half.1 =
        .ok (after.1, (ledgers.bills.map (billAfter adjustments first asOf)).filterMap
          (resultOf adjustments second asOf)) := by
  obtain ⟨fits, rfl⟩ := (recomputeLedgers_ok distinct pk).mp run
  have distinctFirst : DistinctKeys first := by
    intro left leftMem right rightMem
    exact distinct left ((cover left).mpr (Or.inl leftMem)) right
      ((cover right).mpr (Or.inl rightMem))
  have distinctSecond : DistinctKeys second := by
    intro left leftMem right rightMem
    exact distinct left ((cover left).mpr (Or.inr leftMem)) right
      ((cover right).mpr (Or.inr rightMem))
  refine ⟨_, (recomputeLedgers_ok distinctFirst pk).mpr ⟨?_, rfl⟩, rfl, ?_⟩
  · intro bill billMem member
    exact fits bill billMem ((cover bill.ref).mpr (Or.inl member))
  · apply (recomputeLedgers_ok distinctSecond ((map_ref_billAfter _).symm ▸ pk)).mpr
    constructor
    · intro bill billMem member
      obtain ⟨before, beforeMem, rfl⟩ := List.mem_map.mp billMem
      rw [ref_billAfter] at member
      exact (fits_billAfter before).mpr
        (fits before beforeMem ((cover before.ref).mpr (Or.inr member)))
    · have bills : ledgers.bills.map (billAfter adjustments named asOf) =
          (ledgers.bills.map (billAfter adjustments first asOf)).map
            (billAfter adjustments second asOf) := by
        rw [List.map_map]
        exact List.map_congr_left fun bill member =>
          (billAfter_twice cover (fits bill member)).symm
      have credits : ledgers.credits.map (creditAfter adjustments named asOf ledgers.bills) =
          (ledgers.credits.map (creditAfter adjustments first asOf ledgers.bills)).map
            (creditAfter adjustments second asOf
              (ledgers.bills.map (billAfter adjustments first asOf))) := by
        rw [List.map_map]
        exact List.map_congr_left fun credit _ => (creditAfter_twice cover fits credit).symm
      exact congrArg₂ (fun bills credits => (Ledgers.mk bills credits, _)) bills credits

end ErpServer.BillBalance
