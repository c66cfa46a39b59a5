import ErpServer.BillBalance.TempCredit

/-!
# A function of the live rows alone

What a recompute leaves does not depend on the order the rows are read in, on how the bills
are batched or repeated, or on whether it has run before, and a row comes to nothing with
its reversal.  Whether a credit reads as written off is another matter: the last movement
of a bill may be the reversal of its write-off.
-/

namespace ErpServer.BillBalance

open Lib Lib.Fold Receipt

/-! ## A row and its reversal -/

/-- A reversal takes the row back: on its date, with its flag. -/
structure Reverses (row reversal : AdjustmentRow) : Prop where
  live : row.abjIsDeleted = false ∧ reversal.abjIsDeleted = false
  ref : reversal.ref = row.ref
  adjType : reversal.abjAdjType = row.abjAdjType
  amount : reversal.abjAmount = -row.abjAmount
  adjDate : reversal.abjAdjDate = row.abjAdjDate
  postDated : reversal.abjIsPostDated = row.abjIsPostDated
  reversalOf : reversal.abjReversalOfId = some row.abjId

/-- The column totals a bucket ends with depend on those it began with. -/
theorem settled_foldl_count (rows : List AccBillAdjustment) {bucket other : Totals}
    (same : bucket.settled = other.settled) :
    (rows.foldl Totals.count bucket).settled = (rows.foldl Totals.count other).settled := by
  induction rows generalizing bucket other with
  | nil => exact same
  | cons row rest ih =>
      apply ih
      simp only [Totals.count, same]

theorem settled_bucketOf_netted {row reversal : AdjustmentRow} (reverses : Reverses row reversal)
    (adjustments : List AdjustmentRow) (asOf : Date) (ref : BillRef) :
    (bucketOf (row :: reversal :: adjustments) asOf ref).settled =
      (bucketOf adjustments asOf ref).settled := by
  have counts : countsOn asOf reversal.toAccBillAdjustment =
      countsOn asOf row.toAccBillAdjustment := by
    simp only [countsOn, reverses.postDated, reverses.adjDate]
  have together : (!reversal.abjIsDeleted && reversal.ref = ref &&
      countsOn asOf reversal.toAccBillAdjustment) =
        (!row.abjIsDeleted && row.ref = ref && countsOn asOf row.toAccBillAdjustment) := by
    rw [reverses.live.1, reverses.live.2, reverses.ref, counts]
  unfold bucketOf countedMoves
  rw [List.filter_cons, List.filter_cons, together]
  split
  · rw [List.map_cons, List.map_cons, List.foldl_cons, List.foldl_cons]
    apply settled_foldl_count
    simp only [Totals.count, reverses.adjType, reverses.amount, addByType_neg]
  · rfl

/-- The figures a run leaves on the bills and the credits, and those it reports. -/
def figuresOf (after : Ledgers × List RecomputedBill) :
    List (SettledAmounts × Decimal) × List Decimal × List (SettledAmounts × Decimal) :=
  (after.1.bills.map fun bill => (bill.ablSettled, bill.ablPendingAmount),
    after.1.credits.map AccTempCredit.atcBalanceAmount,
    after.2.map fun result => (result.settled, result.pendingAmount))

section Netted

variable {bill : AccBillBalance} {bucket other : Totals}

theorem recomputed_figures (same : bucket.settled = other.settled) :
    (recomputed bill bucket).settled = (recomputed bill other).settled ∧
      (recomputed bill bucket).pendingAmount = (recomputed bill other).pendingAmount := by
  simp only [recomputed, same, and_self]

theorem refreshedBill_figures (same : bucket.settled = other.settled) :
    (refreshedBill bill bucket).ablSettled = (refreshedBill bill other).ablSettled ∧
      (refreshedBill bill bucket).ablPendingAmount =
        (refreshedBill bill other).ablPendingAmount := by
  have columns := (@recomputed_figures bill _ _ same).1
  unfold refreshedBill
  by_cases fits : CkAblSettled bill.ablBillAmount (recomputed bill other).settled
  · have fitsToo := columns.symm ▸ fits
    rw [dif_pos fits, dif_pos fitsToo]
    simp only [AccBillBalance.ablPendingAmount, columns, and_self]
  · have neither : ¬CkAblSettled bill.ablBillAmount (recomputed bill bucket).settled :=
      columns.symm ▸ fits
    rw [dif_neg fits, dif_neg neither]
    exact ⟨rfl, rfl⟩

end Netted

section Figures

variable {adjustments reread : List AdjustmentRow} {named : List BillRef} {asOf : Date}

theorem creditAfter_balance
    (same : ∀ ref, (bucketOf reread asOf ref).settled = (bucketOf adjustments asOf ref).settled)
    (bills : List AccBillBalance) (credit : AccTempCredit) :
    (creditAfter reread named asOf bills credit).atcBalanceAmount =
      (creditAfter adjustments named asOf bills credit).atcBalanceAmount := by
  unfold creditAfter
  split
  · cases bills.find? fun bill => bill.ref = credit.bill with
    | none => rfl
    | some bill => simp only [followBill, (refreshedBill_figures (same bill.ref)).2]
  · rfl

variable {ledgers : Ledgers}

/-- Rows whose columns add up alike leave the same figures. -/
theorem figuresOf_congr (distinct : DistinctKeys named)
    (pk : (ledgers.bills.map AccBillBalance.ref).Nodup)
    (same : ∀ ref, (bucketOf reread asOf ref).settled = (bucketOf adjustments asOf ref).settled) :
    (recomputeLedgers reread named asOf ledgers).map figuresOf =
      (recomputeLedgers adjustments named asOf ledgers).map figuresOf := by
  have fits : (∀ bill ∈ ledgers.bills, bill.ref ∈ named → Fits reread asOf bill) ↔
      ∀ bill ∈ ledgers.bills, bill.ref ∈ named → Fits adjustments asOf bill := by
    simp only [Fits, (recomputed_figures (same _)).1]
  rw [recomputeLedgers_eq distinct pk, recomputeLedgers_eq distinct pk, if_congr fits rfl rfl]
  split
  · have bills (bill : AccBillBalance) :
        ((billAfter reread named asOf bill).ablSettled,
          (billAfter reread named asOf bill).ablPendingAmount) =
          ((billAfter adjustments named asOf bill).ablSettled,
            (billAfter adjustments named asOf bill).ablPendingAmount) := by
      unfold billAfter
      split
      · have figures := @refreshedBill_figures bill _ _ (same bill.ref)
        rw [figures.1, figures.2]
      · rfl
    have results (bill : AccBillBalance) :
        (resultOf reread named asOf bill).map
            (fun result => (result.settled, result.pendingAmount)) =
          (resultOf adjustments named asOf bill).map
            (fun result => (result.settled, result.pendingAmount)) := by
      unfold resultOf
      split
      · have figures := @recomputed_figures bill _ _ (same bill.ref)
        rw [Option.map_some, Option.map_some, figures.1, figures.2]
      · rfl
    simp only [Except.map, figuresOf, List.map_map, List.map_filterMap, Function.comp_def, bills,
      results, creditAfter_balance same]
  · rfl

/-! ## Batches -/

/-- The bills of a request taken in batches, one run after the other. -/
def runBatches (adjustments : List AdjustmentRow) (asOf : Date) :
    List (List BillRef) → Ledgers → Except DatabaseError (Ledgers × List RecomputedBill)
  | [], ledgers => .ok (ledgers, [])
  | batch :: rest, ledgers => do
      let first ← recomputeLedgers adjustments batch asOf ledgers
      let later ← runBatches adjustments asOf rest first.1
      .ok (later.1, first.2 ++ later.2)

def RecomputedBill.ref (result : RecomputedBill) : BillRef := ⟨result.billId, result.accYear⟩

theorem find?_resultOf (bills : List AccBillBalance) (ref : BillRef) :
    (bills.filterMap (resultOf adjustments named asOf)).find? (fun result => result.ref = ref) =
      (bills.find? fun bill => bill.ref = ref).bind (resultOf adjustments named asOf) := by
  induction bills with
  | nil => rfl
  | cons bill rest ih =>
      rw [List.filterMap_cons, List.find?_cons]
      by_cases here : bill.ref = ref
      · simp only [here, decide_true, Option.bind_some]
        by_cases member : bill.ref ∈ named
        · have result : resultOf adjustments named asOf bill =
              some (recomputed bill (bucketOf adjustments asOf bill.ref)) := if_pos member
          simp only [result]
          exact List.find?_cons_of_pos (decide_eq_true here)
        · have nothing : resultOf adjustments named asOf bill = none := if_neg member
          simp only [nothing]
          rw [List.find?_eq_none]
          intro result resultMem isRef
          obtain ⟨other, -, isResult⟩ := List.mem_filterMap.mp resultMem
          unfold resultOf at isResult
          split at isResult
          · case isTrue otherNamed =>
              obtain rfl := Option.some.inj isResult
              have same : other.ref = ref := of_decide_eq_true isRef
              exact member (here.trans same.symm ▸ otherNamed)
          · cases isResult
      · simp only [here, decide_false]
        rw [← ih]
        cases isResult : resultOf adjustments named asOf bill with
        | none => rfl
        | some result =>
            have sameRef : result.ref = bill.ref := by
              unfold resultOf at isResult
              split at isResult
              · obtain rfl := Option.some.inj isResult
                rfl
              · cases isResult
            exact List.find?_cons_of_neg (by simp [sameRef, here])

/-- Batches that name what one request names leave what it leaves, and the first report of
each bill is the one it gives. -/
theorem runBatches_eq {batches : List (List BillRef)} {after : Ledgers × List RecomputedBill}
    (distinct : DistinctKeys named) (pk : (ledgers.bills.map AccBillBalance.ref).Nodup)
    (cover : ∀ ref, ref ∈ named ↔ ref ∈ batches.flatten)
    (run : recomputeLedgers adjustments named asOf ledgers = .ok after) :
    ∃ reports, runBatches adjustments asOf batches ledgers = .ok (after.1, reports) ∧
      ∀ ref, reports.find? (fun result => result.ref = ref) =
        after.2.find? fun result => result.ref = ref := by
  induction batches generalizing named ledgers after with
  | nil =>
      obtain ⟨-, rfl⟩ := (recomputeLedgers_ok distinct pk).mp run
      have unnamed (ref : BillRef) : ref ∉ named := by
        rw [cover]
        exact List.not_mem_nil
      have untouched (bill : AccBillBalance) : billAfter adjustments named asOf bill = bill :=
        if_neg (unnamed bill.ref)
      have bills := List.map_id'' (l := ledgers.bills) untouched
      have credits := List.map_id'' (l := ledgers.credits) fun credit =>
        @creditAfter_of_not_found adjustments asOf named ledgers.bills credit
          (Or.inr (Or.inl (unnamed credit.bill)))
      refine ⟨[], ?_, ?_⟩
      · rw [runBatches, bills, credits]
      · intro ref
        rw [find?_resultOf]
        cases bills : ledgers.bills.find? fun bill => bill.ref = ref with
        | none => rfl
        | some bill => exact (if_neg (unnamed bill.ref)).symm
  | cons batch rest ih =>
      have split (ref : BillRef) : ref ∈ named ↔ ref ∈ batch ∨ ref ∈ rest.flatten := by
        rw [cover, List.flatten_cons, List.mem_append]
      obtain ⟨half, halfRun, halfResults, restRun⟩ := recomputeLedgers_twice distinct pk split run
      have halfBills : half.1.bills.map AccBillBalance.ref =
          ledgers.bills.map AccBillBalance.ref := by
        have distinctBatch : DistinctKeys batch := by
          intro left leftMem right rightMem
          exact distinct left ((split left).mpr (Or.inl leftMem)) right
            ((split right).mpr (Or.inl rightMem))
        obtain ⟨-, rfl⟩ := (recomputeLedgers_ok distinctBatch pk).mp halfRun
        exact map_ref_billAfter _
      have distinctRest : DistinctKeys rest.flatten := by
        intro left leftMem right rightMem
        exact distinct left ((split left).mpr (Or.inr leftMem)) right
          ((split right).mpr (Or.inr rightMem))
      obtain ⟨reports, reportsRun, first⟩ :=
        ih distinctRest (halfBills ▸ pk) (fun _ => Iff.rfl) restRun
      refine ⟨half.2 ++ reports, ?_, ?_⟩
      · rw [runBatches, halfRun]
        simp only [bind, Except.bind]
        rw [reportsRun]
      · intro ref
        obtain ⟨-, rfl⟩ := (recomputeLedgers_ok distinct pk).mp run
        rw [List.find?_append, first, halfResults, find?_resultOf, find?_resultOf, find?_resultOf,
          find?_billAfter]
        cases found : ledgers.bills.find? fun bill => bill.ref = ref with
        | none => rfl
        | some bill =>
            simp only [Option.map_some, Option.bind_some]
            unfold resultOf billAfter
            have names := split bill.ref
            by_cases inBatch : bill.ref ∈ batch
            · rw [if_pos inBatch, if_pos (names.mpr (Or.inl inBatch))]
              rfl
            · simp only [inBatch, if_false, false_or] at names ⊢
              rw [if_congr names rfl rfl]
              rfl

end Figures

/-! ## Reading as written off -/

section Standing

variable {adjustments : List AdjustmentRow} {named : List BillRef} {asOf : Date}
  {bills : List AccBillBalance}

def settledBy (adjustments : List AdjustmentRow) (asOf : Date) (ref : BillRef) : Decimal :=
  ((countedMoves adjustments asOf ref).map fun row => row.abjAmount).sum

theorem total_bucketOf (ref : BillRef) :
    (bucketOf adjustments asOf ref).settled.total = settledBy adjustments asOf ref := by
  have empty : emptyTotals.settled.total = 0 := by simp [emptyTotals, SettledAmounts.total]
  rw [bucketOf, total_count, List.map_map, empty, zero_add]
  rfl

variable {bill : AccBillBalance}

theorem find?_ref (pk : (bills.map AccBillBalance.ref).Nodup) (billMem : bill ∈ bills) :
    bills.find? (fun other => other.ref = bill.ref) = some bill := by
  cases found : bills.find? fun other => other.ref = bill.ref with
  | none =>
      have missing := List.find?_eq_none.mp found bill billMem
      simp only [decide_true, not_true] at missing
  | some other =>
      have same := List.find?_some found
      rw [decide_eq_true_eq] at same
      rw [List.inj_on_of_nodup_map pk (List.mem_of_find?_eq_some found) billMem same]

/-- What a run writes off: the live credit of a named bill that its rows pay in full, one
that writes off among the latest of them. -/
theorem writtenOff_creditAfter (pk : (bills.map AccBillBalance.ref).Nodup) {credit : AccTempCredit}
    (live : credit.atcIsDeleted = false) (billMem : bill ∈ bills) (isBill : bill.ref = credit.bill)
    (member : bill.ref ∈ named) (fits : Fits adjustments asOf bill) :
    (creditAfter adjustments named asOf bills credit).atcStatus = .WRITTEN_OFF ↔
      credit.atcStatus ≠ .CANCELLED ∧
        bill.ablBillAmount ≤ settledBy adjustments asOf bill.ref ∧
          lastWritesOff adjustments asOf bill.ref = true := by
  have found := find?_ref pk billMem
  rw [isBill] at found
  have pending := (pending_refreshedBill (exactAmounts_bucketOf adjustments asOf bill.ref) fits).1
  rw [total_bucketOf] at pending
  rw [creditAfter_of_found live (isBill ▸ member) found, pending]
  simp only [followBill, statusOf, sub_nonpos]
  by_cases cancelled : credit.atcStatus = .CANCELLED
  · simp [cancelled]
  · by_cases paid : bill.ablBillAmount ≤ settledBy adjustments asOf bill.ref
    · cases lastWritesOff adjustments asOf bill.ref <;> simp [cancelled, paid]
    · by_cases part : bill.ablBillAmount - settledBy adjustments asOf bill.ref <
          credit.atcCreditAmount <;> simp [cancelled, paid, part]

end Standing

/-- Some write-off of the bill counts that no row which counts takes back. -/
def WriteoffStands (adjustments : List AdjustmentRow) (asOf : Date) (ref : BillRef) : Prop :=
  ∃ row ∈ countedMoves adjustments asOf ref, row.abjAdjType = .WRITEOFF ∧
    row.abjReversalOfId = none ∧
      ∀ other ∈ countedMoves adjustments asOf ref, other.abjReversalOfId ≠ some row.abjId

/-- Where the rows pay a bill in full, and among the latest of them one is of a write-off,
some write-off stands. -/
def LastWriteoffStands (adjustments : List AdjustmentRow) (named : List BillRef) (asOf : Date)
    (ledgers : Ledgers) : Prop :=
  ∀ credit ∈ ledgers.credits, credit.atcIsDeleted = false → credit.atcStatus ≠ .CANCELLED →
    ∀ bill ∈ ledgers.bills, bill.ref = credit.bill → bill.ref ∈ named →
      bill.ablBillAmount ≤ settledBy adjustments asOf bill.ref →
        ∀ row ∈ countedMoves adjustments asOf bill.ref, row.abjAdjType = .WRITEOFF →
          (∀ other ∈ countedMoves adjustments asOf bill.ref,
            other.movement.key ≤ row.movement.key) → WriteoffStands adjustments asOf bill.ref

/-- What a run leaves and reports is a function of the live rows, and what reads as written
off is. -/
structure RowsAlone (adjustments : List AdjustmentRow) (named : List BillRef) (asOf : Date)
    (ledgers : Ledgers) (after : Ledgers × List RecomputedBill) : Prop where
  anyOrder : ∀ reread : List AdjustmentRow,
    (reread.filter (!·.abjIsDeleted)).Perm (adjustments.filter (!·.abjIsDeleted)) →
      recomputeLedgers reread named asOf ledgers = .ok after
  anyRequest : ∀ request : List BillRef, (∀ ref, ref ∈ request ↔ ref ∈ named) →
    recomputeLedgers adjustments request asOf ledgers = .ok after
  anyBatches : ∀ batches : List (List BillRef), (∀ ref, ref ∈ named ↔ ref ∈ batches.flatten) →
    ∃ reports, runBatches adjustments asOf batches ledgers = .ok (after.1, reports) ∧
      ∀ ref, reports.find? (fun result => result.ref = ref) =
        after.2.find? fun result => result.ref = ref
  secondRun : ∃ again, recomputeLedgers adjustments named asOf after.1 = .ok (after.1, again) ∧
    ∀ result ∈ again, result.changed = false
  cancelled : List.Forall₂ (fun before now : AccTempCredit => now.atcId = before.atcId ∧
    (before.atcStatus = .CANCELLED → now.atcStatus = .CANCELLED)) ledgers.credits after.1.credits
  netted : ∀ row reversal, Reverses row reversal → ∀ day,
    (recomputeLedgers (row :: reversal :: adjustments) named day ledgers).map figuresOf =
      (recomputeLedgers adjustments named day ledgers).map figuresOf
  writtenOff : ∀ credit ∈ after.1.credits, credit.atcIsDeleted = false →
    credit.atcStatus = .WRITTEN_OFF → ∀ bill ∈ after.1.bills, bill.ref = credit.bill →
      bill.ref ∈ named → bill.ablPendingAmount ≤ 0 ∧ WriteoffStands adjustments asOf bill.ref

section Recomputing

variable {adjustments : List AdjustmentRow} {named : List BillRef} {asOf : Date}
  {ledgers : Ledgers} {after : Ledgers × List RecomputedBill}

theorem lastWritesOff_iff (ref : BillRef) :
    lastWritesOff adjustments asOf ref = true ↔
      ∃ row ∈ countedMoves adjustments asOf ref, row.abjAdjType = .WRITEOFF ∧
        ∀ other ∈ countedMoves adjustments asOf ref, other.movement.key ≤ row.movement.key := by
  rw [lastWritesOff, decide_eq_true_eq, last_writes_off_iff]

theorem unchanged_again (distinct : DistinctKeys named)
    (pk : (ledgers.bills.map AccBillBalance.ref).Nodup)
    (run : recomputeLedgers adjustments named asOf ledgers = .ok after) :
    ∃ again, recomputeLedgers adjustments named asOf after.1 = .ok (after.1, again) ∧
      ∀ result ∈ again, result.changed = false := by
  have cover (ref : BillRef) : ref ∈ named ↔ ref ∈ named ∨ ref ∈ named := or_self_iff.symm
  obtain ⟨half, halfRun, -, again⟩ := recomputeLedgers_twice distinct pk cover run
  rw [run] at halfRun
  obtain rfl := Except.ok.inj halfRun
  refine ⟨_, again, ?_⟩
  intro result resultMem
  obtain ⟨fits, -⟩ := (recomputeLedgers_ok distinct pk).mp run
  obtain ⟨refreshed, refreshedMem, isResult⟩ := List.mem_filterMap.mp resultMem
  obtain ⟨bill, billMem, rfl⟩ := List.mem_map.mp refreshedMem
  unfold resultOf at isResult
  rw [ref_billAfter] at isResult
  split at isResult
  · case isTrue member =>
      have after : billAfter adjustments named asOf bill =
          refreshedBill bill (bucketOf adjustments asOf bill.ref) := if_pos member
      rw [after, recomputed_refreshedBill (fits bill billMem member)] at isResult
      rw [← Option.some.inj isResult]
  · cases isResult

theorem cancelled_kept (bills : List AccBillBalance) (credit : AccTempCredit) :
    (creditAfter adjustments named asOf bills credit).atcId = credit.atcId ∧
      (credit.atcStatus = .CANCELLED →
        (creditAfter adjustments named asOf bills credit).atcStatus = .CANCELLED) := by
  unfold creditAfter
  split
  · cases bills.find? fun bill => bill.ref = credit.bill with
    | none => exact ⟨rfl, id⟩
    | some bill => exact ⟨rfl, fun cancelled => if_pos cancelled⟩
  · exact ⟨rfl, id⟩

/-- Every credit that reads as written off does so by right exactly where the last write-off
row of its bill finds a write-off standing. -/
theorem writtenOff_iff (distinct : DistinctKeys named)
    (pk : (ledgers.bills.map AccBillBalance.ref).Nodup)
    (run : recomputeLedgers adjustments named asOf ledgers = .ok after) :
    (∀ credit ∈ after.1.credits, credit.atcIsDeleted = false →
      credit.atcStatus = .WRITTEN_OFF → ∀ bill ∈ after.1.bills, bill.ref = credit.bill →
        bill.ref ∈ named → bill.ablPendingAmount ≤ 0 ∧ WriteoffStands adjustments asOf bill.ref) ↔
      LastWriteoffStands adjustments named asOf ledgers := by
  obtain ⟨fits, rfl⟩ := (recomputeLedgers_ok distinct pk).mp run
  constructor
  · intro byRight credit creditMem live open' bill billMem isBill member paid row rowMem writesOff
      latest
    have kept := @creditAfter_kept adjustments asOf named ledgers.bills credit
    have reads := (writtenOff_creditAfter pk live billMem isBill member
      (fits bill billMem member)).mpr ⟨open', paid,
        (lastWritesOff_iff bill.ref).mpr ⟨row, rowMem, writesOff, latest⟩⟩
    have stands := (byRight _ (List.mem_map_of_mem creditMem) (kept.2.trans live) reads _
      (List.mem_map_of_mem billMem) ((ref_billAfter bill).trans (isBill.trans kept.1.symm))
      (ref_billAfter bill ▸ member)).2
    rw [ref_billAfter] at stands
    exact stands
  · intro stands _ creditMem live reads _ billMem isBill member
    obtain ⟨credit, held, rfl⟩ := List.mem_map.mp creditMem
    obtain ⟨bill, stored, rfl⟩ := List.mem_map.mp billMem
    have kept := @creditAfter_kept adjustments asOf named ledgers.bills credit
    rw [ref_billAfter] at isBill member ⊢
    rw [kept.1] at isBill
    rw [kept.2] at live
    have fitsBill := fits bill stored member
    obtain ⟨open', paid, last⟩ :=
      (writtenOff_creditAfter pk live stored isBill member fitsBill).mp reads
    obtain ⟨row, rowMem, writesOff, latest⟩ := (lastWritesOff_iff bill.ref).mp last
    have pending :=
      (pending_refreshedBill (exactAmounts_bucketOf adjustments asOf bill.ref) fitsBill).1
    rw [total_bucketOf] at pending
    have after : billAfter adjustments named asOf bill =
        refreshedBill bill (bucketOf adjustments asOf bill.ref) := if_pos member
    refine ⟨?_, stands credit held live open' bill stored isBill member paid row rowMem
      writesOff latest⟩
    rw [after, pending]
    exact sub_nonpos.mpr paid

/-- Bill ids are uuids, and no uuid has a bar in it. -/
theorem distinctKeys_of_uuids (uuids : ∀ bill ∈ named, '|' ∉ bill.billId.toList) :
    DistinctKeys named := by
  intro left leftMem right rightMem same
  have texts := congrArg String.toList same
  simp only [BillRef.key, String.toList_append, List.append_assoc] at texts
  have front (bill : BillRef) (member : bill ∈ named) (rest : List Char) :
      (bill.billId.toList ++ ("|".toList ++ rest)).takeWhile (· ≠ '|') = bill.billId.toList := by
    have clear : ∀ char ∈ bill.billId.toList, decide (char ≠ '|') = true := by
      intro char charMem
      rw [decide_eq_true_eq]
      rintro rfl
      exact uuids bill member charMem
    rw [List.takeWhile_append_of_pos clear]
    exact List.append_nil _
  have ids := congrArg (List.takeWhile (· ≠ '|')) texts
  rw [front left leftMem, front right rightMem] at ids
  rw [ids, List.append_cancel_left_eq, List.append_cancel_left_eq] at texts
  have id := String.toList_injective ids
  have year := String.toList_injective texts
  cases left
  cases right
  simp only at id year
  rw [id, year]

theorem rows_alone_iff (uuids : ∀ bill ∈ named, '|' ∉ bill.billId.toList)
    (pk : (ledgers.bills.map AccBillBalance.ref).Nodup)
    (run : recomputeLedgers adjustments named asOf ledgers = .ok after) :
    RowsAlone adjustments named asOf ledgers after ↔
      LastWriteoffStands adjustments named asOf ledgers := by
  have distinct := distinctKeys_of_uuids uuids
  constructor
  · intro alone
    exact (writtenOff_iff distinct pk run).mp alone.writtenOff
  · intro stands
    refine ⟨?_, ?_, fun batches cover => runBatches_eq distinct pk cover run,
      unchanged_again distinct pk run, ?_, ?_, (writtenOff_iff distinct pk run).mpr stands⟩
    · intro reread same
      rw [← run]
      exact recomputeLedgers_congr distinct pk (fun _ => Iff.rfl) (bucketOf_perm same asOf)
        (lastWritesOff_perm same asOf)
    · intro request names
      rw [← run]
      exact recomputeLedgers_congr distinct pk names (fun _ => rfl) fun _ => rfl
    · obtain ⟨-, rfl⟩ := (recomputeLedgers_ok distinct pk).mp run
      rw [List.forall₂_map_right_iff, List.forall₂_same]
      intro credit _
      exact cancelled_kept ledgers.bills credit
    · intro row reversal reverses day
      exact figuresOf_congr distinct pk (settled_bucketOf_netted reverses adjustments day)

end Recomputing

/-! ## A receipt amended -/

theorem money_whole (amount : ℤ) : money (amount : Decimal) = amount :=
  money_of_mem (whole_mem amount)

/-- A row of the bill of the example, written at a time, taken back or not. -/
def rowOf (id : String) (adjType : BillAdjType) (amount : ℤ) (createdOn : ℤ)
    (reversalOf : Option String) (sign : CkAbjReversalSign reversalOf amount) : AdjustmentRow where
  abjCompanyId := "c"
  abjBranchId := "b"
  abjAccYear := "2026-2027"
  abjBillId := "bill"
  abjBillAccYear := "2026-2027"
  abjAdjType := adjType
  abjAdjDate := 10
  abjAmount := amount
  abjIsPostDated := false
  abjReversalOfId := reversalOf
  abjIsDeleted := false
  amountExact := money_whole amount
  reversalSign := sign
  abjId := id
  abjCreatedOn := createdOn
  abjVoucherId := none

variable {amount : ℤ}

theorem sign_forward (positive : 0 < amount) : CkAbjReversalSign none amount := by
  simpa [CkAbjReversalSign] using positive

theorem sign_back (negative : amount < 0) (id : String) : CkAbjReversalSign (some id) amount := by
  simpa [CkAbjReversalSign] using negative

def paidAndWrittenOff : List AdjustmentRow :=
  [rowOf "paid" .ALLOCATION 80 1 none (sign_forward (by decide)),
    rowOf "gap" .WRITEOFF 20 1 none (sign_forward (by decide))]

/-- The receipt is taken back and paid in full, in one transaction. -/
def amended : List AdjustmentRow :=
  paidAndWrittenOff ++
    [rowOf "-paid" .ALLOCATION (-80) 2 (some "paid") (sign_back (by decide) _),
      rowOf "-gap" .WRITEOFF (-20) 2 (some "gap") (sign_back (by decide) _),
      rowOf "whole" .ALLOCATION 100 2 none (sign_forward (by decide))]

private theorem open_fits : CkAblSettled 100 ⟨0, 0, 0⟩ := by
  decide +kernel

def openBill : AccBillBalance where
  ablId := "bill"
  ablAccYear := "2026-2027"
  ablPartyId := "p"
  ablCompanyId := "c"
  ablBillType := .SALES
  ablDocRefno := "S/1"
  ablBillAmount := 100
  ablSettled := ⟨0, 0, 0⟩
  ablSettledOn := none
  ablDrCr := .DR
  ablIsDeleted := false
  amountExact := money_whole 100
  amountPositive := by norm_num
  settledFits := open_fits

def openCredit : AccTempCredit := ⟨"credit", "bill", "2026-2027", 100, 100, .OPEN, none, false⟩

def creditLedgers : Ledgers := ⟨[openBill], [openCredit]⟩

def creditBill : BillRef := ⟨"bill", "2026-2027"⟩

theorem creditLedgers_run {adjustments : List AdjustmentRow}
    (fits : Fits adjustments 10 openBill) :
    ∃ after, recomputeLedgers adjustments [creditBill] 10 creditLedgers = .ok after := by
  refine ⟨_, (recomputeLedgers_ok (distinctKeys_of_uuids ?_) ?_).mpr ⟨?_, rfl⟩⟩
  · decide
  · decide
  · intro bill billMem _
    rw [List.mem_singleton.mp billMem]
    exact fits

/-- A receipt of 80 that writes off the 20 left: the run tells the two apart. -/
theorem written_off_alone : ∃ after,
    recomputeLedgers paidAndWrittenOff [creditBill] 10 creditLedgers = .ok after ∧
      (RowsAlone paidAndWrittenOff [creditBill] 10 creditLedgers after ↔
        LastWriteoffStands paidAndWrittenOff [creditBill] 10 creditLedgers) := by
  obtain ⟨after, run⟩ := @creditLedgers_run paidAndWrittenOff (by decide +kernel)
  exact ⟨after, run, rows_alone_iff (by decide) (by decide) run⟩

/-- The receipt is amended to the whole 100 and nothing is written off any more: the credit
still reads as written off, by the row that took the write-off back. -/
theorem amended_reads_written_off : ∃ after,
    recomputeLedgers amended [creditBill] 10 creditLedgers = .ok after ∧
      ¬RowsAlone amended [creditBill] 10 creditLedgers after := by
  obtain ⟨after, run⟩ := @creditLedgers_run amended (by decide +kernel)
  refine ⟨after, run, ?_⟩
  intro alone
  have distinct : DistinctKeys [creditBill] := distinctKeys_of_uuids (by decide)
  have stands := (writtenOff_iff distinct (by decide) run).mp alone.writtenOff
  have last := stands openCredit List.mem_cons_self rfl (by decide) openBill List.mem_cons_self
    rfl (by decide) (by decide +kernel)
  have none : ¬WriteoffStands amended 10 openBill.ref := by
    unfold WriteoffStands
    decide +kernel
  have takenBack := last (rowOf "-gap" .WRITEOFF (-20) 2 (some "gap") (sign_back (by decide) _))
    (List.mem_filter.mpr ⟨by simp [amended], by decide +kernel⟩) rfl (by decide +kernel)
  exact none takenBack

end ErpServer.BillBalance
