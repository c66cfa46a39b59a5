import ErpServer.Receipt.Posting
import ErpServer.Receipt.Rows

/-!
# What the normalisations establish

A normalised tender carries the figures of its row, and no two have one row number;
a normalised band is numbered from one, stands on the sides its roles ask for, and
its instrument splits are exactly the bank charges of the tenders.
-/

namespace ErpServer.Receipt

open Lib Lib.Fold

/-! ## Tenders -/

/-- What a normalised tender keeps of its row. -/
structure NormalisesTender (receiptDate : Date) (row : SaveReceiptTenderDto)
    (tender : NormalisedTender) : Prop where
  rowNo : tender.rowNo = row.tdRowNo
  amount : tender.amount = money row.tdAmount
  positive : 0 < tender.amount
  mdrAmt : tender.mdrAmt = money (row.tdMdrAmt.getD 0)
  isPdc : tender.isPdc = isPostDated receiptDate row.tdTenderTypeId row.tdInstrumentDate

variable {row : SaveReceiptTenderDto} {index : ℕ} {tenders : List NormalisedTender}
variable {rows : List SaveReceiptTenderDto} {context : LineContext} {line : NormalisedOtherLine}
variable {lines : List NormalisedOtherLine}

variable {master : AccTenderMaster} {seenRowNos : List ℕ} {tender : NormalisedTender}
variable {receiptDate : Date} {role : String}

theorem assertTenderUsable_ok {context : TenderContext}
    (run : assertTenderUsable context index row master = .ok ()) :
    master.tndTypeId = row.tdTenderTypeId := by
  simp only [assertTenderUsable] at run
  split at run
  · cases run
  · split at run
    · cases run
    · split at run
      · cases run
      · split at run
        · cases run
        next equal => exact not_not.mp equal

theorem assertTenderAmounts_ok (run : assertTenderAmounts index row master = .ok ()) :
    0 < money row.tdAmount := by
  simp only [assertTenderAmounts] at run
  split at run
  · cases run
  next positive => exact not_le.mp positive

theorem normaliseTender_ok {context : TenderContext}
    (run : normaliseTender context seenRowNos index row = .ok tender) :
    row.tdRowNo ∉ seenRowNos ∧ NormalisesTender context.receiptDate row tender := by
  simp only [normaliseTender] at run
  split at run
  · cases run
  next unseen =>
    split at run
    · cases run
    next master found =>
      obtain ⟨⟨⟩, usable, run⟩ := bind_eq_ok run
      obtain ⟨⟨⟩, amounts, run⟩ := bind_eq_ok run
      obtain ⟨ledgerId, ledger, run⟩ := bind_eq_ok run
      cases run
      have sameType := assertTenderUsable_ok usable
      exact ⟨unseen, rfl, rfl, assertTenderAmounts_ok amounts, rfl, by simp only [sameType]⟩

theorem normaliseTendersFrom_ok {context : TenderContext}
    (run : normaliseTendersFrom context seenRowNos index rows = .ok tenders) :
    List.Forall₂ (NormalisesTender context.receiptDate) rows tenders ∧
      (tenders.map NormalisedTender.rowNo).Nodup ∧
      ∀ tender ∈ tenders, tender.rowNo ∉ seenRowNos := by
  induction rows generalizing seenRowNos index tenders with
  | nil =>
      cases run
      exact ⟨.nil, List.nodup_nil, by simp⟩
  | cons row rest ih =>
      obtain ⟨first, here, run⟩ := bind_eq_ok run
      obtain ⟨others, later, run⟩ := bind_eq_ok run
      cases run
      have head := normaliseTender_ok here
      have tail := ih later
      refine ⟨.cons head.2 tail.1, ?_, ?_⟩
      · rw [List.map_cons, List.nodup_cons]
        constructor
        · intro repeated
          obtain ⟨other, member, equal⟩ := List.mem_map.mp repeated
          apply tail.2.2 other member
          rw [equal, head.2.rowNo]
          exact List.mem_cons_self
        · exact tail.2.1
      · intro tender member
        rcases List.mem_cons.mp member with rfl | member
        · rw [head.2.rowNo]
          exact head.1
        · intro seen
          exact tail.2.2 tender member (List.mem_cons_of_mem _ seen)

/-- The normalised tenders are the rows, each once, put in row order. -/
structure NormalisesTenders (receiptDate : Date) (rows : List SaveReceiptTenderDto)
    (tenders : List NormalisedTender) : Prop where
  rowNos : (tenders.map NormalisedTender.rowNo).Nodup
  ofTender : ∀ tender ∈ tenders, ∃ row ∈ rows, NormalisesTender receiptDate row tender
  ofRow : ∀ row ∈ rows, ∃ tender ∈ tenders, NormalisesTender receiptDate row tender

theorem normaliseTenders_ok {context : TenderContext}
    (run : normaliseTenders context rows = .ok tenders) :
    NormalisesTenders context.receiptDate rows tenders := by
  simp only [normaliseTenders] at run
  split at run
  · cases run
  · obtain ⟨normalised, loop, run⟩ := bind_eq_ok run
    cases run
    have facts := normaliseTendersFrom_ok loop
    have perm := List.perm_insertionSort
      (fun left right : NormalisedTender => left.rowNo ≤ right.rowNo) normalised
    constructor
    · exact (perm.map _).nodup_iff.mpr facts.2.1
    · intro tender member
      exact forall₂_right facts.1 (perm.mem_iff.mp member)
    · intro row member
      obtain ⟨tender, found, normalises⟩ := forall₂_left facts.1 member
      exact ⟨tender, perm.mem_iff.mpr found, normalises⟩

/-- Neither the row number nor the figures depend on where cash goes. -/
@[simp] theorem routeCash_rowNo (cashLedgerId : Option String) (tender : NormalisedTender) :
    (routeCash cashLedgerId tender).rowNo = tender.rowNo := by
  unfold routeCash
  split
  · rfl
  · split <;> rfl

theorem NormalisesTender.routeCash (normalises : NormalisesTender receiptDate row tender)
    (cashLedgerId : Option String) :
    NormalisesTender receiptDate row (Receipt.routeCash cashLedgerId tender) := by
  unfold Receipt.routeCash
  split
  · exact normalises
  · split
    · exact ⟨normalises.rowNo, normalises.amount, normalises.positive, normalises.mdrAmt,
        normalises.isPdc⟩
    · exact normalises

theorem NormalisesTenders.routeCash (normalises : NormalisesTenders receiptDate rows tenders)
    (cashLedgerId : Option String) :
    NormalisesTenders receiptDate rows (tenders.map (Receipt.routeCash cashLedgerId)) := by
  constructor
  · rw [List.map_map]
    have same : NormalisedTender.rowNo ∘ Receipt.routeCash cashLedgerId =
        NormalisedTender.rowNo := by
      funext tender
      exact routeCash_rowNo cashLedgerId tender
    rw [same]
    exact normalises.rowNos
  · intro tender member
    obtain ⟨other, otherMem, rfl⟩ := List.mem_map.mp member
    obtain ⟨row, rowMem, facts⟩ := normalises.ofTender other otherMem
    exact ⟨row, rowMem, facts.routeCash cashLedgerId⟩
  · intro row member
    obtain ⟨tender, tenderMem, facts⟩ := normalises.ofRow row member
    exact ⟨_, List.mem_map_of_mem tenderMem, facts.routeCash cashLedgerId⟩

namespace NormalisesTender

variable {receiptDate : Date} {row : SaveReceiptTenderDto} {tender : NormalisedTender}
  (normalises : NormalisesTender receiptDate row tender)

include normalises

theorem amount_figure : Figure tender.amount := by
  constructor
  · rw [normalises.amount]
    exact money_mem _
  · exact normalises.positive.le

theorem mdr_figure : Figure tender.mdrAmt := by
  rw [normalises.mdrAmt]
  constructor
  · exact money_mem _
  · apply money_nonneg
    exact NNRat.cast_nonneg _

end NormalisesTender

/-! ## Other lines -/

/-- A line of the band as every consumer may rely on it. -/
structure SoundLine (line : NormalisedOtherLine) : Prop where
  exact : line.amount ∈ paise
  positive : 0 < line.amount
  side : ∀ role, line.role = some role → ROLE_SIDE.lookup role = some line.drCr

theorem normaliseRoleLine_ok {row : SaveReceiptOtherLineDto} (positive : 0 < money row.amount)
    (run : normaliseRoleLine context index row role = .ok line) :
    SoundLine line ∧ line.lineNo = index + 1 ∧ line.isInstrumentSplit = false := by
  simp only [normaliseRoleLine] at run
  split at run
  · cases run
  next side found =>
    split at run
    · cases run
    next same =>
      split at run
      · cases run
      · split at run
        · cases run
        · cases run
          refine ⟨⟨money_mem _, positive, ?_⟩, rfl, rfl⟩
          intro other equal
          cases equal
          rw [found, not_not.mp same]

theorem normaliseFreeLine_ok {row : SaveReceiptOtherLineDto} {ledgerId : String}
    (positive : 0 < money row.amount)
    (run : normaliseFreeLine context index row ledgerId = .ok line) :
    SoundLine line ∧ line.lineNo = index + 1 ∧ line.isInstrumentSplit = false := by
  simp only [normaliseFreeLine] at run
  split at run
  · cases run
  · split at run
    · cases run
    · split at run
      · cases run
      · cases run
        refine ⟨⟨money_mem _, positive, ?_⟩, rfl, rfl⟩
        intro other equal
        cases equal

theorem normaliseOtherLine_ok {row : SaveReceiptOtherLineDto}
    (run : normaliseOtherLine context index row = .ok line) :
    SoundLine line ∧ line.lineNo = index + 1 ∧ line.isInstrumentSplit = false := by
  simp only [normaliseOtherLine] at run
  split at run
  · cases run
  next positive =>
    split at run
    · cases run
    · split at run
      · exact normaliseRoleLine_ok (not_le.mp positive) run
      · exact normaliseFreeLine_ok (not_le.mp positive) run

/-- A band numbered from one, every line of it sound. -/
structure SoundBand (lines : List NormalisedOtherLine) : Prop where
  numbers : lines.map NormalisedOtherLine.lineNo = List.range' 1 lines.length
  sound : ∀ line ∈ lines, SoundLine line

theorem normaliseOtherLinesFrom_ok {rows : List SaveReceiptOtherLineDto}
    (run : normaliseOtherLinesFrom context index rows = .ok lines) :
    lines.map NormalisedOtherLine.lineNo = List.range' (index + 1) lines.length ∧
      ∀ line ∈ lines, SoundLine line ∧ line.isInstrumentSplit = false := by
  induction rows generalizing index lines with
  | nil =>
      cases run
      simp
  | cons row rest ih =>
      obtain ⟨first, here, run⟩ := bind_eq_ok run
      obtain ⟨others, later, run⟩ := bind_eq_ok run
      cases run
      have head := normaliseOtherLine_ok here
      have tail := ih later
      constructor
      · rw [List.map_cons, head.2.1, tail.1, List.length_cons, List.range'_succ]
      · rw [List.forall_mem_cons]
        exact ⟨⟨head.1, head.2.2⟩, tail.2⟩

/-! ## The seeded splits -/

/-- What seeding one split makes of a band. -/
structure Seeds (spec : InstrumentSplit) (lines result : List NormalisedOtherLine) : Prop where
  band : SoundBand result
  supplied : 0 ≤ spec.total → suppliedFor spec.role result = spec.total
  marked : ∀ line ∈ result, line.role = some spec.role →
    line.isInstrumentSplit = decide (spec.drCr = .DR)
  kept : ∀ line ∈ result, line.role ≠ some spec.role → line ∈ lines
  suppliedKept : ∀ role, role ≠ spec.role → suppliedFor role result = suppliedFor role lines

@[simp] theorem markSplit_role (spec : InstrumentSplit) (line : NormalisedOtherLine) :
    (markSplit spec line).role = line.role := by
  unfold markSplit
  split <;> rfl

@[simp] theorem markSplit_amount (spec : InstrumentSplit) (line : NormalisedOtherLine) :
    (markSplit spec line).amount = line.amount := by
  unfold markSplit
  split <;> rfl

@[simp] theorem markSplit_lineNo (spec : InstrumentSplit) (line : NormalisedOtherLine) :
    (markSplit spec line).lineNo = line.lineNo := by
  unfold markSplit
  split <;> rfl

@[simp] theorem markSplit_drCr (spec : InstrumentSplit) (line : NormalisedOtherLine) :
    (markSplit spec line).drCr = line.drCr := by
  unfold markSplit
  split <;> rfl

theorem suppliedFor_append (role : String) (left right : List NormalisedOtherLine) :
    suppliedFor role (left ++ right) = suppliedFor role left + suppliedFor role right := by
  simp [suppliedFor]

theorem suppliedFor_markSplit (spec : InstrumentSplit) (role : String)
    (lines : List NormalisedOtherLine) :
    suppliedFor role (lines.map (markSplit spec)) = suppliedFor role lines := by
  simp [suppliedFor, List.filter_map, Function.comp_def]

/-- A role nothing was supplied for has no line. -/
theorem SoundBand.absent (band : SoundBand lines) (nothing : suppliedFor role lines ≤ 0) :
    ∀ line ∈ lines, line.role ≠ some role := by
  intro line member equal
  have positive : 0 < suppliedFor role lines := by
    have isThere : line.amount ∈ (lines.filter fun line => line.role = some role).map
        NormalisedOtherLine.amount :=
      List.mem_map_of_mem (List.mem_filter.mpr ⟨member, by simpa using equal⟩)
    refine lt_of_lt_of_le (band.sound line member).positive (List.single_le_sum ?_ _ isThere)
    intro amount amountMem
    obtain ⟨other, otherMem, rfl⟩ := List.mem_map.mp amountMem
    exact (band.sound other (List.mem_of_mem_filter otherMem)).positive.le
  exact absurd positive (not_lt.mpr nothing)

theorem seedInstrumentSplit_ok {spec : InstrumentSplit} {result : List NormalisedOtherLine}
    (band : SoundBand lines) (side : ROLE_SIDE.lookup spec.role = some spec.drCr)
    (exact : spec.total ∈ paise) (run : seedInstrumentSplit context spec lines = .ok result) :
    Seeds spec lines result := by
  simp only [seedInstrumentSplit] at run
  split at run
  next atMost =>
    split at run
    · cases run
    next nothing =>
      cases run
      have absent := band.absent (not_lt.mp nothing)
      have empty : (lines.filter fun line => line.role = some spec.role) = [] := by
        rw [List.filter_eq_nil_iff]
        intro line member
        simpa using absent line member
      refine ⟨band, ?_, ?_, ?_, ?_⟩
      · intro nonneg
        simpa [suppliedFor, empty] using le_antisymm nonneg atMost
      · intro line member equal
        exact absurd equal (absent line member)
      · intro line member _
        exact member
      · intro role _
        rfl
  next more =>
    split at run
    · split at run
      · cases run
      next agrees =>
        cases run
        refine ⟨⟨?_, ?_⟩, ?_, ?_, ?_, ?_⟩
        · rw [List.map_map, List.length_map, ← band.numbers]
          exact List.map_congr_left fun line _ => markSplit_lineNo spec line
        · intro line member
          obtain ⟨other, otherMem, rfl⟩ := List.mem_map.mp member
          have sound := band.sound other otherMem
          exact ⟨by simpa using sound.exact, by simpa using sound.positive,
            by simpa using sound.side⟩
        · intro _
          rw [suppliedFor_markSplit]
          exact not_not.mp agrees
        · intro line member equal
          obtain ⟨other, otherMem, rfl⟩ := List.mem_map.mp member
          rw [markSplit_role] at equal
          simp [markSplit, equal]
        · intro line member different
          obtain ⟨other, otherMem, rfl⟩ := List.mem_map.mp member
          rw [markSplit_role] at different
          simpa [markSplit, different] using otherMem
        · intro role _
          exact suppliedFor_markSplit spec role lines
    next absent =>
      split at run
      · cases run
      next mapped found =>
        cases run
        have nothing : suppliedFor spec.role lines = 0 := by
          have empty : (lines.filter fun line => line.role = some spec.role) = [] := by
            rw [List.filter_eq_nil_iff]
            intro line member equal
            apply absent
            rw [List.any_eq_true]
            exact ⟨line, member, equal⟩
          simp [suppliedFor, empty]
        refine ⟨⟨?_, ?_⟩, ?_, ?_, ?_, ?_⟩
        · rw [List.map_append, band.numbers, List.length_append, List.length_singleton,
            List.range'_concat]
          simp [Nat.add_comm]
        · intro line member
          rcases List.mem_append.mp member with old | new
          · exact band.sound line old
          · obtain rfl := List.mem_singleton.mp new
            refine ⟨exact, not_le.mp more, ?_⟩
            intro role equal
            cases equal
            exact side
        · intro _
          rw [suppliedFor_append, nothing]
          simp [suppliedFor]
        · intro line member equal
          rcases List.mem_append.mp member with old | new
          · exfalso
            apply absent
            rw [List.any_eq_true]
            exact ⟨line, old, by simpa using equal⟩
          · obtain rfl := List.mem_singleton.mp new
            rfl
        · intro line member different
          rcases List.mem_append.mp member with old | new
          · exact old
          · obtain rfl := List.mem_singleton.mp new
            exact absurd rfl different
        · intro role different
          rw [suppliedFor_append]
          simp [suppliedFor, Ne.symm different]

/-- The completed band: sound, and its instrument splits are the lines of the bank
charges, which come to what the tenders carry. -/
structure CompletedBand (mdrTotal : Decimal) (lines : List NormalisedOtherLine) : Prop where
  band : SoundBand lines
  split : ∀ line ∈ lines,
    line.isInstrumentSplit = decide (line.role = some ReceiptLedgerRole.BANK_CHARGES)
  supplied : suppliedFor ReceiptLedgerRole.BANK_CHARGES lines = mdrTotal

theorem normaliseOtherLines_ok {rows : List SaveReceiptOtherLineDto} {result : OtherLines}
    (run : normaliseOtherLines context rows tenders = .ok result)
    (mdrNonneg : 0 ≤ sum (tenders.map NormalisedTender.mdrAmt)) :
    CompletedBand (sum (tenders.map NormalisedTender.mdrAmt)) result.lines := by
  obtain ⟨normalised, loop, run⟩ := bind_eq_ok run
  obtain ⟨charged, chargesRun, run⟩ := bind_eq_ok run
  obtain ⟨completed, surchargeRun, run⟩ := bind_eq_ok run
  cases run
  have start := normaliseOtherLinesFrom_ok loop
  have charges := seedInstrumentSplit_ok ⟨start.1, fun line member => (start.2 line member).1⟩
    rfl (sum_mem _) chargesRun
  have surcharges := seedInstrumentSplit_ok charges.band rfl (sum_mem _) surchargeRun
  have roles : ReceiptLedgerRole.BANK_CHARGES ≠ ReceiptLedgerRole.SURCHARGE_RECOVERED := by
    decide
  have chargesSplit : ∀ line ∈ charged,
      line.isInstrumentSplit = decide (line.role = some ReceiptLedgerRole.BANK_CHARGES) := by
    intro line member
    by_cases isCharge : line.role = some ReceiptLedgerRole.BANK_CHARGES
    · rw [charges.marked line member isCharge]
      simp [bankChargesSplit, isCharge]
    · rw [(start.2 line (charges.kept line member isCharge)).2]
      simp [isCharge]
  constructor
  · exact surcharges.band
  · intro line member
    by_cases isSurcharge : line.role = some ReceiptLedgerRole.SURCHARGE_RECOVERED
    · rw [surcharges.marked line member isSurcharge, isSurcharge]
      simp [surchargeSplit, Ne.symm roles]
    · exact chargesSplit line (surcharges.kept line member isSurcharge)
  · rw [surcharges.suppliedKept _ roles]
    exact charges.supplied mdrNonneg

end ErpServer.Receipt
