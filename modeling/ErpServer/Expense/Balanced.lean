import ErpServer.Expense.Derive

/-!
# The expense voucher balances

A line is its amount and its tax, and the tax is either claimed, into the leg of its ledger, or
part of the cost.  So the debit legs come to the total of the lines, and the tenders must too.
-/

namespace ErpServer.Expense

open Lib
open Receipt (Decimal DrCr Figure money money_mem money_of_mem paise)
open Vouchers

variable {cases : Text.CaseMapping} {draft : ExpenseDraftLines} {facts : ExpenseFacts}
variable {head : GstHead} {rate : TaxRateFacts} {line : ExpenseLineInput} {tax : GstAmounts}

/-! ## Input tax -/

/-- What the legs of input tax come to. -/
def claimedTotal (taxLegs : OrderedMap Uuid TaxLeg) : Decimal :=
  (taxLegs.entries.map fun entry => entry.2.amount).sum

/-- Every leg of input tax is a figure above zero. -/
def TaxLegsPositive (taxLegs : OrderedMap Uuid TaxLeg) : Prop :=
  ∀ entry ∈ taxLegs.entries, entry.2.amount ∈ paise ∧ 0 < entry.2.amount

theorem claimedTotal_postTax (taxLegs : OrderedMap Uuid TaxLeg) (ledgerId : Uuid)
    (component : GstComponent) (value : Decimal) (rowNo : ℕ) :
    claimedTotal (postTax taxLegs ledgerId component value rowNo) =
      claimedTotal taxLegs + value := by
  rw [postTax]
  cases found : taxLegs.get? ledgerId with
  | none =>
      apply OrderedMap.sum_set (fun _ (leg : TaxLeg) => leg.amount)
      rw [found, Option.elim_none, zero_add]
  | some current =>
      apply OrderedMap.sum_set (fun _ (leg : TaxLeg) => leg.amount)
      rw [found, Option.elim_some]

variable {taxLegs : OrderedMap Uuid TaxLeg} {component : GstComponent}

theorem TaxLegsPositive.postTax (held : TaxLegsPositive taxLegs) {value : Decimal}
    (valueMem : value ∈ paise) (positive : 0 < value) (ledgerId : Uuid) (component : GstComponent)
    (rowNo : ℕ) : TaxLegsPositive (postTax taxLegs ledgerId component value rowNo) := by
  intro entry member
  rw [Expense.postTax] at member
  cases found : taxLegs.get? ledgerId with
  | none =>
      rw [found] at member
      cases OrderedMap.mem_entries_set member with
      | inl new =>
          rw [new]
          exact ⟨valueMem, positive⟩
      | inr old => exact held entry old
  | some current =>
      rw [found] at member
      have before := held _ (OrderedMap.mem_of_get? found)
      cases OrderedMap.mem_entries_set member with
      | inl new =>
          rw [new]
          exact ⟨add_mem before.1 valueMem, add_pos before.2 positive⟩
      | inr old => exact held entry old

/-- An unrefused claim: no component is unmapped, the legs grew by a value and stay positive. -/
structure Claims (before after : InputTax) (value : Decimal) : Prop where
  unmapped : after.unmapped = []
  total : claimedTotal after.taxLegs = claimedTotal before.taxLegs + value
  positive : TaxLegsPositive after.taxLegs

variable {posted : InputTax} {run : LineRun}

/-- What is refused stays refused. -/
theorem claimComponent_accepted
    (accepted : (claimComponent facts head rate line tax posted component).refusals = []) :
    posted.refusals = [] := by
  rw [claimComponent] at accepted
  split at accepted
  · exact accepted
  · split at accepted
    · split at accepted
      · exact accepted
      · exact (List.append_eq_nil_iff.mp accepted).1
    · exact accepted

/-- One component is claimed in full, unless it is refused. -/
theorem claimComponent_claims (mapped : posted.unmapped = [])
    (held : TaxLegsPositive posted.taxLegs) (figure : Figure (tax.get component))
    (accepted : (claimComponent facts head rate line tax posted component).refusals = []) :
    Claims posted (claimComponent facts head rate line tax posted component)
      (tax.get component) := by
  rw [claimComponent] at accepted ⊢
  by_cases nothing : tax.get component = 0
  · rw [if_pos nothing] at accepted ⊢
    rw [nothing]
    exact ⟨mapped, (add_zero _).symm, held⟩
  · rw [if_neg nothing] at accepted ⊢
    cases found : facts.roleLedgers component rate.taxId head.supplyNature with
    | none =>
        rw [found] at accepted
        simp [mapped] at accepted
    | some hit =>
        exact ⟨mapped, claimedTotal_postTax _ _ _ _ _,
          held.postTax figure.exact (figure.nonneg.lt_of_ne (Ne.symm nothing)) _ _ _⟩

/-- So are the components one after the other. -/
theorem claimComponents_claim (components : List GstComponent) (mapped : posted.unmapped = [])
    (held : TaxLegsPositive posted.taxLegs) (figures : ∀ component, Figure (tax.get component))
    (accepted : (components.foldl (claimComponent facts head rate line tax) posted).refusals = []) :
    Claims posted (components.foldl (claimComponent facts head rate line tax) posted)
      (components.map tax.get).sum := by
  induction components using List.reverseRecOn with
  | nil => exact ⟨mapped, (add_zero _).symm, held⟩
  | append_singleton earlier component ih =>
      rw [List.foldl_append, List.foldl_cons, List.foldl_nil] at accepted ⊢
      have before := ih (claimComponent_accepted accepted)
      have here := claimComponent_claims before.unmapped before.positive (figures component)
        accepted
      constructor
      · exact here.unmapped
      · rw [here.total, before.total, List.map_append, List.sum_append, List.map_singleton,
          List.sum_singleton, add_assoc]
      · exact here.positive

/-- The tax of a line is claimed in full. -/
theorem claimTax_claims (held : TaxLegsPositive taxLegs)
    (figures : ∀ component, Figure (tax.get component))
    (accepted : (claimTax facts head rate line tax taxLegs []).refusals = []) :
    (claimTax facts head rate line tax taxLegs []).unmapped = [] ∧
      claimedTotal (claimTax facts head rate line tax taxLegs []).taxLegs =
        claimedTotal taxLegs + tax.total ∧
      TaxLegsPositive (claimTax facts head rate line tax taxLegs []).taxLegs := by
  have claims := claimComponents_claim GST_COMPONENTS rfl held figures accepted
  have whole : (GST_COMPONENTS.map tax.get).sum = tax.total := by
    simp [GST_COMPONENTS, GstAmounts.get, GstAmounts.total, add_assoc]
  rw [whole] at claims
  exact ⟨claims.unmapped, claims.total, claims.positive⟩

/-! ## A line -/

/-- The tax of a line that no credit is taken of, and that is part of the cost. -/
def ExpenseLinePayload.ineligibleTax (payload : ExpenseLinePayload) : Decimal :=
  if payload.itcEligibility = some .INELIGIBLE then payload.tax.total else 0

/-- The tax of a line that is claimed. -/
def ExpenseLinePayload.eligibleTax (payload : ExpenseLinePayload) : Decimal :=
  if payload.itcEligibility = some .INELIGIBLE then 0 else payload.tax.total

/-- What an accepted line's GST does: its tax is claimed or part of the cost. -/
structure Taxed (taxLegs : OrderedMap Uuid TaxLeg) (gst : LineGst) : Prop where
  unmapped : gst.unmapped = []
  figures : ∀ component, Figure (gst.tax.get component)
  costTax : gst.costTax = if gst.itcEligibility = some .INELIGIBLE then gst.tax.total else 0
  claimed : claimedTotal gst.taxLegs = claimedTotal taxLegs +
    if gst.itcEligibility = some .INELIGIBLE then 0 else gst.tax.total
  positive : TaxLegsPositive gst.taxLegs

theorem zero_figures (component : GstComponent) : Figure (GstAmounts.zero.get component) := by
  cases component with
  | _ => exact ⟨zero_mem _, le_rfl⟩

theorem gstOf_taxed {head : Option GstHead} (mapped : run.unmapped = [])
    (held : TaxLegsPositive run.taxLegs) (amountNonneg : 0 ≤ money line.amount)
    (accepted : (gstOf cases facts head run line).refusals = []) :
    Taxed run.taxLegs (gstOf cases facts head run line) := by
  have untaxed (refusals : List Refusal) :
      Taxed run.taxLegs ⟨.zero, 0, none, none, none, run.taxLegs, run.unmapped, refusals⟩ := by
    have nothing : GstAmounts.zero.total = 0 := by simp [GstAmounts.zero, GstAmounts.total]
    constructor
    · exact mapped
    · exact zero_figures
    · rw [if_neg (by simp)]
    · rw [if_neg (by simp), nothing, add_zero]
    · exact held
  cases head with
  | none => exact untaxed []
  | some head =>
      simp only [gstOf] at accepted ⊢
      cases found : rateOf facts line with
      | error refusal => exact untaxed [refusal]
      | ok rate =>
          rw [found] at accepted
          simp only [mapped] at accepted ⊢
          have figures : ∀ component,
              Figure ((taxOf head.supplyNature rate (money line.amount)).get component) :=
            taxOf_figures amountNonneg
          by_cases lost : itcOf cases facts line = .INELIGIBLE
          · simp only [lost, if_true] at accepted ⊢
            constructor
            · rfl
            · exact figures
            · rfl
            · exact (add_zero _).symm
            · exact held
          · have kept : some (itcOf cases facts line) ≠ some .INELIGIBLE := by
              intro same
              exact lost (Option.some.inj same)
            simp only [if_neg lost] at accepted ⊢
            obtain ⟨unmapped, total, positive⟩ := claimTax_claims held figures accepted
            constructor
            · exact unmapped
            · exact figures
            · rw [if_neg kept]
            · rw [if_neg kept, total]
            · exact positive

/-! ## The lines -/

/-- What holds of the lines so far when nothing of them is refused. -/
structure SoundRun (run : LineRun) : Prop where
  unmapped : run.unmapped = []
  costs : run.lineLegs.map (·.amount) =
    run.lines.map fun payload => money payload.line.amount + payload.ineligibleTax
  claimed : claimedTotal run.taxLegs = (run.lines.map (·.eligibleTax)).sum
  total : run.total =
    (run.lines.map fun payload => money payload.line.amount + payload.tax.total).sum
  legs : ∀ leg ∈ run.lineLegs, leg.drCr = .DR ∧ leg.role = none ∧ 0 < leg.amount
  positive : TaxLegsPositive run.taxLegs

/-- What is refused stays refused. -/
theorem deriveLine_accepted {head : Option GstHead}
    (accepted : (deriveLine cases facts head run line).refusals = []) :
    run.refusals = [] ∧ 0 < money line.amount ∧
      (gstOf cases facts head run line).refusals = [] := by
  simp only [deriveLine, List.append_eq_nil_iff] at accepted
  obtain ⟨⟨⟨⟨earlier, _⟩, _⟩, amount⟩, gst⟩ := accepted
  refine ⟨earlier, ?_, gst⟩
  rw [amountRefusals] at amount
  split at amount
  · cases amount
  · exact not_le.mp ‹_›

theorem figures_total_nonneg (figures : ∀ component, Figure (tax.get component)) :
    0 ≤ tax.total := by
  have cgst := (figures .CGST).nonneg
  have sgst := (figures .SGST).nonneg
  have igst := (figures .IGST).nonneg
  have cess := (figures .CESS).nonneg
  simp only [GstAmounts.get] at cgst sgst igst cess
  rw [GstAmounts.total]
  linarith

theorem figures_total_mem (figures : ∀ component, Figure (tax.get component)) :
    tax.total ∈ paise :=
  add_mem (add_mem (add_mem (figures .CGST).exact (figures .SGST).exact) (figures .IGST).exact)
    (figures .CESS).exact

/-- A figure printed to two places is itself. -/
theorem figures_printed (figures : ∀ component, Figure (tax.get component)) :
    (⟨money tax.cgst, money tax.sgst, money tax.igst, money tax.cess⟩ : GstAmounts) = tax := by
  have cgst := (figures .CGST).money
  have sgst := (figures .SGST).money
  have igst := (figures .IGST).money
  have cess := (figures .CESS).money
  simp only [GstAmounts.get] at cgst sgst igst cess
  rw [cgst, sgst, igst, cess]

theorem deriveLine_sound {head : Option GstHead} (sound : SoundRun run)
    (accepted : (deriveLine cases facts head run line).refusals = []) :
    SoundRun (deriveLine cases facts head run line) := by
  obtain ⟨-, positive, gstAccepted⟩ := deriveLine_accepted accepted
  have taxed := gstOf_taxed sound.unmapped sound.positive positive.le gstAccepted
  have printed := figures_printed taxed.figures
  have taxNonneg := figures_total_nonneg taxed.figures
  have taxMem := figures_total_mem taxed.figures
  simp only [deriveLine]
  generalize gstOf cases facts head run line = gst at *
  have costNonneg : 0 ≤ gst.costTax := by
    rw [taxed.costTax]
    split
    · exact taxNonneg
    · exact le_rfl
  have costMem : gst.costTax ∈ paise := by
    rw [taxed.costTax]
    split
    · exact taxMem
    · exact zero_mem _
  have legAmount : (lineLeg line gst.costTax).amount = money line.amount + gst.costTax :=
    money_of_mem (add_mem (money_mem _) costMem)
  constructor
  · exact taxed.unmapped
  · simp only [List.map_append, sound.costs, List.map_singleton, legAmount]
    simp only [taxed.costTax, ExpenseLinePayload.ineligibleTax, printed]
  · simp only [taxed.claimed, sound.claimed, List.map_append, List.map_singleton, List.sum_append,
      List.sum_singleton]
    simp only [ExpenseLinePayload.eligibleTax, printed]
  · simp only [sound.total, List.map_append, List.map_singleton, List.sum_append,
      List.sum_singleton, printed]
  · intro leg member
    cases List.mem_append.mp member with
    | inl earlier => exact sound.legs leg earlier
    | inr here =>
        rw [List.mem_singleton.mp here]
        refine ⟨rfl, rfl, ?_⟩
        rw [legAmount]
        exact add_pos_of_pos_of_nonneg positive costNonneg
  · exact taxed.positive

theorem runLines_sound (head : Option GstHead) (lines : List ExpenseLineInput)
    (refusals : List Refusal)
    (accepted : (lines.foldl (deriveLine cases facts head) (.start refusals)).refusals = []) :
    SoundRun (lines.foldl (deriveLine cases facts head) (.start refusals)) := by
  induction lines using List.reverseRecOn with
  | nil =>
      constructor
      · rfl
      · rfl
      · rfl
      · rfl
      · exact fun leg member => absurd member List.not_mem_nil
      · exact fun entry member => absurd member List.not_mem_nil
  | append_singleton earlier line ih =>
      rw [List.foldl_append, List.foldl_cons, List.foldl_nil] at accepted ⊢
      exact deriveLine_sound (ih (deriveLine_accepted accepted).1) accepted

/-! ## The voucher -/

/-- How a leg is read. -/
def legReading : DoubleEntry.Reading VoucherLeg Decimal where
  isDebit leg := leg.drCr = .DR
  amount := VoucherLeg.amount

/-- The two sides agree, the claimed tax is the eligible tax, the cost of each line has its
ineligible tax inside, and every leg is above zero. -/
structure BalancedExpense (derived : DerivedExpense) : Prop where
  balanced : legReading.Balanced derived.legs
  eligible : ((derived.legs.filter fun leg => leg.role.isSome).map (·.amount)).sum =
    (derived.payload.lines.map (·.eligibleTax)).sum
  costs : (derived.legs.filter fun leg => leg.drCr = .DR ∧ leg.role = none).map (·.amount) =
    derived.payload.lines.map fun payload => money payload.line.amount + payload.ineligibleTax
  positive : ∀ leg ∈ derived.legs, 0 < leg.amount

section Voucher

variable {run : LineRun}

theorem taxLegs_amounts (positive : TaxLegsPositive run.taxLegs) :
    ((run.taxLegs.entries.map taxLegOf).map (·.amount)).sum = claimedTotal run.taxLegs := by
  have same : ∀ entry ∈ run.taxLegs.entries, (taxLegOf entry).amount = entry.2.amount :=
    fun entry member => money_of_mem (positive entry member).1
  rw [List.map_map]
  exact congrArg List.sum (List.map_congr_left same)

theorem tenderLegs_amounts (facts : ExpenseFacts) :
    ((facts.tenders.map (tenderLeg facts)).map (·.amount)).sum = paidOf facts := by
  rw [List.map_map]
  exact congrArg List.sum (List.map_congr_left fun tender _ => money_of_mem tender.amount_mem)

/-- The lines' legs come before those of the input tax, and the tenders' after. -/
theorem legs_split {keep : VoucherLeg → Bool} {kept : Bool × Bool × Bool}
    (lines : ∀ leg ∈ run.lineLegs, keep leg = kept.1)
    (taxes : ∀ entry, keep (taxLegOf entry) = kept.2.1)
    (tenders : ∀ tender, keep (tenderLeg facts tender) = kept.2.2) :
    (legsOf facts run).filter keep =
      (if kept.1 then run.lineLegs else []) ++
        (if kept.2.1 then run.taxLegs.entries.map taxLegOf else []) ++
        if kept.2.2 then facts.tenders.map (tenderLeg facts) else [] := by
  have uniform (legs : List VoucherLeg) (choice : Bool) (all : ∀ leg ∈ legs, keep leg = choice) :
      legs.filter keep = if choice then legs else [] := by
    cases choice with
    | true => exact List.filter_eq_self.mpr all
    | false =>
        apply List.filter_eq_nil_iff.mpr
        intro leg member
        rw [all leg member]
        exact Bool.false_ne_true
  rw [legsOf, List.filter_append, List.filter_append, uniform _ _ lines,
    uniform _ kept.2.1, uniform _ kept.2.2]
  · intro leg member
    obtain ⟨tender, _, rfl⟩ := List.mem_map.mp member
    exact tenders tender
  · intro leg member
    obtain ⟨entry, _, rfl⟩ := List.mem_map.mp member
    exact taxes entry

end Voucher

/-- An expense on which nothing is refused balances, its credit and its cost accounted for. -/
theorem deriveExpense_balanced (cases : Text.CaseMapping) (draft : ExpenseDraftLines)
    (facts : ExpenseFacts) (accepted : (deriveExpense cases draft facts).refusals = []) :
    BalancedExpense (deriveExpense cases draft facts) := by
  simp only [deriveExpense, List.append_eq_nil_iff] at accepted
  obtain ⟨⟨linesAccepted, -⟩, totals⟩ := accepted
  have sound : SoundRun (runLines cases draft facts) := runLines_sound _ _ _ linesAccepted
  have paid : paidOf facts = (runLines cases draft facts).total := by
    rw [totalRefusals] at totals
    split at totals
    · assumption
    · cases totals
  have lineSide : ∀ leg ∈ (runLines cases draft facts).lineLegs,
      legReading.isDebit leg = true := by
    intro leg member
    exact decide_eq_true (sound.legs leg member).1
  have taxes := taxLegs_amounts sound.positive
  constructor
  · have debits := @legs_split facts (runLines cases draft facts) legReading.isDebit
      (true, true, false) lineSide (fun _ => rfl) (fun _ => rfl)
    have credits := @legs_split facts (runLines cases draft facts)
      (fun leg => !legReading.isDebit leg) (false, false, true)
      (fun leg member => by rw [lineSide leg member]; rfl) (fun _ => rfl) (fun _ => rfl)
    change legReading.debits (legsOf facts (runLines cases draft facts)) =
      legReading.credits (legsOf facts (runLines cases draft facts))
    rw [DoubleEntry.Reading.debits, DoubleEntry.Reading.credits, debits, credits]
    simp only [if_true, Bool.false_eq_true, if_false, List.append_nil, List.nil_append,
      List.map_append, List.sum_append]
    change ((runLines cases draft facts).lineLegs.map (·.amount)).sum +
      (((runLines cases draft facts).taxLegs.entries.map taxLegOf).map (·.amount)).sum =
        ((facts.tenders.map (tenderLeg facts)).map (·.amount)).sum
    rw [taxes, tenderLegs_amounts, paid, sound.costs, sound.claimed, sound.total,
      ← List.sum_map_add]
    congr 1
    apply List.map_congr_left
    intro payload _
    rw [ExpenseLinePayload.ineligibleTax, ExpenseLinePayload.eligibleTax]
    split
    · ring
    · ring
  · have claimed := @legs_split facts (runLines cases draft facts)
      (fun leg => leg.role.isSome) (false, true, false)
      (fun leg member => by rw [(sound.legs leg member).2.1]; rfl) (fun _ => rfl) (fun _ => rfl)
    change (((legsOf facts (runLines cases draft facts)).filter fun leg =>
      leg.role.isSome).map (·.amount)).sum = _
    rw [claimed]
    simp only [if_true, Bool.false_eq_true, if_false, List.append_nil, List.nil_append]
    exact taxes.trans sound.claimed
  · have costs := @legs_split facts (runLines cases draft facts)
      (fun leg => leg.drCr = .DR ∧ leg.role = none) (true, false, false)
      (fun leg member => decide_eq_true ⟨(sound.legs leg member).1, (sound.legs leg member).2.1⟩)
      (fun _ => rfl) (fun _ => rfl)
    change ((legsOf facts (runLines cases draft facts)).filter fun leg =>
      leg.drCr = .DR ∧ leg.role = none).map (·.amount) = _
    rw [costs]
    simp only [if_true, Bool.false_eq_true, if_false, List.append_nil]
    exact sound.costs
  · intro leg member
    rcases List.mem_append.mp member with debit | credit
    · cases List.mem_append.mp debit with
      | inl cost => exact (sound.legs leg cost).2.2
      | inr claim =>
          obtain ⟨entry, inside, rfl⟩ := List.mem_map.mp claim
          have figure := sound.positive entry inside
          change 0 < money entry.2.amount
          rw [money_of_mem figure.1]
          exact figure.2
    · obtain ⟨tender, _, rfl⟩ := List.mem_map.mp credit
      change 0 < money tender.amount
      rw [money_of_mem tender.amount_mem]
      exact tender.amount_pos

/-! ## A bill with and without credit -/

private theorem eighteen_nonneg : (0 : Decimal) ≤ 18 := by
  norm_num

private theorem noCess_nonneg : (0 : Decimal) ≤ 0 :=
  le_rfl

private theorem paid_mem : (354 : Decimal) ∈ paise :=
  Receipt.whole_mem 354

private theorem paid_pos : (0 : Decimal) < 354 := by
  norm_num

/-- Stationery, an expense ledger. -/
private def stationery : LedgerFacts where
  ledId := 1
  name := "Stationery"
  isActive := true
  isDeleted := false
  groupName := "Indirect Expenses"
  groupPath := []
  groupNames := []
  isParty := false
  isBillByBill := false
  itcEligibility := none
  isTdsApplicable := false
  tdsSection := none
  tdsDeducteeType := none
  pan := none
  gstin := some "33ABCDE1234F1Z5".toList
  stateCode := none

/-- Two lines of 100 and 200 at 18%, the second without credit, paid in cash. -/
private def stationeryBill : ExpenseDraftLines where
  lines :=
    [⟨1, 1, 100, none, none, some 7, none, true⟩, ⟨2, 1, 200, none, none, some 7, none, false⟩]
  gstBill := some ⟨none, "B-17", "2026-10-05", none⟩

private def stationeryFacts : ExpenseFacts where
  company := ⟨1, ['3', '3']⟩
  ledgers _ := some stationery
  expenseLedgerIds _ := true
  party := some stationery
  taxRates _ := some ⟨7, "18%", 18, 0, .NONE, true, eighteen_nonneg, noCess_nonneg⟩
  roleLedgers component _ _ := some ⟨if component = .CGST then 21 else 22, "Input tax"⟩
  tenders := [⟨1, 1, "Cash", 1, "Cash", 30, none, 354, 0, none, false, false, none, paid_mem,
    paid_pos⟩]
  ledgerNames _ := none
  cashFrom := .LEDGER
  cashLedgerId := none

theorem stationeryBill_balanced :
    BalancedExpense (deriveExpense ⟨id, id⟩ stationeryBill stationeryFacts) :=
  deriveExpense_balanced ⟨id, id⟩ stationeryBill stationeryFacts (by decide +kernel)

end ErpServer.Expense
