import ErpServer.Lib.ListSum
import ErpServer.Purchase.Calc

/-!
# What reaches the payable

A charge before tax reaches the payable only through the lines it is spread over, one
after tax directly.  The two routes agree as long as the lines take the charge: their
weights must come to something.
-/

namespace ErpServer.Purchase

open Lib
open Receipt (Decimal paise money_mem money_of_mem)

/-! ## Two-place figures -/

theorem reduction_mem (pct perQty amount : Option Decimal) (base billed : Decimal) :
    reduction pct perQty amount base billed ∈ paise := by
  unfold reduction
  split
  · exact money_mem _
  · split
    · exact money_mem _
    · exact money_mem _

theorem netGross_mem (mode : Option SupplierTaxMode) (line : CalcLineIn) :
    (baseLine mode line).netGross ∈ paise := by
  apply sub_mem
  · apply sub_mem
    · apply sub_mem
      · exact money_mem _
      · exact reduction_mem _ _ _ _ _
    · exact reduction_mem _ _ _ _ _
  · exact money_mem _

theorem chargeAmount_mem (charge : CalcChargeIn) (base : List BaseLine) :
    chargeAmount charge base ∈ paise := by
  simp only [chargeAmount]
  split
  · exact money_mem _
  · cases charge.method with
    | FIXED => exact money_mem _
    | PERCENT => exact money_mem _
    | QTY => exact money_mem _
    | NET_QTY => exact money_mem _
    | KG => exact money_mem _
    | QTL => exact money_mem _
    | TON => exact money_mem _

theorem signedAmount_mem (charge : CalcChargeIn) (base : List BaseLine) :
    signedAmount charge base ∈ paise := by
  unfold signedAmount
  cases charge.type with
  | ADD => exact chargeAmount_mem charge base
  | DEDUCT => exact neg_mem (chargeAmount_mem charge base)

theorem gst_mem (taxable pct : Decimal) (interState : Bool) :
    (gst taxable pct interState).cgst ∈ paise ∧ (gst taxable pct interState).sgst ∈ paise ∧
      (gst taxable pct interState).igst ∈ paise := by
  simp only [gst]
  split
  · exact ⟨zero_mem _, zero_mem _, zero_mem _⟩
  · split
    · exact ⟨zero_mem _, zero_mem _, money_mem _⟩
    · exact ⟨money_mem _, money_mem _, zero_mem _⟩

theorem gst_total_mem (taxable pct : Decimal) (interState : Bool) :
    (gst taxable pct interState).total ∈ paise := by
  have mems := gst_mem taxable pct interState
  exact add_mem (add_mem mems.1 mems.2.1) mems.2.2

theorem creditOf_ineligible_mem {b : BaseLine} {tax : Decimal} (taxMem : tax ∈ paise)
    (pending absorbed : Decimal) : (creditOf b tax pending absorbed).ineligible ∈ paise := by
  unfold creditOf
  split
  · simp only
    split
    · exact sub_mem taxMem (money_mem _)
    · exact money_mem _
  · exact zero_mem _

/-! ## The entries of a charge -/

section Entries

variable (charge : CalcChargeIn) (base : List BaseLine)

@[simp] theorem length_chargeWeights :
    (chargeWeights charge base).length = (chargeLines charge base).length := by
  simp only [chargeWeights]
  rw [apply_ite List.length, List.length_map, List.length_map, ite_self]

@[simp] theorem length_chargeParts :
    (chargeParts charge base).length = (chargeLines charge base).length := by
  simp [chargeParts, spread]

/-- The parts of a charge are the whole of it, unless its weights come to nothing. -/
theorem sum_chargeEntries :
    ((chargeEntries charge base).map Prod.snd).sum =
      if (chargeWeights charge base).sum = 0 then 0 else signedAmount charge base := by
  rw [chargeEntries, List.map_snd_zip (by simp)]
  exact Spread.sum_spread _ _ _

variable {entry : BaseLine × Decimal}

theorem part_mem (member : entry ∈ chargeEntries charge base) : entry.2 ∈ paise :=
  Spread.spread_mem _ _ (signedAmount_mem charge base) (fun _ => money_mem _) _ _
    (List.of_mem_zip member).2

/-- A line with a part has weight. -/
theorem weight_of_part (member : entry ∈ chargeEntries charge base) (part : entry.2 ≠ 0) :
    ∃ weight, (entry.1, weight) ∈ (chargeLines charge base).zip (chargeWeights charge base) ∧
      weight ≠ 0 := by
  obtain ⟨index, found⟩ := List.mem_iff_getElem?.mp member
  rw [chargeEntries, List.getElem?_zip_eq_some] at found
  cases atIndex : (chargeWeights charge base)[index]? with
  | none =>
      rw [List.getElem?_eq_none_iff, length_chargeWeights] at atIndex
      rw [List.getElem?_eq_none atIndex] at found
      cases found.1
  | some weight =>
      refine ⟨weight, ?_, ?_⟩
      · apply List.mem_iff_getElem?.mpr
        exact ⟨index, List.getElem?_zip_eq_some.mpr ⟨found.1, atIndex⟩⟩
      · intro zero
        apply part
        have pair : (weight, entry.2) ∈
            (chargeWeights charge base).zip (chargeParts charge base) :=
          List.mem_iff_getElem?.mpr ⟨index, List.getElem?_zip_eq_some.mpr ⟨atIndex, found.2⟩⟩
        exact Spread.spread_unweighted _ _ _ pair zero

/-- What a charge puts under one key. -/
def partsAt (key : String) : Decimal :=
  (((chargeEntries charge base).filter fun entry => entry.1.line.key = key).map Prod.snd).sum

/-- What the lines of the bill make of it, each reading its own key. -/
def carried : Decimal := (base.map fun b => partsAt charge base b.line.key).sum

/-- Every line the charge gives weight to has a key of its own. -/
def OwnKeys : Prop :=
  ∀ entry ∈ (chargeLines charge base).zip (chargeWeights charge base), entry.2 ≠ 0 →
    (base.filter fun b => b.line.key = entry.1.line.key).length = 1

variable {charge base}

theorem OwnKeys.of_part (own : OwnKeys charge base) (member : entry ∈ chargeEntries charge base)
    (part : entry.2 ≠ 0) : (base.filter fun b => b.line.key = entry.1.line.key).length = 1 := by
  obtain ⟨weight, weightMem, nonzero⟩ := weight_of_part charge base member part
  exact own (entry.1, weight) weightMem nonzero

/-- Read back line by line, the parts come to what they came to. -/
theorem OwnKeys.carried_eq (own : OwnKeys charge base) :
    carried charge base =
      if (chargeWeights charge base).sum = 0 then 0 else signedAmount charge base := by
  rw [← sum_chargeEntries]
  have alone : ∀ entry ∈ chargeEntries charge base, entry.2 ≠ 0 →
      (base.filter fun b => b.line.key = entry.1.line.key).length = 1 :=
    fun entry member part => own.of_part member part
  simp only [carried, partsAt]
  generalize chargeEntries charge base = entries at alone
  induction entries with
  | nil => simp
  | cons entry rest ih =>
      rw [List.forall_mem_cons] at alone
      have split (b : BaseLine) :
          (((entry :: rest).filter fun other => other.1.line.key = b.line.key).map Prod.snd).sum =
            (if b.line.key = entry.1.line.key then entry.2 else 0) +
              ((rest.filter fun other => other.1.line.key = b.line.key).map Prod.snd).sum := by
        rw [List.filter_cons]
        by_cases same : b.line.key = entry.1.line.key
        · simp [same]
        · simp [same, Ne.symm same]
      have here : (base.map fun b => if b.line.key = entry.1.line.key then entry.2 else 0).sum =
          entry.2 := by
        have filtered := ListSum.sum_ite_filter base (fun _ => entry.2)
          fun b => b.line.key = entry.1.line.key
        simp only [decide_eq_true_eq, List.map_const', List.sum_replicate] at filtered
        rw [filtered]
        by_cases part : entry.2 = 0
        · rw [part, smul_zero]
        · rw [alone.1 part, one_smul]
      simp only [split]
      rw [List.sum_map_add, here, ih alone.2, List.map_cons, List.sum_cons]

end Entries

/-! ## What a line has been given -/

/-- A figure of a share that adds up the parts of the charges of one kind. -/
structure Reads (figure : LineShare → Decimal) (counts : CalcChargeIn → Bool) : Prop where
  zero : figure .zero = 0
  add : ∀ charge part share,
    figure (share.add charge part) = figure share + if counts charge then part else 0

theorem reads_before : Reads LineShare.before fun charge => charge.onBill && charge.beforeTax := by
  constructor
  · rfl
  · intro charge part share
    unfold LineShare.add
    cases charge.onBill <;> cases charge.beforeTax <;> simp

/-- What the lines carry as cost: the landing charges, on the bill and off it. -/
def LineShare.loaded (share : LineShare) : Decimal :=
  share.before - share.beforeNotLanding + (share.after - share.afterNotLanding) + share.offbill

theorem reads_loaded : Reads LineShare.loaded CalcChargeIn.landingCost := by
  constructor
  · simp [LineShare.loaded, LineShare.zero]
  · intro charge part share
    have offBill := charge.offBillLanding
    unfold LineShare.add LineShare.loaded
    cases onBill : charge.onBill with
    | false =>
        rw [offBill onBill]
        simp only [Bool.false_eq_true, if_false, if_true]
        ring
    | true =>
        cases charge.beforeTax <;> cases charge.landingCost <;>
          simp only [Bool.false_eq_true, if_false, if_true] <;> ring

/-- The share of a line is exact. -/
structure ExactShare (share : LineShare) : Prop where
  before : share.before ∈ paise
  after : share.after ∈ paise
  offbill : share.offbill ∈ paise
  beforeNotLanding : share.beforeNotLanding ∈ paise
  afterNotLanding : share.afterNotLanding ∈ paise

theorem ExactShare.add {share : LineShare} (exact : ExactShare share) (charge : CalcChargeIn)
    {part : Decimal} (partMem : part ∈ paise) : ExactShare (share.add charge part) := by
  unfold LineShare.add
  split
  · split
    · refine { exact with before := add_mem exact.before partMem, beforeNotLanding := ?_ }
      simp only
      split
      · exact exact.beforeNotLanding
      · exact add_mem exact.beforeNotLanding partMem
    · refine { exact with after := add_mem exact.after partMem, afterNotLanding := ?_ }
      simp only
      split
      · exact exact.afterNotLanding
      · exact add_mem exact.afterNotLanding partMem
  · exact { exact with offbill := add_mem exact.offbill partMem }

section Shares

variable {figure : LineShare → Decimal} {counts : CalcChargeIn → Bool}

variable {share : LineShare} {shares : OrderedMap String LineShare} {key : String}

theorem add_parts (reads : Reads figure counts) (charge : CalcChargeIn)
    {entries : List (BaseLine × Decimal)} (exact : ∀ entry ∈ entries, entry.2 ∈ paise)
    (shareExact : ExactShare share) (found : shares.get? key = some share) :
    ∃ after, (entries.foldl (addPart charge) shares).get? key = some after ∧ ExactShare after ∧
      figure after = figure share + if counts charge then
        ((entries.filter fun entry => entry.1.line.key = key).map Prod.snd).sum else 0 := by
  induction entries generalizing shares share with
  | nil => exact ⟨share, found, shareExact, by simp⟩
  | cons entry rest ih =>
      rw [List.forall_mem_cons] at exact
      by_cases here : entry.1.line.key = key
      · have added : (addPart charge shares entry).get? key =
            some (share.add charge entry.2) := by
          unfold addPart
          rw [here, found, OrderedMap.get?_set_self]
        obtain ⟨after, later, afterExact, value⟩ :=
          ih exact.2 (shareExact.add charge exact.1) added
        refine ⟨after, later, afterExact, ?_⟩
        rw [value, reads.add, List.filter_cons_of_pos (by simp [here]), List.map_cons,
          List.sum_cons]
        cases counts charge with
        | false => simp
        | true => simp [add_assoc]
      · have kept : (addPart charge shares entry).get? key = some share := by
          unfold addPart
          split
          · exact found
          · rw [OrderedMap.get?_set_of_ne _ _ (Ne.symm here), found]
        obtain ⟨after, later, afterExact, value⟩ := ih exact.2 shareExact kept
        refine ⟨after, later, afterExact, ?_⟩
        rw [value, List.filter_cons_of_neg (by simp [here])]

theorem add_charges (reads : Reads figure counts) (base : List BaseLine)
    (charges : List CalcChargeIn) (shareExact : ExactShare share)
    (found : shares.get? key = some share) :
    ∃ after, (charges.foldl (addCharge base) shares).get? key = some after ∧ ExactShare after ∧
      figure after = figure share +
        (charges.map fun charge => if counts charge then partsAt charge base key else 0).sum := by
  induction charges generalizing shares share with
  | nil => exact ⟨share, found, shareExact, by simp⟩
  | cons charge rest ih =>
      obtain ⟨middle, here, middleExact, value⟩ := add_parts reads charge
        (fun entry member => part_mem charge base member) shareExact found
      obtain ⟨after, later, afterExact, total⟩ := ih middleExact here
      refine ⟨after, later, afterExact, ?_⟩
      rw [total, value, List.map_cons, List.sum_cons, partsAt]
      ring

/-- The share a line of the bill reads. -/
def shareAt (charges : List CalcChargeIn) (base : List BaseLine) (b : BaseLine) : LineShare :=
  ((sharesOf charges base).get? b.line.key).getD .zero

theorem shareAt_spec (reads : Reads figure counts) (charges : List CalcChargeIn)
    {base : List BaseLine} {b : BaseLine} (member : b ∈ base) :
    ExactShare (shareAt charges base b) ∧ figure (shareAt charges base b) =
      (charges.map fun charge => if counts charge then partsAt charge base b.line.key else 0).sum := by
  have start : (OrderedMap.ofList (base.map fun b => (b.line.key, LineShare.zero))).get?
      b.line.key = some .zero := by
    have isKey : b.line.key ∈ (OrderedMap.ofList
        (base.map fun b => (b.line.key, LineShare.zero))).keys := by
      rw [OrderedMap.mem_keys_ofList, List.map_map]
      exact List.mem_map_of_mem (f := fun b => b.line.key) member
    obtain ⟨share, found⟩ := (OrderedMap.mem_keys_iff _ _).mp isKey
    obtain ⟨other, -, equal⟩ := List.mem_map.mp (OrderedMap.mem_of_get?_ofList found)
    rw [found, ← (Prod.mk.inj equal).2]
  have zeroExact : ExactShare .zero :=
    ⟨zero_mem _, zero_mem _, zero_mem _, zero_mem _, zero_mem _⟩
  obtain ⟨after, found, exact, value⟩ := add_charges reads base charges zeroExact start
  have reading : shareAt charges base b = after := by
    rw [shareAt, sharesOf, found, Option.getD_some]
  rw [reading, value, reads.zero, zero_add]
  exact ⟨exact, rfl⟩

/-- Over all lines, a figure is what the lines carry of the charges it counts. -/
theorem sum_shareAt (reads : Reads figure counts) (charges : List CalcChargeIn)
    (base : List BaseLine) :
    (base.map fun b => figure (shareAt charges base b)).sum =
      (charges.map fun charge => if counts charge then carried charge base else 0).sum := by
  have each : (base.map fun b => figure (shareAt charges base b)) = base.map fun b =>
      (charges.map fun charge =>
        if counts charge then partsAt charge base b.line.key else 0).sum :=
    List.map_congr_left fun b member => (shareAt_spec reads charges member).2
  rw [each]
  clear each
  induction charges with
  | nil => simp
  | cons charge rest ih =>
      simp only [List.map_cons, List.sum_cons, List.sum_map_add, ih, carried]
      cases counts charge with
      | false => simp
      | true => simp

end Shares

/-! ## A line of the result -/

/-- The charges in the cost of a line: what its landed value has beside its own net
gross and the tax lost on it, before the short value came off. -/
def CalcLineOut.loaded (line : CalcLineOut) : Decimal :=
  line.landedValue - line.netGross - line.itcIneligible + line.shortValue

def CalcLineOut.allTax (line : CalcLineOut) : Decimal := line.tax.total + line.cess

section Line

variable (interState : Bool)

theorem total_lineOut (share : LineShare) (b : BaseLine) :
    (lineOut interState share b).total =
      b.netGross + share.before + (lineOut interState share b).allTax := rfl

theorem allTax_mem (share : LineShare) (b : BaseLine) :
    (lineOut interState share b).allTax ∈ paise := by
  apply add_mem
  · exact gst_total_mem _ _ _
  · simp only [lineOut]
    split
    · exact money_mem _
    · exact zero_mem _

variable {share : LineShare} {b : BaseLine} (exact : ExactShare share)
  (netGross : b.netGross ∈ paise)

include exact netGross

theorem total_mem : (lineOut interState share b).total ∈ paise := by
  rw [total_lineOut]
  exact add_mem (add_mem netGross exact.before) (allTax_mem interState share b)

theorem loaded_lineOut : (lineOut interState share b).loaded = share.loaded := by
  have ineligible : (lineOut interState share b).itcIneligible ∈ paise :=
    creditOf_ineligible_mem (allTax_mem interState share b) _ _
  have shortValue : (lineOut interState share b).shortValue ∈ paise := by
    simp only [lineOut]
    split
    · exact zero_mem _
    · exact money_mem _
  have landed : (lineOut interState share b).landedValue =
      b.netGross + share.before - share.beforeNotLanding + (share.after - share.afterNotLanding) +
        share.offbill + (lineOut interState share b).itcIneligible -
          (lineOut interState share b).shortValue := by
    apply money_of_mem
    exact sub_mem (add_mem (add_mem (add_mem (sub_mem (add_mem netGross exact.before)
      exact.beforeNotLanding) (sub_mem exact.after exact.afterNotLanding)) exact.offbill)
      ineligible) shortValue
  have sameNetGross : (lineOut interState share b).netGross = b.netGross := rfl
  rw [CalcLineOut.loaded, landed, sameNetGross, LineShare.loaded]
  ring

end Line

/-! ## The bill -/

section Bill

variable (input : CalcIn)

theorem chargesWhere_eq (kind : CalcChargeIn → Bool) :
    chargesWhere kind input = (input.charges.map fun charge =>
      if kind charge then signedAmount charge (baseLines input) else 0).sum := by
  unfold chargesWhere chargesOut
  induction input.charges with
  | nil => rfl
  | cons charge rest ih =>
      rw [List.map_cons, List.zip_cons_cons, List.filter_cons, List.map_cons, List.sum_cons, ← ih]
      cases kind charge with
      | false => simp
      | true => simp [chargeOut]

theorem linesOut_eq : linesOut input = (baseLines input).map fun b =>
    lineOut input.interState (shareAt input.charges (baseLines input) b) b := rfl

theorem base_mem {b : BaseLine} (member : b ∈ baseLines input) : b.netGross ∈ paise := by
  obtain ⟨line, -, rfl⟩ := List.mem_map.mp member
  exact netGross_mem _ _

theorem rawPayable_mem : rawPayable input ∈ paise := by
  apply add_mem
  · apply add_mem
    · apply add_mem
      · apply list_sum_mem
        intro value member
        obtain ⟨line, lineMem, rfl⟩ := List.mem_map.mp member
        rw [linesOut_eq] at lineMem
        obtain ⟨b, bMem, rfl⟩ := List.mem_map.mp lineMem
        exact total_mem _ (shareAt_spec reads_before _ bMem).1 (base_mem input bMem)
      · rw [onBillAfter, chargesWhere_eq]
        apply list_sum_mem
        intro value member
        obtain ⟨charge, -, rfl⟩ := List.mem_map.mp member
        split
        · exact signedAmount_mem _ _
        · exact zero_mem _
    · apply list_sum_mem
      intro value member
      obtain ⟨out, outMem, rfl⟩ := List.mem_map.mp member
      obtain ⟨charge, -, rfl⟩ := List.mem_map.mp outMem
      simp only [chargeOut]
      split
      · exact gst_total_mem _ _ _
      · exact add_mem (add_mem (zero_mem _) (zero_mem _)) (zero_mem _)
  · exact money_mem _

theorem roundToStep_mem {raw step : Decimal} (rawMem : raw ∈ paise) (stepMem : step ∈ paise) :
    roundToStep raw step ∈ paise := by
  unfold roundToStep
  split
  · exact rawMem
  · have whole : Grid.halfUp 1 (raw / step) ∈ Grid.grid (1 : Decimal) := Grid.halfUp_mem
    obtain ⟨count, equal⟩ := Grid.mem_grid_iff.mp whole
    rw [equal, mul_one, ← zsmul_eq_mul]
    exact zsmul_mem stepMem count

/-- Taking the round-off back leaves what was rounded. -/
theorem payable_sub_roundOff :
    (calcPurchase input).netPayable - (calcPurchase input).roundOff = rawPayable input := by
  have rounded := roundToStep_mem (rawPayable_mem input) input.stepExact
  simp only [calcPurchase, r2]
  rw [money_of_mem rounded, money_of_mem (sub_mem rounded (rawPayable_mem input))]
  ring

theorem sumLines_total : sumLines input CalcLineOut.total =
    sumLines input CalcLineOut.netGross + ((calcPurchase input).tax.total +
      (calcPurchase input).cess) + (input.charges.map fun charge =>
        if charge.onBill && charge.beforeTax then carried charge (baseLines input) else 0).sum := by
  have before := sum_shareAt reads_before input.charges (baseLines input)
  have totals : sumLines input CalcLineOut.total = sumLines input CalcLineOut.netGross +
      ((baseLines input).map fun b =>
        (shareAt input.charges (baseLines input) b).before).sum +
          sumLines input CalcLineOut.allTax := by
    simp only [sumLines, linesOut_eq, List.map_map, ← List.sum_map_add]
    rfl
  have taxes : sumLines input CalcLineOut.allTax =
      (calcPurchase input).tax.total + (calcPurchase input).cess := by
    simp only [sumLines, calcPurchase, Gst.total, ← List.sum_map_add]
    rfl
  rw [totals, taxes, before]
  ring

theorem sum_loaded : ((calcPurchase input).lines.map CalcLineOut.loaded).sum =
    (input.charges.map fun charge =>
      if charge.landingCost then carried charge (baseLines input) else 0).sum := by
  rw [← sum_shareAt reads_loaded input.charges (baseLines input)]
  change ((linesOut input).map CalcLineOut.loaded).sum = _
  rw [linesOut_eq, List.map_map]
  refine congrArg List.sum (List.map_congr_left fun b member => ?_)
  exact loaded_lineOut _ (shareAt_spec reads_loaded _ member).1 (base_mem input member)

end Bill

/-! ## Every rupee accounted for -/

/-- The payable is the net gross, the charges on the bill, all tax and the TCS; the
lines take all of each charge before tax; and the cost of the lines carries the
landing charges. -/
structure AccountsForEveryRupee (input : CalcIn) : Prop where
  payable : (calcPurchase input).netPayable - (calcPurchase input).roundOff =
    sumLines input CalcLineOut.netGross + chargesWhere CalcChargeIn.onBill input +
      ((calcPurchase input).tax.total + (calcPurchase input).cess) +
      (calcPurchase input).chargeTax + (calcPurchase input).tcs
  taken : ∀ entry ∈ input.charges.zip (calcPurchase input).charges,
    entry.1.onBill = true → entry.1.beforeTax = true →
      ((calcPurchase input).lines.map fun line =>
        (entry.2.lineShares.get? line.key).getD 0).sum = entry.2.amount
  landing : ((calcPurchase input).lines.map CalcLineOut.loaded).sum =
    chargesWhere CalcChargeIn.landingCost input

/-- A charge whose shares reach the payable or the landed cost. -/
def CalcChargeIn.isSpread (charge : CalcChargeIn) : Bool :=
  charge.landingCost || charge.onBill && charge.beforeTax

/-- Every line such a charge gives weight to has a key of its own. -/
def OwnLineKeys (input : CalcIn) : Prop :=
  ∀ charge ∈ input.charges, charge.isSpread = true → OwnKeys charge (baseLines input)

/-- The weights of the charge come to something. -/
def HasWeight (input : CalcIn) (charge : CalcChargeIn) : Prop :=
  (chargeWeights charge (baseLines input)).sum ≠ 0

instance (input : CalcIn) (charge : CalcChargeIn) : Decidable (HasWeight input charge) :=
  inferInstanceAs (Decidable (_ ≠ _))

/-- No charge before tax goes without weight, and what the landing charges without
weight come to is nothing. -/
structure ChargesHaveWeight (input : CalcIn) : Prop where
  beforeTax : ∀ charge ∈ input.charges, charge.onBill = true → charge.beforeTax = true →
    signedAmount charge (baseLines input) ≠ 0 → HasWeight input charge
  landing : ((input.charges.filter fun charge =>
    charge.landingCost && !decide (HasWeight input charge)).map fun charge =>
      signedAmount charge (baseLines input)).sum = 0

section Account

variable {input : CalcIn}

/-- The shares a charge reports, read line by line. -/
theorem sum_lineShares {charge : CalcChargeIn} (own : OwnKeys charge (baseLines input)) :
    ((calcPurchase input).lines.map fun line =>
      ((chargeOut input (baseLines input) charge).lineShares.get? line.key).getD 0).sum =
        carried charge (baseLines input) := by
  change ((linesOut input).map _).sum = _
  rw [linesOut_eq, List.map_map, carried]
  refine congrArg List.sum (List.map_congr_left fun b _ => ?_)
  have keyOf : (lineOut input.interState
      (shareAt input.charges (baseLines input) b) b).key = b.line.key := rfl
  simp only [Function.comp_apply, keyOf, chargeOut, partsAt]
  rw [OrderedMap.getD_get?_ofList]
  · rw [List.filter_map, List.map_map]
    rfl
  · by_cases parts : ∀ entry ∈ chargeEntries charge (baseLines input),
        entry.1.line.key = b.line.key → entry.2 = 0
    · right
      intro pair pairMem named
      obtain ⟨entry, entryMem, rfl⟩ := List.mem_map.mp pairMem
      exact parts entry entryMem named
    · left
      simp only [not_forall] at parts
      obtain ⟨entry, entryMem, named, part⟩ := parts
      have single := own.of_part entryMem part
      rw [named] at single
      rw [List.filter_map, List.length_map, ← single]
      -- The lines of a charge are lines of the bill, each once.
      have firsts : (chargeEntries charge (baseLines input)).map Prod.fst =
          chargeLines charge (baseLines input) := List.map_fst_zip (by simp)
      have sub : ((chargeEntries charge (baseLines input)).map Prod.fst).Sublist
          (baseLines input) := by
        rw [firsts]
        exact List.filter_sublist
      have kept := sub.filter fun other => other.line.key = b.line.key
      rw [List.filter_map] at kept
      simpa [Function.comp_def] using kept.length_le

theorem OwnLineKeys.of_beforeTax {charge : CalcChargeIn} (own : OwnLineKeys input)
    (member : charge ∈ input.charges) (onBill : charge.onBill = true)
    (beforeTax : charge.beforeTax = true) : OwnKeys charge (baseLines input) := by
  apply own charge member
  rw [CalcChargeIn.isSpread, onBill, beforeTax, Bool.and_true, Bool.or_true]

theorem sum_unweighted (own : OwnLineKeys input) :
    chargesWhere CalcChargeIn.landingCost input - (input.charges.map fun charge =>
      if charge.landingCost then carried charge (baseLines input) else 0).sum =
      ((input.charges.filter fun charge =>
        charge.landingCost && !decide (HasWeight input charge)).map
          fun charge => signedAmount charge (baseLines input)).sum := by
  rw [chargesWhere_eq, ← ListSum.sum_map_sub, ← ListSum.sum_ite_filter]
  refine congrArg List.sum (List.map_congr_left fun charge member => ?_)
  by_cases counts : charge.landingCost
  · rw [(own charge member (by rw [CalcChargeIn.isSpread, counts, Bool.true_or])).carried_eq]
    by_cases weight : (chargeWeights charge (baseLines input)).sum = 0
    · simp [counts, weight, HasWeight]
    · simp [counts, weight, HasWeight]
  · simp [counts]

theorem mem_zip_charges {entry : CalcChargeIn × CalcChargeOut} :
    entry ∈ input.charges.zip (calcPurchase input).charges ↔
      ∃ charge ∈ input.charges, entry = (charge, chargeOut input (baseLines input) charge) := by
  change entry ∈ input.charges.zip (chargesOut input) ↔ _
  have pairs : input.charges.zip (chargesOut input) =
      input.charges.map fun charge => (charge, chargeOut input (baseLines input) charge) := by
    unfold chargesOut
    induction input.charges with
    | nil => rfl
    | cons charge rest ih => rw [List.map_cons, List.zip_cons_cons, ih, List.map_cons]
  rw [pairs, List.mem_map]
  constructor
  · intro found
    obtain ⟨charge, member, equal⟩ := found
    exact ⟨charge, member, equal.symm⟩
  · intro found
    obtain ⟨charge, member, equal⟩ := found
    exact ⟨charge, member, equal.symm⟩

/-- Where every weighted line has a key of its own, the calculation accounts for every
rupee exactly when no charge before tax goes without weight and the landing charges
that do come to nothing. -/
theorem accountsForEveryRupee_iff (input : CalcIn) (own : OwnLineKeys input) :
    AccountsForEveryRupee input ↔ ChargesHaveWeight input := by
  have landed := sum_unweighted own
  constructor
  · intro accounts
    constructor
    · intro charge member onBill beforeTax amount unweighted
      have taken := accounts.taken _ (mem_zip_charges.mpr ⟨charge, member, rfl⟩) onBill beforeTax
      have ownKeys := own.of_beforeTax member onBill beforeTax
      rw [sum_lineShares ownKeys, ownKeys.carried_eq, if_pos unweighted] at taken
      exact amount taken.symm
    · rw [← landed, ← accounts.landing, sum_loaded, sub_self]
  · intro weights
    have beforeTax : ∀ charge ∈ input.charges, charge.onBill = true → charge.beforeTax = true →
        carried charge (baseLines input) = signedAmount charge (baseLines input) := by
      intro charge member onBill before
      rw [(own.of_beforeTax member onBill before).carried_eq]
      by_cases nothing : signedAmount charge (baseLines input) = 0
      · rw [nothing, ite_self]
      · rw [if_neg (weights.beforeTax charge member onBill before nothing)]
    constructor
    · have direct : chargesWhere CalcChargeIn.onBill input =
          (input.charges.map fun charge =>
            if charge.onBill && charge.beforeTax then carried charge (baseLines input) else 0).sum +
              onBillAfter input := by
        rw [onBillAfter, chargesWhere_eq, chargesWhere_eq, ← List.sum_map_add]
        refine congrArg List.sum (List.map_congr_left fun charge member => ?_)
        cases onBill : charge.onBill with
        | false => simp
        | true =>
            cases before : charge.beforeTax with
            | false => simp
            | true => simp [beforeTax charge member onBill before]
      have tcs : (calcPurchase input).tcs = r2 (D input.tcsAmount) := rfl
      have tax : (calcPurchase input).chargeTax = chargeTax input := rfl
      rw [payable_sub_roundOff, rawPayable, sumLines_total, direct, tcs, tax]
      ring
    · intro entry member onBill before
      obtain ⟨charge, chargeMem, rfl⟩ := mem_zip_charges.mp member
      rw [sum_lineShares (own.of_beforeTax chargeMem onBill before),
        beforeTax charge chargeMem onBill before]
      rfl
    · rw [sum_loaded]
      rw [weights.landing] at landed
      linarith

end Account

/-! ## A bill with charges, and one of free goods -/

/-- Units at a price, taxed. -/
def plainLine (key : String) (billedQty rate gstPct : Decimal) : CalcLineIn where
  key := key
  billedQty := billedQty
  receivedQty := none
  damagedQty := none
  freeQty := none
  toBaseFactor := none
  rate := rate
  discPct := none
  discPerQty := none
  discAmt := none
  schPct := none
  schPerQty := none
  schAmt := none
  extraDiscAmt := none
  gstPct := some gstPct
  cessPct := none
  cessPerUnit := none
  weight := none
  itcClass := none
  shortagePct := none

/-- A fixed charge on the bill, spread by value into the cost. -/
def fixedCharge (key : String) (type : ChargeType) (rate : Decimal) (beforeTax : Bool) :
    CalcChargeIn where
  key := key
  type := type
  method := .FIXED
  rate := rate
  amount := none
  alloc := .VALUE
  beforeTax := beforeTax
  onBill := true
  landingCost := true
  taxPct := none
  payees := []
  lineKeys := none
  offBillLanding := by simp

/-- A bill of the state, rounded to the rupee. -/
def localBill (lines : List CalcLineIn) (charges : List CalcChargeIn) : CalcIn where
  interState := false
  supplierTaxMode := none
  lines := lines
  charges := charges
  tcsAmount := none
  roundOffStep := none
  stepExact := Grid.mem_grid_iff.mpr ⟨100, by norm_num [Receipt.paisa]⟩

/-- Two lines, with freight before tax and a cash discount after it. -/
def freightBill : CalcIn :=
  localBill [plainLine "1" 6 100 18, plainLine "2" 4 100 18]
    [fixedCharge "freight" .ADD 100 true, fixedCharge "cash discount" .DEDUCT 50 false]

theorem freightBill_accounts : AccountsForEveryRupee freightBill := by
  apply (accountsForEveryRupee_iff freightBill _).mpr
  · constructor <;> decide +kernel
  · unfold OwnLineKeys OwnKeys
    decide +kernel

/-- Ten units that came free, with freight of 100 before tax on the bill. -/
def freeGoodsBill : CalcIn :=
  localBill [{ plainLine "1" 0 100 18 with freeQty := some 10 }]
    [fixedCharge "freight" .ADD 100 true]

/-- The freight has no line to go to and drops out: nothing is payable. -/
theorem freeGoodsBill_drops_freight :
    (calcPurchase freeGoodsBill).netPayable = 0 ∧
      chargesWhere CalcChargeIn.onBill freeGoodsBill = 100 ∧
      ¬ AccountsForEveryRupee freeGoodsBill := by
  have payable : (calcPurchase freeGoodsBill).netPayable = 0 := by decide +kernel
  have charges : chargesWhere CalcChargeIn.onBill freeGoodsBill = 100 := by decide +kernel
  refine ⟨payable, charges, ?_⟩
  intro accounts
  have equation := accounts.payable
  have left : (calcPurchase freeGoodsBill).netPayable - (calcPurchase freeGoodsBill).roundOff =
      0 := by
    decide +kernel
  have rest : sumLines freeGoodsBill CalcLineOut.netGross +
      chargesWhere CalcChargeIn.onBill freeGoodsBill +
        ((calcPurchase freeGoodsBill).tax.total + (calcPurchase freeGoodsBill).cess) +
        (calcPurchase freeGoodsBill).chargeTax + (calcPurchase freeGoodsBill).tcs = 100 := by
    decide +kernel
  rw [left, rest] at equation
  norm_num at equation

end ErpServer.Purchase
