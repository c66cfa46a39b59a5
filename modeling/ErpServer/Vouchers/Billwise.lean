import ErpServer.Vouchers.Allocations

/-!
# Bill by bill

Where bills are demanded, what is allocated on a party's leg and the advance kept of it come to
the leg.  Where a bill is raised it is for the whole leg, and what is allocated adjusts it.
-/

namespace ErpServer.Vouchers

open Lib
open Receipt (Decimal DrCr BillSettlementMode Figure money money_mem money_of_mem paise)

variable {cases : Text.CaseMapping} {input : DeriveInput} {lines : List PartyLine}

/-! ## One party line -/

def amountOf (bills : List InternalBill) : Decimal := (bills.map (·.amount)).sum

/-- Whether a type raises a bill for a party line, and of which kind. -/
def raisesBill (type : VoucherTypeRules) (line : PartyLine) : Bool :=
  (type.raiseBillType.filter fun _ => raises type line).isSome

/-- A party line that is settled without a refusal. -/
structure Settles (input : DeriveInput) (allocations : List InternalAllocation) (line : PartyLine) :
    Prop where
  within : allocatedTo allocations line ≤ line.amount
  demanded : input.type.billwiseMode = .DEMAND →
    allocatedTo allocations line + amountOf (settleLine input allocations line).1 = line.amount
  raised : input.type.billwiseMode ≠ .DEMAND →
    amountOf (settleLine input allocations line).1 =
      if raisesBill input.type line then line.amount else 0
  advances : ∀ bill ∈ (settleLine input allocations line).1,
    (bill.isAdvance = true ↔ input.type.billwiseMode = .DEMAND)
  legRowNo : ∀ bill ∈ (settleLine input allocations line).1, bill.legRowNo = line.legRowNo

theorem allocatedTo_mem {allocations : List InternalAllocation}
    (exact : ∀ row ∈ allocations, row.amount ∈ paise) (line : PartyLine) :
    allocatedTo allocations line ∈ paise := by
  apply sum_mem_paise
  intro row member
  exact exact row (List.mem_of_mem_filter member)

variable {ctx : GuardContext} {line : PartyLine} {rows : List InternalAllocation}

theorem demandLine_settles {allocated : Decimal} (exact : line.amount - allocated ∈ paise)
    (quiet : Quiet ctx (demandLine input line allocated).2) :
    allocated + amountOf (demandLine input line allocated).1 = line.amount ∧
      ∀ bill ∈ (demandLine input line allocated).1,
        bill.isAdvance = true ∧ bill.legRowNo = line.legRowNo := by
  rw [demandLine] at quiet ⊢
  split
  · next whole =>
      refine ⟨?_, ?_⟩
      · rw [whole]
        exact add_zero _
      · intro bill member
        cases member
  · next short =>
      rw [if_neg short] at quiet
      split
      · next strict =>
          rw [if_pos strict] at quiet
          cases quiet _ List.mem_cons_self
      · refine ⟨?_, ?_⟩
        · rw [amountOf, List.map_singleton, List.sum_singleton, advanceBill, money_of_mem exact]
          ring
        · intro bill member
          rw [List.mem_singleton] at member
          rw [member]
          exact ⟨rfl, rfl⟩

theorem settleLine_settles {allocations : List InternalAllocation}
    (exact : ∀ row ∈ allocations, row.amount ∈ paise) (lineExact : line.amount ∈ paise)
    (quiet : Quiet ctx (settleLine input allocations line).2) : Settles input allocations line := by
  have rest : line.amount - allocatedTo allocations line ∈ paise :=
    sub_mem lineExact (allocatedTo_mem exact line)
  by_cases excess : line.amount < allocatedTo allocations line
  · rw [settleLine, if_pos excess] at quiet
    cases quiet _ List.mem_cons_self
  · have within := not_lt.mp excess
    by_cases demand : input.type.billwiseMode = .DEMAND
    · have shape : settleLine input allocations line =
          demandLine input line (allocatedTo allocations line) := by
        rw [settleLine, if_neg excess, if_pos demand]
      rw [shape] at quiet
      obtain ⟨sum, advances⟩ := demandLine_settles rest quiet
      rw [← shape] at sum advances
      exact ⟨within, fun _ => sum, fun other => absurd demand other,
        fun bill member => iff_of_true (advances bill member).1 demand,
        fun bill member => (advances bill member).2⟩
    · cases kind : input.type.raiseBillType.filter fun _ => raises input.type line with
      | none =>
          have shape : settleLine input allocations line = ([], []) := by
            simp only [settleLine, if_neg excess, if_neg demand, kind]
          have silent : raisesBill input.type line = false := by rw [raisesBill, kind]; rfl
          refine ⟨within, fun other => absurd other demand, ?_, ?_, ?_⟩
          · intro _
            rw [shape, silent]
            rfl
          · rw [shape]
            intro bill member
            cases member
          · rw [shape]
            intro bill member
            cases member
      | some billType =>
          have shape : (settleLine input allocations line).1 =
              [raisedBill input line billType] := by
            simp only [settleLine, if_neg excess, if_neg demand, kind]
          have raising : raisesBill input.type line = true := by rw [raisesBill, kind]; rfl
          refine ⟨within, fun other => absurd other demand, ?_, ?_, ?_⟩
          · intro _
            rw [shape, raising]
            exact List.sum_singleton
          · rw [shape]
            intro bill member
            rw [List.mem_singleton] at member
            rw [member]
            exact iff_of_false Bool.false_ne_true demand
          · rw [shape]
            intro bill member
            rw [List.mem_singleton] at member
            rw [member]
            rfl

/-! ## The voucher -/

/-- What the emitted allocations settle on a leg. -/
def allocatedOn (voucher : DerivedInternal) (leg : InternalLeg) : Decimal :=
  ((voucher.allocations.filter fun row => row.legRowNo = leg.rowNo).map (·.amount)).sum

/-- What the emitted bills are for on a leg. -/
def billedOn (voucher : DerivedInternal) (leg : InternalLeg) : Decimal :=
  amountOf (voucher.bills.filter fun bill => bill.legRowNo = leg.rowNo)

/-- What the emitted allocations take off a bill. -/
def emittedAgainst (key : Uuid × String) (voucher : DerivedInternal) : Decimal :=
  ((voucher.allocations.filter fun row => row.bill.key = key).map (·.amount)).sum

def isBillwise (leg : InternalLeg) : Bool := leg.ledger.facts.any (·.isBillByBill)

/-- Whether the type raises a bill for the party of a leg. -/
def raisesOn (type : VoucherTypeRules) (leg : InternalLeg) : Bool :=
  type.raiseBillType.isSome &&
    (type.billwiseMode = .RAISE || (type.billwiseMode = .OPTIONAL && isBillwise leg))

section Whole

variable {allocations : List InternalAllocation}

variable {line : PartyLine}

theorem LineOf.raises {leg : InternalLeg} (lineOf : LineOf line leg) :
    raisesBill input.type line = raisesOn input.type leg := by
  have shape : Vouchers.raises input.type line = (decide (input.type.billwiseMode = .RAISE) ||
      (decide (input.type.billwiseMode = .OPTIONAL) && line.ledger.isBillByBill)) := by
    simp [Vouchers.raises]
  rw [raisesBill, raisesOn, isBillwise, lineOf.facts, Option.any_some, ← shape]
  cases input.type.raiseBillType with
  | none => rfl
  | some billType =>
      cases raising : Vouchers.raises input.type line with
      | true => rfl
      | false => rfl

/-- An allocation names the leg of its line. -/
theorem filter_leg_eq (rows : (lines.map (·.lineRowNo)).Nodup)
    (numbers : (lines.map (·.legRowNo)).Nodup)
    (emitted : ∀ row ∈ allocations, ∃ line ∈ lines, row.lineRowNo = line.lineRowNo ∧
      row.legRowNo = line.legRowNo) (listed : line ∈ lines) :
    allocations.filter (fun row => row.legRowNo = line.legRowNo) =
      allocations.filter fun row => row.lineRowNo = line.lineRowNo := by
  apply List.filter_congr
  intro row member
  obtain ⟨other, otherListed, ofRow, ofLeg⟩ := emitted row member
  apply decide_eq_decide.mpr
  rw [ofRow, ofLeg]
  constructor
  · intro same
    rw [List.inj_on_of_nodup_map numbers otherListed listed same]
  · intro same
    rw [List.inj_on_of_nodup_map rows otherListed listed same]

/-- A bill names the leg of the line it is for. -/
theorem filter_bills_eq (numbers : (lines.map (·.legRowNo)).Nodup)
    (settles : ∀ line ∈ lines, Settles input allocations line) (listed : line ∈ lines) :
    ((lines.map (settleLine input allocations)).flatMap Prod.fst).filter
        (fun bill => bill.legRowNo = line.legRowNo) = (settleLine input allocations line).1 := by
  have pairs : List.Forall₂ (fun line block => line ∈ lines ∧
      block = (settleLine input allocations line).1) lines
      (lines.map fun line => (settleLine input allocations line).1) := by
    rw [List.forall₂_map_right_iff, List.forall₂_same]
    exact fun line listed => ⟨listed, rfl⟩
  have carries : ∀ line block, (line ∈ lines ∧ block = (settleLine input allocations line).1) →
      ∀ bill ∈ block, bill.legRowNo = line.legRowNo := by
    intro line block owns bill member
    rw [owns.2] at member
    exact (settles line owns.1).legRowNo bill member
  obtain ⟨block, owns, found⟩ := ListSum.filter_flatten_key numbers carries pairs listed
  rw [List.flatMap_map, List.flatMap_def, found, owns.2]

/-- The bill-wise step of a voucher that refuses nothing. -/
theorem deriveBills_ok {moneyMode : BillSettlementMode} {billwise : Billwise} {ctx : GuardContext}
    (ok : deriveBills input moneyMode lines = .ok billwise) (quiet : Quiet ctx billwise.notes) :
    (input.type.billwiseMode = .OFF ∧ billwise.bills = [] ∧ billwise.allocations = []) ∨
      input.type.billwiseMode ≠ .OFF ∧ ∃ run, Allocating input lines input.allocations run ∧
        billwise.allocations = run.allocations ∧
        billwise.bills = (lines.map (settleLine input run.allocations)).flatMap Prod.fst ∧
        ∀ line ∈ lines, Quiet ctx (settleLine input run.allocations line).2 := by
  rw [deriveBills] at ok
  split at ok
  · next off =>
      cases ok
      exact Or.inl ⟨off, rfl, rfl⟩
  · next on =>
    obtain ⟨run, ran, made⟩ := Fold.bind_eq_ok ok
    cases made
    obtain ⟨allocated, settled⟩ := quiet_append.mp quiet
    refine Or.inr ⟨on, run, allocate_run ran allocated, rfl, rfl, ?_⟩
    intro line listed note member
    apply settled
    rw [List.flatMap_map]
    exact List.mem_flatMap.mpr ⟨line, listed, member⟩

end Whole

/-- What the bills and allocations of a voucher come to, leg by leg and bill by bill. -/
structure BillwiseLaw (input : DeriveInput) (voucher : DerivedInternal) : Prop where
  off : input.type.billwiseMode = .OFF → voucher.bills = [] ∧ voucher.allocations = []
  /-- Where bills are demanded the bill of a leg is its advance. -/
  demanded : input.type.billwiseMode = .DEMAND → ∀ leg ∈ voucher.legs,
    isPartyLeg input.type leg = true → allocatedOn voucher leg + billedOn voucher leg = leg.amount
  advances : ∀ bill ∈ voucher.bills,
    (bill.isAdvance = true ↔ input.type.billwiseMode = .DEMAND)
  raised : input.type.billwiseMode = .RAISE ∨ input.type.billwiseMode = .OPTIONAL →
    ∀ leg ∈ voucher.legs, isPartyLeg input.type leg = true →
      allocatedOn voucher leg ≤ leg.amount ∧
        billedOn voucher leg = if raisesOn input.type leg then leg.amount else 0
  /-- Every allocation is emitted. -/
  emitted : input.type.billwiseMode ≠ .OFF →
    voucher.allocations.map (fun row => (row.index, row.amount)) =
      input.allocations.map fun a => (a.index, money a.amount)
  pending : ∀ row ∈ voucher.allocations,
    typedAgainst row.bill.key input.allocations ≤ row.bill.pendingAmount
  pendingEmitted : (∀ a ∈ input.allocations, a.amount ∈ paise) → ∀ row ∈ voucher.allocations,
    emittedAgainst row.bill.key voucher ≤ row.bill.pendingAmount

variable {allocations : List AllocationInput}

theorem emittedAgainst_eq {voucher : DerivedInternal} (exact : ∀ a ∈ allocations, a.amount ∈ paise)
    (emitted : List.Forall₂ (Emits input lines) allocations voucher.allocations)
    (key : Uuid × String) : emittedAgainst key voucher = typedAgainst key allocations := by
  rw [emittedAgainst, typedAgainst]
  generalize voucher.allocations = rows at emitted ⊢
  induction emitted with
  | nil => rfl
  | @cons a row rest rows emits _ ih =>
      have others := ih fun a member => exact a (List.mem_cons_of_mem _ member)
      obtain ⟨line, names, _⟩ := emits.names
      have figure : row.amount = a.amount := by
        rw [emits.amount, money_of_mem (exact a List.mem_cons_self)]
      by_cases same : a.key = key
      · simp [names.key, same, figure, others]
      · simp [names.key, same, others]

theorem emitted_eq (emitted : List.Forall₂ (Emits input lines) allocations rows) :
    rows.map (fun row => (row.index, row.amount)) =
      allocations.map fun a => (a.index, money a.amount) := by
  induction emitted with
  | nil => rfl
  | cons emits _ ih => rw [List.map_cons, List.map_cons, emits.index, emits.amount, ih]

theorem emitted_exact (emitted : List.Forall₂ (Emits input lines) allocations rows)
    {row : InternalAllocation} (member : row ∈ rows) : row.amount ∈ paise := by
  obtain ⟨a, _, emits⟩ := Fold.forall₂_right emitted member
  rw [emits.amount]
  exact money_mem _

section Law

variable {voucher : DerivedInternal} {run : AllocationRun}

theorem BillwiseLaw.of_off (off : input.type.billwiseMode = .OFF) (bills : voucher.bills = [])
    (allocations : voucher.allocations = []) : BillwiseLaw input voucher := by
  constructor
  · exact fun _ => ⟨bills, allocations⟩
  · intro demand
    rw [off] at demand
    cases demand
  · intro bill member
    rw [bills] at member
    cases member
  · intro raising
    rw [off] at raising
    cases raising with
    | inl raise => cases raise
    | inr optional => cases optional
  · exact fun on => absurd off on
  · intro row member
    rw [allocations] at member
    cases member
  · intro _ row member
    rw [allocations] at member
    cases member

/-- A voucher whose party lines are settled without a refusal. -/
structure SettledLines (input : DeriveInput) (voucher : DerivedInternal) (lines : List PartyLine)
    (run : AllocationRun) : Prop where
  rows : (lines.map (·.lineRowNo)).Nodup
  numbers : (lines.map (·.legRowNo)).Nodup
  ofLeg : ∀ leg ∈ voucher.legs, isPartyLeg input.type leg = true → ∃ line ∈ lines, LineOf line leg
  allocating : Allocating input lines input.allocations run
  allocations : voucher.allocations = run.allocations
  bills : voucher.bills = (lines.map (settleLine input run.allocations)).flatMap Prod.fst
  settles : ∀ line ∈ lines, Settles input run.allocations line

namespace SettledLines

variable {leg : InternalLeg} {line : PartyLine}

theorem allocatedOn_eq (settled : SettledLines input voucher lines run) (listed : line ∈ lines)
    (lineOf : LineOf line leg) : allocatedOn voucher leg = allocatedTo run.allocations line := by
  have named : ∀ row ∈ run.allocations, ∃ line ∈ lines, row.lineRowNo = line.lineRowNo ∧
      row.legRowNo = line.legRowNo := by
    intro row member
    obtain ⟨a, _, emits⟩ := Fold.forall₂_right settled.allocating.emitted member
    obtain ⟨other, names, ofRow, ofLeg⟩ := emits.names
    exact ⟨other, names.listed, ofRow, ofLeg⟩
  rw [allocatedOn, settled.allocations, ← lineOf.rowNo,
    filter_leg_eq settled.rows settled.numbers named listed]
  rfl

theorem billedOn_eq (settled : SettledLines input voucher lines run) (listed : line ∈ lines)
    (lineOf : LineOf line leg) :
    billedOn voucher leg = amountOf (settleLine input run.allocations line).1 := by
  rw [billedOn, settled.bills, ← lineOf.rowNo,
    filter_bills_eq settled.numbers settled.settles listed]

theorem law (settled : SettledLines input voucher lines run)
    (on : input.type.billwiseMode ≠ .OFF) : BillwiseLaw input voucher := by
  constructor
  · exact fun off => absurd off on
  · intro demand leg member isParty
    obtain ⟨line, listed, lineOf⟩ := settled.ofLeg leg member isParty
    rw [settled.allocatedOn_eq listed lineOf, settled.billedOn_eq listed lineOf, ← lineOf.amount]
    exact (settled.settles line listed).demanded demand
  · intro bill member
    rw [settled.bills, List.flatMap_map] at member
    obtain ⟨line, listed, inLine⟩ := List.mem_flatMap.mp member
    exact (settled.settles line listed).advances bill inLine
  · intro raising leg member isParty
    obtain ⟨line, listed, lineOf⟩ := settled.ofLeg leg member isParty
    have notDemand : input.type.billwiseMode ≠ .DEMAND := by
      intro demand
      rw [demand] at raising
      cases raising with
      | inl raise => cases raise
      | inr optional => cases optional
    rw [settled.allocatedOn_eq listed lineOf, settled.billedOn_eq listed lineOf, ← lineOf.amount,
      ← lineOf.raises]
    exact ⟨(settled.settles line listed).within, (settled.settles line listed).raised notDemand⟩
  · intro _
    rw [settled.allocations]
    exact emitted_eq settled.allocating.emitted
  · intro row member
    rw [settled.allocations] at member
    exact settled.allocating.within row member
  · intro exactTyped row member
    have emitted : List.Forall₂ (Emits input lines) input.allocations voucher.allocations := by
      rw [settled.allocations]
      exact settled.allocating.emitted
    rw [settled.allocations] at member
    rw [emittedAgainst_eq exactTyped emitted]
    exact settled.allocating.within row member

end SettledLines

end Law

/-- Every voucher that refuses nothing is settled bill by bill as its type says: where bills are
demanded the allocations and the advance of a party's leg come to it, where one is raised it is
for the whole leg, and no bill is allocated more than it has pending. -/
theorem bills_settle_legs {derived : Derived} (ok : derive cases input = .ok derived)
    (accepted : derived.Accepted input.ctx) : BillwiseLaw input derived.voucher := by
  obtain ⟨one, many, billwise, ran⟩ := derive_ran ok
  have quiet := ran.quiet accepted
  obtain ⟨rows, exact, oneCredits, manyCredits⟩ := ran.typed quiet
  have result := deriveBills_ok ran.bills_ok quiet.bills
  rw [ran.derived_eq]
  rcases result with ⟨off, bills, allocations⟩ | ⟨on, run, allocating, allocations, bills, settled⟩
  · exact .of_off off bills allocations
  · obtain ⟨lineRows, numbers⟩ := @partyLines_nodup input.type
      (bandsOf cases input one many).balancing.party many.typed rows
    have whole : SettledLines input
        (assemble input (bandsOf cases input one many) billwise).voucher
        ((bandsOf cases input one many).lines input.type) run := by
      refine ⟨lineRows, numbers, ?_, allocating, allocations, bills, ?_⟩
      · intro leg member isParty
        exact lineOf_partyLeg oneCredits manyCredits member isParty
      · intro line listed
        exact settleLine_settles (fun row member => emitted_exact allocating.emitted member)
          (partyLines_exact exact listed) (settled line listed)
    exact whole.law on

/-! ## A purchase that adjusts an advance -/

private theorem purchase_named (_ : BillwiseMode.RAISE = .RAISE) : some BillType.PURCHASE ≠ none :=
  Option.some_ne_none _

private def purchaseType : VoucherTypeRules where
  typeCode := "PurA"
  typeName := "Purchase (Accounting)"
  nature := .PURCHASE
  partyMode := .ONE
  partySide := .CR
  billwiseMode := .RAISE
  raiseBillType := some .PURCHASE
  drGroups := []
  crGroups := []
  gstRegister := none
  gstSide := none
  tdsMode := .OFF
  instruments := false
  raise_named := purchase_named

private def supplier : LedgerFacts :=
  { plainLedger 2 "Arasan Mills" with isParty := true, isBillByBill := true }

/-- What was paid ahead, still pending. -/
private def paidAhead : BillFacts :=
  ⟨8, "2026-2027", 2, .ADVANCE, "adv-8", .DR, 400, false, true, 1⟩

private theorem paidAhead_keyed {billId : Uuid} {year : String} {bill : BillFacts}
    (found : (if billId = 8 ∧ year = "2026-2027" then some paidAhead else none) = some bill) :
    bill.ablId = billId ∧ bill.ablAccYear = year := by
  split at found
  · next key =>
      cases found
      exact ⟨key.1.symm, key.2.symm⟩
  · cases found

/-- 1,000 bought of a supplier, 400 of it paid ahead. -/
private def purchase : DeriveInput :=
  { blank purchaseType with
    header := ⟨⟨2026, 9, 15⟩, some 2, none, false, some "B-17"⟩
    lines := [⟨1, .DR, 5, 1000, none, none, none, none, none⟩]
    allocations := [⟨0, 0, 8, "2026-2027", 400⟩]
    ledgers := fun _ => some (plainLedger 5 "Freight")
    party := some supplier
    bills := fun billId year => if billId = 8 ∧ year = "2026-2027" then some paidAhead else none
    bills_keyed := paidAhead_keyed }

private def accepts (input : DeriveInput) (derived : Derived) : Bool :=
  decide (derived.Accepted input.ctx)

theorem purchase_settles :
    ∃ derived, derive ⟨id, id⟩ purchase = .ok derived ∧ BillwiseLaw purchase derived.voucher := by
  have passes : (derive ⟨id, id⟩ purchase).toOption.any (accepts purchase) = true := by
    decide +kernel
  obtain ⟨derived, ok, accepted⟩ := exists_derived passes
  exact ⟨derived, ok, bills_settle_legs ok (of_decide_eq_true accepted)⟩

/-- A supplier's leg of 1,000 carries a bill of 1,000 and an adjustment of 400 besides. -/
theorem allocations_exceed_leg :
    ¬∀ (cases : Text.CaseMapping) (input : DeriveInput) (derived : Derived),
      derive cases input = .ok derived → derived.Accepted input.ctx →
        (∀ leg ∈ derived.voucher.legs, isPartyLeg input.type leg = true → isBillwise leg = true →
          allocatedOn derived.voucher leg + billedOn derived.voucher leg = leg.amount) ∧
        ∀ row ∈ derived.voucher.allocations,
          emittedAgainst row.bill.key derived.voucher ≤ row.bill.pendingAmount := by
  intro claimed
  have passes : (derive ⟨id, id⟩ purchase).toOption.any (fun derived =>
      accepts purchase derived && derived.voucher.legs.any fun leg =>
        isPartyLeg purchase.type leg && isBillwise leg &&
          decide (allocatedOn derived.voucher leg + billedOn derived.voucher leg ≠ leg.amount)) =
      true := by
    decide +kernel
  obtain ⟨derived, ok, checked⟩ := exists_derived passes
  rw [Bool.and_eq_true, List.any_eq_true] at checked
  obtain ⟨accepted, leg, member, differs⟩ := checked
  rw [Bool.and_eq_true, Bool.and_eq_true] at differs
  have whole := (claimed ⟨id, id⟩ purchase derived ok (of_decide_eq_true accepted)).1
  exact of_decide_eq_true differs.2 (whole leg member differs.1.1 differs.1.2)

end ErpServer.Vouchers
