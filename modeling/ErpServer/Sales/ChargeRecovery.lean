import ErpServer.Sales.Legs
import ErpServer.Lib.ListSum

/-!
# An order charge split across bills

What each charge of an order gives the bill that takes some of its lines, and what the
bill then adds to the charge as carried.
-/

namespace ErpServer.Sales

open Lib
open Receipt (Decimal paise)

/-- How much of an order charge a bill takes. -/
inductive ChargeCarryBasis where
  | PRORATA
  | FULL
  | MANUAL
  | NONE
  deriving DecidableEq, Repr

/-- A charge row of an order.  What is carried is money, the amount has four places. -/
structure OrderCharge where
  cdId : String
  cdAccYear : String
  cdChgId : Option String
  cdChgName : Option String
  cdAmount : Decimal
  cdCarriedAmt : Decimal
  cdCarryBasis : Option ChargeCarryBasis

structure OrderItem where
  soiId : String
  soiTaxableAmt : Decimal

/-- An order: its live lines, and its live charges in serial order, each under an id of
its own. -/
structure Order where
  items : List OrderItem
  charges : List OrderCharge
  itemKeys : (items.map OrderItem.soiId).Nodup
  chargeKeys : (charges.map OrderCharge.cdId).Nodup

/-- A line of a bill, under the order line it takes. -/
structure CarryLine where
  srcLineId : String
  taxableAmt : Decimal
  deriving DecidableEq

/-- One order charge, as offered to a bill. -/
structure ChargeCarryProposal where
  srcChargeId : String
  srcAccYear : String
  chargeId : Option String
  chargeName : Option String
  amount : Decimal
  alreadyCarried : Decimal
  remaining : Decimal
  basis : ChargeCarryBasis
  proposed : Decimal
  completesOrder : Bool

/-- A charge row of a bill that points back at one of the order. -/
structure ChargeCarryRow where
  srcChargeId : Option String
  amount : Decimal

/-- A carry past the charge of the order. -/
structure CarryRefusal where
  code : String
  field : String
  chargeId : String
  after : Decimal
  amount : Decimal

def CHARGE_OVER_CARRY : String := "SALES_CHARGE_OVER_CARRY"

/-! ## The proposal -/

def Order.taxable (order : Order) : Decimal := (order.items.map OrderItem.soiTaxableAmt).sum

def taxableOf (lines : List CarryLine) : Decimal := (lines.map CarryLine.taxableAmt).sum

/-- No line of the order is open but those the bill takes. -/
def completesOrder (order : Order) (billLines : List CarryLine) : Bool :=
  (order.items.filter fun item => item.soiId ∉ billLines.map CarryLine.srcLineId).length = 0

def OrderCharge.basis (charge : OrderCharge) (defaultBasis : Option ChargeCarryBasis) :
    ChargeCarryBasis :=
  charge.cdCarryBasis.getD (defaultBasis.getD .PRORATA)

def OrderCharge.remaining (charge : OrderCharge) : Decimal :=
  round2 (charge.cdAmount - charge.cdCarriedAmt)

/-- The part of a charge that falls to a bill, before it is rounded. -/
def exactShare (order : Order) (amount : Decimal) (billLines : List CarryLine) : Decimal :=
  amount * taxableOf billLines / order.taxable

/-- The arithmetic share of a bill in a charge. -/
def share (order : Order) (amount : Decimal) (billLines : List CarryLine) : Decimal :=
  if 0 < order.taxable then round2 (exactShare order amount billLines) else 0

/-- What one charge gives the bill. -/
def proposeCharge (order : Order) (billLines : List CarryLine)
    (defaultBasis : Option ChargeCarryBasis) (charge : OrderCharge) : ChargeCarryProposal :=
  let basis := charge.basis defaultBasis
  let completes := completesOrder order billLines
  let proposed : Decimal :=
    match basis with
    -- The first bill takes it all; every later one sees nothing left.
    | .FULL => charge.remaining
    | .NONE => 0
    | .MANUAL => 0
    | .PRORATA =>
        if completes then charge.remaining
        else min charge.remaining (share order charge.cdAmount billLines)
  { srcChargeId := charge.cdId
    srcAccYear := charge.cdAccYear
    chargeId := charge.cdChgId
    chargeName := charge.cdChgName
    amount := charge.cdAmount
    alreadyCarried := charge.cdCarriedAmt
    remaining := charge.remaining
    basis := basis
    proposed := max 0 proposed
    completesOrder := completes }

def propose (order : Order) (billLines : List CarryLine)
    (defaultBasis : Option ChargeCarryBasis) : List ChargeCarryProposal :=
  order.charges.map (proposeCharge order billLines defaultBasis)

/-! ## The carry -/

/-- The moves of several bill rows on one charge, netted. -/
def netMoves (sign : Decimal) (rows : List (String × Decimal)) : OrderedMap String Decimal :=
  rows.foldl (fun delta row =>
    delta.set row.1 (round2 ((delta.get? row.1).getD 0 + sign * row.2))) .empty

/-- Refuse a move that would carry a charge past its amount. -/
def checkMove (order : Order) (move : String × Decimal) : Except CarryRefusal Unit :=
  match order.charges.find? fun charge => charge.cdId = move.1 with
  | none => .ok ()
  | some src =>
      let after := round2 (src.cdCarriedAmt + move.2)
      if src.cdAmount + 1 / 1000000000 < after then
        .error {
          code := CHARGE_OVER_CARRY
          field := "charges"
          chargeId := move.1
          after := after
          amount := src.cdAmount }
      else
        .ok ()

def OrderCharge.carry (delta : OrderedMap String Decimal) (charge : OrderCharge) : OrderCharge :=
  { charge with cdCarriedAmt := charge.cdCarriedAmt + (delta.get? charge.cdId).getD 0 }

/-- Add every move to the charge it is for. -/
def Order.carry (order : Order) (delta : OrderedMap String Decimal) : Order where
  items := order.items
  charges := order.charges.map (OrderCharge.carry delta)
  itemKeys := order.itemKeys
  chargeKeys := by
    rw [List.map_map]
    exact order.chargeKeys

def move (order : Order) (rows : List (String × Decimal)) (sign : Decimal)
    (canOverride : Bool) : Except CarryRefusal Order := do
  let delta := netMoves sign rows
  if 0 < sign ∧ ¬canOverride then
    delta.entries.forM (checkMove order)
  .ok (order.carry delta)

/-- The rows that point at a charge and carry something. -/
def carrying (rows : List ChargeCarryRow) : List (String × Decimal) :=
  rows.filterMap fun row =>
    row.srcChargeId.bind fun id => if row.amount ≠ 0 then some (id, row.amount) else none

/-- Post: add what each bill charge took to its source row. -/
def consume (order : Order) (rows : List ChargeCarryRow) (canOverride : Bool) :
    Except CarryRefusal Order :=
  if carrying rows = [] then .ok order else move order (carrying rows) 1 canOverride

/-! ## A sequence of bills -/

/-- A bill against the order, and whether its user may override. -/
structure CarryBill where
  lines : List CarryLine
  canOverride : Bool

/-- The charge rows of a bill that takes what it was offered. -/
def taken (offered : List ChargeCarryProposal) : List ChargeCarryRow :=
  offered.map fun proposal => ⟨some proposal.srcChargeId, proposal.proposed⟩

/-- Bill after bill is offered the charges and carries what it was offered. -/
def carryBills (defaultBasis : Option ChargeCarryBasis) :
    Order → List CarryBill → Except CarryRefusal (List (List ChargeCarryProposal) × Order)
  | order, [] => .ok ([], order)
  | order, bill :: rest => do
      let offered := propose order bill.lines defaultBasis
      let carried ← consume order (taken offered) bill.canOverride
      let later ← carryBills defaultBasis carried rest
      .ok (offered :: later.1, later.2)

/-! ## Recovering an order charge

What a sequence of bills that takes the lines of an order carries of a charge shared in
proportion to them. -/

/-! ## One bill -/

theorem get?_netMoves_absent {sign : Decimal} {rows : List (String × Decimal)} {id : String}
    (absent : id ∉ rows.map Prod.fst) : (netMoves sign rows).get? id = none := by
  unfold netMoves
  induction rows using List.reverseRecOn with
  | nil => rfl
  | append_singleton earlier row ih =>
      simp only [List.map_append, List.map_cons, List.map_nil, List.mem_append, List.mem_singleton,
        not_or] at absent
      rw [List.foldl_append, List.foldl_cons, List.foldl_nil,
        OrderedMap.get?_set_of_ne _ _ absent.2]
      exact ih absent.1

/-- Rows on distinct charges net to themselves. -/
theorem get?_netMoves {sign : Decimal} {rows : List (String × Decimal)}
    (nodup : (rows.map Prod.fst).Nodup) {row : String × Decimal} (member : row ∈ rows) :
    (netMoves sign rows).get? row.1 = some (round2 (sign * row.2)) := by
  induction rows using List.reverseRecOn with
  | nil => cases member
  | append_singleton earlier last ih =>
      have fresh : last.1 ∉ earlier.map Prod.fst := by
        rw [List.map_append, List.nodup_append] at nodup
        intro before
        exact nodup.2.2 _ before _ (List.mem_singleton_self _) rfl
      have step : netMoves sign (earlier ++ [last]) = (netMoves sign earlier).set last.1
          (round2 (((netMoves sign earlier).get? last.1).getD 0 + sign * last.2)) := by
        unfold netMoves
        rw [List.foldl_append, List.foldl_cons, List.foldl_nil]
      rw [step]
      rcases List.mem_append.mp member with before | here
      · have other : row.1 ≠ last.1 := by
          intro same
          exact fresh (same ▸ List.mem_map_of_mem before)
        rw [OrderedMap.get?_set_of_ne _ _ other]
        apply ih _ before
        rw [List.map_append] at nodup
        exact nodup.of_append_left
      · obtain rfl := List.mem_singleton.mp here
        rw [OrderedMap.get?_set_self, get?_netMoves_absent fresh, Option.getD_none, zero_add]

theorem proposed_mem (order : Order) (billLines : List CarryLine)
    (defaultBasis : Option ChargeCarryBasis) (charge : OrderCharge) :
    (proposeCharge order billLines defaultBasis charge).proposed ∈ paise := by
  have bounded {value : Decimal} (exact : value ∈ paise) : max 0 value ∈ paise := by
    rcases max_choice 0 value with equal | equal
    · rw [equal]
      exact zero_mem _
    · rw [equal]
      exact exact
  have remaining : charge.remaining ∈ paise := Receipt.money_mem _
  have share : share order charge.cdAmount billLines ∈ paise := by
    unfold share
    split
    · exact Receipt.money_mem _
    · exact zero_mem _
  unfold proposeCharge
  apply bounded
  split
  · exact remaining
  · exact zero_mem _
  · exact zero_mem _
  · split
    · exact remaining
    · exact Grid.min_mem_grid remaining share

theorem carrying_taken (offered : List ChargeCarryProposal) :
    carrying (taken offered) = (offered.filter fun proposal => proposal.proposed ≠ 0).map
      fun proposal => (proposal.srcChargeId, proposal.proposed) := by
  induction offered with
  | nil => rfl
  | cons proposal rest ih =>
      unfold carrying taken at ih ⊢
      rw [List.map_cons]
      by_cases zero : proposal.proposed = 0
      · simp only [List.filterMap_cons, Option.bind_some, zero, ne_eq, not_true_eq_false,
          ↓reduceIte, decide_false, Bool.false_eq_true, not_false_eq_true, List.filter_cons_of_neg]
        exact ih
      · simp only [List.filterMap_cons, Option.bind_some, zero, ne_eq, not_false_eq_true,
          ↓reduceIte, decide_true, List.filter_cons_of_pos, List.map_cons, List.cons.injEq, true_and]
        exact ih

/-- The moves of a bill that takes what it is offered move every charge by what it is
offered of it. -/
theorem getD_netMoves_taken (order : Order) (billLines : List CarryLine)
    (defaultBasis : Option ChargeCarryBasis) {charge : OrderCharge}
    (member : charge ∈ order.charges) :
    ((netMoves 1 (carrying (taken (propose order billLines defaultBasis)))).get?
      charge.cdId).getD 0 = (proposeCharge order billLines defaultBasis charge).proposed := by
  rw [carrying_taken]
  set proposal := proposeCharge order billLines defaultBasis charge with proposalEq
  have offered : proposal ∈ propose order billLines defaultBasis := List.mem_map_of_mem member
  have keys : (propose order billLines defaultBasis).map ChargeCarryProposal.srcChargeId =
      order.charges.map OrderCharge.cdId := by
    unfold propose
    rw [List.map_map]
    rfl
  have nodup : ((propose order billLines defaultBasis).map
      ChargeCarryProposal.srcChargeId).Nodup := keys ▸ order.chargeKeys
  by_cases zero : proposal.proposed = 0
  · rw [get?_netMoves_absent, Option.getD_none, zero]
    rw [List.map_map]
    intro present
    obtain ⟨other, otherMember, same⟩ := List.mem_map.mp present
    rw [List.mem_filter] at otherMember
    have equal : other = proposal :=
      List.inj_on_of_nodup_map nodup otherMember.1 offered same
    rw [equal] at otherMember
    simp [zero] at otherMember
  · have row : (proposal.srcChargeId, proposal.proposed) ∈
        ((propose order billLines defaultBasis).filter fun offer => offer.proposed ≠ 0).map
          fun offer => (offer.srcChargeId, offer.proposed) := by
      refine List.mem_map.mpr ⟨proposal, List.mem_filter.mpr ⟨offered, ?_⟩, rfl⟩
      simpa using zero
    have rowKeys : ((((propose order billLines defaultBasis).filter fun offer =>
        offer.proposed ≠ 0).map fun offer => (offer.srcChargeId, offer.proposed)).map
          Prod.fst).Nodup := by
      rw [List.map_map]
      exact nodup.sublist (List.filter_sublist.map _)
    have found := @get?_netMoves 1 _ rowKeys _ row
    have id : charge.cdId = proposal.srcChargeId := rfl
    rw [id, found, Option.getD_some, one_mul]
    exact Receipt.money_of_mem (proposed_mem order billLines defaultBasis charge)

/-- A charge after a bill took what it was offered of it. -/
def OrderCharge.after (order : Order) (billLines : List CarryLine)
    (defaultBasis : Option ChargeCarryBasis) (charge : OrderCharge) : OrderCharge :=
  { charge with
    cdCarriedAmt := charge.cdCarriedAmt +
      (proposeCharge order billLines defaultBasis charge).proposed }

variable {billLines : List CarryLine} {defaultBasis : Option ChargeCarryBasis}
variable {carried final order : Order} {bill : CarryBill} {bills : List CarryBill}

/-- What a bill that takes what it is offered leaves behind. -/
theorem consume_taken {canOverride : Bool}
    (accepted : consume order (taken (propose order billLines defaultBasis)) canOverride =
      .ok carried) : carried.items = order.items ∧
      carried.charges = order.charges.map (OrderCharge.after order billLines defaultBasis) := by
  have charges : order.charges.map (OrderCharge.carry
      (netMoves 1 (carrying (taken (propose order billLines defaultBasis))))) =
        order.charges.map (OrderCharge.after order billLines defaultBasis) := by
    apply List.map_congr_left
    intro charge member
    unfold OrderCharge.carry OrderCharge.after
    rw [getD_netMoves_taken order billLines defaultBasis member]
  unfold consume at accepted
  split at accepted
  · next nothing =>
      cases accepted
      refine ⟨rfl, ?_⟩
      rw [← charges, nothing]
      symm
      apply List.map_id''
      intro charge
      unfold OrderCharge.carry netMoves
      simp
  · unfold move at accepted
    split at accepted
    · obtain ⟨_, -, rest⟩ := Fold.bind_eq_ok accepted
      cases rest
      exact ⟨rfl, charges⟩
    · cases accepted
      exact ⟨rfl, charges⟩

/-! ## A sequence of bills -/

/-- What a bill was offered of one charge. -/
def offeredOf (cdId : String) (offered : List ChargeCarryProposal) : Decimal :=
  ((offered.filter fun proposal => proposal.srcChargeId = cdId).map
    ChargeCarryProposal.proposed).sum

theorem offeredOf_propose {charge : OrderCharge} (billLines : List CarryLine)
    (defaultBasis : Option ChargeCarryBasis) (member : charge ∈ order.charges) :
    offeredOf charge.cdId (propose order billLines defaultBasis) =
      (proposeCharge order billLines defaultBasis charge).proposed := by
  unfold offeredOf propose
  rw [List.filter_map]
  have own : order.charges.filter ((fun proposal : ChargeCarryProposal =>
      proposal.srcChargeId = charge.cdId) ∘ proposeCharge order billLines defaultBasis) =
        [charge] :=
    ListSum.filter_key_eq order.chargeKeys member
  rw [own]
  simp

variable {offers : List (List ChargeCarryProposal)}

/-- One bill of a run that was accepted. -/
theorem carryBills_cons {rest : List CarryBill}
    (accepted : carryBills defaultBasis order (bill :: rest) = .ok (offers, final)) :
    ∃ carried later, carried.items = order.items ∧
      carried.charges = order.charges.map (OrderCharge.after order bill.lines defaultBasis) ∧
      carryBills defaultBasis carried rest = .ok (later, final) ∧
      offers = propose order bill.lines defaultBasis :: later := by
  unfold carryBills at accepted
  obtain ⟨carried, consumed, accepted⟩ := Fold.bind_eq_ok accepted
  obtain ⟨later, run, accepted⟩ := Fold.bind_eq_ok accepted
  obtain ⟨items, charges⟩ := consume_taken consumed
  cases accepted
  exact ⟨carried, later.1, items, charges, run, rfl⟩

/-- What the bills of a run carried of one charge. -/
def carriedOf (cdId : String) (offers : List (List ChargeCarryProposal)) : Decimal :=
  (offers.map (offeredOf cdId)).sum

/-- Whatever is carried is money. -/
theorem carriedOf_mem {charge : OrderCharge} (member : charge ∈ order.charges)
    (accepted : carryBills defaultBasis order bills = .ok (offers, final)) :
    carriedOf charge.cdId offers ∈ paise := by
  induction bills generalizing order offers charge with
  | nil =>
      cases accepted
      exact zero_mem _
  | cons bill rest ih =>
      obtain ⟨carried, later, -, charges, run, rfl⟩ := carryBills_cons accepted
      have moved : charge.after order bill.lines defaultBasis ∈ carried.charges := by
        rw [charges]
        exact List.mem_map_of_mem member
      have first := proposed_mem order bill.lines defaultBasis charge
      rw [← offeredOf_propose bill.lines defaultBasis member] at first
      have others := ih moved run
      exact add_mem first others

/-- What a charge has left, shared out by a bill that leaves lines open. -/
theorem proposed_of_open {charge : OrderCharge} (prorata : charge.basis defaultBasis = .PRORATA)
    (leaves : completesOrder order billLines = false) :
    (proposeCharge order billLines defaultBasis charge).proposed =
      max 0 (min charge.remaining (share order charge.cdAmount billLines)) := by
  unfold proposeCharge
  simp [prorata, leaves]

theorem proposed_le_share {charge : OrderCharge} (prorata : charge.basis defaultBasis = .PRORATA)
    (leaves : completesOrder order billLines = false)
    (nonneg : 0 ≤ share order charge.cdAmount billLines) :
    (proposeCharge order billLines defaultBasis charge).proposed ≤
      share order charge.cdAmount billLines := by
  rw [proposed_of_open prorata leaves]
  exact max_le nonneg (min_le_right _ _)

/-- A share depends on the lines of the order alone. -/
theorem share_congr (items : carried.items = order.items) (amount : Decimal)
    (billLines : List CarryLine) :
    share carried amount billLines = share order amount billLines := by
  unfold share exactShare Order.taxable
  rw [items]

theorem completesOrder_congr (items : carried.items = order.items) (billLines : List CarryLine) :
    completesOrder carried billLines = completesOrder order billLines := by
  unfold completesOrder
  rw [items]

/-- Bills none of which takes every line carry the shares, until nothing is left. -/
theorem carriedOf_of_open {charge : OrderCharge} (member : charge ∈ order.charges)
    (prorata : charge.basis defaultBasis = .PRORATA) (exactAmount : charge.cdAmount ∈ paise)
    (exactCarried : charge.cdCarriedAmt ∈ paise) (within : charge.cdCarriedAmt ≤ charge.cdAmount)
    (leave : ∀ bill ∈ bills, completesOrder order bill.lines = false)
    (nonneg : ∀ bill ∈ bills, 0 ≤ share order charge.cdAmount bill.lines)
    (accepted : carryBills defaultBasis order bills = .ok (offers, final)) :
    carriedOf charge.cdId offers = min (charge.cdAmount - charge.cdCarriedAmt)
      (bills.map fun bill => share order charge.cdAmount bill.lines).sum := by
  induction bills generalizing order offers charge with
  | nil =>
      cases accepted
      exact (min_eq_right (sub_nonneg.mpr within)).symm
  | cons bill rest ih =>
      obtain ⟨carried, later, items, charges, run, rfl⟩ := carryBills_cons accepted
      have moved : charge.after order bill.lines defaultBasis ∈ carried.charges := by
        rw [charges]
        exact List.mem_map_of_mem member
      set left := charge.cdAmount - charge.cdCarriedAmt with leftEq
      set first := share order charge.cdAmount bill.lines with firstEq
      have firstNonneg : 0 ≤ first := nonneg bill List.mem_cons_self
      have leftNonneg : 0 ≤ left := sub_nonneg.mpr within
      have remaining : charge.remaining = left :=
        Receipt.money_of_mem (sub_mem exactAmount exactCarried)
      have offered : (proposeCharge order bill.lines defaultBasis charge).proposed =
          min left first := by
        rw [proposed_of_open prorata (leave bill List.mem_cons_self), remaining]
        exact max_eq_right (le_min leftNonneg firstNonneg)
      have exactOffer := proposed_mem order bill.lines defaultBasis charge
      have rest' : carriedOf charge.cdId later = min (left - min left first)
          (rest.map fun bill => share order charge.cdAmount bill.lines).sum := by
        have after := @ih carried later (charge.after order bill.lines defaultBasis) moved prorata
          exactAmount (add_mem exactCarried exactOffer)
          (by
            have most := min_le_left left first
            unfold OrderCharge.after
            simp only [offered]
            linarith)
          (fun other otherMember => by
            rw [completesOrder_congr items]
            exact leave other (List.mem_cons_of_mem _ otherMember))
          (fun other otherMember => by
            rw [share_congr items]
            exact nonneg other (List.mem_cons_of_mem _ otherMember)) run
        have shares : (rest.map fun bill => share carried charge.cdAmount bill.lines) =
            rest.map fun bill => share order charge.cdAmount bill.lines := by
          apply List.map_congr_left
          intro other _
          exact share_congr items _ _
        unfold OrderCharge.after at after
        simp only [offered, shares] at after
        rw [after]
        congr 1
        rw [leftEq]
        ring
      have restNonneg : 0 ≤ (rest.map fun bill => share order charge.cdAmount bill.lines).sum := by
        apply List.sum_nonneg
        intro amount amountMember
        obtain ⟨other, otherMember, rfl⟩ := List.mem_map.mp amountMember
        exact nonneg other (List.mem_cons_of_mem _ otherMember)
      have total : carriedOf charge.cdId (propose order bill.lines defaultBasis :: later) =
          min left first + carriedOf charge.cdId later := by
        unfold carriedOf
        rw [List.map_cons, List.sum_cons, offeredOf_propose bill.lines defaultBasis member, offered]
      rw [total, rest', List.map_cons, List.sum_cons, ← firstEq]
      rcases le_total left first with all | some
      · rw [min_eq_left all, sub_self, min_eq_left restNonneg, add_zero]
        exact (min_eq_left (by linarith)).symm
      · rw [min_eq_right some, ← min_add_add_left]
        congr 1
        ring

/-- No bill that leaves lines open is offered more than its share. -/
theorem offered_within_shares {charge : OrderCharge} (member : charge ∈ order.charges)
    (prorata : charge.basis defaultBasis = .PRORATA)
    (leave : ∀ bill ∈ bills, completesOrder order bill.lines = false)
    (nonneg : ∀ bill ∈ bills, 0 ≤ share order charge.cdAmount bill.lines)
    (accepted : carryBills defaultBasis order bills = .ok (offers, final)) :
    ∀ pair ∈ bills.zip offers,
      offeredOf charge.cdId pair.2 ≤ share order charge.cdAmount pair.1.lines := by
  induction bills generalizing order offers charge with
  | nil =>
      intro pair within
      simp at within
  | cons bill rest ih =>
      obtain ⟨carried, later, items, charges, run, rfl⟩ := carryBills_cons accepted
      have moved : charge.after order bill.lines defaultBasis ∈ carried.charges := by
        rw [charges]
        exact List.mem_map_of_mem member
      intro pair within
      rw [List.zip_cons_cons] at within
      rcases List.mem_cons.mp within with rfl | within
      · rw [offeredOf_propose bill.lines defaultBasis member]
        exact proposed_le_share prorata (leave bill List.mem_cons_self)
          (nonneg bill List.mem_cons_self)
      · have after := @ih carried later (charge.after order bill.lines defaultBasis) moved prorata
          (fun other otherMember => by
            rw [completesOrder_congr items]
            exact leave other (List.mem_cons_of_mem _ otherMember))
          (fun other otherMember => by
            rw [share_congr items]
            exact nonneg other (List.mem_cons_of_mem _ otherMember)) run pair within
        rw [share_congr items] at after
        exact after

/-! ## Bills that split an order -/

/-- The line of a bill that takes a line of the order whole. -/
def OrderItem.line (item : OrderItem) : CarryLine := ⟨item.soiId, item.soiTaxableAmt⟩

/-- The bills take every line of the order exactly once, and none takes nothing. -/
structure Splits (order : Order) (bills : List CarryBill) : Prop where
  lines : (bills.flatMap CarryBill.lines).Perm (order.items.map OrderItem.line)
  nonempty : ∀ bill ∈ bills, bill.lines ≠ []

/-- A bill that leaves no line to the others is the only one. -/
theorem Splits.leaves_open (splits : Splits order bills) (member : bill ∈ bills)
    (several : bills.length ≠ 1) : completesOrder order bill.lines = false := by
  obtain ⟨before, after, rfl⟩ := List.append_of_mem member
  have other : ∃ other ∈ before ++ after, other.lines ≠ [] := by
    rcases List.eq_nil_or_concat (before ++ after) with none | ⟨rest, last, equal⟩
    · obtain ⟨rfl, rfl⟩ := List.append_eq_nil_iff.mp none
      simp at several
    · have lastMember : last ∈ before ++ after := by simp [equal]
      refine ⟨last, lastMember, splits.nonempty last ?_⟩
      rcases List.mem_append.mp lastMember with here | here
      · exact List.mem_append_left _ here
      · exact List.mem_append_right _ (List.mem_cons_of_mem _ here)
  obtain ⟨other, otherMember, nonempty⟩ := other
  obtain ⟨line, lineMember⟩ := List.exists_mem_of_ne_nil _ nonempty
  have perm : (before ++ bill :: after).Perm (bill :: (before ++ after)) := List.perm_middle
  have keys : (((bill :: (before ++ after)).flatMap CarryBill.lines).map
      CarryLine.srcLineId).Nodup := by
    have whole := ((perm.flatMap_right CarryBill.lines).symm.trans splits.lines).map
      CarryLine.srcLineId
    rw [whole.nodup_iff, List.map_map]
    exact order.itemKeys
  rw [List.flatMap_cons, List.map_append, List.nodup_append] at keys
  have later : line ∈ (before ++ after).flatMap CarryBill.lines :=
    List.mem_flatMap.mpr ⟨other, otherMember, lineMember⟩
  have untaken : line.srcLineId ∉ bill.lines.map CarryLine.srcLineId := fun here =>
    keys.2.2 _ here _ (List.mem_map_of_mem later) rfl
  have ordered : line ∈ order.items.map OrderItem.line := by
    rw [← splits.lines.mem_iff, (perm.flatMap_right CarryBill.lines).mem_iff, List.flatMap_cons]
    exact List.mem_append_right _ later
  obtain ⟨item, itemMember, rfl⟩ := List.mem_map.mp ordered
  unfold completesOrder
  rw [decide_eq_false_iff_not, List.length_eq_zero_iff, ← ne_eq]
  apply List.ne_nil_of_mem (a := item)
  exact List.mem_filter.mpr ⟨itemMember, decide_eq_true untaken⟩

theorem Splits.completes (splits : Splits order [bill]) :
    completesOrder order bill.lines = true := by
  unfold completesOrder
  rw [decide_eq_true_eq, List.length_eq_zero_iff, List.filter_eq_nil_iff]
  intro item member
  rw [decide_eq_true_eq, not_not]
  have line : item.line ∈ [bill].flatMap CarryBill.lines :=
    splits.lines.mem_iff.mpr (List.mem_map_of_mem member)
  rw [List.flatMap_singleton] at line
  exact List.mem_map_of_mem line

theorem Splits.share_nonneg (splits : Splits order bills)
    (positive : ∀ item ∈ order.items, 0 < item.soiTaxableAmt) {amount : Decimal}
    (nonneg : 0 ≤ amount) (member : bill ∈ bills) : 0 ≤ share order amount bill.lines := by
  unfold share
  split
  · next more =>
      apply Receipt.money_nonneg
      apply div_nonneg (mul_nonneg nonneg ?_) more.le
      apply List.sum_nonneg
      intro taxable taxableMember
      obtain ⟨line, lineMember, rfl⟩ := List.mem_map.mp taxableMember
      have ordered := splits.lines.mem_iff.mp (List.mem_flatMap.mpr ⟨bill, member, lineMember⟩)
      obtain ⟨item, itemMember, rfl⟩ := List.mem_map.mp ordered
      exact (positive item itemMember).le
  · exact le_rfl

/-- The charge is recovered: the bills together carried exactly its amount, and none
before the last was offered more than its rounded share. -/
structure Recovered (order : Order) (bills : List CarryBill) (charge : OrderCharge)
    (offers : List (List ChargeCarryProposal)) : Prop where
  total : carriedOf charge.cdId offers = charge.cdAmount
  shares : ∀ pair ∈ (bills.zip offers).dropLast,
    offeredOf charge.cdId pair.2 ≤ share order charge.cdAmount pair.1.lines

def freight : OrderCharge where
  cdId := "freight"
  cdAccYear := "2026-2027"
  cdChgId := none
  cdChgName := some "Freight"
  cdAmount := 100
  cdCarriedAmt := 0
  cdCarryBasis := some .PRORATA

/-- A quarter of the order on one line, the rest on the other. -/
def quarterOrder : Order where
  items := [⟨"first", 100⟩, ⟨"second", 300⟩]
  charges := [freight]
  itemKeys := by decide
  chargeKeys := by decide

/-- Three equal lines. -/
def thirdsOrder : Order where
  items := [⟨"first", 100⟩, ⟨"second", 100⟩, ⟨"third", 100⟩]
  charges := [freight]
  itemKeys := by decide
  chargeKeys := by decide

/-- One bill for each line. -/
def perLine (order : Order) : List CarryBill :=
  order.items.map fun item => ⟨[item.line], false⟩

theorem perLine_splits (order : Order) : Splits order (perLine order) := by
  constructor
  · unfold perLine
    rw [List.flatMap_map, ← List.map_eq_flatMap]
  · intro bill member
    obtain ⟨item, -, rfl⟩ := List.mem_map.mp member
    exact List.cons_ne_nil _ _

end ErpServer.Sales
