import ErpServer.Vouchers.VoucherLegs

/-!
# What the allocations leave on a bill

Every allocation of a voucher that refuses nothing is emitted, rounded, against the bill it
names.  Against each bill the amounts as typed come to what is pending at most.
-/

namespace ErpServer.Vouchers

open Lib
open Receipt (Decimal DrCr BillSettlementMode Figure money money_mem money_of_mem paise)

variable {input : DeriveInput} {lines : List PartyLine} {moneyMode : BillSettlementMode}

/-- The bill an allocation names. -/
def AllocationInput.key (a : AllocationInput) : Uuid × String := (a.billId, a.billAccYear)

def BillFacts.key (bill : BillFacts) : Uuid × String := (bill.ablId, bill.ablAccYear)

/-- What is typed against a bill. -/
def typedAgainst (key : Uuid × String) (allocations : List AllocationInput) : Decimal :=
  ((allocations.filter fun a => a.key = key).map (·.amount)).sum

theorem typedAgainst_append (key : Uuid × String) (done : List AllocationInput)
    (a : AllocationInput) :
    typedAgainst key (done ++ [a]) =
      typedAgainst key done + if a.key = key then a.amount else 0 := by
  rw [typedAgainst, typedAgainst, List.filter_append, List.map_append, List.sum_append]
  by_cases same : a.key = key
  · simp [same]
  · simp [same]

/-- The party line and the bill of an allocation. -/
structure Names (input : DeriveInput) (lines : List PartyLine) (a : AllocationInput)
    (line : PartyLine) (bill : BillFacts) : Prop where
  listed : line ∈ lines
  lineRowNo : line.lineRowNo = a.lineRowNo
  positive : 0 < a.amount
  found : input.bills a.billId a.billAccYear = some bill
  party : bill.partyId = line.ledger.ledId
  side : bill.side ≠ line.side

variable {a : AllocationInput} {after before : AllocationRun}

variable {bill : BillFacts} {line : PartyLine} {ctx : GuardContext} {row : InternalAllocation}

theorem Names.key (names : Names input lines a line bill) : bill.key = a.key := by
  obtain ⟨ofId, ofYear⟩ := input.bills_keyed names.found
  rw [BillFacts.key, AllocationInput.key, ofId, ofYear]

theorem checkAllocation_ok (ok : checkAllocation input lines a = .ok (line, bill)) :
    Names input lines a line bill := by
  rw [checkAllocation] at ok
  split at ok
  · cases ok
  · next found lineFound =>
      split at ok
      · cases ok
      · next positive =>
          split at ok
          · cases ok
          · next live billFound =>
              split at ok
              · cases ok
              · next ofParty =>
                  split at ok
                  · cases ok
                  · next ofSide =>
                      cases ok
                      exact ⟨List.mem_of_find?_eq_some lineFound,
                        of_decide_eq_true (List.find?_some lineFound :), not_le.mp positive,
                        (Option.filter_eq_some_iff.mp billFound).1, not_not.mp ofParty, ofSide⟩

/-- The row an allocation is emitted as. -/
structure Emits (input : DeriveInput) (lines : List PartyLine) (a : AllocationInput)
    (row : InternalAllocation) : Prop where
  index : row.index = a.index
  amount : row.amount = money a.amount
  names : ∃ line, Names input lines a line row.bill ∧ row.lineRowNo = line.lineRowNo ∧
    row.legRowNo = line.legRowNo

/-- The run once these allocations are done. -/
structure Allocating (input : DeriveInput) (lines : List PartyLine) (done : List AllocationInput)
    (run : AllocationRun) : Prop where
  emitted : List.Forall₂ (Emits input lines) done run.allocations
  used : ∀ key, (run.perBill.get? key).getD 0 = typedAgainst key done
  within : ∀ row ∈ run.allocations, typedAgainst row.bill.key done ≤ row.bill.pendingAmount

/-- What an allocation that is not refused does to the run. -/
structure AllocationRun.Takes (input : DeriveInput) (lines : List PartyLine)
    (before : AllocationRun) (a : AllocationInput) (after : AllocationRun)
    (row : InternalAllocation) : Prop where
  emits : Emits input lines a row
  allocations : after.allocations = before.allocations ++ [row]
  perBill : after.perBill =
    before.perBill.set row.bill.key ((before.perBill.get? row.bill.key).getD 0 + a.amount)
  within : (before.perBill.get? row.bill.key).getD 0 + a.amount ≤ row.bill.pendingAmount

theorem allocate_notes (ok : allocate input moneyMode lines before a = .ok after) :
    ∃ more, after.notes = before.notes ++ more := by
  rw [allocate] at ok
  split at ok
  · cases ok
    exact ⟨_, rfl⟩
  · simp only at ok
    split at ok
    · split at ok
      · cases ok
        exact ⟨_, rfl⟩
      · cases ok
    · cases ok
      exact ⟨[], (List.append_nil _).symm⟩

theorem allocate_takes (ok : allocate input moneyMode lines before a = .ok after)
    (quiet : Quiet ctx after.notes) :
    ∃ row, AllocationRun.Takes input lines before a after row := by
  rw [allocate] at ok
  split at ok
  · cases ok
    exact absurd quiet not_quiet_append
  · next line bill checked =>
      have names := checkAllocation_ok checked
      simp only at ok
      split at ok
      · split at ok
        · cases ok
          exact absurd quiet not_quiet_append
        · cases ok
      · next fits =>
          cases ok
          exact ⟨internalAllocation input moneyMode a line bill,
            ⟨rfl, rfl, line, names, names.lineRowNo.symm, rfl⟩, rfl, rfl, not_lt.mp fits⟩

/-- Bills filed under one key are the same bill. -/
theorem Emits.bill_eq {other : AllocationInput} {otherRow : InternalAllocation}
    (emits : Emits input lines a row) (otherEmits : Emits input lines other otherRow)
    (same : row.bill.key = otherRow.bill.key) : row.bill = otherRow.bill := by
  obtain ⟨line, names, _⟩ := emits.names
  obtain ⟨otherLine, otherNames, _⟩ := otherEmits.names
  have keys : a.key = other.key := by rw [← names.key, ← otherNames.key, same]
  have ids := Prod.mk.inj keys
  have found := names.found
  rw [ids.1, ids.2, otherNames.found] at found
  exact (Option.some.inj found).symm

theorem Allocating.take {done : List AllocationInput} (held : Allocating input lines done before)
    (takes : AllocationRun.Takes input lines before a after row) :
    Allocating input lines (done ++ [a]) after := by
  obtain ⟨line, names, _⟩ := takes.emits.names
  constructor
  · rw [takes.allocations]
    exact List.rel_append held.emitted (.cons takes.emits .nil)
  · intro key
    rw [takes.perBill, OrderedMap.get?_set, typedAgainst_append, names.key]
    by_cases same : key = a.key
    · rw [if_pos same, if_pos same.symm, Option.getD_some, held.used, same]
    · rw [if_neg same, if_neg (Ne.symm same), held.used, add_zero]
  · intro other member
    rw [takes.allocations, List.mem_append, List.mem_singleton] at member
    rw [typedAgainst_append]
    have here : typedAgainst a.key done + a.amount ≤ row.bill.pendingAmount := by
      rw [← names.key, ← held.used]
      exact takes.within
    cases member with
    | inl earlier =>
        by_cases same : a.key = other.bill.key
        · obtain ⟨otherInput, _, otherEmits⟩ := Fold.forall₂_right held.emitted earlier
          have equal : row.bill = other.bill :=
            takes.emits.bill_eq otherEmits (names.key.trans same)
          rw [if_pos same, ← same, ← equal]
          exact here
        · rw [if_neg same, add_zero]
          exact held.within other earlier
    | inr new =>
        rw [new, names.key, if_pos rfl]
        exact here

theorem allocate_run {run : AllocationRun} {allocations : List AllocationInput}
    (ok : allocations.foldlM (allocate input moneyMode lines) ⟨.empty, [], []⟩ = .ok run)
    (quiet : Quiet ctx run.notes) : Allocating input lines allocations run := by
  have held := Fold.foldlM_invariant ok
    (motive := fun done run => Quiet ctx run.notes → Allocating input lines done run)
  apply held
  · intro _
    refine ⟨.nil, fun _ => rfl, ?_⟩
    intro row member
    cases member
  · intro done a before after _ kept here quietAfter
    obtain ⟨more, notes⟩ := allocate_notes here
    rw [notes] at quietAfter
    have quietBefore := (quiet_append.mp quietAfter).1
    rw [← notes] at quietAfter
    obtain ⟨row, takes⟩ := allocate_takes here quietAfter
    exact (kept quietBefore).take takes
  · exact quiet

end ErpServer.Vouchers

namespace ErpServer.Vouchers

open Lib
open Receipt (Decimal DrCr Figure money money_mem money_of_mem paise)

/-! ## The lines allocations name

Every leg on a party is one party line, under the leg's number, for the leg's amount; no two
lines share a row or a number. -/

variable {cases : Text.CaseMapping} {input : DeriveInput}

/-- A leg on a party: the party leg, or a typed line on a party of a voucher with several. -/
def isPartyLeg (type : VoucherTypeRules) (leg : InternalLeg) : Bool :=
  leg.source = .PARTY || (type.partyMode = .MANY && leg.source = .TYPED &&
    leg.ledger.facts.any fun facts => facts.isParty || facts.isBillByBill)

/-- The line of a leg on a party. -/
structure LineOf (line : PartyLine) (leg : InternalLeg) : Prop where
  rowNo : line.legRowNo = leg.rowNo
  amount : line.amount = leg.amount
  side : line.side = leg.drCr
  facts : leg.ledger.facts = some line.ledger

/-! ## No two lines share a row -/

/-- The lines of a voucher with several parties. -/
def typedPartyLines (typed : List TypedLeg) : List PartyLine :=
  (typed.zipIdx.filter fun entry =>
    entry.1.ledger.isParty || entry.1.ledger.isBillByBill).map fun entry =>
      ⟨entry.1.lineRowNo, entry.2 + 1, entry.1.ledger, entry.1.drCr, entry.1.amount,
        entry.1.instrument⟩

theorem partyLines_cases (type : VoucherTypeRules) (party : Option DerivedParty)
    (typed : List TypedLeg) :
    (∃ only, party = some only ∧ partyLines type party typed =
        [⟨0, only.rowNo, only.ledger, only.side, only.amount, none⟩]) ∨
      (party = none ∧ type.partyMode = .MANY ∧
        partyLines type party typed = typedPartyLines typed) ∨
      partyLines type party typed = [] := by
  cases party with
  | some only => exact Or.inl ⟨only, rfl, rfl⟩
  | none =>
      by_cases many : type.partyMode = .MANY
      · exact Or.inr (Or.inl ⟨rfl, many, if_pos many⟩)
      · exact Or.inr (Or.inr (if_neg many))

variable {typed : List TypedLeg}

theorem typedPartyLines_rows (nodup : (typed.map (·.lineRowNo)).Nodup) :
    ((typedPartyLines typed).map (·.lineRowNo)).Nodup := by
  have rows : (typed.zipIdx.map fun entry => entry.1.lineRowNo) = typed.map (·.lineRowNo) := by
    conv_rhs => rw [← List.zipIdx_map_fst 0 typed, List.map_map]
    rfl
  rw [typedPartyLines, List.map_map]
  rw [← rows] at nodup
  exact nodup.sublist (List.filter_sublist.map _)

theorem typedPartyLines_numbers (typed : List TypedLeg) :
    ((typedPartyLines typed).map (·.legRowNo)).Nodup := by
  have numbers : (typed.zipIdx.map fun entry => entry.2 + 1) = List.range' 1 typed.length := by
    apply List.ext_getElem
    · simp
    · intro index _ _
      simp [Nat.add_comm]
  rw [typedPartyLines, List.map_map]
  have nodup : (typed.zipIdx.map fun entry => entry.2 + 1).Nodup := by
    rw [numbers]
    exact List.nodup_range'
  exact nodup.sublist (List.filter_sublist.map _)

theorem partyLines_nodup {type : VoucherTypeRules} {party : Option DerivedParty}
    {typed : List TypedLeg} (nodup : (typed.map (·.lineRowNo)).Nodup) :
    ((partyLines type party typed).map (·.lineRowNo)).Nodup ∧
      ((partyLines type party typed).map (·.legRowNo)).Nodup := by
  rcases partyLines_cases type party typed with ⟨only, _, single⟩ | ⟨_, _, several⟩ | none
  · rw [single]
    exact ⟨List.nodup_singleton _, List.nodup_singleton _⟩
  · rw [several]
    exact ⟨typedPartyLines_rows nodup, typedPartyLines_numbers typed⟩
  · rw [none]
    exact ⟨List.nodup_nil, List.nodup_nil⟩

/-- A line's amount is of two places. -/
theorem partyLines_exact {read : PartyRead} {legs : List InternalLeg} {type : VoucherTypeRules}
    (exact : ∀ leg ∈ typed, leg.amount ∈ paise) {line : PartyLine}
    (member : line ∈ partyLines type (balanceParty read typed legs).party typed) :
    line.amount ∈ paise := by
  rcases partyLines_cases type (balanceParty read typed legs).party typed with
    ⟨only, isParty, single⟩ | ⟨_, _, several⟩ | none
  · rw [single, List.mem_singleton] at member
    rw [member]
    rw [balanceParty] at isParty
    split at isParty
    · simp only at isParty
      split at isParty
      · cases isParty
      · cases isParty
        exact money_mem _
    · cases isParty
  · rw [several, typedPartyLines] at member
    obtain ⟨entry, entryMember, rfl⟩ := List.mem_map.mp member
    have inTyped := List.fst_mem_of_mem_zipIdx (List.mem_of_mem_filter entryMember)
    exact exact _ inTyped
  · rw [none] at member
    cases member

/-! ## Every leg on a party has a line -/

section Legs

variable {one : TdsOne} {many : TdsRun}

/-- Without a header party nothing is balanced. -/
theorem balancing_many (several : input.type.partyMode = .MANY) :
    (bandsOf cases input one many).balancing.party = none ∧
      (bandsOf cases input one many).balancing.legs = [] := by
  have unread : (readParty cases input).party = none := by
    rw [readParty, several]
    rfl
  rw [Bands.balancing, balanceParty]
  split
  · next party side isParty isSide =>
      rw [show (bandsOf cases input one many).read = readParty cases input from rfl,
        unread] at isParty
      cases isParty
  · exact ⟨rfl, rfl⟩

variable {leg : InternalLeg}

/-- The typed leg of a party's line. -/
theorem lineOf_typed {typed : List TypedLeg} {index : ℕ} (within : index < typed.length)
    (number : leg.rowNo = index + 1) (bare : leg.bare = (typed.get ⟨index, within⟩).toLeg.bare)
    (onParty : (leg.ledger.facts.any fun facts => facts.isParty || facts.isBillByBill) = true) :
    ∃ line ∈ typedPartyLines typed, LineOf line leg := by
  have facts : leg.ledger.facts = some (typed.get ⟨index, within⟩).ledger :=
    congrArg (fun leg : InternalLeg => leg.ledger.facts) bare
  rw [facts, Option.any_some] at onParty
  refine ⟨⟨(typed.get ⟨index, within⟩).lineRowNo, index + 1, (typed.get ⟨index, within⟩).ledger,
    (typed.get ⟨index, within⟩).drCr, (typed.get ⟨index, within⟩).amount,
    (typed.get ⟨index, within⟩).instrument⟩, ?_, ?_⟩
  · rw [typedPartyLines]
    apply List.mem_map.mpr
    refine ⟨(typed.get ⟨index, within⟩, index), ?_, rfl⟩
    rw [List.mem_filter]
    refine ⟨?_, onParty⟩
    rw [List.mem_zipIdx_iff_getElem?]
    exact List.getElem?_eq_getElem within
  · exact ⟨number.symm, (congrArg InternalLeg.amount bare).symm,
      (congrArg InternalLeg.drCr bare).symm, facts⟩

/-- The leg of the party, which is the last. -/
theorem lineOf_party (number : leg.rowNo = (bandsOf cases input one many).legs.length + 1)
    {made : InternalLeg} (isLast : made ∈ (bandsOf cases input one many).balancing.legs)
    (bare : leg.bare = made.bare) :
    ∃ line ∈ (bandsOf cases input one many).lines input.type, LineOf line leg := by
  rw [Bands.lines]
  rw [Bands.balancing, balanceParty] at isLast ⊢
  split at isLast
  · next party side isParty isSide =>
      simp only at isLast
      split at isLast
      · cases isLast
      · next left =>
          rw [List.mem_singleton] at isLast
          rw [isLast] at bare
          simp only [if_neg left]
          refine ⟨_, List.mem_singleton.mpr rfl, number.symm, ?_, ?_, ?_⟩
          · exact (congrArg InternalLeg.amount bare).symm
          · exact (congrArg InternalLeg.drCr bare).symm
          · exact congrArg (fun leg : InternalLeg => leg.ledger.facts) bare
  · cases isLast

theorem lineOf_partyLeg (oneCredits : CreditsOfTax one.legs) (manyCredits : CreditsOfTax many.legs)
    (member : leg ∈ (bandsOf cases input one many).voucherLegs input.type)
    (isParty : isPartyLeg input.type leg = true) :
    ∃ line ∈ (bandsOf cases input one many).lines input.type, LineOf line leg := by
  obtain ⟨index, within, number, bare⟩ := mem_voucherLegs member
  have generated := @generatedLegs_source cases input one many oneCredits manyCredits
  have shape : (bandsOf cases input one many).allLegs = many.typed.map TypedLeg.toLeg ++
      (generatedLegs cases input one many ++ (bandsOf cases input one many).balancing.legs) := by
    rw [Bands.allLegs, bandsOf_legs, List.append_assoc]
  have length : (bandsOf cases input one many).legs.length =
      (many.typed.map TypedLeg.toLeg).length + (generatedLegs cases input one many).length := by
    rw [bandsOf_legs, List.length_append]
  have found := List.getElem?_eq_getElem within
  have source := congrArg InternalLeg.source bare
  change leg.source = ((bandsOf cases input one many).allLegs.get ⟨index, within⟩).source at source
  rw [List.get_eq_getElem] at source bare
  generalize (bandsOf cases input one many).allLegs[index] = made at found source bare
  rw [shape, List.getElem?_append] at found
  simp only [isPartyLeg, Bool.or_eq_true, Bool.and_eq_true, decide_eq_true_eq] at isParty
  split at found
  · next early =>
      -- a typed leg
      have isTyped : made.source = .TYPED := toLeg_source _ (List.mem_of_getElem? found)
      rw [source, isTyped] at isParty
      obtain absurdParty | ⟨⟨several, _⟩, onParty⟩ := isParty
      · cases absurdParty
      · rw [Bands.lines, (balancing_many several).1, partyLines, if_pos several]
        rw [List.length_map] at early
        rw [List.getElem?_map, List.getElem?_eq_getElem early, Option.map_some] at found
        have same := congrArg InternalLeg.bare (Option.some.inj found).symm
        exact lineOf_typed early number (bare.trans same) onParty
  · rw [List.getElem?_append] at found
    split at found
    · have isGenerated := generated (List.mem_of_getElem? found)
      rw [source] at isParty
      obtain isPartys | ⟨⟨_, isTyped⟩, _⟩ := isParty
      · exact absurd isPartys isGenerated.2
      · exact absurd isTyped isGenerated.1
    · next late later =>
        have isLast := List.mem_of_getElem? found
        have single : (bandsOf cases input one many).balancing.legs.length ≤ 1 := by
          rw [Bands.balancing, balanceParty]
          split
          · simp only
            split
            · exact Nat.zero_le _
            · exact le_rfl
          · exact Nat.zero_le _
        have first := (List.getElem?_eq_some_iff.mp found).1
        apply lineOf_party _ isLast bare
        rw [number, length]
        omega

end Legs

end ErpServer.Vouchers
