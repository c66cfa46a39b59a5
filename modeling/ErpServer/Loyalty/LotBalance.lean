import ErpServer.Loyalty.Soundness

/-!
# Wallets and their lots

Every movement leaves the ledger sound.  In sound wallets a lot holds between nothing
and what it was opened with, and a wallet holds what its lots hold.
-/

namespace ErpServer.Loyalty

open Lib
open Receipt (Decimal)

/-- A row that opened a lot. -/
def opensLot (row : LoyaltyLedgerRowInput) : Bool :=
  row.txnType ∈ LOYALTY_LOT_TXN_TYPES && 0 < row.points

variable {wallets : Wallets} {member : LoyaltyMember}

theorem mem_entries {row : LedgerRow} (member : row ∈ wallets.ledger) :
    row.toLedgerEntry ∈ wallets.entries := List.mem_map_of_mem member

/-! ## The balance of a lot -/

section Lots

variable {wallets : Wallets} (sound : Sound wallets)

include sound

variable {row : LedgerRow}

theorem Sound.kind (member : row ∈ wallets.ledger) :
    Kind wallets.entries row.toLoyaltyLedgerRowInput :=
  sound.entries.kinds _ (mem_entries member)

theorem Sound.isLot (member : row ∈ wallets.ledger)
    (opens : opensLot row.toLoyaltyLedgerRowInput = true) : IsLot row.toLoyaltyLedgerRowInput := by
  unfold opensLot at opens
  rw [Bool.and_eq_true, decide_eq_true_eq, decide_eq_true_eq] at opens
  exact (sound.kind member).isLot opens.1 opens.2

theorem Sound.lotBalance_eq (member : row ∈ wallets.ledger)
    (isLot : IsLot row.toLoyaltyLedgerRowInput) :
    row.lotBalance = row.points - consumedFrom wallets.entries row.key := by
  unfold LedgerRow.lotBalance
  rw [if_pos isLot.opens, sound.consumed row member isLot]

theorem Sound.lotBalance_nonneg (member : row ∈ wallets.ledger)
    (isLot : IsLot row.toLoyaltyLedgerRowInput) : 0 ≤ row.lotBalance := by
  rw [sound.lotBalance_eq member isLot]
  exact sub_nonneg.mpr (sound.left _ (mem_entries member) isLot)

theorem Sound.lotBalance_le (member : row ∈ wallets.ledger)
    (isLot : IsLot row.toLoyaltyLedgerRowInput) : row.lotBalance ≤ row.points := by
  have entry := mem_entries member
  have most := sound.entries.against_nonpos row.toLedgerEntry
  have drawn := sound.entries.consumedFrom_eq entry isLot
  rw [sound.lotBalance_eq member isLot]
  have key : row.key = row.toLedgerEntry.key := rfl
  rw [key, drawn]
  linarith

theorem Sound.against_mem (key : LoyaltyLotKey) :
    against (inputs wallets.entries) key ∈ fourPlaces := by
  apply list_sum_mem
  intro points member
  obtain ⟨row, rowMember, rfl⟩ := List.mem_map.mp member
  obtain ⟨entry, entryMember, rfl⟩ := List.mem_map.mp (List.mem_of_mem_filter rowMember)
  exact sound.entries.exact entry entryMember

theorem Sound.lotBalance_mem (member : row ∈ wallets.ledger)
    (isLot : IsLot row.toLoyaltyLedgerRowInput) : row.lotBalance ∈ fourPlaces := by
  have entry := mem_entries member
  rw [sound.lotBalance_eq member isLot]
  apply sub_mem (sound.entries.exact _ entry)
  have key : row.key = row.toLedgerEntry.key := rfl
  rw [key, sound.entries.consumedFrom_eq entry isLot]
  exact neg_mem (sound.against_mem _)

/-- What a wallet can spend are lots of its own. -/
theorem Sound.isLot_of_open {memberId : String} (member : row ∈ wallets.ledger)
    (isOpen : isOpenLot memberId row = true) :
    IsLot row.toLoyaltyLedgerRowInput ∧ row.memberId = memberId := by
  unfold isOpenLot at isOpen
  rw [Bool.and_eq_true, Bool.and_eq_true, decide_eq_true_eq, decide_eq_true_eq,
    decide_eq_true_eq] at isOpen
  obtain ⟨⟨own, type⟩, more⟩ := isOpen
  refine ⟨(sound.kind member).isLot type ?_, own⟩
  by_contra nonpos
  rw [LedgerRow.lotBalance, if_neg nonpos] at more
  exact lt_irrefl _ more

theorem Sound.ids_nodup : (wallets.ledger.map fun row => row.lldId).Nodup := by
  have range := sound.entries.ids
  unfold Wallets.entries at range
  rw [List.map_map] at range
  exact range ▸ List.nodup_range

theorem Sound.keys_nodup : (wallets.ledger.map fun row => row.key).Nodup := by
  have ids := sound.ids_nodup
  apply List.Nodup.of_map LoyaltyLotKey.lotId
  rw [List.map_map]
  exact ids

end Lots

/-! ## The balance of a wallet -/

theorem pointsOf_cons (entry : LedgerEntry) (rest : List LedgerEntry) (memberId : String)
    (types : List LoyaltyTxnType) :
    pointsOf (entry :: rest) memberId types =
      (if entry.memberId = memberId ∧ entry.txnType ∈ types then entry.points else 0) +
        pointsOf rest memberId types := by
  unfold pointsOf
  by_cases counts : entry.memberId = memberId ∧ entry.txnType ∈ types
  · rw [List.filter_cons_of_pos (by simpa using counts), List.map_cons, List.sum_cons,
      if_pos counts]
  · rw [List.filter_cons_of_neg (by simpa using counts), if_neg counts, zero_add]

/-- The buckets take every type in, each once. -/
theorem sum_buckets (entries : List LedgerEntry) (memberId : String) :
    pointsOf entries memberId [.EARN, .OPENING] + pointsOf entries memberId [.ADJUST, .TRANSFER] +
        pointsOf entries memberId [.REDEEM] + pointsOf entries memberId [.EXPIRE] +
        pointsOf entries memberId [.GIFT] =
      ((entries.filter fun entry => entry.memberId = memberId).map fun entry => entry.points).sum := by
  induction entries with
  | nil => simp [pointsOf]
  | cons entry rest ih =>
      simp only [pointsOf_cons]
      by_cases own : entry.memberId = memberId
      · have counted : ((entry :: rest).filter fun other => other.memberId = memberId) =
            entry :: rest.filter fun other => other.memberId = memberId :=
          List.filter_cons_of_pos (decide_eq_true own)
        rw [counted, List.map_cons, List.sum_cons, ← ih]
        cases type : entry.txnType
        all_goals
          simp only [own, true_and, List.mem_cons, List.not_mem_nil, or_false, reduceCtorEq,
            or_true, ↓reduceIte]
          ring
      · have skipped : ((entry :: rest).filter fun other => other.memberId = memberId) =
            rest.filter fun other => other.memberId = memberId :=
          List.filter_cons_of_neg fun same => own (of_decide_eq_true same)
        rw [skipped, ← ih]
        simp only [own, false_and, ↓reduceIte, zero_add]

theorem balancePoints_eq (sound : Sound wallets) (memberOf : member ∈ wallets.members) :
    member.balancePoints = ((wallets.entries.filter fun entry =>
      entry.memberId = member.lmbId).map fun entry => entry.points).sum := by
  have buckets := sound.buckets member memberOf
  rw [← sum_buckets]
  conv_lhs => rw [← buckets]
  unfold LoyaltyMember.balancePoints LoyaltyMember.recompute
  ring

/-- A wallet holds what its lots hold. -/
theorem balance_eq_lots (sound : Sound wallets) (memberOf : member ∈ wallets.members) :
    member.balancePoints = ((wallets.ledger.filter fun row =>
      row.memberId = member.lmbId && opensLot row.toLoyaltyLedgerRowInput).map
        LedgerRow.lotBalance).sum := by
  set own := wallets.ledger.filter fun row =>
    row.memberId = member.lmbId && opensLot row.toLoyaltyLedgerRowInput with ownEq
  set others := (inputs wallets.entries).filter fun row =>
    row.memberId = member.lmbId && !opensLot row with othersEq
  have ofOwn {row : LedgerRow} (rowMember : row ∈ own) :
      row ∈ wallets.ledger ∧ row.memberId = member.lmbId ∧
        IsLot row.toLoyaltyLedgerRowInput := by
    rw [ownEq, List.mem_filter, Bool.and_eq_true, decide_eq_true_eq] at rowMember
    exact ⟨rowMember.1, rowMember.2.1, sound.isLot rowMember.1 rowMember.2.2⟩
  have kindOf {row : LoyaltyLedgerRowInput} (rowMember : row ∈ inputs wallets.entries) :
      Kind wallets.entries row := by
    obtain ⟨entry, entryMember, rfl⟩ := List.mem_map.mp rowMember
    exact sound.entries.kinds entry entryMember
  have notOpens {row : LoyaltyLedgerRowInput} (rowMember : row ∈ inputs wallets.entries)
      {key : LoyaltyLotKey} (owner : ownerOf row = some key) : opensLot row = false := by
    rw [Bool.eq_false_iff]
    intro opens
    rw [opensLot, Bool.and_eq_true, decide_eq_true_eq, decide_eq_true_eq] at opens
    rw [ownerOf_lot ((kindOf rowMember).isLot opens.1 opens.2)] at owner
    cases owner
  -- The points of the wallet are those of its lots and those that count against them.
  have split : member.balancePoints = (own.map fun row => row.points).sum +
      (others.map fun row => row.points).sum := by
    rw [balancePoints_eq sound memberOf]
    have parts := ListSum.sum_filter_add
      (wallets.entries.filter fun entry => entry.memberId = member.lmbId)
      (fun entry => entry.points) fun entry => opensLot entry.toLoyaltyLedgerRowInput
    rw [← parts, List.filter_filter, List.filter_filter, ownEq, othersEq]
    congr 1
    · unfold Wallets.entries
      rw [List.filter_map, List.map_map]
      congr 2
      apply List.filter_congr
      intro row _
      exact Bool.and_comm _ _
    · unfold inputs
      rw [List.filter_map, List.map_map]
      congr 2
      apply List.filter_congr
      intro row _
      exact Bool.and_comm _ _
  have nodup : (own.map fun row => row.key).Nodup :=
    sound.keys_nodup.sublist (List.filter_sublist.map _)
  have owned : ∀ row ∈ others, ∃ lot ∈ own, ownerOf row = some lot.key := by
    intro row rowMember
    rw [othersEq, List.mem_filter, Bool.and_eq_true, decide_eq_true_eq, Bool.not_eq_true'] at rowMember
    obtain ⟨within, same, closed⟩ := rowMember
    rcases (kindOf within).owned with isLot | ⟨lot, lotMember, isLot, owner, sameMember⟩
    · rw [opensLot, Bool.and_eq_false_iff, decide_eq_false_iff_not, decide_eq_false_iff_not] at closed
      rcases closed with otherType | nothing
      · exact (otherType isLot.type).elim
      · exact (nothing isLot.opens).elim
    · obtain ⟨lotRow, lotRowMember, rfl⟩ := List.mem_map.mp lotMember
      refine ⟨lotRow, ?_, owner⟩
      rw [ownEq, List.mem_filter, Bool.and_eq_true, decide_eq_true_eq]
      refine ⟨lotRowMember, sameMember.symm.trans same, ?_⟩
      rw [opensLot, Bool.and_eq_true, decide_eq_true_eq, decide_eq_true_eq]
      exact ⟨isLot.type, isLot.opens⟩
  have counted := ListSum.sum_by_owner nodup (fun row : LoyaltyLedgerRowInput => row.points) owned
  have each : ∀ row ∈ own, ((others.filter fun other => ownerOf other = some row.key).map
      fun other => other.points).sum = against (inputs wallets.entries) row.key := by
    intro row rowMember
    obtain ⟨within, same, isLot⟩ := ofOwn rowMember
    unfold against
    rw [othersEq, List.filter_filter]
    congr 2
    apply List.filter_congr
    intro other otherMember
    rw [Bool.eq_iff_iff, Bool.and_eq_true, decide_eq_true_eq]
    constructor
    · exact fun both => both.1
    · intro owner
      refine ⟨owner, ?_⟩
      rw [Bool.and_eq_true, decide_eq_true_eq, Bool.not_eq_true']
      refine ⟨?_, notOpens otherMember owner⟩
      rcases (kindOf otherMember).owned with otherLot | ⟨lot, lotMember, -, names, sameMember⟩
      · rw [ownerOf_lot otherLot] at owner
        cases owner
      · rw [names] at owner
        have equal := sound.entries.eq_of_id lotMember (mem_entries within)
          (congrArg LoyaltyLotKey.lotId (Option.some.inj owner))
        rw [sameMember, equal]
        exact same
  rw [split, counted, ← List.sum_map_add]
  congr 1
  apply List.map_congr_left
  intro row rowMember
  obtain ⟨within, same, isLot⟩ := ofOwn rowMember
  rw [each row rowMember, sound.lotBalance_eq within isLot]
  have drawn := sound.entries.consumedFrom_eq (mem_entries within) isLot
  have key : row.key = row.toLedgerEntry.key := rfl
  rw [key, drawn]
  ring

/-- A wallet holds what its open lots hold. -/
theorem balance_eq_openLots (sound : Sound wallets) (memberOf : member ∈ wallets.members) :
    member.balancePoints =
      ((wallets.ledger.filter (isOpenLot member.lmbId)).map LedgerRow.lotBalance).sum := by
  rw [balance_eq_lots sound memberOf]
  set own := wallets.ledger.filter fun row =>
    row.memberId = member.lmbId && opensLot row.toLoyaltyLedgerRowInput with ownEq
  have isOpen : wallets.ledger.filter (isOpenLot member.lmbId) =
      own.filter fun row => 0 < row.lotBalance := by
    rw [ownEq, List.filter_filter]
    apply List.filter_congr
    intro row rowMember
    unfold isOpenLot opensLot
    rw [Bool.eq_iff_iff]
    constructor
    · intro holds
      obtain ⟨isLot, -⟩ := sound.isLot_of_open rowMember holds
      have opens := isLot.opens
      simp_all
    · intro holds
      simp_all
  rw [isOpen]
  apply (ListSum.sum_filter_of_zero _).symm
  intro row rowMember nothing
  rw [ownEq, List.mem_filter, Bool.and_eq_true] at rowMember
  have isLot := sound.isLot rowMember.1 rowMember.2.2
  rw [decide_eq_false_iff_not, not_lt] at nothing
  exact le_antisymm nothing (sound.lotBalance_nonneg rowMember.1 isLot)

/-- No more can be spent on any date than the wallet holds. -/
theorem redeemable_le_balance (sound : Sound wallets) (memberOf : member ∈ wallets.members)
    (onDate : Date) : redeemable wallets member.lmbId onDate ≤ member.balancePoints := by
  rw [balance_eq_openLots sound memberOf]
  unfold redeemable
  have spendable : wallets.ledger.filter (isSpendable member.lmbId onDate) =
      (wallets.ledger.filter (isOpenLot member.lmbId)).filter (isSpendable member.lmbId onDate) := by
    rw [List.filter_filter]
    apply List.filter_congr
    intro row _
    unfold isSpendable
    simp only [Bool.and_assoc, Bool.and_comm, Bool.and_self_left]
  rw [spendable]
  apply List.Sublist.sum_le_sum (List.filter_sublist.map _)
  intro points member
  obtain ⟨row, rowMember, rfl⟩ := List.mem_map.mp member
  rw [List.mem_filter] at rowMember
  exact sound.lotBalance_nonneg rowMember.1 (sound.isLot_of_open rowMember.1 rowMember.2).1

end ErpServer.Loyalty
