import ErpServer.Loyalty.Histories

/-!
# Undoing a document

The rows that undo a document: an award is retired as far as its lot still holds it, a
draw is given back to the lot it came from, and neither is undone twice.
-/

namespace ErpServer.Loyalty

open Lib
open Receipt (Decimal)

/-- What is taken back with an award, or given back with a draw. -/
inductive Returned (o : LedgerRow) (row : LoyaltyLedgerRowInput) : Prop where
  | award (type : o.txnType = .EARN) (noLot : row.lot = none) (takes : row.points ≤ 0)
      (within : -max 0 o.lotBalance ≤ row.points)
  | draw (type : o.txnType ∉ LOYALTY_LOT_TXN_TYPES) (names : row.lot = o.lot)
      (amount : row.points = -o.points)

/-- A row that undoes a row no other row undoes. -/
structure Undoes (wallets : Wallets) (o : LedgerRow) (row : LoyaltyLedgerRowInput) : Prop where
  member : o ∈ wallets.ledger
  original : o.reversalOf = none
  fresh : isReversed wallets o.lldId = false
  reverses : row.reversalOf = some o.key
  same : row.memberId = o.memberId
  type : row.txnType = o.txnType
  returned : Returned o row

section Undoes

variable {wallets : Wallets} (sound : Sound wallets)

include sound

variable {o : LedgerRow} {row : LoyaltyLedgerRowInput}

/-- A row that was awarded opened a lot. -/
theorem Sound.isLot_of_award (member : o ∈ wallets.ledger) (original : o.reversalOf = none)
    (type : o.txnType = .EARN) : IsLot o.toLoyaltyLedgerRowInput := by
  cases sound.kind member with
  | opens isLot => exact isLot
  | draws lot lotMember isLot names same spends _ other => exact (other type).elim
  | restores lot draw lotMember isLot names same drawMember drawNames drawOriginal reverses =>
      rw [original] at reverses
      cases reverses
  | retires lot lotMember isLot names same reverses =>
      rw [original] at reverses
      cases reverses

/-- A row that was drawn names its lot. -/
theorem Sound.lot_of_draw (member : o ∈ wallets.ledger) (original : o.reversalOf = none)
    (type : o.txnType ∉ LOYALTY_LOT_TXN_TYPES) :
    ∃ lot ∈ wallets.entries, IsLot lot.toLoyaltyLedgerRowInput ∧ o.lot = some lot.key ∧
      o.memberId = lot.memberId ∧ o.points < 0 := by
  cases sound.kind member with
  | opens isLot => exact (type isLot.type).elim
  | draws lot lotMember isLot names same spends => exact ⟨lot, lotMember, isLot, names, same, spends⟩
  | restores lot draw lotMember isLot names same drawMember drawNames drawOriginal reverses =>
      rw [original] at reverses
      cases reverses
  | retires lot lotMember isLot names same reverses =>
      rw [original] at reverses
      cases reverses

/-- Storing a reversal at four places changes nothing about it. -/
theorem Undoes.stored (undoes : Undoes wallets o row) : Undoes wallets o (stored row) := by
  refine ⟨undoes.member, undoes.original, undoes.fresh, undoes.reverses, undoes.same, undoes.type,
    ?_⟩
  cases undoes.returned with
  | award type noLot takes within =>
      have isLot := sound.isLot_of_award undoes.member undoes.original type
      have nonneg := sound.lotBalance_nonneg undoes.member isLot
      rw [max_eq_right nonneg] at within
      have kept := Grid.halfUp_le_of_mem fourPlaces_pos (neg_nonneg.mpr takes)
        (neg_le.mp within) (sound.lotBalance_mem undoes.member isLot)
      have positive := Grid.halfUp_nonneg fourPlaces_pos (neg_nonneg.mpr takes)
      rw [Grid.halfUp_neg] at kept positive
      refine Returned.award type noLot ?_ ?_
      · exact neg_nonneg.mp positive
      · rw [max_eq_right nonneg]
        exact neg_le.mp kept
  | draw type names amount =>
      refine Returned.draw type names ?_
      have exact := sound.entries.exact _ (mem_entries undoes.member)
      have kept := Grid.halfUp_of_mem fourPlaces_pos (neg_mem exact)
      change round4 row.points = _
      rw [amount]
      exact kept

/-- A reversal is a lot taken back, or a draw given back. -/
theorem Undoes.kind (undoes : Undoes wallets o row) (nonzero : row.points ≠ 0) :
    Kind wallets.entries row := by
  cases undoes.returned with
  | award type noLot takes =>
      have isLot := sound.isLot_of_award undoes.member undoes.original type
      exact .retires o.toLedgerEntry (mem_entries undoes.member) isLot noLot undoes.same
        undoes.reverses (lt_of_le_of_ne takes nonzero) (undoes.type.trans type)
  | draw type names amount =>
      obtain ⟨lot, lotMember, isLot, drawn, same, spends⟩ :=
        sound.lot_of_draw undoes.member undoes.original type
      have gives : 0 < row.points := by
        rw [amount]
        exact neg_pos.mpr spends
      have otherType : row.txnType ∉ LOYALTY_LOT_TXN_TYPES := by
        rw [undoes.type]
        exact type
      exact .restores lot o.toLedgerEntry lotMember isLot (names.trans drawn)
        (undoes.same.trans same) (mem_entries undoes.member) drawn undoes.original undoes.reverses
        gives amount otherType

/-- Only the award of a lot takes from the lot, and no more than the lot has left. -/
theorem Undoes.against_lot (undoes : Undoes wallets o row) {lot : LedgerEntry}
    (lotMember : lot ∈ wallets.entries) (owner : ownerOf row = some lot.key) :
    0 ≤ row.points ∨ o.toLedgerEntry = lot ∧
      -(lot.points - consumedFrom wallets.entries lot.key) ≤ row.points := by
  cases undoes.returned with
  | award type noLot takes within =>
      right
      have isLot := sound.isLot_of_award undoes.member undoes.original type
      rw [ownerOf, noLot, Option.none_or, undoes.reverses] at owner
      have equal := sound.entries.eq_of_id (mem_entries undoes.member) lotMember
        (congrArg LoyaltyLotKey.lotId (Option.some.inj owner))
      refine ⟨equal, ?_⟩
      rw [max_eq_right (sound.lotBalance_nonneg undoes.member isLot),
        sound.lotBalance_eq undoes.member isLot] at within
      rw [← equal]
      exact within
  | draw type names amount =>
      left
      obtain ⟨_, _, _, _, _, spends⟩ := sound.lot_of_draw undoes.member undoes.original type
      rw [amount]
      exact (neg_pos.mpr spends).le

variable {rows : List LoyaltyLedgerRowInput}

/-- Reversals of different rows fit. -/
theorem fits_of_undoes (nonzero : ∀ row ∈ rows, row.points ≠ 0)
    (distinct : (rows.map reversedId).Nodup) (undoes : ∀ row ∈ rows, ∃ o, Undoes wallets o row) :
    Fits wallets.entries rows := by
  rw [List.Nodup, List.pairwise_map] at distinct
  constructor
  · intro row member
    obtain ⟨o, undone⟩ := undoes row member
    exact undone.kind sound (nonzero row member)
  · intro row member _ entry entryMember same
    obtain ⟨o, undone⟩ := undoes row member
    obtain ⟨other, otherMember, rfl⟩ := List.mem_map.mp entryMember
    have fresh := undone.fresh
    unfold isReversed at fresh
    rw [List.any_eq_false] at fresh
    apply fresh other otherMember
    rw [decide_eq_true_eq]
    have id : reversedId row = some o.lldId := by
      rw [reversedId, undone.reverses]
      rfl
    exact same.trans id
  · apply distinct.imp
    intro earlier later different _
    exact different
  · intro lot lotMember isLot
    apply sound.gives lotMember isLot
    · intro row member owner
      obtain ⟨o, undone⟩ := undoes row member
      rcases undone.against_lot sound lotMember owner with gives | ⟨-, within⟩
      · exact (neg_nonpos.mpr (sub_nonneg.mpr (sound.left lot lotMember isLot))).trans gives
      · exact within
    · apply (distinct.sublist List.filter_sublist).imp_of_mem
      intro earlier later earlierMember laterMember different
      rw [List.mem_filter, decide_eq_true_eq] at earlierMember laterMember
      obtain ⟨earlierO, earlierUndone⟩ := undoes earlier earlierMember.1
      obtain ⟨laterO, laterUndone⟩ := undoes later laterMember.1
      rcases earlierUndone.against_lot sound lotMember earlierMember.2 with gives | ⟨first, -⟩
      · exact Or.inl gives
      rcases laterUndone.against_lot sound lotMember laterMember.2 with gives | ⟨second, -⟩
      · exact Or.inr gives
      -- Both would take the one lot back.
      have key : earlierO.key = laterO.key := congrArg LedgerEntry.key (first.trans second.symm)
      rw [reversedId, reversedId, earlierUndone.reverses, laterUndone.reverses, key] at different
      exact (different rfl).elim

/-- The batch of some reversals keeps the ledger sound. -/
theorem undoes_sound {after : Wallets} (distinct : (rows.map reversedId).Nodup)
    (undoes : ∀ row ∈ rows, ∃ o, Undoes wallets o row)
    (written : writeLedgerRows wallets rows = .ok after) : Sound after := by
  apply batch_sound sound _ undoes _ written
  · rintro row ⟨o, undone⟩
    exact ⟨o, undone.stored sound⟩
  · intro nonzero undone
    apply fits_of_undoes sound nonzero _ undone
    rw [List.map_map]
    exact distinct

end Undoes

/-! ## The rows a document is undone with -/

variable {row : LoyaltyLedgerRowInput} {doc : ReversedDoc} {wallets : Wallets}

variable {o : LedgerRow} {after : Wallets}

theorem reversalOf?_reverses (reversed : reversalOf? doc o = some row) :
    row.reversalOf = some o.key := by
  unfold reversalOf? at reversed
  dsimp only at reversed
  split at reversed
  · split at reversed
    · cases reversed
    · cases reversed
      rfl
  · cases reversed
    rfl
  · cases reversed
    rfl
  · cases reversed

theorem reversalOf?_undoes (member : o ∈ wallets.ledger) (original : o.reversalOf = none)
    (fresh : isReversed wallets o.lldId = false) (reversed : reversalOf? doc o = some row) :
    Undoes wallets o row := by
  have reverses := reversalOf?_reverses reversed
  unfold reversalOf? at reversed
  dsimp only at reversed
  split at reversed
  · next earned =>
      split at reversed
      · cases reversed
      · next takes =>
          cases reversed
          refine ⟨member, original, fresh, reverses, rfl, rfl, .award earned rfl ?_ ?_⟩
          · exact neg_nonpos.mpr (not_le.mp takes).le
          · exact neg_le_neg (min_le_right _ _)
  · next redeemed =>
      cases reversed
      refine ⟨member, original, fresh, reverses, rfl, rfl, .draw ?_ rfl rfl⟩
      rw [redeemed]
      decide
  · next gifted =>
      cases reversed
      refine ⟨member, original, fresh, reverses, rfl, rfl, .draw ?_ rfl rfl⟩
      rw [gifted]
      decide
  · cases reversed

/-- Numbering rows changes nothing else about them. -/
theorem mem_numberOn {next : LoyaltyTxnType → ℕ} {rows : List LoyaltyLedgerRowInput}
    (member : row ∈ numberOn next rows) :
    ∃ input ∈ rows, ∃ rowNo, row = { input with rowNo := rowNo } := by
  induction rows generalizing next with
  | nil => cases member
  | cons input rest ih =>
      rcases List.mem_cons.mp member with rfl | later
      · exact ⟨input, List.mem_cons_self, _, rfl⟩
      · obtain ⟨other, otherMember, found⟩ := ih later
        exact ⟨other, List.mem_cons_of_mem _ otherMember, found⟩

theorem reversedIds_numberOn (next : LoyaltyTxnType → ℕ) (rows : List LoyaltyLedgerRowInput) :
    (numberOn next rows).map reversedId = rows.map reversedId := by
  induction rows generalizing next with
  | nil => rfl
  | cons input rest ih =>
      rw [numberOn, List.map_cons, ih]
      rfl

/-- Each row is reversed at most once. -/
theorem reversedIds_filterMap (doc : ReversedDoc) (rows : List LedgerRow) :
    ((rows.filterMap (reversalOf? doc)).map reversedId).Sublist
      (rows.map fun o => some o.lldId) := by
  induction rows with
  | nil => exact List.Sublist.slnil
  | cons o rest ih =>
      cases reversed : reversalOf? doc o with
      | none =>
          rw [List.filterMap_cons_none reversed]
          exact ih.cons _
      | some row =>
          have id : reversedId row = some o.lldId := by
            rw [reversedId, reversalOf?_reverses reversed]
            rfl
          rw [List.filterMap_cons_some reversed, List.map_cons, List.map_cons, id]
          exact ih.cons_cons _

theorem reverseRows_sound {rows : List LedgerRow} (sound : Sound wallets)
    (member : ∀ o ∈ rows, o ∈ wallets.ledger) (original : ∀ o ∈ rows, o.reversalOf = none)
    (distinct : (rows.map fun o => some o.lldId).Nodup)
    (moved : reverseRows wallets doc rows = .ok after) : Sound after := by
  unfold reverseRows at moved
  apply undoes_sound sound _ _ moved
  · rw [reversedIds_numberOn]
    have once := (reversedIds_filterMap doc (rows.filter fun o => !isReversed wallets o.lldId)).trans
      (List.filter_sublist.map _)
    exact once.nodup distinct
  · intro row rowMember
    obtain ⟨input, inputMember, rowNo, rfl⟩ := mem_numberOn rowMember
    obtain ⟨o, oMember, reversed⟩ := List.mem_filterMap.mp inputMember
    rw [List.mem_filter, Bool.not_eq_true'] at oMember
    have undoes := reversalOf?_undoes (member o oMember.1) (original o oMember.1) oMember.2 reversed
    refine ⟨o, undoes.member, undoes.original, undoes.fresh, undoes.reverses, undoes.same,
      undoes.type, ?_⟩
    cases undoes.returned with
    | award type noLot takes within => exact .award type noLot takes within
    | draw type names amount => exact .draw type names amount

theorem originals_sound {src : SrcDoc} {also : LedgerRow → Bool} (sound : Sound wallets)
    (moved : reverseRows wallets doc (originals wallets src also) = .ok after) : Sound after := by
  have ofOriginals {o : LedgerRow} (member : o ∈ originals wallets src also) :
      o ∈ wallets.ledger ∧ o.reversalOf = none := by
    unfold originals at member
    rw [List.mem_insertionSort, List.mem_filter, Bool.and_eq_true, Bool.and_eq_true,
      decide_eq_true_eq, decide_eq_true_eq] at member
    exact ⟨member.1, member.2.1.2⟩
  apply reverseRows_sound sound _ _ _ moved
  · intro o member
    exact (ofOriginals member).1
  · intro o member
    exact (ofOriginals member).2
  · have ids := sound.ids_nodup.map (Option.some_injective ℕ)
    rw [List.map_map] at ids
    unfold originals
    rw [((List.perm_insertionSort _ _).map _).nodup_iff]
    exact (List.filter_sublist.map _).nodup ids

end ErpServer.Loyalty
